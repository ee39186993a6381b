import GraphicsBuffers.Proofs.Accounts

/-!
# Entries of the registry

What an entry stands for. In every state that a client can reach, whatever its opener, its backends
and its kernel do, an entry is under the valid key of its own object, which is in use, and has a
reference; the object is marked as imported just if a registration put it there; and the context is
ready (`Client.registry_represents`). So `register` never finds a key taken that it has just found
free, nor misses an entry that it has just made or found (`Allocator.Completes`).
-/

namespace GraphicsBuffers

/-! ## Within a registration -/

namespace Allocator

/-- Once `register` has a card with its backend, its insertion and its last look-up succeed. -/
structure Completes (a : Allocator) (p : Process) (r : Ready) (d : Descriptor) (key : MemoryRef) :
    Prop where
  /-- An entry that is there is found again. -/
  acquires : a.registry.contains key → ((Registry.acquire key).run a.registry p).1.1.isSome
  /-- What is imported is entered under its key, and then found. -/
  inserts : a.registry.contains key = false → ∀ o a' p',
    (attempt (BufferObject.importFrom r.backend r.card d)).run.run a p = ((.ok o, a'), p') →
    ∃ registry,
      (Registry.insert p'.nextObject).run.run a'.registry (p'.adopted o) =
        ((.ok key, registry), p'.adopted o) ∧
      ((Registry.acquire key).run registry (p'.adopted o)).1.1 = some p'.nextObject

variable {a a' : Allocator} {p p' : Process} {r : Ready} {d : Descriptor} {key : MemoryRef}

theorem completes (a : Allocator) (p : Process) (r : Ready) (keyed : d.key? = some key) :
    a.Completes p r d key where
  acquires known := by
    obtain ⟨e, known⟩ := Option.isSome_iff_exists.1 known
    rw [Registry.acquire_run, known]
    rfl
  inserts free o a' p' made := by
    obtain ⟨born, rfl, -⟩ : _ ∧ _ ∧ a'.books p' [] = a.books p [] := attempt_books made
    obtain ⟨-, descriptor⟩ := BufferObject.importFrom_fresh born
    have object : (p'.adopted o).object? p'.nextObject = some o := by
      simp [Process.object?, Process.adopted]
    refine ⟨⟨a'.registry.entries.insert key ⟨p'.nextObject, 1⟩⟩,
      Registry.insert_run_free _ _ object (descriptor ▸ keyed) free, ?_⟩
    rw [Registry.acquire_run, Table.get?_insert_self]

/-- Given a card and its backend, a registration fails only as its import does. -/
theorem register_outcome (keyed : d.key? = some key)
    (ready : (onContext Context.ready).run.run a p = ((.ok r, a'), p')) :
    ((register d).run.run a p).1.1 = if a'.registry.contains key then .ok ()
      else ((BufferObject.importFrom r.backend r.card d).run p'.host).1.map fun _ => () := by
  have found {a : Allocator} (p : Process) (known : a.registry.contains key) :
      (a.acquired p key).1.1 = .ok () := by
    obtain ⟨e, known⟩ := Option.isSome_iff_exists.1 known
    exact (acquired_books p [] known).1
  rw [register_run, keyed]
  dsimp only
  rw [ready]
  dsimp only
  by_cases known : a'.registry.contains key
  · rw [if_pos known, if_pos known]
    exact found p' known
  · rw [if_neg known, if_neg known, run_attempt]
    rcases made : (BufferObject.importFrom r.backend r.card d).run p'.host with ⟨_ | o, h⟩
    · rfl
    · dsimp only
      obtain ⟨-, descriptor⟩ := BufferObject.importFrom_fresh (congrArg Prod.fst made)
      rw [adopt_run _ _ (descriptor ▸ keyed), if_neg known]
      refine found _ ?_
      rw [Registry.contains, Table.contains, Table.get?_insert_self]
      rfl

end Allocator

/-! ## In every state -/

namespace Client

/-- How an entry came about: `op`, made after `before`, found the key free and registered a new
object under it, and the object has been registered there through all calls since. -/
structure Inserted (c : Client) (before : List Operation) (op : Operation) (after : List Operation)
    (key : MemoryRef) (id : ObjectId) : Prop where
  free : (c.run before).registration? key = none
  new : id = (c.run before).process.nextObject
  succeeds : ((c.run before).step op).1.isOk
  since : ∀ calls, calls <+: after →
    ∃ references, (c.run (before ++ op :: calls)).registration? key = some ⟨id, references⟩

/-- What an entry stands for once a client has made some calls. -/
structure Entry (c : Client) (calls : List Operation) (key : MemoryRef) (e : Registration)
    (s : Shared) : Prop where
  object : (c.run calls).process.objects.get? e.object = some s
  valid : key.isValid
  keyed : s.object.descriptor.key? = some key
  live : s.object.isDestroyed = false
  references : 1 ≤ e.references
  /-- The object is marked as imported just if a registration put it there. -/
  origin : ∃ before op after, calls = before ++ op :: after ∧
    c.Inserted before op after key e.object ∧ (s.object.imported ↔ ∃ d, op = .register d)

/-- The registry of a client that has made some calls represents its objects. -/
structure Represented (c : Client) (calls : List Operation) : Prop where
  entry : ∀ key e, (c.run calls).registration? key = some e → ∃ s, c.Entry calls key e s
  /-- No two entries share an object. -/
  distinct : ∀ key key' e e', (c.run calls).registration? key = some e →
    (c.run calls).registration? key' = some e' → e.object = e'.object → key = key'
  ready : (∃ key e, (c.run calls).registration? key = some e) →
    ∃ a r, (c.run calls).allocator = some a ∧ a.context.state = .ready r
  /-- The insertion and the last look-up of a registration succeed: given a card and its backend, it
  fails only as its import does. -/
  completes : ∀ a d key r a' p', (c.run calls).allocator = some a → d.key? = some key →
    (Allocator.onContext Context.ready).run.run a (c.run calls).process = ((.ok r, a'), p') →
    a'.Completes p' r d key ∧
      ((Allocator.register d).run.run a (c.run calls).process).1.1 =
        if a'.registry.contains key then .ok ()
        else ((BufferObject.importFrom r.backend r.card d).run p'.host).1.map fun _ => ()

theorem Inserts.imported_iff {key : MemoryRef} {op : Operation} {answer : Except Error Reply}
    {imported : Bool} (inserts : Inserts key (op, answer) imported) :
    imported ↔ ∃ d, op = .register d := by
  cases inserts with
  | created => simp
  | imported => simp

theorem Inserts.succeeds {key : MemoryRef} {op : Operation} {answer : Except Error Reply}
    {imported : Bool} (inserts : Inserts key (op, answer) imported) : answer.isOk := by
  cases inserts <;> rfl

variable {c : Client} {key : MemoryRef} {e : Registration}

theorem Account.inserted {before after : List Operation} {op : Operation} {imported : Bool}
    (account : (c.run before).Account op after key imported) :
    c.Inserted before op after key (c.run before).process.nextObject where
  free := account.free
  new := rfl
  succeeds := Inserts.succeeds account.inserts
  since calls earlier := by
    obtain ⟨references, -, -, known⟩ := (account.balanced calls earlier).balanced
    exact ⟨references, run_append .. ▸ known⟩

/-- An entry and its account. -/
theorem entry_of_account (inOrder : c.InOrder) (free : c.registration? key = none)
    {calls : List Operation} (known : (c.run calls).registration? key = some e) :
    ∃ s, c.Entry calls key e s := by
  obtain ⟨references, cell, found, keyed, live⟩ :=
    (inOrder.run calls).consistent.entry key e known
  obtain ⟨s, object, rfl⟩ := Option.map_eq_some_iff.1 found
  have keyed : s.object.descriptor.key? = some key := keyed
  have live : s.object.buffer.isSome := live
  obtain ⟨before, op, after, imported, rfl, account, new⟩ := run_account inOrder free calls known
  obtain ⟨s', object', origin, -⟩ := (account.balanced after (List.prefix_refl _)).inUse
  rw [← run_append, ← new, object, Option.some.injEq] at object'
  subst object'
  refine ⟨s, object, ?_, keyed, ?_, references, before, op, after, rfl, ?_, ?_⟩
  · exact (Option.filter_eq_some_iff.1 keyed).2
  · simp [BufferObject.isDestroyed, live]
  · exact new ▸ account.inserted
  · exact origin ▸ Inserts.imported_iff account.inserts

/-- In every state that a client can reach, the registry represents the objects in use. -/
theorem registry_represents (host : Host) (opener : Opener) (table : BackendTable)
    (calls : List Operation) : (start host opener table).Represented calls := by
  have first := start_inOrder host opener table
  have inOrder := first.run calls
  refine ⟨fun key e known => ?_, fun key key' e e' known known' same => ?_, ?_, ?_⟩
  · exact entry_of_account first rfl known
  · exact inOrder.consistent.key_inj known known' same
  · rintro ⟨key, e, known⟩
    obtain ⟨a, allocator, known⟩ := Option.bind_eq_some_iff.1 known
    obtain ⟨r, ready⟩ := inOrder.started a allocator key e known
    exact ⟨a, r, allocator, ready⟩
  · intro a d key r a' p' _ keyed ready
    exact ⟨Allocator.completes a' p' r keyed, Allocator.register_outcome keyed ready⟩

end Client

end GraphicsBuffers

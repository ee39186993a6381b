import GraphicsBuffers.Proofs.Accounts
/-!
# References

What references are good for. A registered object can be used until a release takes the last
reference away; that release destroys it, for good. A key under which nothing is registered is
refused by every call but those that register a new object (`Client.run_references`).
-/

namespace GraphicsBuffers

/-! ## The last release -/

namespace Process

/-- The process once the registry has destroyed an object and let it go. The memory is given back by
the one `tearDown`; the card is let go if nobody else holds the object. -/
def buried (p : Process) (key : MemoryRef) (id : ObjectId) (s : Shared) (buffer : BackendBuffer) :
    Process :=
  { p.after (do
      s.object.tearDown buffer
      Host.report (.unregistered key)
      if s.holders < 2 then s.object.card.release) with
    objects :=
      if s.holders < 2 then p.objects.erase id
      else p.objects.insert id ⟨s.object.destroyed, s.holders - 1⟩ }

theorem released_destroyed {p : Process} {id : ObjectId} {s : Shared} {buffer : BackendBuffer}
    (held : p.objects.get? id = some s) (live : s.object.buffer = some buffer) (key : MemoryRef) :
    ((p.destroyed id).reported (.unregistered key)).released id = p.buried key id s buffer := by
  have destroyed : (p.destroyed id).reported (.unregistered key) =
      { p.after (do
          s.object.tearDown buffer
          Host.report (.unregistered key)) with
        objects := p.objects.insert id { s with object := s.object.destroyed } } := by
    unfold Process.destroyed
    rw [onObject_some held, BufferObject.destroy_run, live]
    rfl
  have held' : ((p.destroyed id).reported (.unregistered key)).objects.get? id =
      some { s with object := s.object.destroyed } := by
    rw [destroyed]
    exact Table.get?_insert_self ..
  obtain ⟨o, n⟩ := s
  unfold buried
  by_cases last : n < 2
  · rw [released_last held' last, destroyed]
    simp only [last, if_true]
    rw [Table.erase_insert_self]
    rfl
  · obtain ⟨m, rfl⟩ : ∃ m, n = m + 2 := ⟨n - 2, by omega⟩
    rw [released_shared held', destroyed]
    simp only [last, if_false]
    rw [Table.insert_insert_self]
    rfl

end Process

namespace Client

variable {c : Client} {a : Allocator} {key : MemoryRef} {e : Registration}

/-! ## Registered keys -/

/-- The client once one more reference is counted. Below the registry only the log tells of it. -/
def acquired (c : Client) (a : Allocator) (key : MemoryRef) (e : Registration) : Client :=
  { c with
    process := c.process.reported (.registered key (some (e.references + 1)))
    allocator := some { a with
      registry := ⟨a.registry.entries.insert key { e with references := e.references + 1 }⟩ } }

/-- The client once `n` of several references are taken away. -/
def released (c : Client) (a : Allocator) (key : MemoryRef) (e : Registration) (n : Nat) : Client :=
  { c with
    allocator := some { a with
      registry := ⟨a.registry.entries.insert key { e with references := e.references - n }⟩ } }

/-- The client once the last reference is taken away: the key is free, and the object is
destroyed. -/
def removed (c : Client) (a : Allocator) (key : MemoryRef) (e : Registration) (s : Shared)
    (buffer : BackendBuffer) : Client :=
  { c with
    process := c.process.buried key e.object s buffer
    allocator := some { a with registry := ⟨a.registry.entries.erase key⟩ } }

/-- A call that releases what is registered under a key, and how many references it takes. -/
inductive Releases (key : MemoryRef) (imported : Bool) : Operation → Nat → Prop
  | unregister {d} (keyed : d.key? = some key) :
    Releases key imported (.unregister d) (if imported then 2 else 1)
  | dropLocal {d} (keyed : d.key? = some key) : Releases key imported (.dropLocal d) 1

/-- An object that is destroyed for good, if there is anything left of it. -/
def Gone (c : Client) (id : ObjectId) : Prop :=
  (∀ key e, c.registration? key = some e → e.object ≠ id) ∧
    ∀ s, c.process.objects.get? id = some s → s.object.buffer = none

/-- What calls on the key of a registered object come to. -/
structure Serves (c : Client) (a : Allocator) (key : MemoryRef) (e : Registration) (s : Shared)
    (buffer : BackendBuffer) : Prop where
  held : c.process.objects.get? e.object = some s
  live : s.object.buffer = some buffer
  register : ∀ d, d.key? = some key → c.step (.register d) = (.ok .done, c.acquired a key e)
  release : ∀ op n, Releases key s.object.imported op n → n < e.references →
    c.step op = (.ok .done, c.released a key e n)
  /-- The release that brings the references to 0 or below destroys the object. -/
  remove : ∀ op n, Releases key s.object.imported op n → e.references ≤ n →
    c.step op = (.ok .done, c.removed a key e s buffer) ∧
      (c.removed a key e s buffer).registration? key = none ∧
      ∀ calls, ((c.removed a key e s buffer).run calls).Gone e.object

theorem step_register (inOrder : c.InOrder) (allocator : c.allocator = some a)
    (known : a.registry.entries.get? key = some e) {d : Descriptor} (keyed : d.key? = some key) :
    c.step (.register d) = (.ok .done, c.acquired a key e) := by
  obtain ⟨r, ready⟩ := inOrder.started a allocator key e known
  obtain ⟨p, _, holds, cards⟩ := c
  cases allocator
  have taken : a.registry.contains key = true := by
    rw [Registry.contains, Table.contains, known]
    rfl
  unfold step onAllocator
  dsimp only
  rw [Allocator.register_run, keyed]
  dsimp only
  rw [Allocator.run_onContext, Context.ready_run_ready ready]
  dsimp only
  rw [if_pos taken, Allocator.acquired, known]
  rfl

theorem step_releases (allocator : c.allocator = some a)
    (known : a.registry.entries.get? key = some e) {s : Shared}
    (held : c.process.objects.get? e.object = some s) {op : Operation} {n : Nat}
    (releases : Releases key s.object.imported op n) :
    c.step op = if n < e.references then (.ok .done, c.released a key e n)
      else (.ok .done, { c with
        process := ((c.process.destroyed e.object).reported (.unregistered key)).released e.object
        allocator := some { a with registry := ⟨a.registry.entries.erase key⟩ } }) := by
  obtain ⟨p, _, holds, cards⟩ := c
  cases allocator
  cases releases with
  | unregister keyed =>
    have designated : a.registry.get? key = some e.object := congrArg (Option.map _) known
    have imported : (((Process.object? p e.object).map (·.imported)).getD false) =
        s.object.imported := by
      rw [Process.object?, held]
      rfl
    unfold step onAllocator
    dsimp only
    rw [Allocator.unregister_run, keyed]
    dsimp only
    rw [designated]
    dsimp only
    rw [imported, Allocator.run_tryRegistry, Registry.release_run, known]
    by_cases left : (if s.object.imported then 2 else 1) < e.references <;>
      simp only [left, if_true, if_false] <;> rfl
  | dropLocal keyed =>
    unfold step onAllocator
    dsimp only
    rw [Allocator.dropLocal_run, keyed]
    dsimp only
    rw [Allocator.run_tryRegistry, Registry.release_run, known]
    by_cases left : 1 < e.references <;> simp only [left, if_true, if_false] <;> rfl

/-! ## Objects that are gone -/

/-- An object that is not in use is not registered either. -/
theorem InOrder.gone (inOrder : c.InOrder) {id : ObjectId}
    (dead : ∀ s, c.process.objects.get? id = some s → s.object.buffer = none) : c.Gone id := by
  refine ⟨fun key e known same => ?_, dead⟩
  obtain ⟨-, cell, found, -, live⟩ := inOrder.consistent.entry key e known
  obtain ⟨s, held, rfl⟩ := Option.map_eq_some_iff.1 found
  rw [Shared.cell, dead s (same ▸ held)] at live
  cases live

theorem Gone.step (inOrder : c.InOrder) {id : ObjectId} (below : id < c.process.nextObject)
    (gone : c.Gone id) (op : Operation) : (c.step op).2.Gone id := by
  refine (inOrder.step op).gone fun s held => ?_
  have moves := (step_keeps inOrder op).1
  obtain ⟨cell, found, later⟩ := moves.cell below (congrArg (Option.map Shared.cell) held)
  obtain ⟨s', held', rfl⟩ := Option.map_eq_some_iff.1 found
  have dead := gone.2 s' held'
  cases live : s.object.buffer with
  | none => rfl
  | some buffer =>
    have live' : s'.object.buffer.isSome := later.live (congrArg Option.isSome live)
    rw [dead] at live'
    cases live'

theorem Gone.run (inOrder : c.InOrder) {id : ObjectId} (below : id < c.process.nextObject)
    (gone : c.Gone id) (calls : List Operation) : (c.run calls).Gone id := by
  induction calls generalizing c with
  | nil => exact gone
  | cons op calls ih =>
    exact ih (inOrder.step op) (Nat.lt_of_lt_of_le below (step_keeps inOrder op).1.next_le)
      (gone.step inOrder below op)

theorem serves (inOrder : c.InOrder) (allocator : c.allocator = some a)
    (known : a.registry.entries.get? key = some e) : ∃ s buffer, c.Serves a key e s buffer := by
  have registered : c.registration? key = some e := by
    rw [registration?, allocator]
    exact known
  obtain ⟨-, cell, found, -, live⟩ := inOrder.consistent.entry key e registered
  obtain ⟨s, held, rfl⟩ := Option.map_eq_some_iff.1 found
  obtain ⟨buffer, live⟩ := Option.isSome_iff_exists.1 live
  refine ⟨s, buffer, held, live, fun d keyed => step_register inOrder allocator known keyed,
    fun op n releases left => ?_, fun op n releases none => ?_⟩
  · rw [step_releases allocator known held releases, if_pos left]
  · have step : c.step op = (.ok .done, c.removed a key e s buffer) := by
      rw [step_releases allocator known held releases, if_neg (Nat.not_lt.2 none),
        Process.released_destroyed held live]
      rfl
    have inOrder' : (c.removed a key e s buffer).InOrder := by
      have := inOrder.step op
      rwa [step] at this
    have dead (s' : Shared)
        (held' : (c.removed a key e s buffer).process.objects.get? e.object = some s') :
        s'.object.buffer = Option.none := by
      unfold removed Process.buried at held'
      dsimp only at held'
      split at held'
      · rw [Table.get?_erase_self] at held'
        cases held'
      · rw [Table.get?_insert_self] at held'
        cases held'
        rfl
    have below : e.object < (c.removed a key e s buffer).process.nextObject :=
      inOrder.consistent.entry_lt registered
    exact ⟨step, Table.get?_erase_self .., (inOrder'.gone dead).run inOrder' below⟩

/-! ## Free keys -/

/-- A call that only makes sense for a registered object. -/
inductive Needs (d : Descriptor) : Operation → Prop
  | unregister : Needs d (.unregister d)
  | dropLocal : Needs d (.dropLocal d)
  | lock (usage region) : Needs d (.lock d usage region)
  | lockPlanar (usage region) : Needs d (.lockPlanar d usage region)
  | planes : Needs d (.planes d)
  | hold : Needs d (.hold d)

/-- What calls on a key come to while nothing is registered under it. -/
structure Refuses (c : Client) (key : MemoryRef) : Prop where
  refused : ∀ d op, d.key? = some key → Needs d op → c.step op = (.error .invalidHandle, c)
  unlock : ∀ d, d.key? = some key → ∃ events, (c.step (.unlock d)).2 =
    { c with process.host.log := events ++ c.process.host.log }
  references : ∀ d a, d.key? = some key → c.allocator = some a → a.references? d = none
  /-- Only a call that makes a new object changes that. -/
  until_inserted : ∀ op, ((c.step op).2.registration? key).isSome ↔
    ∃ imported, Inserts key (op, (c.step op).1) imported
  new : ∀ op e, (c.step op).2.registration? key = some e → e.object = c.process.nextObject ∧
    ∀ id s, c.process.objects.get? id = some s → id ≠ e.object

theorem lookup_free (free : a.registry.entries.get? key = none) {d : Descriptor}
    (keyed : d.key? = some key) : a.lookup d = .error .invalidHandle := by
  have unknown : a.registry.get? key = none := congrArg (Option.map _) free
  rw [Allocator.lookup, Allocator.keyOf, keyed]
  dsimp only [bind, Except.bind]
  rw [unknown]

theorem step_refused (free : c.registration? key = none) {d : Descriptor} (keyed : d.key? = some key)
    {op : Operation} (needs : Needs d op) : c.step op = (.error .invalidHandle, c) := by
  obtain ⟨p, _ | a, holds, cards⟩ := c
  · cases needs <;> rfl
  have free : a.registry.entries.get? key = none := free
  have unknown : a.registry.get? key = none := congrArg (Option.map _) free
  have lookup := lookup_free free keyed
  cases needs <;> unfold step onAllocator <;> dsimp only
  case unregister =>
    rw [Allocator.unregister_run, keyed]
    dsimp only
    rw [unknown]
    rfl
  case dropLocal =>
    rw [Allocator.dropLocal_run, keyed]
    dsimp only
    rw [Allocator.run_tryRegistry, Registry.release_run, free]
    rfl
  case lock =>
    rw [Allocator.lock, Allocator.onBuffer_run, lookup]
    rfl
  case lockPlanar =>
    rw [Allocator.lockPlanar, Allocator.onBuffer_run, lookup]
    rfl
  case planes =>
    rw [Allocator.planes_run, lookup]
    rfl
  case hold =>
    rw [Allocator.hold_run, lookup]
    rfl

theorem refuses (inOrder : c.InOrder) (free : c.registration? key = none) : c.Refuses key where
  refused d op keyed needs := step_refused free keyed needs
  unlock d keyed := by
    obtain ⟨p, _ | a, holds, cards⟩ := c
    · exact ⟨[], rfl⟩
    · refine ⟨[.unlockOfUnknown d.memory], ?_⟩
      have unlocked : (Allocator.unlock d).run a p =
          (((), a), p.reported (.unlockOfUnknown d.memory)) := by
        rw [Allocator.unlock_run, lookup_free free keyed]
      exact congrArg (fun result : (Unit × Allocator) × Process =>
        ({ process := result.2, allocator := some result.1.2, holds, cards } : Client)) unlocked
  references d a keyed allocator := by
    rw [registration?, allocator] at free
    rw [Allocator.references?, keyed]
    exact congrArg (Option.map _) free
  until_inserted op := by
    have moves := (step_keeps inOrder op).1
    refine ⟨fun known => ?_, fun ⟨imported, inserts⟩ => moves.inserted free inserts⟩
    obtain ⟨e, known⟩ := Option.isSome_iff_exists.1 known
    cases moves.kept known with
    | inserted _ _ inserts => exact ⟨_, inserts⟩
    | counted known =>
      rw [show c.books.registrations key = none from free] at known
      cases known
  new op e known := by
    have moves := (step_keeps inOrder op).1
    cases moves.kept known with
    | inserted _ object =>
      refine ⟨object, fun id s held same => ?_⟩
      have below := inOrder.consistent.below id s.cell (congrArg (Option.map Shared.cell) held)
      exact Nat.lt_irrefl _ (object ▸ same ▸ below)
    | counted known =>
      rw [show c.books.registrations key = none from free] at known
      cases known

/-! ## Every run -/

/-- In every run, and for every key: a registered object has its account, and is served by it; and
while nothing is registered under the key, its calls are refused. -/
theorem run_references (host : Host) (opener : Opener) (table : BackendTable)
    (calls : List Operation) (key : MemoryRef) :
    let c := start host opener table
    (∀ e, (c.run calls).registration? key = some e → ∃ before op after imported,
      calls = before ++ op :: after ∧ (c.run before).Account op after key imported ∧
        e.object = (c.run before).process.nextObject) ∧
    (∀ a e, (c.run calls).allocator = some a → a.registry.entries.get? key = some e →
      ∃ s buffer, (c.run calls).Serves a key e s buffer) ∧
    ((c.run calls).registration? key = none → (c.run calls).Refuses key) := by
  intro c
  have first : c.InOrder := start_inOrder host opener table
  have inOrder := first.run calls
  refine ⟨fun e known => ?_, fun a e allocator known => ?_, fun free => ?_⟩
  · exact run_account first rfl calls known
  · exact serves inOrder allocator known
  · exact refuses inOrder free

end Client

end GraphicsBuffers

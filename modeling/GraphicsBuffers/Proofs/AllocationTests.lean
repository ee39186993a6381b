import GraphicsBuffers.AllocationTest.Outcome
import GraphicsBuffers.Proofs.Allocations
import GraphicsBuffers.Proofs.Locks
import GraphicsBuffers.Proofs.Teardown

/-!
# The allocation test is safe

The allocation test writes and reads memory at addresses that locks answer, and may end early at every
call. Whatever fails, it accesses memory only inside the mapping of a lock that it has not undone yet,
and so never faults, and it leaves nothing behind: all that it obtained is given back once, the card
last (`AllocationTest.run_safe`). So no arguments get the program killed (`AllocationTest.execute_status`).

`Safe` is the judgement on its parts. One that succeeds leaves what the next one starts with. One that
fails leaves a client in order, and nothing else has to be known of that: its allocator is closed next.
-/

namespace GraphicsBuffers

/-! ## Access to memory -/

/-- `length` bytes from an address on are inside the mapping `m`, which is there and may be written. -/
def Kernel.Covers (k : Kernel) (m : Nat) (address : Address) (length : Nat) : Prop :=
  address.base = .mapping m ∧ ∃ range, k.mappings.get? m = some range ∧ range.writable ∧
    address.offset.toNat + length ≤ range.length.toNat

namespace Kernel.Covers

variable {k : Kernel} {m length : Nat} {address : Address}

theorem range (covers : k.Covers m address length) :
    ∃ range, k.rangeAt? address length = some range ∧ range.writable := by
  obtain ⟨base, range, live, writable, inside⟩ := covers
  refine ⟨range, ?_, writable⟩
  unfold rangeAt?
  rw [base]
  simp [live, Option.filter_some, inside]

/-- What is covered can be written, and nothing that is ever held changes by it. -/
theorem store (covers : k.Covers m address length) (byte : Nat → UInt8) :
    ∃ k', k.store? address length byte = some k' ∧ k.Alike k' := by
  obtain ⟨⟨size, writable, source⟩, found, rfl⟩ := covers.range
  unfold store?
  rw [found]
  cases source with
  | none => exact ⟨k, rfl, .refl k⟩
  | some source =>
    refine ⟨_, rfl, _, _, _, _, _, rfl, List.ext_getElem? fun place => ?_⟩
    -- The object has other contents then and the same size.
    rw [List.getElem?_map, List.getElem?_map, List.getElem?_modify]
    cases k.objects[place]? with
    | none => rfl
    | some object =>
      by_cases eq : source.1 = place <;> simp [eq]

theorem load (covers : k.Covers m address 1) : ∃ byte, k.load? address = some byte := by
  obtain ⟨range, found, -⟩ := covers.range
  unfold load?
  rw [found]
  exact ⟨_, rfl⟩

theorem less (covers : k.Covers m address length) {fewer : Nat} (le : fewer ≤ length) :
    k.Covers m address fewer := by
  obtain ⟨base, range, live, writable, inside⟩ := covers
  exact ⟨base, range, live, writable, (Nat.add_le_add_left le _).trans inside⟩

/-- The last one of the bytes from the beginning of a mapping on. -/
theorem last (covers : k.Covers m (.start m) length) (some : 0 < length) (few : length < UInt64.size) :
    k.Covers m ((Address.start m).advance (.ofNat (length - 1))) 1 := by
  obtain ⟨-, range, live, writable, inside⟩ := covers
  refine ⟨rfl, range, live, writable, ?_⟩
  have place : ((0 : UInt64) + .ofNat (length - 1)).toNat = length - 1 := by
    rw [UInt64.zero_add]
    exact UInt64.toNat_ofNat_of_lt' (by omega)
  simp only [Address.advance, Address.start, place, UInt64.toNat_zero] at inside ⊢
  omega

end Kernel.Covers

/-! ## Locks -/

namespace BufferObject

variable {o o' : BufferObject} (live : o.buffer.isSome) {h h' : Host}
include live

theorem lock_count {usage : Usage} {region : Region} {answer : Option Address}
    (ok : (lock usage region).run.run o h = ((.ok answer, o'), h')) :
    o'.lockCount = o.lockCount + 1 := by
  have outcome := lockDialogue_outcome live usage region h
  have run := lock_run o usage region h
  rw [ok] at run
  have answered := congrArg (·.1.1) run
  have left := congrArg (·.1.2) run
  dsimp only at answered left
  -- What is answered was granted, and locks are counted where they are granted.
  cases outcome with
  | refused buffer refused =>
    rw [← answered] at refused
    cases refused
  | granted buffer answer fits object => exact congrArg lockCount (left.trans object)

omit live in
/-- A lock answers the address where the object's mapping begins, which is as long as its buffer. -/
theorem lock_covers {s : Surroundings} {fd : Int32} {l : Ledger} (card : l.card = some fd)
    (backed : o.Backed s fd l) (audited : h.kernel.Audited s l) {usage : Usage} {region : Region}
    {start : Address} (ok : (lock usage region).run.run o h = ((.ok (some start), o'), h')) :
    ∃ b m, o'.buffer = some b ∧ b.mapping = some m ∧ m.address = start ∧
      h'.kernel.Covers m.id start b.size.toNat := by
  have locked := o.lock_backed usage region l card backed h audited
  unfold Yields at locked
  rw [ok] at locked
  obtain ⟨-, l', audited', ⟨-, backed'⟩, addressed⟩ := locked
  obtain ⟨b, m, buffer, mapping, begins⟩ := addressed start rfl
  obtain ⟨⟨_, -, entered⟩, whole⟩ := backed'.entered b buffer
  obtain ⟨range, live, length, writable⟩ := (audited'.bears.holding _ _ entered).mapping m mapping
  refine ⟨b, m, buffer, mapping, begins, congrArg Address.base begins.symm, range, live, writable, ?_⟩
  rw [← begins, length, whole m mapping]
  exact Nat.le_of_eq (Nat.zero_add _)

theorem unlock_count (locked : o.lockCount ≠ 0) :
    (unlock.run o h).1.2.lockCount = o.lockCount - 1 := by
  have outcome := unlockDialogue_outcome live h
  rw [unlock_run]
  rw [Dialogue.hold_answering] at outcome
  cases outcome with
  | surplus free => exact absurd free locked
  | balanced buffer locked object => exact congrArg lockCount object

end BufferObject

/-! ## The program as a client -/

/-- The books of a client are in order, and it has a ledger. -/
structure Client.Accounted (s : Surroundings) (c : Client) : Prop where
  inOrder : c.InOrder
  kept : ∃ fd l, c.Kept s fd l

theorem Client.Accounted.step {s : Surroundings} {c : Client} (accounted : c.Accounted s)
    (op : Operation) : (c.step op).2.Accounted s where
  inOrder := accounted.inOrder.step op
  kept := by
    obtain ⟨fd, l, kept⟩ := accounted.kept
    exact step_kept kept op

namespace AllocationTest

open Client (Accounted)

/-- The program as a client: it has an allocator and no holds of its own. -/
def client (a : Allocator) (p : Process) : Client := { process := p, allocator := some a }

/-- As a client, the program is in order. -/
abbrev Regular (w : World) (a : Allocator) (p : Process) : Prop :=
  (client a p).Accounted w.surroundings

section Calls

variable {w : World} {a : Allocator} {p : Process} {α : Type}

/-- Calls of the client on its allocator. -/
theorem Regular.call (regular : Regular w a p) (op : Operation) {x : ExceptT Error AllocatorM α}
    {f : α → Reply} (calls : ∀ c : Client, c.step op = Client.replying f (c.onAllocator x)) :
    Regular w (x.run.run a p).1.2 (x.run.run a p).2 := by
  have called := Accounted.step regular op
  rw [calls] at called
  exact called

theorem Regular.allocator (regular : Regular w a p) :
    ∃ fd l, a.Kept w.surroundings fd [] p l := by
  obtain ⟨fd, l, kept⟩ := regular.kept
  cases kept with
  | working kept => exact ⟨fd, l, kept⟩

/-- No books are kept of what memory contains. -/
theorem Regular.stored (regular : Regular w a p) {k : Kernel} (alike : p.host.kernel.Alike k) :
    Regular w a { p with host := { p.host with kernel := k } } where
  inOrder := ⟨regular.inOrder.consistent, regular.inOrder.started⟩
  kept := by
    obtain ⟨fd, l, kept⟩ := regular.kept
    refine kept.moved [] (fun others process => ⟨l, ?_⟩) (Nat.le_refl _)
    exact process.hosted (process.audited.alike alike) rfl
      ⟨process.counts.card, process.counts.holders⟩

theorem Regular.live (regular : Regular w a p) {key : MemoryRef} {e : Registration} {sh : Shared}
    (known : a.registry.entries.get? key = some e) (held : p.objects.get? e.object = some sh) :
    sh.object.buffer.isSome := by
  obtain ⟨-, cell, found, -, live⟩ := regular.inOrder.consistent.entry key e known
  obtain ⟨sh', held', rfl⟩ := Option.map_eq_some_iff.1 found
  cases held.symm.trans held'
  exact live

end Calls

/-! ## The judgement -/

section Judgement

variable {α β : Type} {w : World} {P P' : Allocator → Process → Prop}
  {Q : α → Allocator → Process → Prop} {R : β → Allocator → Process → Prop}

/-- From a state with `P`, a computation of the program gives an answer with `Q`, or it fails without a
fault and leaves the program in order. -/
def Safe (w : World) (P : Allocator → Process → Prop) (x : Program α)
    (Q : α → Allocator → Process → Prop) : Prop :=
  ∀ a p, P a p → match x.run.run a p with
    | ((.ok v, a'), p') => Q v a' p'
    | ((.error e, a'), p') => e ≠ .fault ∧ Regular w a' p'

namespace Safe

theorem ok {x : Program α} (safe : Safe w P x Q) {a a' : Allocator} {p p' : Process} {v : α}
    (before : P a p) (eq : x.run.run a p = ((.ok v, a'), p')) : Q v a' p' := by
  have := safe a p before
  rwa [eq] at this

theorem pre {x : Program α} (safe : Safe w P x Q) (imp : ∀ a p, P' a p → P a p) : Safe w P' x Q :=
  fun a p before => safe a p (imp a p before)

theorem pure {v : α} : Safe w (Q v) (Pure.pure v) Q := fun _ _ before => before

theorem throw {e : Failure} (noFault : e ≠ .fault)
    (regular : ∀ a p, P a p → Regular w a p) : Safe w P (MonadExcept.throw e : Program α) Q :=
  fun a p before => ⟨noFault, regular a p before⟩

theorem bind {x : Program α} {f : α → Program β} (first : Safe w P x Q)
    (second : ∀ v, Safe w (Q v) (f v) R) : Safe w P (x >>= f) R := by
  intro a p before
  have first := first a p before
  rw [run_bind]
  rcases eq : x.run.run a p with ⟨⟨e | v, a'⟩, p'⟩ <;> rw [eq] at first
  · exact first
  · exact second v a' p' first

/-- A computation that does not fail. -/
theorem lift {x : AllocatorM α}
    (yields : ∀ a p, P a p → Q (x.run a p).1.1 (x.run a p).1.2 (x.run a p).2) :
    Safe w P (liftM x : Program α) Q := yields

/-- A call of the client on its allocator, whose failures are made into others, none of them a fault. -/
theorem call {x : ExceptT Error AllocatorM α} {f : Error → Failure} (noFault : ∀ e, f e ≠ .fault)
    (op : Operation) {g : α → Reply}
    (calls : ∀ c : Client, c.step op = Client.replying g (c.onAllocator x))
    (regular : ∀ a p, P a p → Regular w a p)
    (answers : ∀ a p v a' p', P a p → Regular w a' p' → x.run.run a p = ((.ok v, a'), p') → Q v a' p') :
    Safe w P (explain x fun e => Pure.pure (f e)) Q := by
  intro a p before
  have after := (regular a p before).call op calls
  rw [run_explain_pure]
  rcases eq : x.run.run a p with ⟨⟨e | v, a'⟩, p'⟩ <;> rw [eq] at after
  · exact ⟨noFault e, after⟩
  · exact answers a p v a' p' before after eq

end Safe

end Judgement

/-! ## The buffer -/

theorem bytes_lt (d : Descriptor) : bytes d < UInt64.size :=
  (Nat.mul_lt_mul'' d.stride.toNat_lt d.height.toNat_lt).trans_eq (by decide)

/-- The program has a buffer with the handle `d`, which is locked so many times and has memory for its
lines. -/
structure Has (w : World) (d : Descriptor) (locks : UInt32) (a : Allocator) (p : Process) : Prop where
  regular : Regular w a p
  buffer : ∃ key e sh handle size, d.key? = some key ∧ a.registry.entries.get? key = some e ∧
    p.objects.get? e.object = some sh ∧ sh.object.Made d handle size ∧ d.Roomy size ∧
    sh.object.lockCount = locks

/-- The buffer with the handle `d` is locked once, and mapped as `m`, which begins at `start`. -/
def Mapped (d : Descriptor) (start : Address) (m : Mapping) (a : Allocator) (p : Process) : Prop :=
  m.address = start ∧ ∃ id o b, a.lookup d = .ok id ∧ p.object? id = some o ∧ o.lockCount = 1 ∧
    o.buffer = some b ∧ b.mapping = some m

/-- The one lock of the buffer with the handle `d` has answered `start`, and `length` bytes from `address`
on are inside the mapping that begins there. -/
def Inside (d : Descriptor) (start address : Address) (length : Nat) (a : Allocator) (p : Process) :
    Prop :=
  ∃ m, Mapped d start m a p ∧ p.host.kernel.Covers m.id address length

section Buffer

variable {w : World} {d : Descriptor} {locks : UInt32} {a a' : Allocator} {p p' : Process}

theorem Has.bytes_pos (has : Has w d locks a p) : 0 < bytes d := by
  obtain ⟨key, e, sh, handle, size, -, -, -, -, roomy, -⟩ := has.buffer
  exact Nat.mul_pos roomy.stride roomy.height

/-- The last one of the bytes of all lines. -/
theorem Inside.last {start : Address} (inside : Inside d start start (bytes d) a p)
    (some : 0 < bytes d) : Inside d start (lastByte d start) 1 a p := by
  obtain ⟨m, ⟨rfl, mapped⟩, covers⟩ := inside
  exact ⟨m, ⟨rfl, mapped⟩, covers.last some (bytes_lt d)⟩

/-- A buffer that is created is not locked, and has memory for its lines. -/
theorem create_has (before : Regular w a p) (after : Regular w a' p') {width height : UInt32}
    {raw : Int32} {usage : Usage} {pixels : UInt32}
    (eq : (Allocator.create width height raw usage).run.run a p = ((.ok (d, pixels), a'), p')) :
    Has w d 0 a' p' := by
  obtain ⟨fd, l, kept⟩ := before.allocator
  obtain ⟨-, r, a₁, p₁, key, o, g, b, -, keyed, known, held, idle, made, given⟩ :=
    kept.create_given eq
  have roomy := given.roomy
  rw [made.descriptor] at roomy
  exact ⟨after, key, _, _, _, _, keyed, known, held, made, roomy, idle.lockCount⟩

/-- A lock that is granted maps the buffer as a whole, and answers where the mapping begins. -/
theorem Has.lock (has : Has w d 0 a p) (after : Regular w a' p') {usage : Usage} {region : Region}
    {answer : Option Address}
    (eq : (Allocator.lock d usage region).run.run a p = ((.ok answer, a'), p')) :
    Has w d 1 a' p' ∧ ∀ start, answer = some start → Inside d start start (bytes d) a' p' := by
  obtain ⟨key, e, sh, handle, size, keyed, known, held, made, roomy, free⟩ := has.buffer
  have found := Allocator.lookup_of_known keyed known
  have live := has.regular.live known held
  have lasts := sh.object.lock_lasts p.host usage region
  -- The handle leads to the object, and the call is a lock of that.
  rw [Allocator.lock, Allocator.onBuffer_run, found] at eq
  dsimp only at eq
  rw [Process.onObject_some held] at eq
  rcases ran : (BufferObject.lock usage region).run.run sh.object p.host with ⟨⟨outcome, o⟩, h⟩
  rw [ran] at eq lasts
  cases eq
  have count : o.lockCount = 1 := by
    rw [BufferObject.lock_count live ran, free]
    rfl
  have made := made.lasts lasts
  have held' : (p.objects.insert e.object { sh with object := o }).get? e.object =
      some { sh with object := o } := Table.get?_insert_self ..
  refine ⟨⟨after, key, e, _, handle, size, keyed, known, held', made, roomy, count⟩, ?_⟩
  rintro start rfl
  obtain ⟨fd, l, kept⟩ := has.regular.allocator
  obtain ⟨b, m, buffer, mapping, begins, covers⟩ := BufferObject.lock_covers
    (kept.process.card_of_get? held) (kept.process.backed _ sh held) kept.process.audited ran
  -- The mapping is as long as the memory that was allocated, which has room for all lines.
  rw [(made.memory b buffer).2] at covers
  refine ⟨m, ⟨begins, e.object, o, b, found, ?_, count, buffer, mapping⟩, covers.less roomy.lines⟩
  exact congrArg (Option.map Shared.object) held'

/-- An unlock undoes the lock. -/
theorem Has.unlock (has : Has w d 1 a p) :
    Has w d 0 ((Allocator.unlock d).run a p).1.2 ((Allocator.unlock d).run a p).2 := by
  have after : Regular w ((Allocator.unlock d).run a p).1.2 ((Allocator.unlock d).run a p).2 :=
    has.regular.call (.unlock d) fun _ => rfl
  obtain ⟨key, e, sh, handle, size, keyed, known, held, made, roomy, locked⟩ := has.buffer
  have live := has.regular.live known held
  rw [Allocator.unlock_run, Allocator.lookup_of_known keyed known] at after ⊢
  dsimp only at after ⊢
  rw [Process.onObject_some held] at after ⊢
  refine ⟨after, key, e, _, handle, size, keyed, known, Table.get?_insert_self .., ?_, roomy, ?_⟩
  · exact made.lasts (sh.object.unlock_lasts p.host)
  · refine (BufferObject.unlock_count live (locked ▸ by decide)).trans ?_
    rw [locked]
    rfl

/-- Only the contents of memory change. -/
theorem Has.stored (has : Has w d locks a p) {k : Kernel} (alike : p.host.kernel.Alike k) :
    Has w d locks a { p with host := { p.host with kernel := k } } :=
  ⟨has.regular.stored alike, has.buffer⟩

end Buffer

/-! ## Parts of the test -/

/-- What the test does before it accesses memory: it brings up the card and allocates a buffer. -/
def prepare (s : Settings) : Program Descriptor := do
  explain (Allocator.onContext (Context.ensureReady s.usage.needsFramebuffer)) fun e =>
    pure (.initialization e)
  let (d, _) ← use (Allocator.create s.width s.height s.format.raw s.usage)
  let _ ← use (Allocator.planes d)
  return d

theorem test_eq (s : Settings) : test s = (do
    let d ← prepare s
    fill d
    check d
    use (Allocator.dropLocal d)) := by
  unfold test prepare
  simp only [bind_assoc, pure_bind]

section Parts

variable {w : World} {d : Descriptor} {locks : UInt32} {start address : Address} {length : Nat}

theorem prepare_safe (s : Settings) : Safe w (Regular w) (prepare s) fun d => Has w d 0 := by
  refine Safe.bind (Q := fun _ => Regular w) ?_ fun _ => ?_
  · exact .call (fun _ => nofun) (.ensureReady _) (fun _ => rfl) (fun _ _ => id)
      fun _ _ _ _ _ _ after _ => after
  refine Safe.bind (Q := fun answer => Has w answer.1 0) ?_ fun ⟨d, pixels⟩ => ?_
  · exact .call (fun _ => nofun) (.create ..) (fun _ => rfl) (fun _ _ => id)
      fun _ _ _ _ _ before after eq => create_has before after eq
  refine Safe.bind (Q := fun _ => Has w d 0) ?_ fun _ => Safe.pure (v := d) (Q := fun d => Has w d 0)
  refine .call (fun _ => nofun) (.planes d) (fun _ => rfl) (fun _ _ has => has.regular) ?_
  intro a p layout a' p' has _ eq
  rw [Allocator.planes_run] at eq
  split at eq <;> cases eq
  exact has

theorem lockMapped_safe (usage : Usage) : Safe w (Has w d 0) (lockMapped d usage) fun start a p =>
    Has w d 1 a p ∧ Inside d start start (bytes d) a p := by
  refine Safe.bind (Q := fun answer a p => Has w d 1 a p ∧
    ∀ start, answer = some start → Inside d start start (bytes d) a p) ?_ fun answer => ?_
  · exact .call (fun _ => nofun) (.lock d usage _) (fun _ => rfl) (fun _ _ has => has.regular)
      fun _ _ _ _ _ has after eq => has.lock after eq
  · cases answer with
    | some start => exact Safe.pure.pre fun a p ⟨has, inside⟩ => ⟨has, inside start rfl⟩
    | none => exact .throw nofun fun a p ⟨has, _⟩ => has.regular

theorem store_safe (byte : Nat → UInt8) :
    Safe w (fun a p => Has w d locks a p ∧ Inside d start address length a p)
      (store address length byte) fun _ => Has w d locks := by
  rintro a p ⟨has, m, -, covers⟩
  obtain ⟨k, stored, alike⟩ := covers.store byte
  unfold store
  rw [run_getBelow_bind, stored]
  exact has.stored alike

theorem load_safe : Safe w (fun a p => Has w d locks a p ∧ Inside d start address 1 a p)
    (load address) fun _ => Has w d locks := by
  rintro a p ⟨has, m, -, covers⟩
  obtain ⟨byte, loaded⟩ := covers.load
  unfold load
  rw [run_getBelow_bind, loaded]
  exact has

theorem unlock_safe : Safe w (Has w d 1) (Allocator.unlock d) fun _ => Has w d 0 :=
  .lift fun _ _ has => has.unlock

theorem fill_safe : Safe w (Has w d 0) (fill d) fun _ => Has w d 0 :=
  (lockMapped_safe _).bind fun _ => (store_safe _).bind fun _ => unlock_safe

theorem check_safe : Safe w (Has w d 0) (check d) fun _ => Has w d 0 := by
  refine (lockMapped_safe _).bind fun start => ?_
  refine (load_safe.pre fun a p ⟨has, inside⟩ => ⟨has, inside.last has.bytes_pos⟩).bind fun last => ?_
  split
  · exact Safe.bind (.throw nofun fun a p has => has.regular) fun _ => unlock_safe
  · exact unlock_safe

theorem test_safe (s : Settings) : Safe w (Regular w) (test s) fun _ => Regular w := by
  rw [test_eq]
  refine (prepare_safe s).bind fun d => fill_safe.bind fun _ => check_safe.bind fun _ => ?_
  exact .call (fun _ => nofun) (.dropLocal d) (fun _ => rfl) (fun _ _ has => has.regular)
    fun _ _ _ _ _ _ after _ => after

end Parts

/-! ## Runs -/

/-- The process that the program is in the world `w`, where calls of the kernel are made to fail. -/
def failing (w : World) (faults : Table FaultPoint FaultPlan) : Process :=
  let p := process w
  { p with host := { p.host with kernel := { p.host.kernel with faults } } }

/-- The file descriptor of an allocator's card, once that is open. -/
def card? (a : Allocator) : Option Int32 :=
  match a.context.state with
  | .ready r => some r.card.fd
  | .untried | .failed _ => none

/-- An access to memory of the test that is started in the process `p₀` (`test_eq`): a lock of the buffer
with the handle `d` has answered `start`, and the next thing is to access `length` bytes from `address`
on, which are what `fill` and `check` store and load. -/
inductive Accesses (s : Settings) (p₀ : Process) :
    Descriptor → Address → Address → Nat → Allocator → Process → Prop
  /-- All lines are written. -/
  | fill {d a p start a' p'} (prepared : (prepare s).run.run (.ofConfig s.device) p₀ = ((.ok d, a), p))
    (locked : (lockMapped d .swWriteOften).run.run a p = ((.ok start, a'), p')) :
    Accesses s p₀ d start start (bytes d) a' p'
  /-- The last byte of the last line is read. -/
  | check {d a p a₁ p₁ start a' p'}
    (prepared : (prepare s).run.run (.ofConfig s.device) p₀ = ((.ok d, a), p))
    (filled : (fill d).run.run a p = ((.ok (), a₁), p₁))
    (locked : (lockMapped d .swReadOften).run.run a₁ p₁ = ((.ok start, a'), p')) :
    Accesses s p₀ d start (lastByte d start) 1 a' p'

section Runs

variable {w : World} {s : Settings}

theorem start_regular (w : World) (faults : Table FaultPoint FaultPlan) (s : Settings) :
    Regular w (.ofConfig s.device) (failing w faults) := by
  have audited := w.kernel_audited
  have failing_audited : (failing w faults).host.kernel.Audited w.surroundings {} :=
    ⟨audited.audit, audited.spent, audited.cards, ⟨nofun, nofun⟩, audited.surroundings⟩
  have kept := Client.start_kept failing_audited (Opener.ofConfig_tidy s.device).reporting
    BackendTable.standard_allDumb 0
  exact ⟨Client.start_inOrder _ _ _, 0, {}, kept⟩

theorem Accesses.inside {p₀ : Process} (regular : Regular w (.ofConfig s.device) p₀) {d : Descriptor}
    {start address : Address} {length : Nat} {a : Allocator} {p : Process}
    (accesses : Accesses s p₀ d start address length a p) : Inside d start address length a p := by
  cases accesses with
  | fill prepared locked =>
    have has := (prepare_safe s).ok regular prepared
    exact ((lockMapped_safe _).ok has locked).2
  | check prepared filled locked =>
    have has := fill_safe.ok ((prepare_safe s).ok regular prepared) filled
    obtain ⟨has, inside⟩ := (lockMapped_safe _).ok has locked
    exact inside.last has.bytes_pos

/-- Whether or not the test succeeds, it does not fault, and leaves the program in order. -/
theorem test_ends {p p' : Process} {a : Allocator} {outcome : Except Failure Unit}
    (regular : Regular w (.ofConfig s.device) p)
    (eq : (test s).run.run (.ofConfig s.device) p = ((outcome, a), p')) :
    outcome ≠ .error .fault ∧ Regular w a p' := by
  have safe := test_safe s _ _ regular
  rw [eq] at safe
  cases outcome with
  | ok => exact ⟨nofun, safe⟩
  | error e => exact ⟨fun fault => safe.1 (Except.error.inj fault), safe.2⟩

/-- Then its allocator is closed. -/
theorem run_closes {p p' : Process} {a : Allocator} {outcome : Except Failure Unit}
    (eq : (test s).run.run (.ofConfig s.device) p = ((outcome, a), p'))
    (noFault : outcome ≠ .error .fault) :
    (run s).run p = (outcome, ((Allocator.dispose []).run a p').2) := by
  unfold run
  rw [run_bind_state, eq]
  cases outcome with
  | ok => rfl
  | error e =>
    cases e with
    | fault => exact absurd rfl noFault
    | _ => rfl

theorem outcomeOf_status {outcome : Except Failure Unit} (noFault : outcome ≠ .error .fault)
    (p : Process) : (outcomeOf outcome p).status ≠ 139 := by
  have passed : (0 : UInt32) ≠ 139 := by decide
  have failed : (1 : UInt32) ≠ 139 := by decide
  cases outcome with
  | ok => exact passed
  | error e =>
    cases e with
    | fault => exact absurd rfl noFault
    | _ => exact failed

/-- With no arguments whatever is the program killed for an access to memory. -/
theorem execute_status (w : World) (arguments : List String) : (execute w arguments).status ≠ 139 := by
  have passed : (0 : UInt32) ≠ 139 := by decide
  have refused : (1 : UInt32) ≠ 139 ∧ (2 : UInt32) ≠ 139 := by decide
  unfold execute
  cases Arguments.parse arguments with
  | error declined =>
    cases declined with
    | help => exact passed
    | misuse => exact refused.2
  | ok a =>
    dsimp only
    cases a.settings with
    | error e => exact refused.1
    | ok s =>
      have start := start_regular w (process w).host.kernel.faults s
      rcases eq : (test s).run.run (.ofConfig s.device) (process w) with ⟨⟨outcome, a⟩, p⟩
      obtain ⟨noFault, -⟩ := test_ends start eq
      dsimp only
      rw [run_closes eq noFault]
      exact outcomeOf_status noFault _

/-- However the program is used, whatever the world is like and whatever fails: it does not fault. Where
it accesses memory, a lock of its buffer is in force, and what it accesses is inside the mapping that the
lock has answered. When it ends, all that it obtained has been given back, once and in order, and if it
had a card, the last call was to close that. -/
theorem run_safe (w : World) (faults : Table FaultPoint FaultPlan) (s : Settings) :
    let ended := (run s).run (failing w faults)
    ended.1 ≠ .error .fault ∧
      (∀ d start address length a p, Accesses s (failing w faults) d start address length a p →
        Inside d start address length a p) ∧
      ended.2.host.kernel.TornDown w ∧
      ∀ fd, card? ((test s).run.run (.ofConfig s.device) (failing w faults)).1.2 = some fd →
        ended.2.host.kernel.ClosedLast fd := by
  have start := start_regular w faults s
  rcases eq : (test s).run.run (.ofConfig s.device) (failing w faults) with ⟨⟨outcome, a⟩, p⟩
  obtain ⟨noFault, regular⟩ := test_ends start eq
  -- Then the allocator is closed, and nobody holds any objects.
  have closed := Accounted.step regular (.dropAllocator [])
  obtain ⟨fd, l, kept⟩ := closed.kept
  obtain ⟨others, process⟩ := kept.process
  have empty := closed.inOrder.objects_empty rfl rfl
  dsimp only
  rw [run_closes eq noFault]
  refine ⟨noFault, fun d first address length a p accesses => accesses.inside start,
    process.audited.tornDown (kept.bare empty rfl rfl), fun fd card => ?_⟩
  obtain ⟨fd', l', kept'⟩ := regular.allocator
  unfold card? at card
  split at card
  · next r state =>
    cases card
    exact kept'.dispose_closes state [] empty
  · cases card
  · cases card

end Runs

/-- A machine that has one card, with the driver `vkms`. -/
def oneCard : World := { cards := [{ driver := [118, 107, 109, 115] }] }

/-- All calls fail that give something back. -/
def stubborn : Table FaultPoint FaultPlan :=
  let busy : FaultPlan := [⟨.EBUSY, 0, none⟩]
  (((Table.empty.insert (.control .removeFb) busy).insert .unmap busy).insert (.control .destroyDumb) busy).insert
    .close busy

/-- A small frame that is scanned out. -/
def small : Settings :=
  { device := { path := "/dev/dri/card0" }, width := 16, height := 12, format := .rgba8888
    usage := usageOf true }

/-- The frame is written through its first mapping, and in the end the card is closed for all that. -/
theorem small_safe :
    let p₀ := failing oneCard stubborn
    let ended := (run small).run p₀
    ended.1 = .ok () ∧
      (∃ d a p, Accesses small p₀ d (.start 1) (.start 1) 768 a p ∧
        Inside d (.start 1) (.start 1) 768 a p) ∧
      ended.2.host.kernel.ClosedLast 1000 := by
  intro p₀ ended
  obtain ⟨-, inside, -, closed⟩ := run_safe oneCard stubborn small
  have passed : ended.1 = .ok () := by decide +kernel
  let prepared := (prepare small).run.run (.ofConfig small.device) p₀
  let d : Descriptor :=
    { width := 16, height := 12, stride := 64, format := .rgba8888, usage := usageOf true
      memory := some (.name 1) }
  let locked := (lockMapped d .swWriteOften).run.run prepared.1.2 prepared.2
  have made : prepared.1.1 = .ok d := by decide +kernel
  have answered : locked.1.1 = .ok (.start 1) := by decide +kernel
  have accesses : Accesses small p₀ d (.start 1) (.start 1) 768 locked.1.2 locked.2 :=
    .fill (Prod.ext (Prod.ext made rfl) rfl) (Prod.ext (Prod.ext answered rfl) rfl)
  have card : card? ((test small).run.run (.ofConfig small.device) p₀).1.2 = some 1000 := by
    decide +kernel
  exact ⟨passed, ⟨d, _, _, accesses, inside _ _ _ _ _ _ accesses⟩, closed 1000 card⟩

end AllocationTest

end GraphicsBuffers

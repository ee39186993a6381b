import GraphicsBuffers.Proofs.Bookkeeping
import Mathlib.Data.List.Induction
/-!
# Accounts

How many references an object has is a matter of the calls since it was registered. An `Account`
says so for a run of calls, the first of which registers the object: one reference of the call that
did it, one for every registration that succeeded, less what the releases took. Every registered
object has its account (`Client.run_account`).
-/

namespace GraphicsBuffers

open Function (update)

/-! ## Counting calls -/

/-- A call, and what it answered. -/
abbrev Answered := Operation × Except Error Reply

namespace Answered

/-- A registration under a key that succeeds. -/
def registers (key : MemoryRef) : Answered → Bool
  | (.register d, answer) => decide (d.key? = some key) && answer.isOk
  | _ => false

/-- A call of `dropLocal` with a key. -/
def drops (key : MemoryRef) : Answered → Bool
  | (.dropLocal d, _) => decide (d.key? = some key)
  | _ => false

/-- A call of `unregister` with a key. -/
def unregisters (key : MemoryRef) : Answered → Bool
  | (.unregister d, _) => decide (d.key? = some key)
  | _ => false

end Answered

/-- A call that registers a new object: it allocates one, or imports it. -/
inductive Inserts (key : MemoryRef) : Answered → Bool → Prop
  | created {width height format usage d pixelStride} (keyed : d.key? = some key) :
    Inserts key (.create width height format usage, .ok (.created d pixelStride)) false
  | imported {d} (keyed : d.key? = some key) : Inserts key (.register d, .ok .done) true

theorem Inserts.unique {key : MemoryRef} {call : Answered} {imported imported' : Bool}
    (inserts : Inserts key call imported) (inserts' : Inserts key call imported') :
    imported = imported' := by
  cases inserts <;> cases inserts' <;> rfl

/-- The references that are left: one, with which the object was registered, and one for every
registration in the calls, less those that were dropped and what unregistrations took. -/
def Balanced (key : MemoryRef) (imported : Bool) (calls : List Answered) (references : Nat) : Prop :=
  references + calls.countP (Answered.drops key) +
      (if imported then 2 else 1) * calls.countP (Answered.unregisters key) =
    1 + calls.countP (Answered.registers key)

/-- What a call does to the balance under a key. -/
def Changes (key : MemoryRef) (imported : Bool) (call : Answered) (before after : Nat) : Prop :=
  after + (if Answered.drops key call then 1 else 0) +
      (if imported then 2 else 1) * (if Answered.unregisters key call then 1 else 0) =
    before + (if Answered.registers key call then 1 else 0)

theorem Balanced.concat {key : MemoryRef} {imported : Bool} {calls : List Answered}
    {call : Answered} {before after : Nat} (balanced : Balanced key imported calls before)
    (changes : Changes key imported call before after) :
    Balanced key imported (calls ++ [call]) after := by
  unfold Balanced Changes at *
  simp only [List.countP_append, List.countP_singleton]
  cases imported <;> simp only [if_true, Bool.false_eq_true, if_false] at * <;> omega

theorem Inserts.balanced {key : MemoryRef} {imported : Bool} {call : Answered}
    (inserts : Inserts key call imported) :
    Balanced key imported [call] (if imported then 2 else 1) := by
  cases inserts with
  | created keyed => rfl
  | imported keyed =>
    simp [Balanced, Answered.registers, Answered.drops, Answered.unregisters, keyed, Except.isOk,
      Except.toBool]

/-- A call on another key does not count. -/
theorem Changes.other {key : MemoryRef} {d : Descriptor} (other : d.key? ≠ some key)
    {op : Operation} (designates : op = .register d ∨ op = .unregister d ∨ op = .dropLocal d)
    (answer : Except Error Reply) (imported : Bool) (n : Nat) :
    Changes key imported (op, answer) n n := by
  obtain rfl | rfl | rfl := designates <;>
    simp [Changes, Answered.registers, Answered.drops, Answered.unregisters, other]

/-! ## What a call does to a registration -/

namespace Books

variable {b b' : Books} {op : Operation} {answer : Except Error Reply} {key : MemoryRef}

/-- A call that leaves the books as they are does not count. -/
theorem Quiet.changes {e : Registration} (quiet : b.Quiet op answer)
    (known : b.registrations key = some e) (imported : Bool) (n : Nat) :
    Changes key imported (op, answer) n n := by
  have unknown {d : Descriptor} (h : b.lookup? d = none) : d.key? ≠ some key := by
    intro keyed
    rw [lookup?, keyed, Option.bind_some, known] at h
    cases h
  cases op with
  | register d =>
    simp [Changes, Answered.registers, Answered.drops, Answered.unregisters, quiet.1]
  | unregister d | dropLocal d =>
    simp [Changes, Answered.registers, Answered.drops, Answered.unregisters, unknown quiet.2]
  | _ => rfl

/-- What a call may have done to the registration under a key. -/
inductive Kept (b : Books) (key : MemoryRef) (call : Answered) (b' : Books) (e' : Registration) :
    Prop
  /-- It registered a new object. -/
  | inserted {imported} (free : b.registrations key = none) (object : e'.object = b.next)
    (inserts : Inserts key call imported) (references : e'.references = if imported then 2 else 1)
    (origin : ∀ cell, b'.cells e'.object = some cell → cell.imported = imported)
  /-- It changed the references to the object that was registered before. -/
  | counted {e} (known : b.registrations key = some e) (object : e'.object = e.object)
    (changes : ∀ cell, b.cells e.object = some cell →
      Changes key cell.imported call e.references e'.references)

theorem Moves.kept {e' : Registration} (moves : b.Moves op answer b')
    (known' : b'.registrations key = some e') : Kept b key (op, answer) b' e' := by
  cases moves with
  | quiet quiet | skip quiet =>
    exact .counted known' rfl fun cell _ => quiet.changes known' cell.imported _
  | hold | share | drop => exact .counted known' rfl fun _ _ => rfl
  | own makes =>
    obtain ⟨_, _, _, _, rfl⟩ | ⟨_, rfl⟩ := makes <;> exact .counted known' rfl fun _ _ => rfl
  | clear => cases known'
  | create keyed free =>
    simp only [enter, Function.update_apply] at known'
    split at known'
    · next same =>
      subst same
      obtain rfl := Option.some.inj known'
      refine .inserted free rfl (.created keyed) rfl fun cell found => ?_
      obtain rfl := Option.some.inj ((enter_cells_next ..).symm.trans found)
      rfl
    · exact .counted known' rfl fun _ _ => rfl
  | «import» keyed free =>
    simp only [enter, Function.update_apply] at known'
    split at known'
    · next same =>
      subst same
      obtain rfl := Option.some.inj known'
      refine .inserted free rfl (.imported keyed) rfl fun cell found => ?_
      obtain rfl := Option.some.inj ((enter_cells_next ..).symm.trans found)
      rfl
    · next ne =>
      exact .counted known' rfl fun _ _ => .other (by simp [keyed, Ne.symm ne]) (.inl rfl) ..
  | acquire keyed known =>
    simp only [recount, Function.update_apply] at known'
    split at known'
    · next same =>
      subst same
      obtain rfl := Option.some.inj known'
      refine .counted known rfl fun _ _ => ?_
      simp [Changes, Answered.registers, Answered.drops, Answered.unregisters, keyed, Except.isOk,
        Except.toBool]
    · next ne =>
      exact .counted known' rfl fun _ _ => .other (by simp [keyed, Ne.symm ne]) (.inl rfl) ..
  | release releases keyed known object left =>
    simp only [recount, Function.update_apply] at known'
    split at known'
    · next same =>
      subst same
      obtain rfl := Option.some.inj known'
      refine .counted known rfl fun cell found => ?_
      obtain rfl := Option.some.inj (object.symm.trans found)
      obtain rfl | rfl := releases <;>
        simp only [Changes, Answered.registers, Answered.drops, Answered.unregisters, keyed, charge]
          at left ⊢ <;>
        simp at left ⊢ <;> omega
    · next ne =>
      exact .counted known' rfl fun _ _ => .other (by simp [keyed, Ne.symm ne]) (.inr releases) ..
  | remove releases keyed known object none =>
    simp only [Books.remove, Function.update_apply] at known'
    split at known'
    · cases known'
    · next ne =>
      exact .counted known' rfl fun _ _ => .other (by simp [keyed, Ne.symm ne]) (.inr releases) ..

theorem Moves.inserted {imported : Bool} (moves : b.Moves op answer b')
    (free : b.registrations key = none) (inserts : Inserts key (op, answer) imported) :
    (b'.registrations key).isSome := by
  cases inserts with
  | created keyed =>
    cases moves with
    | quiet quiet | skip quiet => cases quiet
    | create keyed' free' =>
      obtain rfl := Option.some.inj (keyed.symm.trans keyed')
      rw [enter_registrations]
      rfl
  | imported keyed =>
    cases moves with
    | quiet quiet | skip quiet => cases quiet.1
    | «import» keyed' free' =>
      obtain rfl := Option.some.inj (keyed.symm.trans keyed')
      rw [enter_registrations]
      rfl
    | acquire keyed' known =>
      obtain rfl := Option.some.inj (keyed.symm.trans keyed')
      rw [free] at known
      cases known
    | release releases => rcases releases with h | h <;> cases h
    | remove releases => rcases releases with h | h <;> cases h

/-- What a call may have done to a registration that is gone: the allocator goes with all of them,
or the call took at least as many references as there were, and what is left of the object is not in
use. -/
theorem Moves.lost {e : Registration} (moves : b.Moves op answer b')
    (known : b.registrations key = some e) (free : b'.registrations key = none) :
    op.endsAllocator ∨
      (∃ cell, b.cells e.object = some cell ∧ ∀ n,
        ¬Changes key cell.imported (op, answer) e.references (n + 1)) ∧
      ∀ cell, b'.cells e.object = some cell → cell.live = false := by
  have kept (same : b'.registrations key = b.registrations key) : False := by
    rw [same, known] at free
    cases free
  have updated {key' : MemoryRef} {e' : Registration}
      (same : b'.registrations = update b.registrations key' (some e')) : False := by
    rw [same, Function.update_apply] at free
    split at free
    · cases free
    · rw [known] at free
      cases free
  cases moves with
  | quiet | skip | hold | share | drop | own => exact (kept rfl).elim
  | create | «import» | acquire | release => exact (updated rfl).elim
  | clear => exact .inl rfl
  | @remove _ d key' e' cell releases keyed known' object none =>
    refine .inr ?_
    by_cases same : key = key'
    · subst same
      obtain rfl := Option.some.inj (known.symm.trans known')
      refine ⟨⟨cell, object, fun n changes => ?_⟩, fun cell' left => ?_⟩
      rotate_left
      · simp only [Books.remove, Function.update_self, object, Option.bind_some] at left
        obtain ⟨-, rfl⟩ := Cell.letGo_some left
        rfl
      obtain rfl | rfl := releases <;>
        simp only [Changes, Answered.registers, Answered.drops, Answered.unregisters, keyed, charge]
          at none changes <;>
        simp at none changes <;> omega
    · exact (kept (Function.update_of_ne same ..)).elim

end Books

/-! ## Runs -/

namespace Client

theorem run_concat (c : Client) (calls : List Operation) (op : Operation) :
    c.run (calls ++ [op]) = ((c.run calls).step op).2 := List.foldl_concat ..

theorem run_append (c : Client) (calls calls' : List Operation) :
    c.run (calls ++ calls') = (c.run calls).run calls' := List.foldl_append ..

theorem replies_append (c : Client) (calls calls' : List Operation) :
    c.replies (calls ++ calls') = c.replies calls ++ (c.run calls).replies calls' := by
  induction calls generalizing c with
  | nil => rfl
  | cons op calls ih => exact congrArg _ (ih _)

theorem replies_concat (c : Client) (calls : List Operation) (op : Operation) :
    c.replies (calls ++ [op]) = c.replies calls ++ [(op, ((c.run calls).step op).1)] :=
  c.replies_append calls [op]

theorem replies_map_fst (c : Client) (calls : List Operation) :
    (c.replies calls).map Prod.fst = calls := by
  induction calls generalizing c with
  | nil => rfl
  | cons op calls ih => exact congrArg _ (ih _)

/-- An object in use that has been imported or not. -/
def InUse (c : Client) (id : ObjectId) (imported : Bool) : Prop :=
  ∃ s, c.process.objects.get? id = some s ∧ s.object.imported = imported ∧
    s.object.buffer.isSome

theorem inUse_of_cell {c : Client} {id : ObjectId} {cell : Cell}
    (found : c.process.cells id = some cell) (live : cell.live) : c.InUse id cell.imported := by
  obtain ⟨s, held, rfl⟩ := Option.map_eq_some_iff.1 found
  exact ⟨s, held, rfl, live⟩

/-- The calls of `c` have left the object it first registers under `key` registered and in use, and
its references are balanced. -/
structure Open (c : Client) (key : MemoryRef) (imported : Bool) (calls : List Operation) :
    Prop where
  inUse : (c.run calls).InUse c.process.nextObject imported
  balanced : ∃ references, 1 ≤ references ∧ Balanced key imported (c.replies calls) references ∧
    (c.run calls).registration? key = some ⟨c.process.nextObject, references⟩

/-- The account of a registration: `op` registers a new object under a free key, and through the
calls after it that object stays registered, and its references are balanced. -/
structure Account (c : Client) (op : Operation) (after : List Operation) (key : MemoryRef)
    (imported : Bool) : Prop where
  free : c.registration? key = none
  inserts : Inserts key (op, (c.step op).1) imported
  balanced : ∀ calls, calls <+: after → c.Open key imported (op :: calls)

variable {c : Client} {key : MemoryRef} {imported : Bool}

theorem eq_mk {e : Registration} {id : ObjectId} (object : e.object = id) :
    e = ⟨id, e.references⟩ := by
  cases object
  rfl

/-- A call that registers a new object opens an account. -/
theorem Open.first (inOrder : c.InOrder) (free : c.registration? key = none) {op : Operation}
    (inserts : Inserts key (op, (c.step op).1) imported) : c.Open key imported [op] := by
  have moves := (step_keeps inOrder op).1
  obtain ⟨e, known⟩ := Option.isSome_iff_exists.1 (moves.inserted free inserts)
  obtain ⟨positive, cell, found, -, live⟩ := (inOrder.step op).consistent.entry key e known
  cases moves.kept known with
  | @inserted imported' _ object inserts' references origin =>
    obtain rfl := inserts'.unique inserts
    have inUse := inUse_of_cell found live
    rw [origin cell found, object] at inUse
    exact ⟨inUse, e.references, positive, references ▸ inserts.balanced,
      known.trans (congrArg some (eq_mk object))⟩
  | counted known₀ =>
    rw [show c.books.registrations key = none from free] at known₀
    cases known₀

/-- A call that leaves something registered leaves the account open. -/
theorem Open.concat (inOrder : c.InOrder) {calls : List Operation} {op : Operation}
    (opened : c.Open key imported calls) {e : Registration}
    (known : (c.run (calls ++ [op])).registration? key = some e) :
    c.Open key imported (calls ++ [op]) := by
  obtain ⟨⟨s, held, origin, -⟩, n, -, balanced, known₀⟩ := opened
  have inOrder := inOrder.run calls
  have moves := (step_keeps inOrder op).1
  rw [run_concat] at known
  obtain ⟨positive, cell, found, -, live⟩ := (inOrder.step op).consistent.entry key e known
  cases moves.kept known with
  | inserted free =>
    rw [show (c.run calls).books.registrations key = some _ from known₀] at free
    cases free
  | counted known₁ object changes =>
    obtain rfl := Option.some.inj (known₁.symm.trans known₀)
    have old : (c.run calls).books.cells c.process.nextObject = some s.cell :=
      congrArg (Option.map Shared.cell) held
    have below := inOrder.consistent.below _ _ old
    obtain ⟨cell₀, old', later⟩ := moves.cell below (object ▸ found)
    obtain rfl := Option.some.inj (old.symm.trans old')
    have origin : s.cell.imported = imported := origin
    have inUse := inUse_of_cell found live
    rw [later.imported, object, origin, ← run_concat] at inUse
    have counted := balanced.concat (origin ▸ changes _ old)
    rw [← replies_concat] at counted
    rw [← run_concat] at known
    exact ⟨inUse, e.references, positive, counted, known.trans (congrArg some (eq_mk object))⟩

/-- Every registered object has its account. -/
theorem run_account (inOrder : c.InOrder) (free : c.registration? key = none)
    (calls : List Operation) {e : Registration}
    (known : (c.run calls).registration? key = some e) :
    ∃ before op after imported, calls = before ++ op :: after ∧
      (c.run before).Account op after key imported ∧
      e.object = (c.run before).process.nextObject := by
  -- The last call either registered the object or changed the balance of its account.
  induction calls using List.reverseRecOn generalizing e with
  | nil =>
    rw [show c.run [] = c from rfl, free] at known
    cases known
  | append_singleton calls op ih =>
    rw [run_concat] at known
    have moves := (step_keeps (inOrder.run calls) op).1
    cases moves.kept known with
    | @inserted imported free object inserts =>
      refine ⟨calls, op, [], imported, rfl, ⟨free, inserts, fun calls' none => ?_⟩, object⟩
      obtain rfl := List.prefix_nil.1 none
      exact .first (inOrder.run calls) free inserts
    | @counted e₀ known₀ object =>
      obtain ⟨before, op₀, after, imported, rfl, account, new⟩ := ih known₀
      refine ⟨before, op₀, after ++ [op], imported, by simp,
        ⟨account.free, account.inserts, fun calls' none => ?_⟩, object.trans new⟩
      obtain rfl | earlier := List.prefix_concat_iff.1 none
      · have opened := account.balanced after (List.prefix_refl _)
        rw [← run_concat, List.append_assoc, run_append] at known
        exact opened.concat (inOrder.run before) known
      · exact account.balanced calls' earlier

end Client

end GraphicsBuffers

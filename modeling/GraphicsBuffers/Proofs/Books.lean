import GraphicsBuffers.Proofs.Client
import Mathlib.Data.List.Nodup
import Mathlib.Logic.Function.Basic
/-!
# The books of a client

What a client's state says of registrations and holds, and nothing else: which object is registered
under a key with how many references, and of every object its key, whether it was imported, whether
it is still in use and how many holders it has. `Books.Moves` says how each call changes the books,
given what it answers. It leaves open why a call fails: that is for backends and kernels to say.

`Books.Consistent` is what keeps the registry and the objects together: a registered object is alive,
is in use and has the key it is registered under, and every holder of an object is either the
registry or a hold of the client. Every move preserves it (`Moves.consistent`).
-/

namespace GraphicsBuffers

/-- What the books say of an object. -/
structure Cell where
  key? : Option MemoryRef
  imported : Bool
  /-- Whether the object is still in use, that is not destroyed. -/
  live : Bool
  holders : Nat
  deriving DecidableEq

/-- What the books say of an object, once one holder has let it go. -/
def Cell.letGo (cell : Cell) : Option Cell :=
  if 1 < cell.holders then some { cell with holders := cell.holders - 1 } else none

/-- The cell of a destroyed object. -/
def Cell.destroyed (cell : Cell) : Cell := { cell with live := false }

theorem Cell.letGo_some {cell cell' : Cell} (left : cell.letGo = some cell') :
    1 < cell.holders ∧ cell' = { cell with holders := cell.holders - 1 } := by
  unfold Cell.letGo at left
  split at left
  · next many => exact ⟨many, (Option.some.inj left).symm⟩
  · cases left

theorem Cell.letGo_of_lt {cell : Cell} (many : 1 < cell.holders) :
    cell.letGo = some { cell with holders := cell.holders - 1 } := if_pos many

/-- An object keeps its key and its origin, and is not brought back to life. -/
structure Cell.Later (cell cell' : Cell) : Prop where
  key : cell'.key? = cell.key?
  imported : cell'.imported = cell.imported
  live : cell'.live → cell.live

theorem Cell.Later.refl (cell : Cell) : cell.Later cell := ⟨rfl, rfl, id⟩

theorem Cell.letGo_later {cell cell' : Cell} (left : cell.letGo = some cell') :
    cell.Later cell' := by
  obtain ⟨-, rfl⟩ := Cell.letGo_some left
  exact ⟨rfl, rfl, id⟩

theorem Cell.destroyed_later {cell cell' : Cell} (left : cell.destroyed.letGo = some cell') :
    cell.Later cell' := by
  obtain ⟨-, rfl⟩ := Cell.letGo_some left
  exact ⟨rfl, rfl, nofun⟩

/-- The entry of an object in the books. -/
def Shared.cell (s : Shared) : Cell :=
  ⟨s.object.descriptor.key?, s.object.imported, s.object.buffer.isSome, s.holders⟩

/-- The entries of all objects of a process. -/
def Process.cells (p : Process) (id : ObjectId) : Option Cell :=
  (p.objects.get? id).map Shared.cell

/-- The books. -/
@[ext] structure Books where
  registrations : MemoryRef → Option Registration
  cells : ObjectId → Option Cell
  next : ObjectId
  holds : List ObjectId

/-- The books of an allocator and its process, and of the client who holds these objects. -/
def Allocator.books (a : Allocator) (p : Process) (holds : List ObjectId) : Books :=
  ⟨a.registry.entries.get?, p.cells, p.nextObject, holds⟩

/-- The object registered under a key, with its references. -/
def Client.registration? (c : Client) (key : MemoryRef) : Option Registration :=
  c.allocator.bind fun a => a.registry.entries.get? key

/-- The books of a client. -/
def Client.books (c : Client) : Books :=
  ⟨c.registration?, c.process.cells, c.process.nextObject, c.holds⟩

namespace Books

open Function (update)

variable (b : Books)

/-! ## Entries -/

/-- A new object came to nothing. -/
def skip : Books := { b with next := b.next + 1 }

/-- A new object is registered. -/
def enter (key : MemoryRef) (imported : Bool) (references : Nat) : Books :=
  { b with
    registrations := update b.registrations key (some ⟨b.next, references⟩)
    cells := update b.cells b.next (some ⟨some key, imported, true, 1⟩)
    next := b.next + 1 }

theorem enter_registrations (key : MemoryRef) (imported : Bool) (references : Nat) :
    (b.enter key imported references).registrations key = some ⟨b.next, references⟩ :=
  Function.update_self ..

theorem enter_cells_next (key : MemoryRef) (imported : Bool) (references : Nat) :
    (b.enter key imported references).cells b.next = some ⟨some key, imported, true, 1⟩ :=
  Function.update_self ..

/-- The references under a key change. -/
def recount (key : MemoryRef) (e : Registration) (references : Nat) : Books :=
  { b with registrations := update b.registrations key (some { e with references }) }

/-- An object is destroyed and no longer registered. -/
def remove (key : MemoryRef) (id : ObjectId) : Books :=
  { b with
    registrations := update b.registrations key none
    cells := update b.cells id ((b.cells id).bind fun cell => cell.destroyed.letGo) }

/-- The client has one more hold on an object. -/
def share (id : ObjectId) : Books :=
  { b with
    cells := update b.cells id
      ((b.cells id).map fun cell => { cell with holders := cell.holders + 1 })
    holds := id :: b.holds }

/-- The client has one hold less on an object. -/
def drop (id : ObjectId) : Books :=
  { b with
    cells := update b.cells id ((b.cells id).bind Cell.letGo)
    holds := b.holds.erase id }

/-- The client has a new object. -/
def own (cell : Cell) : Books :=
  { b with
    cells := update b.cells b.next (some { cell with holders := 1 })
    next := b.next + 1
    holds := b.next :: b.holds }

open Classical in
/-- Nothing is registered any more. -/
noncomputable def clear : Books :=
  { b with
    registrations := fun _ => none
    cells := fun id =>
      if ∃ key e, b.registrations key = some e ∧ e.object = id then (b.cells id).bind Cell.letGo
      else b.cells id }

/-! ## How calls change the books -/

/-- The object registered under the key of a descriptor. -/
def lookup? (d : Descriptor) : Option Registration := d.key?.bind b.registrations

/-- How many references a release of the object under a descriptor's key takes. -/
def charge (imported : Bool) : Operation → Nat
  | .unregister _ => if imported then 2 else 1
  | _ => 1

/-- A call that leaves the books as they are: one that fails, if it could have changed them. -/
def Quiet (op : Operation) (answer : Except Error Reply) : Prop :=
  match op with
  | .create .. | .createObject .. | .importObject _ => answer.isOk = false
  | .register d => answer.isOk = false ∧ b.lookup? d = none
  | .unregister d | .dropLocal d | .hold d => answer = .error .invalidHandle ∧ b.lookup? d = none
  | .share id | .drop id => answer = .error .invalidHandle ∧ id ∉ b.holds
  | _ => True

/-- What a call that answers so makes of the books. -/
inductive Moves : Operation → Except Error Reply → Books → Prop
  | quiet {op answer} (quiet : b.Quiet op answer) : Moves op answer b
  | skip {op answer} (quiet : b.Quiet op answer) : Moves op answer b.skip
  | create {width height format usage d pixelStride key} (keyed : d.key? = some key)
    (free : b.registrations key = none) :
    Moves (.create width height format usage) (.ok (.created d pixelStride)) (b.enter key false 1)
  | import {d key} (keyed : d.key? = some key) (free : b.registrations key = none) :
    Moves (.register d) (.ok .done) (b.enter key true 2)
  | acquire {d key e} (keyed : d.key? = some key) (known : b.registrations key = some e) :
    Moves (.register d) (.ok .done) (b.recount key e (e.references + 1))
  | release {op d key e cell} (releases : op = .unregister d ∨ op = .dropLocal d)
    (keyed : d.key? = some key) (known : b.registrations key = some e)
    (object : b.cells e.object = some cell) (left : charge cell.imported op < e.references) :
    Moves op (.ok .done) (b.recount key e (e.references - charge cell.imported op))
  | remove {op d key e cell} (releases : op = .unregister d ∨ op = .dropLocal d)
    (keyed : d.key? = some key) (known : b.registrations key = some e)
    (object : b.cells e.object = some cell) (none : e.references ≤ charge cell.imported op) :
    Moves op (.ok .done) (b.remove key e.object)
  | hold {d e} (known : b.lookup? d = some e) :
    Moves (.hold d) (.ok (.object e.object)) (b.share e.object)
  | share {id} (held : id ∈ b.holds) : Moves (.share id) (.ok .done) (b.share id)
  | drop {id} (held : id ∈ b.holds) : Moves (.drop id) (.ok .done) (b.drop id)
  | own {op cell} (makes : (∃ width height format usage, op = .createObject width height format usage)
      ∨ ∃ d, op = .importObject d) : Moves op (.ok (.object b.next)) (b.own cell)
  | clear {order} : Moves (.dropAllocator order) (.ok .done) b.clear

variable {b} in
theorem Moves.unchanged {op : Operation} {answer : Except Error Reply} {b' : Books} (same : b' = b)
    (quiet : b.Quiet op answer) : b.Moves op answer b' := by
  subst same
  exact .quiet quiet

/-! ## Consistent books -/

/-- Registry, objects and holds fit together. -/
structure Consistent (b : Books) : Prop where
  below : ∀ id cell, b.cells id = some cell → id < b.next
  /-- A registered object has references, exists, is in use, and has the key it is registered
  under. -/
  entry : ∀ key e, b.registrations key = some e →
    0 < e.references ∧ ∃ cell, b.cells e.object = some cell ∧ cell.key? = some key ∧ cell.live
  held : ∀ id ∈ b.holds, (b.cells id).isSome
  /-- The holders of a registered object are the registry and the client's holds. -/
  registered : ∀ key e cell, b.registrations key = some e → b.cells e.object = some cell →
    cell.holders = b.holds.count e.object + 1
  /-- The holders of any other object are the client's holds. -/
  unregistered : ∀ id cell, b.cells id = some cell →
    (∀ key e, b.registrations key = some e → e.object ≠ id) →
    cell.holders = b.holds.count id ∧ 0 < cell.holders

variable {b}

/-- An object is registered under its own key only. -/
theorem Consistent.key_inj (h : b.Consistent) {key key' : MemoryRef} {e e' : Registration}
    (known : b.registrations key = some e) (known' : b.registrations key' = some e')
    (same : e.object = e'.object) : key = key' := by
  obtain ⟨-, cell, found, keyed, -⟩ := h.entry key e known
  obtain ⟨-, cell', found', keyed', -⟩ := h.entry key' e' known'
  rw [same, found', Option.some.injEq] at found
  subst found
  rw [keyed', Option.some.injEq] at keyed
  exact keyed.symm

theorem Consistent.fresh (h : b.Consistent) : b.cells b.next = none := by
  cases found : b.cells b.next with
  | none => rfl
  | some cell => exact absurd (h.below _ _ found) (Nat.lt_irrefl _)

theorem Consistent.entry_lt (h : b.Consistent) {key : MemoryRef} {e : Registration}
    (known : b.registrations key = some e) : e.object < b.next := by
  obtain ⟨-, cell, found, -, -⟩ := h.entry key e known
  exact h.below _ _ found

theorem Consistent.held_lt (h : b.Consistent) {id : ObjectId} (held : id ∈ b.holds) :
    id < b.next := by
  obtain ⟨cell, found⟩ := Option.isSome_iff_exists.1 (h.held id held)
  exact h.below _ _ found

theorem Consistent.skip (h : b.Consistent) : b.skip.Consistent where
  below id cell found := Nat.lt_succ_of_lt (h.below id cell found)
  entry := h.entry
  held := h.held
  registered := h.registered
  unregistered := h.unregistered

theorem Consistent.enter (h : b.Consistent) {key : MemoryRef} {imported : Bool} {references : Nat}
    (free : b.registrations key = none) (positive : 0 < references) :
    (b.enter key imported references).Consistent where
  below id cell found := by
    simp only [Books.enter, Function.update_apply] at found ⊢
    split at found
    · next new => exact new ▸ Nat.lt_succ_self _
    · exact Nat.lt_succ_of_lt (h.below id cell found)
  entry key' e known := by
    simp only [Books.enter, Function.update_apply] at known ⊢
    split at known
    · next same =>
      obtain rfl := Option.some.inj known
      exact ⟨positive, ⟨some key, imported, true, 1⟩, if_pos rfl, congrArg some same.symm, rfl⟩
    · rw [if_neg (Nat.ne_of_lt (h.entry_lt known))]
      exact h.entry key' e known
  held id held := by
    simp only [Books.enter, Function.update_apply]
    split
    · rfl
    · exact h.held id held
  registered key' e cell known found := by
    simp only [Books.enter, Function.update_apply] at known found ⊢
    split at known
    · obtain rfl := Option.some.inj known
      rw [if_pos rfl] at found
      obtain rfl := Option.some.inj found
      have : b.holds.count b.next = 0 :=
        List.count_eq_zero.2 fun held => Nat.lt_irrefl _ (h.held_lt held)
      simp [this]
    · rw [if_neg (Nat.ne_of_lt (h.entry_lt known))] at found
      exact h.registered key' e cell known found
  unregistered id cell found other := by
    simp only [Books.enter, Function.update_apply] at found other ⊢
    split at found
    · next new => exact absurd new.symm (other key ⟨b.next, references⟩ (if_pos rfl))
    · refine h.unregistered id cell found fun key' e known => other key' e ?_
      rw [if_neg (fun same => by simp [same, free] at known)]
      exact known

theorem Consistent.recount (h : b.Consistent) {key : MemoryRef} {e : Registration}
    {references : Nat} (known : b.registrations key = some e) (positive : 0 < references) :
    (b.recount key e references).Consistent := by
  -- The entries name the same objects as before.
  have same {key' : MemoryRef} {e' : Registration}
      (known' : (b.recount key e references).registrations key' = some e') :
      ∃ e'', b.registrations key' = some e'' ∧ e''.object = e'.object ∧
        (0 < e''.references → 0 < e'.references) := by
    simp only [Books.recount, Function.update_apply] at known'
    split at known'
    · next eq =>
      obtain rfl := Option.some.inj known'
      exact ⟨e, eq ▸ known, rfl, fun _ => positive⟩
    · exact ⟨e', known', rfl, id⟩
  refine ⟨h.below, ?_, h.held, ?_, ?_⟩
  · intro key' e' known'
    obtain ⟨e'', known'', object, references⟩ := same known'
    rw [← object]
    exact ⟨references (h.entry key' e'' known'').1, (h.entry key' e'' known'').2⟩
  · intro key' e' cell known' found
    obtain ⟨e'', known'', object, -⟩ := same known'
    rw [← object] at found ⊢
    exact h.registered key' e'' cell known'' found
  · intro id cell found other
    refine h.unregistered id cell found fun key' e' known' => ?_
    by_cases eq : key' = key
    · subst eq
      rw [known, Option.some.injEq] at known'
      subst known'
      exact other key' { e with references } (Function.update_self ..)
    · exact other key' e' (by simpa only [Books.recount, Function.update_apply, if_neg eq])

theorem Consistent.remove (h : b.Consistent) {key : MemoryRef} {e : Registration}
    (known : b.registrations key = some e) : (b.remove key e.object).Consistent := by
  obtain ⟨-, cell, found, -, -⟩ := h.entry key e known
  have holders := h.registered key e cell known found
  -- The other entries are about other objects.
  have others {key' : MemoryRef} {e' : Registration}
      (known' : (b.remove key e.object).registrations key' = some e') :
      b.registrations key' = some e' ∧ e'.object ≠ e.object := by
    simp only [Books.remove, Function.update_apply] at known'
    split at known'
    · cases known'
    · next ne => exact ⟨known', fun same => ne (h.key_inj known' known same)⟩
  have same : (b.remove key e.object).cells e.object = cell.destroyed.letGo := by
    simp only [Books.remove, Function.update_self, found, Option.bind_some]
  have elsewhere {id : ObjectId} (ne : id ≠ e.object) :
      (b.remove key e.object).cells id = b.cells id := Function.update_of_ne ne ..
  refine ⟨?_, ?_, ?_, ?_, ?_⟩
  · intro id cell' found'
    by_cases eq : id = e.object
    · rw [eq]
      exact h.below _ _ found
    · exact h.below _ _ (elsewhere eq ▸ found')
  · intro key' e' known'
    obtain ⟨known', ne⟩ := others known'
    rw [elsewhere ne]
    exact h.entry key' e' known'
  · intro id held
    by_cases eq : id = e.object
    · have : 0 < b.holds.count e.object := List.count_pos_iff.2 (eq ▸ held)
      have many : 1 < cell.holders := by omega
      rw [eq, same, @Cell.letGo_of_lt cell.destroyed many]
      rfl
    · rw [elsewhere eq]
      exact h.held id held
  · intro key' e' cell' known' found'
    obtain ⟨known', ne⟩ := others known'
    exact h.registered key' e' cell' known' (elsewhere ne ▸ found')
  · intro id cell' found' none
    by_cases eq : id = e.object
    · subst eq
      rw [same] at found'
      obtain ⟨many, rfl⟩ := Cell.letGo_some found'
      change 1 < cell.holders at many
      change cell.holders - 1 = b.holds.count e.object ∧ 0 < cell.holders - 1
      omega
    · refine h.unregistered id cell' (elsewhere eq ▸ found') fun key' e' known' object => ?_
      have ne : key' ≠ key := by
        rintro rfl
        rw [known, Option.some.injEq] at known'
        exact eq (known' ▸ object.symm)
      exact none key' e' (by simpa only [Books.remove, Function.update_apply, if_neg ne]) object

/-- A client's hold on an object changes its holders by as many as its holds. -/
theorem Consistent.rehold (h : b.Consistent) {id : ObjectId} {cell : Cell} (n : Nat)
    (holds : List ObjectId) (found : b.cells id = some cell)
    (same : n + b.holds.count id = cell.holders + holds.count id)
    (others : ∀ id' ≠ id, holds.count id' = b.holds.count id') (positive : 0 < n) :
    ({ b with cells := update b.cells id (some { cell with holders := n }), holds } : Books).Consistent where
  below id' cell' found' := by
    simp only [Function.update_apply] at found'
    split at found'
    · next eq =>
      rw [eq]
      exact h.below _ _ found
    · exact h.below _ _ found'
  entry key e known := by
    obtain ⟨positive, cell', found', keyed, live⟩ := h.entry key e known
    refine ⟨positive, ?_⟩
    simp only [Function.update_apply]
    split
    · next eq =>
      rw [eq, found, Option.some.injEq] at found'
      subst found'
      exact ⟨_, rfl, keyed, live⟩
    · exact ⟨cell', found', keyed, live⟩
  held id' held := by
    simp only [Function.update_apply]
    split
    · rfl
    · next ne =>
      exact h.held id' (List.count_pos_iff.1 (others id' ne ▸ List.count_pos_iff.2 held))
  registered key e cell' known found' := by
    simp only [Function.update_apply] at found'
    split at found'
    · next eq =>
      have := h.registered key e cell known (eq ▸ found)
      rw [eq] at this ⊢
      obtain rfl := Option.some.inj found'
      dsimp only
      omega
    · next ne =>
      rw [others _ ne]
      exact h.registered key e cell' known found'
  unregistered id' cell' found' none := by
    simp only [Function.update_apply] at found'
    split at found'
    · next eq =>
      subst eq
      have := h.unregistered id' cell found none
      obtain rfl := Option.some.inj found'
      dsimp only
      omega
    · next ne =>
      rw [others _ ne]
      exact h.unregistered id' cell' found' none

theorem Consistent.share (h : b.Consistent) {id : ObjectId} {cell : Cell}
    (found : b.cells id = some cell) : (b.share id).Consistent := by
  have := h.rehold (cell.holders + 1) (id :: b.holds) found
    (by rw [List.count_cons_self]; omega) (fun id' ne => List.count_cons_of_ne ne.symm)
    (Nat.succ_pos _)
  simpa only [Books.share, found, Option.map_some] using this

theorem Consistent.drop (h : b.Consistent) {id : ObjectId} (held : id ∈ b.holds) :
    (b.drop id).Consistent := by
  obtain ⟨cell, found⟩ := Option.isSome_iff_exists.1 (h.held id held)
  have positive : 0 < b.holds.count id := List.count_pos_iff.2 held
  have erased : (b.holds.erase id).count id = b.holds.count id - 1 := List.count_erase_self ..
  by_cases many : 1 < cell.holders
  · have := h.rehold (cell.holders - 1) (b.holds.erase id) found (by omega)
      (fun id' ne => List.count_erase_of_ne ne) (by omega)
    simpa only [Books.drop, found, Option.bind_some, Cell.letGo_of_lt many] using this
  -- The last holder is the client, so the object is not registered.
  have last : cell.letGo = none := if_neg many
  have unregistered (key : MemoryRef) (e : Registration) (known : b.registrations key = some e) :
      e.object ≠ id := by
    rintro rfl
    have := h.registered key e cell known found
    omega
  have once : cell.holders = b.holds.count id := (h.unregistered id cell found unregistered).1
  have gone : (b.drop id).cells id = none := by
    simp only [Books.drop, Function.update_self, found, Option.bind_some, last]
  have elsewhere {id' : ObjectId} (ne : id' ≠ id) : (b.drop id).cells id' = b.cells id' :=
    Function.update_of_ne ne ..
  have others {id' : ObjectId} (ne : id' ≠ id) :
      (b.drop id).holds.count id' = b.holds.count id' := List.count_erase_of_ne ne
  have found_ne {id' : ObjectId} {cell' : Cell} (found' : (b.drop id).cells id' = some cell') :
      id' ≠ id ∧ b.cells id' = some cell' := by
    have ne : id' ≠ id := by
      rintro rfl
      rw [gone] at found'
      cases found'
    exact ⟨ne, elsewhere ne ▸ found'⟩
  refine ⟨?_, ?_, ?_, ?_, ?_⟩
  · intro id' cell' found'
    exact h.below _ _ (found_ne found').2
  · intro key e known
    rw [elsewhere (unregistered key e known)]
    exact h.entry key e known
  · intro id' held'
    have ne : id' ≠ id := by
      rintro rfl
      have : 0 < (b.holds.erase id').count id' := List.count_pos_iff.2 held'
      omega
    rw [elsewhere ne]
    exact h.held id' (List.mem_of_mem_erase held')
  · intro key e cell' known found'
    rw [others (unregistered key e known)]
    exact h.registered key e cell' known (found_ne found').2
  · intro id' cell' found' none
    obtain ⟨ne, found'⟩ := found_ne found'
    rw [others ne]
    exact h.unregistered id' cell' found' none

theorem Consistent.own (h : b.Consistent) (cell : Cell) : (b.own cell).Consistent := by
  have unheld : b.holds.count b.next = 0 :=
    List.count_eq_zero.2 fun held => Nat.lt_irrefl _ (h.held_lt held)
  have other {id : ObjectId} (lt : id < b.next) :
      (b.own cell).cells id = b.cells id ∧ (b.own cell).holds.count id = b.holds.count id :=
    ⟨Function.update_of_ne (Nat.ne_of_lt lt) .., List.count_cons_of_ne (Nat.ne_of_gt lt)⟩
  refine ⟨?_, ?_, ?_, ?_, ?_⟩
  · intro id cell' found'
    simp only [Books.own, Function.update_apply] at found'
    split at found'
    · next eq => exact eq ▸ Nat.lt_succ_self _
    · exact Nat.lt_succ_of_lt (h.below _ _ found')
  · intro key e known
    rw [(other (h.entry_lt known)).1]
    exact h.entry key e known
  · intro id held
    simp only [Books.own, Function.update_apply]
    split
    · rfl
    · next ne => exact h.held id ((List.mem_cons.1 held).resolve_left ne)
  · intro key e cell' known found'
    obtain ⟨cells, holds⟩ := other (h.entry_lt known)
    rw [holds]
    exact h.registered key e cell' known (cells ▸ found')
  · intro id cell' found' none
    by_cases eq : id = b.next
    · subst eq
      have same : (b.own cell).cells b.next = some { cell with holders := 1 } :=
        Function.update_self ..
      obtain rfl := Option.some.inj (same ▸ found')
      have : (b.own cell).holds.count b.next = 1 := by
        rw [Books.own, List.count_cons_self, unheld]
      exact ⟨this.symm, Nat.one_pos⟩
    · have found : b.cells id = some cell' := by
        simpa only [Books.own, Function.update_apply, if_neg eq] using found'
      rw [(other (h.below id cell' found)).2]
      exact h.unregistered id cell' found none

theorem Consistent.clear (h : b.Consistent) : b.clear.Consistent := by
  classical
  -- What is left of an object has been held by the client.
  have left {id : ObjectId} {cell : Cell} (found : b.clear.cells id = some cell) :
      ∃ cell', b.cells id = some cell' ∧ cell.holders = b.holds.count id ∧ 0 < cell.holders := by
    simp only [Books.clear] at found
    split at found
    · next known =>
      obtain ⟨key, e, known, rfl⟩ := known
      obtain ⟨cell', found', gone⟩ := Option.bind_eq_some_iff.1 found
      have := h.registered key e cell' known found'
      obtain ⟨many, rfl⟩ := Cell.letGo_some gone
      refine ⟨cell', found', ?_⟩
      dsimp only
      omega
    · next unknown =>
      have others (key : MemoryRef) (e : Registration) (known : b.registrations key = some e) :
          e.object ≠ id := fun same => unknown ⟨key, e, known, same⟩
      exact ⟨cell, found, h.unregistered id cell found others⟩
  refine ⟨?_, nofun, ?_, nofun, ?_⟩
  · intro id cell found
    obtain ⟨cell', found', -⟩ := left found
    exact h.below id cell' found'
  · intro id held
    have positive : 0 < b.holds.count id := List.count_pos_iff.2 held
    simp only [Books.clear]
    split
    · next known =>
      obtain ⟨key, e, known, rfl⟩ := known
      obtain ⟨cell, found⟩ := Option.isSome_iff_exists.1 (h.held _ held)
      have := h.registered key e cell known found
      rw [found, Option.bind_some, Cell.letGo_of_lt (by omega)]
      rfl
    · exact h.held id held
  · intro id cell found _
    exact (left found).choose_spec.2

/-- Every move keeps the books consistent. -/
theorem Moves.consistent {op : Operation} {answer : Except Error Reply} {b' : Books}
    (moves : b.Moves op answer b') (h : b.Consistent) : b'.Consistent := by
  cases moves with
  | quiet => exact h
  | skip => exact h.skip
  | create keyed free => exact h.enter free Nat.one_pos
  | «import» keyed free => exact h.enter free Nat.two_pos
  | acquire keyed known => exact h.recount known (Nat.succ_pos _)
  | release releases keyed known object left => exact h.recount known (Nat.sub_pos_of_lt left)
  | remove releases keyed known object none => exact h.remove known
  | hold known =>
    obtain ⟨key, -, known⟩ := Option.bind_eq_some_iff.1 known
    obtain ⟨-, cell, found, -⟩ := h.entry key _ known
    exact h.share found
  | share held =>
    obtain ⟨cell, found⟩ := Option.isSome_iff_exists.1 (h.held _ held)
    exact h.share found
  | drop held => exact h.drop held
  | own makes => exact h.own _
  | clear => exact h.clear

/-! ## What stays of an object -/

theorem Moves.next_le {op : Operation} {answer : Except Error Reply} {b' : Books}
    (moves : b.Moves op answer b') : b.next ≤ b'.next := by
  cases moves <;> first | exact Nat.le_refl _ | exact Nat.le_succ _

theorem Moves.cell {op : Operation} {answer : Except Error Reply} {b' : Books}
    (moves : b.Moves op answer b') {id : ObjectId} {cell : Cell} (below : id < b.next)
    (found' : b'.cells id = some cell) : ∃ cell', b.cells id = some cell' ∧ cell'.Later cell := by
  have same (found : b.cells id = some cell) : ∃ cell', b.cells id = some cell' ∧ cell'.Later cell :=
    ⟨cell, found, .refl cell⟩
  -- An entry that is updated comes from the one there was.
  have updated {id' : ObjectId} {entry : Option Cell}
      (later : ∀ cell, entry = some cell → ∃ cell', b.cells id' = some cell' ∧ cell'.Later cell)
      (found : update b.cells id' entry id = some cell) :
      ∃ cell', b.cells id = some cell' ∧ cell'.Later cell := by
    rw [Function.update_apply] at found
    split at found
    · next eq => exact eq ▸ later cell found
    · exact same found
  have let_go {id' : ObjectId} {f : Cell → Option Cell}
      (later : ∀ cell cell', f cell = some cell' → cell.Later cell') (cell : Cell)
      (left : (b.cells id').bind f = some cell) :
      ∃ cell', b.cells id' = some cell' ∧ cell'.Later cell := by
    obtain ⟨cell', found, left⟩ := Option.bind_eq_some_iff.1 left
    exact ⟨cell', found, later _ _ left⟩
  cases moves with
  | quiet | skip | acquire | release => exact same found'
  | create | «import» | own =>
    exact same ((Function.update_of_ne (Nat.ne_of_lt below) ..).symm.trans found')
  | remove => exact updated (let_go fun _ _ => Cell.destroyed_later) found'
  | hold | share =>
    refine updated (fun cell more => ?_) found'
    obtain ⟨cell', found, rfl⟩ := Option.map_eq_some_iff.1 more
    exact ⟨cell', found, rfl, rfl, fun live => live⟩
  | drop => exact updated (let_go fun _ _ => Cell.letGo_later) found'
  | clear =>
    classical
    simp only [Books.clear] at found'
    split at found'
    · exact let_go (fun _ _ => Cell.letGo_later) cell found'
    · exact same found'

end Books

end GraphicsBuffers

import GraphicsBuffers.Proofs.Cards
import GraphicsBuffers.Proofs.DumbObjects
import GraphicsBuffers.Proofs.Processes
import Mathlib.Logic.Function.Basic
/-!
# Who owns what in a process

In a process whose objects are all on one card that the dumb-buffer backend serves, everything the
kernel has given out is owned by one of the objects, and by one only. `Process.Orderly` says so, and
that the card is open as long as an object or one of so many other holders holds it. Taking an object
in, using it, sharing it and letting it go preserve it.
-/

namespace GraphicsBuffers

open Function (update)

/-- Everything that is given out has exactly one owner, and nothing else has one. -/
structure Apportioned (live : Set Resource) (owned : ObjectId → Set Resource) : Prop where
  all : ∀ r, r ∈ live ↔ ∃ id, r ∈ owned id
  apart : ∀ r id id', r ∈ owned id → r ∈ owned id' → id = id'

namespace Apportioned

variable {k k' : Kernel} {owned : ObjectId → Set Resource} {B : Set Resource} {id : ObjectId}

theorem owns (h : Apportioned k.live owned) (id : ObjectId) : owned id ⊆ k.live :=
  fun r mem => (h.all r).2 ⟨id, mem⟩

/-- One owner trades what it owns. -/
theorem trade (h : Apportioned k.live owned) (trades : k.Trades (owned id) B k') :
    Apportioned k'.live (update owned id B) where
  all r := by
    rw [trades.live, h.all]
    constructor
    · rintro (⟨⟨id', mem⟩, kept⟩ | mem)
      · refine ⟨id', ?_⟩
        rwa [Function.update_of_ne]
        rintro rfl
        exact kept mem
      · exact ⟨id, by rwa [Function.update_self]⟩
    · rintro ⟨id', mem⟩
      by_cases same : id' = id
      · subst same
        rw [Function.update_self] at mem
        exact .inr mem
      · rw [Function.update_of_ne same] at mem
        exact .inl ⟨⟨id', mem⟩, fun traded => same (h.apart r id' id mem traded)⟩
  apart r id₁ id₂ mem₁ mem₂ := by
    -- What is new is nobody else's.
    have new {id' : ObjectId} (ne : id' ≠ id) (given : r ∈ B) (mem : r ∈ owned id') : False :=
      ne (h.apart r id' id mem (trades.fresh r given (h.owns id' mem)))
    simp only [Function.update_apply] at mem₁ mem₂
    split at mem₁ <;> split at mem₂
    · next eq₁ eq₂ => exact eq₁.trans eq₂.symm
    · next ne => exact (new ne mem₁ mem₂).elim
    · next ne _ => exact (new ne mem₂ mem₁).elim
    · exact h.apart r id₁ id₂ mem₁ mem₂

theorem neutral (h : Apportioned k.live owned) (trades : k.Trades ∅ ∅ k') :
    Apportioned k'.live owned where
  all r := by
    rw [trades.live, ← h.all]
    simp
  apart := h.apart

end Apportioned

namespace Process

/-- What an object of a process owns. -/
def owned (p : Process) (id : ObjectId) : Set Resource :=
  match p.objects.get? id with
  | none => ∅
  | some s => s.object.resources

/-- Everything has one owner, and the card is held by the objects and so many others. -/
structure Orderly (fd : Int32) (others : Nat) (p : Process) : Prop where
  sound : p.host.kernel.Sound
  apportioned : Apportioned p.host.kernel.live p.owned
  onDumb : ∀ id s, p.objects.get? id = some s → s.object.OnDumb fd
  below : ∀ id s, p.objects.get? id = some s → id < p.nextObject
  held : p.host.CardHeld fd (p.objects.size + others)

section Owned

variable {p : Process} {id : ObjectId}

theorem owned_of_get? {s : Shared} (held : p.objects.get? id = some s) :
    p.owned id = s.object.resources := by rw [owned, held]

theorem owned_of_none (gone : p.objects.get? id = none) : p.owned id = ∅ := by rw [owned, gone]

theorem owned_insert (s : Shared) :
    ({ p with objects := p.objects.insert id s } : Process).owned =
      update p.owned id s.object.resources := by
  funext id'
  simp only [owned, Table.get?_insert, Function.update_apply]
  by_cases eq : id' = id
  · simp only [eq, if_true]
  · simp only [eq, if_false]

theorem owned_erase :
    ({ p with objects := p.objects.erase id } : Process).owned = update p.owned id ∅ := by
  funext id'
  simp only [owned, Table.get?_erase, Function.update_apply]
  by_cases eq : id' = id
  · simp only [eq, if_true]
  · simp only [eq, if_false]

theorem owned_onObject {α : Type} {x : ObjectM α} (same : ∀ s, p.objects.get? id = some s →
      (x.run s.object p.host).1.2.resources = s.object.resources) :
    (onObject id x p).2.owned = p.owned := by
  cases held : p.objects.get? id with
  | none => rw [onObject_none held]
  | some s =>
    rw [onObject_some held]
    refine (owned_insert _).trans (Function.update_eq_self_iff.2 ?_)
    rw [owned_of_get? held]
    exact same s held

theorem size_onObject (p : Process) (id : ObjectId) {α : Type} (x : ObjectM α) :
    (onObject id x p).2.objects.size = p.objects.size := by
  cases held : p.objects.get? id with
  | none => rw [onObject_none held]
  | some s =>
    rw [onObject_some held]
    exact Table.size_insert_of_some _ held

theorem size_share (p : Process) (id : ObjectId) : (share id p).2.objects.size = p.objects.size := by
  rw [share_run]
  cases held : p.objects.get? id with
  | none => rfl
  | some s => exact Table.size_insert_of_some _ held

theorem size_released_le (p : Process) (id : ObjectId) :
    (p.released id).objects.size ≤ p.objects.size := by
  obtain ⟨-, eq⟩ | ⟨o, n, held, eq⟩ | ⟨o, n, held, -, eq⟩ := p.released_cases id <;> rw [eq]
  · exact Nat.le_of_eq (Table.size_insert_of_some _ held)
  · have erased : (p.objects.erase id).size ≤ p.objects.size := by
      have := Table.size_erase_of_some held
      omega
    exact erased

/-- Taking in an object and letting it go again leaves nothing. -/
theorem owned_adopted_released (fresh : p.objects.get? p.nextObject = none) (o : BufferObject)
    (event : LogEvent) : (((p.adopted o).reported event).released p.nextObject).owned = p.owned := by
  have held : ((p.adopted o).reported event).objects.get? p.nextObject = some ⟨o, 1⟩ :=
    Table.get?_insert_self ..
  rw [released_last held Nat.one_lt_two]
  refine owned_erase.trans ?_
  have adopted : ((p.adopted o).reported event).owned = update p.owned p.nextObject o.resources :=
    owned_insert (p := p) ⟨o, 1⟩
  rw [adopted, Function.update_idem]
  exact Function.update_eq_self_iff.2 (owned_of_none fresh).symm

end Owned

namespace Orderly

variable {fd : Int32} {others : Nat} {p : Process} {id : ObjectId}

/-- A process that has not made any objects. -/
theorem unused {host : Host} (fresh : host.kernel.Fresh) (fd : Int32) :
    ({ host } : Process).Orderly fd 0 where
  sound := fresh.sound
  apportioned := by
    refine ⟨fun r => ⟨fun live => absurd live (fresh.notMem_live r), ?_⟩, ?_⟩
    · rintro ⟨id, mem⟩
      cases mem
    · intro r id id' mem
      cases mem
  onDumb id s held := by simp at held
  below id s held := by simp at held
  held positive := absurd positive (Nat.lt_irrefl 0)

theorem fresh (orderly : p.Orderly fd others) : p.objects.get? p.nextObject = none := by
  cases found : p.objects.get? p.nextObject with
  | none => rfl
  | some s => exact absurd (orderly.below _ _ found) (Nat.lt_irrefl _)

theorem opened (orderly : p.Orderly fd others) {s : Shared} (held : p.objects.get? id = some s) :
    p.host.kernel.Opened fd := by
  have size := Table.size_erase_of_some held
  exact (orderly.held (by omega)).2

/-- The host trades nothing. -/
theorem neutral (orderly : p.Orderly fd others) {h : Host} (trades : p.host.Trades ∅ ∅ h) :
    ({ p with host := h } : Process).Orderly fd others where
  sound := trades.kernel.sound
  apportioned := orderly.apportioned.neutral trades.kernel
  onDumb := orderly.onDumb
  below := orderly.below
  held := orderly.held.later trades

/-- An object trades what it owns, however many hold it then. -/
theorem worked (orderly : p.Orderly fd others) {s : Shared} (held : p.objects.get? id = some s)
    {o : BufferObject} {h : Host} (on : o.OnDumb fd)
    (trades : p.host.Trades s.object.resources o.resources h) (n : Nat) :
    ({ p with host := h, objects := p.objects.insert id ⟨o, n⟩ } : Process).Orderly fd others where
  sound := trades.kernel.sound
  apportioned := by
    have same : ({ p with host := h, objects := p.objects.insert id ⟨o, n⟩ } : Process).owned =
        update p.owned id o.resources := p.owned_insert ⟨o, n⟩
    rw [same]
    exact orderly.apportioned.trade (owned_of_get? held ▸ trades.kernel)
  onDumb id' s' found := by
    rw [Table.get?_insert] at found
    split at found
    · cases found
      exact on
    · exact orderly.onDumb id' s' found
  below id' s' found := by
    rw [Table.get?_insert] at found
    split at found
    · next eq => exact eq ▸ orderly.below id s held
    · exact orderly.below id' s' found
  held := by
    rw [Table.size_insert_of_some _ held]
    exact orderly.held.later trades

/-- While there are no objects, the card of the process may be any. -/
theorem begun (orderly : p.Orderly fd others) (size : p.objects.size = 0) {h : Host} {fd' : Int32}
    {n : Nat} (trades : p.host.kernel.Trades ∅ ∅ h.kernel) (held : h.CardHeld fd' n) :
    ({ p with host := h } : Process).Orderly fd' n where
  sound := trades.sound
  apportioned := orderly.apportioned.neutral trades
  onDumb id s found := by
    cases (Table.get?_eq_none_of_size size id).symm.trans found
  below := orderly.below
  held := by
    rw [size, Nat.zero_add]
    exact held

/-- A computation on an object that trades what the object owns. -/
theorem onObject (orderly : p.Orderly fd others) (id : ObjectId) {α : Type} {x : ObjectM α}
    (turns : ∀ o : BufferObject, o.OnDumb fd →
      Turns fd o.resources (x.run o) (·.2.resources) (·.2.OnDumb fd)) :
    (onObject id x p).2.Orderly fd others := by
  cases held : p.objects.get? id with
  | none =>
    rw [onObject_none held]
    exact orderly
  | some s =>
    rw [onObject_some held]
    obtain ⟨on, trades⟩ := turns s.object (orderly.onDumb id s held) p.host orderly.sound
      (orderly.opened held) (owned_of_get? held ▸ orderly.apportioned.owns id)
    exact orderly.worked held on trades s.holders

/-- A computation on an object that leaves it owning the same if it fails. -/
theorem onObject_owned (orderly : p.Orderly fd others) (id : ObjectId) {α : Type}
    {x : ObjectM (Except Error α)}
    (works : ∀ o : BufferObject, o.OnDumb fd → BufferObject.Works fd o (x.run o))
    (failed : ((Process.onObject id x p).1.getD (.error .invalidHandle)).isOk = false) :
    (Process.onObject id x p).2.owned = p.owned := by
  refine owned_onObject fun s held => ?_
  rw [onObject_some held] at failed
  obtain ⟨⟨-, same⟩, -⟩ := works s.object (orderly.onDumb id s held) p.host orderly.sound
    (orderly.opened held) (owned_of_get? held ▸ orderly.apportioned.owns id)
  exact same failed

/-- Taking in a new object, which holds the card like the others. -/
theorem adopted (orderly : p.Orderly fd others) (positive : 0 < p.objects.size + others)
    {o : BufferObject} {h : Host} (on : o.OnDumb fd) (trades : p.host.Trades ∅ o.resources h) :
    (({ p with host := h } : Process).adopted o).Orderly fd others where
  sound := trades.kernel.sound
  apportioned := by
    have same : (({ p with host := h } : Process).adopted o).owned =
        update p.owned p.nextObject o.resources := p.owned_insert ⟨o, 1⟩
    rw [same]
    exact orderly.apportioned.trade (owned_of_none orderly.fresh ▸ trades.kernel)
  onDumb id s found := by
    rw [Process.adopted, Table.get?_insert] at found
    split at found
    · cases found
      exact on
    · exact orderly.onDumb id s found
  below id s found := by
    rw [Process.adopted, Table.get?_insert] at found
    split at found
    · next eq => exact eq ▸ Nat.lt_succ_self _
    · exact Nat.lt_succ_of_lt (orderly.below id s found)
  held := by
    have size : (p.objects.insert p.nextObject ⟨o, 1⟩).size = p.objects.size + 1 :=
      Table.size_insert_of_none _ orderly.fresh
    have count : (p.objects.insert p.nextObject ⟨o, 1⟩).size + others =
        p.objects.size + others + 1 := by omega
    unfold Process.adopted
    dsimp only
    rw [count]
    exact (orderly.held.later trades).hold positive on.card

/-- Only the number of an object's holders changes. -/
theorem counted (orderly : p.Orderly fd others) {s : Shared} (held : p.objects.get? id = some s)
    (n : Nat) :
    ({ p with objects := p.objects.insert id ⟨s.object, n⟩ } : Process).Orderly fd others :=
  orderly.worked held (orderly.onDumb id s held) ((Neutral.pure () p.host orderly.sound).keep
    (owned_of_get? held ▸ orderly.apportioned.owns id)) n

theorem shared (orderly : p.Orderly fd others) (id : ObjectId) :
    (share id p).2.Orderly fd others := by
  cases held : p.objects.get? id with
  | none => simpa only [share_run, held] using orderly
  | some s => simpa only [share_run, held] using orderly.counted held (s.holders + 1)

theorem destroyed (orderly : p.Orderly fd others) (id : ObjectId) :
    (p.destroyed id).Orderly fd others :=
  orderly.onObject id fun _ on => (BufferObject.destroy_turns on).imp fun _ holds => holds.1

/-- The last holder takes the object along, with its hold on the card. -/
theorem buried (orderly : p.Orderly fd others) {o : BufferObject} {n : Nat}
    (held : p.objects.get? id = some ⟨o, n⟩) :
    (({ p with objects := p.objects.erase id } : Process).after (do
      let _ ← BufferObject.destroy.run o
      o.card.release)).Orderly fd others := by
  have on := orderly.onDumb id _ held
  obtain ⟨⟨-, nothing⟩, trades⟩ := BufferObject.destroy_turns on p.host orderly.sound
    (orderly.opened held) (owned_of_get? held ▸ orderly.apportioned.owns id)
  obtain ⟨released, -⟩ := o.card.release_opens trades.kernel.sound
  have size : (p.objects.erase id).size + 1 = p.objects.size := Table.size_erase_of_some held
  refine ⟨released.sound, ?_, ?_, ?_, ?_⟩
  · have same : (({ p with objects := p.objects.erase id } : Process).after (do
        let _ ← BufferObject.destroy.run o
        o.card.release)).owned = update p.owned id ∅ := p.owned_erase
    rw [same]
    refine orderly.apportioned.trade ?_
    have given := trades.kernel
    dsimp only at given nothing
    rw [nothing] at given
    rw [owned_of_get? held]
    exact given.trans released
  · intro id' s found
    have found : (p.objects.erase id).get? id' = some s := found
    rw [Table.get?_erase] at found
    split at found
    · cases found
    · exact orderly.onDumb id' s found
  · intro id' s found
    have found : (p.objects.erase id).get? id' = some s := found
    rw [Table.get?_erase] at found
    split at found
    · cases found
    · exact orderly.below id' s found
  · have held := orderly.held.later trades
    rw [← size, Nat.add_right_comm] at held
    exact held.release on.card

theorem released (orderly : p.Orderly fd others) (id : ObjectId) :
    (p.released id).Orderly fd others := by
  obtain ⟨-, eq⟩ | ⟨o, n, held, eq⟩ | ⟨o, n, held, -, eq⟩ := p.released_cases id <;> rw [eq]
  · exact orderly
  · exact orderly.counted held (n + 1)
  · exact orderly.buried held

/-- Someone else holds the card too. -/
theorem cardHeld (orderly : p.Orderly fd others) (positive : 0 < p.objects.size + others)
    {card : Card} (same : card.fd = fd) : (p.after card.hold).Orderly fd (others + 1) where
  sound := orderly.sound
  apportioned := orderly.apportioned
  onDumb := orderly.onDumb
  below := orderly.below
  held := orderly.held.hold positive same

/-- Someone else lets go of the card. -/
theorem cardReleased (orderly : p.Orderly fd (others + 1)) {card : Card} (same : card.fd = fd) :
    (p.after card.release).Orderly fd others := by
  obtain ⟨trades, -⟩ := card.release_opens orderly.sound
  exact ⟨trades.sound, orderly.apportioned.neutral trades, orderly.onDumb, orderly.below,
    orderly.held.release same⟩

theorem forM_release {κ : Type} (entries : List (κ × Registration)) (orderly : p.Orderly fd others) :
    ((entries.forM fun e => release e.2.object : ProcessM Unit).run p).2.Orderly fd others := by
  induction entries generalizing p with
  | nil => exact orderly
  | cons e entries ih => exact ih (orderly.released e.2.object)

end Orderly

end Process

end GraphicsBuffers

import GraphicsBuffers.Proofs.CardLedger
import GraphicsBuffers.Proofs.ObjectLedger
import GraphicsBuffers.Proofs.Processes

/-!
# Processes in the ledger

In a process whose objects are all on one card that the dumb-buffer backend serves, every handle that is
held is that of one object, and the card is open as long as an object or one of so many others holds it
(`Process.Kept`). Taking an object in, using it, sharing it and letting it go preserve this, whatever
fails.
-/

namespace GraphicsBuffers

open Function (update)

/-! ## Owners -/

/-- Every handle that is held has one owner. -/
structure Ledger.OwnedBy (l : Ledger) (owned : ObjectId → Option UInt32) : Prop where
  all : ∀ handle a, l.holdings handle = some a → ∃ id, owned id = some handle
  apart : ∀ id id' handle, owned id = some handle → owned id' = some handle → id = id'

namespace Ledger.OwnedBy

variable {l l' : Ledger} {owned : ObjectId → Option UInt32} {id : ObjectId} {o o' : BufferObject}

/-- An owner keeps its handle or loses it. -/
theorem proceeds (by_ : l.OwnedBy owned) (own : owned id = o.handle?)
    (proceeds : BufferObject.Proceeds l o l' o') : l'.OwnedBy (update owned id o'.handle?) where
  all handle a held := by
    by_cases eq : o.handle? = some handle
    · rcases proceeds.handle with same | ⟨-, left⟩
      · exact ⟨id, by rw [Function.update_self, same, eq]⟩
      · cases (left handle eq).symm.trans held
    · rw [proceeds.others handle eq] at held
      obtain ⟨id', has⟩ := by_.all handle a held
      refine ⟨id', ?_⟩
      rwa [Function.update_of_ne]
      rintro rfl
      exact eq (own.symm.trans has)
  apart id₁ id₂ handle has₁ has₂ := by
    have old {id' : ObjectId} (has : update owned id o'.handle? id' = some handle) :
        owned id' = some handle := by
      rw [Function.update_apply] at has
      split at has
      · next same =>
        rcases proceeds.handle with kept | ⟨gone, -⟩
        · rw [same, own, ← kept, has]
        · cases gone.symm.trans has
      · exact has
    exact by_.apart id₁ id₂ handle (old has₁) (old has₂)

/-- A new owner has a handle that was not held. -/
theorem arrives {s : Surroundings} {fd : Int32} (by_ : l.OwnedBy owned) (free : owned id = none)
    (held : ∀ id handle, owned id = some handle → l.holdings handle ≠ none)
    (arrives : o.Arrives s fd l l') : l'.OwnedBy (update owned id o.handle?) where
  all handle a held := by
    by_cases eq : o.handle? = some handle
    · exact ⟨id, by rw [Function.update_self, eq]⟩
    · rw [arrives.others handle eq] at held
      obtain ⟨id', has⟩ := by_.all handle a held
      refine ⟨id', ?_⟩
      rwa [Function.update_of_ne]
      rintro rfl
      cases free.symm.trans has
  apart id₁ id₂ handle has₁ has₂ := by
    obtain ⟨new, own, none⟩ := arrives.handle
    have foreign {id' : ObjectId} (has : owned id' = some handle) (has' : o.handle? = some handle) :
        False := by
      obtain rfl := Option.some.inj (own.symm.trans has')
      exact held id' new has none
    simp only [Function.update_apply] at has₁ has₂
    split at has₁ <;> split at has₂
    · next eq₁ eq₂ => exact eq₁.trans eq₂.symm
    · exact (foreign has₂ has₁).elim
    · exact (foreign has₁ has₂).elim
    · exact by_.apart id₁ id₂ handle has₁ has₂

end Ledger.OwnedBy

/-- So many hold the card `fd`, which is open as long as someone does. -/
structure Host.Counts (h : Host) (l : Ledger) (fd : Int32) (n : Nat) : Prop where
  card : l.card = if n = 0 then none else some fd
  holders : 0 < n → h.cardHolders.get? fd = some n

namespace Host.Counts

variable {h : Host} {l : Ledger} {fd : Int32} {n : Nat} {card : Card}

theorem hold (counts : h.Counts l fd n) (positive : 0 < n) (same : card.fd = fd) :
    (card.hold.run h).2.Counts l fd (n + 1) := by
  subst same
  refine ⟨?_, fun _ => ?_⟩
  · rw [counts.card, if_neg (Nat.ne_of_gt positive), if_neg (Nat.succ_ne_zero n)]
  · refine (Table.get?_insert_self h.cardHolders card.fd _).trans ?_
    rw [counts.holders positive]
    rfl

/-- A holder lets go of the card, which is closed with the last one. -/
theorem release {s : Surroundings} (counts : h.Counts l fd (n + 1)) (same : card.fd = fd)
    (audited : h.kernel.Audited s l) (bare : n = 0 → ∀ handle, l.holdings handle = none) :
    ∃ l', (card.release.run h).2.kernel.Audited s l' ∧ l'.holdings = l.holdings ∧
      (card.release.run h).2.Counts l' fd n := by
  subst same
  have count := counts.holders (Nat.succ_pos n)
  have isOpen : l.card = some card.fd := by rw [counts.card, if_neg (Nat.succ_ne_zero n)]
  rw [Card.release_run, count]
  cases n with
  | zero =>
    exact ⟨_, Kernel.close_audited audited isOpen (bare rfl), rfl, rfl, nofun⟩
  | succ n =>
    refine ⟨l, audited, rfl, ?_, fun _ => Table.get?_insert_self ..⟩
    rw [isOpen, if_neg (Nat.succ_ne_zero n)]

end Host.Counts

/-! ## Processes -/

namespace Process

/-- The handle of an object of a process. -/
def handle? (p : Process) (id : ObjectId) : Option UInt32 :=
  (p.objects.get? id).bind (·.object.handle?)

/-- The ledger `l` is that of the process: its objects are backed on the card `fd` and own what is held,
and the card is held by them and so many others. -/
structure Kept (s : Surroundings) (fd : Int32) (others : Nat) (p : Process) (l : Ledger) : Prop where
  audited : p.host.kernel.Audited s l
  backed : ∀ id sh, p.objects.get? id = some sh → sh.object.Backed s fd l
  owned : l.OwnedBy p.handle?
  below : ∀ id sh, p.objects.get? id = some sh → id < p.nextObject
  counts : p.host.Counts l fd (p.objects.size + others)

variable {p : Process} {id : ObjectId} {s : Surroundings} {fd : Int32} {others : Nat} {l l' : Ledger}

theorem handle_of_get? {sh : Shared} (held : p.objects.get? id = some sh) :
    p.handle? id = sh.object.handle? := by rw [handle?, held, Option.bind_some]

theorem handle_insert (sh : Shared) :
    ({ p with objects := p.objects.insert id sh } : Process).handle? =
      update p.handle? id sh.object.handle? := by
  funext id'
  simp only [handle?, Table.get?_insert, Function.update_apply]
  split <;> rfl

theorem handle_erase :
    ({ p with objects := p.objects.erase id } : Process).handle? = update p.handle? id none := by
  funext id'
  simp only [handle?, Table.get?_erase, Function.update_apply]
  split <;> rfl

end Process

/-- What is held with the handle of an object is all that matters to it. -/
theorem BufferObject.Backed.untouched {s : Surroundings} {fd : Int32} {l l' : Ledger}
    {o : BufferObject} (backed : o.Backed s fd l)
    (same : ∀ handle, o.handle? = some handle → l'.holdings handle = l.holdings handle) :
    o.Backed s fd l' where
  backend := backed.backend
  card := backed.card
  named := backed.named
  covers := backed.covers
  bare := backed.bare
  entered b found := by
    obtain ⟨⟨size, sized, held⟩, whole⟩ := backed.entered b found
    exact ⟨⟨size, sized, (same _ (handle_of_some found)).trans held⟩, whole⟩

/-- The handle of an object is held. -/
theorem BufferObject.Backed.held {s : Surroundings} {fd : Int32} {l : Ledger} {o : BufferObject}
    (backed : o.Backed s fd l) {handle : UInt32} (own : o.handle? = some handle) :
    l.holdings handle ≠ none := by
  obtain ⟨b, found, rfl⟩ := Option.map_eq_some_iff.1 own
  obtain ⟨⟨size, -, held⟩, -⟩ := backed.entered b found
  rw [held]
  exact Option.some_ne_none _

namespace Process.Kept

variable {p : Process} {id : ObjectId} {s : Surroundings} {fd : Int32} {others : Nat} {l l' : Ledger}

/-- A process that has not made any objects. -/
theorem unused {host : Host} (audited : host.kernel.Audited s {}) (fd : Int32) :
    ({ host } : Process).Kept s fd 0 {} where
  audited := audited
  backed id sh held := by simp at held
  owned := by
    refine ⟨fun handle a held => ?_, fun id id' handle own => ?_⟩
    · cases held
    · simp [Process.handle?] at own
  below id sh held := by simp at held
  counts := ⟨rfl, fun positive => absurd positive (Nat.lt_irrefl 0)⟩

variable (kept : p.Kept s fd others l)
include kept

theorem fresh : p.objects.get? p.nextObject = none := by
  cases found : p.objects.get? p.nextObject with
  | none => rfl
  | some sh => exact absurd (kept.below _ _ found) (Nat.lt_irrefl _)

/-- The card is open while there are objects or others. -/
theorem card (positive : 0 < p.objects.size + others) : l.card = some fd := by
  rw [kept.counts.card, if_neg (Nat.ne_of_gt positive)]

theorem card_of_get? {sh : Shared} (held : p.objects.get? id = some sh) : l.card = some fd := by
  have := Table.size_erase_of_some held
  exact kept.card (by omega)

/-- Nothing is held when there are no objects. -/
theorem bare (size : p.objects.size = 0) (handle : UInt32) : l.holdings handle = none := by
  by_contra held
  obtain ⟨a, held⟩ := Option.ne_none_iff_exists'.1 held
  obtain ⟨id, has⟩ := kept.owned.all handle a held
  rw [handle?, Table.get?_eq_none_of_size size] at has
  cases has

/-- The host changes, and what is held with handles does not. -/
theorem hosted {h : Host} {others' : Nat} (audited : h.kernel.Audited s l')
    (same : l'.holdings = l.holdings) (counts : h.Counts l' fd (p.objects.size + others')) :
    ({ p with host := h } : Process).Kept s fd others' l' where
  audited := audited
  backed id sh held := (kept.backed id sh held).untouched fun _ _ => by rw [same]
  owned := ⟨fun handle a held => kept.owned.all handle a (same ▸ held), kept.owned.apart⟩
  below := kept.below
  counts := counts

/-- A computation on the host that leaves the ledger as it was. -/
theorem recorded {α : Type} {x : HostM α} (records : Records s l x fun _ l' => l' = l) :
    (p.after x).Kept s fd others l := by
  obtain ⟨holders, _, audited, rfl⟩ := records p.host kept.audited
  refine kept.hosted audited rfl ⟨kept.counts.card, ?_⟩
  exact (congrArg (·.get? fd) holders).symm ▸ kept.counts.holders

section Object

variable {sh : Shared} (held : p.objects.get? id = some sh) {o : BufferObject}
  (proceeds : BufferObject.Proceeds l sh.object l' o)
include held proceeds

/-- Other objects do not notice what is done to an object. -/
theorem others_backed {id' : ObjectId} (ne : id' ≠ id) {sh' : Shared}
    (held' : p.objects.get? id' = some sh') : sh'.object.Backed s fd l' := by
  refine (kept.backed id' sh' held').untouched fun handle own => proceeds.others handle fun own' => ne ?_
  exact kept.owned.apart id' id handle ((handle_of_get? held').trans own)
    ((handle_of_get? held).trans own')

/-- An object is used, however many hold it then. -/
theorem worked {h : Host} (audited : h.kernel.Audited s l')
    (holders : h.cardHolders = p.host.cardHolders) (backed : o.Backed s fd l') (n : Nat) :
    ({ p with host := h, objects := p.objects.insert id ⟨o, n⟩ } : Process).Kept s fd others l' where
  audited := audited
  backed id' sh' found := by
    rw [Table.get?_insert] at found
    split at found
    · cases found
      exact backed
    · next ne => exact kept.others_backed held proceeds ne found
  owned := by
    have owned := kept.owned.proceeds (handle_of_get? held) proceeds
    have same : ({ p with host := h, objects := p.objects.insert id ⟨o, n⟩ } : Process).handle? =
        update p.handle? id o.handle? := p.handle_insert ⟨o, n⟩
    rwa [same]
  below id' sh' found := by
    rw [Table.get?_insert] at found
    split at found
    · next eq => exact eq ▸ kept.below id sh held
    · exact kept.below id' sh' found
  counts := by
    rw [Table.size_insert_of_some _ held]
    refine ⟨proceeds.card.trans kept.counts.card, ?_⟩
    rw [holders]
    exact kept.counts.holders

/-- An object that is destroyed goes, and its hold on the card is left behind. -/
theorem removed {h : Host} (audited : h.kernel.Audited s l')
    (holders : h.cardHolders = p.host.cardHolders) (gone : o.handle? = none) :
    ({ p with host := h, objects := p.objects.erase id } : Process).Kept s fd (others + 1) l' where
  audited := audited
  backed id' sh' found := by
    rw [Table.get?_erase] at found
    split at found
    · cases found
    · next ne => exact kept.others_backed held proceeds ne found
  owned := by
    have owned := kept.owned.proceeds (handle_of_get? held) proceeds
    have same : ({ p with host := h, objects := p.objects.erase id } : Process).handle? =
        update p.handle? id none := p.handle_erase
    rwa [same, ← gone]
  below id' sh' found := by
    rw [Table.get?_erase] at found
    split at found
    · cases found
    · exact kept.below id' sh' found
  counts := by
    have size := Table.size_erase_of_some held
    have count : (p.objects.erase id).size + (others + 1) = p.objects.size + others := by omega
    dsimp only
    rw [count]
    refine ⟨proceeds.card.trans kept.counts.card, ?_⟩
    rw [holders]
    exact kept.counts.holders

end Object

/-- Only the number of an object's holders changes. -/
theorem counted {sh : Shared} (held : p.objects.get? id = some sh) (n : Nat) :
    ({ p with objects := p.objects.insert id ⟨sh.object, n⟩ } : Process).Kept s fd others l :=
  kept.worked held (.same rfl) kept.audited rfl (kept.backed id sh held) n

theorem shared (id : ObjectId) : (share id p).2.Kept s fd others l := by
  cases held : p.objects.get? id with
  | none => simpa only [share_run, held] using kept
  | some sh => simpa only [share_run, held] using kept.counted held (sh.holders + 1)

/-- A computation on an object. -/
theorem onObject (id : ObjectId) {α : Type} {x : ObjectM α} {P : BufferObject → α → BufferObject → Prop}
    (stays : ∀ o : BufferObject, o.StaysBacked s fd (x.run o) (P o)) :
    ∃ l', (onObject id x p).2.Kept s fd others l' := by
  cases held : p.objects.get? id with
  | none =>
    rw [onObject_none held]
    exact ⟨l, kept⟩
  | some sh =>
    rw [onObject_some held]
    obtain ⟨holders, l', audited, ⟨proceeds, backed⟩, -⟩ := stays sh.object l
      (kept.card_of_get? held) (kept.backed id sh held) p.host kept.audited
    exact ⟨l', kept.worked held proceeds audited holders backed sh.holders⟩

/-- Taking in a new object, which holds the card like the others. -/
theorem adopted (positive : 0 < p.objects.size + others) {o : BufferObject} {h : Host}
    (audited : h.kernel.Audited s l') (holders : h.cardHolders = p.host.cardHolders)
    (arrives : o.Arrives s fd l l') :
    (({ p with host := h } : Process).adopted o).Kept s fd others l' where
  audited := audited
  backed id sh found := by
    rw [Process.adopted, Table.get?_insert] at found
    split at found
    · cases found
      exact arrives.backed
    · have backed := kept.backed id sh found
      refine backed.untouched fun handle own => arrives.others handle fun same => ?_
      obtain ⟨new, own', free⟩ := arrives.handle
      obtain rfl := Option.some.inj (own'.symm.trans same)
      exact backed.held own free
  owned := by
    have same : (({ p with host := h } : Process).adopted o).handle? =
        update p.handle? p.nextObject o.handle? := p.handle_insert ⟨o, 1⟩
    have free : p.handle? p.nextObject = none := by rw [handle?, kept.fresh, Option.bind_none]
    rw [same]
    refine kept.owned.arrives free (fun id handle own => ?_) arrives
    obtain ⟨sh, held, own⟩ := Option.bind_eq_some_iff.1 own
    exact (kept.backed id sh held).held own
  below id sh found := by
    rw [Process.adopted, Table.get?_insert] at found
    split at found
    · next eq => exact eq ▸ Nat.lt_succ_self _
    · exact Nat.lt_succ_of_lt (kept.below id sh found)
  counts := by
    have size : (p.objects.insert p.nextObject ⟨o, 1⟩).size = p.objects.size + 1 :=
      Table.size_insert_of_none _ kept.fresh
    have count : (p.objects.insert p.nextObject ⟨o, 1⟩).size + others =
        p.objects.size + others + 1 := by omega
    have counts : h.Counts l' fd (p.objects.size + others) :=
      ⟨arrives.card.trans kept.counts.card, holders ▸ kept.counts.holders⟩
    unfold Process.adopted
    dsimp only
    rw [count]
    exact counts.hold positive arrives.backed.card

/-! ## Holders of the card -/

section Card

variable {card : Card} (same : card.fd = fd)
include same

/-- Someone else holds the card too. -/
theorem cardHeld (positive : 0 < p.objects.size + others) :
    (p.after card.hold).Kept s fd (others + 1) l :=
  kept.hosted kept.audited rfl (kept.counts.hold positive same)

omit kept in
/-- Someone else lets go of the card, which is closed with the last one. -/
theorem cardReleased (kept : p.Kept s fd (others + 1) l) :
    ∃ l', (p.after card.release).Kept s fd others l' := by
  have bare (none : p.objects.size + others = 0) := kept.bare (by omega)
  obtain ⟨l', audited, holdings, counts⟩ := kept.counts.release same kept.audited bare
  exact ⟨l', kept.hosted audited holdings counts⟩

end Card

/-- An object that is destroyed leaves its hold on the card behind. -/
theorem destroyed {o : BufferObject} {n : Nat} (held : p.objects.get? id = some ⟨o, n⟩) :
    ∃ l', (({ p with objects := p.objects.erase id } : Process).after
      (BufferObject.destroy.run o)).Kept s fd (others + 1) l' := by
  obtain ⟨holders, l', audited, ⟨proceeds, -⟩, gone⟩ :=
    o.destroy_backed l (kept.card_of_get? held) (kept.backed id _ held) p.host kept.audited
  have handle : (BufferObject.destroy.run o p.host).1.2.handle? = none := by
    rw [BufferObject.handle?, gone, Option.map_none]
  exact ⟨l', kept.removed held proceeds audited holders handle⟩

/-- The last holder takes the object along, with its hold on the card. -/
theorem buried {o : BufferObject} {n : Nat} (held : p.objects.get? id = some ⟨o, n⟩) :
    ∃ l', (({ p with objects := p.objects.erase id } : Process).after (do
      let _ ← BufferObject.destroy.run o
      o.card.release)).Kept s fd others l' := by
  obtain ⟨l', kept'⟩ := kept.destroyed held
  exact cardReleased (kept.backed id _ held).card kept'

theorem released (id : ObjectId) : ∃ l', (p.released id).Kept s fd others l' := by
  obtain ⟨-, eq⟩ | ⟨o, n, held, eq⟩ | ⟨o, n, held, -, eq⟩ := p.released_cases id <;> rw [eq]
  · exact ⟨l, kept⟩
  · exact ⟨l, kept.counted held (n + 1)⟩
  · exact kept.buried held

omit kept in
theorem forM_release {κ : Type} (entries : List (κ × Registration)) (kept : p.Kept s fd others l) :
    ∃ l', ((entries.forM fun e => release e.2.object : ProcessM Unit).run p).2.Kept s fd others l' := by
  induction entries generalizing p l with
  | nil => exact ⟨l, kept⟩
  | cons e entries ih =>
    obtain ⟨l', kept'⟩ := kept.released e.2.object
    exact ih kept'

end Process.Kept

end GraphicsBuffers

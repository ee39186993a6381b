import GraphicsBuffers.Proofs.BufferLedger
import GraphicsBuffers.Proofs.Objects

/-!
# Buffer objects in the ledger

On the dumb-buffer backend a buffer object that is not destroyed has its handle in the ledger, with its
framebuffer and its mapping (`Backed`). Every operation on it keeps this and changes nothing that is
held with other handles (`Proceeds`), whatever fails. Once the object is destroyed its handle is not
held any more, and an object that fails to come to life leaves the ledger as it was.
-/

namespace GraphicsBuffers.BufferObject

open Wire Wire.Exchange

/-- The handle of an object that is not destroyed. -/
def handle? (o : BufferObject) : Option UInt32 := o.buffer.map (·.handle)

/-- An object on the card `fd`, and what is held with its handle. -/
structure Backed (s : Surroundings) (fd : Int32) (l : Ledger) (o : BufferObject) : Prop where
  backend : o.backend = .dumb fd
  card : o.card.fd = fd
  /-- No file descriptor goes with an object that was allocated here. -/
  named : o.imported = false → ∀ dmabuf, o.descriptor.key? ≠ some (.prime dmabuf)
  covers : o.imported → o.descriptor.byteSize?.isSome
  bare : o.buffer = none → o.framebuffer = none
  entered : ∀ b, o.buffer = some b → b.Entered s l o.descriptor o.framebuffer

/-- Only what is held with the handle of an object has changed. The object still has its handle, or that
is not held any more. -/
structure Proceeds (l : Ledger) (o : BufferObject) (l' : Ledger) (o' : BufferObject) : Prop where
  card : l'.card = l.card
  others : ∀ handle, o.handle? ≠ some handle → l'.holdings handle = l.holdings handle
  handle : o'.handle? = o.handle? ∨
    o'.handle? = none ∧ ∀ handle, o.handle? = some handle → l'.holdings handle = none

variable {α : Type} {s : Surroundings} {fd : Int32} {l l' : Ledger} {o o' : BufferObject}
  {b b' : BackendBuffer}

/-- What is to be shown of an operation on an object. -/
def StaysBacked (s : Surroundings) (fd : Int32) (o : BufferObject) (x : HostM (α × BufferObject))
    (P : α → BufferObject → Prop) : Prop :=
  ∀ l : Ledger, l.card = some fd → o.Backed s fd l → Records s l x fun result l' =>
    (Proceeds l o l' result.2 ∧ result.2.Backed s fd l') ∧ P result.1 result.2

theorem handle_of_some (found : o.buffer = some b) : o.handle? = some b.handle := by
  rw [handle?, found]
  rfl

theorem Proceeds.same (handle : o'.handle? = o.handle?) : Proceeds l o l o' :=
  ⟨rfl, fun _ _ => rfl, .inl handle⟩

theorem Proceeds.set (found : o.buffer = some b) (a : Option Holding)
    (handle : o'.handle? = o.handle? ∨ o'.handle? = none ∧ a = none) :
    Proceeds l o (l.set b.handle a) o' := by
  refine ⟨rfl, fun handle ne => l.set_holdings_of_ne ?_ a, handle.imp_right fun ⟨gone, empty⟩ => ?_⟩
  · rintro rfl
    exact ne (handle_of_some found)
  · refine ⟨gone, fun handle own => ?_⟩
    obtain rfl := Option.some.inj ((handle_of_some found).symm.trans own)
    rw [l.set_holdings_self, empty]

/-- Only the locks change. -/
theorem Backed.locked (backed : o.Backed s fd l) (n : UInt32) (usage : Usage) :
    let o' := { o with lockCount := n, lockedFor := usage }
    Proceeds l o l o' ∧ o'.Backed s fd l :=
  ⟨.same rfl, backed.backend, backed.card, backed.named, backed.covers, backed.bare, backed.entered⟩

/-- The buffer has been mapped or unmapped. -/
theorem Backed.remains (backed : o.Backed s fd l) (found : o.buffer = some b)
    (remains : Dumb.Remains s l o.descriptor o.framebuffer b b' l') (n : UInt32) (usage : Usage) :
    let o' := { o with buffer := some b', lockCount := n, lockedFor := usage }
    Proceeds l o l' o' ∧ o'.Backed s fd l' := by
  obtain ⟨handle, ⟨a, rfl⟩, entered⟩ := remains
  refine ⟨.set found a (.inl ?_), backed.backend, backed.card, backed.named, backed.covers, nofun, ?_⟩
  · exact (congrArg some handle).trans (handle_of_some found).symm
  · rintro _ ⟨⟩
    exact entered

/-! ## Locks -/

/-- The address that a lock answers is that of the mapping. -/
def Addressed (answer : Except Error (Option Address)) (o : BufferObject) : Prop :=
  ∀ address, answer = .ok (some address) → ∃ b m, o.buffer = some b ∧ b.mapping = some m ∧
    m.address = address

theorem Addressed.error (e : Error) (o : BufferObject) : Addressed (.error e) o := nofun

theorem Addressed.hardware (o : BufferObject) : Addressed (.ok none) o := nofun

theorem lock_backed (o : BufferObject) (usage : Usage) (region : Region) :
    StaysBacked s fd o ((lock usage region).run.run o) Addressed := by
  intro l card backed h audited
  unfold Yields
  rw [lock_run]
  have still := backed.locked o.lockCount o.lockedFor
  unfold lockDialogue
  dsimp only
  split
  · exact ⟨rfl, l, audited, still, .error _ _⟩
  split
  · exact ⟨rfl, l, audited, still, .error _ _⟩
  split
  · exact ⟨rfl, l, audited, still, .error _ _⟩
  next buffer found =>
  split
  · have asked : (o.backend.map region (usage ||| o.lockedFor).swWrite).run.run buffer h =
        (Dumb.map fd).run.run buffer h := by
      rw [backed.backend]
      rfl
    have mapped := Dumb.map_records card (backed.entered buffer found) h audited
    unfold Yields at mapped
    simp only [Dialogue.hold, asked]
    rcases eq : (Dumb.map fd).run.run buffer h with ⟨⟨e | address, b⟩, h'⟩ <;> rw [eq] at mapped <;>
      obtain ⟨holders, l', audited', remains, begins⟩ := mapped
    · exact ⟨holders, l', audited', backed.remains found remains _ _, .error _ _⟩
    · refine ⟨holders, l', audited', backed.remains found remains _ _, ?_⟩
      rintro _ ⟨⟩
      obtain ⟨m, mapping, same⟩ := begins address rfl
      exact ⟨b, m, rfl, mapping, same⟩
  · exact ⟨rfl, l, audited, backed.locked _ _, .hardware _⟩

/-- The samples that a lock for planes answers are laid out from the start of the mapping. -/
def Resolved (d : Descriptor) (answer : Except Error Ycbcr) (o : BufferObject) : Prop :=
  ∀ planes, answer = .ok planes → d.format = .ycbcr420 ∧ ∃ b m, o.buffer = some b ∧
    b.mapping = some m ∧ planes = .at m.address d.stride d.planarHeight

theorem lockPlanar_backed (o : BufferObject) (usage : Usage) (region : Region) :
    StaysBacked s fd o ((lockPlanar usage region).run.run o) (Resolved o.descriptor) := by
  intro l card backed h audited
  have still := backed.locked o.lockCount o.lockedFor
  have locked := lock_backed o usage region l card backed h audited
  unfold Yields at locked ⊢
  rw [lock_run] at locked
  rw [lockPlanar_run]
  unfold lockPlanarDialogue
  dsimp only at locked ⊢
  split
  · exact ⟨rfl, l, audited, still, nofun⟩
  next format =>
  split
  · exact ⟨rfl, l, audited, still, nofun⟩
  obtain ⟨holders, l', audited', stays, begins⟩ := locked
  rw [Dialogue.hold_answering]
  refine ⟨holders, l', audited', stays, ?_⟩
  intro planes answer
  unfold planarAnswer at answer
  dsimp only at answer
  split at answer
  · next address locked =>
    obtain ⟨b, m, found, mapping, same⟩ := begins address locked
    cases answer
    exact ⟨not_not.1 format, b, m, found, mapping, by rw [same]⟩
  · cases answer
  · cases answer

theorem unlock_backed (o : BufferObject) : StaysBacked s fd o (unlock.run o) fun _ _ => True := by
  intro l card backed h audited
  unfold Yields
  rw [unlock_run]
  unfold unlockDialogue
  split
  · exact ⟨rfl, l, audited, backed.locked o.lockCount o.lockedFor, trivial⟩
  split
  · next b found =>
    split
    · have asked : o.backend.unmap.run b h = Dumb.unmap.run b h := by
        rw [backed.backend]
        rfl
      have unmapped := Dumb.unmap_records card (backed.entered b found) h audited
      unfold Yields at unmapped
      simp only [Dialogue.hold, asked]
      rcases eq : Dumb.unmap.run b h with ⟨⟨_, b⟩, h'⟩
      rw [eq] at unmapped
      obtain ⟨holders, l', audited', remains⟩ := unmapped
      exact ⟨holders, l', audited', backed.remains found remains _ _, trivial⟩
    · exact ⟨rfl, l, audited, backed.locked _ _, trivial⟩
  · exact ⟨rfl, l, audited, backed.locked _ _, trivial⟩

theorem unlock_lifted_backed (o : BufferObject) :
    StaysBacked s fd o ((liftM unlock : ExceptT Error ObjectM Unit).run.run o) fun _ _ => True :=
  fun l card backed h audited => unlock_backed o l card backed h audited

/-! ## Framebuffers -/

/-- All planes of a buffer are in its memory. -/
theorem layout_firstHandle (backend : o.backend = .dumb fd) (h : Host) (b : BackendBuffer) :
    (o.layout h b).firstHandle = b.handle := by
  unfold layout
  rw [backend]
  cases planes : (Backend.dumb fd).planes h b o.descriptor with
  | none => rfl
  | some layout =>
    have linear : o.descriptor.linearPlanes? b.handle = some layout := planes
    obtain ⟨luma, -, rest⟩ := Option.bind_eq_some_iff.1 linear
    split at rest
    · cases rest
      rfl
    · cases rest
      rfl
    · cases rest
      rfl
    · obtain ⟨chroma, -, rest⟩ := Option.bind_eq_some_iff.1 rest
      obtain ⟨second, -, rest⟩ := Option.bind_eq_some_iff.1 rest
      cases rest
      rfl
    · cases rest

/-- The framebuffer of an object changes, and is entered as that of its buffer. -/
theorem Backed.framed (backed : o.Backed s fd l) (found : o.buffer = some b) {size : UInt64}
    (sized : Sized s o.descriptor size b.size) (framebuffer : Option UInt32) :
    let o' := { o with framebuffer }
    let l' := l.set b.handle (some ⟨b.imported, size, framebuffer, b.mapping⟩)
    Proceeds l o l' o' ∧ o'.Backed s fd l' := by
  refine ⟨.set found _ (.inl rfl), backed.backend, backed.card, backed.named, backed.covers,
    fun gone => ?_, ?_⟩
  · cases gone.symm.trans found
  · intro b' found'
    obtain rfl := Option.some.inj (found.symm.trans found')
    exact ⟨⟨size, sized, l.set_holdings_self ..⟩, (backed.entered b found).whole⟩

theorem addFramebuffer_records (card : l.card = some o.card.fd) {layout : PlaneLayout} {a : Holding}
    (held : l.holdings layout.firstHandle = some a) (free : a.framebuffer = none) :
    Records s l (o.addFramebuffer layout).run (orLeaves (fun id l' =>
      l' = l.set layout.firstHandle (some { a with framebuffer := some id })) l) :=
  .explain (addFb2_records card held free) fun _ => (Records.report rfl).andThen fun _ => .pure rfl

theorem attach_handle (o : BufferObject) (h : Host) :
    (attachFramebuffer.run.run o h).1.2.handle? = o.handle? := by
  rw [attachFramebuffer_object]
  rfl

theorem attach_backed (o : BufferObject) :
    StaysBacked s fd o (attachFramebuffer.run.run o) fun _ _ => True := by
  intro l card backed h audited
  have still := backed.locked o.lockCount o.lockedFor
  unfold Yields
  rw [attachFramebuffer_run]
  split
  · exact ⟨rfl, l, audited, still, trivial⟩
  · exact ⟨rfl, l, audited, still, trivial⟩
  next b none found =>
  obtain ⟨⟨size, sized, held⟩, -⟩ := backed.entered b found
  have same := layout_firstHandle backed.backend h b
  rw [none] at held
  rw [← backed.card] at card
  have added := addFramebuffer_records card (same ▸ held) rfl h audited
  unfold Yields at added
  rcases eq : (o.addFramebuffer (o.layout h b)).run h with ⟨e | id, h'⟩ <;> rw [eq] at added <;>
    obtain ⟨holders, l', audited', rfl⟩ := added
  · exact ⟨holders, _, audited', still, trivial⟩
  · rw [same] at audited'
    exact ⟨holders, _, audited', backed.framed found sized (some id), trivial⟩

/-! ## Destruction -/

theorem removeFramebuffer_records (card : l.card = some o.card.fd) {handle : UInt32} {a : Holding}
    (held : l.holdings handle = some a) (same : a.framebuffer = o.framebuffer) :
    Records s l o.removeFramebuffer
      fun _ l' => l' = l.set handle (some { a with framebuffer := none }) := by
  unfold removeFramebuffer
  cases framebuffer : o.framebuffer with
  | none =>
    have bare : some { a with framebuffer := none } = l.holdings handle := by
      rw [held, ← framebuffer, ← same]
    exact .pure (by rw [bare, Ledger.set_self])
  | some id =>
    refine (removeFb_records card held (same.trans framebuffer)).bind fun outcome l' same => ?_
    cases outcome with
    | ok => exact .pure same
    | error e => exact .report same

theorem closeOwnedMemory_records (backed : o.Backed s fd l) (l₁ : Ledger) :
    Records s l₁ o.closeOwnedMemory fun _ l' => l' = l₁ := by
  unfold closeOwnedMemory
  split
  · next allocated =>
    split
    · next dmabuf keyed => exact absurd keyed (backed.named (by simpa using allocated) dmabuf)
    · exact .pure rfl
  · exact .pure rfl

/-- The framebuffer goes first, then the mapping, then the handle. -/
theorem tearDown_records (card : l.card = some fd) (backed : o.Backed s fd l)
    (found : o.buffer = some b) :
    Records s l (o.tearDown b) fun _ l' => l' = l.set b.handle none := by
  obtain ⟨⟨size, sized, held⟩, -⟩ := backed.entered b found
  have locks : Records s l o.reportLocks fun _ l' => l' = l := by
    unfold reportLocks
    split
    · exact .report rfl
    · exact .pure rfl
  refine locks.andThen fun _ => ?_
  refine (removeFramebuffer_records (by rwa [backed.card]) held rfl).bind fun _ l₁ same => ?_
  have card₁ : l₁.card = some fd := same ▸ card
  have bare : l₁.holdings b.handle = some ⟨b.imported, size, none, b.mapping⟩ :=
    same ▸ l.set_holdings_self ..
  have freed : Records s l₁ (o.backend.free b) fun _ l' => l' = l₁.set b.handle none := by
    rw [backed.backend]
    exact Dumb.free_records card₁ bare
  refine freed.bind fun _ l₂ gone => ?_
  refine (closeOwnedMemory_records backed l₂).andThen fun _ => .report ?_
  rw [gone, same, Ledger.set_set]

/-- Once an object is destroyed, its handle is not held any more. -/
theorem destroy_backed (o : BufferObject) :
    StaysBacked s fd o (destroy.run o) fun _ o' => o'.buffer = none := by
  intro l card backed h audited
  unfold Yields
  rw [destroy_run]
  split
  · next gone => exact ⟨rfl, l, audited, backed.locked o.lockCount o.lockedFor, gone⟩
  · next b found =>
    obtain ⟨holders, l', audited', rfl⟩ := tearDown_records card backed found h audited
    refine ⟨holders, _, audited', ⟨.set found none (.inr ⟨rfl, rfl⟩), ?_⟩, rfl⟩
    exact ⟨backed.backend, backed.card, backed.named, backed.covers, fun _ => rfl, nofun⟩

/-! ## Coming to life -/

/-- An object that is new in the ledger. -/
structure Arrives (s : Surroundings) (fd : Int32) (l : Ledger) (o : BufferObject) (l' : Ledger) :
    Prop where
  card : l'.card = l.card
  backed : o.Backed s fd l'
  handle : ∃ handle, o.handle? = some handle ∧ l.holdings handle = none
  others : ∀ handle, o.handle? ≠ some handle → l'.holdings handle = l.holdings handle

theorem Arrives.of_enters {d : Descriptor} (enters : Dumb.Enters s l d b l') (found : o.buffer = some b)
    (backed : o.Backed s fd l') : o.Arrives s fd l l' := by
  obtain ⟨free, ⟨a, rfl⟩, -, -⟩ := enters
  refine ⟨rfl, backed, ⟨b.handle, handle_of_some found, free⟩, fun handle ne => ?_⟩
  refine l.set_holdings_of_ne ?_ a
  rintro rfl
  exact ne (handle_of_some found)

/-- An object that is destroyed right after it has arrived leaves the ledger as it was. -/
theorem Arrives.left (arrives : o.Arrives s fd l l') {l'' : Ledger} (proceeds : Proceeds l' o l'' o')
    (gone : o'.buffer = none) : l'' = l := by
  obtain ⟨handle, own, free⟩ := arrives.handle
  have left : l''.holdings handle = none := by
    rcases proceeds.handle with same | ⟨-, left⟩
    · rw [own, handle?, gone] at same
      cases same
    · exact left handle own
  have holdings : l''.holdings = l.holdings := by
    funext handle'
    by_cases eq : o.handle? = some handle'
    · obtain rfl := Option.some.inj (own.symm.trans eq)
      rw [left, free]
    · rw [proceeds.others handle' eq, arrives.others handle' eq]
  rcases l'' with ⟨card'', holdings''⟩
  cases holdings
  cases proceeds.card.trans arrives.card
  rfl

theorem Arrives.later {l₀ : Ledger} (arrives : o.Arrives s fd l₀ l) (proceeds : Proceeds l o l' o')
    (backed : o'.Backed s fd l') (same : o'.handle? = o.handle?) : o'.Arrives s fd l₀ l' where
  card := proceeds.card.trans arrives.card
  backed := backed
  handle := same ▸ arrives.handle
  others handle ne := by
    rw [same] at ne
    exact (proceeds.others handle ne).trans (arrives.others handle ne)

theorem finish_records {l₀ : Ledger} (card : l₀.card = some fd) (arrives : o.Arrives s fd l₀ l) :
    Records s l o.finish (orLeaves (Arrives s fd l₀) l₀) := by
  intro h audited
  have card₁ := arrives.card.trans card
  unfold Yields finish
  split
  · have attached := attach_backed o l card₁ arrives.backed h audited
    have same := attach_handle o h
    unfold Yields at attached
    rcases eq : attachFramebuffer.run.run o h with ⟨⟨e | id, o'⟩, h'⟩ <;>
      rw [eq] at attached same <;>
      obtain ⟨holders, l', audited', ⟨proceeds, backed⟩, -⟩ := attached
    all_goals have arrives' := arrives.later proceeds backed same
    · obtain ⟨holders', l'', audited'', ⟨proceeds', -⟩, gone⟩ :=
        destroy_backed o' l' (proceeds.card.trans card₁) backed h' audited'
      exact ⟨holders'.trans holders, l'', audited'', arrives'.left proceeds' gone⟩
    · exact ⟨holders, l', audited', arrives'⟩
  · exact ⟨rfl, l, audited, arrives⟩

theorem ofBuffer_backed {card : Card} (onCard : card.fd = fd) {request : Descriptor}
    (unkeyed : request.key? = none) (enters : Dumb.Enters s l request b l') :
    (ofBuffer (.dumb fd) card request b).Backed s fd l' where
  backend := rfl
  card := onCard
  named _ dmabuf keyed := by
    obtain ⟨name, memory⟩ := enters.named unkeyed
    simp only [ofBuffer, Descriptor.withMemory, Descriptor.key?, memory] at keyed
    cases (Option.filter_eq_some_iff.1 keyed).1
  covers := nofun
  bare := nofun
  entered := by
    rintro _ ⟨⟩
    obtain ⟨size, sized, held⟩ := enters.entered.holding
    refine ⟨⟨size, .inl (sized.resolve_right ?_), held⟩, enters.entered.whole⟩
    rintro ⟨dmabuf, covered, keyed, -⟩
    cases unkeyed.symm.trans keyed

section New

variable {card : Card} (onCard : card.fd = fd) (isOpen : l.card = some fd)
include onCard isOpen

/-- A new object is entered in the ledger, or the ledger stays as it was. -/
theorem create_records (width height : UInt32) (format : PixelFormat) (usage : Usage) :
    Records s l (create (.dumb fd) card width height format usage).run
      (orLeaves (Arrives s fd l) l) := by
  intro h audited
  unfold Yields
  rw [create_run]
  cases asked : request? width height format usage with
  | none => exact ⟨rfl, l, audited, rfl⟩
  | some request =>
    have unkeyed : request.key? = none := by
      obtain ⟨g, -, rfl⟩ := Option.map_eq_some_iff.1 asked
      rfl
    have allocated := Dumb.allocate_records isOpen request h audited
    unfold Yields at allocated
    dsimp only
    rcases eq : ((Backend.dumb fd).allocate request).run h with ⟨e | b, h'⟩ <;>
      rw [show (Dumb.allocate fd request).run h = _ from eq] at allocated <;>
      obtain ⟨holders, l', audited', enters⟩ := allocated
    · exact ⟨holders, l', audited', enters⟩
    dsimp only
    split
    · obtain ⟨holders', l'', audited'', holds⟩ :=
        finish_records isOpen (.of_enters enters rfl (ofBuffer_backed onCard unkeyed enters))
          (h'.reported (.created width height format b.memory b.stride)) audited'
      exact ⟨holders'.trans holders, l'', audited'', holds⟩
    · obtain ⟨size, -, held⟩ := enters.entered.holding
      obtain ⟨a, set⟩ := enters.set
      have card' : l'.card = some fd := set.symm ▸ isOpen
      obtain ⟨holders', l'', audited'', left⟩ := Dumb.free_records card' held
        (h'.reported (.invalidMemory "dumb" b.memory)) audited'
      have same : l'' = l := by rw [left, set, Ledger.set_set, Ledger.set_none enters.free]
      exact ⟨holders'.trans holders, l'', audited'', same⟩

/-- An object on opened memory is entered in the ledger, or the ledger stays as it was. -/
theorem importFrom_records (d : Descriptor) :
    Records s l (importFrom (.dumb fd) card d).run (orLeaves (Arrives s fd l) l) := by
  intro h audited
  unfold Yields
  rw [importFrom_run]
  split
  · split
    · exact ⟨rfl, l, audited, rfl⟩
    · next covers =>
      have allocated := Dumb.allocate_records isOpen d h audited
      unfold Yields at allocated
      rcases eq : ((Backend.dumb fd).allocate d).run h with ⟨e | b, h'⟩ <;>
        rw [show (Dumb.allocate fd d).run h = _ from eq] at allocated <;>
        obtain ⟨holders, l', audited', enters⟩ := allocated
      · exact ⟨holders, l', audited', enters⟩
      · refine ⟨holders, l', audited', .of_enters enters rfl ⟨rfl, onCard, nofun, fun _ => ?_, nofun, ?_⟩⟩
        · exact Option.isSome_iff_ne_none.2 fun none => covers (Option.isNone_iff_eq_none.2 none)
        · rintro _ ⟨⟩
          exact enters.entered
  · exact ⟨rfl, l, audited, rfl⟩

end New

end GraphicsBuffers.BufferObject

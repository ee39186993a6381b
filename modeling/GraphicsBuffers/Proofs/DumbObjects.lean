import GraphicsBuffers.Proofs.DumbBuffers
import GraphicsBuffers.Proofs.Locks
/-!
# What buffer objects own on the dumb-buffer backend

An object owns its framebuffer and what its buffer owns, and nothing once it is destroyed. While it is
in use its buffer is mapped if the usage it is locked for has a software flag, once for as many maps as
there are locks, and not otherwise (`OnDumb`). Every operation on an object preserves this and trades
what the object owned for what it owns then; one that fails leaves it owning what it did.
-/

namespace GraphicsBuffers.BufferObject

open Wire Wire.Exchange

/-- What an object owns. -/
def resources (o : BufferObject) : Set Resource :=
  match o.buffer, o.framebuffer with
  | none, _ => ∅
  | some b, none => b.resources
  | some b, some id => {.framebuffer id} ∪ b.resources

/-- A buffer is mapped for the locks of its object as it should be. -/
def Mapped (o : BufferObject) (b : BackendBuffer) : Prop :=
  if o.lockedFor.swAccess then b.mapping.isSome ∧ b.mapCount = o.lockCount
  else b.mapping = none ∧ b.mapCount = 0

/-- An object whose memory is on a card that the dumb-buffer backend serves. -/
structure OnDumb (fd : Int32) (o : BufferObject) : Prop where
  backend : o.backend = .dumb fd
  card : o.card.fd = fd
  /-- No file descriptor goes with an object that was allocated here. -/
  named : o.imported = false → ∀ dmabuf, o.descriptor.key? ≠ some (.prime dmabuf)
  mapped : ∀ b, o.buffer = some b → o.Mapped b
  bare : o.buffer = none → o.framebuffer = none

/-- What is to be shown of an operation on an object: whatever it answers, the object is in order and
owns what was traded for what it owned before, which is the same if the operation failed. -/
def Works {ε α : Type} (fd : Int32) (o : BufferObject) (x : HostM (Except ε α × BufferObject)) : Prop :=
  Turns fd o.resources x (·.2.resources) fun result =>
    result.2.OnDumb fd ∧ (result.1.isOk = false → result.2.resources = o.resources)

variable {fd : Int32} {o : BufferObject}

theorem bare_of_some {b : BackendBuffer} (found : o.buffer = some b) :
    o.buffer = none → o.framebuffer = none := by simp [found]

theorem mapped_iff_of_sw {b : BackendBuffer} (sw : o.lockedFor.swAccess) :
    o.Mapped b ↔ b.mapping.isSome ∧ b.mapCount = o.lockCount := by rw [Mapped, if_pos sw]

theorem mapped_iff_of_hw {b : BackendBuffer} (hw : o.lockedFor.swAccess = false) :
    o.Mapped b ↔ b.mapping = none ∧ b.mapCount = 0 := by
  rw [Mapped, if_neg (by rw [hw]; nofun)]

theorem swAccess_withLockLess : o.withLockLess.lockedFor.swAccess =
    (decide (o.lockCount ≠ 1) && o.lockedFor.swAccess) := by
  unfold withLockLess
  by_cases last : o.lockCount = 1
  · simp [last]
  · simp [last]

/-! ## What is owned -/

theorem resources_bufferless (destroyed : o.buffer = none) : o.resources = ∅ := by
  rw [resources, destroyed]

theorem resources_mapped {b : BackendBuffer} (found : o.buffer = some b) (unmapped : b.mapping = none)
    (m : Mapping) (n : UInt32) :
    { o with buffer := some { b with mapping := some m, mapCount := n } }.resources =
      {.mapping m.id} ∪ o.resources := by
  obtain ⟨d, i, backend, card, buffer, locks, lockedFor, _ | id⟩ := o <;> cases found <;>
    simp only [resources, BackendBuffer.resources, unmapped]
  exact Set.union_left_comm ..

theorem resources_same {b b' : BackendBuffer} (found : o.buffer = some b)
    (handle : b'.handle = b.handle) (mapping : b'.mapping = b.mapping) :
    { o with buffer := some b' }.resources = o.resources := by
  obtain ⟨d, i, backend, card, buffer, locks, lockedFor, _ | id⟩ := o <;> cases found <;>
    simp only [resources, BackendBuffer.resources, handle, mapping]

theorem resources_unmapped {b : BackendBuffer} (found : o.buffer = some b) {m : Mapping}
    (mapped : b.mapping = some m) :
    let rest := { o with buffer := some { b with mapCount := 0, mapping := none } }.resources
    o.resources = {.mapping m.id} ∪ rest ∧ ∀ r ∈ rest, r ∉ ({.mapping m.id} : Set Resource) := by
  obtain ⟨d, i, backend, card, buffer, locks, lockedFor, _ | id⟩ := o <;> cases found <;>
    simp only [resources, BackendBuffer.resources, mapped]
  · exact ⟨trivial, by simp⟩
  · exact ⟨Set.union_left_comm .., by simp⟩

/-! ## Locks -/

section Locks

variable (on : o.OnDumb fd) (usage : Usage) (region : Region)
include on

/-- The memory is mapped, or shares the mapping it has. -/
theorem OnDumb.map {b : BackendBuffer} (found : o.buffer = some b) {whole : Usage}
    (sw : whole.swAccess)
    (first : o.lockedFor.swAccess = false → o.lockCount = 0)
    {h : Host} (sound : h.kernel.Sound) (opened : h.kernel.Opened fd)
    (owned : o.resources ⊆ h.kernel.live) :
    match (o.backend.map region whole.swWrite).run.run b h with
    | ((.ok _, b), h') =>
      let o' := { o with
        buffer := some b, lockCount := o.lockCount + 1, lockedFor := o.lockedFor ||| whole }
      o'.OnDumb fd ∧ h.Trades o.resources o'.resources h'
    | ((.error _, b), h') =>
      o.buffer = some b ∧ h.Trades o.resources o.resources h' := by
  have mapped := on.mapped b found
  have asked : (o.backend.map region whole.swWrite).run.run b h = (Dumb.map fd).run.run b h := by
    rw [on.backend]
    rfl
  rw [asked, Dumb.map_run]
  have sw' : (o.lockedFor ||| whole).swAccess := by rw [Usage.swAccess_or, sw, Bool.or_true]
  cases mapping : b.mapping with
  | some m =>
    have locked : o.lockedFor.swAccess := by
      by_contra unlocked
      rw [mapped_iff_of_hw (by simpa using unlocked), mapping] at mapped
      cases mapped.1
    rw [mapped_iff_of_sw locked] at mapped
    refine ⟨⟨on.backend, on.card, on.named, ?_, nofun⟩, ?_⟩
    · rintro _ ⟨⟩
      refine (mapped_iff_of_sw ?_).2 ⟨rfl, congrArg (· + 1) mapped.2⟩
      exact sw'
    · have still : h.Trades o.resources o.resources h := (Neutral.pure () h sound).keep owned
      exact still.into (resources_same found rfl mapping.symm)
  | none =>
    have unlocked : o.lockedFor.swAccess = false := by
      by_contra locked
      rw [mapped_iff_of_sw (by simpa using locked), mapping] at mapped
      cases mapped.1
    rw [mapped_iff_of_hw unlocked] at mapped
    have tries := (Dumb.mapWhole_tries fd b).keep (F := o.resources) h sound opened owned
    unfold Yields at tries
    rcases eq : (Dumb.mapWhole fd b).run h with ⟨e | m, h'⟩ <;> rw [eq] at tries
    · exact ⟨found, tries.2⟩
    · refine ⟨⟨on.backend, on.card, on.named, ?_, nofun⟩, ?_⟩
      · rintro _ ⟨⟩
        have count : b.mapCount + 1 = o.lockCount + 1 := by rw [mapped.2, first unlocked]
        refine (mapped_iff_of_sw ?_).2 ⟨rfl, count⟩
        exact sw'
      · exact tries.2.into (resources_mapped found mapping m (b.mapCount + 1))

/-- The end of a dialogue with the backend, for `Works`. -/
def HeldWell {ε α : Type} (fd : Int32) (o : BufferObject) (h : Host) (held : Held (Except ε α)) : Prop :=
  (held.object.OnDumb fd ∧ (held.answer.isOk = false → held.object.resources = o.resources)) ∧
    h.Trades o.resources held.object.resources held.host

theorem lockDialogue_held {h : Host} (sound : h.kernel.Sound) (opened : h.kernel.Opened fd)
    (owned : o.resources ⊆ h.kernel.live) :
    HeldWell fd o h ((o.lockDialogue usage region).hold o.backend h) := by
  have still : h.Trades o.resources o.resources h := (Neutral.pure () h sound).keep owned
  have reported (event : LogEvent) : h.Trades o.resources o.resources (h.reported event) :=
    (Host.Trades.reported sound event).keep owned
  unfold lockDialogue
  dsimp only
  split
  · exact ⟨⟨on, fun _ => rfl⟩, reported _⟩
  split
  · exact ⟨⟨on, fun _ => rfl⟩, reported _⟩
  split
  · exact ⟨⟨on, fun _ => rfl⟩, still⟩
  next compatible _ buffer found =>
  split
  · next sw =>
    -- A lock that brings software access to an object begins a nest.
    have first (unlocked : o.lockedFor.swAccess = false) : o.lockCount = 0 := by
      refine (fits_of_compatible compatible).resolve_right fun part => ?_
      have := Usage.or_eq_left part
      rw [Usage.swAccess_or, unlocked, Bool.or_false] at sw
      rw [← this, Usage.swAccess_or, sw, Bool.or_true] at unlocked
      cases unlocked
    have mapped := on.map region found sw first sound opened owned
    simp only [Dialogue.hold]
    rcases eq : (o.backend.map region (usage ||| o.lockedFor).swWrite).run.run buffer h with
      ⟨⟨e | address, b⟩, h'⟩ <;> rw [eq] at mapped
    · obtain ⟨same, trades⟩ := mapped
      have unchanged : { o with buffer := some b } = o := by rw [← same]
      have failed := trades.trans ((Host.Trades.reported trades.kernel.sound
        (.mapFailed o.descriptor.memory e)).keep trades.kernel.owned)
      exact ⟨⟨unchanged.symm ▸ on, fun _ => congrArg resources unchanged⟩,
        failed.into (congrArg resources unchanged)⟩
    · obtain ⟨on', trades⟩ := mapped
      refine ⟨⟨on', fun failed => ?_⟩, trades.trans ?_⟩
      · cases failed
      · exact (Host.Trades.reported trades.kernel.sound _).keep trades.kernel.owned
  · next hw =>
    have unlocked : o.lockedFor.swAccess = false := by
      rw [Usage.swAccess_or] at hw
      simp_all
    have mapped := on.mapped buffer found
    refine ⟨⟨⟨on.backend, on.card, on.named, fun b live => ?_, on.bare⟩, fun failed => ?_⟩, reported _⟩
    · obtain rfl : buffer = b := Option.some.inj (found.symm.trans live)
      rw [mapped_iff_of_hw unlocked] at mapped
      have hwStill : (o.lockedFor ||| (usage ||| o.lockedFor)).swAccess = false := by
        rw [Usage.swAccess_or, unlocked, Bool.false_or]
        simpa using hw
      refine (mapped_iff_of_hw ?_).2 mapped
      exact hwStill
    · cases failed

theorem lock_works : Works fd o ((lock usage region).run.run o) := by
  intro h sound opened owned
  unfold Yields
  rw [lock_run]
  exact lockDialogue_held on usage region sound opened owned

theorem lockPlanar_works : Works fd o ((lockPlanar usage region).run.run o) := by
  intro h sound opened owned
  have still : h.Trades o.resources o.resources h := (Neutral.pure () h sound).keep owned
  unfold Yields
  rw [lockPlanar_run]
  unfold lockPlanarDialogue
  dsimp only
  split
  · exact ⟨⟨on, fun _ => rfl⟩, still⟩
  split
  · exact ⟨⟨on, fun _ => rfl⟩, still⟩
  next sw =>
  obtain ⟨⟨on', failed⟩, trades⟩ := lockDialogue_held on usage region sound opened owned
  rw [Dialogue.hold_answering]
  refine ⟨⟨on', fun refused => ?_⟩, trades⟩
  cases answer : ((o.lockDialogue usage region).hold o.backend h).answer with
  | error e =>
    rw [answer] at failed
    exact failed rfl
  | ok address =>
    have seen := lockDialogue_address answer
    dsimp only at refused
    rw [answer] at refused
    cases address with
    | none => simp_all [Usage.swAccess_or]
    | some address => cases refused

/-- An object that is not mapped has one lock less. -/
theorem OnDumb.lockLess (hw : ∀ b, o.buffer = some b → o.lockedFor.swAccess = false) :
    o.withLockLess.OnDumb fd := by
  refine ⟨on.backend, on.card, on.named, fun b found => ?_, on.bare⟩
  have found : o.buffer = some b := found
  have mapped := on.mapped b found
  rw [mapped_iff_of_hw (hw b found)] at mapped
  rw [mapped_iff_of_hw (by rw [swAccess_withLockLess, hw b found, Bool.and_false])]
  exact mapped

/-- The last lock takes the mapping along, and one before it leaves it to the others. -/
theorem OnDumb.unmap {b : BackendBuffer} (found : o.buffer = some b) (sw : o.lockedFor.swAccess)
    (locked : o.lockCount ≠ 0) {h : Host} (sound : h.kernel.Sound) (opened : h.kernel.Opened fd)
    (owned : o.resources ⊆ h.kernel.live) :
    let unmapped := o.backend.unmap.run b h
    let o' := { o with buffer := some unmapped.1.2 }.withLockLess
    o'.OnDumb fd ∧ h.Trades o.resources o'.resources unmapped.2 := by
  have asked : o.backend.unmap.run b h = Dumb.unmap.run b h := by
    rw [on.backend]
    rfl
  have mapped := on.mapped b found
  rw [mapped_iff_of_sw sw] at mapped
  obtain ⟨m, mapping⟩ := Option.isSome_iff_exists.1 mapped.1
  rw [asked, Dumb.unmap_run, if_neg (mapped.2 ▸ locked)]
  by_cases last : b.mapCount = 1
  · have free : o.lockCount = 1 := mapped.2 ▸ last
    obtain ⟨whole, apart⟩ := resources_unmapped found mapping
    rw [whole] at owned ⊢
    obtain ⟨-, trades⟩ := (Mapping.unmap_takes m).release apart h sound opened owned
    rw [if_pos last, mapping]
    refine ⟨⟨on.backend, on.card, on.named, ?_, bare_of_some rfl⟩, trades⟩
    rintro _ ⟨⟩
    refine (mapped_iff_of_hw ?_).2 ⟨rfl, rfl⟩
    exact swAccess_withLockLess.trans (by simp [free])
  · have more : o.lockCount ≠ 1 := fun one => last (mapped.2.trans one)
    have still : h.Trades o.resources o.resources h := (Neutral.pure () h sound).keep owned
    rw [if_neg last]
    refine ⟨⟨on.backend, on.card, on.named, ?_, bare_of_some rfl⟩,
      still.into (resources_same found rfl rfl)⟩
    rintro _ ⟨⟩
    refine (mapped_iff_of_sw ?_).2 ⟨mapped.1, congrArg (· - 1) mapped.2⟩
    exact swAccess_withLockLess.trans (by simp [more, sw])

theorem unlock_turns : Turns fd o.resources (unlock.run o) (·.2.resources) (·.2.OnDumb fd) := by
  intro h sound opened owned
  have still : h.Trades o.resources o.resources h := (Neutral.pure () h sound).keep owned
  unfold Yields
  rw [unlock_run]
  unfold unlockDialogue
  split
  · exact ⟨on, still⟩
  next locked =>
  split
  · next b found =>
    split
    · next sw => exact on.unmap found sw locked sound opened owned
    · next hw => exact ⟨on.lockLess fun _ _ => by simpa using hw, still⟩
  · next destroyed =>
    refine ⟨on.lockLess fun b found => ?_, still⟩
    cases destroyed.symm.trans found

theorem unlock_works : Works fd o ((liftM unlock : ExceptT Error ObjectM Unit).run.run o) := by
  intro h sound opened owned
  obtain ⟨on', trades⟩ := unlock_turns on h sound opened owned
  exact ⟨⟨on', nofun⟩, trades⟩

end Locks

/-! ## Framebuffers -/

theorem resources_attached {b : BackendBuffer} (found : o.buffer = some b)
    (none : o.framebuffer = none) (id : UInt32) :
    { o with framebuffer := some id }.resources = {.framebuffer id} ∪ o.resources := by
  obtain ⟨d, i, backend, card, buffer, locks, lockedFor, fb⟩ := o
  cases found
  cases none
  rfl

theorem addFramebuffer_tries (o : BufferObject) (layout : PlaneLayout) :
    Tries o.card.fd ∅ (o.addFramebuffer layout) (fun id => {.framebuffer id}) ∅ fun _ => True :=
  .explain (exchange_gives (addFb2_gives _ _ _ layout)) fun _ =>
    (Neutral.report _).turns.bind fun _ _ => (Neutral.pure _).turns

theorem attach_works (on : o.OnDumb fd) : Works fd o (attachFramebuffer.run.run o) := by
  intro h sound opened owned
  have still : h.Trades o.resources o.resources h := (Neutral.pure () h sound).keep owned
  unfold Yields
  rw [attachFramebuffer_run]
  split
  · exact ⟨⟨on, fun _ => rfl⟩, still⟩
  · exact ⟨⟨on, fun _ => rfl⟩, still⟩
  next b none found =>
  have tries := (addFramebuffer_tries o (o.layout h b)).keep (F := o.resources) h sound
    (on.card.symm ▸ opened) owned
  unfold Yields at tries
  rcases eq : (o.addFramebuffer (o.layout h b)).run h with ⟨e | id, h'⟩ <;> rw [eq] at tries
  · exact ⟨⟨on, fun _ => rfl⟩, tries.2⟩
  · have trades := tries.2.trans ((Host.Trades.reported tries.2.kernel.sound
      (.framebufferAttached id o.descriptor.memory)).keep tries.2.kernel.owned)
    refine ⟨⟨⟨on.backend, on.card, on.named, on.mapped, fun gone => ?_⟩, nofun⟩,
      trades.into (resources_attached found none id)⟩
    cases found.symm.trans gone

/-! ## Destruction -/

theorem removeFramebuffer_turns {b : BackendBuffer} (found : o.buffer = some b) :
    Turns o.card.fd o.resources o.removeFramebuffer (fun _ => b.resources) fun _ => True := by
  obtain ⟨d, i, backend, card, buffer, locks, lockedFor, _ | id⟩ := o <;> cases found
  · exact (Neutral.pure ()).turns
  · have apart : ∀ r ∈ b.resources, r ∉ ({.framebuffer id} : Set Resource) := by
      unfold BackendBuffer.resources
      split <;> simp
    refine ((exchange_takes (removeFb_takes id)).release apart).then_neutral fun outcome => ?_
    cases outcome with
    | ok => exact .pure _
    | error e => exact .report _

theorem closeOwnedMemory_neutral (on : o.OnDumb fd) : Neutral o.closeOwnedMemory := by
  unfold closeOwnedMemory
  split
  · next allocated =>
    split
    · next dmabuf keyed => exact absurd keyed (on.named (by simpa using allocated) dmabuf)
    · exact .pure _
  · exact .pure _

theorem tearDown_turns (on : o.OnDumb fd) {b : BackendBuffer} (found : o.buffer = some b) :
    Turns fd o.resources (o.tearDown b) (fun _ => ∅) fun _ => True := by
  have locks : Neutral o.reportLocks := by
    unfold reportLocks
    split
    · exact .report _
    · exact .pure _
  have removed : Turns fd o.resources o.removeFramebuffer (fun _ => b.resources) fun _ => True :=
    on.card ▸ removeFramebuffer_turns found
  have freed : Turns fd b.resources (o.backend.free b) (fun _ => ∅) fun _ => True := by
    rw [on.backend]
    exact Dumb.free_turns fd b
  refine locks.turns.bind fun _ _ => removed.bind fun _ _ => ?_
  refine freed.bind fun _ _ => (closeOwnedMemory_neutral on).turns.bind fun _ _ => ?_
  exact (Neutral.report _).turns

/-- Destroying an object gives back all it owns. -/
theorem destroy_turns (on : o.OnDumb fd) :
    Turns fd o.resources (destroy.run o) (·.2.resources)
      fun result => result.2.OnDumb fd ∧ result.2.resources = ∅ := by
  intro h sound opened owned
  unfold Yields
  rw [destroy_run]
  split
  · next gone =>
    exact ⟨⟨on, resources_bufferless gone⟩, (Neutral.pure () h sound).keep owned⟩
  · next b found =>
    obtain ⟨-, trades⟩ := tearDown_turns on found h sound opened owned
    exact ⟨⟨⟨on.backend, on.card, on.named, nofun, fun _ => rfl⟩, rfl⟩, trades⟩

/-! ## Coming to life -/

theorem mapped_of_new {d : Descriptor} {b : BackendBuffer} (new : Dumb.New d b)
    (unlocked : o.lockedFor = .empty) : o.Mapped b := by
  rw [mapped_iff_of_hw (by rw [unlocked, Usage.swAccess_empty])]
  exact ⟨new.mapping, new.mapCount⟩

theorem ofBuffer_onDumb {card : Card} (same : card.fd = fd) {request : Descriptor}
    (unkeyed : request.key? = none) {b : BackendBuffer} (new : Dumb.New request b) :
    (ofBuffer (.dumb fd) card request b).OnDumb fd where
  backend := rfl
  card := same
  named _ dmabuf keyed := by
    obtain ⟨name, memory⟩ := new.named unkeyed
    simp only [ofBuffer, Descriptor.withMemory, Descriptor.key?, memory] at keyed
    cases (Option.filter_eq_some_iff.1 keyed).1
  mapped := by
    rintro _ ⟨⟩
    exact mapped_of_new new rfl
  bare := nofun

theorem ofMemory_onDumb {card : Card} (same : card.fd = fd) {d : Descriptor} {b : BackendBuffer}
    (new : Dumb.New d b) : (ofMemory (.dumb fd) card d b).OnDumb fd where
  backend := rfl
  card := same
  named := nofun
  mapped := by
    rintro _ ⟨⟩
    exact mapped_of_new new rfl
  bare := nofun

theorem finish_turns (on : o.OnDumb fd) :
    Turns fd o.resources o.finish (ends resources ∅) (onOk (OnDumb fd)) := by
  intro h sound opened owned
  unfold Yields finish
  split
  · obtain ⟨⟨on', failed⟩, trades⟩ := attach_works on h sound opened owned
    rcases eq : attachFramebuffer.run.run o h with ⟨⟨e | id, o'⟩, h'⟩ <;> rw [eq] at on' failed trades
    · obtain ⟨⟨-, nothing⟩, trades'⟩ := destroy_turns on' h' trades.kernel.sound
        (opened.later trades.files) trades.kernel.owned
      exact ⟨trivial, trades.trans (trades'.into nothing.symm)⟩
    · exact ⟨on', trades⟩
  · exact ⟨on, (Neutral.pure () h sound).keep owned⟩

theorem resources_of_unmapped {b : BackendBuffer} (found : o.buffer = some b)
    (bare : o.framebuffer = none) (unmapped : b.mapping = none) : o.resources = {.handle b.handle} := by
  rw [resources, found, bare]
  dsimp only
  rw [BackendBuffer.resources, unmapped]

variable {card : Card} (same : card.fd = fd)
include same

/-- A new object owns what was given out for it, and an allocation that fails leaves nothing
behind. -/
theorem create_tries (width height : UInt32) (format : PixelFormat) (usage : Usage) :
    Tries fd ∅ (create (.dumb fd) card width height format usage) resources ∅ (OnDumb fd) := by
  intro h sound opened owned
  unfold Yields
  rw [create_run]
  cases asked : request? width height format usage with
  | none => exact ⟨trivial, .reported sound _⟩
  | some request =>
    have unkeyed : request.key? = none := by
      obtain ⟨g, -, rfl⟩ := Option.map_eq_some_iff.1 asked
      rfl
    obtain ⟨new, trades⟩ := Dumb.allocate_tries fd request h sound opened owned
    dsimp only
    rcases eq : ((Backend.dumb fd).allocate request).run h with ⟨e | b, h'⟩ <;>
      rw [show (Dumb.allocate fd request).run h = _ from eq] at new trades
    · exact ⟨trivial, trades.trans (.reported trades.kernel.sound _)⟩
    have reported (event : LogEvent) : h.Trades ∅ {.handle b.handle} (h'.reported event) :=
      trades.trans ((Host.Trades.reported trades.kernel.sound event).keep trades.kernel.owned)
    dsimp only
    split
    · have on := ofBuffer_onDumb same unkeyed new
      have trades' := reported (.created width height format b.memory b.stride)
      have owns := resources_of_unmapped (o := ofBuffer (.dumb fd) card request b) rfl rfl new.mapping
      obtain ⟨on', finished⟩ := finish_turns on _ trades'.kernel.sound
        (opened.later trades'.files) (owns ▸ trades'.kernel.owned)
      exact ⟨on', (trades'.into owns).trans finished⟩
    · have trades' := reported (.invalidMemory "dumb" b.memory)
      have owns : b.resources = {.handle b.handle} := by rw [BackendBuffer.resources, new.mapping]
      obtain ⟨-, freed⟩ := Dumb.free_turns fd b _ trades'.kernel.sound
        (opened.later trades'.files) (owns ▸ trades'.kernel.owned)
      exact ⟨trivial, (trades'.into owns).trans freed⟩

/-- An object opened for a descriptor owns what was given out for it, and an import that fails leaves
nothing behind. -/
theorem importFrom_tries (d : Descriptor) :
    Tries fd ∅ (importFrom (.dumb fd) card d) resources ∅ (OnDumb fd) := by
  intro h sound opened owned
  unfold Yields
  rw [importFrom_run]
  split
  · split
    · exact ⟨trivial, .reported sound _⟩
    · obtain ⟨new, trades⟩ := Dumb.allocate_tries fd d h sound opened owned
      rcases eq : ((Backend.dumb fd).allocate d).run h with ⟨e | b, h'⟩ <;>
        rw [show (Dumb.allocate fd d).run h = _ from eq] at new trades
      · exact ⟨trivial, trades.trans (.reported trades.kernel.sound _)⟩
      · have owns := resources_of_unmapped (o := ofMemory (.dumb fd) card d b) rfl rfl new.mapping
        have reported := trades.trans ((Host.Trades.reported trades.kernel.sound
          (.imported d.memory)).keep trades.kernel.owned)
        exact ⟨ofMemory_onDumb same new, reported.into owns⟩
  · exact ⟨trivial, Neutral.pure () h sound⟩

end GraphicsBuffers.BufferObject

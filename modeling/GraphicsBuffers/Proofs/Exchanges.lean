import GraphicsBuffers.Proofs.Resources
import GraphicsBuffers.Proofs.Run
/-!
# What the calls of the kernel trade

A call that is made to fail, or is refused, changes nothing but the trace and the failures still to
come (`Calm`). `control_rule` and `control_unarmed` reduce a control request to what serving it does:
most requests trade nothing (`Neutral`), those that make something give it to the caller under the
number that the caller reads from the reply (`Gives`), and those that give something back cannot fail
(`Takes`).
-/

namespace GraphicsBuffers

open Wire

namespace Kernel

/-! ## Calls -/

/-- Nothing has changed but the trace and the failures still to come. -/
structure Calm (k k' : Kernel) : Prop where
  same : ∃ faults trace, k' = { k with faults, trace }
  unarmed : ∀ point, k.faults.get? point = none → k'.faults.get? point = none

/-- A file descriptor is open on a card. -/
structure Opened (k : Kernel) (fd : Int32) : Prop where
  watched : isWatched fd
  file : ∃ index, k.files.get? fd = some index ∧ index < k.cards.length

/-- No file has been opened or closed. -/
structure SameFiles (k k' : Kernel) : Prop where
  files : k'.files = k.files
  cards : k'.cards.length = k.cards.length

section Calls

variable {k k' k'' : Kernel} {point : FaultPoint} {fd : Int32}

theorem SameFiles.refl (k : Kernel) : k.SameFiles k := ⟨rfl, rfl⟩

theorem SameFiles.trans (first : k.SameFiles k') (second : k'.SameFiles k'') : k.SameFiles k'' :=
  ⟨second.files.trans first.files, second.cards.trans first.cards⟩

theorem Opened.later (opened : k.Opened fd) (same : k.SameFiles k') : k'.Opened fd :=
  ⟨opened.watched, by rw [same.files, same.cards]; exact opened.file⟩

theorem Calm.record (k : Kernel) (entry : TraceEntry) : k.Calm (k.record entry) :=
  ⟨⟨k.faults, _, rfl⟩, fun _ => id⟩

theorem Calm.trans (first : k.Calm k') (second : k'.Calm k'') : k.Calm k'' := by
  obtain ⟨_, _, rfl⟩ := first.same
  obtain ⟨_, _, rfl⟩ := second.same
  exact ⟨⟨_, _, rfl⟩, fun point unarmed => second.unarmed point (first.unarmed point unarmed)⟩

theorem Calm.trades (calm : k.Calm k') (sound : k.Sound) : k.Trades ∅ ∅ k' := by
  obtain ⟨_, _, rfl⟩ := calm.same
  exact .same sound rfl rfl rfl rfl rfl rfl fun point spared =>
    calm.unarmed point (sound.spared point spared)

theorem Calm.files (calm : k.Calm k') : k.SameFiles k' := by
  obtain ⟨_, _, rfl⟩ := calm.same
  exact ⟨rfl, rfl⟩

theorem takeFault_calm (k : Kernel) (point : FaultPoint) : k.Calm (k.takeFault point).2 := by
  unfold takeFault
  split
  · exact ⟨⟨_, _, rfl⟩, fun _ => id⟩
  · next plan armed =>
    refine ⟨⟨_, _, rfl⟩, fun point' unarmed => ?_⟩
    have ne : point' ≠ point := by
      rintro rfl
      rw [armed] at unarmed
      cases unarmed
    exact (Table.get?_insert_of_ne _ _ ne).trans unarmed

/-- A call fails without effect, or has its effect. -/
theorem perform_rule {α : Type} {call : Call} {answer : α → Answer}
    {effect : Kernel → Except Errno (α × Kernel)} {Q : Except Errno α → Kernel → Prop}
    (failed : ∀ e k', k.Calm k' → Q (.error e) k')
    (done : ∀ a k₁ k₂ k', k.Calm k₁ → effect k₁ = .ok (a, k₂) → k₂.Calm k' → Q (.ok a) k') :
    Q (k.perform point call answer effect).1 (k.perform point call answer effect).2 := by
  have calm := k.takeFault_calm point
  unfold perform
  rcases taken : k.takeFault point with ⟨_ | e, k₁⟩ <;> rw [taken] at calm
  · dsimp only at calm ⊢
    rcases eq : effect k₁ with e | ⟨a, k₂⟩
    · exact failed e _ (calm.trans (.record ..))
    · exact done a k₁ k₂ _ calm eq (.record ..)
  · exact failed e _ (calm.trans (.record ..))

/-- A call that is not made to fail and is not refused has its effect. -/
theorem perform_unarmed {α : Type} (unarmed : k.faults.get? point = none) (call : Call)
    (answer : α → Answer) {effect : Kernel → Except Errno (α × Kernel)} {a : α}
    (eq : effect k = .ok (a, k')) :
    k.perform point call answer effect = (.ok a, k'.record (.kernel call (.ok (answer a)))) := by
  simp only [perform, takeFault, unarmed, eq]

end Calls

/-! ## Control requests -/

section Control

variable {k k' : Kernel} {fd : Int32} {request : Request} {argument : Bytes}

theorem Calm.refl (k : Kernel) : k.Calm k := ⟨⟨_, _, rfl⟩, fun _ => id⟩

/-- A control request fails without effect, or is sent to an open card and served there. -/
theorem control_rule {Q : Except Errno Wire.Reply → Kernel → Prop}
    (failed : ∀ e k', k.Calm k' → Q (.error e) k')
    (done : ∀ index card reply k₁ k₂ k', k.Calm k₁ → k₁.Opened fd →
      k₁.serve index card request argument = .ok (reply, k₂) → k₂.Calm k' → Q (.ok reply) k') :
    Q (k.control fd request argument).1 (k.control fd request argument).2 := by
  unfold control
  by_cases watched : isWatched fd
  · simp only [watched, Bool.not_true, Bool.false_eq_true, if_false]
    refine perform_rule failed fun reply k₁ k₂ k' calm eq calm' => ?_
    split at eq
    · next index file =>
      split at eq
      · next card known =>
        have below : index < k₁.cards.length := (List.getElem?_eq_some_iff.1 known).1
        exact done index card reply k₁ k₂ k' calm ⟨watched, index, file, below⟩ eq calm'
      · cases eq
    · cases eq
  · simp only [watched, Bool.not_false, if_true]
    unfold onOrdinary
    split <;> exact failed _ k (.refl k)

/-- A control request to an open card that is not made to fail comes to what serving it does. -/
theorem control_unarmed (opened : k.Opened fd)
    (unarmed : k.faults.get? (.control request) = none) {reply : Wire.Reply}
    (served : ∀ index card, k.serve index card request argument = .ok (reply, k')) :
    ∃ entry, k.control fd request argument = (.ok reply, k'.record entry) := by
  obtain ⟨index, file, below⟩ := opened.file
  refine ⟨.kernel (.control fd request argument) (.ok (.reply reply.bytes)), ?_⟩
  unfold control
  simp only [opened.watched, Bool.not_true, Bool.false_eq_true, if_false]
  refine perform_unarmed unarmed _ _ ?_
  rw [file]
  dsimp only
  rw [List.getElem?_eq_getElem below]
  exact served index _

end Control

/-! ## Other calls -/

section Others

variable {k : Kernel} {fd : Int32}

theorem Calm.neutral {k' : Kernel} (calm : k.Calm k') (sound : k.Sound) :
    k.Trades ∅ ∅ k' ∧ k.SameFiles k' := ⟨calm.trades sound, calm.files⟩

theorem descriptorFlags_calm (k : Kernel) (fd : Int32) : k.Calm (k.descriptorFlags fd).2 := by
  unfold descriptorFlags
  split
  · exact .refl k
  · split
    · exact .refl k
    · refine perform_rule (Q := fun _ k' => k.Calm k') (fun _ _ => id) ?_
      intro _ k₁ k₂ k' calm eq calm'
      split at eq <;> cases eq
      exact calm.trans calm'

theorem seekEnd_calm (k : Kernel) (fd : Int32) : k.Calm (k.seekEnd fd).2 := by
  unfold seekEnd
  split
  · exact .record ..
  · exact .refl k

/-- Mapping memory gives out a mapping, or fails without effect. -/
theorem map_rule {offset length : UInt64} {writable : Bool} (sound : k.Sound)
    {Q : Except Errno Nat → Kernel → Prop}
    (failed : ∀ e k', k.Calm k' → Q (.error e) k')
    (done : ∀ id k', k.Trades ∅ {.mapping id} k' → k.SameFiles k' → Q (.ok id) k') :
    Q (k.map fd offset length writable).1 (k.map fd offset length writable).2 := by
  unfold map
  split
  · unfold onOrdinary
    split <;> exact failed _ k (.refl k)
  · refine perform_rule failed ?_
    intro id k₁ k₂ k' calm eq calm'
    split at eq
    · cases eq
    · split at eq
      · cases eq
      · split at eq <;> cases eq
        have sound₁ := (calm.trades sound).sound
        have gives := addMapping_trades sound₁ ⟨length, writable, k₁.mapSource offset⟩
        have kept := (calm'.trades gives.sound).keep gives.owned
        have files : k₁.SameFiles k' := ⟨calm'.files.files, calm'.files.cards⟩
        exact done _ k' (((calm.trades sound).trans gives).trans kept) (calm.files.trans files)

/-- A mapping is given back without fail. -/
theorem unmap_given (sound : k.Sound) {mapping : Nat} (length : UInt64)
    (given : .mapping mapping ∈ k.live) : ∃ k', k.unmap mapping length = (.ok (), k') ∧
      k.Trades {.mapping mapping} ∅ k' ∧ k.SameFiles k' := by
  have gone : (if k.mappings.contains mapping then
      (.ok ((), { k with mappings := k.mappings.erase mapping }) : Except Errno (Unit × Kernel))
      else .error .EINVAL) = .ok ((), { k with mappings := k.mappings.erase mapping }) := if_pos given
  have trades := removeMapping_trades sound mapping
  refine ⟨_, perform_unarmed (sound.spared .unmap rfl) _ _ gone, ?_⟩
  have calm := Calm.record { k with mappings := k.mappings.erase mapping }
  exact ⟨trades.trans ((calm _).trades trades.sound), rfl, rfl⟩

end Others

/-! ## Effects of control requests -/

section Effects

variable {k k' : Kernel} {argument reply : Bytes}

theorem bind_eq_ok {ε α β : Type} {x : Except ε α} {f : α → Except ε β} {b : β}
    (eq : x >>= f = .ok b) : ∃ a, x = .ok a ∧ f a = .ok b := by
  cases x with
  | error e => cases eq
  | ok a => exact ⟨a, rfl, eq⟩

theorem serveMaster_same {index : Nat} {card : CardNode} {acquire : Bool} (sound : k.Sound)
    (eq : k.serveMaster index card acquire = .ok k') : k.Trades ∅ ∅ k' ∧ k.SameFiles k' := by
  unfold serveMaster at eq
  split at eq <;> cases eq
  exact ⟨.same sound rfl rfl rfl rfl rfl rfl sound.spared, rfl, List.length_set ..⟩

theorem serveFlink_same (sound : k.Sound) (eq : k.serveFlink argument = .ok (reply, k')) :
    k.Trades ∅ ∅ k' ∧ k.SameFiles k' := by
  unfold serveFlink at eq
  split at eq
  · split at eq
    · split at eq <;> cases eq <;>
        exact ⟨.same sound rfl rfl rfl rfl rfl rfl sound.spared, rfl, rfl⟩
    · cases eq
  · cases eq

theorem newHandle_files {object : Nat} {handle : UInt32} (eq : k.newHandle object = .ok (handle, k')) :
    k.SameFiles k' := by
  unfold newHandle at eq
  split at eq <;> cases eq
  exact ⟨rfl, rfl⟩

theorem newObject_trades (sound : k.Sound) {object : MemoryObject} {handle : UInt32}
    (eq : k.newObject object = .ok (handle, k')) :
    k.Trades ∅ {.handle handle} k' ∧ k.SameFiles k' := by
  have stored : k.Trades ∅ ∅ { k with objects := k.objects ++ [object] } :=
    .same sound rfl rfl rfl rfl rfl rfl sound.spared
  have files := @newHandle_files { k with objects := k.objects ++ [object] } k' _ handle eq
  exact ⟨stored.trans (newHandle_trades stored.sound eq), files.files, files.cards⟩

theorem serveCreateDumb_trades (sound : k.Sound) {card : CardNode}
    (eq : k.serveCreateDumb card argument = .ok (reply, k')) (room : 32 ≤ argument.length) :
    k.Trades ∅ {.handle (read32 reply 16)} k' ∧ k.SameFiles k' := by
  unfold serveCreateDumb at eq
  dsimp only at eq
  split at eq
  · cases eq
  · obtain ⟨⟨handle, k₁⟩, made, rest⟩ := bind_eq_ok eq
    cases rest
    have number (pitch : UInt32) (size : UInt64) : read32 (write (write (write argument 16
        (word32 handle)) 20 (word32 pitch)) 24 (word64 size)) 16 = handle := by
      have first : (write argument 16 (word32 handle)).length = argument.length :=
        length_write (by rw [length_word32]; omega)
      have second : (write (write argument 16 (word32 handle)) 20 (word32 pitch)).length =
          argument.length := (length_write (by rw [length_word32, first]; omega)).trans first
      rw [read32_write_of_disjoint (by rw [length_word64, second]; omega) (.inl (by decide)),
        read32_write_of_disjoint (by rw [length_word32, first]; omega) (.inl (by decide)),
        read32_write handle (by omega)]
    rw [number]
    exact newObject_trades sound made

theorem serveGemOpen_trades (sound : k.Sound) (eq : k.serveGemOpen argument = .ok (reply, k'))
    (room : 16 ≤ argument.length) :
    k.Trades ∅ {.handle (read32 reply 4)} k' ∧ k.SameFiles k' := by
  unfold serveGemOpen at eq
  split at eq
  · split at eq
    · obtain ⟨⟨handle, k₁⟩, made, rest⟩ := bind_eq_ok eq
      cases rest
      have first : (write argument 4 (word32 handle)).length = argument.length :=
        length_write (by rw [length_word32]; omega)
      rw [read32_write_of_disjoint (by rw [length_word64, first]; omega) (.inl (by decide)),
        read32_write handle (by omega)]
      exact ⟨newHandle_trades sound made, newHandle_files made⟩
    · cases eq
  · cases eq

theorem servePrime_trades (sound : k.Sound) (eq : k.servePrime argument = .ok (reply, k')) :
    k.Trades ∅ {.handle (read32 reply 0)} k' ∧ k.SameFiles k' := by
  unfold servePrime at eq
  dsimp only at eq
  split at eq
  · obtain ⟨⟨handle, k₁⟩, made, rest⟩ := bind_eq_ok eq
    cases rest
    rw [read32_write handle (Nat.zero_le _)]
    exact newObject_trades sound made
  · cases eq

theorem serveAddFb_trades (sound : k.Sound) (eq : k.serveAddFb argument = .ok (reply, k')) :
    k.Trades ∅ {.framebuffer (read32 reply 0)} k' ∧ k.SameFiles k' := by
  unfold serveAddFb at eq
  split at eq
  · next fits =>
    cases eq
    rw [read32_write _ (Nat.zero_le _)]
    exact ⟨addFramebuffer_trades sound fits, rfl, rfl⟩
  · cases eq

theorem dropHandle_given (sound : k.Sound) {handle : UInt32} (given : .handle handle ∈ k.live) :
    ∃ k', k.dropHandle? handle = some k' ∧ k.Trades {.handle handle} ∅ k' ∧ k.SameFiles k' := by
  obtain ⟨k', dropped⟩ := Option.isSome_iff_exists.1 (dropHandle_isSome given)
  refine ⟨k', dropped, dropHandle_trades sound dropped, ?_⟩
  obtain ⟨index, -, eq⟩ := Option.bind_eq_some_iff.1 dropped
  cases eq
  exact ⟨rfl, rfl⟩

end Effects

end Kernel

/-! ## What serving an exchange trades -/

namespace Wire.Exchange

variable {α : Type}

/-- Serving the exchange trades nothing. -/
def Neutral (x : Exchange α) : Prop :=
  ∀ (k k' : Kernel) (index : Nat) (card : CardNode) (reply : Wire.Reply), k.Sound →
    k.serve index card x.request x.argument = .ok (reply, k') → k.Trades ∅ ∅ k' ∧ k.SameFiles k'

/-- Serving the exchange gives out what is read from the reply. -/
def Gives (x : Exchange α) (given : α → Resource) : Prop :=
  ∀ (k k' : Kernel) (index : Nat) (card : CardNode) (reply : Wire.Reply), k.Sound →
    k.serve index card x.request x.argument = .ok (reply, k') →
      k.Trades ∅ {given (x.answer reply)} k' ∧ k.SameFiles k'

/-- The exchange is never made to fail, and serving it takes back what is there. -/
structure Takes (x : Exchange α) (taken : Resource) : Prop where
  givesBack : FaultPoint.givesBack (.control x.request)
  served : ∀ {k : Kernel}, k.Sound → taken ∈ k.live → ∃ reply k',
    (∀ index card, k.serve index card x.request x.argument = .ok (reply, k')) ∧
      k.Trades {taken} ∅ k' ∧ k.SameFiles k'

theorem neutral_of_same {x : Exchange α} (same : ∀ (k : Kernel) (index : Nat) (card : CardNode),
    ∃ reply, k.serve index card x.request x.argument = .ok (reply, k)) : x.Neutral := by
  intro k k' index card reply sound eq
  obtain ⟨_, eq'⟩ := same k index card
  cases eq.symm.trans eq'
  exact ⟨.same sound rfl rfl rfl rfl rfl rfl sound.spared, .refl k⟩

theorem version_neutral : version.Neutral := neutral_of_same fun _ _ _ => ⟨_, rfl⟩

theorem versionName_neutral (length : UInt64) : (versionName length).Neutral :=
  neutral_of_same fun _ _ _ => ⟨_, rfl⟩

theorem getMagic_neutral : getMagic.Neutral := neutral_of_same fun _ _ _ => ⟨_, rfl⟩

theorem authMagic_neutral (magic : UInt32) : (authMagic magic).Neutral :=
  neutral_of_same fun _ _ _ => ⟨_, rfl⟩

theorem getResources_neutral : getResources.Neutral := neutral_of_same fun _ _ _ => ⟨_, rfl⟩

theorem setMaster_neutral : setMaster.Neutral := by
  intro k k' index card reply sound eq
  obtain ⟨k₁, made, rest⟩ := Kernel.bind_eq_ok eq
  cases rest
  exact Kernel.serveMaster_same sound made

theorem dropMaster_neutral : dropMaster.Neutral := by
  intro k k' index card reply sound eq
  obtain ⟨k₁, made, rest⟩ := Kernel.bind_eq_ok eq
  cases rest
  exact Kernel.serveMaster_same sound made

theorem mapDumb_neutral (handle : UInt32) : (mapDumb handle).Neutral := by
  intro k k' index card reply sound eq
  unfold mapDumb Kernel.serve at eq
  dsimp only at eq
  generalize read32 _ 0 = given at eq
  by_cases known : k.handles.contains given
  · rw [if_pos known] at eq
    cases eq
    exact ⟨.same sound rfl rfl rfl rfl rfl rfl sound.spared, .refl k⟩
  · rw [if_neg known] at eq
    cases eq

theorem gemFlink_neutral (handle : UInt32) : (gemFlink handle).Neutral := by
  intro k k' index card reply sound eq
  obtain ⟨⟨bytes, k₁⟩, named, rest⟩ := Kernel.bind_eq_ok eq
  cases rest
  exact Kernel.serveFlink_same sound named

/-- An exchange that one part of the kernel serves gives out what that part writes in the reply. -/
theorem gives_of_served {x : Exchange α} {given : α → Resource}
    (part : Kernel → CardNode → Except Errno (Bytes × Kernel))
    (served : ∀ (k : Kernel) (index : Nat) (card : CardNode),
      k.serve index card x.request x.argument = part k card >>= fun r => .ok (⟨r.1, []⟩, r.2))
    (trades : ∀ {k k' : Kernel} {card : CardNode} {bytes : Bytes}, k.Sound →
      part k card = .ok (bytes, k') →
        k.Trades ∅ {given (x.answer ⟨bytes, []⟩)} k' ∧ k.SameFiles k') : x.Gives given := by
  intro k k' index card reply sound eq
  rw [served] at eq
  obtain ⟨⟨bytes, k₁⟩, made, rest⟩ := Kernel.bind_eq_ok eq
  cases rest
  exact trades sound made

theorem createDumb_gives (width height bpp : UInt32) :
    (createDumb width height bpp).Gives fun b => .handle b.handle := by
  refine gives_of_served (·.serveCreateDumb · _) (fun _ _ _ => rfl) fun sound made => ?_
  exact Kernel.serveCreateDumb_trades sound made (by simp [createDumb])

theorem gemOpen_gives (name : UInt32) : (gemOpen name).Gives fun object => .handle object.handle := by
  refine gives_of_served (fun k _ => k.serveGemOpen _) (fun _ _ _ => rfl) fun sound made => ?_
  exact Kernel.serveGemOpen_trades sound made (by simp [gemOpen])

theorem primeFdToHandle_gives (dmabuf : Int32) : (primeFdToHandle dmabuf).Gives .handle :=
  gives_of_served (fun k _ => k.servePrime _) (fun _ _ _ => rfl) Kernel.servePrime_trades

theorem addFb2_gives (width height : UInt32) (format : Fourcc) (layout : PlaneLayout) :
    (addFb2 width height format layout).Gives .framebuffer :=
  gives_of_served (fun k _ => k.serveAddFb _) (fun _ _ _ => rfl) Kernel.serveAddFb_trades

theorem destroyDumb_takes (handle : UInt32) : (destroyDumb handle).Takes (.handle handle) where
  givesBack := rfl
  served sound given := by
    obtain ⟨k', dropped, trades⟩ := Kernel.dropHandle_given sound given
    refine ⟨⟨(destroyDumb handle).argument, []⟩, k', fun index card => ?_, trades⟩
    have number : read32 (word32 handle) 0 = handle := read32_word32 handle []
    unfold Kernel.serve destroyDumb
    dsimp only
    rw [number, dropped]
    rfl

theorem gemClose_takes (handle : UInt32) : (gemClose handle).Takes (.handle handle) where
  givesBack := rfl
  served sound given := by
    obtain ⟨k', dropped, trades⟩ := Kernel.dropHandle_given sound given
    refine ⟨⟨(gemClose handle).argument, []⟩, k', fun index card => ?_, trades⟩
    unfold Kernel.serve gemClose
    dsimp only
    rw [read32_word32, dropped]
    rfl

theorem removeFb_takes (id : UInt32) : (removeFb id).Takes (.framebuffer id) where
  givesBack := rfl
  served {k} sound given := by
    refine ⟨⟨(removeFb id).argument, []⟩, { k with framebuffers := k.framebuffers.erase id },
      fun index card => ?_, Kernel.removeFramebuffer_trades sound id, rfl, rfl⟩
    have number : read32 (word32 id) 0 = id := read32_word32 id []
    have known : k.framebuffers.contains id := List.contains_iff_mem.2 given
    unfold Kernel.serve removeFb
    dsimp only
    rw [number, if_pos known]
    rfl

end Wire.Exchange

end GraphicsBuffers

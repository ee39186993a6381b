import GraphicsBuffers.Proofs.Traced
/-!
# What calls do not see

What was reported and recorded is not read by any call, and how often asking a card for its resources is
still to fail matters to nobody but who asks. Two hosts that differ in nothing else are `Host.Aside`, and a
computation that is `Blind` to the difference answers the same on both and leaves them so. Everything that
the kernel is asked for is, but for the resources (`Kernel.control_blind`), and asking for these makes no
other difference (`Device.initDisplay_aside`).
-/

namespace GraphicsBuffers

open Wire

/-! ## The judgement -/

variable {σ ρ ε δ α β : Type}

/-- A computation answers the same from states that are related, and leaves such states. -/
def Blind (R : σ → σ → Prop) (f : σ → α × σ) : Prop :=
  ∀ s s', R s s' → (f s').1 = (f s).1 ∧ R (f s).2 (f s').2

namespace Blind

variable {R : σ → σ → Prop}

theorem pure (a : α) : Blind R (Pure.pure a : StateM σ α) := fun _ _ related => ⟨rfl, related⟩

theorem bind {x : StateM σ α} {f : α → StateM σ β} (first : Blind R x)
    (second : ∀ a, Blind R (f a)) : Blind R (x >>= f) := by
  intro s s' related
  obtain ⟨answer, related⟩ := first s s' related
  have next := second (x s).1 _ _ related
  rw [← answer] at next
  have run (s : σ) : (x >>= f) s = f (x s).1 (x s).2 := rfl
  rw [run, run, ← answer]
  exact next

/-- What follows depends on how a computation came out. -/
theorem cases {x : StateM σ (Except ε α)} {f : Except ε α → StateM σ β} (first : Blind R x)
    (ok : ∀ a, Blind R (f (.ok a))) (error : ∀ e, Blind R (f (.error e))) : Blind R (x >>= f) := by
  refine first.bind fun outcome => ?_
  cases outcome with
  | ok a => exact ok a
  | error e => exact error e

theorem bind_attempt {x : ExceptT ε (StateM σ) α} {f : α → ExceptT ε (StateM σ) β}
    (first : Blind R x.run) (second : ∀ a, Blind R (f a).run) : Blind R (x >>= f).run := by
  apply Blind.cases (f := ExceptT.bindCont f) first
  · exact second
  · exact fun e => .pure _

theorem lift {x : StateM σ α} (blind : Blind R x) : Blind R (liftM x : ExceptT ε (StateM σ) α).run :=
  blind.bind fun _ => .pure _

/-- A computation with a state of its own. -/
theorem layer {x : StateT ρ (StateM σ) α} {r : ρ} (blind : Blind R (x.run r)) :
    Blind R ((liftM x : ExceptT ε (StateT ρ (StateM σ)) α).run.run r) := by
  intro s s' related
  obtain ⟨answer, related⟩ := blind s s' related
  exact ⟨congrArg (fun a => (Except.ok a.1, a.2)) answer, related⟩

theorem explain {x : ExceptT ε (StateM σ) α} {f : ε → StateM σ δ} (first : Blind R x.run)
    (second : ∀ e, Blind R (f e)) : Blind R (GraphicsBuffers.explain x f).run := by
  apply first.cases
  · exact fun a => .pure _
  · exact fun e => (second e).bind fun _ => .pure _

/-- How it comes out, for reasoning about what runs it. -/
theorem runs {f : σ → α × σ} (blind : Blind R f) {s s' : σ} (related : R s s') :
    ∃ a t t', f s = (a, t) ∧ f s' = (a, t') ∧ R t t' := by
  obtain ⟨answer, related⟩ := blind s s' related
  exact ⟨(f s).1, (f s).2, (f s').2, rfl, Prod.ext answer rfl, related⟩

end Blind

/-! ## Kernels -/

namespace Kernel

/-- Two kernels differ only in what was recorded and in the failures of requests for resources. -/
structure Aside (k k' : Kernel) : Prop where
  same : ∃ trace faults, k' = { k with trace, faults }
  faults : ∀ point, point ≠ .control .getResources → k'.faults.get? point = k.faults.get? point

/-- An effect that neither reads nor changes what was recorded and what is to fail. -/
def Plain (effect : Kernel → Except Errno (α × Kernel)) : Prop :=
  ∀ (k : Kernel) trace faults, effect { k with trace, faults } =
    (effect k).map fun (a, k) => (a, { k with trace, faults })

variable {k k' : Kernel}

theorem Aside.refl (k : Kernel) : k.Aside k := ⟨⟨_, _, rfl⟩, fun _ _ => rfl⟩

theorem Aside.record (aside : k.Aside k') (entry : TraceEntry) :
    (k.record entry).Aside (k'.record entry) := by
  obtain ⟨⟨trace, faults, rfl⟩, same⟩ := aside
  exact ⟨⟨_, _, rfl⟩, same⟩

theorem Aside.armFaults (aside : k.Aside k') (point : FaultPoint) (plan : FaultPlan) :
    (k.armFaults point plan).Aside (k'.armFaults point plan) := by
  obtain ⟨⟨trace, faults, rfl⟩, same⟩ := aside
  refine ⟨⟨_, _, rfl⟩, fun point' other => ?_⟩
  have same := same point' other
  unfold Kernel.armFaults
  dsimp only at same ⊢
  rw [Table.get?_insert, Table.get?_insert, same]

theorem takeFault_blind {point : FaultPoint} (other : point ≠ .control .getResources) :
    Blind Aside (takeFault · point) := by
  rintro k _ ⟨⟨trace, faults, rfl⟩, same⟩
  have found : faults.get? point = k.faults.get? point := same point other
  simp only [takeFault, found]
  cases k.faults.get? point with
  | none => exact ⟨rfl, ⟨_, _, rfl⟩, same⟩
  | some plan =>
    refine ⟨rfl, ⟨_, _, rfl⟩, fun point' other' => ?_⟩
    rw [Table.get?_insert, Table.get?_insert, same point' other']

theorem Plain.aside {effect : Kernel → Except Errno (α × Kernel)} (plain : Plain effect)
    (aside : k.Aside k') : match effect k with
      | .error e => effect k' = .error e
      | .ok (a, k₁) => ∃ k₁', effect k' = .ok (a, k₁') ∧ k₁.Aside k₁' := by
  obtain ⟨⟨trace, faults, rfl⟩, same⟩ := aside
  have kept := plain k k.trace k.faults
  rw [plain k trace faults]
  rcases eq : effect k with e | ⟨a, k₁⟩
  · rfl
  · have eq' : effect { k with trace := k.trace, faults := k.faults } = .ok (a, k₁) := eq
    rw [eq'] at kept
    have kept : k₁ = { k₁ with trace := k.trace, faults := k.faults } :=
      congrArg Prod.snd (Except.ok.inj kept)
    refine ⟨_, rfl, ⟨_, _, rfl⟩, fun point other => ?_⟩
    rw [congrArg Kernel.faults kept]
    exact same point other

theorem perform_blind {point : FaultPoint} (other : point ≠ .control .getResources) (call : Call)
    (answer : α → Answer) {effect : Kernel → Except Errno (α × Kernel)} (plain : Plain effect) :
    Blind Aside (perform · point call answer effect) := by
  intro k k' aside
  obtain ⟨taken, aside⟩ := takeFault_blind other k k' aside
  dsimp only at taken aside ⊢
  unfold perform
  rcases first : k.takeFault point with ⟨fault, k₁⟩
  rcases second : k'.takeFault point with ⟨fault', k₁'⟩
  rw [first, second] at taken aside
  cases taken
  cases fault with
  | some e => exact ⟨rfl, aside.record _⟩
  | none =>
    have done := plain.aside aside
    dsimp only
    rcases eq : effect k₁ with e | ⟨a, k₂⟩ <;> rw [eq] at done
    · rw [done]
      exact ⟨rfl, aside.record _⟩
    · obtain ⟨k₂', eq', aside⟩ := done
      rw [eq']
      exact ⟨rfl, aside.record _⟩

/-! ### Control requests -/

section Serving

variable (k : Kernel) (trace : List TraceEntry) (faults : Table FaultPoint FaultPlan)

theorem newHandle_plain (object : Nat) : { k with trace, faults }.newHandle object =
    (k.newHandle object).map fun (handle, k) => (handle, { k with trace, faults }) := by
  unfold newHandle
  dsimp only
  split <;> rfl

theorem newObject_plain (object : MemoryObject) : { k with trace, faults }.newObject object =
    (k.newObject object).map fun (handle, k) => (handle, { k with trace, faults }) :=
  newHandle_plain { k with objects := k.objects ++ [object] } trace faults k.objects.length

theorem dropHandle_plain (handle : UInt32) : { k with trace, faults }.dropHandle? handle =
    (k.dropHandle? handle).map fun k => { k with trace, faults } := by
  unfold dropHandle?
  dsimp only
  rcases k.handles.get? handle with _ | index <;> rfl

end Serving

theorem serve_plain (index : Nat) (card : CardNode) (request : Request) (argument : Bytes) :
    Plain (serve · index card request argument) := by
  intro k trace faults
  cases request with
  | version | getMagic | authMagic | getResources => rfl
  | setMaster | dropMaster =>
    unfold serve serveMaster
    dsimp only
    split <;> rfl
  | createDumb =>
    unfold serve serveCreateDumb
    dsimp only
    split
    · rfl
    · rw [newObject_plain]
      rcases k.newObject _ with _ | ⟨handle, k⟩ <;> rfl
  | mapDumb =>
    unfold serve
    dsimp only
    split <;> rfl
  | destroyDumb | gemClose =>
    unfold serve
    dsimp only
    rw [dropHandle_plain]
    rcases k.dropHandle? (read32 argument 0) <;> rfl
  | gemFlink =>
    unfold serve serveFlink
    dsimp only
    rcases k.handles.get? (read32 argument 0) with _ | index
    · rfl
    dsimp only
    rcases k.objects[index]? with _ | object
    · rfl
    dsimp only
    split <;> rfl
  | gemOpen =>
    unfold serve serveGemOpen
    dsimp only
    rcases k.names.get? (read32 argument 0) with _ | index
    · rfl
    dsimp only
    rcases k.objects[index]? with _ | object
    · rfl
    dsimp only
    rw [newHandle_plain]
    rcases k.newHandle index with _ | ⟨handle, k⟩ <;> rfl
  | primeFdToHandle =>
    unfold serve servePrime
    dsimp only
    rcases k.dmabufs.find? _ with _ | dmabuf
    · rfl
    dsimp only
    rw [newObject_plain]
    rcases k.newObject _ with _ | ⟨handle, k⟩ <;> rfl
  | addFb2 =>
    unfold serve serveAddFb
    dsimp only
    split <;> rfl
  | removeFb =>
    unfold serve
    dsimp only
    split <;> rfl

theorem control_blind (fd : Int32) {request : Request} (other : request ≠ .getResources)
    (argument : Bytes) : Blind Aside (control · fd request argument) := by
  cases watched : isWatched fd with
  | false =>
    rintro k _ ⟨⟨trace, faults, rfl⟩, same⟩
    simp only [control, watched, Bool.not_false, if_true]
    exact ⟨rfl, ⟨_, _, rfl⟩, same⟩
  | true =>
    simp only [control, watched, Bool.not_true, Bool.false_eq_true, if_false]
    refine perform_blind (fun eq => other (FaultPoint.control.inj eq)) _ _ fun k trace faults => ?_
    dsimp only
    rcases k.files.get? fd with _ | index
    · rfl
    dsimp only
    rcases k.cards[index]? with _ | card
    · rfl
    · exact serve_plain index card request argument k trace faults

/-- To ask for resources is the difference that the others do not see. -/
theorem control_aside (k : Kernel) (fd : Int32) (argument : Bytes) :
    k.Aside (k.control fd .getResources argument).2 := by
  have taken : k.Aside (k.takeFault (.control .getResources)).2 := by
    unfold takeFault
    cases k.faults.get? (.control .getResources) with
    | none => exact .refl k
    | some plan => exact ⟨⟨_, _, rfl⟩, fun point other => Table.get?_insert_of_ne _ _ other⟩
  have recorded (entry : TraceEntry) (k' : Kernel) (aside : k.Aside k') : k.Aside (k'.record entry) := by
    obtain ⟨⟨trace, faults, rfl⟩, same⟩ := aside
    exact ⟨⟨_, _, rfl⟩, same⟩
  unfold control
  split
  · exact .refl k
  · unfold perform
    rcases eq : k.takeFault (.control .getResources) with ⟨_ | e, k₁⟩ <;> rw [eq] at taken
    · dsimp only
      split
      · exact recorded _ _ taken
      · next reply k₂ served =>
        split at served
        · split at served
          · cases served
            exact recorded _ _ taken
          · cases served
        · cases served
    · exact recorded _ _ taken

/-! ### Other calls -/

theorem map_blind (fd : Int32) (offset length : UInt64) (writable : Bool) :
    Blind Aside (map · fd offset length writable) := by
  cases watched : isWatched fd with
  | false =>
    rintro k _ ⟨⟨trace, faults, rfl⟩, same⟩
    simp only [map, watched, Bool.not_false, if_true]
    exact ⟨rfl, ⟨_, _, rfl⟩, same⟩
  | true =>
    simp only [map, watched, Bool.not_true, Bool.false_eq_true, if_false]
    refine perform_blind (by decide) _ _ fun k trace faults => ?_
    dsimp only
    split
    · rfl
    split
    · rfl
    split <;> rfl

theorem unmap_blind (mapping : Nat) (length : UInt64) : Blind Aside (unmap · mapping length) := by
  refine perform_blind (by decide) _ _ fun k trace faults => ?_
  dsimp only
  split <;> rfl

theorem close_blind (fd : Int32) : Blind Aside (close · fd) := by
  cases watched : isWatched fd with
  | false =>
    rintro k _ ⟨⟨trace, faults, rfl⟩, same⟩
    simp only [close, watched, Bool.false_eq_true, if_false]
    exact ⟨rfl, ⟨_, _, rfl⟩, same⟩
  | true =>
    simp only [close, watched, if_true]
    refine perform_blind (by decide) _ _ fun k trace faults => ?_
    have same : isDmaBuf { k with trace, faults } fd = k.isDmaBuf fd := rfl
    dsimp only
    rw [same]
    split
    · rfl
    split <;> rfl

theorem descriptorFlags_blind (fd : Int32) : Blind Aside (descriptorFlags · fd) := by
  have performed : Blind Aside (perform · .descriptorFlags (.descriptorFlags fd) (fun _ => .number 0)
      fun k => if k.isDmaBuf fd then .ok ((), k) else .error .EBADF) := by
    refine perform_blind (by decide) _ _ fun k trace faults => ?_
    have same : isDmaBuf { k with trace, faults } fd = k.isDmaBuf fd := rfl
    dsimp only
    rw [same]
    split <;> rfl
  intro k k' aside
  have performed := performed k k' aside
  obtain ⟨⟨trace, faults, rfl⟩, same⟩ := aside
  unfold descriptorFlags
  dsimp only
  split
  · exact ⟨rfl, ⟨_, _, rfl⟩, same⟩
  split
  · exact ⟨rfl, ⟨_, _, rfl⟩, same⟩
  · exact performed

theorem seekEnd_blind (fd : Int32) : Blind Aside (seekEnd · fd) := by
  rintro k _ ⟨⟨trace, faults, rfl⟩, same⟩
  unfold seekEnd
  dsimp only
  split <;> exact ⟨rfl, ⟨_, _, rfl⟩, same⟩

end Kernel

/-! ## Hosts -/

/-- Two hosts differ only in what was reported and recorded and in the failures of requests for
resources. -/
structure Host.Aside (h h' : Host) : Prop where
  kernel : h.kernel.Aside h'.kernel
  holders : h'.cardHolders = h.cardHolders
  script : h'.script = h.script

namespace Host

theorem Aside.refl (h : Host) : h.Aside h := ⟨.refl _, rfl, rfl⟩

theorem report_blind (event : LogEvent) : Blind Aside (report event) := fun _ _ aside =>
  ⟨rfl, aside.kernel, aside.holders, aside.script⟩

theorem call_blind {f : Kernel → Except ε α × Kernel} (blind : Blind Kernel.Aside f) :
    Blind Aside (call f).run := by
  intro h h' aside
  obtain ⟨answer, kernel⟩ := blind h.kernel h'.kernel aside.kernel
  exact ⟨answer, kernel, aside.holders, aside.script⟩

theorem exchange_blind (fd : Int32) {x : Exchange α} (other : x.request ≠ .getResources) :
    Blind Aside (exchange fd x).run :=
  .bind_attempt (call_blind (Kernel.control_blind fd other x.argument)) fun _ => .pure _

end Host

namespace Device

/-- Bringing up a display is asking for the card's resources; without a CRTC there is none. -/
theorem initDisplay_run (fd : Int32) (h : Host) : (initDisplay fd).run h =
    match (Host.exchange fd .getResources).run h with
    | (.error e, h) => (.error (.failed e), h)
    | (.ok resources, h) => (if resources.crtcs = 0 then .error .noCrtc else .ok resources, h) := by
  unfold initDisplay
  rw [run_bind_attempt, run_explain]
  rcases (Host.exchange fd .getResources).run h with ⟨e | resources, h⟩
  · rfl
  · dsimp only
    split <;> rfl

/-- That it was tried is seen by no other computation. -/
theorem initDisplay_aside (fd : Int32) (h : Host) : h.Aside ((initDisplay fd).run h).2 := by
  have asked : h.Aside ((Host.exchange fd .getResources).run h).2 := by
    rw [exchange_run]
    exact ⟨h.kernel.control_aside fd _, rfl, rfl⟩
  rw [initDisplay_run]
  rcases eq : (Host.exchange fd .getResources).run h with ⟨e | resources, h'⟩ <;> rw [eq] at asked <;>
    exact asked

end Device

end GraphicsBuffers

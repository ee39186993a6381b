import GraphicsBuffers.Device.Mapping
import GraphicsBuffers.Proofs.Exchanges
import GraphicsBuffers.Proofs.Run
/-!
# What computations on the host trade

`Turns fd A x B P` is the judgement that leaks are ruled out with: run by someone who owns `A`, while
the card `fd` is open, `x` answers some `a` with `P a` and leaves them owning `B a`. What others own
stays as it is. `Tries` is the same for a computation that may fail, with what is owned after a
failure. A `Neutral` computation trades nothing, whether the card is open or not.
-/

namespace GraphicsBuffers

open Wire

variable {ε δ α β : Type}

/-! ## Hosts -/

/-- The kernel trades, and nothing else that concerns cards changes. -/
structure Host.Trades (h : Host) (A B : Set Resource) (h' : Host) : Prop where
  kernel : h.kernel.Trades A B h'.kernel
  files : h.kernel.SameFiles h'.kernel
  holders : h'.cardHolders = h.cardHolders

namespace Host.Trades

variable {h h' h'' : Host} {A B C F : Set Resource}

theorem trans (first : h.Trades A B h') (second : h'.Trades B C h'') : h.Trades A C h'' :=
  ⟨first.kernel.trans second.kernel, first.files.trans second.files,
    second.holders.trans first.holders⟩

theorem frame (trades : h.Trades A B h') (owned : F ⊆ h.kernel.live) (apart : ∀ r ∈ F, r ∉ A) :
    h.Trades (A ∪ F) (B ∪ F) h' :=
  ⟨trades.kernel.frame owned apart, trades.files, trades.holders⟩

theorem keep (trades : h.Trades ∅ ∅ h') (owned : A ⊆ h.kernel.live) : h.Trades A A h' :=
  ⟨trades.kernel.keep owned, trades.files, trades.holders⟩

theorem into (trades : h.Trades A B h') (same : C = B) : h.Trades A C h' := same ▸ trades

theorem reported (sound : h.kernel.Sound) (event : LogEvent) : h.Trades ∅ ∅ (h.reported event) :=
  ⟨.same sound rfl rfl rfl rfl rfl rfl sound.spared, .refl _, rfl⟩

end Host.Trades

/-! ## Computations that trade nothing -/

/-- A computation that trades nothing. -/
def Neutral (x : HostM α) : Prop :=
  ∀ h : Host, h.kernel.Sound → Yields x h fun _ h' => h.Trades ∅ ∅ h'

namespace Neutral

theorem pure (a : α) : Neutral (Pure.pure a) := by
  intro h sound
  exact ⟨.same sound rfl rfl rfl rfl rfl rfl sound.spared, .refl _, rfl⟩

theorem report (event : LogEvent) : Neutral (Host.report event) := by
  intro h sound
  exact .reported sound event

theorem bind {x : HostM α} {f : α → HostM β} (first : Neutral x) (second : ∀ a, Neutral (f a)) :
    Neutral (x >>= f) := by
  intro h sound
  refine (first h sound).bind fun a h' trades => ?_
  exact (second a h' trades.kernel.sound).mono fun _ _ trades' => trades.trans trades'

theorem bind_attempt {x : Attempt ε α} {f : α → Attempt ε β} (first : Neutral x.run)
    (second : ∀ a, Neutral (f a).run) : Neutral (x >>= f).run := by
  refine Neutral.bind (x := x.run) (f := ExceptT.bindCont f) first fun outcome => ?_
  cases outcome with
  | ok a => exact second a
  | error e => exact .pure _

theorem lift {x : HostM α} (still : Neutral x) : Neutral (liftM x : Attempt ε α).run :=
  still.bind fun _ => .pure _

theorem explain {x : Attempt ε α} {f : ε → HostM δ} (first : Neutral x.run)
    (second : ∀ e, Neutral (f e)) : Neutral (GraphicsBuffers.explain x f).run := by
  refine first.bind fun outcome => ?_
  cases outcome with
  | ok a => exact .pure _
  | error e => exact (second e).bind fun _ => .pure _

end Neutral

/-! ## Computations that trade -/

/-- Run by an owner of `A`, a computation answers `a` with `P a` and leaves them owning `B a`. -/
def Turns (fd : Int32) (A : Set Resource) (x : HostM α) (B : α → Set Resource) (P : α → Prop) : Prop :=
  ∀ h : Host, h.kernel.Sound → h.kernel.Opened fd → A ⊆ h.kernel.live →
    Yields x h fun a h' => P a ∧ h.Trades A (B a) h'

/-- What is owned when a computation that may fail has ended. -/
def ends (B : α → Set Resource) (E : Set Resource) : Except ε α → Set Resource
  | .ok a => B a
  | .error _ => E

/-- What is known of the answer of a computation, unless it fails. -/
def onOk (P : α → Prop) : Except ε α → Prop
  | .ok a => P a
  | .error _ => True

/-- Run by an owner of `A`, a computation answers `a` with `P a` and leaves them owning `B a`, or
fails and leaves them owning `E`. -/
def Tries (fd : Int32) (A : Set Resource) (x : Attempt ε α) (B : α → Set Resource) (E : Set Resource)
    (P : α → Prop) : Prop :=
  Turns fd A x.run (ends B E) (onOk P)

section Rules

variable {fd : Int32} {A C E F : Set Resource} {B : α → Set Resource} {P : α → Prop}

theorem Neutral.turns {x : HostM α} (still : Neutral x) : Turns fd A x (fun _ => A) fun _ => True :=
  fun h sound _ owned => ⟨trivial, (still h sound).keep owned⟩

theorem Turns.bind {x : HostM α} {f : α → HostM β} {D : β → Set Resource} {Q : β → Prop}
    (first : Turns fd A x B P) (second : ∀ a, P a → Turns fd (B a) (f a) D Q) :
    Turns fd A (x >>= f) D Q := by
  intro h sound opened owned
  refine (first h sound opened owned).bind fun a h' ⟨holds, trades⟩ => ?_
  have next := second a holds h' trades.kernel.sound (opened.later trades.files)
    trades.kernel.owned
  exact next.mono fun _ _ ⟨holds', trades'⟩ => ⟨holds', trades.trans trades'⟩

theorem Turns.then_neutral {x : HostM α} {f : α → HostM β} (first : Turns fd A x (fun _ => C) P)
    (second : ∀ a, Neutral (f a)) : Turns fd A (x >>= f) (fun _ => C) fun _ => True :=
  first.bind fun a _ => (second a).turns

theorem Turns.imp {x : HostM α} {Q : α → Prop} (turns : Turns fd A x B P) (imp : ∀ a, P a → Q a) :
    Turns fd A x B Q := by
  intro h sound opened owned
  obtain ⟨holds, trades⟩ := turns h sound opened owned
  exact ⟨imp _ holds, trades⟩

/-- What is not used is kept. -/
theorem Turns.frame {x : HostM α} (turns : Turns fd A x B P) (apart : ∀ r ∈ F, r ∉ A) :
    Turns fd (A ∪ F) x (fun a => B a ∪ F) P := by
  intro h sound opened owned
  obtain ⟨holds, trades⟩ := turns h sound opened (Set.subset_union_left.trans owned)
  exact ⟨holds, trades.frame (Set.subset_union_right.trans owned) apart⟩

/-- One thing is given back, and another kept. -/
theorem Turns.release {x : HostM α} (turns : Turns fd A x (fun _ => ∅) P) (apart : ∀ r ∈ F, r ∉ A) :
    Turns fd (A ∪ F) x (fun _ => F) P := by
  have framed := turns.frame apart
  simpa only [Set.empty_union] using framed

namespace Tries

theorem pure {a : α} (same : A = B a) (holds : P a) :
    Tries (ε := ε) fd A (Pure.pure a) B E P := by
  subst same
  intro h sound opened owned
  exact ⟨holds, (Neutral.pure a h sound).keep owned⟩

theorem throw (e : ε) : Tries fd E (throw e : Attempt ε α) B E P := by
  intro h sound opened owned
  exact ⟨trivial, (Neutral.pure e h sound).keep owned⟩

theorem bind {x : Attempt ε α} {f : α → Attempt ε β} {D : β → Set Resource} {Q : β → Prop}
    (first : Tries fd A x B E P) (second : ∀ a, P a → Tries fd (B a) (f a) D E Q) :
    Tries fd A (x >>= f) D E Q := by
  refine Turns.bind (f := ExceptT.bindCont f) first fun outcome holds => ?_
  cases outcome with
  | ok a => exact second a holds
  | error e => exact throw e

/-- What is done about a failure may give back what was left. -/
theorem explain {x : Attempt ε α} {f : ε → HostM δ} (first : Tries fd A x B E P)
    (failed : ∀ e, Turns fd E (f e) (fun _ => C) fun _ => True) :
    Tries fd A (GraphicsBuffers.explain x f) B C P := by
  refine Turns.bind first fun outcome holds => ?_
  cases outcome with
  | ok a => exact pure (ε := δ) (E := C) rfl holds
  | error e => exact (failed e).bind fun d _ => throw (P := P) d

theorem lift {x : HostM α} (turns : Turns fd A x B P) :
    Tries (ε := ε) fd A (liftM x) B E P :=
  turns.bind fun _ holds => pure (ε := ε) (E := E) rfl holds

theorem neutral {x : Attempt ε α} (still : Neutral x.run) :
    Tries fd A x (fun _ => A) A fun _ => True := by
  intro h sound opened owned
  have trades := (still h sound).keep owned
  unfold Yields at trades ⊢
  cases (x.run h).1 <;> exact ⟨trivial, trades⟩

/-- What others own is kept. -/
theorem keep {x : Attempt ε α} (tries : Tries fd ∅ x B ∅ P) :
    Tries fd F x (fun a => B a ∪ F) F P := by
  intro h sound opened owned
  obtain ⟨holds, trades⟩ := tries h sound opened (Set.empty_subset _)
  have framed := trades.frame owned fun _ _ => Set.notMem_empty _
  refine ⟨holds, ?_⟩
  rw [Set.empty_union] at framed
  cases outcome : (x.run h).1 with
  | ok a => rwa [outcome] at framed
  | error e =>
    rw [outcome] at framed
    simpa only [ends, Set.empty_union] using framed

end Tries

end Rules

/-! ## Calls -/

section Calls

variable {fd : Int32}

/-- A kernel that trades, on a host that stays as it is otherwise. -/
theorem Host.Trades.of_kernel {h : Host} {k : Kernel} {A B : Set Resource}
    (trades : h.kernel.Trades A B k ∧ h.kernel.SameFiles k) : h.Trades A B { h with kernel := k } :=
  ⟨trades.1, trades.2, rfl⟩

theorem exchange_run (x : Exchange α) (h : Host) :
    (Host.exchange fd x).run h =
      ((h.kernel.control fd x.request x.argument).1.map x.answer,
        { h with kernel := (h.kernel.control fd x.request x.argument).2 }) := by
  unfold Host.exchange Host.call
  rw [run_bind_attempt]
  rcases eq : h.kernel.control fd x.request x.argument with ⟨_ | _, _⟩ <;>
    simp only [ExceptT.run, ExceptT.mk, eq] <;> rfl

theorem exchange_neutral {x : Exchange α} (neutral : x.Neutral) : Neutral (Host.exchange fd x).run := by
  intro h sound
  unfold Yields
  rw [exchange_run]
  refine .of_kernel (Kernel.control_rule (Q := fun _ k => h.kernel.Trades ∅ ∅ k ∧
    h.kernel.SameFiles k) ?_ ?_)
  · intro e k calm
    exact ⟨calm.trades sound, calm.files⟩
  · intro index card reply k₁ k₂ k calm opened served calm'
    have trades := calm.trades sound
    obtain ⟨still, files⟩ := neutral _ _ _ _ _ trades.sound served
    exact ⟨(trades.trans still).trans (calm'.trades still.sound),
      (calm.files.trans files).trans calm'.files⟩

/-- Only an open card answers. -/
theorem exchange_opened {x : Exchange α} {h h' : Host} {a : α}
    (eq : (Host.exchange fd x).run h = (.ok a, h')) : h.kernel.Opened fd := by
  rw [exchange_run] at eq
  revert eq
  refine Kernel.control_rule (Q := fun outcome k => (outcome.map x.answer,
    ({ h with kernel := k } : Host)) = (.ok a, h') → h.kernel.Opened fd) ?_ ?_
  · intro e k calm eq
    cases eq
  · intro index card reply k₁ k₂ k calm opened served calm' eq
    obtain ⟨index, file, below⟩ := opened.file
    exact ⟨opened.watched, index, calm.files.files ▸ file, calm.files.cards ▸ below⟩

theorem exchange_gives {x : Exchange α} {given : α → Resource} (gives : x.Gives given) :
    Tries fd ∅ (Host.exchange fd x) (fun a => {given a}) ∅ fun _ => True := by
  intro h sound _ _
  unfold Yields
  rw [exchange_run]
  refine Kernel.control_rule (Q := fun outcome k => onOk (fun _ => True) (outcome.map x.answer) ∧
    h.Trades ∅ (ends (fun a => {given a}) ∅ (outcome.map x.answer)) { h with kernel := k }) ?_ ?_
  · intro e k calm
    exact ⟨trivial, .of_kernel ⟨calm.trades sound, calm.files⟩⟩
  · intro index card reply k₁ k₂ k calm opened served calm'
    have trades := calm.trades sound
    obtain ⟨gives, files⟩ := gives _ _ _ _ _ trades.sound served
    have kept := (calm'.trades gives.sound).keep gives.owned
    exact ⟨trivial, .of_kernel ⟨(trades.trans gives).trans kept,
      (calm.files.trans files).trans calm'.files⟩⟩

theorem exchange_takes {x : Exchange α} {taken : Resource} (takes : x.Takes taken) :
    Turns fd {taken} (Host.exchange fd x).run (fun _ => ∅) fun outcome => outcome.isOk := by
  intro h sound opened owned
  obtain ⟨reply, k, served, trades, files⟩ := takes.served sound (owned rfl)
  obtain ⟨entry, eq⟩ :=
    Kernel.control_unarmed opened (sound.spared _ takes.givesBack) served
  unfold Yields
  rw [exchange_run, eq]
  have calm := Kernel.Calm.record k entry
  exact ⟨rfl, .of_kernel ⟨trades.trans (calm.trades trades.sound), files.trans calm.files⟩⟩

theorem call_neutral {f : Kernel → Except ε α × Kernel} (calm : ∀ k : Kernel, k.Calm (f k).2) :
    Neutral (Host.call f).run := by
  intro h sound
  exact .of_kernel ((calm h.kernel).neutral sound)

theorem Mapping.map_gives (offset length : UInt64) (writable : Bool) :
    Tries fd ∅ (Mapping.map fd offset length writable) (fun m => {.mapping m.id}) ∅
      fun _ => True := by
  have gives : Tries fd ∅ (Host.call (·.map fd offset length writable))
      (fun id => {.mapping id}) ∅ fun _ => True := by
    intro h sound _ _
    refine Kernel.map_rule (Q := fun outcome k => onOk (fun _ => True) outcome ∧
      h.Trades ∅ (ends (fun id => {.mapping id}) ∅ outcome) { h with kernel := k }) sound ?_ ?_
    · intro e k calm
      exact ⟨trivial, .of_kernel (calm.neutral sound)⟩
    · intro id k trades files
      exact ⟨trivial, .of_kernel ⟨trades, files⟩⟩
  unfold Mapping.map
  split
  · exact .throw _
  · refine .bind (.explain gives fun e => (Neutral.pure _).turns) fun id _ => ?_
    exact .pure rfl trivial

theorem Mapping.unmap_takes (m : Mapping) :
    Turns fd {.mapping m.id} m.unmap (fun _ => ∅) fun _ => True := by
  have given : Turns fd {.mapping m.id} (Host.call (·.unmap m.id m.length)).run (fun _ => ∅)
      fun _ => True := by
    intro h sound opened owned
    obtain ⟨k, eq, trades⟩ := Kernel.unmap_given sound m.length (owned rfl)
    have same : (Host.call (·.unmap m.id m.length)).run h = (.ok (), { h with kernel := k }) := by
      unfold Host.call
      simp only [ExceptT.run, ExceptT.mk, eq]
    unfold Yields
    rw [same]
    exact ⟨trivial, .of_kernel trades⟩
  refine given.then_neutral fun outcome => ?_
  cases outcome with
  | ok => exact .pure _
  | error e => exact .report _

end Calls

end GraphicsBuffers

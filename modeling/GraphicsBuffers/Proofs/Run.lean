import GraphicsBuffers.Host
/-!
# Running computations

The library's computations are stacks of three kinds over a state `σ`: plain ones, ones that may
fail, and ones with a state `ρ` of their own that may fail. The `run_` equations say what running
each of them comes to. `Yields` is the judgement that others are defined by: a computation from a
state ends with an answer and a state for which something holds. Nothing here runs for ever, so
`Yields` also says that there is an answer.
-/

namespace GraphicsBuffers

variable {ε δ ρ σ α β : Type}

/-! ## Equations -/

section Layered
variable (r : ρ) (s : σ)

theorem run_bind (x : ExceptT ε (StateT ρ (StateM σ)) α)
    (f : α → ExceptT ε (StateT ρ (StateM σ)) β) :
    (x >>= f).run.run r s = match x.run.run r s with
      | ((.ok a, r), s) => (f a).run.run r s
      | ((.error e, r), s) => ((.error e, r), s) := by
  unfold ExceptT.run StateT.run
  simp only [bind, ExceptT.bind, ExceptT.mk, StateT.bind, ExceptT.bindCont]
  rcases x r s with ⟨⟨_ | _, _⟩, _⟩ <;> rfl

theorem run_map (x : ExceptT ε (StateT ρ (StateM σ)) α) (f : α → β) :
    (f <$> x).run.run r s = match x.run.run r s with
      | ((.ok a, r), s) => ((.ok (f a), r), s)
      | ((.error e, r), s) => ((.error e, r), s) := by
  unfold ExceptT.run StateT.run
  simp only [Functor.map, ExceptT.map, ExceptT.mk, StateT.bind, bind]
  rcases x r s with ⟨⟨_ | _, _⟩, _⟩ <;> rfl

theorem run_get_bind (f : ρ → ExceptT ε (StateT ρ (StateM σ)) α) :
    (get >>= f).run.run r s = (f r).run.run r s := rfl

theorem run_getThe_bind (f : ρ → ExceptT ε (StateT ρ (StateM σ)) α) :
    (getThe ρ >>= f).run.run r s = (f r).run.run r s := rfl

theorem run_getBelow_bind (f : σ → ExceptT ε (StateT ρ (StateM σ)) α) :
    (getThe σ >>= f).run.run r s = (f s).run.run r s := rfl

theorem run_ofExcept_bind (a : α) (f : α → ExceptT ε (StateT ρ (StateM σ)) β) :
    (MonadExcept.ofExcept (.ok a : Except ε α) >>= f).run.run r s = (f a).run.run r s := rfl

theorem run_lift_bind (x : StateM σ α) (f : α → ExceptT ε (StateT ρ (StateM σ)) β) :
    (liftM x >>= f).run.run r s = (f (x s).1).run.run r (x s).2 := rfl

theorem run_layer_bind (x : StateT ρ (StateM σ) α) (f : α → ExceptT ε (StateT ρ (StateM σ)) β) :
    (liftM x >>= f).run.run r s =
      (f (x.run r s).1.1).run.run (x.run r s).1.2 (x.run r s).2 := rfl

theorem run_set (r' : ρ) :
    (set r' : ExceptT ε (StateT ρ (StateM σ)) PUnit).run.run r s = ((.ok ⟨⟩, r'), s) := rfl

theorem run_lift (x : StateM σ α) :
    (liftM (StateT.lift x : StateT ρ (StateM σ) α) : ExceptT ε (StateT ρ (StateM σ)) α).run.run r s
      = ((.ok (x s).1, r), (x s).2) := rfl

theorem run_mk_lift (x : StateM σ (Except ε α)) :
    (ExceptT.mk (StateT.lift x) : ExceptT ε (StateT ρ (StateM σ)) α).run.run r s
      = (((x s).1, r), (x s).2) := rfl

theorem run_explain_pure (x : ExceptT ε (StateT ρ (StateM σ)) α) (f : ε → δ) :
    (explain x fun e => pure (f e)).run.run r s =
      (((x.run.run r s).1.1.mapError f, (x.run.run r s).1.2), (x.run.run r s).2) := by
  unfold explain ExceptT.run StateT.run
  simp only [bind, ExceptT.mk, StateT.bind]
  rcases x r s with ⟨⟨_ | _, _⟩, _⟩ <;> rfl

theorem run_getThe : (getThe σ : ExceptT ε (StateT ρ (StateM σ)) σ).run.run r s = ((.ok s, r), s) :=
  rfl

end Layered

theorem get_bind_state (f : σ → StateM σ α) (s : σ) : (get >>= f) s = f s s := rfl

theorem run_bind_state (x : StateM σ α) (f : α → StateM σ β) (s : σ) :
    (x >>= f).run s = (f (x s).1).run (x s).2 := rfl

theorem run_get_bind_plain (f : ρ → StateT ρ (StateM σ) α) (r : ρ) :
    (get >>= f).run r = (f r).run r := rfl

theorem run_getThe_bind_plain (f : ρ → StateT ρ (StateM σ) α) (r : ρ) (s : σ) :
    (getThe ρ >>= f).run r s = (f r).run r s := rfl

theorem run_bind_plain (x : StateT ρ (StateM σ) α) (f : α → StateT ρ (StateM σ) β) (r : ρ) (s : σ) :
    (x >>= f).run r s = (f (x.run r s).1.1).run (x.run r s).1.2 (x.run r s).2 := rfl

theorem run_map_plain (x : StateT ρ (StateM σ) α) (f : α → β) (r : ρ) (s : σ) :
    (f <$> x).run r s = ((f (x.run r s).1.1, (x.run r s).1.2), (x.run r s).2) := rfl

theorem run_set_bind_plain (r' r : ρ) (f : PUnit → StateT ρ (StateM σ) α) :
    (set r' >>= f).run r = (f ⟨⟩).run r' := rfl

theorem run_lift_bind_plain (x : StateM σ α) (f : α → StateT ρ (StateM σ) β) (r : ρ) (s : σ) :
    (StateT.lift x >>= f).run r s = (f (x s).1).run r (x s).2 := rfl

theorem run_bind_attempt (x : ExceptT ε (StateM σ) α) (f : α → ExceptT ε (StateM σ) β) (s : σ) :
    (x >>= f).run s = match x.run s with
      | (.ok a, s) => (f a).run s
      | (.error e, s) => (.error e, s) := by
  unfold ExceptT.run
  simp only [bind, ExceptT.bind, ExceptT.mk, StateT.bind, ExceptT.bindCont]
  rcases x s with ⟨_ | _, _⟩ <;> rfl

theorem run_lift_bind_attempt (x : StateM σ α) (f : α → ExceptT ε (StateM σ) β) (s : σ) :
    (liftM x >>= f).run s = (f (x s).1).run (x s).2 := rfl

/-- The host once an event is reported. -/
def Host.reported (h : Host) (event : LogEvent) : Host := { h with log := event :: h.log }

theorem run_report_bind_attempt (event : LogEvent) (f : Unit → Attempt ε α) (h : Host) :
    (liftM (Host.report event) >>= f).run h = (f ()).run (h.reported event) := rfl

theorem run_explain (x : ExceptT ε (StateM σ) α) (f : ε → StateM σ δ) (s : σ) :
    (explain x f).run s = match x.run s with
      | (.ok a, s) => (.ok a, s)
      | (.error e, s) => (.error (f e s).1, (f e s).2) := by
  unfold explain ExceptT.run
  simp only [bind, ExceptT.mk, StateT.bind]
  rcases x s with ⟨_ | _, _⟩ <;> rfl

/-! ## The judgement -/

/-- From `s` on, a computation ends with an answer and a state for which `Q` holds. -/
def Yields (x : StateM σ α) (s : σ) (Q : α → σ → Prop) : Prop := Q (x s).1 (x s).2

namespace Yields

variable {s : σ} {x : StateM σ α} {P Q : α → σ → Prop}

theorem mono (first : Yields x s P) (imp : ∀ a t, P a t → Q a t) : Yields x s Q := imp _ _ first

theorem bind {f : α → StateM σ β} {R : β → σ → Prop} (first : Yields x s P)
    (second : ∀ a t, P a t → Yields (f a) t R) : Yields (x >>= f) s R := second _ _ first

end Yields

end GraphicsBuffers

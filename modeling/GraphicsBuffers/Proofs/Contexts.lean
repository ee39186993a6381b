import GraphicsBuffers.Context
import GraphicsBuffers.Proofs.Run
/-!
# The life of a device context

What the calls on a context come to, and what stays: a context that is ready remains so, on the same
card with the same backend.
-/

namespace GraphicsBuffers.Context

variable (c : Context) (h : Host)

theorem ready_run :
    ready.run.run c h = match c.state with
      | .ready r => ((.ok r, c), h)
      | .failed f => ((.error f.error, c), h)
      | .untried => match (start c.opener c.table).run h with
        | (.ok r, h) => ((.ok r, { c with state := .ready r }), h)
        | (.error f, h) => ((.error f.error, { c with state := .failed f }), h) := by
  unfold ready
  rw [run_getThe_bind]
  rcases c with ⟨opener, table, _ | r | f⟩
  · dsimp only
    rw [run_layer_bind]
    have begin : ((StateT.lift (start opener table).run : ContextM _).run
        ⟨opener, table, .untried⟩ h) =
        ((((start opener table).run h).1, ⟨opener, table, .untried⟩),
          ((start opener table).run h).2) := rfl
    rw [begin]
    rcases (start opener table).run h with ⟨_ | _, _⟩ <;> rfl
  · rfl
  · rfl

/-- Brings up the display of a card. -/
def bringUp (fd : Int32) : Attempt Error Wire.CardResources :=
  explain (Device.initDisplay fd) fun e => do
    Host.report (.displayFailed e)
    return .displayInitFailed e.errno

theorem ensureReady_run (needDisplay : Bool) :
    (ensureReady needDisplay).run.run c h = match ready.run.run c h with
      | ((.error e, c), h) => ((.error e, c), h)
      | ((.ok r, c), h) =>
        if needDisplay && !r.displayReady then
          match (bringUp r.card.fd).run h with
          | (.error e, h) => ((.error e, c), h)
          | (.ok resources, h) =>
            ((.ok (), { c with state := .ready { r with displayReady := true } }),
              h.reported (.displayReady resources))
        else ((.ok (), c), h) := by
  unfold ensureReady
  rw [run_bind]
  rcases ready.run.run c h with ⟨⟨_ | r, c⟩, h⟩
  · rfl
  · dsimp only
    by_cases need : needDisplay && !r.displayReady
    · simp only [need, if_true]
      rw [run_bind, run_mk_lift]
      unfold bringUp ExceptT.run
      rcases explain (Device.initDisplay r.card.fd) _ h with ⟨_ | _, _⟩ <;> rfl
    · simp only [need]
      rfl

/-- Sends a control request to a card. -/
def send {α : Type} (fd : Int32) (x : Wire.Exchange α) : Attempt Error α :=
  explain (Host.exchange fd x) fun e => pure (.kernel e)

theorem exchange_run {α : Type} (x : Wire.Exchange α) :
    (exchange x).run.run c h = match ready.run.run c h with
      | ((.error e, c), h) => ((.error e, c), h)
      | ((.ok r, c), h) => ((((send r.card.fd x).run h).1, c), ((send r.card.fd x).run h).2) := by
  unfold exchange
  rw [run_bind]
  rcases ready.run.run c h with ⟨⟨_ | r, c⟩, h⟩ <;> rfl

/-! ## What stays -/

/-- What a context was ready with, it still is. -/
structure Later (c c' : Context) : Prop where
  opener : c'.opener = c.opener
  table : c'.table = c.table
  ready : ∀ r, c.state = .ready r →
    ∃ r', c'.state = .ready r' ∧ r'.card = r.card ∧ r'.backend = r.backend

theorem Later.refl : c.Later c := ⟨rfl, rfl, fun r eq => ⟨r, eq, rfl, rfl⟩⟩

theorem Later.trans {c c' c'' : Context} (first : c.Later c') (second : c'.Later c'') :
    c.Later c'' where
  opener := second.opener.trans first.opener
  table := second.table.trans first.table
  ready r eq := by
    obtain ⟨r', eq', card, backend⟩ := first.ready r eq
    obtain ⟨r'', eq'', card', backend'⟩ := second.ready r' eq'
    exact ⟨r'', eq'', card'.trans card, backend'.trans backend⟩

variable {c h} {c' : Context} {h' : Host}

theorem ready_later {outcome : Except Error Ready} (eq : ready.run.run c h = ((outcome, c'), h')) :
    c.Later c' := by
  rw [ready_run] at eq
  split at eq
  · cases eq
    exact .refl c
  · cases eq
    exact .refl c
  · next untried =>
    split at eq <;> cases eq <;> exact ⟨rfl, rfl, fun r ready => by simp [untried] at ready⟩

/-- Once a context has answered its card and backend, it is ready with them. -/
theorem ready_ok {r : Ready} (eq : ready.run.run c h = ((.ok r, c'), h')) : c'.state = .ready r := by
  rw [ready_run] at eq
  split at eq
  · next is =>
    cases eq
    exact is
  · cases eq
  · split at eq <;> cases eq
    rfl

/-- A context that is ready answers at once. -/
theorem ready_run_ready {r : Ready} (is : c.state = .ready r) :
    ready.run.run c h = ((.ok r, c), h) := by rw [ready_run, is]

theorem ensureReady_later (needDisplay : Bool) :
    c.Later ((ensureReady needDisplay).run.run c h).1.2 := by
  rw [ensureReady_run]
  rcases first : ready.run.run c h with ⟨⟨_ | r, c₁⟩, h₁⟩
  · exact ready_later first
  · dsimp only
    split
    · split
      · exact ready_later first
      · refine (ready_later first).trans ⟨rfl, rfl, fun r' eq => ?_⟩
        obtain rfl : r = r' := by simpa [ready_ok first] using eq
        exact ⟨_, rfl, rfl, rfl⟩
    · exact ready_later first

theorem exchange_later {α : Type} (x : Wire.Exchange α) :
    c.Later ((exchange x).run.run c h).1.2 := by
  rw [exchange_run]
  rcases first : ready.run.run c h with ⟨⟨_ | r, c₁⟩, h₁⟩ <;> exact ready_later first

end GraphicsBuffers.Context

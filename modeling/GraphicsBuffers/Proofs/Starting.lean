import GraphicsBuffers.Proofs.Cards
/-!
# How a context starts

A context that fails to start has either got no card, or has given up on the card it got, for one of three
reasons (`Context.GivesUp`), and let it go again. If nobody else has got hold of that card, that closes it
(`Context.GivesUp.closes`). One that starts has a backend that its table has made (`Context.GetsReady`).
-/

namespace GraphicsBuffers

/-- Whatever card is opened on a host, it is held once, for who has it opened. -/
def Opener.HandsOver (opener : Opener) (h : Host) : Prop :=
  ∀ card h', opener.run h = (.ok card, h') → h'.cardHolders.get? card.fd = some 1

/-- The cards that are found for a configuration are handed over. -/
theorem Opener.OpensOnce.handsOver {opener : Opener} (once : opener.OpensOnce) {h : Host}
    (sound : h.kernel.Sound) : opener.HandsOver h := by
  intro card h' eq
  have opened := (once h sound).2 card (congrArg Prod.fst eq)
  have after : (opener.run h).2 = h' := congrArg Prod.snd eq
  exact after ▸ opened

namespace BackendTable

/-- A constructor that fails to make a backend does not keep the card. -/
def LetsGo (table : BackendTable) : Prop :=
  ∀ driver make, table.lookup? driver = some make → ∀ card h e h', (make card).run h = (.error e, h') →
    h'.cardHolders = h.cardHolders

/-- Whatever backend a constructor makes has a property. -/
def Makes (table : BackendTable) (P : Backend → Prop) : Prop :=
  ∀ driver make, table.lookup? driver = some make → ∀ card h backend h',
    (make card).run h = (.ok backend, h') → P backend

variable {table : BackendTable}

theorem AllDumb.constructor (dumb : table.AllDumb) {driver : String} {make : BackendConstructor}
    (listed : table.lookup? driver = some make) : make = BackendTable.dumb := by
  obtain ⟨entry, found, rfl⟩ := Option.map_eq_some_iff.1 listed
  exact dumb entry (List.mem_of_find?_eq_some found)

theorem AllDumb.letsGo (dumb : table.AllDumb) : table.LetsGo := by
  intro driver make listed card h e h' eq
  rw [dumb.constructor listed] at eq
  cases eq

theorem AllDumb.makes (dumb : table.AllDumb) {P : Backend → Prop} (holds : ∀ fd, P (.dumb fd)) :
    table.Makes P := by
  intro driver make listed card h backend h' eq
  rw [dumb.constructor listed] at eq
  cases eq
  exact holds card.fd

/-- What a table makes comes from the constructor that is listed, and is reported. -/
theorem create_run (driver : String) (card : Card) (h : Host) :
    (table.create? driver card).run h = match table.lookup? driver with
      | none => (none, h)
      | some make => match (make card).run h with
        | (.ok backend, h) => (some (.ok backend), h.reported (.backendCreated backend.name driver))
        | (.error e, h) => (some (.error e), h) := by
  unfold create?
  cases table.lookup? driver with
  | none => rfl
  | some make =>
    dsimp only
    rw [run_bind_state, StateT.run]
    rcases eq : (make card).run h with ⟨_ | _, _⟩ <;> rfl

end BackendTable

/-- Asking for the driver lets no card go. -/
theorem Device.version_holders (fd : Int32) (h : Host) :
    ((version fd).run h).2.cardHolders = h.cardHolders := by
  have asked {α : Type} (x : Wire.Exchange α) (h : Host) :
      ((Host.exchange fd x).run h).2.cardHolders = h.cardHolders := by rw [exchange_run]
  unfold version
  rw [run_bind_attempt, run_explain]
  have first := asked .version h
  rcases eq : (Host.exchange fd .version).run h with ⟨e | info, h₁⟩ <;> rw [eq] at first
  · exact first
  dsimp only
  rw [run_bind_attempt, run_explain]
  have second := asked (.versionName info.nameLength) h₁
  rcases eq : (Host.exchange fd (.versionName info.nameLength)).run h₁ with ⟨e | named, h₂⟩ <;>
    rw [eq] at second
  · exact second.trans first
  · dsimp only
    split <;> exact second.trans first

namespace Context

/-- Why a context gives up on its card, and the host on which it does. -/
inductive GivesUp (table : BackendTable) (card : Card) (h : Host) : StartFailure → Host → Prop
  | version {e h'} (told : (Device.version card.fd).run h = (.error e, h')) :
    GivesUp table card h .unavailable (h'.reported (.invalidDevice e))
  | backend {info make e h₁ h₂} (told : (Device.version card.fd).run h = (.ok info, h₁))
    (listed : table.lookup? info.name = some make) (made : (make card).run h₁ = (.error e, h₂)) :
    GivesUp table card h .unavailable (h₂.reported (.backendFailed info.name e))
  | driver {info h₁} (told : (Device.version card.fd).run h = (.ok info, h₁))
    (unlisted : table.lookup? info.name = none) :
    GivesUp table card h (.unsupported info.name) (h₁.reported (.unsupportedDriver info.name))

/-- The card and the backend that a context gets. Its display is not up yet. -/
inductive GetsReady (opener : Opener) (table : BackendTable) (h : Host) : Ready → Prop
  | intro {card info make backend h₁ h₂ h₃} (opened : opener.run h = (.ok card, h₁))
    (told : (Device.version card.fd).run h₁ = (.ok info, h₂))
    (listed : table.lookup? info.name = some make) (made : (make card).run h₂ = (.ok backend, h₃)) :
    GetsReady opener table h { card, backend }

variable {opener : Opener} {table : BackendTable} {h h' : Host}

theorem start_run : (start opener table).run h = match opener.run h with
    | (.error reason, h) => (.error .unavailable, h.reported (.openFailed reason))
    | (.ok card, h) => match (Device.version card.fd).run h with
      | (.error e, h) => (.error .unavailable, (card.release.run (h.reported (.invalidDevice e))).2)
      | (.ok info, h) => match (table.create? info.name card).run h with
        | (some (.ok backend), h) => (.ok { card, backend }, h)
        | (some (.error e), h) =>
          (.error .unavailable, (card.release.run (h.reported (.backendFailed info.name e))).2)
        | (none, h) => (.error (.unsupported info.name),
            (card.release.run (h.reported (.unsupportedDriver info.name))).2) := by
  unfold start
  rw [run_bind_attempt, run_explain]
  rcases opener.run h with ⟨reason | card, h₁⟩
  · rfl
  · dsimp only
    rw [run_lift_bind_attempt]
    rcases (Device.version card.fd).run h₁ with ⟨e | info, h₂⟩
    · rfl
    · dsimp only
      rw [run_lift_bind_attempt, StateT.run]
      rcases table.create? info.name card h₂ with ⟨_ | _ | backend, h₃⟩ <;> rfl

/-- A context that does not start has got no card, or has let it go again. -/
theorem start_failed {f : StartFailure} (eq : (start opener table).run h = (.error f, h')) :
    (∃ reason h₁, opener.run h = (.error reason, h₁) ∧ f = .unavailable ∧
      h' = h₁.reported (.openFailed reason)) ∨
    ∃ card h₁ h₂, opener.run h = (.ok card, h₁) ∧ GivesUp table card h₁ f h₂ ∧
      h' = (card.release.run h₂).2 := by
  rw [start_run] at eq
  rcases opened : opener.run h with ⟨reason | card, h₁⟩ <;> rw [opened] at eq
  · cases eq
    exact .inl ⟨reason, h₁, rfl, rfl, rfl⟩
  refine .inr ⟨card, h₁, ?_⟩
  dsimp only at eq
  rcases told : (Device.version card.fd).run h₁ with ⟨e | info, h₂⟩ <;> rw [told] at eq
  · cases eq
    exact ⟨_, rfl, .version told, rfl⟩
  dsimp only at eq
  rw [table.create_run] at eq
  cases listed : table.lookup? info.name with
  | none =>
    rw [listed] at eq
    cases eq
    exact ⟨_, rfl, .driver told listed, rfl⟩
  | some make =>
    rw [listed] at eq
    dsimp only at eq
    rcases made : (make card).run h₂ with ⟨e | backend, h₃⟩ <;> rw [made] at eq <;> cases eq
    exact ⟨_, rfl, .backend told listed made, rfl⟩

/-- A context that starts has got a card and a backend. -/
theorem start_ok {r : Ready} (eq : (start opener table).run h = (.ok r, h')) :
    GetsReady opener table h r := by
  rw [start_run] at eq
  rcases opened : opener.run h with ⟨reason | card, h₁⟩ <;> rw [opened] at eq
  · cases eq
  dsimp only at eq
  rcases told : (Device.version card.fd).run h₁ with ⟨e | info, h₂⟩ <;> rw [told] at eq
  · cases eq
  dsimp only at eq
  rw [table.create_run] at eq
  cases listed : table.lookup? info.name with
  | none =>
    rw [listed] at eq
    cases eq
  | some make =>
    rw [listed] at eq
    dsimp only at eq
    rcases made : (make card).run h₂ with ⟨e | backend, h₃⟩ <;> rw [made] at eq <;> cases eq
    exact .intro opened told listed made

theorem GetsReady.backend {r : Ready} (gets : GetsReady opener table h r) {P : Backend → Prop}
    (makes : table.Makes P) : P r.backend := by
  obtain ⟨opened, told, listed, made⟩ := gets
  exact makes _ _ listed _ _ _ _ made

/-- Until a context gives up on a card, its holders stay as they are. -/
theorem GivesUp.holders {card : Card} {f : StartFailure} (letsGo : table.LetsGo)
    (gives : GivesUp table card h f h') : h'.cardHolders = h.cardHolders := by
  have holders := Device.version_holders card.fd h
  cases gives with
  | version told | driver told unlisted =>
    rw [told] at holders
    exact holders
  | backend told listed made =>
    rw [told] at holders
    exact (letsGo _ _ listed _ _ _ _ made).trans holders

/-- Who holds a card alone and gives up on it closes it. -/
theorem GivesUp.closes {card : Card} {f : StartFailure} (gives : GivesUp table card h f h')
    (letsGo : table.LetsGo) (alone : h.cardHolders.get? card.fd = some 1) :
    (card.release.run h').2 = card.closed h' := by
  rw [Card.release_run, gives.holders letsGo, alone]

end Context

end GraphicsBuffers

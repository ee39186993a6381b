import GraphicsBuffers.Proofs.Accounts
import GraphicsBuffers.Proofs.Standing
import GraphicsBuffers.Proofs.Starting
/-!
# Runs as inquiries

Who makes the card and the backend of a context, an opener and the constructors of a table, is not known to
a client. An `Inquiry` is a computation cut where it consults them, or brings up the display. What a run
does is such an inquiry, made without knowing either (`Client.inquireAll`), and carried out with an opener
and a table it is the run with these (`Client.inquireAll_hold`): so what the inquiry notes is all that the
run consults.
-/

namespace GraphicsBuffers

/-- Something that a context consults. -/
inductive Consultation
  | opener
  /-- The constructor that is listed for a driver. -/
  | constructor (driver : String)
  /-- The display of the card. -/
  | display
  deriving DecidableEq

/-- Whether a constructor was consulted. -/
def Consultation.makes : Consultation → Bool
  | constructor _ => true
  | opener | display => false

/-- A computation cut at what it consults, with the host that each of them gets and hands back. -/
inductive Inquiry (α : Type)
  | done (answer : α)
  | opener (host : Host) (next : Except String Card × Host → Inquiry α)
  | constructor (driver : String) (card : Card) (host : Host)
      (next : Option (Except BackendError Backend) × Host → Inquiry α)
  | display (fd : Int32) (host : Host) (next : Except DisplayError Wire.CardResources × Host → Inquiry α)

/-- What an inquiry came to, and what was consulted in it, the first one first. -/
structure Inquired (α : Type) where
  answer : α
  noted : List Consultation

/-- What is noted first. -/
def Inquired.noting {α : Type} (consultations : List Consultation) (inquired : Inquired α) : Inquired α :=
  { inquired with noted := consultations ++ inquired.noted }

namespace Inquiry

variable {α β : Type}

/-- Carries out an inquiry. Where no constructor is listed for a driver, none is consulted. -/
def hold (opener : Opener) (table : BackendTable) : Inquiry α → Inquired α
  | .done answer => ⟨answer, []⟩
  | .opener host next => ((next (opener.run host)).hold opener table).noting [.opener]
  | .constructor driver card host next =>
    ((next ((table.create? driver card).run host)).hold opener table).noting
      (if (table.lookup? driver).isSome then [.constructor driver] else [])
  | .display fd host next =>
    ((next ((Device.initDisplay fd).run host)).hold opener table).noting [.display]

/-- One inquiry after another. -/
def bind (f : α → Inquiry β) : Inquiry α → Inquiry β
  | .done answer => f answer
  | .opener host next => .opener host fun result => (next result).bind f
  | .constructor driver card host next => .constructor driver card host fun result => (next result).bind f
  | .display fd host next => .display fd host fun result => (next result).bind f

variable (opener : Opener) (table : BackendTable)

theorem hold_bind (x : Inquiry α) (f : α → Inquiry β) :
    (x.bind f).hold opener table =
      ((f (x.hold opener table).answer).hold opener table).noting (x.hold opener table).noted := by
  induction x with
  | done answer => rfl
  | opener host next ih | constructor driver card host next ih | display fd host next ih =>
    simp only [bind, hold, ih, Inquired.noting, List.append_assoc]

end Inquiry

/-! ## Starting a context -/

namespace Context

/-- The inquiry that starts a context. -/
def startInquiry (host : Host) : Inquiry (Except StartFailure Ready × Host) :=
  .opener host fun
    | (.error reason, host) => .done (.error .unavailable, host.reported (.openFailed reason))
    | (.ok card, host) =>
      let giveUp (event : LogEvent) (failure : StartFailure) (host : Host) :=
        .done (.error failure, (card.release.run (host.reported event)).2)
      match (Device.version card.fd).run host with
      | (.error e, host) => giveUp (.invalidDevice e) .unavailable host
      | (.ok info, host) => .constructor info.name card host fun
        | (some (.ok backend), host) => .done (.ok { card, backend }, host)
        | (some (.error e), host) => giveUp (.backendFailed info.name e) .unavailable host
        | (none, host) => giveUp (.unsupportedDriver info.name) (.unsupported info.name) host

variable (opener : Opener) (table : BackendTable)

theorem startInquiry_hold (host : Host) :
    ((startInquiry host).hold opener table).answer = (start opener table).run host := by
  unfold startInquiry Inquiry.hold
  rw [start_run]
  rcases opener.run host with ⟨reason | card, h₁⟩
  · rfl
  dsimp only
  rcases (Device.version card.fd).run h₁ with ⟨e | info, h₂⟩
  · rfl
  dsimp only [Inquiry.hold, Inquired.noting]
  rcases (table.create? info.name card).run h₂ with ⟨_ | _ | backend, h₃⟩ <;> rfl

/-- The opener is consulted, and then at most one constructor. -/
theorem startInquiry_noted (host : Host) : ∃ made : List Consultation, made.length ≤ 1 ∧
    (∀ consultation ∈ made, consultation.makes) ∧
    ((startInquiry host).hold opener table).noted = .opener :: made := by
  unfold startInquiry Inquiry.hold
  rcases opener.run host with ⟨reason | card, h₁⟩
  · exact ⟨[], Nat.zero_le 1, nofun, rfl⟩
  · dsimp only
    rcases (Device.version card.fd).run h₁ with ⟨e | info, h₂⟩
    · exact ⟨[], Nat.zero_le 1, nofun, rfl⟩
    · refine ⟨if (table.lookup? info.name).isSome then [.constructor info.name] else [], ?_, ?_, ?_⟩
      · split <;> simp
      · split <;> simp [Consultation.makes]
      · dsimp only [Inquiry.hold, Inquired.noting]
        rcases (table.create? info.name card).run h₂ with ⟨_ | _ | backend, h₃⟩ <;>
          simp [Inquiry.hold]

end Context

/-! ## Calls of a client -/

namespace Client

variable {c : Client}

/-- The context is there and has not been tried. -/
def isUntried (c : Client) : Bool :=
  match c.context? with
  | some ⟨_, _, .untried⟩ => true
  | _ => false

theorem isUntried_iff :
    c.isUntried ↔ ∃ context, c.context? = some context ∧ context.state = .untried := by
  unfold isUntried
  cases c.context? with
  | none => simp
  | some context => rcases context with ⟨_, _, _ | _ | _⟩ <;> simp

/-- The card and the backend that the context remembers. -/
def remembered (c : Client) : Option Ready :=
  match c.context? with
  | some ⟨_, _, .ready r⟩ => some r
  | _ => none

/-- The inquiry of a call for which the context need not be started. -/
def inquireTried (c : Client) (op : Operation) : Inquiry (Except Error Reply × Client) :=
  match op, c.remembered with
  | .ensureReady true, some r =>
    if r.displayReady then .done (c.step op)
    else .display r.card.fd c.process.host fun result => .done (broughtUp r c result)
  | _, _ => .done (c.step op)

/-- The inquiry of a call. -/
def inquire (c : Client) (op : Operation) : Inquiry (Except Error Reply × Client) :=
  if op.looks && c.isUntried then
    (Context.startInquiry c.process.host).bind fun result => (c.started result).inquireTried op
  else c.inquireTried op

/-- The inquiry of calls one after the other. -/
def inquireAll : Client → List Operation → Inquiry (List (Operation × Except Error Reply) × Client)
  | c, [] => .done ([], c)
  | c, op :: calls => (c.inquire op).bind fun (answer, c) =>
    (inquireAll c calls).bind fun (answers, c) => .done ((op, answer) :: answers, c)

variable (opener : Opener) (table : BackendTable)

/-- A context that has been tried shows what it remembers. -/
theorem look_remembered (tried : c.Tried) : c.look.1.toOption = c.remembered := by
  unfold remembered
  cases known : c.context? with
  | none =>
    rw [look_retired known]
    rfl
  | some context =>
    obtain ⟨source, table', _ | r | f⟩ := context
    · exact absurd rfl (tried _ known)
    · rw [look_ready known rfl]
      rfl
    · rw [look_failed known rfl]
      rfl

/-- What is remembered is shown. -/
theorem look_of_remembered {r : Ready} (remembered : c.remembered = some r) : c.look = (.ok r, c) := by
  unfold Client.remembered at remembered
  split at remembered
  · next known =>
    cases remembered
    exact look_ready known rfl
  · cases remembered

theorem inquireTried_hold (c : Client) (op : Operation) :
    ((c.inquireTried op).hold opener table).answer = c.step op := by
  unfold inquireTried
  split
  · next r remembered =>
    have display : c.step (.ensureReady true) = withDisplay r c := by
      rw [step_ensureReady_true, look_of_remembered remembered]
      rfl
    rw [display]
    unfold withDisplay
    split <;> rfl
  · rfl

/-- Where the context need not be started, it has been tried, or is not looked at. -/
theorem tried_of_later {op : Operation} (later : ¬(op.looks && c.isUntried) = true) (looks : op.looks) :
    c.Tried := by
  intro context known untried
  exact later (Bool.and_eq_true_iff.2 ⟨looks, isUntried_iff.2 ⟨context, known, untried⟩⟩)

theorem started_tried {context : Context} (known : c.context? = some context)
    (result : Except StartFailure Ready × Host) : (c.started result).Tried := by
  intro context' known'
  obtain ⟨p, _ | a, holds, cards⟩ := c <;> cases known
  cases known'
  rcases result with ⟨_ | _, _⟩ <;> nofun

/-- A look at a context that was untried starts it and looks again. -/
theorem look_started {context : Context} (known : c.context? = some context)
    (untried : context.state = .untried) :
    let started := c.started ((Context.start opener table).run c.process.host)
    (c.sourcing opener table).look = (started.sourcing opener table).look := by
  have known' := sourcing_context opener table c
  rw [known] at known'
  have moved (result : Except StartFailure Ready × Host) :
      (c.sourcing opener table).started result = (c.started result).sourcing opener table := by
    obtain ⟨p, _ | a, holds, cards⟩ := c <;> rfl
  dsimp only
  rw [← moved, ← look_again (c.sourcing opener table), look_untried known' untried]
  rfl

/-- A context that was untried is started, and then the call is made. -/
theorem step_started {op : Operation} (looks : op.looks) {context : Context}
    (known : c.context? = some context) (untried : context.state = .untried) :
    (c.sourcing opener table).step op =
      ((c.started ((Context.start opener table).run c.process.host)).sourcing opener table).step op := by
  rw [step_look looks, look_started opener table known untried, ← step_look looks]

/-- Carried out with an opener and a table, the inquiry of a call is the call with these. -/
theorem inquire_hold (c : Client) (op : Operation) :
    let held := (c.inquire op).hold opener table
    (held.answer.1, held.answer.2.sourcing opener table) = (c.sourcing opener table).step op := by
  dsimp only
  unfold inquire
  split
  · next first =>
    obtain ⟨looks, untried⟩ := Bool.and_eq_true_iff.1 first
    obtain ⟨context, known, untried⟩ := isUntried_iff.1 untried
    have tried := started_tried known ((Context.start opener table).run c.process.host)
    rw [Inquiry.hold_bind, Context.startInquiry_hold, step_started opener table looks known untried,
      step_sourcing opener table fun _ => tried]
    dsimp only [Inquired.noting]
    rw [inquireTried_hold]
  · next later =>
    rw [inquireTried_hold]
    exact (step_sourcing opener table (tried_of_later later)).symm

/-- What an inquiry leaves is what the call leaves. -/
theorem inquire_client (c : Client) (op : Operation) :
    ((c.inquire op).hold opener table).answer.2.sourcing opener table =
      ((c.sourcing opener table).step op).2 := congrArg Prod.snd (c.inquire_hold opener table op)

/-- Carried out with an opener and a table, the inquiry of a run is the run with these. -/
theorem inquireAll_hold (c : Client) (calls : List Operation) :
    let held := (c.inquireAll calls).hold opener table
    (held.answer.1, held.answer.2.sourcing opener table) =
      ((c.sourcing opener table).replies calls, (c.sourcing opener table).run calls) := by
  induction calls generalizing c with
  | nil => rfl
  | cons op calls ih =>
    obtain ⟨answer, after⟩ := Prod.ext_iff.1 (c.inquire_hold opener table op)
    obtain ⟨answers, last⟩ := Prod.ext_iff.1 (ih ((c.inquire op).hold opener table).answer.2)
    dsimp only at answer after answers last ⊢
    unfold inquireAll
    rw [Inquiry.hold_bind]
    dsimp only [Inquired.noting]
    rw [Inquiry.hold_bind]
    dsimp only [Inquired.noting, Inquiry.hold]
    rw [answers, last, answer, after]
    rfl

/-! ## What is consulted -/

/-- The call is to bring up the display, which is not up, of a card that the context has or gets. -/
def bringsUp (c : Client) (op : Operation) : Bool :=
  match op, c.look.1 with
  | .ensureReady true, .ok r => !r.displayReady
  | _, _ => false

/-- How many of the calls are to bring up the display. -/
def displays : Client → List Operation → Nat
  | _, [] => 0
  | c, op :: calls => (c.bringsUp op).toNat + displays (c.step op).2 calls

/-- Other calls do not bring up the display. -/
theorem bringsUp_of_ne {op : Operation} (other : op ≠ .ensureReady true) : c.bringsUp op = false := by
  unfold bringsUp
  split
  · exact absurd rfl other
  · rfl

theorem inquireTried_of_ne {op : Operation} (other : op ≠ .ensureReady true) :
    c.inquireTried op = .done (c.step op) := by
  unfold inquireTried
  split
  · exact absurd rfl other
  · rfl

theorem inquireTried_noted (tried : c.Tried) (op : Operation) :
    ((c.inquireTried op).hold opener table).noted = if c.bringsUp op then [.display] else [] := by
  by_cases display : op = .ensureReady true
  · subst display
    have seen := look_remembered tried
    unfold inquireTried bringsUp
    rcases shown : c.look.1 with e | r <;> rw [shown] at seen <;> rw [← seen]
    · rfl
    · rcases r with ⟨card, backend, _ | _⟩ <;> rfl
  · rw [inquireTried_of_ne display, bringsUp_of_ne display]
    rfl

theorem sourcing_tried : (c.sourcing opener table).Tried ↔ c.Tried := by
  unfold Tried
  rw [sourcing_context]
  simp

/-- A call that looks at an untried context consults the opener and at most one constructor; and whatever
brings up the display consults that. -/
theorem inquire_noted (c : Client) (op : Operation) :
    ∃ made, ((c.inquire op).hold opener table).noted =
        made ++ (if (c.sourcing opener table).bringsUp op then [.display] else []) ∧
      (made = [] ∨ op.looks ∧ c.isUntried ∧ made.count .opener = 1 ∧ made.countP Consultation.makes ≤ 1 ∧
        made.count .display = 0) := by
  unfold inquire
  split
  · next first =>
    obtain ⟨looks, isUntried⟩ := Bool.and_eq_true_iff.1 first
    obtain ⟨context, known, untried⟩ := isUntried_iff.1 isUntried
    obtain ⟨made, few, makes, noted⟩ := Context.startInquiry_noted opener table c.process.host
    have opener_not : Consultation.opener ∉ made := fun mem => nomatch makes _ mem
    have display_not : Consultation.display ∉ made := fun mem => nomatch makes _ mem
    refine ⟨.opener :: made, ?_, .inr ⟨looks, isUntried, ?_, ?_, ?_⟩⟩
    · rw [Inquiry.hold_bind, noted]
      dsimp only [Inquired.noting]
      have tried := started_tried known ((Context.start opener table).run c.process.host)
      rw [Context.startInquiry_hold, inquireTried_noted opener table tried]
      unfold bringsUp
      rw [look_started opener table known untried, look_sourcing opener table tried]
    · rw [List.count_cons_self, List.count_eq_zero.2 opener_not]
    · rw [List.countP_cons_of_neg (by decide)]
      exact Nat.le_trans List.countP_le_length few
    · rw [List.count_cons_of_ne (by decide), List.count_eq_zero.2 display_not]
  · next later =>
    refine ⟨[], ?_, .inl rfl⟩
    cases looks : op.looks with
    | true =>
      have tried := tried_of_later later looks
      rw [inquireTried_noted opener table tried]
      unfold bringsUp
      rw [look_sourcing opener table tried]
      rfl
    | false =>
      have other : op ≠ .ensureReady true := by
        rintro rfl
        cases looks
      rw [inquireTried_of_ne other, bringsUp_of_ne other]
      rfl

/-- What the rest of a run consults is noted behind what its first call does. -/
theorem inquireAll_noted (c : Client) (op : Operation) (calls : List Operation) :
    ((c.inquireAll (op :: calls)).hold opener table).noted =
      ((c.inquire op).hold opener table).noted ++
        ((((c.inquire op).hold opener table).answer.2.inquireAll calls).hold opener table).noted := by
  rw [inquireAll, Inquiry.hold_bind]
  dsimp only [Inquired.noting]
  rw [Inquiry.hold_bind]
  dsimp only [Inquired.noting, Inquiry.hold]
  rw [List.append_nil]

theorem count_display (shown : Bool) :
    (if shown then [Consultation.display] else []).count .display = shown.toNat := by
  cases shown <;> rfl

theorem display_only (shown : Bool) : (if shown then [Consultation.display] else []).count .opener = 0 ∧
    (if shown then [Consultation.display] else []).countP Consultation.makes = 0 := by
  cases shown <;> exact ⟨rfl, rfl⟩

theorem inquireAll_displays (c : Client) (calls : List Operation) :
    ((c.inquireAll calls).hold opener table).noted.count .display =
      (c.sourcing opener table).displays calls := by
  induction calls generalizing c with
  | nil => rfl
  | cons op calls ih =>
    obtain ⟨made, noted, silent⟩ := c.inquire_noted opener table op
    have none : made.count .display = 0 := by
      obtain rfl | ⟨-, -, -, -, none⟩ := silent
      · rfl
      · exact none
    rw [inquireAll_noted, List.count_append, ih, inquire_client, noted, List.count_append, none,
      count_display, Nat.zero_add]
    rfl

/-- Once a context has been tried, neither the opener nor a constructor is consulted. -/
theorem inquireAll_tried (tried : c.Tried) (calls : List Operation) :
    ((c.inquireAll calls).hold opener table).noted.count .opener = 0 ∧
      ((c.inquireAll calls).hold opener table).noted.countP Consultation.makes = 0 := by
  induction calls generalizing c with
  | nil => exact ⟨rfl, rfl⟩
  | cons op calls ih =>
    obtain ⟨made, noted, silent⟩ := c.inquire_noted opener table op
    have stands := (c.sourcing opener table).step_stands op
    rw [← inquire_client] at stands
    have tried' := (sourcing_tried opener table).1 (((sourcing_tried opener table).2 tried).stands stands)
    obtain ⟨unopened, unmade⟩ := ih tried'
    obtain rfl | ⟨-, untried, -⟩ := silent
    · obtain ⟨opened, made⟩ := display_only ((c.sourcing opener table).bringsUp op)
      rw [inquireAll_noted, noted, List.count_append, List.countP_append, unopened, unmade,
        List.nil_append, opened, made]
      exact ⟨rfl, rfl⟩
    · obtain ⟨context, known, is⟩ := isUntried_iff.1 untried
      exact absurd is (tried context known)

/-- In a run the opener is consulted once at most, and so are the constructors. -/
theorem inquireAll_once (c : Client) (calls : List Operation) :
    ((c.inquireAll calls).hold opener table).noted.count .opener ≤ 1 ∧
      ((c.inquireAll calls).hold opener table).noted.countP Consultation.makes ≤ 1 := by
  induction calls generalizing c with
  | nil => exact ⟨Nat.zero_le 1, Nat.zero_le 1⟩
  | cons op calls ih =>
    obtain ⟨made, noted, silent⟩ := c.inquire_noted opener table op
    have shown := display_only ((c.sourcing opener table).bringsUp op)
    rw [inquireAll_noted, noted, List.count_append, List.countP_append, List.count_append,
      List.countP_append, shown.1, shown.2]
    obtain rfl | ⟨looks, -, once, few, -⟩ := silent
    · have := ih ((c.inquire op).hold opener table).answer.2
      simpa using this
    · -- Now the context has been tried.
      have tried := (c.sourcing opener table).step_tried looks
      rw [← inquire_client, sourcing_tried] at tried
      obtain ⟨unopened, unmade⟩ := inquireAll_tried opener table tried calls
      omega

end Client

end GraphicsBuffers

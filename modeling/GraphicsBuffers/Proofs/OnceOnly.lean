import GraphicsBuffers.Proofs.BlindCalls
import GraphicsBuffers.Proofs.Inquiries
/-!
# One start, and the display as often as it takes

A context is started once, by the first call that needs it, and what came of that is what all later calls
see: the same failure, with the kernel left alone (`Client.HasFailed`), or the same card and backend
(`Client.IsReady`). The display is brought up by the calls that ask for it as long as it is not up, and
where that fails nothing has changed for the others (`Client.DisplayFails`). `Client.context_once` says so of
every opener, table and run.
-/

namespace GraphicsBuffers

namespace Client

variable {c : Client} {context : Context} {table : BackendTable}

/-! ## Failures -/

/-- The context has failed to start, and that is all that calls come to that need it. -/
structure HasFailed (c : Client) (f : StartFailure) : Prop where
  answers : ∀ more op, (c.run more).context?.isSome → op.looks →
    (c.run more).step op = (.error f.error, c.run more)
  quiet : ∀ more, c.Quiet (c.run more)

/-- A failure is for good: as long as a context is not ready, its client has got nothing to give back. -/
theorem hasFailed_of_state (dormant : c.Dormant) (known : c.context? = some context) {f : StartFailure}
    (failed : context.state = .failed f) : c.HasFailed f := by
  have unready (r : Ready) : context.state ≠ .ready r := fun is => nomatch failed.symm.trans is
  have ended : c.Over := by
    intro context' known'
    cases known.symm.trans known'
    exact ⟨f, failed⟩
  refine ⟨fun more op there looks => ?_, ended.run_quiet (dormant context known unready)⟩
  obtain ⟨context', known'⟩ := Option.isSome_iff_exists.1 there
  obtain ⟨_, known₁, stands⟩ := c.run_stands more context' known'
  cases known.symm.trans known₁
  exact step_unready looks (look_failed known' (stands.failed f failed))

/-! ## Successes -/

/-- The context is ready, and all calls see the card and the backend that it is ready with. -/
structure IsReady (c : Client) (r : Ready) : Prop where
  look : c.look = (.ok r, c)
  lasts : ∀ more, (c.run more).context?.isSome →
    ∃ r', (c.run more).look = (.ok r', c.run more) ∧ r'.card = r.card ∧ r'.backend = r.backend ∧
      (r.displayReady → r'.displayReady)

theorem isReady_of_state (known : c.context? = some context) {r : Ready}
    (ready : context.state = .ready r) : c.IsReady r := by
  refine ⟨look_ready known ready, fun more there => ?_⟩
  obtain ⟨context', known'⟩ := Option.isSome_iff_exists.1 there
  obtain ⟨_, known₁, stands⟩ := c.run_stands more context' known'
  cases known.symm.trans known₁
  obtain ⟨r', is', card, backend, up⟩ := stands.ready r ready
  exact ⟨r', look_ready known' is', card, backend, up⟩

/-! ## The display -/

/-- The display has come up, and that is remembered. -/
structure DisplayComesUp (r : Ready) (c c' : Client) : Prop where
  look : c'.look = (.ok { r with displayReady := true }, c')
  asked : ∃ resources : Wire.CardResources,
    ((Host.exchange r.card.fd .getResources).run c.process.host).1 = .ok resources ∧ resources.crtcs ≠ 0

/-- The display could not be brought up: the call says why, and all that has changed is what was reported
and recorded, and the failures of requests for resources that are still to come. -/
structure DisplayFails (r : Ready) (c : Client) (e : Error) (c' : Client) : Prop where
  errno : ∃ n, e = .displayInitFailed n ∧
    match ((Host.exchange r.card.fd .getResources).run c.process.host).1 with
    | .error kernel => n = kernel
    | .ok resources => resources.crtcs = 0 ∧ n = .ENODEV
  still : c.Beside c'

/-- What comes of bringing up the display of a card that the context remembers. -/
theorem broughtUp_cases {r : Ready} (known : c.context? = some context)
    (ready : context.state = .ready r) :
    let result := broughtUp r c ((Device.initDisplay r.card.fd).run c.process.host)
    (result.1 = .ok .done ∧ DisplayComesUp r c result.2) ∨
      ∃ e, result.1 = .error e ∧ DisplayFails r c e result.2 := by
  have aside := Device.initDisplay_aside r.card.fd c.process.host
  rw [Device.initDisplay_run] at aside ⊢
  rcases asked : (Host.exchange r.card.fd .getResources).run c.process.host with ⟨n | resources, host⟩ <;>
    rw [asked] at aside
  · refine .inr ⟨_, rfl, ⟨n, rfl, ?_⟩, _, rfl, ⟨aside.kernel, aside.holders, aside.script⟩⟩
    rw [asked]
  · dsimp only at aside ⊢
    split
    · next none =>
      refine .inr ⟨_, rfl, ⟨_, rfl, ?_⟩, _, rfl, ⟨aside.kernel, aside.holders, aside.script⟩⟩
      rw [asked]
      exact ⟨none, rfl⟩
    · next some =>
      refine .inl ⟨rfl, ?_, resources, congrArg Prod.fst asked, some⟩
      obtain ⟨p, _ | a, holds, cards⟩ := c <;> cases known
      exact look_ready rfl rfl

/-! ## All runs -/

/-- A run from the start, as an inquiry that is made without knowing the opener and the table, and then
carried out with them. -/
def inquired (host : Host) (opener : Opener) (table : BackendTable) (calls : List Operation) :
    Inquired (List (Operation × Except Error Reply) × Client) :=
  ((start host (throw "") {}).inquireAll calls).hold opener table

/-- What a run consults. -/
structure Consults (host : Host) (opener : Opener) (table : BackendTable) (calls : List Operation) :
    Prop where
  /-- The inquiry is the run, so nothing that is consulted is left out. -/
  replies : (inquired host opener table calls).answer.1 = (start host opener table).replies calls
  client : (inquired host opener table calls).answer.2.sourcing opener table =
    (start host opener table).run calls
  opened : (inquired host opener table calls).noted.count .opener ≤ 1
  made : (inquired host opener table calls).noted.countP Consultation.makes ≤ 1
  shown : (inquired host opener table calls).noted.count .display =
    (start host opener table).displays calls

theorem start_consults (host : Host) (opener : Opener) (table : BackendTable) (calls : List Operation) :
    Consults host opener table calls := by
  obtain ⟨replies, client⟩ := Prod.ext_iff.1 ((start host (throw "") {}).inquireAll_hold opener table calls)
  obtain ⟨opened, made⟩ := (start host (throw "") {}).inquireAll_once opener table calls
  exact ⟨replies, client, opened, made, (start host (throw "") {}).inquireAll_displays opener table calls⟩

/-- How a context that has not been tried starts. -/
structure Starts (opener : Opener) (table : BackendTable) (c : Client) : Prop where
  look : let result := (Context.start opener table).run c.process.host
    c.look = (result.1.mapError StartFailure.error, c.started result)
  /-- There is no card, or it is given up and let go, and closed unless others have got hold of it. -/
  failed : ∀ f h', (Context.start opener table).run c.process.host = (.error f, h') →
    (∃ reason h₁, opener.run c.process.host = (.error reason, h₁) ∧ f = .unavailable) ∨
    ∃ card h₁ h₂, opener.run c.process.host = (.ok card, h₁) ∧ Context.GivesUp table card h₁ f h₂ ∧
      h' = (card.release.run h₂).2 ∧
      (opener.HandsOver c.process.host → table.LetsGo → h' = card.closed h₂)
  ready : ∀ r h', (Context.start opener table).run c.process.host = (.ok r, h') →
    Context.GetsReady opener table c.process.host r

theorem starts_of_untried (known : c.context? = some context) (untried : context.state = .untried) :
    c.Starts context.opener context.table where
  look := look_untried known untried
  failed f h' eq := by
    obtain ⟨reason, h₁, opened, same, -⟩ | ⟨card, h₁, h₂, opened, gives, rfl⟩ := Context.start_failed eq
    · exact .inl ⟨reason, h₁, opened, same⟩
    · refine .inr ⟨card, h₁, h₂, opened, gives, rfl, fun handsOver letsGo => ?_⟩
      exact gives.closes letsGo (handsOver card h₁ opened)
  ready _ _ := Context.start_ok

/-- What a call that needs the context does is decided by a look at it, whichever call it is. -/
structure Sees (c : Client) (op : Operation) : Prop where
  looks : op ≠ .ensureReady true → Looks fun c => c.step op
  look : c.step op = c.look.2.step op
  unready : ∀ e, c.look.1 = .error e → c.step op = (.error e, c.look.2)
  tried : (c.step op).2.Tried

theorem sees_of_looks (c : Client) {op : Operation} (looks : op.looks) : c.Sees op :=
  ⟨step_looks looks, step_look looks c, fun _ seen => step_unready looks (Prod.ext seen rfl), step_tried looks c⟩

/-- What the display is to a client whose context is ready, or can be made so. -/
structure Displays (table : BackendTable) (r : Ready) (c : Client) : Prop where
  up : r.displayReady → c.step (.ensureReady true) = (.ok .done, c.look.2)
  tries : r.displayReady = false → c.step (.ensureReady true) =
    broughtUp r c.look.2 ((Device.initDisplay r.card.fd).run c.look.2.process.host)
  comes : r.displayReady = false →
    ((c.step (.ensureReady true)).1 = .ok .done ∧
      DisplayComesUp r c.look.2 (c.step (.ensureReady true)).2) ∨
    ∃ e, (c.step (.ensureReady true)).1 = .error e ∧
      DisplayFails r c.look.2 e (c.step (.ensureReady true)).2
  /-- Whether it was tried in vain or not at all is all the same to other calls, as far as backends do not
  see what was recorded. -/
  unseen : ∀ e, DisplayFails r c.look.2 e (c.step (.ensureReady true)).2 →
    ∀ more : List Operation, (∀ op ∈ more, op.onContext) ∨
        (table.Makes Backend.Blind ∧ ∀ op ∈ more, op ≠ .ensureReady true) →
      (c.step (.ensureReady true)).2.replies more = (c.step (.ensureReady false)).2.replies more

theorem displays_of_look (unseeing : table.Makes Backend.Blind → c.Unseeing) {r : Ready}
    (look : c.look.1 = .ok r) : c.Displays table r := by
  have looked : c.look = (.ok r, c.look.2) := Prod.ext look rfl
  have eq : c.step (.ensureReady true) = withDisplay r c.look.2 := by
    rw [step_ensureReady_true, looked]
    rfl
  have tries (down : r.displayReady = false) : c.step (.ensureReady true) =
      broughtUp r c.look.2 ((Device.initDisplay r.card.fd).run c.look.2.process.host) := by
    rw [eq, withDisplay, if_neg (down ▸ Bool.false_ne_true)]
  obtain ⟨-, tried, shown⟩ := c.look_stands
  obtain ⟨context, known, ready⟩ := shown r look
  refine ⟨fun up => ?_, tries, fun down => ?_, fun e fails more others => ?_⟩
  · rw [eq, withDisplay, if_pos up]
  · rw [tries down]
    exact broughtUp_cases known ready
  · have without : (c.step (.ensureReady false)).2 = c.look.2 := by
      rw [step_ensureReady_false, looked]
      rfl
    rw [without]
    -- Calls on the context ask no backend, so nothing need be known of the table for them.
    obtain plain | ⟨makes, others⟩ := others
    · exact run_beside tried fails.still plain
    · have looked := (unseeing makes).look
      exact (run_aside (looked.settled tried) (fails.still.aside looked.objects) others).1

/-- To look at a context that has been tried changes nothing. -/
theorem Tried.look (tried : c.Tried) : c.look.2 = c := by
  cases known : c.context? with
  | none => rw [look_retired known]
  | some context =>
    cases is : context.state with
    | untried => exact absurd is (tried context known)
    | ready r => rw [look_ready known is]
    | failed f => rw [look_failed known is]

/-- Only a call that asks for the display changes how far a context is that has been tried. -/
theorem Tried.others (tried : c.Tried) {op : Operation} (other : op ≠ .ensureReady true) :
    (c.step op).2.context? = none ∨ (c.step op).2.context? = c.context? := by
  cases looks : op.looks with
  | true =>
    obtain ⟨act, aloof, eq⟩ := step_looks looks other
    have looked : c.look = (c.look.1, c) := Prod.ext rfl tried.look
    dsimp only at eq
    rw [eq, looked]
    rcases c.look.1 with e | r
    · exact .inr rfl
    · exact (aloof r).context c
  | false => exact step_context looks c

/-- What a client sees of its context. -/
structure Remembers (opener : Opener) (table : BackendTable) (c : Client) : Prop where
  untried : ∀ context, c.context? = some context → context.state = .untried → c.Starts opener table
  failed : ∀ context f, c.context? = some context → context.state = .failed f → c.HasFailed f
  ready : ∀ context r, c.context? = some context → context.state = .ready r → c.IsReady r
  sees : ∀ op, op.looks → c.Sees op
  displays : ∀ r, c.look.1 = .ok r → c.Displays table r
  /-- Once the context has been tried, only a call that asks for the display changes how far it is. -/
  others : ∀ op, op ≠ .ensureReady true → c.Tried →
    (c.step op).2.context? = none ∨ (c.step op).2.context? = c.context?

/-- The opener and the table are consulted once at most, and every call of a run sees what came of that. -/
theorem context_once (host : Host) (opener : Opener) (table : BackendTable) (calls : List Operation) :
    Consults host opener table calls ∧ Remembers opener table ((start host opener table).run calls) := by
  have stands := (start host opener table).run_stands calls
  have dormant := (start_dormant host opener table).run calls
  refine ⟨start_consults host opener table calls, fun context known untried => ?_, ?_, ?_, ?_, ?_, ?_⟩
  · obtain ⟨_, ⟨⟩, stands⟩ := stands context known
    have starts := starts_of_untried known untried
    rw [stands.opener, stands.table] at starts
    exact starts
  · exact fun context f known failed => hasFailed_of_state dormant known failed
  · exact fun context r known ready => isReady_of_state known ready
  · exact fun op looks => sees_of_looks _ looks
  · exact fun r look => displays_of_look (fun makes => (start_unseeing host opener makes).run calls) look
  · exact fun op other tried => tried.others other

/-- A host with a card that the standard table has a backend for, and another one that it has none for. -/
def mixed : Host :=
  let w : World :=
    { cards := [{ driver := [118, 107, 109, 115] }, { path := "/dev/dri/card1", driver := [116, 116, 109] }] }
  (w.process {}).host

/-- On the one card the display comes up at the second try, and the other one is let go. -/
theorem mixed_once :
    let opener (path : String) : Opener := (Opener.ofConfig { path }).reporting
    let served : List Operation :=
      [.arm (.control .getResources) [{ errno := .EBUSY, times := some 1 }], .ensureReady true, .authMagic,
       .ensureReady true, .ensureReady true]
    let unserved : List Operation := [.ensureReady false, .holdCard]
    (inquired mixed (opener "/dev/dri/card0") .standard served).noted =
        [.opener, .constructor "vkms", .display, .display] ∧
      ((start mixed (opener "/dev/dri/card0") .standard).replies served).map (·.2) =
        [.ok .done, .error (.displayInitFailed .EBUSY), .ok (.word 4660), .ok .done, .ok .done] ∧
      (inquired mixed (opener "/dev/dri/card1") .standard unserved).noted = [.opener] ∧
      ((start mixed (opener "/dev/dri/card1") .standard).replies unserved).map (·.2) =
        [.error (.unsupportedBackend "ttm"), .error (.unsupportedBackend "ttm")] ∧
      (opener "/dev/dri/card1").HandsOver mixed ∧ BackendTable.standard.LetsGo ∧
      BackendTable.standard.Makes Backend.Blind ∧
      (Consults mixed (opener "/dev/dri/card0") .standard served ∧
        Remembers (opener "/dev/dri/card0") .standard
          ((start mixed (opener "/dev/dri/card0") .standard).run served)) ∧
      Consults mixed (opener "/dev/dri/card1") .standard [] ∧
        Remembers (opener "/dev/dri/card1") .standard (start mixed (opener "/dev/dri/card1") .standard) := by
  intro opener served unserved
  refine ⟨by decide +kernel, by decide +kernel, by decide +kernel, by decide +kernel, ?_, ?_, ?_, ?_, ?_⟩
  · exact (Opener.ofConfig_opensOnce _).reporting.handsOver (World.kernel_fresh _).sound
  · exact BackendTable.standard_allDumb.letsGo
  · exact BackendTable.standard_allDumb.makes Backend.dumb_blind
  · exact context_once mixed (opener "/dev/dri/card0") .standard served
  · exact context_once mixed (opener "/dev/dri/card1") .standard []

end Client

end GraphicsBuffers

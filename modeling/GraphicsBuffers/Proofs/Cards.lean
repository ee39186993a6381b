import GraphicsBuffers.Proofs.Contexts
import GraphicsBuffers.Proofs.Failures
import GraphicsBuffers.Proofs.Turns
/-!
# Opening, sharing and closing cards

Opening a card, finding one and closing it open and close files, but trade nothing. A card that is
opened has one holder, and a context that gets ready has its card open. Whoever lets go of a card
closes it, unless others have got hold of it (`Card.LetGo`).
-/

namespace GraphicsBuffers

/-! ## Files -/

namespace Kernel

variable {k : Kernel}

theorem perform_same (sound : k.Sound) {α : Type} {point : FaultPoint} {call : Call}
    {answer : α → Answer} {effect : Kernel → Except Errno (α × Kernel)}
    (same : ∀ k₁ a k₂, k₁.Sound → effect k₁ = .ok (a, k₂) → k₁.Trades ∅ ∅ k₂) :
    k.Trades ∅ ∅ (k.perform point call answer effect).2 := by
  refine perform_rule (Q := fun _ k' => k.Trades ∅ ∅ k') (fun _ _ calm => calm.trades sound) ?_
  intro a k₁ k₂ k' calm eq calm'
  have trades := calm.trades sound
  have done := same k₁ a k₂ trades.sound eq
  exact (trades.trans done).trans (calm'.trades done.sound)

theorem openProcFb_same (sound : k.Sound) : k.Trades ∅ ∅ k.openProcFb.2 := by
  unfold openProcFb readProcFb
  rcases k.procFb with e | text
  · exact (Calm.record k _).trades sound
  · dsimp only
    split
    · exact .same sound rfl rfl rfl rfl rfl rfl sound.spared
    · exact (Calm.record k _).trades sound

theorem openCard_same (sound : k.Sound) (path : String) : k.Trades ∅ ∅ (k.openCard path).2 := by
  unfold openCard
  split
  · exact openProcFb_same sound
  split
  · split
    · exact perform_same sound nofun
    · exact .same sound rfl rfl rfl rfl rfl rfl sound.spared
  · refine perform_same sound fun k₁ a k₂ sound₁ eq => ?_
    split at eq
    · cases eq
    · split at eq <;> cases eq
      exact .same sound₁ rfl rfl rfl rfl rfl rfl sound₁.spared

theorem close_same (sound : k.Sound) (fd : Int32) : k.Trades ∅ ∅ (k.close fd).2 := by
  unfold close
  split
  · refine perform_same sound fun k₁ a k₂ sound₁ eq => ?_
    split at eq
    · cases eq
      exact .same sound₁ rfl rfl rfl rfl rfl rfl sound₁.spared
    · split at eq <;> cases eq
      exact .same sound₁ rfl rfl rfl rfl rfl rfl sound₁.spared
  · exact .same sound rfl rfl rfl rfl rfl rfl sound.spared

/-- To close a file descriptor is asked for once, and unless that is made to fail it is no open card then. -/
theorem close_run (k : Kernel) {fd : Int32} (watched : isWatched fd) :
    (∃ outcome, (k.close fd).2.trace = .kernel (.close fd) outcome :: k.trace) ∧
      (k.failureAt? .close 0 = none → (k.close fd).2.files.get? fd = none) := by
  obtain ⟨k₁, taken, ⟨faults, same⟩, -⟩ := k.takeFault_run .close
  have trace : k.trace = k₁.trace := by rw [same, List.nil_append]
  unfold close perform
  rw [if_pos watched, taken, trace]
  cases k.failureAt? .close 0 with
  | some e => exact ⟨⟨_, rfl⟩, nofun⟩
  | none =>
    dsimp only
    by_cases isOpen : k₁.files.contains fd
    · rw [if_pos isOpen]
      exact ⟨⟨_, rfl⟩, fun _ => Table.get?_erase_self ..⟩
    · have shut : k₁.files.get? fd = none := by simpa [Table.contains] using isOpen
      rw [if_neg isOpen]
      by_cases dmabuf : k₁.isDmaBuf fd
      · rw [if_pos dmabuf]
        exact ⟨⟨_, rfl⟩, fun _ => shut⟩
      · rw [if_neg dmabuf]
        exact ⟨⟨_, rfl⟩, fun _ => shut⟩

end Kernel

/-! ## Cards -/

/-- From a host on, a computation trades nothing, though it may open and close files, and ends with an
answer and a host for which `Q` holds. -/
def Opens {α : Type} (x : HostM α) (h : Host) (Q : α → Host → Prop) : Prop :=
  Yields x h fun a h' => h.kernel.Trades ∅ ∅ h'.kernel ∧ Q a h'

namespace Opens

variable {α β : Type} {h : Host} {P : α → Host → Prop} {Q : β → Host → Prop}

theorem pure (sound : h.kernel.Sound) {a : α} (holds : P a h) : Opens (Pure.pure a) h P :=
  ⟨(Neutral.pure a h sound).kernel, holds⟩

theorem bind {x : HostM α} {f : α → HostM β} (first : Opens x h P)
    (second : ∀ a h', h'.kernel.Sound → P a h' → Opens (f a) h' Q) : Opens (x >>= f) h Q := by
  refine Yields.bind first fun a h' ⟨trades, holds⟩ => ?_
  exact (second a h' trades.sound holds).mono fun _ _ ⟨trades', holds'⟩ =>
    ⟨trades.trans trades', holds'⟩

end Opens

/-- The same for a computation that may fail; nothing more is said of a failure. -/
def TriesToOpen {ε α : Type} (x : Attempt ε α) (h : Host) (P : α → Host → Prop) : Prop :=
  Opens x.run h fun outcome h' => ∀ a, outcome = .ok a → P a h'

namespace TriesToOpen

variable {ε δ α β : Type} {h : Host} {P : α → Host → Prop} {Q : β → Host → Prop}

theorem pure (sound : h.kernel.Sound) {a : α} (holds : P a h) :
    TriesToOpen (Pure.pure a : Attempt ε α) h P := by
  refine Opens.pure sound ?_
  rintro _ ⟨⟩
  exact holds

theorem throw (sound : h.kernel.Sound) (e : ε) : TriesToOpen (throw e : Attempt ε α) h P :=
  Opens.pure sound nofun

theorem bind {x : Attempt ε α} {f : α → Attempt ε β} (first : TriesToOpen x h P)
    (second : ∀ a h', h'.kernel.Sound → P a h' → TriesToOpen (f a) h' Q) :
    TriesToOpen (x >>= f) h Q := by
  refine Opens.bind (f := ExceptT.bindCont f) first fun outcome h' sound holds => ?_
  cases outcome with
  | ok a => exact second a h' sound (holds a rfl)
  | error e => exact throw sound e

theorem lift {x : HostM α} (opens : Opens x h P) : TriesToOpen (liftM x : Attempt ε α) h P :=
  opens.bind fun _ _ sound holds => pure sound holds

theorem explain {x : Attempt ε α} {f : ε → HostM δ} (first : TriesToOpen x h P)
    (failed : ∀ e, Neutral (f e)) : TriesToOpen (GraphicsBuffers.explain x f) h P := by
  refine Opens.bind first fun outcome h' sound holds => ?_
  cases outcome with
  | ok a => exact pure sound (holds a rfl)
  | error e =>
    have neutral := failed e h' sound
    exact ⟨neutral.kernel, nofun⟩

end TriesToOpen

theorem Neutral.opens {α : Type} {x : HostM α} (neutral : Neutral x) {h : Host} (sound : h.kernel.Sound) :
    Opens x h fun _ h' => h'.cardHolders = h.cardHolders ∧ h.kernel.SameFiles h'.kernel :=
  ⟨(neutral h sound).kernel, (neutral h sound).holders, (neutral h sound).files⟩

namespace Card

/-- The host once the last holder of a card has let it go. -/
def closed (card : Card) (h : Host) : Host :=
  { h with cardHolders := h.cardHolders.erase card.fd, kernel := (h.kernel.close card.fd).2 }

theorem release_run (card : Card) (h : Host) : (card.release.run h).2 =
    match h.cardHolders.get? card.fd with
    | some (n + 2) => { h with cardHolders := h.cardHolders.insert card.fd (n + 1) }
    | _ => card.closed h := by
  unfold release
  rw [StateT.run, get_bind_state]
  match h.cardHolders.get? card.fd with
  | none => rfl
  | some 0 => rfl
  | some 1 => rfl
  | some (n + 2) => rfl

/-- A card is closed, and nothing else happens. -/
structure Closes (card : Card) (h h' : Host) : Prop where
  closed : h' = card.closed h
  unheld : h'.cardHolders.get? card.fd = none
  /-- It is the last thing that is asked of the kernel, and asked once. -/
  asked : ∃ outcome, h'.kernel.trace = .kernel (.close card.fd) outcome :: h.kernel.trace
  shut : h.kernel.failureAt? .close 0 = none → h'.kernel.files.get? card.fd = none

/-- One hold on a card is given up, and nothing else happens: the card is closed, unless it has other
holders, and then these keep it. -/
structure LetGo (card : Card) (h h' : Host) : Prop where
  alone : (h.cardHolders.get? card.fd).getD 0 ≤ 1 → card.Closes h h'
  shared : ∀ others, h.cardHolders.get? card.fd = some (others + 2) →
    h' = { h with cardHolders := h.cardHolders.insert card.fd (others + 1) }

theorem closed_closes (card : Card) (h : Host) (watched : Kernel.isWatched card.fd) :
    card.Closes h (card.closed h) where
  closed := rfl
  unheld := Table.get?_erase_self ..
  asked := (h.kernel.close_run watched).1
  shut := (h.kernel.close_run watched).2

theorem release_letGo (card : Card) (h : Host) (watched : Kernel.isWatched card.fd) :
    card.LetGo h (card.release.run h).2 := by
  rw [release_run]
  constructor
  · intro few
    split
    · next others count =>
      rw [count, Option.getD_some] at few
      omega
    · exact card.closed_closes h watched
  · intro others count
    rw [count]

theorem release_opens (card : Card) {h : Host} (sound : h.kernel.Sound) :
    Opens card.release h fun _ _ => True := by
  refine ⟨?_, trivial⟩
  have run := release_run card h
  rw [StateT.run] at run
  rw [run]
  split
  · exact (Neutral.pure () h sound).kernel
  · exact Kernel.close_same sound card.fd

/-- A card that is opened has one holder. -/
theorem openAt_opens (path : String) {h : Host} (sound : h.kernel.Sound) :
    TriesToOpen (openAt path) h fun card h' => h'.cardHolders.get? card.fd = some 1 := by
  have opened {h : Host} (sound : h.kernel.Sound) :
      TriesToOpen (Host.call (·.openCard path)) h fun _ _ => True :=
    ⟨Kernel.openCard_same sound path, fun _ _ => trivial⟩
  have counted {h : Host} (sound : h.kernel.Sound) (fd : Int32) :
      TriesToOpen (do
        modify fun h => { h with cardHolders := h.cardHolders.insert fd 1 }
        return ⟨fd, path⟩ : Attempt OpenError Card) h
        fun card h' => h'.cardHolders.get? card.fd = some 1 := by
    refine ⟨(Neutral.pure () h sound).kernel, ?_⟩
    rintro _ ⟨⟩
    exact Table.get?_insert_self ..
  unfold openAt
  split
  · exact .throw sound _
  · exact .bind (.explain (opened sound) fun _ => .pure _) fun fd h' sound' _ => counted sound' fd

end Card

namespace Device

theorem version_neutral (fd : Int32) : Neutral (version fd).run := by
  have asked {α : Type} {x : Wire.Exchange α} (neutral : x.Neutral) :
      Neutral (explain (Host.exchange fd x) fun e => pure (.failed e) : Attempt VersionError α).run :=
    .explain (exchange_neutral neutral) fun _ => .pure _
  refine .bind_attempt (asked Wire.Exchange.version_neutral) fun first => ?_
  refine .bind_attempt (asked (Wire.Exchange.versionName_neutral _)) fun ⟨info, bytes⟩ => ?_
  dsimp only
  split <;> exact .pure _

/-- A card that tells its driver is open. -/
theorem version_opened {fd : Int32} {h h' : Host} {info : DriverInfo}
    (eq : (version fd).run h = (.ok info, h')) : h.kernel.Opened fd := by
  unfold version at eq
  rw [run_bind_attempt, run_explain] at eq
  rcases first : (Host.exchange fd .version).run h with ⟨_ | _, h₁⟩ <;> rw [first] at eq
  · cases eq
  · exact exchange_opened first

theorem initDisplay_neutral (fd : Int32) : Neutral (initDisplay fd).run := by
  refine .bind_attempt (.explain (exchange_neutral Wire.Exchange.getResources_neutral) fun _ =>
    .pure _) fun resources => ?_
  split <;> exact .pure _

end Device

/-! ## Holders -/

/-- A card with so many holders is open, unless there are none. -/
def Host.CardHeld (h : Host) (fd : Int32) (n : Nat) : Prop :=
  0 < n → h.cardHolders.get? fd = some n ∧ h.kernel.Opened fd

namespace Host.CardHeld

variable {h h' : Host} {fd : Int32} {n : Nat}

theorem later {A B : Set Resource} (held : h.CardHeld fd n) (trades : h.Trades A B h') :
    h'.CardHeld fd n := by
  intro positive
  obtain ⟨count, opened⟩ := held positive
  exact ⟨trades.holders ▸ count, opened.later trades.files⟩

theorem hold (held : h.CardHeld fd n) (positive : 0 < n) {card : Card} (same : card.fd = fd) :
    (card.hold.run h).2.CardHeld fd (n + 1) := by
  obtain ⟨count, opened⟩ := held positive
  intro _
  refine ⟨?_, opened⟩
  refine (congrArg (fun fd' => (h.cardHolders.insert fd'
    ((h.cardHolders.get? fd').getD 0 + 1)).get? fd) same).trans ?_
  rw [Table.get?_insert_self, count]
  rfl

theorem release (held : h.CardHeld fd (n + 1)) {card : Card} (same : card.fd = fd) :
    (card.release.run h).2.CardHeld fd n := by
  obtain ⟨count, opened⟩ := held (Nat.succ_pos n)
  intro positive
  obtain ⟨m, rfl⟩ := Nat.exists_eq_succ_of_ne_zero (Nat.ne_of_gt positive)
  rw [Card.release_run, same, count]
  exact ⟨Table.get?_insert_self .., opened⟩

end Host.CardHeld

/-! ## Finding a card -/

namespace Probe

theorem tryCard_opens (driver path : String) {h : Host} (sound : h.kernel.Sound) :
    Opens (tryCard driver path) h fun found h' => ∀ card, found = some card →
      h'.cardHolders.get? card.fd = some 1 := by
  have givenUp {card : Card} {h : Host} (sound : h.kernel.Sound) :
      Opens (do card.release; return none : HostM (Option Card)) h fun found h' =>
        ∀ card, found = some card → h'.cardHolders.get? card.fd = some 1 :=
    (card.release_opens sound).bind fun _ _ sound' _ => .pure sound' nofun
  refine Opens.bind (Card.openAt_opens path sound) fun outcome h₁ sound₁ opened => ?_
  cases outcome with
  | error e => exact .pure sound₁ nofun
  | ok card =>
    refine Opens.bind ((Device.version_neutral card.fd).opens sound₁) fun told h₂ sound₂ same => ?_
    cases told with
    | error e => exact givenUp sound₂
    | ok info =>
      dsimp only
      split
      · refine .pure sound₂ ?_
        rintro _ ⟨⟩
        rw [same.1]
        exact opened card rfl
      · exact givenUp sound₂

theorem search_opens (driver : String) (n count : Nat) {h : Host} (sound : h.kernel.Sound) :
    Opens (search driver n count) h fun found h' => ∀ card, found = some card →
      h'.cardHolders.get? card.fd = some 1 := by
  induction count generalizing n h with
  | zero => exact .pure sound nofun
  | succ count ih =>
    refine (tryCard_opens driver (cardPath n) sound).bind fun found h' sound' opened => ?_
    cases found with
    | some card =>
      refine .pure sound' ?_
      rintro _ ⟨⟩
      exact opened card rfl
    | none => exact ih (n + 1) sound'

theorem readFramebuffers_neutral : Neutral readFramebuffers.run := by
  have read : Neutral (Host.call (·.readProcFb)).run := call_neutral fun k => .record ..
  refine .bind_attempt (.explain read fun _ => .pure _) fun bytes => ?_
  split <;> exact .pure _

theorem openDriving_opens {h : Host} (sound : h.kernel.Sound) :
    TriesToOpen openDriving h fun card h' => h'.cardHolders.get? card.fd = some 1 := by
  have read : TriesToOpen readFramebuffers h fun _ _ => True :=
    ⟨(readFramebuffers_neutral h sound).kernel, fun _ _ => trivial⟩
  refine .bind read fun text h₁ sound₁ _ => ?_
  split
  · next framebuffer _ =>
    split
    · next driver _ =>
      refine .bind (.lift (search_opens driver 0 maxCards sound₁)) fun found h₂ sound₂ opened => ?_
      cases found with
      | none => exact .throw sound₂ _
      | some card =>
        have reported := (Neutral.report (.probed driver framebuffer card.path)).opens sound₂
        refine .bind (.lift reported) fun _ h₃ sound₃ same => .pure sound₃ ?_
        rw [same.1]
        exact opened card rfl
    · exact .throw sound₁ _
  · exact .throw sound₁ _

end Probe

/-- A card that it opens has one holder, and it trades nothing. -/
def Opener.OpensOnce (opener : Opener) : Prop :=
  ∀ h : Host, h.kernel.Sound →
    TriesToOpen opener h fun card h' => h'.cardHolders.get? card.fd = some 1

namespace Opener

theorem ofConfig_opensOnce (config : DeviceConfig) : (ofConfig config).OpensOnce := by
  intro h sound
  have opened : TriesToOpen config.openCard h
      fun card h' => h'.cardHolders.get? card.fd = some 1 := by
    unfold DeviceConfig.openCard
    split
    · exact Probe.openDriving_opens sound
    · exact Card.openAt_opens config.path sound
  exact opened.explain fun _ => .pure _

theorem OpensOnce.reporting {opener : Opener} (once : opener.OpensOnce) :
    opener.reporting.OpensOnce := by
  intro h sound
  refine .bind (once h sound) fun card h₁ sound₁ opened => ?_
  have reported := (Neutral.report (.opened card.path)).opens sound₁
  refine .bind (.lift reported) fun _ h₂ sound₂ same => .pure sound₂ ?_
  rw [same.1]
  exact opened

end Opener

/-! ## Contexts -/

/-- All drivers in the table are served by the dumb-buffer backend. -/
def BackendTable.AllDumb (t : BackendTable) : Prop := ∀ entry ∈ t.entries, entry.2 = dumb

theorem BackendTable.AllDumb.register {t : BackendTable} (allDumb : t.AllDumb) (driver : String) :
    (t.register driver dumb).AllDumb := by
  intro entry mem
  rcases List.mem_append.1 mem with mem | mem
  · exact allDumb entry (List.mem_filter.1 mem).1
  · rw [List.mem_singleton.1 mem]

theorem BackendTable.standard_allDumb : standard.AllDumb := by
  have listed (drivers : List String) (t : BackendTable) (allDumb : t.AllDumb) :
      (drivers.foldl (fun t driver => t.register driver dumb) t).AllDumb := by
    induction drivers generalizing t with
    | nil => exact allDumb
    | cons driver drivers ih => exact ih _ (allDumb.register driver)
  exact listed dumbDrivers {} nofun

theorem BackendTable.AllDumb.create {t : BackendTable} (dumb : t.AllDumb) (driver : String)
    (card : Card) {h : Host} (sound : h.kernel.Sound) :
    Opens (t.create? driver card) h fun made h' =>
      (h'.cardHolders = h.cardHolders ∧ h.kernel.SameFiles h'.kernel) ∧
        ∀ backend, made = some (.ok backend) → backend = .dumb card.fd := by
  unfold create?
  cases found : t.lookup? driver with
  | none => exact .pure sound ⟨⟨rfl, .refl _⟩, nofun⟩
  | some constructor =>
    obtain ⟨entry, listed, rfl⟩ := Option.map_eq_some_iff.1 found
    obtain ⟨driver', constructor⟩ := entry
    obtain rfl : constructor = BackendTable.dumb := dumb _ (List.mem_of_find?_eq_some listed)
    have reported := (Neutral.report (.backendCreated "dumb" driver)).opens sound
    refine ⟨reported.1, reported.2, ?_⟩
    rintro _ ⟨⟩
    rfl

namespace Context

/-- A context that gets ready has its card open, with one holder and the dumb-buffer backend on it. -/
theorem start_opens {opener : Opener} (once : opener.OpensOnce) {table : BackendTable}
    (dumb : table.AllDumb) {h : Host} (sound : h.kernel.Sound) :
    TriesToOpen (start opener table) h fun r h' =>
      h'.cardHolders.get? r.card.fd = some 1 ∧ h'.kernel.Opened r.card.fd ∧
        r.backend = .dumb r.card.fd := by
  have givenUp {card : Card} (event : LogEvent) (failure : StartFailure) {h : Host}
      (sound : h.kernel.Sound) {P : Ready → Host → Prop} : TriesToOpen (do
        Host.report event
        card.release
        throw failure : Attempt StartFailure Ready) h P := by
    refine .bind (.lift ((Neutral.report event).opens sound)) fun _ h₁ sound₁ _ => ?_
    exact .bind (.lift (card.release_opens sound₁)) fun _ h₂ sound₂ _ => .throw sound₂ _
  refine .bind ((once h sound).explain fun _ => (Neutral.report _).bind fun _ => .pure _)
    fun card h₁ sound₁ opened => ?_
  have asked : Opens (Device.version card.fd).run h₁ fun told h₂ =>
      h₂.cardHolders = h₁.cardHolders ∧
        ∀ info, told = .ok info → h₂.kernel.Opened card.fd := by
    obtain ⟨trades, holders, files⟩ := (Device.version_neutral card.fd).opens sound₁
    refine ⟨trades, holders, fun info told => ?_⟩
    exact (Device.version_opened (Prod.ext told rfl)).later files
  refine .bind (.lift asked) fun told h₂ sound₂ ⟨holders, isOpen⟩ => ?_
  cases told with
  | error e => exact givenUp _ _ sound₂
  | ok info =>
    have made := dumb.create info.name card sound₂
    refine .bind (.lift made) fun made h₃ sound₃ ⟨⟨holders', files⟩, served⟩ => ?_
    match made with
    | none => exact givenUp _ _ sound₃
    | some (.error e) => exact givenUp _ _ sound₃
    | some (.ok backend) =>
      refine .pure sound₃ ⟨?_, (isOpen info rfl).later files, served backend rfl⟩
      dsimp only
      rw [holders', holders]
      exact opened

theorem bringUp_neutral (fd : Int32) : Neutral (bringUp fd).run :=
  .explain (Device.initDisplay_neutral fd) fun _ => (Neutral.report _).bind fun _ => .pure _

theorem send_neutral (fd : Int32) {α : Type} {x : Wire.Exchange α} (neutral : x.Neutral) :
    Neutral (send fd x).run :=
  .explain (exchange_neutral neutral) fun _ => .pure _

end Context

end GraphicsBuffers

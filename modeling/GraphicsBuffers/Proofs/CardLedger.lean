import GraphicsBuffers.Proofs.Cards
import GraphicsBuffers.Proofs.Records

/-!
# Cards in the ledger

A card is opened into a ledger that is empty, and closed out of one that has nothing else left. What is
opened on the way and turns out not to be the card, or not to be a card at all, is closed again
(`Opener.Tidy`): a context that does not get ready leaves the ledger empty and the same files open.
-/

namespace GraphicsBuffers

variable {ε δ α β : Type} {s : Surroundings} {l : Ledger} {fd : Int32} {h : Host}

/-- A computation that may fail, followed by another. -/
theorem Yields.attempt {x : Attempt ε α} {f : α → Attempt ε β} {P : Except ε α → Host → Prop}
    {Q : Except ε β → Host → Prop} (first : Yields x.run h P)
    (next : ∀ a h', P (.ok a) h' → Yields (f a).run h' Q)
    (failed : ∀ e h', P (.error e) h' → Q (.error e) h') : Yields (x >>= f).run h Q := by
  refine Yields.bind (x := x.run) (f := ExceptT.bindCont f) first fun outcome h' holds => ?_
  cases outcome with
  | ok a => exact next a h' holds
  | error e => exact failed e h' holds

/-- A computation that does not fail, followed by another that may. -/
theorem Yields.lift {x : HostM α} {f : α → Attempt ε β} {P : α → Host → Prop}
    {Q : Except ε β → Host → Prop} (first : Yields x h P)
    (next : ∀ a h', P a h' → Yields (f a).run h' Q) :
    Yields (liftM x >>= f : Attempt ε β).run h Q :=
  next _ _ first

/-! ## Opening and closing -/

/-- A file descriptor that was opened as a card belongs to one, or else to an ordinary file. -/
inductive Kernel.OpenedAs (s : Surroundings) (fd : Int32) (k : Kernel) : Prop
  | card (audited : k.Audited s { card := some fd })
  | ordinary (unwatched : Kernel.isWatched fd = false)
      (audited : k.Audited { s with ordinaryFiles := fd :: s.ordinaryFiles } {})

/-- The outcome of opening a card when none was open: it is open, or nothing is. -/
def Kernel.OpensOne (s : Surroundings) (outcome : Except ε Int32) (k : Kernel) : Prop :=
  match outcome with
  | .ok fd => k.OpenedAs s fd
  | .error _ => k.Audited s {}

/-- A card that was just opened and has one holder. -/
structure Host.HasOpened (s : Surroundings) (card : Card) (h : Host) : Prop where
  opened : h.kernel.OpenedAs s card.fd
  holder : h.cardHolders.get? card.fd = some 1

/-- What is to be shown of opening a card when none is open. -/
def OpensCard (s : Surroundings) (x : Attempt ε Card) : Prop :=
  ∀ h : Host, h.kernel.Audited s {} → Yields x.run h fun outcome h' =>
    match outcome with
    | .ok card => h'.HasOpened s card
    | .error _ => h'.kernel.Audited s {}

/-- Whatever it opens and does not answer, it closes again. -/
def Opener.Tidy (opener : Opener) : Prop := ∀ s, OpensCard s opener

namespace Kernel

variable {k : Kernel}

theorem readProcFb_audited (audited : k.Audited s l) : k.readProcFb.2.Audited s l :=
  audited.record (.same .other audited.bears rfl)

/-- What is free for an ordinary file is not watched. -/
theorem unwatched_of_free (free : k.freeDescriptor? = some fd) : isWatched fd = false := by
  obtain ⟨n, below, rfl⟩ := List.mem_map.1 (List.mem_of_find?_eq_some free)
  have below := List.mem_range.1 below
  have number : (Int32.ofNat n).toInt = n := Int32.toInt_ofNat_of_lt (by omega)
  have positive : ¬Int32.ofNat n < 0 := by rw [Int32.lt_iff_toInt_lt, number]; simp
  have small : ¬1000 ≤ Int32.ofNat n := by rw [Int32.le_iff_toInt_le, number]; simp; omega
  simp [isWatched, positive, small]

theorem openProcFb_audited (audited : k.Audited s {}) : OpensOne s k.openProcFb.1 k.openProcFb.2 := by
  have read := readProcFb_audited audited
  unfold openProcFb
  rcases eq : k.readProcFb with ⟨_ | _, k₁⟩ <;> rw [eq] at read
  · exact read
  · dsimp only
    split
    · next fd free =>
      refine .ordinary (unwatched_of_free free) ?_
      refine ⟨read.audit, read.spent, read.cards, ⟨read.bears.card, nofun⟩, ?_⟩
      rw [← read.surroundings]
      rfl
    · exact read

/-- An attempt to open a card node enters the card, or nothing. -/
theorem OpensOne.of_entered {outcome : Except ε Int32}
    (entered : ∃ l, k.Audited s l ∧ orLeaves (fun fd l => l = { card := some fd }) {} outcome l) :
    OpensOne s outcome k := by
  obtain ⟨l, audited, holds⟩ := entered
  cases outcome <;> cases holds
  · exact audited
  · exact .card audited

theorem openCard_audited (audited : k.Audited s {}) (path : String) :
    OpensOne s (k.openCard path).1 (k.openCard path).2 := by
  unfold openCard
  split
  · exact openProcFb_audited audited
  have refused (k : Kernel) (e : Errno) (audited : k.Audited s {}) : ∃ l,
      k.Enters {} (.ofCall (.openCard path) (.error e)) k l ∧
        orLeaves (fun fd l => l = { card := some fd }) {} (.error e : Except Errno Int32) l :=
    ⟨{}, .same .other audited.bears rfl, rfl⟩
  split
  · split
    · exact .of_entered (perform_audited audited refused nofun)
    · exact audited
  · next index found =>
    refine .of_entered (perform_audited audited refused fun k fd k' audited eq => ?_)
    dsimp only at eq
    split at eq
    · cases eq
    · split at eq
      · next room =>
        cases eq
        have event : Event.ofCall (.openCard path) (.ok (.number (Int32.ofNat k.nextFd).toInt)) =
            .opened (.ofNat k.nextFd) := congrArg Event.opened (Int32.ofInt_toInt _)
        exact ⟨_, event ▸ .opened audited rfl room index, rfl⟩
      · cases eq

/-- A card is closed when there is nothing else left, whether or not the kernel does it. -/
theorem close_audited (audited : k.Audited s l) (card : l.card = some fd)
    (bare : ∀ handle, l.holdings handle = none) :
    (k.close fd).2.Audited s { l with card := none } := by
  unfold close
  rw [if_pos (audited.bears.card fd card).1]
  refine perform_enters audited (fun k e _ => .closed card bare (.inl rfl)) fun k _ k' audited eq => ?_
  rw [if_pos (audited.bears.card fd card).2] at eq
  cases eq
  exact .closed card bare (.inr ⟨_, rfl⟩)

/-- What was opened is closed again. -/
theorem OpenedAs.close (opened : k.OpenedAs s fd) : (k.close fd).2.Audited s {} := by
  cases opened with
  | card audited => exact close_audited audited rfl fun _ => rfl
  | ordinary unwatched audited =>
    unfold Kernel.close
    rw [if_neg (by rw [unwatched]; nofun)]
    refine ⟨audited.audit, audited.spent, audited.cards, ⟨audited.bears.card, nofun⟩, ?_⟩
    have files : k.ordinaryFiles = fd :: s.ordinaryFiles :=
      congrArg Surroundings.ordinaryFiles audited.surroundings
    have dmabufs : k.dmabufs = s.dmabufs := congrArg Surroundings.dmabufs audited.surroundings
    simp only [surroundings, files, dmabufs, List.erase_cons_head]

end Kernel

/-! ## Asking a card -/

namespace Host.HasOpened

variable {card : Card}

theorem reported (has : h.HasOpened s card) (event : LogEvent) : (h.reported event).HasOpened s card :=
  ⟨has.opened, has.holder⟩

/-- The only holder of a card takes it along. -/
theorem release (has : h.HasOpened s card) :
    Yields card.release h fun _ h' => h'.kernel.Audited s {} := by
  have run := card.release_run h
  rw [has.holder] at run
  unfold Yields
  rw [show (card.release h).2 = card.closed h from run]
  exact has.opened.close

end Host.HasOpened

/-- An ordinary file answers no requests. -/
theorem exchange_ordinary (unwatched : Kernel.isWatched fd = false) (x : Wire.Exchange α) (h : Host) :
    ∃ e, (Host.exchange fd x).run h = (.error e, h) := by
  rw [exchange_run]
  unfold Kernel.control Kernel.onOrdinary
  simp only [unwatched, Bool.not_false, if_true]
  split <;> exact ⟨_, rfl⟩

namespace Device

theorem version_records (card : l.card = some fd) :
    Records s l (version fd).run fun _ l' => l' = l := by
  have asked {α : Type} {x : Wire.Exchange α} (uses : x.Uses) :
      Records s l (explain (Host.exchange fd x) fun e => pure (.failed e) : Attempt VersionError α).run
        fun _ l' => l' = l :=
    .explain_same (uses.records card) fun _ => .pure rfl
  refine .attempt_same (asked Wire.Exchange.version_uses) fun first => ?_
  refine .attempt_same (asked (Wire.Exchange.versionName_uses _)) fun ⟨info, bytes⟩ => ?_
  dsimp only
  split <;> exact .pure rfl

theorem version_ordinary (unwatched : Kernel.isWatched fd = false) (h : Host) :
    ∃ e, (version fd).run h = (.error e, h) := by
  obtain ⟨e, eq⟩ := exchange_ordinary unwatched .version h
  refine ⟨.failed e, ?_⟩
  unfold version
  rw [run_bind_attempt, run_explain, eq]
  rfl

/-- What was opened is still open once it is asked for its driver, and only a card answers. -/
theorem version_keepsOpen {card : Card} (has : h.HasOpened s card) :
    Yields (version card.fd).run h fun outcome h' =>
      h'.HasOpened s card ∧ (outcome.isOk → h'.kernel.Audited s { card := some card.fd }) := by
  obtain ⟨opened, holder⟩ := has
  cases opened with
  | card audited =>
    obtain ⟨holders, _, audited', rfl⟩ := version_records (l := { card := some card.fd }) rfl h audited
    exact ⟨⟨.card audited', holders ▸ holder⟩, fun _ => audited'⟩
  | ordinary unwatched audited =>
    obtain ⟨e, eq⟩ := version_ordinary unwatched h
    unfold Yields
    rw [show (version card.fd).run h = _ from eq]
    exact ⟨⟨.ordinary unwatched audited, holder⟩, nofun⟩

theorem initDisplay_records (card : l.card = some fd) :
    Records s l (initDisplay fd).run fun _ l' => l' = l := by
  refine .attempt_same (.explain_same (Wire.Exchange.getResources_uses.records card) fun _ =>
    .pure rfl) fun resources => ?_
  split <;> exact .pure rfl

end Device

/-! ## Finding a card -/

namespace Card

theorem openAt_tidy (path : String) : OpensCard s (openAt path) := by
  intro h audited
  unfold openAt
  split
  · exact audited
  have called : Yields (Host.call (·.openCard path)).run h fun outcome h' =>
      Kernel.OpensOne s outcome h'.kernel := Kernel.openCard_audited audited path
  have explained : Yields (explain (Host.call (·.openCard path)) fun e =>
      pure (.card path e) : Attempt OpenError Int32).run h fun outcome h' =>
      Kernel.OpensOne s outcome h'.kernel := by
    refine called.bind fun outcome h' holds => ?_
    cases outcome <;> exact holds
  refine explained.attempt (fun fd h' opened => ⟨opened, ?_⟩) fun e h' audited' => audited'
  exact Table.get?_insert_self ..

end Card

namespace Probe

/-- What is to be shown of a search: a card that is found is open, and nothing else is. -/
def Finds (s : Surroundings) (found : Option Card) (h : Host) : Prop :=
  match found with
  | some card => h.HasOpened s card
  | none => h.kernel.Audited s {}

theorem tryCard_finds (driver path : String) (audited : h.kernel.Audited s {}) :
    Yields (tryCard driver path) h (Finds s) := by
  have givenUp {card : Card} {h : Host} (has : h.HasOpened s card) :
      Yields (do card.release; return none : HostM (Option Card)) h (Finds s) :=
    has.release.bind fun _ _ audited => audited
  refine (Card.openAt_tidy path h audited).bind fun outcome h₁ opened => ?_
  cases outcome with
  | error e => exact opened
  | ok card =>
    refine (Device.version_keepsOpen opened).bind fun told h₂ ⟨has, _⟩ => ?_
    cases told with
    | error e => exact givenUp has
    | ok info =>
      dsimp only
      split
      · exact has
      · exact givenUp has

theorem search_finds (driver : String) (n count : Nat) (audited : h.kernel.Audited s {}) :
    Yields (search driver n count) h (Finds s) := by
  induction count generalizing n h with
  | zero => exact audited
  | succ count ih =>
    refine (tryCard_finds driver (cardPath n) audited).bind fun found h' finds => ?_
    cases found with
    | some card => exact finds
    | none => exact ih (n + 1) finds

theorem readFramebuffers_records : Records s l readFramebuffers.run fun _ l' => l' = l := by
  have read : Records s l (Host.call (·.readProcFb)).run fun _ l' => l' = l :=
    call_records fun k audited => ⟨l, Kernel.readProcFb_audited audited, rfl⟩
  refine .attempt_same (.explain_same read fun _ => .pure rfl) fun bytes => ?_
  split <;> exact .pure rfl

theorem openDriving_tidy : OpensCard s openDriving := by
  intro h audited
  have read : Yields readFramebuffers.run h fun _ h' => h'.kernel.Audited s {} :=
    (readFramebuffers_records h audited).mono fun _ _ ⟨_, _, audited', same⟩ => same ▸ audited'
  refine read.attempt (fun text h₁ audited₁ => ?_) fun _ _ audited' => audited'
  split
  · next framebuffer _ =>
    split
    · next driver _ =>
      refine .lift (search_finds driver 0 maxCards audited₁) fun found h₂ finds => ?_
      cases found with
      | some card => exact finds.reported _
      | none => exact finds
    · exact audited₁
  · exact audited₁

end Probe

namespace Opener

/-- The usual openers close what they do not answer. -/
theorem ofConfig_tidy (config : DeviceConfig) : (ofConfig config).Tidy := by
  intro s h audited
  have opened : OpensCard s config.openCard := by
    unfold DeviceConfig.openCard
    split
    · exact Probe.openDriving_tidy
    · exact Card.openAt_tidy config.path
  refine (opened h audited).bind fun outcome h' holds => ?_
  cases outcome <;> exact holds

theorem Tidy.reporting {opener : Opener} (tidy : opener.Tidy) : opener.reporting.Tidy := by
  intro s h audited
  refine (tidy s h audited).attempt (fun card h' has => ?_) fun _ _ audited' => audited'
  exact has.reported _

end Opener

/-! ## Contexts -/

/-- A table of dumb-buffer backends makes one, or none. -/
theorem BackendTable.AllDumb.create_run {t : BackendTable} (dumb : t.AllDumb) (driver : String)
    (card : Card) (h : Host) : (t.create? driver card) h = (none, h) ∨
      ∃ event, (t.create? driver card) h = (some (.ok (.dumb card.fd)), h.reported event) := by
  unfold create?
  cases found : t.lookup? driver with
  | none => exact .inl rfl
  | some constructor =>
    obtain ⟨entry, listed, rfl⟩ := Option.map_eq_some_iff.1 found
    obtain ⟨driver', constructor⟩ := entry
    obtain rfl : constructor = BackendTable.dumb := dumb _ (List.mem_of_find?_eq_some listed)
    exact .inr ⟨_, rfl⟩

namespace Context

/-- A context that gets ready has its card open, with one holder and the dumb-buffer backend on it.
One that does not leaves nothing open. -/
theorem start_audited {opener : Opener} (tidy : opener.Tidy) {table : BackendTable}
    (dumb : table.AllDumb) (audited : h.kernel.Audited s {}) :
    Yields (start opener table).run h fun outcome h' =>
      match outcome with
      | .ok r => h'.kernel.Audited s { card := some r.card.fd } ∧
          h'.cardHolders.get? r.card.fd = some 1 ∧ r.backend = .dumb r.card.fd
      | .error _ => h'.kernel.Audited s {} := by
  have opened : Yields (explain opener fun reason => do
      Host.report (.openFailed reason)
      return .unavailable : Attempt StartFailure Card).run h fun outcome h' =>
      match outcome with
      | .ok card => h'.HasOpened s card
      | .error _ => h'.kernel.Audited s {} := by
    refine (tidy s h audited).bind fun outcome h' holds => ?_
    cases outcome <;> exact holds
  refine opened.attempt (fun card h₁ has => ?_) fun _ _ audited' => audited'
  -- A card that cannot be used is closed.
  have givenUp {h : Host} (event : LogEvent) (failure : StartFailure) (has : h.HasOpened s card) :
      Yields (do
        Host.report event
        card.release
        throw failure : Attempt StartFailure Ready).run h fun outcome h' =>
        match outcome with
        | .ok r => h'.kernel.Audited s { card := some r.card.fd } ∧
            h'.cardHolders.get? r.card.fd = some 1 ∧ r.backend = .dumb r.card.fd
        | .error _ => h'.kernel.Audited s {} :=
    .lift (x := Host.report event) (P := fun _ h' => h'.HasOpened s card) (has.reported event)
      fun _ _ has => .lift has.release fun _ _ audited' => audited'
  refine .lift (Device.version_keepsOpen has) fun told h₂ ⟨has, isCard⟩ => ?_
  cases told with
  | error e => exact givenUp _ _ has
  | ok info =>
    have audited₂ := isCard rfl
    refine .lift (x := table.create? info.name card) (P := fun made h₃ =>
      (made = none ∧ h₃ = h₂) ∨ ∃ event, made = some (.ok (.dumb card.fd)) ∧ h₃ = h₂.reported event)
      ?_ fun made h₃ holds => ?_
    · rcases dumb.create_run info.name card h₂ with eq | ⟨event, eq⟩
      · exact .inl (by rw [eq]; exact ⟨rfl, rfl⟩)
      · exact .inr ⟨event, by rw [eq]; exact ⟨rfl, rfl⟩⟩
    obtain ⟨rfl, rfl⟩ | ⟨event, rfl, rfl⟩ := holds
    · exact givenUp _ _ has
    · exact ⟨audited₂, has.holder, rfl⟩

theorem bringUp_records (card : l.card = some fd) :
    Records s l (bringUp fd).run fun _ l' => l' = l :=
  .explain_same (Device.initDisplay_records card) fun _ => (Records.report rfl).andThen fun _ =>
    .pure rfl

theorem send_records (card : l.card = some fd) {x : Wire.Exchange α} (uses : x.Uses) :
    Records s l (send fd x).run fun _ l' => l' = l :=
  .explain_same (uses.records card) fun _ => .pure rfl

end Context

end GraphicsBuffers

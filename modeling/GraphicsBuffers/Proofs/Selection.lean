import GraphicsBuffers.Proofs.CardLedger
import GraphicsBuffers.Proofs.Standing
import GraphicsBuffers.Proofs.Starting
import Mathlib.Data.List.Induction
/-!
# Which backend serves a card

A table comes from registrations that were made one after the other (`BackendTable.ofRegistrations`). It
lists a driver once, with the constructor that was registered last for just that name
(`BackendTable.IsLast`). A context that starts asks its card for its driver and runs that constructor with
that card. If there is none, or if it fails, the context says so and lets the card go (`Card.LetGo`), which
closes it unless others have got hold of it. `Client.backend_selected` puts this together.
-/

namespace GraphicsBuffers

/-! ## Registrations -/

namespace BackendTable

/-- The table after registrations, made one after the other. -/
def ofRegistrations (registrations : List (String × BackendConstructor)) : BackendTable :=
  registrations.foldl (fun t r => t.register r.1 r.2) {}

/-- The drivers that are listed. -/
def drivers (t : BackendTable) : List String := t.entries.map (·.1)

/-- The constructor was registered for the driver, and none was for the same driver after it. -/
def IsLast (registrations : List (String × BackendConstructor)) (driver : String)
    (make : BackendConstructor) : Prop :=
  ∃ before after, registrations = before ++ (driver, make) :: after ∧ ∀ r ∈ after, r.1 ≠ driver

variable {t : BackendTable} {driver name : String} {make make' : BackendConstructor}
  {registrations : List (String × BackendConstructor)}

/-! ### One registration -/

theorem drivers_register (t : BackendTable) (driver : String) (make : BackendConstructor) :
    (t.register driver make).drivers = t.drivers.filter (fun name => decide (name ≠ driver)) ++ [driver] := by
  simp only [drivers, register, List.map_append, List.filter_map]
  rfl

theorem nodup_register (nodup : t.drivers.Nodup) (driver : String) (make : BackendConstructor) :
    (t.register driver make).drivers.Nodup := by
  rw [drivers_register, List.nodup_append]
  refine ⟨nodup.filter _, List.nodup_singleton driver, fun name mem last is => ?_⟩
  rw [List.mem_singleton.1 is]
  exact of_decide_eq_true (List.mem_filter.1 mem).2

theorem mem_drivers_register :
    name ∈ (t.register driver make).drivers ↔ name ∈ t.drivers ∨ name = driver := by
  rw [drivers_register]
  by_cases same : name = driver <;> simp [same]

/-- The constructor that is registered is the one that is found. -/
theorem lookup_register_self : (t.register driver make).lookup? driver = some make := by
  have others : (t.entries.filter fun e => decide (e.1 ≠ driver)).find?
      (fun e => decide (e.1 = driver)) = none := by
    refine List.find?_eq_none.2 fun e mem => ?_
    simpa using (List.mem_filter.1 mem).2
  rw [lookup?, register, List.find?_append, others]
  simp

/-- What is listed for other drivers stays. -/
theorem lookup_register_of_ne (other : name ≠ driver) :
    (t.register driver make).lookup? name = t.lookup? name := by
  have kept : (t.entries.filter fun e => decide (e.1 ≠ driver)).find? (fun e => decide (e.1 = name)) =
      t.entries.find? fun e => decide (e.1 = name) := by
    rw [List.find?_filter]
    congr 1
    funext e
    by_cases same : e.1 = name <;> simp [same, other]
  rw [lookup?, register, List.find?_append, kept, List.find?_singleton,
    if_neg (by simpa using fun same => other same.symm), Option.or_none]
  rfl

theorem lookup_eq_none : t.lookup? driver = none ↔ driver ∉ t.drivers := by
  rw [lookup?, Option.map_eq_none_iff, List.find?_eq_none, drivers, List.mem_map]
  simp only [decide_eq_true_eq, not_exists, not_and]

/-! ### All registrations -/

theorem ofRegistrations_concat (registrations : List (String × BackendConstructor))
    (r : String × BackendConstructor) :
    ofRegistrations (registrations ++ [r]) = (ofRegistrations registrations).register r.1 r.2 := by
  unfold ofRegistrations
  rw [List.foldl_append]
  rfl

/-- The table in use unless another is given comes from registrations, too. -/
theorem standard_eq : standard = ofRegistrations (dumbDrivers.map fun driver => (driver, dumb)) := by
  unfold standard ofRegistrations
  rw [List.foldl_map]

/-- No driver is listed twice. -/
theorem nodup_drivers (registrations : List (String × BackendConstructor)) :
    (ofRegistrations registrations).drivers.Nodup := by
  induction registrations using List.reverseRecOn with
  | nil => exact List.nodup_nil
  | append_singleton registrations r ih =>
    rw [ofRegistrations_concat]
    exact nodup_register ih r.1 r.2

/-- The drivers that are listed are those for which there were registrations. -/
theorem mem_drivers :
    driver ∈ (ofRegistrations registrations).drivers ↔ ∃ r ∈ registrations, r.1 = driver := by
  induction registrations using List.reverseRecOn with
  | nil => exact ⟨nofun, nofun⟩
  | append_singleton registrations r ih =>
    rw [ofRegistrations_concat, mem_drivers_register, ih]
    simp only [List.mem_append, List.mem_singleton, or_and_right, exists_or, exists_eq_left]
    rw [eq_comm]

/-- None is found for a driver for which none was registered. -/
theorem lookup_unregistered :
    (ofRegistrations registrations).lookup? driver = none ↔ ∀ r ∈ registrations, r.1 ≠ driver := by
  rw [lookup_eq_none, mem_drivers, not_exists]
  simp only [not_and, ne_eq]

theorem isLast_concat : IsLast (registrations ++ [(name, make')]) driver make ↔
    (name = driver ∧ make' = make) ∨ (name ≠ driver ∧ IsLast registrations driver make) := by
  constructor
  · -- Either nothing came after it, and it is the new registration, or what came after ends with that.
    rintro ⟨before, after, eq, none⟩
    rcases List.eq_nil_or_concat after with rfl | ⟨after, r, rfl⟩
    · cases (List.append_inj' eq rfl).2
      exact .inl ⟨rfl, rfl⟩
    · rw [List.concat_eq_append] at eq none
      have parts : registrations ++ [(name, make')] = (before ++ (driver, make) :: after) ++ [r] := by
        rw [eq, List.append_assoc, List.cons_append]
      obtain ⟨first, last⟩ := List.append_inj' parts rfl
      cases last
      refine .inr ⟨none _ (List.mem_append_right _ List.mem_cons_self), before, after, first, ?_⟩
      exact fun r mem => none r (List.mem_append_left _ mem)
  · rintro (⟨rfl, rfl⟩ | ⟨other, before, after, rfl, none⟩)
    · exact ⟨registrations, [], rfl, nofun⟩
    · refine ⟨before, after ++ [(name, make')], by rw [List.append_assoc, List.cons_append], ?_⟩
      intro r mem
      rcases List.mem_append.1 mem with mem | mem
      · exact none r mem
      · rw [List.mem_singleton.1 mem]
        exact other

/-- Of the constructors registered for a driver, the last is found. -/
theorem lookup_eq_some :
    (ofRegistrations registrations).lookup? driver = some make ↔ IsLast registrations driver make := by
  -- The newest registration decides for its own driver and for no other, so it is taken off first.
  induction registrations using List.reverseRecOn with
  | nil => exact ⟨nofun, fun ⟨before, after, eq, _⟩ => by simp at eq⟩
  | append_singleton registrations r ih =>
    rw [ofRegistrations_concat, isLast_concat]
    by_cases same : r.1 = driver
    · rw [← same, lookup_register_self]
      simp
    · rw [lookup_register_of_ne fun eq => same eq.symm, ih]
      simp [same]

end BackendTable

/-! ## Starting on a card -/

/-- Only a card tells its driver, and calls on cards are recorded. -/
theorem Device.version_watched {fd : Int32} {h h' : Host} {info : DriverInfo}
    (told : (version fd).run h = (.ok info, h')) : Kernel.isWatched fd := by
  by_contra unwatched
  obtain ⟨e, eq⟩ := version_ordinary (Bool.not_eq_true _ ▸ unwatched) h
  cases eq.symm.trans told

/-- Once the card has told its driver, the constructor that is listed for it decides. -/
theorem Context.start_told {opener : Opener} {h h₁ h₂ : Host} {card : Card} {info : DriverInfo}
    (table : BackendTable) (opened : opener.run h = (.ok card, h₁))
    (told : (Device.version card.fd).run h₁ = (.ok info, h₂)) :
    (start opener table).run h = match table.lookup? info.name with
      | none => (.error (.unsupported info.name),
          (card.release.run (h₂.reported (.unsupportedDriver info.name))).2)
      | some make => match (make card).run h₂ with
        | (.ok backend, h') =>
          (.ok { card, backend }, h'.reported (.backendCreated backend.name info.name))
        | (.error e, h') =>
          (.error .unavailable, (card.release.run (h'.reported (.backendFailed info.name e))).2) := by
  rw [start_run, opened]
  dsimp only
  rw [told]
  dsimp only
  rw [table.create_run]
  cases table.lookup? info.name with
  | none => rfl
  | some make =>
    dsimp only
    rcases (make card).run h₂ with ⟨e | backend, h'⟩ <;> rfl

namespace Client

open BackendTable (IsLast)

variable {c : Client} {context : Context}

/-- The context does not start. Whichever call tries, it ends with this error, and the card is let go. -/
structure TurnsDown (c : Client) (card : Card) (h : Host) (e : Error) : Prop where
  look : c.look.1 = .error e
  answers : ∀ op : Operation, op.looks → (c.step op).1 = .error e
  letsGo : ∀ op : Operation, op.looks → card.LetGo h (c.step op).2.process.host

/-- What comes of starting a context on a card, where `h` is the host once the card has told its driver. -/
structure Selects (registrations : List (String × BackendConstructor)) (c : Client) (card : Card)
    (driver : String) (h : Host) : Prop where
  /-- The constructor that was registered last for the driver is run with the card, and calls go on with the
  backend that it makes. Nothing else happens on the host. -/
  served : ∀ make, IsLast registrations driver make → ∀ backend h', (make card).run h = (.ok backend, h') →
    let started := c.started (.ok { card, backend }, h'.reported (.backendCreated backend.name driver))
    c.look = (.ok { card, backend }, started) ∧
      ∀ op : Operation, op.looks → c.step op = started.step op
  /-- If that constructor fails, there is no other. -/
  failed : ∀ make, IsLast registrations driver make → ∀ e h', (make card).run h = (.error e, h') →
    c.TurnsDown card (h'.reported (.backendFailed driver e)) .backendUnavailable
  unlisted : (∀ r ∈ registrations, r.1 ≠ driver) →
    c.TurnsDown card (h.reported (.unsupportedDriver driver)) (.unsupportedBackend driver)
  /-- If only the context holds the card, and constructors that fail do not keep it, then it is closed for
  either reason. -/
  closed : h.cardHolders.get? card.fd = some 1 → (BackendTable.ofRegistrations registrations).LetsGo →
    ∀ e, c.look.1 = .error e → ∀ op : Operation, op.looks →
      ∃ h', card.Closes h' (c.step op).2.process.host

/-- A context that does not start turns down the calls that need it. -/
theorem turnsDown_of_start {card : Card} {f : StartFailure} {h : Host} (watched : Kernel.isWatched card.fd)
    (known : c.context? = some context) (untried : context.state = .untried)
    (start : (Context.start context.opener context.table).run c.process.host =
      (.error f, (card.release.run h).2)) : c.TurnsDown card h f.error := by
  have look : c.look = (.error f.error, c.started (.error f, (card.release.run h).2)) := by
    rw [look_untried known untried, start]
    rfl
  have step {op : Operation} (looks : op.looks) := step_unready looks look
  refine ⟨congrArg Prod.fst look, fun op looks => by rw [step looks], fun op looks => ?_⟩
  rw [step looks]
  exact card.release_letGo h watched

section Start

variable {registrations : List (String × BackendConstructor)} {card : Card} {info : DriverInfo}
  {h₁ h₂ : Host}

/-- If the context does not start, a card that only it holds is closed. -/
theorem closes_of_unready (known : c.context? = some context) (untried : context.state = .untried)
    (opened : context.opener.run c.process.host = (.ok card, h₁)) (watched : Kernel.isWatched card.fd)
    (alone : h₁.cardHolders.get? card.fd = some 1) (letsGo : context.table.LetsGo) {e : Error}
    (unready : c.look.1 = .error e) {op : Operation} (looks : op.looks) :
    ∃ h', card.Closes h' (c.step op).2.process.host := by
  have look := look_untried known untried
  rcases started : (Context.start context.opener context.table).run c.process.host with ⟨f | r, h'⟩
  · rw [started] at look
    obtain ⟨reason, h₁', opened', -⟩ | ⟨card', h₁', h₂, opened', gives, rfl⟩ := Context.start_failed started
    · cases opened.symm.trans opened'
    · cases opened.symm.trans opened'
      refine ⟨h₂, ?_⟩
      rw [step_unready looks look, gives.closes letsGo alone]
      exact card.closed_closes h₂ watched
  · rw [look, started] at unready
    cases unready

/-- What is found in the table decides how the context starts. -/
theorem selects_of_told {opener : Opener}
    (known : c.context? = some ⟨opener, .ofRegistrations registrations, .untried⟩)
    (opened : opener.run c.process.host = (.ok card, h₁))
    (told : (Device.version card.fd).run h₁ = (.ok info, h₂)) :
    c.Selects registrations card info.name h₂ := by
  have watched := Device.version_watched told
  have start := Context.start_told (.ofRegistrations registrations) opened told
  refine ⟨fun make last backend h' made => ?_, fun make last e h' made => ?_, fun unlisted => ?_,
    fun alone letsGo e unready op looks => ?_⟩
  · rw [BackendTable.lookup_eq_some.2 last] at start
    dsimp only at start
    rw [made] at start
    have look := look_untried known rfl
    rw [start] at look
    exact ⟨look, fun op looks => by rw [step_look looks, look]⟩
  · rw [BackendTable.lookup_eq_some.2 last] at start
    dsimp only at start
    rw [made] at start
    exact turnsDown_of_start watched known rfl start
  · rw [BackendTable.lookup_unregistered.2 unlisted] at start
    exact turnsDown_of_start watched known rfl start
  · have holders := Device.version_holders card.fd h₁
    rw [told] at holders
    rw [holders] at alone
    exact closes_of_unready known rfl opened watched alone letsGo unready looks

/-- A card that is handed over is still held once when it has told its driver. -/
theorem held_of_handsOver {opener : Opener} {h : Host} (handsOver : opener.HandsOver h)
    (opened : opener.run h = (.ok card, h₁)) (told : (Device.version card.fd).run h₁ = (.ok info, h₂)) :
    h₂.cardHolders.get? card.fd = some 1 := by
  have same := Device.version_holders card.fd h₁
  rw [told] at same
  rw [same]
  exact handsOver card h₁ opened

end Start

/-- Of the constructors that were registered for just the name of its driver, a card is served by the last.
Without one, or if that fails, calls end with an error that says so, and the card is let go. -/
theorem backend_selected (registrations : List (String × BackendConstructor)) :
    let table := BackendTable.ofRegistrations registrations
    table.drivers.Nodup ∧
    (∀ driver make, table.lookup? driver = some make ↔ IsLast registrations driver make) ∧
    (∀ driver, table.lookup? driver = none ↔ ∀ r ∈ registrations, r.1 ≠ driver) ∧
    (∀ (c : Client) (opener : Opener), c.context? = some ⟨opener, table, .untried⟩ →
      ∀ card info h₁ h₂, opener.run c.process.host = (.ok card, h₁) →
        (Device.version card.fd).run h₁ = (.ok info, h₂) →
        c.Selects registrations card info.name h₂ ∧
          (opener.HandsOver c.process.host → h₂.cardHolders.get? card.fd = some 1)) ∧
    ∀ (config : DeviceConfig) (h : Host), h.kernel.Sound →
      (Opener.ofConfig config).HandsOver h ∧ (Opener.ofConfig config).reporting.HandsOver h := by
  refine ⟨BackendTable.nodup_drivers registrations, fun _ _ => BackendTable.lookup_eq_some,
    fun _ => BackendTable.lookup_unregistered, ?_, fun config h sound => ?_⟩
  · intro c opener known card info h₁ h₂ opened told
    exact ⟨selects_of_told known opened told, fun handsOver => held_of_handsOver handsOver opened told⟩
  · have once := Opener.ofConfig_opensOnce config
    exact ⟨once.handsOver sound, once.reporting.handsOver sound⟩

/-- A host with one card, and `vkms` behind it. -/
def besideVkms : Host :=
  let w : World := { cards := [{ driver := [0x76, 0x6b, 0x6d, 0x73] }] }
  (w.process {}).host

/-- A constructor that makes no backend. -/
def noBackend : BackendConstructor := fun _ => throw .outOfMemory

/-- A later constructor replaces an earlier one, for better or for worse, and names that only resemble that
of the driver do not count. -/
theorem vkms_selected :
    let opener : Opener := (Opener.ofConfig {}).reporting
    let card : Card := ⟨1000, "/dev/dri/card0"⟩
    let told := ((Device.version 1000).run (opener.run besideVkms).2).2
    let client (registrations : List (String × BackendConstructor)) : Client :=
      start besideVkms opener (.ofRegistrations registrations)
    let worse := BackendTable.dumbDrivers.map (fun driver => (driver, BackendTable.dumb)) ++ [("vkms", noBackend)]
    let better := [("vkms", noBackend), ("vkms", BackendTable.dumb), ("VKMS", noBackend)]
    let similar := [("vkm", BackendTable.dumb), ("VKMS", BackendTable.dumb)]
    (opener.run besideVkms).1 = .ok card ∧
      ((Device.version 1000).run (opener.run besideVkms).2).1 = .ok ⟨1, 0, 0, "vkms"⟩ ∧
      (∀ registrations, (client registrations).Selects registrations card "vkms" told) ∧
      opener.HandsOver besideVkms ∧ told.cardHolders.get? 1000 = some 1 ∧
      (client better).look.1 = .ok { card, backend := .dumb 1000 } ∧
      BackendTable.ofRegistrations worse = BackendTable.standard.register "vkms" noBackend ∧
      ((client worse).step (.ensureReady false)).1 = .error .backendUnavailable ∧
      card.Closes (told.reported (.backendFailed "vkms" .outOfMemory))
        ((client worse).step (.ensureReady false)).2.process.host ∧
      (BackendTable.ofRegistrations similar).LetsGo ∧
      ((client similar).step .authMagic).1 = .error (.unsupportedBackend "vkms") ∧
      ∃ h, card.Closes h ((client similar).step .authMagic).2.process.host := by
  intro opener card told client worse better similar
  have opened : opener.run besideVkms = (.ok card, (opener.run besideVkms).2) :=
    Prod.ext (by decide +kernel) rfl
  have said : (Device.version card.fd).run (opener.run besideVkms).2 = (.ok ⟨1, 0, 0, "vkms"⟩, told) :=
    Prod.ext (by decide +kernel) rfl
  have selects (registrations : List (String × BackendConstructor)) :=
    (backend_selected registrations).2.2.2.1 (client registrations) opener rfl _ _ _ _ opened said
  have handsOver := ((backend_selected []).2.2.2.2 {} besideVkms (World.kernel_fresh _).sound).2
  have alone := (selects []).2 handsOver
  refine ⟨congrArg Prod.fst opened, congrArg Prod.fst said, fun registrations => (selects registrations).1,
    handsOver, alone, ?better, ?replaced, ?worse⟩
  case better =>
    have last : IsLast better "vkms" BackendTable.dumb := ⟨[_], [_], rfl, by simp⟩
    exact congrArg Prod.fst ((selects better).1.served _ last _ told rfl).1
  case replaced =>
    rw [BackendTable.ofRegistrations_concat, BackendTable.standard_eq]
  case worse =>
    have down := (selects worse).1.failed noBackend ⟨_, [], rfl, nofun⟩ .outOfMemory told rfl
    have down' := (selects similar).1.unlisted (by decide)
    have few : (told.cardHolders.get? card.fd).getD 0 ≤ 1 := by rw [alone, Option.getD_some]
    have dumb : (BackendTable.ofRegistrations similar).AllDumb := by
      have none : ({} : BackendTable).AllDumb := fun _ mem => nomatch mem
      exact (none.register "vkm").register "VKMS"
    exact ⟨down.answers _ rfl, (down.letsGo _ rfl).alone few, dumb.letsGo, down'.answers _ rfl,
      (selects similar).1.closed alone dumb.letsGo _ down'.look _ rfl⟩

end Client

end GraphicsBuffers

import GraphicsBuffers.Proofs.CardLedger
import GraphicsBuffers.Proofs.DumbBuffers
import GraphicsBuffers.Proofs.Traced

/-!
# Computations and the trace

Every computation on the host leads the kernel on (`Leads`): the trace only grows, it goes on telling what
is there, and what is gone does not come back. That is so whatever fails, and whether or not anything is
held. A context is made ready, and the dumb-buffer backend works, by such computations.
-/

namespace GraphicsBuffers

open Wire Wire.Exchange

variable {ε δ α β : Type}

/-! ## Computations on the host -/

/-- A computation that leads the kernel on. -/
def Leads (x : HostM α) : Prop := ∀ h : Host, h.kernel.Leads (x h).2.kernel

namespace Leads

theorem pure (a : α) : Leads (Pure.pure a) := fun h => .refl h.kernel

theorem report (event : LogEvent) : Leads (Host.report event) := fun h => .refl h.kernel

theorem bind {x : HostM α} {f : α → HostM β} (first : Leads x) (second : ∀ a, Leads (f a)) :
    Leads (x >>= f) :=
  fun h => (first h).trans (second _ _)

/-- What follows depends on how a computation came out. -/
theorem cases {x : HostM (Except ε α)} {f : Except ε α → HostM β} (first : Leads x)
    (ok : ∀ a, Leads (f (.ok a))) (error : ∀ e, Leads (f (.error e))) : Leads (x >>= f) := by
  refine first.bind fun outcome => ?_
  cases outcome with
  | ok a => exact ok a
  | error e => exact error e

theorem bind_attempt {x : Attempt ε α} {f : α → Attempt ε β} (first : Leads x.run)
    (second : ∀ a, Leads (f a).run) : Leads (x >>= f).run := by
  apply Leads.cases (f := ExceptT.bindCont f) first
  · exact second
  · exact fun e => .pure _

theorem lift {x : HostM α} (leads : Leads x) : Leads (liftM x : Attempt ε α).run :=
  leads.bind fun _ => .pure _

theorem explain {x : Attempt ε α} {f : ε → HostM δ} (first : Leads x.run)
    (second : ∀ e, Leads (f e)) : Leads (GraphicsBuffers.explain x f).run := by
  apply first.cases
  · exact fun a => .pure _
  · exact fun e => (second e).bind fun _ => .pure _

end Leads

theorem call_leads {f : Kernel → Except ε α × Kernel} (leads : ∀ k : Kernel, k.Leads (f k).2) :
    Leads (Host.call f).run :=
  fun h => leads h.kernel

theorem Wire.Exchange.Told.exchange_leads {x : Exchange α} (told : x.Told) (fd : Int32) :
    Leads (Host.exchange fd x).run := by
  intro h
  have run : ((Host.exchange fd x).run h).2.kernel = _ :=
    congrArg (fun result => result.2.kernel) (exchange_run x h)
  exact run.symm ▸ told.leads h.kernel fd

/-! ### Cards -/

namespace Card

theorem hold_leads (card : Card) : Leads card.hold := fun h => .refl h.kernel

theorem release_leads (card : Card) : Leads card.release := by
  intro h
  have run := congrArg Host.kernel (card.release_run h)
  refine Eq.subst (motive := fun k => h.kernel.Leads k) run.symm ?_
  split
  · exact .refl h.kernel
  · exact h.kernel.close_leads card.fd

theorem openAt_leads (path : String) : Leads (openAt path).run := by
  unfold openAt
  split
  · exact .pure _
  · have opened : Leads (explain (Host.call (·.openCard path)) fun e =>
        pure (.card path e) : Attempt OpenError Int32).run :=
      .explain (call_leads fun k => k.openCard_leads path) fun _ => .pure _
    exact opened.bind_attempt fun fd h => .refl h.kernel

end Card

namespace Device

theorem version_leads (fd : Int32) : Leads (version fd).run := by
  have asked {α : Type} {x : Exchange α} (told : x.Told) :
      Leads (explain (Host.exchange fd x) fun e => pure (.failed e) : Attempt VersionError α).run :=
    .explain (told.exchange_leads fd) fun _ => .pure _
  refine .bind_attempt (asked version_uses.told) fun first => ?_
  refine .bind_attempt (asked (versionName_uses _).told) fun ⟨info, bytes⟩ => ?_
  dsimp only
  split <;> exact .pure _

theorem initDisplay_leads (fd : Int32) : Leads (initDisplay fd).run := by
  refine .bind_attempt (.explain (getResources_uses.told.exchange_leads fd) fun _ => .pure _)
    fun resources => ?_
  split <;> exact .pure _

end Device

namespace Probe

theorem tryCard_leads (driver path : String) : Leads (tryCard driver path) := by
  have givenUp (card : Card) : Leads (do card.release; return none : HostM (Option Card)) :=
    card.release_leads.bind fun _ => .pure _
  refine (Card.openAt_leads path).bind fun outcome => ?_
  cases outcome with
  | error e => exact .pure _
  | ok card =>
    refine (Device.version_leads card.fd).bind fun told => ?_
    cases told with
    | error e => exact givenUp card
    | ok info =>
      dsimp only
      split
      · exact .pure _
      · exact givenUp card

theorem search_leads (driver : String) (n count : Nat) : Leads (search driver n count) := by
  induction count generalizing n with
  | zero => exact .pure _
  | succ count ih =>
    refine (tryCard_leads driver (cardPath n)).bind fun found => ?_
    cases found with
    | some card => exact .pure _
    | none => exact ih (n + 1)

theorem readFramebuffers_leads : Leads readFramebuffers.run := by
  have read : Leads (Host.call (·.readProcFb)).run := call_leads fun k => k.readProcFb_leads
  refine .bind_attempt (.explain read fun _ => .pure _) fun bytes => ?_
  split <;> exact .pure _

theorem openDriving_leads : Leads openDriving.run := by
  refine .bind_attempt readFramebuffers_leads fun text => ?_
  split
  · next framebuffer _ =>
    split
    · next driver _ =>
      refine .bind_attempt (search_leads driver 0 maxCards).lift fun found => ?_
      cases found with
      | some card => exact .bind_attempt (Leads.report _).lift fun _ => .pure _
      | none => exact .pure _
    · exact .pure _
  · exact .pure _

end Probe

/-- An opener that leads the kernel on. -/
def Opener.Leads (opener : Opener) : Prop := GraphicsBuffers.Leads opener.run

namespace Opener

theorem ofConfig_leads (config : DeviceConfig) : (ofConfig config).Leads := by
  have opened : GraphicsBuffers.Leads config.openCard.run := by
    unfold DeviceConfig.openCard
    split
    · exact Probe.openDriving_leads
    · exact Card.openAt_leads config.path
  exact .explain opened fun _ => .pure _

theorem Leads.reporting {opener : Opener} (leads : opener.Leads) : opener.reporting.Leads :=
  .bind_attempt leads fun _ => .bind_attempt (GraphicsBuffers.Leads.report _).lift fun _ => .pure _

end Opener

/-! ### Buffers -/

theorem Mapping.map_leads (fd : Int32) (offset length : UInt64) (writable : Bool) :
    Leads (Mapping.map fd offset length writable).run := by
  unfold Mapping.map
  split
  · exact .pure _
  · have mapped : Leads (explain (Host.call (·.map fd offset length writable)) fun e =>
        pure (.failed e) : Attempt MapError Nat).run :=
      .explain (call_leads fun k => k.map_leads fd offset length writable) fun _ => .pure _
    exact mapped.bind_attempt fun _ => .pure _

theorem Mapping.unmap_leads (m : Mapping) : Leads m.unmap :=
  (call_leads fun k => k.unmap_leads m.id m.length).cases (fun _ => .pure _) fun _ => .report _

namespace Dumb

variable (fd : Int32)

theorem dmaBufSize_leads (d : Descriptor) (dmabuf : Int32) : Leads (dmaBufSize d dmabuf).run := by
  refine .bind_attempt (call_leads fun k => k.seekEnd_leads dmabuf).lift fun outcome => ?_
  cases outcome <;> dsimp only
  case ok offset =>
    split
    · exact .pure _
    · split <;> exact .pure _
  case error e => split <;> exact .pure _

theorem openPrime_leads (d : Descriptor) (dmabuf : Int32) : Leads (openPrime fd d dmabuf).run := by
  have flags : Leads (explain (Host.call (·.descriptorFlags dmabuf)) fun e => do
      Host.report (.invalidDmaBuf dmabuf e)
      return .control e : Attempt BackendError Unit).run :=
    .explain (call_leads fun k => k.descriptorFlags_leads dmabuf) fun e =>
      (Leads.report _).bind fun _ => .pure _
  refine .bind_attempt flags fun _ => ?_
  refine .bind_attempt (dmaBufSize_leads d dmabuf) fun size => ?_
  refine .bind_attempt (.explain ((primeFdToHandle_told dmabuf).exchange_leads fd) fun _ => .pure _)
    fun handle => ?_
  exact .pure _

theorem openMemory_leads (d : Descriptor) (memory : MemoryRef) :
    Leads (openMemory fd d memory).run := by
  have finished (opened : UInt32 × UInt64) : Leads (do
      Host.report (.objectOpened memory opened.1)
      return { handle := opened.1, size := opened.2, stride := d.stride, memory, imported := true } :
        Attempt BackendError BackendBuffer).run :=
    .bind_attempt (Leads.report _).lift fun _ => .pure _
  cases memory with
  | name n =>
    have opened : Leads (openName fd n).run :=
      .bind_attempt (.explain ((gemOpen_told n).exchange_leads fd) fun _ => .pure _) fun _ => .pure _
    exact .bind_attempt opened finished
  | prime dmabuf => exact .bind_attempt (openPrime_leads fd d dmabuf) finished

theorem discard_leads (handle : UInt32) : Leads (discard fd handle) :=
  ((destroyDumb_told handle).exchange_leads fd).cases (fun _ => .pure _) fun _ => .report _

theorem create_leads (d : Descriptor) : Leads (create fd d).run := by
  unfold create
  split
  · refine .bind_attempt (.explain ((createDumb_told _ _ _).exchange_leads fd) fun _ => .pure _)
      fun dumb => ?_
    refine .bind_attempt (.explain ((gemFlink_uses dumb.handle).told.exchange_leads fd) fun e => ?_)
      fun name => .pure _
    exact (Leads.report _).bind fun _ => (discard_leads fd dumb.handle).bind fun _ => .pure _
  · exact .pure _

theorem allocate_leads (d : Descriptor) : Leads (allocate fd d).run := by
  unfold allocate
  split
  · exact openMemory_leads fd d _
  · exact create_leads fd d

theorem freeHandle_leads (b : BackendBuffer) : Leads (freeHandle fd b) := by
  have given : Leads (Host.exchange fd
      (if b.imported then .gemClose b.handle else .destroyDumb b.handle)).run := by
    split
    · exact (gemClose_told b.handle).exchange_leads fd
    · exact (destroyDumb_told b.handle).exchange_leads fd
  exact given.cases (fun _ => .pure _) fun _ => .report _

theorem free_leads (b : BackendBuffer) : Leads (free fd b) := by
  unfold free
  cases b.mapping with
  | none => exact freeHandle_leads fd b
  | some m => exact m.unmap_leads.bind fun _ => freeHandle_leads fd b

theorem mapWhole_leads (b : BackendBuffer) : Leads (mapWhole fd b).run := by
  refine .bind_attempt (.explain ((mapDumb_uses b.handle).told.exchange_leads fd) fun _ => .pure _)
    fun offset => ?_
  exact .explain (Mapping.map_leads fd offset b.size true) fun _ => .pure _

theorem map_leads (b : BackendBuffer) : Leads ((Dumb.map fd).run.run b) := by
  intro h
  have mapped := mapWhole_leads fd b h
  rw [map_run]
  cases b.mapping with
  | some m => exact .refl h.kernel
  | none =>
    unfold ExceptT.run at mapped
    dsimp only
    rcases eq : (mapWhole fd b).run h with ⟨_ | m, h'⟩ <;>
      rw [show mapWhole fd b h = _ from eq] at mapped <;> exact mapped

theorem unmap_leads (b : BackendBuffer) : Leads (Dumb.unmap.run b) := by
  intro h
  rw [unmap_run]
  split
  · exact .refl h.kernel
  split
  · cases b.mapping with
    | some m => exact m.unmap_leads h
    | none => exact .refl h.kernel
  · exact .refl h.kernel

end Dumb

/-! ### Contexts -/

namespace Context

theorem start_leads {opener : Opener} (leads : opener.Leads) {table : BackendTable}
    (dumb : table.AllDumb) : Leads (start opener table).run := by
  have opened : Leads (explain opener fun reason => do
      Host.report (.openFailed reason)
      return .unavailable : Attempt StartFailure Card).run :=
    .explain leads fun _ => (Leads.report _).bind fun _ => .pure _
  refine .bind_attempt opened fun card => ?_
  have givenUp (event : LogEvent) (failure : StartFailure) : Leads (do
      Host.report event
      card.release
      throw failure : Attempt StartFailure Ready).run :=
    .bind_attempt (Leads.report _).lift fun _ => .bind_attempt card.release_leads.lift fun _ => .pure _
  refine .bind_attempt (Device.version_leads card.fd).lift fun told => ?_
  cases told with
  | error e => exact givenUp _ _
  | ok info =>
    have made : Leads (table.create? info.name card) := by
      intro h
      rcases dumb.create_run info.name card h with eq | ⟨event, eq⟩ <;> rw [eq] <;>
        exact .refl h.kernel
    refine .bind_attempt made.lift fun made => ?_
    match made with
    | some (.ok backend) => exact .pure _
    | some (.error e) => exact givenUp _ _
    | none => exact givenUp _ _

/-- What serves a context that is started is the dumb-buffer backend. -/
theorem start_dumb {opener : Opener} {table : BackendTable} (dumb : table.AllDumb) {h h' : Host}
    {r : Ready} (eq : (start opener table).run h = (.ok r, h')) : r.backend = .dumb r.card.fd := by
  have served : Yields (start opener table).run h fun outcome _ =>
      ∀ r, outcome = .ok r → r.backend = .dumb r.card.fd := by
    have opened : Yields (explain opener fun reason => do
        Host.report (.openFailed reason)
        return .unavailable : Attempt StartFailure Card).run h fun _ _ => True := trivial
    refine Yields.attempt opened (fun card h₁ _ => ?_) fun _ _ _ => nofun
    have told : Yields (Device.version card.fd).run h₁ fun _ _ => True := trivial
    refine .lift told fun told h₂ _ => ?_
    cases told with
    | error e => exact nofun
    | ok info =>
      refine .lift (x := table.create? info.name card) (P := fun made _ =>
        made = none ∨ made = some (.ok (.dumb card.fd))) ?_ fun made h₃ holds => ?_
      · rcases dumb.create_run info.name card h₂ with eq | ⟨event, eq⟩
        · exact .inl (congrArg Prod.fst eq)
        · exact .inr (congrArg Prod.fst eq)
      · obtain rfl | rfl := holds
        · exact nofun
        · rintro _ ⟨⟩
          rfl
  unfold Yields at served
  rw [eq] at served
  exact served r rfl

theorem bringUp_leads (fd : Int32) : Leads (bringUp fd).run :=
  .explain (Device.initDisplay_leads fd) fun _ => (Leads.report _).bind fun _ => .pure _

theorem send_leads (fd : Int32) {x : Exchange α} (told : x.Told) : Leads (send fd x).run :=
  .explain (told.exchange_leads fd) fun _ => .pure _

end Context

end GraphicsBuffers

import GraphicsBuffers.Proofs.Aside
import GraphicsBuffers.Proofs.Atomicity
/-!
# Buffers do not see what was recorded

What is done with a buffer object comes out the same on two hosts that differ only in what was recorded, if
its backend does not see the difference (`Backend.Blind`). The dumb-buffer backend does not.
-/

namespace GraphicsBuffers

open Host (call_blind exchange_blind report_blind)

variable {ε α : Type}

/-- A backend that does not see what was recorded. -/
structure Backend.Blind (backend : Backend) : Prop where
  allocate : ∀ d, GraphicsBuffers.Blind Host.Aside (backend.allocate d).run
  free : ∀ b, GraphicsBuffers.Blind Host.Aside (backend.free b)
  map : ∀ region write b, GraphicsBuffers.Blind Host.Aside ((backend.map region write).run.run b)
  unmap : ∀ b, GraphicsBuffers.Blind Host.Aside (backend.unmap.run b)
  planes : ∀ h h', h.Aside h' → backend.planes h' = backend.planes h

/-! ## Cards and mappings -/

namespace Card

theorem hold_blind (card : Card) : Blind Host.Aside card.hold := by
  rintro h h' ⟨kernel, holders, script⟩
  refine ⟨rfl, kernel, ?_, script⟩
  exact congrArg (fun t : Table Int32 Nat => t.insert card.fd ((t.get? card.fd).getD 0 + 1)) holders

theorem release_blind (card : Card) : Blind Host.Aside card.release := by
  intro h h' ⟨kernel, holders, script⟩
  have run := card.release_run h
  have run' := card.release_run h'
  rw [StateT.run] at run run'
  refine ⟨rfl, ?_⟩
  rw [run, run', holders]
  split
  · exact ⟨kernel, rfl, script⟩
  · refine ⟨(Kernel.close_blind card.fd _ _ kernel).2, ?_, script⟩
    exact congrArg (Table.erase · card.fd) holders

end Card

namespace Mapping

theorem map_blind (fd : Int32) (offset length : UInt64) (writable : Bool) :
    Blind Host.Aside (map fd offset length writable).run := by
  unfold map
  split
  · exact .pure _
  · have mapped : Blind Host.Aside (explain (Host.call (·.map fd offset length writable)) fun e =>
        pure (.failed e) : Attempt MapError Nat).run :=
      .explain (call_blind (Kernel.map_blind fd offset length writable)) fun _ => .pure _
    exact mapped.bind_attempt fun _ => .pure _

theorem unmap_blind (m : Mapping) : Blind Host.Aside m.unmap :=
  (call_blind (Kernel.unmap_blind m.id m.length)).cases (fun _ => .pure _) fun _ => report_blind _

end Mapping

/-! ## The dumb-buffer backend -/

namespace Dumb

variable (fd : Int32)

/-- A request that is explained to callers. -/
theorem asked {x : Wire.Exchange α} (other : x.request ≠ .getResources) {f : Errno → HostM ε}
    (explained : ∀ e, Blind Host.Aside (f e)) :
    Blind Host.Aside (explain (Host.exchange fd x) f).run :=
  .explain (exchange_blind fd other) explained

theorem openName_blind (name : UInt32) : Blind Host.Aside (openName fd name).run :=
  (asked fd (by nofun) fun _ => .pure _).bind_attempt fun _ => .pure _

theorem dmaBufSize_blind (d : Descriptor) (dmabuf : Int32) : Blind Host.Aside (dmaBufSize d dmabuf).run := by
  refine .bind_attempt (.lift (call_blind (Kernel.seekEnd_blind dmabuf))) fun outcome => ?_
  cases outcome <;> dsimp only
  case error e => split <;> exact .pure _
  case ok offset =>
    split
    · exact .pure _
    · split <;> exact .pure _

theorem openPrime_blind (d : Descriptor) (dmabuf : Int32) :
    Blind Host.Aside (openPrime fd d dmabuf).run := by
  have flagged : Blind Host.Aside (explain (Host.call (·.descriptorFlags dmabuf)) fun e => do
      Host.report (.invalidDmaBuf dmabuf e)
      return .control e : Attempt BackendError Unit).run :=
    .explain (call_blind (Kernel.descriptorFlags_blind dmabuf)) fun e =>
      (report_blind _).bind fun _ => .pure _
  refine flagged.bind_attempt fun _ => (dmaBufSize_blind d dmabuf).bind_attempt fun size => ?_
  exact (asked fd (by nofun) fun _ => .pure _).bind_attempt fun _ => .pure _

theorem openMemory_blind (d : Descriptor) (memory : MemoryRef) :
    Blind Host.Aside (openMemory fd d memory).run := by
  have opened (found : UInt32 × UInt64) : Blind Host.Aside (do
      Host.report (.objectOpened memory found.1)
      return { handle := found.1, size := found.2, stride := d.stride, memory, imported := true } :
        Attempt BackendError BackendBuffer).run :=
    .bind_attempt (.lift (report_blind _)) fun _ => .pure _
  unfold openMemory
  cases memory with
  | name n => exact (openName_blind fd n).bind_attempt opened
  | prime dmabuf => exact (openPrime_blind fd d dmabuf).bind_attempt opened

/-- A request that has failed is reported. -/
theorem reported {x : Wire.Exchange Unit} (other : x.request ≠ .getResources) (event : Errno → LogEvent) :
    Blind Host.Aside (do
      if let .error e ← (Host.exchange fd x).run then Host.report (event e) : HostM Unit) :=
  (exchange_blind fd other).cases (fun _ => .pure _) fun _ => report_blind _

theorem create_blind (d : Descriptor) : Blind Host.Aside (create fd d).run := by
  unfold create
  split
  · refine (asked fd (by nofun) fun _ => .pure _).bind_attempt fun dumb => ?_
    refine .bind_attempt (asked fd (by nofun) fun e => ?_) fun _ => .pure _
    exact (report_blind _).bind fun _ => (reported fd (by nofun) _).bind fun _ => .pure _
  · exact .pure _

theorem allocate_blind (d : Descriptor) : Blind Host.Aside (allocate fd d).run := by
  unfold allocate
  split
  · exact openMemory_blind fd d _
  · exact create_blind fd d

theorem free_blind (b : BackendBuffer) : Blind Host.Aside (free fd b) := by
  have freed : Blind Host.Aside (freeHandle fd b) := by
    unfold freeHandle
    refine reported fd ?_ _
    split <;> nofun
  unfold free
  cases b.mapping with
  | none => exact freed
  | some m => exact m.unmap_blind.bind fun _ => freed

theorem mapWhole_blind (b : BackendBuffer) : Blind Host.Aside (mapWhole fd b).run :=
  (asked fd (by nofun) fun _ => .pure _).bind_attempt fun offset =>
    .explain (Mapping.map_blind fd offset b.size true) fun _ => .pure _

theorem map_blind (b : BackendBuffer) : Blind Host.Aside ((map fd).run.run b) := by
  intro h h' aside
  obtain ⟨outcome, t, t', eq, eq', aside'⟩ := (mapWhole_blind fd b).runs aside
  have eq : (mapWhole fd b).run h = (outcome, t) := eq
  have eq' : (mapWhole fd b).run h' = (outcome, t') := eq'
  rw [map_run, map_run]
  cases b.mapping with
  | some m => exact ⟨rfl, aside⟩
  | none =>
    dsimp only
    rw [eq, eq']
    cases outcome <;> exact ⟨rfl, aside'⟩

theorem unmap_blind (b : BackendBuffer) : Blind Host.Aside (unmap.run b) := by
  intro h h' aside
  rw [unmap_run, unmap_run]
  split
  · exact ⟨rfl, aside⟩
  split
  · cases b.mapping with
    | some m => exact ⟨rfl, (m.unmap_blind h h' aside).2⟩
    | none => exact ⟨rfl, aside⟩
  · exact ⟨rfl, aside⟩

end Dumb

theorem Backend.dumb_blind (fd : Int32) : (dumb fd).Blind :=
  ⟨Dumb.allocate_blind fd, Dumb.free_blind fd, fun _ _ => Dumb.map_blind fd, Dumb.unmap_blind,
    fun _ _ _ => rfl⟩

/-! ## Objects -/

theorem Dialogue.hold_blind {backend : Backend} (blind : backend.Blind) (d : Dialogue α) :
    Blind Host.Aside fun h =>
      let held := d.hold backend h
      ((held.answer, held.object), held.host) := by
  intro h h' aside
  induction d generalizing h h' with
  | done answer object => exact ⟨rfl, aside⟩
  | report event next ih => exact ih _ _ (report_blind event h h' aside).2
  | map buffer region write next ih =>
    obtain ⟨⟨outcome, b⟩, t, t', eq, eq', aside⟩ := (blind.map region write buffer).runs aside
    dsimp only
    unfold hold
    rw [eq, eq']
    exact ih outcome b t t' aside
  | unmap buffer next ih =>
    obtain ⟨⟨_, b⟩, t, t', eq, eq', aside⟩ := (blind.unmap buffer).runs aside
    dsimp only
    unfold hold
    rw [eq, eq']
    exact ih b t t' aside

namespace BufferObject

/-- If a computation on the host is what running something comes to, they are blind together. -/
theorem blind_of_run {f g : Host → α × Host} (blind : Blind Host.Aside g) (run : ∀ h, f h = g h) :
    Blind Host.Aside f := funext run ▸ blind

section Served

variable {o : BufferObject} (blind : o.backend.Blind)
include blind

theorem lock_blind (usage : Usage) (region : Region) :
    Blind Host.Aside ((lock usage region).run.run o) :=
  blind_of_run (Dialogue.hold_blind blind (lockDialogue o usage region)) (lock_run o usage region)

theorem lockPlanar_blind (usage : Usage) (region : Region) :
    Blind Host.Aside ((lockPlanar usage region).run.run o) :=
  blind_of_run (Dialogue.hold_blind blind (lockPlanarDialogue o usage region))
    (lockPlanar_run o usage region)

theorem unlock_blind : Blind Host.Aside (unlock.run o) :=
  blind_of_run (Dialogue.hold_blind blind (unlockDialogue o)) (unlock_run o)

theorem attach_blind : Blind Host.Aside (attachFramebuffer.run.run o) := by
  intro h h' aside
  rw [attachFramebuffer_run, attachFramebuffer_run]
  split
  · exact ⟨rfl, aside⟩
  · exact ⟨rfl, aside⟩
  next b _ _ =>
  have same : o.layout h' b = o.layout h b := by
    unfold layout
    rw [blind.planes h h' aside]
  have added : Blind Host.Aside (o.addFramebuffer (o.layout h b)).run :=
    .explain (exchange_blind _ (by nofun)) fun _ => (report_blind _).bind fun _ => .pure _
  obtain ⟨outcome, t, t', eq, eq', aside⟩ := added.runs aside
  rw [same, eq, eq']
  cases outcome with
  | error e => exact ⟨rfl, aside⟩
  | ok id => exact ⟨rfl, (report_blind _ t t' aside).2⟩

theorem tearDown_blind (b : BackendBuffer) : Blind Host.Aside (o.tearDown b) := by
  have locks : Blind Host.Aside o.reportLocks := by
    unfold reportLocks
    split
    · exact report_blind _
    · exact .pure _
  have framebuffer : Blind Host.Aside o.removeFramebuffer := by
    unfold removeFramebuffer
    cases o.framebuffer with
    | none => exact .pure _
    | some id =>
      exact (exchange_blind _ (by nofun)).cases (fun _ => .pure _) fun _ => report_blind _
  have owned : Blind Host.Aside o.closeOwnedMemory := by
    unfold closeOwnedMemory
    split
    · split
      · next dmabuf _ =>
        exact (call_blind (Kernel.close_blind dmabuf)).cases (fun _ => .pure _) fun _ => report_blind _
      · exact .pure _
    · exact .pure _
  exact locks.bind fun _ => framebuffer.bind fun _ => (blind.free b).bind fun _ =>
    owned.bind fun _ => report_blind _

theorem destroy_blind : Blind Host.Aside (destroy.run o) := by
  intro h h' aside
  rw [destroy_run, destroy_run]
  cases o.buffer with
  | none => exact ⟨rfl, aside⟩
  | some b => exact ⟨rfl, (tearDown_blind blind b h h' aside).2⟩

theorem finish_blind : Blind Host.Aside o.finish := by
  intro h h' aside
  have object := congrArg backend (o.attachFramebuffer_object h)
  obtain ⟨⟨outcome, o'⟩, t, t', eq, eq', attached⟩ := (attach_blind blind).runs aside
  unfold finish
  split
  · rw [eq] at object
    rw [eq, eq']
    have blind' : o'.backend.Blind := object ▸ blind
    cases outcome with
    | ok id => exact ⟨rfl, attached⟩
    | error e => exact ⟨rfl, (destroy_blind blind' t t' attached).2⟩
  · exact ⟨rfl, aside⟩

end Served

section New

variable {backend : Backend} (blind : backend.Blind) (card : Card)
include blind

theorem create_blind (width height : UInt32) (format : PixelFormat) (usage : Usage) :
    Blind Host.Aside (create backend card width height format usage).run := by
  intro h h' aside
  rw [create_run, create_run]
  split
  · exact ⟨rfl, (report_blind _ h h' aside).2⟩
  next request _ =>
  obtain ⟨outcome, t, t', eq, eq', aside⟩ := (blind.allocate request).runs aside
  rw [eq, eq']
  cases outcome with
  | error e => exact ⟨rfl, (report_blind _ t t' aside).2⟩
  | ok b =>
    dsimp only
    split
    · have made : (ofBuffer backend card request b).backend.Blind := blind
      exact finish_blind made _ _ (report_blind _ t t' aside).2
    · exact ⟨rfl, (blind.free b _ _ (report_blind _ t t' aside).2).2⟩

theorem importFrom_blind (d : Descriptor) : Blind Host.Aside (importFrom backend card d).run := by
  intro h h' aside
  obtain ⟨outcome, t, t', eq, eq', allocated⟩ := (blind.allocate d).runs aside
  rw [importFrom_run, importFrom_run]
  split
  · split
    · exact ⟨rfl, (report_blind _ h h' aside).2⟩
    · rw [eq, eq']
      cases outcome <;> exact ⟨rfl, (report_blind _ t t' allocated).2⟩
  · exact ⟨rfl, aside⟩

end New

end BufferObject

end GraphicsBuffers

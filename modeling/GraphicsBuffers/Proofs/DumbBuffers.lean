import GraphicsBuffers.Backend.Dumb
import GraphicsBuffers.Proofs.Turns
/-!
# What the dumb-buffer backend owns

A buffer owns its handle and its mapping. Allocating gives a buffer without a mapping or leaves nothing
behind, freeing gives back all the buffer owns, and mapping gives a mapping or leaves the buffer as it
was.
-/

namespace GraphicsBuffers

open Wire Wire.Exchange

/-- What a buffer owns. -/
def BackendBuffer.resources (b : BackendBuffer) : Set Resource :=
  match b.mapping with
  | none => {.handle b.handle}
  | some m => {.mapping m.id} ∪ {.handle b.handle}

namespace Dumb

variable (fd : Int32)

/-- What is known of a buffer allocated for a descriptor. -/
structure New (d : Descriptor) (b : BackendBuffer) : Prop where
  mapping : b.mapping = none
  mapCount : b.mapCount = 0
  named : d.key? = none → ∃ name, b.memory = .name name

/-! ## Allocating -/

theorem openName_tries (name : UInt32) :
    Tries fd ∅ (openName fd name) (fun opened => {.handle opened.1}) ∅ fun _ => True := by
  refine .bind (.explain (exchange_gives (gemOpen_gives name)) fun e => (Neutral.pure _).turns) ?_
  intro object _
  exact .pure rfl trivial

theorem dmaBufSize_neutral (d : Descriptor) (dmabuf : Int32) : Neutral (dmaBufSize d dmabuf).run := by
  refine .bind_attempt (call_neutral fun k => k.seekEnd_calm dmabuf).lift fun outcome => ?_
  cases outcome with
  | ok offset =>
    dsimp only
    split
    · exact .pure _
    · split <;> exact .pure _
  | error e =>
    dsimp only
    split <;> exact .pure _

theorem openPrime_tries (d : Descriptor) (dmabuf : Int32) :
    Tries fd ∅ (openPrime fd d dmabuf) (fun opened => {.handle opened.1}) ∅ fun _ => True := by
  have flags : Neutral (explain (Host.call (·.descriptorFlags dmabuf)) fun e => do
      Host.report (.invalidDmaBuf dmabuf e)
      return .control e : Attempt BackendError Unit).run :=
    .explain (call_neutral fun k => k.descriptorFlags_calm dmabuf) fun e =>
      (Neutral.report _).bind fun _ => .pure _
  refine .bind (.neutral flags) fun _ _ => ?_
  refine .bind (.neutral (dmaBufSize_neutral d dmabuf)) fun size _ => ?_
  refine .bind (.explain (exchange_gives (primeFdToHandle_gives dmabuf)) fun e =>
    (Neutral.pure _).turns) fun handle _ => ?_
  exact .pure rfl trivial

theorem openMemory_tries (d : Descriptor) (memory : MemoryRef) (keyed : d.key? = some memory) :
    Tries fd ∅ (openMemory fd d memory) (fun b => {.handle b.handle}) ∅ (New d) := by
  have finished (opened : UInt32 × UInt64) : Tries fd {.handle opened.1} (do
      Host.report (.objectOpened memory opened.1)
      return { handle := opened.1, size := opened.2, stride := d.stride, memory, imported := true } :
        Attempt BackendError BackendBuffer) (fun b => {.handle b.handle}) ∅ (New d) := by
    refine .bind (.lift (Neutral.report _).turns) fun _ _ => ?_
    exact .pure rfl ⟨rfl, rfl, fun unkeyed => by simp [keyed] at unkeyed⟩
  cases memory with
  | name n => exact .bind (openName_tries fd n) fun opened _ => finished opened
  | prime dmabuf => exact .bind (openPrime_tries fd d dmabuf) fun opened _ => finished opened

theorem discard_turns (handle : UInt32) :
    Turns fd {.handle handle} (discard fd handle) (fun _ => ∅) fun _ => True := by
  refine (exchange_takes (destroyDumb_takes handle)).then_neutral fun outcome => ?_
  cases outcome with
  | ok => exact .pure _
  | error e => exact .report _

theorem create_tries (d : Descriptor) :
    Tries fd ∅ (create fd d) (fun b => {.handle b.handle}) ∅ (New d) := by
  unfold create
  split
  · refine .bind (.explain (exchange_gives (createDumb_gives _ _ _)) fun e =>
      (Neutral.pure _).turns) fun dumb _ => ?_
    have named : Tries fd {.handle dumb.handle} (Host.exchange fd (.gemFlink dumb.handle))
        (fun _ => {.handle dumb.handle}) {.handle dumb.handle} fun _ => True :=
      .neutral (exchange_neutral (gemFlink_neutral dumb.handle))
    refine .bind (.explain named fun e => ?_) fun name _ => ?_
    · refine (Neutral.report _).turns.bind fun _ _ => ?_
      exact (discard_turns fd dumb.handle).then_neutral fun _ => .pure _
    · exact .pure rfl ⟨rfl, rfl, fun _ => ⟨name, rfl⟩⟩
  · exact .throw _

/-- An allocation gives the handle of a new buffer, or leaves nothing behind. -/
theorem allocate_tries (d : Descriptor) :
    Tries fd ∅ (allocate fd d) (fun b => {.handle b.handle}) ∅ (New d) := by
  unfold allocate
  split
  · next memory keyed => exact openMemory_tries fd d memory keyed
  · exact create_tries fd d

/-! ## Freeing -/

theorem freeHandle_turns (b : BackendBuffer) :
    Turns fd {.handle b.handle} (freeHandle fd b) (fun _ => ∅) fun _ => True := by
  have given : Turns fd {.handle b.handle} (Host.exchange fd
      (if b.imported then .gemClose b.handle else .destroyDumb b.handle)).run (fun _ => ∅)
      fun _ => True := by
    split
    · exact (exchange_takes (gemClose_takes b.handle)).imp fun _ _ => trivial
    · exact (exchange_takes (destroyDumb_takes b.handle)).imp fun _ _ => trivial
  refine given.then_neutral fun outcome => ?_
  cases outcome with
  | ok => exact .pure _
  | error e => exact .report _

/-- Freeing a buffer gives back all it owns. -/
theorem free_turns (b : BackendBuffer) :
    Turns fd b.resources (free fd b) (fun _ => ∅) fun _ => True := by
  obtain ⟨handle, size, stride, memory, imported, _ | m, mapCount⟩ := b
  · exact freeHandle_turns fd _
  · have unmapped : Turns fd ({.mapping m.id} ∪ {.handle handle}) m.unmap
        (fun _ => {.handle handle}) fun _ => True := (Mapping.unmap_takes m).release (by simp)
    exact unmapped.bind fun _ _ =>
      freeHandle_turns fd ⟨handle, size, stride, memory, imported, some m, mapCount⟩

/-! ## Mapping -/

theorem mapWhole_tries (b : BackendBuffer) :
    Tries fd ∅ (mapWhole fd b) (fun m => {.mapping m.id}) ∅ fun _ => True := by
  have offset : Neutral (explain (Host.exchange fd (.mapDumb b.handle)) fun e =>
      pure (.control e) : Attempt BackendError UInt64).run :=
    .explain (exchange_neutral (mapDumb_neutral b.handle)) fun e => .pure _
  refine .bind (.neutral offset) fun offset _ => ?_
  exact .explain (Mapping.map_gives offset b.size true) fun e => (Neutral.pure _).turns

theorem map_run (b : BackendBuffer) (h : Host) :
    (Dumb.map fd).run.run b h = match b.mapping with
      | some m => ((.ok m.address, { b with mapCount := b.mapCount + 1 }), h)
      | none => match (mapWhole fd b).run h with
        | (.ok m, h) =>
          ((.ok m.address, { b with mapping := some m, mapCount := b.mapCount + 1 }), h)
        | (.error e, h) => ((.error e, b), h) := by
  unfold Dumb.map
  rw [run_get_bind]
  obtain ⟨handle, size, stride, memory, imported, _ | m, mapCount⟩ := b
  · dsimp only
    rw [run_bind, run_mk_lift]
    unfold ExceptT.run
    rcases mapWhole fd _ h with ⟨_ | _, _⟩ <;> rfl
  · rfl

theorem unmap_run (b : BackendBuffer) (h : Host) :
    Dumb.unmap.run b h =
      if b.mapCount = 0 then (((), b), h)
      else if b.mapCount = 1 then
        (((), { b with mapCount := 0, mapping := none }), match b.mapping with
          | some m => (m.unmap h).2
          | none => h)
      else (((), { b with mapCount := b.mapCount - 1 }), h) := by
  unfold Dumb.unmap
  rw [run_get_bind_plain]
  split
  · rfl
  · split
    · obtain ⟨handle, size, stride, memory, imported, _ | m, mapCount⟩ := b <;> rfl
    · rfl

end Dumb

end GraphicsBuffers

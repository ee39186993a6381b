import GraphicsBuffers.Allocator
import GraphicsBuffers.Proofs.Processes
/-!
# What a call of the allocator comes to

One equation for each call: which parts of it are run, in which order, and what is answered when one
of them fails.
-/

namespace GraphicsBuffers

namespace Allocator

variable (a : Allocator) (p : Process)

theorem run_onContext {ε α : Type} (x : ExceptT ε ContextM α) :
    (onContext x).run.run a p =
      let ((outcome, context), host) := x.run.run a.context p.host
      ((outcome, { a with context }), { p with host }) := rfl

theorem run_attempt {ε α : Type} (x : Attempt ε α) :
    (attempt x).run.run a p = (((x.run p.host).1, a), p.after x.run) := rfl

theorem run_onRegistry {α : Type} (x : RegistryM α) :
    (onRegistry x).run a p =
      let ((outcome, registry), p) := x.run a.registry p
      ((outcome, { a with registry }), p) := rfl

theorem run_tryRegistry {ε α : Type} (x : ExceptT ε RegistryM α) :
    (tryRegistry x).run.run a p =
      let ((outcome, registry), p) := x.run.run a.registry p
      ((outcome, { a with registry }), p) := rfl

/-- Registering a new object that has a key. -/
theorem adopt_run {o : BufferObject} {key : MemoryRef} (keyed : o.descriptor.key? = some key) :
    (adopt o).run.run a p =
      if a.registry.contains key then
        ((.error .invalidHandle, a),
          ((p.adopted o).reported (.alreadyRegistered key)).released p.nextObject)
      else
        ((.ok (), { a with registry := ⟨a.registry.entries.insert key ⟨p.nextObject, 1⟩⟩ }),
          p.adopted o) := by
  have object : (p.adopted o).object? p.nextObject = some o := by
    simp [Process.object?, Process.adopted]
  unfold adopt
  rw [run_lift_bind, Process.adopt_run, run_bind, run_tryRegistry]
  cases known : a.registry.contains key
  · rw [Registry.insert_run_free _ _ object keyed known]
    rfl
  · rw [Registry.insert_run_taken _ _ object keyed known]
    rfl

theorem create_run (width height : UInt32) (raw : Int32) (usage : Usage) :
    (create width height raw usage).run.run a p = match PixelFormat.ofRaw? raw with
      | none => ((.error (.invalidFormat raw), a), p.reported (.unknownFormat raw))
      | some format => match (onContext Context.ready).run.run a p with
        | ((.error e, a), p) => ((.error e, a), p)
        | ((.ok r, a), p) =>
          match (attempt (BufferObject.create r.backend r.card width height format usage)).run.run a p
          with
          | ((.error e, a), p) => ((.error e, a), p)
          | ((.ok o, a), p) => match (adopt o).run.run a p with
            | ((.error e, a), p) => ((.error e, a), p)
            | ((.ok _, a), p) => ((.ok (o.descriptor, o.pixelStride), a), p) := by
  unfold create
  cases PixelFormat.ofRaw? raw with
  | none => rfl
  | some format =>
    dsimp only
    rw [run_bind]
    rcases (onContext Context.ready).run.run a p with ⟨⟨_ | r, a⟩, p⟩
    · rfl
    · dsimp only
      rw [run_bind]
      rcases (attempt _).run.run a p with ⟨⟨_ | o, a⟩, p⟩
      · rfl
      · dsimp only
        rw [run_bind]
        rcases (adopt o).run.run a p with ⟨⟨_ | _, _⟩, _⟩ <;> rfl

/-- The end of a registration: the reference is counted. -/
def acquired (key : MemoryRef) : (Except Error Unit × Allocator) × Process :=
  match a.registry.entries.get? key with
  | none => ((.error .invalidHandle, a), p)
  | some e =>
    ((.ok (), { a with
        registry := ⟨a.registry.entries.insert key { e with references := e.references + 1 }⟩ }),
      p.reported (.registered key (some (e.references + 1))))

theorem register_run (d : Descriptor) :
    (register d).run.run a p = match d.key? with
      | none => ((.error .invalidHandle, a), p)
      | some key => match (onContext Context.ready).run.run a p with
        | ((.error e, a), p) => ((.error e, a), p)
        | ((.ok r, a), p) =>
          if a.registry.contains key then a.acquired p key
          else match (attempt (BufferObject.importFrom r.backend r.card d)).run.run a p with
            | ((.error e, a), p) => ((.error e, a), p)
            | ((.ok o, a), p) => match (adopt o).run.run a p with
              | ((.error e, a), p) => ((.error e, a), p)
              | ((.ok _, a), p) => a.acquired p key := by
  have acquiring (a : Allocator) (p : Process) (key : MemoryRef) :
      (do
        let acquired : AllocatorM (Option ObjectId) := onRegistry (Registry.acquire key)
        if (← acquired).isNone then throw .invalidHandle
        Host.report (.registered key ((← getThe Allocator).registry.references? key)) :
          ExceptT Error AllocatorM Unit).run.run a p = a.acquired p key := by
    rw [run_layer_bind, run_onRegistry, Registry.acquire_run]
    unfold acquired
    rcases held : a.registry.entries.get? key with _ | e
    · rfl
    · have counted : (⟨a.registry.entries.insert key { e with references := e.references + 1 }⟩
          : Registry).references? key = some (e.references + 1) := by simp [Registry.references?]
      dsimp only
      rw [← counted]
      rfl
  unfold register keyOf
  cases d.key? with
  | none => rfl
  | some key =>
    rw [run_ofExcept_bind, run_bind]
    rcases (onContext Context.ready).run.run a p with ⟨⟨_ | r, a⟩, p⟩
    · rfl
    · dsimp only
      rw [run_getThe_bind]
      cases known : a.registry.contains key
      · simp only [Bool.not_false, Bool.false_eq_true, if_true, if_false]
        rw [run_bind]
        rcases (attempt _).run.run a p with ⟨⟨_ | o, a⟩, p⟩
        · rfl
        · dsimp only
          rw [run_bind]
          rcases (adopt o).run.run a p with ⟨⟨_ | _, a⟩, p⟩
          · rfl
          · exact acquiring a p key
      · exact acquiring a p key

theorem unregister_run (d : Descriptor) :
    (unregister d).run.run a p = match d.key? with
      | none => ((.error .invalidHandle, a), p)
      | some key => match a.registry.get? key with
        | none => ((.error .invalidHandle, a), p)
        | some id =>
          let charge := if ((p.object? id).map (·.imported)).getD false then 2 else 1
          match (tryRegistry (Registry.release key charge)).run.run a p with
          | ((outcome, a), p) => ((outcome.map fun _ => (), a), p) := by
  unfold unregister keyOf
  cases d.key? with
  | none => rfl
  | some key =>
    dsimp only
    rw [run_ofExcept_bind, run_getThe_bind]
    cases a.registry.get? key with
    | none => rfl
    | some id =>
      dsimp only
      rw [run_getBelow_bind, run_bind]
      rcases (tryRegistry _).run.run a p with ⟨⟨_ | _, _⟩, _⟩ <;> rfl

theorem dropLocal_run (d : Descriptor) :
    (dropLocal d).run.run a p = match d.key? with
      | none => ((.error .invalidHandle, a), p)
      | some key => match (tryRegistry (Registry.release key 1)).run.run a p with
        | ((outcome, a), p) => ((outcome.map fun _ => (), a), p) := by
  unfold dropLocal keyOf
  cases d.key? with
  | none => rfl
  | some key =>
    dsimp only
    rw [run_ofExcept_bind, run_bind]
    rcases (tryRegistry _).run.run a p with ⟨⟨_ | _, _⟩, _⟩ <;> rfl

/-! ## Calls on registered objects -/

theorem onBuffer_run {α : Type} (d : Descriptor) (x : ExceptT Error ObjectM α) :
    (onBuffer d x).run.run a p = match a.lookup d with
      | .error e => ((.error e, a), p)
      | .ok id =>
        (((Process.onObject id x.run p).1.getD (.error .invalidHandle), a),
          (Process.onObject id x.run p).2) := by
  unfold onBuffer
  rw [run_getThe_bind]
  cases a.lookup d with
  | error e => rfl
  | ok id =>
    dsimp only
    rw [run_ofExcept_bind, run_lift_bind]
    rcases Process.onObject id x.run p with ⟨_ | _ | _, _⟩ <;> rfl

theorem unlock_run (d : Descriptor) :
    (unlock d).run a p = match a.lookup d with
      | .ok id => (((), a), (Process.onObject id BufferObject.unlock p).2)
      | .error _ => (((), a), p.reported (.unlockOfUnknown d.memory)) := by
  unfold unlock
  rw [run_getThe_bind_plain]
  cases a.lookup d <;> rfl

theorem planes_run (d : Descriptor) :
    (planes d).run.run a p = match a.lookup d with
      | .error e => ((.error e, a), p)
      | .ok id => ((.ok ((p.object? id).bind (·.planes? p.host)), a), p) := by
  unfold planes
  rw [run_getThe_bind]
  cases a.lookup d <;> rfl

theorem hold_run (d : Descriptor) :
    (hold d).run.run a p = match a.lookup d with
      | .error e => ((.error e, a), p)
      | .ok id => ((.ok id, a), (Process.share id p).2) := by
  unfold hold
  rw [run_getThe_bind]
  cases a.lookup d <;> rfl

/-! ## The end -/

theorem dispose_run (order : List MemoryRef) :
    ((dispose order).run a p).2 =
      ((Registry.clear order).run a.registry (p.after a.context.dispose)).2 := rfl

end Allocator

end GraphicsBuffers

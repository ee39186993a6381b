import GraphicsBuffers.Proofs.Dialogue
/-!
# What running an operation on an object comes to
-/

namespace GraphicsBuffers.BufferObject

variable (o : BufferObject) (h : Host)

/-! ## Scanout -/

/-- How the memory of an object is laid out for scanout. -/
def layout (buffer : BackendBuffer) : PlaneLayout :=
  (o.backend.planes h buffer o.descriptor).getD (.single buffer.handle o.descriptor.stride)

/-- Asks for a framebuffer over a layout. -/
def addFramebuffer (layout : PlaneLayout) : Attempt Error UInt32 :=
  let d := o.descriptor
  explain (Host.exchange o.card.fd (.addFb2 d.width d.height d.format.fourcc layout)) fun e => do
    Host.report (.framebufferFailed e)
    return .kernel e

theorem attachFramebuffer_run :
    attachFramebuffer.run.run o h = match o.framebuffer, o.buffer with
      | some id, _ => ((.ok id, o), h)
      | none, none => ((.error .invalidHandle, o), h)
      | none, some buffer => match (o.addFramebuffer (o.layout h buffer)).run h with
        | (.ok id, h) => ((.ok id, { o with framebuffer := some id }),
            h.reported (.framebufferAttached id o.descriptor.memory))
        | (.error e, h) => ((.error e, o), h) := by
  unfold attachFramebuffer
  rw [run_get_bind]
  rcases o with ⟨d, i, backend, card, _ | buffer, n, lockedFor, _ | id⟩
  · rfl
  · rfl
  · simp only [run_bind, run_getThe, run_mk_lift, addFramebuffer, layout]
    generalize explain (Host.exchange card.fd _) _ = x
    rcases x.run h with ⟨_ | _, _⟩ <;> rfl
  · rfl

/-! ## Destruction -/

/-- Reports the outstanding locks. -/
def reportLocks : HostM Unit := do
  if 0 < o.lockCount then
    Host.report (.destroyedWhileLocked o.descriptor.memory o.lockCount)

/-- Removes the framebuffer from the card. -/
def removeFramebuffer : HostM Unit := do
  if let some id := o.framebuffer then
    if let .error e ← (Host.exchange o.card.fd (.removeFb id)).run then
      Host.report (.framebufferRemovalFailed id e)

/-- The object without locks. -/
def withoutLocks : BufferObject :=
  { o with lockCount := 0, lockedFor := if 0 < o.lockCount then .empty else o.lockedFor }

/-- The object once it is destroyed. -/
def destroyed : BufferObject := { o.withoutLocks with buffer := none, framebuffer := none }

theorem dropLocks_run : dropLocks.run o h = (((), o.withoutLocks), (o.reportLocks.run h).2) := by
  unfold dropLocks reportLocks withoutLocks
  rw [run_get_bind_plain]
  by_cases locked : 0 < o.lockCount
  · simp only [locked, if_true]
    rfl
  · have free : o.lockCount = 0 := by simpa using locked
    simp only [locked, if_false]
    rw [← free]
    rfl

theorem detachFramebuffer_run :
    detachFramebuffer.run o h =
      (((), { o with framebuffer := none }), (o.removeFramebuffer.run h).2) := by
  unfold detachFramebuffer removeFramebuffer
  rw [run_get_bind_plain]
  rcases o with ⟨d, i, backend, card, buffer, n, lockedFor, _ | id⟩
  · rfl
  · rw [run_set_bind_plain, run_lift_bind_plain, run_bind_state]
    rcases (Host.exchange card.fd (.removeFb id)).run h with ⟨_ | _, _⟩ <;> rfl

/-- What destroying an object with a buffer does to the host. -/
def tearDown (buffer : BackendBuffer) : HostM Unit := do
  o.reportLocks
  o.removeFramebuffer
  o.backend.free buffer
  o.closeOwnedMemory
  Host.report (.destroyed o.descriptor.memory)

theorem destroy_run :
    destroy.run o h = match o.buffer with
      | none => (((), o), h)
      | some buffer => (((), o.destroyed), ((o.tearDown buffer).run h).2) := by
  unfold destroy
  rw [run_get_bind_plain]
  rcases o with ⟨d, i, backend, card, _ | buffer, n, lockedFor, fb⟩
  · rfl
  · dsimp only
    rw [run_set_bind_plain, run_bind_plain, dropLocks_run, run_bind_plain, detachFramebuffer_run]
    rfl

/-! ## Coming to life -/

/-- What an allocation of so many pixels asks of the backend; `none` if it is too large. -/
def request? (width height : UInt32) (format : PixelFormat) (usage : Usage) : Option Descriptor :=
  ((format.geometry? width height).filter fun g => (g.minSize? format).isSome).map fun g =>
    { width, height, planarHeight := g.planarHeight, format, usage }

/-- The object over a new buffer. -/
def ofBuffer (backend : Backend) (card : Card) (request : Descriptor) (buffer : BackendBuffer) :
    BufferObject :=
  { descriptor := request.withMemory buffer.memory buffer.stride
    imported := false, backend, card, buffer := some buffer }

/-- The end of an allocation: a framebuffer for what is to be scanned out. -/
def finish : Except Error BufferObject × Host :=
  if o.descriptor.usage.needsFramebuffer then
    match attachFramebuffer.run.run o h with
    | ((.ok _, o), h) => (.ok o, h)
    | ((.error e, o), h) => (.error e, (destroy.run o h).2)
  else (.ok o, h)

theorem create_run (backend : Backend) (card : Card) (width height : UInt32) (format : PixelFormat)
    (usage : Usage) :
    (create backend card width height format usage).run h =
      match request? width height format usage with
      | none => (.error .outOfMemory, h.reported (.tooLarge width height format))
      | some request => match (backend.allocate request).run h with
        | (.error e, h) => (.error (allocationError e),
            h.reported (.allocationFailed width height format e))
        | (.ok buffer, h) =>
          if buffer.memory.isValid then
            (ofBuffer backend card request buffer).finish
              (h.reported (.created width height format buffer.memory buffer.stride))
          else
            (.error .invalidHandle,
              ((backend.free buffer).run
                (h.reported (.invalidMemory backend.name buffer.memory))).2) := by
  unfold create request?
  generalize Option.filter _ (format.geometry? width height) = found
  rcases found with _ | g
  · rfl
  · dsimp only [Option.map_some]
    rw [run_bind_attempt, run_explain]
    rcases (backend.allocate _).run h with ⟨_ | buffer, h⟩
    · rfl
    · dsimp only
      by_cases valid : buffer.memory.isValid
      · simp only [valid, Bool.not_true, Bool.false_eq_true, if_false, if_true]
        by_cases scanout : usage.needsFramebuffer
        · simp only [finish, ofBuffer, Descriptor.withMemory, scanout, if_true]
          rw [run_report_bind_attempt, run_lift_bind_attempt]
          rcases attachFramebuffer.run.run _ _ with ⟨⟨_ | _, _⟩, _⟩ <;> rfl
        · simp only [finish, ofBuffer, Descriptor.withMemory, scanout]
          rfl
      · simp only [valid, Bool.not_false, if_true]
        rfl

/-- The object over memory opened for a descriptor. -/
def ofMemory (backend : Backend) (card : Card) (d : Descriptor) (buffer : BackendBuffer) :
    BufferObject :=
  { descriptor := d, imported := true, backend, card, buffer := some buffer }

theorem importFrom_run (backend : Backend) (card : Card) (d : Descriptor) :
    (importFrom backend card d).run h =
      if d.isValid then
        if d.byteSize?.isNone then (.error .invalidHandle, h.reported (.importTooLarge d))
        else match (backend.allocate d).run h with
          | (.error e, h) => (.error (allocationError e), h.reported (.importFailed d.memory e))
          | (.ok buffer, h) => (.ok (ofMemory backend card d buffer), h.reported (.imported d.memory))
      else (.error .invalidHandle, h) := by
  unfold importFrom
  by_cases valid : d.isValid
  · by_cases large : d.byteSize?.isNone
    · simp only [valid, large, Bool.not_true, Bool.false_eq_true, if_true, if_false]
      rfl
    · simp only [valid, large, Bool.not_true, Bool.false_eq_true, if_true, if_false]
      rw [run_bind_attempt, run_explain]
      rcases (backend.allocate d).run h with ⟨_ | _, _⟩ <;> rfl
  · simp only [valid, Bool.not_false, if_true]
    rfl

/-! ## New objects -/

/-- An object in use that nobody has locked. -/
structure Idle (o : BufferObject) : Prop where
  live : o.buffer.isSome
  lockCount : o.lockCount = 0
  lockedFor : o.lockedFor = .empty

/-- What is known of an object when it comes to life. -/
structure Fresh (backend : Backend) (card : Card) (imported : Bool) (o : BufferObject) : Prop where
  idle : o.Idle
  keyed : o.descriptor.key?.isSome
  backend : o.backend = backend
  card : o.card = card
  imported : o.imported = imported

theorem attachFramebuffer_object :
    (attachFramebuffer.run.run o h).1.2 =
      { o with framebuffer := (attachFramebuffer.run.run o h).1.2.framebuffer } := by
  rw [attachFramebuffer_run]
  repeat' split
  all_goals rfl

theorem ofBuffer_fresh {backend : Backend} {card : Card} (request : Descriptor)
    {buffer : BackendBuffer} (valid : buffer.memory.isValid) :
    (ofBuffer backend card request buffer).Fresh backend card false where
  idle := ⟨rfl, rfl, rfl⟩
  keyed := by simp [ofBuffer, Descriptor.withMemory, Descriptor.key?, valid]
  backend := rfl
  card := rfl
  imported := rfl

theorem ofMemory_fresh {backend : Backend} {card : Card} {d : Descriptor} (valid : d.isValid)
    (buffer : BackendBuffer) : (ofMemory backend card d buffer).Fresh backend card true where
  idle := ⟨rfl, rfl, rfl⟩
  keyed := valid
  backend := rfl
  card := rfl
  imported := rfl

theorem Fresh.finish {backend : Backend} {card : Card} {imported : Bool} {o o' : BufferObject}
    {h : Host} (fresh : o.Fresh backend card imported) (eq : (o.finish h).1 = .ok o') :
    o'.Fresh backend card imported ∧ o'.descriptor = o.descriptor := by
  unfold BufferObject.finish at eq
  have attached := attachFramebuffer_object o h
  split at eq
  · rcases ha : attachFramebuffer.run.run o h with ⟨⟨_ | _, o₁⟩, h₁⟩ <;>
      simp only [ha, reduceCtorEq, Except.ok.injEq] at eq attached
    subst eq
    rw [attached]
    exact ⟨⟨⟨fresh.idle.live, fresh.idle.lockCount, fresh.idle.lockedFor⟩, fresh.keyed,
      fresh.backend, fresh.card, fresh.imported⟩, rfl⟩
  · cases eq
    exact ⟨fresh, rfl⟩

/-- Only a framebuffer comes to an object at the end. -/
theorem finish_buffer {o o' : BufferObject} {h h' : Host} (eq : o.finish h = (.ok o', h')) :
    o'.buffer = o.buffer := by
  have object := o.attachFramebuffer_object h
  unfold finish at eq
  split at eq
  · rcases attached : attachFramebuffer.run.run o h with ⟨⟨_ | id, o₁⟩, h₁⟩ <;>
      rw [attached] at eq object <;> cases eq
    have same := congrArg buffer object
    exact same
  · cases eq
    rfl

theorem create_fresh {backend : Backend} {card : Card} {width height : UInt32}
    {format : PixelFormat} {usage : Usage} {h : Host} {o : BufferObject}
    (eq : ((create backend card width height format usage).run h).1 = .ok o) :
    o.Fresh backend card false := by
  rw [create_run] at eq
  split at eq
  · cases eq
  · split at eq
    · cases eq
    · split at eq
      · next valid => exact ((ofBuffer_fresh _ valid).finish eq).1
      · cases eq

theorem importFrom_fresh {backend : Backend} {card : Card} {d : Descriptor} {h : Host}
    {o : BufferObject} (eq : ((importFrom backend card d).run h).1 = .ok o) :
    o.Fresh backend card true ∧ o.descriptor = d := by
  rw [importFrom_run] at eq
  split at eq
  · next valid =>
    split at eq
    · cases eq
    · split at eq
      · cases eq
      · cases eq
        exact ⟨ofMemory_fresh valid _, rfl⟩
  · cases eq

/-- An object that an allocation or an import answered. -/
inductive Born (o : BufferObject) : Prop
  | created {backend card width height format usage h}
      (eq : ((create backend card width height format usage).run h).1 = .ok o)
  | imported {backend card d h} (eq : ((importFrom backend card d).run h).1 = .ok o)

theorem Born.idle {o : BufferObject} : o.Born → o.Idle
  | created eq => (create_fresh eq).idle
  | imported eq => (importFrom_fresh eq).1.idle

end GraphicsBuffers.BufferObject

import GraphicsBuffers.BufferObject.Lock
import GraphicsBuffers.Proofs.Run
/-!
# Lock calls as dialogues with the backend

What `lock`, `lockPlanar` and `unlock` do to an object depends on its backend only through the calls
of `map` and `unmap` they make and what comes of them. A `Dialogue` is a computation cut at those
calls, and `Dialogue.hold` carries it out with a backend and notes every call. Each operation has
its dialogue, and holding that is running the operation (`lock_run`, `unlock_run`,
`lockPlanar_run`): the calls noted are the calls the operation makes, on any backend.
-/

namespace GraphicsBuffers

/-- A call of a backend, and what came of it. -/
inductive BackendEvent
  | mapped
  | mapFailed
  | unmapped
  deriving DecidableEq

/-- What is noted of a map. -/
def BackendEvent.ofMap : Except BackendError Address → BackendEvent
  | .ok _ => mapped
  | .error _ => mapFailed

/-- A computation on one object, cut at the calls it makes of the backend. -/
inductive Dialogue (α : Type)
  | done (answer : α) (object : BufferObject)
  | report (event : LogEvent) (next : Dialogue α)
  | map (buffer : BackendBuffer) (region : Region) (write : Bool)
      (next : Except BackendError Address → BackendBuffer → Dialogue α)
  | unmap (buffer : BackendBuffer) (next : BackendBuffer → Dialogue α)

/-- How a dialogue ended, and the calls made in it, the first one first. -/
structure Held (α : Type) where
  answer : α
  object : BufferObject
  host : Host
  calls : List BackendEvent

namespace Dialogue

variable {α β : Type}

/-- Carries out a dialogue with a backend. -/
def hold (backend : Backend) : Dialogue α → Host → Held α
  | done answer object, h => ⟨answer, object, h, []⟩
  | report event next, h => next.hold backend (h.reported event)
  | map buffer region write next, h =>
    match (backend.map region write).run.run buffer h with
    | ((outcome, buffer), h) =>
      let held := (next outcome buffer).hold backend h
      { held with calls := .ofMap outcome :: held.calls }
  | unmap buffer next, h =>
    match backend.unmap.run buffer h with
    | ((_, buffer), h) =>
      let held := (next buffer).hold backend h
      { held with calls := .unmapped :: held.calls }

/-- The dialogue with another answer. -/
def answering (f : α → β) : Dialogue α → Dialogue β
  | done answer object => done (f answer) object
  | report event next => report event (next.answering f)
  | map buffer region write next =>
    map buffer region write fun outcome buffer => (next outcome buffer).answering f
  | unmap buffer next => unmap buffer fun buffer => (next buffer).answering f

theorem hold_answering (f : α → β) (d : Dialogue α) (backend : Backend) (h : Host) :
    (d.answering f).hold backend h =
      let held := d.hold backend h
      { held with answer := f held.answer } := by
  induction d generalizing h with
  | done answer object => rfl
  | report event next ih => exact ih _
  | map buffer region write next ih =>
    simp only [answering, hold, ih]
    rfl
  | unmap buffer next ih =>
    simp only [answering, hold, ih]
    rfl

end Dialogue

namespace BufferObject

variable (o : BufferObject) (usage : Usage) (region : Region) (h : Host)

/-! ## Locking -/

/-- The end of a lock that is granted. -/
def grantDialogue (whole : Usage) (address : Option Address) :
    Dialogue (Except Error (Option Address)) :=
  .report (.locked o.descriptor.memory whole region (o.lockCount + 1))
    (.done (.ok address)
      { o with lockCount := o.lockCount + 1, lockedFor := o.lockedFor ||| whole })

/-- The dialogue of `lock`. -/
def lockDialogue : Dialogue (Except Error (Option Address)) :=
  let declared := o.descriptor.usage
  let whole := usage ||| o.lockedFor
  if !permits declared usage then
    .report (.undeclaredUsage usage declared) (.done (.error (.usageMismatch declared usage)) o)
  else if 0 < o.lockCount && !o.lockedFor.contains usage then
    .report (.alreadyLocked o.lockedFor usage)
      (.done (.error (.incompatibleLock o.lockedFor usage)) o)
  else
    match o.buffer with
    | none => .done (.error .invalidHandle) o
    | some buffer =>
      if whole.swAccess then
        .map buffer region whole.swWrite fun
          | .ok address, buffer =>
            grantDialogue { o with buffer := some buffer } region whole (some address)
          | .error e, buffer =>
            .report (.mapFailed o.descriptor.memory e)
              (.done (.error (.backend e)) { o with buffer := some buffer })
      else grantDialogue o region whole none

section Checks
variable {o usage region}

theorem lockDialogue_undeclared (refused : ¬permits o.descriptor.usage usage) :
    o.lockDialogue usage region = .report (.undeclaredUsage usage o.descriptor.usage)
      (.done (.error (.usageMismatch o.descriptor.usage usage)) o) :=
  if_pos (by simpa using refused)

variable (permitted : permits o.descriptor.usage usage)
include permitted

theorem lockDialogue_incompatible (locked : o.lockCount ≠ 0) (outside : ¬o.lockedFor.contains usage) :
    o.lockDialogue usage region = .report (.alreadyLocked o.lockedFor usage)
      (.done (.error (.incompatibleLock o.lockedFor usage)) o) := by
  have positive : 0 < o.lockCount := UInt32.pos_iff_ne_zero.2 locked
  simp [lockDialogue, permitted, positive, outside]

theorem lockDialogue_compatible (fits : o.lockCount = 0 ∨ o.lockedFor.contains usage) :
    o.lockDialogue usage region =
      let whole := usage ||| o.lockedFor
      match o.buffer with
      | none => .done (.error .invalidHandle) o
      | some buffer =>
        if whole.swAccess then
          .map buffer region whole.swWrite fun
            | .ok address, buffer =>
              grantDialogue { o with buffer := some buffer } region whole (some address)
            | .error e, buffer =>
              .report (.mapFailed o.descriptor.memory e)
                (.done (.error (.backend e)) { o with buffer := some buffer })
        else grantDialogue o region whole none := by
  rcases fits with free | part
  · simp [lockDialogue, permitted, free]
  · simp [lockDialogue, permitted, part]

end Checks

theorem mapForLock_run (o' : BufferObject) (buffer : BackendBuffer) :
    (mapForLock o buffer usage region).run.run o' h =
      match (o.backend.map region usage.swWrite).run.run buffer h with
      | ((.ok address, buffer), h) => ((.ok address, { o with buffer := some buffer }), h)
      | ((.error e, buffer), h) =>
        ((.error (.backend e), { o with buffer := some buffer }),
          h.reported (.mapFailed o.descriptor.memory e)) := by
  simp only [mapForLock, run_bind, run_lift, run_set]
  rcases (o.backend.map region usage.swWrite).run.run buffer h with ⟨⟨_ | _, _⟩, _⟩ <;> rfl

/-- Running `lock` is holding its dialogue. -/
theorem lock_run :
    (lock usage region).run.run o h =
      let held := (lockDialogue o usage region).hold o.backend h
      ((held.answer, held.object), held.host) := by
  simp only [lock, lockDialogue, run_get_bind]
  by_cases permitted : permits o.descriptor.usage usage
  · by_cases incompatible : 0 < o.lockCount && !o.lockedFor.contains usage
    · simp only [permitted, incompatible, Bool.not_true, Bool.false_eq_true, if_false, if_true]
      rfl
    · simp only [permitted, incompatible, Bool.not_true, Bool.false_eq_true, if_false]
      rcases o with ⟨d, i, backend, card, _ | buffer, n, lockedFor, fb⟩
      · rfl
      · by_cases sw : (usage ||| lockedFor).swAccess
        · simp only [sw, if_true, run_bind, run_map, mapForLock_run, Dialogue.hold]
          rcases (backend.map region (usage ||| lockedFor).swWrite).run.run buffer h with
            ⟨⟨_ | _, _⟩, _⟩ <;> rfl
        · simp only [sw, Bool.false_eq_true, if_false]
          rfl
  · simp only [permitted, Bool.not_false, if_true]
    rfl

/-! ## Unlocking -/

/-- The object with one lock less. -/
def withLockLess : BufferObject :=
  { o with
    lockCount := o.lockCount - 1
    lockedFor := if o.lockCount = 1 then .empty else o.lockedFor }

/-- The dialogue of `unlock`. -/
def unlockDialogue : Dialogue Unit :=
  if o.lockCount = 0 then .done () o
  else
    match o.buffer with
    | some buffer =>
      if o.lockedFor.swAccess then
        .unmap buffer fun buffer => .done () { o with buffer := some buffer }.withLockLess
      else .done () o.withLockLess
    | none => .done () o.withLockLess

/-- Running `unlock` is holding its dialogue. -/
theorem unlock_run :
    unlock.run o h =
      let held := (unlockDialogue o).hold o.backend h
      ((held.answer, held.object), held.host) := by
  simp only [unlock, unlockDialogue, run_get_bind_plain]
  by_cases free : o.lockCount = 0
  · simp only [free, if_true]
    rfl
  · simp only [free, if_false]
    rcases o with ⟨d, i, backend, card, _ | buffer, n, lockedFor, fb⟩ <;>
      by_cases sw : lockedFor.swAccess <;> simp only [sw, Bool.false_eq_true, if_true, if_false] <;>
      rfl

/-! ## Locking for planes -/

/-- What `lockPlanar` makes of the answer of `lock`. -/
def planarAnswer : Except Error (Option Address) → Except Error Ycbcr
  | .ok (some address) => .ok (.at address o.descriptor.stride o.descriptor.planarHeight)
  | .ok none => .error (.usageMismatch o.descriptor.usage usage)
  | .error e => .error e

/-- The dialogue of `lockPlanar`. -/
def lockPlanarDialogue : Dialogue (Except Error Ycbcr) :=
  let d := o.descriptor
  if d.format ≠ .ycbcr420 then .done (.error (.invalidFormat d.format.raw)) o
  else if !usage.swAccess then .done (.error (.usageMismatch d.usage usage)) o
  else (lockDialogue o usage region).answering (planarAnswer o usage)

/-- Running `lockPlanar` is holding its dialogue. -/
theorem lockPlanar_run :
    (lockPlanar usage region).run.run o h =
      let held := (lockPlanarDialogue o usage region).hold o.backend h
      ((held.answer, held.object), held.host) := by
  simp only [lockPlanar, lockPlanarDialogue, run_get_bind]
  by_cases format : o.descriptor.format = .ycbcr420
  · by_cases sw : usage.swAccess
    · simp only [format, sw, ne_eq, not_true, if_false, Bool.not_true, Bool.false_eq_true, run_bind,
        lock_run, Dialogue.hold_answering]
      rcases (lockDialogue o usage region).hold o.backend h with ⟨_ | _ | _, _, _, _⟩ <;> rfl
    · simp only [format, sw, ne_eq, not_true, if_false, Bool.not_false, if_true]
      rfl
  · simp only [format, ne_eq, not_false_eq_true, if_true]
    rfl

end BufferObject

end GraphicsBuffers

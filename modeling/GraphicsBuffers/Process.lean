import GraphicsBuffers.BufferObject.Lock
/-!
# Processes

A process has its host and the buffer objects that are alive in it. An object may be held by
several owners: its cell counts them, and when the last lets go the object is destroyed, if it was
not yet, and with it goes its hold on the card.
-/

namespace GraphicsBuffers

/-- The identity of a buffer object in its process. -/
abbrev ObjectId := Nat

/-- An object and the number of its holders. -/
structure Shared where
  object : BufferObject
  holders : Nat

/-- The state of a process. -/
structure Process where
  host : Host := {}
  objects : Table ObjectId Shared := .empty
  nextObject : ObjectId := 0

/-- A computation in a process. -/
abbrev ProcessM := StateM Process

/-- A computation on the host runs in any process on it. -/
instance : MonadLift HostM ProcessM where
  monadLift x := fun p =>
    let (a, host) := x p.host
    (a, { p with host })

namespace Process

/-- Runs a computation that may fail on the process's host. -/
def attempt {ε α : Type} (x : Attempt ε α) : ExceptT ε ProcessM α :=
  ExceptT.mk (MonadLift.monadLift x.run)

/-- The object of an identity. -/
def object? (p : Process) (id : ObjectId) : Option BufferObject :=
  (p.objects.get? id).map (·.object)

/-- Runs a computation on one object; `none` if there is no such object. -/
def onObject {α : Type} (id : ObjectId) (x : ObjectM α) : ProcessM (Option α) := fun p =>
  match p.objects.get? id with
  | none => (none, p)
  | some s =>
    let ((a, object), host) := x s.object p.host
    (some a, { p with host, objects := p.objects.insert id { s with object } })

/-- Takes in a new object, with one holder, and gives it a hold on its card. -/
def adopt (object : BufferObject) : ProcessM ObjectId := do
  object.card.hold
  modifyGet fun p =>
    (p.nextObject, { p with
      objects := p.objects.insert p.nextObject ⟨object, 1⟩
      nextObject := p.nextObject + 1 })

/-- Adds a holder of an object. -/
def share (id : ObjectId) : ProcessM Unit :=
  modify fun p =>
    match p.objects.get? id with
    | none => p
    | some s => { p with objects := p.objects.insert id { s with holders := s.holders + 1 } }

/-- Takes a holder of an object away. The last one takes the object along. -/
def release (id : ObjectId) : ProcessM Unit := do
  match (← get).objects.get? id with
  | none => return
  | some ⟨object, n + 2⟩ =>
    modify fun p => { p with objects := p.objects.insert id ⟨object, n + 1⟩ }
  | some ⟨object, _⟩ =>
    let _ ← onObject id BufferObject.destroy
    modify fun p => { p with objects := p.objects.erase id }
    object.card.release

end Process

end GraphicsBuffers

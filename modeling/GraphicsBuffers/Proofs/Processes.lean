import GraphicsBuffers.Registry
import GraphicsBuffers.Proofs.Objects
/-!
# Objects in a process, and the registry

What becomes of a process when an object is taken in, used, shared or let go, and what the calls of
the registry come to.
-/

namespace GraphicsBuffers

/-! ## Processes -/

namespace Process

variable (p : Process)

/-- The process after a computation on its host. -/
def after {α : Type} (x : HostM α) : Process := { p with host := (x.run p.host).2 }

/-- The process once an event is reported. -/
def reported (event : LogEvent) : Process := { p with host := p.host.reported event }

/-- The process with a new object, held once. -/
def adopted (object : BufferObject) : Process :=
  { p.after object.card.hold with
    objects := p.objects.insert p.nextObject ⟨object, 1⟩
    nextObject := p.nextObject + 1 }

/-- The process with a hold less on an object. -/
def released (id : ObjectId) : Process := (release id p).2

/-- The process once an object of it is destroyed. -/
def destroyed (id : ObjectId) : Process := (onObject id BufferObject.destroy p).2

theorem adopt_run (object : BufferObject) : adopt object p = (p.nextObject, p.adopted object) := rfl

theorem share_run (id : ObjectId) : share id p = ((), match p.objects.get? id with
    | none => p
    | some s => { p with objects := p.objects.insert id { s with holders := s.holders + 1 } }) := rfl

section Held
variable {p} {id : ObjectId}

theorem onObject_some {α : Type} {s : Shared} (held : p.objects.get? id = some s) (x : ObjectM α) :
    onObject id x p = (some (x.run s.object p.host).1.1,
      { p with
        host := (x.run s.object p.host).2
        objects := p.objects.insert id { s with object := (x.run s.object p.host).1.2 } }) := by
  simp only [onObject, held]
  rfl

theorem onObject_none {α : Type} (gone : p.objects.get? id = none) (x : ObjectM α) :
    onObject id x p = (none, p) := by
  simp only [onObject, gone]

theorem released_none (gone : p.objects.get? id = none) : p.released id = p := by
  unfold released release
  rw [get_bind_state, gone]
  rfl

theorem released_shared {o : BufferObject} {n : Nat} (held : p.objects.get? id = some ⟨o, n + 2⟩) :
    p.released id = { p with objects := p.objects.insert id ⟨o, n + 1⟩ } := by
  unfold released release
  rw [get_bind_state, held]
  rfl

theorem released_last {o : BufferObject} {n : Nat} (held : p.objects.get? id = some ⟨o, n⟩)
    (last : n < 2) :
    p.released id = { p with objects := p.objects.erase id }.after (do
      let _ ← BufferObject.destroy.run o
      o.card.release) := by
  have same : p.released id =
      ({ p.destroyed id with objects := (p.destroyed id).objects.erase id }).after o.card.release := by
    unfold released release
    rw [get_bind_state, held]
    match n, last with
    | 0, _ => rfl
    | 1, _ => rfl
  rw [same, destroyed, onObject_some held]
  dsimp only
  rw [Table.erase_insert_self]
  rfl

/-- To let go of an object does nothing, leaves it to others, or ends it. -/
theorem released_cases (p : Process) (id : ObjectId) :
    (p.objects.get? id = none ∧ p.released id = p) ∨
      (∃ o n, p.objects.get? id = some ⟨o, n + 2⟩ ∧
        p.released id = { p with objects := p.objects.insert id ⟨o, n + 1⟩ }) ∨
      ∃ o n, p.objects.get? id = some ⟨o, n⟩ ∧ n < 2 ∧
        p.released id = { p with objects := p.objects.erase id }.after (do
          let _ ← BufferObject.destroy.run o
          o.card.release) := by
  rcases held : p.objects.get? id with _ | ⟨o, _ | _ | n⟩
  · exact .inl ⟨rfl, released_none held⟩
  · exact .inr (.inr ⟨o, 0, rfl, Nat.two_pos, released_last held Nat.two_pos⟩)
  · exact .inr (.inr ⟨o, 1, rfl, Nat.one_lt_two, released_last held Nat.one_lt_two⟩)
  · exact .inr (.inl ⟨o, n, rfl, released_shared held⟩)

end Held

end Process

/-! ## The registry -/

namespace Registry

variable (r : Registry) (p : Process)

/-- Inserting an object with a key that is free takes over the caller's hold. -/
theorem insert_run_free {id : ObjectId} {o : BufferObject} {key : MemoryRef}
    (object : p.object? id = some o) (keyed : o.descriptor.key? = some key)
    (free : r.contains key = false) :
    (insert id).run.run r p = ((.ok key, ⟨r.entries.insert key ⟨id, 1⟩⟩), p) := by
  unfold insert
  rw [run_getBelow_bind, object, Option.bind_some, keyed, run_getThe_bind, free]
  rfl

/-- Inserting an object with a key that is taken lets the object go. -/
theorem insert_run_taken {id : ObjectId} {o : BufferObject} {key : MemoryRef}
    (object : p.object? id = some o) (keyed : o.descriptor.key? = some key)
    (taken : r.contains key = true) :
    (insert id).run.run r p =
      ((.error .invalidHandle, r), (p.reported (.alreadyRegistered key)).released id) := by
  unfold insert
  rw [run_getBelow_bind, object, Option.bind_some, keyed, run_getThe_bind, taken]
  rfl

theorem acquire_run (key : MemoryRef) :
    (acquire key).run r p = match r.entries.get? key with
      | none => ((none, r), p)
      | some e => ((some e.object,
          ⟨r.entries.insert key { e with references := e.references + 1 }⟩), p) := by
  unfold acquire
  rw [run_getThe_bind_plain]
  cases r.entries.get? key <;> rfl

theorem release_run (key : MemoryRef) (count : Nat) :
    (release key count).run.run r p = match r.entries.get? key with
      | none => ((.error .invalidHandle, r), p)
      | some e =>
        if count < e.references then
          ((.ok false, ⟨r.entries.insert key { e with references := e.references - count }⟩), p)
        else
          ((.ok true, ⟨r.entries.erase key⟩),
            ((p.destroyed e.object).reported (.unregistered key)).released e.object) := by
  unfold release
  rw [run_getThe_bind]
  rcases r.entries.get? key with _ | e
  · rfl
  · by_cases left : count < e.references
    · have positive : 0 < e.references - count := by omega
      simp only [left, positive, if_true]
      rfl
    · have none : ¬0 < e.references - count := by omega
      simp only [left, none, if_false]
      rfl

end Registry

end GraphicsBuffers

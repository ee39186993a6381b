import GraphicsBuffers.Proofs.Imports
/-!
# Handles with the same key

A caller can write anything into a handle. On a registered buffer it makes no difference: calls
find the buffer by the key of its memory, and go by what the buffer's own object was made with
(`Client.step_withHandle`). So calls with a forged handle are calls with the buffer's own, one by
one and in a whole run (`Client.Redirected.run`).
-/

namespace GraphicsBuffers

/-! ## Calls that are addressed with a handle -/

namespace Operation

/-- The handle that a call on a buffer is addressed with. -/
def handle? : Operation → Option Descriptor
  | register d | unregister d | dropLocal d | lock d _ _ | lockPlanar d _ _ | unlock d | planes d
  | hold d => some d
  | _ => none

/-- The same call with another handle. -/
def withHandle (d : Descriptor) : Operation → Operation
  | register _ => register d
  | unregister _ => unregister d
  | dropLocal _ => dropLocal d
  | lock _ usage region => lock d usage region
  | lockPlanar _ usage region => lockPlanar d usage region
  | unlock _ => unlock d
  | planes _ => planes d
  | hold _ => hold d
  | op => op

end Operation

namespace Allocator

variable {a : Allocator} {d d' : Descriptor} {key : MemoryRef}

theorem keyOf_congr (same : d'.key? = d.key?) : keyOf d' = keyOf d := by
  unfold keyOf
  rw [same]

theorem lookup_congr (same : d'.key? = d.key?) : a.lookup d' = a.lookup d := by
  unfold lookup
  rw [keyOf_congr same]

theorem lookup_of_known {e : Registration} (keyed : d.key? = some key)
    (known : a.registry.entries.get? key = some e) : a.lookup d = .ok e.object := by
  simp [lookup, keyOf, keyed, Registry.get?, known, bind, Except.bind]

/-- Registering what is registered already only counts a reference. -/
theorem register_known (keyed : d.key? = some key) (known : a.registry.contains key) (p : Process) :
    (register d).run.run a p = match (onContext Context.ready).run.run a p with
      | ((.error e, a), p) => ((.error e, a), p)
      | ((.ok _, a), p) => a.acquired p key := by
  rw [register_run, keyed, run_onContext]
  rcases Context.ready.run.run a.context p.host with ⟨⟨_ | r, context⟩, h⟩
  · rfl
  · simp only [known, if_true]

end Allocator

/-! ## One call -/

namespace Client

variable {c : Client} {op : Operation} {d d' : Descriptor} {key : MemoryRef}

theorem onAllocator_congr {α : Type} {a : Allocator} (allocator : c.allocator = some a)
    {x x' : ExceptT Error AllocatorM α} (eq : x'.run.run a c.process = x.run.run a c.process) :
    c.onAllocator x' = c.onAllocator x := by
  unfold onAllocator
  simp only [allocator]
  rw [eq]

/-- A call addressed to a registered buffer comes to the same with every handle of its key: it
answers the same, asks the same of the kernel and leaves the same state. -/
theorem step_withHandle (addressed : op.handle? = some d) (keyed : d.key? = some key)
    (keyed' : d'.key? = some key) {e : Registration} (known : c.registration? key = some e) :
    c.step (op.withHandle d') = c.step op := by
  obtain ⟨a, allocator, known⟩ := Option.bind_eq_some_iff.1 known
  have same : d'.key? = d.key? := keyed'.trans keyed.symm
  have found : a.lookup d' = a.lookup d := a.lookup_congr same
  have onBuffer {α : Type} (x : ExceptT Error ObjectM α) :
      c.onAllocator (Allocator.onBuffer d' x) = c.onAllocator (Allocator.onBuffer d x) := by
    apply onAllocator_congr allocator
    rw [Allocator.onBuffer_run, Allocator.onBuffer_run, found]
  cases op <;> simp only [Operation.handle?, reduceCtorEq, Option.some.injEq] at addressed <;>
    subst addressed <;> simp only [Operation.withHandle, step]
  case register d =>
    have contains : a.registry.contains key := by simp [Registry.contains, Table.contains, known]
    rw [onAllocator_congr allocator]
    rw [Allocator.register_known keyed contains, Allocator.register_known keyed' contains]
  case unregister d =>
    rw [onAllocator_congr allocator]
    rw [Allocator.unregister_run, Allocator.unregister_run, same]
  case dropLocal d =>
    rw [onAllocator_congr allocator]
    rw [Allocator.dropLocal_run, Allocator.dropLocal_run, same]
  case lock d usage region => exact congrArg _ (onBuffer (BufferObject.lock usage region))
  case lockPlanar d usage region => exact congrArg _ (onBuffer (BufferObject.lockPlanar usage region))
  case unlock d =>
    have unlock : (Allocator.unlock d').run a c.process = (Allocator.unlock d).run a c.process := by
      -- Only a handle of no registered buffer is reported.
      rw [Allocator.unlock_run, Allocator.unlock_run, found, Allocator.lookup_of_known keyed known]
    rw [onAllocator_congr allocator]
    exact congrArg (fun result => ((Except.ok result.1.1, result.1.2), result.2)) unlock
  case planes d =>
    rw [onAllocator_congr allocator]
    rw [Allocator.planes_run, Allocator.planes_run, found]
  case hold d =>
    rw [onAllocator_congr allocator]
    rw [Allocator.hold_run, Allocator.hold_run, found]

/-! ## Whole runs -/

/-- The same calls one after the other, some of them with other handles: a handle may be replaced by
one with the same key, where the key is registered when the call is made. -/
inductive Redirected : Client → List Operation → List Operation → Prop
  | nil (c : Client) : Redirected c [] []
  | same {c : Client} {op : Operation} {calls calls' : List Operation}
    (rest : Redirected (c.step op).2 calls calls') : Redirected c (op :: calls) (op :: calls')
  | other {c : Client} {op : Operation} {d d' : Descriptor} {key : MemoryRef} {e : Registration}
    {calls calls' : List Operation} (addressed : op.handle? = some d) (keyed : d.key? = some key)
    (keyed' : d'.key? = some key) (known : c.registration? key = some e)
    (rest : Redirected (c.step op).2 calls calls') :
    Redirected c (op :: calls) (op.withHandle d' :: calls')

theorem Redirected.run {calls calls' : List Operation} (redirected : c.Redirected calls calls') :
    (c.replies calls').map (·.2) = (c.replies calls).map (·.2) ∧ c.run calls' = c.run calls := by
  induction redirected with
  | nil c => exact ⟨rfl, rfl⟩
  | @same c op calls calls' rest ih =>
    obtain ⟨replies, state⟩ := ih
    constructor
    · simp only [Client.replies, List.map_cons, replies]
    · exact state
  | @other c op d d' key e calls calls' addressed keyed keyed' known rest ih =>
    obtain ⟨replies, state⟩ := ih
    have step := step_withHandle addressed keyed keyed' known
    constructor
    · simp only [Client.replies, List.map_cons, step, replies]
    · show (c.step (op.withHandle d')).2.run calls' = (c.step op).2.run calls
      rw [step, state]

end Client

/-! ## What a buffer was made with -/

/-- What there is of an object later on is the same for good. -/
theorem Process.Evolves.lasts {p p' : Process} (evolves : p.Evolves p') {id : ObjectId} {sh : Shared}
    (below : id < p.nextObject) (held : p.objects.get? id = some sh) :
    id < p'.nextObject ∧ ∀ sh', p'.objects.get? id = some sh' → sh.object.Lasts sh'.object := by
  induction evolves with
  | refl =>
    refine ⟨below, fun sh' held' => ?_⟩
    cases held.symm.trans held'
    exact ⟨rfl, rfl, rfl, rfl, .same rfl⟩
  | tail _ last ih =>
    obtain ⟨below, lasts⟩ := ih
    cases last with
    | hosted host => exact ⟨below, lasts⟩
    | arrived o =>
      refine ⟨Nat.lt_succ_of_lt below, fun sh' held' => lasts sh' ?_⟩
      rwa [Table.get?_insert_of_ne _ _ (Nat.ne_of_lt below)] at held'
    | @used id' s o held₁ lasts₁ n =>
      refine ⟨below, fun sh' held' => ?_⟩
      rw [Table.get?_insert] at held'
      split at held'
      · next same =>
        subst same
        cases held'
        exact (lasts s held₁).trans lasts₁
      · exact lasts sh' held'
    | gone id' =>
      refine ⟨below, fun sh' held' => lasts sh' ?_⟩
      rw [Table.get?_erase] at held'
      split at held'
      · cases held'
      · exact held'

namespace BufferObject

/-- A lock for more than was declared is refused. -/
theorem lock_undeclared {o : BufferObject} {usage : Usage}
    (undeclared : permits o.descriptor.usage usage = false) (region : Region) (h : Host) :
    ((lock usage region).run.run o h).1.1 = .error (.usageMismatch o.descriptor.usage usage) := by
  rw [lock_run]
  unfold lockDialogue
  simp [undeclared, Dialogue.hold]

/-- A lock that answers planes answers those of the object's own stride and lines, and for a usage that
was declared. -/
theorem lockPlanar_ok {o : BufferObject} {usage : Usage} (region : Region) (h : Host) {y : Ycbcr}
    (ok : ((lockPlanar usage region).run.run o h).1.1 = .ok y) :
    permits o.descriptor.usage usage ∧
      ∃ address, y = .at address o.descriptor.stride o.descriptor.planarHeight := by
  rw [lockPlanar_run] at ok
  unfold lockPlanarDialogue at ok
  dsimp only at ok
  split at ok
  · cases ok
  split at ok
  · cases ok
  rw [Dialogue.hold_answering] at ok
  cases answer : ((lockDialogue o usage region).hold o.backend h).answer with
  | error e => simp [answer, planarAnswer] at ok
  | ok address =>
    constructor
    · by_contra undeclared
      have refused := lock_undeclared (Bool.eq_false_iff.2 undeclared) region h
      rw [lock_run] at refused
      exact absurd (answer.symm.trans refused) nofun
    · cases address with
      | none => simp [answer, planarAnswer] at ok
      | some address =>
        simp only [answer, planarAnswer, Except.ok.injEq] at ok
        exact ⟨address, ok.symm⟩

end BufferObject

namespace Client

/-- What the handles of a key can and cannot do. -/
structure KeyDecides (c : Client) : Prop where
  /-- A call addressed to a registered buffer answers the same, asks the same of the kernel and leaves
  the same state with every handle of the buffer's key. -/
  step : ∀ op d d' key e, op.handle? = some d → d.key? = some key → d'.key? = some key →
    c.registration? key = some e → c.step (op.withHandle d') = c.step op
  /-- The references counted for a handle are those of its key. -/
  references : ∀ a d d', c.allocator = some a → d'.key? = d.key? → a.references? d' = a.references? d
  /-- Calls in a row answer the same and end in the same state with other handles of the same keys, as
  long as the keys are registered. -/
  run : ∀ calls calls', c.Redirected calls calls' →
    (c.replies calls').map (·.2) = (c.replies calls).map (·.2) ∧ c.run calls' = c.run calls
  /-- The handle a registered buffer was made with has the buffer's key, and nothing changes it. It
  decides which locks are granted and where the planes are. -/
  original : ∀ key e, c.registration? key = some e →
    ∃ o, c.process.object? e.object = some o ∧ o.descriptor.key? = some key ∧
      (∀ calls o', (c.run calls).process.object? e.object = some o' →
        o'.descriptor = o.descriptor) ∧
      (∀ d usage region, d.key? = some key → BufferObject.permits o.descriptor.usage usage = false →
        (c.step (.lock d usage region)).1 = .error (.usageMismatch o.descriptor.usage usage)) ∧
      (∀ d, d.key? = some key → (c.step (.planes d)).1 = .ok (.planes (o.planes? c.process.host))) ∧
      ∀ d usage region y, d.key? = some key →
        (c.step (.lockPlanar d usage region)).1 = .ok (.planar y) →
        BufferObject.permits o.descriptor.usage usage ∧
          ∃ address, y = .at address o.descriptor.stride o.descriptor.planarHeight

section Known

variable {c : Client} {d : Descriptor} {key : MemoryRef} {e : Registration} {o : BufferObject}

/-- What a call on a registered buffer answers. -/
theorem onBuffer_answer {α : Type} (keyed : d.key? = some key) (known : c.registration? key = some e)
    (object : c.process.object? e.object = some o) (x : ExceptT Error ObjectM α) :
    (c.onAllocator (Allocator.onBuffer d x)).1 = (x.run.run o c.process.host).1.1 := by
  obtain ⟨a, allocator, known⟩ := Option.bind_eq_some_iff.1 known
  obtain ⟨sh, held, rfl⟩ := Option.map_eq_some_iff.1 object
  unfold onAllocator
  simp only [allocator]
  rw [Allocator.onBuffer_run, Allocator.lookup_of_known keyed known]
  dsimp only
  rw [Process.onObject_some held]
  rfl

theorem planes_answer (keyed : d.key? = some key) (known : c.registration? key = some e)
    (object : c.process.object? e.object = some o) :
    (c.step (.planes d)).1 = .ok (.planes (o.planes? c.process.host)) := by
  obtain ⟨a, allocator, known⟩ := Option.bind_eq_some_iff.1 known
  simp only [step, onAllocator, replying, allocator]
  rw [Allocator.planes_run, Allocator.lookup_of_known keyed known]
  simp [Except.map, object]

end Known

/-- In every state a client can get to, a handle counts for no more than its key. -/
theorem key_decides (host : Host) (opener : Opener) (table : BackendTable) (before : List Operation) :
    ((start host opener table).run before).KeyDecides := by
  have inOrder := (start_inOrder host opener table).run before
  generalize (start host opener table).run before = c at inOrder
  constructor
  case step =>
    intro op d d' key e addressed keyed keyed' known
    exact step_withHandle addressed keyed keyed' known
  case references =>
    intro a d d' _ same
    unfold Allocator.references?
    rw [same]
  case run =>
    intro calls calls' redirected
    exact redirected.run
  case original =>
    intro key e known
    obtain ⟨-, cell, found, keyed, -⟩ := inOrder.consistent.entry key e known
    obtain ⟨sh, held, rfl⟩ := Option.map_eq_some_iff.1 found
    have object : c.process.object? e.object = some sh.object := by simp [Process.object?, held]
    have below : e.object < c.process.nextObject := inOrder.consistent.entry_lt known
    refine ⟨sh.object, object, keyed, ?_, ?_, ?_, ?_⟩
    · intro calls o' object'
      obtain ⟨sh', held', rfl⟩ := Option.map_eq_some_iff.1 object'
      exact (((c.run_evolves calls).lasts below held).2 sh' held').descriptor
    · intro d usage region keyed undeclared
      have answer := onBuffer_answer keyed known object (BufferObject.lock usage region)
      rw [BufferObject.lock_undeclared undeclared] at answer
      exact congrArg (Except.map Reply.address) answer
    · intro d keyed
      exact planes_answer keyed known object
    · intro d usage region y keyed ok
      have answer := onBuffer_answer keyed known object (BufferObject.lockPlanar usage region)
      apply BufferObject.lockPlanar_ok region c.process.host
      rw [← answer]
      obtain ⟨y', eq, same⟩ := replying_ok (Prod.ext ok rfl)
      cases same
      exact congrArg Prod.fst eq

/-- A buffer imported for writing is not locked for reading, whatever a later handle declares. -/
example :
    ((receiving.step (.register { twoPages with usage := .swWriteOften })).2.step
      (.lock { twoPages with usage := .swReadOften } .swReadOften {})).1.isOk = false := by
  decide +kernel

end Client

end GraphicsBuffers

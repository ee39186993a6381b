import GraphicsBuffers.Proofs.Causes
import GraphicsBuffers.Proofs.Neighbours
/-!
# Calls that fail

A call that fails on the way leaves everything as it was: the registry and all objects in any case
(`Client.Intact`), and what the kernel has given out as well if what is given back on the way is taken back
(`Kernel.Restores`). That the kernel has nothing more and nothing less is not followed along the many ways
to fail. It is read off the ledgers at both ends: the objects are the same, so what is held is, and then
whatever has begun since has ended since.
-/

namespace GraphicsBuffers

/-! ## Objects -/

namespace BufferObject

variable {o : BufferObject} {fd : Int32} {h : Host}

theorem attach_whole (failed : (attachFramebuffer.run.run o h).1.1.isOk = false) :
    (attachFramebuffer.run.run o h).1.2 = o := by
  revert failed
  rw [attachFramebuffer_run]
  split
  · nofun
  · exact fun _ => rfl
  · split
    · nofun
    · exact fun _ => rfl

theorem lockDialogue_whole (dumb : o.backend = .dumb fd) {usage : Usage} {region : Region}
    (failed : ((lockDialogue o usage region).hold o.backend h).answer.isOk = false) :
    ((lockDialogue o usage region).hold o.backend h).object = o := by
  revert failed
  unfold lockDialogue
  dsimp only
  split
  · exact fun _ => rfl
  split
  · exact fun _ => rfl
  split
  · exact fun _ => rfl
  next buffer found =>
  split
  · have asked : (o.backend.map region (usage ||| o.lockedFor).swWrite).run.run buffer h =
        (Dumb.map fd).run.run buffer h := by
      rw [dumb]
      rfl
    have unmapped : ((Dumb.map fd).run.run buffer h).1.1.isOk = false →
        ((Dumb.map fd).run.run buffer h).1.2 = buffer := by
      rw [Dumb.map_run]
      split
      · exact fun failed => by cases failed
      · split
        · exact fun failed => by cases failed
        · exact fun _ => rfl
    simp only [Dialogue.hold, asked]
    rcases eq : (Dumb.map fd).run.run buffer h with ⟨⟨e | address, b⟩, h'⟩ <;> rw [eq] at unmapped
    · intro _
      obtain rfl : b = buffer := unmapped rfl
      exact congrArg (fun buffer => { o with buffer }) found.symm
    · exact fun failed => by cases failed
  · exact fun failed => by cases failed

theorem lock_whole (dumb : o.backend = .dumb fd) {usage : Usage} {region : Region}
    (failed : ((lock usage region).run.run o h).1.1.isOk = false) :
    ((lock usage region).run.run o h).1.2 = o := by
  rw [lock_run] at failed ⊢
  exact lockDialogue_whole dumb failed

theorem lockPlanar_whole (dumb : o.backend = .dumb fd) {usage : Usage} {region : Region}
    (failed : ((lockPlanar usage region).run.run o h).1.1.isOk = false) :
    ((lockPlanar usage region).run.run o h).1.2 = o := by
  rw [lockPlanar_run] at failed ⊢
  revert failed
  unfold lockPlanarDialogue
  dsimp only
  split
  · exact fun _ => rfl
  split
  · exact fun _ => rfl
  next software =>
  rw [Dialogue.hold_answering]
  dsimp only
  cases answer : ((lockDialogue o usage region).hold o.backend h).answer with
  | error e => exact fun _ => lockDialogue_whole dumb (answer ▸ rfl)
  | ok address =>
    -- A lock with software access that is granted has an address.
    have mapped := lockDialogue_address answer
    have software : usage.swAccess := by simpa using software
    rw [Usage.swAccess_or, software, Bool.true_or] at mapped
    obtain ⟨address, rfl⟩ := Option.isSome_iff_exists.1 mapped
    nofun

end BufferObject

/-! ## Calls of the allocator -/

namespace Process

/-- The same objects are held as often. -/
def SameObjects (p p' : Process) : Prop := ∀ id, p'.objects.get? id = p.objects.get? id

/-- Nothing is made of an object that stays the same. -/
theorem SameObjects.onObject {α : Type} {p : Process} {id : ObjectId} {x : ObjectM α}
    (same : ∀ sh, p.objects.get? id = some sh → (x.run sh.object p.host).1.2 = sh.object) :
    p.SameObjects (onObject id x p).2 := by
  intro id'
  cases held : p.objects.get? id with
  | none => rw [onObject_none held]
  | some sh =>
    rw [onObject_some held]
    dsimp only
    rw [same sh held, Table.get?_insert]
    split
    · next eq => rw [eq, held]
    · rfl

end Process

namespace Allocator

variable {a : Allocator} {p : Process} {α : Type}

/-- A call that fails leaves the allocator and the objects as they were. -/
def Whole (a : Allocator) (p : Process) (result : (Except Error α × Allocator) × Process) : Prop :=
  result.1.1.isOk = false → result.1.2 = a ∧ p.SameObjects result.2

/-- An object that collides with a registered one is gone again. -/
theorem adopt_whole (fresh : p.objects.get? p.nextObject = none) {o : BufferObject} {key : MemoryRef}
    (keyed : o.descriptor.key? = some key) : a.Whole p ((adopt o).run.run a p) := by
  rw [adopt_run a p keyed]
  split
  · have held : ((p.adopted o).reported (.alreadyRegistered key)).objects.get? p.nextObject =
        some ⟨o, 1⟩ := Table.get?_insert_self ..
    rw [Process.released_last held Nat.one_lt_two]
    refine fun _ => ⟨rfl, fun id => ?_⟩
    have left : ((p.objects.insert p.nextObject ⟨o, 1⟩).erase p.nextObject).get? id =
        p.objects.get? id := by
      rw [Table.erase_insert_self, Table.get?_erase]
      split
      · next eq => rw [eq, fresh]
      · rfl
    exact left
  · exact fun failed => by cases failed

theorem acquired_ok {key : MemoryRef} (known : a.registry.contains key) (p : Process) :
    (a.acquired p key).1.1 = .ok () := by
  obtain ⟨e, known⟩ := Option.isSome_iff_exists.1 known
  unfold acquired
  rw [known]

section Ready

variable {r : Ready} (is : a.context.state = .ready r)
include is

theorem create_whole (fresh : p.objects.get? p.nextObject = none) (width height : UInt32) (raw : Int32)
    (usage : Usage) : a.Whole p ((create width height raw usage).run.run a p) := by
  rw [create_run]
  split
  · exact fun _ => ⟨rfl, fun _ => rfl⟩
  rw [onContext_at_once is]
  dsimp only
  rcases made : (BufferObject.create r.backend r.card width height _ usage).run p.host
    with ⟨e | o, h⟩ <;> rw [attempt_eq made]
  · exact fun _ => ⟨rfl, fun _ => rfl⟩
  have born := BufferObject.create_fresh (congrArg Prod.fst made)
  obtain ⟨key, keyed⟩ := Option.isSome_iff_exists.1 born.keyed
  have whole : a.Whole p ((adopt o).run.run a { p with host := h }) :=
    adopt_whole (p := { p with host := h }) fresh keyed
  dsimp only
  rcases adopting : (adopt o).run.run a { p with host := h } with ⟨⟨e | _, a₁⟩, p₁⟩ <;>
    rw [adopting] at whole
  · exact whole
  · nofun

theorem register_whole (fresh : p.objects.get? p.nextObject = none) (d : Descriptor) :
    a.Whole p ((register d).run.run a p) := by
  rw [register_run]
  split
  · exact fun _ => ⟨rfl, fun _ => rfl⟩
  next key keyed =>
  rw [onContext_at_once is]
  dsimp only
  split
  · next known =>
    intro failed
    rw [acquired_ok known] at failed
    cases failed
  rcases made : (BufferObject.importFrom r.backend r.card d).run p.host with ⟨e | o, h⟩ <;>
    rw [attempt_eq made]
  · exact fun _ => ⟨rfl, fun _ => rfl⟩
  obtain ⟨-, descriptor⟩ := BufferObject.importFrom_fresh (congrArg Prod.fst made)
  have whole : a.Whole p ((adopt o).run.run a { p with host := h }) :=
    adopt_whole (p := { p with host := h }) fresh (descriptor ▸ keyed)
  have registered := adopt_run a { p with host := h } (o := o) (descriptor ▸ keyed)
  dsimp only
  rcases adopting : (adopt o).run.run a { p with host := h } with ⟨⟨e | _, a₁⟩, p₁⟩ <;>
    rw [adopting] at whole registered
  · exact whole
  · -- What is adopted is registered, so the reference is counted.
    intro failed
    split at registered <;> cases registered
    rw [acquired_ok (by simp [Registry.contains, Table.contains])] at failed
    cases failed

theorem exchange_whole {α : Type} (x : Wire.Exchange α) :
    a.Whole p ((onContext (Context.exchange x)).run.run a p) := by
  rw [run_onContext, Context.exchange_run, Context.ready_run_ready is]
  exact fun _ => ⟨rfl, fun _ => rfl⟩

end Ready

theorem onBuffer_whole {d : Descriptor} {x : ExceptT Error ObjectM α}
    (whole : ∀ id sh, p.objects.get? id = some sh → (x.run.run sh.object p.host).1.1.isOk = false →
      (x.run.run sh.object p.host).1.2 = sh.object) : a.Whole p ((onBuffer d x).run.run a p) := by
  rw [onBuffer_run]
  split
  · exact fun _ => ⟨rfl, fun _ => rfl⟩
  next id found =>
  intro failed
  refine ⟨rfl, .onObject fun sh held => whole id sh held ?_⟩
  rw [Process.onObject_some held] at failed
  exact failed

end Allocator

/-! ## What is given out -/

/-- What is held before and after has neither begun nor ended in between, and anything else has begun as
often as it has ended. -/
theorem Audit.between {new es : List Event} {l l' : Ledger} (audit : Audit es l)
    (audit' : Audit (new ++ es) l') {i : Item} (same : l'.Has i ↔ l.Has i) :
    new.countP (·.ends = some i) = new.countP (·.begins = some i) ∧
      new.countP (·.begins = some i) + es.countP (·.begins = some i) ≤ 1 := by
  have after := audit'.balanced i
  rw [same, List.countP_append, List.countP_append] at after
  rcases audit.balanced i with ⟨has, begun, ended⟩ | ⟨gone, begun, ended⟩
  · rcases after with ⟨-, begun', ended'⟩ | ⟨gone, -⟩
    · omega
    · exact absurd has gone
  · rcases after with ⟨has, -⟩ | ⟨-, begun', ended'⟩
    · exact absurd has gone
    · omega

theorem made_iff {trace : List TraceEntry} {r : Resource} : Made trace r ↔
    0 < (trace.map TraceEntry.event).countP (·.begins = some r.item) := by
  simp [Made, TraceEntry.Makes, List.countP_pos_iff]

theorem ended_iff {trace : List TraceEntry} {i : Item} : (∃ entry ∈ trace, entry.event.ends = some i) ↔
    0 < (trace.map TraceEntry.event).countP (·.ends = some i) := by
  simp [List.countP_pos_iff]

namespace Kernel

variable {k k' : Kernel} {s : Surroundings} {l l' : Ledger} {new : List TraceEntry}

/-- What a kernel has given out is as before. -/
structure Restores (k k' : Kernel) : Prop where
  handles : ∀ handle, k'.handles.get? handle = k.handles.get? handle
  framebuffers : ∀ id, id ∈ k'.framebuffers ↔ id ∈ k.framebuffers
  mappings : ∀ id, k'.mappings.get? id = k.mappings.get? id

/-- If the same is held and all that was given back was taken back, then what is there is what was. -/
theorem Audited.live_same (audited : k.Audited s l) (audited' : k'.Audited s l') (traced : k.Traced)
    (traced' : k'.Traced) (trace : k'.trace = new ++ k.trace)
    (same : ∀ r : Resource, l'.Has r.item ↔ l.Has r.item)
    (given : ∀ entry ∈ new, entry.event.ends.isSome → entry.succeeded) : k'.live = k.live := by
  have audit' : Audit (new.map TraceEntry.event ++ k.trace.map TraceEntry.event) l' := by
    rw [← List.map_append, ← trace]
    exact audited'.audit
  refine Set.ext fun r => ?_
  obtain ⟨ended, once⟩ := audited.audit.between audit' (same r)
  rw [traced'.live, traced.live, trace, made_append, returned_append]
  by_cases begun : Made new r
  · -- What is new has been given back, and was not there before.
    have positive := made_iff.1 begun
    have unmade : ¬Made k.trace r := by
      rw [made_iff]
      omega
    have returned : Returned new r := by
      obtain ⟨entry, mem, ends⟩ := ended_iff.2 (ended.symm ▸ positive)
      exact ⟨entry, mem, given entry mem (ends ▸ rfl), ends⟩
    simp [returned, unmade]
  · have kept : ¬Returned new r := by
      rintro ⟨entry, mem, -, ends⟩
      exact begun (made_iff.2 (ended ▸ ended_iff.1 ⟨entry, mem, ends⟩))
    simp [begun, kept]

/-- Numbers are not given out again, so what is there is as it was. -/
theorem Older.restores (older : k.Older k') (traced : k.Traced) (live : k'.live = k.live) :
    k.Restores k' := by
  have spent (r : Resource) (there : r ∈ k'.live) : k.Spent r.item := by
    rw [live] at there
    exact traced.spent r ((traced.live r).1 there).1
  have contains (r : Resource) : r ∈ k'.live ↔ r ∈ k.live := by rw [live]
  constructor
  · intro handle
    cases there : k'.handles.get? handle with
    | some place =>
      have here : Resource.handle handle ∈ k'.live := by simp [Table.contains, there]
      exact (older.handles handle place (spent _ here) there).symm
    | none =>
      have absent : Resource.handle handle ∉ k.live := by
        rw [← contains]
        simp [Table.contains, there]
      exact (Option.not_isSome_iff_eq_none.1 absent).symm
  · intro id
    simpa using contains (.framebuffer id)
  · intro id
    cases there : k'.mappings.get? id with
    | some range =>
      have here : Resource.mapping id ∈ k'.live := by simp [Table.contains, there]
      exact (older.mappings id range (spent _ here) there).symm
    | none =>
      have absent : Resource.mapping id ∉ k.live := by
        rw [← contains]
        simp [Table.contains, there]
      exact (Option.not_isSome_iff_eq_none.1 absent).symm

end Kernel

/-! ## Calls of a client -/

/-- The calls that make or import a buffer, map one, attach a framebuffer, or ask the card for
something. -/
def Operation.asks : Operation → Bool
  | create .. | register _ | lock .. | lockPlanar .. | attach _ | authMagic | authenticate _ | acquireMaster
  | releaseMaster => true
  | _ => false

namespace Client

variable {c c' : Client} {a : Allocator} {r : Ready} {fd : Int32} {op : Operation} {α : Type}

/-- The allocator, the objects and what the client holds are as they were. -/
structure Intact (c c' : Client) : Prop where
  allocator : c'.allocator = c.allocator
  objects : c.process.SameObjects c'.process
  holds : c'.holds = c.holds
  cards : c'.cards = c.cards

theorem Intact.refl (c : Client) : c.Intact c := ⟨rfl, fun _ => rfl, rfl, rfl⟩

/-- What a call has added to the trace, and how that goes with its answer; and if it has failed, it has
left everything as it was. -/
def Answers (c : Client) (result : Except Error Reply × Client) : Prop :=
  (∃ new, result.2.kernel.trace = new ++ c.kernel.trace ∧ Blamed Error.errno new result.1) ∧
    (result.1.isOk = false → c.Intact result.2)

theorem replying_answers {x : ExceptT Error AllocatorM α} {f : α → Reply}
    (allocator : c.allocator = some a)
    (blames : Allocator.Adds c.process (x.run.run a c.process) (Blamed Error.errno))
    (whole : a.Whole c.process (x.run.run a c.process)) : c.Answers (replying f (c.onAllocator x)) := by
  obtain ⟨p, _, holds, cards⟩ := c
  cases allocator
  obtain ⟨new, trace, blamed⟩ := blames
  refine ⟨⟨new, trace, blamed.map f⟩, fun failed => ?_⟩
  have failed : ((x.run.run a p).1.1.map f).isOk = false := failed
  rw [LockHistory.isOk_map] at failed
  obtain ⟨same, objects⟩ := whole failed
  exact ⟨congrArg some same, objects, rfl, rfl⟩

theorem attach_answers (id : ObjectId) : c.Answers (c.step (.attach id)) := by
  unfold step onObject
  dsimp only
  split
  · cases held : c.process.objects.get? id with
    | none =>
      rw [Process.onObject_none held]
      exact ⟨⟨[], rfl, .of_none rfl _⟩, fun _ => .refl c⟩
    | some sh =>
      have objects : (BufferObject.attachFramebuffer.run.run sh.object c.process.host).1.1.isOk = false →
          c.process.SameObjects
            (Process.onObject id BufferObject.attachFramebuffer.run c.process).2 := by
        intro failed
        refine .onObject fun sh' held' => ?_
        cases held.symm.trans held'
        exact BufferObject.attach_whole failed
      obtain ⟨new, trace, framed⟩ := sh.object.attach_adds c.process.host
      rw [Process.onObject_some held] at objects ⊢
      refine ⟨⟨new, trace, framed.blamed.map _⟩, fun failed => ?_⟩
      have failed : ((BufferObject.attachFramebuffer.run.run sh.object c.process.host).1.1.map
        Reply.word).isOk = false := failed
      rw [LockHistory.isOk_map] at failed
      exact ⟨rfl, objects failed, rfl, rfl⟩
  · exact ⟨⟨[], rfl, .of_none rfl _⟩, fun _ => .refl c⟩

/-- The client's allocator is ready on the card `fd`, and its objects are on the dumb-buffer backend. -/
structure Works (c : Client) (a : Allocator) (r : Ready) (fd : Int32) : Prop where
  allocator : c.allocator = some a
  ready : a.context.state = .ready r
  backend : r.backend = .dumb fd
  card : r.card.fd = fd
  watched : Kernel.isWatched fd
  objects : ∀ id sh, c.process.objects.get? id = some sh → sh.object.backend = .dumb fd
  fresh : c.process.objects.get? c.process.nextObject = none

namespace Works

variable (works : c.Works a r fd)
include works

theorem onAllocator (x : ExceptT Error AllocatorM α) : c.onAllocator x =
    ((x.run.run a c.process).1.1,
      { c with process := (x.run.run a c.process).2, allocator := some (x.run.run a c.process).1.2 }) := by
  rw [Client.onAllocator, works.allocator]
  rfl

theorem contains (key : MemoryRef) : a.registry.contains key = (c.registration? key).isSome := by
  rw [registration?, works.allocator]
  rfl

/-- What a call fails with is what has failed, and then it has changed nothing. -/
theorem step_answers (asks : op.asks) : c.Answers (c.step op) := by
  obtain ⟨allocator, ready, backend, card, watched, objects, fresh⟩ := works
  have onBuffer {α : Type} {f : α → Reply} {d : Descriptor} {x : ExceptT Error ObjectM α}
      (blames : ∀ o : BufferObject, o.backend = .dumb fd → GraphicsBuffers.Adds (x.run.run o)
        fun new result => Blamed Error.errno new result.1)
      (whole : ∀ (o : BufferObject) h, o.backend = .dumb fd → (x.run.run o h).1.1.isOk = false →
        (x.run.run o h).1.2 = o) :
      c.Answers (replying f (c.onAllocator (Allocator.onBuffer d x))) :=
    replying_answers allocator
      (Allocator.onBuffer_blames fun id sh held => blames _ (objects id sh held))
      (Allocator.onBuffer_whole fun id sh held => whole _ _ (objects id sh held))
  have exchange {α : Type} {f : α → Reply} {x : Wire.Exchange α} (told : x.Told) :
      c.Answers (replying f (c.onAllocator (Allocator.onContext (Context.exchange x)))) :=
    replying_answers allocator (Allocator.exchange_blames ready told) (Allocator.exchange_whole ready x)
  cases op with
  | create width height raw usage =>
    obtain ⟨new, trace, blamed, -⟩ :=
      Allocator.create_adds (p := c.process) ready backend card watched width height raw usage
    exact replying_answers allocator ⟨new, trace, blamed⟩
      (Allocator.create_whole ready fresh width height raw usage)
  | register d =>
    exact replying_answers allocator (Allocator.register_blames ready backend d)
      (Allocator.register_whole ready fresh d)
  | lock d usage region =>
    exact onBuffer (fun o dumb => BufferObject.lock_blames dumb usage region) fun o h dumb =>
      BufferObject.lock_whole dumb
  | lockPlanar d usage region =>
    exact onBuffer (fun o dumb => BufferObject.lockPlanar_blames dumb usage region) fun o h dumb =>
      BufferObject.lockPlanar_whole dumb
  | attach id => exact attach_answers id
  | authMagic => exact exchange Wire.Exchange.getMagic_uses.told
  | authenticate magic => exact exchange (Wire.Exchange.authMagic_uses magic).told
  | acquireMaster => exact exchange Wire.Exchange.setMaster_uses.told
  | releaseMaster => exact exchange Wire.Exchange.dropMaster_uses.told
  | _ => cases asks

end Works

/-! ## What a call records -/

/-- What a call adds to the trace. -/
def recorded (c : Client) (op : Operation) : List TraceEntry :=
  (c.step op).2.kernel.trace.take ((c.step op).2.kernel.trace.length - c.kernel.trace.length)

theorem recorded_eq {new : List TraceEntry} (trace : (c.step op).2.kernel.trace = new ++ c.kernel.trace) :
    c.recorded op = new := by
  unfold recorded
  rw [trace, List.length_append, Nat.add_sub_cancel, List.take_left]

/-- An unregistered dma-buf is to be imported whose flags cannot be read. The kernel records that only for
file descriptors that it watches. -/
def Denies (c : Client) (op : Operation) (e : Errno) : Prop :=
  ∃ d dmabuf, op = .register d ∧ d.key? = some (.prime dmabuf) ∧
    c.registration? (.prime dmabuf) = none ∧ d.byteSize?.isSome ∧
    (c.kernel.descriptorFlags dmabuf).1 = .error e

/-! ## Atomicity -/

section Kept

variable {s : Surroundings} {fd' : Int32} {l l' : Ledger}

theorem Kept.works (kept : c.Kept s fd l) (allocator : c.allocator = some a)
    (ready : a.context.state = .ready r) : c.Works a r fd := by
  cases kept with
  | retired kept => cases allocator
  | working kept =>
    cases allocator
    obtain ⟨card, backend⟩ := kept.context.ready r ready
    have isOpen : l.card = some fd := kept.process.card (Allocator.positive ready)
    exact ⟨rfl, ready, backend, card, (kept.process.audited.bears.card fd isOpen).1,
      fun id sh held => (kept.process.backed id sh held).backend, kept.process.fresh⟩

/-- What the objects hold is held in the ledger, so the same objects hold the same. -/
theorem Kept.has_of_same (kept : c.Kept s fd l) (kept' : c'.Kept s fd' l')
    (same : c.process.SameObjects c'.process) (resource : Resource) (has : l'.Has resource.item) :
    l.Has resource.item := by
  obtain ⟨_, -, card⟩ | ⟨handle, has⟩ := has
  · cases resource <;> cases card
  obtain ⟨x, held⟩ : ∃ x, l'.holdings handle = some x := by
    cases held : l'.holdings handle with
    | some x => exact ⟨x, rfl⟩
    | none => cases resource <;> simp [held, Resource.item, Holding.Has] at has
  obtain ⟨others, process'⟩ := kept'.process
  obtain ⟨id, own⟩ := process'.owned.all handle x held
  obtain ⟨sh, there, own⟩ := Option.bind_eq_some_iff.1 own
  obtain ⟨b, live, rfl⟩ := Option.map_eq_some_iff.1 own
  have object' : c'.process.object? id = some sh.object := congrArg (Option.map _) there
  have object : c.process.object? id = some sh.object :=
    congrArg (Option.map _) ((same id).symm.trans there)
  obtain ⟨-, x', held', framebuffer', mapping', -⟩ := kept'.holding object' live
  obtain ⟨-, y, holding, framebuffer, mapping, -⟩ := kept.holding object live
  refine .inr ⟨b.handle, ?_⟩
  rw [held'] at has
  rw [holding]
  cases resource with
  | handle => exact ⟨has.1, rfl⟩
  | framebuffer n =>
    obtain ⟨_, ⟨⟩, has⟩ := has
    exact ⟨y, rfl, framebuffer.trans (framebuffer'.symm.trans has)⟩
  | mapping n =>
    obtain ⟨_, ⟨⟩, m, has, number⟩ := has
    exact ⟨y, rfl, m, mapping.trans (mapping'.symm.trans has), number⟩

/-- Where the same is registered and the objects are as they were, nothing registered has been touched. -/
theorem Kept.untouched (kept : c.Kept s fd l) (kept' : c'.Kept s fd' l') (inOrder : c.InOrder)
    (older : c.kernel.Older c'.kernel) (intact : c.Intact c') {key : MemoryRef} {e : Registration}
    (known : c.registration? key = some e) : Untouched key e c c' := by
  obtain ⟨same, objects, -, -⟩ := intact
  obtain ⟨-, cell, found, -, live⟩ := inOrder.consistent.entry key e known
  obtain ⟨sh, held, rfl⟩ := Option.map_eq_some_iff.1 found
  obtain ⟨b, live⟩ := Option.isSome_iff_exists.1 live
  have object : c.process.object? e.object = some sh.object := congrArg (Option.map _) held
  have object' : c'.process.object? e.object = some sh.object :=
    congrArg (Option.map _) ((objects e.object).trans held)
  have known' : c'.registration? key = some e := by
    rw [registration?, same]
    exact known
  exact ⟨known, known', sh.object, b, object, object', live,
    kept.retains kept' older object object' live⟩

/-- Where the objects are as they were and what was given back was taken back, the kernel has given out
what it had. -/
theorem Kept.restores (kept : c.Kept s fd l) (kept' : c'.Kept s fd' l') (traced : c.kernel.Traced)
    (leads : c.kernel.Leads c'.kernel) (intact : c.Intact c') {new : List TraceEntry}
    (trace : c'.kernel.trace = new ++ c.kernel.trace)
    (given : ∀ entry ∈ new, entry.event.ends.isSome → entry.succeeded) :
    c.kernel.Restores c'.kernel := by
  obtain ⟨-, objects, -, -⟩ := intact
  have back : c'.process.SameObjects c.process := fun id => (objects id).symm
  obtain ⟨_, process⟩ := kept.process
  obtain ⟨_, process'⟩ := kept'.process
  have live := process.audited.live_same process'.audited traced (leads.traced traced) trace
    (fun r => ⟨kept.has_of_same kept' objects r, kept'.has_of_same kept back r⟩) given
  exact leads.older.restores traced live

end Kept

namespace Works

variable (works : c.Works a r fd)
include works

/-- What denies a call is what it answers. -/
theorem step_denied {e : Errno} (denies : c.Denies op e) :
    (c.step op).1 = .error (.backend (.control e)) := by
  obtain ⟨d, dmabuf, rfl, keyed, unknown, covers, denied⟩ := denies
  have unregistered : a.registry.contains (.prime dmabuf) = false := by
    rw [works.contains, unknown]
    rfl
  have answer :=
    Allocator.register_denied works.ready works.backend keyed unregistered covers denied
  rw [step, replying, works.onAllocator, answer]
  rfl

/-- A new buffer is refused if the name it is published under is no name, or taken. -/
theorem create_refused {width height : UInt32} {raw : Int32} {usage : Usage} {name : UInt32}
    (mem : name ∈ published (c.recorded (.create width height raw usage)))
    (unfailed : failures (c.recorded (.create width height raw usage)) = [])
    (taken : name = 0 ∨ (c.registration? (.name name)).isSome) :
    (c.step (.create width height raw usage)).1 = .error .invalidHandle := by
  obtain ⟨new, trace, -, named⟩ := Allocator.create_adds (p := c.process) works.ready works.backend
    works.card works.watched width height raw usage
  have recorded : c.recorded (.create width height raw usage) = new := by
    apply recorded_eq
    rw [step, replying, works.onAllocator]
    exact trace
  rw [recorded] at mem unfailed
  have answer := named name mem unfailed (by rwa [works.contains])
  rw [step, replying, works.onAllocator, answer]
  rfl

end Works

/-- What a call comes to if something on the way fails. -/
structure Atomic (c : Client) (op : Operation) : Prop where
  /-- The failure of what the call needs is what it answers. -/
  cause : ∀ e, e ∈ failures (c.recorded op) ∨ c.Denies op e →
    ∃ err, (c.step op).1 = .error err ∧ err.errno = e
  /-- A new buffer is refused if the name it is published under is no name, or taken. -/
  refused : ∀ width height raw usage name, op = .create width height raw usage →
    name ∈ published (c.recorded op) → failures (c.recorded op) = [] →
    name = 0 ∨ (c.registration? (.name name)).isSome → (c.step op).1 = .error .invalidHandle
  /-- A call that fails leaves the registry and all objects as they were. -/
  intact : (c.step op).1.isOk = false → c.Intact (c.step op).2
  /-- What is registered has all that it had. -/
  usable : (c.step op).1.isOk = false → ∀ key e, c.registration? key = some e →
    Untouched key e c (c.step op).2
  /-- If what was given back on the way was taken back, nothing is left of the call. -/
  restored : (c.step op).1.isOk = false →
    (∀ entry ∈ c.recorded op, entry.event.ends.isSome → entry.succeeded) →
    c.kernel.Restores (c.step op).2.kernel

/-- In every state a client can get to with its context ready, calls that fail are atomic and answer what
has failed. -/
theorem failures_atomic (w : World) (script : Script) {opener : Opener} (tidy : opener.Tidy)
    (leads : opener.Leads) {table : BackendTable} (dumb : table.AllDumb) {before : List Operation}
    {op : Operation} (asks : op.asks) {a : Allocator} {r : Ready} :
    let c := (start (w.process script).host opener table).run before
    c.allocator = some a → a.context.state = .ready r → c.Atomic op := by
  intro c allocator ready
  have inOrder : c.InOrder := (start_inOrder _ opener table).run before
  -- A ledger before the call and one after it, and the kernel's own account led on from the one to the other.
  obtain ⟨fd, l, kept⟩ : ∃ fd l, c.Kept w.surroundings fd l :=
    (start_kept w.kernel_audited tidy dumb 0).run before
  obtain ⟨fd', l', kept'⟩ := step_kept kept op
  obtain ⟨served, led⟩ := run_carries _ before (start_served (w.process script).host leads dumb)
  have traced : c.kernel.Traced := led.traced w.kernel_traced
  have leads' : c.kernel.Leads (c.step op).2.kernel := (c.step_carries op served).2
  have works := kept.works allocator ready
  obtain ⟨⟨new, trace, blamed⟩, intact⟩ := works.step_answers asks
  have recorded : c.recorded op = new := recorded_eq trace
  constructor
  · rintro e (mem | denies)
    · exact blamed e (recorded ▸ mem)
    · exact ⟨_, works.step_denied denies, rfl⟩
  · rintro width height raw usage name rfl mem unfailed taken
    exact works.create_refused mem unfailed taken
  · exact intact
  · exact fun failed key e known => kept.untouched kept' inOrder leads'.older (intact failed) known
  · exact fun failed given =>
      kept.restores kept' traced leads' (intact failed) trace (recorded ▸ given)

/-- A client that has registered a buffer and scans it out. The kernel has no room for another framebuffer,
so the buffer that is to be made next is given back. -/
def pressed : Client :=
  let w : World :=
    { cards := [{ driver := [118, 107, 109, 115] }], objects := [{ name := 7, size := 4096 }]
      nextName := 8 }
  (start (w.process {}).host (Opener.ofConfig { path := "/dev/dri/card0" }).reporting .standard).run
    [.register received, .hold received, .attach 0, .arm (.control .addFb2) [{ errno := .ENOMEM }]]

theorem pressed_atomic :
    failures (pressed.recorded (.create 16 16 1 displayed)) = [.ENOMEM] ∧
      published (pressed.recorded (.create 16 16 1 displayed)) = [8] ∧
      pressed.registration? (.name 7) = some ⟨0, 2⟩ ∧
      (∀ entry ∈ pressed.recorded (.create 16 16 1 displayed),
        entry.event.ends.isSome → entry.succeeded) ∧
      pressed.Atomic (.create 16 16 1 displayed) := by
  obtain ⟨a, r, allocator, ready⟩ : ∃ a r, pressed.allocator = some a ∧ a.context.state = .ready r := by
    have held : pressed.allocator.map (·.context.holders) = some 1 := by decide +kernel
    obtain ⟨a, allocator, holds⟩ := Option.map_eq_some_iff.1 held
    unfold Context.holders at holds
    cases state : a.context.state with
    | ready r => exact ⟨a, r, allocator, state⟩
    | untried | failed =>
      rw [state] at holds
      cases holds
  refine ⟨by decide +kernel, by decide +kernel, by decide +kernel, by decide +kernel, ?_⟩
  exact failures_atomic _ {} (Opener.ofConfig_tidy { path := "/dev/dri/card0" }).reporting
    (Opener.ofConfig_leads { path := "/dev/dri/card0" }).reporting BackendTable.standard_allDumb rfl
    allocator ready

end Client

end GraphicsBuffers

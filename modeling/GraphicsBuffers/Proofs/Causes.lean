import GraphicsBuffers.Proofs.Blame
import GraphicsBuffers.Proofs.Bookkeeping
import GraphicsBuffers.Proofs.Custody
/-!
# What fails a call of a client

Whatever fails of what a call needs, the call answers an error with that number. That is so for every
call that makes a buffer or maps one, attaches a framebuffer, or sends a request to the card, on objects
of the dumb-buffer backend. A new buffer whose name is no name or is taken is refused too
(`Allocator.create_adds`).
-/

namespace GraphicsBuffers

open Wire Wire.Exchange

/-! ## Objects -/

namespace BufferObject

variable {α : Type} {o : BufferObject} {fd : Int32}

/-- How what is added to the trace goes with the answer, where a framebuffer over an object is asked for:
a failure is answered, nothing is published, and it takes a failure to be refused. -/
structure Framed (o : BufferObject) (new : List TraceEntry) (outcome : Except Error α) : Prop where
  blamed : Blamed Error.errno new outcome
  silent : published new = []
  unfailed : Kernel.isWatched o.card.fd → o.buffer.isSome → failures new = [] → ∃ a, outcome = .ok a

theorem Framed.of_ok (a : α) : o.Framed [] (.ok a) := ⟨.of_none rfl _, rfl, fun _ _ _ => ⟨a, rfl⟩⟩

theorem addFramebuffer_adds (o : BufferObject) (layout : PlaneLayout) :
    Adds (o.addFramebuffer layout).run o.Framed := by
  have told := addFb2_told o.descriptor.width o.descriptor.height o.descriptor.format.fourcc layout
  have blamed : Blames Error.errno (o.addFramebuffer layout) :=
    .reporting (exchange_blames told o.card.fd) fun _ => rfl
  have answered : Adds (o.addFramebuffer layout).run fun new outcome => published new = [] ∧
      (Kernel.isWatched o.card.fd → failures new = [] → ∃ id, outcome = .ok id) := by
    have asked := (exchange_adds told o.card.fd).both (exchange_silent told o.card.fd nofun)
    refine Adds.explain asked (fun id new added => ⟨added.2, fun _ _ => ⟨id, rfl⟩⟩) fun e new added => ?_
    refine Adds.bind (Minor.report _) fun _ new' added' => .pure ⟨?_, fun watched unfailed => ?_⟩
    · simp [added.2, added'.2]
    · obtain ⟨unwatched, -⟩ | ⟨reply | reply, rfl, eq⟩ := added.1
      · rw [unwatched] at watched
        cases watched
      · simp [failures, Except.map, TraceEntry.failure?, Call.needed, addFb2] at unfailed
      · cases eq
  exact (blamed.both answered).mono fun new outcome added =>
    ⟨added.1, added.2.1, fun watched _ => added.2.2 watched⟩

theorem attach_adds (o : BufferObject) : Adds (attachFramebuffer.run.run o) fun new result =>
    o.Framed new result.1 := by
  intro h
  rw [attachFramebuffer_run]
  split
  · exact ⟨[], rfl, .of_ok _⟩
  · next bufferless =>
    exact ⟨[], rfl, .of_none rfl _, rfl, fun _ live => by simp [bufferless] at live⟩
  next b _ _ =>
  obtain ⟨new, trace, framed⟩ := o.addFramebuffer_adds (o.layout h b) h
  rcases eq : (o.addFramebuffer (o.layout h b)).run h with ⟨e | id, h'⟩ <;> rw [eq] at trace framed <;>
    exact ⟨new, trace, framed⟩

theorem lock_blames (dumb : o.backend = .dumb fd) (usage : Usage) (region : Region) :
    Adds ((lock usage region).run.run o) fun new result => Blamed Error.errno new result.1 := by
  intro h
  rw [lock_run]
  unfold lockDialogue
  dsimp only
  split
  · exact ⟨[], rfl, .of_none rfl _⟩
  split
  · exact ⟨[], rfl, .of_none rfl _⟩
  split
  · exact ⟨[], rfl, .of_none rfl _⟩
  next buffer found =>
  split
  · have asked : (o.backend.map region (usage ||| o.lockedFor).swWrite).run.run buffer h =
        (Dumb.map fd).run.run buffer h := by
      rw [dumb]
      rfl
    obtain ⟨new, trace, blamed⟩ := Dumb.map_blames fd buffer h
    simp only [Dialogue.hold, asked]
    rcases eq : (Dumb.map fd).run.run buffer h with ⟨⟨e | m, b⟩, h'⟩ <;> rw [eq] at trace blamed
    · exact ⟨new, trace, blamed.error rfl⟩
    · exact ⟨new, trace, .of_none blamed.none _⟩
  · exact ⟨[], rfl, .of_none rfl _⟩

theorem lockPlanar_blames (dumb : o.backend = .dumb fd) (usage : Usage) (region : Region) :
    Adds ((lockPlanar usage region).run.run o) fun new result => Blamed Error.errno new result.1 := by
  intro h
  obtain ⟨new, trace, blamed⟩ := lock_blames dumb usage region h
  rw [lock_run] at trace blamed
  rw [lockPlanar_run]
  unfold lockPlanarDialogue
  dsimp only at trace blamed ⊢
  split
  · exact ⟨[], rfl, .of_none rfl _⟩
  split
  · exact ⟨[], rfl, .of_none rfl _⟩
  rw [Dialogue.hold_answering]
  refine ⟨new, trace, ?_⟩
  dsimp only
  cases answer : ((lockDialogue o usage region).hold o.backend h).answer with
  | error e =>
    rw [answer] at blamed
    exact blamed.error rfl
  | ok address =>
    rw [answer] at blamed
    exact .of_none blamed.none _

/-! ### The end of an object -/

theorem tearDown_minor (dumb : o.backend = .dumb fd) (b : BackendBuffer) : Minor (o.tearDown b) := by
  have locks : Minor o.reportLocks := by
    unfold reportLocks
    split
    · exact .report _
    · exact .pure _
  have framebuffer : Minor o.removeFramebuffer := by
    unfold removeFramebuffer
    cases o.framebuffer with
    | none => exact .pure _
    | some id =>
      exact (exchange_minor (removeFb_told id) o.card.fd rfl nofun).ignoring (fun _ => .pure _)
        fun _ => .report _
  have freed : Minor (o.backend.free b) := by
    rw [dumb]
    exact Dumb.free_minor fd b
  have owned : Minor o.closeOwnedMemory := by
    unfold closeOwnedMemory
    split
    · split
      · next dmabuf _ =>
        exact (call_minor (Kernel.close_recorded dmabuf) rfl fun _ => rfl).ignoring (fun _ => .pure _)
          fun _ => .report _
      · exact .pure _
    · exact .pure _
  exact locks.bind fun _ => framebuffer.bind fun _ => freed.bind fun _ => owned.bind fun _ => .report _

theorem destroy_minor (dumb : o.backend = .dumb fd) : Minor (destroy.run o) := by
  intro h
  rw [destroy_run]
  cases o.buffer with
  | none => exact ⟨[], rfl, rfl, rfl⟩
  | some b => exact tearDown_minor dumb b h

/-- Of a kind of calls that neither removes a framebuffer nor closes a file, an object that is torn down makes
those that freeing its buffer makes. -/
theorem tearDown_picks {π : Type} {pick : TraceEntry → Option π} {picked : List π} {b : BackendBuffer}
    (removal : ∀ id outcome,
      pick (.kernel (.control o.card.fd .removeFb (removeFb id).argument) outcome) = none)
    (closing : ∀ dmabuf outcome, pick (.kernel (.close dmabuf) outcome) = none)
    (freed : Picks pick picked (o.backend.free b)) : Picks pick picked (o.tearDown b) := by
  have locks : Picks pick [] o.reportLocks := by
    unfold reportLocks
    split
    · exact .report _
    · exact .pure _
  have framebuffer : Picks pick [] o.removeFramebuffer := by
    unfold removeFramebuffer
    cases o.framebuffer with
    | none => exact .pure _
    | some id =>
      exact (exchange_picks (removeFb_told id) o.card.fd (removal id)).ignoring (fun _ => .pure _)
        fun _ => .report _
  have owned : Picks pick [] o.closeOwnedMemory := by
    unfold closeOwnedMemory
    split
    · split
      · next dmabuf _ =>
        exact (call_picks (Kernel.close_recorded dmabuf) (closing dmabuf)).ignoring (fun _ => .pure _)
          fun _ => .report _
      · exact .pure _
    · exact .pure _
  exact locks.after_silent fun _ => framebuffer.after_silent fun _ => freed.then_silent fun _ =>
    owned.then_silent fun _ => .report _

/-! ### New objects -/

/-- An allocation ends with asking for a framebuffer. -/
theorem finish_adds (dumb : o.backend = .dumb fd) : Adds o.finish o.Framed := by
  intro h
  have object := congrArg backend (o.attachFramebuffer_object h)
  obtain ⟨new, trace, framed⟩ := o.attach_adds h
  unfold finish
  split
  · rcases eq : attachFramebuffer.run.run o h with ⟨⟨e | id, o'⟩, h'⟩ <;> rw [eq] at trace framed object
    · -- What is destroyed on the way back adds no failure of its own.
      obtain ⟨new', trace', minor⟩ := destroy_minor (object.trans dumb) h'
      refine ⟨new' ++ new, added_twice trace trace', ?_, ?_, fun watched live unfailed => ?_⟩
      · exact (framed.blamed.error rfl).before minor.1
      · rw [published_append, minor.2, framed.silent, List.nil_append]
      · rw [failures_append, minor.1, List.nil_append] at unfailed
        obtain ⟨_, ⟨⟩⟩ := framed.unfailed watched live unfailed
    · exact ⟨new, trace, .of_none framed.blamed.none _, framed.silent, fun _ _ _ => ⟨o', rfl⟩⟩
  · exact ⟨[], rfl, .of_ok o⟩

theorem allocationError_errno (e : BackendError) : (allocationError e).errno = e.errno := by
  cases e <;> rfl

/-- A buffer is published under a name that its object has, unless it is refused for its name or for
another failure. -/
def Named (new : List TraceEntry) (outcome : Except Error BufferObject) : Prop :=
  ∀ name ∈ published new, failures new = [] → (name = 0 ∧ outcome = .error .invalidHandle) ∨
    ∃ o, outcome = .ok o ∧ o.descriptor.key? = some (.name name)

theorem create_adds (card : Card) (onCard : card.fd = fd) (watched : Kernel.isWatched fd)
    (width height : UInt32) (format : PixelFormat) (usage : Usage) :
    Adds (create (.dumb fd) card width height format usage).run fun new outcome =>
      Blamed Error.errno new outcome ∧ Named new outcome := by
  intro h
  rw [create_run]
  split
  · exact ⟨[], rfl, .of_none rfl _, nofun⟩
  next request asked =>
  have unkeyed : request.key? = none := by
    obtain ⟨g, -, rfl⟩ := Option.map_eq_some_iff.1 asked
    rfl
  have allocated : Adds (Dumb.allocate fd request).run fun new outcome =>
      Blamed BackendError.errno new outcome ∧
        ∀ name ∈ published new, ∃ b, outcome = .ok b ∧ b.memory = .name name := by
    have create : Dumb.allocate fd request = Dumb.create fd request := by
      rw [Dumb.allocate, unkeyed]
    exact create ▸ (Dumb.create_blames fd request).both (Dumb.create_publishes fd request)
  obtain ⟨new, trace, blamed, names⟩ := allocated h
  have same : ((Backend.dumb fd).allocate request).run h = (Dumb.allocate fd request).run h := rfl
  rw [same]
  rcases eq : (Dumb.allocate fd request).run h with ⟨e | b, h'⟩ <;> rw [eq] at trace blamed names <;>
    dsimp only at trace ⊢
  · refine ⟨new, trace, blamed.error (allocationError_errno e), fun name mem => ?_⟩
    obtain ⟨b, ⟨⟩, -⟩ := names name mem
  split
  · next valid =>
    have fresh : (ofBuffer (.dumb fd) card request b).Fresh (.dumb fd) card false :=
      ofBuffer_fresh request valid
    obtain ⟨new', trace', framed⟩ :=
      finish_adds fresh.backend (h'.reported (.created width height format b.memory b.stride))
    refine ⟨new' ++ new, added_twice trace trace', framed.blamed.after blamed.none,
      fun name mem unfailed => .inr ?_⟩
    rw [published_append, framed.silent, List.nil_append] at mem
    rw [failures_append, blamed.none, List.append_nil] at unfailed
    obtain ⟨_, ⟨⟩, memory⟩ := names name mem
    obtain ⟨o, made⟩ := framed.unfailed (onCard ▸ watched) rfl unfailed
    refine ⟨o, made, ?_⟩
    rw [(fresh.finish made).2, ← memory]
    simp [ofBuffer, Descriptor.withMemory, Descriptor.key?, valid]
  · next invalid =>
    obtain ⟨new', trace', minor⟩ := Dumb.free_minor fd b
      (h'.reported (.invalidMemory (Backend.dumb fd).name b.memory))
    refine ⟨new' ++ new, added_twice trace trace', ?_, ?_⟩
    · exact (Blamed.of_none blamed.none _).before minor.1
    · intro name mem _
      rw [published_append, minor.2, List.nil_append] at mem
      obtain ⟨_, ⟨⟩, memory⟩ := names name mem
      refine .inl ⟨?_, rfl⟩
      simpa [memory, MemoryRef.isValid] using invalid

theorem importFrom_blames (card : Card) (d : Descriptor) :
    Blames Error.errno (importFrom (.dumb fd) card d) := by
  intro h
  obtain ⟨new, trace, blamed⟩ := Dumb.allocate_blames fd d h
  have same : ((Backend.dumb fd).allocate d).run h = (Dumb.allocate fd d).run h := rfl
  rw [importFrom_run, same]
  split
  · split
    · exact ⟨[], rfl, .of_none rfl _⟩
    · unfold ExceptT.run at trace blamed ⊢
      rcases eq : Dumb.allocate fd d h with ⟨e | b, h'⟩ <;> rw [eq] at trace blamed
      · exact ⟨new, trace, blamed.error (allocationError_errno e)⟩
      · exact ⟨new, trace, .of_none blamed.none _⟩
  · exact ⟨[], rfl, .of_none rfl _⟩

/-- A dma-buf whose flags cannot be read is not imported, with the number of that failure. -/
theorem importFrom_denied (card : Card) {d : Descriptor} {dmabuf : Int32}
    (keyed : d.key? = some (.prime dmabuf)) (covers : d.byteSize?.isSome) {h : Host} {e : Errno}
    (denied : (h.kernel.descriptorFlags dmabuf).1 = .error e) :
    ((importFrom (.dumb fd) card d).run h).1 = .error (.backend (.control e)) := by
  have flags : ((Host.call (·.descriptorFlags dmabuf)).run h).1 = .error e := denied
  have opened : ((Dumb.openPrime fd d dmabuf).run h).1 = .error (.control e) := by
    unfold Dumb.openPrime
    rw [run_bind_attempt, run_explain]
    rcases eq : (Host.call (·.descriptorFlags dmabuf)).run h with ⟨outcome, h'⟩
    rw [eq] at flags
    cases flags
    rfl
  have allocated : ((Dumb.allocate fd d).run h).1 = .error (.control e) := by
    rw [Dumb.allocate, keyed]
    dsimp only
    unfold Dumb.openMemory
    rw [run_bind_attempt]
    rcases eq : (Dumb.openPrime fd d dmabuf).run h with ⟨outcome, h'⟩
    rw [eq] at opened
    cases opened
    rfl
  have valid : d.isValid := by simp [Descriptor.isValid, keyed]
  have large : d.byteSize?.isNone = false := by simpa using covers
  have same : ((Backend.dumb fd).allocate d).run h = (Dumb.allocate fd d).run h := rfl
  rw [importFrom_run, same]
  simp only [valid, large, Bool.false_eq_true, if_true, if_false]
  rcases eq : (Dumb.allocate fd d).run h with ⟨outcome, h'⟩
  rw [eq] at allocated
  cases allocated
  rfl

end BufferObject

/-! ## Calls of the allocator -/

namespace Card

theorem release_minor (card : Card) : Minor card.release := by
  intro h
  have run := congrArg Host.kernel (card.release_run h)
  have closed : Minor (Host.call (·.close card.fd)).run :=
    call_minor (Kernel.close_recorded card.fd) rfl fun _ => rfl
  rw [StateT.run] at run
  rw [run]
  split
  · exact ⟨[], rfl, rfl, rfl⟩
  · exact closed h

end Card

namespace Allocator

variable {a : Allocator} {p : Process} {fd : Int32} {α β : Type}

/-- What a call has added to the trace, and how that goes with its answer. -/
def Adds (p : Process) (result : (β × Allocator) × Process) (P : List TraceEntry → β → Prop) : Prop :=
  ∃ new, result.2.host.kernel.trace = new ++ p.host.kernel.trace ∧ P new result.1.1

/-- Registering a new object calls nothing but what gives it back if its key is taken. -/
theorem adopt_adds {o : BufferObject} (dumb : o.backend = .dumb fd) {key : MemoryRef}
    (keyed : o.descriptor.key? = some key) : Adds p ((adopt o).run.run a p) fun new outcome =>
      failures new = [] ∧ published new = [] ∧
        outcome = if a.registry.contains key then .error .invalidHandle else .ok () := by
  rw [adopt_run a p keyed]
  split
  · have held : ((p.adopted o).reported (.alreadyRegistered key)).objects.get? p.nextObject =
        some ⟨o, 1⟩ := Table.get?_insert_self ..
    have minor : Minor (do let _ ← BufferObject.destroy.run o; o.card.release) :=
      (BufferObject.destroy_minor dumb).bind fun _ => o.card.release_minor
    rw [Process.released_last held Nat.one_lt_two]
    obtain ⟨new, trace, unfailed, silent⟩ := minor
      ((p.adopted o).reported (.alreadyRegistered key)).host
    exact ⟨new, trace, unfailed, silent, rfl⟩
  · exact ⟨[], rfl, rfl, rfl, rfl⟩

/-- A context that is ready answers at once. -/
theorem onContext_at_once {r : Ready} (is : a.context.state = .ready r) (p : Process) :
    (onContext Context.ready).run.run a p = ((.ok r, a), p) := by
  rw [run_onContext, Context.ready_run_ready is]

section Ready

variable {r : Ready} (is : a.context.state = .ready r) (dumb : r.backend = .dumb fd)
include is

theorem exchange_blames {x : Exchange α} (told : x.Told) :
    Adds p ((onContext (Context.exchange x)).run.run a p) (Blamed Error.errno) := by
  have sent : Blames Error.errno (Context.send r.card.fd x) :=
    .passing (GraphicsBuffers.exchange_blames told r.card.fd) fun _ => rfl
  obtain ⟨new, trace, blamed⟩ := sent p.host
  rw [run_onContext, Context.exchange_run, Context.ready_run_ready is]
  exact ⟨new, trace, blamed⟩

include dumb

/-- A new buffer fails with what fails, and is refused if it has no name or a name that is taken. -/
theorem create_adds (onCard : r.card.fd = fd) (watched : Kernel.isWatched fd) (width height : UInt32)
    (raw : Int32) (usage : Usage) :
    Adds p ((create width height raw usage).run.run a p) fun new outcome =>
      Blamed Error.errno new outcome ∧ ∀ name ∈ published new, failures new = [] →
        name = 0 ∨ a.registry.contains (.name name) → outcome = .error .invalidHandle := by
  rw [create_run]
  split
  · exact ⟨[], rfl, .of_none rfl _, nofun⟩
  next format known =>
  rw [onContext_at_once is]
  dsimp only
  obtain ⟨new, trace, blamed, named⟩ :=
    BufferObject.create_adds r.card onCard watched width height format usage p.host
  rw [← dumb] at trace blamed named
  rcases made : (BufferObject.create r.backend r.card width height format usage).run p.host
    with ⟨e | o, h⟩ <;> rw [attempt_eq made] <;> rw [made] at trace blamed named
  · refine ⟨new, trace, blamed.error rfl, fun name mem unfailed _ => ?_⟩
    obtain ⟨-, ⟨⟩⟩ | ⟨_, ⟨⟩, -⟩ := named name mem unfailed
    rfl
  · have fresh := BufferObject.create_fresh (congrArg Prod.fst made)
    obtain ⟨key, keyed⟩ := Option.isSome_iff_exists.1 fresh.keyed
    obtain ⟨new', trace', unfailed', silent', answer⟩ :=
      adopt_adds (a := a) (p := { p with host := h }) (fresh.backend.trans dumb) keyed
    have recorded : ((adopt o).run.run a { p with host := h }).2.host.kernel.trace =
        new' ++ new ++ p.host.kernel.trace := added_twice trace trace'
    dsimp only
    rcases adopting : (adopt o).run.run a { p with host := h } with ⟨⟨e | _, a₁⟩, p₁⟩ <;>
      rw [adopting] at recorded answer <;>
      refine ⟨new' ++ new, recorded, (Blamed.of_none blamed.none _).before unfailed', ?_⟩ <;>
      intro name mem unfailed refused <;> rw [published_append, silent', List.nil_append] at mem
    · split at answer <;> cases answer
      rfl
    · -- The name is that of the object, so it is neither 0 nor taken.
      obtain ⟨-, ⟨⟩⟩ | ⟨_, ⟨⟩, named⟩ := named name mem blamed.none
      obtain rfl := Option.some.inj (keyed.symm.trans named)
      obtain rfl | taken := refused
      · obtain ⟨-, valid⟩ := Option.filter_eq_some_iff.1 named
        cases valid
      · rw [if_pos taken] at answer
        cases answer

theorem register_blames (d : Descriptor) :
    Adds p ((register d).run.run a p) (Blamed Error.errno) := by
  rw [register_run]
  split
  · exact ⟨[], rfl, .of_none rfl _⟩
  next key keyed =>
  have counted (a : Allocator) (p : Process) : Adds p (a.acquired p key) fun new _ => new = [] := by
    unfold acquired
    split <;> exact ⟨[], rfl, rfl⟩
  rw [onContext_at_once is]
  dsimp only
  split
  · obtain ⟨_, trace, rfl⟩ := counted a p
    exact ⟨[], trace, .of_none rfl _⟩
  have blames : Blames Error.errno (BufferObject.importFrom (.dumb fd) r.card d) :=
    BufferObject.importFrom_blames r.card d
  rw [← dumb] at blames
  obtain ⟨new, trace, blamed⟩ := blames p.host
  rcases made : (BufferObject.importFrom r.backend r.card d).run p.host with ⟨e | o, h⟩ <;>
    rw [attempt_eq made] <;> rw [made] at trace blamed
  · exact ⟨new, trace, blamed.error rfl⟩
  obtain ⟨fresh, descriptor⟩ := BufferObject.importFrom_fresh (congrArg Prod.fst made)
  obtain ⟨new', trace', unfailed', -, -⟩ :=
    adopt_adds (a := a) (p := { p with host := h }) (fresh.backend.trans dumb) (descriptor ▸ keyed)
  have recorded : ((adopt o).run.run a { p with host := h }).2.host.kernel.trace =
      new' ++ new ++ p.host.kernel.trace := added_twice trace trace'
  have unfailed {outcome : Except Error Unit} : Blamed Error.errno (new' ++ new) outcome :=
    (Blamed.of_none blamed.none _).before unfailed'
  dsimp only
  rcases adopting : (adopt o).run.run a { p with host := h } with ⟨⟨e | _, a₁⟩, p₁⟩ <;>
    rw [adopting] at recorded
  · exact ⟨new' ++ new, recorded, unfailed⟩
  · obtain ⟨_, trace₁, rfl⟩ := counted a₁ p₁
    exact ⟨new' ++ new, trace₁.trans recorded, unfailed⟩

/-- What is not registered yet is not imported if the flags of its dma-buf cannot be read. -/
theorem register_denied {d : Descriptor} {dmabuf : Int32} (keyed : d.key? = some (.prime dmabuf))
    (unknown : a.registry.contains (.prime dmabuf) = false) (covers : d.byteSize?.isSome) {e : Errno}
    (denied : (p.host.kernel.descriptorFlags dmabuf).1 = .error e) :
    ((register d).run.run a p).1.1 = .error (.backend (.control e)) := by
  have refused : ((BufferObject.importFrom (.dumb fd) r.card d).run p.host).1 =
      .error (.backend (.control e)) := BufferObject.importFrom_denied r.card keyed covers denied
  rw [← dumb] at refused
  rw [register_run, keyed, onContext_at_once is]
  dsimp only
  rw [if_neg (by simp [unknown])]
  rcases made : (BufferObject.importFrom r.backend r.card d).run p.host with ⟨outcome, h⟩
  rw [attempt_eq made]
  rw [made] at refused
  cases refused
  rfl

end Ready

/-- A call on a registered object fails with what fails on the object. -/
theorem onBuffer_blames {d : Descriptor} {x : ExceptT Error ObjectM α}
    (blames : ∀ id sh, p.objects.get? id = some sh →
      GraphicsBuffers.Adds (x.run.run sh.object) fun new result => Blamed Error.errno new result.1) :
    Adds p ((onBuffer d x).run.run a p) (Blamed Error.errno) := by
  rw [onBuffer_run]
  split
  · exact ⟨[], rfl, .of_none rfl _⟩
  next id found =>
  cases held : p.objects.get? id with
  | none =>
    rw [Process.onObject_none held]
    exact ⟨[], rfl, .of_none rfl _⟩
  | some sh =>
    obtain ⟨new, trace, blamed⟩ := blames id sh held p.host
    rw [Process.onObject_some held]
    exact ⟨new, trace, blamed⟩

end Allocator

end GraphicsBuffers

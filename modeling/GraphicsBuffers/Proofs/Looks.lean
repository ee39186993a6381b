import GraphicsBuffers.Proofs.Bookkeeping
/-!
# Calls and the context

Calls that need the card and its backend look at the context of the client first, and go on with what they
see there (`Client.step_looks`). What they do then, and what all other calls do, neither depends on the
context nor changes it (`Client.Aloof`); only bringing up the display changes how far the context is, and
only dropping the allocator gives its card back.
-/

namespace GraphicsBuffers

/-! ## Calls of the allocator -/

namespace Allocator

variable {ε α β : Type}

/-- A computation that neither looks at the context nor changes it. -/
def Aloof (x : AllocatorM α) : Prop :=
  ∀ (a : Allocator) (p : Process) (context : Context), x.run { a with context } p =
    (((x.run a p).1.1, { (x.run a p).1.2 with context }), (x.run a p).2)

namespace Aloof

theorem pure (b : α) : Aloof (Pure.pure b) := fun _ _ _ => rfl

theorem throw (e : ε) : Aloof (throw e : ExceptT ε AllocatorM α).run := fun _ _ _ => rfl

theorem lift (x : ProcessM α) : Aloof (StateT.lift x) := fun _ _ _ => rfl

theorem registry (x : RegistryM α) : Aloof (onRegistry x) := fun _ _ _ => rfl

theorem bind {x : AllocatorM α} {f : α → AllocatorM β} (first : Aloof x)
    (second : ∀ b, Aloof (f b)) : Aloof (x >>= f) := by
  intro a p context
  rw [run_bind_plain, run_bind_plain, first a p context]
  exact second _ _ _ context

theorem bind_attempt {x : ExceptT ε AllocatorM α} {f : α → ExceptT ε AllocatorM β}
    (first : Aloof x.run) (second : ∀ b, Aloof (f b).run) : Aloof (x >>= f).run := by
  apply Aloof.bind (f := ExceptT.bindCont f) first
  intro outcome
  cases outcome with
  | ok b => exact second b
  | error e => exact .pure _

/-- What is read of the allocator is not its context. -/
theorem get {f : Allocator → ExceptT ε AllocatorM α}
    (same : ∀ (a : Allocator) context, f { a with context } = f a) (aloof : ∀ a, Aloof (f a).run) :
    Aloof (getThe Allocator >>= f).run := by
  intro a p context
  have read (a : Allocator) : (getThe Allocator >>= f).run.run a p = (f a).run.run a p := rfl
  rw [read, read, same]
  exact aloof a a p context

theorem ofExcept (x : Except ε α) : Aloof (MonadExcept.ofExcept x : ExceptT ε AllocatorM α).run := by
  cases x with
  | ok b => exact .pure _
  | error e => exact .throw e

end Aloof

theorem adopt_aloof (o : BufferObject) : Aloof (adopt o).run :=
  .bind_attempt (x := liftM (Process.adopt o)) (fun _ _ _ => rfl) fun id =>
    .bind_attempt (.registry (Registry.insert id).run) fun _ => .pure _

theorem release_aloof (key : MemoryRef) (count : Nat) :
    Aloof (do let _ ← tryRegistry (Registry.release key count) : ExceptT Error AllocatorM Unit).run :=
  .bind_attempt (.registry (Registry.release key count).run) fun _ => .pure _

theorem unregister_aloof (d : Descriptor) : Aloof (unregister d).run := by
  refine .bind_attempt (.ofExcept _) fun key => .get (fun _ _ => rfl) fun a => ?_
  split
  · next id _ =>
    exact .bind_attempt (x := getThe Process) (fun _ _ _ => rfl) fun p => release_aloof key _
  · exact .throw _

theorem dropLocal_aloof (d : Descriptor) : Aloof (dropLocal d).run :=
  .bind_attempt (.ofExcept _) fun key => release_aloof key 1

theorem onBuffer_aloof (d : Descriptor) (x : ExceptT Error ObjectM α) : Aloof (onBuffer d x).run := by
  refine .get (fun _ _ => rfl) fun a => .bind_attempt (.ofExcept _) fun id => ?_
  refine .bind_attempt (x := liftM (Process.onObject id x.run)) (fun _ _ _ => rfl) fun outcome => ?_
  match outcome with
  | some (.ok b) => exact .pure _
  | some (.error e) => exact .throw e
  | none => exact .throw _

theorem unlock_aloof (d : Descriptor) : Aloof (unlock d) := by
  intro a p context
  have same : lookup { a with context } d = a.lookup d := rfl
  rw [unlock_run, unlock_run, same]
  split <;> rfl

theorem planes_aloof (d : Descriptor) : Aloof (planes d).run :=
  .get (fun _ _ => rfl) fun _ => .bind_attempt (.ofExcept _) fun _ =>
    .bind_attempt (x := getThe Process) (fun _ _ _ => rfl) fun _ => .pure _

theorem hold_aloof (d : Descriptor) : Aloof (hold d).run :=
  .get (fun _ _ => rfl) fun _ => .bind_attempt (.ofExcept _) fun id =>
    .bind_attempt (x := liftM (Process.share id)) (fun _ _ _ => rfl) fun _ => .pure _

theorem attempt_aloof (x : Attempt ε α) : Aloof (attempt x).run := .lift _

/-- Once the format is known, a buffer is made after the context is ready. -/
theorem create_known {raw : Int32} {format : PixelFormat} (known : PixelFormat.ofRaw? raw = some format)
    (width height : UInt32) (usage : Usage) : create width height raw usage = (do
      let r ← onContext Context.ready
      let object ← attempt (BufferObject.create r.backend r.card width height format usage)
      adopt object
      return (object.descriptor, object.pixelStride)) := by
  unfold create
  rw [known]

/-- Counts the reference that a caller gets by registering a buffer. -/
def countReference (key : MemoryRef) : ExceptT Error AllocatorM Unit := do
  let acquired : AllocatorM (Option ObjectId) := onRegistry (Registry.acquire key)
  if (← acquired).isNone then throw .invalidHandle
  Host.report (.registered key ((← getThe Allocator).registry.references? key))

theorem countReference_aloof (key : MemoryRef) : Aloof (countReference key).run := by
  refine .bind_attempt (x := liftM (onRegistry (Registry.acquire key))) (fun _ _ _ => rfl) fun found => ?_
  dsimp only
  split
  · exact .throw _
  · exact .get (fun _ _ => rfl) fun a => fun _ _ _ => rfl

/-- Once there is a key, a buffer is registered after the context is ready. -/
theorem register_keyed {d : Descriptor} {key : MemoryRef} (keyed : d.key? = some key) :
    register d = (do
      let r ← onContext Context.ready
      if !(← getThe Allocator).registry.contains key then
        let object ← attempt (BufferObject.importFrom r.backend r.card d)
        adopt object
      countReference key) := by
  unfold register keyOf
  rw [keyed]
  rfl

end Allocator

/-! ## Calls of a client -/

/-- The calls that need the context. One that is refused before does not. -/
def Operation.looks : Operation → Bool
  | create _ _ raw _ => (PixelFormat.ofRaw? raw).isSome
  | register d => d.key?.isSome
  | ensureReady _ | authMagic | authenticate _ | acquireMaster | releaseMaster | holdCard
  | createObject .. | importObject _ => true
  | _ => false

namespace Client

variable {α β : Type} {c : Client}

/-- The context of a client that has not dropped its allocator. -/
def context? (c : Client) : Option Context := c.allocator.map (·.context)

/-- The client with another context. -/
def withContext (c : Client) (context : Context) : Client :=
  { c with allocator := c.allocator.map fun a => { a with context } }

/-- The client with another host. -/
def withHost (c : Client) (host : Host) : Client := { c with process.host := host }

/-- A call that neither looks at the context nor changes it. -/
def Aloof (f : Client → β × Client) : Prop :=
  ∀ (c : Client) (context : Context), f (c.withContext context) = ((f c).1, (f c).2.withContext context)

/-- What a call sees of the context: its card and backend, or why there are none. -/
def look (c : Client) : Except Error Ready × Client :=
  c.onAllocator (Allocator.onContext Context.ready)

/-- Goes on with what was answered, if it is not an error. -/
def proceed (next : α → Client → Except Error β × Client) :
    Except Error α × Client → Except Error β × Client
  | (.ok b, c) => next b c
  | (.error e, c) => (.error e, c)

/-- What comes of bringing up the display: it is remembered to be up, or the call fails. -/
def broughtUp (r : Ready) (c : Client) :
    Except DisplayError Wire.CardResources × Host → Except Error Reply × Client
  | (.error e, host) =>
    (.error (.displayInitFailed e.errno), c.withHost (host.reported (.displayFailed e)))
  | (.ok resources, host) =>
    (.ok .done, { c.withHost (host.reported (.displayReady resources)) with
      allocator := c.allocator.map fun a =>
        { a with context.state := .ready { r with displayReady := true } } })

/-- Brings up the display of a card unless it is up. -/
def withDisplay (r : Ready) (c : Client) : Except Error Reply × Client :=
  if r.displayReady then (.ok .done, c)
  else broughtUp r c ((Device.initDisplay r.card.fd).run c.process.host)

theorem replying_eq (f : α → Reply) (result : Except Error α × Client) :
    replying f result = proceed (fun b c => (.ok (f b), c)) result := by
  rcases result with ⟨_ | _, _⟩ <;> rfl

theorem holding_eq (result : Except Error ObjectId × Client) : holding result =
    proceed (fun id c => (.ok (.object id), { c with holds := id :: c.holds })) result := by
  rcases result with ⟨_ | _, _⟩ <;> rfl

/-! ### Calls that do not look -/

namespace Aloof

theorem answer (b : β) : Aloof fun c => (b, c) := fun _ _ => rfl

theorem onAllocator {x : ExceptT Error AllocatorM α} (aloof : Allocator.Aloof x.run) :
    Aloof fun c => c.onAllocator x := by
  rintro ⟨p, _ | a, holds, cards⟩ context
  · rfl
  · have eq := aloof a p context
    have run (a : Allocator) : Client.onAllocator ⟨p, some a, holds, cards⟩ x =
        ((x.run.run a p).1.1, ⟨(x.run.run a p).2, some (x.run.run a p).1.2, holds, cards⟩) := rfl
    have moved : withContext ⟨p, some a, holds, cards⟩ context =
        ⟨p, some { a with context }, holds, cards⟩ := rfl
    dsimp only
    rw [moved, run, run, eq]
    rfl

theorem proceed {f : Client → Except Error α × Client} {next : α → Client → Except Error β × Client}
    (first : Aloof f) (second : ∀ b, Aloof (next b)) : Aloof fun c => proceed next (f c) := by
  intro c context
  dsimp only
  rw [first c context]
  rcases f c with ⟨e | b, c⟩
  · rfl
  · exact second b c context

theorem replying {f : Client → Except Error α × Client} (aloof : Aloof f) (g : α → Reply) :
    Aloof fun c => replying g (f c) := by
  simp only [replying_eq]
  exact aloof.proceed fun _ => .answer _

theorem onObject (id : ObjectId) (x : ExceptT Error ObjectM α) (g : α → Reply) :
    Aloof fun c => Client.replying g (c.onObject id x) := by
  intro c context
  unfold Client.onObject withContext
  dsimp only
  split <;> rfl

end Aloof

/-- What does not look at the context leaves it as it is, unless it drops the allocator. -/
theorem Aloof.context {f : Client → β × Client} (aloof : Aloof f) (c : Client) :
    (f c).2.context? = none ∨ (f c).2.context? = c.context? := by
  have kept (context : Context) (same : c.withContext context = c) :
      (f c).2.context? = (f c).2.context?.map fun _ => context := by
    have eq : (f c).2 = (f c).2.withContext context :=
      congrArg Prod.snd ((congrArg f same).symm.trans (aloof c context))
    have map : ((f c).2.withContext context).context? = (f c).2.context?.map fun _ => context := by
      unfold withContext context?
      cases (f c).2.allocator <;> rfl
    exact (congrArg context? eq).trans map
  cases after : (f c).2.context? with
  | none => exact .inl rfl
  | some context' =>
    rw [after] at kept
    obtain ⟨p, _ | a, holds, cards⟩ := c
    · -- Without an allocator there is no context that a call could bring.
      have first := kept ⟨throw "", {}, .untried⟩ rfl
      have second := kept ⟨throw "", {}, .failed .unavailable⟩ rfl
      cases first.symm.trans second
    · exact .inr (kept a.context rfl)

/-- What looks at nothing but how far a context is does not depend on where its card and backend come
from. -/
theorem step_aloof {op : Operation} (blind : op.looks = false) (keeps : op.endsAllocator = false) :
    Aloof fun c => c.step op := by
  have buffer {α : Type} (d : Descriptor) (x : ExceptT Error ObjectM α) (g : α → Reply) :
      Aloof fun c => replying g (c.onAllocator (Allocator.onBuffer d x)) :=
    (Aloof.onAllocator (Allocator.onBuffer_aloof d x)).replying g
  cases op with
  | arm | script => exact fun _ _ => rfl
  | create width height raw usage =>
    have unknown : PixelFormat.ofRaw? raw = none := by simpa [Operation.looks] using blind
    refine (Aloof.onAllocator (x := Allocator.create width height raw usage) ?_).replying _
    intro a p context
    have run (a : Allocator) : (Allocator.create width height raw usage).run.run a p =
        ((.error (.invalidFormat raw), a), p.reported (.unknownFormat raw)) := by
      rw [Allocator.create_run, unknown]
    rw [run, run]
  | register d =>
    have unkeyed : d.key? = none := by simpa [Operation.looks] using blind
    refine (Aloof.onAllocator (x := Allocator.register d) ?_).replying _
    intro a p context
    have run (a : Allocator) : (Allocator.register d).run.run a p = ((.error .invalidHandle, a), p) := by
      rw [Allocator.register_run, unkeyed]
    rw [run, run]
  | unregister d => exact (Aloof.onAllocator (Allocator.unregister_aloof d)).replying _
  | dropLocal d => exact (Aloof.onAllocator (Allocator.dropLocal_aloof d)).replying _
  | lock d usage region => exact buffer d _ _
  | lockPlanar d usage region => exact buffer d _ _
  | unlock d =>
    exact (Aloof.onAllocator (x := liftM (Allocator.unlock d))
      ((Allocator.unlock_aloof d).bind fun _ => .pure _)).replying _
  | planes d => exact (Aloof.onAllocator (Allocator.planes_aloof d)).replying _
  | hold d =>
    simp only [step, holding_eq]
    exact (Aloof.onAllocator (Allocator.hold_aloof d)).proceed fun _ _ _ => rfl
  | lockObject id usage region => exact .onObject id _ _
  | lockPlanarObject id usage region => exact .onObject id _ _
  | unlockObject id => exact .onObject id _ _
  | attach id => exact .onObject id _ _
  | share id | drop id | dropCard card =>
    intro c context
    unfold step withContext
    dsimp only
    split <;> rfl
  | dropAllocator => cases keeps
  | _ => cases blind

/-- A call that does not look at the context leaves it as it is, unless it ends the allocator. -/
theorem step_context {op : Operation} (blind : op.looks = false) (c : Client) :
    (c.step op).2.context? = none ∨ (c.step op).2.context? = c.context? := by
  cases ends : op.endsAllocator with
  | true =>
    obtain ⟨order, rfl⟩ := Operation.endsAllocator_iff.1 ends
    obtain ⟨p, _ | a, holds, cards⟩ := c <;> exact .inl rfl
  | false => exact (step_aloof blind ends).context c

/-! ### Calls that look -/

/-- A call that looks at the context and does not depend on it further. -/
def Looks (f : Client → Except Error β × Client) : Prop :=
  ∃ act : Ready → Client → Except Error β × Client,
    (∀ r, Aloof (act r)) ∧ ∀ c, f c = proceed act c.look

/-- Calls of the allocator that start with making its context ready look at it. -/
theorem onAllocator_ready (f : Ready → ExceptT Error AllocatorM α) (c : Client) :
    c.onAllocator (Allocator.onContext Context.ready >>= f) =
      proceed (fun r c => c.onAllocator (f r)) c.look := by
  obtain ⟨p, _ | a, holds, cards⟩ := c
  · rfl
  · unfold look onAllocator
    dsimp only
    rw [run_bind]
    rcases (Allocator.onContext Context.ready).run.run a p with ⟨⟨_ | r, a⟩, p⟩ <;> rfl

namespace Looks

theorem onAllocator {f : Ready → ExceptT Error AllocatorM α} (aloof : ∀ r, Allocator.Aloof (f r).run) :
    Looks fun c => c.onAllocator (Allocator.onContext Context.ready >>= f) :=
  ⟨_, fun r => .onAllocator (aloof r), onAllocator_ready f⟩

theorem proceed {f : Client → Except Error α × Client} {next : α → Client → Except Error β × Client}
    (looks : Looks f) (aloof : ∀ b, Aloof (next b)) : Looks fun c => proceed next (f c) := by
  obtain ⟨act, first, eq⟩ := looks
  refine ⟨fun r c => Client.proceed next (act r c), fun r => (first r).proceed aloof, fun c => ?_⟩
  dsimp only
  rw [eq]
  rcases c.look with ⟨_ | r, c⟩ <;> rfl

theorem replying {f : Client → Except Error α × Client} (looks : Looks f) (g : α → Reply) :
    Looks fun c => replying g (f c) := by
  simp only [replying_eq]
  exact looks.proceed fun _ => .answer _

end Looks

/-- A request to the card is sent once the context is ready. -/
theorem onAllocator_exchange (x : Wire.Exchange α) (c : Client) :
    c.onAllocator (Allocator.onContext (Context.exchange x)) = c.onAllocator
      (Allocator.onContext Context.ready >>= fun r => Allocator.attempt (Context.send r.card.fd x)) := by
  obtain ⟨p, _ | a, holds, cards⟩ := c
  · rfl
  · unfold onAllocator
    dsimp only
    rw [run_bind, Allocator.run_onContext, Allocator.run_onContext, Context.exchange_run]
    rcases Context.ready.run.run a.context p.host with ⟨⟨_ | r, context⟩, host⟩ <;> rfl

/-- To be ready is all that is asked for. -/
theorem step_ensureReady_false (c : Client) :
    c.step (.ensureReady false) = proceed (fun _ c => (.ok .done, c)) c.look := by
  obtain ⟨p, _ | a, holds, cards⟩ := c
  · rfl
  · unfold look step onAllocator
    dsimp only
    rw [Allocator.run_onContext, Allocator.run_onContext, Context.ensureReady_run]
    rcases Context.ready.run.run a.context p.host with ⟨⟨_ | r, context⟩, host⟩ <;> rfl

/-- The display is asked for too. -/
theorem step_ensureReady_true (c : Client) : c.step (.ensureReady true) = proceed withDisplay c.look := by
  obtain ⟨p, _ | a, holds, cards⟩ := c
  · rfl
  · unfold look step onAllocator
    dsimp only
    rw [Allocator.run_onContext, Allocator.run_onContext, Context.ensureReady_run]
    rcases Context.ready.run.run a.context p.host with ⟨⟨_ | ⟨card, backend, up⟩, context⟩, host⟩
    · rfl
    · dsimp only [proceed]
      unfold withDisplay
      cases up with
      | true => rfl
      | false =>
        simp only [Bool.not_false, Bool.and_true, Bool.false_eq_true, if_true, if_false]
        unfold Context.bringUp
        rw [run_explain]
        rcases (Device.initDisplay card.fd).run host with ⟨_ | resources, host⟩ <;> rfl

theorem step_looks {op : Operation} (looks : op.looks) (plain : op ≠ .ensureReady true) :
    Looks fun c => c.step op := by
  have exchange {α : Type} (x : Wire.Exchange α) (g : α → Reply) :
      Looks fun c => replying g (c.onAllocator (Allocator.onContext (Context.exchange x))) := by
    simp only [onAllocator_exchange]
    exact (Looks.onAllocator fun r => Allocator.attempt_aloof _).replying g
  have newObject (make : Ready → Attempt Error BufferObject) :
      Looks fun c => holding (c.onAllocator (newObject make)) := by
    simp only [holding_eq]
    refine .proceed (.onAllocator fun r => ?_) fun _ _ _ => rfl
    exact .bind_attempt (Allocator.attempt_aloof (make r)) fun _ _ _ _ => rfl
  cases op with
  | create width height raw usage =>
    obtain ⟨format, known⟩ := Option.isSome_iff_exists.1 looks
    unfold step
    simp only [Allocator.create_known known]
    refine (Looks.onAllocator fun r => ?_).replying _
    exact .bind_attempt (Allocator.attempt_aloof _) fun o =>
      .bind_attempt (Allocator.adopt_aloof o) fun _ => .pure _
  | register d =>
    obtain ⟨key, keyed⟩ := Option.isSome_iff_exists.1 looks
    unfold step
    simp only [Allocator.register_keyed keyed]
    refine (Looks.onAllocator fun r => .get (fun _ _ => rfl) fun a => ?_).replying _
    split
    · exact .bind_attempt (Allocator.attempt_aloof _) fun o =>
        .bind_attempt (Allocator.adopt_aloof o) fun _ => Allocator.countReference_aloof key
    · exact Allocator.countReference_aloof key
  | ensureReady needDisplay =>
    refine ⟨fun _ c => (.ok .done, c), fun _ => .answer _, fun c => ?_⟩
    obtain rfl : needDisplay = false := by
      cases needDisplay with
      | false => rfl
      | true => exact absurd rfl plain
    exact step_ensureReady_false c
  | authMagic => exact exchange .getMagic _
  | authenticate magic => exact exchange (.authMagic magic) _
  | acquireMaster => exact exchange .setMaster _
  | releaseMaster => exact exchange .dropMaster _
  | holdCard =>
    have card : Looks fun c => c.onAllocator newCard := .onAllocator fun r _ _ _ => rfl
    have eq (c : Client) : c.step .holdCard =
        proceed (fun card c => (.ok (.card card), { c with cards := card :: c.cards }))
          (c.onAllocator newCard) := by
      unfold step
      dsimp only
      rcases c.onAllocator newCard with ⟨_ | _, _⟩ <;> rfl
    simp only [eq]
    exact card.proceed fun _ _ _ => rfl
  | createObject width height format usage => exact newObject _
  | importObject d => exact newObject _
  | _ => cases looks

end Client

end GraphicsBuffers

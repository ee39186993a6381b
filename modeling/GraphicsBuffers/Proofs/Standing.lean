import GraphicsBuffers.Proofs.Looks
/-!
# What a context remembers

The first call that looks at a context has its card opened and its backend made, and every later one sees
what came of that (`Client.look_again`, `Context.Stands`). Where they come from matters only then
(`Client.step_sourcing`). As long as a context is not ready, the client has got nothing
(`Client.Idle`), so that once it has failed all that is called leaves the kernel alone.
-/

namespace GraphicsBuffers

/-! ## Contexts -/

/-- What a context remembers of having been started. -/
def ContextState.ofStart : Except StartFailure Ready → ContextState
  | .ok r => .ready r
  | .error f => .failed f

/-- What a context remembers it remembers still, and the display stays up. -/
structure Context.Stands (c c' : Context) : Prop where
  opener : c'.opener = c.opener
  table : c'.table = c.table
  failed : ∀ f, c.state = .failed f → c'.state = .failed f
  ready : ∀ r, c.state = .ready r → ∃ r', c'.state = .ready r' ∧
    r'.card = r.card ∧ r'.backend = r.backend ∧ (r.displayReady → r'.displayReady)

namespace Context.Stands

variable {c c' c'' : Context}

theorem refl (c : Context) : c.Stands c := ⟨rfl, rfl, fun _ => id, fun r is => ⟨r, is, rfl, rfl, id⟩⟩

theorem trans (first : c.Stands c') (second : c'.Stands c'') : c.Stands c'' := by
  constructor
  · exact second.opener.trans first.opener
  · exact second.table.trans first.table
  · exact fun f is => second.failed f (first.failed f is)
  · intro r is
    obtain ⟨r', is', card, backend, display⟩ := first.ready r is
    obtain ⟨r'', is'', card', backend', display'⟩ := second.ready r' is'
    exact ⟨r'', is'', card'.trans card, backend'.trans backend, fun up => display' (display up)⟩

/-- A context that has been tried is not untried again. -/
theorem tried (stands : c.Stands c') (tried : c.state ≠ .untried) : c'.state ≠ .untried := by
  intro untried
  cases state : c.state with
  | untried => exact tried state
  | failed f => cases untried.symm.trans (stands.failed f state)
  | ready r =>
    obtain ⟨r', is, -⟩ := stands.ready r state
    cases untried.symm.trans is

/-- Being started is something to be remembered. -/
theorem of_untried (untried : c.state = .untried) (state : ContextState) :
    c.Stands { c with state } :=
  ⟨rfl, rfl, fun _ is => absurd (untried.symm.trans is) nofun,
    fun _ is => absurd (untried.symm.trans is) nofun⟩

end Context.Stands

/-! ## Allocators -/

namespace Allocator

variable {a : Allocator} {β : Type}

/-- A call changes nothing but the log. -/
def Idles (a : Allocator) (p : Process) (x : ExceptT Error AllocatorM β) : Prop :=
  ∃ answer log, x.run.run a p = ((answer, a), { p with host.log := log })

theorem create_idles {raw : Int32} (unknown : PixelFormat.ofRaw? raw = none) (width height : UInt32)
    (usage : Usage) (p : Process) : a.Idles p (create width height raw usage) := by
  unfold Idles
  rw [create_run, unknown]
  exact ⟨_, _, rfl⟩

theorem register_idles {d : Descriptor} (unkeyed : d.key? = none) (p : Process) :
    a.Idles p (register d) := by
  unfold Idles
  rw [register_run, unkeyed]
  exact ⟨_, _, rfl⟩

section Empty

variable (empty : a.registry = {})
include empty

theorem lookup_empty (d : Descriptor) : a.lookup d = .error .invalidHandle := by
  unfold lookup keyOf
  rw [empty]
  cases d.key? <;> rfl

theorem entries_empty (key : MemoryRef) : a.registry.entries.get? key = none := by
  rw [empty]
  rfl

variable (d : Descriptor) (p : Process)

theorem onBuffer_idles (x : ExceptT Error ObjectM β) : a.Idles p (onBuffer d x) := by
  unfold Idles
  rw [onBuffer_run, lookup_empty empty]
  exact ⟨_, _, rfl⟩

theorem unregister_idles : a.Idles p (unregister d) := by
  unfold Idles
  rw [unregister_run]
  split
  · exact ⟨_, _, rfl⟩
  · rw [Registry.get?, entries_empty empty]
    exact ⟨_, _, rfl⟩

theorem dropLocal_idles : a.Idles p (dropLocal d) := by
  unfold Idles
  rw [dropLocal_run]
  split
  · exact ⟨_, _, rfl⟩
  · rw [run_tryRegistry, Registry.release_run, entries_empty empty]
    exact ⟨_, _, rfl⟩

theorem unlock_idles : a.Idles p (liftM (unlock d)) := by
  have run : (liftM (unlock d) : ExceptT Error AllocatorM Unit).run.run a p =
      ((.ok (), ((unlock d).run a p).1.2), ((unlock d).run a p).2) := rfl
  unfold Idles
  rw [run, unlock_run, lookup_empty empty]
  exact ⟨_, _, rfl⟩

theorem planes_idles : a.Idles p (planes d) := by
  unfold Idles
  rw [planes_run, lookup_empty empty]
  exact ⟨_, _, rfl⟩

theorem hold_empty : (hold d).run.run a p = ((.error .invalidHandle, a), p) := by
  rw [hold_run, lookup_empty empty]

omit d

/-- An allocator that has not got a card either has nothing to let go of. -/
theorem dispose_empty (unready : ∀ r, a.context.state ≠ .ready r) (order : List MemoryRef) :
    ((dispose order).run a p).2 = p := by
  have nothing : a.context.dispose = Pure.pure () := by
    unfold Context.dispose
    split
    · next r is => exact absurd is (unready r)
    · rfl
    · rfl
  rw [dispose_run, nothing, empty, clear_run, Table.arranged_empty]
  rfl

end Empty

end Allocator

namespace Client

variable {β : Type} {c : Client} {context : Context}

/-! ## Looks -/

/-- The client with a context that is so far. -/
def withState (c : Client) (state : ContextState) : Client :=
  { c with allocator := c.allocator.map fun a => { a with context.state := state } }

/-- The client once its context has been started. -/
def started (c : Client) (result : Except StartFailure Ready × Host) : Client :=
  (c.withHost result.2).withState (.ofStart result.1)

theorem look_retired (retired : c.context? = none) : c.look = (.error .invalidHandle, c) := by
  obtain ⟨p, _ | a, holds, cards⟩ := c
  · rfl
  · cases retired

theorem look_ready (known : c.context? = some context) {r : Ready} (is : context.state = .ready r) :
    c.look = (.ok r, c) := by
  obtain ⟨p, _ | a, holds, cards⟩ := c <;> cases known
  unfold look onAllocator
  dsimp only
  rw [Allocator.run_onContext, Context.ready_run, is]

theorem look_failed (known : c.context? = some context) {f : StartFailure}
    (is : context.state = .failed f) : c.look = (.error f.error, c) := by
  obtain ⟨p, _ | a, holds, cards⟩ := c <;> cases known
  unfold look onAllocator
  dsimp only
  rw [Allocator.run_onContext, Context.ready_run, is]

theorem look_untried (known : c.context? = some context) (is : context.state = .untried) :
    c.look =
      let result := (Context.start context.opener context.table).run c.process.host
      (result.1.mapError StartFailure.error, c.started result) := by
  obtain ⟨p, _ | a, holds, cards⟩ := c <;> cases known
  unfold look onAllocator
  dsimp only
  rw [Allocator.run_onContext, Context.ready_run, is]
  dsimp only
  rcases (Context.start a.context.opener a.context.table).run p.host with ⟨f | r, host⟩ <;> rfl

/-- A second look shows the same and does nothing. -/
theorem look_again (c : Client) : c.look.2.look = c.look := by
  cases known : c.context? with
  | none =>
    have eq := look_retired known
    rw [eq]
    exact eq
  | some context =>
    cases is : context.state with
    | ready r =>
      have eq := look_ready known is
      rw [eq]
      exact eq
    | failed f =>
      have eq := look_failed known is
      rw [eq]
      exact eq
    | untried =>
      rw [look_untried known is]
      dsimp only
      obtain ⟨p, _ | a, holds, cards⟩ := c <;> cases known
      rcases (Context.start a.context.opener a.context.table).run p.host with ⟨f | r, host⟩
      · exact look_failed rfl rfl
      · exact look_ready rfl rfl

/-- A call that looks goes on with what it sees. -/
theorem step_proceeds {op : Operation} (looks : op.looks) :
    ∃ act, ∀ c : Client, c.step op = proceed act c.look := by
  by_cases display : op = .ensureReady true
  · exact ⟨withDisplay, fun c => display ▸ step_ensureReady_true c⟩
  · obtain ⟨act, -, eq⟩ := step_looks looks display
    exact ⟨act, eq⟩

/-- Looking first makes no difference to it. -/
theorem step_look {op : Operation} (looks : op.looks) (c : Client) : c.step op = c.look.2.step op := by
  obtain ⟨act, eq⟩ := step_proceeds looks
  rw [eq, eq, look_again]

/-- If there is nothing to be seen, that is the answer. -/
theorem step_unready {op : Operation} (looks : op.looks) {c' : Client} {e : Error}
    (seen : c.look = (.error e, c')) : c.step op = (.error e, c') := by
  obtain ⟨act, eq⟩ := step_proceeds looks
  rw [eq, seen]
  rfl

/-! ## Where the card and the backend come from -/

/-- The client with another opener and another table. -/
def sourcing (c : Client) (opener : Opener) (table : BackendTable) : Client :=
  { c with allocator := c.allocator.map fun a => { a with
      context.opener := opener
      context.table := table } }

/-- The context has been tried, if it is still there. -/
def Tried (c : Client) : Prop := ∀ context, c.context? = some context → context.state ≠ .untried

section Sourcing

variable (opener : Opener) (table : BackendTable)

theorem withContext_retired (retired : c.context? = none) (context : Context) :
    c.withContext context = c := by
  obtain ⟨p, _ | a, holds, cards⟩ := c
  · rfl
  · cases retired

theorem sourcing_retired (retired : c.context? = none) : c.sourcing opener table = c := by
  obtain ⟨p, _ | a, holds, cards⟩ := c
  · rfl
  · cases retired

theorem sourcing_eq (known : c.context? = some context) :
    c.sourcing opener table = c.withContext { context with opener, table } := by
  obtain ⟨p, _ | a, holds, cards⟩ := c <;> cases known
  rfl

theorem sourcing_context (c : Client) : (c.sourcing opener table).context? =
    c.context?.map fun context => { context with opener, table } := by
  obtain ⟨p, _ | a, holds, cards⟩ := c <;> rfl

theorem look_sourcing (tried : c.Tried) :
    (c.sourcing opener table).look = (c.look.1, c.look.2.sourcing opener table) := by
  cases known : c.context? with
  | none =>
    have same := sourcing_retired opener table known
    rw [same, look_retired known, same]
  | some context =>
    have known' := sourcing_context opener table c
    rw [known] at known'
    cases is : context.state with
    | ready r => rw [look_ready known is, look_ready known' is]
    | failed f => rw [look_failed known is, look_failed known' is]
    | untried => exact absurd is (tried context known)

theorem Aloof.sourcing {f : Client → β × Client} (aloof : Aloof f) (c : Client) :
    f (c.sourcing opener table) = ((f c).1, (f c).2.sourcing opener table) := by
  cases known : c.context? with
  | none =>
    have retired : (f c).2.context? = none := (aloof.context c).elim id fun same => same.trans known
    rw [sourcing_retired opener table known, sourcing_retired opener table retired]
  | some context =>
    rw [sourcing_eq opener table known, aloof]
    obtain retired | same := aloof.context c
    · rw [withContext_retired retired, sourcing_retired opener table retired]
    · rw [sourcing_eq opener table (same.trans known)]

theorem withDisplay_sourcing (r : Ready) (c : Client) :
    withDisplay r (c.sourcing opener table) =
      ((withDisplay r c).1, (withDisplay r c).2.sourcing opener table) := by
  obtain ⟨p, a, holds, cards⟩ := c
  have host : (sourcing ⟨p, a, holds, cards⟩ opener table).process.host = p.host := rfl
  unfold withDisplay
  rw [host]
  split
  · rfl
  · rcases (Device.initDisplay r.card.fd).run p.host with ⟨_ | resources, host⟩
    · rfl
    · cases a <;> rfl

/-- Once a context has been tried, and for calls that do not look at it anyway, it does not matter what
would open its card and make its backend. -/
theorem step_sourcing {op : Operation} (tried : op.looks → c.Tried) :
    (c.sourcing opener table).step op = ((c.step op).1, (c.step op).2.sourcing opener table) := by
  have proceeding {act : Ready → Client → Except Error Reply × Client} (looks : op.looks)
      (sourced : ∀ r c, act r (c.sourcing opener table) =
        ((act r c).1, (act r c).2.sourcing opener table))
      (eq : ∀ c : Client, c.step op = proceed act c.look) :
      (c.sourcing opener table).step op = ((c.step op).1, (c.step op).2.sourcing opener table) := by
    rw [eq, eq, look_sourcing opener table (tried looks)]
    rcases c.look with ⟨e | r, c⟩
    · rfl
    · exact sourced r c
  by_cases display : op = .ensureReady true
  · exact proceeding (display ▸ rfl) (withDisplay_sourcing opener table) fun c =>
      display ▸ step_ensureReady_true c
  cases looks : op.looks with
  | true =>
    obtain ⟨act, aloof, eq⟩ := step_looks looks display
    exact proceeding looks (fun r => (aloof r).sourcing opener table) eq
  | false =>
    cases drops : op.endsAllocator with
    | true =>
      obtain ⟨order, rfl⟩ := Operation.endsAllocator_iff.1 drops
      obtain ⟨p, _ | a, holds, cards⟩ := c <;> rfl
    | false => exact (step_aloof looks drops).sourcing opener table c

end Sourcing

/-! ## What stands -/

/-- The allocator is gone, or its context remembers what it did. -/
def Stands (c c' : Client) : Prop :=
  ∀ context', c'.context? = some context' → ∃ context, c.context? = some context ∧ context.Stands context'

section Stands

variable {c' c'' : Client}

theorem Stands.refl (c : Client) : c.Stands c := fun context known => ⟨context, known, .refl context⟩

theorem Stands.trans (first : c.Stands c') (second : c'.Stands c'') : c.Stands c'' := by
  intro context'' known''
  obtain ⟨context', known', stands'⟩ := second context'' known''
  obtain ⟨context, known, stands⟩ := first context' known'
  exact ⟨context, known, stands.trans stands'⟩

theorem Stands.of_same (same : c'.context? = none ∨ c'.context? = c.context?) : c.Stands c' := by
  intro context known
  obtain gone | same := same
  · cases gone.symm.trans known
  · exact ⟨context, same.symm.trans known, .refl context⟩

theorem Tried.stands (tried : c.Tried) (stands : c.Stands c') : c'.Tried := by
  intro context' known'
  obtain ⟨context, known, stands⟩ := stands context' known'
  exact stands.tried (tried context known)

/-- What a look leaves is tried, and if it shows a card that is what the context remembers. -/
theorem look_stands (c : Client) : c.Stands c.look.2 ∧ c.look.2.Tried ∧
    ∀ r, c.look.1 = .ok r → ∃ context, c.look.2.context? = some context ∧ context.state = .ready r := by
  cases known : c.context? with
  | none =>
    rw [look_retired known]
    refine ⟨.refl c, fun context known' => ?_, nofun⟩
    cases known.symm.trans known'
  | some context =>
    have tried {state : ContextState} (is : context.state = state) (tried : state ≠ .untried) :
        c.Tried := by
      intro context' known'
      cases known.symm.trans known'
      rwa [is]
    cases is : context.state with
    | ready r =>
      rw [look_ready known is]
      refine ⟨.refl c, tried is nofun, ?_⟩
      rintro _ ⟨⟩
      exact ⟨context, known, is⟩
    | failed f =>
      rw [look_failed known is]
      exact ⟨.refl c, tried is nofun, nofun⟩
    | untried =>
      rw [look_untried known is]
      dsimp only
      generalize (Context.start context.opener context.table).run c.process.host = result
      have now : (c.started result).context? = some { context with state := .ofStart result.1 } := by
        obtain ⟨p, _ | a, holds, cards⟩ := c <;> cases known
        rfl
      refine ⟨?_, ?_, ?_⟩
      · intro context' known'
        cases now.symm.trans known'
        exact ⟨context, known, .of_untried is _⟩
      · intro context' known'
        cases now.symm.trans known'
        rcases result with ⟨_ | _, _⟩ <;> nofun
      · intro r shown
        rcases result with ⟨f | r', host⟩ <;> cases shown
        exact ⟨_, now, rfl⟩

/-- The display of a card that is remembered may have come up. -/
theorem withDisplay_stands {r : Ready} (known : c.context? = some context) (is : context.state = .ready r) :
    c.Stands (withDisplay r c).2 := by
  unfold withDisplay
  split
  · exact .refl c
  · next down =>
    rcases (Device.initDisplay r.card.fd).run c.process.host with ⟨e | resources, host⟩
    · exact .of_same (.inr rfl)
    · intro context' known'
      obtain ⟨p, _ | a, holds, cards⟩ := c <;> cases known
      cases known'
      refine ⟨_, rfl, rfl, rfl, fun f is' => ?_, fun r' is' => ?_⟩ <;> cases is.symm.trans is'
      exact ⟨_, rfl, rfl, rfl, fun _ => rfl⟩

theorem step_stands (c : Client) (op : Operation) : c.Stands (c.step op).2 := by
  have proceeding {act : Ready → Client → Except Error Reply × Client}
      (stands : ∀ r (c : Client) (context : Context), c.context? = some context →
        context.state = .ready r → c.Stands (act r c).2)
      (eq : ∀ c : Client, c.step op = proceed act c.look) : c.Stands (c.step op).2 := by
    obtain ⟨first, -, shown⟩ := c.look_stands
    rw [eq]
    rcases look : c.look with ⟨e | r, c'⟩ <;> rw [look] at first shown
    · exact first
    · obtain ⟨context, known, is⟩ := shown r rfl
      exact first.trans (stands r c' context known is)
  by_cases display : op = .ensureReady true
  · exact proceeding (fun r c context => withDisplay_stands) fun c => display ▸ step_ensureReady_true c
  cases looks : op.looks with
  | true =>
    obtain ⟨act, aloof, eq⟩ := step_looks looks display
    exact proceeding (fun r c _ _ _ => .of_same ((aloof r).context c)) eq
  | false => exact .of_same (step_context looks c)

theorem run_stands (c : Client) (calls : List Operation) : c.Stands (c.run calls) := by
  induction calls generalizing c with
  | nil => exact .refl c
  | cons op calls ih => exact (c.step_stands op).trans (ih _)

/-- After a call that looks the context has been tried. -/
theorem step_tried {op : Operation} (looks : op.looks) (c : Client) : (c.step op).2.Tried := by
  obtain ⟨-, tried, -⟩ := c.look_stands
  rw [step_look looks]
  exact tried.stands (c.look.2.step_stands op)

end Stands

/-! ## Clients that have got nothing -/

/-- Nothing is registered, and the client holds nothing of its own. -/
structure Idle (c : Client) : Prop where
  registry : ∀ a, c.allocator = some a → a.registry = {}
  holds : c.holds = []
  cards : c.cards = []

/-- The kernel has not been called, no card has been held or let go, and the client has got nothing. -/
structure Quiet (c c' : Client) : Prop where
  allocator : c'.allocator = none ∨ c'.allocator = c.allocator
  holds : c'.holds = c.holds
  cards : c'.cards = c.cards
  trace : c'.process.host.kernel.trace = c.process.host.kernel.trace
  holders : c'.process.host.cardHolders = c.process.host.cardHolders

/-- The context will not be ready any more, or is gone. -/
def Over (c : Client) : Prop :=
  ∀ context, c.context? = some context → ∃ f, context.state = .failed f

section Idle

variable {c' c'' : Client}

theorem Quiet.refl (c : Client) : c.Quiet c := ⟨.inr rfl, rfl, rfl, rfl, rfl⟩

theorem Quiet.trans (first : c.Quiet c') (second : c'.Quiet c'') : c.Quiet c'' where
  allocator := second.allocator.elim .inl fun same => first.allocator.imp same.trans same.trans
  holds := second.holds.trans first.holds
  cards := second.cards.trans first.cards
  trace := second.trace.trans first.trace
  holders := second.holders.trans first.holders

theorem Quiet.idle (quiet : c.Quiet c') (idle : c.Idle) : c'.Idle where
  registry a known := quiet.allocator.elim (fun gone => nomatch gone.symm.trans known) fun same =>
    idle.registry a (same.symm.trans known)
  holds := quiet.holds.trans idle.holds
  cards := quiet.cards.trans idle.cards

/-- A call that changes nothing but the log. -/
theorem quiet_of_idles {x : ExceptT Error AllocatorM β} {f : β → Reply}
    (idles : ∀ a, c.allocator = some a → a.Idles c.process x) :
    c.Quiet (replying f (c.onAllocator x)).2 := by
  obtain ⟨p, _ | a, holds, cards⟩ := c
  · exact .refl _
  · obtain ⟨answer, log, eq⟩ := idles a rfl
    unfold onAllocator
    dsimp only
    rw [eq]
    exact ⟨.inr rfl, rfl, rfl, rfl, rfl⟩

/-- Calls that do not look find nothing to do. -/
theorem Idle.quiet (idle : c.Idle)
    (unready : ∀ context r, c.context? = some context → context.state ≠ .ready r) {op : Operation}
    (blind : op.looks = false) : c.Quiet (c.step op).2 := by
  obtain ⟨p, allocator, holds, cards⟩ := c
  obtain ⟨registry, rfl, rfl⟩ := idle
  cases op with
  | arm | script => exact ⟨.inr rfl, rfl, rfl, rfl, rfl⟩
  | create width height raw usage =>
    have unknown : PixelFormat.ofRaw? raw = none := by simpa [Operation.looks] using blind
    exact quiet_of_idles fun a known => Allocator.create_idles unknown ..
  | register d =>
    have unkeyed : d.key? = none := by simpa [Operation.looks] using blind
    exact quiet_of_idles fun a known => Allocator.register_idles unkeyed _
  | unregister d => exact quiet_of_idles fun a known => Allocator.unregister_idles (registry a known) ..
  | dropLocal d => exact quiet_of_idles fun a known => Allocator.dropLocal_idles (registry a known) ..
  | lock d usage region | lockPlanar d usage region =>
    exact quiet_of_idles fun a known => Allocator.onBuffer_idles (registry a known) ..
  | unlock d => exact quiet_of_idles fun a known => Allocator.unlock_idles (registry a known) ..
  | planes d => exact quiet_of_idles fun a known => Allocator.planes_idles (registry a known) ..
  | hold d =>
    cases known : allocator with
    | none => exact .refl _
    | some a =>
      have eq : step ⟨p, some a, [], []⟩ (.hold d) = (.error .invalidHandle, ⟨p, some a, [], []⟩) := by
        unfold step onAllocator
        dsimp only
        rw [Allocator.hold_empty (registry a known)]
        rfl
      rw [eq]
      exact .refl _
  | dropAllocator order =>
    cases known : allocator with
    | none => exact .refl _
    | some a =>
      have process : ((Allocator.dispose order).run a p).2 = p :=
        Allocator.dispose_empty (registry a known) p (fun r => unready a.context r (known ▸ rfl)) order
      have eq : (step ⟨p, some a, [], []⟩ (.dropAllocator order)).2 = ⟨p, none, [], []⟩ :=
        congrArg (Client.mk · none [] []) process
      rw [eq]
      exact ⟨.inl rfl, rfl, rfl, rfl, rfl⟩
  | lockObject | lockPlanarObject | unlockObject | attach | share | drop | dropCard => exact .refl _
  | _ => cases blind

theorem Over.stands (ended : c.Over) (stands : c.Stands c') : c'.Over := by
  intro context' known'
  obtain ⟨context, known, stands⟩ := stands context' known'
  obtain ⟨f, is⟩ := ended context known
  exact ⟨f, stands.failed f is⟩

/-- What a client sees once all is over. -/
theorem Over.look (ended : c.Over) : ∃ e, c.look = (.error e, c) := by
  cases known : c.context? with
  | none => exact ⟨_, look_retired known⟩
  | some context =>
    obtain ⟨f, is⟩ := ended context known
    exact ⟨_, look_failed known is⟩

theorem Over.step_quiet (ended : c.Over) (idle : c.Idle) (op : Operation) : c.Quiet (c.step op).2 := by
  cases looks : op.looks with
  | true =>
    obtain ⟨e, seen⟩ := ended.look
    rw [step_unready looks seen]
    exact .refl c
  | false =>
    refine idle.quiet (fun context r known is => ?_) looks
    obtain ⟨f, failed⟩ := ended context known
    cases failed.symm.trans is

/-- Once a context has failed, the kernel is not called any more. -/
theorem Over.run_quiet (ended : c.Over) (idle : c.Idle) (calls : List Operation) :
    c.Quiet (c.run calls) := by
  induction calls generalizing c with
  | nil => exact .refl c
  | cons op calls ih =>
    have quiet := ended.step_quiet idle op
    exact quiet.trans (ih (ended.stands (c.step_stands op)) (quiet.idle idle))

/-- As long as its context is not ready, a client has got nothing. -/
def Dormant (c : Client) : Prop :=
  ∀ context, c.context? = some context → (∀ r, context.state ≠ .ready r) → c.Idle

theorem Dormant.step (dormant : c.Dormant) (op : Operation) : (c.step op).2.Dormant := by
  intro context' known' unready'
  obtain ⟨context, known, stands⟩ := c.step_stands op context' known'
  have unready (r : Ready) : context.state ≠ .ready r := by
    intro is
    obtain ⟨r', is', -⟩ := stands.ready r is
    exact unready' r' is'
  have idle := dormant context known unready
  cases looks : op.looks with
  | false =>
    refine (idle.quiet (fun context₁ r known₁ => ?_) looks).idle idle
    cases known.symm.trans known₁
    exact unready r
  | true =>
    rcases seen : c.look with ⟨e | r, c₁⟩
    · -- What the attempt has left is what there was, but for the host.
      rw [step_unready looks seen]
      cases is : context.state with
      | ready r => exact absurd is (unready r)
      | failed f =>
        cases seen.symm.trans (look_failed known is)
        exact idle
      | untried =>
        obtain rfl := congrArg Prod.snd (seen.symm.trans (look_untried known is))
        refine ⟨fun a known => ?_, idle.holds, idle.cards⟩
        obtain ⟨p, _ | a', holds, cards⟩ := c <;> cases known
        exact idle.registry a' rfl
    · -- A context that shows a card is ready, and stays so.
      obtain ⟨-, -, shown⟩ := c.look_stands
      rw [seen] at shown
      obtain ⟨context₁, known₁, is₁⟩ := shown r rfl
      rw [step_look looks, seen] at known'
      obtain ⟨context₂, known₂, stands₂⟩ := c₁.step_stands op context' known'
      cases known₁.symm.trans known₂
      obtain ⟨r', is', -⟩ := stands₂.ready r is₁
      exact absurd is' (unready' r')

theorem Dormant.run (dormant : c.Dormant) (calls : List Operation) : (c.run calls).Dormant := by
  induction calls generalizing c with
  | nil => exact dormant
  | cons op calls ih => exact ih (dormant.step op)

theorem start_dormant (host : Host) (opener : Opener) (table : BackendTable) :
    (start host opener table).Dormant := by
  intro _ _ _
  refine ⟨?_, rfl, rfl⟩
  rintro _ ⟨⟩
  rfl

end Idle

end Client

end GraphicsBuffers

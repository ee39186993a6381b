import GraphicsBuffers.Proofs.Custody
import GraphicsBuffers.Proofs.ProcessLedger

/-!
# Allocators in the ledger

Every call of an allocator leaves a ledger that is that of its process: every handle that is held is that
of an object, and the card is held by the objects, by the cards of the client and by the context once it
is ready (`Allocator.Kept`). The card may be any until the context is ready, since until then there is
nothing in the ledger.
-/

namespace GraphicsBuffers

/-- A context for the card `fd`, if it is ready, with the dumb-buffer backend on it. What it opens and
does not use is closed again. -/
structure Context.Tidy (fd : Int32) (c : Context) : Prop where
  opener : c.opener.Tidy
  table : c.table.AllDumb
  ready : ∀ r, c.state = .ready r → r.card.fd = fd ∧ r.backend = .dumb fd

namespace Allocator

/-- The ledger `l` is that of an allocator, its process, and the cards that the client holds. -/
structure Kept (s : Surroundings) (fd : Int32) (cards : List Card) (a : Allocator) (p : Process)
    (l : Ledger) : Prop where
  process : p.Kept s fd (cards.length + a.context.holders) l
  onCard : ∀ card ∈ cards, card.fd = fd
  context : a.context.Tidy fd
  /-- There is nothing before the card is opened. -/
  untried : a.context.state = .untried → p.objects.size = 0 ∧ cards = []

/-- What is to be shown of a call: there is a ledger still. -/
def StaysKept {α : Type} (s : Surroundings) (cards : List Card)
    (result : (α × Allocator) × Process) : Prop :=
  ∃ fd l, result.1.2.Kept s fd cards result.2 l

variable {s : Surroundings} {fd : Int32} {cards : List Card} {a a' : Allocator} {p p' : Process}
  {l l' : Ledger}

/-- Making the context ready may open the card, and changes nothing else. -/
theorem Kept.ready (kept : a.Kept s fd cards p l) {outcome : Except Error Ready}
    (eq : (onContext Context.ready).run.run a p = ((outcome, a'), p')) :
    ∃ fd l, a'.Kept s fd cards p' l := by
  obtain ⟨⟨opener, table, state⟩, registry⟩ := a
  rw [run_onContext, Context.ready_run] at eq
  cases state with
  | ready r =>
    cases eq
    exact ⟨fd, l, kept⟩
  | failed f =>
    cases eq
    exact ⟨fd, l, kept⟩
  | untried =>
    obtain ⟨size, none⟩ := kept.untried rfl
    subst none
    dsimp only at eq
    -- There is nothing in the ledger yet.
    have bare := kept.process.bare size
    have nothing : l = {} := by
      have closed : l.card = none := by rw [kept.process.counts.card, size]; rfl
      obtain ⟨card, holdings⟩ := l
      cases closed
      obtain rfl : holdings = fun _ => none := funext bare
      rfl
    subst nothing
    have started := Context.start_audited kept.context.opener kept.context.table kept.process.audited
    unfold Yields at started
    rcases ran : (Context.start opener table).run p.host with ⟨f | r, h⟩ <;>
      rw [ran] at started eq <;> cases eq
    · refine ⟨fd, {}, kept.process.hosted started rfl ⟨?_, ?_⟩, nofun, ?_, nofun⟩
      · rw [size]
        rfl
      · rw [size]
        nofun
      · exact ⟨kept.context.opener, kept.context.table, nofun⟩
    · obtain ⟨audited, holder, backend⟩ := started
      refine ⟨r.card.fd, _, ⟨audited, ?_, ⟨nofun, ?_⟩, kept.process.below, ⟨?_, ?_⟩⟩, nofun,
        ⟨kept.context.opener, kept.context.table, ?_⟩, nofun⟩
      · intro id sh found
        cases (Table.get?_eq_none_of_size size id).symm.trans found
      · intro id id' handle has
        rw [Process.handle?, Table.get?_eq_none_of_size size] at has
        cases has
      · rw [size]
        rfl
      · rw [size]
        exact fun _ => holder
      · rintro _ ⟨⟩
        exact ⟨rfl, backend⟩

/-- Only the process changes, and no objects come into one that had none. -/
theorem Kept.moved (kept : a.Kept s fd cards p l)
    (process : p'.Kept s fd (cards.length + a.context.holders) l')
    (size : p'.objects.size ≤ p.objects.size) : a.Kept s fd cards p' l' where
  process := process
  onCard := kept.onCard
  context := kept.context
  untried untried := by
    obtain ⟨none, cards⟩ := kept.untried untried
    exact ⟨by omega, cards⟩

theorem Kept.recorded (kept : a.Kept s fd cards p l) {α : Type} {x : HostM α}
    (records : Records s l x fun _ l' => l' = l) : a.Kept s fd cards (p.after x) l :=
  kept.moved (kept.process.recorded records) (Nat.le_refl _)

theorem Kept.reported (kept : a.Kept s fd cards p l) (event : LogEvent) :
    a.Kept s fd cards (p.reported event) l := kept.recorded (x := Host.report event) (.report rfl)

/-- Only the registry changes. -/
theorem Kept.registered (kept : a.Kept s fd cards p l) (same : a'.context = a.context) :
    a'.Kept s fd cards p l := by
  obtain ⟨context, registry⟩ := a
  obtain ⟨context', registry'⟩ := a'
  cases same
  exact ⟨kept.process, kept.onCard, kept.context, kept.untried⟩

/-- An object that is let go. -/
theorem Kept.released (kept : a.Kept s fd cards p l) (id : ObjectId) :
    ∃ l', a.Kept s fd cards (p.released id) l' := by
  obtain ⟨l', process⟩ := kept.process.released id
  exact ⟨l', kept.moved process (Process.size_released_le ..)⟩

theorem Kept.onObject (kept : a.Kept s fd cards p l) (id : ObjectId) {α : Type} {x : ObjectM α}
    {P : BufferObject → α → BufferObject → Prop}
    (stays : ∀ o : BufferObject, o.StaysBacked s fd (x.run o) (P o)) :
    ∃ l', a.Kept s fd cards (Process.onObject id x p).2 l' := by
  obtain ⟨l', process⟩ := kept.process.onObject id stays
  exact ⟨l', kept.moved process (Nat.le_of_eq (Process.size_onObject ..))⟩

section Made

variable {make : Attempt Error BufferObject} {h : Host} {r : Ready}
  (kept : a.Kept s fd cards p l) (ready : a.context.state = .ready r)
  (records : l.card = some fd →
    Records s l make.run (orLeaves (BufferObject.Arrives s fd l) l))
include kept ready records

theorem Kept.made {outcome : Except Error BufferObject} (eq : make.run p.host = (outcome, h)) :
    h.cardHolders = p.host.cardHolders ∧ ∃ l', h.kernel.Audited s l' ∧
      orLeaves (BufferObject.Arrives s fd l) l outcome l' := by
  have made := records (kept.process.card (positive ready)) p.host kept.process.audited
  unfold Yields at made
  rwa [eq] at made

/-- An object that could not be made leaves nothing behind. -/
theorem Kept.unmade {e : Error} (eq : make.run p.host = (.error e, h)) :
    a.Kept s fd cards { p with host := h } l := by
  obtain ⟨holders, _, audited, rfl⟩ := kept.made ready records eq
  refine kept.moved (kept.process.hosted audited rfl ⟨kept.process.counts.card, ?_⟩) (Nat.le_refl _)
  rw [holders]
  exact kept.process.counts.holders

/-- An object that is made is taken in. -/
theorem Kept.takenIn {o : BufferObject} (eq : make.run p.host = (.ok o, h)) :
    ∃ l', a.Kept s fd cards (({ p with host := h } : Process).adopted o) l' := by
  obtain ⟨holders, l', audited, arrives⟩ := kept.made ready records eq
  refine ⟨l', kept.process.adopted (positive ready) audited holders arrives, kept.onCard,
    kept.context, fun untried => ?_⟩
  simp [ready] at untried

end Made

/-- A new object is registered, or let go again if its key is taken. -/
theorem Kept.adopt {o : BufferObject} {key : MemoryRef} (adopted : a.Kept s fd cards (p.adopted o) l)
    (keyed : o.descriptor.key? = some key) :
    StaysKept s cards ((Allocator.adopt o).run.run a p) := by
  rw [adopt_run a p keyed]
  split
  · obtain ⟨l', released⟩ := (adopted.reported (.alreadyRegistered key)).released p.nextObject
    exact ⟨fd, l', released⟩
  · exact ⟨fd, l, adopted.registered rfl⟩

/-! ### Calls that make objects -/

theorem create_kept (kept : a.Kept s fd cards p l) (width height : UInt32) (raw : Int32)
    (usage : Usage) : StaysKept s cards ((create width height raw usage).run.run a p) := by
  rw [create_run]
  split
  · exact ⟨fd, l, kept.reported _⟩
  next format known =>
  rcases ready : (onContext Context.ready).run.run a p with ⟨⟨_ | r, a₁⟩, p₁⟩ <;>
    obtain ⟨fd₁, l₁, kept₁⟩ := kept.ready ready
  · exact ⟨fd₁, l₁, kept₁⟩
  have isReady := onContext_ready ready
  obtain ⟨onCard, backend⟩ := kept₁.context.ready r isReady
  have records (isOpen : l₁.card = some fd₁) :=
    BufferObject.create_records (s := s) onCard isOpen width height format usage
  rw [← backend] at records
  dsimp only
  rcases made : (BufferObject.create r.backend r.card width height format usage).run p₁.host
    with ⟨e | o, h⟩ <;> rw [attempt_eq made]
  · exact ⟨fd₁, l₁, kept₁.unmade isReady records made⟩
  dsimp only
  have fresh := BufferObject.create_fresh (congrArg Prod.fst made)
  obtain ⟨key, keyed⟩ := Option.isSome_iff_exists.1 fresh.keyed
  obtain ⟨l₂, adopted⟩ := kept₁.takenIn isReady records made
  have entered := adopted.adopt keyed
  rcases eq : (adopt o).run.run a₁ { p₁ with host := h } with ⟨⟨_ | _, a₂⟩, p₂⟩ <;>
    rw [eq] at entered <;> exact entered

theorem Kept.acquired (kept : a.Kept s fd cards p l) (key : MemoryRef) :
    StaysKept s cards (a.acquired p key) := by
  unfold Allocator.acquired
  split
  · exact ⟨fd, l, kept⟩
  · exact ⟨fd, l, (kept.reported _).registered rfl⟩

theorem register_kept (kept : a.Kept s fd cards p l) (d : Descriptor) :
    StaysKept s cards ((register d).run.run a p) := by
  rw [register_run]
  split
  · exact ⟨fd, l, kept⟩
  next key keyed =>
  rcases ready : (onContext Context.ready).run.run a p with ⟨⟨_ | r, a₁⟩, p₁⟩ <;>
    obtain ⟨fd₁, l₁, kept₁⟩ := kept.ready ready
  · exact ⟨fd₁, l₁, kept₁⟩
  dsimp only
  split
  · exact kept₁.acquired key
  have isReady := onContext_ready ready
  obtain ⟨onCard, backend⟩ := kept₁.context.ready r isReady
  have records (isOpen : l₁.card = some fd₁) :=
    BufferObject.importFrom_records (s := s) onCard isOpen d
  rw [← backend] at records
  rcases made : (BufferObject.importFrom r.backend r.card d).run p₁.host with ⟨e | o, h⟩ <;>
    rw [attempt_eq made]
  · exact ⟨fd₁, l₁, kept₁.unmade isReady records made⟩
  dsimp only
  obtain ⟨-, descriptor⟩ := BufferObject.importFrom_fresh (congrArg Prod.fst made)
  obtain ⟨l₂, adopted⟩ := kept₁.takenIn isReady records made
  have entered := adopted.adopt (descriptor ▸ keyed)
  rcases eq : (adopt o).run.run a₁ { p₁ with host := h } with ⟨⟨_ | _, a₂⟩, p₂⟩ <;>
    rw [eq] at entered
  · exact entered
  · obtain ⟨fd₂, l₃, entered⟩ := entered
    exact entered.acquired key

/-! ### Calls that let objects go -/

theorem release_kept (kept : a.Kept s fd cards p l) (key : MemoryRef) (count : Nat) :
    StaysKept s cards (match (tryRegistry (Registry.release key count)).run.run a p with
      | ((outcome, a), p) => ((outcome.map fun _ => (), a), p)) := by
  rw [run_tryRegistry, Registry.release_run]
  cases a.registry.entries.get? key with
  | none => exact ⟨fd, l, kept⟩
  | some e =>
    by_cases left : count < e.references
    · simp only [left, if_true]
      exact ⟨fd, l, kept.registered rfl⟩
    · simp only [left, if_false]
      obtain ⟨l₁, destroyed⟩ := kept.onObject e.object BufferObject.destroy_backed
      obtain ⟨l₂, released⟩ := (destroyed.reported (.unregistered key)).released e.object
      exact ⟨fd, l₂, released.registered rfl⟩

theorem unregister_kept (kept : a.Kept s fd cards p l) (d : Descriptor) :
    StaysKept s cards ((unregister d).run.run a p) := by
  rw [unregister_run]
  split
  · exact ⟨fd, l, kept⟩
  split
  · exact ⟨fd, l, kept⟩
  · exact release_kept kept _ _

theorem dropLocal_kept (kept : a.Kept s fd cards p l) (d : Descriptor) :
    StaysKept s cards ((dropLocal d).run.run a p) := by
  rw [dropLocal_run]
  split
  · exact ⟨fd, l, kept⟩
  · exact release_kept kept _ 1

/-! ### Calls on registered objects -/

theorem onBuffer_kept (kept : a.Kept s fd cards p l) (d : Descriptor) {α : Type}
    {x : ExceptT Error ObjectM α} {P : BufferObject → Except Error α → BufferObject → Prop}
    (stays : ∀ o : BufferObject, o.StaysBacked s fd (x.run.run o) (P o)) :
    StaysKept s cards ((onBuffer d x).run.run a p) := by
  rw [onBuffer_run]
  split
  · exact ⟨fd, l, kept⟩
  · next id known =>
    obtain ⟨l', kept'⟩ := kept.onObject id stays
    exact ⟨fd, l', kept'⟩

theorem unlock_kept (kept : a.Kept s fd cards p l) (d : Descriptor) :
    StaysKept s cards ((unlock d).run a p) := by
  rw [unlock_run]
  split
  · next id known =>
    obtain ⟨l', kept'⟩ := kept.onObject id BufferObject.unlock_backed
    exact ⟨fd, l', kept'⟩
  · exact ⟨fd, l, kept.reported _⟩

theorem planes_kept (kept : a.Kept s fd cards p l) (d : Descriptor) :
    StaysKept s cards ((planes d).run.run a p) := by
  rw [planes_run]
  split <;> exact ⟨fd, l, kept⟩

theorem hold_kept (kept : a.Kept s fd cards p l) (d : Descriptor) :
    StaysKept s cards ((hold d).run.run a p) := by
  rw [hold_run]
  split
  · exact ⟨fd, l, kept⟩
  · next id known =>
    exact ⟨fd, l, kept.moved (kept.process.shared id) (Nat.le_of_eq (Process.size_share ..))⟩

/-! ### Calls on the context -/

theorem Kept.readied (kept : a.Kept s fd cards p l) {outcome : Except Error Ready}
    {c : Context} {h : Host} (eq : Context.ready.run.run a.context p.host = ((outcome, c), h)) :
    ∃ fd l, ({ a with context := c } : Allocator).Kept s fd cards { p with host := h } l := by
  have readied : (onContext Context.ready).run.run a p =
      ((outcome, { a with context := c }), { p with host := h }) := by rw [run_onContext, eq]
  exact kept.ready readied

theorem ensureReady_kept (kept : a.Kept s fd cards p l) (needDisplay : Bool) :
    StaysKept s cards ((onContext (Context.ensureReady needDisplay)).run.run a p) := by
  rw [run_onContext, Context.ensureReady_run]
  rcases ready : Context.ready.run.run a.context p.host with ⟨⟨_ | r, c⟩, h⟩ <;>
    obtain ⟨fd₁, l₁, kept₁⟩ := kept.readied ready
  · exact ⟨fd₁, l₁, kept₁⟩
  dsimp only
  have isReady : c.state = .ready r := Context.ready_ok ready
  by_cases need : needDisplay && !r.displayReady
  · simp only [need, if_true]
    obtain ⟨onCard, backend⟩ := kept₁.context.ready r isReady
    have brought := kept₁.recorded
      (Context.bringUp_records (onCard ▸ kept₁.process.card (positive isReady)))
    unfold Process.after at brought
    dsimp only at brought
    rcases up : (Context.bringUp r.card.fd).run h with ⟨_ | resources, h₂⟩ <;>
      rw [StateT.run, up] at brought
    · exact ⟨fd₁, l₁, brought⟩
    · have up := (brought.reported (.displayReady resources)).process
      have once : c.holders = 1 := by rw [Context.holders, isReady]
      dsimp only at up
      rw [once] at up
      refine ⟨fd₁, l₁, up, kept₁.onCard, ⟨kept₁.context.opener, kept₁.context.table, ?_⟩, ?_⟩
      · rintro _ ⟨⟩
        exact ⟨onCard, backend⟩
      · intro untried
        cases untried
  · simp only [need]
    exact ⟨fd₁, l₁, kept₁⟩

theorem exchange_kept (kept : a.Kept s fd cards p l) {α : Type} {x : Wire.Exchange α} (uses : x.Uses) :
    StaysKept s cards ((onContext (Context.exchange x)).run.run a p) := by
  rw [run_onContext, Context.exchange_run]
  rcases ready : Context.ready.run.run a.context p.host with ⟨⟨_ | r, c⟩, h⟩ <;>
    obtain ⟨fd₁, l₁, kept₁⟩ := kept.readied ready
  · exact ⟨fd₁, l₁, kept₁⟩
  · have isReady : c.state = .ready r := Context.ready_ok ready
    have onCard := (kept₁.context.ready r isReady).1
    exact ⟨fd₁, l₁, kept₁.recorded
      (Context.send_records (onCard ▸ kept₁.process.card (positive isReady)) uses)⟩

/-! ### Calls for the client's own holds -/

theorem newObject_kept (kept : a.Kept s fd cards p l) {make : Ready → Attempt Error BufferObject}
    (records : ∀ (r : Ready) fd l, r.card.fd = fd → r.backend = .dumb fd → l.card = some fd →
      Records s l (make r).run (orLeaves (BufferObject.Arrives s fd l) l)) :
    StaysKept s cards ((Client.newObject make).run.run a p) := by
  rw [newObject_run]
  rcases ready : (onContext Context.ready).run.run a p with ⟨⟨_ | r, a₁⟩, p₁⟩ <;>
    obtain ⟨fd₁, l₁, kept₁⟩ := kept.ready ready
  · exact ⟨fd₁, l₁, kept₁⟩
  have isReady := onContext_ready ready
  obtain ⟨onCard, backend⟩ := kept₁.context.ready r isReady
  dsimp only
  rcases made : (make r).run p₁.host with ⟨e | o, h⟩ <;> rw [attempt_eq made]
  · exact ⟨fd₁, l₁, kept₁.unmade isReady (records r fd₁ l₁ onCard backend) made⟩
  · obtain ⟨l₂, taken⟩ := kept₁.takenIn isReady (records r fd₁ l₁ onCard backend) made
    exact ⟨fd₁, l₂, taken⟩

theorem Kept.newCard (kept : a.Kept s fd cards p l) {outcome : Except Error Card}
    (eq : Client.newCard.run.run a p = ((outcome, a'), p')) :
    match outcome with
    | .ok card => ∃ fd l, a'.Kept s fd (card :: cards) p' l
    | .error _ => ∃ fd l, a'.Kept s fd cards p' l := by
  rw [newCard_run] at eq
  rcases ready : (onContext Context.ready).run.run a p with ⟨⟨_ | r, a₁⟩, p₁⟩ <;> rw [ready] at eq <;>
    cases eq <;> obtain ⟨fd₁, l₁, kept₁⟩ := kept.ready ready
  · exact ⟨fd₁, l₁, kept₁⟩
  · have isReady := onContext_ready ready
    have onCard := (kept₁.context.ready r isReady).1
    refine ⟨fd₁, l₁, ?_, ?_, kept₁.context, ?_⟩
    · rw [List.length_cons, Nat.add_right_comm]
      exact kept₁.process.cardHeld onCard (positive isReady)
    · exact List.forall_mem_cons.2 ⟨onCard, kept₁.onCard⟩
    · simp [isReady]

/-- When the allocator goes, the client's holds remain. -/
theorem Kept.dispose (kept : a.Kept s fd cards p l) (order : List MemoryRef) :
    ∃ l', ((Allocator.dispose order).run a p).2.Kept s fd cards.length l' := by
  rw [dispose_run, clear_run]
  obtain ⟨l₁, process⟩ : ∃ l', (p.after a.context.dispose).Kept s fd cards.length l' := by
    have process := kept.process
    unfold Context.dispose
    cases state : a.context.state with
    | ready r =>
      rw [Context.holders, state] at process
      exact process.cardReleased (kept.context.ready r state).1
    | untried =>
      rw [Context.holders, state] at process
      exact ⟨l, process⟩
    | failed f =>
      rw [Context.holders, state] at process
      exact ⟨l, process⟩
  exact process.forM_release _

end Allocator

end GraphicsBuffers

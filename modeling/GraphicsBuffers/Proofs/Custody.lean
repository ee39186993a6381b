import GraphicsBuffers.Proofs.Bookkeeping
import GraphicsBuffers.Proofs.Ownership
/-!
# How calls keep what is owned

Every call of an allocator leaves its process in order: each object owns what it traded for, and the
card is held by the objects, by the cards of the client and by the context once it is ready. A call
that fails leaves every object owning what it did (`Allocator.Keeps`). The card of a process may be
any until the context is ready, since until then there is nothing to own.
-/

namespace GraphicsBuffers

/-! ## Contexts -/

namespace Context

/-- How often a context holds the card. -/
def holders (c : Context) : Nat :=
  match c.state with
  | .ready _ => 1
  | .untried | .failed _ => 0

/-- A context for the card `fd`, if it is ready, with the dumb-buffer backend on it. -/
structure OnDumb (fd : Int32) (c : Context) : Prop where
  opener : c.opener.OpensOnce
  table : c.table.AllDumb
  ready : ∀ r, c.state = .ready r → r.card.fd = fd ∧ r.backend = .dumb fd

end Context

/-! ## Allocators -/

namespace Allocator

/-- An allocator, its process, and the cards that the client holds, fit together. -/
structure Orderly (fd : Int32) (cards : List Card) (a : Allocator) (p : Process) : Prop where
  process : p.Orderly fd (cards.length + a.context.holders)
  onCard : ∀ card ∈ cards, card.fd = fd
  context : a.context.OnDumb fd
  /-- There is nothing before the card is opened. -/
  untried : a.context.state = .untried → p.objects.size = 0 ∧ cards = []

/-- What is to be shown of a call: all fits together, and one that fails leaves everyone owning what
they did. -/
def Keeps {α : Type} (cards : List Card) (p : Process)
    (result : (Except Error α × Allocator) × Process) : Prop :=
  (∃ fd, result.1.2.Orderly fd cards result.2) ∧
    (result.1.1.isOk = false → result.2.owned = p.owned)

variable {fd : Int32} {cards : List Card} {a a' : Allocator} {p p' : Process}

/-- Making the context ready may open the card, and changes nothing else. -/
theorem Orderly.ready (orderly : a.Orderly fd cards p) {outcome : Except Error Ready}
    (eq : (onContext Context.ready).run.run a p = ((outcome, a'), p')) :
    (∃ fd, a'.Orderly fd cards p') ∧ p'.owned = p.owned ∧ a'.registry = a.registry := by
  obtain ⟨⟨opener, table, state⟩, registry⟩ := a
  rw [run_onContext, Context.ready_run] at eq
  cases state with
  | ready r =>
    cases eq
    exact ⟨⟨fd, orderly⟩, rfl, rfl⟩
  | failed f =>
    cases eq
    exact ⟨⟨fd, orderly⟩, rfl, rfl⟩
  | untried =>
    obtain ⟨size, none⟩ := orderly.untried rfl
    subst none
    dsimp only at eq
    obtain ⟨trades, opened⟩ : TriesToOpen (Context.start opener table) p.host _ :=
      Context.start_opens orderly.context.opener orderly.context.table orderly.process.sound
    rcases started : (Context.start opener table).run p.host with ⟨f | r, h⟩ <;>
      rw [started] at trades opened eq <;> cases eq <;> refine ⟨?_, rfl, rfl⟩
    · refine ⟨fd, orderly.process.begun size trades nofun, nofun, ?_, nofun⟩
      exact ⟨orderly.context.opener, orderly.context.table, nofun⟩
    · obtain ⟨count, opened, backend⟩ := opened r rfl
      have held : h.CardHeld r.card.fd 1 := fun _ => ⟨count, opened⟩
      refine ⟨r.card.fd, orderly.process.begun size trades held, nofun, ?_, nofun⟩
      refine ⟨orderly.context.opener, orderly.context.table, ?_⟩
      rintro _ ⟨⟩
      exact ⟨rfl, backend⟩

/-- Only the process changes, and no objects come into one that had none. -/
theorem Orderly.moved (orderly : a.Orderly fd cards p)
    (process : p'.Orderly fd (cards.length + a.context.holders))
    (size : p'.objects.size ≤ p.objects.size) : a.Orderly fd cards p' where
  process := process
  onCard := orderly.onCard
  context := orderly.context
  untried untried := by
    obtain ⟨none, cards⟩ := orderly.untried untried
    exact ⟨by omega, cards⟩

theorem Orderly.neutral (orderly : a.Orderly fd cards p) {h : Host} (trades : p.host.Trades ∅ ∅ h) :
    a.Orderly fd cards { p with host := h } :=
  orderly.moved (orderly.process.neutral trades) (Nat.le_refl _)

theorem Orderly.reported (orderly : a.Orderly fd cards p) (event : LogEvent) :
    a.Orderly fd cards (p.reported event) := orderly.neutral (.reported orderly.process.sound event)

/-- Only the registry changes. -/
theorem Orderly.recorded (orderly : a.Orderly fd cards p) (same : a'.context = a.context) :
    a'.Orderly fd cards p := by
  obtain ⟨context, registry⟩ := a
  obtain ⟨context', registry'⟩ := a'
  cases same
  exact ⟨orderly.process, orderly.onCard, orderly.context, orderly.untried⟩

theorem attempt_eq {α : Type} {x : Attempt Error α} {outcome : Except Error α} {h : Host}
    (eq : x.run p.host = (outcome, h)) :
    (attempt x).run.run a p = ((outcome, a), { p with host := h }) := by
  have ran : StateT.run x.run p.host = (outcome, h) := eq
  rw [run_attempt, Process.after, eq, ran]

/-- While the context is ready, someone holds the card. -/
theorem positive {r : Ready} (ready : a.context.state = .ready r) :
    0 < p.objects.size + (cards.length + a.context.holders) := by
  have : a.context.holders = 1 := by rw [Context.holders, ready]
  omega

section Made

variable {make : Attempt Error BufferObject} {h : Host} {r : Ready}
  (orderly : a.Orderly fd cards p) (ready : a.context.state = .ready r)
  (tries : Tries fd ∅ make BufferObject.resources ∅ (BufferObject.OnDumb fd))
include orderly ready tries

theorem Orderly.made {outcome : Except Error BufferObject} (eq : make.run p.host = (outcome, h)) :
    onOk (BufferObject.OnDumb fd) outcome ∧
      p.host.Trades ∅ (ends BufferObject.resources ∅ outcome) h := by
  have opened := (orderly.process.held (positive ready)).2
  have made := tries p.host orderly.process.sound opened (Set.empty_subset _)
  unfold Yields at made
  rwa [eq] at made

/-- Nothing is left behind of an object that could not be made. -/
theorem Orderly.unmade {e : Error} (eq : make.run p.host = (.error e, h)) :
    a.Orderly fd cards { p with host := h } := by
  obtain ⟨-, trades⟩ := orderly.made ready tries eq
  exact orderly.neutral trades

/-- An object that is made is taken in. -/
theorem Orderly.takenIn {o : BufferObject} (eq : make.run p.host = (.ok o, h)) :
    a.Orderly fd cards (({ p with host := h } : Process).adopted o) where
  process := by
    obtain ⟨on, trades⟩ := orderly.made ready tries eq
    exact orderly.process.adopted (positive ready) on trades
  onCard := orderly.onCard
  context := orderly.context
  untried untried := by simp [ready] at untried

end Made

/-- A new object is registered, or let go again if its key is taken. -/
theorem Orderly.adopt {o : BufferObject} {key : MemoryRef} (adopted : a.Orderly fd cards (p.adopted o))
    (keyed : o.descriptor.key? = some key) (fresh : p.objects.get? p.nextObject = none)
    {outcome : Except Error Unit} (eq : (Allocator.adopt o).run.run a p = ((outcome, a'), p')) :
    a'.Orderly fd cards p' ∧ (outcome.isOk = false → p'.owned = p.owned) ∧
      (outcome.isOk → (a'.registry.entries.get? key).isSome) := by
  rw [adopt_run a p keyed] at eq
  split at eq
  · cases eq
    refine ⟨?_, fun _ => Process.owned_adopted_released fresh o _, nofun⟩
    have reported := adopted.reported (.alreadyRegistered key)
    exact reported.moved (reported.process.released _) (Process.size_released_le ..)
  · cases eq
    refine ⟨adopted.recorded rfl, nofun, fun _ => ?_⟩
    rw [Table.get?_insert_self]
    rfl

/-! ### Calls that make objects -/

theorem create_keeps (orderly : a.Orderly fd cards p) (width height : UInt32) (raw : Int32)
    (usage : Usage) : Keeps cards p ((create width height raw usage).run.run a p) := by
  rw [create_run]
  split
  · exact ⟨⟨fd, orderly.reported _⟩, fun _ => rfl⟩
  next format known =>
  rcases ready : (onContext Context.ready).run.run a p with ⟨⟨_ | r, a₁⟩, p₁⟩ <;>
    obtain ⟨⟨fd₁, orderly₁⟩, owned, -⟩ := orderly.ready ready
  · exact ⟨⟨fd₁, orderly₁⟩, fun _ => owned⟩
  have isReady := onContext_ready ready
  obtain ⟨onCard, backend⟩ := orderly₁.context.ready r isReady
  have tries := BufferObject.create_tries onCard width height format usage
  rw [← backend] at tries
  dsimp only
  rcases made : (BufferObject.create r.backend r.card width height format usage).run p₁.host
    with ⟨e | o, h⟩ <;> rw [attempt_eq made]
  · exact ⟨⟨fd₁, orderly₁.unmade isReady tries made⟩, fun _ => owned⟩
  dsimp only
  have fresh := BufferObject.create_fresh (congrArg Prod.fst made)
  obtain ⟨key, keyed⟩ := Option.isSome_iff_exists.1 fresh.keyed
  have adopted := orderly₁.takenIn isReady tries made
  rcases entered : (adopt o).run.run a₁ { p₁ with host := h } with ⟨⟨_ | _, a₂⟩, p₂⟩ <;>
    obtain ⟨orderly₂, same, -⟩ := adopted.adopt keyed orderly₁.process.fresh entered
  · exact ⟨⟨fd₁, orderly₂⟩, fun _ => (same rfl).trans owned⟩
  · exact ⟨⟨fd₁, orderly₂⟩, nofun⟩

theorem Orderly.acquired (orderly : a.Orderly fd cards p) {key : MemoryRef}
    (known : (a.registry.entries.get? key).isSome) :
    (a.acquired p key).1.1 = .ok () ∧
      (a.acquired p key).1.2.Orderly fd cards (a.acquired p key).2 := by
  obtain ⟨e, known⟩ := Option.isSome_iff_exists.1 known
  unfold Allocator.acquired
  rw [known]
  exact ⟨rfl, (orderly.reported _).recorded rfl⟩

theorem register_keeps (orderly : a.Orderly fd cards p) (d : Descriptor) :
    Keeps cards p ((register d).run.run a p) := by
  rw [register_run]
  split
  · exact ⟨⟨fd, orderly⟩, fun _ => rfl⟩
  next key keyed =>
  rcases ready : (onContext Context.ready).run.run a p with ⟨⟨_ | r, a₁⟩, p₁⟩ <;>
    obtain ⟨⟨fd₁, orderly₁⟩, owned, -⟩ := orderly.ready ready
  · exact ⟨⟨fd₁, orderly₁⟩, fun _ => owned⟩
  dsimp only
  split
  · next known =>
    obtain ⟨ok, acquired⟩ := orderly₁.acquired known
    exact ⟨⟨fd₁, acquired⟩, by rw [ok]; nofun⟩
  have isReady := onContext_ready ready
  obtain ⟨onCard, backend⟩ := orderly₁.context.ready r isReady
  have tries := BufferObject.importFrom_tries onCard d
  rw [← backend] at tries
  rcases made : (BufferObject.importFrom r.backend r.card d).run p₁.host with ⟨e | o, h⟩ <;>
    rw [attempt_eq made]
  · exact ⟨⟨fd₁, orderly₁.unmade isReady tries made⟩, fun _ => owned⟩
  dsimp only
  obtain ⟨-, descriptor⟩ := BufferObject.importFrom_fresh (congrArg Prod.fst made)
  have adopted := orderly₁.takenIn isReady tries made
  rcases entered : (adopt o).run.run a₁ { p₁ with host := h } with ⟨⟨_ | _, a₂⟩, p₂⟩ <;>
    obtain ⟨orderly₂, same, known⟩ :=
      adopted.adopt (descriptor ▸ keyed) orderly₁.process.fresh entered
  · exact ⟨⟨fd₁, orderly₂⟩, fun _ => (same rfl).trans owned⟩
  · obtain ⟨ok, acquired⟩ := orderly₂.acquired (known rfl)
    exact ⟨⟨fd₁, acquired⟩, by rw [ok]; nofun⟩

/-! ### Calls that let objects go -/

theorem release_keeps (orderly : a.Orderly fd cards p) (key : MemoryRef) (count : Nat) :
    Keeps cards p (match (tryRegistry (Registry.release key count)).run.run a p with
      | ((outcome, a), p) => ((outcome.map fun _ => (), a), p)) := by
  rw [run_tryRegistry, Registry.release_run]
  cases a.registry.entries.get? key with
  | none => exact ⟨⟨fd, orderly⟩, fun _ => rfl⟩
  | some e =>
    by_cases left : count < e.references
    · simp only [left, if_true]
      exact ⟨⟨fd, orderly.recorded rfl⟩, nofun⟩
    · simp only [left, if_false]
      have destroyed : a.Orderly fd cards (p.destroyed e.object) :=
        orderly.moved (orderly.process.destroyed e.object) (Nat.le_of_eq (Process.size_onObject ..))
      have reported := destroyed.reported (.unregistered key)
      have released := reported.moved (reported.process.released e.object)
        (Process.size_released_le ..)
      exact ⟨⟨fd, released.recorded rfl⟩, nofun⟩

theorem unregister_keeps (orderly : a.Orderly fd cards p) (d : Descriptor) :
    Keeps cards p ((unregister d).run.run a p) := by
  rw [unregister_run]
  split
  · exact ⟨⟨fd, orderly⟩, fun _ => rfl⟩
  next key keyed =>
  split
  · exact ⟨⟨fd, orderly⟩, fun _ => rfl⟩
  · exact release_keeps orderly key _

theorem dropLocal_keeps (orderly : a.Orderly fd cards p) (d : Descriptor) :
    Keeps cards p ((dropLocal d).run.run a p) := by
  rw [dropLocal_run]
  split
  · exact ⟨⟨fd, orderly⟩, fun _ => rfl⟩
  · exact release_keeps orderly _ 1

/-! ### Calls on registered objects -/

theorem onBuffer_keeps (orderly : a.Orderly fd cards p) (d : Descriptor) {α : Type}
    {x : ExceptT Error ObjectM α}
    (works : ∀ o : BufferObject, o.OnDumb fd → BufferObject.Works fd o (x.run.run o)) :
    Keeps cards p ((onBuffer d x).run.run a p) := by
  rw [onBuffer_run]
  split
  · exact ⟨⟨fd, orderly⟩, fun _ => rfl⟩
  · next id known =>
    have worked := orderly.process.onObject id fun o on => (works o on).imp fun _ holds => holds.1
    refine ⟨⟨fd, orderly.moved worked (Nat.le_of_eq (Process.size_onObject ..))⟩, ?_⟩
    exact orderly.process.onObject_owned id works

theorem Orderly.unlock (orderly : a.Orderly fd cards p) (d : Descriptor) :
    ((Allocator.unlock d).run a p).1.2.Orderly fd cards ((Allocator.unlock d).run a p).2 := by
  rw [unlock_run]
  split
  · next id known =>
    have unlocked := orderly.process.onObject id fun o on => BufferObject.unlock_turns on
    exact orderly.moved unlocked (Nat.le_of_eq (Process.size_onObject ..))
  · exact orderly.reported _

theorem planes_keeps (orderly : a.Orderly fd cards p) (d : Descriptor) :
    Keeps cards p ((planes d).run.run a p) := by
  rw [planes_run]
  split <;> exact ⟨⟨fd, orderly⟩, fun _ => rfl⟩

theorem hold_keeps (orderly : a.Orderly fd cards p) (d : Descriptor) :
    Keeps cards p ((hold d).run.run a p) := by
  rw [hold_run]
  split
  · exact ⟨⟨fd, orderly⟩, fun _ => rfl⟩
  · next id known =>
    have shared := orderly.process.shared id
    exact ⟨⟨fd, orderly.moved shared (Nat.le_of_eq (Process.size_share ..))⟩, nofun⟩

/-! ### Calls on the context -/

theorem Orderly.readied (orderly : a.Orderly fd cards p) {outcome : Except Error Ready}
    {c : Context} {h : Host} (eq : Context.ready.run.run a.context p.host = ((outcome, c), h)) :
    ∃ fd, ({ a with context := c } : Allocator).Orderly fd cards { p with host := h } := by
  have ran : (onContext Context.ready).run.run a p =
      ((outcome, { a with context := c }), { p with host := h }) := by rw [run_onContext, eq]
  exact (orderly.ready ran).1

theorem ensureReady_keeps (orderly : a.Orderly fd cards p) (needDisplay : Bool) :
    Keeps cards p ((onContext (Context.ensureReady needDisplay)).run.run a p) := by
  rw [run_onContext, Context.ensureReady_run]
  rcases ready : Context.ready.run.run a.context p.host with ⟨⟨_ | r, c⟩, h⟩ <;>
    obtain ⟨fd₁, orderly₁⟩ := orderly.readied ready
  · exact ⟨⟨fd₁, orderly₁⟩, fun _ => rfl⟩
  dsimp only
  have isReady : c.state = .ready r := Context.ready_ok ready
  by_cases need : needDisplay && !r.displayReady
  · simp only [need, if_true]
    have trades := Context.bringUp_neutral r.card.fd h orderly₁.process.sound
    unfold Yields at trades
    rcases up : (Context.bringUp r.card.fd).run h with ⟨_ | resources, h₂⟩ <;> rw [up] at trades
    · exact ⟨⟨fd₁, orderly₁.neutral trades⟩, fun _ => rfl⟩
    · have up := ((orderly₁.neutral trades).reported (.displayReady resources)).process
      have once : c.holders = 1 := by rw [Context.holders, isReady]
      dsimp only at up
      rw [once] at up
      refine ⟨⟨fd₁, up, orderly₁.onCard, ⟨orderly₁.context.opener, orderly₁.context.table, ?_⟩,
        nofun⟩, nofun⟩
      rintro _ ⟨⟩
      exact orderly₁.context.ready r isReady
  · simp only [need]
    exact ⟨⟨fd₁, orderly₁⟩, nofun⟩

theorem exchange_keeps (orderly : a.Orderly fd cards p) {α : Type} {x : Wire.Exchange α}
    (neutral : x.Neutral) : Keeps cards p ((onContext (Context.exchange x)).run.run a p) := by
  rw [run_onContext, Context.exchange_run]
  rcases ready : Context.ready.run.run a.context p.host with ⟨⟨_ | r, c⟩, h⟩ <;>
    obtain ⟨fd₁, orderly₁⟩ := orderly.readied ready
  · exact ⟨⟨fd₁, orderly₁⟩, fun _ => rfl⟩
  · have trades := Context.send_neutral r.card.fd neutral h orderly₁.process.sound
    exact ⟨⟨fd₁, orderly₁.neutral trades⟩, fun _ => rfl⟩

/-! ### Calls for the client's own holds -/

theorem newObject_keeps (orderly : a.Orderly fd cards p) {make : Ready → Attempt Error BufferObject}
    (tries : ∀ (r : Ready) fd, r.card.fd = fd → r.backend = .dumb fd →
      Tries fd ∅ (make r) BufferObject.resources ∅ (BufferObject.OnDumb fd)) :
    Keeps cards p ((Client.newObject make).run.run a p) := by
  rw [newObject_run]
  rcases ready : (onContext Context.ready).run.run a p with ⟨⟨_ | r, a₁⟩, p₁⟩ <;>
    obtain ⟨⟨fd₁, orderly₁⟩, owned, -⟩ := orderly.ready ready
  · exact ⟨⟨fd₁, orderly₁⟩, fun _ => owned⟩
  have isReady := onContext_ready ready
  obtain ⟨onCard, backend⟩ := orderly₁.context.ready r isReady
  dsimp only
  rcases made : (make r).run p₁.host with ⟨e | o, h⟩ <;> rw [attempt_eq made]
  · exact ⟨⟨fd₁, orderly₁.unmade isReady (tries r fd₁ onCard backend) made⟩, fun _ => owned⟩
  · exact ⟨⟨fd₁, orderly₁.takenIn isReady (tries r fd₁ onCard backend) made⟩, nofun⟩

theorem Orderly.newCard (orderly : a.Orderly fd cards p) {outcome : Except Error Card}
    (eq : Client.newCard.run.run a p = ((outcome, a'), p')) : p'.owned = p.owned ∧
    match outcome with
    | .ok card => ∃ fd, a'.Orderly fd (card :: cards) p'
    | .error _ => ∃ fd, a'.Orderly fd cards p' := by
  rw [newCard_run] at eq
  rcases ready : (onContext Context.ready).run.run a p with ⟨⟨_ | r, a₁⟩, p₁⟩ <;> rw [ready] at eq <;>
    cases eq <;> obtain ⟨⟨fd₁, orderly₁⟩, owned, -⟩ := orderly.ready ready
  · exact ⟨owned, fd₁, orderly₁⟩
  · have isReady := onContext_ready ready
    have onCard := (orderly₁.context.ready r isReady).1
    refine ⟨owned, fd₁, ?_, ?_, orderly₁.context, ?_⟩
    · rw [List.length_cons, Nat.add_right_comm]
      exact orderly₁.process.cardHeld (positive isReady) onCard
    · exact List.forall_mem_cons.2 ⟨onCard, orderly₁.onCard⟩
    · simp [isReady]

/-- When the allocator goes, the client's holds remain. -/
theorem Orderly.dispose (orderly : a.Orderly fd cards p) (order : List MemoryRef) :
    ((Allocator.dispose order).run a p).2.Orderly fd cards.length := by
  rw [dispose_run, clear_run]
  refine Process.Orderly.forM_release _ ?_
  have process := orderly.process
  unfold Context.dispose
  cases state : a.context.state with
  | ready r =>
    rw [Context.holders, state] at process
    exact process.cardReleased (orderly.context.ready r state).1
  | untried =>
    rw [Context.holders, state] at process
    exact process
  | failed f =>
    rw [Context.holders, state] at process
    exact process

end Allocator

end GraphicsBuffers

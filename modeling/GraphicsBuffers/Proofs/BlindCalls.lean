import GraphicsBuffers.Proofs.BlindBuffers
import GraphicsBuffers.Proofs.Evolution
import GraphicsBuffers.Proofs.Standing
import GraphicsBuffers.Proofs.Starting
/-!
# Calls do not see what was recorded

Two clients that differ only in what their hosts have recorded, and in how often asking for the resources
of a card is still to fail, are `Client.Aside`. As long as the context has been tried and its backend does
not see the difference, neither does a call, unless it is to bring up the display (`Client.step_aside`);
and so it is with all runs of such calls (`Client.run_aside`).
-/

namespace GraphicsBuffers

open Host (report_blind)

variable {ε α β : Type}

/-! ## Processes -/

namespace Process

/-- Two processes differ only in what was recorded, which their objects do not see. -/
structure Aside (p p' : Process) : Prop where
  host : p.host.Aside p'.host
  objects : p'.objects = p.objects
  nextObject : p'.nextObject = p.nextObject
  blind : ∀ id sh, p.objects.get? id = some sh → sh.object.backend.Blind

variable {p p' : Process}

theorem Aside.hosted (aside : p.Aside p') {h h' : Host} (hosts : h.Aside h') :
    Aside { p with host := h } { p' with host := h' } :=
  ⟨hosts, aside.objects, aside.nextObject, aside.blind⟩

theorem Aside.reported (aside : p.Aside p') (event : LogEvent) :
    (p.reported event).Aside (p'.reported event) :=
  aside.hosted (report_blind event _ _ aside.host).2

theorem Aside.after (aside : p.Aside p') {x : HostM α} (blind : Blind Host.Aside x) :
    (p.after x).Aside (p'.after x) :=
  aside.hosted (blind _ _ aside.host).2

/-- An object comes or changes on both sides. -/
theorem Aside.insert (aside : p.Aside p') (id : ObjectId) {o : BufferObject} (blind : o.backend.Blind)
    (n : Nat) {h h' : Host} (hosts : h.Aside h') (nextObject : ObjectId) :
    Aside { host := h, objects := p.objects.insert id ⟨o, n⟩, nextObject }
      { host := h', objects := p'.objects.insert id ⟨o, n⟩, nextObject } where
  host := hosts
  objects := congrArg (·.insert id ⟨o, n⟩) aside.objects
  nextObject := rfl
  blind id' sh' held := by
    have held := (Table.get?_insert ..).symm.trans held
    split at held
    · cases held
      exact blind
    · exact aside.blind id' sh' held

theorem Aside.erase (aside : p.Aside p') (id : ObjectId) :
    Aside { p with objects := p.objects.erase id } { p' with objects := p'.objects.erase id } where
  host := aside.host
  objects := congrArg (·.erase id) aside.objects
  nextObject := aside.nextObject
  blind id' sh' held := by
    have held := (Table.get?_erase ..).symm.trans held
    split at held
    · cases held
    · exact aside.blind id' sh' held

theorem onObject_blind (id : ObjectId) {x : ObjectM α}
    (lasts : ∀ (o : BufferObject) h, o.Lasts (x.run o h).1.2)
    (blind : ∀ o : BufferObject, o.backend.Blind → Blind Host.Aside (x.run o)) :
    Blind Aside (onObject id x) := by
  intro p p' aside
  cases held : p.objects.get? id with
  | none =>
    have held' : p'.objects.get? id = none := aside.objects ▸ held
    rw [onObject_none held, onObject_none held']
    exact ⟨rfl, aside⟩
  | some sh =>
    have held' : p'.objects.get? id = some sh := aside.objects ▸ held
    have served := aside.blind id sh held
    obtain ⟨outcome, hosts⟩ := blind sh.object served _ _ aside.host
    have later := (lasts sh.object p.host).backend ▸ served
    rw [onObject_some held, onObject_some held', outcome, aside.nextObject]
    exact ⟨rfl, aside.insert id later sh.holders hosts p.nextObject⟩

theorem Aside.destroyed (aside : p.Aside p') (id : ObjectId) : (p.destroyed id).Aside (p'.destroyed id) :=
  (onObject_blind id BufferObject.destroy_lasts (fun _ => BufferObject.destroy_blind) p p' aside).2

theorem Aside.adopted (aside : p.Aside p') {o : BufferObject} (blind : o.backend.Blind) :
    (p.adopted o).Aside (p'.adopted o) := by
  unfold Process.adopted
  rw [aside.nextObject]
  exact aside.insert p.nextObject blind 1 (o.card.hold_blind _ _ aside.host).2 _

theorem Aside.shared (aside : p.Aside p') (id : ObjectId) : (share id p).2.Aside (share id p').2 := by
  rw [share_run, share_run, aside.objects]
  cases held : p.objects.get? id with
  | none => exact aside
  | some sh =>
    have shared := aside.insert id (aside.blind id sh held) (sh.holders + 1) aside.host p.nextObject
    rw [aside.objects] at shared
    dsimp only
    rw [aside.nextObject]
    exact shared

theorem Aside.released (aside : p.Aside p') (id : ObjectId) : (p.released id).Aside (p'.released id) := by
  obtain ⟨held, eq⟩ | ⟨o, n, held, eq⟩ | ⟨o, n, held, few, eq⟩ := p.released_cases id <;> rw [eq]
  · rw [released_none (aside.objects ▸ held)]
    exact aside
  · rw [released_shared (aside.objects ▸ held), aside.nextObject]
    exact aside.insert id (aside.blind id _ held) (n + 1) aside.host p.nextObject
  · rw [released_last (aside.objects ▸ held) few]
    refine (aside.erase id).after ?_
    exact (BufferObject.destroy_blind (aside.blind id _ held)).bind fun _ => o.card.release_blind

theorem Aside.forM_release {κ : Type} (aside : p.Aside p') (entries : List (κ × Registration)) :
    ((entries.forM fun e => release e.2.object : ProcessM Unit).run p).2.Aside
      ((entries.forM fun e => release e.2.object : ProcessM Unit).run p').2 := by
  induction entries generalizing p p' with
  | nil => exact aside
  | cons e entries ih => exact ih (aside.released e.2.object)

end Process

/-! ## Contexts -/

/-- A context has been tried, and its backend does not see what was recorded. -/
structure Context.Settled (c : Context) : Prop where
  tried : c.state ≠ .untried
  ready : ∀ r, c.state = .ready r → r.backend.Blind

/-! ## Calls of the allocator -/

namespace Allocator

variable {a : Allocator}

/-- An allocator whose context is settled answers at once whether it is ready. -/
theorem settled_ready (settled : a.context.Settled) : ∃ outcome : Except Error Ready,
    (∀ p, (onContext Context.ready).run.run a p = ((outcome, a), p)) ∧
      ∀ r, outcome = .ok r → r.backend.Blind := by
  obtain ⟨⟨opener, table, _ | r | f⟩, registry⟩ := a
  · exact absurd rfl settled.tried
  · refine ⟨.ok r, fun p => ?_, ?_⟩
    · rw [run_onContext, Context.ready_run]
    · rintro _ ⟨⟩
      exact settled.ready r rfl
  · refine ⟨.error f.error, fun p => ?_, nofun⟩
    rw [run_onContext, Context.ready_run]

theorem adopt_blind {o : BufferObject} {key : MemoryRef} (keyed : o.descriptor.key? = some key)
    (blind : o.backend.Blind) : Blind Process.Aside ((adopt o).run.run a) := by
  intro p p' aside
  rw [adopt_run a p keyed, adopt_run a p' keyed, aside.nextObject]
  split
  · exact ⟨rfl, ((aside.adopted blind).reported _).released _⟩
  · exact ⟨rfl, aside.adopted blind⟩

theorem acquired_blind (key : MemoryRef) : Blind Process.Aside fun p => a.acquired p key := by
  intro p p' aside
  dsimp only [acquired]
  split
  · exact ⟨rfl, aside⟩
  · exact ⟨rfl, aside.reported _⟩

theorem release_blind (key : MemoryRef) (count : Nat) :
    Blind Process.Aside ((tryRegistry (Registry.release key count)).run.run a) := by
  intro p p' aside
  rw [run_tryRegistry, run_tryRegistry, Registry.release_run, Registry.release_run]
  cases a.registry.entries.get? key with
  | none => exact ⟨rfl, aside⟩
  | some e =>
    by_cases left : count < e.references
    · simp only [left, if_true]
      exact ⟨trivial, aside⟩
    · simp only [left, if_false]
      exact ⟨trivial, ((aside.destroyed e.object).reported _).released _⟩

theorem unregister_blind (d : Descriptor) : Blind Process.Aside ((unregister d).run.run a) := by
  intro p p' aside
  rw [unregister_run, unregister_run]
  cases d.key? with
  | none => exact ⟨rfl, aside⟩
  | some key =>
    dsimp only
    cases a.registry.get? key with
    | none => exact ⟨rfl, aside⟩
    | some id =>
      have same : p'.object? id = p.object? id := by
        unfold Process.object?
        rw [aside.objects]
      dsimp only
      rw [same]
      generalize (if ((p.object? id).map (·.imported)).getD false then 2 else 1) = charge
      obtain ⟨⟨outcome, a'⟩, t, t', eq, eq', aside⟩ := (release_blind key charge).runs aside
      rw [eq, eq']
      exact ⟨rfl, aside⟩

theorem dropLocal_blind (d : Descriptor) : Blind Process.Aside ((dropLocal d).run.run a) := by
  intro p p' aside
  rw [dropLocal_run, dropLocal_run]
  split
  · exact ⟨rfl, aside⟩
  next key _ =>
  obtain ⟨⟨outcome, a'⟩, t, t', eq, eq', aside⟩ := (release_blind key 1).runs aside
  rw [eq, eq']
  exact ⟨rfl, aside⟩

theorem onBuffer_blind (d : Descriptor) {x : ExceptT Error ObjectM α}
    (lasts : ∀ (o : BufferObject) h, o.Lasts (x.run.run o h).1.2)
    (blind : ∀ o : BufferObject, o.backend.Blind → Blind Host.Aside (x.run.run o)) :
    Blind Process.Aside ((onBuffer d x).run.run a) := by
  intro p p' aside
  rw [onBuffer_run, onBuffer_run]
  split
  · exact ⟨rfl, aside⟩
  · next id _ =>
    obtain ⟨outcome, t, t', eq, eq', aside⟩ := (Process.onObject_blind id lasts blind).runs aside
    rw [eq, eq']
    exact ⟨rfl, aside⟩

theorem unlock_blind (d : Descriptor) : Blind Process.Aside ((unlock d).run a) := by
  intro p p' aside
  rw [unlock_run, unlock_run]
  split
  · next id _ =>
    have unlocked := Process.onObject_blind id (fun o h => o.unlock_lasts h)
      fun o blind => o.unlock_blind blind
    exact ⟨rfl, (unlocked p p' aside).2⟩
  · exact ⟨rfl, aside.reported _⟩

theorem planes_blind (d : Descriptor) : Blind Process.Aside ((planes d).run.run a) := by
  intro p p' aside
  rw [planes_run, planes_run]
  split
  · exact ⟨rfl, aside⟩
  · next id _ =>
    refine ⟨?_, aside⟩
    have same : p'.object? id = p.object? id := by
      unfold Process.object?
      rw [aside.objects]
    dsimp only
    rw [same]
    unfold Process.object?
    cases held : p.objects.get? id with
    | none => rfl
    | some sh =>
      dsimp only [Option.map_some, Option.bind_some]
      unfold BufferObject.planes?
      rw [(aside.blind id sh held).planes _ _ aside.host]

theorem hold_blind (d : Descriptor) : Blind Process.Aside ((hold d).run.run a) := by
  intro p p' aside
  rw [hold_run, hold_run]
  split
  · exact ⟨rfl, aside⟩
  · exact ⟨rfl, aside.shared _⟩

theorem dispose_aside {p p' : Process} (aside : p.Aside p') (order : List MemoryRef) :
    ((dispose order).run a p).2.Aside ((dispose order).run a p').2 := by
  have released : Blind Host.Aside a.context.dispose := by
    unfold Context.dispose
    cases a.context.state with
    | ready r => exact r.card.release_blind
    | untried | failed => exact .pure _
  rw [dispose_run, dispose_run, clear_run, clear_run]
  exact (aside.after released).forM_release _

section Settled

variable (settled : a.context.Settled)
include settled

theorem create_blind (width height : UInt32) (raw : Int32) (usage : Usage) :
    Blind Process.Aside ((create width height raw usage).run.run a) := by
  intro p p' aside
  rw [create_run, create_run]
  split
  · exact ⟨rfl, aside.reported _⟩
  next format _ =>
  obtain ⟨outcome, ready, served⟩ := settled_ready settled
  rw [ready, ready]
  cases outcome with
  | error e => exact ⟨rfl, aside⟩
  | ok r =>
    have blind := served r rfl
    obtain ⟨made, h, h', eq, eq', hosts⟩ :=
      (BufferObject.create_blind blind r.card width height format usage).runs aside.host
    have aside := aside.hosted hosts
    dsimp only
    rw [attempt_eq eq, attempt_eq eq']
    cases made with
    | error e => exact ⟨rfl, aside⟩
    | ok o =>
      have fresh := BufferObject.create_fresh (congrArg Prod.fst eq)
      obtain ⟨key, keyed⟩ := Option.isSome_iff_exists.1 fresh.keyed
      obtain ⟨⟨outcome, a'⟩, t, t', eq, eq', aside⟩ :=
        (adopt_blind (a := a) keyed (fresh.backend ▸ blind)).runs aside
      dsimp only
      rw [eq, eq']
      cases outcome <;> exact ⟨rfl, aside⟩

theorem register_blind (d : Descriptor) : Blind Process.Aside ((register d).run.run a) := by
  intro p p' aside
  rw [register_run, register_run]
  split
  · exact ⟨rfl, aside⟩
  next key keyed =>
  obtain ⟨outcome, ready, served⟩ := settled_ready settled
  rw [ready, ready]
  cases outcome with
  | error e => exact ⟨rfl, aside⟩
  | ok r =>
    dsimp only
    split
    · exact acquired_blind key p p' aside
    have blind := served r rfl
    obtain ⟨made, h, h', eq, eq', hosts⟩ := (BufferObject.importFrom_blind blind r.card d).runs aside.host
    have aside := aside.hosted hosts
    rw [attempt_eq eq, attempt_eq eq']
    cases made with
    | error e => exact ⟨rfl, aside⟩
    | ok o =>
      obtain ⟨fresh, descriptor⟩ := BufferObject.importFrom_fresh (congrArg Prod.fst eq)
      obtain ⟨⟨outcome, a'⟩, t, t', eq, eq', aside⟩ :=
        (adopt_blind (a := a) (descriptor ▸ keyed) (fresh.backend ▸ blind)).runs aside
      dsimp only
      rw [eq, eq']
      cases outcome with
      | error e => exact ⟨rfl, aside⟩
      | ok _ => exact acquired_blind key t t' aside

theorem newObject_blind {make : Ready → Attempt Error BufferObject}
    (blind : ∀ r : Ready, r.backend.Blind → Blind Host.Aside (make r).run)
    (served : ∀ (r : Ready) (h : Host) o, ((make r).run h).1 = .ok o → o.backend = r.backend) :
    Blind Process.Aside ((Client.newObject make).run.run a) := by
  intro p p' aside
  rw [newObject_run, newObject_run]
  obtain ⟨outcome, ready, backend⟩ := settled_ready settled
  rw [ready, ready]
  cases outcome with
  | error e => exact ⟨rfl, aside⟩
  | ok r =>
    obtain ⟨made, h, h', eq, eq', hosts⟩ := (blind r (backend r rfl)).runs aside.host
    have aside := aside.hosted hosts
    dsimp only
    rw [attempt_eq eq, attempt_eq eq']
    cases made with
    | error e => exact ⟨rfl, aside⟩
    | ok o =>
      have same := served r p.host o (congrArg Prod.fst eq)
      refine ⟨?_, aside.adopted (same ▸ backend r rfl)⟩
      rw [aside.nextObject]

end Settled

end Allocator

/-! ## Calls of a client -/

/-- The calls that need the context and nothing else, neither a display nor a backend. -/
def Operation.onContext : Operation → Bool
  | ensureReady needDisplay => !needDisplay
  | authMagic | authenticate _ | acquireMaster | releaseMaster | holdCard => true
  | _ => false

theorem Operation.onContext_looks {op : Operation} (plain : op.onContext) : op.looks := by
  cases op <;> first | rfl | cases plain

namespace Client

variable {c c' : Client} {context : Context}

/-! ### Calls on the context -/

/-- Two clients differ only in what their hosts have recorded. -/
def Beside (c c' : Client) : Prop := ∃ host, c' = c.withHost host ∧ c.process.host.Aside host

theorem Beside.refl (c : Client) : c.Beside c := ⟨c.process.host, rfl, .refl _⟩

/-- What a call comes to that needs nothing but a context that is ready. -/
theorem step_onContext (known : c.context? = some context) {r : Ready} (ready : context.state = .ready r)
    {op : Operation} (plain : op.onContext) :
    ∃ (act : HostM (Except Error Reply)) (cards : List Card), Blind Host.Aside act ∧
      ∀ host, (c.withHost host).step op =
        ((act host).1, { c.withHost (act host).2 with cards := cards ++ c.cards }) := by
  have look (host : Host) : (c.withHost host).look = (.ok r, c.withHost host) :=
    look_ready (c := c.withHost host) known ready
  have exchange {α : Type} {x : Wire.Exchange α} (other : x.request ≠ .getResources) (f : α → Reply)
      (is : ∀ c : Client, c.step op =
        replying f (c.onAllocator (Allocator.onContext (Context.exchange x)))) :
      ∃ (act : HostM (Except Error Reply)) (cards : List Card), Blind Host.Aside act ∧
        ∀ host, (c.withHost host).step op =
          ((act host).1, { c.withHost (act host).2 with cards := cards ++ c.cards }) := by
    have sent : Blind Host.Aside (Context.send r.card.fd x).run :=
      .explain (Host.exchange_blind r.card.fd other) fun _ => .pure _
    refine ⟨do return (← (Context.send r.card.fd x).run).map f, [], sent.bind fun _ => .pure _, ?_⟩
    intro host
    rw [is, onAllocator_exchange, onAllocator_ready, look]
    obtain ⟨p, _ | a, holds, cards⟩ := c <;> cases known
    rfl
  cases op with
  | ensureReady needDisplay =>
    refine ⟨pure (.ok .done), [], .pure _, fun host => ?_⟩
    obtain rfl : needDisplay = false := by simpa [Operation.onContext] using plain
    rw [step_ensureReady_false, look]
    rfl
  | authMagic => exact exchange (x := .getMagic) (by nofun) _ fun _ => rfl
  | authenticate magic => exact exchange (x := .authMagic magic) (by nofun) _ fun _ => rfl
  | acquireMaster => exact exchange (x := .setMaster) (by nofun) _ fun _ => rfl
  | releaseMaster => exact exchange (x := .dropMaster) (by nofun) _ fun _ => rfl
  | holdCard =>
    refine ⟨do r.card.hold; return .ok (.card r.card), [r.card],
      r.card.hold_blind.bind fun _ => .pure _, fun host => ?_⟩
    unfold step newCard
    rw [onAllocator_ready, look]
    obtain ⟨p, _ | a, holds, cards⟩ := c <;> cases known
    rfl
  | _ => cases plain

/-- Calls that need nothing but the context do not see what was recorded, once it has been tried. -/
theorem step_beside (tried : c.Tried) (beside : c.Beside c') {op : Operation} (plain : op.onContext) :
    (c'.step op).1 = (c.step op).1 ∧ (c.step op).2.Beside (c'.step op).2 ∧
      (c.step op).2.process.objects = c.process.objects := by
  obtain ⟨host, rfl, hosts⟩ := beside
  have unready {e : Error} (look : ∀ host, (c.withHost host).look = (.error e, c.withHost host)) :
      ((c.withHost host).step op).1 = (c.step op).1 ∧
        (c.step op).2.Beside ((c.withHost host).step op).2 ∧
        (c.step op).2.process.objects = c.process.objects := by
    have here : c.step op = (.error e, c) :=
      step_unready (Operation.onContext_looks plain) (look c.process.host)
    rw [here, step_unready (Operation.onContext_looks plain) (look host)]
    exact ⟨rfl, ⟨host, rfl, hosts⟩, rfl⟩
  cases known : c.context? with
  | none => exact unready fun host => look_retired (c := c.withHost host) known
  | some context =>
    cases is : context.state with
    | untried => exact absurd is (tried context known)
    | failed f => exact unready fun host => look_failed (c := c.withHost host) known is
    | ready r =>
      obtain ⟨act, cards, blind, eq⟩ := step_onContext known is plain
      obtain ⟨answer, t, t', ran, ran', hosts⟩ := blind.runs hosts
      have here : c.step op = _ := eq c.process.host
      rw [here, eq host, ran, ran']
      exact ⟨rfl, ⟨t', rfl, hosts⟩, rfl⟩

/-- Nor do runs of such calls. -/
theorem run_beside {calls : List Operation} (tried : c.Tried) (beside : c.Beside c')
    (plain : ∀ op ∈ calls, op.onContext) : c'.replies calls = c.replies calls := by
  induction calls generalizing c c' with
  | nil => rfl
  | cons op calls ih =>
    obtain ⟨answer, beside, -⟩ := step_beside tried beside (plain op List.mem_cons_self)
    have answers := ih (tried.stands (c.step_stands op)) beside fun op' mem =>
      plain op' (List.mem_cons_of_mem op mem)
    unfold replies
    rw [answer, answers]

/-! ### All calls -/

/-- Two clients differ only in what was recorded. -/
structure Aside (c c' : Client) : Prop where
  process : c.process.Aside c'.process
  allocator : c'.allocator = c.allocator
  holds : c'.holds = c.holds
  cards : c'.cards = c.cards

theorem Aside.beside (aside : c.Aside c') : c.Beside c' := by
  obtain ⟨⟨h, objects, nextObject⟩, allocator, holds, cards⟩ := c
  obtain ⟨⟨h', _, _⟩, _, _, _⟩ := c'
  obtain ⟨⟨hosts, objects, nextObject, -⟩, allocator, holds, cards⟩ := aside
  cases objects
  cases nextObject
  cases allocator
  cases holds
  cases cards
  exact ⟨h', rfl, hosts⟩

theorem Beside.aside (beside : c.Beside c')
    (blind : ∀ id sh, c.process.objects.get? id = some sh → sh.object.backend.Blind) : c.Aside c' := by
  obtain ⟨host, rfl, hosts⟩ := beside
  exact ⟨⟨hosts, rfl, rfl, blind⟩, rfl, rfl, rfl⟩

/-- The context of a client is settled, or gone. -/
def Settled (c : Client) : Prop := ∀ context, c.context? = some context → context.Settled

/-- What two calls come to differs only in what was recorded. -/
def Alike (result result' : β × Client) : Prop := result'.1 = result.1 ∧ result.2.Aside result'.2

theorem Settled.stands (settled : c.Settled) (stands : c.Stands c') : c'.Settled := by
  intro context' known'
  obtain ⟨context, known, stands⟩ := stands context' known'
  have settled := settled context known
  refine ⟨stands.tried settled.tried, fun r' is' => ?_⟩
  cases is : context.state with
  | untried => exact absurd is settled.tried
  | failed f => cases is'.symm.trans (stands.failed f is)
  | ready r =>
    obtain ⟨r'', is'', -, backend, -⟩ := stands.ready r is
    cases is'.symm.trans is''
    exact backend ▸ settled.ready r is

theorem onAllocator_alike (aside : c.Aside c') {x : ExceptT Error AllocatorM α}
    (blind : ∀ a, c.allocator = some a → Blind Process.Aside (x.run.run a)) :
    Alike (c.onAllocator x) (c'.onAllocator x) := by
  obtain ⟨process, allocator, holds, cards⟩ := aside
  unfold onAllocator
  rw [allocator]
  cases known : c.allocator with
  | none => exact ⟨rfl, process, allocator, holds, cards⟩
  | some a =>
    obtain ⟨⟨outcome, a'⟩, t, t', eq, eq', process⟩ := (blind a known).runs process
    have eq : x.run.run a c.process = ((outcome, a'), t) := eq
    have eq' : x.run.run a c'.process = ((outcome, a'), t') := eq'
    dsimp only
    rw [eq, eq']
    exact ⟨rfl, process, rfl, holds, cards⟩

theorem replying_alike {result result' : Except Error α × Client} (alike : Alike result result')
    (f : α → Reply) : Alike (replying f result) (replying f result') :=
  ⟨congrArg (Except.map f) alike.1, alike.2⟩

theorem holding_alike {result result' : Except Error ObjectId × Client} (alike : Alike result result') :
    Alike (holding result) (holding result') := by
  obtain ⟨_, c⟩ := result
  obtain ⟨outcome, c'⟩ := result'
  obtain ⟨rfl, aside⟩ := alike
  cases outcome with
  | error e => exact ⟨rfl, aside⟩
  | ok id =>
    exact ⟨rfl, aside.process, aside.allocator, congrArg (id :: ·) aside.holds, aside.cards⟩

theorem onObject_alike (aside : c.Aside c') (id : ObjectId) {x : ExceptT Error ObjectM α}
    (lasts : ∀ (o : BufferObject) h, o.Lasts (x.run.run o h).1.2)
    (blind : ∀ o : BufferObject, o.backend.Blind → Blind Host.Aside (x.run.run o)) :
    Alike (c.onObject id x) (c'.onObject id x) := by
  unfold onObject
  rw [aside.holds]
  split
  · obtain ⟨outcome, t, t', eq, eq', process⟩ :=
      (Process.onObject_blind id lasts blind).runs aside.process
    rw [eq, eq']
    exact ⟨rfl, process, aside.allocator, rfl, aside.cards⟩
  · exact ⟨rfl, aside⟩

/-- No call but that to bring up the display sees what was recorded, once the context is settled. -/
theorem step_aside (settled : c.Settled) (aside : c.Aside c') {op : Operation}
    (other : op ≠ .ensureReady true) : Alike (c.step op) (c'.step op) := by
  have ready (a : Allocator) (known : c.allocator = some a) : a.context.Settled :=
    settled a.context (by unfold context?; rw [known]; rfl)
  have buffer {α : Type} (d : Descriptor) {x : ExceptT Error ObjectM α} (f : α → Reply)
      (lasts : ∀ (o : BufferObject) h, o.Lasts (x.run.run o h).1.2)
      (blind : ∀ o : BufferObject, o.backend.Blind → Blind Host.Aside (x.run.run o)) :
      Alike (replying f (c.onAllocator (Allocator.onBuffer d x)))
        (replying f (c'.onAllocator (Allocator.onBuffer d x))) :=
    replying_alike (onAllocator_alike aside fun _ _ => Allocator.onBuffer_blind d lasts blind) f
  -- What calls on the context do is known already; the others are gone through one by one.
  by_cases plain : op.onContext
  · have tried : c.Tried := fun context known => (settled context known).tried
    obtain ⟨answer, beside, objects⟩ := step_beside tried aside.beside plain
    exact ⟨answer, beside.aside (objects ▸ aside.process.blind)⟩
  cases op with
  | arm point plan =>
    refine ⟨rfl, aside.process.hosted ⟨?_, aside.process.host.holders, aside.process.host.script⟩,
      aside.allocator, aside.holds, aside.cards⟩
    exact aside.process.host.kernel.armFaults point plan
  | script script =>
    exact ⟨rfl, aside.process.hosted ⟨aside.process.host.kernel, aside.process.host.holders, rfl⟩,
      aside.allocator, aside.holds, aside.cards⟩
  | create width height raw usage =>
    exact replying_alike (onAllocator_alike aside fun a known =>
      Allocator.create_blind (ready a known) width height raw usage) _
  | register d =>
    exact replying_alike (onAllocator_alike aside fun a known =>
      Allocator.register_blind (ready a known) d) _
  | unregister d =>
    exact replying_alike (onAllocator_alike aside fun _ _ => Allocator.unregister_blind d) _
  | dropLocal d =>
    exact replying_alike (onAllocator_alike aside fun _ _ => Allocator.dropLocal_blind d) _
  | lock d usage region =>
    exact buffer d _ (fun o h => o.lock_lasts h usage region) fun o blind =>
      o.lock_blind blind usage region
  | lockPlanar d usage region =>
    exact buffer d _ (fun o h => o.lockPlanar_lasts h usage region) fun o blind =>
      o.lockPlanar_blind blind usage region
  | unlock d =>
    exact replying_alike (onAllocator_alike aside fun _ _ => (Allocator.unlock_blind d).layer) _
  | planes d =>
    exact replying_alike (onAllocator_alike aside fun _ _ => Allocator.planes_blind d) _
  | hold d => exact holding_alike (onAllocator_alike aside fun _ _ => Allocator.hold_blind d)
  | ensureReady needDisplay =>
    cases needDisplay with
    | false => exact absurd rfl plain
    | true => exact absurd rfl other
  | authMagic | authenticate | acquireMaster | releaseMaster | holdCard => exact absurd rfl plain
  | dropAllocator order =>
    unfold step
    dsimp only
    rw [aside.allocator]
    cases c.allocator with
    | none => exact ⟨rfl, aside⟩
    | some a => exact ⟨rfl, Allocator.dispose_aside aside.process order, rfl, aside.holds, aside.cards⟩
  | createObject width height format usage =>
    exact holding_alike (onAllocator_alike aside fun a known =>
      Allocator.newObject_blind (ready a known)
        (fun r blind => BufferObject.create_blind blind r.card width height format usage)
        fun r h o made => (BufferObject.create_fresh made).backend)
  | importObject d =>
    exact holding_alike (onAllocator_alike aside fun a known =>
      Allocator.newObject_blind (ready a known)
        (fun r blind => BufferObject.importFrom_blind blind r.card d)
        fun r h o made => (BufferObject.importFrom_fresh made).1.backend)
  | lockObject id usage region =>
    exact replying_alike (onObject_alike aside id (fun o h => o.lock_lasts h usage region)
      fun o blind => o.lock_blind blind usage region) _
  | lockPlanarObject id usage region =>
    exact replying_alike (onObject_alike aside id (fun o h => o.lockPlanar_lasts h usage region)
      fun o blind => o.lockPlanar_blind blind usage region) _
  | unlockObject id =>
    exact replying_alike (onObject_alike (x := liftM BufferObject.unlock) aside id
      (fun o h => o.unlock_lasts h) fun o blind => (o.unlock_blind blind).layer) _
  | attach id =>
    exact replying_alike (onObject_alike aside id (fun o h => o.attachFramebuffer_lasts h)
      fun o blind => o.attach_blind blind) _
  | share id =>
    unfold step
    dsimp only
    rw [aside.holds]
    split
    · exact ⟨rfl, aside.process.shared id, aside.allocator, rfl, aside.cards⟩
    · exact ⟨rfl, aside⟩
  | drop id =>
    unfold step
    dsimp only
    rw [aside.holds]
    split
    · exact ⟨rfl, aside.process.released id, aside.allocator, rfl, aside.cards⟩
    · exact ⟨rfl, aside⟩
  | dropCard card =>
    unfold step
    dsimp only
    rw [aside.cards]
    split
    · exact ⟨rfl, aside.process.after card.release_blind, aside.allocator, aside.holds, rfl⟩
    · exact ⟨rfl, aside⟩

/-- Runs without a call to bring up the display do not see it either. -/
theorem run_aside {calls : List Operation} (settled : c.Settled) (aside : c.Aside c')
    (others : ∀ op ∈ calls, op ≠ .ensureReady true) :
    c'.replies calls = c.replies calls ∧ (c.run calls).Aside (c'.run calls) := by
  induction calls generalizing c c' with
  | nil => exact ⟨rfl, aside⟩
  | cons op calls ih =>
    obtain ⟨answer, aside⟩ := step_aside settled aside (others op List.mem_cons_self)
    obtain ⟨answers, aside⟩ := ih (settled.stands (c.step_stands op)) aside fun op' mem =>
      others op' (List.mem_cons_of_mem op mem)
    refine ⟨?_, aside⟩
    unfold replies
    rw [answer, answers]

/-! ### Backends that do not see -/

theorem withDisplay_objects (r : Ready) (c : Client) :
    (withDisplay r c).2.process.objects = c.process.objects := by
  unfold withDisplay
  split
  · rfl
  · rcases (Device.initDisplay r.card.fd).run c.process.host with ⟨e | resources, host⟩ <;> rfl

/-- No backend that a client has, or may get, sees what was recorded. -/
structure Unseeing (c : Client) : Prop where
  objects : ∀ id sh, c.process.objects.get? id = some sh → sh.object.backend.Blind
  table : ∀ context, c.context? = some context → context.table.Makes Backend.Blind
  ready : ∀ context r, c.context? = some context → context.state = .ready r → r.backend.Blind

namespace Unseeing

theorem settled (unseeing : c.Unseeing) (tried : c.Tried) : c.Settled :=
  fun context known => ⟨tried context known, fun r => unseeing.ready context r known⟩

theorem refl (unseeing : c.Unseeing) : c.Aside c := (Beside.refl c).aside unseeing.objects

/-- What remembers a context that has been tried has no other backend. -/
theorem later (unseeing : c.Unseeing) (tried : c.Tried) (stands : c.Stands c')
    (objects : ∀ id sh, c'.process.objects.get? id = some sh → sh.object.backend.Blind) :
    c'.Unseeing where
  objects := objects
  table context' known' := by
    obtain ⟨context, known, stands⟩ := stands context' known'
    exact stands.table ▸ unseeing.table context known
  ready context' r' known' is' :=
    ((unseeing.settled tried).stands stands context' known').ready r' is'

theorem look (unseeing : c.Unseeing) : c.look.2.Unseeing := by
  cases known : c.context? with
  | none =>
    rw [look_retired known]
    exact unseeing
  | some context =>
    cases is : context.state with
    | ready r =>
      rw [look_ready known is]
      exact unseeing
    | failed f =>
      rw [look_failed known is]
      exact unseeing
    | untried =>
      rw [look_untried known is]
      dsimp only
      rcases begun : (Context.start context.opener context.table).run c.process.host with ⟨f | r, host⟩
      all_goals
        refine ⟨unseeing.objects, fun context' known' => ?_, fun context' r' known' is' => ?_⟩ <;>
          obtain ⟨p, _ | a, holds, cards⟩ := c <;> cases known <;> cases known'
      · exact unseeing.table a.context rfl
      · cases is'
      · exact unseeing.table a.context rfl
      · cases is'
        exact (Context.start_ok begun).backend (unseeing.table a.context rfl)

theorem same (unseeing : c.Unseeing) (same : c'.context? = none ∨ c'.context? = c.context?)
    (objects : ∀ id sh, c'.process.objects.get? id = some sh → sh.object.backend.Blind) :
    c'.Unseeing := by
  have here (context : Context) (known' : c'.context? = some context) : c.context? = some context :=
    same.elim (fun gone => nomatch gone.symm.trans known') fun same => same.symm.trans known'
  exact ⟨objects, fun context known' => unseeing.table context (here context known'),
    fun context r known' => unseeing.ready context r (here context known')⟩

/-- A client whose context has failed has only the backends of its objects. -/
theorem failed (unseeing : c.Unseeing) :
    (c.withContext ⟨throw "", {}, .failed .unavailable⟩).Unseeing where
  objects := unseeing.objects
  table context known := by
    obtain ⟨p, _ | a, holds, cards⟩ := c <;> cases known
    nofun
  ready context r known is := by
    obtain ⟨p, _ | a, holds, cards⟩ := c <;> cases known
    cases is

theorem step (unseeing : c.Unseeing) (op : Operation) : (c.step op).2.Unseeing := by
  cases looks : op.looks with
  | true =>
    -- A call that looks makes sure first that the context has been tried.
    have look := unseeing.look
    obtain ⟨-, tried, -⟩ := c.look_stands
    rw [step_look looks]
    refine look.later tried (c.look.2.step_stands op) ?_
    by_cases display : op = .ensureReady true
    · have objects : (c.look.2.step op).2.process.objects = c.look.2.process.objects := by
        rw [display, step_ensureReady_true, look_again]
        rcases c.look with ⟨e | r, c'⟩
        · rfl
        · exact withDisplay_objects r c'
      rw [objects]
      exact look.objects
    · exact (step_aside (look.settled tried) look.refl display).2.process.blind
  | false =>
    by_cases drops : op.endsAllocator
    · obtain ⟨order, rfl⟩ := Operation.endsAllocator_iff.1 drops
      obtain ⟨p, _ | a, holds, cards⟩ := c
      · exact unseeing
      · exact unseeing.same (.inl rfl) (Allocator.dispose_aside unseeing.refl.process order).blind
    · -- Other calls do the same on a context that has failed.
      have aloof := step_aloof looks (Bool.not_eq_true _ ▸ drops)
      have failed := unseeing.failed
      have tried : (c.withContext ⟨throw "", {}, .failed .unavailable⟩).Tried := by
        intro context known
        obtain ⟨p, _ | a, holds, cards⟩ := c <;> cases known
        nofun
      have display : op ≠ .ensureReady true := by
        rintro rfl
        cases looks
      have blind := (step_aside (failed.settled tried) failed.refl display).2.process.blind
      have eq := aloof c ⟨throw "", {}, .failed .unavailable⟩
      dsimp only at eq
      rw [eq] at blind
      exact unseeing.same (aloof.context c) blind

theorem run (unseeing : c.Unseeing) (calls : List Operation) : (c.run calls).Unseeing := by
  induction calls generalizing c with
  | nil => exact unseeing
  | cons op calls ih => exact ih (unseeing.step op)

end Unseeing

theorem start_unseeing (host : Host) (opener : Opener) {table : BackendTable}
    (makes : table.Makes Backend.Blind) : (start host opener table).Unseeing where
  objects id sh held := absurd held (Option.some_ne_none sh).symm
  table := by
    rintro _ ⟨⟩
    exact makes
  ready := by
    rintro _ r ⟨⟩ ⟨⟩

end Client

end GraphicsBuffers

import GraphicsBuffers.Proofs.Allocators
import GraphicsBuffers.Proofs.Evolution
import GraphicsBuffers.Proofs.Tracing

/-!
# What every run leaves in the trace

All that a client does leads its kernel on if its opener and its backends do (`Client.run_carries`): so the
trace of every run tells what is there at its end, whatever failures are set up. The dumb-buffer backend
is one that does.
-/

namespace GraphicsBuffers

open Wire Wire.Exchange

variable {ε α β : Type}

/-! ## Objects -/

/-- A backend that leads the kernel on. -/
structure Backend.Leads (backend : Backend) : Prop where
  allocate : ∀ d, GraphicsBuffers.Leads (backend.allocate d).run
  free : ∀ b, GraphicsBuffers.Leads (backend.free b)
  map : ∀ region write b, GraphicsBuffers.Leads ((backend.map region write).run.run b)
  unmap : ∀ b, GraphicsBuffers.Leads (backend.unmap.run b)

theorem Backend.dumb_leads (fd : Int32) : (dumb fd).Leads :=
  ⟨Dumb.allocate_leads fd, Dumb.free_leads fd, fun _ _ => Dumb.map_leads fd, Dumb.unmap_leads⟩

theorem Dialogue.hold_leads {backend : Backend} (leads : backend.Leads) (d : Dialogue α) (h : Host) :
    h.kernel.Leads (d.hold backend h).host.kernel := by
  induction d generalizing h with
  | done answer object => exact .refl h.kernel
  | report event next ih => exact ih (h.reported event)
  | map buffer region write next ih =>
    have mapped := leads.map region write buffer h
    unfold hold
    rcases eq : (backend.map region write).run.run buffer h with ⟨⟨outcome, b⟩, h'⟩
    rw [eq] at mapped
    exact mapped.trans (ih outcome b h')
  | unmap buffer next ih =>
    have unmapped := leads.unmap buffer h
    unfold hold
    rcases eq : backend.unmap.run buffer h with ⟨⟨_, b⟩, h'⟩
    rw [eq] at unmapped
    exact unmapped.trans (ih b h')

namespace BufferObject

variable {o : BufferObject}

theorem attach_leads (o : BufferObject) : Leads (attachFramebuffer.run.run o) := by
  intro h
  rw [attachFramebuffer_run]
  split
  · exact .refl h.kernel
  · exact .refl h.kernel
  next b _ _ =>
  have added : Leads (o.addFramebuffer (o.layout h b)).run :=
    .explain ((addFb2_told _ _ _ _).exchange_leads _) fun _ => (Leads.report _).bind fun _ => .pure _
  have added := added h
  rcases eq : (o.addFramebuffer (o.layout h b)).run h with ⟨_ | id, h'⟩ <;> rw [eq] at added <;>
    exact added

section Served

variable (leads : o.backend.Leads)
include leads

theorem lock_leads (usage : Usage) (region : Region) : Leads ((lock usage region).run.run o) := by
  intro h
  rw [lock_run]
  exact Dialogue.hold_leads leads _ h

theorem lockPlanar_leads (usage : Usage) (region : Region) :
    Leads ((lockPlanar usage region).run.run o) := by
  intro h
  rw [lockPlanar_run]
  exact Dialogue.hold_leads leads _ h

theorem unlock_leads : Leads (unlock.run o) := by
  intro h
  rw [unlock_run]
  exact Dialogue.hold_leads leads _ h

theorem tearDown_leads (b : BackendBuffer) : Leads (o.tearDown b) := by
  have locks : Leads o.reportLocks := by
    unfold reportLocks
    split
    · exact .report _
    · exact .pure _
  have framebuffer : Leads o.removeFramebuffer := by
    unfold removeFramebuffer
    cases o.framebuffer with
    | none => exact .pure _
    | some id =>
      exact ((removeFb_told id).exchange_leads _).cases (fun _ => .pure _) fun _ => .report _
  have owned : Leads o.closeOwnedMemory := by
    unfold closeOwnedMemory
    split
    · split
      · next dmabuf _ =>
        exact (call_leads fun k => k.close_leads dmabuf).cases (fun _ => .pure _) fun _ => .report _
      · exact .pure _
    · exact .pure _
  exact locks.bind fun _ => framebuffer.bind fun _ => (leads.free b).bind fun _ =>
    owned.bind fun _ => .report _

theorem destroy_leads : Leads (destroy.run o) := by
  intro h
  rw [destroy_run]
  cases o.buffer with
  | none => exact .refl h.kernel
  | some b => exact tearDown_leads leads b h

theorem finish_leads (h : Host) : h.kernel.Leads (o.finish h).2.kernel := by
  have attached := o.attach_leads h
  have object := congrArg backend (o.attachFramebuffer_object h)
  unfold finish
  split
  · rcases eq : attachFramebuffer.run.run o h with ⟨⟨_ | id, o'⟩, h'⟩ <;> rw [eq] at attached object
    · have leads' : o'.backend.Leads := object ▸ leads
      exact attached.trans (destroy_leads leads' h')
    · exact attached
  · exact .refl h.kernel

end Served

section New

variable {backend : Backend} (leads : backend.Leads) (card : Card)
include leads

theorem create_leads (width height : UInt32) (format : PixelFormat) (usage : Usage) :
    Leads (create backend card width height format usage).run := by
  intro h
  rw [create_run]
  split
  · exact .refl h.kernel
  next request _ =>
  have allocated := leads.allocate request h
  rcases eq : (backend.allocate request).run h with ⟨e | b, h'⟩ <;> rw [eq] at allocated
  · exact allocated
  dsimp only
  split
  · have made : (ofBuffer backend card request b).backend.Leads := leads
    exact allocated.trans (finish_leads made (h'.reported _))
  · exact allocated.trans (leads.free b (h'.reported _))

theorem importFrom_leads (d : Descriptor) : Leads (importFrom backend card d).run := by
  intro h
  have allocated := leads.allocate d h
  rw [importFrom_run]
  split
  · split
    · exact .refl h.kernel
    · rcases eq : (backend.allocate d).run h with ⟨e | b, h'⟩ <;> rw [eq] at allocated <;>
        exact allocated
  · exact .refl h.kernel

end New

end BufferObject

/-! ## Processes -/

namespace Process

/-- All objects are served by backends that lead the kernel on. -/
def Served (p : Process) : Prop := ∀ id sh, p.objects.get? id = some sh → sh.object.backend.Leads

/-- What is done in a process leads its kernel on, and its objects are served well still. -/
def Carries (p p' : Process) : Prop :=
  p.Served → p'.Served ∧ p.host.kernel.Leads p'.host.kernel

variable {p p' : Process}

theorem Served.insert (served : p.Served) (id : ObjectId) {o : BufferObject}
    (leads : o.backend.Leads) (n : Nat) (host : Host) (nextObject : ObjectId) :
    Process.Served { host, objects := p.objects.insert id ⟨o, n⟩, nextObject } := by
  intro id' sh' held
  rw [Table.get?_insert] at held
  split at held
  · cases held
    exact leads
  · exact served id' sh' held

namespace Carries

theorem refl (p : Process) : p.Carries p := fun served => ⟨served, .refl _⟩

theorem trans {p'' : Process} (first : p.Carries p') (second : p'.Carries p'') : p.Carries p'' := by
  intro served
  obtain ⟨served', leads⟩ := first served
  obtain ⟨served'', leads'⟩ := second served'
  exact ⟨served'', leads.trans leads'⟩

theorem hosted {host : Host} (leads : p.host.kernel.Leads host.kernel) :
    p.Carries { p with host } := fun served => ⟨served, leads⟩

theorem after (p : Process) {x : HostM α} (leads : Leads x) : p.Carries (p.after x) :=
  .hosted (leads p.host)

theorem reported (p : Process) (event : LogEvent) : p.Carries (p.reported event) :=
  .hosted (.refl _)

theorem adopted (p : Process) {o : BufferObject} (leads : o.backend.Leads) :
    p.Carries (p.adopted o) :=
  fun served => ⟨served.insert p.nextObject leads 1 _ _, .refl _⟩

theorem onObject (p : Process) (id : ObjectId) {x : ObjectM α}
    (lasts : ∀ (o : BufferObject) h, o.Lasts (x.run o h).1.2)
    (leads : ∀ o : BufferObject, o.backend.Leads → Leads (x.run o)) :
    p.Carries (onObject id x p).2 := by
  intro served
  cases held : p.objects.get? id with
  | none =>
    rw [onObject_none held]
    exact ⟨served, .refl _⟩
  | some sh =>
    rw [onObject_some held]
    have well := served id sh held
    have later := (lasts sh.object p.host).backend ▸ well
    exact ⟨served.insert id later sh.holders _ _, leads sh.object well p.host⟩

theorem destroyed (p : Process) (id : ObjectId) : p.Carries (p.destroyed id) :=
  .onObject p id BufferObject.destroy_lasts fun _ => BufferObject.destroy_leads

theorem shared (p : Process) (id : ObjectId) : p.Carries (share id p).2 := by
  intro served
  rw [share_run]
  cases held : p.objects.get? id with
  | none => exact ⟨served, .refl _⟩
  | some sh => exact ⟨served.insert id (served id sh held) (sh.holders + 1) _ _, .refl _⟩

theorem released (p : Process) (id : ObjectId) : p.Carries (p.released id) := by
  intro served
  obtain ⟨-, eq⟩ | ⟨o, n, held, eq⟩ | ⟨o, n, held, -, eq⟩ := p.released_cases id <;> rw [eq]
  · exact ⟨served, .refl _⟩
  · exact ⟨served.insert id (served id _ held) (n + 1) _ _, .refl _⟩
  · have leads := BufferObject.destroy_leads (served id _ held)
    refine ⟨fun id' sh' held' => ?_, (leads.bind fun _ => o.card.release_leads) p.host⟩
    have held' := (Table.get?_erase ..).symm.trans held'
    split at held'
    · cases held'
    · exact served id' sh' held'

theorem forM_release {κ : Type} (p : Process) (entries : List (κ × Registration)) :
    p.Carries ((entries.forM fun e => release e.2.object : ProcessM Unit).run p).2 := by
  induction entries generalizing p with
  | nil => exact .refl p
  | cons e entries ih => exact .trans (.released p e.2.object) (ih _)

end Carries

end Process

/-! ## Calls on the context -/

namespace Context

/-- The opener and the backends of a context lead the kernel on. -/
structure Served (c : Context) : Prop where
  opener : c.opener.Leads
  table : c.table.AllDumb
  ready : ∀ r, c.state = .ready r → r.backend.Leads

/-- What is to be shown of a call on a context. -/
def Carries (c : Context) (h : Host) (result : (α × Context) × Host) : Prop :=
  c.Served → result.1.2.Served ∧ h.kernel.Leads result.2.kernel

variable (c : Context) (h : Host)

theorem ready_carries : c.Carries h (ready.run.run c h) := by
  intro served
  rw [ready_run]
  split
  · exact ⟨served, .refl _⟩
  · exact ⟨served, .refl _⟩
  · have leads := start_leads served.opener served.table h
    rcases eq : (start c.opener c.table).run h with ⟨f | r, h'⟩ <;> rw [eq] at leads
    · exact ⟨⟨served.opener, served.table, nofun⟩, leads⟩
    · refine ⟨⟨served.opener, served.table, ?_⟩, leads⟩
      rintro _ ⟨⟩
      rw [start_dumb served.table eq]
      exact Backend.dumb_leads _

theorem ensureReady_carries (needDisplay : Bool) :
    c.Carries h ((ensureReady needDisplay).run.run c h) := by
  intro served
  have first := c.ready_carries h served
  rw [ensureReady_run]
  rcases eq : ready.run.run c h with ⟨⟨e | r, c₁⟩, h₁⟩ <;> rw [eq] at first
  · exact first
  dsimp only
  split
  · have brought := first.2.trans (bringUp_leads r.card.fd h₁)
    rcases up : (bringUp r.card.fd).run h₁ with ⟨e | resources, h₂⟩ <;> rw [up] at brought
    · exact ⟨first.1, brought⟩
    · refine ⟨⟨first.1.opener, first.1.table, ?_⟩, brought⟩
      rintro _ ⟨⟩
      exact first.1.ready r (ready_ok eq)
  · exact first

theorem exchange_carries {x : Exchange α} (told : x.Told) :
    c.Carries h ((exchange x).run.run c h) := by
  intro served
  have first := c.ready_carries h served
  rw [exchange_run]
  rcases eq : ready.run.run c h with ⟨⟨e | r, c₁⟩, h₁⟩ <;> rw [eq] at first
  · exact first
  · exact ⟨first.1, first.2.trans (send_leads r.card.fd told h₁)⟩

end Context

/-! ## Calls of the allocator -/

namespace Allocator

/-- What is to be shown of a call of an allocator. -/
def Carries (a : Allocator) (p : Process) (result : (α × Allocator) × Process) : Prop :=
  a.context.Served → result.1.2.context.Served ∧ p.Carries result.2

variable (a : Allocator) (p : Process)

theorem onContext_carries {x : ExceptT ε ContextM α}
    (carries : ∀ (c : Context) h, c.Carries h (x.run.run c h)) :
    a.Carries p ((onContext x).run.run a p) := by
  intro served
  obtain ⟨served', leads⟩ := carries a.context p.host served
  exact ⟨served', .hosted leads⟩

variable {a p} {a' : Allocator} {p' : Process} {r : Ready} {result : (β × Allocator) × Process}

/-- Once something was done in the process, a call goes on. -/
theorem Carries.after (first : p.Carries p') (next : a.Carries p' result) : a.Carries p result := by
  intro served
  obtain ⟨served', carries⟩ := next served
  exact ⟨served', first.trans carries⟩

/-- Once the context is ready, a call goes on with its backend. -/
theorem Carries.readied (ready : (onContext Context.ready).run.run a p = ((.ok r, a'), p'))
    (next : r.backend.Leads → a'.Carries p' result) : a.Carries p result := by
  intro served
  obtain ⟨served', carries⟩ := ready ▸ onContext_carries a p Context.ready_carries served
  have leads := served'.ready r (onContext_ready ready)
  obtain ⟨served'', carries'⟩ := next leads served'
  exact ⟨served'', carries.trans carries'⟩

/-- The context does not get ready. -/
theorem Carries.unready {e : Error} {outcome : β}
    (ready : (onContext Context.ready).run.run a p = ((.error e, a'), p')) :
    a.Carries p ((outcome, a'), p') := by
  intro served
  have first := onContext_carries a p Context.ready_carries served
  rw [ready] at first
  exact first

/-- The registry may change, and the process does. -/
theorem Carries.registered {outcome : β} (same : a'.context = a.context) (carries : p.Carries p') :
    a.Carries p ((outcome, a'), p') :=
  fun served => ⟨same ▸ served, carries⟩

variable (a p)

theorem adopt_carries {o : BufferObject} {key : MemoryRef} (keyed : o.descriptor.key? = some key)
    (leads : o.backend.Leads) : a.Carries p ((adopt o).run.run a p) := by
  rw [adopt_run a p keyed]
  split
  · exact .registered rfl (.trans (.adopted p leads) (.trans (.reported _ _) (.released _ _)))
  · exact .registered rfl (.adopted p leads)

theorem acquired_carries (key : MemoryRef) : a.Carries p (a.acquired p key) := by
  unfold acquired
  split
  · exact .registered rfl (.refl p)
  · exact .registered rfl (.reported p _)

theorem release_carries (key : MemoryRef) (count : Nat) :
    a.Carries p ((tryRegistry (Registry.release key count)).run.run a p) := by
  rw [run_tryRegistry, Registry.release_run]
  cases a.registry.entries.get? key with
  | none => exact .registered rfl (.refl p)
  | some e =>
    by_cases left : count < e.references
    · simp only [left, if_true]
      exact .registered rfl (.refl p)
    · simp only [left, if_false]
      exact .registered rfl
        (.trans (.destroyed p e.object) (.trans (.reported _ _) (.released _ _)))

theorem create_carries (width height : UInt32) (raw : Int32) (usage : Usage) :
    a.Carries p ((create width height raw usage).run.run a p) := by
  rw [create_run]
  split
  · exact .registered rfl (.reported p _)
  next format _ =>
  rcases ready : (onContext Context.ready).run.run a p with ⟨⟨_ | r, a₁⟩, p₁⟩
  · exact .unready ready
  refine .readied ready fun leads => ?_
  dsimp only
  have created := BufferObject.create_leads leads r.card width height format usage p₁.host
  rcases made : (BufferObject.create r.backend r.card width height format usage).run p₁.host
    with ⟨e | o, h⟩ <;> rw [attempt_eq made] <;> rw [made] at created
  · exact .registered rfl (.hosted created)
  have fresh := BufferObject.create_fresh (congrArg Prod.fst made)
  obtain ⟨key, keyed⟩ := Option.isSome_iff_exists.1 fresh.keyed
  have adopted := adopt_carries a₁ { p₁ with host := h } keyed (fresh.backend ▸ leads)
  dsimp only
  refine .after (.hosted created) ?_
  rcases adopting : (adopt o).run.run a₁ { p₁ with host := h } with ⟨⟨_ | _, a₂⟩, p₂⟩ <;>
    rw [adopting] at adopted <;> exact adopted

theorem register_carries (d : Descriptor) : a.Carries p ((register d).run.run a p) := by
  rw [register_run]
  split
  · exact .registered rfl (.refl p)
  next key keyed =>
  rcases ready : (onContext Context.ready).run.run a p with ⟨⟨_ | r, a₁⟩, p₁⟩
  · exact .unready ready
  refine .readied ready fun leads => ?_
  dsimp only
  split
  · exact acquired_carries a₁ p₁ key
  have imported := BufferObject.importFrom_leads leads r.card d p₁.host
  rcases made : (BufferObject.importFrom r.backend r.card d).run p₁.host with ⟨e | o, h⟩ <;>
    rw [attempt_eq made] <;> rw [made] at imported
  · exact .registered rfl (.hosted imported)
  obtain ⟨fresh, descriptor⟩ := BufferObject.importFrom_fresh (congrArg Prod.fst made)
  have adopted := adopt_carries a₁ { p₁ with host := h } (descriptor ▸ keyed) (fresh.backend ▸ leads)
  dsimp only
  refine .after (.hosted imported) ?_
  rcases adopting : (adopt o).run.run a₁ { p₁ with host := h } with ⟨⟨_ | _, a₂⟩, p₂⟩ <;>
    rw [adopting] at adopted
  · exact adopted
  · intro served
    obtain ⟨served', carries⟩ := adopted served
    obtain ⟨served'', carries'⟩ := acquired_carries a₂ p₂ key served'
    exact ⟨served'', carries.trans carries'⟩

theorem unregister_carries (d : Descriptor) : a.Carries p ((unregister d).run.run a p) := by
  rw [unregister_run]
  split
  · exact .registered rfl (.refl p)
  split
  · exact .registered rfl (.refl p)
  · exact release_carries a p _ _

theorem dropLocal_carries (d : Descriptor) : a.Carries p ((dropLocal d).run.run a p) := by
  rw [dropLocal_run]
  split
  · exact .registered rfl (.refl p)
  · exact release_carries a p _ 1

theorem onBuffer_carries (d : Descriptor) {x : ExceptT Error ObjectM α}
    (lasts : ∀ (o : BufferObject) h, o.Lasts (x.run.run o h).1.2)
    (leads : ∀ o : BufferObject, o.backend.Leads → Leads (x.run.run o)) :
    a.Carries p ((onBuffer d x).run.run a p) := by
  rw [onBuffer_run]
  split
  · exact .registered rfl (.refl p)
  · exact .registered rfl (.onObject p _ lasts leads)

theorem unlock_carries (d : Descriptor) : a.Carries p ((unlock d).run a p) := by
  rw [unlock_run]
  split
  · refine .registered rfl (.onObject p _ (fun o h => o.unlock_lasts h) fun o => ?_)
    exact BufferObject.unlock_leads
  · exact .registered rfl (.reported p _)

theorem planes_carries (d : Descriptor) : a.Carries p ((planes d).run.run a p) := by
  rw [planes_run]
  split <;> exact .registered rfl (.refl p)

theorem hold_carries (d : Descriptor) : a.Carries p ((hold d).run.run a p) := by
  rw [hold_run]
  split
  · exact .registered rfl (.refl p)
  · exact .registered rfl (.shared p _)

theorem newObject_carries {make : Ready → Attempt Error BufferObject}
    (leads : ∀ r : Ready, r.backend.Leads → Leads (make r).run)
    (served : ∀ (r : Ready) (h : Host) o, ((make r).run h).1 = .ok o → o.backend = r.backend) :
    a.Carries p ((Client.newObject make).run.run a p) := by
  rw [newObject_run]
  rcases ready : (onContext Context.ready).run.run a p with ⟨⟨_ | r, a₁⟩, p₁⟩
  · exact .unready ready
  refine .readied ready fun backend => ?_
  dsimp only
  have made := leads r backend p₁.host
  rcases eq : (make r).run p₁.host with ⟨e | o, h⟩ <;> rw [attempt_eq eq] <;> rw [eq] at made
  · exact .registered rfl (.hosted made)
  · have same := served r p₁.host o (congrArg Prod.fst eq)
    exact .registered rfl (.trans (.hosted made) (.adopted _ (same ▸ backend)))

theorem newCard_carries : a.Carries p (Client.newCard.run.run a p) := by
  rw [newCard_run]
  rcases ready : (onContext Context.ready).run.run a p with ⟨⟨_ | r, a₁⟩, p₁⟩
  · exact .unready ready
  · exact .readied ready fun _ => .registered rfl (.after p₁ r.card.hold_leads)

theorem dispose_carries (order : List MemoryRef) : p.Carries ((dispose order).run a p).2 := by
  have released : Leads a.context.dispose := by
    unfold Context.dispose
    cases a.context.state with
    | ready r => exact r.card.release_leads
    | untried | failed => exact .pure _
  rw [dispose_run, clear_run]
  exact .trans (.after p released) (.forM_release _ _)

end Allocator

/-! ## Calls of a client -/

namespace Client

/-- What a client uses leads the kernel on. -/
structure Served (c : Client) : Prop where
  process : c.process.Served
  context : ∀ a, c.allocator = some a → a.context.Served

/-- The kernel that a client works on. -/
def kernel (c : Client) : Kernel := c.process.host.kernel

variable {c : Client}

/-- What is to be shown of a call. -/
def Carries (c : Client) (result : α × Client) : Prop :=
  c.Served → result.2.Served ∧ c.kernel.Leads result.2.kernel

/-- Only the process and the client's own holds change. -/
theorem Carries.moved {p : Process} {answer : α} (carries : c.process.Carries p)
    (holds : List ObjectId) (cards : List Card) :
    c.Carries (answer, { c with process := p, holds, cards }) := by
  intro served
  obtain ⟨process, leads⟩ := carries served.process
  exact ⟨⟨process, served.context⟩, leads⟩

theorem onAllocator_carries {x : ExceptT Error AllocatorM α}
    (carries : ∀ (a : Allocator) p, a.Carries p (x.run.run a p)) : c.Carries (c.onAllocator x) := by
  intro served
  unfold onAllocator
  split
  · exact ⟨served, .refl _⟩
  next a allocator =>
  obtain ⟨context, process⟩ := carries a c.process (served.context a allocator)
  obtain ⟨process, leads⟩ := process served.process
  refine ⟨⟨process, ?_⟩, leads⟩
  rintro _ ⟨⟩
  exact context

theorem replying_carries {x : ExceptT Error AllocatorM α} {f : α → Reply}
    (carries : ∀ (a : Allocator) p, a.Carries p (x.run.run a p)) :
    c.Carries (replying f (c.onAllocator x)) := onAllocator_carries carries

theorem holding_carries {x : ExceptT Error AllocatorM ObjectId}
    (carries : ∀ (a : Allocator) p, a.Carries p (x.run.run a p)) :
    c.Carries (holding (c.onAllocator x)) := by
  intro served
  have carried := onAllocator_carries carries served
  unfold holding
  split <;> next eq => rw [eq] at carried; exact ⟨⟨carried.1.process, carried.1.context⟩, carried.2⟩

theorem onObject_carries {id : ObjectId} {x : ExceptT Error ObjectM α} {f : α → Reply}
    (lasts : ∀ (o : BufferObject) h, o.Lasts (x.run.run o h).1.2)
    (leads : ∀ o : BufferObject, o.backend.Leads → Leads (x.run.run o)) :
    c.Carries (replying f (c.onObject id x)) := by
  unfold onObject
  split
  · exact .moved (.onObject c.process id lasts leads) c.holds c.cards
  · exact .moved (.refl c.process) c.holds c.cards

theorem step_carries (c : Client) (op : Operation) : c.Carries (c.step op) := by
  cases op with
  | arm point plan =>
    have unmoved : c.kernel.Unmoved (c.kernel.armFaults point plan) :=
      ⟨rfl, rfl, rfl, rfl, rfl, rfl, rfl⟩
    exact fun served => ⟨⟨served.process, served.context⟩, unmoved.leads⟩
  | script => exact fun served => ⟨⟨served.process, served.context⟩, .refl _⟩
  | create width height raw usage =>
    exact replying_carries fun a p => a.create_carries p width height raw usage
  | register d => exact replying_carries fun a p => a.register_carries p d
  | unregister d => exact replying_carries fun a p => a.unregister_carries p d
  | dropLocal d => exact replying_carries fun a p => a.dropLocal_carries p d
  | lock d usage region =>
    exact replying_carries fun a p => a.onBuffer_carries p d
      (fun o h => o.lock_lasts h usage region) fun o leads => o.lock_leads leads usage region
  | lockPlanar d usage region =>
    exact replying_carries fun a p => a.onBuffer_carries p d
      (fun o h => o.lockPlanar_lasts h usage region)
      fun o leads => o.lockPlanar_leads leads usage region
  | unlock d => exact replying_carries fun a p => a.unlock_carries p d
  | planes d => exact replying_carries fun a p => a.planes_carries p d
  | hold d => exact holding_carries fun a p => a.hold_carries p d
  | ensureReady needDisplay =>
    exact replying_carries fun a p => a.onContext_carries p fun c h => c.ensureReady_carries h needDisplay
  | authMagic =>
    exact replying_carries fun a p => a.onContext_carries p fun c h =>
      c.exchange_carries h getMagic_uses.told
  | authenticate magic =>
    exact replying_carries fun a p => a.onContext_carries p fun c h =>
      c.exchange_carries h (authMagic_uses magic).told
  | acquireMaster =>
    exact replying_carries fun a p => a.onContext_carries p fun c h =>
      c.exchange_carries h setMaster_uses.told
  | releaseMaster =>
    exact replying_carries fun a p => a.onContext_carries p fun c h =>
      c.exchange_carries h dropMaster_uses.told
  | holdCard =>
    intro served
    have carried := onAllocator_carries (c := c) Allocator.newCard_carries served
    unfold step
    dsimp only
    split <;> next eq => rw [eq] at carried; exact ⟨⟨carried.1.process, carried.1.context⟩, carried.2⟩
  | dropAllocator order =>
    intro served
    unfold step
    dsimp only
    split
    · exact ⟨served, .refl _⟩
    · next a allocator =>
      obtain ⟨process, leads⟩ := a.dispose_carries c.process order served.process
      exact ⟨⟨process, nofun⟩, leads⟩
  | createObject width height format usage =>
    exact holding_carries fun a p => a.newObject_carries p
      (fun r leads => BufferObject.create_leads leads r.card width height format usage)
      fun r h o made => (BufferObject.create_fresh made).backend
  | importObject d =>
    exact holding_carries fun a p => a.newObject_carries p
      (fun r leads => BufferObject.importFrom_leads leads r.card d)
      fun r h o made => (BufferObject.importFrom_fresh made).1.backend
  | lockObject id usage region =>
    exact onObject_carries (fun o h => o.lock_lasts h usage region)
      fun o leads => o.lock_leads leads usage region
  | lockPlanarObject id usage region =>
    exact onObject_carries (fun o h => o.lockPlanar_lasts h usage region)
      fun o leads => o.lockPlanar_leads leads usage region
  | unlockObject id =>
    exact onObject_carries (fun o h => o.unlock_lasts h) fun o leads h => o.unlock_leads leads h
  | attach id =>
    exact onObject_carries (fun o h => o.attachFramebuffer_lasts h) fun o _ => o.attach_leads
  | share id =>
    unfold step
    dsimp only
    split
    · exact .moved (.shared c.process id) (id :: c.holds) c.cards
    · exact .moved (.refl c.process) c.holds c.cards
  | drop id =>
    unfold step
    dsimp only
    split
    · exact .moved (.released c.process id) (c.holds.erase id) c.cards
    · exact .moved (.refl c.process) c.holds c.cards
  | dropCard card =>
    unfold step
    dsimp only
    split
    · exact .moved (.after c.process card.release_leads) c.holds (c.cards.erase card)
    · exact .moved (.refl c.process) c.holds c.cards

theorem run_carries (c : Client) (calls : List Operation) : c.Carries ((), c.run calls) := by
  induction calls generalizing c with
  | nil => exact fun served => ⟨served, .refl _⟩
  | cons op calls ih =>
    intro served
    obtain ⟨served', leads⟩ := c.step_carries op served
    obtain ⟨served'', leads'⟩ := ih _ served'
    exact ⟨served'', leads.trans leads'⟩

theorem start_served (host : Host) {opener : Opener} (leads : opener.Leads) {table : BackendTable}
    (dumb : table.AllDumb) : (start host opener table).Served where
  process id sh held := absurd held (Option.some_ne_none sh).symm
  context := by
    rintro _ ⟨⟩
    exact ⟨leads, dumb, nofun⟩

end Client

/-- At the start nothing is there, and nothing is recorded. -/
theorem World.kernel_traced (w : World) : w.kernel.Traced := by
  have fresh := w.kernel_fresh
  have added (objects : List ForeignObject) (k : Kernel) (none : k.trace = []) :
      (objects.foldl World.addForeign k).trace = [] := by
    induction objects generalizing k with
    | nil => exact none
    | cons o objects ih => exact ih _ none
  have none : w.kernel.trace = [] := added w.objects _ rfl
  constructor
  · intro r
    simp [fresh.notMem_live r, none, Made]
  · intro r
    simp [none, Made]
  · intro r
    simp [none, Returned]
  · exact fresh.sound.once

end GraphicsBuffers

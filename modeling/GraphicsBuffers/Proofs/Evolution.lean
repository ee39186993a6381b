import GraphicsBuffers.Proofs.Custody
import Mathlib.Logic.Relation

/-!
# How a process evolves

Whatever a client does, the objects of its process change in few ways (`Process.Step`): an object
arrives, it is used, or it goes. Every call comes to a sequence of such steps (`Client.step_evolves`), so
what they preserve holds of every run. An object that has been imported keeps the handle it was imported
with, in this sense (`Process.Imported.evolves`).
-/

namespace GraphicsBuffers

/-! ## Buffers -/

namespace Dumb

variable (b : BackendBuffer) (h : Host)

theorem map_sameMemory (fd : Int32) :
    let b' := ((Dumb.map fd).run.run b h).1.2
    b'.handle = b.handle ∧ b'.size = b.size := by
  rw [map_run]
  rcases b.mapping with _ | m
  · rcases (mapWhole fd b).run h with ⟨_ | m, h'⟩ <;> exact ⟨rfl, rfl⟩
  · exact ⟨rfl, rfl⟩

theorem unmap_sameMemory :
    let b' := (Dumb.unmap.run b h).1.2
    b'.handle = b.handle ∧ b'.size = b.size := by
  rw [unmap_run]
  split
  · exact ⟨rfl, rfl⟩
  · split <;> exact ⟨rfl, rfl⟩

end Dumb

/-! ## Steps -/

namespace BufferObject

/-- The dumb-buffer backend keeps a buffer on the same memory. -/
def KeepsMemory (o o' : BufferObject) : Prop :=
  ∀ fd b', o.backend = .dumb fd → o'.buffer = some b' →
    ∃ b, o.buffer = some b ∧ b'.handle = b.handle ∧ b'.size = b.size

/-- What is for good about an object: all but its locks, its framebuffer and the state of its buffer. -/
structure Lasts (o o' : BufferObject) : Prop where
  descriptor : o'.descriptor = o.descriptor
  imported : o'.imported = o.imported
  backend : o'.backend = o.backend
  card : o'.card = o.card
  memory : o.KeepsMemory o'

variable {o o' o'' : BufferObject}

theorem KeepsMemory.same (same : o'.buffer = o.buffer) : o.KeepsMemory o' :=
  fun _ b' _ found => ⟨b', same ▸ found, rfl, rfl⟩

theorem Lasts.trans (first : o.Lasts o') (second : o'.Lasts o'') : o.Lasts o'' where
  descriptor := second.descriptor.trans first.descriptor
  imported := second.imported.trans first.imported
  backend := second.backend.trans first.backend
  card := second.card.trans first.card
  memory fd b'' dumb found := by
    obtain ⟨b', found', handle', size'⟩ := second.memory fd b'' (first.backend.trans dumb) found
    obtain ⟨b, found, handle, size⟩ := first.memory fd b' dumb found'
    exact ⟨b, found, handle'.trans handle, size'.trans size⟩

theorem Same.lasts (same : o.Same o') (memory : o.KeepsMemory o') : o.Lasts o' :=
  ⟨same.descriptor, same.imported, same.backend, same.card, memory⟩

section Operations

variable (o : BufferObject) (h : Host)

theorem lockDialogue_keepsMemory (usage : Usage) (region : Region) :
    o.KeepsMemory ((lockDialogue o usage region).hold o.backend h).object := by
  unfold lockDialogue
  dsimp only
  split
  · exact .same rfl
  split
  · exact .same rfl
  split
  · exact .same rfl
  next buffer found =>
  split
  · intro fd b' dumb found'
    refine ⟨buffer, found, ?_⟩
    have asked : (o.backend.map region (usage ||| o.lockedFor).swWrite).run.run buffer h =
        (Dumb.map fd).run.run buffer h := by
      rw [dumb]
      rfl
    have same := Dumb.map_sameMemory buffer h fd
    simp only [Dialogue.hold, asked] at found'
    rcases ran : (Dumb.map fd).run.run buffer h with ⟨⟨_ | address, b⟩, h'⟩ <;>
      rw [ran] at found' same <;> cases found' <;> exact same
  · exact .same rfl

theorem lock_lasts (usage : Usage) (region : Region) :
    o.Lasts ((lock usage region).run.run o h).1.2 := by
  refine (o.lock_same h usage region).lasts ?_
  rw [lock_run]
  exact o.lockDialogue_keepsMemory h usage region

theorem lockPlanar_lasts (usage : Usage) (region : Region) :
    o.Lasts ((lockPlanar usage region).run.run o h).1.2 := by
  refine (o.lockPlanar_same h usage region).lasts ?_
  rw [lockPlanar_run]
  unfold lockPlanarDialogue
  dsimp only
  split
  · exact .same rfl
  split
  · exact .same rfl
  · rw [Dialogue.hold_answering]
    exact o.lockDialogue_keepsMemory h usage region

theorem unlock_lasts : o.Lasts (unlock.run o h).1.2 := by
  refine (o.unlock_same h).lasts ?_
  rw [unlock_run]
  unfold unlockDialogue
  split
  · exact .same rfl
  split
  · next buffer found =>
    split
    · intro fd b' dumb found'
      refine ⟨buffer, found, ?_⟩
      have asked : o.backend.unmap.run buffer h = Dumb.unmap.run buffer h := by
        rw [dumb]
        rfl
      have same := Dumb.unmap_sameMemory buffer h
      simp only [Dialogue.hold, asked] at found'
      cases found'
      exact same
    · exact .same rfl
  · exact .same rfl

theorem attachFramebuffer_lasts : o.Lasts (attachFramebuffer.run.run o h).1.2 := by
  refine (o.attachFramebuffer_same h).lasts (.same ?_)
  rw [attachFramebuffer_object]

theorem destroy_lasts : o.Lasts (destroy.run o h).1.2 := by
  rw [destroy_run]
  cases found : o.buffer with
  | none => exact ⟨rfl, rfl, rfl, rfl, .same rfl⟩
  | some b => exact ⟨rfl, rfl, rfl, rfl, nofun⟩

end Operations

end BufferObject

namespace Process

/-- What can become of a process. -/
inductive Step (p : Process) : Process → Prop
  | hosted (host : Host) : p.Step { p with host }
  | arrived (o : BufferObject) :
    p.Step { p with
      objects := p.objects.insert p.nextObject ⟨o, 1⟩
      nextObject := p.nextObject + 1 }
  | used {id sh o} (held : p.objects.get? id = some sh) (lasts : sh.object.Lasts o) (holders : Nat) :
    p.Step { p with objects := p.objects.insert id ⟨o, holders⟩ }
  | gone (id : ObjectId) : p.Step { p with objects := p.objects.erase id }

/-- What can become of a process after some steps. -/
def Evolves : Process → Process → Prop := Relation.ReflTransGen Step

namespace Evolves

variable {p p' : Process}

theorem refl (p : Process) : p.Evolves p := Relation.ReflTransGen.refl

theorem step (step : p.Step p') : p.Evolves p' := Relation.ReflTransGen.single step

theorem trans {p'' : Process} (first : p.Evolves p') (second : p'.Evolves p'') : p.Evolves p'' :=
  Relation.ReflTransGen.trans first second

theorem hosted (p : Process) (host : Host) : p.Evolves { p with host } := .step (.hosted host)

theorem after {α : Type} (p : Process) (x : HostM α) : p.Evolves (p.after x) := .hosted p _

theorem reported (p : Process) (event : LogEvent) : p.Evolves (p.reported event) := .hosted p _

theorem adopted (p : Process) (o : BufferObject) : p.Evolves (p.adopted o) :=
  .trans (.step (.arrived o)) (.hosted _ _)

theorem onObject (p : Process) (id : ObjectId) {α : Type} {x : ObjectM α}
    (lasts : ∀ (o : BufferObject) h, o.Lasts (x.run o h).1.2) : p.Evolves (onObject id x p).2 := by
  cases held : p.objects.get? id with
  | none =>
    rw [onObject_none held]
    exact .refl p
  | some sh =>
    rw [onObject_some held]
    exact .trans (.step (.used held (lasts sh.object p.host) sh.holders)) (.hosted _ _)

theorem destroyed (p : Process) (id : ObjectId) : p.Evolves (p.destroyed id) :=
  .onObject p id BufferObject.destroy_lasts

theorem shared (p : Process) (id : ObjectId) : p.Evolves (share id p).2 := by
  rw [share_run]
  cases held : p.objects.get? id with
  | none => exact .refl p
  | some sh => exact .step (.used held ⟨rfl, rfl, rfl, rfl, .same rfl⟩ _)

theorem released (p : Process) (id : ObjectId) : p.Evolves (p.released id) := by
  obtain ⟨-, eq⟩ | ⟨o, n, held, eq⟩ | ⟨o, n, -, -, eq⟩ := p.released_cases id <;> rw [eq]
  · exact .refl p
  · exact .step (.used held ⟨rfl, rfl, rfl, rfl, .same rfl⟩ _)
  · exact .trans (.step (.gone id)) (.after _ _)

theorem forM_release {κ : Type} (p : Process) (entries : List (κ × Registration)) :
    p.Evolves ((entries.forM fun e => release e.2.object : ProcessM Unit).run p).2 := by
  induction entries generalizing p with
  | nil => exact .refl p
  | cons e entries ih => exact .trans (.released p e.2.object) (ih _)

end Evolves

end Process

/-! ## Calls of the allocator -/

namespace Allocator

variable {α : Type} (a : Allocator) (p : Process)

theorem onContext_evolves {ε : Type} (x : ExceptT ε ContextM α) :
    p.Evolves ((onContext x).run.run a p).2 := .hosted p _

theorem adopt_evolves {o : BufferObject} {key : MemoryRef} (keyed : o.descriptor.key? = some key) :
    p.Evolves ((adopt o).run.run a p).2 := by
  rw [adopt_run a p keyed]
  split
  · exact .trans (.adopted p o) (.trans (.reported _ _) (.released _ _))
  · exact .adopted p o

theorem acquired_evolves (key : MemoryRef) : p.Evolves (a.acquired p key).2 := by
  unfold acquired
  split
  · exact .refl p
  · exact .reported p _

theorem release_evolves (key : MemoryRef) (count : Nat) :
    p.Evolves ((tryRegistry (Registry.release key count)).run.run a p).2 := by
  rw [run_tryRegistry, Registry.release_run]
  cases a.registry.entries.get? key with
  | none => exact .refl p
  | some e =>
    by_cases left : count < e.references
    · simp only [left, if_true]
      exact .refl p
    · simp only [left, if_false]
      exact .trans (.destroyed p e.object) (.trans (.reported _ _) (.released _ _))

theorem create_evolves (width height : UInt32) (raw : Int32) (usage : Usage) :
    p.Evolves ((create width height raw usage).run.run a p).2 := by
  rw [create_run]
  split
  · exact .reported p _
  next format _ =>
  have started := onContext_evolves a p Context.ready
  rcases ready : (onContext Context.ready).run.run a p with ⟨⟨_ | r, a₁⟩, p₁⟩ <;> rw [ready] at started
  · exact started
  dsimp only
  rcases made : (BufferObject.create r.backend r.card width height format usage).run p₁.host
    with ⟨e | o, h⟩ <;> rw [attempt_eq made]
  · exact .trans started (.hosted p₁ h)
  have fresh := BufferObject.create_fresh (congrArg Prod.fst made)
  obtain ⟨key, keyed⟩ := Option.isSome_iff_exists.1 fresh.keyed
  have entered := (started.trans (.hosted p₁ h)).trans (adopt_evolves a₁ { p₁ with host := h } keyed)
  dsimp only
  rcases adopting : (adopt o).run.run a₁ { p₁ with host := h } with ⟨⟨_ | _, a₂⟩, p₂⟩ <;>
    rw [adopting] at entered <;> exact entered

theorem register_evolves (d : Descriptor) : p.Evolves ((register d).run.run a p).2 := by
  rw [register_run]
  split
  · exact .refl p
  next key keyed =>
  have started := onContext_evolves a p Context.ready
  rcases ready : (onContext Context.ready).run.run a p with ⟨⟨_ | r, a₁⟩, p₁⟩ <;> rw [ready] at started
  · exact started
  dsimp only
  split
  · exact .trans started (acquired_evolves a₁ p₁ key)
  rcases made : (BufferObject.importFrom r.backend r.card d).run p₁.host with ⟨e | o, h⟩ <;>
    rw [attempt_eq made]
  · exact .trans started (.hosted p₁ h)
  obtain ⟨-, descriptor⟩ := BufferObject.importFrom_fresh (congrArg Prod.fst made)
  have entered := (started.trans (.hosted p₁ h)).trans
    (adopt_evolves a₁ { p₁ with host := h } (descriptor ▸ keyed))
  dsimp only
  rcases adopting : (adopt o).run.run a₁ { p₁ with host := h } with ⟨⟨_ | _, a₂⟩, p₂⟩ <;>
    rw [adopting] at entered
  · exact entered
  · exact .trans entered (acquired_evolves a₂ p₂ key)

theorem unregister_evolves (d : Descriptor) : p.Evolves ((unregister d).run.run a p).2 := by
  rw [unregister_run]
  split
  · exact .refl p
  split
  · exact .refl p
  · exact release_evolves a p _ _

theorem dropLocal_evolves (d : Descriptor) : p.Evolves ((dropLocal d).run.run a p).2 := by
  rw [dropLocal_run]
  split
  · exact .refl p
  · exact release_evolves a p _ 1

theorem onBuffer_evolves (d : Descriptor) {x : ExceptT Error ObjectM α}
    (lasts : ∀ (o : BufferObject) h, o.Lasts (x.run.run o h).1.2) :
    p.Evolves ((onBuffer d x).run.run a p).2 := by
  rw [onBuffer_run]
  split
  · exact .refl p
  · exact .onObject p _ lasts

theorem unlock_evolves (d : Descriptor) : p.Evolves ((unlock d).run a p).2 := by
  rw [unlock_run]
  split
  · exact .onObject p _ fun o h => o.unlock_lasts h
  · exact .reported p _

theorem planes_evolves (d : Descriptor) : p.Evolves ((planes d).run.run a p).2 := by
  rw [planes_run]
  split <;> exact .refl p

theorem hold_evolves (d : Descriptor) : p.Evolves ((hold d).run.run a p).2 := by
  rw [hold_run]
  split
  · exact .refl p
  · exact .shared p _

theorem newObject_evolves (make : Ready → Attempt Error BufferObject) :
    p.Evolves ((Client.newObject make).run.run a p).2 := by
  rw [newObject_run]
  have started := onContext_evolves a p Context.ready
  rcases ready : (onContext Context.ready).run.run a p with ⟨⟨_ | r, a₁⟩, p₁⟩ <;> rw [ready] at started
  · exact started
  dsimp only
  rcases made : (make r).run p₁.host with ⟨e | o, h⟩ <;> rw [attempt_eq made]
  · exact .trans started (.hosted p₁ h)
  · exact (started.trans (.hosted p₁ h)).trans (.adopted _ o)

theorem newCard_evolves : p.Evolves (Client.newCard.run.run a p).2 := by
  rw [newCard_run]
  have started := onContext_evolves a p Context.ready
  rcases ready : (onContext Context.ready).run.run a p with ⟨⟨_ | r, a₁⟩, p₁⟩ <;> rw [ready] at started
  · exact started
  · exact .trans started (.after p₁ _)

theorem dispose_evolves (order : List MemoryRef) : p.Evolves ((Allocator.dispose order).run a p).2 := by
  rw [dispose_run, clear_run]
  exact .trans (.after p _) (.forM_release _ _)

end Allocator

/-! ## Calls of a client -/

namespace Client

variable {α : Type} {c : Client}

theorem onAllocator_evolves {x : ExceptT Error AllocatorM α}
    (evolves : ∀ (a : Allocator) (p : Process), p.Evolves (x.run.run a p).2) :
    c.process.Evolves (c.onAllocator x).2.process := by
  unfold onAllocator
  split
  · exact .refl _
  · exact evolves _ _

theorem holding_evolves {x : ExceptT Error AllocatorM ObjectId}
    (evolves : ∀ (a : Allocator) (p : Process), p.Evolves (x.run.run a p).2) :
    c.process.Evolves (holding (c.onAllocator x)).2.process := by
  have evolved := onAllocator_evolves (c := c) evolves
  unfold holding
  split <;> next eq => rwa [eq] at evolved

theorem onObject_evolves (id : ObjectId) {x : ExceptT Error ObjectM α}
    (lasts : ∀ (o : BufferObject) h, o.Lasts (x.run.run o h).1.2) :
    c.process.Evolves (c.onObject id x).2.process := by
  unfold onObject
  split
  · exact .onObject _ id lasts
  · exact .refl _

theorem step_evolves (c : Client) (op : Operation) : c.process.Evolves (c.step op).2.process := by
  cases op with
  | arm | script => exact .hosted _ _
  | create width height raw usage =>
    exact onAllocator_evolves fun a p => Allocator.create_evolves a p width height raw usage
  | register d => exact onAllocator_evolves fun a p => Allocator.register_evolves a p d
  | unregister d => exact onAllocator_evolves fun a p => Allocator.unregister_evolves a p d
  | dropLocal d => exact onAllocator_evolves fun a p => Allocator.dropLocal_evolves a p d
  | lock d usage region =>
    exact onAllocator_evolves fun a p =>
      Allocator.onBuffer_evolves a p d fun o h => o.lock_lasts h usage region
  | lockPlanar d usage region =>
    exact onAllocator_evolves fun a p =>
      Allocator.onBuffer_evolves a p d fun o h => o.lockPlanar_lasts h usage region
  | unlock d => exact onAllocator_evolves fun a p => Allocator.unlock_evolves a p d
  | planes d => exact onAllocator_evolves fun a p => Allocator.planes_evolves a p d
  | hold d => exact holding_evolves fun a p => Allocator.hold_evolves a p d
  | ensureReady | authMagic | authenticate | acquireMaster | releaseMaster =>
    exact onAllocator_evolves fun a p => Allocator.onContext_evolves a p _
  | holdCard =>
    have evolved := onAllocator_evolves (c := c) Allocator.newCard_evolves
    unfold step
    dsimp only
    split <;> next eq => rwa [eq] at evolved
  | dropAllocator order =>
    unfold step
    dsimp only
    split
    · exact .refl _
    · exact Allocator.dispose_evolves _ _ order
  | createObject | importObject => exact holding_evolves fun a p => Allocator.newObject_evolves a p _
  | lockObject id usage region => exact onObject_evolves id fun o h => o.lock_lasts h usage region
  | lockPlanarObject id usage region =>
    exact onObject_evolves id fun o h => o.lockPlanar_lasts h usage region
  | unlockObject id => exact onObject_evolves id fun o h => o.unlock_lasts h
  | attach id => exact onObject_evolves id fun o h => o.attachFramebuffer_lasts h
  | share id =>
    unfold step
    dsimp only
    split
    · exact .shared _ id
    · exact .refl _
  | drop id =>
    unfold step
    dsimp only
    split
    · exact .released _ id
    · exact .refl _
  | dropCard card =>
    unfold step
    dsimp only
    split
    · exact .hosted _ _
    · exact .refl _

theorem run_evolves (c : Client) (calls : List Operation) : c.process.Evolves (c.run calls).process := by
  induction calls generalizing c with
  | nil => exact .refl _
  | cons op calls ih => exact .trans (c.step_evolves op) (ih _)

end Client

/-! ## Imported objects -/

/-- The object `id` was imported with the handle `d`, and is as long as it is there. -/
structure Process.Imported (id : ObjectId) (d : Descriptor) (p : Process) : Prop where
  below : id < p.nextObject
  object : ∀ sh, p.objects.get? id = some sh → sh.object.imported ∧ sh.object.descriptor = d

namespace Process.Imported

variable {id : ObjectId} {d : Descriptor} {p p' : Process}

theorem step (imported : p.Imported id d) (step : p.Step p') : p'.Imported id d := by
  obtain ⟨below, object⟩ := imported
  cases step with
  | hosted host => exact ⟨below, object⟩
  | arrived o =>
    refine ⟨Nat.lt_succ_of_lt below, fun sh held => object sh ?_⟩
    rwa [Table.get?_insert_of_ne _ _ (Nat.ne_of_lt below)] at held
  | @used id' sh o held lasts n =>
    refine ⟨below, fun sh' held' => ?_⟩
    rw [Table.get?_insert] at held'
    split at held'
    · next same =>
      cases held'
      obtain ⟨imported, descriptor⟩ := object sh (same ▸ held)
      exact ⟨lasts.imported.trans imported, lasts.descriptor.trans descriptor⟩
    · exact object sh' held'
  | gone id' =>
    refine ⟨below, fun sh held => ?_⟩
    rw [Table.get?_erase] at held
    split at held
    · cases held
    · exact object sh held

/-- An imported object keeps its handle. -/
theorem evolves (imported : p.Imported id d) (evolves : p.Evolves p') : p'.Imported id d := by
  induction evolves with
  | refl => exact imported
  | tail _ last ih => exact ih.step last

end Process.Imported

end GraphicsBuffers

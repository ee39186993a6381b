import GraphicsBuffers.Proofs.Balance
import GraphicsBuffers.Proofs.ClientLedger
import GraphicsBuffers.Proofs.Handles
import GraphicsBuffers.Proofs.Leaks
import GraphicsBuffers.Proofs.TracedRuns
/-!
# Buffers do not interfere

A call that is addressed to another buffer (`Operation.Elsewhere`) leaves a registered buffer alone,
whether it succeeds or fails, and whether it destroys the other buffer or not. So does every call that
makes a new buffer, even one that collides with a registered one. The object and its registration are
left by each step of a call (`Process.Leaves`); that the kernel still has what belongs to them is read off
the ledger and the trace at both ends of a run.
-/

namespace GraphicsBuffers

/-! ## Calls on something else -/

namespace Operation

/-- The object that a call is made on, if it is one that the client holds. -/
def object? : Operation → Option ObjectId
  | lockObject id _ _ | lockPlanarObject id _ _ | unlockObject id | attach id => some id
  | _ => none

/-- A call that is addressed neither to the buffer of a key nor to its object `id`, nor is the end of the
allocator. Calls that make new buffers are such calls, whatever the buffers are like. -/
structure Elsewhere (key : MemoryRef) (id : ObjectId) (op : Operation) : Prop where
  handle : ∀ d, op.handle? = some d → d.key? ≠ some key
  object : op.object? ≠ some id
  stays : op.endsAllocator = false

end Operation

/-! ## Registrations -/

/-- The registration of a key is left by calls that are addressed to something else. -/
theorem Books.Moves.elsewhere {b b' : Books} {op : Operation} {answer : Except Error Reply}
    (moves : b.Moves op answer b') {key : MemoryRef} {e : Registration}
    (known : b.registrations key = some e) (elsewhere : op.Elsewhere key e.object) :
    b'.registrations key = some e := by
  -- What a new buffer is registered under is not the key, and neither is what a handle has.
  have free {key' : MemoryRef} (free : b.registrations key' = none) : key ≠ key' := by
    rintro rfl
    cases known.symm.trans free
  have other {d : Descriptor} {key' : MemoryRef} (addressed : op.handle? = some d)
      (keyed : d.key? = some key') : key ≠ key' := by
    rintro rfl
    exact elsewhere.handle d addressed keyed
  have update {key' : MemoryRef} (ne : key ≠ key') (entry : Option Registration) :
      Function.update b.registrations key' entry key = some e :=
    (Function.update_of_ne ne ..).trans known
  cases moves with
  | quiet | skip | hold | share | drop | own => exact known
  | create keyed free' | «import» keyed free' => exact update (free free') _
  | acquire keyed known' => exact update (other rfl keyed) _
  | release releases keyed | remove releases keyed =>
    rcases releases with rfl | rfl <;> exact update (other rfl keyed) _
  | clear => cases elsewhere.stays

/-! ## Objects -/

namespace Process

/-- An object is as it was, and no number of an object is given out again. -/
structure Leaves (id : ObjectId) (p p' : Process) : Prop where
  object : p'.object? id = p.object? id
  next : p.nextObject ≤ p'.nextObject

namespace Leaves

variable {id id' : ObjectId} {p p' p'' : Process}

theorem refl (id : ObjectId) (p : Process) : Leaves id p p := ⟨rfl, Nat.le_refl _⟩

theorem trans (first : Leaves id p p') (second : Leaves id p' p'') : Leaves id p p'' :=
  ⟨second.object.trans first.object, first.next.trans second.next⟩

theorem hosted (p : Process) (host : Host) : Leaves id p { p with host } := ⟨rfl, Nat.le_refl _⟩

theorem after {α : Type} (p : Process) (x : HostM α) : Leaves id p (p.after x) := .hosted p _

theorem reported (p : Process) (event : LogEvent) : Leaves id p (p.reported event) := .hosted p _

/-- What happens to another entry of the table. -/
theorem inserted (p : Process) (host : Host) (ne : id ≠ id') (sh : Shared) :
    Leaves id p { p with host, objects := p.objects.insert id' sh } where
  object := by simp only [object?, Table.get?_insert_of_ne _ _ ne]
  next := Nat.le_refl _

theorem erased (p : Process) (host : Host) (ne : id ≠ id') :
    Leaves id p { p with host, objects := p.objects.erase id' } where
  object := by simp only [object?, Table.get?_erase, if_neg ne]
  next := Nat.le_refl _

/-- The holders of an object are not part of it. -/
theorem recounted (p : Process) {sh : Shared} (held : p.objects.get? id' = some sh) (n : Nat) :
    Leaves id p { p with objects := p.objects.insert id' { sh with holders := n } } where
  object := by
    by_cases eq : id = id'
    · subst eq
      simp only [object?, Table.get?_insert_self, held, Option.map_some]
    · simp only [object?, Table.get?_insert_of_ne _ _ eq]
  next := Nat.le_refl _

theorem adopted (below : id < p.nextObject) (o : BufferObject) : Leaves id p (p.adopted o) where
  object := (inserted p p.host (Nat.ne_of_lt below) ⟨o, 1⟩).object
  next := Nat.le_succ _

theorem onObject {α : Type} (p : Process) (ne : id ≠ id') (x : ObjectM α) :
    Leaves id p (onObject id' x p).2 := by
  cases held : p.objects.get? id' with
  | none =>
    rw [onObject_none held]
    exact .refl id p
  | some sh =>
    rw [onObject_some held]
    exact .inserted p _ ne _

theorem destroyed (p : Process) (ne : id ≠ id') : Leaves id p (p.destroyed id') :=
  .onObject p ne _

theorem shared (p : Process) (id' : ObjectId) : Leaves id p (share id' p).2 := by
  rw [share_run]
  cases held : p.objects.get? id' with
  | none => exact .refl id p
  | some sh => exact .recounted p held _

theorem released (p : Process) (ne : id ≠ id') : Leaves id p (p.released id') := by
  obtain ⟨-, eq⟩ | ⟨o, n, held, eq⟩ | ⟨o, n, -, -, eq⟩ := p.released_cases id' <;> rw [eq]
  · exact .refl id p
  · exact .recounted p held _
  · exact .erased p _ ne

/-- An object that others hold as well survives one of them letting go. -/
theorem one_less {sh : Shared} (held : p.objects.get? id = some sh) (many : 2 ≤ sh.holders) :
    Leaves id p (p.released id) := by
  obtain ⟨o, holders⟩ := sh
  obtain ⟨n, rfl⟩ := Nat.exists_eq_add_of_le' many
  rw [released_shared held]
  exact .recounted p held _

end Leaves

end Process

/-! ## Calls of the allocator -/

namespace Allocator

open Process (Leaves)

variable {a : Allocator} {p : Process} {id : ObjectId}

theorem onContext_leaves {ε α : Type} (x : ExceptT ε ContextM α) :
    Leaves id p ((onContext x).run.run a p).2 := .hosted p _

theorem adopt_leaves (below : id < p.nextObject) {o : BufferObject} {key : MemoryRef}
    (keyed : o.descriptor.key? = some key) : Leaves id p ((adopt o).run.run a p).2 := by
  have ne : id ≠ p.nextObject := Nat.ne_of_lt below
  rw [adopt_run a p keyed]
  split
  · exact (Leaves.adopted below o).trans ((Leaves.reported _ _).trans (.released _ ne))
  · exact .adopted below o

theorem acquired_leaves (key : MemoryRef) : Leaves id p (a.acquired p key).2 := by
  unfold acquired
  split
  · exact .refl id p
  · exact .reported p _

/-- Releasing what is registered under a key concerns the object registered there. -/
theorem release_leaves {key : MemoryRef} (count : Nat)
    (other : ∀ e, a.registry.entries.get? key = some e → id ≠ e.object) :
    Leaves id p ((tryRegistry (Registry.release key count)).run.run a p).2 := by
  rw [run_tryRegistry, Registry.release_run]
  cases known : a.registry.entries.get? key with
  | none => exact .refl id p
  | some e =>
    by_cases left : count < e.references
    · simp only [left, if_true]
      exact .refl id p
    · simp only [left, if_false]
      have ne := other e known
      exact (Leaves.destroyed p ne).trans ((Leaves.reported _ _).trans (.released _ ne))

theorem create_leaves (below : id < p.nextObject) (width height : UInt32) (raw : Int32)
    (usage : Usage) : Leaves id p ((create width height raw usage).run.run a p).2 := by
  rw [create_run]
  split
  · exact .reported p _
  next format _ =>
  have started : Leaves id p ((onContext Context.ready).run.run a p).2 := onContext_leaves _
  rcases ready : (onContext Context.ready).run.run a p with ⟨⟨_ | r, a₁⟩, p₁⟩ <;> rw [ready] at started
  · exact started
  dsimp only
  rcases made : (BufferObject.create r.backend r.card width height format usage).run p₁.host
    with ⟨e | o, h⟩ <;> rw [attempt_eq made]
  · exact started.trans (.hosted p₁ h)
  have fresh := BufferObject.create_fresh (congrArg Prod.fst made)
  obtain ⟨key, keyed⟩ := Option.isSome_iff_exists.1 fresh.keyed
  have below₂ : id < ({ p₁ with host := h } : Process).nextObject := below.trans_le started.next
  have entered := (started.trans (.hosted p₁ h)).trans (adopt_leaves (a := a₁) below₂ keyed)
  dsimp only
  rcases adopting : (adopt o).run.run a₁ { p₁ with host := h } with ⟨⟨_ | _, a₂⟩, p₂⟩ <;>
    rw [adopting] at entered <;> exact entered

theorem register_leaves (below : id < p.nextObject) (d : Descriptor) :
    Leaves id p ((register d).run.run a p).2 := by
  rw [register_run]
  split
  · exact .refl id p
  next key keyed =>
  have started : Leaves id p ((onContext Context.ready).run.run a p).2 := onContext_leaves _
  rcases ready : (onContext Context.ready).run.run a p with ⟨⟨_ | r, a₁⟩, p₁⟩ <;> rw [ready] at started
  · exact started
  dsimp only
  split
  · exact started.trans (acquired_leaves key)
  rcases made : (BufferObject.importFrom r.backend r.card d).run p₁.host with ⟨e | o, h⟩ <;>
    rw [attempt_eq made]
  · exact started.trans (.hosted p₁ h)
  obtain ⟨-, descriptor⟩ := BufferObject.importFrom_fresh (congrArg Prod.fst made)
  have below₂ : id < ({ p₁ with host := h } : Process).nextObject := below.trans_le started.next
  have entered := (started.trans (.hosted p₁ h)).trans
    (adopt_leaves (a := a₁) below₂ (descriptor ▸ keyed))
  dsimp only
  rcases adopting : (adopt o).run.run a₁ { p₁ with host := h } with ⟨⟨_ | _, a₂⟩, p₂⟩ <;>
    rw [adopting] at entered
  · exact entered
  · exact entered.trans (acquired_leaves key)

theorem newObject_leaves (below : id < p.nextObject) (make : Ready → Attempt Error BufferObject) :
    Leaves id p ((Client.newObject make).run.run a p).2 := by
  rw [newObject_run]
  have started : Leaves id p ((onContext Context.ready).run.run a p).2 := onContext_leaves _
  rcases ready : (onContext Context.ready).run.run a p with ⟨⟨_ | r, a₁⟩, p₁⟩ <;> rw [ready] at started
  · exact started
  dsimp only
  rcases made : (make r).run p₁.host with ⟨e | o, h⟩ <;> rw [attempt_eq made]
  · exact started.trans (.hosted p₁ h)
  · have below₂ : id < ({ p₁ with host := h } : Process).nextObject := below.trans_le started.next
    exact (started.trans (.hosted p₁ h)).trans (.adopted below₂ o)

theorem newCard_leaves : Leaves id p (Client.newCard.run.run a p).2 := by
  rw [newCard_run]
  have started : Leaves id p ((onContext Context.ready).run.run a p).2 := onContext_leaves _
  rcases ready : (onContext Context.ready).run.run a p with ⟨⟨_ | r, a₁⟩, p₁⟩ <;> rw [ready] at started
  · exact started
  · exact started.trans (.after p₁ _)

section Addressed

variable {d : Descriptor} (other : ∀ key e, d.key? = some key →
  a.registry.entries.get? key = some e → id ≠ e.object)
include other

theorem unregister_leaves : Leaves id p ((unregister d).run.run a p).2 := by
  rw [unregister_run]
  split
  · exact .refl id p
  next key keyed =>
  split
  · exact .refl id p
  · exact release_leaves _ fun e known => other key e keyed known

theorem dropLocal_leaves : Leaves id p ((dropLocal d).run.run a p).2 := by
  rw [dropLocal_run]
  split
  · exact .refl id p
  · next key keyed => exact release_leaves 1 fun e known => other key e keyed known

/-- A descriptor designates the object registered under its key. -/
theorem lookup_ne {id' : ObjectId} (found : a.lookup d = .ok id') : id ≠ id' := by
  rw [a.lookup_eq {} []] at found
  split at found
  · next e known =>
    obtain ⟨key, keyed, known⟩ := Option.bind_eq_some_iff.1 known
    cases found
    exact other key e keyed known
  · cases found

theorem onBuffer_leaves {α : Type} (x : ExceptT Error ObjectM α) :
    Leaves id p ((onBuffer d x).run.run a p).2 := by
  rw [onBuffer_run]
  split
  · exact .refl id p
  · next found => exact .onObject p (lookup_ne other found) _

theorem unlock_leaves : Leaves id p ((unlock d).run a p).2 := by
  rw [unlock_run]
  split
  · next found => exact .onObject p (lookup_ne other found) _
  · exact .reported p _

end Addressed

theorem planes_leaves (d : Descriptor) : Leaves id p ((planes d).run.run a p).2 := by
  rw [planes_run]
  split <;> exact .refl id p

theorem hold_leaves (d : Descriptor) : Leaves id p ((hold d).run.run a p).2 := by
  rw [hold_run]
  split
  · exact .refl id p
  · exact .shared p _

end Allocator

/-! ## Calls of a client -/

namespace Client

open Process (Leaves)

variable {α : Type} {c : Client} {id : ObjectId}

theorem onAllocator_leaves {x : ExceptT Error AllocatorM α} (leaves : ∀ a, c.allocator = some a →
    Leaves id c.process (x.run.run a c.process).2) :
    Leaves id c.process (c.onAllocator x).2.process := by
  unfold onAllocator
  split
  · exact .refl id _
  · next a allocator => exact leaves a allocator

theorem holding_leaves {x : ExceptT Error AllocatorM ObjectId} (leaves : ∀ a, c.allocator = some a →
    Leaves id c.process (x.run.run a c.process).2) :
    Leaves id c.process (holding (c.onAllocator x)).2.process := by
  have left := onAllocator_leaves leaves
  unfold holding
  split <;> next eq => rwa [eq] at left

theorem onObject_leaves {id' : ObjectId} (ne : id ≠ id') (x : ExceptT Error ObjectM α) :
    Leaves id c.process (c.onObject id' x).2.process := by
  unfold onObject
  split
  · exact .onObject _ ne _
  · exact .refl id _

/-- A registered object is left by calls that are addressed to something else. -/
theorem step_leaves (inOrder : c.InOrder) {key : MemoryRef} {e : Registration}
    (known : c.registration? key = some e) {op : Operation} (elsewhere : op.Elsewhere key e.object) :
    Leaves e.object c.process (c.step op).2.process := by
  have below : e.object < c.process.nextObject := inOrder.consistent.entry_lt known
  -- A handle of another key designates another object.
  have other {d : Descriptor} (addressed : op.handle? = some d) (a : Allocator)
      (allocator : c.allocator = some a) (key' : MemoryRef) (e' : Registration)
      (keyed : d.key? = some key') (known' : a.registry.entries.get? key' = some e') :
      e.object ≠ e'.object := by
    intro same
    have known' : c.registration? key' = some e' := Option.bind_eq_some_iff.2 ⟨a, allocator, known'⟩
    obtain rfl := inOrder.consistent.key_inj known known' same
    exact elsewhere.handle d addressed keyed
  have object {id : ObjectId} (on : op.object? = some id) : e.object ≠ id := by
    rintro rfl
    exact elsewhere.object on
  cases op with
  | arm | script => exact .hosted _ _
  | create width height raw usage =>
    exact onAllocator_leaves fun a _ => Allocator.create_leaves below width height raw usage
  | register d => exact onAllocator_leaves fun a _ => Allocator.register_leaves below d
  | unregister d => exact onAllocator_leaves fun a is => Allocator.unregister_leaves (other rfl a is)
  | dropLocal d => exact onAllocator_leaves fun a is => Allocator.dropLocal_leaves (other rfl a is)
  | lock d usage region =>
    exact onAllocator_leaves fun a is => Allocator.onBuffer_leaves (other rfl a is) _
  | lockPlanar d usage region =>
    exact onAllocator_leaves fun a is => Allocator.onBuffer_leaves (other rfl a is) _
  | unlock d => exact onAllocator_leaves fun a is => Allocator.unlock_leaves (other rfl a is)
  | planes d => exact onAllocator_leaves fun a _ => Allocator.planes_leaves d
  | hold d => exact holding_leaves fun a _ => Allocator.hold_leaves d
  | ensureReady | authMagic | authenticate | acquireMaster | releaseMaster =>
    exact onAllocator_leaves fun a _ => Allocator.onContext_leaves _
  | holdCard =>
    have left : Leaves e.object c.process (c.onAllocator newCard).2.process :=
      onAllocator_leaves fun a _ => Allocator.newCard_leaves
    unfold step
    dsimp only
    split <;> next eq => rwa [eq] at left
  | dropAllocator => cases elsewhere.stays
  | createObject | importObject =>
    exact holding_leaves fun a _ => Allocator.newObject_leaves below _
  | lockObject | lockPlanarObject | unlockObject | attach => exact onObject_leaves (object rfl) _
  | share id =>
    unfold step
    dsimp only
    split
    · exact .shared _ id
    · exact .refl _ _
  | drop id =>
    unfold step
    dsimp only
    split
    · next held =>
      by_cases eq : e.object = id
      · subst eq
        obtain ⟨-, cell, found, -, -⟩ := inOrder.consistent.entry key e known
        obtain ⟨sh, there, rfl⟩ := Option.map_eq_some_iff.1 found
        -- The registry holds the object besides the client.
        have holders : sh.holders = c.holds.count e.object + 1 :=
          inOrder.consistent.registered key e sh.cell known found
        have held : 0 < c.holds.count e.object := List.count_pos_iff.2 held
        exact .one_less there (by omega)
      · exact .released _ eq
    · exact .refl _ _
  | dropCard card =>
    unfold step
    dsimp only
    split
    · exact .hosted _ _
    · exact .refl _ _

/-- A registration and its object are left by a run of calls that are addressed to something else. -/
theorem run_leaves (inOrder : c.InOrder) {key : MemoryRef} {e : Registration}
    (known : c.registration? key = some e) {calls : List Operation}
    (elsewhere : ∀ op ∈ calls, op.Elsewhere key e.object) :
    (c.run calls).registration? key = some e ∧ Leaves e.object c.process (c.run calls).process := by
  induction calls generalizing c with
  | nil => exact ⟨known, .refl _ _⟩
  | cons op calls ih =>
    obtain ⟨first, rest⟩ := List.forall_mem_cons.1 elsewhere
    have known' : (c.step op).2.registration? key = some e :=
      (step_keeps inOrder op).1.elsewhere known first
    obtain ⟨known'', left⟩ := ih (inOrder.step op) known' rest
    exact ⟨known'', (step_leaves inOrder known first).trans left⟩

end Client

/-! ## What the kernel has for a buffer -/

/-- What belongs to a buffer with that framebuffer is in both kernels: its handle, on the same memory,
its framebuffer, and its mapping. -/
structure Kernel.Retains (framebuffer : Option UInt32) (b : BackendBuffer) (k k' : Kernel) : Prop where
  handle : ∃ place, k.handles.get? b.handle = some place ∧ k'.handles.get? b.handle = some place
  framebuffer : ∀ id, framebuffer = some id → id ∈ k.framebuffers ∧ id ∈ k'.framebuffers
  mapping : ∀ m, b.mapping = some m → ∃ range, k.mappings.get? m.id = some range ∧
    k'.mappings.get? m.id = some range ∧ range.length = m.length

namespace Client

variable {s : Surroundings} {fd fd' : Int32} {l l' : Ledger} {c c' : Client} {id : ObjectId}
  {o : BufferObject} {b : BackendBuffer}

/-- What an object has is held, and there. -/
theorem Kept.holding (kept : c.Kept s fd l) (object : c.process.object? id = some o)
    (live : o.buffer = some b) : c.kernel.Audited s l ∧ ∃ a, l.holdings b.handle = some a ∧
      a.framebuffer = o.framebuffer ∧ a.mapping = b.mapping ∧ c.kernel.Keeps b.handle a := by
  obtain ⟨sh, held, rfl⟩ := Option.map_eq_some_iff.1 object
  obtain ⟨others, process⟩ := kept.process
  obtain ⟨size, -, holding⟩ := ((process.backed id sh held).entered b live).holding
  exact ⟨process.audited, _, holding, rfl, rfl, process.audited.bears.holding _ _ holding⟩

/-- What is there for an object before and after a run is the same: numbers are not given out again. -/
theorem Kept.retains (kept : c.Kept s fd l) (kept' : c'.Kept s fd' l')
    (older : c.kernel.Older c'.kernel) (object : c.process.object? id = some o)
    (object' : c'.process.object? id = some o) (live : o.buffer = some b) :
    Kernel.Retains o.framebuffer b c.kernel c'.kernel := by
  obtain ⟨audited, a, holding, framebuffer, mapping, keeps⟩ := kept.holding object live
  obtain ⟨-, a', -, framebuffer', mapping', keeps'⟩ := kept'.holding object' live
  constructor
  · obtain ⟨place, _, held, -⟩ := keeps'.object
    have there' := ((Kernel.held_eq_some _).1 held).1
    have spent := audited.spent_of_has (Ledger.has_handle.2 ⟨a, holding⟩)
    exact ⟨place, older.handles b.handle place spent there', there'⟩
  · intro id has
    exact ⟨keeps.framebuffer id (framebuffer.trans has), keeps'.framebuffer id (framebuffer'.trans has)⟩
  · intro m has
    obtain ⟨range, there', length, -⟩ := keeps'.mapping m (mapping'.trans has)
    have held : l.Has (.mapping m.id) :=
      .inr ⟨b.handle, a, holding, m, mapping.trans has, rfl⟩
    exact ⟨range, older.mappings m.id range (audited.spent_of_has held) there', there', length⟩

/-! ## Runs -/

/-- A registered buffer is as it was: the same object is registered, with as many references, its locks,
its framebuffer, its mapping and its handle are the same, and the kernel has them still. -/
structure Untouched (key : MemoryRef) (e : Registration) (c c' : Client) : Prop where
  known : c.registration? key = some e
  known' : c'.registration? key = some e
  buffer : ∃ o b, c.process.object? e.object = some o ∧ c'.process.object? e.object = some o ∧
    o.buffer = some b ∧ Kernel.Retains o.framebuffer b c.kernel c'.kernel

/-- Calls that are addressed to other buffers, and calls that make new ones, leave a registered buffer
untouched, in every state a client can get to and whatever fails. -/
theorem neighbours_untouched (w : World) (script : Script) {opener : Opener} (tidy : opener.Tidy)
    (leads : opener.Leads) {table : BackendTable} (dumb : table.AllDumb) {before calls : List Operation}
    {key : MemoryRef} {e : Registration} :
    let c := (start (w.process script).host opener table).run before
    c.registration? key = some e → (∀ op ∈ calls, op.Elsewhere key e.object) →
      Untouched key e c (c.run calls) := by
  intro c known elsewhere
  have inOrder : c.InOrder := (start_inOrder _ opener table).run before
  obtain ⟨fd, l, kept⟩ : ∃ fd l, c.Kept w.surroundings fd l :=
    (start_kept w.kernel_audited tidy dumb 0).run before
  obtain ⟨fd', l', kept'⟩ := kept.run calls
  have served : c.Served := (run_carries _ before (start_served _ leads dumb)).1
  obtain ⟨known', left⟩ := run_leaves inOrder known elsewhere
  obtain ⟨-, cell, found, -, live⟩ := inOrder.consistent.entry key e known
  obtain ⟨sh, held, rfl⟩ := Option.map_eq_some_iff.1 found
  obtain ⟨b, live⟩ := Option.isSome_iff_exists.1 live
  have object : c.process.object? e.object = some sh.object := congrArg (Option.map _) held
  have object' := left.object.trans object
  have older := (c.run_carries calls served).2.older
  exact ⟨known, known', sh.object, b, object, object', live,
    kept.retains kept' older object object' live⟩

/-- A client in a world where another process has made the object 7 and handed over a dma-buf, and where
the kernel gives out the name 7 once more. The client has attached a framebuffer to the object and locked
it, and has registered the dma-buf. -/
def crowded : Client :=
  let w : World :=
    { cards := [{ driver := [118, 107, 109, 115] }], objects := [{ name := 7, size := 4096 }]
      dmabufs := [{ fd := 2000, size := 4096 }], nextName := 7 }
  (start (w.process {}).host (Opener.ofConfig { path := "/dev/dri/card0" }).reporting .standard).run
    [.register received, .hold received, .attach 0,
     .lock received .swReadOften { width := 16, height := 16 },
     .register { received with memory := some (.prime 2000) }]

/-- A new buffer collides with the registered one, and the other one is locked and goes. -/
def bustling : List Operation :=
  let given : Descriptor := { received with memory := some (.prime 2000) }
  [.create 16 16 1 displayed, .lock given .swReadOften { width := 16, height := 16 }, .unregister given]

theorem bustling_untouched :
    (crowded.step (.create 16 16 1 displayed)).1.isOk = false ∧
      ((crowded.run bustling).process.objects.get? 1).isNone ∧
      crowded.registration? (.name 7) = some ⟨0, 2⟩ ∧
      (∀ op ∈ bustling, op.Elsewhere (.name 7) 0) ∧
      Untouched (.name 7) ⟨0, 2⟩ crowded (crowded.run bustling) := by
  have known : crowded.registration? (.name 7) = some ⟨0, 2⟩ := by decide +kernel
  have elsewhere : ∀ op ∈ bustling, op.Elsewhere (.name 7) 0 := by
    unfold bustling
    simp only [List.forall_mem_cons]
    refine ⟨⟨nofun, nofun, rfl⟩, ⟨?_, nofun, rfl⟩, ⟨?_, nofun, rfl⟩, nofun⟩ <;>
      rintro _ ⟨⟩ <;> decide
  refine ⟨by decide +kernel, by decide +kernel, known, elsewhere, ?_⟩
  exact neighbours_untouched _ {} (Opener.ofConfig_tidy { path := "/dev/dri/card0" }).reporting
    (Opener.ofConfig_leads { path := "/dev/dri/card0" }).reporting BackendTable.standard_allDumb known
    elsewhere

end Client

end GraphicsBuffers

import GraphicsBuffers.Proofs.Allocators
import GraphicsBuffers.Proofs.Books
import GraphicsBuffers.Proofs.Contexts
/-!
# How calls keep the books

Every call of a client makes one of the moves of `Books.Moves` (`Client.step_keeps`), and so the
books of every client stay in order (`Client.InOrder.run`).
-/

namespace GraphicsBuffers

open Function (update)

/-! ## Objects -/

/-- An object stays the same but for its locks, its framebuffer and the state of its buffer. -/
structure BufferObject.Same (o o' : BufferObject) : Prop where
  descriptor : o'.descriptor = o.descriptor
  imported : o'.imported = o.imported
  backend : o'.backend = o.backend
  card : o'.card = o.card
  live : o'.buffer.isSome = o.buffer.isSome

namespace BufferObject

variable (o : BufferObject) (h : Host)

theorem Same.refl : o.Same o := ⟨rfl, rfl, rfl, rfl, rfl⟩

theorem attachFramebuffer_same : o.Same (attachFramebuffer.run.run o h).1.2 := by
  rw [attachFramebuffer_object]
  exact ⟨rfl, rfl, rfl, rfl, rfl⟩

theorem lockDialogue_same (usage : Usage) (region : Region) (backend : Backend) :
    o.Same ((lockDialogue o usage region).hold backend h).object := by
  unfold lockDialogue
  dsimp only
  split
  · exact .refl o
  · split
    · exact .refl o
    · split
      · exact .refl o
      · next buffer found =>
        have live : o.buffer.isSome := by rw [found]; rfl
        split
        · simp only [Dialogue.hold]
          rcases (backend.map region _).run.run buffer h with ⟨⟨_ | _, _⟩, _⟩ <;>
            exact ⟨rfl, rfl, rfl, rfl, live.symm⟩
        · exact ⟨rfl, rfl, rfl, rfl, rfl⟩

theorem lock_same (usage : Usage) (region : Region) :
    o.Same ((lock usage region).run.run o h).1.2 := by
  rw [lock_run]
  exact lockDialogue_same o h usage region o.backend

theorem lockPlanar_same (usage : Usage) (region : Region) :
    o.Same ((lockPlanar usage region).run.run o h).1.2 := by
  rw [lockPlanar_run]
  unfold lockPlanarDialogue
  dsimp only
  split
  · exact .refl o
  · split
    · exact .refl o
    · rw [Dialogue.hold_answering]
      exact lockDialogue_same o h usage region o.backend

theorem unlock_same : o.Same (unlock.run o h).1.2 := by
  rw [unlock_run]
  unfold unlockDialogue
  split
  · exact .refl o
  · split
    · next buffer found =>
      have live : o.buffer.isSome := by rw [found]; rfl
      split
      · exact ⟨rfl, rfl, rfl, rfl, live.symm⟩
      · exact ⟨rfl, rfl, rfl, rfl, rfl⟩
    · exact ⟨rfl, rfl, rfl, rfl, rfl⟩

end BufferObject

/-! ## Processes -/

namespace Process

variable (p : Process) (id : ObjectId)

theorem cells_insert {s : Shared} :
    ({ p with objects := p.objects.insert id s } : Process).cells =
      update p.cells id (some s.cell) := by
  funext id'
  simp only [cells, Table.get?_insert, Function.update_apply]
  split <;> rfl

theorem cells_erase :
    ({ p with objects := p.objects.erase id } : Process).cells = update p.cells id none := by
  funext id'
  simp only [cells, Table.get?_erase, Function.update_apply]
  split <;> rfl

/-- A computation on an object that leaves it the same leaves the books as they are. -/
theorem cells_onObject {α : Type} {x : ObjectM α}
    (same : ∀ (o : BufferObject) h, o.Same (x.run o h).1.2) :
    (onObject id x p).2.cells = p.cells := by
  cases held : p.objects.get? id with
  | none => rw [onObject_none held]
  | some s =>
    rw [onObject_some held]
    have := same s.object p.host
    refine (cells_insert _ id).trans ?_
    rw [Shared.cell, this.descriptor, this.imported, this.live]
    exact Function.update_eq_self_iff.2 (by rw [cells, held]; rfl)

theorem nextObject_onObject {α : Type} (x : ObjectM α) :
    (onObject id x p).2.nextObject = p.nextObject := by
  cases held : p.objects.get? id with
  | none => rw [onObject_none held]
  | some s => rw [onObject_some held]

theorem cells_destroyed : (p.destroyed id).cells =
    update p.cells id ((p.cells id).map Cell.destroyed) := by
  unfold destroyed
  cases held : p.objects.get? id with
  | none =>
    rw [onObject_none held, cells, held]
    exact (Function.update_eq_self_iff.2 (by rw [cells, held]; rfl)).symm
  | some s =>
    rw [onObject_some held]
    refine (cells_insert _ id).trans ?_
    have : p.cells id = some s.cell := by rw [cells, held]; rfl
    rw [this, BufferObject.destroy_run]
    cases live : s.object.buffer with
    | none => simp [Shared.cell, Cell.destroyed, live]
    | some buffer => rfl

theorem nextObject_destroyed : (p.destroyed id).nextObject = p.nextObject :=
  p.nextObject_onObject id _

theorem cells_released : (p.released id).cells =
    update p.cells id ((p.cells id).bind Cell.letGo) := by
  obtain ⟨held, eq⟩ | ⟨o, n, held, eq⟩ | ⟨o, n, held, few, eq⟩ := p.released_cases id
  · rw [eq, cells, held]
    exact (Function.update_eq_self_iff.2 (by rw [cells, held]; rfl)).symm
  · rw [eq, cells_insert, cells, held]
    rfl
  · rw [eq, cells, held]
    obtain rfl | rfl : n = 0 ∨ n = 1 := by omega
    all_goals exact cells_erase _ id

theorem nextObject_released : (p.released id).nextObject = p.nextObject := by
  obtain ⟨-, eq⟩ | ⟨o, n, -, eq⟩ | ⟨o, n, -, -, eq⟩ := p.released_cases id <;> rw [eq]
  rfl

theorem cells_share : (share id p).2.cells =
    update p.cells id ((p.cells id).map fun cell => { cell with holders := cell.holders + 1 }) := by
  rw [share_run]
  cases held : p.objects.get? id with
  | none =>
    rw [cells, held]
    exact (Function.update_eq_self_iff.2 (by rw [cells, held]; rfl)).symm
  | some s =>
    dsimp only
    rw [cells_insert, cells, held]
    rfl

theorem nextObject_share : (share id p).2.nextObject = p.nextObject := by
  rw [share_run]
  cases p.objects.get? id <;> rfl

theorem cells_adopted (o : BufferObject) : (p.adopted o).cells =
    update p.cells p.nextObject (some (Shared.cell ⟨o, 1⟩)) :=
  cells_insert (p.after o.card.hold) p.nextObject

/-- Letting go of several objects, each once. -/
theorem cells_forM_release {κ : Type} (entries : List (κ × Registration))
    (once : (entries.map fun e => e.2.object).Nodup) :
    ((entries.forM fun e => release e.2.object : ProcessM Unit).run p).2.cells = fun id =>
      if id ∈ entries.map (fun e => e.2.object) then (p.cells id).bind Cell.letGo
      else p.cells id := by
  induction entries generalizing p with
  | nil => rfl
  | cons e entries ih =>
    obtain ⟨new, once⟩ := List.nodup_cons.1 once
    have step : ((e :: entries).forM fun e => release e.2.object : ProcessM Unit).run p =
        (entries.forM fun e => release e.2.object : ProcessM Unit).run (p.released e.2.object) := rfl
    rw [step, ih _ once, cells_released]
    funext id
    by_cases eq : id = e.2.object
    · subst eq
      rw [if_neg new, Function.update_self, List.map_cons, if_pos List.mem_cons_self]
    · rw [Function.update_of_ne eq]
      simp only [List.map_cons, List.mem_cons, eq, false_or]

theorem nextObject_forM_release {κ : Type} (entries : List (κ × Registration)) :
    ((entries.forM fun e => release e.2.object : ProcessM Unit).run p).2.nextObject =
      p.nextObject := by
  induction entries generalizing p with
  | nil => rfl
  | cons e entries ih => exact (ih (p.released e.2.object)).trans (nextObject_released ..)

end Process

/-! ## The allocator -/

namespace Allocator

open Books

/-- Nothing is registered before the context is ready. -/
def Started (a : Allocator) : Prop :=
  ∀ key e, a.registry.entries.get? key = some e → ∃ r, a.context.state = .ready r

variable {a a' : Allocator} {p p' : Process} {holds : List ObjectId}

theorem Started.of_ready {r : Ready} (ready : a.context.state = .ready r) : a.Started :=
  fun _ _ _ => ⟨r, ready⟩

theorem Started.later (started : a.Started) (registry : a'.registry = a.registry)
    (later : a.context.Later a'.context) : a'.Started := by
  intro key e known
  obtain ⟨r, ready⟩ := started key e (registry ▸ known)
  obtain ⟨r', ready', -⟩ := later.ready r ready
  exact ⟨r', ready'⟩

/-- Releasing can only leave less registered. -/
theorem Started.less (started : a.Started) (context : a'.context = a.context)
    (less : ∀ key e, a'.registry.entries.get? key = some e →
      (a.registry.entries.get? key).isSome) : a'.Started := by
  intro key e known
  obtain ⟨e', known'⟩ := Option.isSome_iff_exists.1 (less key e known)
  exact context ▸ started key e' known'

/-! ### Parts of calls -/

theorem onContext_ready {r : Ready}
    (eq : (onContext Context.ready).run.run a p = ((.ok r, a'), p')) :
    a'.context.state = .ready r := by
  rw [run_onContext] at eq
  rcases ready : Context.ready.run.run a.context p.host with ⟨⟨outcome, context⟩, host⟩
  rw [ready] at eq
  cases eq
  exact Context.ready_ok ready

theorem onContext_books (holds : List ObjectId) {ε α : Type} {x : ExceptT ε ContextM α}
    {outcome : Except ε α}
    (eq : (onContext x).run.run a p = ((outcome, a'), p')) : a'.books p' holds = a.books p holds :=
  (congrArg (fun result => result.1.2.books result.2 holds) eq).symm

theorem onContext_started {ε α : Type} {x : ExceptT ε ContextM α} (started : a.Started)
    (later : ∀ (c : Context) h, c.Later (x.run.run c h).1.2) :
    ((onContext x).run.run a p).1.2.Started :=
  started.later rfl (later _ _)

theorem ready_started {outcome : Except Error Ready} (started : a.Started)
    (eq : (onContext Context.ready).run.run a p = ((outcome, a'), p')) : a'.Started := by
  have : ((onContext Context.ready).run.run a p).1.2.Started :=
    onContext_started started fun c h => Context.ready_later rfl
  rwa [eq] at this

theorem attempt_books {ε α : Type} {x : Attempt ε α} {outcome : Except ε α}
    (eq : (attempt x).run.run a p = ((outcome, a'), p')) :
    (x.run p.host).1 = outcome ∧ a' = a ∧ a'.books p' holds = a.books p holds :=
  ⟨congrArg (fun result => result.1.1) eq, (congrArg (fun result => result.1.2) eq).symm,
    (congrArg (fun result => result.1.2.books result.2 holds) eq).symm⟩

/-- Registering a new object. -/
theorem adopt_books (consistent : (a.books p holds).Consistent) {o : BufferObject}
    {key : MemoryRef} (idle : o.Idle) (keyed : o.descriptor.key? = some key)
    {outcome : Except Error Unit} (eq : (adopt o).run.run a p = ((outcome, a'), p')) :
    a'.context = a.context ∧ match outcome with
      | .ok _ => (a.books p holds).registrations key = none ∧
          a'.books p' holds = (a.books p holds).enter key o.imported 1
      | .error _ => a'.books p' holds = (a.books p holds).skip := by
  rw [adopt_run a p keyed] at eq
  have cell : Shared.cell ⟨o, 1⟩ = ⟨some key, o.imported, true, 1⟩ := by
    rw [Shared.cell, keyed, idle.live]
  by_cases taken : a.registry.contains key
  · rw [if_pos taken] at eq
    cases eq
    refine ⟨rfl, Books.ext rfl ?_ ?_ rfl⟩
    · refine (Process.cells_released ..).trans ?_
      have fresh : p.cells p.nextObject = none := consistent.fresh
      have : ((p.adopted o).reported (.alreadyRegistered key)).cells = _ := p.cells_adopted o
      rw [this, Function.update_self, Function.update_idem]
      exact Function.update_eq_self_iff.2 fresh.symm
    · exact (Process.nextObject_released ..).trans rfl
  · rw [if_neg taken] at eq
    cases eq
    have free : a.registry.entries.get? key = none := by
      simpa [Registry.contains, Table.contains] using taken
    refine ⟨rfl, free, Books.ext ?_ ?_ rfl rfl⟩
    · funext key'
      exact (Table.get?_insert ..).trans (Function.update_apply ..).symm
    · exact (p.cells_adopted o).trans (by rw [cell]; rfl)

/-- Counting a reference. -/
theorem acquired_books (p : Process) (holds : List ObjectId) {key : MemoryRef} {e : Registration}
    (known : a.registry.entries.get? key = some e) :
    (a.acquired p key).1.1 = .ok () ∧
      (a.acquired p key).1.2.context = a.context ∧
      (a.acquired p key).1.2.books (a.acquired p key).2 holds =
        (a.books p holds).recount key e (e.references + 1) := by
  unfold acquired
  rw [known]
  refine ⟨rfl, rfl, Books.ext ?_ rfl rfl rfl⟩
  funext key'
  exact (Table.get?_insert ..).trans (Function.update_apply ..).symm

/-- Taking references away. -/
theorem release_books (holds : List ObjectId) {key : MemoryRef} {charge : Nat}
    {outcome : Except Error Bool}
    (eq : (tryRegistry (Registry.release key charge)).run.run a p = ((outcome, a'), p')) :
    a'.context = a.context ∧ match a.registry.entries.get? key with
      | none => outcome = .error .invalidHandle ∧ a'.books p' holds = a.books p holds
      | some e => outcome.isOk ∧ a'.books p' holds =
          if charge < e.references then (a.books p holds).recount key e (e.references - charge)
          else (a.books p holds).remove key e.object := by
  rw [run_tryRegistry, Registry.release_run] at eq
  cases known : a.registry.entries.get? key with
  | none =>
    simp only [known] at eq
    cases eq
    exact ⟨rfl, rfl, rfl⟩
  | some e =>
    simp only [known] at eq
    by_cases left : charge < e.references
    · simp only [left, if_true] at eq ⊢
      cases eq
      refine ⟨rfl, rfl, Books.ext ?_ rfl rfl rfl⟩
      funext key'
      exact (Table.get?_insert ..).trans (Function.update_apply ..).symm
    · simp only [left, if_false] at eq ⊢
      cases eq
      refine ⟨rfl, rfl, Books.ext ?_ ?_ ?_ rfl⟩
      · funext key'
        exact (Table.get?_erase ..).trans (Function.update_apply ..).symm
      · refine (Process.cells_released ..).trans ?_
        have : ((p.destroyed e.object).reported (.unregistered key)).cells = _ :=
          p.cells_destroyed e.object
        rw [this, Function.update_self, Function.update_idem, Option.bind_map]
        rfl
      · exact (Process.nextObject_released ..).trans (Process.nextObject_destroyed ..)

/-! ### Whole calls -/

theorem create_moves (consistent : (a.books p holds).Consistent) (started : a.Started)
    (width height : UInt32) (raw : Int32) (usage : Usage) :
    let result := (create width height raw usage).run.run a p
    (a.books p holds).Moves (.create width height raw usage)
      (result.1.1.map fun (d, pixelStride) => .created d pixelStride)
      (result.1.2.books result.2 holds) ∧ result.1.2.Started := by
  dsimp only
  rw [create_run]
  split
  · exact ⟨.quiet rfl, started⟩
  next format known =>
  rcases ready : (onContext Context.ready).run.run a p with ⟨⟨_ | r, a₁⟩, p₁⟩
  · rw [← onContext_books holds ready]
    exact ⟨.quiet rfl, ready_started started ready⟩
  rw [← onContext_books holds ready] at consistent ⊢
  dsimp only
  rcases made : (attempt _).run.run a₁ p₁ with ⟨⟨_ | o, a₂⟩, p₂⟩ <;>
    obtain ⟨born, rfl, same⟩ := attempt_books made
  · rw [← same]
    exact ⟨.quiet rfl, .of_ready (onContext_ready ready)⟩
  have fresh := BufferObject.create_fresh born
  obtain ⟨key, keyed⟩ := Option.isSome_iff_exists.1 fresh.keyed
  rw [← same] at consistent ⊢
  dsimp only
  rcases adopting : (adopt o).run.run a₂ p₂ with ⟨⟨_ | _, a₃⟩, p₃⟩ <;>
    obtain ⟨context, adopted⟩ := adopt_books consistent fresh.idle keyed adopting <;>
    have started₃ : a₃.Started := .of_ready (context ▸ onContext_ready ready)
  · rw [adopted]
    exact ⟨.skip rfl, started₃⟩
  · obtain ⟨free, entered⟩ := adopted
    dsimp only
    rw [entered, fresh.imported]
    exact ⟨.create keyed free, started₃⟩

theorem register_moves (consistent : (a.books p holds).Consistent) (started : a.Started)
    (d : Descriptor) :
    let result := (register d).run.run a p
    (a.books p holds).Moves (.register d) (result.1.1.map fun _ => .done)
      (result.1.2.books result.2 holds) ∧ result.1.2.Started := by
  dsimp only
  rw [register_run]
  split
  · next unkeyed => exact ⟨.quiet ⟨rfl, by rw [lookup?, unkeyed]; rfl⟩, started⟩
  next key keyed =>
  have lookup (a : Allocator) (p : Process) :
      (a.books p holds).lookup? d = a.registry.entries.get? key := by
    rw [lookup?, keyed]
    rfl
  rcases ready : (onContext Context.ready).run.run a p with ⟨⟨_ | r, a₁⟩, p₁⟩
  · rw [← onContext_books holds ready]
    refine ⟨.quiet ⟨rfl, ?_⟩, ready_started started ready⟩
    rw [onContext_books holds ready, lookup]
    -- What has been started answers.
    cases known : a.registry.entries.get? key with
    | none => rfl
    | some e =>
      obtain ⟨r, is⟩ := started key e known
      rw [run_onContext, Context.ready_run_ready is] at ready
      cases ready
  rw [← onContext_books holds ready] at consistent ⊢
  have started₁ : a₁.Started := .of_ready (onContext_ready ready)
  dsimp only
  by_cases taken : a₁.registry.contains key
  · rw [if_pos taken]
    obtain ⟨e, known⟩ := Option.isSome_iff_exists.1 taken
    obtain ⟨outcome, context, books⟩ := acquired_books p₁ holds known
    rw [outcome, books]
    exact ⟨.acquire keyed known, .of_ready (context ▸ onContext_ready ready)⟩
  rw [if_neg taken]
  have free : (a₁.books p₁ holds).lookup? d = none := by
    rw [lookup]
    simpa [Registry.contains, Table.contains] using taken
  rcases made : (attempt _).run.run a₁ p₁ with ⟨⟨_ | o, a₂⟩, p₂⟩ <;>
    obtain ⟨born, rfl, same⟩ := attempt_books made
  · rw [← same]
    exact ⟨.quiet ⟨rfl, free⟩, started₁⟩
  obtain ⟨fresh, descriptor⟩ := BufferObject.importFrom_fresh born
  rw [← same] at consistent free ⊢
  dsimp only
  rcases adopting : (adopt o).run.run a₂ p₂ with ⟨⟨_ | _, a₃⟩, p₃⟩ <;>
    obtain ⟨context, adopted⟩ := adopt_books consistent fresh.idle (descriptor ▸ keyed) adopting <;>
    have ready₃ : a₃.context.state = .ready r := context ▸ onContext_ready ready
  · rw [adopted]
    exact ⟨.skip ⟨rfl, free⟩, .of_ready ready₃⟩
  obtain ⟨free, entered⟩ := adopted
  have known : a₃.registry.entries.get? key = some ⟨p₂.nextObject, 1⟩ :=
    (congrFun (congrArg Books.registrations entered) key).trans (Function.update_self ..)
  obtain ⟨outcome, context, books⟩ := acquired_books p₃ holds known
  have counted : ((a₂.books p₂ holds).enter key true 1).recount key ⟨p₂.nextObject, 1⟩ 2 =
      (a₂.books p₂ holds).enter key true 2 := Books.ext (Function.update_idem ..) rfl rfl rfl
  dsimp only
  rw [outcome, books, entered, fresh.imported, counted]
  exact ⟨.import keyed free, .of_ready (context ▸ ready₃)⟩

theorem Started.release {key : MemoryRef} {charge : Nat} {outcome : Except Error Bool}
    (started : a.Started)
    (eq : (tryRegistry (Registry.release key charge)).run.run a p = ((outcome, a'), p')) :
    a'.Started := by
  rw [run_tryRegistry, Registry.release_run] at eq
  cases known : a.registry.entries.get? key with
  | none =>
    simp only [known] at eq
    cases eq
    exact started
  | some e =>
    by_cases left : charge < e.references <;>
      simp only [known, left, if_true, if_false] at eq <;>
      cases eq <;> refine started.less rfl fun key' e' known' => ?_
    · rw [Table.get?_insert] at known'
      split at known'
      · next same => rw [same, known]; rfl
      · rw [known']; rfl
    · rw [Table.get?_erase] at known'
      split at known'
      · cases known'
      · rw [known']; rfl

/-- Releasing what a descriptor designates. -/
theorem release_moves (consistent : (a.books p holds).Consistent) {op : Operation} {d : Descriptor}
    {key : MemoryRef} (releases : op = .unregister d ∨ op = .dropLocal d)
    (keyed : d.key? = some key) {n : Nat}
    (charged : ∀ e cell, a.registry.entries.get? key = some e → p.cells e.object = some cell →
      n = charge cell.imported op) {outcome : Except Error Bool}
    (eq : (tryRegistry (Registry.release key n)).run.run a p = ((outcome, a'), p')) :
    (a.books p holds).Moves op (outcome.map fun _ => .done) (a'.books p' holds) := by
  obtain ⟨-, released⟩ := release_books holds eq
  cases known : a.registry.entries.get? key with
  | none =>
    simp only [known] at released
    rw [released.1, released.2]
    have unknown : (a.books p holds).lookup? d = none := by
      rw [lookup?, keyed]
      exact known
    rcases releases with rfl | rfl <;> exact .quiet ⟨rfl, unknown⟩
  | some e =>
    simp only [known] at released
    obtain ⟨ok, released⟩ := released
    obtain ⟨-, cell, found, -⟩ := consistent.entry key e known
    have n_eq := charged e cell known found
    obtain ⟨b, rfl⟩ : ∃ b, outcome = .ok b := by
      cases outcome with
      | error => cases ok
      | ok b => exact ⟨b, rfl⟩
    rw [released, n_eq]
    split
    · next left => exact .release releases keyed known found left
    · next none => exact .remove releases keyed known found (Nat.le_of_not_lt none)

theorem unregister_moves (consistent : (a.books p holds).Consistent) (started : a.Started)
    (d : Descriptor) :
    let result := (unregister d).run.run a p
    (a.books p holds).Moves (.unregister d) (result.1.1.map fun _ => .done)
      (result.1.2.books result.2 holds) ∧ result.1.2.Started := by
  dsimp only
  rw [unregister_run]
  split
  · next unkeyed => exact ⟨.quiet ⟨rfl, by rw [lookup?, unkeyed]; rfl⟩, started⟩
  next key keyed =>
  split
  · next unknown =>
    have unknown : a.registry.entries.get? key = none := by
      simpa [Registry.get?] using unknown
    refine ⟨.quiet ⟨rfl, ?_⟩, started⟩
    rw [lookup?, keyed]
    exact unknown
  next id known =>
  dsimp only
  rcases eq : (tryRegistry (Registry.release key _)).run.run a p with ⟨⟨outcome, a₁⟩, p₁⟩
  refine ⟨?_, started.release eq⟩
  have moves := release_moves consistent (.inl rfl) keyed ?_ eq
  · cases outcome <;> exact moves
  · intro e cell known' found
    have same : e.object = id := by
      simpa [Registry.get?, known'] using known
    obtain ⟨s, held, rfl⟩ := Option.map_eq_some_iff.1 found
    rw [Process.object?, ← same, held]
    rfl

theorem dropLocal_moves (consistent : (a.books p holds).Consistent) (started : a.Started)
    (d : Descriptor) :
    let result := (dropLocal d).run.run a p
    (a.books p holds).Moves (.dropLocal d) (result.1.1.map fun _ => .done)
      (result.1.2.books result.2 holds) ∧ result.1.2.Started := by
  dsimp only
  rw [dropLocal_run]
  split
  · next unkeyed => exact ⟨.quiet ⟨rfl, by rw [lookup?, unkeyed]; rfl⟩, started⟩
  next key keyed =>
  rcases eq : (tryRegistry (Registry.release key 1)).run.run a p with ⟨⟨outcome, a₁⟩, p₁⟩
  refine ⟨?_, started.release eq⟩
  have moves := release_moves consistent (.inr rfl) keyed (fun _ _ _ _ => rfl) eq
  cases outcome <;> exact moves

/-- The object that a descriptor designates is the one registered under its key. -/
theorem lookup_eq (p : Process) (holds : List ObjectId) (d : Descriptor) : a.lookup d =
    match (a.books p holds).lookup? d with
    | some e => .ok e.object
    | none => .error .invalidHandle := by
  unfold Allocator.lookup keyOf lookup?
  cases d.key? with
  | none => rfl
  | some key =>
    simp only [Option.bind_some, Registry.get?, books]
    cases known : a.registry.entries.get? key with
    | none => simp only [known, bind, Except.bind]; rfl
    | some e => simp only [known, bind, Except.bind]; rfl

/-- A call on a registered object that leaves it the same leaves the books as they are. -/
theorem onBuffer_books {α : Type} (d : Descriptor) {x : ExceptT Error ObjectM α}
    (same : ∀ (o : BufferObject) h, o.Same (x.run.run o h).1.2) :
    let result := (onBuffer d x).run.run a p
    result.1.2.books result.2 holds = a.books p holds ∧ result.1.2 = a := by
  dsimp only
  rw [onBuffer_run]
  split
  · exact ⟨rfl, rfl⟩
  · next id _ =>
    exact ⟨Books.ext rfl (p.cells_onObject id same) (p.nextObject_onObject id _) rfl, rfl⟩

theorem unlock_books (d : Descriptor) :
    ((unlock d).run a p).1.2.books ((unlock d).run a p).2 holds = a.books p holds ∧
      ((unlock d).run a p).1.2 = a := by
  rw [unlock_run]
  split
  · next id _ =>
    exact ⟨Books.ext rfl (p.cells_onObject id BufferObject.unlock_same) (p.nextObject_onObject id _)
      rfl, rfl⟩
  · exact ⟨rfl, rfl⟩

theorem hold_moves (d : Descriptor) :
    let result := (hold d).run.run a p
    (a.books p holds).Moves (.hold d) (result.1.1.map .object)
      (result.1.2.books result.2 (match result.1.1 with
        | .ok id => id :: holds
        | .error _ => holds)) ∧ result.1.2 = a := by
  dsimp only
  rw [hold_run, lookup_eq p holds]
  cases known : (a.books p holds).lookup? d with
  | none => exact ⟨.quiet ⟨rfl, known⟩, rfl⟩
  | some e =>
    refine ⟨?_, rfl⟩
    have : a.books (Process.share e.object p).2 (e.object :: holds) =
        (a.books p holds).share e.object :=
      Books.ext rfl (p.cells_share e.object) (p.nextObject_share e.object) rfl
    dsimp only
    rw [this]
    exact .hold known

/-- Making an object for the client. -/
theorem newObject_run (make : Ready → Attempt Error BufferObject) :
    (Client.newObject make).run.run a p = match (onContext Context.ready).run.run a p with
      | ((.error e, a), p) => ((.error e, a), p)
      | ((.ok r, a), p) => match (attempt (make r)).run.run a p with
        | ((.error e, a), p) => ((.error e, a), p)
        | ((.ok o, a), p) => ((.ok p.nextObject, a), p.adopted o) := by
  unfold Client.newObject
  rw [run_bind]
  rcases (onContext Context.ready).run.run a p with ⟨⟨_ | r, a⟩, p⟩
  · rfl
  · dsimp only
    rw [run_bind]
    rcases (attempt (make r)).run.run a p with ⟨⟨_ | o, a⟩, p⟩ <;> rfl

/-- Giving the client a hold on the card. -/
theorem newCard_run : Client.newCard.run.run a p =
    match (onContext Context.ready).run.run a p with
    | ((.error e, a), p) => ((.error e, a), p)
    | ((.ok r, a), p) => ((.ok r.card, a), p.after r.card.hold) := by
  unfold Client.newCard
  rw [run_bind]
  rcases (onContext Context.ready).run.run a p with ⟨⟨_ | r, a⟩, p⟩ <;> rfl

theorem newObject_moves (started : a.Started) {op : Operation}
    (makes : (∃ width height format usage, op = .createObject width height format usage) ∨
      ∃ d, op = .importObject d)
    (make : Ready → Attempt Error BufferObject) :
    let result := (Client.newObject make).run.run a p
    (a.books p holds).Moves op (result.1.1.map .object)
      (result.1.2.books result.2 (match result.1.1 with
        | .ok id => id :: holds
        | .error _ => holds)) ∧ result.1.2.Started := by
  have quiet (e : Error) : (a.books p holds).Quiet op (.error e) := by
    obtain ⟨_, _, _, _, rfl⟩ | ⟨_, rfl⟩ := makes <;> rfl
  dsimp only
  rw [newObject_run]
  rcases ready : (onContext Context.ready).run.run a p with ⟨⟨_ | r, a₁⟩, p₁⟩
  · rw [← onContext_books holds ready] at quiet ⊢
    exact ⟨.quiet (quiet _), ready_started started ready⟩
  rw [← onContext_books holds ready] at quiet ⊢
  dsimp only
  rcases made : (attempt _).run.run a₁ p₁ with ⟨⟨_ | o, a₂⟩, p₂⟩ <;>
    obtain ⟨-, rfl, same⟩ := attempt_books made <;>
    have started₂ : a₂.Started := .of_ready (onContext_ready ready)
  · rw [← same] at quiet ⊢
    exact ⟨.quiet (quiet _), started₂⟩
  refine ⟨?_, started₂⟩
  rw [← same]
  have : a₂.books (p₂.adopted o) (p₂.nextObject :: holds) =
      (a₂.books p₂ holds).own (Shared.cell ⟨o, 1⟩) := Books.ext rfl (p₂.cells_adopted o) rfl rfl
  dsimp only
  rw [this]
  exact .own makes

theorem clear_run (order : List MemoryRef) (r : Registry) : ((Registry.clear order).run r p).2 =
    (((r.entries.arranged order).forM fun e => Process.release e.2.object : ProcessM Unit).run p).2 := by
  have each (entries : List (MemoryRef × Registration)) (r : Registry) (p : Process) :
      ((entries.forM fun e => liftM (Process.release e.2.object) : RegistryM Unit).run r p).2 =
        ((entries.forM fun e => Process.release e.2.object : ProcessM Unit).run p).2 := by
    induction entries generalizing p with
    | nil => rfl
    | cons e entries ih => exact ih (p.released e.2.object)
  exact each (r.entries.arranged order) {} p

/-- When the allocator goes, so do the registry's holds. -/
theorem dispose_books (consistent : (a.books p holds).Consistent) (order : List MemoryRef) :
    let p' := ((dispose order).run a p).2
    (⟨fun _ => none, p'.cells, p'.nextObject, holds⟩ : Books) = (a.books p holds).clear := by
  classical
  intro p'
  have same := a.registry.entries.arranged_perm order
  have once : ((a.registry.entries.arranged order).map fun e => e.2.object).Nodup := by
    rw [(same.map _).nodup_iff]
    refine (List.Nodup.of_map _ a.registry.entries.distinct).map_on ?_
    rintro ⟨key, e⟩ known ⟨key', e'⟩ known' same
    have eq := consistent.key_inj (Table.mem_entries.1 known) (Table.mem_entries.1 known') same
    subst eq
    rw [Table.mem_entries] at known known'
    rw [Option.some.inj (known.symm.trans known')]
  simp only [p', dispose_run, clear_run]
  refine Books.ext rfl ?_ (Process.nextObject_forM_release ..) rfl
  refine (Process.cells_forM_release _ _ once).trans ?_
  funext id
  refine if_congr ?_ rfl rfl
  constructor
  · intro registered
    obtain ⟨⟨key, e⟩, known, rfl⟩ := List.mem_map.1 registered
    exact ⟨key, e, Table.mem_entries.1 (same.mem_iff.1 known), rfl⟩
  · rintro ⟨key, e, known, rfl⟩
    exact List.mem_map.2 ⟨(key, e), same.mem_iff.2 (Table.mem_entries.2 known), rfl⟩

end Allocator

/-! ## Clients -/

namespace Client

/-- The books are consistent, and nothing is registered before the context is ready. -/
structure InOrder (c : Client) : Prop where
  consistent : c.books.Consistent
  started : ∀ a, c.allocator = some a → a.Started

/-- What is to be shown of a call: it makes a move, and order in the context is kept. -/
def Keeps (c : Client) (op : Operation) (result : Except Error Reply × Client) : Prop :=
  c.books.Moves op result.1 result.2.books ∧ ∀ a, result.2.allocator = some a → a.Started

section Parts

variable {α : Type} {c : Client} {op : Operation}

/-- A call on the allocator: it makes a move of the books if there is an allocator, and without one
it fails. -/
theorem replying_keeps (inOrder : c.InOrder) {x : ExceptT Error AllocatorM α} {f : α → Reply}
    (gone : ∀ b : Books, (∀ d, b.lookup? d = none) → b.Quiet op (.error .invalidHandle))
    (h : ∀ a p, (a.books p c.holds).Consistent → a.Started →
      let result := x.run.run a p
      (a.books p c.holds).Moves op (result.1.1.map f) (result.1.2.books result.2 c.holds) ∧
        result.1.2.Started) :
    Keeps c op (replying f (c.onAllocator x)) := by
  obtain ⟨p, _ | a, holds, cards⟩ := c
  · exact ⟨.quiet (gone _ fun d => Option.bind_fun_none _), nofun⟩
  · obtain ⟨moves, started⟩ := h a p inOrder.consistent (inOrder.started a rfl)
    refine ⟨moves, ?_⟩
    rintro _ ⟨⟩
    exact started

theorem holding_keeps (inOrder : c.InOrder) {x : ExceptT Error AllocatorM ObjectId}
    (gone : ∀ b : Books, (∀ d, b.lookup? d = none) → b.Quiet op (.error .invalidHandle))
    (h : ∀ a p, a.Started →
      let result := x.run.run a p
      (a.books p c.holds).Moves op (result.1.1.map .object)
        (result.1.2.books result.2 (match result.1.1 with
          | .ok id => id :: c.holds
          | .error _ => c.holds)) ∧ result.1.2.Started) :
    Keeps c op (holding (c.onAllocator x)) := by
  obtain ⟨p, _ | a, holds, cards⟩ := c
  · exact ⟨.quiet (gone _ fun d => Option.bind_fun_none _), nofun⟩
  · have kept := h a p (inOrder.started a rfl)
    unfold onAllocator
    dsimp only at kept ⊢
    generalize x.run.run a p = result at kept
    rcases result with ⟨⟨_ | id, a'⟩, p'⟩ <;> refine ⟨kept.1, ?_⟩ <;> rintro _ ⟨⟩ <;> exact kept.2

/-- A call on the allocator that leaves the books as they are, whatever it answers. -/
theorem quiet_keeps (inOrder : c.InOrder) {x : ExceptT Error AllocatorM α} {f : α → Reply}
    (quiet : ∀ (b : Books) answer, b.Quiet op answer)
    (h : ∀ a p, a.Started → (x.run.run a p).1.2.books (x.run.run a p).2 c.holds =
      a.books p c.holds ∧ (x.run.run a p).1.2.Started) :
    Keeps c op (replying f (c.onAllocator x)) := by
  refine replying_keeps inOrder (fun b _ => quiet b _) fun a p _ started => ?_
  obtain ⟨same, started⟩ := h a p started
  refine ⟨?_, started⟩
  rw [same]
  exact .quiet (quiet _ _)

/-- A call on the context. -/
theorem context_keeps (inOrder : c.InOrder) {x : ExceptT Error ContextM α} {f : α → Reply}
    (quiet : ∀ (b : Books) answer, b.Quiet op answer)
    (later : ∀ (c : Context) h, c.Later (x.run.run c h).1.2) :
    Keeps c op (replying f (c.onAllocator (Allocator.onContext x))) :=
  quiet_keeps inOrder quiet fun _ _ started => ⟨rfl, Allocator.onContext_started started later⟩

/-- A call on a registered object that leaves it the same. -/
theorem onBuffer_keeps (inOrder : c.InOrder) {d : Descriptor} {x : ExceptT Error ObjectM α}
    {f : α → Reply} (quiet : ∀ (b : Books) answer, b.Quiet op answer)
    (same : ∀ (o : BufferObject) h, o.Same (x.run.run o h).1.2) :
    Keeps c op (replying f (c.onAllocator (Allocator.onBuffer d x))) := by
  refine quiet_keeps inOrder quiet fun a p started => ?_
  obtain ⟨books, allocator⟩ := Allocator.onBuffer_books (a := a) (p := p) d same
  exact ⟨books, allocator.symm ▸ started⟩

/-- A call on an object that leaves it the same. -/
theorem onObject_keeps (inOrder : c.InOrder) {id : ObjectId} {x : ExceptT Error ObjectM α}
    {f : α → Reply} (quiet : ∀ (b : Books) answer, b.Quiet op answer)
    (same : ∀ (o : BufferObject) h, o.Same (x.run.run o h).1.2) :
    Keeps c op (replying f (c.onObject id x)) := by
  unfold onObject
  split
  · have books : ({ c with process := (Process.onObject id x.run c.process).2 } : Client).books =
        c.books := Books.ext rfl (Process.cells_onObject _ id same)
          (Process.nextObject_onObject _ id _) rfl
    exact ⟨.unchanged books (quiet _ _), inOrder.started⟩
  · exact ⟨.quiet (quiet _ _), inOrder.started⟩

theorem holdCard_keeps (inOrder : c.InOrder) : Keeps c .holdCard (c.step .holdCard) := by
  obtain ⟨p, _ | a, holds, cards⟩ := c
  · exact ⟨.quiet trivial, nofun⟩
  · have started := inOrder.started a rfl
    unfold step onAllocator
    dsimp only
    rw [Allocator.newCard_run]
    rcases ready : (Allocator.onContext Context.ready).run.run a p with ⟨⟨_ | r, a₁⟩, p₁⟩ <;>
      have books := Allocator.onContext_books holds ready <;>
      have started₁ := Allocator.ready_started started ready <;>
      refine ⟨?_, by rintro _ ⟨⟩; exact started₁⟩
    · exact .unchanged books trivial
    · exact .unchanged books trivial

theorem dropAllocator_keeps (inOrder : c.InOrder) (order : List MemoryRef) :
    Keeps c (.dropAllocator order) (c.step (.dropAllocator order)) := by
  obtain ⟨p, _ | a, holds, cards⟩ := c
  · exact ⟨.quiet trivial, nofun⟩
  · have books : (step ⟨p, some a, holds, cards⟩ (.dropAllocator order)).2.books =
        (Client.books ⟨p, some a, holds, cards⟩).clear :=
      Allocator.dispose_books inOrder.consistent order
    refine ⟨?_, nofun⟩
    rw [books]
    exact .clear

theorem share_keeps (inOrder : c.InOrder) (id : ObjectId) :
    Keeps c (.share id) (c.step (.share id)) := by
  unfold step
  dsimp only
  split
  · next held =>
    have books : ({ c with process := (Process.share id c.process).2, holds := id :: c.holds }
        : Client).books = c.books.share id :=
      Books.ext rfl (Process.cells_share ..) (Process.nextObject_share ..) rfl
    exact ⟨books ▸ .share held, inOrder.started⟩
  · next unheld => exact ⟨.quiet ⟨rfl, unheld⟩, inOrder.started⟩

theorem drop_keeps (inOrder : c.InOrder) (id : ObjectId) :
    Keeps c (.drop id) (c.step (.drop id)) := by
  unfold step
  dsimp only
  split
  · next held =>
    have books : ({ c with process := (Process.release id c.process).2, holds := c.holds.erase id }
        : Client).books = c.books.drop id :=
      Books.ext rfl (Process.cells_released ..) (Process.nextObject_released ..) rfl
    exact ⟨books ▸ .drop held, inOrder.started⟩
  · next unheld => exact ⟨.quiet ⟨rfl, unheld⟩, inOrder.started⟩

end Parts

/-- Every call makes a move. -/
theorem step_keeps {c : Client} (inOrder : c.InOrder) (op : Operation) : Keeps c op (c.step op) := by
  cases op with
  | arm | script => exact ⟨.quiet trivial, inOrder.started⟩
  | create width height raw usage =>
    exact replying_keeps inOrder (fun _ _ => rfl) fun a p consistent started =>
      Allocator.create_moves consistent started width height raw usage
  | register d =>
    exact replying_keeps inOrder (fun b unknown => ⟨rfl, unknown d⟩)
      fun a p consistent started => Allocator.register_moves consistent started d
  | unregister d =>
    exact replying_keeps inOrder (fun b unknown => ⟨rfl, unknown d⟩)
      fun a p consistent started => Allocator.unregister_moves consistent started d
  | dropLocal d =>
    exact replying_keeps inOrder (fun b unknown => ⟨rfl, unknown d⟩)
      fun a p consistent started => Allocator.dropLocal_moves consistent started d
  | lock d usage region =>
    exact onBuffer_keeps inOrder (fun _ _ => trivial) fun o h => o.lock_same h usage region
  | lockPlanar d usage region =>
    exact onBuffer_keeps inOrder (fun _ _ => trivial) fun o h => o.lockPlanar_same h usage region
  | unlock d =>
    refine quiet_keeps inOrder (fun _ _ => trivial) fun a p started => ?_
    obtain ⟨books, allocator⟩ := Allocator.unlock_books (a := a) (p := p) d
    exact ⟨books, allocator.symm ▸ started⟩
  | planes d =>
    refine quiet_keeps inOrder (fun _ _ => trivial) fun a p started => ?_
    rw [Allocator.planes_run]
    split <;> exact ⟨rfl, started⟩
  | hold d =>
    refine holding_keeps inOrder (fun b unknown => ⟨rfl, unknown d⟩) fun a p started => ?_
    obtain ⟨moves, allocator⟩ := Allocator.hold_moves (a := a) (p := p) d
    exact ⟨moves, allocator.symm ▸ started⟩
  | ensureReady needDisplay =>
    exact context_keeps inOrder (fun _ _ => trivial) fun c h => Context.ensureReady_later needDisplay
  | authMagic | authenticate | acquireMaster | releaseMaster =>
    exact context_keeps inOrder (fun _ _ => trivial) fun c h => Context.exchange_later _
  | holdCard => exact holdCard_keeps inOrder
  | dropAllocator order => exact dropAllocator_keeps inOrder order
  | createObject width height format usage =>
    exact holding_keeps inOrder (fun _ _ => rfl) fun a p started =>
      Allocator.newObject_moves started (.inl ⟨_, _, _, _, rfl⟩) _
  | importObject d =>
    exact holding_keeps inOrder (fun _ _ => rfl) fun a p started =>
      Allocator.newObject_moves started (.inr ⟨_, rfl⟩) _
  | lockObject id usage region =>
    exact onObject_keeps inOrder (fun _ _ => trivial) fun o h => o.lock_same h usage region
  | lockPlanarObject id usage region =>
    exact onObject_keeps inOrder (fun _ _ => trivial) fun o h => o.lockPlanar_same h usage region
  | unlockObject id =>
    exact onObject_keeps inOrder (fun _ _ => trivial) fun o h => by exact o.unlock_same h
  | attach id =>
    exact onObject_keeps inOrder (fun _ _ => trivial) fun o h => o.attachFramebuffer_same h
  | share id => exact share_keeps inOrder id
  | drop id => exact drop_keeps inOrder id
  | dropCard card =>
    unfold step
    dsimp only
    split <;> exact ⟨.quiet trivial, inOrder.started⟩

theorem InOrder.step {c : Client} (inOrder : c.InOrder) (op : Operation) :
    (c.step op).2.InOrder :=
  ⟨(step_keeps inOrder op).1.consistent inOrder.consistent, (step_keeps inOrder op).2⟩

theorem InOrder.run {c : Client} (inOrder : c.InOrder) (calls : List Operation) :
    (c.run calls).InOrder := by
  induction calls generalizing c with
  | nil => exact inOrder
  | cons op calls ih => exact ih (inOrder.step op)

theorem start_inOrder (host : Host) (opener : Opener) (table : BackendTable) :
    (start host opener table).InOrder where
  consistent := ⟨nofun, nofun, nofun, nofun, nofun⟩
  started := by
    rintro _ ⟨⟩
    exact nofun

end Client

end GraphicsBuffers

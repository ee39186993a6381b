import GraphicsBuffers.Proofs.Custody
import GraphicsBuffers.World
/-!
# Nothing leaks

A client works in a world with its card served by the dumb-buffer backend, while calls of the kernel
are made to fail, other than those that give something back. After every run (`nothing_leaks`) the
handles, framebuffers and mappings that the kernel has given out are those of the buffer objects in
use, and no two objects share any; an object in use is mapped if it is locked for software access, and
not otherwise; and a call that fails changes nothing of that.
-/

namespace GraphicsBuffers

namespace Client

/-! ## Clients in order -/

/-- Everything has one owner, and the card is held by those who should hold it. -/
inductive Orderly (fd : Int32) : Client → Prop
  | working {process allocator holds cards} (orderly : allocator.Orderly fd cards process) :
    Orderly fd ⟨process, some allocator, holds, cards⟩
  | retired {process holds cards} (orderly : process.Orderly fd cards.length)
    (onCard : ∀ card ∈ cards, card.fd = fd) : Orderly fd ⟨process, none, holds, cards⟩

/-- What is to be shown of a call: the client stays in order, and a call that fails leaves everyone
owning what they did. -/
def LeaksNothing (c : Client) (result : Except Error Reply × Client) : Prop :=
  (∃ fd, result.2.Orderly fd) ∧ (result.1.isOk = false → result.2.process.owned = c.process.owned)

variable {α : Type} {fd : Int32} {c : Client}

theorem Orderly.process (orderly : c.Orderly fd) : ∃ others, c.process.Orderly fd others := by
  cases orderly with
  | working orderly => exact ⟨_, orderly.process⟩
  | retired orderly => exact ⟨_, orderly⟩

/-- Only the process and the holds on objects change. -/
theorem Orderly.moved (orderly : c.Orderly fd) {p : Process} (holds : List ObjectId)
    (process : ∀ others, c.process.Orderly fd others → p.Orderly fd others)
    (size : p.objects.size ≤ c.process.objects.size) :
    ({ c with process := p, holds } : Client).Orderly fd := by
  cases orderly with
  | working orderly => exact .working (orderly.moved (process _ orderly.process) size)
  | retired orderly onCard => exact .retired (process _ orderly) onCard

theorem LeaksNothing.refused (orderly : c.Orderly fd) (e : Error) : c.LeaksNothing (.error e, c) :=
  ⟨⟨fd, orderly⟩, fun _ => rfl⟩

/-! ## Calls -/

section Parts

variable (orderly : c.Orderly fd)
include orderly

theorem replying_leaksNothing {x : ExceptT Error AllocatorM α} {f : α → Reply}
    (keeps : ∀ (a : Allocator) p, a.Orderly fd c.cards p → Allocator.Keeps c.cards p (x.run.run a p)) :
    c.LeaksNothing (replying f (c.onAllocator x)) := by
  cases orderly with
  | retired orderly onCard => exact .refused (.retired orderly onCard) _
  | @working p a holds cards orderly =>
    have kept := keeps a p orderly
    unfold replying onAllocator
    dsimp only
    rcases eq : x.run.run a p with ⟨⟨e | answer, a'⟩, p'⟩ <;> rw [eq] at kept <;>
      obtain ⟨⟨fd', orderly'⟩, same⟩ := kept
    · exact ⟨⟨fd', .working orderly'⟩, same⟩
    · exact ⟨⟨fd', .working orderly'⟩, nofun⟩

theorem holding_leaksNothing {x : ExceptT Error AllocatorM ObjectId}
    (keeps : ∀ (a : Allocator) p, a.Orderly fd c.cards p → Allocator.Keeps c.cards p (x.run.run a p)) :
    c.LeaksNothing (holding (c.onAllocator x)) := by
  cases orderly with
  | retired orderly onCard => exact .refused (.retired orderly onCard) _
  | @working p a holds cards orderly =>
    have kept := keeps a p orderly
    unfold onAllocator
    dsimp only
    rcases eq : x.run.run a p with ⟨⟨e | id, a'⟩, p'⟩ <;> rw [eq] at kept <;>
      obtain ⟨⟨fd', orderly'⟩, same⟩ := kept
    · exact ⟨⟨fd', .working orderly'⟩, same⟩
    · exact ⟨⟨fd', .working orderly'⟩, nofun⟩

theorem onObject_leaksNothing {id : ObjectId} {x : ExceptT Error ObjectM α} {f : α → Reply}
    (works : ∀ o : BufferObject, o.OnDumb fd → BufferObject.Works fd o (x.run.run o)) :
    c.LeaksNothing (replying f (c.onObject id x)) := by
  unfold onObject
  split
  · refine ⟨⟨fd, ?_⟩, ?_⟩
    · refine orderly.moved c.holds (fun others process => ?_)
        (Nat.le_of_eq (Process.size_onObject c.process id x.run))
      exact process.onObject id fun o on => (works o on).imp fun _ holds => holds.1
    · obtain ⟨others, process⟩ := orderly.process
      intro failed
      exact process.onObject_owned id works ((LockHistory.isOk_map _ _).symm.trans failed)
  · exact .refused orderly _

/-- Something outside changes the host, and trades nothing. -/
theorem outside_leaksNothing {h : Host} (trades : c.process.host.Trades ∅ ∅ h) :
    c.LeaksNothing (.ok .done, { c with process.host := h }) :=
  ⟨⟨fd, orderly.moved c.holds (fun _ process => process.neutral trades) (Nat.le_refl _)⟩, nofun⟩

theorem arm_leaksNothing {point : FaultPoint} (spared : point.givesBack = false) (plan : FaultPlan) :
    c.LeaksNothing (c.step (.arm point plan)) := by
  obtain ⟨others, process⟩ := orderly.process
  exact outside_leaksNothing orderly
    ⟨Kernel.armFaults_trades process.sound spared plan, ⟨rfl, rfl⟩, rfl⟩

theorem script_leaksNothing (script : Script) : c.LeaksNothing (c.step (.script script)) := by
  obtain ⟨others, process⟩ := orderly.process
  have trades := Neutral.pure () c.process.host process.sound
  exact outside_leaksNothing orderly ⟨trades.kernel, trades.files, trades.holders⟩

theorem holdCard_leaksNothing : c.LeaksNothing (c.step .holdCard) := by
  cases orderly with
  | retired orderly onCard => exact .refused (.retired orderly onCard) _
  | @working p a holds cards orderly =>
    unfold step onAllocator
    dsimp only
    rcases eq : newCard.run.run a p with ⟨⟨e | card, a'⟩, p'⟩ <;>
      obtain ⟨same, fd', orderly'⟩ := orderly.newCard eq
    · exact ⟨⟨fd', .working orderly'⟩, fun _ => same⟩
    · exact ⟨⟨fd', .working orderly'⟩, nofun⟩

theorem dropAllocator_leaksNothing (order : List MemoryRef) :
    c.LeaksNothing (c.step (.dropAllocator order)) := by
  cases orderly with
  | retired orderly onCard => exact .refused (.retired orderly onCard) _
  | working orderly => exact ⟨⟨fd, .retired (orderly.dispose order) orderly.onCard⟩, nofun⟩

theorem share_leaksNothing (id : ObjectId) : c.LeaksNothing (c.step (.share id)) := by
  unfold step
  dsimp only
  split
  · exact ⟨⟨fd, orderly.moved (id :: c.holds) (fun _ process => process.shared id)
      (Nat.le_of_eq (Process.size_share ..))⟩, nofun⟩
  · exact .refused orderly _

theorem drop_leaksNothing (id : ObjectId) : c.LeaksNothing (c.step (.drop id)) := by
  unfold step
  dsimp only
  split
  · exact ⟨⟨fd, orderly.moved (c.holds.erase id) (fun _ process => process.released id)
      (Process.size_released_le ..)⟩, nofun⟩
  · exact .refused orderly _

theorem dropCard_leaksNothing (card : Card) : c.LeaksNothing (c.step (.dropCard card)) := by
  unfold step
  dsimp only
  split
  · next held =>
    refine ⟨⟨fd, ?_⟩, nofun⟩
    have length := List.length_erase_of_mem held
    have positive := List.length_pos_of_mem held
    cases orderly with
    | @working p a holds cards orderly =>
      have count : cards.length + a.context.holders =
          (cards.erase card).length + a.context.holders + 1 := by
        dsimp only at length positive
        omega
      have process := orderly.process
      rw [count] at process
      refine .working ⟨process.cardReleased (orderly.onCard card held), ?_, orderly.context, ?_⟩
      · exact fun card' mem => orderly.onCard card' (List.mem_of_mem_erase mem)
      · intro untried
        obtain ⟨-, none⟩ := orderly.untried untried
        subst none
        cases held
    | @retired p holds cards orderly onCard =>
      have count : cards.length = (cards.erase card).length + 1 := by
        dsimp only at length positive
        omega
      rw [count] at orderly
      exact .retired (orderly.cardReleased (onCard card held)) fun card' mem =>
        onCard card' (List.mem_of_mem_erase mem)
  · exact .refused orderly _

end Parts

/-! ## Runs -/

/-- Nothing that gives something back is made to fail. -/
def Spares (op : Operation) : Prop := ∀ point plan, op = .arm point plan → point.givesBack = false

theorem step_leaksNothing (orderly : c.Orderly fd) {op : Operation} (spares : Spares op) :
    c.LeaksNothing (c.step op) := by
  cases op with
  | arm point plan => exact arm_leaksNothing orderly (spares point plan rfl) plan
  | script script => exact script_leaksNothing orderly script
  | create width height raw usage =>
    exact replying_leaksNothing orderly fun a p orderly =>
      Allocator.create_keeps orderly width height raw usage
  | register d =>
    exact replying_leaksNothing orderly fun a p orderly => Allocator.register_keeps orderly d
  | unregister d =>
    exact replying_leaksNothing orderly fun a p orderly => Allocator.unregister_keeps orderly d
  | dropLocal d =>
    exact replying_leaksNothing orderly fun a p orderly => Allocator.dropLocal_keeps orderly d
  | lock d usage region =>
    exact replying_leaksNothing orderly fun a p orderly =>
      Allocator.onBuffer_keeps orderly d fun o on => BufferObject.lock_works on usage region
  | lockPlanar d usage region =>
    exact replying_leaksNothing orderly fun a p orderly =>
      Allocator.onBuffer_keeps orderly d fun o on => BufferObject.lockPlanar_works on usage region
  | unlock d =>
    exact replying_leaksNothing orderly fun a p orderly => ⟨⟨fd, orderly.unlock d⟩, nofun⟩
  | planes d =>
    exact replying_leaksNothing orderly fun a p orderly => Allocator.planes_keeps orderly d
  | hold d =>
    exact holding_leaksNothing orderly fun a p orderly => Allocator.hold_keeps orderly d
  | ensureReady needDisplay =>
    exact replying_leaksNothing orderly fun a p orderly =>
      Allocator.ensureReady_keeps orderly needDisplay
  | authMagic =>
    exact replying_leaksNothing orderly fun a p orderly =>
      Allocator.exchange_keeps orderly Wire.Exchange.getMagic_neutral
  | authenticate magic =>
    exact replying_leaksNothing orderly fun a p orderly =>
      Allocator.exchange_keeps orderly (Wire.Exchange.authMagic_neutral magic)
  | acquireMaster =>
    exact replying_leaksNothing orderly fun a p orderly =>
      Allocator.exchange_keeps orderly Wire.Exchange.setMaster_neutral
  | releaseMaster =>
    exact replying_leaksNothing orderly fun a p orderly =>
      Allocator.exchange_keeps orderly Wire.Exchange.dropMaster_neutral
  | holdCard => exact holdCard_leaksNothing orderly
  | dropAllocator order => exact dropAllocator_leaksNothing orderly order
  | createObject width height format usage =>
    exact holding_leaksNothing orderly fun a p orderly =>
      Allocator.newObject_keeps orderly fun r fd onCard backend =>
        backend ▸ BufferObject.create_tries onCard width height format usage
  | importObject d =>
    exact holding_leaksNothing orderly fun a p orderly =>
      Allocator.newObject_keeps orderly fun r fd onCard backend =>
        backend ▸ BufferObject.importFrom_tries onCard d
  | lockObject id usage region =>
    exact onObject_leaksNothing orderly fun o on => BufferObject.lock_works on usage region
  | lockPlanarObject id usage region =>
    exact onObject_leaksNothing orderly fun o on => BufferObject.lockPlanar_works on usage region
  | unlockObject id =>
    exact onObject_leaksNothing orderly fun o on => BufferObject.unlock_works on
  | attach id => exact onObject_leaksNothing orderly fun o on => BufferObject.attach_works on
  | share id => exact share_leaksNothing orderly id
  | drop id => exact drop_leaksNothing orderly id
  | dropCard card => exact dropCard_leaksNothing orderly card

/-- Every run keeps the client in order. -/
theorem Orderly.run (orderly : c.Orderly fd) (calls : List Operation)
    (spares : ∀ op ∈ calls, Spares op) : ∃ fd, (c.run calls).Orderly fd := by
  induction calls generalizing c fd with
  | nil => exact ⟨fd, orderly⟩
  | cons op calls ih =>
    obtain ⟨⟨fd', orderly'⟩, -⟩ := step_leaksNothing orderly (spares op List.mem_cons_self)
    exact ih orderly' fun op' mem => spares op' (List.mem_cons_of_mem _ mem)

/-! ## What there is -/

/-- An object in use, with its buffer. -/
def HasBuffer (c : Client) (id : ObjectId) (o : BufferObject) (b : BackendBuffer) : Prop :=
  (∃ holders, c.process.objects.get? id = some ⟨o, holders⟩) ∧ o.buffer = some b

/-- What the kernel of a client has given out is what its objects in use have. -/
structure Tight (c : Client) : Prop where
  /-- Handles are those of the buffers, one each. -/
  handles : ∀ handle, c.process.host.kernel.handles.contains handle ↔
    ∃ id o b, c.HasBuffer id o b ∧ b.handle = handle
  handle_inj : ∀ {id id' o o' b b'}, c.HasBuffer id o b → c.HasBuffer id' o' b' →
    b.handle = b'.handle → id = id'
  /-- Framebuffers are those of objects in use, each there once. -/
  framebuffers : ∀ fb, fb ∈ c.process.host.kernel.framebuffers ↔
    ∃ id o b, c.HasBuffer id o b ∧ o.framebuffer = some fb
  framebuffers_nodup : c.process.host.kernel.framebuffers.Nodup
  framebuffer_inj : ∀ {id id' o o' b b' fb}, c.HasBuffer id o b → c.HasBuffer id' o' b' →
    o.framebuffer = some fb → o'.framebuffer = some fb → id = id'
  /-- No framebuffer is left of an object that is destroyed. -/
  bare : ∀ {id s}, c.process.objects.get? id = some s → s.object.buffer = none →
    s.object.framebuffer = none
  /-- Mappings are those of objects in use, and an object is mapped if it is locked for software. -/
  mappings : ∀ m, c.process.host.kernel.mappings.contains m ↔
    ∃ id o b mapping, c.HasBuffer id o b ∧ b.mapping = some mapping ∧ mapping.id = m
  mapping_inj : ∀ {id id' o o' b b' mapping mapping'}, c.HasBuffer id o b → c.HasBuffer id' o' b' →
    b.mapping = some mapping → b'.mapping = some mapping' → mapping.id = mapping'.id → id = id'
  mapped : ∀ {id o b}, c.HasBuffer id o b → b.mapping.isSome = o.lockedFor.swAccess

theorem handle_mem_resources {o : BufferObject} {handle : UInt32} :
    .handle handle ∈ o.resources ↔ ∃ b, o.buffer = some b ∧ b.handle = handle := by
  obtain ⟨d, i, backend, card, _ | ⟨h, size, stride, memory, imported, _ | m, n⟩, locks, lockedFor,
    _ | id⟩ := o <;> simp [BufferObject.resources, BackendBuffer.resources, eq_comm]

theorem framebuffer_mem_resources {o : BufferObject} {fb : UInt32} :
    .framebuffer fb ∈ o.resources ↔ ∃ b, o.buffer = some b ∧ o.framebuffer = some fb := by
  obtain ⟨d, i, backend, card, _ | ⟨h, size, stride, memory, imported, _ | m, n⟩, locks, lockedFor,
    _ | id⟩ := o <;> simp [BufferObject.resources, BackendBuffer.resources, eq_comm]

theorem mapping_mem_resources {o : BufferObject} {m : Nat} :
    .mapping m ∈ o.resources ↔
      ∃ b mapping, o.buffer = some b ∧ b.mapping = some mapping ∧ mapping.id = m := by
  obtain ⟨d, i, backend, card, _ | ⟨h, size, stride, memory, imported, _ | m, n⟩, locks, lockedFor,
    _ | id⟩ := o <;> simp [BufferObject.resources, BackendBuffer.resources, eq_comm]

theorem HasBuffer.owns {id : ObjectId} {o : BufferObject} {b : BackendBuffer}
    (has : c.HasBuffer id o b) : c.process.owned id = o.resources := by
  obtain ⟨⟨holders, held⟩, -⟩ := has
  exact Process.owned_of_get? held

/-- What is owned is owned by an object that has a buffer. -/
theorem mem_owned {id : ObjectId} {r : Resource} :
    r ∈ c.process.owned id ↔ ∃ o b, c.HasBuffer id o b ∧ r ∈ o.resources := by
  constructor
  · intro owned
    cases held : c.process.objects.get? id with
    | none =>
      rw [Process.owned_of_none held] at owned
      cases owned
    | some s =>
      obtain ⟨o, holders⟩ := s
      rw [Process.owned_of_get? held] at owned
      cases found : o.buffer with
      | none =>
        rw [BufferObject.resources_bufferless found] at owned
        cases owned
      | some b => exact ⟨o, b, ⟨⟨holders, held⟩, found⟩, owned⟩
  · rintro ⟨o, b, has, mem⟩
    rwa [has.owns]

theorem Orderly.mem_live (orderly : c.Orderly fd) (r : Resource) :
    r ∈ c.process.host.kernel.live ↔ ∃ id o b, c.HasBuffer id o b ∧ r ∈ o.resources := by
  obtain ⟨others, process⟩ := orderly.process
  rw [process.apportioned.all r]
  exact exists_congr fun id => mem_owned

theorem Orderly.sole (orderly : c.Orderly fd) {r : Resource} {id id' : ObjectId}
    {o o' : BufferObject} {b b' : BackendBuffer} (has : c.HasBuffer id o b)
    (has' : c.HasBuffer id' o' b') (mem : r ∈ o.resources) (mem' : r ∈ o'.resources) : id = id' := by
  obtain ⟨others, process⟩ := orderly.process
  exact process.apportioned.apart r id id' (has.owns ▸ mem) (has'.owns ▸ mem')

theorem Orderly.tight (orderly : c.Orderly fd) : c.Tight where
  handles handle := by
    refine (orderly.mem_live (.handle handle)).trans (exists_congr fun id => exists_congr fun o => ?_)
    refine exists_congr fun b => and_congr_right fun ⟨_, found⟩ => ?_
    rw [handle_mem_resources, found]
    simp
  handle_inj {id id' o o' b b'} has has' same :=
    orderly.sole has has' (handle_mem_resources.2 ⟨b, has.2, rfl⟩)
      (handle_mem_resources.2 ⟨b', has'.2, same.symm⟩)
  framebuffers fb := by
    refine (orderly.mem_live (.framebuffer fb)).trans
      (exists_congr fun id => exists_congr fun o => ?_)
    refine exists_congr fun b => and_congr_right fun ⟨_, found⟩ => ?_
    rw [framebuffer_mem_resources, found]
    simp
  framebuffers_nodup := by
    obtain ⟨others, process⟩ := orderly.process
    exact process.sound.once
  framebuffer_inj {id id' o o' b b' fb} has has' framebuffer framebuffer' :=
    orderly.sole has has' (framebuffer_mem_resources.2 ⟨b, has.2, framebuffer⟩)
      (framebuffer_mem_resources.2 ⟨b', has'.2, framebuffer'⟩)
  bare {id s} held destroyed := by
    obtain ⟨others, process⟩ := orderly.process
    exact (process.onDumb id s held).bare destroyed
  mappings m := by
    refine (orderly.mem_live (.mapping m)).trans (exists_congr fun id => exists_congr fun o => ?_)
    refine exists_congr fun b => ?_
    refine Iff.trans (and_congr_right fun ⟨_, found⟩ => ?_) exists_and_left.symm
    rw [mapping_mem_resources, found]
    simp
  mapping_inj {id id' o o' b b' mapping mapping'} has has' mapped mapped' same :=
    orderly.sole has has' (mapping_mem_resources.2 ⟨b, mapping, has.2, mapped, rfl⟩)
      (mapping_mem_resources.2 ⟨b', mapping', has'.2, mapped', same.symm⟩)
  mapped {id o b} has := by
    obtain ⟨others, process⟩ := orderly.process
    obtain ⟨⟨holders, held⟩, found⟩ := has
    have mapped := (process.onDumb id _ held).mapped b found
    cases locked : o.lockedFor.swAccess with
    | true => exact ((BufferObject.mapped_iff_of_sw locked).1 mapped).1
    | false =>
      rw [((BufferObject.mapped_iff_of_hw locked).1 mapped).1]
      rfl

/-! ## From the start -/

theorem start_orderly {host : Host} (fresh : host.kernel.Fresh) {opener : Opener}
    (once : opener.OpensOnce) {table : BackendTable} (dumb : table.AllDumb) (fd : Int32) :
    (start host opener table).Orderly fd :=
  .working ⟨.unused fresh fd, nofun, ⟨once, dumb, nofun⟩, fun _ => ⟨rfl, rfl⟩⟩

/-- Nothing leaks and nothing is shared, whatever fails other than giving back; and a call that
fails changes nothing of what is given out, nor of who owns it. The usual openers and the standard
table are such as is asked for here (`Opener.ofConfig_opensOnce`, `Opener.OpensOnce.reporting`,
`BackendTable.standard_allDumb`). -/
theorem nothing_leaks (w : World) (script : Script) {opener : Opener} (once : opener.OpensOnce)
    {table : BackendTable} (dumb : table.AllDumb) {calls : List Operation}
    (spares : ∀ op ∈ calls, Spares op) :
    let c := (start (w.process script).host opener table).run calls
    c.Tight ∧ ∀ op, (c.step op).1.isOk = false →
      (c.step op).2.process.host.kernel.live = c.process.host.kernel.live ∧
        (c.step op).2.process.owned = c.process.owned := by
  intro c
  obtain ⟨fd, orderly⟩ : ∃ fd, c.Orderly fd :=
    (start_orderly w.kernel_fresh once dumb 0).run calls spares
  refine ⟨orderly.tight, fun op failed => ?_⟩
  have spares : Spares op := by
    rintro point fault rfl
    cases failed
  obtain ⟨⟨fd', orderly'⟩, same⟩ := step_leaksNothing orderly spares
  have same := same failed
  refine ⟨Set.ext fun r => ?_, same⟩
  obtain ⟨others, process⟩ := orderly.process
  obtain ⟨others', process'⟩ := orderly'.process
  rw [process.apportioned.all, process'.apportioned.all, same]

/-- A client whose card has the driver `vkms`, which the standard table knows. -/
def virtual : Client :=
  start (({ cards := [{ driver := [118, 107, 109, 115] }] } : World).process {}).host
    (Opener.ofConfig { path := "/dev/dri/card0" }).reporting .standard

/-- What is displayed, and drawn by the processor. -/
def displayed : Usage := .hwFb ||| .swWriteOften

/-- A buffer is displayed and locked for drawing, and then the kernel takes no more framebuffers. -/
def displaying : List Operation :=
  let d : Descriptor :=
    { width := 16, height := 16, stride := 64, format := .rgba8888, usage := displayed
      memory := some (.name 1) }
  [.create 16 16 1 displayed, .lock d .swWriteOften { width := 16, height := 16 },
   .arm (.control .addFb2) [⟨.ENOMEM, 0, none⟩]]

theorem displaying_spares : ∀ op ∈ displaying, Spares op := by
  rintro op mem point fault rfl
  simp only [displaying, List.mem_cons, reduceCtorEq, Operation.arm.injEq, List.not_mem_nil,
    false_or, or_false] at mem
  obtain ⟨rfl, -⟩ := mem
  rfl

/-- The one mapping is that of the buffer displayed, and a second buffer that cannot be displayed
leaves nothing behind. -/
theorem second_display_leaves_nothing :
    (∃ id o b mapping, (virtual.run displaying).HasBuffer id o b ∧ b.mapping = some mapping ∧
      mapping.id = 1) ∧
    ((virtual.run displaying).step (.create 32 32 1 displayed)).1.isOk = false ∧
    ((virtual.run displaying).step (.create 32 32 1 displayed)).2.process.host.kernel.live =
      (virtual.run displaying).process.host.kernel.live := by
  obtain ⟨tight, unchanged⟩ := nothing_leaks { cards := [{ driver := [118, 107, 109, 115] }] } {}
    (Opener.ofConfig_opensOnce { path := "/dev/dri/card0" }).reporting
    BackendTable.standard_allDumb displaying_spares
  have mapped : (virtual.run displaying).process.host.kernel.mappings.contains 1 := by
    decide +kernel
  have failed : ((virtual.run displaying).step (.create 32 32 1 displayed)).1.isOk = false := by
    decide +kernel
  exact ⟨(tight.mappings 1).1 mapped, failed, (unchanged _ failed).1⟩

end Client

end GraphicsBuffers

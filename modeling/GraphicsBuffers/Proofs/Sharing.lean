import GraphicsBuffers.Proofs.DumbBuffers
import GraphicsBuffers.Proofs.Entries
import GraphicsBuffers.Proofs.Leaks
import GraphicsBuffers.Proofs.Replies

/-!
# Handing buffers to other processes

A buffer that the dumb-buffer backend allocates is published under a global name, with the line length
that the card's driver chose. Whoever receives its descriptor may register it, on any card of the same
kernel, as long as its lines cover less than 2^32 bytes at that line length
(`Allocator.created_registers`). An allocation is only asked whether they do when they are packed
tightly, so some buffers that one process creates no other process can use
(`Client.created_refused_elsewhere`).
-/

namespace GraphicsBuffers

open Wire Wire.Exchange

/-! ## Publishing -/

/-- A descriptor of so many lines, which designates that much memory under a global name. -/
structure Published (cards : List CardNode) (d : Descriptor) (lines : UInt32) (size : UInt64)
    (k : Kernel) : Prop where
  /-- The lines are as far apart as the driver of one of the cards wants. -/
  shape : ∃ g card, d.format.geometry? d.width d.height = some g ∧ g.height = lines ∧ card ∈ cards ∧
    d.stride.toNat = Kernel.dumbPitch card g.width (d.format.bytesPerPixel * 8)
  named : ∃ name place object, d.memory = some (.name name) ∧
    k.named? name = some (place, object) ∧ object.size = size
  /-- All lines are in the memory. -/
  holds : d.stride.toNat * lines.toNat ≤ size.toNat

namespace Published

variable {cards : List CardNode} {d : Descriptor} {lines : UInt32} {size : UInt64} {k k' : Kernel}

theorem later (published : Published cards d lines size k)
    (same : ∀ name, k'.named? name = k.named? name) : Published cards d lines size k' where
  shape := published.shape
  named := by simpa only [same] using published.named
  holds := published.holds

/-- The descriptor covers its lines, if a 32-bit number can say so. -/
theorem byteSize_eq (published : Published cards d lines size k) {n : UInt32} :
    d.byteSize? = some n ↔ n.toNat = d.stride.toNat * lines.toNat := by
  obtain ⟨g, -, geometry, rfl, -⟩ := published.shape
  have covered : d.byteSize? = Word.mul? d.stride g.height := by
    rw [Descriptor.byteSize?, geometry]
    rfl
  rw [covered]
  exact Word.mul?_eq_some

end Published

/-! ## Allocating -/

namespace Dumb

variable {fd : Int32} {h h' : Host}

/-- A new dumb buffer is on a new object without a name. -/
theorem createDumb_ok {width height bpp : UInt32} {dumb : DumbBuffer}
    (eq : (Host.exchange fd (.createDumb width height bpp)).run h = (.ok dumb, h')) :
    ∃ card place, card ∈ h'.kernel.cards ∧ dumb.pitch.toNat = Kernel.dumbPitch card width bpp ∧
      dumb.pitch.toNat * height.toNat ≤ dumb.size.toNat ∧
      h'.kernel.held? dumb.handle = some (place, { size := dumb.size, foreign := false }) := by
  obtain ⟨_, card, reply, k₁, k₂, -, listed, served, calm, rfl⟩ := exchange_ok eq
  obtain ⟨-, pitch, answer, rfl⟩ := createDumb_served served
  rw [answer]
  have number := UInt32.toNat_ofNat_of_lt' pitch
  refine ⟨card, k₁.objects.length, ?_, number, ?_, ?_⟩
  · rw [calm.cards]
    exact listed
  · exact card.sizes.holds _ height
  · exact (calm.held _).trans (Kernel.held_withObject ..)

/-- The name given to an object that had none designates it. -/
theorem gemFlink_ok {handle name : UInt32} {place : Nat} {object : MemoryObject}
    (held : h.kernel.held? handle = some (place, object)) (unnamed : object.name = 0)
    (eq : (Host.exchange fd (.gemFlink handle)).run h = (.ok name, h')) :
    h'.kernel.cards = h.kernel.cards ∧
      h'.kernel.named? name = some (place, { object with name }) := by
  obtain ⟨_, _, reply, k₁, k₂, calm, -, served, calm', rfl⟩ := exchange_ok eq
  obtain ⟨place', object', held', flink⟩ := gemFlink_served served
  have found := calm.held handle ▸ held
  obtain ⟨rfl, rfl⟩ := Prod.mk.inj (Option.some.inj (held'.symm.trans found))
  rw [if_pos unnamed] at flink
  obtain ⟨answer, rfl⟩ := flink
  refine ⟨calm'.cards.trans calm.cards, ?_⟩
  rw [answer, calm'.named, Kernel.named_eq_some]
  have below := (List.getElem?_eq_some_iff.1 ((Kernel.held_eq_some _).1 found).2).1
  exact ⟨Table.get?_insert_self .., List.getElem?_set_self below⟩

theorem create_published {d : Descriptor} {b : BackendBuffer}
    (eq : (create fd d).run h = (.ok b, h')) :
    ∃ lines, Published h'.kernel.cards (d.withMemory b.memory b.stride) lines b.size h'.kernel := by
  unfold create at eq
  cases geometry : d.format.geometry? d.width d.height with
  | none =>
    rw [geometry] at eq
    cases eq
  | some g =>
    rw [geometry] at eq
    dsimp only at eq
    rw [run_bind_attempt] at eq
    rcases made : (explain (Host.exchange fd (.createDumb g.width g.height
      (d.format.bytesPerPixel * 8))) _).run h with ⟨_ | dumb, h₁⟩ <;> rw [made] at eq
    · cases eq
    dsimp only at eq
    rw [run_bind_attempt] at eq
    rcases flinked : (explain (Host.exchange fd (.gemFlink dumb.handle)) _).run h₁ with
      ⟨_ | name, h₂⟩ <;> rw [flinked] at eq <;> cases eq
    obtain ⟨card, place, listed, pitch, lines, held⟩ := createDumb_ok (explain_ok made)
    obtain ⟨cards, named⟩ := gemFlink_ok held rfl (explain_ok flinked)
    rw [cards]
    exact ⟨g.height, ⟨g, card, geometry, rfl, listed, pitch⟩, ⟨name, place, _, rfl, named, rfl⟩, lines⟩

/-- Memory with a name can be opened by whoever has a card open, while there are handles left. -/
theorem allocate_named {d : Descriptor} {name : UInt32} {place : Nat} {object : MemoryObject}
    (keyed : d.key? = some (.name name)) (opened : h.kernel.Opened fd)
    (unarmed : h.kernel.faults.get? (.control .gemOpen) = none)
    (room : h.kernel.nextHandle < UInt32.size)
    (named : h.kernel.named? name = some (place, object)) :
    ∃ b h', (allocate fd d).run h = (.ok b, h') := by
  obtain ⟨reply, served⟩ := serve_gemOpen named room
  obtain ⟨entry, eq⟩ := Kernel.control_unarmed opened unarmed served
  have exchanged : (Host.exchange fd (.gemOpen name)).run h = (.ok ((gemOpen name).answer reply),
      { h with kernel := (h.kernel.withHandle place).record entry }) := by
    rw [exchange_run]
    exact congrArg (fun served : Except Errno Wire.Reply × Kernel =>
      (served.1.map (gemOpen name).answer, ({ h with kernel := served.2 } : Host))) eq
  unfold allocate openMemory openName
  rw [keyed]
  dsimp only
  rw [run_bind_attempt, run_bind_attempt, run_explain, exchanged]
  exact ⟨_, _, rfl⟩

end Dumb

/-! ## Creating -/

namespace BufferObject

variable {fd : Int32} {card : Card} {h h' : Host} {o : BufferObject}

theorem attachFramebuffer_names {id : UInt32} {o' : BufferObject}
    (eq : attachFramebuffer.run.run o h = ((.ok id, o'), h')) :
    h'.kernel.cards = h.kernel.cards ∧ ∀ name, h'.kernel.named? name = h.kernel.named? name := by
  rw [attachFramebuffer_run] at eq
  split at eq
  · cases eq
    exact ⟨rfl, fun _ => rfl⟩
  · cases eq
  next b none found =>
  rcases added : (o.addFramebuffer (o.layout h b)).run h with ⟨_ | id, h₁⟩ <;> rw [added] at eq <;>
    cases eq
  obtain ⟨_, _, reply, k₁, k₂, calm, -, served, calm', -⟩ := exchange_ok (explain_ok added)
  obtain ⟨-, -, rfl⟩ := addFb2_served served
  exact ⟨calm'.cards.trans calm.cards, fun name => (calm'.named name).trans (calm.named name)⟩

theorem finish_names {o' : BufferObject} (eq : o.finish h = (.ok o', h')) :
    h'.kernel.cards = h.kernel.cards ∧ ∀ name, h'.kernel.named? name = h.kernel.named? name := by
  unfold finish at eq
  split at eq
  · rcases attached : attachFramebuffer.run.run o h with ⟨⟨_ | id, o₁⟩, h₁⟩ <;> rw [attached] at eq <;>
      cases eq
    exact attachFramebuffer_names attached
  · cases eq
    exact ⟨rfl, fun _ => rfl⟩

/-- A buffer that is created is published, under a name that can be one. -/
theorem create_published {width height : UInt32} {format : PixelFormat} {usage : Usage}
    (eq : (create (.dumb fd) card width height format usage).run h = (.ok o, h')) :
    (o.descriptor.width = width ∧ o.descriptor.height = height ∧ o.descriptor.format = format) ∧
      o.descriptor.isValid ∧
      ∃ lines size, Published h'.kernel.cards o.descriptor lines size h'.kernel := by
  have fresh := create_fresh (congrArg Prod.fst eq)
  rw [create_run] at eq
  cases asked : request? width height format usage with
  | none =>
    rw [asked] at eq
    cases eq
  | some request =>
    rw [asked] at eq
    obtain ⟨g, -, rfl⟩ := Option.map_eq_some_iff.1 asked
    dsimp only at eq
    rcases made : ((Backend.dumb fd).allocate _).run h with ⟨_ | b, h₁⟩ <;> rw [made] at eq
    · cases eq
    dsimp only at eq
    split at eq
    · next valid =>
      obtain ⟨lines, published⟩ := Dumb.create_published made
      obtain ⟨cards, names⟩ := finish_names eq
      obtain ⟨-, descriptor⟩ := (ofBuffer_fresh _ valid).finish (congrArg Prod.fst eq)
      refine ⟨?_, fresh.keyed, lines, b.size, ?_⟩
      · rw [descriptor]
        exact ⟨rfl, rfl, rfl⟩
      · rw [descriptor, cards]
        exact published.later names
    · cases eq

end BufferObject

/-! ## Registering -/

namespace Allocator

/-- An allocator that is ready, with the dumb-buffer backend on its card, and meets with no obstacle
when it opens memory by its name. -/
structure CanOpen (a : Allocator) (p : Process) : Prop where
  ready : ∃ r, a.context.state = .ready r ∧ r.backend = .dumb r.card.fd ∧
    p.host.kernel.Opened r.card.fd
  unarmed : p.host.kernel.faults.get? (.control .gemOpen) = none
  room : p.host.kernel.nextHandle < UInt32.size

/-- What has a name can be registered if its lines cover less than 2^32 bytes, and not otherwise. -/
theorem register_named {a : Allocator} {p : Process} (canOpen : a.CanOpen p) {d : Descriptor}
    {name : UInt32} {found : Nat × MemoryObject} (keyed : d.key? = some (.name name))
    (unknown : a.registry.contains (.name name) = false)
    (named : p.host.kernel.named? name = some found) :
    ((register d).run.run a p).1.1 =
      if d.byteSize?.isSome then .ok () else .error .invalidHandle := by
  obtain ⟨r, state, backend, opened⟩ := canOpen.ready
  have ready : (onContext Context.ready).run.run a p = ((.ok r, a), p) := by
    rw [run_onContext, Context.ready_run_ready state]
  have valid : d.isValid := by rw [Descriptor.isValid, keyed]; rfl
  rw [register_outcome keyed ready, unknown, if_neg (by nofun), BufferObject.importFrom_run,
    if_pos valid, backend]
  cases covered : d.byteSize? with
  | none => rfl
  | some n =>
    obtain ⟨b, h, allocated⟩ := Dumb.allocate_named keyed opened canOpen.unarmed canOpen.room named
    have allocated : ((Backend.dumb r.card.fd).allocate d).run p.host = (.ok b, h) := allocated
    simp only [Option.isNone_some, Bool.false_eq_true, if_false, allocated]
    rfl

/-- A buffer that is created over the dumb-buffer backend has all its lines in its memory. Its
descriptor covers them if that is less than 2^32 bytes; then every other allocator on the kernel that
can open memory by its name can register it, for as long as the name is kept, and otherwise none
can. -/
theorem created_registers {a a' : Allocator} {p p' : Process} {width height : UInt32} {raw : Int32}
    {usage : Usage} {d : Descriptor} {pixels : UInt32}
    (dumb : ∀ r a₁ p₁, (onContext Context.ready).run.run a p = ((.ok r, a₁), p₁) →
      r.backend = .dumb r.card.fd)
    (created : (create width height raw usage).run.run a p = ((.ok (d, pixels), a'), p')) :
    (d.width = width ∧ d.height = height ∧ PixelFormat.ofRaw? raw = some d.format) ∧
    ∃ lines size key, Published p'.host.kernel.cards d lines size p'.host.kernel ∧
      (∀ n, d.byteSize? = some n ↔ n.toNat = d.stride.toNat * lines.toNat) ∧
      d.key? = some key ∧
      ∀ a₂ p₂, CanOpen a₂ p₂ → a₂.registry.contains key = false →
        (∀ name, p₂.host.kernel.named? name = p'.host.kernel.named? name) →
        ((register d).run.run a₂ p₂).1.1 =
          if d.byteSize?.isSome then .ok () else .error .invalidHandle := by
  rw [create_run] at created
  cases known : PixelFormat.ofRaw? raw with
  | none =>
    rw [known] at created
    cases created
  | some format =>
    rw [known] at created
    dsimp only at created
    rcases ready : (onContext Context.ready).run.run a p with ⟨⟨_ | r, a₁⟩, p₁⟩ <;>
      rw [ready] at created
    · cases created
    dsimp only at created
    rw [dumb r a₁ p₁ ready, run_attempt] at created
    rcases made : (BufferObject.create (.dumb r.card.fd) r.card width height format usage).run p₁.host
      with ⟨_ | o, h⟩
    · rw [made] at created
      cases created
    obtain ⟨asked, valid, lines, size, published⟩ := BufferObject.create_published made
    obtain ⟨key, keyed⟩ := Option.isSome_iff_exists.1 valid
    have after : p₁.after (BufferObject.create (.dumb r.card.fd) r.card width height format usage).run =
        { p₁ with host := h } := congrArg (fun result => { p₁ with host := result.2 }) made
    rw [made, after] at created
    dsimp only at created
    rw [adopt_run _ _ keyed] at created
    by_cases taken : a₁.registry.contains key
    · rw [if_pos taken] at created
      cases created
    rw [if_neg taken] at created
    cases created
    refine ⟨⟨asked.1, asked.2.1, congrArg some asked.2.2.symm⟩, lines, size, key, published,
      fun n => published.byteSize_eq, keyed, fun a₂ p₂ canOpen unknown kept => ?_⟩
    obtain ⟨name, place, object, memory, named, -⟩ := published.named
    obtain rfl : MemoryRef.name name = key := by
      have := (Option.filter_eq_some_iff.1 keyed).1
      rw [memory] at this
      exact Option.some.inj this
    exact register_named canOpen keyed unknown ((kept name).trans named)

/-- What the processor reads and writes. -/
def drawn : Usage := .swReadOften ||| .swWriteOften

/-- The allocator of `Client.virtual`. -/
def virtual : Allocator where
  context := { opener := (Opener.ofConfig { path := "/dev/dri/card0" }).reporting, table := .standard }

/-- What is left of the allocator and the process once a buffer of 64 by 64 pixels is created. -/
def small : (Except Error (Descriptor × UInt32) × Allocator) × Process :=
  (create 64 64 1 drawn).run.run virtual Client.virtual.process

/-- Another allocator on the same card registers the buffer. -/
theorem small_registers :
    ∃ d, small.1.1 = .ok (d, 64) ∧
      ((register d).run.run { small.1.2 with registry := {} } small.2).1.1 = .ok () := by
  have first : virtual.Orderly 0 [] Client.virtual.process := by
    have once := (Opener.ofConfig_opensOnce { path := "/dev/dri/card0" }).reporting
    exact ⟨.unused (World.kernel_fresh _) 0, nofun, ⟨once, BackendTable.standard_allDumb, nofun⟩,
      fun _ => ⟨rfl, rfl⟩⟩
  let d : Descriptor :=
    { width := 64, height := 64, stride := 256, format := .rgba8888, usage := drawn
      memory := some (.name 1) }
  have answer : small.1.1 = .ok (d, 64) := by decide +kernel
  have created : small = ((.ok (d, 64), small.1.2), small.2) :=
    Prod.ext (Prod.ext answer rfl) rfl
  have dumb : ∀ r a₁ p₁, (onContext Context.ready).run.run virtual Client.virtual.process =
      ((.ok r, a₁), p₁) → r.backend = .dumb r.card.fd := by
    intro r a₁ p₁ ready
    obtain ⟨⟨fd, orderly⟩, -⟩ := first.ready ready
    obtain ⟨rfl, backend⟩ := orderly.context.ready r (onContext_ready ready)
    exact backend
  have canOpen : CanOpen { small.1.2 with registry := {} } small.2 := by
    obtain ⟨⟨fd, orderly⟩, -⟩ := create_keeps first 64 64 1 drawn
    have holds : small.1.2.context.holders = 1 := by decide +kernel
    refine ⟨?_, by decide +kernel, by decide +kernel⟩
    unfold Context.holders at holds
    split at holds
    · next r state =>
      obtain ⟨rfl, backend⟩ := orderly.context.ready r state
      exact ⟨r, state, backend, (orderly.process.held (positive state)).2⟩
    · cases holds
    · cases holds
  obtain ⟨-, lines, size, key, -, -, keyed, registers⟩ := created_registers dumb created
  obtain rfl : MemoryRef.name 1 = key := Option.some.inj keyed
  refine ⟨d, answer, (registers _ _ canOpen rfl fun _ => rfl).trans ?_⟩
  decide +kernel

end Allocator

/-! ## Two clients of one kernel -/

namespace Client

open Allocator (drawn)

/-- A client like `virtual` on the kernel of another client. -/
def beside (c : Client) : Client :=
  start { kernel := c.process.host.kernel } (Opener.ofConfig { path := "/dev/dri/card0" }) .standard

/-- A buffer of 65538 lines, each of which lacks four bytes to be as long as the driver wants it. -/
def tall : Descriptor :=
  { width := 16383, height := 65538, stride := 65536, format := .rgba8888, usage := drawn
    memory := some (.name 1) }

/-- The buffer is created and keeps its reference, but another client on the same kernel cannot
register it: packed tightly its lines cover less than 2^32 bytes, and as they are they cover more. -/
theorem created_refused_elsewhere :
    let made := virtual.step (.create 16383 65538 1 drawn)
    made.1 = .ok (.created tall 16384) ∧ made.2.registration? (.name 1) = some ⟨0, 1⟩ ∧
      tall.byteSize? = none ∧
      ((beside made.2).step (.register tall)).1 = .error .invalidHandle := by
  refine ⟨?_, ?_, ?_, ?_⟩ <;> decide +kernel

end Client

end GraphicsBuffers

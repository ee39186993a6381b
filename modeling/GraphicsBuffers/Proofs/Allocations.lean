import GraphicsBuffers.Proofs.Handles
import GraphicsBuffers.Proofs.PlaneBounds
import GraphicsBuffers.Proofs.Sharing

/-!
# The planes of created buffers

A driver chooses how far apart the lines of a buffer are, and how much memory there is for them. As long
as it rounds tight lines up to a power of two and gives memory for all of them (`Host.Rounds`), the planes
of every buffer that is created are one behind the other in its memory, and these are the planes that
every later call is told, in whatever state (`Client.created_planes_fit`).
-/

namespace GraphicsBuffers

open Wire Wire.Exchange

/-! ## What drivers give -/

/-- The driver of the card `fd` rounds tight lines up to a power of two, and gives memory for all the
lines it is asked for. -/
def Host.Rounds (h : Host) (fd : Int32) : Prop :=
  ∀ width height bpp dumb h',
    (Host.exchange fd (.createDumb width height bpp)).run h = (.ok dumb, h') →
      (∃ k, dumb.pitch.toNat = Kernel.roundUp ((width.toNat * bpp.toNat + 7) / 8) (2 ^ k)) ∧
        dumb.pitch.toNat * height.toNat ≤ dumb.size.toNat

/-- Drivers give memory for all lines, so it is only for their line lengths to be powers of two apart. -/
theorem Host.rounds_of_cards {h : Host}
    (aligned : ∀ card ∈ h.kernel.cards, ∃ k, card.pitchAlign = 2 ^ k) (fd : Int32) : h.Rounds fd := by
  intro width height bpp dumb h' eq
  obtain ⟨_, card, reply, k₁, k₂, calm, listed, served, -, rfl⟩ := exchange_ok eq
  obtain ⟨-, pitch, answer, -⟩ := createDumb_served served
  obtain ⟨k, power⟩ := aligned card (calm.cards ▸ listed)
  have number := UInt32.toNat_ofNat_of_lt' pitch
  rw [answer]
  refine ⟨⟨k, ?_⟩, card.sizes.holds _ height⟩
  dsimp only
  rw [number, Kernel.dumbPitch, power]

theorem Kernel.le_dumbPitch (card : CardNode) (width bpp : UInt32) :
    (width.toNat * bpp.toNat + 7) / 8 ≤ dumbPitch card width bpp := by
  unfold dumbPitch
  rcases Nat.eq_zero_or_pos card.pitchAlign with none | some
  · rw [roundUp, if_pos none]
  · exact le_roundUp _ some

/-- The bytes of a tight line. -/
theorem PixelFormat.tight_eq (f : PixelFormat) (width : UInt32) :
    (width.toNat * (f.bytesPerPixel * 8).toNat + 7) / 8 = width.toNat * f.bytesPerPixel.toNat := by
  have bits : (f.bytesPerPixel * 8).toNat = f.bytesPerPixel.toNat * 8 := by cases f <;> rfl
  rw [bits, ← Nat.mul_assoc]
  omega

/-! ## Buffers that fit their memory -/

/-- A buffer of the geometry `g` is in so many bytes, with all its lines and all its planes. -/
structure Descriptor.Fits (d : Descriptor) (g : Geometry) (size : Nat) : Prop where
  exact : g.Exact d.format d.width d.height
  luma : d.planarHeight = g.planarHeight
  lines : d.stride.toNat * d.height.toNat ≤ size
  /-- A line has room for its pixels. -/
  pixels : g.width.toNat * d.format.bytesPerPixel.toNat ≤ d.stride.toNat
  increasing : d.exactPlanes.Pairwise fun p q => p.offset < q.offset
  within : Within d.exactPlanes size

/-- There are some lines, and all of them are in so many bytes. -/
structure Descriptor.Roomy (d : Descriptor) (size : Nat) : Prop where
  stride : 0 < d.stride.toNat
  height : 0 < d.height.toNat
  lines : d.stride.toNat * d.height.toNat ≤ size

/-- The object has a dumb buffer that the kernel gave for its geometry. -/
structure BufferObject.Given (o : BufferObject) (fd : Int32) (h : Host) (g : Geometry)
    (b : BackendBuffer) : Prop where
  geometry : o.descriptor.format.geometry? o.descriptor.width o.descriptor.height = some g
  luma : o.descriptor.planarHeight = g.planarHeight
  buffer : o.buffer = some b
  answer : ∃ dumb h', (Host.exchange fd (.createDumb g.width g.height
    (o.descriptor.format.bytesPerPixel * 8))).run h = (.ok dumb, h') ∧
      o.descriptor.stride = dumb.pitch ∧ b.size = dumb.size

theorem Dumb.create_given {fd : Int32} {h h' : Host} {d : Descriptor} {b : BackendBuffer}
    (eq : (create fd d).run h = (.ok b, h')) :
    ∃ g dumb h₁, d.format.geometry? d.width d.height = some g ∧
      (Host.exchange fd (.createDumb g.width g.height (d.format.bytesPerPixel * 8))).run h =
        (.ok dumb, h₁) ∧ b.stride = dumb.pitch ∧ b.size = dumb.size := by
  unfold create at eq
  cases geometry : d.format.geometry? d.width d.height with
  | none =>
    rw [geometry] at eq
    cases eq
  | some g =>
    rw [geometry] at eq
    dsimp only at eq
    rw [run_bind_attempt] at eq
    rcases made : (explain (Host.exchange fd (.createDumb g.width g.height
      (d.format.bytesPerPixel * 8))) _).run h with ⟨_ | dumb, h₁⟩ <;> rw [made] at eq
    · cases eq
    dsimp only at eq
    rw [run_bind_attempt] at eq
    rcases flinked : (explain (Host.exchange fd (.gemFlink dumb.handle)) _).run h₁ with
      ⟨_ | name, h₂⟩ <;> rw [flinked] at eq <;> cases eq
    exact ⟨g, dumb, h₁, rfl, explain_ok made, rfl, rfl⟩

namespace BufferObject

variable {fd : Int32} {card : Card} {h h' : Host} {o o' : BufferObject}

theorem create_given {width height : UInt32} {format : PixelFormat} {usage : Usage}
    (eq : (create (.dumb fd) card width height format usage).run h = (.ok o, h')) :
    ∃ g b, o.Given fd h g b := by
  rw [create_run] at eq
  cases asked : request? width height format usage with
  | none =>
    rw [asked] at eq
    cases eq
  | some request =>
    rw [asked] at eq
    obtain ⟨g, geometry, rfl⟩ := Option.map_eq_some_iff.1 asked
    dsimp only at eq
    rcases made : ((Backend.dumb fd).allocate _).run h with ⟨_ | b, h₁⟩ <;> rw [made] at eq
    · cases eq
    dsimp only at eq
    split at eq
    · next valid =>
      obtain ⟨-, descriptor⟩ := (ofBuffer_fresh _ valid).finish (congrArg Prod.fst eq)
      obtain ⟨g', dumb, h₂, geometry', answer, stride, size⟩ := Dumb.create_given made
      have geometry := (Option.filter_eq_some_iff.1 geometry).1
      cases geometry.symm.trans geometry'
      refine ⟨g, b, ?_, ?_, finish_buffer eq, ?_⟩ <;> rw [descriptor]
      · exact geometry
      · rfl
      · exact ⟨dumb, h₂, answer, stride, size⟩
    · cases eq

end BufferObject

namespace BufferObject.Given

variable {fd : Int32} {h : Host} {o : BufferObject} {g : Geometry} {b : BackendBuffer}
  (given : o.Given fd h g b)
include given

theorem exact : g.Exact o.descriptor.format o.descriptor.width o.descriptor.height :=
  PixelFormat.geometry_exact given.geometry

/-- Whatever the driver rounds lines to, they are in the memory. -/
theorem roomy : o.descriptor.Roomy b.size.toNat := by
  obtain ⟨dumb, h', answer, stride, size⟩ := given.answer
  obtain ⟨_, _, _, _, _, -, -, served, -⟩ := exchange_ok answer
  obtain ⟨wide, high⟩ := createDumb_positive served
  obtain ⟨card, -, -, pitch, holds, -⟩ := Dumb.createDumb_ok answer
  have tight := Kernel.le_dumbPitch card g.width (o.descriptor.format.bytesPerPixel * 8)
  rw [PixelFormat.tight_eq, ← pitch, ← stride] at tight
  rw [← stride, ← size] at holds
  have pixels := Nat.pos_of_ne_zero fun zero => wide (UInt32.toNat_inj.1 zero)
  refine ⟨?_, given.exact.height_pos high, (Nat.mul_le_mul_left _ given.exact.height_le).trans holds⟩
  exact Nat.lt_of_lt_of_le (Nat.mul_pos pixels o.descriptor.format.bytesPerPixel_pos) tight

theorem allocated (rounds : h.Rounds fd) : o.descriptor.Allocated g b.size.toNat := by
  obtain ⟨dumb, h', answer, stride, size⟩ := given.answer
  obtain ⟨⟨k, pitch⟩, holds⟩ := rounds _ _ _ _ _ answer
  rw [PixelFormat.tight_eq, ← stride] at pitch
  rw [← stride, ← size] at holds
  exact ⟨given.exact, given.luma, ⟨k, pitch⟩, holds⟩

theorem fits (rounds : h.Rounds fd) : o.descriptor.Fits g b.size.toNat := by
  obtain ⟨dumb, h', answer, -, -⟩ := given.answer
  obtain ⟨_, _, _, _, _, -, -, served, -⟩ := exchange_ok answer
  obtain ⟨wide, high⟩ := createDumb_positive served
  have allocated := given.allocated rounds
  exact ⟨allocated.exact, given.luma, allocated.lines, allocated.tight,
    allocated.increasing wide high, allocated.within⟩

end BufferObject.Given

/-! ## Buffers that stay on their memory -/

/-- The buffer object `id` has so many bytes of the kernel's memory, by a handle. -/
def Process.HasMemory (id : ObjectId) (handle : UInt32) (size : Nat) (p : Process) : Prop :=
  p.handle? id = some handle ∧
    ∃ place object, p.host.kernel.held? handle = some (place, object) ∧ object.size.toNat = size

/-- A buffer that was allocated here goes by the true size of its memory. -/
theorem Process.Kept.hasMemory {s : Surroundings} {fd : Int32} {others : Nat} {p : Process} {l : Ledger}
    (kept : p.Kept s fd others l) {id : ObjectId} {sh : Shared} (held : p.objects.get? id = some sh)
    (allocated : sh.object.imported = false) {b : BackendBuffer} (found : sh.object.buffer = some b) :
    p.HasMemory id b.handle b.size.toNat := by
  have backed := kept.backed id sh held
  obtain ⟨⟨size, sized, entered⟩, -⟩ := backed.entered b found
  obtain ⟨place, object, behind, same⟩ := (kept.audited.bears.holding _ _ entered).object
  refine ⟨(handle_of_get? held).trans (BufferObject.handle_of_some found), place, object, behind, ?_⟩
  obtain exact | ⟨dmabuf, _, keyed, -⟩ := sized
  · rw [exact, same]
  · exact absurd keyed (backed.named allocated dmabuf)

/-- An object that an allocation has made. -/
structure BufferObject.Made (d : Descriptor) (handle : UInt32) (size : Nat) (o : BufferObject) :
    Prop where
  descriptor : o.descriptor = d
  allocated : o.imported = false
  backend : ∃ fd, o.backend = .dumb fd
  memory : ∀ b, o.buffer = some b → b.handle = handle ∧ b.size.toNat = size

theorem BufferObject.Made.lasts {d : Descriptor} {handle : UInt32} {size : Nat} {o o' : BufferObject}
    (made : o.Made d handle size) (lasts : o.Lasts o') : o'.Made d handle size where
  descriptor := lasts.descriptor.trans made.descriptor
  allocated := lasts.imported.trans made.allocated
  backend := by
    rw [lasts.backend]
    exact made.backend
  memory b' found := by
    obtain ⟨fd, backend⟩ := made.backend
    obtain ⟨b, found, handle, size⟩ := lasts.memory fd b' backend found
    rw [handle, size]
    exact made.memory b found

/-- The planes of an object that an allocation has made are all of them, exactly. -/
theorem BufferObject.Made.planes {d : Descriptor} {handle : UInt32} {size : Nat} {o : BufferObject}
    (made : o.Made d handle size) {h : Host} {layout : PlaneLayout}
    (told : o.planes? h = some layout) : layout.Describes handle d.exactPlanes := by
  obtain ⟨b, found, resolved⟩ := Option.bind_eq_some_iff.1 told
  obtain ⟨fd, backend⟩ := made.backend
  rw [backend, made.descriptor] at resolved
  exact (made.memory b found).1 ▸ Descriptor.linearPlanes_describes resolved

/-! ## Creating -/

namespace Allocator

variable {a a' : Allocator} {p p' : Process} {width height : UInt32} {raw : Int32} {usage : Usage}
  {d : Descriptor} {pixels : UInt32}

/-- A handle that is answered is that of a new object, which is registered. -/
theorem create_object (created : (create width height raw usage).run.run a p = ((.ok (d, pixels), a'), p')) :
    ∃ format r a₁ p₁ o h key, PixelFormat.ofRaw? raw = some format ∧
      (onContext Context.ready).run.run a p = ((.ok r, a₁), p₁) ∧
      (BufferObject.create r.backend r.card width height format usage).run p₁.host = (.ok o, h) ∧
      o.descriptor = d ∧ d.key? = some key ∧ a'.registry.entries.get? key = some ⟨p.nextObject, 1⟩ ∧
      p'.objects.get? p.nextObject = some ⟨o, 1⟩ := by
  rw [create_run] at created
  cases known : PixelFormat.ofRaw? raw with
  | none =>
    rw [known] at created
    cases created
  | some format =>
    rw [known] at created
    dsimp only at created
    rcases ready : (onContext Context.ready).run.run a p with ⟨⟨_ | r, a₁⟩, p₁⟩ <;>
      rw [ready] at created
    · cases created
    have next : p₁.nextObject = p.nextObject := by
      rw [run_onContext] at ready
      rcases ran : Context.ready.run.run a.context p.host with ⟨⟨outcome, context⟩, host⟩
      rw [ran] at ready
      cases ready
      rfl
    dsimp only at created
    rcases made : (BufferObject.create r.backend r.card width height format usage).run p₁.host
      with ⟨_ | o, h⟩ <;> rw [attempt_eq made] at created <;> dsimp only at created
    · cases created
    have fresh := BufferObject.create_fresh (congrArg Prod.fst made)
    obtain ⟨key, keyed⟩ := Option.isSome_iff_exists.1 fresh.keyed
    rw [adopt_run _ _ keyed] at created
    by_cases taken : a₁.registry.contains key
    · rw [if_pos taken] at created
      cases created
    rw [if_neg taken] at created
    cases created
    rw [← next]
    exact ⟨format, r, a₁, p₁, o, h, key, rfl, rfl, made, rfl, keyed, Table.get?_insert_self ..,
      Table.get?_insert_self ..⟩

/-- An allocator whose card the dumb-buffer backend serves gives the new object a dumb buffer. -/
theorem Kept.create_given {s : Surroundings} {fd : Int32} {cards : List Card} {l : Ledger}
    (kept : a.Kept s fd cards p l)
    (created : (create width height raw usage).run.run a p = ((.ok (d, pixels), a'), p')) :
    (d.width = width ∧ d.height = height ∧ PixelFormat.ofRaw? raw = some d.format) ∧
    ∃ r a₁ p₁ key o g b, (onContext Context.ready).run.run a p = ((.ok r, a₁), p₁) ∧
      d.key? = some key ∧ a'.registry.entries.get? key = some ⟨p.nextObject, 1⟩ ∧
      p'.objects.get? p.nextObject = some ⟨o, 1⟩ ∧ o.Idle ∧ o.Made d b.handle b.size.toNat ∧
      o.Given r.card.fd p₁.host g b := by
  obtain ⟨format, r, a₁, p₁, o, h, key, known, ready, made, rfl, keyed, registered, held⟩ :=
    create_object created
  obtain ⟨fd₁, l₁, kept₁⟩ := kept.ready ready
  obtain ⟨rfl, backend⟩ := kept₁.context.ready r (onContext_ready ready)
  rw [backend] at made
  have fresh := BufferObject.create_fresh (congrArg Prod.fst made)
  obtain ⟨⟨rfl, rfl, rfl⟩, -⟩ := BufferObject.create_published made
  obtain ⟨g, b, given⟩ := BufferObject.create_given made
  have memory (b' : BackendBuffer) (found : o.buffer = some b') :
      b'.handle = b.handle ∧ b'.size.toNat = b.size.toNat := by
    cases given.buffer.symm.trans found
    exact ⟨rfl, rfl⟩
  exact ⟨⟨rfl, rfl, known⟩, r, a₁, p₁, key, o, g, b, ready, keyed, registered, held,
    fresh.idle, ⟨rfl, fresh.imported, ⟨_, fresh.backend⟩, memory⟩, given⟩

end Allocator

namespace Client

/-- The driver of the card that the client works with, as soon as it is open, rounds line lengths up to
powers of two and gives memory for all lines. -/
def Rounds (c : Client) : Prop :=
  ∀ a r a₁ p₁, c.allocator = some a →
    (Allocator.onContext Context.ready).run.run a c.process = ((.ok r, a₁), p₁) → p₁.host.Rounds r.card.fd

variable {s : Surroundings} {fd : Int32} {l : Ledger} {c : Client}

/-- A buffer that is created is registered, and fits its memory. -/
theorem step_create_fits (kept : c.Kept s fd l) (rounds : c.Rounds) {width height : UInt32} {raw : Int32}
    {usage : Usage} {d : Descriptor} {pixels : UInt32}
    (created : (c.step (.create width height raw usage)).1 = .ok (.created d pixels)) :
    let c' := (c.step (.create width height raw usage)).2
    (d.width = width ∧ d.height = height ∧ PixelFormat.ofRaw? raw = some d.format) ∧
    ∃ g key o handle size, d.key? = some key ∧
      c'.registration? key = some ⟨c.process.nextObject, 1⟩ ∧
      c'.process.objects.get? c.process.nextObject = some ⟨o, 1⟩ ∧ o.Made d handle size ∧
      d.Fits g size := by
  cases kept with
  | retired => cases created
  | @working p a holds cards kept =>
    unfold step onAllocator at created ⊢
    dsimp only at created ⊢
    rcases eq : (Allocator.create width height raw usage).run.run a p with ⟨⟨_ | ⟨d', n⟩, a'⟩, p'⟩ <;>
      rw [eq] at created <;> cases created
    obtain ⟨asked, r, a₁, p₁, key, o, g, b, ready, keyed, known, held, -, made, given⟩ :=
      kept.create_given eq
    refine ⟨asked, g, key, o, b.handle, b.size.toNat, keyed, known, held, made, ?_⟩
    rw [← made.descriptor]
    exact given.fits (rounds a r a₁ p₁ rfl ready)

/-- A registered buffer that was allocated here is on its memory, and what is told of its planes is
right. -/
theorem Kept.made (kept : c.Kept s fd l) (inOrder : c.InOrder) {key : MemoryRef} {e : Registration}
    (known : c.registration? key = some e) {d : Descriptor} {handle : UInt32} {size : Nat}
    (made : ∀ sh, c.process.objects.get? e.object = some sh → sh.object.Made d handle size) :
    c.process.HasMemory e.object handle size ∧
      ∀ d' layout, d'.key? = some key → (c.step (.planes d')).1 = .ok (.planes (some layout)) →
        layout.Describes handle d.exactPlanes := by
  obtain ⟨-, cell, found, -, live⟩ := inOrder.consistent.entry key e known
  obtain ⟨sh, held, rfl⟩ := Option.map_eq_some_iff.1 found
  obtain ⟨b, found⟩ := Option.isSome_iff_exists.1 live
  have made := made sh held
  obtain ⟨rfl, rfl⟩ := made.memory b found
  obtain ⟨others, process⟩ := kept.process
  refine ⟨process.hasMemory held made.allocated found, fun d' layout keyed told => ?_⟩
  rw [planes_answer keyed known (show c.process.object? e.object = some sh.object by
    rw [Process.object?, held, Option.map_some])] at told
  exact made.planes (Reply.planes.inj (Except.ok.inj told))

/-- Whatever width, height, format and usage a buffer is created with, and whatever fails before and
after: if its driver rounds tight lines up to a power of two and gives memory for all lines, all lines
of the buffer and all its planes are in its memory, the planes one behind the other. As long as the buffer
is registered it stays on that memory, and the layout that a call with any handle of its key is told,
if it is told one, is that of these planes, in numbers that have not wrapped. -/
theorem created_planes_fit (w : World) (script : Script) {opener : Opener} (tidy : opener.Tidy)
    {table : BackendTable} (dumb : table.AllDumb) (before : List Operation) (width height : UInt32)
    (raw : Int32) (usage : Usage) {d : Descriptor} {pixels : UInt32} :
    let c := (start (w.process script).host opener table).run before
    let c' := (c.step (.create width height raw usage)).2
    c.Rounds → (c.step (.create width height raw usage)).1 = .ok (.created d pixels) →
      (d.width = width ∧ d.height = height ∧ PixelFormat.ofRaw? raw = some d.format) ∧
      ∃ g key handle size, d.Fits g size ∧ d.key? = some key ∧
        c'.registration? key = some ⟨c.process.nextObject, 1⟩ ∧
        ∀ after references,
          (c'.run after).registration? key = some ⟨c.process.nextObject, references⟩ →
            (c'.run after).process.HasMemory c.process.nextObject handle size ∧
            ∀ d' layout, d'.key? = some key →
              ((c'.run after).step (.planes d')).1 = .ok (.planes (some layout)) →
                layout.Describes handle d.exactPlanes := by
  intro c c' rounds created
  have inOrder : c.InOrder := (start_inOrder _ opener table).run before
  obtain ⟨fd, l, kept⟩ : ∃ fd l, c.Kept w.surroundings fd l :=
    (start_kept w.kernel_audited tidy dumb 0).run before
  obtain ⟨asked, g, key, o, handle, size, keyed, known, held, made, fits⟩ :=
    step_create_fits kept rounds created
  refine ⟨asked, g, key, handle, size, fits, keyed, known, fun after references known' => ?_⟩
  have inOrder' : c'.InOrder := inOrder.step _
  obtain ⟨fd', l', kept'⟩ := step_kept kept (.create width height raw usage)
  obtain ⟨fd'', l'', kept''⟩ := kept'.run after
  have lasts := ((c'.run_evolves after).lasts (inOrder'.consistent.entry_lt known) held).2
  exact kept''.made (inOrder'.run after) known' fun sh held => made.lasts (lasts sh held)

/-- The driver of the one card there is rounds line lengths up to multiples of 64. -/
theorem virtual_rounds : virtual.Rounds := by
  rintro a r a₁ p₁ ⟨⟩ ready
  have aligned : ∀ card ∈ ((Allocator.onContext Context.ready).run.run Allocator.virtual
      virtual.process).2.host.kernel.cards, card.pitchAlign = 2 ^ 6 := by decide +kernel
  refine Host.rounds_of_cards (fun card listed => ⟨6, aligned card ?_⟩) _
  have same := congrArg (fun result => result.2.host.kernel.cards) ready
  exact same ▸ listed

/-- A frame of video in three planes. Its lines are longer than it is wide, and there is memory for whole
pages. -/
def video : Descriptor :=
  { width := 100, height := 50, stride := 128, format := .yv12, usage := Allocator.drawn
    memory := some (.name 1) }

theorem video_fits :
    let made := virtual.step (.create 100 50 842094169 Allocator.drawn)
    let layout : PlaneLayout := ⟨#v[1, 1, 1, 0], #v[128, 64, 64, 0], #v[0, 6400, 8000, 0]⟩
    made.1 = .ok (.created video 128) ∧ (made.2.step (.planes video)).1 = .ok (.planes (some layout)) ∧
      layout.Describes 1 video.exactPlanes ∧ Within video.exactPlanes 12288 := by
  intro made layout
  have created : made.1 = .ok (.created video 128) := by decide +kernel
  have told : (made.2.step (.planes video)).1 = .ok (.planes (some layout)) := by decide +kernel
  obtain ⟨-, g, key, handle, size, fits, keyed, known, stays⟩ := created_planes_fit
    { cards := [{ driver := [118, 107, 109, 115] }] } {}
    (Opener.ofConfig_tidy { path := "/dev/dri/card0" }).reporting BackendTable.standard_allDumb []
    100 50 842094169 Allocator.drawn virtual_rounds created
  obtain ⟨⟨own, place, object, held, same⟩, planes⟩ := stays [] 1 known
  have handle_eq : made.2.process.handle? 0 = some 1 := by decide +kernel
  have size_eq : (made.2.process.host.kernel.held? 1).map (·.2.size.toNat) = some 12288 := by
    decide +kernel
  obtain rfl : 1 = handle := Option.some.inj (handle_eq.symm.trans own)
  obtain rfl : 12288 = size := by
    have held : made.2.process.host.kernel.held? 1 = some (place, object) := held
    rw [held, Option.map_some, same] at size_eq
    exact (Option.some.inj size_eq).symm
  obtain rfl : MemoryRef.name 1 = key := Option.some.inj keyed
  exact ⟨created, told, planes video layout rfl told, fits.within⟩

end Client

end GraphicsBuffers

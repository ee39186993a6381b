import GraphicsBuffers.Proofs.ClientLedger
import GraphicsBuffers.Proofs.Evolution

/-!
# The bounds of imported memory

What a received handle says of its buffer is checked once, when it is imported, and only against the
numbers that a 32-bit size can hold. How much memory there is behind it is for the kernel to say: a lock
maps the kernel's object as a whole, whatever the handle says, or as much as the handle says of a dma-buf
that does not tell its size (`Client.imported_bounds`). So a handle is accepted that says more than there
is, and then a lock answers less memory than it says (`Client.smaller_than_described`).
-/

namespace GraphicsBuffers

/-! ## Planes in a mapping -/

/-- The samples of so many luma lines, and of half as many chroma lines, are inside live mappings. -/
def Kernel.Reaches (k : Kernel) (planes : Ycbcr) (lines : UInt32) : Prop :=
  (k.rangeAt? planes.y (planes.yStride.toNat * lines.toNat)).isSome ∧
    (k.rangeAt? planes.cb (planes.cStride.toNat * (lines.toNat / 2))).isSome

/-- Bytes from the first luma sample to behind the last chroma sample. -/
def Descriptor.planesEnd (d : Descriptor) : Nat :=
  d.stride.toNat * d.planarHeight.toNat + d.stride.toNat * (d.planarHeight.toNat / 2)

theorem Kernel.rangeAt_isSome {k : Kernel} {m : Nat} {range : MappedRange}
    (live : k.mappings.get? m = some range) (offset : UInt64) (length : Nat) :
    (k.rangeAt? ⟨.mapping m, offset⟩ length).isSome ↔
      offset.toNat + length ≤ range.length.toNat := by
  simp [rangeAt?, live, Option.filter_some]

/-- Planes that start with a mapping lie in it if their last sample does. -/
theorem Kernel.reaches_iff {k : Kernel} {m : Nat} {range : MappedRange}
    (live : k.mappings.get? m = some range) (d : Descriptor) :
    k.Reaches (.at (.start m) d.stride d.planarHeight) d.planarHeight ↔
      d.planesEnd ≤ range.length.toNat := by
  have luma : d.stride.toNat * d.planarHeight.toNat < 2 ^ 64 :=
    (Nat.mul_lt_mul'' d.stride.toNat_lt d.planarHeight.toNat_lt).trans_eq (by decide)
  -- The chroma plane begins at the exact product: two 32-bit numbers do not wrap at 2^64.
  have chroma : (0 + d.stride.toUInt64 * d.planarHeight.toUInt64).toNat =
      d.stride.toNat * d.planarHeight.toNat := by
    rw [UInt64.zero_add, UInt64.toNat_mul, UInt32.toNat_toUInt64, UInt32.toNat_toUInt64,
      Nat.mod_eq_of_lt luma]
  unfold Reaches Ycbcr.at Address.advance Address.start Descriptor.planesEnd
  dsimp only
  rw [rangeAt_isSome live, rangeAt_isSome live, chroma, UInt32.toNat_toUInt64]
  simp only [UInt64.toNat_zero, Nat.zero_add, and_iff_right_iff_imp]
  exact Nat.le_trans (Nat.le_add_right _ _)

/-- A handle that claims no more luma lines than its height comes to has its planes within the bytes that
its lines cover. -/
theorem Descriptor.planesEnd_le {d : Descriptor} (format : d.format = .ycbcr420) {g : Geometry}
    (geometry : d.format.geometry? d.width d.height = some g) (lines : d.planarHeight ≤ g.planarHeight)
    {covered : UInt32} (size : d.byteSize? = some covered) : d.planesEnd ≤ covered.toNat := by
  have product : covered.toNat = d.stride.toNat * g.height.toNat := by
    rw [byteSize?, geometry] at size
    exact Word.mul?_eq_some.1 size
  have height : g.height.toNat = g.planarHeight.toNat + g.planarHeight.toNat / 2 := by
    rw [format] at geometry
    obtain ⟨w, -, geometry⟩ := Option.bind_eq_some_iff.1 geometry
    obtain ⟨luma, -, geometry⟩ := Option.bind_eq_some_iff.1 geometry
    obtain ⟨total, sum, geometry⟩ := Option.bind_eq_some_iff.1 geometry
    cases geometry
    exact Word.add?_eq_some.1 sum
  rw [product, height, planesEnd, ← Nat.mul_add]
  have lines : d.planarHeight.toNat ≤ g.planarHeight.toNat := lines
  exact Nat.mul_le_mul_left _ (Nat.add_le_add lines (Nat.div_le_div_right lines))

/-! ## Mapped objects -/

theorem Sized.covers {s : Surroundings} {d : Descriptor} {size bytes : UInt64} {covered : UInt32}
    (sized : Sized s d size bytes) (covers : d.byteSize? = some covered)
    (enough : covered.toUInt64 ≤ size) : covered.toUInt64 ≤ bytes := by
  rcases sized with rfl | ⟨_, covered', -, -, covers', rfl⟩
  · exact enough
  · rw [Option.some.inj (covers.symm.trans covers')]
    exact UInt64.le_refl _

/-- The kernel's object behind the buffer object `id`, which has the handle `d`, is mapped as `m`. The
mapping is as long as the object, or as the handle says of a dma-buf that does not tell its size. -/
structure Process.Maps (s : Surroundings) (d : Descriptor) (id : ObjectId) (p : Process) (m : Nat)
    (range : MappedRange) (object : MemoryObject) : Prop where
  live : p.host.kernel.mappings.get? m = some range
  behind : ∃ handle place, p.handle? id = some handle ∧
    p.host.kernel.held? handle = some (place, object)
  sized : Sized s d object.size range.length

theorem BufferObject.Backed.maps {s : Surroundings} {fd : Int32} {l : Ledger} {p : Process}
    {id : ObjectId} {sh : Shared} (backed : sh.object.Backed s fd l)
    (audited : p.host.kernel.Audited s l) (held : p.objects.get? id = some sh) {b : BackendBuffer}
    (found : sh.object.buffer = some b) {m : Mapping} (mapping : b.mapping = some m) :
    ∃ range object, p.Maps s sh.object.descriptor id m.id range object := by
  obtain ⟨⟨size, sized, entered⟩, whole⟩ := backed.entered b found
  have keeps := audited.bears.holding _ _ entered
  obtain ⟨place, object, behind, same⟩ := keeps.object
  obtain ⟨range, live, length, -⟩ := keeps.mapping m mapping
  have handle := (Process.handle_of_get? held).trans (handle_of_some found)
  refine ⟨range, object, live, ⟨b.handle, place, handle, behind⟩, ?_⟩
  rw [length, whole m mapping, same]
  exact sized

/-! ## Importing -/

/-- A registration under a key that is free imports an object. -/
theorem Allocator.register_imports {a a' : Allocator} {p p' : Process} {d : Descriptor}
    {key : MemoryRef} (keyed : d.key? = some key) (free : a.registry.contains key = false)
    (eq : (register d).run.run a p = ((.ok (), a'), p')) :
    p'.Imported p.nextObject d ∧ a'.registry.entries.get? key = some ⟨p.nextObject, 2⟩ := by
  rw [register_run, keyed] at eq
  dsimp only at eq
  rw [run_onContext] at eq
  rcases ready : Context.ready.run.run a.context p.host with ⟨⟨_ | r, context⟩, h₁⟩ <;>
    rw [ready] at eq <;> dsimp only at eq
  · cases eq
  rw [if_neg (by rw [free]; nofun)] at eq
  rcases made : (BufferObject.importFrom r.backend r.card d).run h₁ with ⟨_ | o, h₂⟩ <;>
    rw [attempt_eq made] at eq <;> dsimp only at eq
  · cases eq
  obtain ⟨fresh, descriptor⟩ := BufferObject.importFrom_fresh (congrArg Prod.fst made)
  rw [adopt_run _ _ (descriptor ▸ keyed), if_neg (by rw [free]; nofun)] at eq
  dsimp only at eq
  unfold acquired at eq
  rw [Table.get?_insert_self] at eq
  cases eq
  refine ⟨⟨Nat.lt_succ_self _, fun sh held => ?_⟩, Table.get?_insert_self ..⟩
  cases (Table.get?_insert_self ..).symm.trans held
  exact ⟨fresh.imported, descriptor⟩

namespace Client

variable {s : Surroundings} {fd : Int32} {l : Ledger} {c : Client} {d : Descriptor} {key : MemoryRef}
  {e : Registration}

theorem step_register_imports (keyed : d.key? = some key) (free : c.registration? key = none)
    (ok : (c.step (.register d)).1.isOk) :
    (c.step (.register d)).2.process.Imported c.process.nextObject d ∧
      (c.step (.register d)).2.registration? key = some ⟨c.process.nextObject, 2⟩ := by
  obtain ⟨p, _ | a, holds, cards⟩ := c
  · cases ok
  have unknown : a.registry.contains key = false := by
    rw [Registry.contains, Table.contains, show a.registry.entries.get? key = none from free]
    rfl
  unfold step onAllocator at ok ⊢
  dsimp only at ok ⊢
  rcases eq : (Allocator.register d).run.run a p with ⟨⟨_ | _, a'⟩, p'⟩ <;> rw [eq] at ok
  · cases ok
  · exact Allocator.register_imports keyed unknown eq

/-! ## Locking -/

/-- What a call on a registered object answers, and what it leaves behind. -/
theorem onBuffer_ok {α : Type} (kept : c.Kept s fd l) (keyed : d.key? = some key)
    (known : c.registration? key = some e) {x : ExceptT Error ObjectM α}
    {P : BufferObject → Except Error α → BufferObject → Prop}
    (stays : ∀ o : BufferObject, o.StaysBacked s fd (x.run.run o) (P o)) {answer : α} {c' : Client}
    (eq : c.onAllocator (Allocator.onBuffer d x) = (.ok answer, c')) :
    ∃ sh sh' l', c.process.objects.get? e.object = some sh ∧
      c'.process.objects.get? e.object = some sh' ∧ c'.process.host.kernel.Audited s l' ∧
      sh'.object.Backed s fd l' ∧ P sh.object (.ok answer) sh'.object := by
  obtain ⟨others, process⟩ := kept.process
  obtain ⟨p, _ | a, holds, cards⟩ := c
  · cases known
  have found : a.lookup d = .ok e.object := by
    have entry : a.registry.get? key = some e.object := congrArg (Option.map _) known
    simp [Allocator.lookup, Allocator.keyOf, keyed, entry, bind, Except.bind]
  unfold onAllocator at eq
  dsimp only at eq process
  rw [Allocator.onBuffer_run, found] at eq
  dsimp only at eq
  cases held : p.objects.get? e.object with
  | none =>
    rw [Process.onObject_none held] at eq
    cases eq
  | some sh =>
    rw [Process.onObject_some held] at eq
    obtain ⟨-, l', audited, ⟨-, backed⟩, holds⟩ := stays sh.object l (process.card_of_get? held)
      (process.backed _ sh held) p.host process.audited
    rcases ran : x.run.run sh.object p.host with ⟨⟨outcome, o⟩, h⟩
    rw [ran] at audited backed holds eq
    cases eq
    exact ⟨sh, { sh with object := o }, l', rfl, Table.get?_insert_self .., audited, backed, holds⟩

/-- What a client relies on that locks, by its handle, the object `id` that it imported with the handle
`d`, which covers so many bytes. -/
structure Bounded (s : Surroundings) (d : Descriptor) (covered : UInt32) (key : MemoryRef)
    (id : ObjectId) (c : Client) : Prop where
  /-- The address is that of a mapping of the whole object, which is as long as the handle says if the
  object is. -/
  lock : ∀ d' usage region address c', d'.key? = some key →
    c.step (.lock d' usage region) = (.ok (.address (some address)), c') →
      ∃ m range object, address = .start m ∧ c'.process.Maps s d id m range object ∧
        (covered.toUInt64 ≤ object.size → covered.toUInt64 ≤ range.length)
  /-- The planes are in such a mapping just if it reaches to the end of the last one, and so they are if
  the object is as long as the handle says, unless the handle claims more luma lines than it covers. -/
  planar : ∀ d' usage region planes c', d'.key? = some key →
    c.step (.lockPlanar d' usage region) = (.ok (.planar planes), c') →
      ∃ m range object, planes = .at (.start m) d.stride d.planarHeight ∧
        c'.process.Maps s d id m range object ∧
        (c'.process.host.kernel.Reaches planes d.planarHeight ↔
          d.planesEnd ≤ range.length.toNat) ∧
        ∀ g, d.format.geometry? d.width d.height = some g → d.planarHeight ≤ g.planarHeight →
          covered.toUInt64 ≤ object.size → c'.process.host.kernel.Reaches planes d.planarHeight

theorem replying_ok {α : Type} {f : α → Reply} {result : Except Error α × Client} {reply : Reply}
    {c' : Client} (eq : replying f result = (.ok reply, c')) :
    ∃ answer, result = (.ok answer, c') ∧ f answer = reply := by
  obtain ⟨_ | answer, c₁⟩ := result <;> cases eq
  exact ⟨answer, rfl, rfl⟩

theorem Kept.bounded (kept : c.Kept s fd l) (known : c.registration? key = some e)
    (imported : c.process.Imported e.object d) {covered : UInt32}
    (covers : d.byteSize? = some covered) : c.Bounded s d covered key e.object := by
  -- The lock itself is a call too: the object has its handle still when it is mapped.
  have keeps (op : Operation) : (c.step op).2.process.Imported e.object d :=
    imported.evolves (c.step_evolves op)
  constructor
  · intro d' usage region address c' keyed eq
    have keeps := keeps (.lock d' usage region)
    rw [eq] at keeps
    obtain ⟨answer, eq, same⟩ := replying_ok eq
    cases same
    obtain ⟨sh, sh', l', -, held, audited, backed, addressed⟩ :=
      onBuffer_ok kept keyed known (fun o => o.lock_backed usage region) eq
    obtain ⟨b, m, found, mapping, rfl⟩ := addressed address rfl
    obtain ⟨range, object, maps⟩ := backed.maps audited held found mapping
    rw [(keeps.object sh' held).2] at maps
    exact ⟨m.id, range, object, rfl, maps, maps.sized.covers covers⟩
  · intro d' usage region planes c' keyed eq
    have keeps := keeps (.lockPlanar d' usage region)
    rw [eq] at keeps
    obtain ⟨answer, eq, same⟩ := replying_ok eq
    cases same
    obtain ⟨sh, sh', l', held₀, held, audited, backed, resolved⟩ :=
      onBuffer_ok kept keyed known (fun o => o.lockPlanar_backed usage region) eq
    rw [(imported.object sh held₀).2] at resolved
    obtain ⟨format, b, m, found, mapping, rfl⟩ := resolved planes rfl
    obtain ⟨range, object, maps⟩ := backed.maps audited held found mapping
    rw [(keeps.object sh' held).2] at maps
    have reaches := Kernel.reaches_iff maps.live d
    refine ⟨m.id, range, object, rfl, maps, reaches, fun g geometry lines enough => ?_⟩
    have long : covered.toNat ≤ range.length.toNat := by
      simpa using UInt64.le_iff_toNat_le.1 (maps.sized.covers covers enough)
    exact reaches.2 (Nat.le_trans (d.planesEnd_le format geometry lines covers) long)

/-- An imported object covers some bytes. -/
theorem Kept.byteSize (kept : c.Kept s fd l) {id : ObjectId} (imported : c.process.Imported id d)
    {sh : Shared} (held : c.process.objects.get? id = some sh) :
    ∃ covered, d.byteSize? = some covered := by
  obtain ⟨others, process⟩ := kept.process
  obtain ⟨isImported, rfl⟩ := imported.object sh held
  exact Option.isSome_iff_exists.1 ((process.backed id sh held).covers isImported)

/-- Whatever fails, a handle with which an object is imported covers some number of bytes, and as long as
the object is registered, locks by any handle with its key map the whole of it and answer addresses in
that mapping. The usual openers and the standard table are such as is asked for here
(`Opener.ofConfig_tidy`, `Opener.Tidy.reporting`, `BackendTable.standard_allDumb`). -/
theorem imported_bounds (w : World) (script : Script) {opener : Opener} (tidy : opener.Tidy)
    {table : BackendTable} (dumb : table.AllDumb) (before : List Operation) {d : Descriptor}
    {key : MemoryRef} (keyed : d.key? = some key) :
    let c := (start (w.process script).host opener table).run before
    let c' := (c.step (.register d)).2
    c.registration? key = none → (c.step (.register d)).1.isOk →
      c'.registration? key = some ⟨c.process.nextObject, 2⟩ ∧
      ∃ covered, d.byteSize? = some covered ∧ ∀ after references,
        (c'.run after).registration? key = some ⟨c.process.nextObject, references⟩ →
          (c'.run after).Bounded w.surroundings d covered key c.process.nextObject := by
  intro c c' free ok
  obtain ⟨imported, known⟩ := step_register_imports keyed free ok
  have inOrder : c.InOrder := (start_inOrder _ opener table).run before
  obtain ⟨fd, l, kept⟩ : ∃ fd l, c.Kept w.surroundings fd l :=
    (start_kept w.kernel_audited tidy dumb 0).run before
  obtain ⟨fd', l', kept'⟩ := step_kept kept (.register d)
  obtain ⟨-, cell, found, -⟩ := (inOrder.step (.register d)).consistent.entry key _ known
  obtain ⟨sh, held, -⟩ := Option.map_eq_some_iff.1 found
  obtain ⟨covered, covers⟩ := kept'.byteSize imported held
  refine ⟨known, covered, covers, fun after references known' => ?_⟩
  obtain ⟨fd'', l'', kept''⟩ := kept'.run after
  exact kept''.bounded known' (imported.evolves (run_evolves _ after)) covers

/-- A client whose card has the driver `vkms`, in a world where another process has allocated a page of
memory and two pages, and has named them 7 and 8. -/
def receiving : Client :=
  start (({ cards := [{ driver := [118, 107, 109, 115] }]
            objects := [{ name := 7, size := 4096 }, { name := 8, size := 8192 }] } : World).process
    {}).host (Opener.ofConfig { path := "/dev/dri/card0" }).reporting .standard

/-- A planar buffer in the two pages. -/
def twoPages : Descriptor :=
  { width := 64, height := 64, stride := 64, format := .ycbcr420, usage := .swReadOften
    memory := some (.name 8) }

/-- Both planes of a buffer are reached that is as large as its handle says. -/
theorem two_pages_reached :
    ∃ c, (receiving.step (.register twoPages)).2.step
        (.lockPlanar twoPages .swReadOften { width := 64, height := 64 }) =
          (.ok (.planar (.at (.start 1) 64 64)), c) ∧
      c.process.host.kernel.Reaches (.at (.start 1) 64 64) 64 := by
  have keyed : twoPages.key? = some (.name 8) := rfl
  have ok : (receiving.step (.register twoPages)).1.isOk := by decide +kernel
  obtain ⟨known, covered, covers, bounded⟩ := imported_bounds
    { cards := [{ driver := [118, 107, 109, 115] }]
      objects := [{ name := 7, size := 4096 }, { name := 8, size := 8192 }] }
    {} (Opener.ofConfig_tidy { path := "/dev/dri/card0" }).reporting BackendTable.standard_allDumb []
    keyed rfl ok
  have answer : ((receiving.step (.register twoPages)).2.step
      (.lockPlanar twoPages .swReadOften { width := 64, height := 64 })).1 =
        .ok (.planar (.at (.start 1) 64 64)) := by decide +kernel
  refine ⟨_, Prod.ext answer rfl, ?_⟩
  obtain ⟨m, range, object, same, maps, reaches, -⟩ :=
    (bounded [] 2 known).planar twoPages _ _ _ _ keyed (Prod.ext answer rfl)
  obtain rfl : 1 = m := Base.mapping.inj (congrArg (·.y.base) same)
  have live : ((receiving.step (.register twoPages)).2.step (.lockPlanar twoPages .swReadOften
      { width := 64, height := 64 })).2.process.host.kernel.mappings.get? 1 =
        some ⟨8192, true, some (1, 0)⟩ := by decide +kernel
  cases live.symm.trans maps.live
  exact reaches.2 (by decide +kernel)

/-- A buffer of four pages, if its handle is to be believed, in the one page. -/
def fourPages : Descriptor :=
  { width := 64, height := 64, stride := 256, format := .rgba8888, usage := .swReadOften
    memory := some (.name 7) }

/-- A handle is accepted that says more than there is, and the mapping of a lock is then shorter than
the handle says. -/
theorem smaller_than_described :
    ∃ c c' range covered, receiving.step (.register fourPages) = (.ok .done, c) ∧
      c.step (.lock fourPages .swReadOften { width := 64, height := 64 }) =
        (.ok (.address (some (.start 1))), c') ∧
      c'.process.host.kernel.mappings.get? 1 = some range ∧ fourPages.byteSize? = some covered ∧
      range.length < covered.toUInt64 :=
  ⟨_, _, ⟨4096, true, some (0, 0)⟩, 16384, Prod.ext (by decide +kernel) rfl,
    Prod.ext (by decide +kernel) rfl, by decide +kernel, by decide +kernel, by decide⟩

end Client

end GraphicsBuffers

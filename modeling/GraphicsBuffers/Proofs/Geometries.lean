import GraphicsBuffers.Backend.Dumb
import GraphicsBuffers.Backend.Scripted
import GraphicsBuffers.Proofs.Objects
import GraphicsBuffers.Proofs.PlaneBounds
import Mathlib.Order.Bounds.Basic
/-!
# Which geometries there are

An `Extent` is a geometry in numbers of any size. Every width and height have one in every format, the least
there can be (`Extent.Least`), and words give that one whenever it fits in them and none otherwise
(`PixelFormat.geometry?_isSome`). An allocation asks its backend for memory exactly if the tight lines fit
besides, and all of them together; the backend then finds the same geometry again
(`BufferObject.create_asks_iff`).
-/

namespace GraphicsBuffers

open Kernel (roundUp le_roundUp)

/-! ## Rounding -/

/-- What is a multiple is not below a number as soon as it is not below the number rounded up. -/
theorem Kernel.roundUp_le_iff {n m unit : Nat} (positive : 0 < unit) (multiple : unit ∣ m) :
    roundUp n unit ≤ m ↔ n ≤ m := by
  refine ⟨(le_roundUp n positive).trans, fun below => ?_⟩
  obtain ⟨q, rfl⟩ := multiple
  obtain ⟨r, eq⟩ := dvd_roundUp n positive
  have close := roundUp_lt n positive
  rw [eq] at close ⊢
  refine Nat.mul_le_mul_left unit (Nat.le_of_lt_succ ((Nat.mul_lt_mul_left positive).1 ?_))
  calc unit * r
    _ < n + unit := close
    _ ≤ unit * q + unit := Nat.add_le_add_right below unit

theorem Kernel.roundUp_isLeast (n : Nat) {unit : Nat} (positive : 0 < unit) :
    IsLeast {m | unit ∣ m ∧ n ≤ m} (roundUp n unit) :=
  ⟨⟨dvd_roundUp n positive, le_roundUp n positive⟩,
    fun _ ⟨multiple, below⟩ => (roundUp_le_iff positive multiple).2 below⟩

/-- Words end at a multiple of every power of two among them, so no word rounds up to a number past them
unless adding to it carries. -/
theorem Word.align?_eq_some {a unit b : UInt32} {k : Nat} (power : unit.toNat = 2 ^ k) :
    align? a unit = some b ↔ b.toNat = roundUp a.toNat unit.toNat := by
  refine ⟨toNat_align power, fun rounded => ?_⟩
  have positive : 0 < unit.toNat := power ▸ Nat.two_pow_pos k
  have word : 2 ^ k < 2 ^ 32 := power ▸ unit.toNat_lt
  have ends : unit.toNat ∣ 2 ^ 32 :=
    power ▸ Nat.pow_dvd_pow 2 ((Nat.pow_lt_pow_iff_right Nat.one_lt_two).1 word).le
  have last : unit.toNat ∣ 2 ^ 32 - unit.toNat := Nat.dvd_sub ends (Nat.dvd_refl _)
  have below : roundUp a.toNat unit.toNat ≤ 2 ^ 32 - unit.toNat := by
    -- The next multiple would be past all words.
    by_contra above
    obtain ⟨q, ends⟩ := ends
    obtain ⟨r, multiple⟩ := Kernel.dvd_roundUp a.toNat positive
    have fits := b.toNat_lt
    rw [rounded, multiple, ends] at fits
    rw [multiple, ends, ← Nat.mul_sub_one, Nat.not_le] at above
    have less := (Nat.mul_lt_mul_left positive).1 fits
    have more := (Nat.mul_lt_mul_left positive).1 above
    omega
  have one : (1 : UInt32) ≤ unit := UInt32.le_iff_toNat_le.2 positive
  have carries : a.toNat + (unit - 1).toNat < 2 ^ 32 := by
    have room := (Kernel.roundUp_le_iff positive last).1 below
    have size := unit.toNat_lt
    rw [UInt32.toNat_sub_of_le _ _ one, show (1 : UInt32).toNat = 1 from rfl]
    omega
  obtain ⟨sum, added⟩ := add?_of_lt carries
  have aligned : align? a unit = some (sum &&& ~~~(unit - 1)) := Option.map_eq_some_iff.2 ⟨sum, added, rfl⟩
  rw [aligned, UInt32.toNat_inj.1 ((toNat_align power aligned).trans rounded.symm)]

/-! ## Extents -/

/-- The numbers of a geometry, however large. -/
structure Extent where
  width : Nat
  /-- Lines of the first plane. -/
  luma : Nat
  /-- All lines. -/
  lines : Nat

/-- The extent of a geometry. -/
def Geometry.extent (g : Geometry) : Extent := ⟨g.width.toNat, g.planarHeight.toNat, g.height.toNat⟩

namespace Extent

/-- All of it is in 32-bit words. -/
structure Fits (e : Extent) : Prop where
  width : e.width < 2 ^ 32
  luma : e.luma < 2 ^ 32
  lines : e.lines < 2 ^ 32

/-- Not only that, but so are the bytes of a tight line and of all lines. -/
structure FitsTightly (e : Extent) (f : PixelFormat) : Prop extends e.Fits where
  line : e.width * f.bytesPerPixel.toNat < 2 ^ 32
  bytes : e.width * f.bytesPerPixel.toNat * e.lines < 2 ^ 32

/-- The least extent of so many pixels: what is not below them and a multiple of what the format needs, with
the lines of its chroma planes. -/
structure Least (e : Extent) (f : PixelFormat) (width height : UInt32) : Prop where
  width : IsLeast {n | f.alignment.width.toNat ∣ n ∧ width.toNat ≤ n} e.width
  luma : IsLeast {n | f.alignment.height.toNat ∣ n ∧ height.toNat ≤ n} e.luma
  lines : e.lines = e.luma + f.chromaRows e.luma

end Extent

namespace PixelFormat

variable {f : PixelFormat} {width height : UInt32} {g : Geometry}

theorem alignment_pos (f : PixelFormat) : 0 < f.alignment.width.toNat ∧ 0 < f.alignment.height.toNat := by
  cases f <;> decide

/-- The extent of so many pixels. -/
def extent (f : PixelFormat) (width height : UInt32) : Extent :=
  let luma := roundUp height.toNat f.alignment.height.toNat
  ⟨roundUp width.toNat f.alignment.width.toNat, luma, luma + f.chromaRows luma⟩

theorem extent_least (f : PixelFormat) (width height : UInt32) :
    (f.extent width height).Least f width height :=
  ⟨Kernel.roundUp_isLeast _ f.alignment_pos.1, Kernel.roundUp_isLeast _ f.alignment_pos.2, rfl⟩

/-- What fits in words has a geometry, and that is exact. -/
theorem geometry?_eq_some :
    f.geometry? width height = some g ↔ g.extent = f.extent width height := by
  constructor
  · intro eq
    have exact := geometry_exact eq
    rw [Geometry.extent, extent, exact.height, exact.width, exact.planarHeight]
  · intro eq
    obtain ⟨i, j, wide, high⟩ := f.alignment_powers
    simp only [Geometry.extent, extent, Extent.mk.injEq] at eq
    obtain ⟨w, luma, lines⟩ := eq
    rw [← luma] at lines
    have chroma : (f.chromaLines g.planarHeight).toNat = f.chromaRows g.planarHeight.toNat := by
      cases f <;> simp [chromaLines, chromaRows]
    have sum : Word.add? g.planarHeight (f.chromaLines g.planarHeight) = some g.height :=
      Word.add?_eq_some.2 (by rw [lines, chroma])
    unfold geometry?
    rw [(Word.align?_eq_some wide).2 w, (Word.align?_eq_some high).2 luma]
    dsimp only [Option.bind_eq_bind, Option.bind_some]
    rw [sum]
    rfl

theorem geometry?_isSome : (f.geometry? width height).isSome ↔ (f.extent width height).Fits := by
  constructor
  · intro there
    obtain ⟨g, eq⟩ := Option.isSome_iff_exists.1 there
    rw [← geometry?_eq_some.1 eq]
    exact ⟨g.width.toNat_lt, g.planarHeight.toNat_lt, g.height.toNat_lt⟩
  · rintro ⟨wide, luma, lines⟩
    have eq : f.geometry? width height = some ⟨.ofNat (f.extent width height).width,
        .ofNat (f.extent width height).lines, .ofNat (f.extent width height).luma⟩ :=
      geometry?_eq_some.2 (by
        rw [Geometry.extent, UInt32.toNat_ofNat_of_lt' wide, UInt32.toNat_ofNat_of_lt' luma,
          UInt32.toNat_ofNat_of_lt' lines])
    rw [eq]
    rfl

/-- The last width with a geometry is the last word that is a multiple of what widths are rounded to. -/
example : (yv12.geometry? 4294967264 1).isSome ∧ yv12.geometry? 4294967265 1 = none := by decide

/-- What is rounded already has the same geometry. -/
theorem geometry?_again (eq : f.geometry? width height = some g) :
    f.geometry? g.width g.planarHeight = some g := by
  have exact := geometry_exact eq
  obtain ⟨wide, high⟩ := f.alignment_pos
  have width : roundUp g.width.toNat f.alignment.width.toNat = g.width.toNat :=
    Kernel.roundUp_of_dvd wide (exact.width ▸ Kernel.dvd_roundUp _ wide)
  have luma : roundUp g.planarHeight.toNat f.alignment.height.toNat = g.planarHeight.toNat :=
    Kernel.roundUp_of_dvd high (exact.planarHeight ▸ Kernel.dvd_roundUp _ high)
  exact geometry?_eq_some.2 (by rw [Geometry.extent, extent, width, luma, exact.height])

end PixelFormat

theorem Geometry.minSize?_isSome {g : Geometry} {f : PixelFormat} :
    (g.minSize? f).isSome ↔ g.width.toNat * f.bytesPerPixel.toNat < 2 ^ 32 ∧
      g.width.toNat * f.bytesPerPixel.toNat * g.height.toNat < 2 ^ 32 := by
  constructor
  · intro there
    obtain ⟨size, eq⟩ := Option.isSome_iff_exists.1 there
    obtain ⟨line, tight, eq⟩ := Option.bind_eq_some_iff.1 eq
    rw [← Word.mul?_eq_some.1 tight, ← Word.mul?_eq_some.1 eq]
    exact ⟨line.toNat_lt, size.toNat_lt⟩
  · rintro ⟨line, bytes⟩
    obtain ⟨tight, eq⟩ := Word.mul?_of_lt line
    rw [← Word.mul?_eq_some.1 eq] at bytes
    obtain ⟨size, eq'⟩ := Word.mul?_of_lt bytes
    rw [minSize?, minStride?, eq]
    exact Option.isSome_iff_exists.2 ⟨size, eq'⟩

/-! ## Allocations -/

/-- With a geometry found, only the kernel fails the backend. -/
theorem Dumb.create_finds {d : Descriptor} {g : Geometry}
    (geometry : d.format.geometry? d.width d.height = some g) (fd : Int32) (h : Host) :
    ((create fd d).run h).1 ≠ .error .outOfMemory := by
  unfold create
  rw [geometry]
  dsimp only
  rw [run_bind_attempt, run_explain]
  rcases (Host.exchange fd (.createDumb g.width g.height (d.format.bytesPerPixel * 8))).run h with
    ⟨_ | dumb, h₁⟩
  · exact fun same => nomatch same
  dsimp only
  rw [run_bind_attempt, run_explain]
  rcases (Host.exchange fd (.gemFlink dumb.handle)).run h₁ with ⟨_ | name, h₂⟩ <;>
    exact fun same => nomatch same

/-- A host on which the scripted backend only notes what it is asked. -/
def Host.watched : Host := { script := { allocateFailure := some .outOfMemory } }

namespace BufferObject

variable {width height : UInt32} {f : PixelFormat} {usage : Usage}

/-- What is made of the answer of a backend that was asked for memory. -/
def answered (backend : Backend) (card : Card) (request : Descriptor) :
    Except BackendError BackendBuffer × Host → Except Error BufferObject × Host
  | (.error e, h) => (.error (allocationError e),
      h.reported (.allocationFailed request.width request.height request.format e))
  | (.ok buffer, h) =>
    if buffer.memory.isValid then
      (ofBuffer backend card request buffer).finish
        (h.reported (.created request.width request.height request.format buffer.memory buffer.stride))
    else
      (.error .invalidHandle,
        ((backend.free buffer).run (h.reported (.invalidMemory backend.name buffer.memory))).2)

/-- An allocation asks its backend, whichever it is, for the memory of a descriptor, before anything else
happens. -/
def Asks (width height : UInt32) (f : PixelFormat) (usage : Usage) (request : Descriptor) : Prop :=
  ∀ backend card h, (create backend card width height f usage).run h =
    answered backend card request ((backend.allocate request).run h)

/-- An allocation is refused without a call of its backend or of the kernel. -/
def Refuses (width height : UInt32) (f : PixelFormat) (usage : Usage) : Prop :=
  ∀ backend card h, (create backend card width height f usage).run h =
    (.error .outOfMemory, h.reported (.tooLarge width height f))

theorem request?_eq_some {request : Descriptor} :
    request? width height f usage = some request ↔
      ∃ g, f.geometry? width height = some g ∧ g.extent.FitsTightly f ∧
        request = { width, height, planarHeight := g.planarHeight, format := f, usage } := by
  have tightly (g : Geometry) : (g.minSize? f).isSome ↔ g.extent.FitsTightly f :=
    Geometry.minSize?_isSome.trans ⟨fun ⟨line, bytes⟩ =>
      ⟨⟨g.width.toNat_lt, g.planarHeight.toNat_lt, g.height.toNat_lt⟩, line, bytes⟩,
      fun fits => ⟨fits.line, fits.bytes⟩⟩
  simp only [request?, Option.map_eq_some_iff, Option.filter_eq_some_iff, tightly, and_assoc,
    eq_comm (b := request)]

theorem request?_isSome :
    (request? width height f usage).isSome ↔ (f.extent width height).FitsTightly f := by
  constructor
  · intro there
    obtain ⟨request, eq⟩ := Option.isSome_iff_exists.1 there
    obtain ⟨g, geometry, fits, -⟩ := request?_eq_some.1 eq
    exact PixelFormat.geometry?_eq_some.1 geometry ▸ fits
  · intro fits
    obtain ⟨g, geometry⟩ := Option.isSome_iff_exists.1 (PixelFormat.geometry?_isSome.2 fits.toFits)
    rw [← PixelFormat.geometry?_eq_some.1 geometry] at fits
    exact Option.isSome_iff_exists.2 ⟨_, request?_eq_some.2 ⟨g, geometry, fits, rfl⟩⟩

theorem asks_of_request {request : Descriptor}
    (eq : request? width height f usage = some request) : Asks width height f usage request := by
  intro backend card h
  obtain ⟨g, -, -, rfl⟩ := request?_eq_some.1 eq
  rw [create_run, eq]
  dsimp only
  generalize (backend.allocate _).run h = outcome
  rcases outcome with ⟨_ | _, _⟩ <;> rfl

theorem refuses_of_none (eq : request? width height f usage = none) : Refuses width height f usage := by
  intro backend card h
  rw [create_run, eq]

/-- The call is noted where calls are noted. -/
theorem Asks.noted {request : Descriptor} (asks : Asks width height f usage request) (card : Card) :
    ((create .scripted card width height f usage).run Host.watched).2.kernel.trace =
      [.backend (.allocate request)] := by
  rw [asks]
  rfl

theorem Asks.unique {request request' : Descriptor} (asks : Asks width height f usage request)
    (asks' : Asks width height f usage request') : request = request' := by
  have same := (asks.noted ⟨0, ""⟩).symm.trans (asks'.noted ⟨0, ""⟩)
  exact BackendCall.allocate.inj (TraceEntry.backend.inj (List.head_eq_of_cons_eq same))

theorem Refuses.not_asks {request : Descriptor} (refuses : Refuses width height f usage) :
    ¬ Asks width height f usage request := by
  intro asks
  have noted := asks.noted ⟨0, ""⟩
  rw [refuses] at noted
  exact nomatch noted

/-- Whatever the format and the pixels: there is a geometry exactly if the least extent fits in words, it is
that one, and rounding it again changes nothing. An allocation asks its backend exactly if the tight lines
fit too, each and all together, and is otherwise refused before anything is called; where it asks, the
dumb-buffer backend does not miss the geometry, on any card in any state. -/
theorem create_asks_exactly (f : PixelFormat) (width height : UInt32) :
    ∃ e : Extent, e.Least f width height ∧
      ((f.geometry? width height).isSome ↔ e.Fits) ∧
      (∀ g, f.geometry? width height = some g →
        g.extent = e ∧ f.geometry? g.width g.planarHeight = some g) ∧
      ∀ usage,
        ((∃ request, Asks width height f usage request) ↔ e.FitsTightly f) ∧
        (¬ e.FitsTightly f → Refuses width height f usage) ∧
        ∀ request, Asks width height f usage request →
          ∃ g, f.geometry? width height = some g ∧
            request = { width, height, planarHeight := g.planarHeight, format := f, usage } ∧
            ∀ fd h, (((Backend.dumb fd).allocate request).run h).1 ≠ .error .outOfMemory := by
  refine ⟨f.extent width height, f.extent_least width height, PixelFormat.geometry?_isSome,
    fun g eq => ⟨PixelFormat.geometry?_eq_some.1 eq, PixelFormat.geometry?_again eq⟩, fun usage => ?_⟩
  have asked : (∃ request, request? width height f usage = some request) ↔
      (f.extent width height).FitsTightly f := Option.isSome_iff_exists.symm.trans request?_isSome
  have refused (large : ¬ (f.extent width height).FitsTightly f) : Refuses width height f usage :=
    refuses_of_none (Option.eq_none_iff_forall_ne_some.2 fun request eq => large (asked.1 ⟨request, eq⟩))
  have fits {request : Descriptor} (asks : Asks width height f usage request) :
      (f.extent width height).FitsTightly f := by
    by_contra large
    exact (refused large).not_asks asks
  refine ⟨⟨fun ⟨request, asks⟩ => fits asks, fun tight => ?_⟩, refused, fun request asks => ?_⟩
  · obtain ⟨request, eq⟩ := asked.2 tight
    exact ⟨request, asks_of_request eq⟩
  · obtain ⟨request', eq⟩ := asked.2 (fits asks)
    obtain rfl := asks.unique (asks_of_request eq)
    obtain ⟨g, geometry, -, same⟩ := request?_eq_some.1 eq
    subst same
    exact ⟨g, geometry, rfl, Dumb.create_finds geometry⟩

end BufferObject

end GraphicsBuffers

import GraphicsBuffers.Descriptor
import GraphicsBuffers.Proofs.Replies
import Mathlib.Data.Nat.Bitwise
/-!
# Where the planes of a buffer are

`Descriptor.exactPlanes` says where the planes of a linear buffer begin and end, in numbers that do not
wrap. The layout that is worked out in 32-bit words is that one wherever it exists
(`linearPlanes_describes`), and it exists unless a plane begins past 32 bits (`linearPlanes_isSome`).
The planes of a buffer that was allocated for its geometry lie one behind the other in its memory
(`Allocated.within`), whatever its lines were rounded up to, as long as that is a power of two.
-/

namespace GraphicsBuffers

open Kernel (roundUp le_roundUp)

/-! ## Rounding -/

theorem Kernel.roundUp_of_dvd {n unit : Nat} (positive : 0 < unit) (multiple : unit ∣ n) :
    roundUp n unit = n := by
  obtain ⟨q, rfl⟩ := multiple
  rw [roundUp, if_neg (Nat.ne_of_gt positive), Nat.add_sub_assoc positive, Nat.mul_add_div positive,
    Nat.div_eq_of_lt (Nat.sub_lt positive Nat.one_pos), Nat.add_zero, Nat.mul_comm]

theorem Kernel.dvd_roundUp (n : Nat) {unit : Nat} (positive : 0 < unit) : unit ∣ roundUp n unit := by
  rw [roundUp, if_neg (Nat.ne_of_gt positive)]
  exact Nat.dvd_mul_left ..

/-- Rounding up to a power of two spares the multiples of another. -/
theorem Kernel.two_pow_dvd_roundUp {n i : Nat} (multiple : 2 ^ i ∣ n) (k : Nat) :
    2 ^ i ∣ roundUp n (2 ^ k) := by
  rcases Nat.le_total i k with finer | coarser
  · exact (Nat.pow_dvd_pow 2 finer).trans (dvd_roundUp n (Nat.two_pow_pos k))
  · rw [roundUp_of_dvd (Nat.two_pow_pos k) ((Nat.pow_dvd_pow 2 coarser).trans multiple)]
    exact multiple

namespace Word

theorem mul?_of_lt {a b : UInt32} (fits : a.toNat * b.toNat < 2 ^ 32) : ∃ c, mul? a b = some c :=
  ⟨_, if_pos fits⟩

theorem add?_of_lt {a b : UInt32} (fits : a.toNat + b.toNat < 2 ^ 32) : ∃ c, add? a b = some c :=
  ⟨_, if_pos fits⟩

/-- Clearing the lowest `k` bits of a word. -/
theorem toNat_clear (a unit : UInt32) {k : Nat} (power : unit.toNat = 2 ^ k) :
    (a &&& ~~~(unit - 1)).toNat = a.toNat / 2 ^ k * 2 ^ k := by
  have one : (1 : UInt32) ≤ unit := UInt32.le_iff_toNat_le.2 (power ▸ Nat.two_pow_pos k)
  have mask : (~~~(unit - 1)).toNat = 2 ^ 32 - (2 ^ k - 1 + 1) := by
    rw [UInt32.toNat_not, UInt32.toNat_sub_of_le _ _ one, power, Nat.sub_sub, Nat.add_comm 1]
    rfl
  have low : 2 ^ k - 1 < 2 ^ 32 := Nat.lt_of_le_of_lt (Nat.sub_le ..) (power ▸ unit.toNat_lt)
  apply Nat.eq_of_testBit_eq
  intro i
  have high : a.toNat.testBit i = true → i < 32 := fun set =>
    (Nat.pow_lt_pow_iff_right Nat.one_lt_two).1
      (Nat.lt_of_le_of_lt (Nat.ge_two_pow_of_testBit set) a.toNat_lt)
  rw [UInt32.toNat_and, Nat.testBit_and, mask, Nat.testBit_two_pow_sub_succ low,
    Nat.testBit_two_pow_sub_one, Nat.testBit_mul_two_pow, Nat.testBit_div_two_pow]
  by_cases above : k ≤ i
  · simp only [above, decide_true, Bool.true_and, Nat.sub_add_cancel above, Nat.not_lt.2 above,
      decide_false, Bool.not_false, Bool.and_true]
    cases set : a.toNat.testBit i with
    | false => rfl
    | true => simp [high set]
  · simp [above, Nat.lt_of_not_le above]

/-- Aligning rounds up. -/
theorem toNat_align {a unit b : UInt32} {k : Nat} (power : unit.toNat = 2 ^ k)
    (eq : align? a unit = some b) : b.toNat = roundUp a.toNat unit.toNat := by
  obtain ⟨sum, added, rfl⟩ := Option.map_eq_some_iff.1 eq
  have one : (1 : UInt32) ≤ unit := UInt32.le_iff_toNat_le.2 (power ▸ Nat.two_pow_pos k)
  have exact := add?_eq_some.1 added
  rw [UInt32.toNat_sub_of_le _ _ one, power] at exact
  rw [toNat_clear sum unit power, exact, power, roundUp, if_neg (Nat.two_pow_pos k).ne',
    Nat.add_sub_assoc (Nat.two_pow_pos k)]
  rfl

end Word

/-! ## Geometries -/

/-- Lines of all chroma planes together, below so many lines of luma. -/
def PixelFormat.chromaRows : PixelFormat → Nat → Nat
  | .yv12, luma | .ycrcb420Sp, luma | .ycbcr420, luma => luma / 2
  | .ycbcr422Sp, luma => luma
  | _, _ => 0

/-- A geometry is what its format's rounding makes of the pixels, and nothing in it wraps. -/
structure Geometry.Exact (f : PixelFormat) (width height : UInt32) (g : Geometry) : Prop where
  width : g.width.toNat = roundUp width.toNat f.alignment.width.toNat
  planarHeight : g.planarHeight.toNat = roundUp height.toNat f.alignment.height.toNat
  height : g.height.toNat = g.planarHeight.toNat + f.chromaRows g.planarHeight.toNat

theorem PixelFormat.alignment_powers (f : PixelFormat) :
    ∃ i j, f.alignment.width.toNat = 2 ^ i ∧ f.alignment.height.toNat = 2 ^ j := by
  cases f
  case yv12 => exact ⟨5, 1, rfl, rfl⟩
  case ycbcr422Sp | ycbcr422I => exact ⟨1, 0, rfl, rfl⟩
  case ycrcb420Sp | ycbcr420 => exact ⟨1, 1, rfl, rfl⟩
  all_goals exact ⟨0, 0, rfl, rfl⟩

theorem PixelFormat.bytesPerPixel_pos (f : PixelFormat) : 0 < f.bytesPerPixel.toNat := by
  cases f <;> decide

theorem PixelFormat.geometry_exact {f : PixelFormat} {width height : UInt32} {g : Geometry}
    (eq : f.geometry? width height = some g) : g.Exact f width height := by
  obtain ⟨i, j, wide, high⟩ := f.alignment_powers
  obtain ⟨w, aligned, eq⟩ := Option.bind_eq_some_iff.1 eq
  obtain ⟨luma, aligned', eq⟩ := Option.bind_eq_some_iff.1 eq
  obtain ⟨lines, sum, eq⟩ := Option.bind_eq_some_iff.1 eq
  cases eq
  refine ⟨Word.toNat_align wide aligned, Word.toNat_align high aligned', ?_⟩
  have exact := Word.add?_eq_some.1 sum
  rw [exact]
  congr 1
  cases f <;> simp [chromaLines, chromaRows]

namespace Geometry.Exact

variable {f : PixelFormat} {width height : UInt32} {g : Geometry}

/-- Rounding only adds lines. -/
theorem height_le (exact : g.Exact f width height) : height.toNat ≤ g.height.toNat := by
  obtain ⟨-, j, -, power⟩ := f.alignment_powers
  calc height.toNat
    _ ≤ roundUp height.toNat f.alignment.height.toNat := le_roundUp _ (power ▸ Nat.two_pow_pos j)
    _ = g.planarHeight.toNat := exact.planarHeight.symm
    _ ≤ g.height.toNat := exact.height ▸ Nat.le_add_right ..

/-- It adds none where there are none. -/
theorem height_pos (exact : g.Exact f width height) (high : g.height ≠ 0) : 0 < height.toNat := by
  obtain ⟨-, j, -, power⟩ := f.alignment_powers
  refine Nat.pos_of_ne_zero fun zero => high (UInt32.toNat_inj.1 ?_)
  have luma := exact.planarHeight
  rw [zero, Kernel.roundUp_of_dvd (power ▸ Nat.two_pow_pos j) (Nat.dvd_zero _)] at luma
  rw [exact.height, luma]
  cases f <;> rfl

end Geometry.Exact

/-! ## Planes -/

/-- So many lines of so many bytes, from an offset on. -/
structure Plane where
  offset : Nat
  pitch : Nat
  lines : Nat
  deriving DecidableEq

/-- Where the plane ends. -/
def Plane.finish (p : Plane) : Nat := p.offset + p.pitch * p.lines

/-- The planes of a linear buffer, as exact numbers. -/
def Descriptor.exactPlanes (d : Descriptor) : List Plane :=
  let stride := d.stride.toNat
  let luma := d.planarHeight.toNat
  let chroma := roundUp (stride / 2) 16
  match d.format with
  | .ycbcr420 | .ycrcb420Sp => [⟨0, stride, luma⟩, ⟨stride * luma, stride, luma / 2⟩]
  | .ycbcr422Sp => [⟨0, stride, luma⟩, ⟨stride * luma, stride, luma⟩]
  | .yv12 =>
    [⟨0, stride, luma⟩, ⟨stride * luma, chroma, luma / 2⟩,
     ⟨stride * luma + chroma * (luma / 2), chroma, luma / 2⟩]
  | _ => [⟨0, stride, luma⟩]

/-- Four numbers: the given ones, and zeros behind them. -/
def padded {α : Type} [OfNat α 0] (numbers : List α) : List α :=
  numbers ++ List.replicate (4 - numbers.length) 0

/-- A layout gives the planes, all of them in the object `handle`, and zeros for those there are not. -/
structure PlaneLayout.Describes (layout : PlaneLayout) (handle : UInt32) (planes : List Plane) :
    Prop where
  handles : layout.handles.toList = padded (planes.map fun _ => handle)
  pitches : layout.pitches.toList.map UInt32.toNat = padded (planes.map Plane.pitch)
  offsets : layout.offsets.toList.map UInt32.toNat = padded (planes.map Plane.offset)

/-- The planes are one behind the other in so many bytes. -/
structure Within (planes : List Plane) (size : Nat) : Prop where
  apart : planes.Pairwise fun p q => p.finish ≤ q.offset
  inside : ∀ p ∈ planes, p.finish ≤ size

namespace Descriptor

variable {d : Descriptor} {handle : UInt32} {layout : PlaneLayout}

/-- Half a line of luma never wraps when it is rounded up. -/
theorem toNat_chromaStride (d : Descriptor) :
    d.chromaStride.toNat = roundUp (d.stride.toNat / 2) 16 := by
  have below := d.stride.toNat_lt
  have cleared := Word.toNat_clear (d.stride / 2 + 15) 16 (k := 4) rfl
  have sum : (d.stride / 2 + 15).toNat = d.stride.toNat / 2 + 15 := by
    rw [UInt32.toNat_add, UInt32.toNat_div]
    exact Nat.mod_eq_of_lt (by simp; omega)
  rw [sum] at cleared
  exact cleared

/-- The layout, where there is one, is exact. -/
theorem linearPlanes_describes (eq : d.linearPlanes? handle = some layout) :
    layout.Describes handle d.exactPlanes := by
  obtain ⟨luma, fits, eq⟩ := Option.bind_eq_some_iff.1 eq
  have product := Word.mul?_eq_some.1 fits
  unfold exactPlanes
  cases format : d.format <;> rw [format] at eq <;> dsimp only at eq ⊢
  case yv12 =>
    obtain ⟨chroma, fits', eq⟩ := Option.bind_eq_some_iff.1 eq
    obtain ⟨second, sum, eq⟩ := Option.bind_eq_some_iff.1 eq
    cases eq
    have product' := Word.mul?_eq_some.1 fits'
    have total := Word.add?_eq_some.1 sum
    rw [UInt32.toNat_div, toNat_chromaStride] at product'
    exact ⟨rfl, by simp [padded, toNat_chromaStride], by simp [padded, product, product', total]⟩
  case ycbcr420 | ycrcb420Sp | ycbcr422Sp =>
    cases eq
    exact ⟨rfl, rfl, by simp [padded, product]⟩
  all_goals cases eq

/-- There is a layout for the formats with several planes, unless a plane begins past 32 bits. -/
theorem linearPlanes_isSome (d : Descriptor) (handle : UInt32) :
    (d.linearPlanes? handle).isSome ↔
      d.format.isPlanar ∧ ∀ p ∈ d.exactPlanes, p.offset < 2 ^ 32 := by
  constructor
  · intro there
    obtain ⟨layout, eq⟩ := Option.isSome_iff_exists.1 there
    refine ⟨?_, fun p mem => ?_⟩
    · obtain ⟨luma, -, eq⟩ := Option.bind_eq_some_iff.1 eq
      split at eq
      case h_5 => cases eq
      all_goals next format => rw [format]; rfl
    · -- The offset of the plane is one of the words of the layout.
      have listed : p.offset ∈ layout.offsets.toList.map UInt32.toNat := by
        rw [(linearPlanes_describes eq).offsets]
        exact List.mem_append_left _ (List.mem_map_of_mem mem)
      obtain ⟨word, -, same⟩ := List.mem_map.1 listed
      exact same ▸ word.toNat_lt
  · rintro ⟨planar, fits⟩
    unfold exactPlanes at fits
    unfold linearPlanes?
    cases format : d.format <;> rw [format] at planar fits <;> dsimp only at fits
    case yv12 =>
      simp only [List.forall_mem_cons] at fits
      obtain ⟨-, first, second, -⟩ := fits
      obtain ⟨luma, eq⟩ := Word.mul?_of_lt first
      have product := Word.mul?_eq_some.1 eq
      have lines : d.chromaStride.toNat * (d.planarHeight / 2).toNat =
          roundUp (d.stride.toNat / 2) 16 * (d.planarHeight.toNat / 2) := by
        rw [toNat_chromaStride, UInt32.toNat_div]
        rfl
      obtain ⟨chroma, eq'⟩ := Word.mul?_of_lt (lines ▸ Nat.lt_of_le_of_lt (Nat.le_add_left ..) second)
      have product' := Word.mul?_eq_some.1 eq'
      obtain ⟨last, eq''⟩ := Word.add?_of_lt (a := luma) (b := chroma) (by
        rw [product, product', lines]
        exact second)
      simp [eq, eq', eq'']
    case ycbcr420 | ycrcb420Sp | ycbcr422Sp =>
      simp only [List.forall_mem_cons] at fits
      obtain ⟨luma, eq⟩ := Word.mul?_of_lt fits.2.1
      simp [eq]
    all_goals cases planar

/-- The first plane alone is described where no more are known. -/
theorem single_describes (d : Descriptor) (handle : UInt32) :
    (PlaneLayout.single handle d.stride).Describes handle (d.exactPlanes.take 1) := by
  have first : ∃ lines, d.exactPlanes.take 1 = [⟨0, d.stride.toNat, lines⟩] := by
    unfold exactPlanes
    cases d.format <;> exact ⟨_, rfl⟩
  obtain ⟨lines, eq⟩ := first
  rw [eq]
  exact ⟨rfl, rfl, rfl⟩

end Descriptor

/-! ## Buffers that were allocated -/

/-- The memory of a buffer was allocated for the geometry of its pixels: its lines are tight lines
rounded up to a power of two, and so many bytes hold all of them. -/
structure Descriptor.Allocated (d : Descriptor) (g : Geometry) (size : Nat) : Prop where
  exact : g.Exact d.format d.width d.height
  luma : d.planarHeight = g.planarHeight
  pitch : ∃ k, d.stride.toNat =
    roundUp (g.width.toNat * d.format.bytesPerPixel.toNat) (2 ^ k)
  holds : d.stride.toNat * g.height.toNat ≤ size

namespace Descriptor.Allocated

variable {d : Descriptor} {g : Geometry} {size : Nat}

/-- A line has room for its pixels. -/
theorem tight (allocated : d.Allocated g size) :
    g.width.toNat * d.format.bytesPerPixel.toNat ≤ d.stride.toNat := by
  obtain ⟨k, pitch⟩ := allocated.pitch
  exact pitch ▸ le_roundUp _ (Nat.two_pow_pos k)

/-- All lines are in the memory. -/
theorem lines (allocated : d.Allocated g size) : d.stride.toNat * d.height.toNat ≤ size :=
  (Nat.mul_le_mul_left _ allocated.exact.height_le).trans allocated.holds

/-- Widths of the format with three planes are multiples of 32, and so are its lines, whatever they
are rounded up to; so two lines of chroma are as long as one of luma. -/
theorem chroma (allocated : d.Allocated g size) (format : d.format = .yv12) :
    2 * roundUp (d.stride.toNat / 2) 16 = d.stride.toNat := by
  obtain ⟨k, pitch⟩ := allocated.pitch
  have width : 2 ^ 5 ∣ g.width.toNat * d.format.bytesPerPixel.toNat := by
    rw [allocated.exact.width, format]
    exact (Kernel.dvd_roundUp _ (by decide)).mul_right _
  obtain ⟨q, multiple⟩ := pitch ▸ Kernel.two_pow_dvd_roundUp width k
  rw [Kernel.roundUp_of_dvd (by decide) ⟨q, by omega⟩]
  omega

/-- The planes are one behind the other in the memory. -/
theorem within (allocated : d.Allocated g size) : Within d.exactPlanes size := by
  have holds := allocated.holds
  have height := allocated.exact.height
  rw [← allocated.luma] at height
  rw [height, Nat.mul_add] at holds
  unfold exactPlanes
  cases format : d.format <;> rw [format] at holds
  case yv12 =>
    have chroma := allocated.chroma format
    have both : roundUp (d.stride.toNat / 2) 16 * (d.planarHeight.toNat / 2) +
        roundUp (d.stride.toNat / 2) 16 * (d.planarHeight.toNat / 2) =
          d.stride.toNat * (d.planarHeight.toNat / 2) := by
      rw [← Nat.two_mul, ← Nat.mul_assoc, chroma]
    constructor
    · simp [Plane.finish]
    · simp only [List.forall_mem_cons, Plane.finish, List.not_mem_nil, false_imp_iff, implies_true,
        and_true, PixelFormat.chromaRows] at holds ⊢
      omega
  all_goals
    constructor
    · simp [Plane.finish]
    · simp only [List.forall_mem_cons, Plane.finish, List.not_mem_nil, false_imp_iff, implies_true,
        and_true, PixelFormat.chromaRows] at holds ⊢
      omega

theorem stride_pos (allocated : d.Allocated g size) (wide : g.width ≠ 0) : 0 < d.stride.toNat := by
  have pixels : 0 < g.width.toNat := Nat.pos_of_ne_zero fun zero => wide (UInt32.toNat_inj.1 zero)
  exact Nat.lt_of_lt_of_le (Nat.mul_pos pixels d.format.bytesPerPixel_pos) allocated.tight

theorem luma_pos (allocated : d.Allocated g size) (high : g.height ≠ 0) :
    0 < d.planarHeight.toNat := by
  have height := allocated.exact.height
  rw [← allocated.luma] at height
  refine Nat.pos_of_ne_zero fun zero => high (UInt32.toNat_inj.1 ?_)
  rw [height, zero]
  cases d.format <;> rfl

/-- Each plane begins behind the one before, if there are pixels at all. -/
theorem increasing (allocated : d.Allocated g size) (wide : g.width ≠ 0) (high : g.height ≠ 0) :
    d.exactPlanes.Pairwise fun p q => p.offset < q.offset := by
  have stride : 0 < d.stride.toNat := allocated.stride_pos wide
  have luma : 0 < d.planarHeight.toNat := allocated.luma_pos high
  have first := Nat.mul_pos stride luma
  unfold exactPlanes
  cases format : d.format
  case yv12 =>
    have chroma := allocated.chroma format
    have even : 2 ∣ d.planarHeight.toNat := by
      rw [allocated.luma, allocated.exact.planarHeight, format]
      exact Kernel.dvd_roundUp _ (by decide)
    have second := Nat.mul_pos (show 0 < roundUp (d.stride.toNat / 2) 16 by omega)
      (show 0 < d.planarHeight.toNat / 2 by omega)
    simp only [List.pairwise_cons, List.forall_mem_cons, List.not_mem_nil, false_imp_iff, implies_true,
      List.Pairwise.nil, and_true]
    omega
  all_goals simp [first]

end Descriptor.Allocated

end GraphicsBuffers

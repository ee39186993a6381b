import GraphicsBuffers.Proofs.Allocations
/-!
# Strides in pixels

An allocation answers how many pixels lie from one line of the buffer to the next: the bytes from line to
line over the bytes of a pixel. Drivers round lines up to powers of two. Where a pixel takes a power of two
of bytes itself, each line begins that many pixels after the one before; where it takes three bytes, the
rest that is cut off in the division adds up from line to line (`Client.created_lines`).
-/

namespace GraphicsBuffers

/-! ## Lines -/

/-- Callers find the lines of a buffer of the geometry `g` by its stride in pixels. -/
structure Descriptor.Located (d : Descriptor) (g : Geometry) (pixels : UInt32) : Prop where
  /-- The lines are as long as they are to be wide. -/
  wide : g.width.toNat ≤ pixels.toNat
  /-- They begin so many pixels apart, but for what a whole number of pixels leaves of the bytes between
  them. -/
  lines : ∀ i, i * d.stride.toNat = i * pixels.toNat * d.format.bytesPerPixel.toNat +
    i * (d.stride.toNat % d.format.bytesPerPixel.toNat)
  /-- Nothing is left, except that it may be of pixels of three bytes. -/
  whole : pixels.toNat * d.format.bytesPerPixel.toNat = d.stride.toNat ↔
    (d.format = .rgb888 → 3 ∣ d.stride.toNat)

theorem PixelFormat.bytesPerPixel_power {f : PixelFormat} (even : f ≠ .rgb888) :
    ∃ i, f.bytesPerPixel.toNat = 2 ^ i := by
  cases f
  case rgb888 => exact absurd rfl even
  case rgba8888 | rgbx8888 | bgra8888 => exact ⟨2, rfl⟩
  case rgb565 | ycbcr422I => exact ⟨1, rfl⟩
  all_goals exact ⟨0, rfl⟩

/-- Rounding lines up keeps them whole pixels long, unless their pixels take three bytes. -/
theorem Descriptor.Allocated.pixels_dvd {d : Descriptor} {g : Geometry} {size : Nat}
    (allocated : d.Allocated g size) (even : d.format ≠ .rgb888) :
    d.format.bytesPerPixel.toNat ∣ d.stride.toNat := by
  obtain ⟨i, power⟩ := PixelFormat.bytesPerPixel_power even
  obtain ⟨k, pitch⟩ := allocated.pitch
  rw [pitch, power]
  exact Kernel.two_pow_dvd_roundUp (Nat.dvd_mul_left ..) k

theorem Descriptor.Allocated.located {d : Descriptor} {g : Geometry} {size : Nat}
    (allocated : d.Allocated g size) : d.Located g (d.stride / d.format.bytesPerPixel) := by
  have quotient : (d.stride / d.format.bytesPerPixel).toNat =
      d.stride.toNat / d.format.bytesPerPixel.toNat := UInt32.toNat_div ..
  refine ⟨?_, fun i => ?_, fun product format => ?_, fun multiple => ?_⟩
  · rw [quotient, Nat.le_div_iff_mul_le d.format.bytesPerPixel_pos]
    exact allocated.tight
  · rw [quotient, Nat.mul_assoc, ← Nat.mul_add, Nat.div_add_mod']
  · rw [← product, format]
    exact Nat.dvd_mul_left ..
  · rw [quotient]
    refine Nat.div_mul_cancel ?_
    by_cases format : d.format = .rgb888
    · rw [format]
      exact multiple format
    · exact allocated.pixels_dvd format

/-! ## Answers -/

namespace Allocator

variable {a a' : Allocator} {p p' : Process} {width height : UInt32} {raw : Int32} {usage : Usage}
  {d : Descriptor} {pixels : UInt32}

theorem create_pixels
    (created : (create width height raw usage).run.run a p = ((.ok (d, pixels), a'), p')) :
    pixels = d.stride / d.format.bytesPerPixel := by
  rw [create_run] at created
  split at created
  · cases created
  split at created
  · cases created
  split at created
  · cases created
  split at created
  · cases created
  · cases created
    rfl

end Allocator

namespace Client

variable {s : Surroundings} {fd : Int32} {l : Ledger} {c : Client}

theorem step_create_located (kept : c.Kept s fd l) (rounds : c.Rounds) {width height : UInt32}
    {raw : Int32} {usage : Usage} {d : Descriptor} {pixels : UInt32}
    (created : (c.step (.create width height raw usage)).1 = .ok (.created d pixels)) :
    PixelFormat.ofRaw? raw = some d.format ∧
      ∃ g, d.format.geometry? width height = some g ∧ d.Located g pixels := by
  cases kept with
  | retired => cases created
  | @working p a holds cards kept =>
    unfold step onAllocator at created
    dsimp only at created
    rcases eq : (Allocator.create width height raw usage).run.run a p with ⟨⟨_ | ⟨d', n⟩, a'⟩, p'⟩ <;>
      rw [eq] at created <;> cases created
    obtain ⟨⟨rfl, rfl, known⟩, r, a₁, p₁, key, o, g, b, ready, -, -, -, -, made, given⟩ :=
      kept.create_given eq
    have located := (given.allocated (rounds a r a₁ p₁ rfl ready)).located
    have geometry := given.geometry
    rw [made.descriptor] at located geometry
    exact ⟨known, g, geometry, Allocator.create_pixels eq ▸ located⟩

/-- Whatever a buffer is created with, and whatever has happened before: if the driver rounds lines up to a
power of two, lines are as many pixels apart as the client is told, at least as many as they are wide,
unless a pixel takes three bytes and the bytes between lines are no multiple of them. -/
theorem created_lines (w : World) (script : Script) {opener : Opener} (tidy : opener.Tidy)
    {table : BackendTable} (dumb : table.AllDumb) (before : List Operation) (width height : UInt32)
    (raw : Int32) (usage : Usage) {d : Descriptor} {pixels : UInt32} :
    let c := (start (w.process script).host opener table).run before
    c.Rounds → (c.step (.create width height raw usage)).1 = .ok (.created d pixels) →
      PixelFormat.ofRaw? raw = some d.format ∧
        ∃ g, d.format.geometry? width height = some g ∧ d.Located g pixels := by
  intro c rounds created
  obtain ⟨fd, l, kept⟩ : ∃ fd l, c.Kept w.surroundings fd l :=
    (start_kept w.kernel_audited tidy dumb 0).run before
  exact step_create_located kept rounds created

/-- Ten lines of thirty pixels of two bytes. -/
def striped : Descriptor :=
  { width := 30, height := 10, stride := 64, format := .rgb565, usage := Allocator.drawn
    memory := some (.name 1) }

theorem striped_lines :
    (virtual.step (.create 30 10 4 Allocator.drawn)).1 = .ok (.created striped 32) ∧
      ∀ i, i * 64 = i * 32 * 2 := by
  have created : (virtual.step (.create 30 10 4 Allocator.drawn)).1 = .ok (.created striped 32) := by
    decide +kernel
  obtain ⟨-, g, -, located⟩ := created_lines { cards := [{ driver := [118, 107, 109, 115] }] } {}
    (Opener.ofConfig_tidy { path := "/dev/dri/card0" }).reporting BackendTable.standard_allDumb []
    30 10 4 Allocator.drawn virtual_rounds created
  exact ⟨created, fun i => located.lines i⟩

/-- A line of ten pixels of three bytes. -/
def odd : Descriptor :=
  { width := 10, height := 1, stride := 64, format := .rgb888, usage := Allocator.drawn
    memory := some (.name 1) }

/-- No whole number of such pixels makes up the bytes between lines: one byte is left of each. -/
theorem odd_rest :
    (virtual.step (.create 10 1 3 Allocator.drawn)).1 = .ok (.created odd 21) ∧
      21 * odd.format.bytesPerPixel.toNat ≠ odd.stride.toNat := by
  constructor <;> decide +kernel

end Client

end GraphicsBuffers

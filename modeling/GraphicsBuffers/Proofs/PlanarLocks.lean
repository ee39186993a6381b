import GraphicsBuffers.Proofs.Atomicity
/-!
# Locks for planes are locks

`lockPlanar` checks the format and the usage and then locks, and works out the addresses of the planes from
the one the lock gives. There always is one: the usage it asks for includes software access, and so do the
locks then held. So the only errors are those of its own two checks, which come before the lock, and that of
the lock itself, and none of them leaves a lock behind on the dumb-buffer backend. The addresses are worked
out in 64 bits that wrap, and the planes of the buffer in 32 bits that are checked; where there are planes,
both say the same (`lockPlanar_locks`).
-/

namespace GraphicsBuffers

/-! ## Planes at an address -/

namespace Ycbcr

/-- Chroma follows the lines of luma, as many bytes further on as these cover. -/
structure Follows (planes : Ycbcr) (d : Descriptor) : Prop where
  cb : ∃ n : UInt64, n.toNat = d.stride.toNat * d.planarHeight.toNat ∧ planes.cb = planes.y.advance n
  cr : planes.cr = planes.cb.advance 1

/-- The planes are those of a layout. -/
structure Agrees (planes : Ycbcr) (layout : PlaneLayout) : Prop where
  chroma : planes.y.distance planes.cb = (layout.offsets.get 1).toUInt64
  yStride : planes.yStride = (layout.pitches.get 0).toUInt64
  cStride : planes.cStride = (layout.pitches.get 1).toUInt64

/-- The product of two words does not wrap in 64 bits. -/
theorem toNat_lines (stride height : UInt32) :
    (stride.toUInt64 * height.toUInt64).toNat = stride.toNat * height.toNat := by
  have below : stride.toNat * height.toNat < 2 ^ 32 * 2 ^ 32 :=
    Nat.mul_lt_mul'' stride.toNat_lt height.toNat_lt
  rw [UInt64.toNat_mul, UInt32.toNat_toUInt64, UInt32.toNat_toUInt64]
  exact Nat.mod_eq_of_lt below

theorem at_follows (base : Address) (d : Descriptor) :
    (Ycbcr.at base d.stride d.planarHeight).Follows d :=
  ⟨⟨_, toNat_lines d.stride d.planarHeight, rfl⟩, rfl⟩

theorem distance_advance (a : Address) (n : UInt64) : a.distance (a.advance n) = n := by
  unfold Address.distance Address.advance
  dsimp only
  rw [UInt64.add_comm, UInt64.add_sub_cancel]

theorem at_agrees (base : Address) {d : Descriptor} (format : d.format = .ycbcr420) {handle : UInt32}
    {layout : PlaneLayout} (eq : d.linearPlanes? handle = some layout) :
    (Ycbcr.at base d.stride d.planarHeight).Agrees layout := by
  obtain ⟨luma, product, eq⟩ := Option.bind_eq_some_iff.1 eq
  rw [format] at eq
  cases eq
  refine ⟨?_, rfl, rfl⟩
  rw [Ycbcr.at, distance_advance, ← UInt64.toNat_inj, toNat_lines, UInt32.toNat_toUInt64]
  exact (Word.mul?_eq_some.1 product).symm

end Ycbcr

/-! ## Locks -/

namespace BufferObject

variable {o : BufferObject} (usage : Usage) (region : Region) (h : Host)

/-- Past its two checks `lockPlanar` is `lock` with another answer. -/
theorem lockPlanar_run_lock (format : o.descriptor.format = .ycbcr420) (sw : usage.swAccess) :
    (lockPlanar usage region).run.run o h =
      let locked := (lock usage region).run.run o h
      ((o.planarAnswer usage locked.1.1, locked.1.2), locked.2) := by
  rw [lockPlanar_run, lock_run, lockPlanarDialogue]
  simp only [format, sw, ne_eq, not_true, if_false, Bool.not_true, Bool.false_eq_true,
    Dialogue.hold_answering]

/-- A lock for software access that is granted answers an address. -/
theorem lock_address {usage : Usage} (sw : usage.swAccess) :
    ((lock usage region).run.run o h).1.1 ≠ .ok none := by
  rw [lock_run]
  intro ok
  have mapped := lockDialogue_address ok
  rw [Usage.swAccess_or, sw] at mapped
  cases mapped

/-- What `lockPlanar` comes to, next to what `lock` does. -/
structure LocksPlanes (o : BufferObject) (usage : Usage) (region : Region) (h : Host) : Prop where
  otherFormat : o.descriptor.format ≠ .ycbcr420 →
    ((lockPlanar usage region).run.run o h).1.1 = .error (.invalidFormat o.descriptor.format.raw)
  noAccess : o.descriptor.format = .ycbcr420 → ¬usage.swAccess →
    ((lockPlanar usage region).run.run o h).1.1 = .error (.usageMismatch o.descriptor.usage usage)
  /-- Past these checks only the lock itself fails. -/
  refused : o.descriptor.format = .ycbcr420 → usage.swAccess → ∀ e,
    ((lockPlanar usage region).run.run o h).1.1 = .error e ↔
      ((lock usage region).run.run o h).1.1 = .error e
  /-- Where it fails, the object stays as it was. -/
  failed : ¬((lockPlanar usage region).run.run o h).1.1.isOk →
    ((lockPlanar usage region).run.run o h).1.2 = o
  /-- Where it succeeds, all is as after the same lock, which would have answered the address of luma. -/
  locks : ∀ planes o' h', (lockPlanar usage region).run.run o h = ((.ok planes, o'), h') →
    (lock usage region).run.run o h = ((.ok (some planes.y), o'), h') ∧ planes.Follows o.descriptor ∧
      ∀ later layout, o.planes? later = some layout ∨ o'.planes? later = some layout →
        planes.Agrees layout

theorem lockPlanar_format (other : o.descriptor.format ≠ .ycbcr420) :
    (lockPlanar usage region).run.run o h =
      ((.error (.invalidFormat o.descriptor.format.raw), o), h) := by
  rw [lockPlanar_run, lockPlanarDialogue, if_pos other]
  rfl

theorem lockPlanar_usage (format : o.descriptor.format = .ycbcr420) (hw : ¬usage.swAccess) :
    (lockPlanar usage region).run.run o h =
      ((.error (.usageMismatch o.descriptor.usage usage), o), h) := by
  rw [lockPlanar_run, lockPlanarDialogue, if_neg (not_not.2 format), if_pos (by simpa using hw)]
  rfl

/-- Planes are only answered for a lock past both checks. -/
theorem lockPlanar_answered {planes : Ycbcr} {o' : BufferObject} {h' : Host}
    (ok : (lockPlanar usage region).run.run o h = ((.ok planes, o'), h')) :
    o.descriptor.format = .ycbcr420 ∧
      (lock usage region).run.run o h = ((.ok (some planes.y), o'), h') ∧
      planes = .at planes.y o.descriptor.stride o.descriptor.planarHeight := by
  by_cases format : o.descriptor.format = .ycbcr420
  · by_cases sw : usage.swAccess
    · rw [lockPlanar_run_lock usage region h format sw] at ok
      rcases locked : (lock usage region).run.run o h with ⟨⟨e | _ | address, _⟩, _⟩ <;> rw [locked] at ok
      · cases ok
      · cases ok
      · cases ok
        exact ⟨format, rfl, rfl⟩
    · rw [lockPlanar_usage usage region h format sw] at ok
      cases ok
  · rw [lockPlanar_format usage region h format] at ok
    cases ok

theorem planes_linear {fd : Int32} (dumb : o.backend = .dumb fd) {h : Host} {layout : PlaneLayout}
    (known : o.planes? h = some layout) : ∃ handle, o.descriptor.linearPlanes? handle = some layout := by
  obtain ⟨buffer, -, known⟩ := Option.bind_eq_some_iff.1 known
  rw [dumb] at known
  exact ⟨buffer.handle, known⟩

/-- In every state of an object over the dumb-buffer backend, whatever fails below it, `lockPlanar` is `lock`
with the addresses of the planes, and a lock that it does not answer is not held. -/
theorem lockPlanar_locks {fd : Int32} (dumb : o.backend = .dumb fd) : o.LocksPlanes usage region h where
  otherFormat other := by rw [lockPlanar_format usage region h other]
  noAccess format hw := by rw [lockPlanar_usage usage region h format hw]
  refused format sw e := by
    rw [lockPlanar_run_lock usage region h format sw]
    dsimp only
    -- A lock without an address would be refused here, and still be held.
    have addressed := lock_address (o := o) region h sw
    revert addressed
    rcases ((lock usage region).run.run o h).1.1 with e' | _ | address
    · simp [planarAnswer]
    · exact fun addressed => absurd rfl addressed
    · simp [planarAnswer]
  failed refused := lockPlanar_whole dumb (by simpa using refused)
  locks planes o' h' ok := by
    obtain ⟨format, locked, answer⟩ := lockPlanar_answered usage region h ok
    have same : o.Same o' := by
      have := lock_same o h usage region
      rwa [locked] at this
    refine ⟨locked, answer ▸ Ycbcr.at_follows .., fun later layout known => ?_⟩
    obtain ⟨handle, known⟩ : ∃ handle, o.descriptor.linearPlanes? handle = some layout := by
      rcases known with before | after
      · exact planes_linear dumb before
      · exact same.descriptor ▸ planes_linear (same.backend.trans dumb) after
    rw [answer]
    exact Ycbcr.at_agrees planes.y format known

/-- A frame of video that is being read. -/
def playing : BufferObject where
  descriptor :=
    { width := 64, height := 64, stride := 64, format := .ycbcr420, usage := .swReadOften
      memory := some (.name 7) }
  imported := true
  backend := .dumb 1000
  card := ⟨1000, "/dev/dri/card0"⟩
  buffer := some
    { handle := 1, size := 6144, stride := 64, memory := .name 7, imported := true
      mapping := some ⟨1, 6144⟩, mapCount := 1 }
  lockCount := 1
  lockedFor := .swReadOften

/-- Another reader finds the chroma of the frame where its second plane is. -/
theorem playing_locks :
    let planes := Ycbcr.at (.start 1) 64 64
    let layout : PlaneLayout := ⟨#v[1, 1, 0, 0], #v[64, 64, 0, 0], #v[0, 4096, 0, 0]⟩
    ∃ o' h', (lockPlanar .swReadRarely {}).run.run playing {} = ((.ok planes, o'), h') ∧
      (lock .swReadRarely {}).run.run playing {} = ((.ok (some (.start 1)), o'), h') ∧
      o'.lockCount = 2 ∧ planes.cb = ⟨.mapping 1, 4096⟩ ∧ playing.planes? {} = some layout ∧
      planes.Agrees layout := by
  intro planes layout
  obtain ⟨o', h', ok, count⟩ : ∃ o' h', (lockPlanar .swReadRarely {}).run.run playing {} =
      ((.ok planes, o'), h') ∧ o'.lockCount = 2 := ⟨_, _, rfl, rfl⟩
  have known : playing.planes? {} = some layout := by decide
  obtain ⟨locked, -, agrees⟩ := (lockPlanar_locks .swReadRarely {} {} rfl).locks planes o' h' ok
  exact ⟨o', h', ok, locked, count, by decide, known, agrees {} layout (.inl known)⟩

end BufferObject

end GraphicsBuffers

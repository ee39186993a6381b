import GraphicsBuffers.Proofs.Turns

/-!
# What requests come to

The effect of each request that makes something, with the arguments the caller passed and the answer
the caller reads, and no byte strings left in it. Requests that give something back change the tables
of the kernel only where they are told to.
-/

namespace GraphicsBuffers

open Wire

namespace Kernel

variable (k : Kernel)

/-- The kernel with a new handle on an object. -/
def withHandle (object : Nat) : Kernel :=
  { k with
    handles := k.handles.insert (.ofNat k.nextHandle) object
    nextHandle := k.nextHandle + 1 }

/-- The kernel with a new object and a first handle on it. -/
def withObject (object : MemoryObject) : Kernel :=
  { k with objects := k.objects ++ [object] }.withHandle k.objects.length

/-- The object that a handle is on, with its place. -/
def held? (handle : UInt32) : Option (Nat × MemoryObject) :=
  (k.handles.get? handle).bind fun index => k.objects[index]?.map fun object => (index, object)

/-- The object that a global name designates, with its place. -/
def named? (name : UInt32) : Option (Nat × MemoryObject) :=
  (k.names.get? name).bind fun index => k.objects[index]?.map fun object => (index, object)

section Calm

variable {k} {k' : Kernel} (calm : k.Calm k')
include calm

theorem Calm.cards : k'.cards = k.cards := by
  obtain ⟨_, _, rfl⟩ := calm.same
  rfl

theorem Calm.held (handle : UInt32) : k'.held? handle = k.held? handle := by
  obtain ⟨_, _, rfl⟩ := calm.same
  rfl

theorem Calm.named (name : UInt32) : k'.named? name = k.named? name := by
  obtain ⟨_, _, rfl⟩ := calm.same
  rfl

end Calm

theorem held_eq_some {handle : UInt32} {place : Nat} {object : MemoryObject} :
    k.held? handle = some (place, object) ↔
      k.handles.get? handle = some place ∧ k.objects[place]? = some object := by
  simp only [held?, Option.bind_eq_some_iff, Option.map_eq_some_iff, Prod.mk.injEq]
  grind

theorem named_eq_some {name : UInt32} {place : Nat} {object : MemoryObject} :
    k.named? name = some (place, object) ↔
      k.names.get? name = some place ∧ k.objects[place]? = some object := by
  simp only [named?, Option.bind_eq_some_iff, Option.map_eq_some_iff, Prod.mk.injEq]
  grind

/-- A new handle on a new object. -/
theorem held_withObject (object : MemoryObject) :
    (k.withObject object).held? (.ofNat k.nextHandle) = some (k.objects.length, object) :=
  (held_eq_some _).2 ⟨Table.get?_insert_self .., List.getElem?_concat_length ..⟩

end Kernel

/-! ## Requests -/

namespace Wire.Exchange

open Kernel

variable {k k' : Kernel} {index : Nat} {card : CardNode} {reply : Wire.Reply}

/-- The fields of the answer lie side by side, so each is read as it was written. -/
theorem createDumb_reads {argument : Bytes} (length : argument.length = 32) (handle pitch : UInt32)
    (size : UInt64) :
    let bytes := write (write (write argument 16 (word32 handle)) 20 (word32 pitch)) 24 (word64 size)
    read32 bytes 16 = handle ∧ read32 bytes 20 = pitch ∧ read64 bytes 24 = size := by
  have first : (write argument 16 (word32 handle)).length = 32 :=
    (length_write (by simp [length])).trans length
  have second : (write (write argument 16 (word32 handle)) 20 (word32 pitch)).length = 32 :=
    (length_write (by simp [first])).trans first
  refine ⟨?_, ?_, ?_⟩
  · rw [read32_write_of_disjoint (by simp [second]) (.inl (by decide)),
      read32_write_of_disjoint (by simp [first]) (.inl (by decide)),
      read32_write _ (by simp [length])]
  · rw [read32_write_of_disjoint (by simp [second]) (.inl (by decide)),
      read32_write _ (by simp [first])]
  · rw [read64_write _ (by simp [second])]

theorem createDumb_argument (width height bpp : UInt32) :
    let argument := (createDumb width height bpp).argument
    read32 argument 0 = height ∧ read32 argument 4 = width ∧ read32 argument 8 = bpp := by
  simp only [createDumb, List.append_assoc]
  refine ⟨read32_word32 height _, ?_, ?_⟩
  · rw [read32_append _ _ _ (by simp)]
    exact read32_word32 width _
  · rw [read32_append _ _ _ (by simp), read32_append _ _ _ (by simp)]
    exact read32_word32 bpp _

/-- No memory is allocated for nothing. -/
theorem createDumb_positive {width height bpp : UInt32}
    (eq : k.serve index card (createDumb width height bpp).request
      (createDumb width height bpp).argument = .ok (reply, k')) : width ≠ 0 ∧ height ≠ 0 := by
  obtain ⟨made, created, -⟩ := bind_eq_ok eq
  obtain ⟨heightAt, widthAt, bppAt⟩ := createDumb_argument width height bpp
  unfold serveCreateDumb at created
  rw [heightAt, widthAt, bppAt] at created
  dsimp only at created
  split at created
  · cases created
  · next fits =>
    simp only [not_or] at fits
    exact ⟨fits.1, fits.2.1⟩

/-- A new dumb buffer has a new handle; the card's driver sets its pitch. -/
theorem createDumb_served {width height bpp : UInt32}
    (eq : k.serve index card (createDumb width height bpp).request
      (createDumb width height bpp).argument = .ok (reply, k')) :
    let pitch := dumbPitch card width bpp
    let size := card.sizes.size (.ofNat pitch) height
    k.nextHandle < UInt32.size ∧ pitch < UInt32.size ∧
      (createDumb width height bpp).answer reply = ⟨.ofNat k.nextHandle, .ofNat pitch, size⟩ ∧
      k' = k.withObject { size, foreign := false } := by
  intro pitch size
  obtain ⟨⟨bytes, k₁⟩, made, rest⟩ := bind_eq_ok eq
  cases rest
  obtain ⟨heightAt, widthAt, bppAt⟩ := createDumb_argument width height bpp
  have length : (createDumb width height bpp).argument.length = 32 := by simp [createDumb]
  unfold serveCreateDumb at made
  rw [heightAt, widthAt, bppAt] at made
  generalize (createDumb width height bpp).argument = argument at made length
  dsimp only at made
  split at made
  · cases made
  next fits =>
  have fits : pitch < UInt32.size := by simp only [not_or, not_le] at fits; exact fits.2.2.2
  obtain ⟨⟨handle, k₂⟩, given, rest⟩ := bind_eq_ok made
  cases rest
  simp only [newObject, newHandle] at given
  split at given
  · next room =>
    cases given
    obtain ⟨handleAt, pitchAt, sizeAt⟩ := createDumb_reads length (.ofNat k.nextHandle)
      (.ofNat pitch) size
    exact ⟨room, fits, by rw [DumbBuffer.mk.injEq]; exact ⟨handleAt, pitchAt, sizeAt⟩, rfl⟩
  · cases given

/-- An object opened by its name has a new handle too. -/
theorem gemOpen_served {name : UInt32}
    (eq : k.serve index card (gemOpen name).request (gemOpen name).argument = .ok (reply, k')) :
    ∃ place object, k.named? name = some (place, object) ∧ k.nextHandle < UInt32.size ∧
      (gemOpen name).answer reply = ⟨.ofNat k.nextHandle, object.size⟩ ∧ k' = k.withHandle place := by
  obtain ⟨⟨bytes, k₁⟩, made, rest⟩ := bind_eq_ok eq
  cases rest
  have nameAt : read32 (gemOpen name).argument 0 = name := read32_word32 name _
  have length : (gemOpen name).argument.length = 16 := by simp [gemOpen]
  unfold serveGemOpen at made
  rw [nameAt] at made
  generalize (gemOpen name).argument = argument at made length
  split at made
  · next place known =>
    split at made
    · next object found =>
      obtain ⟨⟨handle, k₂⟩, given, rest⟩ := bind_eq_ok made
      cases rest
      unfold newHandle at given
      split at given
      · next room =>
        cases given
        refine ⟨place, object, ?_, room, ?_, rfl⟩
        · exact (named_eq_some _).2 ⟨known, found⟩
        · have first : (write argument 4 (word32 (.ofNat k.nextHandle))).length = 16 :=
            (length_write (by simp [length])).trans length
          simp only [gemOpen, GemObject.mk.injEq]
          refine ⟨?_, ?_⟩
          · rw [read32_write_of_disjoint (by simp [first]) (.inl (by decide)),
              read32_write _ (by simp [length])]
          · rw [read64_write _ (by simp [first])]
      · cases given
    · cases made
  · cases made

/-- A name that designates an object opens it, while there are handles left. -/
theorem serve_gemOpen {name : UInt32} {place : Nat} {object : MemoryObject}
    (named : k.named? name = some (place, object)) (room : k.nextHandle < UInt32.size) :
    ∃ reply, ∀ index card,
      k.serve index card (gemOpen name).request (gemOpen name).argument =
        .ok (reply, k.withHandle place) := by
  obtain ⟨known, found⟩ := (named_eq_some _).1 named
  have nameAt : read32 (gemOpen name).argument 0 = name := read32_word32 name _
  have served : ∃ bytes, k.serveGemOpen (gemOpen name).argument = .ok (bytes, k.withHandle place) := by
    unfold serveGemOpen newHandle
    rw [nameAt, known]
    dsimp only
    rw [found, if_pos room]
    exact ⟨_, rfl⟩
  obtain ⟨bytes, served⟩ := served
  refine ⟨⟨bytes, []⟩, fun index card => ?_⟩
  have asked : k.serve index card (gemOpen name).request (gemOpen name).argument =
      k.serveGemOpen (gemOpen name).argument >>= fun r => .ok (⟨r.1, []⟩, r.2) := rfl
  rw [asked, served]
  rfl

/-- The memory of a dma-buf is a new object to this kernel. -/
theorem primeFdToHandle_served {dmabuf : Int32}
    (eq : k.serve index card (primeFdToHandle dmabuf).request (primeFdToHandle dmabuf).argument =
      .ok (reply, k')) :
    ∃ shared, (k.dmabufs.find? fun d => decide (d.fd = dmabuf)) = some shared ∧
      k.nextHandle < UInt32.size ∧
      (primeFdToHandle dmabuf).answer reply = .ofNat k.nextHandle ∧
      k' = k.withObject { size := shared.size, foreign := true } := by
  obtain ⟨⟨bytes, k₁⟩, made, rest⟩ := bind_eq_ok eq
  cases rest
  have dmabufAt : readInt32 (primeFdToHandle dmabuf).argument 8 = dmabuf := by
    simp only [primeFdToHandle, readInt32]
    rw [read32_append _ _ _ (by simp)]
    exact (congrArg UInt32.toInt32 (read32_word32 dmabuf.toUInt32 [])).trans
      dmabuf.toInt32_toUInt32
  unfold servePrime at made
  rw [dmabufAt] at made
  dsimp only at made
  split at made
  · next shared found =>
    obtain ⟨⟨handle, k₂⟩, given, rest⟩ := bind_eq_ok made
    cases rest
    simp only [newObject, newHandle] at given
    split at given
    · next room =>
      cases given
      exact ⟨shared, found, room, read32_write _ (Nat.zero_le _), rfl⟩
    · cases given
  · cases made

/-- A framebuffer has a new number. -/
theorem addFb2_served {width height : UInt32} {format : Fourcc} {layout : PlaneLayout}
    (eq : k.serve index card (addFb2 width height format layout).request
      (addFb2 width height format layout).argument = .ok (reply, k')) :
    k.nextFramebuffer < UInt32.size ∧
      (addFb2 width height format layout).answer reply = .ofNat k.nextFramebuffer ∧
      k' = { k with
        framebuffers := .ofNat k.nextFramebuffer :: k.framebuffers
        nextFramebuffer := k.nextFramebuffer + 1 } := by
  obtain ⟨⟨bytes, k₁⟩, made, rest⟩ := bind_eq_ok eq
  cases rest
  unfold serveAddFb at made
  split at made
  · next room =>
    cases made
    exact ⟨room, read32_write _ (Nat.zero_le _), rfl⟩
  · cases made

/-- A buffer is mapped at the start of its part of the map space. -/
theorem mapDumb_served {handle : UInt32}
    (eq : k.serve index card (mapDumb handle).request (mapDumb handle).argument = .ok (reply, k')) :
    (mapDumb handle).answer reply = handle.toUInt64 <<< 32 ∧ k' = k := by
  have handleAt : read32 (mapDumb handle).argument 0 = handle := read32_word32 handle _
  have length : (mapDumb handle).argument.length = 16 := by simp [mapDumb]
  have served : (if k.handles.contains (read32 (mapDumb handle).argument 0) then
      pure (⟨write (mapDumb handle).argument 8
        (word64 ((read32 (mapDumb handle).argument 0).toUInt64 <<< 32)), []⟩, k)
      else throw .ENOENT : Except Errno (Wire.Reply × Kernel)) = .ok (reply, k') := eq
  simp only [handleAt] at served
  split at served
  · cases served
    exact ⟨read64_write _ (by simp [length]), rfl⟩
  · cases served

/-- A buffer without a name gets the next one. -/
theorem gemFlink_served {handle : UInt32}
    (eq : k.serve index card (gemFlink handle).request (gemFlink handle).argument = .ok (reply, k')) :
    ∃ place object, k.held? handle = some (place, object) ∧
      if object.name = 0 then
        (gemFlink handle).answer reply = k.nextName ∧ k' = { k with
          objects := k.objects.set place { object with name := k.nextName }
          names := k.names.insert k.nextName place
          nextName := k.nextName + 1 }
      else (gemFlink handle).answer reply = object.name ∧ k' = k := by
  obtain ⟨⟨bytes, k₁⟩, named, rest⟩ := bind_eq_ok eq
  cases rest
  have handleAt : read32 (gemFlink handle).argument 0 = handle := read32_word32 handle _
  have length : (gemFlink handle).argument.length = 8 := by simp [gemFlink]
  unfold serveFlink at named
  rw [handleAt] at named
  generalize (gemFlink handle).argument = argument at named length
  split at named
  · next place known =>
    split at named
    · next object found =>
      refine ⟨place, object, (held_eq_some _).2 ⟨known, found⟩, ?_⟩
      by_cases unnamed : object.name = 0
      · rw [if_neg (fun has => has unnamed)] at named
        cases named
        rw [if_pos unnamed]
        exact ⟨read32_write _ (by simp [length]), rfl⟩
      · rw [if_pos unnamed] at named
        cases named
        rw [if_neg unnamed]
        exact ⟨read32_write _ (by simp [length]), rfl⟩
    · cases named
  · cases named

end Wire.Exchange

/-! ## Exchanges that succeed -/

/-- An exchange that succeeds was served on the card that the file descriptor is open on, and nothing
else happened to the kernel. -/
theorem exchange_ok {α : Type} {fd : Int32} {x : Exchange α} {h h' : Host} {a : α}
    (eq : (Host.exchange fd x).run h = (.ok a, h')) :
    ∃ index card reply k₁ k₂, h.kernel.Calm k₁ ∧ card ∈ k₁.cards ∧
      k₁.serve index card x.request x.argument = .ok (reply, k₂) ∧ k₂.Calm h'.kernel ∧
      a = x.answer reply := by
  rw [exchange_run] at eq
  unfold Kernel.control at eq
  by_cases watched : Kernel.isWatched fd
  · simp only [watched, Bool.not_true, Bool.false_eq_true, if_false] at eq
    revert eq
    refine Kernel.perform_rule (Q := fun outcome k => (outcome.map x.answer,
      ({ h with kernel := k } : Host)) = (.ok a, h') → _) ?_ ?_
    · intro e k calm eq
      cases eq
    · intro reply k₁ k₂ k calm served calm' eq
      cases eq
      split at served
      · next index file =>
        split at served
        · next card known =>
          exact ⟨index, card, reply, k₁, k₂, calm, List.mem_of_getElem? known, served, calm', rfl⟩
        · cases served
      · cases served
  · simp only [watched, Bool.not_false, if_true] at eq
    unfold Kernel.onOrdinary at eq
    split at eq <;> cases eq

/-- An exchange that fails otherwise does not succeed when its failure is told. -/
theorem explain_ok {ε δ α : Type} {x : Attempt ε α} {f : ε → HostM δ} {h h' : Host} {a : α}
    (eq : (explain x f).run h = (.ok a, h')) : x.run h = (.ok a, h') := by
  rw [run_explain] at eq
  rcases ran : x.run h with ⟨_ | _, _⟩ <;> rw [ran] at eq <;> cases eq
  rfl

end GraphicsBuffers

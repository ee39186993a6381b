import GraphicsBuffers.Proofs.DumbObjects
import GraphicsBuffers.Proofs.Leaks
import GraphicsBuffers.Proofs.Lifetimes
import GraphicsBuffers.Proofs.PlanarLocks
/-!
# Addresses stay valid while a buffer is locked

On the dumb-buffer backend a buffer is mapped once for all its locks: the object counts the locks and the
buffer counts the maps, and both are the same number for software access (`Steady`). `Effect` lists what a
call can do to an object in use. From it follows that the mapping stays while any lock is left, so that every
address answered since is its first byte, that it is given back by the last unlock or with the object and at
no other time, and that an unlock undoes a lock (`addresses_anchored`).
-/

namespace GraphicsBuffers

open Wire Wire.Exchange

variable {ε α : Type}

/-! ## Mappings that are given back -/

/-- The mapping that is given back. -/
def TraceEntry.unmapping? : TraceEntry → Option Mapping
  | .kernel (.unmap id length) _ => some ⟨id, length⟩
  | _ => none

/-- All mappings that are given back, the last one first. -/
def unmappings (trace : List TraceEntry) : List Mapping := trace.filterMap TraceEntry.unmapping?

theorem Mapping.unmap_picks (m : Mapping) : Picks TraceEntry.unmapping? [m] m.unmap := by
  have called : Picks TraceEntry.unmapping? [m] (Host.call (·.unmap m.id m.length)).run := by
    intro h
    refine ⟨_, Kernel.perform_trace fun k₁ _ k₂ eq => ?_, rfl⟩
    split at eq <;> cases eq
    rfl
  exact called.ignoring (fun _ => .pure _) fun _ => .report _

namespace Dumb

variable (fd : Int32) (b : BackendBuffer)

theorem free_picks : Picks TraceEntry.unmapping? b.mapping.toList (free fd b) := by
  have handle : Picks TraceEntry.unmapping? [] (freeHandle fd b) :=
    freeHandle_picks fd b (fun _ => rfl) fun _ => rfl
  unfold free
  cases b.mapping with
  | none => exact handle
  | some m => exact m.unmap_picks.then_silent fun _ => handle

theorem mapWhole_picks : Picks TraceEntry.unmapping? [] (mapWhole fd b).run := by
  refine .attempt (.explain (exchange_picks (mapDumb_uses b.handle).told fd fun _ => rfl) fun e => .pure _)
    fun offset => .explain ?_ fun e => .pure _
  unfold Mapping.map
  split
  · exact .pure _
  · exact .attempt (.explain (call_picks (Kernel.map_recorded fd offset b.size true) fun _ => rfl)
      fun e => .pure _) fun id => .pure _

/-- A map shares the mapping there is or makes one, or leaves the buffer as it was, and gives none back. -/
theorem map_effect : Adds ((Dumb.map fd).run.run b) fun new result =>
    unmappings new = [] ∧ match result with
      | (.ok address, b') => ∃ m, (∀ held ∈ b.mapping, held = m) ∧ address = m.address ∧
          b' = { b with mapping := some m, mapCount := b.mapCount + 1 }
      | (.error _, b') => b' = b := by
  intro h
  rw [map_run]
  cases mapping : b.mapping with
  | some m =>
    refine ⟨[], rfl, rfl, m, by simp, rfl, ?_⟩
    rw [← mapping]
  | none =>
    obtain ⟨new, trace, silent⟩ := mapWhole_picks fd b h
    rcases mapped : (mapWhole fd b).run h with ⟨e | m, h'⟩ <;> rw [mapped] at trace
    · exact ⟨new, trace, silent, rfl⟩
    · exact ⟨new, trace, silent, m, nofun, rfl, rfl⟩

/-- The last unmap gives the mapping back, and no other does. -/
theorem unmap_effect : Adds (Dumb.unmap.run b) fun new result =>
    if b.mapCount = 1 then
      unmappings new = b.mapping.toList ∧ result.2 = { b with mapCount := 0, mapping := none }
    else unmappings new = [] ∧ (b.mapCount ≠ 0 → result.2 = { b with mapCount := b.mapCount - 1 }) := by
  intro h
  rw [unmap_run]
  by_cases free : b.mapCount = 0
  · simp only [free, if_true]
    exact ⟨[], rfl, rfl, fun locked => absurd rfl locked⟩
  · simp only [if_neg free]
    by_cases last : b.mapCount = 1
    · simp only [if_pos last]
      cases b.mapping with
      | none => exact ⟨[], rfl, rfl, trivial⟩
      | some m =>
        obtain ⟨new, trace, given⟩ := m.unmap_picks h
        exact ⟨new, trace, given, trivial⟩
    · simp only [if_neg last]
      exact ⟨[], rfl, rfl, fun _ => trivial⟩

end Dumb

/-! ## New buffers -/

/-- Whatever a computation answers has a property. -/
def Makes (x : Attempt ε α) (P : α → Prop) : Prop := ∀ h a, (x.run h).1 = .ok a → P a

namespace Makes

variable {P : α → Prop}

theorem pure {a : α} (holds : P a) : Makes (Pure.pure a : Attempt ε α) P := by
  rintro h _ ⟨⟩
  exact holds

theorem throw (e : ε) : Makes (MonadExcept.throw e : Attempt ε α) P := by
  rintro h _ ⟨⟩

theorem bind {β : Type} {x : Attempt ε β} {f : β → Attempt ε α} (last : ∀ b, Makes (f b) P) :
    Makes (x >>= f) P := by
  intro h a made
  rw [run_bind_attempt] at made
  rcases eq : x.run h with ⟨_ | b, h'⟩ <;> rw [eq] at made
  · cases made
  · exact last b h' a made

end Makes

/-- A buffer that is not mapped. -/
structure BackendBuffer.Unmapped (b : BackendBuffer) : Prop where
  mapping : b.mapping = none
  mapCount : b.mapCount = 0

theorem Dumb.allocate_unmapped (fd : Int32) (d : Descriptor) :
    Makes (allocate fd d) BackendBuffer.Unmapped := by
  unfold allocate
  split
  · next memory _ =>
    unfold openMemory
    cases memory <;> exact .bind fun opened => .bind fun _ => .pure ⟨rfl, rfl⟩
  · unfold create
    split
    · exact .bind fun dumb => .bind fun name => .pure ⟨rfl, rfl⟩
    · exact .throw _

namespace BufferObject

/-- A new object over the dumb-buffer backend is not mapped. -/
theorem Born.unmapped {o : BufferObject} {fd : Int32} (born : o.Born) (dumb : o.backend = .dumb fd) :
    ∀ b, o.buffer = some b → b.Unmapped := by
  intro b found
  cases born with
  | @created backend card width height format usage h eq =>
    obtain rfl : backend = .dumb fd := (create_fresh eq).backend.symm.trans dumb
    rw [create_run] at eq
    split at eq
    · cases eq
    next request _ =>
    rcases allocated : ((Backend.dumb fd).allocate request).run h with ⟨_ | buffer, h'⟩ <;>
      rw [allocated] at eq
    · cases eq
    dsimp only at eq
    split at eq
    · have same := finish_buffer (Prod.ext eq rfl)
      obtain rfl : b = buffer := Option.some.inj (found.symm.trans same)
      exact Dumb.allocate_unmapped fd request h b (congrArg Prod.fst allocated)
    · cases eq
  | @imported backend card d h eq =>
    obtain rfl : backend = .dumb fd := (importFrom_fresh eq).1.backend.symm.trans dumb
    rw [importFrom_run] at eq
    split at eq
    · split at eq
      · cases eq
      rcases allocated : ((Backend.dumb fd).allocate d).run h with ⟨_ | buffer, h'⟩ <;> rw [allocated] at eq
      · cases eq
      cases eq
      obtain rfl : buffer = b := Option.some.inj found
      exact Dumb.allocate_unmapped fd d h buffer (congrArg Prod.fst allocated)
    · cases eq

/-! ## What calls do -/

/-- The mapping of the memory. -/
def mapping? (o : BufferObject) : Option Mapping := o.buffer.bind (·.mapping)

/-- The object with one lock more, and its buffer then. -/
def withLockMore (o : BufferObject) (usage : Usage) (b : BackendBuffer) : BufferObject :=
  { o with buffer := some b, lockCount := o.lockCount + 1, lockedFor := o.lockedFor ||| usage }

/-- What a call can do to an object over the dumb-buffer backend whose buffer is `b`, and answer. -/
inductive Effect (o : BufferObject) (b : BackendBuffer) (call : ObjectCall)
    (answer : Except Error (Option Address)) (o' : BufferObject) : Prop
  /-- No lock comes or goes. -/
  | kept (framebuffer : Option UInt32) (refused : call.usage?.isSome → answer.isOk = false)
      (silent : ∀ a, answer ≠ .ok (some a)) (surplus : call = .unlock → o.lockCount = 0)
      (object : o' = { o with framebuffer })
  /-- A lock that needs no mapping is granted. -/
  | hardware (usage : Usage) (asked : call.usage?.isSome)
      (fits : o.lockCount = 0 ∨ o.lockedFor.contains usage) (hw : (o.lockedFor ||| usage).swAccess = false)
      (answered : answer = .ok none) (object : o' = o.withLockMore usage b)
  /-- A lock with a mapping is granted, with the one there is or a new one. -/
  | software (usage : Usage) (m : Mapping) (asked : call.usage?.isSome)
      (fits : o.lockCount = 0 ∨ o.lockedFor.contains usage) (sw : (o.lockedFor ||| usage).swAccess)
      (shared : ∀ held ∈ b.mapping, held = m) (answered : answer = .ok (some m.address))
      (object : o' = o.withLockMore usage { b with mapping := some m, mapCount := b.mapCount + 1 })
  /-- A lock is taken back that is not the last one. -/
  | nested (unlock : call = .unlock) (locked : o.lockCount ≠ 0) (more : o.lockCount ≠ 1)
      (silent : answer = .ok none)
      (object : o' = { o with
        buffer := some { b with mapCount := if o.lockedFor.swAccess then b.mapCount - 1 else b.mapCount }
      }.withLockLess)
  /-- The last lock is taken back. -/
  | last (unlock : call = .unlock) (one : o.lockCount = 1) (silent : answer = .ok none)
      (object : o' = { o with buffer := some { b with mapCount := 0, mapping := none } }.withLockLess)
  | destroyed (destroy : call = .destroy) (silent : answer = .ok none) (object : o' = o.destroyed)

theorem addFramebuffer_picks (o : BufferObject) (layout : PlaneLayout) :
    Picks TraceEntry.unmapping? [] (o.addFramebuffer layout).run :=
  .explain (exchange_picks (addFb2_told _ _ _ layout) o.card.fd fun _ => rfl) fun _ =>
    (Picks.report _).then_silent fun _ => .pure _

theorem attach_picks (o : BufferObject) : Picks TraceEntry.unmapping? [] (attachFramebuffer.run.run o) := by
  intro h
  rw [attachFramebuffer_run]
  split
  · exact ⟨[], rfl, rfl⟩
  · exact ⟨[], rfl, rfl⟩
  next b _ _ =>
  obtain ⟨new, trace, silent⟩ := o.addFramebuffer_picks (o.layout h b) h
  rcases eq : (o.addFramebuffer (o.layout h b)).run h with ⟨e | id, h'⟩ <;> rw [eq] at trace <;>
    exact ⟨new, trace, silent⟩

theorem attach_effect (o : BufferObject) (b : BackendBuffer) :
    Adds (ObjectCall.attach.run.run o) fun new result =>
      o.Effect b .attach result.1 result.2 ∧ unmappings new = [] := by
  intro h
  obtain ⟨new, trace, silent⟩ := o.attach_picks h
  have object := o.attachFramebuffer_object h
  simp only [ObjectCall.run, run_map_plain]
  refine ⟨new, trace, .kept _ ?refused ?silent ?surplus object, silent⟩
  case refused => rintro ⟨⟩
  case silent =>
    intro a
    rcases (attachFramebuffer.run.run o h).1.1 with e | id <;> rintro ⟨⟩
  case surplus => rintro ⟨⟩

section Effects

variable {o : BufferObject} {fd : Int32} (dumb : o.backend = .dumb fd) {b : BackendBuffer}
  (found : o.buffer = some b)
include dumb found

theorem lock_effect (usage : Usage) (region : Region) (call : ObjectCall) (asked : call.usage?.isSome) :
    Adds ((lock usage region).run.run o) fun new result =>
      o.Effect b call result.1 result.2 ∧ unmappings new = [] := by
  have idle : call = .unlock → o.lockCount = 0 := by
    rintro rfl
    cases asked
  have refused (e : Error) : o.Effect b call (.error e) o := .kept o.framebuffer (fun _ => rfl) nofun idle rfl
  intro h
  rw [lock_run]
  by_cases permitted : permits o.descriptor.usage usage
  · by_cases fits : o.lockCount = 0 ∨ o.lockedFor.contains usage
    · have whole : (usage ||| o.lockedFor).swAccess = (o.lockedFor ||| usage).swAccess := by
        rw [Usage.swAccess_or, Bool.or_comm, ← Usage.swAccess_or]
      have granted (b' : BackendBuffer) : { o with
          buffer := some b', lockCount := o.lockCount + 1
          lockedFor := o.lockedFor ||| (usage ||| o.lockedFor) } = o.withLockMore usage b' := by
        rw [Usage.or_or_self]
        rfl
      rw [lockDialogue_compatible permitted fits, found]
      dsimp only
      by_cases sw : (o.lockedFor ||| usage).swAccess
      · have run : (o.backend.map region (usage ||| o.lockedFor).swWrite).run.run b h =
            (Dumb.map fd).run.run b h := by
          rw [dumb]
          rfl
        obtain ⟨new, trace, silent, mapped⟩ := Dumb.map_effect fd b h
        rw [if_pos (whole.trans sw), Dialogue.hold, run]
        rcases eq : (Dumb.map fd).run.run b h with ⟨⟨e | address, b'⟩, h'⟩ <;> rw [eq] at trace mapped
        · obtain rfl : b' = b := mapped
          have same : { o with buffer := some b' } = o := by rw [← found]
          exact ⟨new, trace, same.symm ▸ refused _, silent⟩
        · obtain ⟨m, shared, rfl, rfl⟩ := mapped
          exact ⟨new, trace, .software usage m asked fits sw shared rfl (granted _), silent⟩
      · rw [if_neg (whole ▸ sw)]
        refine ⟨[], rfl, .hardware usage asked fits (by simpa using sw) rfl ?_, rfl⟩
        rw [← granted, ← found]
        rfl
    · obtain ⟨locked, outside⟩ := not_or.1 fits
      rw [lockDialogue_incompatible permitted locked outside]
      exact ⟨[], rfl, refused _, rfl⟩
  · rw [lockDialogue_undeclared permitted]
    exact ⟨[], rfl, refused _, rfl⟩

theorem lockPlanar_effect (usage : Usage) (region : Region) :
    Adds ((ObjectCall.lockPlanar usage region).run.run o) fun new result =>
      o.Effect b (.lockPlanar usage region) result.1 result.2 ∧ unmappings new = [] := by
  have refused (e : Error) : o.Effect b (.lockPlanar usage region) (.error e) o :=
    .kept o.framebuffer (fun _ => rfl) nofun nofun rfl
  intro h
  simp only [ObjectCall.run, run_map_plain]
  by_cases format : o.descriptor.format = .ycbcr420
  · by_cases sw : usage.swAccess
    · rw [lockPlanar_run_lock usage region h format sw]
      obtain ⟨new, trace, effect, silent⟩ :=
        lock_effect dumb found usage region (.lockPlanar usage region) rfl h
      have addressed := lock_address (o := o) region h sw
      rcases eq : (lock usage region).run.run o h with ⟨⟨e | _ | address, o'⟩, h'⟩ <;>
        rw [eq] at trace effect addressed
      · exact ⟨new, trace, effect, silent⟩
      · exact absurd rfl addressed
      · exact ⟨new, trace, effect, silent⟩
    · rw [lockPlanar_usage usage region h format sw]
      exact ⟨[], rfl, refused _, rfl⟩
  · rw [lockPlanar_format usage region h format]
    exact ⟨[], rfl, refused _, rfl⟩

theorem unlock_effect (mapped : o.Mapped b) : Adds (ObjectCall.unlock.run.run o) fun new result =>
    o.Effect b .unlock result.1 result.2 ∧
      unmappings new = if o.lockCount = 1 then b.mapping.toList else [] := by
  intro h
  simp only [ObjectCall.run, run_map_plain, BufferObject.unlock_run, unlockDialogue]
  by_cases free : o.lockCount = 0
  · rw [if_pos free]
    refine ⟨[], rfl, .kept o.framebuffer ?refused ?silent (fun _ => free) rfl, ?given⟩
    case refused => rintro ⟨⟩
    case silent => rintro a ⟨⟩
    case given =>
      rw [free]
      rfl
  rw [if_neg free, found]
  dsimp only
  by_cases sw : o.lockedFor.swAccess
  · obtain ⟨-, count⟩ := (mapped_iff_of_sw sw).1 mapped
    have run : o.backend.unmap.run b h = Dumb.unmap.run b h := by
      rw [dumb]
      rfl
    obtain ⟨new, trace, unmapped⟩ := Dumb.unmap_effect b h
    rw [if_pos sw, Dialogue.hold, run]
    rw [count] at unmapped
    by_cases one : o.lockCount = 1
    · rw [if_pos one] at unmapped ⊢
      obtain ⟨given, buffer⟩ := unmapped
      have object := congrArg (fun b => { o with buffer := some b }.withLockLess) buffer
      exact ⟨new, trace, .last rfl one rfl object, given⟩
    · rw [if_neg one] at unmapped ⊢
      obtain ⟨given, buffer⟩ := unmapped
      refine ⟨new, trace, .nested rfl free one rfl ?_, given⟩
      rw [if_pos sw, count, ← buffer free]
      rfl
  · obtain ⟨mapping, count⟩ := (mapped_iff_of_hw (by simpa using sw)).1 mapped
    rw [if_neg sw]
    by_cases one : o.lockCount = 1
    · have same : { b with mapCount := 0, mapping := none } = b := by rw [← mapping, ← count]
      refine ⟨[], rfl, .last rfl one rfl ?_, by rw [mapping, if_pos one]; rfl⟩
      rw [same, ← found]
      rfl
    · refine ⟨[], rfl, .nested rfl free one rfl ?_, (if_neg one).symm⟩
      rw [if_neg sw, ← found]
      rfl

theorem destroy_effect : Adds (ObjectCall.destroy.run.run o) fun new result =>
    o.Effect b .destroy result.1 result.2 ∧ unmappings new = b.mapping.toList := by
  intro h
  simp only [ObjectCall.run, run_map_plain, BufferObject.destroy_run, found]
  have freed : Picks TraceEntry.unmapping? b.mapping.toList (o.backend.free b) := by
    rw [dumb]
    exact Dumb.free_picks fd b
  obtain ⟨new, trace, given⟩ := tearDown_picks (fun _ _ => rfl) (fun _ _ => rfl) freed h
  exact ⟨new, trace, .destroyed rfl rfl rfl, given⟩

end Effects

end BufferObject

/-- Whether a call ends the locks of an object: the last unlock does, and its destruction. -/
def ObjectCall.ends (o : BufferObject) : ObjectCall → Bool
  | unlock => o.lockCount == 1
  | destroy => true
  | lock .. | lockPlanar .. | attach => false

namespace BufferObject

/-- A call on an object in use has one of the effects, and gives its mapping back if it ends the locks. -/
theorem run_effect {o : BufferObject} {fd : Int32} (dumb : o.backend = .dumb fd) {b : BackendBuffer}
    (found : o.buffer = some b) (mapped : o.Mapped b) (call : ObjectCall) :
    Adds (call.run.run o) fun new result =>
      o.Effect b call result.1 result.2 ∧ unmappings new = if call.ends o then b.mapping.toList else [] := by
  cases call with
  | lock usage region => exact lock_effect dumb found usage region _ rfl
  | lockPlanar usage region => exact lockPlanar_effect dumb found usage region
  | unlock => simpa [ObjectCall.ends] using unlock_effect dumb found mapped
  | attach => exact attach_effect o b
  | destroy => exact destroy_effect dumb found

namespace Effect

variable {o o' : BufferObject} {b : BackendBuffer} {call : ObjectCall}
  {answer : Except Error (Option Address)} (effect : o.Effect b call answer o')
include effect

/-- The mapping stays as long as a lock is left. -/
theorem mapping {m : Mapping} (found : o.buffer = some b) (held : b.mapping = some m)
    (locked : o'.lockCount ≠ 0) : o'.mapping? = some m := by
  cases effect with
  | kept framebuffer refused silent surplus object =>
    rw [object, mapping?, found]
    exact held
  | hardware usage asked fits hw answered object =>
    rw [object]
    exact held
  | software usage m' asked fits sw shared answered object =>
    rw [object, shared m held]
    rfl
  | nested unlock locked more silent object =>
    rw [object]
    exact held
  | last unlock one silent object =>
    -- The count is zero after it, so no lock is left.
    refine absurd (Word.pred_eq_zero.2 one) ?_
    rwa [object] at locked
  | destroyed destroy silent object => exact absurd (object ▸ rfl) locked

/-- An address that is answered is that of the mapping held then, and of the one held before. -/
theorem addressed {a : Address} (answered : answer = .ok (some a)) :
    (∃ m, o'.mapping? = some m ∧ m.address = a) ∧ ∀ held ∈ b.mapping, held.address = a := by
  cases effect with
  | kept framebuffer refused silent => exact absurd answered (silent a)
  | software usage m asked fits sw shared told object =>
    obtain rfl : m.address = a := by simpa [told] using answered
    refine ⟨⟨m, object ▸ rfl, rfl⟩, fun held found => ?_⟩
    rw [shared held found]
  | hardware usage asked fits hw silent => cases silent.symm.trans answered
  | nested unlock locked more silent => cases silent.symm.trans answered
  | last unlock one silent => cases silent.symm.trans answered
  | destroyed destroy silent => cases silent.symm.trans answered

end Effect

/-! ## From call to call -/

/-- What holds of an object over the dumb-buffer backend all its life. -/
structure Steady (fd : Int32) (o : BufferObject) : Prop where
  dumb : o.backend = .dumb fd
  coherent : o.Coherent
  settled : o.Settled
  mapped : ∀ b, o.buffer = some b → o.Mapped b

variable {o o' : BufferObject} {fd : Int32}

theorem Born.steady (born : o.Born) (dumb : o.backend = .dumb fd) : o.Steady fd where
  dumb := dumb
  coherent := born.idle.coherent
  settled := born.idle.settled
  mapped b found := by
    obtain ⟨mapping, mapCount⟩ := born.unmapped dumb b found
    refine (mapped_iff_of_hw ?_).2 ⟨mapping, mapCount⟩
    rw [born.idle.lockedFor, Usage.swAccess_empty]

/-- A lock that brings software access to an object begins a nest. -/
theorem free_of_sw {usage : Usage} (fits : o.lockCount = 0 ∨ o.lockedFor.contains usage)
    (sw : (o.lockedFor ||| usage).swAccess) (hw : o.lockedFor.swAccess = false) : o.lockCount = 0 := by
  refine fits.resolve_right fun part => ?_
  rw [Usage.or_eq_left part, hw] at sw
  cases sw

/-- As many maps as locks are counted after a call, if it was so before. -/
theorem Effect.mapped {b : BackendBuffer} {call : ObjectCall} {answer : Except Error (Option Address)}
    (effect : o.Effect b call answer o') (found : o.buffer = some b) (mapped : o.Mapped b) :
    ∀ b', o'.buffer = some b' → o'.Mapped b' := by
  intro b' found'
  cases effect with
  | kept framebuffer refused silent surplus object =>
    subst object
    obtain rfl : b = b' := Option.some.inj (found.symm.trans found')
    exact mapped
  | hardware usage asked fits hw answered object =>
    subst object
    obtain rfl : b = b' := Option.some.inj found'
    have after : (o.withLockMore usage b).lockedFor.swAccess = false := hw
    have before : o.lockedFor.swAccess = false := by
      rw [Usage.swAccess_or, Bool.or_eq_false_iff] at hw
      exact hw.1
    exact (mapped_iff_of_hw after).2 ((mapped_iff_of_hw before).1 mapped)
  | software usage m asked fits sw shared answered object =>
    subst object
    obtain rfl := Option.some.inj found'
    have after (b' : BackendBuffer) : (o.withLockMore usage b').lockedFor.swAccess := sw
    -- Where the locks were for hardware alone, none of them is left, as there is no map.
    have count : b.mapCount = o.lockCount := by
      cases before : o.lockedFor.swAccess with
      | true => exact ((mapped_iff_of_sw before).1 mapped).2
      | false => rw [((mapped_iff_of_hw before).1 mapped).2, free_of_sw fits sw before]
    rw [mapped_iff_of_sw (after _), count]
    exact ⟨rfl, rfl⟩
  | nested unlock locked more silent object =>
    subst object
    obtain rfl := Option.some.inj found'
    cases sw : o.lockedFor.swAccess with
    | true =>
      obtain ⟨mapping, count⟩ := (mapped_iff_of_sw sw).1 mapped
      refine (mapped_iff_of_sw (swAccess_withLockLess.trans (by simp [more, sw]))).2 ⟨mapping, ?_⟩
      exact congrArg (· - 1) count
    | false =>
      refine (mapped_iff_of_hw (swAccess_withLockLess.trans (by simp [sw]))).2 ?_
      exact (mapped_iff_of_hw sw).1 mapped
  | last unlock one silent object =>
    subst object
    obtain rfl := Option.some.inj found'
    exact (mapped_iff_of_hw (swAccess_withLockLess.trans (by simp [one]))).2 ⟨rfl, rfl⟩
  | destroyed destroy silent object =>
    subst object
    cases found'

theorem Effect.backend {b : BackendBuffer} {call : ObjectCall} {answer : Except Error (Option Address)}
    (effect : o.Effect b call answer o') : o'.backend = o.backend := by
  cases effect <;> next object =>
    have same := congrArg BufferObject.backend object
    exact same

/-- A call on an object in use has one of the effects. -/
theorem Steady.effect (steady : o.Steady fd) {b : BackendBuffer} (found : o.buffer = some b)
    (call : ObjectCall) (h : Host) : o.Effect b call (call.run.run o h).1.1 (o.next (call, h)) := by
  obtain ⟨-, -, effect, -⟩ := run_effect steady.dumb found (steady.mapped b found) call h
  exact effect

theorem Steady.next (steady : o.Steady fd) {call : ObjectCall × Host} (counts : o.Counts call) :
    (o.next call).Steady fd := by
  have coherent := steady.coherent.next call
  have settled := steady.settled.next steady.coherent counts
  cases found : o.buffer with
  | none =>
    rw [next_destroyed steady.coherent found]
    exact steady
  | some b =>
    have effect := steady.effect found call.1 call.2
    exact ⟨effect.backend.trans steady.dumb, coherent, settled, effect.mapped found (steady.mapped b found)⟩

theorem Steady.after (steady : o.Steady fd) {calls : List (ObjectCall × Host)} (counted : o.Counted calls) :
    (o.after calls).Steady fd := by
  induction calls using List.reverseRecOn with
  | nil => exact steady
  | append_singleton calls call ih =>
    rw [after_append]
    exact (ih counted.earlier).next counted.last

/-- A mapping is held exactly when some map is counted, and as many are as there are locks. -/
theorem Steady.counts (steady : o.Steady fd) {b : BackendBuffer} (found : o.buffer = some b) :
    b.mapCount = (if o.lockedFor.swAccess then o.lockCount else 0) ∧ (b.mapping.isSome ↔ b.mapCount ≠ 0) := by
  have mapped := steady.mapped b found
  cases sw : o.lockedFor.swAccess with
  | true =>
    obtain ⟨mapping, count⟩ := (mapped_iff_of_sw sw).1 mapped
    have locked : o.lockCount ≠ 0 := fun free => by
      rw [steady.settled free] at sw
      cases sw
    exact ⟨count, fun _ => count ▸ locked, fun _ => mapping⟩
  | false =>
    obtain ⟨mapping, count⟩ := (mapped_iff_of_hw sw).1 mapped
    exact ⟨count, by simp [mapping], fun positive => absurd count positive⟩

theorem mapping?_live {b : BackendBuffer} (found : o.buffer = some b) : o.mapping? = b.mapping := by
  rw [mapping?, found, Option.bind_some]

/-- A mapping stays through a call that leaves a lock. -/
theorem Steady.mapping (steady : o.Steady fd) {m : Mapping} (held : o.mapping? = some m)
    (call : ObjectCall × Host) (locked : (o.next call).lockCount ≠ 0) : (o.next call).mapping? = some m := by
  obtain ⟨b, found, mapping⟩ := Option.bind_eq_some_iff.1 held
  exact (steady.effect found call.1 call.2).mapping found mapping locked

/-- An address that is answered is that of the mapping held then, and of the one held before. -/
theorem Steady.addressed (steady : o.Steady fd) {call : ObjectCall} {h : Host} {a : Address}
    (answered : (call.run.run o h).1.1 = .ok (some a)) :
    (∃ m, (o.next (call, h)).mapping? = some m ∧ m.address = a) ∧ ∀ held ∈ o.mapping?, held.address = a := by
  cases found : o.buffer with
  | none =>
    rw [run_destroyed steady.coherent found] at answered
    exact absurd answered (call.refusal_silent o.descriptor a)
  | some b =>
    rw [mapping?_live found]
    exact (steady.effect found call h).addressed answered

/-- What a call gives back is the mapping, if it ends the locks. -/
theorem Steady.gives (steady : o.Steady fd) (call : ObjectCall) : Adds (call.run.run o) fun new _ =>
    unmappings new = if call.ends o then o.mapping?.toList else [] := by
  cases found : o.buffer with
  | none =>
    have none : o.mapping? = none := by rw [mapping?, found]; rfl
    intro h
    rw [run_destroyed steady.coherent found, none]
    exact ⟨[], rfl, by split <;> rfl⟩
  | some b =>
    rw [mapping?_live found]
    exact (run_effect steady.dumb found (steady.mapped b found) call).mono fun _ _ effect => effect.2

/-! ## A lock and an unlock -/

/-- Whatever becomes of its buffer, an object has the locks it had once one is taken back. -/
theorem lockLess_lockMore {usage : Usage} (fits : o.lockCount = 0 ∨ o.lockedFor.contains usage)
    (settled : o.Settled) (b b' : BackendBuffer) :
    { o.withLockMore usage b with buffer := some b' }.withLockLess = { o with buffer := some b' } := by
  have count : o.lockCount + 1 - 1 = o.lockCount := UInt32.add_sub_cancel ..
  have usage : (if o.lockCount + 1 = 1 then .empty else o.lockedFor ||| usage) = o.lockedFor := by
    split
    · next one => exact (settled (by rw [← count, one]; rfl)).symm
    · next more =>
      refine Usage.or_eq_left (fits.resolve_left fun free => more ?_)
      rw [free]
      rfl
  unfold withLockLess withLockMore
  simp only [count, usage]

/-- A buffer that no lock is held of is not mapped. -/
theorem Steady.unmapped (steady : o.Steady fd) {b : BackendBuffer} (found : o.buffer = some b)
    (free : o.lockCount = 0) : b = { b with mapCount := 0, mapping := none } := by
  have hw : o.lockedFor.swAccess = false := by rw [steady.settled free, Usage.swAccess_empty]
  obtain ⟨mapping, count⟩ := (mapped_iff_of_hw hw).1 (steady.mapped b found)
  rw [← mapping, ← count]

theorem unlock_lockMore (steady : o.Steady fd) {b b' : BackendBuffer} (found : o.buffer = some b)
    {usage : Usage} (fits : o.lockCount = 0 ∨ o.lockedFor.contains usage)
    (few : o.lockCount.toNat + 1 < UInt32.size)
    (last : { b' with mapCount := 0, mapping := none } = { b with mapCount := 0, mapping := none })
    (nested : o.lockCount ≠ 0 → { b' with mapCount :=
      if (o.lockedFor ||| usage).swAccess then b'.mapCount - 1 else b'.mapCount } = b)
    {answer : Except Error (Option Address)}
    (effect : (o.withLockMore usage b').Effect b' .unlock answer o') : o' = o := by
  have same : { o with buffer := some b } = o := by rw [← found]
  cases effect with
  | kept framebuffer refused silent surplus => exact absurd (surplus rfl) (Word.succ_ne_zero few)
  | hardware usage asked => cases asked
  | software usage m asked => cases asked
  | destroyed destroy => cases destroy
  | nested unlock locked more silent object =>
    have held : o.lockCount ≠ 0 := fun free => more (by unfold withLockMore; rw [free]; rfl)
    rw [object, lockLess_lockMore fits steady.settled]
    exact (congrArg (fun b => { o with buffer := some b }) (nested held)).trans same
  | last unlock one silent object =>
    have free : o.lockCount = 0 := by
      have := Word.pred_eq_zero.2 one
      rwa [withLockMore, UInt32.add_sub_cancel] at this
    rw [object, lockLess_lockMore fits steady.settled, last, ← steady.unmapped found free, same]

/-- An unlock right after a lock that was granted leaves the object as it was. -/
theorem Steady.restored (steady : o.Steady fd) {call : ObjectCall} {h : Host} (asked : call.usage?.isSome)
    (granted : (call.run.run o h).1.1.isOk) (counts : o.Counts (call, h)) (h' : Host) :
    (o.next (call, h)).next (.unlock, h') = o := by
  have few := counts asked granted
  have steady' := steady.next counts
  cases found : o.buffer with
  | none =>
    rw [run_destroyed steady.coherent found] at granted
    cases granted.symm.trans (ObjectCall.refusal_lock o.descriptor asked)
  | some b =>
    have effect := steady.effect found call h
    generalize o.next (call, h) = o' at effect steady'
    cases effect with
    | kept framebuffer refused => cases granted.symm.trans (refused asked)
    | nested unlock | last unlock | destroyed unlock => subst unlock; cases asked
    | hardware usage asked fits hw answered object =>
      subst object
      have undone := steady'.effect rfl .unlock h'
      refine unlock_lockMore steady found fits few rfl (fun _ => ?_) undone
      rw [if_neg (by rw [hw]; nofun)]
    | software usage m asked fits sw shared answered object =>
      subst object
      have undone := steady'.effect rfl .unlock h'
      refine unlock_lockMore steady found fits few ?_ (fun locked => ?_) undone
      · rfl
      -- In a nest for software access the mapping was there before, so the lock shared it.
      have part : o.lockedFor ||| usage = o.lockedFor := Usage.or_eq_left (fits.resolve_left locked)
      obtain ⟨mapping, -⟩ := (mapped_iff_of_sw (part ▸ sw)).1 (steady.mapped b found)
      obtain ⟨held, mapping⟩ := Option.isSome_iff_exists.1 mapping
      obtain rfl := shared held mapping
      rw [if_pos sw, UInt32.add_sub_cancel, ← mapping]

/-! ## Every life -/

/-- The mapping behind an address that was answered stays until no lock is left. -/
theorem Steady.held (steady : o.Steady fd) {before between : List (ObjectCall × Host)}
    {call : ObjectCall × Host} (counted : o.Counted (before ++ call :: between)) {a : Address}
    (answered : (call.1.run.run (o.after before) call.2).1.1 = .ok (some a))
    (locked : ∀ calls, calls <+: between → (o.after (before ++ call :: calls)).lockCount ≠ 0) :
    ∃ m, (o.after (before ++ call :: between)).mapping? = some m ∧ m.address = a := by
  -- The mapping is the same from one call to the next, the last one being the one that may let go of it.
  induction between using List.reverseRecOn with
  | nil =>
    rw [after_append]
    exact ((steady.after counted.earlier).addressed answered).1
  | append_singleton between next ih =>
    rw [← List.cons_append, ← List.append_assoc] at counted ⊢
    obtain ⟨m, held, address⟩ := ih counted.earlier fun calls within =>
      locked calls (within.trans (List.prefix_append ..))
    refine ⟨m, ?_, address⟩
    have left := locked _ List.prefix_rfl
    rw [← List.cons_append, ← List.append_assoc, after_append] at left
    rw [after_append]
    exact (steady.after counted.earlier).mapping held next left

/-- What the calls on an object over the dumb-buffer backend make of its locks and its mapping. -/
structure Anchored (newborn : BufferObject) (calls : List (ObjectCall × Host)) : Prop where
  /-- There are as many maps as locks for software access, and a mapping if there is any. -/
  counts : ∀ b, (newborn.after calls).buffer = some b →
    b.mapCount = (if (newborn.after calls).lockedFor.swAccess then (newborn.after calls).lockCount else 0) ∧
      (b.mapping.isSome ↔ b.mapCount ≠ 0)
  /-- An address that was answered is that of the mapping, and the only one answered, as long as a lock is
  left. -/
  addresses : ∀ before call between a, calls = before ++ call :: between →
    (call.1.run.run (newborn.after before) call.2).1.1 = .ok (some a) →
    (∀ part, part <+: between → (newborn.after (before ++ call :: part)).lockCount ≠ 0) →
    (∃ m, (newborn.after calls).mapping? = some m ∧ m.address = a) ∧
      ∀ (again : ObjectCall) h a', (again.run.run (newborn.after calls) h).1.1 = .ok (some a') → a' = a
  /-- The next call gives the mapping back if it ends the locks, and otherwise none. -/
  gives : ∀ call : ObjectCall, Adds (call.run.run (newborn.after calls)) fun new _ =>
    unmappings new = if call.ends (newborn.after calls) then (newborn.after calls).mapping?.toList else []
  /-- If it is a lock that is granted, an unlock leaves all as it was before. -/
  restored : ∀ (call : ObjectCall) h h', call.usage?.isSome →
    (call.run.run (newborn.after calls) h).1.1.isOk → (newborn.after calls).Counts (call, h) →
    ((newborn.after calls).next (call, h)).next (.unlock, h') = newborn.after calls

/-- Whatever is called on an object over the dumb-buffer backend, and whatever fails, its mapping and every
address in it stay while it is locked. -/
theorem addresses_anchored {newborn : BufferObject} {fd : Int32} (born : newborn.Born)
    (dumb : newborn.backend = .dumb fd) {calls : List (ObjectCall × Host)} (counted : newborn.Counted calls) :
    newborn.Anchored calls := by
  have newborn' := born.steady dumb
  have steady := newborn'.after counted
  refine ⟨fun b found => steady.counts found, ?_, steady.gives, fun call h h' asked granted counts =>
    steady.restored asked granted counts h'⟩
  rintro before call between a rfl answered locked
  obtain ⟨m, held, address⟩ := newborn'.held counted answered locked
  refine ⟨⟨m, held, address⟩, fun again h a' answered' => ?_⟩
  rw [← (steady.addressed answered').2 m held, address]

/-- A canvas that is allocated on the card 1000. -/
def easel : Except Error BufferObject × Host :=
  (create (.dumb 1000) ⟨1000, "/dev/dri/card0"⟩ 16 16 .rgba8888 .swWriteOften).run
    (Client.virtual.step (.ensureReady false)).2.process.host

/-- Two locks to draw on it, the second one on a kernel that knows nothing of it. -/
def strokes (h : Host) : List (ObjectCall × Host) :=
  [(.lock .swWriteOften {}, h), (.lock .swWriteRarely {}, {})]

/-- Both are granted, over the one mapping that was made. -/
theorem strokes_anchored : ∃ canvas h, easel = (.ok canvas, h) ∧ canvas.Born ∧ canvas.backend = .dumb 1000 ∧
    canvas.Counted (strokes h) ∧ (canvas.after (strokes h)).lockCount = 2 ∧
    (canvas.after (strokes h)).mapping? = some ⟨1, 4096⟩ ∧ canvas.Anchored (strokes h) := by
  have ran : (match easel with
      | (.ok canvas, h) => decide ((canvas.after (strokes h)).lockCount = 2 ∧
          (canvas.after (strokes h)).mapping? = some ⟨1, 4096⟩)
      | (.error _, _) => false) = true := by decide +kernel
  rcases made : easel with ⟨e | canvas, h⟩ <;> rw [made] at ran
  · cases ran
  have eq : easel.1 = .ok canvas := congrArg Prod.fst made
  have born : canvas.Born := .created eq
  have dumb : canvas.backend = .dumb 1000 := (create_fresh eq).backend
  have counted : canvas.Counted (strokes h) := born.idle.counted (show 2 < UInt32.size by decide)
  obtain ⟨count, mapping⟩ := of_decide_eq_true ran
  exact ⟨canvas, h, rfl, born, dumb, counted, count, mapping, addresses_anchored born dumb counted⟩

end BufferObject

end GraphicsBuffers

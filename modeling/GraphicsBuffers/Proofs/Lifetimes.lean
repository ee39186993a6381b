import GraphicsBuffers.Proofs.Cards
import GraphicsBuffers.Proofs.Client
import GraphicsBuffers.Proofs.Locks
import GraphicsBuffers.Proofs.Processes
import GraphicsBuffers.World
/-!
# The life of a buffer object

An object comes to life when it is allocated or imported, it is used, and at some time it is destroyed,
while some may hold it still. Its life is the list of calls made on it, each on whatever host there was by
then, and nothing is assumed of its backend. With the buffer go the locks and the framebuffer, all life long
(`Coherent`), so every call on a destroyed object finds nothing left to work on, whichever field it looks at
first (`destroyed_inert`).

With the last lock goes the usage an object was locked for (`Settled`), as long as the locks can be counted:
the count is a 32-bit word, and it is back at zero when 2^32 locks are outstanding at once (`Counted`). Of an
object that is destroyed then, the usage remains; and who is the last to let go of a destroyed object still lets
go of the card that it is on (`destroyed_remains`).
-/

namespace GraphicsBuffers

open BufferObject

/-! ## Calls on an object -/

/-- A call on one object. -/
inductive ObjectCall
  | lock (usage : Usage) (region : Region)
  | lockPlanar (usage : Usage) (region : Region)
  | unlock
  | attach
  | destroy

namespace ObjectCall

/-- Carries out a call. Of its answer only the address that a lock gives is kept. -/
def run : ObjectCall → ObjectM (Except Error (Option Address))
  | lock usage region => (BufferObject.lock usage region).run
  | lockPlanar usage region =>
    Except.map (fun planes => some planes.y) <$> (BufferObject.lockPlanar usage region).run
  | unlock => (fun _ => .ok none) <$> BufferObject.unlock
  | attach => Except.map (fun _ => none) <$> attachFramebuffer.run
  | destroy => (fun _ => .ok none) <$> BufferObject.destroy

/-- The usage asked for, if a lock is. -/
def usage? : ObjectCall → Option Usage
  | lock usage _ | lockPlanar usage _ => some usage
  | unlock | attach | destroy => none

section Runs
variable (o : BufferObject) (h : Host) (usage : Usage) (region : Region)

theorem lock_run : (lock usage region).run.run o h =
    let held := (o.lockDialogue usage region).hold o.backend h
    ((held.answer, held.object), held.host) := BufferObject.lock_run o usage region h

theorem lockPlanar_run : (lockPlanar usage region).run.run o h =
    let held := (o.lockPlanarDialogue usage region).hold o.backend h
    ((held.answer.map fun planes => some planes.y, held.object), held.host) := by
  simp only [run, run_map_plain, BufferObject.lockPlanar_run]

theorem unlock_run : unlock.run.run o h =
    let held := (o.unlockDialogue.answering (Except.ok (ε := Error))).hold o.backend h
    ((.ok none, held.object), held.host) := by
  simp only [run, run_map_plain, BufferObject.unlock_run, Dialogue.hold_answering]

theorem attach_run : attach.run.run o h =
    let attached := attachFramebuffer.run.run o h
    ((attached.1.1.map fun _ => none, attached.1.2), attached.2) := by
  simp only [run, run_map_plain]

theorem destroy_run : destroy.run.run o h =
    let destroyed := BufferObject.destroy.run o h
    ((.ok none, destroyed.1.2), destroyed.2) := by
  simp only [run, run_map_plain]

end Runs

section Destroyed
variable (d : Descriptor)

/-- What a lock of a destroyed object of the descriptor `d` fails with. -/
def lockRefusal (usage : Usage) : Error :=
  if permits d.usage usage then .invalidHandle else .usageMismatch d.usage usage

/-- What a call on such an object answers. -/
def refusal : ObjectCall → Except Error (Option Address)
  | lock usage _ => .error (lockRefusal d usage)
  | lockPlanar usage _ =>
    if d.format ≠ .ycbcr420 then .error (.invalidFormat d.format.raw)
    else if !usage.swAccess then .error (.usageMismatch d.usage usage)
    else .error (lockRefusal d usage)
  | attach => .error .invalidHandle
  | unlock | destroy => .ok none

theorem refusal_silent (call : ObjectCall) (a : Address) : call.refusal d ≠ .ok (some a) := by
  cases call with
  | lockPlanar usage region =>
    simp only [refusal]
    split
    · nofun
    · split <;> nofun
  | lock | unlock | attach | destroy => nofun

/-- Every lock is refused. -/
theorem refusal_lock {call : ObjectCall} (asked : call.usage?.isSome) : (call.refusal d).isOk = false := by
  cases call with
  | lock => rfl
  | lockPlanar usage region =>
    simp only [refusal]
    split
    · rfl
    · split <;> rfl
  | unlock | attach | destroy => cases asked

/-- What is reported of a lock of such an object. -/
def lockComplaint (usage : Usage) : List LogEvent :=
  if permits d.usage usage then [] else [.undeclaredUsage usage d.usage]

/-- What is reported of a call on such an object. -/
def complaint : ObjectCall → List LogEvent
  | lock usage _ => lockComplaint d usage
  | lockPlanar usage _ =>
    if d.format ≠ .ycbcr420 then [] else if !usage.swAccess then [] else lockComplaint d usage
  | unlock | attach | destroy => []

end Destroyed

end ObjectCall

/-! ## Lives -/

namespace BufferObject

/-- The object after a call on some host. -/
def next (o : BufferObject) (call : ObjectCall × Host) : BufferObject := (call.1.run.run o call.2).1.2

/-- The object after calls, from the first on. -/
def after (o : BufferObject) (calls : List (ObjectCall × Host)) : BufferObject := calls.foldl next o

/-- A lock is granted only if it can be counted. -/
def Counts (o : BufferObject) (call : ObjectCall × Host) : Prop :=
  call.1.usage?.isSome → (call.1.run.run o call.2).1.1.isOk → o.lockCount.toNat + 1 < UInt32.size

/-- Fewer than 2^32 locks are outstanding all along. -/
def Counted (o : BufferObject) (calls : List (ObjectCall × Host)) : Prop :=
  ∀ earlier call, earlier ++ [call] <+: calls → (o.after earlier).Counts call

@[simp] theorem after_nil (o : BufferObject) : o.after [] = o := rfl

theorem after_cons (o : BufferObject) (call : ObjectCall × Host) (calls : List (ObjectCall × Host)) :
    o.after (call :: calls) = (o.next call).after calls := rfl

theorem after_append (o : BufferObject) (calls later : List (ObjectCall × Host)) :
    o.after (calls ++ later) = (o.after calls).after later := List.foldl_append

theorem Counted.earlier {o : BufferObject} {calls later : List (ObjectCall × Host)}
    (counted : o.Counted (calls ++ later)) : o.Counted calls := fun earlier call within =>
  counted earlier call (within.trans (List.prefix_append ..))

theorem Counted.last {o : BufferObject} {calls : List (ObjectCall × Host)} {call : ObjectCall × Host}
    (counted : o.Counted (calls ++ [call])) : (o.after calls).Counts call :=
  counted calls call List.prefix_rfl

/-! ## What holds all life long -/

/-- With the buffer go the locks and the framebuffer. -/
structure Coherent (o : BufferObject) : Prop where
  unlocked : o.buffer = none → o.lockCount = 0
  bare : o.buffer = none → o.framebuffer = none

/-- With the last lock goes the usage that the object was locked for. -/
def Settled (o : BufferObject) : Prop := o.lockCount = 0 → o.lockedFor = .empty

variable {o : BufferObject}

theorem Coherent.of_live (live : o.buffer.isSome) : o.Coherent :=
  ⟨fun gone => by simp [gone] at live, fun gone => by simp [gone] at live⟩

theorem Idle.coherent (idle : o.Idle) : o.Coherent := .of_live idle.live

theorem Idle.settled (idle : o.Idle) : o.Settled := fun _ => idle.lockedFor

theorem Settled.destroyed (settled : o.Settled) : o.destroyed.Settled := by
  intro _
  unfold BufferObject.destroyed withoutLocks
  dsimp only
  split
  · rfl
  · next free => exact settled (by simpa using free)

/-! ### After the end -/

section Destroyed

variable (coherent : o.Coherent) (gone : o.buffer = none) (h : Host)
include coherent gone

theorem lockDialogue_destroyed (usage : Usage) (region : Region) (backend : Backend) :
    (o.lockDialogue usage region).hold backend h =
      ⟨.error (ObjectCall.lockRefusal o.descriptor usage), o,
        { h with log := ObjectCall.lockComplaint o.descriptor usage ++ h.log }, []⟩ := by
  unfold ObjectCall.lockRefusal ObjectCall.lockComplaint
  by_cases permitted : permits o.descriptor.usage usage
  · rw [lockDialogue_compatible permitted (.inl (coherent.unlocked gone)), gone, if_pos permitted,
      if_pos permitted]
    rfl
  · rw [lockDialogue_undeclared permitted, if_neg permitted, if_neg permitted]
    rfl

/-- A call on a destroyed object answers by the descriptor alone, and leaves nothing but reports. -/
theorem run_destroyed (call : ObjectCall) :
    call.run.run o h = ((call.refusal o.descriptor, o),
      { h with log := call.complaint o.descriptor ++ h.log }) := by
  have locked (usage : Usage) (region : Region) :=
    lockDialogue_destroyed coherent gone h usage region o.backend
  -- Each call looks at a field of its own first: the count, the framebuffer or the buffer.
  cases call with
  | lock usage region =>
    rw [ObjectCall.lock_run, locked]
    rfl
  | lockPlanar usage region =>
    rw [ObjectCall.lockPlanar_run]
    unfold lockPlanarDialogue ObjectCall.refusal ObjectCall.complaint
    dsimp only
    by_cases format : o.descriptor.format ≠ .ycbcr420
    · simp only [if_pos format]
      rfl
    · by_cases hw : (!usage.swAccess) = true
      · simp only [if_neg format, if_pos hw]
        rfl
      · simp only [if_neg format, if_neg hw, Dialogue.hold_answering, locked]
        rfl
  | unlock =>
    rw [ObjectCall.unlock_run, unlockDialogue, if_pos (coherent.unlocked gone)]
    rfl
  | attach =>
    rw [ObjectCall.attach_run, attachFramebuffer_run, coherent.bare gone, gone]
    rfl
  | destroy =>
    rw [ObjectCall.destroy_run, BufferObject.destroy_run, gone]
    rfl

theorem next_destroyed (call : ObjectCall × Host) : o.next call = o := by
  rw [next, run_destroyed coherent gone]

theorem after_destroyed (calls : List (ObjectCall × Host)) : o.after calls = o := by
  induction calls with
  | nil => rfl
  | cons call calls ih => rw [after_cons, next_destroyed coherent gone, ih]

end Destroyed

/-! ### While the object is in use -/

/-- What a call comes to while the object is in use. -/
inductive Outcome (o : BufferObject) (call : ObjectCall) (ok : Bool) : BufferObject → Prop
  /-- No lock comes or goes. -/
  | kept (buffer : BackendBuffer) (framebuffer : Option UInt32)
      (refused : call.usage?.isSome → ok = false) :
    Outcome o call ok { o with buffer := some buffer, framebuffer }
  | granted (buffer : BackendBuffer) (usage : Usage) (asked : call.usage? = some usage) (answer : ok = true)
      (fits : o.lockCount = 0 ∨ o.lockedFor.contains usage) :
    Outcome o call ok { o with
      buffer := some buffer
      lockCount := o.lockCount + 1
      lockedFor := o.lockedFor ||| (usage ||| o.lockedFor) }
  | balanced (buffer : BackendBuffer) (locked : o.lockCount ≠ 0) :
    Outcome o call ok { o with buffer := some buffer }.withLockLess
  | destroyed : Outcome o call ok o.destroyed

theorem Outcome.of_lock {α : Type} {usage : Usage} {held : Held (Except Error α)} {call : ObjectCall}
    (asked : call.usage? = some usage) (outcome : LockOutcome o usage held) :
    o.Outcome call held.answer.isOk held.object := by
  rcases outcome with ⟨buffer, answer, object, -⟩ | ⟨buffer, answer, fits, object, -⟩ <;> rw [object]
  · exact .kept buffer o.framebuffer fun _ => answer
  · exact .granted buffer usage asked answer fits

theorem Outcome.of_unlock {held : Held (Except Error Unit)} {ok : Bool} (live : o.buffer.isSome)
    (outcome : UnlockOutcome o held) : o.Outcome .unlock ok held.object := by
  obtain ⟨b, found⟩ := Option.isSome_iff_exists.1 live
  rcases outcome with ⟨-, object, -⟩ | ⟨buffer, locked, object, -⟩ <;> rw [object]
  · have same : { o with buffer := some b } = o := by rw [← found]
    exact same ▸ .kept b o.framebuffer nofun
  · exact .balanced buffer locked

theorem next_outcome (live : o.buffer.isSome) (call : ObjectCall) (h : Host) :
    o.Outcome call (call.run.run o h).1.1.isOk (o.next (call, h)) := by
  unfold next
  dsimp only
  obtain ⟨b, found⟩ := Option.isSome_iff_exists.1 live
  cases call with
  | lock usage region =>
    rw [ObjectCall.lock_run]
    exact .of_lock rfl (lockDialogue_outcome live usage region h)
  | lockPlanar usage region =>
    rw [ObjectCall.lockPlanar_run]
    dsimp only
    rw [LockHistory.isOk_map]
    exact .of_lock rfl (lockPlanarDialogue_outcome live usage region h)
  | unlock =>
    rw [ObjectCall.unlock_run]
    exact .of_unlock live (unlockDialogue_outcome live h)
  | attach =>
    rw [ObjectCall.attach_run]
    dsimp only
    rw [attachFramebuffer_object]
    exact found ▸ .kept b _ nofun
  | destroy =>
    rw [ObjectCall.destroy_run, BufferObject.destroy_run, found]
    exact .destroyed

/-! ### From call to call -/

theorem Coherent.next (coherent : o.Coherent) (call : ObjectCall × Host) : (o.next call).Coherent := by
  cases found : o.buffer with
  | none => rwa [next_destroyed coherent found]
  | some b =>
    have outcome := next_outcome (o := o) (by simp [found]) call.1 call.2
    generalize o.next call = o' at outcome
    cases outcome with
    | kept | granted | balanced => exact .of_live rfl
    | destroyed => exact ⟨fun _ => rfl, fun _ => rfl⟩

theorem Coherent.after (coherent : o.Coherent) (calls : List (ObjectCall × Host)) :
    (o.after calls).Coherent := by
  induction calls generalizing o with
  | nil => exact coherent
  | cons call calls ih => exact ih (coherent.next call)

theorem withLockLess_settled : o.withLockLess.Settled := fun free => if_pos (Word.pred_eq_zero.1 free)

theorem Settled.next (settled : o.Settled) (coherent : o.Coherent) {call : ObjectCall × Host}
    (counts : o.Counts call) : (o.next call).Settled := by
  cases found : o.buffer with
  | none => rwa [next_destroyed coherent found]
  | some b =>
    have outcome := next_outcome (o := o) (by simp [found]) call.1 call.2
    unfold Counts at counts
    generalize o.next call = o' at outcome
    cases outcome with
    | kept => exact settled
    | granted buffer usage asked answer fits =>
      have few := counts (asked ▸ rfl) answer
      exact fun free => absurd free (Word.succ_ne_zero few)
    | balanced => exact withLockLess_settled
    | destroyed => exact settled.destroyed

theorem Settled.after (settled : o.Settled) (coherent : o.Coherent) {calls : List (ObjectCall × Host)}
    (counted : o.Counted calls) : (o.after calls).Settled := by
  -- From the end: whether a lock can be counted depends on all calls before it.
  induction calls using List.reverseRecOn with
  | nil => exact settled
  | append_singleton calls call ih =>
    rw [after_append]
    exact (ih counted.earlier).next (coherent.after calls) counted.last

/-- No call adds more than one lock. -/
theorem next_lockCount_le (coherent : o.Coherent) (call : ObjectCall × Host) :
    (o.next call).lockCount.toNat ≤ o.lockCount.toNat + 1 := by
  cases found : o.buffer with
  | none =>
    rw [next_destroyed coherent found]
    exact Nat.le_succ _
  | some b =>
    have outcome := next_outcome (o := o) (by simp [found]) call.1 call.2
    generalize o.next call = o' at outcome
    cases outcome with
    | kept => exact Nat.le_succ _
    | granted =>
      -- A count that wraps is the less.
      rw [UInt32.toNat_add]
      exact Nat.mod_le _ _
    | balanced buffer locked =>
      have less := Word.toNat_pred locked
      unfold withLockLess
      dsimp only
      omega
    | destroyed => exact Nat.zero_le _

/-- Fewer than 2^32 calls cannot leave as many locks. -/
theorem Idle.counted (idle : o.Idle) {calls : List (ObjectCall × Host)}
    (few : calls.length < UInt32.size) : o.Counted calls := by
  have bound (calls : List (ObjectCall × Host)) : (o.after calls).lockCount.toNat ≤ calls.length := by
    induction calls using List.reverseRecOn with
    | nil => simp [idle.lockCount]
    | append_singleton calls call ih =>
      have one := next_lockCount_le (idle.coherent.after calls) call
      rw [after_append, List.length_append]
      exact Nat.le_trans one (Nat.add_le_add_right ih 1)
  intro earlier call within _ _
  have length := within.length_le
  rw [List.length_append, List.length_singleton] at length
  have := bound earlier
  omega

/-! ## The end of a life -/

/-- An object past all use: whatever is called on it, and whatever backend it has, nothing is asked of the
kernel or of the backend. -/
structure Inert (o : BufferObject) : Prop where
  /-- Nothing changes it any more. -/
  stays : ∀ calls, o.after calls = o
  /-- A call is answered by the descriptor alone, and leaves nothing but reports. -/
  refuses : ∀ (call : ObjectCall) h, call.run.run o h =
    ((call.refusal o.descriptor, o), { h with log := call.complaint o.descriptor ++ h.log })
  planes : ∀ h, o.planes? h = none
  /-- Who is the last to let go of it gives back no more than its hold on the card: the kernel is asked to
  close that card if nobody else holds it, and it is asked nothing otherwise. -/
  dropped : ∀ (p : Process) id n, p.objects.get? id = some ⟨o, n⟩ → n < 2 →
    p.released id = { p with objects := p.objects.erase id }.after o.card.release ∧
      (Kernel.isWatched o.card.fd → o.card.LetGo p.host (p.released id).host)

theorem Coherent.inert (coherent : o.Coherent) (gone : o.buffer = none) : o.Inert where
  stays := after_destroyed coherent gone
  refuses call h := run_destroyed coherent gone h call
  planes h := by
    unfold planes?
    rw [gone]
    rfl
  dropped p id n held last := by
    have again (h : Host) : BufferObject.destroy.run o h = (((), o), h) := by
      rw [BufferObject.destroy_run, gone]
    have released : p.released id = { p with objects := p.objects.erase id }.after o.card.release := by
      rw [Process.released_last held last]
      unfold Process.after
      rw [run_bind_state, again]
    exact ⟨released, fun watched => released ▸ o.card.release_letGo p.host watched⟩

/-- Whatever its backend did, whatever was called on it and whichever locks and framebuffer it had, a
destroyed object has none of them and is past all use, no matter what backend one puts below it. Nor is it
locked for anything, if its locks could be counted all along. -/
theorem destroyed_inert {newborn : BufferObject} (born : newborn.Born) (calls : List (ObjectCall × Host)) :
    let o := newborn.after calls
    (∀ h, (o.next (.destroy, h)).isDestroyed) ∧
      (o.isDestroyed → o.lockCount = 0 ∧ (newborn.Counted calls → o.lockedFor = .empty) ∧
        o.framebuffer = none ∧ ∀ backend, Inert { o with backend }) := by
  intro o
  have coherent : o.Coherent := born.idle.coherent.after calls
  refine ⟨fun h => ?_, fun destroyed => ?_⟩
  · unfold next
    rw [ObjectCall.destroy_run, BufferObject.destroy_run]
    split
    · next gone =>
      unfold isDestroyed
      rw [gone]
      rfl
    · rfl
  · have gone : o.buffer = none := Option.isNone_iff_eq_none.1 destroyed
    have free := coherent.unlocked gone
    have settled (counted : newborn.Counted calls) : o.Settled :=
      born.idle.settled.after born.idle.coherent counted
    exact ⟨free, fun counted => settled counted free, coherent.bare gone, fun backend =>
      Coherent.inert ⟨coherent.unlocked, coherent.bare⟩ gone⟩

theorem smallObject_born : LockHistory.smallObject.Born :=
  @Born.imported _ .scripted ⟨1000, "/dev/dri/card0"⟩ LockHistory.smallBuffer {} rfl

/-- An object that is locked twice, for reading, and destroyed all the same. -/
def cutShort : List (ObjectCall × Host) :=
  [(.lock .swReadOften {}, {}), (.lock .swReadRarely {}, {}), (.destroy, {})]

theorem cutShort_inert :
    let before := LockHistory.smallObject.after (cutShort.take 2)
    let o := LockHistory.smallObject.after cutShort
    (before.lockCount = 2 ∧ before.lockedFor = .swReadOften) ∧
      LockHistory.smallObject.Born ∧ LockHistory.smallObject.Counted cutShort ∧ o.isDestroyed ∧
      o.lockCount = 0 ∧ o.lockedFor = .empty ∧ o.framebuffer = none ∧
      ∀ backend, Inert { o with backend } := by
  have counted : LockHistory.smallObject.Counted cutShort := smallObject_born.idle.counted (by decide)
  have destroyed : (LockHistory.smallObject.after cutShort).isDestroyed := rfl
  obtain ⟨free, settled, bare, inert⟩ := (destroyed_inert smallObject_born cutShort).2 destroyed
  exact ⟨⟨rfl, rfl⟩, smallObject_born, counted, destroyed, free, settled counted, bare, inert⟩

/-! ### What remains -/

/-- A lock for the hardware alone. -/
def hardwareLock : ObjectCall × Host := (.lock .hwRender {}, {})

/-- Such a lock is granted to an object that is not locked, or not for anything else. -/
theorem next_hardwareLock (live : o.buffer.isSome) (permitted : permits o.descriptor.usage .hwRender)
    (fits : o.lockCount = 0 ∧ o.lockedFor = .empty ∨ o.lockedFor = .hwRender) :
    o.next hardwareLock = { o with lockCount := o.lockCount + 1, lockedFor := .hwRender } := by
  obtain ⟨b, found⟩ := Option.isSome_iff_exists.1 live
  have compatible : o.lockCount = 0 ∨ o.lockedFor.contains .hwRender :=
    fits.imp And.left fun same => by rw [same]; rfl
  have whole : Usage.hwRender ||| o.lockedFor = .hwRender := by
    rcases fits with ⟨-, same⟩ | same <;> rw [same] <;> rfl
  have now : o.lockedFor ||| .hwRender = .hwRender := by
    rcases fits with ⟨-, same⟩ | same <;> rw [same] <;> rfl
  unfold next hardwareLock
  rw [ObjectCall.lock_run, lockDialogue_compatible permitted compatible, found]
  dsimp only
  rw [whole, if_neg (by decide), grantDialogue, now, ← found]
  rfl

/-- The count is that of the locks, but for multiples of 2^32. -/
theorem after_hardwareLocks (idle : o.Idle) (permitted : permits o.descriptor.usage .hwRender) (n : Nat) :
    o.after (List.replicate (n + 1) hardwareLock) =
      { o with lockCount := .ofNat (n + 1), lockedFor := .hwRender } := by
  induction n with
  | zero =>
    have first := next_hardwareLock idle.live permitted (.inl ⟨idle.lockCount, idle.lockedFor⟩)
    rwa [idle.lockCount] at first
  | succ n ih =>
    rw [List.replicate_succ', after_append, ih, after_cons, after_nil]
    let locked := { o with lockCount := .ofNat (n + 1), lockedFor := .hwRender }
    refine (next_hardwareLock (o := locked) idle.live permitted (.inr rfl)).trans ?_
    rw [UInt32.ofNat_add (n + 1) 1]
    rfl

/-- An object is locked for the hardware until the count of its locks has come round, and then destroyed. -/
def comingRound : List (ObjectCall × Host) :=
  List.replicate UInt32.size hardwareLock ++ [(ObjectCall.destroy, ({} : Host))]

/-- A client that still holds a buffer which it has destroyed, and has dropped its allocator. -/
def relinquished : Client :=
  let w : World := { cards := [{ driver := [118, 107, 109, 115] }] }
  let created : Descriptor :=
    { width := 16, height := 16, stride := 64, format := .rgba8888,
      usage := .swReadOften ||| .swWriteOften, memory := some (.name 1) }
  (Client.start (w.process {}).host (Opener.ofConfig { path := "/dev/dri/card0" }).reporting .standard).run
    [.create 16 16 1 created.usage, .hold created, .dropLocal created, .dropAllocator []]

/-- What remains of a destroyed object. If 2^32 locks for the hardware were outstanding, they count as none and
are passed over, and the object stays locked for the hardware. And the last one to let go of a destroyed object
closes its card, if only the object has held it. -/
theorem destroyed_remains :
    let o := LockHistory.smallObject.after comingRound
    (LockHistory.smallObject.Born ∧ o.isDestroyed ∧ o.lockCount = 0 ∧ o.lockedFor = .hwRender ∧
        o.lockedFor ≠ .empty) ∧
      (relinquished.process.objects.get? 0).map (fun sh => (sh.object.isDestroyed, sh.holders)) =
        some (true, 1) ∧
      (relinquished.step (.drop 0)).2.process.host.kernel.trace.map TraceEntry.text =
        "close 1000 = 0" :: relinquished.process.host.kernel.trace.map TraceEntry.text := by
  have locked := after_hardwareLocks smallObject_born.idle (by decide) (UInt32.size - 1)
  have all : UInt32.size - 1 + 1 = UInt32.size := rfl
  have none : UInt32.ofNat UInt32.size = 0 := by decide
  rw [all, none] at locked
  rw [comingRound, after_append, locked]
  exact ⟨⟨smallObject_born, rfl, rfl, rfl, by decide⟩, by decide +kernel, by decide +kernel⟩

end BufferObject

end GraphicsBuffers

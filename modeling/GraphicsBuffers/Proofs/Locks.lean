import GraphicsBuffers.Backend.Scripted
import GraphicsBuffers.Proofs.Objects
import Mathlib.Data.List.Induction
/-!
# Locks are counted and mapped in step

A `LockHistory` is what happens to one object from its birth on: calls of `lock`, `lockPlanar` and
`unlock` in any order, each on whatever host there is by then, with the calls of the backend that
each made. While fewer than 2^32 locks are outstanding, the lock count is the number of granted locks
less that of unlocks that found one, the usage the object is locked for is that of the lock that
began the nest, and as many maps are outstanding as there are locks if that usage has a software
flag, and none if not (`Sound`). The point is that `unlock` decides by the usage of the whole nest
whether to unmap: every later lock of the nest was for a part of the first one's usage.
-/

namespace GraphicsBuffers

open BufferObject

/-! ## Counting in a word -/

namespace Word

variable {n : UInt32}

theorem toNat_succ (few : n.toNat + 1 < UInt32.size) : (n + 1).toNat = n.toNat + 1 := by
  rw [UInt32.toNat_add, UInt32.toNat_one]
  exact Nat.mod_eq_of_lt few

theorem succ_ne_zero (few : n.toNat + 1 < UInt32.size) : n + 1 ≠ 0 := fun zero => by
  simpa [zero] using toNat_succ few

theorem toNat_pred (nonzero : n ≠ 0) : (n - 1).toNat + 1 = n.toNat := by
  have positive : 1 ≤ n.toNat := Nat.one_le_iff_ne_zero.2 fun zero => nonzero (UInt32.toNat_inj.1 zero)
  have one : (1 : UInt32) ≤ n := UInt32.le_iff_toNat_le.2 (by rwa [UInt32.toNat_one])
  rw [UInt32.toNat_sub_of_le _ _ one, UInt32.toNat_one, Nat.sub_add_cancel positive]

theorem pred_eq_zero : n - 1 = 0 ↔ n = 1 := UInt32.sub_eq_iff_eq_add

end Word

/-! ## Calls and histories -/

/-- A call that counts locks. -/
inductive LockCall
  | lock (usage : Usage) (region : Region)
  | lockPlanar (usage : Usage) (region : Region)
  | unlock

namespace LockCall

/-- Carries out a call. What a lock answers is not looked at. -/
def run : LockCall → ObjectM (Except Error Unit)
  | lock usage region => Except.map (fun _ => ()) <$> (BufferObject.lock usage region).run
  | lockPlanar usage region => Except.map (fun _ => ()) <$> (BufferObject.lockPlanar usage region).run
  | unlock => Except.ok <$> BufferObject.unlock

/-- The dialogue of a call. -/
def dialogue (o : BufferObject) : LockCall → Dialogue (Except Error Unit)
  | lock usage region => (o.lockDialogue usage region).answering (Except.map fun _ => ())
  | lockPlanar usage region => (o.lockPlanarDialogue usage region).answering (Except.map fun _ => ())
  | unlock => o.unlockDialogue.answering Except.ok

/-- Carrying out a call is holding its dialogue. -/
theorem run_eq (call : LockCall) (o : BufferObject) (h : Host) :
    call.run.run o h =
      let held := (call.dialogue o).hold o.backend h
      ((held.answer, held.object), held.host) := by
  cases call with
  | lock usage region =>
    simp only [run, dialogue, run_map_plain, lock_run, Dialogue.hold_answering]
  | lockPlanar usage region =>
    simp only [run, dialogue, run_map_plain, lockPlanar_run, Dialogue.hold_answering]
  | unlock => simp only [run, dialogue, run_map_plain, unlock_run, Dialogue.hold_answering]

/-- The usage asked for, if a lock is. -/
def usage? : LockCall → Option Usage
  | lock usage _ | lockPlanar usage _ => some usage
  | unlock => none

end LockCall

/-- A call that was made. -/
structure LockRecord where
  call : LockCall
  /-- The object that the call found. -/
  before : BufferObject
  answer : Except Error Unit
  /-- The calls of the backend, the last one first. -/
  backendCalls : List BackendEvent

namespace LockRecord

/-- The usage a lock was granted for. -/
def granted? (r : LockRecord) : Option Usage := if r.answer.isOk then r.call.usage? else none

/-- Whether this is an unlock that found a lock. -/
def balances (r : LockRecord) : Bool := r.call.usage?.isNone && decide (r.before.lockCount ≠ 0)

end LockRecord

/-- An object and the calls made on it, the last one first. -/
structure LockHistory where
  object : BufferObject
  records : List LockRecord := []

namespace LockHistory

/-- The history after another call, made on some host. -/
def step (t : LockHistory) (next : LockCall × Host) : LockHistory :=
  let ((answer, object), _) := next.1.run.run t.object next.2
  let calls := ((next.1.dialogue t.object).hold t.object.backend next.2).calls
  { object, records := ⟨next.1, t.object, answer, calls.reverse⟩ :: t.records }

/-- The history of an object on which calls are made, from the first on. -/
def run (o : BufferObject) (calls : List (LockCall × Host)) : LockHistory :=
  calls.foldl step { object := o }

section Counts
variable (records : List LockRecord)

/-- The number of locks that were granted. -/
def granted : Nat := records.countP (·.granted?.isSome)

/-- The number of unlocks that found a lock. -/
def balanced : Nat := records.countP (·.balances)

/-- The calls of the backend, the last one first. -/
def backendCalls : List BackendEvent := records.flatMap (·.backendCalls)

end Counts

/-- The nest of locks that the last calls belong to was begun by a lock for `usage`, and every lock
granted since was for a part of it. -/
inductive Nest : List LockRecord → Usage → Prop
  | first {r earlier usage} (free : r.before.lockCount = 0) (granted : r.granted? = some usage) :
    Nest (r :: earlier) usage
  | later {r earlier usage} (nest : Nest earlier usage) (locked : r.before.lockCount ≠ 0)
    (part : ∀ u ∈ r.granted?, usage.contains u) : Nest (r :: earlier) usage

/-- Every unmap found a map outstanding. -/
def Matched (calls : List BackendEvent) : Prop :=
  ∀ later earlier, calls = later ++ .unmapped :: earlier →
    earlier.count .unmapped < earlier.count .mapped

/-- The counts of a history fit together. -/
structure Sound (t : LockHistory) : Prop where
  live : t.object.buffer.isSome
  /-- The lock count is the number of granted locks less that of the unlocks that found one. -/
  counted : t.object.lockCount.toNat + balanced t.records = granted t.records
  free : t.object.lockCount = 0 → t.object.lockedFor = .empty
  locked : t.object.lockCount ≠ 0 → Nest t.records t.object.lockedFor
  /-- A map is outstanding for every lock if the nest has software access, and none if not. -/
  mapped : (backendCalls t.records).count .mapped = (backendCalls t.records).count .unmapped
    + if t.object.lockedFor.swAccess then t.object.lockCount.toNat else 0
  matched : Matched (backendCalls t.records)

end LockHistory

/-! ## What a call comes to -/

/-- How a lock ends: it is refused, with at most a map that failed, or granted, with a map if the
locks then held include software access. -/
inductive LockOutcome {α : Type} (o : BufferObject) (usage : Usage) (held : Held (Except Error α)) :
    Prop
  | refused (buffer : BackendBuffer) (answer : held.answer.isOk = false)
    (object : held.object = { o with buffer := some buffer })
    (calls : held.calls = [] ∨ held.calls = [.mapFailed])
  | granted (buffer : BackendBuffer) (answer : held.answer.isOk = true)
    (fits : o.lockCount = 0 ∨ o.lockedFor.contains usage)
    (object : held.object = { o with
      buffer := some buffer
      lockCount := o.lockCount + 1
      lockedFor := o.lockedFor ||| (usage ||| o.lockedFor) })
    (calls : held.calls = if (usage ||| o.lockedFor).swAccess then [.mapped] else [])

/-- How an unlock ends: nothing happens to an object that is not locked, and from another one a
lock is taken, with an unmap if the locks held include software access. -/
inductive UnlockOutcome (o : BufferObject) (held : Held (Except Error Unit)) : Prop
  | surplus (free : o.lockCount = 0) (object : held.object = o) (calls : held.calls = [])
  | balanced (buffer : BackendBuffer) (locked : o.lockCount ≠ 0)
    (object : held.object = { o with buffer := some buffer }.withLockLess)
    (calls : held.calls = if o.lockedFor.swAccess then [.unmapped] else [])

theorem LockOutcome.answering {α β : Type} {o : BufferObject} {usage : Usage}
    {held : Held (Except Error α)} (outcome : LockOutcome o usage held)
    {f : Except Error α → Except Error β} (same : (f held.answer).isOk = held.answer.isOk) :
    LockOutcome o usage { held with answer := f held.answer } := by
  cases outcome with
  | refused buffer answer object calls => exact .refused buffer (same.trans answer) object calls
  | granted buffer answer fits object calls =>
    exact .granted buffer (same.trans answer) fits object calls

/-- A lock that is not refused begins a nest, or is for a part of what the nest is locked for. -/
theorem fits_of_compatible {n : UInt32} {lockedFor usage : Usage}
    (compatible : ¬(0 < n && !lockedFor.contains usage) = true) :
    n = 0 ∨ lockedFor.contains usage := by
  simp only [Bool.and_eq_true, decide_eq_true_eq, Bool.not_eq_true', not_and] at compatible
  by_cases free : n = 0
  · exact .inl free
  · exact .inr (by simpa using compatible (UInt32.pos_iff_ne_zero.2 free))

/-- A lock that is granted answers an address if the locks held include software access. -/
theorem lockDialogue_address {o : BufferObject} {usage : Usage} {region : Region} {h : Host}
    {address : Option Address}
    (ok : ((o.lockDialogue usage region).hold o.backend h).answer = .ok address) :
    address.isSome = (usage ||| o.lockedFor).swAccess := by
  obtain ⟨d, i, backend, card, _ | buffer, n, lockedFor, fb⟩ := o <;> revert ok <;>
    unfold lockDialogue <;> dsimp only <;> repeat' split
  · rintro ⟨⟩
  · rintro ⟨⟩
  · rintro ⟨⟩
  · rintro ⟨⟩
  · rintro ⟨⟩
  · next sw =>
    simp only [Dialogue.hold]
    rcases (backend.map region (usage ||| lockedFor).swWrite).run.run buffer h with
      ⟨⟨e | a, b⟩, h⟩ <;> rintro ⟨⟩
    exact sw.symm
  · next hw =>
    rintro ⟨⟩
    simpa using hw

section Outcomes
variable {o : BufferObject} (live : o.buffer.isSome) (usage : Usage) (region : Region) (h : Host)
include live

theorem lockDialogue_outcome :
    LockOutcome o usage ((o.lockDialogue usage region).hold o.backend h) := by
  obtain ⟨d, i, backend, card, buffer, n, lockedFor, fb⟩ := o
  obtain ⟨buffer, rfl⟩ := Option.isSome_iff_exists.1 live
  unfold lockDialogue
  dsimp only
  split
  · exact .refused buffer rfl rfl (.inl rfl)
  · split
    · exact .refused buffer rfl rfl (.inl rfl)
    · next compatible =>
      have fits : n = 0 ∨ lockedFor.contains usage := fits_of_compatible compatible
      split
      · next sw =>
        simp only [Dialogue.hold]
        rcases (backend.map region (usage ||| lockedFor).swWrite).run.run buffer h with
          ⟨⟨e | a, b⟩, h⟩
        · exact .refused b rfl rfl (.inr rfl)
        · exact .granted b rfl fits rfl (if_pos sw).symm
      · next hw => exact .granted buffer rfl fits rfl (if_neg hw).symm

theorem lockPlanarDialogue_outcome :
    LockOutcome o usage ((o.lockPlanarDialogue usage region).hold o.backend h) := by
  have refused {e : Error} : LockOutcome (α := Ycbcr) o usage ⟨.error e, o, h, []⟩ := by
    obtain ⟨buffer, hb⟩ := Option.isSome_iff_exists.1 live
    exact .refused buffer rfl (by rw [← hb]) (.inl rfl)
  unfold lockPlanarDialogue
  dsimp only
  split
  · exact refused
  · split
    · exact refused
    · next sw =>
      rw [Dialogue.hold_answering]
      refine (lockDialogue_outcome live usage region h).answering ?_
      cases answer : ((o.lockDialogue usage region).hold o.backend h).answer with
      | error e => rfl
      | ok address =>
        have seen := lockDialogue_address answer
        cases address with
        | none => simp_all [Usage.swAccess_or]
        | some address => rfl

theorem unlockDialogue_outcome :
    UnlockOutcome o ((o.unlockDialogue.answering Except.ok).hold o.backend h) := by
  obtain ⟨d, i, backend, card, buffer, n, lockedFor, fb⟩ := o
  obtain ⟨buffer, rfl⟩ := Option.isSome_iff_exists.1 live
  rw [Dialogue.hold_answering]
  unfold unlockDialogue
  dsimp only
  split
  · next free => exact .surplus free rfl rfl
  · next locked =>
    split
    · next sw =>
      exact .balanced _ locked rfl (if_pos sw).symm
    · next hw => exact .balanced buffer locked rfl (if_neg hw).symm

end Outcomes

namespace LockHistory

theorem isOk_map {ε α β : Type} (f : α → β) (x : Except ε α) : (x.map f).isOk = x.isOk := by
  cases x <;> rfl

theorem call_outcome {o : BufferObject} (live : o.buffer.isSome) (call : LockCall) (h : Host) :
    let held := (call.dialogue o).hold o.backend h
    match call.usage? with
    | some usage => LockOutcome o usage held
    | none => UnlockOutcome o held := by
  cases call with
  | lock usage region =>
    dsimp only [LockCall.usage?, LockCall.dialogue]
    rw [Dialogue.hold_answering]
    exact (lockDialogue_outcome live usage region h).answering (isOk_map _ _)
  | lockPlanar usage region =>
    dsimp only [LockCall.usage?, LockCall.dialogue]
    rw [Dialogue.hold_answering]
    exact (lockPlanarDialogue_outcome live usage region h).answering (isOk_map _ _)
  | unlock => exact unlockDialogue_outcome live h

theorem step_eq (t : LockHistory) (call : LockCall) (h : Host) :
    t.step (call, h) =
      let held := (call.dialogue t.object).hold t.object.backend h
      ⟨held.object, ⟨call, t.object, held.answer, held.calls.reverse⟩ :: t.records⟩ := by
  simp only [step, LockCall.run_eq]

section Counts
variable (r : LockRecord) (records : List LockRecord)

theorem granted_cons :
    granted (r :: records) = granted records + if r.granted?.isSome then 1 else 0 :=
  List.countP_cons

theorem balanced_cons :
    balanced (r :: records) = balanced records + if r.balances then 1 else 0 :=
  List.countP_cons

theorem backendCalls_cons : backendCalls (r :: records) = r.backendCalls ++ backendCalls records :=
  List.flatMap_cons

end Counts

theorem Sound.start {o : BufferObject} (idle : o.Idle) : Sound { object := o } where
  live := idle.live
  counted := by simp [idle.lockCount, balanced, granted]
  free _ := idle.lockedFor
  locked h := absurd idle.lockCount h
  mapped := by simp [idle.lockedFor, backendCalls]
  matched later earlier h := by simp [backendCalls] at h

theorem Matched.cons {call : BackendEvent} {calls : List BackendEvent} (matched : Matched calls)
    (found : call = .unmapped → calls.count .unmapped < calls.count .mapped) :
    Matched (call :: calls) := by
  rintro (_ | ⟨_, later⟩) earlier eq
  · obtain ⟨rfl, rfl⟩ := List.cons.inj eq
    exact found rfl
  · obtain ⟨rfl, rfl⟩ := List.cons.inj eq
    exact matched _ _ rfl

section Steps
variable {o : BufferObject} {records : List LockRecord} (sound : Sound ⟨o, records⟩)
  {r : LockRecord} (before : r.before = o)
include sound before

/-- A call that neither grants nor takes a lock, and maps at most in vain. -/
theorem Sound.pass {o' : BufferObject} (live : o'.buffer.isSome)
    (count : o'.lockCount = o.lockCount) (usage : o'.lockedFor = o.lockedFor)
    (none : r.granted? = none) (kept : r.balances = false)
    (calls : r.backendCalls = [] ∨ r.backendCalls = [.mapFailed]) : Sound ⟨o', r :: records⟩ where
  live := live
  counted := by simpa [granted_cons, balanced_cons, none, kept, count] using sound.counted
  free := by simpa only [count, usage] using sound.free
  locked := by
    intro locked
    simp only [count, usage] at locked ⊢
    exact .later (sound.locked locked) (before ▸ locked) (by simp [none])
  mapped := by
    rw [backendCalls_cons]
    rcases calls with calls | calls <;> simpa [calls, count, usage] using sound.mapped
  matched := by
    rw [backendCalls_cons]
    rcases calls with calls | calls <;> rw [calls]
    · exact sound.matched
    · exact sound.matched.cons nofun

/-- A lock that is granted. In a nest its usage adds nothing to that of the nest; otherwise it
begins one. -/
theorem Sound.grant (buffer : BackendBuffer) {usage : Usage} (granted : r.granted? = some usage)
    (kept : r.balances = false) (fits : o.lockCount = 0 ∨ o.lockedFor.contains usage)
    (calls : r.backendCalls = if (usage ||| o.lockedFor).swAccess then [.mapped] else [])
    (few : LockHistory.granted records + 1 < balanced records + UInt32.size) :
    Sound ⟨{ o with
      buffer := some buffer
      lockCount := o.lockCount + 1
      lockedFor := o.lockedFor ||| (usage ||| o.lockedFor) }, r :: records⟩ := by
  have counted := sound.counted
  have mapped := sound.mapped
  dsimp only at counted mapped
  have bound : o.lockCount.toNat + 1 < UInt32.size := by omega
  have count := Word.toNat_succ bound
  have nest : Nest (r :: records) (o.lockedFor ||| usage) := by
    by_cases free : o.lockCount = 0
    · rw [sound.free free, Usage.empty_or]
      exact .first (before ▸ free) granted
    · have part := fits.resolve_left free
      rw [Usage.or_eq_left part]
      exact .later (sound.locked free) (before ▸ free) (by simpa [granted] using part)
  have sw : (usage ||| o.lockedFor).swAccess = (o.lockedFor ||| usage).swAccess := by
    rw [Usage.swAccess_or, Bool.or_comm, ← Usage.swAccess_or]
  have outstanding : (backendCalls records).count .mapped = (backendCalls records).count .unmapped
      + if (o.lockedFor ||| usage).swAccess then o.lockCount.toNat else 0 := by
    by_cases free : o.lockCount = 0
    · simpa [free, sound.free free] using mapped
    · rwa [Usage.or_eq_left (fits.resolve_left free)]
  rw [Usage.or_or_self]
  refine ⟨rfl, ?_, ?_, fun _ => nest, ?_, ?_⟩
  · simp only [granted_cons, balanced_cons, granted, kept, count]
    simp
    omega
  · intro zero
    exact absurd zero (Word.succ_ne_zero bound)
  · rw [backendCalls_cons, calls, sw]
    by_cases yes : (o.lockedFor ||| usage).swAccess
    · simp only [yes, if_true, count] at outstanding ⊢
      simp
      omega
    · simpa [yes] using outstanding
  · rw [backendCalls_cons, calls]
    split
    · exact sound.matched.cons nofun
    · exact sound.matched

/-- An unlock that finds a lock. -/
theorem Sound.release (buffer : BackendBuffer) (none : r.granted? = none)
    (taken : r.balances = true) (locked : o.lockCount ≠ 0)
    (calls : r.backendCalls = if o.lockedFor.swAccess then [.unmapped] else []) :
    Sound ⟨{ o with buffer := some buffer }.withLockLess, r :: records⟩ := by
  have counted := sound.counted
  have mapped := sound.mapped
  dsimp only at counted mapped
  have count := Word.toNat_pred locked
  have last : o.lockCount - 1 = 0 ↔ o.lockCount = 1 := Word.pred_eq_zero
  refine ⟨rfl, ?_, ?_, ?_, ?_, ?_⟩
  · simp [granted_cons, balanced_cons, none, taken, withLockLess]
    omega
  · intro free
    simp [withLockLess, last.1 free]
  · intro left
    have many : o.lockCount ≠ 1 := mt last.2 left
    simp only [withLockLess, many, if_false]
    exact .later (sound.locked locked) (before ▸ locked) (by simp [none])
  · rw [backendCalls_cons, calls]
    by_cases one : o.lockCount = 1
    · cases h : o.lockedFor.swAccess <;> simp_all [withLockLess]
    · cases h : o.lockedFor.swAccess <;> simp_all [withLockLess]
      omega
  · rw [backendCalls_cons, calls]
    split
    · next sw =>
      rw [if_pos sw] at mapped
      exact sound.matched.cons fun _ => by dsimp only; omega
    · exact sound.matched

end Steps

theorem Sound.step {t : LockHistory} (sound : t.Sound) (call : LockCall) (h : Host)
    (few : granted (t.step (call, h)).records < balanced (t.step (call, h)).records + UInt32.size) :
    (t.step (call, h)).Sound := by
  have outcome := call_outcome sound.live call h
  rw [step_eq] at few ⊢
  obtain ⟨o, records⟩ := t
  dsimp only at few outcome ⊢
  generalize (call.dialogue o).hold o.backend h = held at few outcome ⊢
  cases asked : call.usage? with
  | some usage =>
    have kept (answer calls) : LockRecord.balances ⟨call, o, answer, calls⟩ = false := by
      simp [LockRecord.balances, asked]
    rw [asked] at outcome
    rcases outcome with ⟨buffer, error, object, calls⟩ | ⟨buffer, ok, fits, object, calls⟩ <;>
      rw [object]
    · refine sound.pass rfl rfl rfl rfl (by simp [LockRecord.granted?, error]) (kept _ _) ?_
      rcases calls with calls | calls <;> simp [calls]
    · have granted : LockRecord.granted? ⟨call, o, held.answer, held.calls.reverse⟩ = some usage := by
        simp [LockRecord.granted?, ok, asked]
      refine sound.grant rfl buffer granted (kept _ _) fits ?_ ?_
      · dsimp only
        rw [calls]
        split <;> rfl
      · simpa [granted_cons, balanced_cons, granted, kept] using few
  | none =>
    have none (answer calls) : LockRecord.granted? ⟨call, o, answer, calls⟩ = none := by
      simp [LockRecord.granted?, asked]
    rw [asked] at outcome
    rcases outcome with ⟨free, object, calls⟩ | ⟨buffer, locked, object, calls⟩ <;> rw [object]
    · exact sound.pass rfl sound.live rfl rfl (none _ _) (by simp [LockRecord.balances, free])
        (by simp [calls])
    · refine sound.release rfl buffer (none _ _) (by simp [LockRecord.balances, asked, locked])
        locked ?_
      dsimp only
      rw [calls]
      split <;> rfl

/-! ## Every history -/

theorem run_append (o : BufferObject) (calls : List (LockCall × Host)) (next : LockCall × Host) :
    run o (calls ++ [next]) = (run o calls).step next := List.foldl_append

/-- However an object came to life, whatever its backend does and whichever calls are made on it,
its history is sound as long as 2^32 locks were never outstanding at once; and when the last lock is
taken back, so is the last map. What is recorded of each call is what it comes to: it is carried out
as its dialogue is held, and the calls of the backend are those of that dialogue. -/
theorem history_sound {o : BufferObject} (born : o.Born) (calls : List (LockCall × Host))
    (few : ∀ earlier, earlier <+: calls →
      granted (run o earlier).records < balanced (run o earlier).records + UInt32.size) :
    (run o calls).Sound ∧
      ((run o calls).object.lockCount = 0 →
        (backendCalls (run o calls).records).count .mapped =
          (backendCalls (run o calls).records).count .unmapped) ∧
      ∀ earlier call h, earlier ++ [(call, h)] <+: calls →
        let found := (run o earlier).object
        let held := (call.dialogue found).hold found.backend h
        call.run.run found h = ((held.answer, held.object), held.host) ∧
          run o (earlier ++ [(call, h)]) =
            ⟨held.object, ⟨call, found, held.answer, held.calls.reverse⟩ :: (run o earlier).records⟩ := by
  have sound : (run o calls).Sound := by
    induction calls using List.reverseRecOn with
    | nil => exact .start born.idle
    | append_singleton calls next ih =>
      have sound := ih fun earlier within => few earlier (within.trans (List.prefix_append _ _))
      have bound := few _ List.prefix_rfl
      rw [run_append] at bound ⊢
      exact sound.step next.1 next.2 bound
  refine ⟨sound, fun free => ?_, fun earlier call h _ => ⟨call.run_eq _ h, ?_⟩⟩
  · have mapped := sound.mapped
    rw [sound.free free] at mapped
    simpa using mapped
  · rw [run_append, step_eq]

theorem granted_step (t : LockHistory) (next : LockCall × Host) :
    granted (t.step next).records ≤ granted t.records + 1 := by
  obtain ⟨call, h⟩ := next
  rw [step_eq, granted_cons]
  split <;> omega

/-- Fewer than 2^32 calls are few enough. -/
theorem granted_le_length (o : BufferObject) (calls : List (LockCall × Host)) :
    granted (run o calls).records ≤ calls.length := by
  induction calls using List.reverseRecOn with
  | nil => simp [run, granted]
  | append_singleton calls next ih =>
    have one := granted_step (run o calls) next
    rw [run_append, List.length_append]
    exact Nat.le_trans one (Nat.add_le_add_right ih 1)

/-- A buffer of sixteen pixels for the processor to read. -/
def smallBuffer : Descriptor :=
  { width := 4, height := 4, stride := 16, format := .rgba8888, usage := .swReadOften
    memory := some (.name 7) }

/-- An object over such a buffer. -/
def smallObject : BufferObject :=
  ofMemory .scripted ⟨1000, "/dev/dri/card0"⟩ smallBuffer
    { handle := 1, size := 64, stride := 16, memory := .name 7, imported := true }

/-- A lock within a lock, and an unlock. -/
def nestedCalls : List (LockCall × Host) :=
  [(.lock .swReadOften {}, {}), (.lock .swReadRarely {}, {}), (.unlock, {})]

theorem nested_sound :
    (run smallObject nestedCalls).Sound ∧ (run smallObject nestedCalls).object.lockCount = 1 ∧
      backendCalls (run smallObject nestedCalls).records = [.unmapped, .mapped, .mapped] ∧
      ∃ h, LockCall.unlock.run.run (run smallObject (nestedCalls.take 2)).object {} =
        ((.ok (), (run smallObject nestedCalls).object), h) := by
  have born : smallObject.Born :=
    @Born.imported _ .scripted ⟨1000, "/dev/dri/card0"⟩ smallBuffer {} rfl
  have few : ∀ earlier, earlier <+: nestedCalls → granted (run smallObject earlier).records <
      balanced (run smallObject earlier).records + UInt32.size := by
    intro earlier within
    have := granted_le_length smallObject earlier
    have : earlier.length ≤ 3 := within.length_le
    unfold UInt32.size
    omega
  obtain ⟨sound, -, carried⟩ := history_sound born nestedCalls few
  obtain ⟨unlocked, -⟩ := carried (nestedCalls.take 2) .unlock {} List.prefix_rfl
  exact ⟨sound, by rfl, by rfl, _, unlocked⟩

end LockHistory

end GraphicsBuffers

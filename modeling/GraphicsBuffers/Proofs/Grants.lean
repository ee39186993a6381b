import GraphicsBuffers.Proofs.Lifetimes
/-!
# Which locks are granted

Locks of one object are asked for, one after the other, and none is taken back in between. `lock` tests a
usage against the union of all locks that were granted, which is the usage of the first one: a later one is
only granted for a part of it, and adds nothing (`Nested`). So a lock is decided by the declared usage, the
usage of the first lock granted, and its own (`verdict`), and neither the refused locks nor the order of those
after the first one matter (`grants_decided`).
-/

namespace GraphicsBuffers

open BufferObject

/-! ## Locks in a row -/

/-- A lock that is asked for on some host. -/
structure LockRequest where
  usage : Usage
  region : Region := {}
  host : Host := {}

namespace LockRequest

/-- The call that asks for it. -/
def call (r : LockRequest) : ObjectCall × Host := (.lock r.usage r.region, r.host)

/-- If the lock has the buffer of the object mapped, the backend does not fail to. -/
def Mappable (o : BufferObject) (r : LockRequest) : Prop :=
  ∀ b, o.buffer = some b → (r.usage ||| o.lockedFor).swAccess →
    ((o.backend.map r.region (r.usage ||| o.lockedFor).swWrite).run.run b r.host).1.1.isOk

end LockRequest

namespace BufferObject

variable (o : BufferObject)

/-- What asking for a lock answers. -/
def answer (r : LockRequest) : Except Error (Option Address) := ((lock r.usage r.region).run.run o r.host).1.1

/-- The object once locks were asked for. -/
def afterLocks (requests : List LockRequest) : BufferObject := o.after (requests.map (·.call))

/-- Locks asked for one after the other, each with what was answered. -/
def asked (o : BufferObject) : List LockRequest → List (LockRequest × Except Error (Option Address))
  | [] => []
  | r :: requests => (r, o.answer r) :: (o.next r.call).asked requests

/-- None of the locks fails because the backend does not map the buffer. -/
def Unfailing (o : BufferObject) : List LockRequest → Prop
  | [] => True
  | r :: requests => r.Mappable o ∧ (o.next r.call).Unfailing requests

theorem afterLocks_append (requests later : List LockRequest) :
    o.afterLocks (requests ++ later) = (o.afterLocks requests).afterLocks later := by
  unfold afterLocks
  rw [List.map_append, after_append]

theorem asked_append (o : BufferObject) (requests later : List LockRequest) :
    o.asked (requests ++ later) = o.asked requests ++ (o.afterLocks requests).asked later := by
  induction requests generalizing o with
  | nil => rfl
  | cons r requests ih => exact congrArg (_ :: ·) (ih (o.next r.call))

theorem unfailing_append {o : BufferObject} {requests later : List LockRequest} :
    o.Unfailing (requests ++ later) ↔ o.Unfailing requests ∧ (o.afterLocks requests).Unfailing later := by
  induction requests generalizing o with
  | nil => exact (iff_of_eq (true_and _)).symm
  | cons r requests ih => exact (and_congr_right fun _ => ih).trans and_assoc.symm

end BufferObject

/-- The usage of the first lock that was granted. -/
def firstGranted (asked : List (LockRequest × Except Error (Option Address))) : Option Usage :=
  (asked.find? (·.2.isOk)).map (·.1.usage)

theorem firstGranted_append (asked later : List (LockRequest × Except Error (Option Address))) :
    firstGranted (asked ++ later) = (firstGranted asked).or (firstGranted later) := by
  simp only [firstGranted, List.find?_append, Option.map_or]

/-! ## One lock -/

/-- What a lock of a buffer declared for `declared` comes to, where `first` is what the first lock granted
before it was for. -/
def verdict (declared : Usage) (first : Option Usage) (usage : Usage) : Except Error Unit :=
  if permits declared usage then
    match first with
    | none => .ok ()
    | some locked => if locked.contains usage then .ok () else .error (.incompatibleLock locked usage)
  else .error (.usageMismatch declared usage)

section Verdicts
variable {declared usage : Usage} {first : Option Usage}

theorem permits_iff : permits declared usage ↔ declared.contains usage ∨ declared.intersects .lockAny :=
  Bool.or_eq_true_iff

theorem verdict_undeclared (refused : ¬permits declared usage) :
    verdict declared first usage = .error (.usageMismatch declared usage) := if_neg refused

theorem verdict_incompatible (permitted : permits declared usage) {locked : Usage}
    (outside : ¬locked.contains usage) :
    verdict declared (some locked) usage = .error (.incompatibleLock locked usage) := by
  simp only [verdict, if_pos permitted, if_neg outside]

theorem verdict_eq_ok : verdict declared first usage = .ok () ↔
    permits declared usage ∧ ∀ locked ∈ first, locked.contains usage := by
  unfold verdict
  split
  · next permitted =>
    cases first with
    | none => simp [permitted]
    | some locked => simp [permitted]
  · next refused => simp [refused]

end Verdicts

namespace BufferObject

/-- An object that was locked by at most `n` locks in a row, the first one of them for `first`. -/
structure Nested (declared : Usage) (n : Nat) (first : Option Usage) (o : BufferObject) : Prop where
  live : o.buffer.isSome
  declared : o.descriptor.usage = declared
  few : o.lockCount.toNat ≤ n
  free : o.lockCount = 0 ↔ first = none
  lockedFor : o.lockedFor = first.getD .empty

section Asking

variable {declared : Usage} {n : Nat} {first : Option Usage} {o : BufferObject}
  (nested : o.Nested declared n first) (r : LockRequest)
include nested

/-- A lock that is refused leaves nothing but a report. -/
theorem Nested.refuses {e : Error} (refused : verdict declared first r.usage = .error e) :
    ∃ event, (lock r.usage r.region).run.run o r.host = ((.error e, o), r.host.reported event) := by
  rw [lock_run]
  by_cases permitted : permits declared r.usage
  · obtain ⟨locked, rfl, outside⟩ : ∃ locked, first = some locked ∧ ¬locked.contains r.usage := by
      cases first with
      | none => simp [verdict, permitted] at refused
      | some locked => exact ⟨locked, rfl, fun part => by simp [verdict, permitted, part] at refused⟩
    rw [verdict_incompatible permitted outside] at refused
    cases refused
    have usage : o.lockedFor = locked := nested.lockedFor
    have held : o.lockCount ≠ 0 := by simp [nested.free]
    rw [lockDialogue_incompatible (nested.declared ▸ permitted) held (usage ▸ outside), usage]
    exact ⟨_, rfl⟩
  · rw [verdict_undeclared permitted] at refused
    cases refused
    rw [lockDialogue_undeclared (nested.declared ▸ permitted), nested.declared]
    exact ⟨_, rfl⟩

theorem Nested.answer_of_refused {e : Error} (refused : verdict declared first r.usage = .error e) :
    o.answer r = .error e := by
  obtain ⟨event, ran⟩ := nested.refuses r refused
  exact congrArg (·.1.1) ran

theorem Nested.fits (inside : ∀ locked ∈ first, locked.contains r.usage) :
    o.lockCount = 0 ∨ o.lockedFor.contains r.usage := by
  rw [nested.free, nested.lockedFor]
  cases first with
  | none => exact .inl rfl
  | some locked => exact .inr (inside locked rfl)

theorem Nested.answers (permitted : permits declared r.usage)
    (inside : ∀ locked ∈ first, locked.contains r.usage) (mappable : r.Mappable o) :
    (o.answer r).isOk := by
  obtain ⟨buffer, found⟩ := Option.isSome_iff_exists.1 nested.live
  unfold answer
  rw [lock_run, lockDialogue_compatible (nested.declared ▸ permitted) (nested.fits r inside), found]
  dsimp only
  split
  · next sw =>
    have mapped := mappable buffer found sw
    unfold Dialogue.hold
    rcases eq : (o.backend.map r.region (r.usage ||| o.lockedFor).swWrite).run.run buffer r.host with
      ⟨⟨_ | address, _⟩, _⟩ <;> rw [eq] at mapped
    · cases mapped
    · rfl
  · rfl

/-- Any other lock is granted, where the backend maps the buffer, and it adds nothing to the first one. -/
theorem Nested.grants (permitted : permits declared r.usage)
    (inside : ∀ locked ∈ first, locked.contains r.usage) (mappable : r.Mappable o)
    (few : n + 1 < UInt32.size) :
    (o.answer r).isOk ∧ (o.next r.call).Nested declared (n + 1) (first.or (some r.usage)) := by
  have ok := nested.answers r permitted inside mappable
  refine ⟨ok, ?_⟩
  have outcome := lockDialogue_outcome nested.live r.usage r.region r.host
  have object : o.next r.call = ((o.lockDialogue r.usage r.region).hold o.backend r.host).object :=
    congrArg (·.1.2) (lock_run o r.usage r.region r.host)
  unfold answer at ok
  rw [lock_run] at ok
  rcases outcome with ⟨-, refused, -, -⟩ | ⟨buffer, -, -, granted, -⟩
  · cases refused.symm.trans ok
  · have bound : o.lockCount.toNat + 1 < UInt32.size := by
      have := nested.few
      omega
    rw [object, granted, Usage.or_or_self]
    refine ⟨rfl, nested.declared, ?_, ?_, ?_⟩
    · exact Nat.le_trans (Nat.le_of_eq (Word.toNat_succ bound)) (Nat.add_le_add_right nested.few 1)
    · simp [Word.succ_ne_zero bound]
    · -- The usages are united, but a part adds nothing.
      dsimp only
      rw [nested.lockedFor]
      cases first with
      | none => exact Usage.empty_or r.usage
      | some locked => exact Usage.or_eq_left (inside locked rfl)

/-- What one lock in a row comes to. -/
theorem Nested.step (mappable : r.Mappable o) (few : n + 1 < UInt32.size) :
    (o.answer r).map (fun _ => ()) = verdict declared first r.usage ∧
      (o.next r.call).Nested declared (n + 1) (first.or (firstGranted [(r, o.answer r)])) := by
  cases decided : verdict declared first r.usage with
  | error e =>
    obtain ⟨event, ran⟩ := nested.refuses r decided
    have refused : o.answer r = .error e := congrArg (·.1.1) ran
    have same : o.next r.call = o := congrArg (·.1.2) ran
    rw [same, refused]
    refine ⟨rfl, nested.live, nested.declared, Nat.le_succ_of_le nested.few, ?_, ?_⟩
    · simpa [firstGranted, Except.isOk, Except.toBool] using nested.free
    · simpa [firstGranted, Except.isOk, Except.toBool] using nested.lockedFor
  | ok =>
    obtain ⟨permitted, inside⟩ := verdict_eq_ok.1 decided
    obtain ⟨ok, nested'⟩ := nested.grants r permitted inside mappable few
    cases answered : o.answer r with
    | error e => simp [answered, Except.isOk, Except.toBool] at ok
    | ok address => exact ⟨rfl, nested'⟩

/-- No lock fails but one that is refused. -/
theorem Nested.refused (mappable : r.Mappable o) (failed : ¬(o.answer r).isOk) :
    ∃ e event, (lock r.usage r.region).run.run o r.host = ((.error e, o), r.host.reported event) := by
  cases decided : verdict declared first r.usage with
  | error e => exact ⟨e, nested.refuses r decided⟩
  | ok =>
    obtain ⟨permitted, inside⟩ := verdict_eq_ok.1 decided
    exact absurd (nested.answers r permitted inside mappable) failed

end Asking

/-- A row of locks keeps the object locked for what the first one granted was for. -/
theorem Nested.run {declared : Usage} {o : BufferObject}
    (nested : o.Nested declared 0 none) {requests : List LockRequest}
    (few : requests.length < UInt32.size) (unfailing : o.Unfailing requests) :
    (o.afterLocks requests).Nested declared requests.length (firstGranted (o.asked requests)) := by
  -- From the end, as which lock was the first one granted is read off the answers before.
  induction requests using List.reverseRecOn with
  | nil => exact nested
  | append_singleton requests r ih =>
    rw [List.length_append, List.length_singleton] at few ⊢
    obtain ⟨earlier, mappable, -⟩ := unfailing_append.1 unfailing
    have nested := ih (Nat.lt_of_succ_lt few) earlier
    rw [afterLocks_append, asked_append, firstGranted_append]
    exact (nested.step r mappable few).2

theorem Idle.nested {o : BufferObject} (idle : o.Idle) :
    o.Nested o.descriptor.usage 0 none where
  live := idle.live
  declared := rfl
  few := by simp [idle.lockCount]
  free := by simp [idle.lockCount]
  lockedFor := idle.lockedFor

/-! ## Rows of locks -/

section Rows

variable {declared : Usage} {n : Nat} {first : Option Usage} {o : BufferObject}
  (nested : o.Nested declared n first) {requests : List LockRequest}
  (few : n + requests.length < UInt32.size) (unfailing : o.Unfailing requests)
include nested few unfailing

/-- Where only refused locks are left out, all others are answered as before. -/
theorem Nested.asked_part {kept : List (LockRequest × Except Error (Option Address))}
    (part : kept.Sublist (o.asked requests))
    (grants : kept.countP (·.2.isOk) = (o.asked requests).countP (·.2.isOk)) :
    o.asked (kept.map (·.1)) = kept := by
  induction requests generalizing o n first kept with
  | nil => rw [List.sublist_nil.1 part]; rfl
  | cons r requests ih =>
    rw [List.length_cons, ← Nat.add_assoc, Nat.add_right_comm] at few
    obtain ⟨mappable, unfailing⟩ := unfailing
    have nested' := (nested.step r mappable (by omega)).2
    rw [asked] at part grants
    cases part with
    | cons _ part =>
      -- The lock left out was refused, so the next one finds the object as it was.
      have fewer := List.Sublist.countP_le (p := (·.2.isOk)) part
      rw [List.countP_cons] at grants
      have failed : ¬(o.answer r).isOk := by
        intro granted
        rw [if_pos granted] at grants
        omega
      obtain ⟨e, event, ran⟩ := nested.refused r mappable failed
      have same : o.next r.call = o := congrArg (·.1.2) ran
      rw [if_neg failed, Nat.add_zero] at grants
      rw [same] at nested' unfailing part grants
      exact ih nested' few unfailing part grants
    | cons_cons _ part =>
      rw [List.countP_cons, List.countP_cons, Nat.add_right_cancel_iff] at grants
      exact congrArg (_ :: ·) (ih nested' few unfailing part grants)

end Rows

/-- A lock with what was answered, the address left aside. -/
def judged (asked : LockRequest × Except Error (Option Address)) : LockRequest × Except Error Unit :=
  (asked.1, asked.2.map fun _ => ())

/-- Once one lock was granted, its usage alone decides of the others. -/
theorem Nested.judged {declared : Usage} {n : Nat} {locked : Usage} {o : BufferObject}
    (nested : o.Nested declared n (some locked)) {requests : List LockRequest}
    (few : n + requests.length < UInt32.size) (unfailing : o.Unfailing requests) :
    (o.asked requests).map judged = requests.map fun r => (r, verdict declared (some locked) r.usage) := by
  induction requests generalizing o n with
  | nil => rfl
  | cons r requests ih =>
    rw [List.length_cons, ← Nat.add_assoc, Nat.add_right_comm] at few
    obtain ⟨decided, nested'⟩ := nested.step r unfailing.1 (by omega)
    rw [asked, List.map_cons, List.map_cons, ih nested' few unfailing.2, BufferObject.judged, decided]

theorem Nested.judged_perm {declared : Usage} {n : Nat} {locked : Usage}
    {o : BufferObject} (nested : o.Nested declared n (some locked))
    {requests requests' : List LockRequest} (few : n + requests.length < UInt32.size)
    (unfailing : o.Unfailing requests) (unfailing' : o.Unfailing requests') (perm : requests'.Perm requests) :
    ((o.asked requests').map BufferObject.judged).Perm ((o.asked requests).map BufferObject.judged) := by
  have few' : n + requests'.length < UInt32.size := perm.length_eq ▸ few
  rw [nested.judged few unfailing, nested.judged few' unfailing']
  exact perm.map _

/-- How a lock is decided by the declared usage and what the first lock granted before it was for. -/
structure Decided (declared : Usage) (first : Option Usage) (o : BufferObject) (r : LockRequest) : Prop where
  granted : (o.answer r).isOk ↔ (declared.contains r.usage ∨ declared.intersects .lockAny) ∧
    ∀ locked ∈ first, locked.contains r.usage
  undeclared : ¬(declared.contains r.usage ∨ declared.intersects .lockAny) →
    o.answer r = .error (.usageMismatch declared r.usage)
  incompatible : (declared.contains r.usage ∨ declared.intersects .lockAny) →
    ∀ locked ∈ first, ¬locked.contains r.usage → o.answer r = .error (.incompatibleLock locked r.usage)
  /-- A lock that is refused leaves the object as it was, and no more than a report on the host. -/
  refused : ¬(o.answer r).isOk →
    ∃ e event, (lock r.usage r.region).run.run o r.host = ((.error e, o), r.host.reported event)

theorem Nested.decided {declared : Usage} {n : Nat} {first : Option Usage}
    {o : BufferObject} (nested : o.Nested declared n first) {r : LockRequest}
    (mappable : r.Mappable o) : o.Decided declared first r where
  granted := by
    rw [← permits_iff, ← verdict_eq_ok]
    constructor
    · intro granted
      cases decided : verdict declared first r.usage with
      | ok => rfl
      | error e =>
        rw [nested.answer_of_refused r decided] at granted
        cases granted
    · intro decided
      obtain ⟨permitted, inside⟩ := verdict_eq_ok.1 decided
      exact nested.answers r permitted inside mappable
  undeclared refused :=
    nested.answer_of_refused r (verdict_undeclared (mt permits_iff.1 refused))
  incompatible := by
    rintro permitted locked ⟨⟩ outside
    exact nested.answer_of_refused r (verdict_incompatible (permits_iff.2 permitted) outside)
  refused := nested.refused r mappable

/-- Whatever a live object that is not locked was declared for, and on any backend that maps it, locks in a
row are decided by the declared usage and the first one granted. Those refused can be left out, and those
after the first one granted can come in any order, and every lock is decided as before. -/
theorem grants_decided {newborn : BufferObject} (born : newborn.Born) {calls : List (ObjectCall × Host)}
    (counted : newborn.Counted calls) (live : (newborn.after calls).buffer.isSome)
    (free : (newborn.after calls).lockCount = 0) (requests : List LockRequest)
    (few : requests.length < UInt32.size) (unfailing : (newborn.after calls).Unfailing requests) :
    let o := newborn.after calls
    (∀ earlier r later, requests = earlier ++ r :: later →
      (o.afterLocks earlier).Decided o.descriptor.usage (firstGranted (o.asked earlier)) r) ∧
    (∀ kept, kept.Sublist (o.asked requests) →
      kept.countP (·.2.isOk) = (o.asked requests).countP (·.2.isOk) → o.asked (kept.map (·.1)) = kept) ∧
    ∀ earlier r later later', requests = earlier ++ r :: later →
      ((o.afterLocks earlier).answer r).isOk → later'.Perm later → o.Unfailing (earlier ++ r :: later') →
      ((o.asked (earlier ++ r :: later')).map judged).Perm ((o.asked requests).map judged) := by
  intro o
  have idle : o.Idle := ⟨live, free, born.idle.settled.after born.idle.coherent counted free⟩
  have nested := idle.nested
  refine ⟨?_, fun kept part grants => nested.asked_part (by omega) unfailing part grants, ?_⟩
  · rintro earlier r later rfl
    rw [List.length_append] at few
    obtain ⟨unfailing, mappable, -⟩ := unfailing_append.1 unfailing
    exact (nested.run (by omega) unfailing).decided mappable
  · rintro earlier r later later' rfl granted perm unfailing'
    rw [List.append_cons, List.length_append] at few
    rw [List.append_cons, unfailing_append] at unfailing unfailing'
    have nested := nested.run (Nat.lt_of_le_of_lt (Nat.le_add_right ..) few) unfailing.1
    obtain ⟨locked, first⟩ : ∃ locked, firstGranted (o.asked (earlier ++ [r])) = some locked := by
      rw [asked_append, firstGranted_append, ← Option.isSome_iff_exists]
      simp [firstGranted, asked, granted]
    rw [first] at nested
    have others := nested.judged_perm few unfailing.2 unfailing'.2 perm
    rw [List.append_cons, List.append_cons earlier r later, asked_append _ _ later', asked_append _ _ later,
      List.map_append, List.map_append]
    exact others.append_left _

/-- An object to be drawn by the processor and the graphics processor. -/
def canvas : BufferObject :=
  ofMemory .scripted ⟨1000, "/dev/dri/card0"⟩
    { LockHistory.smallBuffer with usage := .swWriteOften ||| .hwRender }
    { handle := 1, size := 64, stride := 16, memory := .name 7, imported := true }

/-- Two locks by the processor after one that was not declared, and another by the graphics processor
between them. -/
def drawing : List LockRequest :=
  [{ usage := .hwTexture }, { usage := .swWriteOften }, { usage := .hwRender }, { usage := .swWriteRarely }]

/-- The second and the last of them are granted, with or without the others, and the order of the last two
does not matter. -/
theorem drawing_decided :
    (canvas.asked drawing).map (·.2.map fun _ => ()) =
      [.error (.usageMismatch (.swWriteOften ||| .hwRender) .hwTexture), .ok (),
        .error (.incompatibleLock .swWriteOften .hwRender), .ok ()] ∧
    (canvas.afterLocks (drawing.take 3)).Decided (.swWriteOften ||| .hwRender) (some .swWriteOften)
      { usage := .swWriteRarely } ∧
    canvas.asked [{ usage := .swWriteOften }, { usage := .swWriteRarely }] =
      [({ usage := .swWriteOften }, .ok (some (.number 0x10000000))),
        ({ usage := .swWriteRarely }, .ok (some (.number 0x10000000)))] ∧
    ((canvas.asked (drawing.take 2 ++ [{ usage := .swWriteRarely }, { usage := .hwRender }])).map judged).Perm
      ((canvas.asked drawing).map judged) := by
  have born : canvas.Born :=
    @Born.imported _ .scripted ⟨1000, "/dev/dri/card0"⟩
      { LockHistory.smallBuffer with usage := .swWriteOften ||| .hwRender } {} rfl
  have counted : canvas.Counted [] := born.idle.counted (by decide)
  have mappable (r : LockRequest) {o : BufferObject} (scripted : o.backend = .scripted) (host : r.host = {}) :
      r.Mappable o := by
    intro b found sw
    rw [scripted, host]
    rfl
  have unfailing : canvas.Unfailing drawing :=
    ⟨mappable _ rfl rfl, mappable _ rfl rfl, mappable _ rfl rfl, mappable _ rfl rfl, trivial⟩
  obtain ⟨decided, removed, permuted⟩ := grants_decided born counted rfl rfl drawing (by decide) unfailing
  refine ⟨rfl, decided (drawing.take 3) _ [] rfl, ?_, ?_⟩
  · refine removed [({ usage := .swWriteOften }, .ok (some (.number 0x10000000))),
      ({ usage := .swWriteRarely }, .ok (some (.number 0x10000000)))] ?_ rfl
    exact .cons _ (.cons_cons _ (.cons _ (.cons_cons _ .slnil)))
  · exact permuted [{ usage := .hwTexture }] { usage := .swWriteOften } _ _ rfl rfl (.swap ..)
      ⟨mappable _ rfl rfl, mappable _ rfl rfl, mappable _ rfl rfl, mappable _ rfl rfl, trivial⟩

end BufferObject

end GraphicsBuffers

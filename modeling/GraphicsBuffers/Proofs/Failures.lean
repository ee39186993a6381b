import GraphicsBuffers.Kernel.State
import GraphicsBuffers.Proofs.Run
/-!
# Which calls fail

A failure that is set up for a kind of call is told by the number of the call: what the first call from now on
fails with, what the second, and so on (`Kernel.failureAt?`). A call takes away the first of these and leaves
the others (`Kernel.takeFault_run`), and `Kernel.Spends` is what calls without an effect of their own come to.
-/

namespace GraphicsBuffers

namespace FaultPlan

/-- What a plan makes the call of a number fail with, where the first call has the number 0. -/
def hits? : FaultPlan → Nat → Option Errno
  | [], _ => none
  | fault :: later, i =>
    if i < fault.skip then none
    else
      match fault.times with
      | none => some fault.errno
      | some n => if i < fault.skip + n then some fault.errno else hits? later (i - (fault.skip + n))

/-- A call takes the failure that is planned for it, and leaves those of later calls. -/
theorem next_hits (plan : FaultPlan) :
    plan.next.1 = plan.hits? 0 ∧ ∀ i, plan.next.2.hits? i = plan.hits? (1 + i) := by
  fun_induction next plan with
  | case1 => exact ⟨rfl, fun _ => rfl⟩
  | case2 errno skip times later =>
    refine ⟨by simp [hits?], fun i => ?_⟩
    have start : 1 + i < skip + 1 ↔ i < skip := by omega
    have stop (n : Nat) : 1 + i < skip + 1 + n ↔ i < skip + n := by omega
    have rest (n : Nat) : 1 + i - (skip + 1 + n) = i - (skip + n) := by omega
    simp only [hits?, start, stop, rest]
  | case3 => exact ⟨by simp [hits?], fun i => by simp [hits?]⟩
  | case4 errno n later =>
    refine ⟨by simp [hits?], fun i => ?_⟩
    have stop : 1 + i < 0 + (n + 1) ↔ i < 0 + n := by omega
    have rest : 1 + i - (0 + (n + 1)) = i - (0 + n) := by omega
    simp only [hits?, Nat.not_lt_zero, if_false, stop, rest]
  | case5 errno later ih =>
    have passed (i : Nat) : hits? (⟨errno, 0, some 0⟩ :: later) i = hits? later i := by simp [hits?]
    simpa only [passed] using ih

/-- Between two calls that fail, for different reasons, there is one that does not. -/
example : (List.range 4).map (hits? [⟨.EBUSY, 0, some 1⟩, ⟨.ENOMEM, 1, some 1⟩]) =
    [some .EBUSY, none, some .ENOMEM, none] := by decide

end FaultPlan

namespace Kernel

/-- What the call of a kind and a number is made to fail with, where the calls of each kind are counted from
now on. -/
def failureAt? (k : Kernel) (point : FaultPoint) (i : Nat) : Option Errno :=
  (k.faults.get? point).bind (·.hits? i)

/-- So many calls of a kind were made and recorded, without an effect of their own. -/
structure Spends (k : Kernel) (point : FaultPoint) (count : Nat) (calls : List TraceEntry) (k' : Kernel) :
    Prop where
  same : ∃ faults, k' = { k with faults, trace := calls ++ k.trace }
  failures : ∀ point' i, k'.failureAt? point' i =
    k.failureAt? point' (if point' = point then count + i else i)

section Calls

variable {k k' k'' : Kernel} {point : FaultPoint} {calls : List TraceEntry} {count : Nat}

/-- A call takes the failure it is made to fail with, and leaves those of later calls. -/
theorem takeFault_run (k : Kernel) (point : FaultPoint) :
    ∃ k₁, k.takeFault point = (k.failureAt? point 0, k₁) ∧ k.Spends point 1 [] k₁ := by
  unfold takeFault
  cases armed : k.faults.get? point with
  | none =>
    have unfailing (i : Nat) : k.failureAt? point i = none := by rw [failureAt?, armed, Option.bind_none]
    refine ⟨k, by rw [unfailing], ⟨_, rfl⟩, fun point' i => ?_⟩
    split
    · next eq => rw [eq, unfailing, unfailing]
    · rfl
  | some plan =>
    obtain ⟨now, later⟩ := plan.next_hits
    refine ⟨{ k with faults := k.faults.insert point plan.next.2 }, ?_, ⟨_, rfl⟩, fun point' i => ?_⟩
    · rw [failureAt?, armed, Option.bind_some, ← now]
    split
    · next eq => simp only [failureAt?, eq, armed, Table.get?_insert_self, Option.bind_some, later]
    · next ne => simp only [failureAt?, Table.get?_insert_of_ne _ _ ne]

theorem Spends.record (spends : k.Spends point count calls k') (entry : TraceEntry) :
    k.Spends point count (entry :: calls) (k'.record entry) := by
  obtain ⟨⟨faults, rfl⟩, failures⟩ := spends
  exact ⟨⟨faults, rfl⟩, failures⟩

theorem Spends.trans {calls' : List TraceEntry} {count' : Nat} (first : k.Spends point count calls k')
    (second : k'.Spends point count' calls' k'') :
    k.Spends point (count + count') (calls' ++ calls) k'' := by
  obtain ⟨⟨_, rfl⟩, failures⟩ := first
  obtain ⟨⟨_, rfl⟩, failures'⟩ := second
  refine ⟨⟨_, by rw [List.append_assoc]⟩, fun point' i => ?_⟩
  rw [failures', failures]
  by_cases same : point' = point
  · simp only [if_pos same, Nat.add_assoc]
  · simp only [if_neg same]

end Calls

end Kernel

end GraphicsBuffers

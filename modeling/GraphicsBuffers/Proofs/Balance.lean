import GraphicsBuffers.Proofs.References
import Mathlib.Data.List.Infix
/-!
# Balanced callers

Callers are to balance every registration by one unregistration, and the creator of a buffer drops
its own reference once. For a buffer that was allocated here that is enough to keep it: it is
destroyed when the last registration is balanced and the creator's reference dropped, and not
before. An imported buffer is owed to its callers for a shorter time only. Each registration adds one
reference and each unregistration takes two, so it stays while at most half of the registrations are
balanced (`Client.balanced_kept`); with three registrations the second unregistration destroys it.
-/

namespace GraphicsBuffers

/-- What callers are to keep to: an unregistration balances a registration that came before it, the
creator's reference is dropped once at most, and the allocator stays. -/
structure Obeys (key : MemoryRef) (imported : Bool) (calls : List Answered) : Prop where
  balances : ∀ calls', calls' <+: calls →
    calls'.countP (Answered.unregisters key) ≤ calls'.countP (Answered.registers key)
  dropsOnce : calls.countP (Answered.drops key) ≤ if imported then 0 else 1
  stays : ∀ call ∈ calls, call.1.endsAllocator = false

/-- What is still owed to the callers: an allocated buffer until every registration is balanced and
the creator's reference dropped, an imported one while at most half of the registrations are
balanced. -/
def Owed (key : MemoryRef) (imported : Bool) (calls : List Answered) : Prop :=
  if imported then
    2 * calls.countP (Answered.unregisters key) ≤ calls.countP (Answered.registers key)
  else
    calls.countP (Answered.unregisters key) < calls.countP (Answered.registers key) ∨
      calls.countP (Answered.drops key) = 0

variable {key : MemoryRef} {imported : Bool} {calls : List Answered}

instance : Decidable (Owed key imported calls) := inferInstanceAs (Decidable (ite _ _ _))

/-- What is owed is what has references. -/
theorem Obeys.owed_iff (obeys : Obeys key imported calls) :
    Owed key imported calls ↔ ∃ n, Balanced key imported calls (n + 1) := by
  have balances := obeys.balances calls (List.prefix_refl _)
  have dropsOnce := obeys.dropsOnce
  unfold Owed Balanced
  cases imported <;> simp only [if_true, Bool.false_eq_true, if_false] at dropsOnce ⊢
  · refine ⟨fun owed => ⟨calls.countP (Answered.registers key) -
      calls.countP (Answered.unregisters key) - calls.countP (Answered.drops key), ?_⟩, ?_⟩
    · omega
    · rintro ⟨n, balanced⟩
      omega
  · refine ⟨fun owed => ⟨calls.countP (Answered.registers key) -
      2 * calls.countP (Answered.unregisters key), ?_⟩, ?_⟩
    · omega
    · rintro ⟨n, balanced⟩
      omega

theorem Obeys.earlier {calls' : List Answered} (obeys : Obeys key imported calls)
    (earlier : calls' <+: calls) : Obeys key imported calls' where
  balances calls'' earlier' := obeys.balances calls'' (earlier'.trans earlier)
  dropsOnce := Nat.le_trans (earlier.sublist.countP_le ..) obeys.dropsOnce
  stays call mem := obeys.stays call (earlier.subset mem)

theorem Balanced.changes {call : Answered} {before after : Nat}
    (balanced : Balanced key imported calls before)
    (balanced' : Balanced key imported (calls ++ [call]) after) :
    Changes key imported call before after := by
  unfold Balanced Changes at *
  simp only [List.countP_append, List.countP_singleton] at balanced'
  cases imported <;> simp only [if_true, Bool.false_eq_true, if_false] at * <;> omega

namespace Client

variable {c : Client}

/-- While a buffer is registered, the next call leaves it so if it is owed still, and destroys it if
not. -/
theorem Open.next (inOrder : c.InOrder) {calls : List Operation} {op : Operation}
    (opened : c.Open key imported calls)
    (obeys : Obeys key imported (c.replies (calls ++ [op]))) :
    (Owed key imported (c.replies (calls ++ [op])) ∧ c.Open key imported (calls ++ [op])) ∨
      (¬Owed key imported (c.replies (calls ++ [op])) ∧
        (c.run (calls ++ [op])).Gone c.process.nextObject ∧
        (c.run (calls ++ [op])).registration? key = none) := by
  rw [obeys.owed_iff]
  cases known : (c.run (calls ++ [op])).registration? key with
  | some e =>
    have opened := opened.concat inOrder known
    obtain ⟨references, positive, balanced, -⟩ := opened.balanced
    obtain ⟨n, rfl⟩ : ∃ n, references = n + 1 := ⟨references - 1, by omega⟩
    exact .inl ⟨⟨n, balanced⟩, opened⟩
  | none =>
    obtain ⟨⟨s, held, origin, -⟩, references, -, balanced, known₀⟩ := opened
    have inOrder := inOrder.run calls
    have moves := (step_keeps inOrder op).1
    rw [run_concat] at known ⊢
    rw [replies_concat] at obeys ⊢
    rcases moves.lost known₀ known with ends | ⟨⟨cell, found, lost⟩, dead⟩
    · have stays := obeys.stays _ (List.mem_append_right _ (List.mem_singleton_self _))
      cases ends.symm.trans stays
    · obtain rfl := Option.some.inj
        ((congrArg (Option.map Shared.cell) held).symm.trans found)
      refine .inr ⟨?_, (inOrder.step op).gone fun s' held' => ?_, rfl⟩
      · rintro ⟨n, balanced'⟩
        have changes := balanced.changes balanced'
        rw [← origin] at changes
        exact lost n changes
      · simpa [Shared.cell] using dead s'.cell (congrArg (Option.map Shared.cell) held')

/-- A buffer stays as long as it is owed to callers who keep to the rules; until then every
unregistration succeeds; and the call after which it is not owed any more destroys it. -/
theorem balanced_kept (host : Host) (opener : Opener) (table : BackendTable)
    (before : List Operation) {op : Operation} {after : List Operation}
    (free : ((start host opener table).run before).registration? key = none)
    (inserts : Inserts key (op, (((start host opener table).run before).step op).1) imported)
    (obeys : Obeys key imported (((start host opener table).run before).replies (op :: after))) :
    let c := (start host opener table).run before
    ∀ calls, calls <+: after →
      (∀ calls', calls' <+: calls → Owed key imported (c.replies (op :: calls'))) →
      c.Open key imported (op :: calls) ∧
      (∀ d, d.key? = some key →
        ((c.run (op :: calls)).step (.unregister d)).1 = .ok .done) ∧
      ∀ op', calls ++ [op'] <+: after → ¬Owed key imported (c.replies (op :: (calls ++ [op']))) →
        (∀ more, ((c.run (op :: (calls ++ [op']))).run more).Gone c.process.nextObject) ∧
          (c.run (op :: (calls ++ [op']))).Refuses key := by
  intro c calls
  have inOrder : c.InOrder := (start_inOrder host opener table).run before
  have earlier {calls calls' : List Operation} (h : calls <+: calls') :
      c.replies calls <+: c.replies calls' := by
    obtain ⟨rest, rfl⟩ := h
    exact ⟨_, (c.replies_append ..).symm⟩
  -- The account is open as long as something is owed.
  have opened (earlier' : calls <+: after)
      (owed : ∀ calls', calls' <+: calls → Owed key imported (c.replies (op :: calls'))) :
      c.Open key imported (op :: calls) := by
    induction calls using List.reverseRecOn with
    | nil => exact .first inOrder free inserts
    | append_singleton calls op' ih =>
      have opened := ih ((List.prefix_append ..).trans earlier') fun calls' h =>
        owed calls' (h.trans (List.prefix_append ..))
      have obeys := obeys.earlier (earlier (List.cons_prefix_cons.2 ⟨rfl, earlier'⟩))
      rcases opened.next inOrder obeys with ⟨-, opened⟩ | ⟨settled, -⟩
      · exact opened
      · exact absurd (owed _ (List.prefix_refl _)) settled
  intro earlier' owed
  have opened := opened earlier' owed
  refine ⟨opened, fun d keyed => ?_, fun op' earlier' settled => ?_⟩
  · obtain ⟨⟨s, held, origin, -⟩, references, -, -, known⟩ := opened
    obtain ⟨a, allocator, known⟩ := Option.bind_eq_some_iff.1 known
    rw [step_releases allocator known held (.unregister keyed), apply_ite Prod.fst]
    exact ite_self _
  · have obeys := obeys.earlier (earlier (List.cons_prefix_cons.2 ⟨rfl, earlier'⟩))
    have inOrder' := inOrder.run (op :: (calls ++ [op']))
    rcases opened.next inOrder obeys with ⟨owed, -⟩ | ⟨-, gone, free⟩
    · exact absurd owed settled
    · obtain ⟨s, held, -⟩ := opened.inUse
      have below := (inOrder.run (op :: calls)).consistent.below _ s.cell
        (congrArg (Option.map Shared.cell) held)
      have next := (step_keeps (inOrder.run (op :: calls)) op').1.next_le
      have step : c.run (op :: (calls ++ [op'])) = ((c.run (op :: calls)).step op').2 :=
        c.run_concat (op :: calls) op'
      have below' : c.process.nextObject < (c.run (op :: (calls ++ [op']))).process.nextObject := by
        rw [step]
        exact Nat.lt_of_lt_of_le below next
      exact ⟨gone.run inOrder' below', refuses inOrder' free⟩

/-! ## A buffer that is lost -/

/-- A client of a host with one card, which the scripted backend serves. -/
def small : Client :=
  start { kernel := { cards := [{ driver := [109, 111, 99, 107] }] } }
    (Opener.ofConfig { path := "/dev/dri/card0" })
    (BackendTable.register {} "mock" fun _ => return .scripted)

/-- A buffer that another process made. -/
def received : Descriptor :=
  { width := 16, height := 16, stride := 64, format := .rgba8888, usage := .swReadOften
    memory := some (.name 7) }

/-- Two registrations more, after which two are balanced and then a third. -/
def further : List Operation :=
  [.register received, .register received, .unregister received, .unregister received,
   .unregister received]

theorem further_obeys : Obeys (.name 7) true (small.replies (.register received :: further)) where
  balances calls' earlier :=
    have each : ∀ calls ∈ (small.replies (.register received :: further)).inits,
        calls.countP (Answered.unregisters (.name 7)) ≤
          calls.countP (Answered.registers (.name 7)) := by decide +kernel
    each calls' ((List.mem_inits ..).2 earlier)
  dropsOnce := by decide +kernel
  stays := by decide +kernel

/-- The second of three registrations is balanced, and the buffer is gone. -/
theorem balanced_kept_until_half :
    small.Open (.name 7) true [.register received, .register received, .register received,
        .unregister received] ∧
      (small.run [.register received, .register received, .register received,
        .unregister received, .unregister received]).Gone 0 := by
  have answer : (small.step (.register received)).1 = .ok .done := by decide +kernel
  have inserts : Inserts (.name 7) (.register received, (small.step (.register received)).1) true :=
    answer ▸ .imported rfl
  have owed : ∀ calls ∈ (further.take 3).inits,
      Owed (.name 7) true (small.replies (.register received :: calls)) := by decide +kernel
  obtain ⟨opened, -, lost⟩ := balanced_kept _ _ _ [] rfl inserts further_obeys (further.take 3)
    (List.take_prefix ..) fun calls earlier => owed calls ((List.mem_inits ..).2 earlier)
  exact ⟨opened, (lost (.unregister received) ⟨[.unregister received], rfl⟩ (by decide +kernel)).1 []⟩

/-- Three registrations, and callers who balance them one by one. With the second unregistration the
buffer is gone, although a registration is left, and that one cannot be balanced any more. -/
theorem registered_thrice_lost :
    Obeys (.name 7) true (small.replies (.register received :: further)) ∧
      (small.replies (.register received :: further)).map (·.2) =
        [.ok .done, .ok .done, .ok .done, .ok .done, .ok .done, .error .invalidHandle] ∧
      (small.run (.register received :: further.take 4)).registration? (.name 7) = none ∧
      ((small.run [.register received]).process.objects.get? 0).isSome ∧
      ((small.run (.register received :: further.take 4)).process.objects.get? 0).isNone := by
  refine ⟨further_obeys, ?_, ?_, ?_, ?_⟩ <;> decide +kernel

end Client

end GraphicsBuffers

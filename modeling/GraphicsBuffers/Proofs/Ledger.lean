import GraphicsBuffers.Device.Mapping
import Mathlib.Logic.Function.Basic
import Mathlib.Data.List.Basic

/-!
# The ledger of a trace

The recorded calls say what a process has asked for and what it has given back, whether or not the
kernel complied. An `Event` is what one call means for that. A `Ledger` is what is held between two
calls: a card, handles on it, and with a handle its framebuffer and its mapping. `Ledger.Posts` says
which events may come next, and an `Audit` is a history of such events, from nothing on. In a history
that is audited everything begins once, and has ended once if it is not held (`Audit.balanced`), and
what belongs to something else begins after it and ends before it (`Audit.closed_after`).
-/

namespace GraphicsBuffers

open Wire
open Function (update)

/-! ## Events -/

/-- What a call means for what is held. A call that gives something back counts even if it fails. -/
inductive Event
  | opened (fd : Int32)
  | closed (fd : Int32)
  /-- A handle came from opening shared memory, or else from an allocation. -/
  | obtained (fd : Int32) (handle : UInt32) (imported : Bool)
  /-- A handle is given back as one on opened memory, or else as that of an allocation. -/
  | released (fd : Int32) (handle : UInt32) (imported : Bool)
  | attached (fd : Int32) (handle id : UInt32)
  | detached (fd : Int32) (id : UInt32)
  | mapped (fd : Int32) (handle : UInt32) (m : Mapping)
  | unmapped (m : Mapping)
  /-- Another request to a card, or one that failed. -/
  | used (fd : Int32)
  | other
  deriving DecidableEq

/-- What begins and ends. -/
inductive Item
  | card (fd : Int32)
  | handle (handle : UInt32)
  | framebuffer (id : UInt32)
  | mapping (id : Nat)
  deriving DecidableEq

namespace Event

/-- What a control request means. -/
def ofControl (fd : Int32) (request : Request) (argument : Bytes) (outcome : Except Errno Answer) :
    Event :=
  match request, outcome with
  | .createDumb, .ok (.reply bytes) => obtained fd (read32 bytes 16) false
  | .gemOpen, .ok (.reply bytes) => obtained fd (read32 bytes 4) true
  | .primeFdToHandle, .ok (.reply bytes) => obtained fd (read32 bytes 0) true
  | .addFb2, .ok (.reply bytes) => attached fd (read32 argument 20) (read32 bytes 0)
  | .destroyDumb, _ => released fd (read32 argument 0) false
  | .gemClose, _ => released fd (read32 argument 0) true
  | .removeFb, _ => detached fd (read32 argument 0)
  | _, _ => used fd

/-- What a call means. The handle that is mapped is the one that the offset belongs to. -/
def ofCall (call : Call) (outcome : Except Errno Answer) : Event :=
  match call, outcome with
  | .openCard _, .ok (.number n) => opened (.ofInt n)
  | .close fd, _ => closed fd
  | .map fd offset length _, .ok (.mapping id) =>
    mapped fd (.ofNat (offset.toNat / UInt32.size)) ⟨id, length⟩
  | .map fd _ _ _, _ => used fd
  | .unmap id length, _ => unmapped ⟨id, length⟩
  | .control fd request argument, outcome => ofControl fd request argument outcome
  | _, _ => other

/-- What an event begins. -/
def begins : Event → Option Item
  | opened fd => some (.card fd)
  | obtained _ handle _ => some (.handle handle)
  | attached _ _ id => some (.framebuffer id)
  | mapped _ _ m => some (.mapping m.id)
  | _ => none

/-- What an event ends. -/
def ends : Event → Option Item
  | closed fd => some (.card fd)
  | released _ handle _ => some (.handle handle)
  | detached _ id => some (.framebuffer id)
  | unmapped m => some (.mapping m.id)
  | _ => none

/-- The card that an event happens on. -/
def card? : Event → Option Int32
  | opened fd | closed fd | obtained fd .. | released fd .. | attached fd .. | detached fd _
  | mapped fd .. | used fd => some fd
  | unmapped _ | other => none

/-- The handle that something comes with. -/
def handle? : Event → Option UInt32
  | obtained _ handle _ | attached _ handle _ | mapped _ handle _ => some handle
  | _ => none

theorem card_of_handle (e : Event) {handle : UInt32} (comes : e.handle? = some handle) :
    e.card? ≠ none := by
  cases e <;> first | cases comes; done | exact Option.some_ne_none _

end Event

/-- What an entry of the trace means. -/
def TraceEntry.event : TraceEntry → Event
  | .kernel call outcome => .ofCall call outcome
  | .backend _ => .other

/-! ## Ledgers -/

/-- What is held with a handle. -/
structure Holding where
  imported : Bool
  /-- The size of the memory object. -/
  size : UInt64
  framebuffer : Option UInt32 := none
  mapping : Option Mapping := none

namespace Holding

/-- Whether something is held with a handle, given what is. -/
def Has (handle : UInt32) (a : Option Holding) : Item → Prop
  | .card _ => False
  | .handle handle' => handle' = handle ∧ a.isSome
  | .framebuffer id => ∃ x ∈ a, x.framebuffer = some id
  | .mapping id => ∃ x ∈ a, ∃ m ∈ x.mapping, m.id = id

/-- How an event on a card changes what is held with a handle. A handle is given back bare. -/
inductive Turns (fd : Int32) (handle : UInt32) : Option Holding → Event → Option Holding → Prop
  | obtained {imported size} :
    Turns fd handle none (.obtained fd handle imported) (some { imported, size })
  | released {imported size} :
    Turns fd handle (some { imported, size }) (.released fd handle imported) none
  | attached {a : Holding} {id} (free : a.framebuffer = none) :
    Turns fd handle (some a) (.attached fd handle id) (some { a with framebuffer := some id })
  | detached {a : Holding} {id} (has : a.framebuffer = some id) :
    Turns fd handle (some a) (.detached fd id) (some { a with framebuffer := none })
  | mapped {a : Holding} {m} (free : a.mapping = none) :
    Turns fd handle (some a) (.mapped fd handle m) (some { a with mapping := some m })
  | unmapped {a : Holding} {m} (has : a.mapping = some m) :
    Turns fd handle (some a) (.unmapped m) (some { a with mapping := none })

variable {fd : Int32} {handle : UInt32} {a a' : Option Holding} {e : Event} {i : Item}

theorem Turns.has_of_begins (turns : Turns fd handle a e a') (begins : e.begins = some i) :
    Has handle a' i := by
  cases turns <;> cases begins <;> simp [Has]

theorem Turns.has_of_ends (turns : Turns fd handle a e a') (ends : e.ends = some i) :
    Has handle a i ∧ ¬Has handle a' i := by
  cases turns <;> cases ends <;> simp_all [Has]

theorem Turns.has_iff (turns : Turns fd handle a e a') (begins : e.begins ≠ some i)
    (ends : e.ends ≠ some i) : Has handle a' i ↔ Has handle a i := by
  cases turns <;> cases i <;> simp_all [Has, Event.begins, Event.ends, eq_comm]

theorem Turns.card (turns : Turns fd handle a e a') {fd' : Int32} (on : e.card? = some fd') :
    fd = fd' := by
  cases turns <;> cases on <;> rfl

theorem Turns.on (turns : Turns fd handle a e a') (begins : e.begins = some i) :
    e.handle? = some handle ∧ e.card? = some fd := by
  cases turns <;> cases begins <;> exact ⟨rfl, rfl⟩

/-- What comes with a handle comes while that is held. -/
theorem Turns.holds {handle' : UInt32} (turns : Turns fd handle a e a')
    (comes : e.handle? = some handle') (begins : e.begins = some i) (part : i ≠ .handle handle') :
    handle' = handle ∧ ∃ x, a = some x := by
  cases turns <;> cases comes <;> cases begins <;> simp at part ⊢

/-- How a handle came about does not change, and a mapping is as it was made. -/
theorem Turns.origin {x' : Holding} (turns : Turns fd handle a e (some x')) :
    (e = .obtained fd handle x'.imported ∨ ∃ x, a = some x ∧ x.imported = x'.imported) ∧
      ∀ m, x'.mapping = some m → e = .mapped fd handle m ∨ ∃ x, a = some x ∧ x.mapping = some m := by
  cases turns <;> simp_all

end Holding

/-- What is held: a card, and handles on it. -/
structure Ledger where
  card : Option Int32 := none
  holdings : UInt32 → Option Holding := fun _ => none

namespace Ledger

/-- The ledger with what is held with one handle replaced. -/
def set (l : Ledger) (handle : UInt32) (a : Option Holding) : Ledger :=
  { l with holdings := update l.holdings handle a }

/-- The events that may come next, and what is held then. A card is closed when no handle on it is
left. -/
inductive Posts (l : Ledger) : Event → Ledger → Prop
  | opened {fd} (none : l.card = none) : l.Posts (.opened fd) { l with card := some fd }
  | closed {fd} (card : l.card = some fd) (bare : ∀ handle, l.holdings handle = none) :
    l.Posts (.closed fd) { l with card := none }
  | turned {fd handle e a} (card : l.card = some fd)
    (turns : Holding.Turns fd handle (l.holdings handle) e a) : l.Posts e (l.set handle a)
  | used {fd} (card : l.card = some fd) : l.Posts (.used fd) l
  | other : l.Posts .other l

/-- Whether something is held. -/
def Has (l : Ledger) (i : Item) : Prop :=
  (∃ fd ∈ l.card, i = .card fd) ∨ ∃ handle, Holding.Has handle (l.holdings handle) i

/-- Nothing is held with two handles. -/
def Sole (l : Ledger) : Prop :=
  ∀ i handle handle', Holding.Has handle (l.holdings handle) i →
    Holding.Has handle' (l.holdings handle') i → handle = handle'

theorem set_holdings_self (l : Ledger) (handle : UInt32) (a : Option Holding) :
    (l.set handle a).holdings handle = a := Function.update_self ..

theorem set_holdings_of_ne (l : Ledger) {handle handle' : UInt32} (ne : handle' ≠ handle)
    (a : Option Holding) : (l.set handle a).holdings handle' = l.holdings handle' :=
  Function.update_of_ne ne ..

@[simp] theorem has_card {l : Ledger} {fd : Int32} : l.Has (.card fd) ↔ l.card = some fd := by
  simp [Has, Holding.Has]

theorem has_handle {l : Ledger} {handle : UInt32} :
    l.Has (.handle handle) ↔ ∃ a, l.holdings handle = some a := by
  simp [Has, Holding.Has, Option.isSome_iff_exists]

theorem has_set {l : Ledger} {handle : UInt32} {a : Option Holding} {i : Item} :
    (l.set handle a).Has i ↔ (∃ fd ∈ l.card, i = .card fd) ∨ Holding.Has handle a i ∨
      ∃ handle' ≠ handle, Holding.Has handle' (l.holdings handle') i := by
  refine or_congr_right ⟨?_, ?_⟩
  · rintro ⟨handle', has⟩
    by_cases eq : handle' = handle
    · subst eq
      exact .inl (l.set_holdings_self handle' a ▸ has)
    · exact .inr ⟨handle', eq, l.set_holdings_of_ne eq a ▸ has⟩
  · rintro (has | ⟨handle', ne, has⟩)
    · exact ⟨handle, (l.set_holdings_self handle a).symm ▸ has⟩
    · exact ⟨handle', (l.set_holdings_of_ne ne a).symm ▸ has⟩

namespace Posts

variable {l l' : Ledger} {e : Event} {i : Item}

theorem has_of_begins (posts : l.Posts e l') (begins : e.begins = some i) : l'.Has i := by
  cases posts with
  | opened none =>
    cases begins
    exact has_card.2 rfl
  | turned card turns => exact has_set.2 (.inr (.inl (turns.has_of_begins begins)))
  | closed | used | other => cases begins

theorem has_of_ends (posts : l.Posts e l') (ends : e.ends = some i) : l.Has i := by
  cases posts with
  | closed card bare =>
    cases ends
    exact has_card.2 card
  | turned card turns => exact .inr ⟨_, (turns.has_of_ends ends).1⟩
  | opened | used | other => cases ends

theorem not_has_of_ends (posts : l.Posts e l') (sole : l.Sole) (ends : e.ends = some i) :
    ¬l'.Has i := by
  cases posts with
  | closed card bare =>
    cases ends
    simp
  | turned card turns =>
    obtain ⟨had, gone⟩ := turns.has_of_ends ends
    rw [has_set]
    rintro (⟨fd, -, rfl⟩ | has | ⟨handle, ne, has⟩)
    · exact had
    · exact gone has
    · exact ne (sole _ _ _ has had)
  | opened | used | other => cases ends

theorem has_iff (posts : l.Posts e l') (begins : e.begins ≠ some i) (ends : e.ends ≠ some i) :
    l'.Has i ↔ l.Has i := by
  cases posts with
  | opened none =>
    refine or_congr_left ?_
    simpa [none, Event.begins, eq_comm] using begins
  | closed card bare =>
    refine or_congr_left ?_
    simpa [card, Event.ends, eq_comm] using ends
  | turned card turns =>
    rw [has_set, turns.has_iff begins ends]
    refine or_congr_right ⟨?_, fun ⟨handle, has⟩ => ?_⟩
    · rintro (has | ⟨handle, -, has⟩) <;> exact ⟨_, has⟩
    · rename_i handle' _ _
      by_cases eq : handle = handle'
      · exact .inl (eq ▸ has)
      · exact .inr ⟨handle, eq, has⟩
  | used | other => exact Iff.rfl

/-- What happens on a card happens while it is open, unless it opens it. -/
theorem has_card_of_card (posts : l.Posts e l') {fd : Int32} (on : e.card? = some fd)
    (ne : e ≠ .opened fd) : l.Has (.card fd) := by
  cases posts with
  | opened none =>
    cases on
    exact absurd rfl ne
  | closed card bare =>
    cases on
    exact has_card.2 card
  | turned card turns =>
    rw [has_card, card, turns.card on]
  | used card =>
    cases on
    exact has_card.2 card
  | other => cases on

/-- What comes with a handle comes while that is held, on the same card. -/
theorem holds (posts : l.Posts e l') {handle : UInt32} (comes : e.handle? = some handle)
    (begins : e.begins = some i) (part : i ≠ .handle handle) :
    ∃ fd a, e.card? = some fd ∧ l.card = some fd ∧ l.holdings handle = some a := by
  cases posts with
  | turned card turns =>
    obtain ⟨rfl, a, held⟩ := turns.holds comes begins part
    exact ⟨_, a, (turns.on begins).2, card, held⟩
  | opened | closed | used | other => cases comes

/-- A handle is given back as it was obtained, when nothing comes with it. -/
theorem held_of_released {fd : Int32} {handle : UInt32} {imported : Bool}
    (posts : l.Posts (.released fd handle imported) l') :
    l.card = some fd ∧ ∃ size, l.holdings handle = some { imported, size } := by
  obtain ⟨fd', handle', a, card, turns⟩ : ∃ fd' handle' a, l.card = some fd' ∧
      Holding.Turns fd' handle' (l.holdings handle') (.released fd handle imported) a := by
    cases posts with
    | turned card turns => exact ⟨_, _, _, card, turns⟩
  generalize held : l.holdings handle' = b at turns
  cases turns
  exact ⟨card, _, held⟩

/-- A mapping is removed as it was made. -/
theorem held_of_unmapped {m : Mapping} (posts : l.Posts (.unmapped m) l') :
    ∃ handle a, l.holdings handle = some a ∧ a.mapping = some m := by
  obtain ⟨fd, handle, a, turns⟩ : ∃ fd handle a,
      Holding.Turns fd handle (l.holdings handle) (.unmapped m) a := by
    cases posts with
    | turned card turns => exact ⟨_, _, _, turns⟩
  generalize held : l.holdings handle = b at turns
  cases turns with
  | unmapped has => exact ⟨handle, _, held, has⟩

theorem bare_of_closed {fd : Int32} (posts : l.Posts (.closed fd) l') (handle : UInt32) :
    l.holdings handle = none := by
  cases posts with
  | closed card bare => exact bare handle
  | @turned fd' handle' _ a card turns =>
    generalize l.holdings handle' = b at turns
    cases turns

end Posts

end Ledger

/-! ## Histories -/

/-- A history of events, the newest first, that leads to a ledger. What begins has not begun
before. -/
inductive Audit : List Event → Ledger → Prop
  | start : Audit [] {}
  | post {es l e l'} (before : Audit es l) (posts : l.Posts e l')
    (fresh : ∀ i, e.begins = some i → ∀ e' ∈ es, e'.begins ≠ some i) : Audit (e :: es) l'

namespace Audit

variable {es : List Event} {l : Ledger} {e e' : Event} {i : Item}

/-- Every event came to what was held then. -/
theorem split {later earlier : List Event} (audit : Audit (later ++ e :: earlier) l) :
    ∃ l₀ l₁, Audit earlier l₀ ∧ l₀.Posts e l₁ ∧ Audit (e :: earlier) l₁ := by
  induction later generalizing l with
  | nil =>
    cases audit with
    | post before posts fresh => exact ⟨_, _, before, posts, before.post posts fresh⟩
  | cons e' later ih =>
    cases audit with
    | post before _ _ => exact ih before

/-- Nothing begins twice. -/
theorem begins_inj (audit : Audit es l) (mem : e ∈ es) (mem' : e' ∈ es)
    (begins : e.begins = some i) (begins' : e'.begins = some i) : e = e' := by
  induction audit with
  | start => cases mem
  | post before posts fresh ih =>
    rcases List.mem_cons.1 mem with rfl | old <;> rcases List.mem_cons.1 mem' with rfl | old'
    · rfl
    · exact absurd begins' (fresh i begins e' old')
    · exact absurd begins (fresh i begins' e old)
    · exact ih old old'

/-- What is held with a handle has begun with it, on the card that is open. -/
theorem begun (audit : Audit es l) {handle : UInt32}
    (has : Holding.Has handle (l.holdings handle) i) :
    ∃ e ∈ es, e.begins = some i ∧ e.handle? = some handle ∧ e.card? = l.card := by
  induction audit with
  | start => cases i <;> simp [Holding.Has] at has
  | @post es l e l' before posts fresh ih =>
    have earlier (has : Holding.Has handle (l.holdings handle) i) (same : l'.card = l.card) :
        ∃ e' ∈ e :: es, e'.begins = some i ∧ e'.handle? = some handle ∧ e'.card? = l'.card := by
      obtain ⟨e', mem, known⟩ := ih has
      exact ⟨e', List.mem_cons_of_mem _ mem, same ▸ known⟩
    cases posts with
    | opened none =>
      obtain ⟨e', -, -, comes, card⟩ := ih has
      exact absurd (card.trans none) (e'.card_of_handle comes)
    | closed card bare => simp [bare] at has; cases i <;> simp [Holding.Has] at has
    | @turned fd handle' e a card turns =>
      by_cases eq : handle = handle'
      · subst eq
        rw [Ledger.set_holdings_self] at has
        by_cases begins : e.begins = some i
        · obtain ⟨comes, on⟩ := turns.on begins
          exact ⟨e, List.mem_cons_self, begins, comes, on.trans card.symm⟩
        · by_cases ends : e.ends = some i
          · exact absurd has (turns.has_of_ends ends).2
          · exact earlier ((turns.has_iff begins ends).1 has) rfl
      · rw [Ledger.set_holdings_of_ne _ eq] at has
        exact earlier has rfl
    | used | other => exact earlier has rfl

/-- A handle and its mapping are held as they were obtained and made. -/
theorem origin (audit : Audit es l) {handle : UInt32} {a : Holding}
    (held : l.holdings handle = some a) :
    ∃ fd, l.card = some fd ∧ .obtained fd handle a.imported ∈ es ∧
      ∀ m, a.mapping = some m → .mapped fd handle m ∈ es := by
  induction audit generalizing a with
  | start => cases held
  | @post es l e l' before posts fresh ih =>
    have earlier (held : l.holdings handle = some a) (same : l'.card = l.card) :
        ∃ fd, l'.card = some fd ∧ .obtained fd handle a.imported ∈ e :: es ∧
          ∀ m, a.mapping = some m → .mapped fd handle m ∈ e :: es := by
      obtain ⟨fd, card, obtained, mapped⟩ := ih held
      exact ⟨fd, same ▸ card, List.mem_cons_of_mem _ obtained, fun m has =>
        List.mem_cons_of_mem _ (mapped m has)⟩
    cases posts with
    | opened none =>
      obtain ⟨fd, card, -⟩ := ih held
      cases none.symm.trans card
    | closed card bare => cases (bare handle).symm.trans held
    | @turned fd handle' e a' card turns =>
      by_cases eq : handle = handle'
      · subst eq
        obtain rfl : a' = some a := (Ledger.set_holdings_self ..).symm.trans held
        have known {x : Holding} (had : l.holdings handle = some x) :
            .obtained fd handle x.imported ∈ es ∧
              ∀ m, x.mapping = some m → .mapped fd handle m ∈ es := by
          obtain ⟨fd', card', known⟩ := ih had
          obtain rfl : fd' = fd := Option.some.inj (card'.symm.trans card)
          exact known
        obtain ⟨imported, mapping⟩ := turns.origin
        refine ⟨fd, card, ?_, fun m has => ?_⟩
        · rcases imported with rfl | ⟨x, had, same⟩
          · exact List.mem_cons_self
          · exact List.mem_cons_of_mem _ (same ▸ (known had).1)
        · rcases mapping m has with rfl | ⟨x, had, has'⟩
          · exact List.mem_cons_self
          · exact List.mem_cons_of_mem _ ((known had).2 m has')
      · exact earlier ((Ledger.set_holdings_of_ne _ eq _).symm.trans held) rfl
    | used | other => exact earlier held rfl

/-- Nothing is held with two handles. -/
theorem sole (audit : Audit es l) : l.Sole := by
  intro i handle handle' has has'
  obtain ⟨e, mem, begins, comes, -⟩ := audit.begun has
  obtain ⟨e', mem', begins', comes', -⟩ := audit.begun has'
  obtain rfl := audit.begins_inj mem mem' begins begins'
  exact Option.some.inj (comes.symm.trans comes')

/-- Everything begins at most once, and has ended once, if it began, unless it is held. -/
theorem balanced (audit : Audit es l) (i : Item) :
    (l.Has i ∧ es.countP (·.begins = some i) = 1 ∧ es.countP (·.ends = some i) = 0) ∨
    (¬l.Has i ∧ es.countP (·.begins = some i) ≤ 1 ∧
      es.countP (·.ends = some i) = es.countP (·.begins = some i)) := by
  induction audit with
  | start => exact .inr (by cases i <;> simp [Ledger.Has, Holding.Has])
  | @post es l e l' before posts fresh ih =>
    simp only [List.countP_cons, decide_eq_true_eq]
    by_cases begins : e.begins = some i
    · have none : es.countP (·.begins = some i) = 0 :=
        List.countP_eq_zero.2 fun e' mem => by simpa using fresh i begins e' mem
      have ends : e.ends ≠ some i := by cases e <;> cases begins <;> nofun
      simp only [begins, ends, if_true, if_false]
      rcases ih with ⟨-, one, -⟩ | ⟨-, -, same⟩
      · omega
      · exact .inl ⟨posts.has_of_begins begins, by omega, by omega⟩
    · simp only [begins, if_false]
      by_cases ends : e.ends = some i
      · simp only [ends, if_true]
        rcases ih with ⟨-, one, zero⟩ | ⟨gone, -, -⟩
        · exact .inr ⟨posts.not_has_of_ends before.sole ends, by omega, by omega⟩
        · exact absurd (posts.has_of_ends ends) gone
      · simp only [ends, if_false, posts.has_iff begins ends]
        exact ih

/-- What is held has begun. -/
theorem begun_of_has (audit : Audit es l) (has : l.Has i) : ∃ e ∈ es, e.begins = some i := by
  rcases audit.balanced i with ⟨-, one, -⟩ | ⟨gone, -⟩
  · have positive : 0 < es.countP (·.begins = some i) := by omega
    simpa using List.countP_pos_iff.1 positive
  · exact absurd has gone

/-- What has ended is not held. -/
theorem gone (audit : Audit es l) (mem : e ∈ es) (ends : e.ends = some i) : ¬l.Has i := by
  have positive : 0 < es.countP (·.ends = some i) :=
    List.countP_pos_iff.2 ⟨e, mem, by simpa using ends⟩
  rcases audit.balanced i with ⟨-, -, zero⟩ | ⟨gone, -⟩
  · omega
  · exact gone

/-- What has begun and is not held has ended. -/
theorem ended (audit : Audit es l) (mem : e ∈ es) (begins : e.begins = some i) (gone : ¬l.Has i) :
    ∃ e' ∈ es, e'.ends = some i := by
  have positive : 0 < es.countP (·.begins = some i) :=
    List.countP_pos_iff.2 ⟨e, mem, by simpa using begins⟩
  rcases audit.balanced i with ⟨has, -⟩ | ⟨-, -, same⟩
  · exact absurd has gone
  · rw [← same] at positive
    simpa using List.countP_pos_iff.1 positive

/-- What goes with something comes before its end. -/
theorem before_end {later earlier : List Event} (audit : Audit (later ++ e' :: earlier) l)
    (ends : e'.ends = some i)
    (needs : ∀ l₀ l₁ : Ledger, l₀.Posts e l₁ → l₀.Has i ∨ l₁.Has i) : e ∉ later := by
  intro mem
  obtain ⟨later', between, rfl⟩ := List.append_of_mem mem
  rw [List.append_assoc, List.cons_append] at audit
  obtain ⟨l₀, l₁, before, posts, after⟩ := audit.split
  have ended : e' ∈ between ++ e' :: earlier := List.mem_append_right _ List.mem_cons_self
  rcases needs l₀ l₁ posts with has | has
  · exact before.gone ended ends has
  · exact after.gone (List.mem_cons_of_mem _ ended) ends has

end Audit

end GraphicsBuffers

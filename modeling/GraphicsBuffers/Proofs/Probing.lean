import GraphicsBuffers.Proofs.DriverNames
import GraphicsBuffers.Proofs.Words
import GraphicsBuffers.World
import Mathlib.Data.Nat.Find
/-!
# Which card is found

The outcome of looking for a card is known beforehand (`Probe.Comes`): from the list of framebuffers, the
card nodes, and the failures that are set up for opening them and for asking for their drivers. Every card
node that is tried in vain uses up some of those failures, which `Probe.Tally` counts. `Probe.Since` is what
is left of a kernel on the way: the calls that were recorded, the failures still to come, and the files
still open.
-/

namespace GraphicsBuffers

/-! ## Framebuffers -/

namespace Probe

open Text

/-- The framebuffer that is listed first is the second word of the first line. -/
theorem firstFramebuffer_eq (text : List Char) :
    firstFramebuffer? text = (words (text.takeWhile (· != '\n')))[1]?.map String.ofList := by
  unfold firstFramebuffer?
  rcases first : firstLine? text with _ | line
  · have empty : text = [] := by
      by_contra nonempty
      simp [firstLine?, nonempty] at first
    subst empty
    rfl
  · rw [← words_firstLine first, ← secondWord_eq, Option.map_eq_bind]
    rfl

theorem driverOf_eq_some {framebuffer driver : String} :
    driverOf? framebuffer = some driver ↔ (framebuffer, driver) ∈ framebufferDrivers := by
  refine ⟨fun known => ?_, fun listed => ?_⟩
  · obtain ⟨entry, found, rfl⟩ := Option.map_eq_some_iff.1 known
    obtain rfl : entry.1 = framebuffer := by simpa using List.find?_some found
    exact List.mem_of_find?_eq_some found
  · simp only [framebufferDrivers, List.mem_cons, Prod.mk.injEq, List.not_mem_nil, or_false] at listed
    obtain ⟨rfl, rfl⟩ | ⟨rfl, rfl⟩ | ⟨rfl, rfl⟩ | ⟨rfl, rfl⟩ | ⟨rfl, rfl⟩ | ⟨rfl, rfl⟩ := listed <;> rfl

theorem driverOf_eq_none {framebuffer : String} :
    driverOf? framebuffer = none ↔ ∀ driver, (framebuffer, driver) ∉ framebufferDrivers := by
  simp only [Option.eq_none_iff_forall_ne_some, ne_eq, driverOf_eq_some]

/-! ## Card nodes -/

theorem nul_notMem_cardPath (n : Nat) : '\x00' ∉ (cardPath n).toList := by
  simp only [cardPath, String.toList_append, List.mem_append, Nat.toString_eq_repr, Nat.toList_repr, not_or]
  refine ⟨by decide, fun mem => ?_⟩
  exact absurd (Nat.isDigit_of_mem_toDigits (by decide) (by decide) mem) (by decide)

theorem cardPath_ne_procFbPath (n : Nat) : cardPath n ≠ procFbPath := by
  intro eq
  have start : "/dev/dri/card".toList.take 2 = procFbPath.toList.take 2 := by
    rw [← eq, cardPath, String.toList_append, List.take_append_of_le_length (by decide)]
  exact absurd start (by decide)

theorem cardPath_injective : ∀ m < maxCards, ∀ n < maxCards, cardPath m = cardPath n → m = n := by
  decide +kernel

end Probe

namespace Kernel

/-- The card node at a path, the first if there are more. -/
def cardAt? (k : Kernel) (path : String) : Option CardNode := k.cards.find? fun c => c.path == path

theorem cardAt_eq (k : Kernel) (path : String) :
    k.cardAt? path = (k.cards.findIdx? fun c => c.path == path).bind (k.cards[·]?) := by
  unfold cardAt?
  cases found : k.cards.findIdx? fun c => c.path == path with
  | none =>
    refine List.find?_eq_none.2 fun c mem => ?_
    simpa using List.findIdx?_eq_none_iff.1 found c mem
  | some index =>
    obtain ⟨below, holds, earlier⟩ := List.findIdx?_eq_some_iff_getElem.1 found
    rw [Option.bind_some, List.getElem?_eq_getElem below]
    exact List.find?_eq_some_iff_getElem.2 ⟨holds, index, below, rfl, by simpa using earlier⟩

theorem path_of_cardAt {k : Kernel} {path : String} {card : CardNode} (known : k.cardAt? path = some card) :
    card.path = path := by
  simpa using List.find?_some known

/-- Files yet to be opened get numbers that are free and watched. -/
structure Numbered (k : Kernel) : Prop where
  watched : 1000 ≤ k.nextFd
  free : ∀ n, k.nextFd ≤ n → n < 0x80000000 → k.files.get? (.ofNat n) = none

end Kernel

/-- A process starts with no card open. -/
theorem World.kernel_numbered (w : World) : w.kernel.Numbered := by
  have added (objects : List ForeignObject) (k : Kernel) (numbered : k.Numbered) :
      (objects.foldl World.addForeign k).Numbered := by
    induction objects generalizing k with
    | nil => exact numbered
    | cons o objects ih => exact ih (World.addForeign k o) ⟨numbered.watched, numbered.free⟩
  exact added w.objects _ ⟨Nat.le_refl 1000, fun _ _ _ => rfl⟩

namespace Probe

open Text

/-- How many calls of each kind were made, and how many files were opened. -/
structure Tally where
  made : FaultPoint → Nat := fun _ => 0
  files : Nat := 0

namespace Tally

/-- Once more calls of a kind were made. -/
def count (t : Tally) (point : FaultPoint) (n : Nat) : Tally :=
  ⟨fun point' => if point' = point then t.made point' + n else t.made point', t.files⟩

/-- Once one more file was opened. -/
def opens (t : Tally) : Tally := ⟨t.made, t.files + 1⟩

variable (t : Tally) (k : Kernel) (path : String)

/-- What the next call of a kind is made to fail with. -/
def failure? (point : FaultPoint) : Option Errno := k.failureAt? point (t.made point)

/-- The number of the next file. -/
def fd : Int32 := .ofNat (k.nextFd + t.files)

/-- The card node at a path, if it opens next. -/
def opened? : Option CardNode :=
  if t.failure? k .openCard = none ∧ k.nextFd + t.files < 0x80000000 then
    (k.cardAt? path).filter fun card => decide (card.openFailure = none)
  else none

/-- Once it was tried to open the card node at a path. -/
def opening : Tally :=
  if k.recordsOtherPaths || (k.cardAt? path).isSome then t.count .openCard 1 else t

/-- How many requests are made for the version of a card: the second only if the first does not fail. -/
def requests : Nat := if (t.failure? k (.control .version)).isSome then 1 else 2

/-- What the driver behind an open card is called, if neither request for it fails. -/
def name? (card : CardNode) : Option String :=
  if t.failure? k (.control .version) = none ∧
      (t.count (.control .version) 1).failure? k (.control .version) = none then
    cText? card.nameMemory
  else none

/-- The card node at a path opens next and tells that a driver is behind it. -/
def Drives (driver : String) : Prop :=
  ∃ card, t.opened? k path = some card ∧ t.name? k card = some driver

/-- Once the card node at a path was tried, and closed if it was opened. -/
def next : Tally :=
  match t.opened? k path with
  | none => t.opening k path
  | some _ => ((t.opening k path).opens.count (.control .version) (t.requests k)).count .close 1

section Opening

variable {t k path}

theorem opened_eq_some {card : CardNode} : t.opened? k path = some card ↔
    t.failure? k .openCard = none ∧ k.nextFd + t.files < 0x80000000 ∧
      k.cardAt? path = some card ∧ card.openFailure = none := by
  unfold opened?
  split <;> simp_all

/-- Opening a card node takes no failures from the requests to it. -/
theorem opening_made : (t.opening k path).opens.made (.control .version) = t.made (.control .version) := by
  unfold opening count
  split <;> rfl

theorem opening_requests : (t.opening k path).opens.requests k = t.requests k := by
  rw [requests, failure?, opening_made]
  rfl

theorem opening_name (card : CardNode) : (t.opening k path).opens.name? k card = t.name? k card := by
  simp only [name?, failure?, count, opening_made]

end Opening

end Tally

/-- Once the first card nodes were tried in vain. -/
def tally (k : Kernel) : Nat → Tally
  | 0 => {}
  | n + 1 => (tally k n).next k (cardPath n)

/-! ## What is left on the way -/

/-- What a kernel has come to, after so many calls, which were recorded so: these files are open. -/
structure Since (k : Kernel) (t : Tally) (calls : List TraceEntry) (files : Table Int32 Nat) (k' : Kernel) :
    Prop where
  same : ∃ faults, k' = { k with faults, files, trace := calls ++ k.trace, nextFd := k.nextFd + t.files }
  failures : ∀ point i, k'.failureAt? point i = k.failureAt? point (t.made point + i)

namespace Since

variable {k k' k'' : Kernel} {t : Tally} {calls new : List TraceEntry} {files : Table Int32 Nat}
  {point : FaultPoint} {n index : Nat} {path : String} {card : CardNode} {h : Host} {fd : Int32}

theorem failure (since : Since k t calls files k') (point : FaultPoint) :
    k'.failureAt? point 0 = t.failure? k point := since.failures point 0

theorem cards (since : Since k t calls files k') : k'.cards = k.cards := by
  obtain ⟨⟨_, rfl⟩, -⟩ := since
  rfl

theorem nextFd (since : Since k t calls files k') : k'.nextFd = k.nextFd + t.files := by
  obtain ⟨⟨_, rfl⟩, -⟩ := since
  rfl

theorem spends (since : Since k t calls files k') (spends : k'.Spends point n new k'') :
    Since k (t.count point n) (new ++ calls) files k'' := by
  obtain ⟨⟨_, rfl⟩, failures⟩ := since
  obtain ⟨⟨_, rfl⟩, failures'⟩ := spends
  refine ⟨⟨_, by rw [List.append_assoc]; rfl⟩, fun point' i => ?_⟩
  rw [failures', failures, Tally.count]
  dsimp only
  split
  · rw [Nat.add_assoc]
  · rfl

/-- A file is opened. -/
theorem opens (since : Since k t calls files k') (index : Nat) (entry : TraceEntry) :
    Since k t.opens (entry :: calls) (files.insert (t.fd k) index)
      ({ k' with files := k'.files.insert (t.fd k) index, nextFd := k'.nextFd + 1 }.record entry) := by
  obtain ⟨⟨_, rfl⟩, failures⟩ := since
  exact ⟨⟨_, rfl⟩, failures⟩

theorem openCard_opened (since : Since k t calls files k') (other : path ≠ procFbPath)
    (opened : t.opened? k path = some card) : ∃ index k'', k.cards[index]? = some card ∧
      k'.openCard path = (.ok (t.fd k), k'') ∧
      Since k (t.opening k path).opens
        (.kernel (.openCard path) (.ok (.number (t.fd k).toInt)) :: calls)
        (files.insert (t.fd k) index) k'' := by
  obtain ⟨spared, room, known, opens⟩ := Tally.opened_eq_some.1 opened
  have known' := (k.cardAt_eq path).symm.trans known
  obtain ⟨index, found, place⟩ := Option.bind_eq_some_iff.1 known'
  obtain ⟨k₁, taken, spends⟩ := k'.takeFault_run .openCard
  have since₁ := since.spends spends
  have after := since₁.opens index (.kernel (.openCard path) (.ok (.number (t.fd k).toInt)))
  have counted : t.opening k path = t.count .openCard 1 := by simp [Tally.opening, known]
  rw [counted]
  refine ⟨index, _, place, ?_, after⟩
  unfold Kernel.openCard Kernel.perform
  rw [if_neg other, since.cards, found]
  dsimp only
  rw [taken, since.failure, spared]
  dsimp only
  rw [since₁.cards, place, Option.bind_some, opens, since₁.nextFd]
  dsimp only
  have room₁ : k.nextFd + (t.count .openCard 1).files < 0x80000000 := room
  rw [if_pos room₁]
  rfl

/-- An attempt to open a card node that is made to fail, or refused, fails. -/
theorem perform_failed (since : Since k t calls files k') {effect : Kernel → Except Errno (Int32 × Kernel)}
    (refused : t.failure? k .openCard = none → ∀ k₁, Since k (t.count .openCard 1) calls files k₁ →
      ∃ e, effect k₁ = .error e) :
    ∃ e new k'', k'.perform .openCard (.openCard path) (.number ·.toInt) effect = (.error e, k'') ∧
      Since k (t.count .openCard 1) (new ++ calls) files k'' ∧
      (new = [] ∨ new = [.kernel (.openCard path) (.error e)]) := by
  obtain ⟨k₁, taken, spends⟩ := k'.takeFault_run .openCard
  unfold Kernel.perform
  rw [taken, since.failure]
  cases spared : t.failure? k .openCard with
  | some e => exact ⟨e, _, _, rfl, since.spends (spends.record _), .inr rfl⟩
  | none =>
    obtain ⟨e, refused⟩ := refused spared k₁ (since.spends spends)
    dsimp only
    rw [refused]
    exact ⟨e, _, _, rfl, since.spends (spends.record _), .inr rfl⟩

theorem openCard_failed (since : Since k t calls files k') (other : path ≠ procFbPath)
    (failed : t.opened? k path = none) : ∃ e new k'', k'.openCard path = (.error e, k'') ∧
      Since k (t.opening k path) (new ++ calls) files k'' ∧
      (new = [] ∨ new = [.kernel (.openCard path) (.error e)]) := by
  unfold Kernel.openCard
  rw [if_neg other, since.cards]
  have known := k.cardAt_eq path
  unfold Tally.opening
  cases found : k.cards.findIdx? fun c => c.path == path with
  | none =>
    have missing : k.cardAt? path = none := by rw [known, found, Option.bind_none]
    have records : k'.recordsOtherPaths = k.recordsOtherPaths := by
      obtain ⟨⟨_, rfl⟩, -⟩ := since
      rfl
    simp only [missing, records, Option.isSome_none, Bool.or_false]
    split
    · exact since.perform_failed fun _ _ _ => ⟨_, rfl⟩
    · exact ⟨_, [], _, rfl, since, .inl rfl⟩
  | some index =>
    obtain ⟨below, -, -⟩ := List.findIdx?_eq_some_iff_getElem.1 found
    have place := List.getElem?_eq_getElem below
    rw [found, Option.bind_some, place] at known
    simp only [known, Option.isSome_some, Bool.or_true, if_true]
    refine since.perform_failed fun spared k₁ since₁ => ?_
    rw [since₁.cards, place, Option.bind_some, since₁.nextFd]
    cases refused : k.cards[index].openFailure with
    | some e => exact ⟨e, rfl⟩
    | none =>
      have full : ¬k.nextFd + (t.count .openCard 1).files < 0x80000000 := by
        intro room
        rw [Tally.opened?, if_pos ⟨spared, room⟩, known] at failed
        simp [refused] at failed
      exact ⟨.EMFILE, if_neg full⟩

/-- Requests for the version of a card leave the files as they are. -/
theorem version (since : Since k t calls files h.kernel) {fd : Int32} (on : h.kernel.OpenOn fd card) :
    ∃ outcome new k'', (Device.version fd).run h = (outcome, { h with kernel := k'' }) ∧
      (∀ driver, (∃ info, outcome = .ok info ∧ info.name = driver) ↔ t.name? k card = some driver) ∧
      Since k (t.count (.control .version) (t.requests k)) (new ++ calls) files k'' ∧
      Device.VersionCalls fd new := by
  obtain ⟨new, k'', eq, spends, asked⟩ := Device.version_run on
  have first : h.kernel.failureAt? (.control .version) 0 = t.failure? k (.control .version) :=
    since.failure _
  have second : h.kernel.failureAt? (.control .version) 1 =
      (t.count (.control .version) 1).failure? k (.control .version) := since.failures _ 1
  rw [first, second] at eq
  refine ⟨_, new, k'', eq, fun driver => ?_, ?_, asked⟩
  · unfold Tally.name?
    rcases t.failure? k (.control .version) with _ | e
    · rcases (t.count (.control .version) 1).failure? k (.control .version) with _ | e
      · rw [if_pos ⟨rfl, rfl⟩, Option.or_none]
        unfold CardNode.said
        rcases cText? card.nameMemory with _ | name <;> simp
      · simp
    · simp
  · have since' := since.spends spends
    rwa [first] at since'

/-- What was opened last is closed. -/
theorem close (since : Since k t calls (files.insert fd index) k') (watched : Kernel.isWatched fd)
    (free : files.get? fd = none) (spared : t.failure? k .close = none) :
    ∃ k'', k'.close fd = (.ok (), k'') ∧
      Since k (t.count .close 1) (.kernel (.close fd) (.ok (.number 0)) :: calls) files k'' := by
  obtain ⟨k₁, taken, spends⟩ := k'.takeFault_run .close
  obtain ⟨⟨faults, rfl⟩, failures⟩ := since.spends spends
  have opened : (files.insert fd index).contains fd := (files.contains_insert fd fd index).2 (.inl rfl)
  have erased : (files.insert fd index).erase fd = files :=
    (files.erase_insert_self fd index).trans (Table.ext_entries (Table.erase_of_none free))
  unfold Kernel.close Kernel.perform
  rw [if_pos watched, taken, since.failure, spared]
  dsimp only
  rw [if_pos opened, erased]
  exact ⟨_, rfl, ⟨faults, rfl⟩, failures⟩

end Since

/-! ## The order of the calls -/

/-- Whatever card nodes were opened are closed again. -/
def AllClosed (calls : List TraceEntry) : Prop :=
  ∀ path fd, .kernel (.openCard path) (.ok (.number fd)) ∈ calls →
    .kernel (.close (.ofInt fd)) (.ok (.number 0)) ∈ calls

/-- Before a card node is opened, whatever was opened before it is closed. The newest call is the first. -/
def OneByOne (calls : List TraceEntry) : Prop :=
  ∀ path outcome older, .kernel (.openCard path) outcome :: older <:+ calls → AllClosed older

/-- The calls for a card node that is not kept. -/
inductive Rejects (path : String) : List TraceEntry → Prop
  | missing : Rejects path []
  | failed (e : Errno) : Rejects path [.kernel (.openCard path) (.error e)]
  | closed {fd : Int32} {asked : List TraceEntry}
    (requests : Device.VersionCalls fd asked) : Rejects path (.kernel (.close fd) (.ok (.number 0)) ::
      (asked ++ [.kernel (.openCard path) (.ok (.number fd.toInt))]))

section Order

variable {calls new asked : List TraceEntry} {entry : TraceEntry} {fd : Int32} {path : String}

theorem AllClosed.cons (closed : AllClosed calls)
    (other : ∀ path n, entry ≠ .kernel (.openCard path) (.ok (.number n))) : AllClosed (entry :: calls) := by
  intro path n mem
  rcases List.mem_cons.1 mem with eq | mem
  · exact absurd eq.symm (other path n)
  · exact List.mem_cons_of_mem _ (closed path n mem)

theorem OneByOne.cons (ordered : OneByOne calls)
    (closed : ∀ path outcome, entry = .kernel (.openCard path) outcome → AllClosed calls) :
    OneByOne (entry :: calls) := by
  intro path outcome older suffix
  rcases List.suffix_cons_iff.1 suffix with eq | suffix
  · obtain ⟨rfl, rfl⟩ := List.cons.inj eq
    exact closed path outcome rfl
  · exact ordered path outcome older suffix

/-- Requests to a card open and close nothing. -/
theorem OneByOne.append_requests (ordered : OneByOne calls) (requests : Device.VersionCalls fd asked) :
    OneByOne (asked ++ calls) := by
  induction asked with
  | nil => exact ordered
  | cons entry asked ih =>
    refine (ih fun entry mem => requests entry (List.mem_cons_of_mem _ mem)).cons fun path outcome eq => ?_
    obtain ⟨_, _, rfl⟩ := requests entry List.mem_cons_self
    cases eq

theorem Rejects.ordered (rejects : Rejects path new) (ordered : OneByOne calls) (closed : AllClosed calls) :
    OneByOne (new ++ calls) ∧ AllClosed (new ++ calls) := by
  cases rejects with
  | missing => exact ⟨ordered, closed⟩
  | failed e => exact ⟨ordered.cons fun _ _ _ => closed, closed.cons (by simp)⟩
  | @closed fd asked requests =>
    have opened : OneByOne (.kernel (.openCard path) (.ok (.number fd.toInt)) :: calls) :=
      ordered.cons fun _ _ _ => closed
    refine ⟨?_, fun path' n mem => ?_⟩
    · rw [List.cons_append, List.append_assoc]
      exact (opened.append_requests requests).cons (by simp)
    · simp only [List.cons_append, List.append_assoc, List.mem_cons, List.mem_append,
        List.nil_append] at mem ⊢
      obtain ⟨⟨⟩⟩ | mem | eq | mem := mem
      · obtain ⟨_, _, ⟨⟩⟩ := requests _ mem
      · cases eq
        exact .inl (by rw [Int32.ofInt_toInt])
      · exact .inr (.inr (.inr (closed path' n mem)))

theorem Rejects.opens (rejects : Rejects path new) {path' : String} {outcome : Except Errno Answer}
    (mem : .kernel (.openCard path') outcome ∈ new) : path' = path := by
  cases rejects with
  | missing => cases mem
  | failed e => simp_all
  | closed requests =>
    simp only [List.mem_cons, List.mem_append, List.not_mem_nil, or_false] at mem
    obtain ⟨⟨⟩⟩ | mem | eq := mem
    · obtain ⟨_, _, ⟨⟩⟩ := requests _ mem
    · cases eq
      rfl

end Order

/-! ## Trying a card node -/

theorem openAt_run {path : String} (nul : '\x00' ∉ path.toList) (h : Host) :
    (Card.openAt path).run h = match h.kernel.openCard path with
      | (.error e, k) => (.error (.card path e), { h with kernel := k })
      | (.ok fd, k) => (.ok ⟨fd, path⟩, { h with
          kernel := k, cardHolders := h.cardHolders.insert fd 1 }) := by
  have allowed : ¬path.toList.contains '\x00' := by simpa using nul
  have called : (Host.call (·.openCard path)).run h =
      ((h.kernel.openCard path).1, { h with kernel := (h.kernel.openCard path).2 }) := rfl
  unfold Card.openAt
  rw [if_neg allowed, run_bind_attempt, run_explain, called]
  rcases h.kernel.openCard path with ⟨e | fd, k⟩ <;> rfl

/-- Who holds a card alone and lets it go closes it. -/
theorem release_alone {card : Card} {h : Host} (alone : h.cardHolders.get? card.fd = some 1) :
    (do card.release; return none : HostM (Option Card)).run h = (none, card.closed h) := by
  have run := card.release_run h
  rw [alone] at run
  exact congrArg (Prod.mk none) run

namespace Since

variable {k : Kernel} {t : Tally} {calls : List TraceEntry} {h : Host} {path driver : String}

theorem watched {t : Tally} (numbered : k.Numbered) (room : k.nextFd + t.files < 0x80000000) :
    Kernel.isWatched (t.fd k) := by
  have number : (t.fd k).toInt = ↑(k.nextFd + t.files) := Int32.toInt_ofNat_of_lt room
  have low := numbered.watched
  have watched : (1000 : Int32) ≤ t.fd k := Int32.le_iff_toInt_le.2 (by rw [number]; simp; omega)
  simp [Kernel.isWatched, watched]

theorem openOn {k' : Kernel} {files : Table Int32 Nat} {index : Nat} {card : CardNode} {t' : Tally}
    (since : Since k t' calls (files.insert (t.fd k) index) k') (numbered : k.Numbered)
    (room : k.nextFd + t.files < 0x80000000) (place : k.cards[index]? = some card) :
    k'.OpenOn (t.fd k) card := by
  have watched := watched numbered room
  obtain ⟨⟨_, rfl⟩, -⟩ := since
  exact ⟨watched, index, Table.get?_insert_self .., place⟩

/-- A card node that opens is asked for its driver, and closed if that is another. -/
theorem tryCard_opened (driver : String) (since : Since k t calls k.files h.kernel)
    (numbered : k.Numbered) (other : path ≠ procFbPath) (nul : '\x00' ∉ path.toList) {card : CardNode}
    (opened : t.opened? k path = some card) :
    ∃ index asked h', k.cards[index]? = some card ∧
      (tryCard driver path).run h =
        (if t.name? k card = some driver then (some ⟨t.fd k, path⟩, h')
        else (none, (⟨t.fd k, path⟩ : Card).closed h')) ∧
      Since k ((t.opening k path).opens.count (.control .version) (t.requests k))
        (asked ++ .kernel (.openCard path) (.ok (.number (t.fd k).toInt)) :: calls)
        (k.files.insert (t.fd k) index) h'.kernel ∧
      Device.VersionCalls (t.fd k) asked ∧ h'.cardHolders.get? (t.fd k) = some 1 := by
  obtain ⟨index, k₁, place, eq, since₁⟩ := since.openCard_opened other opened
  obtain ⟨h₁, run, kernel, alone⟩ : ∃ h₁, (Card.openAt path).run h = (.ok ⟨t.fd k, path⟩, h₁) ∧
      h₁.kernel = k₁ ∧ h₁.cardHolders.get? (t.fd k) = some 1 :=
    ⟨_, by rw [openAt_run nul, eq], rfl, Table.get?_insert_self ..⟩
  subst kernel
  have room := (Tally.opened_eq_some.1 opened).2.1
  obtain ⟨outcome, asked, k₂, told, names, since₂, requests⟩ :=
    since₁.version (since₁.openOn numbered room place)
  rw [Tally.opening_requests] at since₂
  have same : (∃ info, outcome = .ok info ∧ info.name = driver) ↔ t.name? k card = some driver := by
    rw [names driver, Tally.opening_name]
  refine ⟨index, asked, { h₁ with kernel := k₂ }, place, ?_, since₂, requests, alone⟩
  unfold tryCard
  rw [run_bind_state, run]
  dsimp only
  rw [run_bind_state, told]
  dsimp only
  rcases outcome with e | info
  · rw [if_neg fun is => by simpa using same.2 is]
    exact release_alone alone
  · dsimp only
    by_cases is : info.name = driver
    · rw [if_pos is, if_pos (same.1 ⟨info, rfl, is⟩)]
      rfl
    · rw [if_neg is, if_neg fun is' => is (by simpa using same.2 is')]
      exact release_alone alone

/-- A card node that the driver is behind is kept open. -/
theorem tryCard_keeps (since : Since k t calls k.files h.kernel) (numbered : k.Numbered)
    (other : path ≠ procFbPath) (nul : '\x00' ∉ path.toList) (drives : t.Drives k path driver) :
    ∃ index card t' asked h', (tryCard driver path).run h = (some ⟨t.fd k, path⟩, h') ∧
      k.cards[index]? = some card ∧ card.path = path ∧
      Since k t' (asked ++ .kernel (.openCard path) (.ok (.number (t.fd k).toInt)) :: calls)
        (k.files.insert (t.fd k) index) h'.kernel ∧ Device.VersionCalls (t.fd k) asked := by
  obtain ⟨card, opened, named⟩ := drives
  obtain ⟨index, asked, h', place, run, since', requests, -⟩ :=
    since.tryCard_opened driver numbered other nul opened
  rw [if_pos named] at run
  exact ⟨index, card, _, asked, h', run, place, Kernel.path_of_cardAt (Tally.opened_eq_some.1 opened).2.2.1,
    since', requests⟩

/-- Any other is closed, if it was opened at all. -/
theorem tryCard_rejects (since : Since k t calls k.files h.kernel) (numbered : k.Numbered)
    (closes : ∀ i, k.failureAt? .close i = none) (other : path ≠ procFbPath)
    (nul : '\x00' ∉ path.toList) (drives : ¬t.Drives k path driver) :
    ∃ new h', (tryCard driver path).run h = (none, h') ∧
      Since k (t.next k path) (new ++ calls) k.files h'.kernel ∧ Rejects path new := by
  unfold Tally.next
  cases opened : t.opened? k path with
  | none =>
    obtain ⟨e, new, k', eq, since', shape⟩ := since.openCard_failed other opened
    have run : (tryCard driver path).run h = (none, { h with kernel := k' }) := by
      unfold tryCard
      rw [run_bind_state, openAt_run nul, eq]
      rfl
    refine ⟨new, _, run, since', ?_⟩
    rcases shape with rfl | rfl
    · exact .missing
    · exact .failed e
  | some card =>
    obtain ⟨index, asked, h', place, run, since', requests, alone⟩ :=
      since.tryCard_opened driver numbered other nul opened
    rw [if_neg fun named => drives ⟨card, opened, named⟩] at run
    have room := (Tally.opened_eq_some.1 opened).2.1
    obtain ⟨k', eq, since''⟩ := since'.close (watched numbered room)
      (numbered.free _ (Nat.le_add_right ..) room) (closes _)
    refine ⟨_, _, run, ?_, .closed requests⟩
    rw [List.cons_append, List.append_assoc]
    have kernel : ((⟨t.fd k, path⟩ : Card).closed h').kernel = k' := congrArg Prod.snd eq
    rw [kernel]
    exact since''

end Since

/-! ## Searching -/

/-- The driver is behind the card node of a number, once those before it were tried in vain. -/
def Driven (k : Kernel) (driver : String) (n : Nat) : Prop := (tally k n).Drives k (cardPath n) driver

/-- The first card nodes were tried in vain, and nothing is left of it. -/
structure Vain (k : Kernel) (n : Nat) (calls : List TraceEntry) (k' : Kernel) : Prop where
  since : Since k (tally k n) calls k.files k'
  ordered : OneByOne calls
  closed : AllClosed calls
  tried : ∀ path outcome, .kernel (.openCard path) outcome ∈ calls → ∃ m < n, path = cardPath m

/-- The card node of a number is kept open, as the only one. -/
structure Keeps (k : Kernel) (n : Nat) (calls : List TraceEntry) (k' : Kernel) : Prop where
  since : ∃ t index card, k.cards[index]? = some card ∧ card.path = cardPath n ∧
    Since k t calls (k.files.insert ((tally k n).fd k) index) k'
  ordered : OneByOne calls
  tried : ∀ path outcome, .kernel (.openCard path) outcome ∈ calls → ∃ m ≤ n, path = cardPath m

section Search

variable {k : Kernel} {n count : Nat} {calls : List TraceEntry} {h : Host} {driver : String}

theorem Vain.keeps (vain : Vain k n calls h.kernel) (numbered : k.Numbered) (driven : Driven k driver n) :
    ∃ calls h', (tryCard driver (cardPath n)).run h = (some ⟨(tally k n).fd k, cardPath n⟩, h') ∧
      Keeps k n calls h'.kernel := by
  obtain ⟨index, card, t, asked, h', run, place, path, since, requests⟩ :=
    vain.since.tryCard_keeps numbered (cardPath_ne_procFbPath n) (nul_notMem_cardPath n) driven
  refine ⟨_, h', run, ⟨t, index, card, place, path, since⟩, ?_, fun path outcome mem => ?_⟩
  · exact (vain.ordered.cons fun _ _ _ => vain.closed).append_requests requests
  · rcases List.mem_append.1 mem with mem | mem
    · obtain ⟨_, _, ⟨⟩⟩ := requests _ mem
    rcases List.mem_cons.1 mem with eq | mem
    · cases eq
      exact ⟨n, Nat.le_refl n, rfl⟩
    · obtain ⟨m, less, eq⟩ := vain.tried path outcome mem
      exact ⟨m, Nat.le_of_lt less, eq⟩

theorem Vain.rejects (vain : Vain k n calls h.kernel) (numbered : k.Numbered)
    (closes : ∀ i, k.failureAt? .close i = none) (driven : ¬Driven k driver n) :
    ∃ calls h', (tryCard driver (cardPath n)).run h = (none, h') ∧ Vain k (n + 1) calls h'.kernel := by
  obtain ⟨new, h', run, since, rejects⟩ :=
    vain.since.tryCard_rejects numbered closes (cardPath_ne_procFbPath n) (nul_notMem_cardPath n) driven
  obtain ⟨ordered, closed⟩ := rejects.ordered vain.ordered vain.closed
  refine ⟨_, h', run, since, ordered, closed, fun path outcome mem => ?_⟩
  rcases List.mem_append.1 mem with mem | mem
  · exact ⟨n, Nat.lt_succ_self n, rejects.opens mem⟩
  · obtain ⟨m, less, eq⟩ := vain.tried path outcome mem
    exact ⟨m, Nat.lt_succ_of_lt less, eq⟩

theorem search_succ (driver : String) (n count : Nat) (h : Host) : (search driver n (count + 1)).run h =
    match (tryCard driver (cardPath n)).run h with
    | (some card, h) => (some card, h)
    | (none, h) => (search driver (n + 1) count).run h := by
  rw [search, run_bind_state]
  unfold StateT.run
  rcases tryCard driver (cardPath n) h with ⟨_ | card, h'⟩ <;> rfl

/-- The search ends with the first card node that the driver is behind. -/
theorem search_keeps (vain : Vain k n calls h.kernel) (numbered : k.Numbered)
    (closes : ∀ i, k.failureAt? .close i = none) {m : Nat} (above : n ≤ m) (below : m < n + count)
    (driven : Driven k driver m) (least : ∀ i, n ≤ i → i < m → ¬Driven k driver i) :
    ∃ calls h', (search driver n count).run h = (some ⟨(tally k m).fd k, cardPath m⟩, h') ∧
      Keeps k m calls h'.kernel := by
  induction count generalizing n calls h with
  | zero => omega
  | succ count ih =>
    rw [search_succ]
    rcases Nat.eq_or_lt_of_le above with rfl | less
    · obtain ⟨calls', h', run, keeps⟩ := vain.keeps numbered driven
      rw [run]
      exact ⟨calls', h', rfl, keeps⟩
    · obtain ⟨calls', h', run, vain'⟩ := vain.rejects numbered closes (least n (Nat.le_refl n) less)
      rw [run]
      exact ih vain' less (by omega) fun i from_ => least i (by omega)

theorem search_rejects (vain : Vain k n calls h.kernel) (numbered : k.Numbered)
    (closes : ∀ i, k.failureAt? .close i = none) (undriven : ∀ i, n ≤ i → i < n + count → ¬Driven k driver i) :
    ∃ calls h', (search driver n count).run h = (none, h') ∧ Vain k (n + count) calls h'.kernel := by
  induction count generalizing n calls h with
  | zero => exact ⟨calls, h, rfl, vain⟩
  | succ count ih =>
    obtain ⟨calls', h', run, vain'⟩ := vain.rejects numbered closes (undriven n (Nat.le_refl n) (by omega))
    have sum : n + (count + 1) = n + 1 + count := by omega
    rw [search_succ, run, sum]
    exact ih vain' fun i from_ below => undriven i (by omega) (by omega)

end Search

/-! ## The outcome -/

/-- What looking for a card comes to. -/
inductive Comes (k : Kernel) : Except OpenError Card → Prop
  | unreadable {e : Errno} (failed : k.procFb = .error e) : Comes k (.error (.procFb (.failed e)))
  | notText {bytes : Wire.Bytes} (read : k.procFb = .ok bytes) (malformed : ∀ text, bytes ≠ Utf8.encode text) :
    Comes k (.error (.procFb .notText))
  | unlisted {text : List Char} (read : k.procFb = .ok (Utf8.encode text))
    (few : (words (text.takeWhile (· != '\n'))).length < 2) : Comes k (.error .noFramebuffer)
  | unknown {text word : List Char} (read : k.procFb = .ok (Utf8.encode text))
    (second : (words (text.takeWhile (· != '\n')))[1]? = some word)
    (unknown : ∀ driver, (String.ofList word, driver) ∉ framebufferDrivers) :
    Comes k (.error (.unknownFramebuffer (String.ofList word)))
  | unmatched {text word : List Char} {driver : String} (read : k.procFb = .ok (Utf8.encode text))
    (second : (words (text.takeWhile (· != '\n')))[1]? = some word)
    (known : (String.ofList word, driver) ∈ framebufferDrivers)
    (undriven : ∀ n < maxCards, ¬Driven k driver n) : Comes k (.error (.noMatchingCard driver))
  | found {text word : List Char} {driver : String} {n : Nat} (read : k.procFb = .ok (Utf8.encode text))
    (second : (words (text.takeWhile (· != '\n')))[1]? = some word)
    (known : (String.ofList word, driver) ∈ framebufferDrivers)
    (below : n < maxCards) (driven : Driven k driver n) (least : ∀ m < n, ¬Driven k driver m) :
    Comes k (.ok ⟨(tally k n).fd k, cardPath n⟩)

section Outcome

variable {h : Host}

/-- Nothing but the trace is different once the list of framebuffers is read. -/
def listed (h : Host) : Host := { h with kernel := h.kernel.readProcFb.2 }

theorem readFramebuffers_run (h : Host) : readFramebuffers.run h =
    (match h.kernel.procFb with
      | .error e => .error (.procFb (.failed e))
      | .ok bytes => match Utf8.decode? bytes with
        | some text => .ok text
        | none => .error (.procFb .notText), listed h) := by
  have called : (Host.call (·.readProcFb)).run h = (h.kernel.procFb, listed h) := rfl
  unfold readFramebuffers
  rw [run_bind_attempt, run_explain, called]
  rcases h.kernel.procFb with e | bytes
  · rfl
  · dsimp only
    rcases Utf8.decode? bytes with _ | text <;> rfl

theorem vain_listed (h : Host) :
    Vain h.kernel 0 [.kernel .openProcFb (h.kernel.procFb.map fun _ => .number 0)] (listed h).kernel where
  since := ⟨⟨_, rfl⟩, fun point i => (congrArg (h.kernel.failureAt? point) (Nat.zero_add i)).symm⟩
  ordered := OneByOne.cons (fun _ _ _ suffix => by simp at suffix) (by simp)
  closed := AllClosed.cons (fun _ _ mem => by simp at mem) (by simp)
  tried path outcome mem := by simp at mem

theorem openDriving_read {text : List Char} (read : h.kernel.procFb = .ok (Utf8.encode text)) :
    openDriving.run h =
      match (words (text.takeWhile (· != '\n')))[1]? with
      | none => (.error .noFramebuffer, listed h)
      | some word =>
        match driverOf? (String.ofList word) with
        | none => (.error (.unknownFramebuffer (String.ofList word)), listed h)
        | some driver =>
          match (search driver 0 maxCards).run (listed h) with
          | (some card, h') => (.ok card, h'.reported (.probed driver (String.ofList word) card.path))
          | (none, h') => (.error (.noMatchingCard driver), h') := by
  unfold openDriving
  rw [run_bind_attempt, readFramebuffers_run, read]
  dsimp only
  rw [Utf8.decode_encode]
  dsimp only
  rw [firstFramebuffer_eq]
  rcases (words (text.takeWhile (· != '\n')))[1]? with _ | word
  · rfl
  dsimp only [Option.map_some]
  rcases driverOf? (String.ofList word) with _ | driver
  · rfl
  dsimp only
  rw [run_lift_bind_attempt]
  unfold StateT.run
  rcases search driver 0 maxCards (listed h) with ⟨_ | card, h'⟩ <;> rfl

/-- What is left once a card was looked for: of the files that were opened, that of the card that was found. -/
def Leaves (k : Kernel) (outcome : Except OpenError Card) (k' : Kernel) : Prop :=
  ∃ faults nextFd files calls,
    k' = { k with faults, nextFd, files, trace := calls ++ k.trace } ∧ OneByOne calls ∧
      match outcome with
      | .ok card =>
        (∃ index node, k.cards[index]? = some node ∧ node.path = card.path ∧
          files = k.files.insert card.fd index) ∧
        ∀ n < maxCards, card.path = cardPath n → ∀ path outcome, .kernel (.openCard path) outcome ∈ calls →
          ∃ m ≤ n, path = cardPath m
      | .error _ => files = k.files ∧ AllClosed calls

theorem Vain.leaves {k k' : Kernel} {n : Nat} {calls : List TraceEntry} (vain : Vain k n calls k')
    (e : OpenError) : Leaves k (.error e) k' := by
  obtain ⟨⟨⟨faults, rfl⟩, -⟩, ordered, closed, -⟩ := vain
  exact ⟨faults, _, _, calls, rfl, ordered, rfl, closed⟩

theorem Keeps.leaves {k k' : Kernel} {n : Nat} {calls : List TraceEntry} (keeps : Keeps k n calls k')
    (below : n < maxCards) : Leaves k (.ok ⟨(tally k n).fd k, cardPath n⟩) k' := by
  obtain ⟨⟨t, index, card, place, path, ⟨faults, rfl⟩, -⟩, ordered, tried⟩ := keeps
  refine ⟨faults, _, _, calls, rfl, ordered, ⟨index, card, place, path, rfl⟩, fun m below' same => ?_⟩
  rwa [← cardPath_injective n below m below' same]

theorem Comes.run {r : Except OpenError Card} (comes : Comes h.kernel r) (numbered : h.kernel.Numbered)
    (closes : ∀ i, h.kernel.failureAt? .close i = none) :
    ∃ h', openDriving.run h = (r, h') ∧ Leaves h.kernel r h'.kernel := by
  have vain := vain_listed h
  cases comes with
  | unreadable failed =>
    refine ⟨_, ?_, vain.leaves _⟩
    rw [openDriving, run_bind_attempt, readFramebuffers_run, failed]
  | notText read malformed =>
    refine ⟨_, ?_, vain.leaves _⟩
    have undecoded : Utf8.decode? _ = none := Option.eq_none_iff_forall_ne_some.2 fun text decoded =>
      malformed text (Utf8.decode_eq_some_iff.1 decoded)
    rw [openDriving, run_bind_attempt, readFramebuffers_run, read]
    dsimp only
    rw [undecoded]
  | unlisted read few =>
    refine ⟨_, ?_, vain.leaves _⟩
    rw [openDriving_read read, List.getElem?_eq_none (by omega)]
  | unknown read second unknown =>
    refine ⟨_, ?_, vain.leaves _⟩
    rw [openDriving_read read, second]
    dsimp only
    rw [driverOf_eq_none.2 unknown]
  | @unmatched text word driver read second known undriven =>
    obtain ⟨calls, h', run, vain'⟩ : ∃ calls h', (search driver 0 maxCards).run (listed h) = (none, h') ∧
        Vain h.kernel (0 + maxCards) calls h'.kernel :=
      search_rejects vain numbered closes fun i _ below => undriven i (by omega)
    refine ⟨h', ?_, vain'.leaves _⟩
    rw [openDriving_read read, second]
    dsimp only
    rw [driverOf_eq_some.2 known]
    dsimp only
    rw [run]
  | @found text word driver n read second known below driven least =>
    obtain ⟨calls, h', run, keeps⟩ : ∃ calls h', (search driver 0 maxCards).run (listed h) =
        (some ⟨(tally h.kernel n).fd h.kernel, cardPath n⟩, h') ∧ Keeps h.kernel n calls h'.kernel :=
      search_keeps vain numbered closes (Nat.zero_le n) (by omega) driven fun i _ => least i
    refine ⟨h'.reported (.probed driver (String.ofList word) (cardPath n)), ?_, keeps.leaves below⟩
    rw [openDriving_read read, second]
    dsimp only
    rw [driverOf_eq_some.2 known]
    dsimp only
    rw [run]

theorem comes_total (k : Kernel) : ∃ r, Comes k r := by
  rcases read : k.procFb with e | bytes
  · exact ⟨_, .unreadable read⟩
  rcases decoded : Utf8.decode? bytes with _ | text
  · refine ⟨_, .notText read fun text eq => ?_⟩
    rw [eq, Utf8.decode_encode] at decoded
    cases decoded
  obtain rfl := Utf8.decode_eq_some_iff.1 decoded
  rcases second : (words (text.takeWhile (· != '\n')))[1]? with _ | word
  · exact ⟨_, .unlisted read (Nat.lt_succ_of_le (List.getElem?_eq_none_iff.1 second))⟩
  rcases known : driverOf? (String.ofList word) with _ | driver
  · exact ⟨_, .unknown read second (driverOf_eq_none.1 known)⟩
  have listed := driverOf_eq_some.1 known
  by_cases some : ∃ n, n < maxCards ∧ Driven k driver n
  · classical
    obtain ⟨below, driven⟩ := Nat.find_spec some
    refine ⟨_, .found read second listed below driven fun m less driven' => ?_⟩
    exact Nat.find_min some less ⟨less.trans below, driven'⟩
  · exact ⟨_, .unmatched read second listed fun n below driven => some ⟨n, below, driven⟩⟩

end Outcome

end Probe

namespace DeviceConfig

/-- Looking for a card comes to what it must: the list of framebuffers is text, its first line has a second
word, that is a framebuffer whose driver is known, and of the card nodes the first that opens, answers and
is driven by it is kept open. Otherwise it fails for the first of these that fails. The card nodes before
are closed one by one, those behind are not opened, and nothing else is left open. -/
theorem openCard_probes {config : DeviceConfig} (probes : config.probe = true) {h : Host}
    (numbered : h.kernel.Numbered) (closes : ∀ i, h.kernel.failureAt? .close i = none) :
    (∀ r, (config.openCard.run h).1 = r ↔ Probe.Comes h.kernel r) ∧
      Probe.Leaves h.kernel (config.openCard.run h).1 (config.openCard.run h).2.kernel := by
  have run : config.openCard = Probe.openDriving := if_pos probes
  rw [run]
  obtain ⟨outcome, comes⟩ := Probe.comes_total h.kernel
  obtain ⟨h', eq, leaves⟩ := comes.run numbered closes
  rw [eq]
  refine ⟨fun r => ⟨fun same => same ▸ comes, fun comes' => ?_⟩, leaves⟩
  obtain ⟨h'', eq', -⟩ := comes'.run numbered closes
  exact congrArg Prod.fst (eq.symm.trans eq')

/-- Three card nodes: the first has another driver behind it than the framebuffer, and the second cannot be
opened. -/
def threeCards : World where
  procFb := .ok "0 inteldrmfb\n".toUTF8.toList
  cards := [{ path := "/dev/dri/card0", driver := "vkms".toUTF8.toList },
    { path := "/dev/dri/card1", driver := "i915".toUTF8.toList, openFailure := some .ENODEV },
    { path := "/dev/dri/card2", driver := "i915".toUTF8.toList }]

/-- The third card is found. -/
theorem threeCards_probed :
    threeCards.kernel.Numbered ∧ (∀ i, threeCards.kernel.failureAt? .close i = none) ∧
      Probe.Comes threeCards.kernel (.ok ⟨1001, "/dev/dri/card2"⟩) := by
  have probes : ({ probe := true } : DeviceConfig).probe = true := rfl
  have numbered := threeCards.kernel_numbered
  have closes (i : Nat) : threeCards.kernel.failureAt? .close i = none := rfl
  have probed := openCard_probes probes (h := { kernel := threeCards.kernel }) numbered closes
  exact ⟨numbered, closes, (probed.1 _).1 (by decide +kernel)⟩

end DeviceConfig

end GraphicsBuffers

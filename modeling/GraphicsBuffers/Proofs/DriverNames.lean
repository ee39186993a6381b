import GraphicsBuffers.Proofs.Encoding
import GraphicsBuffers.Proofs.Failures
import GraphicsBuffers.Proofs.Replies
import GraphicsBuffers.Proofs.Starting
/-!
# The name of a driver

A driver's name is asked for in two requests, and the driver may report another length than its name has.
Which requests fail is counted out beforehand (`Kernel.failureAt?`), so what the card says is known from the
kernel alone (`CardNode.said`). `Device.version_told` puts it in terms of the bytes of the name.
-/

namespace GraphicsBuffers

open Wire

namespace Kernel

/-- A file descriptor is open on a card node. -/
structure OpenOn (k : Kernel) (fd : Int32) (card : CardNode) : Prop where
  watched : isWatched fd
  file : ∃ index, k.files.get? fd = some index ∧ k.cards[index]? = some card

theorem OpenOn.later {k k' : Kernel} {fd : Int32} {card : CardNode} {point : FaultPoint} {count : Nat}
    {calls : List TraceEntry} (on : k.OpenOn fd card) (spends : k.Spends point count calls k') :
    k'.OpenOn fd card := by
  obtain ⟨⟨_, rfl⟩, -⟩ := spends
  exact ⟨on.watched, on.file⟩

/-- A card node serves every version request that is not made to fail, and nothing comes of it. -/
theorem control_version {k : Kernel} {fd : Int32} {card : CardNode} (on : k.OpenOn fd card)
    (argument : Bytes) : ∃ outcome k',
      k.control fd .version argument = (match k.failureAt? (.control .version) 0 with
        | some e => .error e
        | none => .ok (serveVersion card argument), k') ∧
      k.Spends (.control .version) 1 [.kernel (.control fd .version argument) outcome] k' := by
  obtain ⟨k₁, taken, spends⟩ := k.takeFault_run (.control .version)
  obtain ⟨index, file, known⟩ := (on.later spends).file
  unfold control perform
  rw [if_neg (by simp [on.watched]), taken]
  rcases k.failureAt? (.control .version) 0 with _ | e
  · dsimp only
    rw [file]
    dsimp only
    rw [known]
    exact ⟨_, _, rfl, spends.record _⟩
  · exact ⟨_, _, rfl, spends.record _⟩

end Kernel

/-! ## Text in memory -/

/-- The bytes in memory before the first NUL, read as text; `none` if there is no NUL. -/
def cText? (memory : Bytes) : Option String :=
  (cString? memory.length memory).map fun bytes => String.ofList (Text.Utf8.decodeLossy bytes)

theorem cText_isSome {memory : Bytes} : (cText? memory).isSome ↔ 0 ∈ memory := by
  simp [cText?, cString?]

theorem takeWhile_append_zero (bytes rest : Bytes) :
    (bytes ++ 0 :: rest).takeWhile (· != 0) = bytes.takeWhile (· != 0) := by
  induction bytes with
  | nil => rfl
  | cons b bytes ih => simp only [List.cons_append, List.takeWhile_cons, ih]

theorem takeWhile_append_of_mem {bytes : Bytes} (zero : 0 ∈ bytes) (rest : Bytes) :
    (bytes ++ rest).takeWhile (· != 0) = bytes.takeWhile (· != 0) := by
  obtain ⟨before, after, rfl⟩ := List.append_of_mem zero
  rw [List.append_assoc, List.cons_append, takeWhile_append_zero, takeWhile_append_zero]

/-- Nothing after the first NUL is part of the text. -/
theorem cText_append_zero {bytes : Bytes} (zero : 0 ∉ bytes) (rest : Bytes) :
    cText? (bytes ++ 0 :: rest) = some (String.ofList (Text.Utf8.decodeLossy bytes)) := by
  have whole : bytes.takeWhile (· != 0) = bytes :=
    List.takeWhile_eq_self_iff.2 fun b mem => bne_iff_ne.2 fun eq => zero (eq ▸ mem)
  simp [cText?, cString?, takeWhile_append_zero, whole]

/-! ## What a driver says -/

namespace CardNode

/-- The length that the driver reports of its name. -/
def nameLength (card : CardNode) : Nat := (card.reportedLength.getD (.ofNat card.driver.length)).toNat

/-- The memory for the name, with one byte to spare, once the kernel has copied what fits of it. -/
def nameMemory (card : CardNode) : Bytes :=
  card.driver.take (card.nameLength + 1) ++ zeros (card.nameLength + 1 - card.driver.length)

/-- The driver's name is copied whole and with room to spare, or up to a NUL in it. -/
def NameEnds (card : CardNode) : Prop :=
  card.driver.length ≤ card.nameLength ∨ ∃ i ≤ card.nameLength, card.driver[i]? = some 0

/-- What is made of what the driver says of itself. -/
def said (card : CardNode) : Except VersionError DriverInfo :=
  match cText? card.nameMemory with
  | some name => .ok ⟨card.major, card.minor, card.patch, name⟩
  | none => .error .invalidName

section Memory

variable {card : CardNode}

theorem length_nameMemory : card.nameMemory.length = card.nameLength + 1 := by
  simp only [nameMemory, List.length_append, List.length_take, length_zeros]
  omega

theorem nameMemory_of_room (room : card.driver.length ≤ card.nameLength) :
    ∃ rest, card.nameMemory = card.driver ++ 0 :: rest := by
  refine ⟨zeros (card.nameLength - card.driver.length), ?_⟩
  rw [nameMemory, List.take_of_length_le (by omega), Nat.succ_sub room]
  rfl

theorem nameMemory_of_full (full : card.nameLength < card.driver.length) :
    card.nameMemory = card.driver.take (card.nameLength + 1) := by
  rw [nameMemory, Nat.sub_eq_zero_of_le full]
  exact List.append_nil _

/-- Bytes that the kernel has not copied are read as what they are, zeros. -/
theorem cString_copied : cString? (card.nameLength + 1) (card.driver.take (card.nameLength + 1)) =
    cString? card.nameMemory.length card.nameMemory := by
  rcases Nat.lt_or_ge card.nameLength card.driver.length with full | room
  · rw [length_nameMemory, nameMemory_of_full full]
  · obtain ⟨rest, eq⟩ := nameMemory_of_room room
    rw [List.take_of_length_le (by omega), eq]
    simp [cString?, takeWhile_append_zero, Nat.lt_succ_of_le room]

theorem zero_mem_nameMemory : 0 ∈ card.nameMemory ↔ card.NameEnds := by
  unfold NameEnds
  rcases Nat.lt_or_ge card.nameLength card.driver.length with full | room
  · have bounded (i : Nat) : i < card.nameLength + 1 ↔ i ≤ card.nameLength := Nat.lt_succ_iff
    simp [nameMemory_of_full full, List.mem_iff_getElem?, List.getElem?_take, bounded, Nat.not_le.2 full]
  · obtain ⟨rest, eq⟩ := nameMemory_of_room room
    simp [eq, room]

theorem takeWhile_nameMemory (ends : card.NameEnds) :
    card.nameMemory.takeWhile (· != 0) = card.driver.takeWhile (· != 0) := by
  rcases Nat.lt_or_ge card.nameLength card.driver.length with full | room
  · have zero := zero_mem_nameMemory.2 ends
    rw [nameMemory_of_full full] at zero ⊢
    have parts := takeWhile_append_of_mem zero (card.driver.drop (card.nameLength + 1))
    rw [← parts, List.take_append_drop]
  · obtain ⟨rest, eq⟩ := nameMemory_of_room room
    rw [eq, takeWhile_append_zero]

theorem said_of_ends (ends : card.NameEnds) : card.said =
    .ok ⟨card.major, card.minor, card.patch,
      String.ofList (Text.Utf8.decodeLossy (card.driver.takeWhile (· != 0)))⟩ := by
  have zero := zero_mem_nameMemory.2 ends
  simp [said, cText?, cString?, zero, takeWhile_nameMemory ends]

theorem said_of_not_ends (endless : ¬card.NameEnds) : card.said = .error .invalidName := by
  have none : cText? card.nameMemory = none := by
    rw [← Option.not_isSome_iff_eq_none, cText_isSome, zero_mem_nameMemory]
    exact endless
  rw [said, none]

theorem said_ne_failed (card : CardNode) (e : Errno) : card.said ≠ .error (.failed e) := by
  unfold said
  split <;> simp

theorem said_name {info : DriverInfo} (said : card.said = .ok info) :
    info.name = String.ofList (Text.Utf8.decodeLossy (card.driver.takeWhile (· != 0))) := by
  have ends : card.NameEnds := by
    by_contra endless
    cases (said_of_not_ends endless).symm.trans said
  rw [← Except.ok.inj ((said_of_ends ends).symm.trans said)]

/-- If the name begins with the text that the driver is known by, it ends there or goes on with a NUL. -/
theorem head_of_said {info : DriverInfo} (said : card.said = .ok info) {text : List Char}
    (same : info.name = String.ofList text) {rest : Bytes}
    (begins : card.driver = Text.Utf8.encode text ++ rest) : ∀ b ∈ rest.head?, b = 0 := by
  obtain rfl := String.ofList_injective (same.symm.trans (said_name said))
  have zero : ∀ b ∈ (card.driver.dropWhile (· != 0)).head?, b = 0 := by
    intro b mem
    have stop := List.head?_dropWhile_not (· != 0) card.driver
    rw [Option.mem_def.1 mem] at stop
    simpa using stop
  have parts : card.driver.takeWhile (· != 0) ++ card.driver.dropWhile (· != 0) = card.driver :=
    List.takeWhile_append_dropWhile
  have whole := Text.Utf8.encode_decodeLossy_of_prefix zero (parts.trans begins)
  rw [whole] at begins
  rwa [← List.append_cancel_left (parts.trans begins)]

end Memory

/-! ## How it is asked -/

/-- The numbers and the length that the driver reports. -/
def reported (card : CardNode) : DriverVersion :=
  ⟨card.major, card.minor, card.patch, card.reportedLength.getD (.ofNat card.driver.length)⟩

/-- The fields of a version lie side by side, so each is read as it was written. -/
theorem serveVersion_reads (card : CardNode) {argument : Bytes} (length : argument.length = 64) :
    Exchange.readVersion (Kernel.serveVersion card argument).bytes = card.reported := by
  have written {bytes : Bytes} {i : Nat} (v : Int32) (room : i ≤ bytes.length) :
      (read32 (write bytes i (int32 v)) i).toInt32 = v :=
    (congrArg UInt32.toInt32 (read32_write v.toUInt32 room)).trans v.toInt32_toUInt32
  have first : (write argument 0 (int32 card.major)).length = 64 :=
    (length_write (by simp [length])).trans length
  have second : (write (write argument 0 (int32 card.major)) 4 (int32 card.minor)).length = 64 :=
    (length_write (by simp [first])).trans first
  have third : (write (write (write argument 0 (int32 card.major)) 4 (int32 card.minor)) 8
      (int32 card.patch)).length = 64 := (length_write (by simp [second])).trans second
  simp only [Kernel.serveVersion, Exchange.readVersion, readInt32, reported, DriverVersion.mk.injEq]
  refine ⟨?_, ?_, ?_, ?_⟩
  · rw [read32_write_of_disjoint (by simp [third]) (.inl (by decide)),
      read32_write_of_disjoint (by simp [second]) (.inl (by decide)),
      read32_write_of_disjoint (by simp [first]) (.inl (by decide)), written _ (by simp [length])]
  · rw [read32_write_of_disjoint (by simp [third]) (.inl (by decide)),
      read32_write_of_disjoint (by simp [second]) (.inl (by decide)), written _ (by simp [first])]
  · rw [read32_write_of_disjoint (by simp [third]) (.inl (by decide)), written _ (by simp [second])]
  · rw [read64_write _ (by simp [third])]

/-- The name is copied with the second request, which says how much room there is. -/
theorem serveVersion_copies (card : CardNode) (length : UInt64) :
    (Kernel.serveVersion card (Exchange.versionName length).argument).copied =
      card.driver.take (length.toNat + 1) := by
  have lengthAt : read64 (Exchange.versionName length).argument 16 = length := by
    simp only [Exchange.versionName, List.append_assoc]
    rw [read64_append _ _ _ (by simp)]
    exact read64_word64 length _
  have pointerAt : read64 (Exchange.versionName length).argument 24 = 1 := by
    simp only [Exchange.versionName, List.append_assoc]
    rw [read64_append _ _ _ (by simp), read64_append _ _ _ (by simp)]
    exact read64_word64 1 _
  unfold Kernel.serveVersion
  rw [lengthAt, pointerAt]
  rfl

theorem versionName_answers (card : CardNode) :
    let x := Exchange.versionName card.reported.nameLength
    x.answer (Kernel.serveVersion card x.argument) =
      (card.reported, card.driver.take (card.nameLength + 1)) :=
  Prod.ext (card.serveVersion_reads (by simp [Exchange.versionName])) (card.serveVersion_copies _)

end CardNode

namespace Device

/-- Nothing but requests to a card for its version. -/
def VersionCalls (fd : Int32) (calls : List TraceEntry) : Prop :=
  ∀ entry ∈ calls, ∃ argument outcome, entry = .kernel (.control fd .version argument) outcome

/-- The second request is made only if the first does not fail. -/
theorem version_run {h : Host} {fd : Int32} {card : CardNode} (on : h.kernel.OpenOn fd card) :
    ∃ calls k',
      (version fd).run h = (match (h.kernel.failureAt? (.control .version) 0).or
            (h.kernel.failureAt? (.control .version) 1) with
          | some e => .error (.failed e)
          | none => card.said, { h with kernel := k' }) ∧
      h.kernel.Spends (.control .version)
        (if (h.kernel.failureAt? (.control .version) 0).isSome then 1 else 2) calls k' ∧
      VersionCalls fd calls := by
  unfold version
  rw [run_bind_attempt, run_explain, exchange_run]
  obtain ⟨outcome, k₁, eq, spends⟩ := Kernel.control_version on Exchange.version.argument
  have request : Exchange.version.request = .version := rfl
  rw [request, eq]
  rcases h.kernel.failureAt? (.control .version) 0 with _ | e
  · dsimp only [Except.map]
    have told : Exchange.version.answer (Kernel.serveVersion card Exchange.version.argument) =
        card.reported := card.serveVersion_reads (by simp [Exchange.version])
    rw [told, run_bind_attempt, run_explain, exchange_run]
    obtain ⟨outcome', k₂, eq', spends'⟩ := Kernel.control_version (on.later spends)
      (Exchange.versionName card.reported.nameLength).argument
    have request' (length : UInt64) : (Exchange.versionName length).request = .version := rfl
    have second := spends.failures (.control .version) 0
    rw [if_pos rfl] at second
    rw [request', eq', second]
    refine ⟨_, k₂, ?_, spends.trans spends', by simp [VersionCalls]⟩
    rcases h.kernel.failureAt? (.control .version) 1 with _ | e
    · dsimp only [Except.map]
      rw [card.versionName_answers]
      dsimp only
      rw [Option.none_or]
      rw [show card.reported.nameLength.toNat = card.nameLength from rfl, card.cString_copied]
      unfold CardNode.said cText?
      rcases cString? card.nameMemory.length card.nameMemory with _ | name <;> rfl
    · rfl
  · exact ⟨_, k₁, rfl, spends, by simp [VersionCalls]⟩

/-- What a driver is called, by its name and the length that it reports: if neither request fails, the bytes
of the name before its first NUL, read leniently, provided that the name ends within that length; otherwise
the name is not valid. What this says of reported lengths from 2^63 - 1 on is never seen, as a process comes to
its end there before the second request (`Device.version`). -/
theorem version_told {h : Host} {fd : Int32} {card : CardNode} (on : h.kernel.OpenOn fd card) :
    let name := card.driver
    let length := card.nameLength
    let ends := name.length ≤ length ∨ ∃ i ≤ length, name[i]? = some 0
    let before := name.takeWhile (· != 0)
    let first := h.kernel.failureAt? (.control .version) 0
    let second := h.kernel.failureAt? (.control .version) 1
    let outcome := ((version fd).run h).1
    (∀ e, outcome = .error (.failed e) ↔ first = some e ∨ first = none ∧ second = some e) ∧
    (first = none → second = none → outcome = card.said ∧
      (ends → outcome = .ok ⟨card.major, card.minor, card.patch,
        String.ofList (Text.Utf8.decodeLossy before)⟩) ∧
      (¬ends → outcome = .error .invalidName)) ∧
    (∀ info, outcome = .ok info → ∀ text,
      (before = Text.Utf8.encode text → info.name = String.ofList text) ∧
      (info.name = String.ofList text → ∀ rest, name = Text.Utf8.encode text ++ rest → rest ≠ [] →
        rest.head? = some 0)) ∧
    (∀ memory, (cText? memory).isSome ↔ 0 ∈ memory) ∧
    ∀ bytes rest, 0 ∉ bytes →
      cText? (bytes ++ 0 :: rest) = some (String.ofList (Text.Utf8.decodeLossy bytes)) := by
  intro name length ends before first second outcome
  obtain ⟨calls, k', eq, -⟩ := version_run on
  have answer : outcome = match first.or second with
      | some e => .error (.failed e)
      | none => card.said := congrArg Prod.fst eq
  refine ⟨fun e => ?_, fun spared spared' => ?_, fun info told text => ?_, fun _ => cText_isSome,
    fun _ rest zero => cText_append_zero zero rest⟩
  · rw [answer]
    cases first with
    | some e' => simp
    | none =>
      cases second with
      | some e' => simp
      | none =>
        simp only [Option.or_none, reduceCtorEq, and_false, or_false, iff_false]
        exact card.said_ne_failed e
  · rw [answer, spared, spared']
    exact ⟨rfl, card.said_of_ends, card.said_of_not_ends⟩
  · have said : card.said = .ok info := by
      cases failure : first.or second with
      | none => rwa [answer, failure] at told
      | some e => rw [answer, failure] at told; cases told
    refine ⟨fun spelled => ?_, fun same rest begins more => ?_⟩
    · rw [CardNode.said_name said, show card.driver.takeWhile (· != 0) = _ from spelled,
        Text.Utf8.decodeLossy_encode]
    · obtain ⟨b, rest, rfl⟩ := List.exists_cons_of_ne_nil more
      exact congrArg some (CardNode.head_of_said said same begins b rfl)

/-- A card whose driver reports one byte less than its name has. -/
def shortened : CardNode := { driver := [0x76, 0x6b, 0x6d, 0x73], reportedLength := some 3 }

/-- A host on which only that card is open. -/
def besideShortened : Host := { kernel := { cards := [shortened], files := Table.empty.insert 1000 0 } }

/-- Its name is copied whole, but nothing says where it ends. -/
theorem shortened_told : besideShortened.kernel.OpenOn 1000 shortened ∧
    ((version 1000).run besideShortened).1 = .error .invalidName := by
  have on : besideShortened.kernel.OpenOn 1000 shortened := ⟨by decide, 0, rfl, rfl⟩
  exact ⟨on, ((version_told on).2.1 rfl rfl).2.2 (by decide)⟩

end Device

end GraphicsBuffers

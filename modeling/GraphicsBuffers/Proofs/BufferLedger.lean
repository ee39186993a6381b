import GraphicsBuffers.Proofs.DumbBuffers
import GraphicsBuffers.Proofs.Records

/-!
# Buffers in the ledger

What the dumb-buffer backend does to the ledger, whatever fails. An allocation enters a new handle with
nothing but the handle, or leaves the ledger as it was. Mapping a buffer and unmapping it change what is
held with its handle only, and freeing it takes its handle out.
-/

namespace GraphicsBuffers

open Wire Wire.Exchange

variable {s : Surroundings} {l l' : Ledger} {fd : Int32}

/-! ## Ledgers -/

namespace Ledger

variable {handle : UInt32} {a b : Option Holding}

theorem set_set : (l.set handle a).set handle b = l.set handle b := by
  simp only [set, Function.update_idem]

theorem set_self : l.set handle (l.holdings handle) = l := by
  simp only [set, Function.update_eq_self]

/-- What is put in and taken out again leaves the ledger as it was. -/
theorem set_none (free : l.holdings handle = none) : l.set handle none = l :=
  free ▸ set_self

end Ledger

/-! ## Buffers -/

/-- The size that seeking to the end of a dma-buf tells, if it tells one. -/
def Surroundings.told? (s : Surroundings) (dmabuf : Int32) : Option UInt64 :=
  if Kernel.isWatched dmabuf then
    (s.dmabufs.find? fun d => decide (d.fd = dmabuf)).bind fun d =>
      if d.seekFailure = none ∧ 0 < d.size.toInt64 then some d.size else none
  else none

/-- The size that a buffer goes by: that of its memory, or what its descriptor covers where a dma-buf
does not tell. -/
def Sized (s : Surroundings) (d : Descriptor) (size bytes : UInt64) : Prop :=
  bytes = size ∨ ∃ dmabuf covered, d.key? = some (.prime dmabuf) ∧ s.told? dmabuf = none ∧
    d.byteSize? = some covered ∧ bytes = covered.toUInt64

/-- The handle of a buffer is held, with its mapping. -/
structure BackendBuffer.Entered (s : Surroundings) (l : Ledger) (d : Descriptor)
    (framebuffer : Option UInt32) (b : BackendBuffer) : Prop where
  holding : ∃ size, Sized s d size b.size ∧
    l.holdings b.handle = some ⟨b.imported, size, framebuffer, b.mapping⟩
  whole : ∀ m, b.mapping = some m → m.length = b.size

namespace Dumb

/-- A buffer that is new in the ledger. -/
structure Enters (s : Surroundings) (l : Ledger) (d : Descriptor) (b : BackendBuffer) (l' : Ledger) :
    Prop where
  free : l.holdings b.handle = none
  set : ∃ a, l' = l.set b.handle a
  entered : b.Entered s l' d none
  named : d.key? = none → ∃ name, b.memory = .name name

section Calls

variable {k : Kernel}

theorem seekEnd_audited (audited : k.Audited s l) (dmabuf : Int32) :
    (k.seekEnd dmabuf).2.Audited s l := by
  unfold Kernel.seekEnd
  split
  · exact audited.record (.same .other audited.bears rfl)
  · exact audited

/-- What seeking to the end of a dma-buf comes to. -/
theorem told_of_seekEnd (audited : k.Audited s l) {dmabuf : Int32} {outcome : Except Errno Int64}
    (eq : (k.seekEnd dmabuf).1 = outcome) :
    s.told? dmabuf = (outcome.toOption.filter fun offset => decide (0 < offset)).map (·.toUInt64) := by
  rw [← eq, ← audited.surroundings]
  unfold Kernel.seekEnd Surroundings.told? Kernel.endOfDmaBuf Kernel.surroundings
  by_cases watched : Kernel.isWatched dmabuf
  · simp only [watched, if_true]
    rcases k.dmabufs.find? _ with _ | ⟨fd, size, _ | e⟩
    · rfl
    · by_cases positive : 0 < size.toInt64 <;> simp [positive, Except.toOption, Option.filter_some]
    · rfl
  · simp only [watched, Bool.false_eq_true, if_false, Kernel.onOrdinary]
    split <;> rfl

theorem descriptorFlags_audited (audited : k.Audited s l) (dmabuf : Int32) :
    (k.descriptorFlags dmabuf).2.Audited s l := by
  unfold Kernel.descriptorFlags
  split
  · exact audited
  · split
    · exact audited
    · refine Kernel.perform_enters audited (fun k e audited => .same .other audited.bears rfl) ?_
      intro k _ k' audited eq
      split at eq <;> cases eq
      exact .same .other audited.bears rfl

end Calls

variable (fd) in
/-- The size that is taken for a dma-buf. -/
theorem dmaBufSize_records (d : Descriptor) (dmabuf : Int32) :
    Records s l (dmaBufSize d dmabuf).run (orLeaves (fun size l' => l' = l ∧
      match s.told? dmabuf with
      | some told => size = told
      | none => ∃ covered, d.byteSize? = some covered ∧ size = covered.toUInt64) l) := by
  have seek : Records s l (Host.call (·.seekEnd dmabuf)).run fun outcome l' => l' = l ∧
      s.told? dmabuf =
        (outcome.toOption.filter fun offset => decide (0 < offset)).map (·.toUInt64) :=
    call_records fun k audited => ⟨l, seekEnd_audited audited dmabuf, rfl, told_of_seekEnd audited rfl⟩
  unfold dmaBufSize
  refine .attempt (.lift seek) ?_
  rintro outcome _ ⟨rfl, told⟩
  cases outcome with
  | ok offset =>
    dsimp only
    split
    · next positive =>
      refine .pure ⟨rfl, ?_⟩
      simp [told, Except.toOption, Option.filter_some, positive]
    · next small =>
      cases covers : d.byteSize? with
      | some covered => exact .pure ⟨rfl, by simp [told, Except.toOption, Option.filter_some, small]⟩
      | none => exact .throw
  | error e =>
    cases covers : d.byteSize? with
    | some covered => exact .pure ⟨rfl, by simp [told, Except.toOption]⟩
    | none => exact .throw

/-- A handle on opened memory that is new in the ledger, with the size the memory goes by. -/
def Opens (s : Surroundings) (l : Ledger) (d : Descriptor) (opened : UInt32 × UInt64) (l' : Ledger) :
    Prop :=
  ∃ size, Sized s d size opened.2 ∧ l.holdings opened.1 = none ∧
    l' = l.set opened.1 (some { imported := true, size })

variable (card : l.card = some fd)
include card

theorem openName_records (d : Descriptor) (name : UInt32) :
    Records s l (openName fd name).run (orLeaves (Opens s l d) l) := by
  refine .attempt (.explain (gemOpen_records card name) fun e => .pure rfl) ?_
  rintro object l' ⟨free, same⟩
  exact .pure ⟨object.size, .inl rfl, free, same⟩

theorem openPrime_records {d : Descriptor} {dmabuf : Int32} (keyed : d.key? = some (.prime dmabuf)) :
    Records s l (openPrime fd d dmabuf).run (orLeaves (Opens s l d) l) := by
  have flags : Records s l (Host.call (·.descriptorFlags dmabuf)).run
      (orLeaves (fun _ l' => l' = l) l) :=
    call_records fun k audited => ⟨l, descriptorFlags_audited audited dmabuf, by
      cases (k.descriptorFlags dmabuf).1 <;> rfl⟩
  unfold openPrime
  refine .attempt (.explain flags fun e => (Records.report rfl).andThen fun _ => .pure rfl) ?_
  rintro _ _ rfl
  refine .attempt (dmaBufSize_records d dmabuf) ?_
  rintro size _ ⟨rfl, told⟩
  refine .attempt (.explain (primeFdToHandle_records card dmabuf) fun e => .pure rfl) ?_
  rintro handle l' ⟨shared, found, free, same⟩
  refine .pure ⟨shared.size, ?_, free, same⟩
  cases tells : s.told? dmabuf with
  | none =>
    rw [tells] at told
    obtain ⟨covered, covers, rfl⟩ := told
    exact .inr ⟨dmabuf, covered, keyed, tells, covers, rfl⟩
  | some size' =>
    rw [tells] at told
    obtain rfl : size = size' := told
    simp only [Surroundings.told?, found, Option.bind_some] at tells
    split at tells
    · split at tells <;> cases tells
      exact .inl rfl
    · cases tells

theorem openMemory_records {d : Descriptor} {memory : MemoryRef} (keyed : d.key? = some memory) :
    Records s l (openMemory fd d memory).run (orLeaves (Enters s l d) l) := by
  have finished (opened : UInt32 × UInt64) (l' : Ledger) (opens : Opens s l d opened l') :
      Records s l' (do
        Host.report (.objectOpened memory opened.1)
        return { handle := opened.1, size := opened.2, stride := d.stride, memory,
                 imported := true } : Attempt BackendError BackendBuffer).run
        (orLeaves (Enters s l d) l) := by
    obtain ⟨size, sized, free, same⟩ := opens
    refine .attempt (.lift (.report (Q := fun _ l'' => l'' = l') rfl)) ?_
    rintro _ _ rfl
    refine .pure ⟨free, ⟨_, same⟩, ⟨⟨size, sized, ?_⟩, nofun⟩, fun unkeyed => ?_⟩
    · rw [same, Ledger.set_holdings_self]
    · cases unkeyed.symm.trans keyed
  unfold openMemory
  cases memory with
  | name n => exact .attempt (openName_records card d n) finished
  | prime dmabuf => exact .attempt (openPrime_records card keyed) finished

theorem discard_records {handle : UInt32} {size : UInt64}
    (held : l.holdings handle = some { imported := false, size }) :
    Records s l (discard fd handle) fun _ l' => l' = l.set handle none := by
  refine (release_records card held).bind fun outcome l' same => ?_
  cases outcome with
  | ok => exact .pure same
  | error e => exact .report same

theorem create_records (d : Descriptor) :
    Records s l (create fd d).run (orLeaves (Enters s l d) l) := by
  unfold create
  split
  · refine .attempt (.explain (createDumb_records card _ _ _) fun e => .pure rfl) ?_
    rintro dumb l₁ ⟨free, same⟩
    have card₁ : l₁.card = some fd := same ▸ card
    have held : l₁.holdings dumb.handle = some { imported := false, size := dumb.size } :=
      same ▸ l.set_holdings_self ..
    have named : Records s l₁ (Host.exchange fd (gemFlink dumb.handle)).run
        (orLeaves (fun _ l' => l' = l₁) l₁) :=
      ((gemFlink_uses dumb.handle).records card₁).mono fun outcome _ same => by
        cases outcome <;> exact same
    refine .attempt (.explain named fun e => ?_) ?_
    · refine (Records.report rfl).andThen fun _ => (discard_records card₁ held).bind fun _ l' gone => ?_
      exact .pure (by rw [gone, same, Ledger.set_set, Ledger.set_none free])
    · rintro name _ rfl
      exact .pure ⟨free, ⟨_, same⟩, ⟨⟨dumb.size, .inl rfl, held⟩, nofun⟩, fun _ => ⟨name, rfl⟩⟩
  · exact .throw

/-- An allocation enters a buffer in the ledger, or leaves the ledger as it was. -/
theorem allocate_records (d : Descriptor) :
    Records s l (allocate fd d).run (orLeaves (Enters s l d) l) := by
  unfold allocate
  split
  · next memory keyed => exact openMemory_records card keyed
  · exact create_records card d

section Entered

variable {b : BackendBuffer} {size : UInt64}

theorem freeHandle_records (held : l.holdings b.handle = some { imported := b.imported, size }) :
    Records s l (freeHandle fd b) fun _ l' => l' = l.set b.handle none := by
  refine (release_records card held).bind fun outcome l' same => ?_
  cases outcome with
  | ok => exact .pure same
  | error e => exact .report same

/-- Freeing a buffer gives back its mapping and then its handle. -/
theorem free_records (held : l.holdings b.handle = some ⟨b.imported, size, none, b.mapping⟩) :
    Records s l (free fd b) fun _ l' => l' = l.set b.handle none := by
  unfold free
  cases mapping : b.mapping with
  | none => exact freeHandle_records card (mapping ▸ held)
  | some m =>
    refine (Mapping.unmap_records card held mapping).bind fun _ l₁ same => ?_
    have card₁ : l₁.card = some fd := same ▸ card
    have bare : l₁.holdings b.handle = some { imported := b.imported, size } :=
      same ▸ l.set_holdings_self ..
    refine (freeHandle_records card₁ bare).mono fun _ l' gone => ?_
    rw [gone, same, Ledger.set_set]

/-- The whole buffer is mapped. -/
theorem mapWhole_records {a : Holding} (held : l.holdings b.handle = some a)
    (free : a.mapping = none) :
    Records s l (mapWhole fd b).run (orLeaves (fun m l' => m.length = b.size ∧
      l' = l.set b.handle (some { a with mapping := some m })) l) := by
  have offset : Records s l (Host.exchange fd (mapDumb b.handle)).run
      (orLeaves (fun offset l' => offset = b.handle.toUInt64 <<< 32 ∧ l' = l) l) := by
    refine exchange_records card (fun k e audited => ⟨l, .used card audited.bears (.refl k), rfl⟩)
      fun k index node reply k' audited served => ⟨l, ?_, (mapDumb_served served).1, rfl⟩
    exact .used card audited.bears ((mapDumb_uses b.handle).alike k k' index node reply served)
  refine .attempt (.explain offset fun e => .pure rfl) ?_
  rintro _ _ ⟨rfl, rfl⟩
  exact .explain (Mapping.map_records card held free b.size) fun e => .pure rfl

variable {d : Descriptor} {framebuffer : Option UInt32} (entered : b.Entered s l d framebuffer)
include entered

/-- What is to be shown of mapping and unmapping a buffer. -/
def Remains (s : Surroundings) (l : Ledger) (d : Descriptor) (framebuffer : Option UInt32)
    (b b' : BackendBuffer) (l' : Ledger) : Prop :=
  b'.handle = b.handle ∧ (∃ a, l' = l.set b.handle a) ∧ b'.Entered s l' d framebuffer

omit card in
/-- Only the number of maps changes. -/
theorem remains_counted (n : UInt32) : Remains s l d framebuffer b { b with mapCount := n } l :=
  ⟨rfl, ⟨_, Ledger.set_self.symm⟩, ⟨entered.holding, entered.whole⟩⟩

/-- Mapping a buffer answers where its mapping begins. -/
theorem map_records :
    Records s l ((Dumb.map fd).run.run b) fun result l' =>
      Remains s l d framebuffer b result.2 l' ∧
        ∀ address, result.1 = .ok address → ∃ m, result.2.mapping = some m ∧ m.address = address := by
  intro h audited
  unfold Yields
  rw [map_run]
  cases mapping : b.mapping with
  | some m =>
    have counted := remains_counted entered (b.mapCount + 1)
    rw [mapping] at counted
    refine ⟨rfl, l, audited, counted, ?_⟩
    rintro _ ⟨⟩
    exact ⟨m, rfl, rfl⟩
  | none =>
    obtain ⟨size, sized, held⟩ := entered.holding
    obtain ⟨holders, l', audited', mapped⟩ := mapWhole_records card held mapping h audited
    rcases eq : (mapWhole fd b).run h with ⟨e | m, h'⟩ <;> rw [eq] at holders audited' mapped
    · obtain rfl : l' = l := mapped
      exact ⟨holders, l', audited', remains_counted entered _, nofun⟩
    · obtain ⟨length, rfl⟩ := mapped
      refine ⟨holders, _, audited', ⟨rfl, ⟨_, rfl⟩, ⟨size, sized, l.set_holdings_self ..⟩, ?_⟩, ?_⟩
      · rintro _ ⟨⟩
        exact length
      · rintro _ ⟨⟩
        exact ⟨m, rfl, rfl⟩

theorem unmap_records :
    Records s l (Dumb.unmap.run b) fun result l' => Remains s l d framebuffer b result.2 l' := by
  intro h audited
  unfold Yields
  rw [unmap_run]
  split
  · exact ⟨rfl, l, audited, remains_counted entered _⟩
  · split
    · obtain ⟨size, sized, held⟩ := entered.holding
      cases mapping : b.mapping with
      | some m =>
        obtain ⟨holders, _, audited', rfl⟩ := Mapping.unmap_records card held mapping h audited
        exact ⟨holders, _, audited', rfl, ⟨_, rfl⟩, ⟨size, sized, l.set_holdings_self ..⟩, nofun⟩
      | none => exact ⟨rfl, l, audited, rfl, ⟨_, Ledger.set_self.symm⟩, ⟨size, sized, mapping ▸ held⟩, nofun⟩
    · exact ⟨rfl, l, audited, remains_counted entered _⟩

end Entered

end Dumb

end GraphicsBuffers

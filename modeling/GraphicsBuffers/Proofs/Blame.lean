import GraphicsBuffers.Proofs.Tracing
/-!
# What fails an operation

An operation that makes a call it needs fails if the call does, with the number of that failure. `Adds`
is the judgement that says what a computation adds to the trace and how that goes with its answer. From
it come `Blames`, which says that every failure in the trace is the failure that is answered, and
`Minor`, for what only tidies up.
-/

namespace GraphicsBuffers

open Wire Wire.Exchange

variable {ε δ α β : Type}

/-! ## Entries -/

/-- Whether an operation needs a call. The others give something back, or are made up for, or belong to
bringing up a card or its display. -/
def Call.needed : Call → Bool
  | .descriptorFlags _ | .map .. => true
  | .control _ request _ =>
    match request with
    | .createDumb | .gemFlink | .gemOpen | .primeFdToHandle | .mapDumb | .addFb2 | .getMagic | .authMagic
    | .setMaster | .dropMaster => true
    | .version | .getResources | .destroyDumb | .gemClose | .removeFb => false
  | .openCard _ | .openProcFb | .close _ | .seekEnd _ | .unmap .. => false

/-- The number that a needed call failed with. -/
def TraceEntry.failure? : TraceEntry → Option Errno
  | .kernel call (.error e) => if call.needed then some e else none
  | _ => none

/-- The global name that a buffer was published under. -/
def TraceEntry.published? : TraceEntry → Option UInt32
  | .kernel (.control _ .gemFlink _) (.ok (.reply bytes)) => some (read32 bytes 4)
  | _ => none

/-- What needed calls have failed with. -/
def failures (trace : List TraceEntry) : List Errno := trace.filterMap TraceEntry.failure?

/-- The names that buffers have been published under. -/
def published (trace : List TraceEntry) : List UInt32 := trace.filterMap TraceEntry.published?

@[simp] theorem failures_append (new trace : List TraceEntry) :
    failures (new ++ trace) = failures new ++ failures trace := List.filterMap_append ..

@[simp] theorem published_append (new trace : List TraceEntry) :
    published (new ++ trace) = published new ++ published trace := List.filterMap_append ..

/-- A call that is not needed does not count as a failure. -/
theorem failures_unneeded {call : Call} (unneeded : call.needed = false)
    (outcome : Except Errno Answer) : failures [.kernel call outcome] = [] := by
  cases outcome <;> simp [failures, TraceEntry.failure?, unneeded]

/-- The failure in an entry is that of the call. -/
theorem error_of_failure {call : Call} {outcome : Except Errno Answer} {e : Errno}
    (mem : e ∈ failures [.kernel call outcome]) : outcome = .error e := by
  cases outcome with
  | ok answer => cases mem
  | error e' =>
    cases needed : call.needed with
    | false => simp [failures, TraceEntry.failure?, needed] at mem
    | true =>
      have same : e = e' := by simpa [failures, TraceEntry.failure?, needed] using mem
      rw [same]

/-! ## Computations -/

/-- What is added to a trace in two steps is added to it at once. -/
theorem added_twice {trace trace' trace'' new new' : List TraceEntry} (first : trace' = new ++ trace)
    (second : trace'' = new' ++ trace') : trace'' = new' ++ new ++ trace := by
  rw [List.append_assoc, ← first]
  exact second

/-- Run from anywhere, a computation adds some `new` to the trace and answers `a` with `P new a`. -/
def Adds (x : HostM α) (P : List TraceEntry → α → Prop) : Prop :=
  ∀ h : Host, ∃ new, (x h).2.kernel.trace = new ++ h.kernel.trace ∧ P new (x h).1

namespace Adds

variable {x : HostM α} {P Q : List TraceEntry → α → Prop}

theorem mono (first : Adds x P) (imp : ∀ new a, P new a → Q new a) : Adds x Q := by
  intro h
  obtain ⟨new, trace, holds⟩ := first h
  exact ⟨new, trace, imp new _ holds⟩

/-- What is added is determined, so two things can be said of it at once. -/
theorem both (first : Adds x P) (second : Adds x Q) : Adds x fun new a => P new a ∧ Q new a := by
  intro h
  obtain ⟨new, trace, holds⟩ := first h
  obtain ⟨new', trace', holds'⟩ := second h
  obtain rfl := List.append_cancel_right (trace.symm.trans trace')
  exact ⟨new, trace, holds, holds'⟩

theorem pure {a : α} (holds : P [] a) : Adds (Pure.pure a) P := fun _ => ⟨[], rfl, holds⟩

theorem report {event : LogEvent} {P : List TraceEntry → Unit → Prop} (holds : P [] ()) :
    Adds (Host.report event) P := fun _ => ⟨[], rfl, holds⟩

theorem bind {f : α → HostM β} {Q : List TraceEntry → β → Prop} (first : Adds x P)
    (second : ∀ a new, P new a → Adds (f a) fun new' b => Q (new' ++ new) b) : Adds (x >>= f) Q := by
  intro h
  obtain ⟨new, trace, holds⟩ := first h
  obtain ⟨new', trace', holds'⟩ := second _ new holds (x h).2
  exact ⟨new' ++ new, added_twice trace trace', holds'⟩

theorem attempt {x : Attempt ε α} {f : α → Attempt ε β} {P : List TraceEntry → Except ε α → Prop}
    {Q : List TraceEntry → Except ε β → Prop} (first : Adds x.run P)
    (ok : ∀ a new, P new (.ok a) → Adds (f a).run fun new' b => Q (new' ++ new) b)
    (error : ∀ e new, P new (.error e) → Q new (.error e)) : Adds (x >>= f).run Q := by
  refine Adds.bind (x := x.run) (f := ExceptT.bindCont f) first fun outcome new holds => ?_
  cases outcome with
  | ok a => exact ok a new holds
  | error e => exact .pure (error e new holds)

theorem explain {x : Attempt ε α} {f : ε → HostM δ} {P : List TraceEntry → Except ε α → Prop}
    {Q : List TraceEntry → Except δ α → Prop} (first : Adds x.run P)
    (ok : ∀ a new, P new (.ok a) → Q new (.ok a))
    (error : ∀ e new, P new (.error e) → Adds (f e) fun new' d => Q (new' ++ new) (.error d)) :
    Adds (GraphicsBuffers.explain x f).run Q := by
  refine first.bind fun outcome new holds => ?_
  cases outcome with
  | ok a => exact .pure (ok a new holds)
  | error e =>
    refine (error e new holds).bind fun d new' holds' => .pure ?_
    exact holds'

end Adds

/-! ## Entries of one kind -/

/-- Of all a computation adds to the trace just these are picked, the last one first. -/
def Picks {π : Type} (pick : TraceEntry → Option π) (picked : List π) (x : HostM α) : Prop :=
  Adds x fun new _ => new.filterMap pick = picked

namespace Picks

variable {π : Type} {pick : TraceEntry → Option π} {picked picked' : List π}

theorem pure (a : α) : Picks pick [] (Pure.pure a) := Adds.pure rfl

theorem report (event : LogEvent) : Picks pick [] (Host.report event) := Adds.report rfl

theorem bind {x : HostM α} {f : α → HostM β} (first : Picks pick picked x)
    (second : ∀ a, Picks pick picked' (f a)) : Picks pick (picked' ++ picked) (x >>= f) := by
  refine Adds.bind first fun a new added => (second a).mono fun new' b added' => ?_
  rw [List.filterMap_append, added, added']

theorem then_silent {x : HostM α} {f : α → HostM β} (first : Picks pick picked x)
    (second : ∀ a, Picks pick [] (f a)) : Picks pick picked (x >>= f) := by
  simpa using first.bind second

theorem after_silent {x : HostM α} {f : α → HostM β} (first : Picks pick [] x)
    (second : ∀ a, Picks pick picked (f a)) : Picks pick picked (x >>= f) := by
  simpa using first.bind second

/-- A failure is reported at most. -/
theorem ignoring {x : HostM (Except ε α)} {f : Except ε α → HostM β} (first : Picks pick picked x)
    (ok : ∀ a, Picks pick [] (f (.ok a))) (error : ∀ e, Picks pick [] (f (.error e))) :
    Picks pick picked (x >>= f) := by
  refine first.then_silent fun outcome => ?_
  cases outcome with
  | ok a => exact ok a
  | error e => exact error e

theorem attempt {x : Attempt ε α} {f : α → Attempt ε β} (first : Picks pick picked x.run)
    (second : ∀ a, Picks pick [] (f a).run) : Picks pick picked (x >>= f).run :=
  Picks.ignoring (f := ExceptT.bindCont f) first second fun e => .pure (Except.error e)

theorem explain {x : Attempt ε α} {f : ε → HostM δ} (first : Picks pick picked x.run)
    (second : ∀ e, Picks pick [] (f e)) : Picks pick picked (GraphicsBuffers.explain x f).run :=
  first.ignoring (fun a => .pure (Except.ok a)) fun e =>
    (second e).then_silent fun d => .pure (Except.error d)

end Picks

/-! ## Minor computations -/

/-- Nothing that is needed fails, and nothing is published. -/
def Minor (x : HostM α) : Prop := Adds x fun new _ => failures new = [] ∧ published new = []

namespace Minor

theorem pure (a : α) : Minor (Pure.pure a) := Adds.pure ⟨rfl, rfl⟩

theorem report (event : LogEvent) : Minor (Host.report event) := Adds.report ⟨rfl, rfl⟩

theorem bind {x : HostM α} {f : α → HostM β} (first : Minor x) (second : ∀ a, Minor (f a)) :
    Minor (x >>= f) := by
  refine Adds.bind first fun a new added => (second a).mono fun new' b added' => ?_
  simp [added.1, added.2, added'.1, added'.2]

/-- A failure is reported at most. -/
theorem ignoring {x : HostM (Except ε α)} {f : Except ε α → HostM β} (first : Minor x)
    (ok : ∀ a, Minor (f (.ok a))) (error : ∀ e, Minor (f (.error e))) : Minor (x >>= f) := by
  refine first.bind fun outcome => ?_
  cases outcome with
  | ok a => exact ok a
  | error e => exact error e

end Minor

/-! ## Blame -/

/-- Every failure is the one that is answered. -/
def Blamed (errno : ε → Errno) (new : List TraceEntry) (outcome : Except ε α) : Prop :=
  ∀ e ∈ failures new, ∃ err, outcome = .error err ∧ errno err = e

/-- Whatever fails of what is needed, a computation fails with that. -/
def Blames (errno : ε → Errno) (x : Attempt ε α) : Prop := Adds x.run (Blamed errno)

section Blame

variable {errno : ε → Errno} {errno' : δ → Errno} {new new' : List TraceEntry} {outcome : Except ε α}

theorem Blamed.of_none (unfailed : failures new = []) (outcome : Except ε α) :
    Blamed errno new outcome :=
  fun _ mem => absurd mem (unfailed ▸ List.not_mem_nil)

/-- What follows without a failure is nothing to blame. -/
theorem Blamed.before (blamed : Blamed errno new outcome) (unfailed : failures new' = []) :
    Blamed errno (new' ++ new) outcome := by
  unfold Blamed
  rwa [failures_append, unfailed, List.nil_append]

theorem Blamed.after (blamed : Blamed errno new' outcome) (unfailed : failures new = []) :
    Blamed errno (new' ++ new) outcome := by
  unfold Blamed
  rwa [failures_append, unfailed, List.append_nil]

/-- What succeeds has not met with a failure. -/
theorem Blamed.none {a : α} (blamed : Blamed errno new (.ok a : Except ε α)) : failures new = [] := by
  rw [List.eq_nil_iff_forall_not_mem]
  intro e mem
  obtain ⟨err, ⟨⟩, -⟩ := blamed e mem

/-- A failure that is passed on keeps its number. -/
theorem Blamed.error {e : ε} (blamed : Blamed errno new (.error e : Except ε α)) {d : δ}
    (same : errno' d = errno e) : Blamed errno' new (.error d : Except δ β) := by
  intro e' mem
  obtain ⟨err, ⟨⟩, is⟩ := blamed e' mem
  exact ⟨d, rfl, same.trans is⟩

theorem Blamed.map (blamed : Blamed errno new outcome) (f : α → β) :
    Blamed errno new (outcome.map f) := by
  cases outcome with
  | error e => exact blamed.error rfl
  | ok a => exact .of_none blamed.none _

namespace Blames

theorem pure (outcome : Except ε α) : Blames errno (ExceptT.mk (Pure.pure outcome) : Attempt ε α) :=
  Adds.pure (.of_none rfl outcome)

theorem bind {x : Attempt ε α} {f : α → Attempt ε β} (first : Blames errno x)
    (second : ∀ a, Blames errno (f a)) : Blames errno (x >>= f) := by
  apply Adds.attempt first
  · intro a new blamed
    exact (second a).mono fun new' b blamed' => blamed'.after blamed.none
  · intro e new blamed
    exact blamed.error rfl

theorem lift {x : HostM α} (minor : Minor x) : Blames errno (liftM x : Attempt ε α) := by
  refine Adds.bind minor fun a new added => Adds.pure ?_
  exact .of_none added.1 _

/-- A failure that is explained keeps its number. -/
theorem explain {x : Attempt ε α} {f : ε → HostM δ} (first : Blames errno x)
    (told : ∀ e, Adds (f e) fun new d => failures new = [] ∧ errno' d = errno e) :
    Blames errno' (GraphicsBuffers.explain x f) := by
  apply Adds.explain first
  · intro a new blamed
    exact .of_none blamed.none _
  · intro e new blamed
    exact (told e).mono fun new' d added => (blamed.error added.2).before added.1

theorem passing {x : Attempt ε α} {f : ε → δ} (first : Blames errno x)
    (same : ∀ e, errno' (f e) = errno e) :
    Blames errno' (GraphicsBuffers.explain x fun e => (Pure.pure (f e) : HostM δ)) :=
  first.explain fun e => .pure ⟨rfl, same e⟩

theorem reporting {x : Attempt ε α} {event : ε → LogEvent} {f : ε → δ} (first : Blames errno x)
    (same : ∀ e, errno' (f e) = errno e) :
    Blames errno' (GraphicsBuffers.explain x fun e => do
      Host.report (event e)
      return f e) :=
  first.explain fun e => Adds.bind (P := fun new _ => failures new = []) (.report rfl)
    fun _ _ unfailed => .pure ⟨unfailed, same e⟩

end Blames

end Blame

/-! ## Calls -/

namespace Kernel

variable {k : Kernel}

/-- A call is recorded with what came of it. -/
theorem perform_trace {point : FaultPoint} {call : Call} {answer : α → Answer}
    {effect : Kernel → Except Errno (α × Kernel)}
    (same : ∀ k₁ a k₂, effect k₁ = .ok (a, k₂) → k₂.trace = k₁.trace) :
    (k.perform point call answer effect).2.trace =
      [.kernel call ((k.perform point call answer effect).1.map answer)] ++ k.trace := by
  have counted := (k.takeFault_unmoved point).trace
  unfold perform
  rcases taken : k.takeFault point with ⟨_ | e, k₁⟩ <;> rw [taken] at counted <;>
    dsimp only at counted ⊢
  · rcases eq : effect k₁ with e | ⟨a, k₂⟩
    · exact congrArg (List.cons _) counted
    · exact congrArg (List.cons _) ((same k₁ a k₂ eq).trans counted)
  · exact congrArg (List.cons _) counted

theorem control_trace {x : Exchange α} (told : x.Told) {fd : Int32} (watched : isWatched fd) :
    (k.control fd x.request x.argument).2.trace =
      [.kernel (.control fd x.request x.argument)
        ((k.control fd x.request x.argument).1.map (.reply ·.bytes))] ++ k.trace := by
  unfold control
  rw [watched]
  refine perform_trace fun k₁ reply k₂ eq => ?_
  split at eq
  · split at eq
    · exact (told fd k₁ k₂ _ _ reply eq).trace
    · cases eq
  · cases eq

end Kernel

/-- A control request is recorded with its outcome, if its file is watched. -/
theorem exchange_adds {x : Exchange α} (told : x.Told) (fd : Int32) :
    Adds (Host.exchange fd x).run fun new outcome =>
      (Kernel.isWatched fd = false ∧ new = []) ∨ ∃ reply : Except Errno Wire.Reply,
        new = [.kernel (.control fd x.request x.argument) (reply.map (.reply ·.bytes))] ∧
          outcome = reply.map x.answer := by
  intro h
  have run : (Host.exchange fd x).run h = _ := exchange_run x h
  unfold ExceptT.run at run ⊢
  rw [run]
  cases watched : Kernel.isWatched fd with
  | false =>
    refine ⟨[], ?_, .inl ⟨rfl, rfl⟩⟩
    simp [Kernel.control, watched]
  | true => exact ⟨_, Kernel.control_trace told watched, .inr ⟨_, rfl, rfl⟩⟩

theorem exchange_blames {x : Exchange α} (told : x.Told) (fd : Int32) :
    Blames id (Host.exchange fd x) := by
  refine (exchange_adds told fd).mono fun new outcome added => ?_
  obtain ⟨-, rfl⟩ | ⟨reply, rfl, rfl⟩ := added
  · exact .of_none rfl _
  · intro e mem
    have failed := error_of_failure mem
    cases reply with
    | ok reply => cases failed
    | error e' =>
      cases failed
      exact ⟨e, rfl, rfl⟩

theorem exchange_picks {π : Type} {pick : TraceEntry → Option π} {x : Exchange α} (told : x.Told) (fd : Int32)
    (other : ∀ outcome, pick (.kernel (.control fd x.request x.argument) outcome) = none) :
    Picks pick [] (Host.exchange fd x).run := by
  refine (exchange_adds told fd).mono fun new outcome added => ?_
  obtain ⟨-, rfl⟩ | ⟨reply, rfl, -⟩ := added
  · rfl
  · rw [List.filterMap_cons_none (other _), List.filterMap_nil]

/-- Only one request publishes a buffer. -/
theorem exchange_silent {x : Exchange α} (told : x.Told) (fd : Int32) (other : x.request ≠ .gemFlink) :
    Adds (Host.exchange fd x).run fun new _ => published new = [] := by
  refine (exchange_adds told fd).mono fun new outcome added => ?_
  obtain ⟨-, rfl⟩ | ⟨reply, rfl, -⟩ := added
  · rfl
  · revert other
    generalize x.request = request
    intro other
    cases request <;> first | exact absurd rfl other | cases reply <;> rfl

theorem exchange_minor {x : Exchange α} (told : x.Told) (fd : Int32)
    (unneeded : (Call.control fd x.request x.argument).needed = false)
    (other : x.request ≠ .gemFlink) : Minor (Host.exchange fd x).run := by
  refine ((exchange_adds told fd).both (exchange_silent told fd other)).mono fun new outcome added => ?_
  refine ⟨?_, added.2⟩
  obtain ⟨-, rfl⟩ | ⟨reply, rfl, -⟩ := added.1
  · rfl
  · exact failures_unneeded unneeded _

/-- A call that is recorded, if at all, with what came of it. -/
def Kernel.Recorded (call : Call) (answer : α → Answer) (f : Kernel → Except Errno α × Kernel) : Prop :=
  ∀ k : Kernel, (f k).2.trace = k.trace ∨
    (f k).2.trace = [.kernel call ((f k).1.map answer)] ++ k.trace

section Recorded

variable {call : Call} {answer : α → Answer} {f : Kernel → Except Errno α × Kernel}
  (recorded : Kernel.Recorded call answer f)
include recorded

theorem call_blames : Blames id (Host.call f) := by
  intro h
  rcases recorded h.kernel with trace | trace
  · exact ⟨[], trace, .of_none rfl _⟩
  · refine ⟨_, trace, fun e mem => ?_⟩
    have failed := error_of_failure mem
    rcases eq : f h.kernel with ⟨e' | a, k'⟩ <;> rw [eq] at failed <;> cases failed
    refine ⟨e, ?_, rfl⟩
    simp [Host.call, ExceptT.run, ExceptT.mk, eq]

theorem call_minor (unneeded : call.needed = false)
    (unnamed : ∀ outcome, published [.kernel call outcome] = []) : Minor (Host.call f).run := by
  intro h
  rcases recorded h.kernel with trace | trace
  · exact ⟨[], trace, rfl, rfl⟩
  · exact ⟨_, trace, failures_unneeded unneeded _, unnamed _⟩

theorem call_picks {π : Type} {pick : TraceEntry → Option π}
    (other : ∀ outcome, pick (.kernel call outcome) = none) : Picks pick [] (Host.call f).run := by
  intro h
  rcases recorded h.kernel with trace | trace
  · exact ⟨[], trace, rfl⟩
  · exact ⟨_, trace, List.filterMap_cons_none (other _)⟩

end Recorded

namespace Kernel

theorem descriptorFlags_recorded (fd : Int32) :
    Recorded (.descriptorFlags fd) (fun _ => .number 0) (·.descriptorFlags fd) := by
  intro k
  unfold descriptorFlags
  dsimp only
  split
  · exact .inl rfl
  split
  · exact .inl rfl
  · refine .inr (perform_trace fun k₁ _ k₂ eq => ?_)
    split at eq <;> cases eq
    rfl

theorem map_recorded (fd : Int32) (offset length : UInt64) (writable : Bool) :
    Recorded (.map fd offset length writable) .mapping (·.map fd offset length writable) := by
  intro k
  unfold map
  split
  · exact .inl rfl
  refine .inr (perform_trace fun k₁ _ k₂ eq => ?_)
  split at eq
  · cases eq
  split at eq
  · cases eq
  split at eq <;> cases eq
  rfl

theorem unmap_recorded (id : Nat) (length : UInt64) :
    Recorded (.unmap id length) (fun _ => .number 0) (·.unmap id length) := by
  intro k
  refine .inr (perform_trace fun k₁ _ k₂ eq => ?_)
  split at eq <;> cases eq
  rfl

theorem close_recorded (fd : Int32) : Recorded (.close fd) (fun _ => .number 0) (·.close fd) := by
  intro k
  unfold close
  split
  · refine .inr (perform_trace fun k₁ _ k₂ eq => ?_)
    split at eq
    · cases eq
      rfl
    · split at eq <;> cases eq
      rfl
  · exact .inl rfl

theorem seekEnd_recorded (fd : Int32) :
    Recorded (.seekEnd fd) (fun offset => .number offset.toInt) (·.seekEnd fd) := by
  intro k
  unfold seekEnd
  split
  · exact .inr rfl
  · exact .inl rfl

end Kernel

/-! ## Memory -/

theorem Mapping.map_blames (fd : Int32) (offset length : UInt64) (writable : Bool) :
    Blames MapError.errno (Mapping.map fd offset length writable) := by
  unfold Mapping.map
  split
  · exact .pure _
  · exact .bind (.passing (call_blames (Kernel.map_recorded fd offset length writable)) fun _ => rfl)
      fun _ => .pure _

theorem Mapping.unmap_minor (m : Mapping) : Minor m.unmap :=
  .ignoring (call_minor (Kernel.unmap_recorded m.id m.length) rfl fun _ => rfl) (fun _ => .pure _)
    fun _ => .report _

namespace Dumb

variable (fd : Int32)

theorem openPrime_blames (d : Descriptor) (dmabuf : Int32) :
    Blames BackendError.errno (openPrime fd d dmabuf) := by
  have sized : Blames BackendError.errno (dmaBufSize d dmabuf) := by
    refine .bind (.lift (call_minor (Kernel.seekEnd_recorded dmabuf) rfl fun _ => rfl)) fun outcome => ?_
    -- A dma-buf that does not tell its size is made up for by the descriptor.
    cases outcome <;> dsimp only
    case ok offset =>
      split
      · exact .pure _
      · split <;> exact .pure _
    case error e => split <;> exact .pure _
  refine .bind (.reporting (call_blames (Kernel.descriptorFlags_recorded dmabuf)) fun _ => rfl)
    fun _ => ?_
  refine .bind sized fun size => ?_
  exact .bind (.passing (exchange_blames (primeFdToHandle_told dmabuf) fd) fun _ => rfl) fun _ => .pure _

theorem openMemory_blames (d : Descriptor) (memory : MemoryRef) :
    Blames BackendError.errno (openMemory fd d memory) := by
  have finished (opened : UInt32 × UInt64) : Blames BackendError.errno (do
      Host.report (.objectOpened memory opened.1)
      return { handle := opened.1, size := opened.2, stride := d.stride, memory, imported := true } :
        Attempt BackendError BackendBuffer) :=
    .bind (.lift (.report _)) fun _ => .pure _
  cases memory with
  | name n =>
    have opened : Blames BackendError.errno (openName fd n) :=
      .bind (.passing (exchange_blames (gemOpen_told n) fd) fun _ => rfl) fun _ => .pure _
    exact opened.bind finished
  | prime dmabuf => exact (openPrime_blames fd d dmabuf).bind finished

theorem discard_minor (handle : UInt32) : Minor (discard fd handle) :=
  .ignoring (exchange_minor (destroyDumb_told handle) fd rfl nofun) (fun _ => .pure _) fun _ => .report _

theorem create_blames (d : Descriptor) : Blames BackendError.errno (create fd d) := by
  unfold create
  split
  · refine .bind (.passing (exchange_blames (createDumb_told _ _ _) fd) fun _ => rfl) fun dumb => ?_
    refine .bind (.explain (exchange_blames (gemFlink_uses dumb.handle).told fd) fun e => ?_)
      fun name => .pure _
    refine Adds.bind (Minor.report _) fun _ new added => ?_
    refine Adds.bind (discard_minor fd dumb.handle) fun _ new' added' => .pure ⟨?_, rfl⟩
    simp [added.1, added'.1]
  · exact .pure _

/-- A buffer that is published is answered, with its name. -/
theorem create_publishes (d : Descriptor) : Adds (create fd d).run fun new outcome =>
    ∀ name ∈ published new, ∃ b, outcome = .ok b ∧ b.memory = .name name := by
  have unnamed {new : List TraceEntry} {outcome : Except BackendError BackendBuffer}
      (none : published new = []) :
      ∀ name ∈ published new, ∃ b, outcome = .ok b ∧ b.memory = .name name :=
    fun name mem => absurd mem (none ▸ List.not_mem_nil)
  unfold create
  split
  · refine Adds.attempt (P := fun new _ => published new = []) ?_ (fun dumb new none => ?_)
      fun e new none => unnamed none
    · exact Adds.explain (exchange_silent (createDumb_told _ _ _) fd nofun) (fun _ _ silent => silent)
        fun _ _ silent => .pure silent
    · refine Adds.attempt (P := fun new outcome => ∀ name ∈ published new, outcome = .ok name) ?_
        (fun name new' named => .pure ?_) fun e new' named => ?_
      · refine Adds.explain (exchange_adds (gemFlink_uses dumb.handle).told fd) ?_ ?_
        · rintro name new (⟨-, rfl⟩ | ⟨reply | reply, rfl, answered⟩) name' mem
          · cases mem
          · cases mem
          · cases answered
            exact congrArg Except.ok (List.mem_singleton.1 mem).symm
        · intro e new added
          have silent : published new = [] := by
            obtain ⟨-, rfl⟩ | ⟨reply | reply, rfl, answered⟩ := added
            · rfl
            · rfl
            · cases answered
          refine Adds.bind (Minor.report _) fun _ new₁ added₁ => ?_
          refine Adds.bind (discard_minor fd dumb.handle) fun _ new₂ added₂ => .pure fun name mem => ?_
          simp [silent, added₁.2, added₂.2] at mem
      · intro name' mem
        have mem : name' ∈ published new' := by simpa [none] using mem
        cases named name' mem
        exact ⟨_, rfl, rfl⟩
      · intro name' mem
        have mem : name' ∈ published new' := by simpa [none] using mem
        cases named name' mem
  · exact .pure nofun

theorem allocate_blames (d : Descriptor) : Blames BackendError.errno (allocate fd d) := by
  unfold allocate
  split
  · exact openMemory_blames fd d _
  · exact create_blames fd d

theorem free_minor (b : BackendBuffer) : Minor (free fd b) := by
  have given : Minor (Host.exchange fd
      (if b.imported then .gemClose b.handle else .destroyDumb b.handle)).run := by
    split
    · exact exchange_minor (gemClose_told b.handle) fd rfl nofun
    · exact exchange_minor (destroyDumb_told b.handle) fd rfl nofun
  have handle : Minor (freeHandle fd b) := given.ignoring (fun _ => .pure _) fun _ => .report _
  unfold free
  cases b.mapping with
  | none => exact handle
  | some m => exact m.unmap_minor.bind fun _ => handle

theorem freeHandle_picks {π : Type} {pick : TraceEntry → Option π} (b : BackendBuffer)
    (closing : ∀ outcome, pick (.kernel (.control fd .gemClose (gemClose b.handle).argument) outcome) = none)
    (destroying : ∀ outcome,
      pick (.kernel (.control fd .destroyDumb (destroyDumb b.handle).argument) outcome) = none) :
    Picks pick [] (freeHandle fd b) := by
  unfold freeHandle
  dsimp only
  split
  · exact (exchange_picks (gemClose_told b.handle) fd closing).ignoring (fun _ => .pure _) fun _ => .report _
  · exact (exchange_picks (destroyDumb_told b.handle) fd destroying).ignoring (fun _ => .pure _)
      fun _ => .report _

theorem mapWhole_blames (b : BackendBuffer) : Blames BackendError.errno (mapWhole fd b) := by
  refine .bind (.passing (exchange_blames (mapDumb_uses b.handle).told fd) fun _ => rfl) fun offset => ?_
  exact .passing (Mapping.map_blames fd offset b.size true) fun _ => rfl

theorem map_blames (b : BackendBuffer) : Adds ((Dumb.map fd).run.run b) fun new result =>
    Blamed BackendError.errno new result.1 := by
  intro h
  obtain ⟨new, trace, blamed⟩ := mapWhole_blames fd b h
  rw [map_run]
  cases b.mapping with
  | some m => exact ⟨[], rfl, .of_none rfl _⟩
  | none =>
    unfold ExceptT.run at trace blamed
    dsimp only
    rcases eq : (mapWhole fd b).run h with ⟨e | m, h'⟩ <;>
      rw [show mapWhole fd b h = _ from eq] at trace blamed
    · exact ⟨new, trace, blamed.error rfl⟩
    · exact ⟨new, trace, .of_none blamed.none _⟩

end Dumb

end GraphicsBuffers

import GraphicsBuffers.Proofs.ClientLedger
import GraphicsBuffers.Proofs.Settlement

/-!
# Teardown

A client works in a world with its card served by the dumb-buffer backend, while calls of the kernel are
made to fail, those that give something back included. After every run that ends with the allocator
dropped and with all holds on objects and cards dropped, whatever the order, the trace is settled
(`Client.torn_down`): whatever was obtained has been given back once and in order, and no file descriptor
was closed other than those of the cards that were opened. Objects hold the card they are on, so if the
allocator is the last to go, the last call is that which closes its card (`Allocator.Kept.dispose_closes`).
-/

namespace GraphicsBuffers

namespace Client

variable {s : Surroundings} {fd : Int32} {l : Ledger} {c : Client}

/-! ## Holding nothing -/

/-- There are no objects when nobody holds any. -/
theorem InOrder.objects_empty (inOrder : c.InOrder) (allocator : c.allocator = none)
    (holds : c.holds = []) : c.process.objects.size = 0 := by
  refine List.length_eq_zero_iff.2 (List.eq_nil_iff_forall_not_mem.2 fun ⟨id, sh⟩ mem => ?_)
  have found : c.books.cells id = some sh.cell :=
    congrArg (Option.map Shared.cell) (Table.mem_entries.1 mem)
  -- Without an allocator the client's holds are all there are, and every object has a holder.
  have unregistered (key : MemoryRef) (e : Registration)
      (known : c.books.registrations key = some e) : e.object ≠ id := by
    rw [show c.books.registrations key = none by simp [books, registration?, allocator]] at known
    cases known
  obtain ⟨count, positive⟩ := inOrder.consistent.unregistered id _ found unregistered
  rw [show c.books.holds = [] from holds] at count
  exact absurd count (Nat.ne_of_gt positive)

/-- Nothing is held any more when nobody holds any object or card. -/
theorem Kept.bare (kept : c.Kept s fd l) (objects : c.process.objects.size = 0)
    (allocator : c.allocator = none) (cards : c.cards = []) (i : Item) : ¬l.Has i := by
  cases kept with
  | working kept => cases allocator
  | @retired p holds cards kept onCard =>
    cases cards
    rintro (⟨fd', card, rfl⟩ | ⟨handle, has⟩)
    · have closed := kept.counts.card
      rw [show p.objects.size = 0 from objects] at closed
      cases closed.symm.trans card
    · rw [kept.bare objects] at has
      cases i <;> simp [Holding.Has] at has

end Client

/-! ## What has happened -/

/-- What has happened to a kernel, the oldest event first. -/
def Kernel.history (k : Kernel) : List Event := (k.trace.map TraceEntry.event).reverse

/-- The card that a call is made on. -/
def Call.card? : Call → Option Int32
  | .close fd | .map fd .. | .control fd .. => some fd
  | _ => none

theorem Event.card_ofCall {call : Call} {fd : Int32} (on : call.card? = some fd)
    (outcome : Except Errno Answer) : (ofCall call outcome).card? = some fd := by
  cases call with
  | close => exact on
  | map =>
    cases on
    rcases outcome with _ | _ | _ | _ <;> rfl
  | control =>
    cases on
    simp only [ofCall, ofControl]
    split <;> rfl
  | _ => cases on

/-- All that was obtained from the kernel of the world `w` has been given back, and nothing else. -/
structure Kernel.TornDown (w : World) (k : Kernel) : Prop where
  settled : Settled k.history
  /-- No call is made on a card after the one that closes it. -/
  silent : ∀ {before after fd outcome},
    k.trace.reverse = before ++ .kernel (.close fd) outcome :: after →
      ∀ call outcome', .kernel call outcome' ∈ after → call.card? ≠ some fd
  /-- Nothing is closed but the cards that were opened: no dma-buf, in particular. -/
  spared : ∀ fd, .opened fd ∉ k.history → .closed fd ∉ k.history
  files : k.surroundings = w.surroundings

theorem Kernel.Audited.settled {k : Kernel} {s : Surroundings} {l : Ledger} (audited : k.Audited s l)
    (nothing : ∀ i, ¬l.Has i) : Settled k.history := audited.audit.settled nothing

theorem Kernel.Audited.tornDown {w : World} {k : Kernel} {l : Ledger}
    (audited : k.Audited w.surroundings l) (nothing : ∀ i, ¬l.Has i) : k.TornDown w where
  settled := audited.settled nothing
  silent {before after fd outcome} eq call outcome' mem on := by
    have split : k.history = before.map TraceEntry.event ++ .closed fd :: after.map TraceEntry.event := by
      rw [history, ← List.map_reverse, eq, List.map_append, List.map_cons]
      rfl
    have later : Event.ofCall call outcome' ∈ after.map TraceEntry.event := List.mem_map_of_mem mem
    exact (audited.settled nothing).card split _ later (Event.card_ofCall on outcome')
  spared fd unopened closed := by
    -- What was closed was an item of the ledger, and those that end are those that began.
    have ends : 0 < k.history.countP (·.ends = some (.card fd)) :=
      List.countP_pos_iff.2 ⟨_, closed, decide_eq_true rfl⟩
    rw [((audited.settled nothing).once (.card fd)).2] at ends
    obtain ⟨e, mem, begins⟩ := List.countP_pos_iff.1 ends
    cases e with
    | opened =>
      cases of_decide_eq_true begins
      exact unopened mem
    | _ => cases of_decide_eq_true begins
  files := audited.surroundings

/-! ## The card goes last -/

/-- The last call has been to close the file descriptor, whatever came of it. -/
def Kernel.ClosedLast (k : Kernel) (fd : Int32) : Prop :=
  ∃ outcome earlier, k.trace = .kernel (.close fd) outcome :: earlier

/-- The last holder of a card closes it. -/
theorem Host.Counts.release_closes {h : Host} {s : Surroundings} {l : Ledger} {fd : Int32} {card : Card}
    (counts : h.Counts l fd 1) (same : card.fd = fd) (audited : h.kernel.Audited s l) :
    (card.release.run h).2.kernel.ClosedLast fd := by
  subst same
  have watched := (audited.bears.card card.fd counts.card).1
  have count := counts.holders Nat.one_pos
  obtain ⟨outcome, closed⟩ := ((card.release_letGo h watched).alone (by rw [count]; rfl)).asked
  exact ⟨outcome, _, closed⟩

namespace Process

/-- Once there are no objects left, the last call has been to close the card. -/
def ClosesLast (fd : Int32) (p : Process) : Prop := p.objects.size = 0 → p.host.kernel.ClosedLast fd

namespace Kept

variable {p : Process} {s : Surroundings} {fd : Int32} {l : Ledger}

theorem cardReleased_closes (kept : p.Kept s fd 1 l) {card : Card} (same : card.fd = fd) :
    (p.after card.release).ClosesLast fd := by
  intro none
  have counts := kept.counts
  rw [show p.objects.size = 0 from none] at counts
  exact counts.release_closes same kept.audited

/-- The objects are the only holders of the card, so it goes with the last of them. -/
theorem released_closes (kept : p.Kept s fd 0 l) (closes : p.ClosesLast fd) (id : ObjectId) :
    (p.released id).ClosesLast fd := by
  obtain ⟨-, eq⟩ | ⟨o, n, held, eq⟩ | ⟨o, n, held, -, eq⟩ := p.released_cases id <;> rw [eq]
  · exact closes
  · intro none
    exact closes ((Table.size_insert_of_some _ held).symm.trans none)
  · obtain ⟨l', kept'⟩ := kept.destroyed held
    exact kept'.cardReleased_closes (kept.backed id _ held).card

theorem forM_release_closes {κ : Type} (entries : List (κ × Registration)) (kept : p.Kept s fd 0 l)
    (closes : p.ClosesLast fd) :
    ((entries.forM fun e => release e.2.object : ProcessM Unit).run p).2.ClosesLast fd := by
  induction entries generalizing p l with
  | nil => exact closes
  | cons e entries ih =>
    obtain ⟨l', kept'⟩ := kept.released e.2.object
    exact ih kept' (kept.released_closes closes e.2.object)

end Kept

end Process

/-- An allocator on an open card goes, and its client holds no cards: what remains of the process holds
the card, or the card has been closed last. -/
theorem Allocator.Kept.dispose_closes {s : Surroundings} {fd : Int32} {a : Allocator} {p : Process}
    {l : Ledger} (kept : a.Kept s fd [] p l) {r : Ready} (state : a.context.state = .ready r)
    (order : List MemoryRef) : ((Allocator.dispose order).run a p).2.ClosesLast r.card.fd := by
  have same := (kept.context.ready r state).1
  have process := kept.process
  rw [Context.holders, state] at process
  have dropped : p.after a.context.dispose = p.after r.card.release := by
    rw [Context.dispose, state]
  rw [dispose_run, clear_run, dropped, same]
  obtain ⟨l', process'⟩ := process.cardReleased same
  exact process'.forM_release_closes _ (process.cardReleased_closes same)

namespace Client

/-! ## After a run -/

/-- However a client has come to hold nothing any more, whichever buffer of its allocator went first, and
whatever has failed on the way, all that it obtained has been given back, once and in order. The usual
openers and the standard table are such as is asked for here (`Opener.ofConfig_tidy`,
`Opener.Tidy.reporting`, `BackendTable.standard_allDumb`). -/
theorem torn_down (w : World) (script : Script) {opener : Opener} (tidy : opener.Tidy)
    {table : BackendTable} (dumb : table.AllDumb) (calls : List Operation) :
    let c := (start (w.process script).host opener table).run calls
    c.allocator = none → c.holds = [] → c.cards = [] → c.process.host.kernel.TornDown w := by
  intro c allocator holds cards
  have inOrder : c.InOrder := (start_inOrder _ opener table).run calls
  obtain ⟨fd, l, kept⟩ : ∃ fd l, c.Kept w.surroundings fd l :=
    (start_kept w.kernel_audited tidy dumb 0).run calls
  obtain ⟨others, process⟩ := kept.process
  exact process.audited.tornDown
    (kept.bare (inOrder.objects_empty allocator holds) allocator cards)

/-- A world where another process has handed over a dma-buf, on a card with the driver `vkms`. -/
def sharing : World where
  cards := [{ driver := [118, 107, 109, 115] }]
  dmabufs := [{ fd := 2000, size := 4096 }]

/-- One buffer is displayed and locked for drawing, another comes from the dma-buf. Then nothing can be
given back any more, and everything is dropped, the allocator first and the imported buffer before the other. -/
def dismantling : List Operation :=
  let created : Descriptor :=
    { width := 16, height := 16, stride := 64, format := .rgba8888,
      usage := .hwFb ||| .swWriteOften, memory := some (.name 1) }
  let given : Descriptor := { created with usage := .swReadOften, memory := some (.prime 2000) }
  [.create 16 16 1 created.usage, .lock created .swWriteOften { width := 16, height := 16 },
   .register given, .hold created, .holdCard,
   .arm (.control .removeFb) [⟨.EBUSY, 0, none⟩], .arm .unmap [⟨.EBUSY, 0, none⟩],
   .arm (.control .gemClose) [⟨.EBUSY, 0, none⟩], .arm (.control .destroyDumb) [⟨.EBUSY, 0, none⟩],
   .arm .close [⟨.EBUSY, 0, none⟩],
   .dropAllocator [.prime 2000, .name 1], .drop 0, .dropCard ⟨1000, "/dev/dri/card0"⟩]

/-- The client that goes through that. -/
def dismantled : Client :=
  (start (sharing.process {}).host (Opener.ofConfig { path := "/dev/dri/card0" }).reporting
    .standard).run dismantling

theorem dismantled_torn_down :
    (dismantled.allocator = none ∧ dismantled.holds = [] ∧ dismantled.cards = []) ∧
      .mapped 1000 1 ⟨1, 4096⟩ ∈ dismantled.process.host.kernel.history ∧
      .obtained 1000 2 true ∈ dismantled.process.host.kernel.history ∧
      dismantled.process.host.kernel.TornDown sharing := by
  have allocator : dismantled.allocator = none := Option.isNone_iff_eq_none.1 (by decide +kernel)
  have holds : dismantled.holds = [] := by decide +kernel
  have cards : dismantled.cards = [] := by decide +kernel
  refine ⟨⟨allocator, holds, cards⟩, by decide +kernel, by decide +kernel, ?_⟩
  exact torn_down sharing {} (Opener.ofConfig_tidy { path := "/dev/dri/card0" }).reporting
    BackendTable.standard_allDumb dismantling allocator holds cards

end Client

end GraphicsBuffers

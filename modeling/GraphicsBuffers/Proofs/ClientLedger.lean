import GraphicsBuffers.Proofs.AllocatorLedger
import GraphicsBuffers.World

/-!
# Clients in the ledger

A client works in a world with its card served by the dumb-buffer backend, while calls of the kernel are
made to fail, those that give something back included. Every call leaves a ledger that is that of the
client (`Client.step_kept`), and so does every run from the start (`Client.start_kept`,
`Client.Kept.run`).
-/

namespace GraphicsBuffers

namespace Client

/-- The ledger `l` is that of a client. -/
inductive Kept (s : Surroundings) (fd : Int32) (l : Ledger) : Client → Prop
  | working {process allocator holds cards} (kept : allocator.Kept s fd cards process l) :
    Kept s fd l ⟨process, some allocator, holds, cards⟩
  | retired {process holds cards} (kept : process.Kept s fd cards.length l)
    (onCard : ∀ card ∈ cards, card.fd = fd) : Kept s fd l ⟨process, none, holds, cards⟩

/-- What is to be shown of a call: there is a ledger still. -/
def StaysKept {α : Type} (s : Surroundings) (result : α × Client) : Prop :=
  ∃ fd l, result.2.Kept s fd l

variable {α : Type} {s : Surroundings} {fd : Int32} {l : Ledger} {c : Client}

theorem Kept.process (kept : c.Kept s fd l) : ∃ others, c.process.Kept s fd others l := by
  cases kept with
  | working kept => exact ⟨_, kept.process⟩
  | retired kept => exact ⟨_, kept⟩

/-- Only the process and the holds on objects change. -/
theorem Kept.moved (kept : c.Kept s fd l) {p : Process} (holds : List ObjectId)
    (process : ∀ others, c.process.Kept s fd others l → ∃ l', p.Kept s fd others l')
    (size : p.objects.size ≤ c.process.objects.size) :
    ∃ fd l, ({ c with process := p, holds } : Client).Kept s fd l := by
  cases kept with
  | working kept =>
    obtain ⟨l', moved⟩ := process _ kept.process
    exact ⟨fd, l', .working (kept.moved moved size)⟩
  | retired kept onCard =>
    obtain ⟨l', moved⟩ := process _ kept
    exact ⟨fd, l', .retired moved onCard⟩

/-! ## Calls -/

section Parts

variable (kept : c.Kept s fd l)
include kept

theorem refused_kept (e : Error) : StaysKept s ((.error e, c) : Except Error Reply × Client) :=
  ⟨fd, l, kept⟩

theorem replying_kept {x : ExceptT Error AllocatorM α} {f : α → Reply}
    (keeps : ∀ (a : Allocator) p, a.Kept s fd c.cards p l → Allocator.StaysKept s c.cards (x.run.run a p)) :
    StaysKept s (replying f (c.onAllocator x)) := by
  cases kept with
  | retired kept onCard => exact ⟨fd, l, .retired kept onCard⟩
  | @working p a holds cards kept =>
    obtain ⟨fd', l', kept'⟩ := keeps a p kept
    exact ⟨fd', l', .working kept'⟩

theorem holding_kept {x : ExceptT Error AllocatorM ObjectId}
    (keeps : ∀ (a : Allocator) p, a.Kept s fd c.cards p l → Allocator.StaysKept s c.cards (x.run.run a p)) :
    StaysKept s (holding (c.onAllocator x)) := by
  cases kept with
  | retired kept onCard => exact ⟨fd, l, .retired kept onCard⟩
  | @working p a holds cards kept =>
    obtain ⟨fd', l', kept'⟩ := keeps a p kept
    unfold onAllocator
    dsimp only
    rcases eq : x.run.run a p with ⟨⟨e | id, a'⟩, p'⟩ <;> rw [eq] at kept' <;>
      exact ⟨fd', l', .working kept'⟩

theorem onObject_kept {id : ObjectId} {x : ExceptT Error ObjectM α} {f : α → Reply}
    {P : BufferObject → Except Error α → BufferObject → Prop}
    (stays : ∀ o : BufferObject, o.StaysBacked s fd (x.run.run o) (P o)) :
    StaysKept s (replying f (c.onObject id x)) := by
  unfold onObject
  split
  · exact kept.moved c.holds (fun others process => process.onObject id stays)
      (Nat.le_of_eq (Process.size_onObject c.process id x.run))
  · exact refused_kept kept _

theorem arm_kept (point : FaultPoint) (plan : FaultPlan) : StaysKept s (c.step (.arm point plan)) := by
  refine kept.moved c.holds (fun others process => ⟨l, ?_⟩) (Nat.le_refl _)
  have alike : c.process.host.kernel.Alike (c.process.host.kernel.armFaults point plan) :=
    ⟨_, _, _, _, _, rfl, rfl⟩
  exact process.hosted (process.audited.alike alike) rfl ⟨process.counts.card, process.counts.holders⟩

theorem script_kept (script : Script) : StaysKept s (c.step (.script script)) := by
  refine kept.moved c.holds (fun others process => ⟨l, ?_⟩) (Nat.le_refl _)
  exact process.hosted process.audited rfl ⟨process.counts.card, process.counts.holders⟩

theorem holdCard_kept : StaysKept s (c.step .holdCard) := by
  cases kept with
  | retired kept onCard => exact ⟨fd, l, .retired kept onCard⟩
  | @working p a holds cards kept =>
    unfold step onAllocator
    dsimp only
    rcases eq : newCard.run.run a p with ⟨⟨e | card, a'⟩, p'⟩ <;>
      obtain ⟨fd', l', kept'⟩ := kept.newCard eq <;> exact ⟨fd', l', .working kept'⟩

theorem dropAllocator_kept (order : List MemoryRef) : StaysKept s (c.step (.dropAllocator order)) := by
  cases kept with
  | retired kept onCard => exact ⟨fd, l, .retired kept onCard⟩
  | working kept =>
    obtain ⟨l', process⟩ := kept.dispose order
    exact ⟨fd, l', .retired process kept.onCard⟩

theorem share_kept (id : ObjectId) : StaysKept s (c.step (.share id)) := by
  unfold step
  dsimp only
  split
  · exact kept.moved (id :: c.holds) (fun _ process => ⟨l, process.shared id⟩)
      (Nat.le_of_eq (Process.size_share ..))
  · exact refused_kept kept _

theorem drop_kept (id : ObjectId) : StaysKept s (c.step (.drop id)) := by
  unfold step
  dsimp only
  split
  · exact kept.moved (c.holds.erase id) (fun _ process => process.released id)
      (Process.size_released_le ..)
  · exact refused_kept kept _

theorem dropCard_kept (card : Card) : StaysKept s (c.step (.dropCard card)) := by
  unfold step
  dsimp only
  split
  · next held =>
    have length := List.length_erase_of_mem held
    have positive := List.length_pos_of_mem held
    cases kept with
    | @working p a holds cards kept =>
      have count : cards.length + a.context.holders =
          (cards.erase card).length + a.context.holders + 1 := by
        dsimp only at length positive
        omega
      have process := kept.process
      rw [count] at process
      obtain ⟨l', released⟩ := process.cardReleased (kept.onCard card held)
      refine ⟨fd, l', .working ⟨released, ?_, kept.context, ?_⟩⟩
      · exact fun card' mem => kept.onCard card' (List.mem_of_mem_erase mem)
      · intro untried
        obtain ⟨-, none⟩ := kept.untried untried
        subst none
        cases held
    | @retired p holds cards kept onCard =>
      have count : cards.length = (cards.erase card).length + 1 := by
        dsimp only at length positive
        omega
      rw [count] at kept
      obtain ⟨l', released⟩ := kept.cardReleased (onCard card held)
      exact ⟨fd, l', .retired released fun card' mem => onCard card' (List.mem_of_mem_erase mem)⟩
  · exact refused_kept kept _

end Parts

/-! ## Runs -/

theorem step_kept (kept : c.Kept s fd l) (op : Operation) : StaysKept s (c.step op) := by
  cases op with
  | arm point plan => exact arm_kept kept point plan
  | script script => exact script_kept kept script
  | create width height raw usage =>
    exact replying_kept kept fun a p kept => Allocator.create_kept kept width height raw usage
  | register d => exact replying_kept kept fun a p kept => Allocator.register_kept kept d
  | unregister d => exact replying_kept kept fun a p kept => Allocator.unregister_kept kept d
  | dropLocal d => exact replying_kept kept fun a p kept => Allocator.dropLocal_kept kept d
  | lock d usage region =>
    exact replying_kept kept fun a p kept =>
      Allocator.onBuffer_kept kept d fun o => o.lock_backed usage region
  | lockPlanar d usage region =>
    exact replying_kept kept fun a p kept =>
      Allocator.onBuffer_kept kept d fun o => o.lockPlanar_backed usage region
  | unlock d => exact replying_kept kept fun a p kept => Allocator.unlock_kept kept d
  | planes d => exact replying_kept kept fun a p kept => Allocator.planes_kept kept d
  | hold d => exact holding_kept kept fun a p kept => Allocator.hold_kept kept d
  | ensureReady needDisplay =>
    exact replying_kept kept fun a p kept => Allocator.ensureReady_kept kept needDisplay
  | authMagic =>
    exact replying_kept kept fun a p kept =>
      Allocator.exchange_kept kept Wire.Exchange.getMagic_uses
  | authenticate magic =>
    exact replying_kept kept fun a p kept =>
      Allocator.exchange_kept kept (Wire.Exchange.authMagic_uses magic)
  | acquireMaster =>
    exact replying_kept kept fun a p kept =>
      Allocator.exchange_kept kept Wire.Exchange.setMaster_uses
  | releaseMaster =>
    exact replying_kept kept fun a p kept =>
      Allocator.exchange_kept kept Wire.Exchange.dropMaster_uses
  | holdCard => exact holdCard_kept kept
  | dropAllocator order => exact dropAllocator_kept kept order
  | createObject width height format usage =>
    exact holding_kept kept fun a p kept =>
      Allocator.newObject_kept kept fun r fd l onCard backend isOpen =>
        backend ▸ BufferObject.create_records onCard isOpen width height format usage
  | importObject d =>
    exact holding_kept kept fun a p kept =>
      Allocator.newObject_kept kept fun r fd l onCard backend isOpen =>
        backend ▸ BufferObject.importFrom_records onCard isOpen d
  | lockObject id usage region => exact onObject_kept kept fun o => o.lock_backed usage region
  | lockPlanarObject id usage region =>
    exact onObject_kept kept fun o => o.lockPlanar_backed usage region
  | unlockObject id => exact onObject_kept kept fun o => o.unlock_lifted_backed
  | attach id => exact onObject_kept kept fun o => o.attach_backed
  | share id => exact share_kept kept id
  | drop id => exact drop_kept kept id
  | dropCard card => exact dropCard_kept kept card

/-- Every run keeps a ledger. -/
theorem Kept.run (kept : c.Kept s fd l) (calls : List Operation) :
    ∃ fd l, (c.run calls).Kept s fd l := by
  induction calls generalizing c fd l with
  | nil => exact ⟨fd, l, kept⟩
  | cons op calls ih =>
    obtain ⟨fd', l', kept'⟩ := step_kept kept op
    exact ih kept'

end Client

/-! ## From the start -/

/-- The files open other than cards when a process starts. -/
def World.surroundings (w : World) : Surroundings := ⟨w.dmabufs, [0, 1, 2]⟩

theorem World.kernel_audited (w : World) : w.kernel.Audited w.surroundings {} := by
  have added (objects : List ForeignObject) (k : Kernel) (audited : k.Audited w.surroundings {}) :
      (objects.foldl World.addForeign k).Audited w.surroundings {} := by
    induction objects generalizing k with
    | nil => exact audited
    | cons o objects ih =>
      exact ih _ ⟨audited.audit, audited.spent, audited.cards, ⟨nofun, nofun⟩, audited.surroundings⟩
  exact added w.objects _ ⟨.start, nofun, Nat.le_refl _, ⟨nofun, nofun⟩, rfl⟩

namespace Client

variable {s : Surroundings} {fd : Int32} {l : Ledger} {c : Client}

theorem start_kept {host : Host} (audited : host.kernel.Audited s {}) {opener : Opener}
    (tidy : opener.Tidy) {table : BackendTable} (dumb : table.AllDumb) (fd : Int32) :
    (start host opener table).Kept s fd {} :=
  .working ⟨.unused audited fd, nofun, ⟨tidy, dumb, nofun⟩, fun _ => ⟨rfl, rfl⟩⟩

end Client

end GraphicsBuffers

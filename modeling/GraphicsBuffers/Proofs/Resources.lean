import GraphicsBuffers.World
import Mathlib.Data.Set.Insert
import Mathlib.Tactic.Tauto
/-!
# What the kernel has given out

Handles, framebuffers and mappings are the kernel's resources. `Kernel.Trades k A B k'` says that
between `k` and `k'` the resources of `A` were given back and those of `B` given out, and all others
stayed as they were: the frame is in the definition. What is given out is fresh. Every call of the
kernel trades, and a call that fails trades nothing.
-/

namespace GraphicsBuffers

/-- Something the kernel gives out and takes back. -/
inductive Resource
  | handle (handle : UInt32)
  | framebuffer (id : UInt32)
  | mapping (id : Nat)
  deriving DecidableEq

/-- The calls that give something back. -/
def FaultPoint.givesBack : FaultPoint → Bool
  | .unmap | .control .destroyDumb | .control .gemClose | .control .removeFb => true
  | _ => false

namespace Kernel

/-- The resources that are given out. -/
def live (k : Kernel) : Set Resource
  | .handle handle => k.handles.contains handle
  | .framebuffer id => id ∈ k.framebuffers
  | .mapping id => k.mappings.contains id

/-- Numbers that are given out are below the counters, and giving back is not made to fail. -/
structure Sound (k : Kernel) : Prop where
  handles : ∀ handle, k.handles.contains handle → handle.toNat < k.nextHandle
  framebuffers : ∀ id ∈ k.framebuffers, id.toNat < k.nextFramebuffer
  once : k.framebuffers.Nodup
  mappings : ∀ id, k.mappings.contains id → id < k.nextMapping
  spared : ∀ point, point.givesBack → k.faults.get? point = none

/-- The resources `A` are given back and `B` given out. -/
structure Trades (k : Kernel) (A B : Set Resource) (k' : Kernel) : Prop where
  sound : k'.Sound
  live : ∀ r, r ∈ k'.live ↔ (r ∈ k.live ∧ r ∉ A) ∨ r ∈ B
  fresh : ∀ r ∈ B, r ∈ k.live → r ∈ A

section Trades

variable {k k' k'' : Kernel} {A B C D F : Set Resource}

theorem Trades.trans (first : k.Trades A B k') (second : k'.Trades B C k'') : k.Trades A C k'' where
  sound := second.sound
  live r := by
    have := first.live r
    have := second.live r
    have := first.fresh r
    tauto
  fresh r new old := by
    have := first.live r
    have := second.fresh r new
    have := first.fresh r
    tauto

/-- What is not traded may be counted in. -/
theorem Trades.frame (trades : k.Trades A B k') (owned : F ⊆ k.live) (apart : ∀ r ∈ F, r ∉ A) :
    k.Trades (A ∪ F) (B ∪ F) k' where
  sound := trades.sound
  live r := by
    have := trades.live r
    have := @owned r
    have := apart r
    simp only [Set.mem_union]
    tauto
  fresh r new old := by
    have := trades.fresh r
    simp only [Set.mem_union] at new ⊢
    tauto

/-- A call that trades nothing keeps what one owns. -/
theorem Trades.keep (trades : k.Trades ∅ ∅ k') (owned : F ⊆ k.live) : k.Trades F F k' := by
  have := trades.frame owned fun _ _ => Set.notMem_empty _
  rwa [Set.empty_union] at this

theorem Trades.owned (trades : k.Trades A B k') : B ⊆ k'.live :=
  fun r new => (trades.live r).2 (.inr new)

theorem Trades.same (sound : k.Sound) (handles : k'.handles = k.handles)
    (nextHandle : k'.nextHandle = k.nextHandle) (framebuffers : k'.framebuffers = k.framebuffers)
    (nextFramebuffer : k'.nextFramebuffer = k.nextFramebuffer) (mappings : k'.mappings = k.mappings)
    (nextMapping : k'.nextMapping = k.nextMapping)
    (spared : ∀ point, point.givesBack → k'.faults.get? point = none) : k.Trades ∅ ∅ k' where
  sound := by
    refine ⟨?_, ?_, ?_, ?_, spared⟩
    · rw [handles, nextHandle]
      exact sound.handles
    · rw [framebuffers, nextFramebuffer]
      exact sound.framebuffers
    · rw [framebuffers]
      exact sound.once
    · rw [mappings, nextMapping]
      exact sound.mappings
  live r := by
    have : k'.live = k.live := by
      funext r
      cases r <;> simp only [Kernel.live, handles, framebuffers, mappings]
    simp [this]
  fresh r new := absurd new (Set.notMem_empty r)

end Trades

/-! ## What gives out and takes back -/

section Tables

variable {k k' : Kernel}

@[simp] theorem handle_mem_live {handle : UInt32} :
    .handle handle ∈ k.live ↔ k.handles.contains handle := Iff.rfl

@[simp] theorem framebuffer_mem_live {id : UInt32} :
    .framebuffer id ∈ k.live ↔ id ∈ k.framebuffers := Iff.rfl

@[simp] theorem mapping_mem_live {id : Nat} : .mapping id ∈ k.live ↔ k.mappings.contains id := Iff.rfl

theorem newHandle_trades (sound : k.Sound) {object : Nat} {handle : UInt32}
    (eq : k.newHandle object = .ok (handle, k')) : k.Trades ∅ {.handle handle} k' := by
  unfold newHandle at eq
  split at eq
  · next fits =>
    cases eq
    have number := UInt32.toNat_ofNat_of_lt' fits
    refine ⟨⟨fun handle given => ?_, sound.framebuffers, sound.once, sound.mappings, sound.spared⟩,
      fun r => ?_, fun r new old => ?_⟩
    · rcases (Table.contains_insert ..).1 given with rfl | given
      · exact Nat.lt_succ_of_le (Nat.le_of_eq number)
      · exact Nat.lt_succ_of_lt (sound.handles handle given)
    · cases r <;> simp [Table.contains_insert, or_comm]
    · obtain rfl := Set.mem_singleton_iff.1 new
      have := sound.handles _ old
      omega
  · cases eq

theorem dropHandle_trades (sound : k.Sound) {handle : UInt32}
    (eq : k.dropHandle? handle = some k') : k.Trades {.handle handle} ∅ k' := by
  obtain ⟨index, given, eq⟩ := Option.bind_eq_some_iff.1 eq
  cases eq
  refine ⟨⟨fun handle given => ?_, sound.framebuffers, sound.once, sound.mappings, sound.spared⟩,
    fun r => ?_, fun r new => absurd new (Set.notMem_empty r)⟩
  · exact sound.handles handle ((Table.contains_erase ..).1 given).2
  · cases r <;> simp [Table.contains_erase, and_comm]

theorem dropHandle_isSome {handle : UInt32} (given : .handle handle ∈ k.live) :
    (k.dropHandle? handle).isSome := by
  obtain ⟨index, given⟩ := Option.isSome_iff_exists.1 given
  rw [dropHandle?, given]
  rfl

theorem addFramebuffer_trades (sound : k.Sound) (fits : k.nextFramebuffer < UInt32.size) :
    k.Trades ∅ {.framebuffer (UInt32.ofNat k.nextFramebuffer)} { k with
      framebuffers := UInt32.ofNat k.nextFramebuffer :: k.framebuffers
      nextFramebuffer := k.nextFramebuffer + 1 } := by
  have number := UInt32.toNat_ofNat_of_lt' fits
  have new : UInt32.ofNat k.nextFramebuffer ∉ k.framebuffers := by
    intro old
    have := sound.framebuffers _ old
    omega
  refine ⟨⟨sound.handles, fun id given => ?_, List.nodup_cons.2 ⟨new, sound.once⟩, sound.mappings,
    sound.spared⟩, fun r => ?_, fun r new' old => ?_⟩
  · rcases List.mem_cons.1 given with rfl | given
    · exact Nat.lt_succ_of_le (Nat.le_of_eq number)
    · exact Nat.lt_succ_of_lt (sound.framebuffers id given)
  · cases r <;> simp [or_comm]
  · obtain rfl := Set.mem_singleton_iff.1 new'
    exact absurd old new

theorem removeFramebuffer_trades (sound : k.Sound) (id : UInt32) :
    k.Trades {.framebuffer id} ∅ { k with framebuffers := k.framebuffers.erase id } := by
  refine ⟨⟨sound.handles, fun id' given => ?_, sound.once.erase id, sound.mappings, sound.spared⟩,
    fun r => ?_, fun r new => absurd new (Set.notMem_empty r)⟩
  · exact sound.framebuffers id' (List.mem_of_mem_erase given)
  · cases r <;> simp [sound.once.mem_erase_iff, and_comm]

theorem addMapping_trades (sound : k.Sound) (range : MappedRange) :
    k.Trades ∅ {.mapping k.nextMapping} { k with
      mappings := k.mappings.insert k.nextMapping range
      nextMapping := k.nextMapping + 1 } := by
  refine ⟨⟨sound.handles, sound.framebuffers, sound.once, fun id given => ?_, sound.spared⟩,
    fun r => ?_, fun r new old => ?_⟩
  · rcases (Table.contains_insert ..).1 given with rfl | given
    · exact Nat.lt_succ_self _
    · exact Nat.lt_succ_of_lt (sound.mappings id given)
  · cases r <;> simp [Table.contains_insert, or_comm]
  · obtain rfl := Set.mem_singleton_iff.1 new
    exact absurd (sound.mappings _ old) (Nat.lt_irrefl _)

theorem removeMapping_trades (sound : k.Sound) (id : Nat) :
    k.Trades {.mapping id} ∅ { k with mappings := k.mappings.erase id } := by
  refine ⟨⟨sound.handles, sound.framebuffers, sound.once, fun id' given => ?_, sound.spared⟩,
    fun r => ?_, fun r new => absurd new (Set.notMem_empty r)⟩
  · exact sound.mappings id' ((Table.contains_erase ..).1 given).2
  · cases r <;> simp [Table.contains_erase, and_comm]

/-- Making a call fail that gives nothing back trades nothing. -/
theorem armFaults_trades (sound : k.Sound) {point : FaultPoint} (spared : point.givesBack = false)
    (plan : FaultPlan) : k.Trades ∅ ∅ (k.armFaults point plan) := by
  refine .same sound rfl rfl rfl rfl rfl rfl fun point' givesBack => ?_
  have ne : point' ≠ point := by
    rintro rfl
    rw [spared] at givesBack
    cases givesBack
  exact (Table.get?_insert_of_ne _ _ ne).trans (sound.spared point' givesBack)

/-! ## At the start -/

/-- A kernel that has not given out anything yet. -/
structure Fresh (k : Kernel) : Prop where
  handles : k.handles = .empty
  framebuffers : k.framebuffers = []
  mappings : k.mappings = .empty
  faults : k.faults = .empty

theorem Fresh.notMem_live (fresh : k.Fresh) (r : Resource) : r ∉ k.live := by
  cases r with
  | handle handle => simp [fresh.handles, Table.contains]
  | framebuffer fb => simp [fresh.framebuffers]
  | mapping m => simp [fresh.mappings, Table.contains]

theorem Fresh.sound (fresh : k.Fresh) : k.Sound where
  handles handle := by simp [fresh.handles, Table.contains]
  framebuffers := by simp [fresh.framebuffers]
  once := by simp [fresh.framebuffers]
  mappings m := by simp [fresh.mappings, Table.contains]
  spared point _ := by simp [fresh.faults]

end Tables

end Kernel

theorem World.kernel_fresh (w : World) : w.kernel.Fresh := by
  have added (objects : List ForeignObject) (k : Kernel) (fresh : k.Fresh) :
      (objects.foldl World.addForeign k).Fresh := by
    induction objects generalizing k with
    | nil => exact fresh
    | cons o objects ih =>
      exact ih _ ⟨fresh.handles, fresh.framebuffers, fresh.mappings, fresh.faults⟩
  exact added w.objects _ ⟨rfl, rfl, rfl, rfl⟩

end GraphicsBuffers

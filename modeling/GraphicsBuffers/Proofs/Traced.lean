import GraphicsBuffers.Proofs.Records
/-!
# What the trace says of a kernel

The trace of a kernel tells what is there: a handle, a framebuffer or a mapping is there exactly if a
recorded call made it and none has given it back with success (`Kernel.Traced`). Numbers are given out
once, so nothing that is gone comes back (`Kernel.Older`). Every call keeps both and adds to the trace
(`Kernel.Leads`), whatever failures are set up: what each of them does is said by `Kernel.Enacts`, and
`perform_leads` is the one place where calls that fail are treated.
-/

namespace GraphicsBuffers

open Wire Wire.Exchange

/-! ## Recorded calls -/

/-- What the events of the trace call a resource. -/
def Resource.item : Resource → Item
  | .handle n => .handle n
  | .framebuffer n => .framebuffer n
  | .mapping n => .mapping n

/-- Whether a recorded call was answered. -/
def TraceEntry.succeeded : TraceEntry → Bool
  | .kernel _ (.ok _) => true
  | _ => false

/-- The call made a resource. -/
def TraceEntry.Makes (entry : TraceEntry) (r : Resource) : Prop := entry.event.begins = some r.item

/-- The call gave a resource back, and the kernel took it. -/
def TraceEntry.Returns (entry : TraceEntry) (r : Resource) : Prop :=
  entry.succeeded ∧ entry.event.ends = some r.item

/-- Some recorded call made the resource. -/
def Made (trace : List TraceEntry) (r : Resource) : Prop := ∃ entry ∈ trace, entry.Makes r

/-- Some recorded call gave the resource back. -/
def Returned (trace : List TraceEntry) (r : Resource) : Prop := ∃ entry ∈ trace, entry.Returns r

section Lists

variable {entry : TraceEntry} {trace trace' : List TraceEntry} {r : Resource}

theorem made_cons : Made (entry :: trace) r ↔ entry.Makes r ∨ Made trace r := by simp [Made]

theorem returned_cons : Returned (entry :: trace) r ↔ entry.Returns r ∨ Returned trace r := by
  simp [Returned]

theorem made_append : Made (trace ++ trace') r ↔ Made trace r ∨ Made trace' r := by
  simp [Made, or_and_right, exists_or]

theorem returned_append : Returned (trace ++ trace') r ↔ Returned trace r ∨ Returned trace' r := by
  simp [Returned, or_and_right, exists_or]

end Lists

namespace Kernel

/-! ## Kernels and their traces -/

/-- What there is was made and has not been given back, by what the trace says. -/
structure Traced (k : Kernel) : Prop where
  live : ∀ r, r ∈ k.live ↔ Made k.trace r ∧ ¬Returned k.trace r
  spent : ∀ r, Made k.trace r → k.Spent r.item
  returned : ∀ r, Returned k.trace r → Made k.trace r
  once : k.framebuffers.Nodup

/-- Of what was numbered before, nothing has come back or has been replaced. -/
structure Older (k k' : Kernel) : Prop where
  handles : ∀ handle place, handle.toNat < k.nextHandle → k'.handles.get? handle = some place →
    k.handles.get? handle = some place
  mappings : ∀ id range, id < k.nextMapping → k'.mappings.get? id = some range →
    k.mappings.get? id = some range
  nextHandle : k.nextHandle ≤ k'.nextHandle
  nextFramebuffer : k.nextFramebuffer ≤ k'.nextFramebuffer
  nextMapping : k.nextMapping ≤ k'.nextMapping

/-- Calls of a process lead from one state of the kernel to another. -/
structure Leads (k k' : Kernel) : Prop where
  trace : k.trace <:+ k'.trace
  older : k.Older k'
  traced : k.Traced → k'.Traced

/-- What a call that is recorded so does to the kernel. -/
structure Enacts (k : Kernel) (entry : TraceEntry) (k' : Kernel) : Prop where
  trace : k'.trace = k.trace
  older : k.Older k'
  makes : ∀ r, entry.Makes r → ¬k.Spent r.item ∧ k'.Spent r.item
  returns : ∀ r, entry.Returns r → r ∈ k.live
  live : k.framebuffers.Nodup → ∀ r, r ∈ k'.live ↔ (r ∈ k.live ∧ ¬entry.Returns r) ∨ entry.Makes r
  once : k.framebuffers.Nodup → (∀ id ∈ k.framebuffers, id.toNat < k.nextFramebuffer) →
    k'.framebuffers.Nodup

section Kernels

variable {k k' k'' : Kernel} {entry : TraceEntry}

theorem Older.refl (k : Kernel) : k.Older k :=
  ⟨fun _ _ _ => id, fun _ _ _ => id, Nat.le_refl _, Nat.le_refl _, Nat.le_refl _⟩

theorem Older.trans (first : k.Older k') (second : k'.Older k'') : k.Older k'' where
  handles handle place old there :=
    first.handles handle place old (second.handles handle place (old.trans_le first.nextHandle) there)
  mappings id range old there :=
    first.mappings id range old (second.mappings id range (old.trans_le first.nextMapping) there)
  nextHandle := first.nextHandle.trans second.nextHandle
  nextFramebuffer := first.nextFramebuffer.trans second.nextFramebuffer
  nextMapping := first.nextMapping.trans second.nextMapping

theorem Older.spent (older : k.Older k') {r : Resource} (spent : k.Spent r.item) :
    k'.Spent r.item := by
  have := older.nextHandle
  have := older.nextFramebuffer
  have := older.nextMapping
  cases r <;> simp only [Resource.item, Spent] at spent ⊢ <;> omega

theorem Leads.refl (k : Kernel) : k.Leads k := ⟨List.suffix_rfl, .refl k, id⟩

theorem Leads.trans (first : k.Leads k') (second : k'.Leads k'') : k.Leads k'' :=
  ⟨first.trace.trans second.trace, first.older.trans second.older,
    fun traced => second.traced (first.traced traced)⟩

/-- Nothing has changed that the trace tells of. -/
structure Unmoved (k k' : Kernel) : Prop where
  handles : k'.handles = k.handles
  framebuffers : k'.framebuffers = k.framebuffers
  mappings : k'.mappings = k.mappings
  nextHandle : k'.nextHandle = k.nextHandle
  nextFramebuffer : k'.nextFramebuffer = k.nextFramebuffer
  nextMapping : k'.nextMapping = k.nextMapping
  trace : k'.trace = k.trace

namespace Unmoved

variable (unmoved : k.Unmoved k')
include unmoved

theorem older : k.Older k' := by
  constructor
  · intro handle place _ there
    rwa [unmoved.handles] at there
  · intro id range _ there
    rwa [unmoved.mappings] at there
  · exact unmoved.nextHandle.ge
  · exact unmoved.nextFramebuffer.ge
  · exact unmoved.nextMapping.ge

theorem live : k'.live = k.live := by
  funext r
  cases r <;> simp only [Kernel.live, unmoved.handles, unmoved.framebuffers, unmoved.mappings]

theorem leads : k.Leads k' := by
  constructor
  · exact unmoved.trace ▸ List.suffix_rfl
  · exact unmoved.older
  · intro traced
    constructor
    · rw [unmoved.live, unmoved.trace]
      exact traced.live
    · intro r made
      rw [unmoved.trace] at made
      exact unmoved.older.spent (traced.spent r made)
    · rw [unmoved.trace]
      exact traced.returned
    · rw [unmoved.framebuffers]
      exact traced.once

/-- A call that neither makes anything nor gives anything back. -/
theorem enacts (makes : ∀ r, ¬entry.Makes r) (returns : ∀ r, ¬entry.Returns r) :
    k.Enacts entry k' := by
  constructor
  · exact unmoved.trace
  · exact unmoved.older
  · intro r does
    exact absurd does (makes r)
  · intro r does
    exact absurd does (returns r)
  · intro _ r
    rw [unmoved.live]
    simp [makes r, returns r]
  · intro once _
    rwa [unmoved.framebuffers]

end Unmoved

theorem Unmoved.refl (k : Kernel) : k.Unmoved k := ⟨rfl, rfl, rfl, rfl, rfl, rfl, rfl⟩

/-- Once it is recorded, what a call did is told by the trace. -/
theorem Enacts.leads (enacts : k.Enacts entry k') : k.Leads (k'.record entry) := by
  have trace : (k'.record entry).trace = entry :: k.trace := by rw [record, enacts.trace]
  have older : k.Older (k'.record entry) :=
    ⟨enacts.older.handles, enacts.older.mappings, enacts.older.nextHandle,
      enacts.older.nextFramebuffer, enacts.older.nextMapping⟩
  constructor
  · rw [trace]
    exact List.suffix_cons ..
  · exact older
  · intro traced
    have spent (r : Resource) (there : r ∈ k.live) : k.Spent r.item :=
      traced.spent r ((traced.live r).1 there).1
    constructor
    · intro r
      have live : r ∈ (k'.record entry).live ↔ _ := enacts.live traced.once r
      rw [live, trace, made_cons, returned_cons, traced.live r]
      -- What is made now was not made before, let alone given back.
      have new (makes : entry.Makes r) : ¬Made k.trace r := fun made =>
        (enacts.makes r makes).1 (traced.spent r made)
      have there (returns : entry.Returns r) : Made k.trace r :=
        ((traced.live r).1 (enacts.returns r returns)).1
      have returned := traced.returned r
      tauto
    · intro r made
      rw [trace, made_cons] at made
      rcases made with makes | made
      · exact (enacts.makes r makes).2
      · exact older.spent (traced.spent r made)
    · intro r returned
      rw [trace, returned_cons] at returned
      rw [trace, made_cons]
      rcases returned with returns | returned
      · exact .inr ((traced.live r).1 (enacts.returns r returns)).1
      · exact .inr (traced.returned r returned)
    · exact enacts.once traced.once fun id there => spent (.framebuffer id) there

/-! ## Calls -/

theorem takeFault_unmoved (k : Kernel) (point : FaultPoint) : k.Unmoved (k.takeFault point).2 := by
  unfold takeFault
  split <;> exact ⟨rfl, rfl, rfl, rfl, rfl, rfl, rfl⟩

/-- A call that fails makes nothing and gives nothing back. -/
theorem failed_enacts (k : Kernel) {call : Call} {e : Errno}
    (none : ∀ r : Resource, (Event.ofCall call (.error e)).begins ≠ some r.item) :
    k.Enacts (.kernel call (.error e)) k :=
  (Unmoved.refl k).enacts none fun _ returns => nomatch returns.1

/-- A call fails without effect, or has the effect that is recorded. -/
theorem perform_leads {α : Type} {point : FaultPoint} {call : Call} {answer : α → Answer}
    {effect : Kernel → Except Errno (α × Kernel)}
    (failed : ∀ e (r : Resource), (Event.ofCall call (.error e)).begins ≠ some r.item)
    (done : ∀ k₁ a k₂, effect k₁ = .ok (a, k₂) → k₁.Enacts (.kernel call (.ok (answer a))) k₂) :
    k.Leads (k.perform point call answer effect).2 := by
  have counted := (k.takeFault_unmoved point).leads
  unfold perform
  rcases taken : k.takeFault point with ⟨_ | e, k₁⟩ <;> rw [taken] at counted <;>
    dsimp only at counted ⊢
  · rcases eq : effect k₁ with e | ⟨a, k₂⟩
    · exact counted.trans (k₁.failed_enacts (failed e)).leads
    · exact counted.trans (done k₁ a k₂ eq).leads
  · exact counted.trans (k₁.failed_enacts (failed e)).leads

/-! ## What calls do -/

/-- A new handle on an object, which may be new as well. -/
theorem obtained_enacts {k : Kernel} {entry : TraceEntry} {fd : Int32} {imported : Bool}
    (room : k.nextHandle < UInt32.size) (objects : List MemoryObject) (place : Nat)
    (event : entry.event = .obtained fd (.ofNat k.nextHandle) imported) :
    k.Enacts entry (({ k with objects } : Kernel).withHandle place) := by
  have number := UInt32.toNat_ofNat_of_lt' room
  have makes (r : Resource) : entry.Makes r ↔ r = .handle (.ofNat k.nextHandle) := by
    rw [TraceEntry.Makes, event]
    cases r <;> simp [Event.begins, Resource.item, eq_comm]
  have returns (r : Resource) : ¬entry.Returns r := by
    rw [TraceEntry.Returns, event]
    rintro ⟨-, ⟨⟩⟩
  constructor
  · rfl
  · constructor
    · intro handle place' old there
      refine (Table.get?_insert_of_ne _ _ ?_).symm.trans there
      rintro rfl
      exact absurd old (Nat.not_lt.2 number.ge)
    · exact fun _ _ _ there => there
    · exact Nat.le_succ _
    · exact Nat.le_refl _
    · exact Nat.le_refl _
  · intro r does
    obtain rfl := (makes r).1 does
    simp [Resource.item, Spent, withHandle, number]
  · exact fun r does => absurd does (returns r)
  · intro _ r
    simp only [makes, returns, not_false_eq_true, and_true]
    cases r <;> simp [withHandle, Table.contains_insert, or_comm]
  · exact fun once _ => once

/-- A handle is given back. -/
theorem released_enacts {k k' : Kernel} {entry : TraceEntry} {fd : Int32} {handle : UInt32}
    {imported : Bool} (dropped : k.dropHandle? handle = some k')
    (event : entry.event = .released fd handle imported) (succeeded : entry.succeeded) :
    k.Enacts entry k' := by
  obtain ⟨index, given, eq⟩ := Option.bind_eq_some_iff.1 dropped
  cases eq
  have makes (r : Resource) : ¬entry.Makes r := by
    rw [TraceEntry.Makes, event]
    nofun
  have returns (r : Resource) : entry.Returns r ↔ r = .handle handle := by
    rw [TraceEntry.Returns, event]
    cases r <;> simp [Event.ends, Resource.item, succeeded, eq_comm]
  constructor
  · rfl
  · constructor
    · intro handle' place' _ there
      rw [Table.get?_erase] at there
      split at there
      · cases there
      · exact there
    · exact fun _ _ _ there => there
    · exact Nat.le_refl _
    · exact Nat.le_refl _
    · exact Nat.le_refl _
  · exact fun r does => absurd does (makes r)
  · intro r does
    obtain rfl := (returns r).1 does
    simp [Table.contains, given]
  · intro _ r
    simp only [makes, returns, or_false]
    cases r <;> simp [Table.contains_erase, and_comm]
  · exact fun once _ => once

/-- A new framebuffer. -/
theorem attached_enacts {k : Kernel} {entry : TraceEntry} {fd : Int32} {handle : UInt32}
    (room : k.nextFramebuffer < UInt32.size)
    (event : entry.event = .attached fd handle (.ofNat k.nextFramebuffer)) :
    k.Enacts entry { k with
      framebuffers := .ofNat k.nextFramebuffer :: k.framebuffers
      nextFramebuffer := k.nextFramebuffer + 1 } := by
  have number := UInt32.toNat_ofNat_of_lt' room
  have makes (r : Resource) : entry.Makes r ↔ r = .framebuffer (.ofNat k.nextFramebuffer) := by
    rw [TraceEntry.Makes, event]
    cases r <;> simp [Event.begins, Resource.item, eq_comm]
  have returns (r : Resource) : ¬entry.Returns r := by
    rw [TraceEntry.Returns, event]
    rintro ⟨-, ⟨⟩⟩
  constructor
  · rfl
  · constructor
    · exact fun _ _ _ there => there
    · exact fun _ _ _ there => there
    · exact Nat.le_refl _
    · exact Nat.le_succ _
    · exact Nat.le_refl _
  · intro r does
    obtain rfl := (makes r).1 does
    simp [Resource.item, Spent, number]
  · exact fun r does => absurd does (returns r)
  · intro _ r
    simp only [makes, returns, not_false_eq_true, and_true]
    cases r <;> simp [or_comm]
  · intro once below
    refine List.nodup_cons.2 ⟨fun there => ?_, once⟩
    have := below _ there
    omega

/-- A framebuffer is removed. -/
theorem detached_enacts {k : Kernel} {entry : TraceEntry} {fd : Int32} {id : UInt32}
    (there : id ∈ k.framebuffers) (event : entry.event = .detached fd id)
    (succeeded : entry.succeeded) :
    k.Enacts entry { k with framebuffers := k.framebuffers.erase id } := by
  have makes (r : Resource) : ¬entry.Makes r := by
    rw [TraceEntry.Makes, event]
    nofun
  have returns (r : Resource) : entry.Returns r ↔ r = .framebuffer id := by
    rw [TraceEntry.Returns, event]
    cases r <;> simp [Event.ends, Resource.item, succeeded, eq_comm]
  constructor
  · rfl
  · constructor
    · exact fun _ _ _ there => there
    · exact fun _ _ _ there => there
    · exact Nat.le_refl _
    · exact Nat.le_refl _
    · exact Nat.le_refl _
  · exact fun r does => absurd does (makes r)
  · intro r does
    obtain rfl := (returns r).1 does
    exact there
  · intro once r
    simp only [makes, returns, or_false]
    cases r <;> simp [once.mem_erase_iff, and_comm]
  · exact fun once _ => once.erase id

end Kernels

/-! ## Calls that are not control requests -/

section Calls

variable (k : Kernel) (fd : Int32)

/-- A call that means nothing for what is held. -/
theorem other_leads {entry : TraceEntry} (other : entry.event = .other) :
    k.Leads (k.record entry) := by
  refine ((Unmoved.refl k).enacts (fun r does => ?_) fun r does => ?_).leads
  · rw [TraceEntry.Makes, other] at does
    cases does
  · rw [TraceEntry.Returns, other] at does
    cases does.2

theorem readProcFb_leads : k.Leads k.readProcFb.2 := by
  apply other_leads
  cases k.procFb <;> rfl

theorem openProcFb_leads : k.Leads k.openProcFb.2 := by
  have read := k.readProcFb_leads
  unfold openProcFb
  rcases eq : k.readProcFb with ⟨_ | _, k₁⟩ <;> rw [eq] at read
  · exact read
  · dsimp only
    split
    · exact read.trans (Unmoved.leads ⟨rfl, rfl, rfl, rfl, rfl, rfl, rfl⟩)
    · exact read

theorem openCard_leads (path : String) : k.Leads (k.openCard path).2 := by
  unfold openCard
  split
  · exact k.openProcFb_leads
  split
  · split
    · exact perform_leads (fun _ _ => nofun) nofun
    · exact .refl k
  · refine perform_leads (fun _ _ => nofun) fun k₁ fd k₂ eq => ?_
    dsimp only at eq
    split at eq
    · cases eq
    · split at eq <;> cases eq
      refine Unmoved.enacts ⟨rfl, rfl, rfl, rfl, rfl, rfl, rfl⟩ (fun r does => ?_) fun r does => ?_
      · cases r <;> cases does
      · cases does.2

theorem close_leads : k.Leads (k.close fd).2 := by
  unfold close
  split
  · refine perform_leads (fun _ _ begins => by cases begins) fun k₁ _ k₂ eq => ?_
    have unmoved : k₁.Unmoved k₂ := by
      split at eq
      · cases eq
        exact ⟨rfl, rfl, rfl, rfl, rfl, rfl, rfl⟩
      · split at eq <;> cases eq
        exact ⟨rfl, rfl, rfl, rfl, rfl, rfl, rfl⟩
    refine unmoved.enacts (fun r does => by cases does) fun r does => ?_
    cases r <;> cases does.2
  · exact Unmoved.leads ⟨rfl, rfl, rfl, rfl, rfl, rfl, rfl⟩

theorem descriptorFlags_leads : k.Leads (k.descriptorFlags fd).2 := by
  unfold descriptorFlags
  split
  · exact .refl k
  split
  · exact .refl k
  · refine perform_leads (fun _ _ begins => by cases begins) fun k₁ _ k₂ eq => ?_
    split at eq <;> cases eq
    exact (Unmoved.refl k₁).enacts (fun r does => by cases does) fun r does => by cases does.2

theorem seekEnd_leads : k.Leads (k.seekEnd fd).2 := by
  unfold seekEnd
  split
  · apply other_leads
    cases k.endOfDmaBuf fd <;> rfl
  · exact .refl k

theorem map_leads (offset length : UInt64) (writable : Bool) :
    k.Leads (k.map fd offset length writable).2 := by
  unfold map
  split
  · exact .refl k
  refine perform_leads (fun _ _ begins => by cases begins) fun k₁ id k₂ eq => ?_
  split at eq
  · cases eq
  split at eq
  · cases eq
  split at eq <;> cases eq
  generalize entry : TraceEntry.kernel _ _ = made
  have makes (r : Resource) : made.Makes r ↔ r = .mapping k₁.nextMapping := by
    subst entry
    cases r <;> simp [TraceEntry.Makes, TraceEntry.event, Event.ofCall, Event.begins, Resource.item,
      eq_comm]
  have returns (r : Resource) : ¬made.Returns r := by
    subst entry
    exact fun does => by cases does.2
  constructor
  · rfl
  · constructor
    · exact fun _ _ _ there => there
    · intro id range old there
      exact (Table.get?_insert_of_ne _ _ (Nat.ne_of_lt old)).symm.trans there
    · exact Nat.le_refl _
    · exact Nat.le_refl _
    · exact Nat.le_succ _
  · intro r does
    obtain rfl := (makes r).1 does
    simp [Resource.item, Spent]
  · exact fun r does => absurd does (returns r)
  · intro _ r
    simp only [makes, returns, not_false_eq_true, and_true]
    cases r <;> simp [Table.contains_insert, or_comm]
  · exact fun once _ => once

theorem unmap_leads (id : Nat) (length : UInt64) : k.Leads (k.unmap id length).2 := by
  refine perform_leads (fun _ _ begins => by cases begins) fun k₁ _ k₂ eq => ?_
  split at eq
  · next there =>
    cases eq
    generalize entry : TraceEntry.kernel _ _ = removed
    have makes (r : Resource) : ¬removed.Makes r := by
      subst entry
      exact fun does => by cases does
    have returns (r : Resource) : removed.Returns r ↔ r = .mapping id := by
      subst entry
      cases r <;> simp [TraceEntry.Returns, TraceEntry.succeeded, TraceEntry.event, Event.ofCall,
        Event.ends, Resource.item, eq_comm]
    constructor
    · rfl
    · constructor
      · exact fun _ _ _ there => there
      · intro id' range _ there
        rw [Table.get?_erase] at there
        split at there
        · cases there
        · exact there
      · exact Nat.le_refl _
      · exact Nat.le_refl _
      · exact Nat.le_refl _
    · exact fun r does => absurd does (makes r)
    · intro r does
      obtain rfl := (returns r).1 does
      exact there
    · intro _ r
      simp only [makes, returns, or_false]
      cases r <;> simp [Table.contains_erase, and_comm]
    · exact fun once _ => once
  · cases eq

end Calls

end Kernel

/-! ## Exchanges -/

namespace Wire.Exchange

variable {α : Type}

/-- Serving the exchange does what the trace tells of it. -/
def Told (x : Exchange α) : Prop :=
  ∀ (fd : Int32) (k k' : Kernel) index node reply,
    k.serve index node x.request x.argument = .ok (reply, k') →
      k.Enacts (.kernel (.control fd x.request x.argument) (.ok (.reply reply.bytes))) k'

/-- A request that fails makes nothing. -/
theorem makes_nothing (x : Exchange α) (fd : Int32) (e : Errno) (r : Resource) :
    (Event.ofCall (.control fd x.request x.argument) (.error e)).begins ≠ some r.item := by
  unfold Event.ofCall
  generalize x.request = request
  cases request <;> nofun

theorem Told.leads {x : Exchange α} (told : x.Told) (k : Kernel) (fd : Int32) :
    k.Leads (k.control fd x.request x.argument).2 := by
  unfold Kernel.control
  split
  · exact .refl k
  · refine Kernel.perform_leads (x.makes_nothing fd) fun k₁ reply k₂ eq => ?_
    split at eq
    · split at eq
      · exact told fd k₁ k₂ _ _ reply eq
      · cases eq
    · cases eq

theorem Uses.told {x : Exchange α} (uses : x.Uses) : x.Told := by
  intro fd k k' index node reply eq
  have event : TraceEntry.event (.kernel (.control fd x.request x.argument)
      (.ok (.reply reply.bytes))) = .used fd := uses.event fd _
  obtain ⟨_, _, _, _, _, rfl, -⟩ := uses.alike k k' index node reply eq
  refine Kernel.Unmoved.enacts ⟨rfl, rfl, rfl, rfl, rfl, rfl, rfl⟩ (fun r does => ?_) fun r does => ?_
  · rw [TraceEntry.Makes, event] at does
    cases does
  · rw [TraceEntry.Returns, event] at does
    cases does.2

theorem createDumb_told (width height bpp : UInt32) : (createDumb width height bpp).Told := by
  intro fd k k' index node reply eq
  obtain ⟨room, -, answer, rfl⟩ := createDumb_served eq
  have number : read32 reply.bytes 16 = .ofNat k.nextHandle := congrArg DumbBuffer.handle answer
  exact Kernel.obtained_enacts room _ _ (congrArg (Event.obtained fd · false) number)

theorem gemOpen_told (name : UInt32) : (gemOpen name).Told := by
  intro fd k k' index node reply eq
  obtain ⟨place, object, -, room, answer, rfl⟩ := gemOpen_served eq
  have number : read32 reply.bytes 4 = .ofNat k.nextHandle := congrArg GemObject.handle answer
  exact Kernel.obtained_enacts room k.objects place (congrArg (Event.obtained fd · true) number)

theorem primeFdToHandle_told (dmabuf : Int32) : (primeFdToHandle dmabuf).Told := by
  intro fd k k' index node reply eq
  obtain ⟨shared, -, room, answer, rfl⟩ := primeFdToHandle_served eq
  have number : read32 reply.bytes 0 = .ofNat k.nextHandle := answer
  exact Kernel.obtained_enacts room _ _ (congrArg (Event.obtained fd · true) number)

theorem addFb2_told (width height : UInt32) (format : Fourcc) (layout : PlaneLayout) :
    (addFb2 width height format layout).Told := by
  intro fd k k' index node reply eq
  obtain ⟨room, answer, rfl⟩ := addFb2_served eq
  have number : read32 reply.bytes 0 = .ofNat k.nextFramebuffer := answer
  exact Kernel.attached_enacts room (congrArg (Event.attached fd _) number)

theorem destroyDumb_told (handle : UInt32) : (destroyDumb handle).Told := by
  intro fd k k' index node reply eq
  have number : read32 (destroyDumb handle).argument 0 = handle := read32_word32 handle []
  have dropped : k.dropHandle? handle = some k' := by
    unfold Kernel.serve at eq
    dsimp only [destroyDumb] at eq number
    rw [number] at eq
    cases gone : k.dropHandle? handle <;> rw [gone] at eq <;> cases eq
    rfl
  exact Kernel.released_enacts dropped (congrArg (Event.released fd · false) number) rfl

theorem gemClose_told (handle : UInt32) : (gemClose handle).Told := by
  intro fd k k' index node reply eq
  have number : read32 (gemClose handle).argument 0 = handle := read32_word32 handle _
  have dropped : k.dropHandle? handle = some k' := by
    unfold Kernel.serve at eq
    dsimp only [gemClose] at eq number
    rw [number] at eq
    cases gone : k.dropHandle? handle <;> rw [gone] at eq <;> cases eq
    rfl
  exact Kernel.released_enacts dropped (congrArg (Event.released fd · true) number) rfl

theorem removeFb_told (id : UInt32) : (removeFb id).Told := by
  intro fd k k' index node reply eq
  have number : read32 (removeFb id).argument 0 = id := read32_word32 id []
  unfold Kernel.serve at eq
  dsimp only [removeFb] at eq number
  rw [number] at eq
  split at eq
  · next there =>
    cases eq
    exact Kernel.detached_enacts (List.contains_iff_mem.1 there) (congrArg (Event.detached fd) number)
      rfl
  · cases eq

end Wire.Exchange

end GraphicsBuffers

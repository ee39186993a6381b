import GraphicsBuffers.Proofs.Ledger
import GraphicsBuffers.Proofs.Replies

/-!
# The ledger of a kernel

`Kernel.Audited` ties a kernel to the ledger that its trace comes to: what is held according to the
ledger is there, and the numbers that have been given out are below the counters, so that what begins is
new. Every call keeps this, whatever failures are set up, and comes to an event that may come next
(`Kernel.Enters`).
-/

namespace GraphicsBuffers

open Wire

/-- The files that a process has open other than cards. -/
structure Surroundings where
  dmabufs : List DmaBuf
  ordinaryFiles : List Int32

namespace Kernel

/-- The files open other than cards. -/
def surroundings (k : Kernel) : Surroundings := ⟨k.dmabufs, k.ordinaryFiles⟩

/-- Whether a number has been given out. -/
def Spent (k : Kernel) : Item → Prop
  | .card fd => fd.toInt < k.nextFd
  | .handle handle => handle.toNat < k.nextHandle
  | .framebuffer id => id.toNat < k.nextFramebuffer
  | .mapping id => id < k.nextMapping

/-- A handle is there, with what is held with it. -/
structure Keeps (k : Kernel) (handle : UInt32) (a : Holding) : Prop where
  object : ∃ place object, k.held? handle = some (place, object) ∧ object.size = a.size
  framebuffer : ∀ id, a.framebuffer = some id → id ∈ k.framebuffers
  mapping : ∀ m, a.mapping = some m → ∃ range, k.mappings.get? m.id = some range ∧
    range.length = m.length ∧ range.writable

/-- What is held is there. -/
structure Bears (k : Kernel) (l : Ledger) : Prop where
  card : ∀ fd, l.card = some fd → isWatched fd ∧ k.files.contains fd
  holding : ∀ handle a, l.holdings handle = some a → k.Keeps handle a

/-- The trace of a kernel comes to a ledger, and what is held is there. -/
structure Audited (k : Kernel) (s : Surroundings) (l : Ledger) : Prop where
  audit : Audit (k.trace.map TraceEntry.event) l
  spent : ∀ e ∈ k.trace.map TraceEntry.event, ∀ i, e.begins = some i → k.Spent i
  /-- The lower numbers are for ordinary files. -/
  cards : 1000 ≤ k.nextFd
  bears : k.Bears l
  surroundings : k.surroundings = s

/-- What has happened to a kernel comes to an event that may come next, and takes one ledger to
another. -/
structure Enters (k : Kernel) (l : Ledger) (e : Event) (k' : Kernel) (l' : Ledger) : Prop where
  posts : l.Posts e l'
  bears : k'.Bears l'
  fresh : ∀ i, e.begins = some i → ¬k.Spent i ∧ k'.Spent i
  spent : ∀ i, k.Spent i → k'.Spent i
  cards : k.nextFd ≤ k'.nextFd
  trace : k'.trace = k.trace
  surroundings : k'.surroundings = k.surroundings

/-- Nothing has changed that is ever held. -/
def Alike (k k' : Kernel) : Prop :=
  ∃ cards objects names nextName faults,
    k' = { k with cards, objects, names, nextName, faults } ∧
      objects.map (·.size) = k.objects.map (·.size)

variable {k k' : Kernel} {s : Surroundings} {l l' : Ledger} {e : Event} {fd : Int32}
  {handle : UInt32} {a : Holding}

/-! ## What is still there -/

theorem Keeps.later (keeps : k.Keeps handle a)
    (given : k'.handles.get? handle = k.handles.get? handle)
    (sizes : ∀ (place : Nat) (object : MemoryObject), k.objects[place]? = some object →
      ∃ object', k'.objects[place]? = some object' ∧ object'.size = object.size)
    (framebuffers : ∀ id, a.framebuffer = some id → id ∈ k.framebuffers → id ∈ k'.framebuffers)
    (mappings : ∀ m, a.mapping = some m → k'.mappings.get? m.id = k.mappings.get? m.id) :
    k'.Keeps handle a where
  object := by
    obtain ⟨place, object, held, size⟩ := keeps.object
    obtain ⟨known, found⟩ := (held_eq_some k).1 held
    obtain ⟨object', found', same⟩ := sizes place object found
    exact ⟨place, object', (held_eq_some k').2 ⟨given.trans known, found'⟩, same.trans size⟩
  framebuffer id has := framebuffers id has (keeps.framebuffer id has)
  mapping m has := by
    obtain ⟨range, known, rest⟩ := keeps.mapping m has
    exact ⟨range, (mappings m has).trans known, rest⟩

theorem Keeps.alike (keeps : k.Keeps handle a) (alike : k.Alike k') : k'.Keeps handle a := by
  obtain ⟨cards, objects, names, nextName, faults, rfl, sizes⟩ := alike
  refine keeps.later rfl (fun place object found => ?_) (fun _ _ => id) fun _ _ => rfl
  have same := congrArg (·[place]?) sizes
  simp only [List.getElem?_map, found, Option.map_some] at same
  exact Option.map_eq_some_iff.1 same

theorem Alike.refl (k : Kernel) : k.Alike k := ⟨_, _, _, _, _, rfl, rfl⟩

theorem Bears.alike (bears : k.Bears l) (alike : k.Alike k') : k'.Bears l where
  card := by
    obtain ⟨_, _, _, _, _, rfl, -⟩ := alike
    exact bears.card
  holding handle a held := (bears.holding handle a held).alike alike

/-- What is held with one handle changes, and what is held with others is still there. -/
theorem Bears.set (bears : k.Bears l) {a : Option Holding} (files : k'.files = k.files)
    (self : ∀ x, a = some x → k'.Keeps handle x)
    (others : ∀ handle' x, handle' ≠ handle → l.holdings handle' = some x → k.Keeps handle' x →
      k'.Keeps handle' x) : k'.Bears (l.set handle a) where
  card fd card := files ▸ bears.card fd card
  holding handle' x held := by
    by_cases eq : handle' = handle
    · subst eq
      rw [Ledger.set_holdings_self] at held
      exact self x held
    · rw [Ledger.set_holdings_of_ne _ eq] at held
      exact others handle' x eq held (bears.holding handle' x held)

/-- An event that begins nothing, while the kernel stays as it is. -/
theorem Enters.same (posts : l.Posts e l') (bears : k.Bears l') (begins : e.begins = none) :
    k.Enters l e k l' :=
  ⟨posts, bears, fun i eq => (Option.some_ne_none i (eq.symm.trans begins)).elim, fun _ => id,
    Nat.le_refl _, rfl, rfl⟩

namespace Audited

theorem alike (audited : k.Audited s l) (alike : k.Alike k') : k'.Audited s l := by
  have bears := audited.bears.alike alike
  obtain ⟨_, _, _, _, _, rfl, -⟩ := alike
  exact ⟨audited.audit, audited.spent, audited.cards, bears, audited.surroundings⟩

/-- Once it is recorded, what has happened is part of the trace. -/
theorem record (audited : k.Audited s l) {entry : TraceEntry}
    (enters : k.Enters l entry.event k' l') : (k'.record entry).Audited s l' where
  audit := by
    have trace : (k'.record entry).trace.map TraceEntry.event =
        entry.event :: k.trace.map TraceEntry.event := by
      rw [Kernel.record, List.map_cons, enters.trace]
    rw [trace]
    exact audited.audit.post enters.posts fun i begins e mem eq =>
      (enters.fresh i begins).1 (audited.spent e mem i eq)
  spent := by
    rw [Kernel.record, List.map_cons, enters.trace]
    refine List.forall_mem_cons.2 ⟨fun i begins => (enters.fresh i begins).2, ?_⟩
    exact fun e mem i begins => enters.spent i (audited.spent e mem i begins)
  cards := audited.cards.trans enters.cards
  bears := ⟨enters.bears.card, fun handle a held =>
    let keeps := enters.bears.holding handle a held
    ⟨keeps.object, keeps.framebuffer, keeps.mapping⟩⟩
  surroundings := enters.surroundings.trans audited.surroundings

/-- The number of what is held has been given out. -/
theorem spent_of_has (audited : k.Audited s l) {i : Item} (has : l.Has i) : k.Spent i := by
  obtain ⟨e, mem, begins⟩ := audited.audit.begun_of_has has
  exact audited.spent e mem i begins

/-- A number that has not been given out is not held. -/
theorem free (audited : k.Audited s l) (new : ¬k.Spent (.handle handle)) :
    l.holdings handle = none := by
  by_contra held
  exact new (audited.spent_of_has (Ledger.has_handle.2 (Option.ne_none_iff_exists'.1 held)))

theorem takeFault (audited : k.Audited s l) (point : FaultPoint) :
    (k.takeFault point).2.Audited s l := by
  unfold Kernel.takeFault
  split
  · exact audited
  · exact audited.alike ⟨_, _, _, _, _, rfl, rfl⟩

end Audited

/-! ## Calls -/

/-- A call fails, or has its effect, and is recorded as it came out. -/
theorem perform_audited {α : Type} {point : FaultPoint} {call : Call} {answer : α → Answer}
    {effect : Kernel → Except Errno (α × Kernel)} {Q : Except Errno α → Ledger → Prop}
    (audited : k.Audited s l)
    (failed : ∀ (k₁ : Kernel) e, k₁.Audited s l →
      ∃ l', k₁.Enters l (.ofCall call (.error e)) k₁ l' ∧ Q (.error e) l')
    (done : ∀ (k₁ : Kernel) a k₂, k₁.Audited s l → effect k₁ = .ok (a, k₂) →
      ∃ l', k₁.Enters l (.ofCall call (.ok (answer a))) k₂ l' ∧ Q (.ok a) l') :
    ∃ l', (k.perform point call answer effect).2.Audited s l' ∧
      Q (k.perform point call answer effect).1 l' := by
  have audited₁ := audited.takeFault point
  unfold perform
  rcases taken : k.takeFault point with ⟨_ | e, k₁⟩ <;> rw [taken] at audited₁ <;>
    dsimp only at audited₁ ⊢
  · rcases eq : effect k₁ with e | ⟨a, k₂⟩
    · obtain ⟨l', enters, holds⟩ := failed k₁ e audited₁
      exact ⟨l', audited₁.record enters, holds⟩
    · obtain ⟨l', enters, holds⟩ := done k₁ a k₂ audited₁ eq
      exact ⟨l', audited₁.record enters, holds⟩
  · obtain ⟨l', enters, holds⟩ := failed k₁ e audited₁
    exact ⟨l', audited₁.record enters, holds⟩

/-- A call that comes to the same ledger however it comes out. -/
theorem perform_enters {α : Type} {point : FaultPoint} {call : Call} {answer : α → Answer}
    {effect : Kernel → Except Errno (α × Kernel)} (audited : k.Audited s l)
    (failed : ∀ (k₁ : Kernel) e, k₁.Audited s l → k₁.Enters l (.ofCall call (.error e)) k₁ l')
    (done : ∀ (k₁ : Kernel) a k₂, k₁.Audited s l → effect k₁ = .ok (a, k₂) →
      k₁.Enters l (.ofCall call (.ok (answer a))) k₂ l') :
    (k.perform point call answer effect).2.Audited s l' := by
  have entered : ∃ l'', (k.perform point call answer effect).2.Audited s l'' ∧ l'' = l' :=
    perform_audited (Q := fun _ l'' => l'' = l') audited
      (fun k₁ e audited₁ => ⟨l', failed k₁ e audited₁, rfl⟩)
      fun k₁ a k₂ audited₁ eq => ⟨l', done k₁ a k₂ audited₁ eq, rfl⟩
  obtain ⟨_, audited', rfl⟩ := entered
  exact audited'

/-- A control request to the card fails, or is served, and is recorded as it came out. -/
theorem control_audited {request : Request} {argument : Bytes}
    {Q : Except Errno Wire.Reply → Ledger → Prop} (audited : k.Audited s l) (card : l.card = some fd)
    (failed : ∀ (k₁ : Kernel) e, k₁.Audited s l →
      ∃ l', k₁.Enters l (.ofControl fd request argument (.error e)) k₁ l' ∧ Q (.error e) l')
    (done : ∀ (k₁ : Kernel) index node reply k₂, k₁.Audited s l →
      k₁.serve index node request argument = .ok (reply, k₂) →
        ∃ l', k₁.Enters l (.ofControl fd request argument (.ok (.reply reply.bytes))) k₂ l' ∧
          Q (.ok reply) l') :
    ∃ l', (k.control fd request argument).2.Audited s l' ∧
      Q (k.control fd request argument).1 l' := by
  unfold control
  rw [(audited.bears.card fd card).1]
  refine perform_audited audited failed fun k₁ reply k₂ audited₁ eq => ?_
  split at eq
  · split at eq
    · exact done k₁ _ _ reply k₂ audited₁ eq
    · cases eq
  · cases eq

/-! ## What happens -/

section Events

variable (card : l.card = some fd)
include card

theorem Enters.used (bears : k.Bears l) (alike : k.Alike k') : k.Enters l (.used fd) k' l := by
  have bears' := bears.alike alike
  obtain ⟨_, _, _, _, _, rfl, -⟩ := alike
  exact ⟨.used card, bears', nofun, fun _ => id, Nat.le_refl _, rfl, rfl⟩

/-- A new handle on an object, which may be new as well. -/
theorem Enters.obtained (audited : k.Audited s l) (room : k.nextHandle < UInt32.size)
    {objects : List MemoryObject} (more : k.objects <+: objects) {place : Nat}
    {object : MemoryObject} (found : objects[place]? = some object) (imported : Bool) :
    l.holdings (.ofNat k.nextHandle) = none ∧
      k.Enters l (.obtained fd (.ofNat k.nextHandle) imported)
        (({ k with objects } : Kernel).withHandle place)
        (l.set (.ofNat k.nextHandle) (some { imported, size := object.size })) := by
  have number := UInt32.toNat_ofNat_of_lt' room
  have new : ¬k.Spent (.handle (.ofNat k.nextHandle)) := by simp [Spent, number]
  have free := audited.free new
  refine ⟨free, .turned card (free ▸ .obtained), ?_, ?_, ?_, Nat.le_refl _, rfl, rfl⟩
  · refine audited.bears.set rfl ?_ fun handle x ne held keeps => ?_
    · rintro _ ⟨⟩
      exact ⟨⟨place, object, (held_eq_some _).2 ⟨Table.get?_insert_self .., found⟩, rfl⟩, nofun,
        nofun⟩
    · obtain ⟨rest, rfl⟩ := more
      refine keeps.later (Table.get?_insert_of_ne _ _ ne) (fun place object found => ?_)
        (fun _ _ => id) fun _ _ => rfl
      have below : place < k.objects.length := (List.getElem?_eq_some_iff.1 found).1
      exact ⟨object, (List.getElem?_append_left below).trans found, rfl⟩
  · rintro _ ⟨⟩
    exact ⟨new, by simp [Spent, withHandle, number]⟩
  · rintro (fd | handle | id | id) spent <;> simp only [Spent, withHandle] at spent ⊢ <;> omega

/-- A handle is given back, whether or not the kernel takes it. -/
theorem Enters.released (bears : k.Bears l) {imported : Bool} {size : UInt64}
    (held : l.holdings handle = some { imported, size })
    (same : k' = k ∨ k.dropHandle? handle = some k') :
    k.Enters l (.released fd handle imported) k' (l.set handle none) := by
  have posts : l.Posts (.released fd handle imported) (l.set handle none) :=
    .turned card (held ▸ .released)
  obtain rfl | dropped := same
  · exact .same posts (bears.set rfl nofun fun _ _ _ _ => id) rfl
  · obtain ⟨index, -, eq⟩ := Option.bind_eq_some_iff.1 dropped
    cases eq
    refine ⟨posts, ?_, nofun, fun _ => id, Nat.le_refl _, rfl, rfl⟩
    refine bears.set rfl nofun fun handle' x ne held keeps => ?_
    refine keeps.later (Table.get?_erase_of_ne _ ne) (fun place object found => ?_)
      (fun _ _ => id) fun _ _ => rfl
    exact ⟨object, found, rfl⟩

/-- A new framebuffer over the memory of a handle. -/
theorem Enters.attached (audited : k.Audited s l) (room : k.nextFramebuffer < UInt32.size)
    (held : l.holdings handle = some a) (free : a.framebuffer = none) :
    k.Enters l (.attached fd handle (.ofNat k.nextFramebuffer))
      { k with
        framebuffers := .ofNat k.nextFramebuffer :: k.framebuffers
        nextFramebuffer := k.nextFramebuffer + 1 }
      (l.set handle (some { a with framebuffer := some (.ofNat k.nextFramebuffer) })) := by
  have number := UInt32.toNat_ofNat_of_lt' room
  refine ⟨.turned card (held ▸ .attached free), ?_, ?_, ?_, Nat.le_refl _, rfl, rfl⟩
  · refine audited.bears.set rfl ?_ fun handle' x ne held keeps => ?_
    · rintro _ ⟨⟩
      obtain ⟨object, framebuffer, mapping⟩ := audited.bears.holding handle a held
      refine ⟨object, ?_, mapping⟩
      rintro _ ⟨⟩
      exact List.mem_cons_self
    · exact keeps.later rfl (fun _ object found => ⟨object, found, rfl⟩)
        (fun _ _ => List.mem_cons_of_mem _) fun _ _ => rfl
  · rintro _ ⟨⟩
    simp [Spent, number]
  · rintro (fd | handle | id | id) spent <;> simp only [Spent] at spent ⊢ <;> omega

/-- A framebuffer is removed, whether or not the kernel does it. -/
theorem Enters.detached (audited : k.Audited s l) {id : UInt32}
    (held : l.holdings handle = some a) (has : a.framebuffer = some id)
    (same : k' = k ∨ k' = { k with framebuffers := k.framebuffers.erase id }) :
    k.Enters l (.detached fd id) k' (l.set handle (some { a with framebuffer := none })) := by
  have posts : l.Posts (.detached fd id) (l.set handle (some { a with framebuffer := none })) :=
    .turned card (held ▸ .detached has)
  obtain ⟨object, framebuffer, mapping⟩ := audited.bears.holding handle a held
  obtain rfl | rfl := same
  · refine .same posts (audited.bears.set rfl ?_ fun _ _ _ _ keeps => keeps) rfl
    rintro _ ⟨⟩
    exact ⟨object, nofun, mapping⟩
  · refine ⟨posts, ?_, nofun, fun _ spent => spent, Nat.le_refl _, rfl, rfl⟩
    refine audited.bears.set rfl ?_ fun handle' x ne held' keeps => ?_
    · rintro _ ⟨⟩
      exact ⟨object, nofun, mapping⟩
    · refine keeps.later rfl (fun _ object found => ⟨object, found, rfl⟩) (fun id' has' mem => ?_)
        fun _ _ => rfl
      -- No other handle has the same framebuffer.
      refine (List.mem_erase_of_ne ?_).2 mem
      rintro rfl
      exact ne (audited.audit.sole (.framebuffer id') _ _ ⟨x, held', has'⟩ ⟨a, held, has⟩)

/-- A new mapping of the memory of a handle, which may be written. -/
theorem Enters.mapped (audited : k.Audited s l) (range : MappedRange) (writable : range.writable)
    (held : l.holdings handle = some a) (free : a.mapping = none) :
    k.Enters l (.mapped fd handle ⟨k.nextMapping, range.length⟩)
      { k with
        mappings := k.mappings.insert k.nextMapping range
        nextMapping := k.nextMapping + 1 }
      (l.set handle (some { a with mapping := some ⟨k.nextMapping, range.length⟩ })) := by
  refine ⟨.turned card (held ▸ .mapped free), ?_, ?_, ?_, Nat.le_refl _, rfl, rfl⟩
  · refine audited.bears.set rfl ?_ fun handle' x ne held' keeps => ?_
    · rintro _ ⟨⟩
      obtain ⟨object, framebuffer, -⟩ := audited.bears.holding handle a held
      refine ⟨object, framebuffer, ?_⟩
      rintro _ ⟨⟩
      exact ⟨range, Table.get?_insert_self .., rfl, writable⟩
    · refine keeps.later rfl (fun _ object found => ⟨object, found, rfl⟩) (fun _ _ mem => mem)
        fun m has => Table.get?_insert_of_ne _ _ ?_
      have old : k.Spent (.mapping m.id) :=
        audited.spent_of_has (.inr ⟨handle', x, held', m, has, rfl⟩)
      exact Nat.ne_of_lt old
  · rintro _ ⟨⟩
    simp [Spent]
  · rintro (fd | handle | id | id) spent <;> simp only [Spent] at spent ⊢ <;> omega

/-- A mapping is removed, whether or not the kernel does it. -/
theorem Enters.unmapped (audited : k.Audited s l) {m : Mapping} (held : l.holdings handle = some a)
    (has : a.mapping = some m) (same : k' = k ∨ k' = { k with mappings := k.mappings.erase m.id }) :
    k.Enters l (.unmapped m) k' (l.set handle (some { a with mapping := none })) := by
  have posts : l.Posts (.unmapped m) (l.set handle (some { a with mapping := none })) :=
    .turned card (held ▸ .unmapped has)
  obtain ⟨object, framebuffer, mapping⟩ := audited.bears.holding handle a held
  obtain rfl | rfl := same
  · refine .same posts (audited.bears.set rfl ?_ fun _ _ _ _ keeps => keeps) rfl
    rintro _ ⟨⟩
    exact ⟨object, framebuffer, nofun⟩
  · refine ⟨posts, ?_, nofun, fun _ spent => spent, Nat.le_refl _, rfl, rfl⟩
    refine audited.bears.set rfl ?_ fun handle' x ne held' keeps => ?_
    · rintro _ ⟨⟩
      exact ⟨object, framebuffer, nofun⟩
    · refine keeps.later rfl (fun _ object found => ⟨object, found, rfl⟩) (fun _ _ mem => mem)
        fun m' has' => Table.get?_erase_of_ne _ ?_
      -- No other handle has the same mapping.
      intro eq
      exact ne (audited.audit.sole (.mapping m.id) _ _ ⟨x, held', m', has', eq⟩ ⟨a, held, m, has, rfl⟩)

end Events

/-! ## Cards -/

/-- A card is opened, when none is. -/
theorem Enters.opened (audited : k.Audited s l) (none : l.card = none) (room : k.nextFd < 0x80000000)
    (index : Nat) :
    k.Enters l (.opened (.ofNat k.nextFd))
      { k with files := k.files.insert (.ofNat k.nextFd) index, nextFd := k.nextFd + 1 }
      { l with card := some (.ofNat k.nextFd) } := by
  have number : (Int32.ofNat k.nextFd).toInt = k.nextFd := Int32.toInt_ofNat_of_lt room
  have watched : isWatched (.ofNat k.nextFd) := by
    have := audited.cards
    have : (1000 : Int32) ≤ .ofNat k.nextFd := Int32.le_iff_toInt_le.2 (by rw [number]; simp; omega)
    simp [isWatched, this]
  refine ⟨.opened none, ⟨?_, ?_⟩, ?_, ?_, Nat.le_succ _, rfl, rfl⟩
  · rintro _ ⟨⟩
    exact ⟨watched, by simp [Table.contains_insert]⟩
  · intro handle a held
    refine (audited.bears.holding handle a held).later rfl (fun _ object found => ?_)
      (fun _ _ mem => mem) fun _ _ => rfl
    exact ⟨object, found, rfl⟩
  · rintro _ ⟨⟩
    simp only [Spent, number]
    omega
  · rintro (fd | handle | id | id) spent <;> simp only [Spent] at spent ⊢ <;> omega

/-- A card is closed with no handle left, whether or not the kernel does it. -/
theorem Enters.closed (card : l.card = some fd) (bare : ∀ handle, l.holdings handle = none)
    (same : k' = k ∨ ∃ files, k' = { k with files }) :
    k.Enters l (.closed fd) k' { l with card := none } := by
  have bears (k : Kernel) : k.Bears { l with card := none } :=
    ⟨nofun, fun handle a held => by cases (bare handle).symm.trans held⟩
  obtain rfl | ⟨files, rfl⟩ := same
  · exact .same (.closed card bare) (bears _) rfl
  · exact ⟨.closed card bare, bears _, nofun, fun _ spent => spent, Nat.le_refl _, rfl, rfl⟩

end Kernel

end GraphicsBuffers

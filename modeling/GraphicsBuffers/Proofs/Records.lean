import GraphicsBuffers.Proofs.Audited

/-!
# What computations on the host record

`Records s l x Q` is the judgement that ledgers are followed with: run while `l` is what is held, `x`
answers some `a` with `Q a l'`, where `l'` is what is held then. Failures may be set up for any call.
What a computation gives back is not held any more, whether or not the kernel complied.
-/

namespace GraphicsBuffers

open Wire

variable {ε δ α β : Type} {s : Surroundings} {l l₀ l₁ : Ledger} {fd : Int32}

/-- Run while `l` is held, a computation answers `a` with `Q a l'`, where `l'` is held then. Nobody
takes hold of a card or lets go of one. -/
def Records (s : Surroundings) (l : Ledger) (x : HostM α) (Q : α → Ledger → Prop) : Prop :=
  ∀ h : Host, h.kernel.Audited s l → Yields x h fun a h' =>
    h'.cardHolders = h.cardHolders ∧ ∃ l', h'.kernel.Audited s l' ∧ Q a l'

/-- What holds of an answer, unless there is a failure, after which `l₀` is held. -/
def orLeaves (P : α → Ledger → Prop) (l₀ : Ledger) : Except ε α → Ledger → Prop
  | .ok a, l' => P a l'
  | .error _, l' => l' = l₀

namespace Records

variable {x : HostM α} {P Q : α → Ledger → Prop}

theorem pure {a : α} (holds : Q a l) : Records s l (Pure.pure a) Q :=
  fun _ audited => ⟨rfl, l, audited, holds⟩

theorem report {event : LogEvent} {Q : Unit → Ledger → Prop} (holds : Q () l) :
    Records s l (Host.report event) Q :=
  fun _ audited => ⟨rfl, l, audited, holds⟩

theorem bind {f : α → HostM β} {Q : β → Ledger → Prop} (first : Records s l x P)
    (second : ∀ a l', P a l' → Records s l' (f a) Q) : Records s l (x >>= f) Q := by
  intro h audited
  refine (first h audited).bind fun a h' ⟨holders, l', audited', holds⟩ => ?_
  refine (second a l' holds h' audited').mono fun b h'' ⟨holders', rest⟩ => ?_
  exact ⟨holders'.trans holders, rest⟩

theorem mono (first : Records s l x P) (imp : ∀ a l', P a l' → Q a l') : Records s l x Q := by
  intro h audited
  refine (first h audited).mono fun a h' ⟨holders, l', audited', holds⟩ => ?_
  exact ⟨holders, l', audited', imp a l' holds⟩

/-- A computation that does not change what is held, followed by another. -/
theorem andThen {f : α → HostM β} {Q : β → Ledger → Prop} (first : Records s l x fun _ l' => l' = l)
    (second : ∀ a, Records s l (f a) Q) : Records s l (x >>= f) Q :=
  first.bind fun a _ same => same ▸ second a

/-! ## Computations that may fail -/

theorem throw {e : ε} : Records s l (throw e : Attempt ε α).run (orLeaves P l) := pure rfl

theorem attempt {x : Attempt ε α} {f : α → Attempt ε β} {Q : β → Ledger → Prop}
    (first : Records s l x.run (orLeaves P l₀))
    (second : ∀ a l', P a l' → Records s l' (f a).run (orLeaves Q l₀)) :
    Records s l (x >>= f).run (orLeaves Q l₀) := by
  refine Records.bind (x := x.run) (f := ExceptT.bindCont f) first fun outcome l' holds => ?_
  cases outcome with
  | ok a => exact second a l' holds
  | error e => exact .pure holds

theorem lift (first : Records s l x P) :
    Records s l (liftM x : Attempt ε α).run (orLeaves P l₀) :=
  first.bind fun _ _ holds => .pure holds

/-- What is done about a failure may give back what was left. -/
theorem explain {x : Attempt ε α} {f : ε → HostM δ} (first : Records s l x.run (orLeaves P l₁))
    (failed : ∀ e, Records s l₁ (f e) fun _ l' => l' = l₀) :
    Records s l (GraphicsBuffers.explain x f).run (orLeaves P l₀) := by
  refine first.bind fun outcome l' holds => ?_
  cases outcome with
  | ok a => exact .pure holds
  | error e =>
    obtain rfl : l' = l₁ := holds
    exact (failed e).bind fun _ _ same => .pure same

theorem attempt_same {x : Attempt ε α} {f : α → Attempt ε β}
    (first : Records s l x.run fun _ l' => l' = l)
    (second : ∀ a, Records s l (f a).run fun _ l' => l' = l) :
    Records s l (x >>= f).run fun _ l' => l' = l := by
  refine Records.andThen (x := x.run) (f := ExceptT.bindCont f) first fun outcome => ?_
  cases outcome with
  | ok a => exact second a
  | error e => exact .pure rfl

theorem explain_same {x : Attempt ε α} {f : ε → HostM δ} (first : Records s l x.run fun _ l' => l' = l)
    (failed : ∀ e, Records s l (f e) fun _ l' => l' = l) :
    Records s l (GraphicsBuffers.explain x f).run fun _ l' => l' = l := by
  refine first.andThen fun outcome => ?_
  cases outcome with
  | ok a => exact .pure rfl
  | error e => exact (failed e).andThen fun _ => .pure rfl

end Records

/-! ## Calls -/

/-- A call of the kernel after which the same is held. -/
theorem call_records {f : Kernel → Except ε α × Kernel} {Q : Except ε α → Ledger → Prop}
    (audited : ∀ k : Kernel, k.Audited s l → ∃ l', (f k).2.Audited s l' ∧ Q (f k).1 l') :
    Records s l (Host.call f).run Q :=
  fun h before => ⟨rfl, audited h.kernel before⟩

theorem exchange_records {x : Exchange α} {Q : Except Errno α → Ledger → Prop}
    (card : l.card = some fd)
    (failed : ∀ (k : Kernel) e, k.Audited s l → ∃ l',
      k.Enters l (.ofControl fd x.request x.argument (.error e)) k l' ∧ Q (.error e) l')
    (done : ∀ (k : Kernel) index node reply k', k.Audited s l →
      k.serve index node x.request x.argument = .ok (reply, k') → ∃ l',
        k.Enters l (.ofControl fd x.request x.argument (.ok (.reply reply.bytes))) k' l' ∧
          Q (.ok (x.answer reply)) l') :
    Records s l (Host.exchange fd x).run Q := by
  intro h audited
  unfold Yields
  rw [exchange_run]
  refine ⟨rfl, Kernel.control_audited (Q := fun outcome l' => Q (outcome.map x.answer) l') audited
    card failed ?_⟩
  exact fun k index node reply k' audited served => done k index node reply k' audited served

namespace Wire.Exchange

/-- An exchange that only uses the card. -/
structure Uses (x : Exchange α) : Prop where
  event : ∀ fd outcome, Event.ofControl fd x.request x.argument outcome = .used fd
  alike : ∀ (k k' : Kernel) index node reply,
    k.serve index node x.request x.argument = .ok (reply, k') → k.Alike k'

theorem uses_of_same {x : Exchange α}
    (event : ∀ fd outcome, Event.ofControl fd x.request x.argument outcome = .used fd)
    (same : ∀ (k : Kernel) (index : Nat) (node : CardNode),
      ∃ reply, k.serve index node x.request x.argument = .ok (reply, k)) : x.Uses where
  event := event
  alike k k' index node reply eq := by
    obtain ⟨_, eq'⟩ := same k index node
    cases eq.symm.trans eq'
    exact .refl k

theorem version_uses : version.Uses := uses_of_same (fun _ _ => rfl) fun _ _ _ => ⟨_, rfl⟩

theorem versionName_uses (length : UInt64) : (versionName length).Uses :=
  uses_of_same (fun _ _ => rfl) fun _ _ _ => ⟨_, rfl⟩

theorem getMagic_uses : getMagic.Uses := uses_of_same (fun _ _ => rfl) fun _ _ _ => ⟨_, rfl⟩

theorem authMagic_uses (magic : UInt32) : (authMagic magic).Uses :=
  uses_of_same (fun _ _ => rfl) fun _ _ _ => ⟨_, rfl⟩

theorem getResources_uses : getResources.Uses :=
  uses_of_same (fun _ _ => rfl) fun _ _ _ => ⟨_, rfl⟩

theorem serveMaster_alike {k k' : Kernel} {index : Nat} {node : CardNode} {acquire : Bool}
    (eq : k.serveMaster index node acquire = .ok k') : k.Alike k' := by
  unfold Kernel.serveMaster at eq
  split at eq <;> cases eq
  exact ⟨_, _, _, _, _, rfl, rfl⟩

theorem setMaster_uses : setMaster.Uses where
  event _ _ := rfl
  alike k k' index node reply eq := by
    obtain ⟨k₁, made, rest⟩ := Kernel.bind_eq_ok eq
    cases rest
    exact serveMaster_alike made

theorem dropMaster_uses : dropMaster.Uses where
  event _ _ := rfl
  alike k k' index node reply eq := by
    obtain ⟨k₁, made, rest⟩ := Kernel.bind_eq_ok eq
    cases rest
    exact serveMaster_alike made

theorem mapDumb_uses (handle : UInt32) : (mapDumb handle).Uses where
  event _ _ := rfl
  alike k k' index node reply eq := by
    rw [(mapDumb_served eq).2]
    exact .refl k

theorem gemFlink_uses (handle : UInt32) : (gemFlink handle).Uses where
  event _ _ := rfl
  alike k k' index node reply eq := by
    obtain ⟨place, object, held, named⟩ := gemFlink_served eq
    obtain ⟨-, found⟩ := (k.held_eq_some).1 held
    split at named
    · obtain ⟨-, rfl⟩ := named
      refine ⟨_, _, _, _, _, rfl, ?_⟩
      -- The object gets a name and keeps its size.
      have kept : (k.objects.map (·.size))[place]? = some object.size := by
        rw [List.getElem?_map, found]
        rfl
      obtain ⟨below, size⟩ := List.getElem?_eq_some_iff.1 kept
      rw [List.map_set, ← size, List.set_getElem_self]
    · rw [named.2]
      exact .refl k

end Wire.Exchange

open Wire.Exchange

/-- The memory of the first plane. -/
def PlaneLayout.firstHandle (layout : PlaneLayout) : UInt32 := layout.handles[0]

theorem PlaneLayout.words_handles (layout : PlaneLayout) :
    ∃ rest, words layout.handles = word32 layout.firstHandle ++ rest := by
  obtain ⟨⟨⟨handles⟩, size⟩, pitches, offsets⟩ := layout
  match handles, size with
  | [a, b, c, d], _ => exact ⟨_, rfl⟩

section Exchanges

variable (card : l.card = some fd)
include card

theorem Wire.Exchange.Uses.records {x : Exchange α} (uses : x.Uses) :
    Records s l (Host.exchange fd x).run fun _ l' => l' = l := by
  refine exchange_records card (fun k e audited => ⟨l, ?_, rfl⟩)
    fun k index node reply k' audited served => ⟨l, ?_, rfl⟩
  · rw [uses.event]
    exact .used card audited.bears (.refl k)
  · rw [uses.event]
    exact .used card audited.bears (uses.alike k k' index node reply served)

theorem createDumb_records (width height bpp : UInt32) :
    Records s l (Host.exchange fd (createDumb width height bpp)).run
      (orLeaves (fun b l' => l.holdings b.handle = none ∧
        l' = l.set b.handle (some { imported := false, size := b.size })) l) := by
  refine exchange_records card (fun k e audited => ⟨l, .used card audited.bears (.refl k), rfl⟩)
    fun k index node reply k' audited served => ?_
  obtain ⟨room, -, answer, rfl⟩ := createDumb_served served
  obtain ⟨free, enters⟩ := Kernel.Enters.obtained card audited room (List.prefix_append ..)
    (List.getElem?_concat_length ..) false
  have number : read32 reply.bytes 16 = .ofNat k.nextHandle := congrArg DumbBuffer.handle answer
  rw [answer]
  refine ⟨_, ?_, free, rfl⟩
  rw [← number] at enters ⊢
  exact enters

theorem gemOpen_records (name : UInt32) :
    Records s l (Host.exchange fd (gemOpen name)).run
      (orLeaves (fun object l' => l.holdings object.handle = none ∧
        l' = l.set object.handle (some { imported := true, size := object.size })) l) := by
  refine exchange_records card (fun k e audited => ⟨l, .used card audited.bears (.refl k), rfl⟩)
    fun k index node reply k' audited served => ?_
  obtain ⟨place, object, named, room, answer, rfl⟩ := gemOpen_served served
  obtain ⟨free, enters⟩ := Kernel.Enters.obtained card audited room List.prefix_rfl
    ((k.named_eq_some).1 named).2 true
  have number : read32 reply.bytes 4 = .ofNat k.nextHandle := congrArg GemObject.handle answer
  rw [answer]
  refine ⟨_, ?_, free, rfl⟩
  rw [← number] at enters ⊢
  exact enters

theorem primeFdToHandle_records (dmabuf : Int32) :
    Records s l (Host.exchange fd (primeFdToHandle dmabuf)).run
      (orLeaves (fun handle l' => ∃ shared,
        (s.dmabufs.find? fun d => decide (d.fd = dmabuf)) = some shared ∧
          l.holdings handle = none ∧
          l' = l.set handle (some { imported := true, size := shared.size })) l) := by
  refine exchange_records card (fun k e audited => ⟨l, .used card audited.bears (.refl k), rfl⟩)
    fun k index node reply k' audited served => ?_
  obtain ⟨shared, found, room, answer, rfl⟩ := primeFdToHandle_served served
  obtain ⟨free, enters⟩ := Kernel.Enters.obtained card audited room (List.prefix_append ..)
    (List.getElem?_concat_length ..) true
  have number : read32 reply.bytes 0 = .ofNat k.nextHandle := answer
  rw [answer]
  refine ⟨_, ?_, shared, ?_, free, rfl⟩
  · rw [← number] at enters ⊢
    exact enters
  · rw [← audited.surroundings]
    exact found

/-- A handle is given back in the way it was obtained. -/
theorem release_records {handle : UInt32} {imported : Bool} {size : UInt64}
    (held : l.holdings handle = some { imported, size }) :
    Records s l (Host.exchange fd (if imported then gemClose handle else destroyDumb handle)).run
      fun _ l' => l' = l.set handle none := by
  have dropped {x : Exchange Unit}
      (event : ∀ outcome, Event.ofControl fd x.request x.argument outcome =
        .released fd handle imported)
      (serves : ∀ (k k' : Kernel) index node reply,
        k.serve index node x.request x.argument = .ok (reply, k') → k.dropHandle? handle = some k') :
      Records s l (Host.exchange fd x).run fun _ l' => l' = l.set handle none := by
    refine exchange_records card (fun k e audited => ⟨_, ?_, rfl⟩)
      fun k index node reply k' audited served => ⟨_, ?_, rfl⟩
    · rw [event]
      exact .released card audited.bears held (.inl rfl)
    · rw [event]
      exact .released card audited.bears held (.inr (serves k k' index node reply served))
  cases imported with
  | false =>
    have number : read32 (destroyDumb handle).argument 0 = handle := read32_word32 handle []
    refine dropped (x := destroyDumb handle) (fun outcome => ?_) fun k k' index node reply served => ?_
    · exact congrArg (Event.released fd · false) number
    · unfold Kernel.serve at served
      dsimp only [destroyDumb] at served number
      rw [number] at served
      cases gone : k.dropHandle? handle <;> rw [gone] at served <;> cases served
      rfl
  | true =>
    have number : read32 (gemClose handle).argument 0 = handle := read32_word32 handle _
    refine dropped (x := gemClose handle) (fun outcome => ?_) fun k k' index node reply served => ?_
    · exact congrArg (Event.released fd · true) number
    · unfold Kernel.serve at served
      dsimp only [gemClose] at served number
      rw [number] at served
      cases gone : k.dropHandle? handle <;> rw [gone] at served <;> cases served
      rfl

theorem addFb2_records {width height : UInt32} {format : Fourcc} {layout : PlaneLayout}
    {a : Holding} (held : l.holdings layout.firstHandle = some a) (free : a.framebuffer = none) :
    Records s l (Host.exchange fd (addFb2 width height format layout)).run
      (orLeaves (fun id l' =>
        l' = l.set layout.firstHandle (some { a with framebuffer := some id })) l) := by
  have number : read32 (addFb2 width height format layout).argument 20 = layout.firstHandle := by
    obtain ⟨rest, eq⟩ := layout.words_handles
    simp only [addFb2, List.append_assoc, eq]
    iterate 5 rw [read32_append _ _ _ (by simp)]
    exact read32_word32 _ _
  refine exchange_records card (fun k e audited => ⟨l, .used card audited.bears (.refl k), rfl⟩)
    fun k index node reply k' audited served => ?_
  obtain ⟨room, answer, rfl⟩ := addFb2_served served
  have enters := Kernel.Enters.attached card audited room held free
  have id : read32 reply.bytes 0 = .ofNat k.nextFramebuffer := answer
  rw [answer]
  refine ⟨_, ?_, rfl⟩
  rw [← number, ← id] at enters ⊢
  exact enters

theorem removeFb_records {handle id : UInt32} {a : Holding} (held : l.holdings handle = some a)
    (has : a.framebuffer = some id) :
    Records s l (Host.exchange fd (removeFb id)).run
      fun _ l' => l' = l.set handle (some { a with framebuffer := none }) := by
  have number : read32 (removeFb id).argument 0 = id := read32_word32 id []
  have event (outcome : Except Errno Answer) :
      Event.ofControl fd (removeFb id).request (removeFb id).argument outcome = .detached fd id :=
    congrArg (Event.detached fd) number
  refine exchange_records card (fun k e audited => ⟨_, ?_, rfl⟩)
    fun k index node reply k' audited served => ⟨_, ?_, rfl⟩
  · rw [event]
    exact .detached card audited held has (.inl rfl)
  · rw [event]
    refine .detached card audited held has (.inr ?_)
    unfold Kernel.serve at served
    dsimp only [removeFb] at served number
    rw [number] at served
    split at served <;> cases served
    rfl

end Exchanges

/-! ## Mappings -/

section Mappings

variable (card : l.card = some fd) {handle : UInt32} {a : Holding} (held : l.holdings handle = some a)
include card held

theorem Mapping.map_records (free : a.mapping = none) (length : UInt64) :
    Records s l (Mapping.map fd (handle.toUInt64 <<< 32) length true).run
      (orLeaves (fun m l' => m.length = length ∧
        l' = l.set handle (some { a with mapping := some m })) l) := by
  have place : UInt32.ofNat ((handle.toUInt64 <<< 32).toNat / UInt32.size) = handle := by
    have below := handle.toNat_lt
    have shifted : (handle.toUInt64 <<< 32).toNat = handle.toNat * UInt32.size := by
      rw [UInt64.toNat_shiftLeft]
      simp [Nat.shiftLeft_eq, UInt32.size]
      omega
    rw [shifted, Nat.mul_div_cancel _ (by decide)]
    exact UInt32.ofNat_toNat
  have mapped : Records s l (Host.call (·.map fd (handle.toUInt64 <<< 32) length true)).run
      (orLeaves (fun id l' => l' = l.set handle (some { a with mapping := some ⟨id, length⟩ })) l) := by
    refine call_records fun k audited => ?_
    unfold Kernel.map
    rw [(audited.bears.card fd card).1]
    refine Kernel.perform_audited audited
      (fun k e audited => ⟨l, .used card audited.bears (.refl k), rfl⟩) fun k id k' audited eq => ?_
    split at eq
    · cases eq
    · split at eq
      · cases eq
      · split at eq <;> cases eq
        refine ⟨_, ?_, rfl⟩
        unfold Event.ofCall
        dsimp only
        rw [place]
        exact .mapped card audited ⟨length, true, _⟩ rfl held free
  unfold Mapping.map
  split
  · exact .throw
  · refine .attempt (.explain mapped fun e => .pure rfl) fun id l' same => ?_
    exact .pure ⟨rfl, same⟩

theorem Mapping.unmap_records {m : Mapping} (has : a.mapping = some m) :
    Records s l m.unmap fun _ l' => l' = l.set handle (some { a with mapping := none }) := by
  have unmapped : Records s l (Host.call (·.unmap m.id m.length)).run
      fun _ l' => l' = l.set handle (some { a with mapping := none }) := by
    refine call_records fun k audited => ?_
    unfold Kernel.unmap
    refine Kernel.perform_audited
      (Q := fun _ l' => l' = l.set handle (some { a with mapping := none })) audited
      (fun k e audited => ⟨_, .unmapped card audited held has (.inl rfl), rfl⟩)
      fun k id k' audited eq => ⟨_, ?_, rfl⟩
    split at eq <;> cases eq
    exact .unmapped card audited held has (.inr rfl)
  refine unmapped.bind fun outcome l' same => ?_
  cases outcome with
  | ok => exact .pure same
  | error e => exact .report same

end Mappings

end GraphicsBuffers

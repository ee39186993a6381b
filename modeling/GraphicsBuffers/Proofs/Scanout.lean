import GraphicsBuffers.Proofs.Causes
import GraphicsBuffers.Proofs.Leaks
import GraphicsBuffers.Proofs.PlaneBounds

/-!
# Framebuffers over buffers with several planes

A framebuffer over a buffer of the dumb-buffer backend is asked for with the planes of the buffer, exactly
where they are (`BufferObject.framebuffers_described`), unless one of them begins past 32 bits. Then the
backend has no layout to tell, as for a buffer of a single plane, and the request leaves all planes out but
the first, though its format has several (`Client.chroma_left_out`).
-/

namespace GraphicsBuffers

open Wire Wire.Exchange

variable {ε δ α β : Type}

/-! ## Layouts -/

/-- The planes that a framebuffer is asked for with: all of them, if every one begins where a 32-bit number
can say. -/
def Descriptor.scanned (d : Descriptor) : List Plane :=
  if ∀ p ∈ d.exactPlanes, p.offset < 2 ^ 32 then d.exactPlanes else d.exactPlanes.take 1

theorem Descriptor.exactPlanes_single {d : Descriptor} (single : ¬d.format.isPlanar) :
    d.exactPlanes.take 1 = d.exactPlanes := by
  unfold exactPlanes
  cases format : d.format <;> rw [format] at single <;> first | rfl | exact absurd rfl single

/-- An object is laid out for scanout with these planes, all of them in its memory. -/
theorem BufferObject.layout_describes {o : BufferObject} {fd : Int32} (dumb : o.backend = .dumb fd)
    (h : Host) (b : BackendBuffer) : (o.layout h b).Describes b.handle o.descriptor.scanned := by
  have told : o.layout h b = (o.descriptor.linearPlanes? b.handle).getD
      (.single b.handle o.descriptor.stride) := by
    rw [layout, dumb]
    rfl
  rw [told, Descriptor.scanned]
  have known := o.descriptor.linearPlanes_isSome b.handle
  cases planes : o.descriptor.linearPlanes? b.handle with
  | some layout =>
    rw [if_pos (known.1 (by rw [planes]; rfl)).2]
    exact Descriptor.linearPlanes_describes planes
  | none =>
    have first := o.descriptor.single_describes b.handle
    split
    · next fits =>
      have single : ¬o.descriptor.format.isPlanar := fun planar => by
        rw [planes] at known
        cases known.2 ⟨planar, fits⟩
      rwa [Descriptor.exactPlanes_single single] at first
    · exact first

/-! ## Requests for framebuffers -/

/-- The card that is asked for a framebuffer, with the structure it is passed. -/
def TraceEntry.framebuffer? : TraceEntry → Option (Int32 × Bytes)
  | .kernel (.control fd .addFb2 argument) _ => some (fd, argument)
  | _ => none

/-- All requests for framebuffers. -/
def framebuffers (trace : List TraceEntry) : List (Int32 × Bytes) :=
  trace.filterMap TraceEntry.framebuffer?

@[simp] theorem framebuffers_append (new trace : List TraceEntry) :
    framebuffers (new ++ trace) = framebuffers new ++ framebuffers trace := List.filterMap_append ..

/-- No framebuffer is asked for. -/
def Unframing (x : HostM α) : Prop := Adds x fun new _ => framebuffers new = []

namespace Unframing

theorem pure (a : α) : Unframing (Pure.pure a) := Picks.pure a

theorem report (event : LogEvent) : Unframing (Host.report event) := Picks.report event

theorem bind {x : HostM α} {f : α → HostM β} (first : Unframing x) (second : ∀ a, Unframing (f a)) :
    Unframing (x >>= f) := Picks.then_silent first second

/-- What follows depends on how a computation came out. -/
theorem cases {x : HostM (Except ε α)} {f : Except ε α → HostM β} (first : Unframing x)
    (ok : ∀ a, Unframing (f (.ok a))) (error : ∀ e, Unframing (f (.error e))) :
    Unframing (x >>= f) := Picks.ignoring first ok error

theorem attempt {x : Attempt ε α} {f : α → Attempt ε β} (first : Unframing x.run)
    (second : ∀ a, Unframing (f a).run) : Unframing (x >>= f).run := Picks.attempt first second

theorem explain {x : Attempt ε α} {f : ε → HostM δ} (first : Unframing x.run)
    (second : ∀ e, Unframing (f e)) : Unframing (GraphicsBuffers.explain x f).run :=
  Picks.explain first second

end Unframing

theorem exchange_unframing {x : Exchange α} (told : x.Told) (fd : Int32) (other : x.request ≠ .addFb2) :
    Unframing (Host.exchange fd x).run := by
  refine exchange_picks told fd fun outcome => ?_
  revert other
  generalize x.request = request
  intro other
  cases request <;> first | exact absurd rfl other | rfl

namespace Dumb

variable (fd : Int32)

theorem create_unframing (d : Descriptor) : Unframing (create fd d).run := by
  unfold create
  split
  · refine .attempt (.explain (exchange_unframing (createDumb_told _ _ _) fd nofun) fun e => .pure _)
      fun dumb => .attempt (.explain (exchange_unframing (gemFlink_uses _).told fd nofun) fun e => ?_)
        fun name => .pure _
    have discarded : Unframing (discard fd dumb.handle) :=
      .cases (exchange_unframing (destroyDumb_told dumb.handle) fd nofun) (fun _ => .pure _)
        fun _ => .report _
    exact (Unframing.report _).bind fun _ => discarded.bind fun _ => .pure _
  · exact .pure _

theorem free_unframing (b : BackendBuffer) : Unframing (free fd b) := by
  have handle : Unframing (freeHandle fd b) := freeHandle_picks fd b (fun _ => rfl) fun _ => rfl
  have unmapped (m : Mapping) : Unframing m.unmap :=
    .cases (call_picks (Kernel.unmap_recorded m.id m.length) fun _ => rfl) (fun _ => .pure _)
      fun _ => .report _
  unfold free
  cases b.mapping with
  | none => exact handle
  | some m => exact (unmapped m).bind fun _ => handle

end Dumb

namespace BufferObject

variable {o : BufferObject} {fd : Int32}

theorem destroy_unframing (dumb : o.backend = .dumb fd) : Unframing (destroy.run o) := by
  have freed (b : BackendBuffer) : Unframing (o.backend.free b) := by
    rw [dumb]
    exact Dumb.free_unframing fd b
  intro h
  rw [destroy_run]
  cases o.buffer with
  | none => exact ⟨[], rfl, rfl⟩
  | some b => exact tearDown_picks (fun _ _ => rfl) (fun _ _ => rfl) (freed b) h

/-- A request is for a framebuffer over an object, and gives its planes. -/
def Scans (o : BufferObject) (request : Int32 × Bytes) : Prop :=
  let d := o.descriptor
  ∃ b layout, o.buffer = some b ∧ layout.Describes b.handle d.scanned ∧
    request = (o.card.fd, (addFb2 d.width d.height d.format.fourcc layout).argument)

/-- A framebuffer that is answered has been asked for. -/
theorem addFramebuffer_scans {b : BackendBuffer} (found : o.buffer = some b) {layout : PlaneLayout}
    (describes : layout.Describes b.handle o.descriptor.scanned) :
    Adds (o.addFramebuffer layout).run fun new outcome =>
      (∀ request ∈ framebuffers new, o.Scans request) ∧ (outcome.isOk → framebuffers new ≠ []) := by
  let asking := addFb2 o.descriptor.width o.descriptor.height o.descriptor.format.fourcc layout
  have asked : Adds (Host.exchange o.card.fd asking).run fun new outcome =>
      (∀ request ∈ framebuffers new, o.Scans request) ∧ (outcome.isOk → framebuffers new ≠ []) := by
    intro h
    obtain ⟨new, trace, added⟩ := exchange_adds (addFb2_told _ _ _ layout) o.card.fd h
    refine ⟨new, trace, ?_⟩
    obtain ⟨unwatched, rfl⟩ | ⟨reply, rfl, -⟩ := added
    · obtain ⟨e, refused⟩ := exchange_ordinary unwatched asking h
      have answer := congrArg Prod.fst refused
      exact ⟨nofun, fun ok => by rw [show _ = Except.error e from answer] at ok; cases ok⟩
    · refine ⟨?_, fun _ => List.cons_ne_nil _ _⟩
      rintro request (_ | ⟨_, ⟨⟩⟩)
      exact ⟨b, layout, found, describes, rfl⟩
  refine asked.explain (fun id new added => ⟨added.1, fun _ => added.2 rfl⟩) fun e new added => ?_
  refine Adds.bind (P := fun new _ => new = []) (.report rfl) ?_
  rintro _ _ rfl
  exact .pure ⟨added.1, nofun⟩

theorem attach_scans (dumb : o.backend = .dumb fd) :
    Adds (attachFramebuffer.run.run o) fun new result =>
      (∀ request ∈ framebuffers new, o.Scans request) ∧
        (o.framebuffer = none → result.1.isOk → framebuffers new ≠ []) := by
  intro h
  rw [attachFramebuffer_run]
  split
  · next attached => exact ⟨[], rfl, nofun, fun bare => nomatch attached.symm.trans bare⟩
  · exact ⟨[], rfl, nofun, fun _ ok => nomatch ok⟩
  next b _ found =>
  obtain ⟨new, trace, scans, asked⟩ := addFramebuffer_scans found (layout_describes dumb h b) h
  rcases eq : (o.addFramebuffer (o.layout h b)).run h with ⟨e | id, h'⟩ <;> rw [eq] at trace asked <;>
    exact ⟨new, trace, scans, fun _ => asked⟩

/-- A framebuffer is asked for at the end of an allocation, and in no other place of it. -/
theorem finish_scans (dumb : o.backend = .dumb fd) : Adds o.finish fun new _ =>
    ∀ request ∈ framebuffers new, o.Scans request := by
  intro h
  have object := congrArg backend (o.attachFramebuffer_object h)
  obtain ⟨new, trace, scans, -⟩ := attach_scans dumb h
  unfold finish
  split
  · rcases eq : attachFramebuffer.run.run o h with ⟨⟨e | id, o'⟩, h'⟩ <;> rw [eq] at trace object
    · obtain ⟨new', trace', unframing⟩ := destroy_unframing (object.trans dumb) h'
      refine ⟨new' ++ new, added_twice trace trace', fun request mem => scans request ?_⟩
      rwa [framebuffers_append, unframing, List.nil_append] at mem
    · exact ⟨new, trace, scans⟩
  · exact ⟨[], rfl, nofun⟩

/-- The object that an allocation of so many pixels answers, or would have answered. -/
structure Drafted (fd : Int32) (card : Card) (width height : UInt32) (format : PixelFormat)
    (outcome : Except Error BufferObject) (o : BufferObject) : Prop where
  fresh : o.Fresh (.dumb fd) card false
  asked : o.descriptor.width = width ∧ o.descriptor.height = height ∧ o.descriptor.format = format
  answer : ∀ o', outcome = .ok o' → o'.descriptor = o.descriptor ∧ o'.buffer = o.buffer

theorem create_scans (fd : Int32) (card : Card) (width height : UInt32) (format : PixelFormat)
    (usage : Usage) :
    Adds (create (.dumb fd) card width height format usage).run fun new outcome =>
      ∀ request ∈ framebuffers new,
        ∃ o, Drafted fd card width height format outcome o ∧ o.Scans request := by
  intro h
  rw [show (create (.dumb fd) card width height format usage).run h = _ from create_run ..]
  cases asked : request? width height format usage with
  | none => exact ⟨[], rfl, nofun⟩
  | some request =>
    obtain ⟨g, -, rfl⟩ := Option.map_eq_some_iff.1 asked
    dsimp only
    let request : Descriptor := { width, height, planarHeight := g.planarHeight, format, usage }
    have allocates : Unframing ((Backend.dumb fd).allocate request).run :=
      Dumb.create_unframing fd request
    obtain ⟨new, trace, unframing⟩ := allocates h
    rcases made : ((Backend.dumb fd).allocate request).run h with ⟨e | b, h₁⟩ <;> rw [made] at trace <;>
      dsimp only
    · refine ⟨new, trace, ?_⟩
      rw [unframing]
      nofun
    split
    · next valid =>
      have fresh : (ofBuffer (.dumb fd) card request b).Fresh (.dumb fd) card false :=
        ofBuffer_fresh request valid
      obtain ⟨new', trace', scans⟩ := finish_scans fresh.backend
        (h₁.reported (.created width height format b.memory b.stride))
      refine ⟨new' ++ new, added_twice trace trace', fun asking mem => ?_⟩
      rw [framebuffers_append, unframing, List.append_nil] at mem
      exact ⟨_, ⟨fresh, ⟨rfl, rfl, rfl⟩, fun o' ok =>
        ⟨(fresh.finish ok).2, finish_buffer (Prod.ext ok rfl)⟩⟩, scans asking mem⟩
    · obtain ⟨new', trace', unframing'⟩ := Dumb.free_unframing fd b
        (h₁.reported (.invalidMemory (Backend.dumb fd).name b.memory))
      refine ⟨new' ++ new, added_twice trace trace', ?_⟩
      rw [framebuffers_append, unframing, unframing']
      nofun

/-- Whenever a framebuffer over a buffer of the dumb-buffer backend is asked for, in whatever state and
whatever fails, the request gives all planes of the buffer if every one of them begins where a 32-bit
number can say, and the first plane alone if not. That is so when one is attached to an object, allocated
or imported, and when an object is allocated to be scanned out. -/
theorem framebuffers_described (fd : Int32) :
    (∀ o : BufferObject, o.backend = .dumb fd →
      Adds (attachFramebuffer.run.run o) fun new result =>
        (∀ request ∈ framebuffers new, o.Scans request) ∧
          (o.framebuffer = none → result.1.isOk → framebuffers new ≠ [])) ∧
    ∀ card width height format usage,
      Adds (create (.dumb fd) card width height format usage).run fun new outcome =>
        ∀ request ∈ framebuffers new,
          ∃ o, Drafted fd card width height format outcome o ∧ o.Scans request :=
  ⟨fun _ => attach_scans, create_scans fd⟩

/-- A frame of video that was opened on the card 1000. -/
def received : BufferObject where
  descriptor :=
    { width := 64, height := 64, stride := 64, format := .ycbcr420, usage := .hwFb
      memory := some (.name 7) }
  imported := true
  backend := .dumb 1000
  card := ⟨1000, "/dev/dri/card0"⟩
  buffer := some { handle := 1, size := 8192, stride := 64, memory := .name 7, imported := true }

/-- The framebuffer over the frame is asked for with both its planes. -/
theorem received_described :
    let h := (Client.virtual.step (.ensureReady false)).2.process.host
    let layout : PlaneLayout := ⟨#v[1, 1, 0, 0], #v[64, 64, 0, 0], #v[0, 4096, 0, 0]⟩
    received.descriptor.scanned = [⟨0, 64, 64⟩, ⟨4096, 64, 32⟩] ∧
      framebuffers (attachFramebuffer.run.run received h).2.kernel.trace =
        [(1000, (addFb2 64 64 PixelFormat.ycbcr420.fourcc layout).argument)] ∧
      received.Scans (1000, (addFb2 64 64 PixelFormat.ycbcr420.fourcc layout).argument) := by
  intro h layout
  obtain ⟨new, trace, scans, -⟩ := (framebuffers_described 1000).1 received rfl h
  have none : framebuffers h.kernel.trace = [] := by decide +kernel
  have one : framebuffers (attachFramebuffer.run.run received h).2.kernel.trace =
      [(1000, (addFb2 64 64 PixelFormat.ycbcr420.fourcc layout).argument)] := by decide +kernel
  have same : framebuffers new = framebuffers (attachFramebuffer.run.run received h).2.kernel.trace := by
    rw [trace, framebuffers_append, none, List.append_nil]
  refine ⟨by decide, one, scans _ ?_⟩
  rw [same, one]
  exact List.mem_singleton_self _

end BufferObject

/-! ## Planes that are left out -/

namespace Client

/-- A strip of video that is so long that its chroma begins past 32 bits. -/
def strip : Descriptor :=
  { width := 2, height := 67108864, stride := 64, format := .ycbcr420, usage := .hwFb
    memory := some (.name 1) }

/-- The strip is allocated for scanout, and a framebuffer over its luma plane alone is asked for under the
format with two planes. -/
theorem chroma_left_out :
    let made := virtual.step (.create 2 67108864 35 .hwFb)
    made.1 = .ok (.created strip 64) ∧
      strip.exactPlanes = [⟨0, 64, 67108864⟩, ⟨2 ^ 32, 64, 33554432⟩] ∧
      framebuffers made.2.process.host.kernel.trace =
        [(1000, (addFb2 2 67108864 PixelFormat.ycbcr420.fourcc (.single 1 64)).argument)] := by
  refine ⟨?_, ?_, ?_⟩ <;> decide +kernel

end Client

end GraphicsBuffers

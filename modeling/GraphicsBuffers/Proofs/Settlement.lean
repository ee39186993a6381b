import GraphicsBuffers.Proofs.Ledger

/-!
# Histories that are settled

What an audited history tells in the end, when nothing is held any more (`Audit.settled`): whatever began
has ended once, what came with a handle between the beginning and the end of the handle, and the handle
while its card was open.
-/

namespace GraphicsBuffers

/-- A history, the oldest event first, after which nothing is held. -/
structure Settled (events : List Event) : Prop where
  /-- Nothing begins twice, and what begins ends once, and nothing else ends. -/
  once : ∀ i, events.countP (·.begins = some i) ≤ 1 ∧
    events.countP (·.ends = some i) = events.countP (·.begins = some i)
  /-- A handle is given back, in the way it was obtained, on the card it was obtained on, before that
  is closed. -/
  handle : ∀ {fd handle imported}, .obtained fd handle imported ∈ events →
    [.opened fd, .obtained fd handle imported, .released fd handle imported, .closed fd].Sublist events
  /-- A framebuffer is removed before the handle of its memory is given back. -/
  framebuffer : ∀ {fd handle id}, .attached fd handle id ∈ events → ∃ imported,
    [.opened fd, .obtained fd handle imported, .attached fd handle id, .detached fd id,
      .released fd handle imported, .closed fd].Sublist events
  /-- A mapping is removed before the handle of its memory is given back. -/
  mapping : ∀ {fd handle m}, .mapped fd handle m ∈ events → ∃ imported,
    [.opened fd, .obtained fd handle imported, .mapped fd handle m, .unmapped m,
      .released fd handle imported, .closed fd].Sublist events
  /-- Nothing happens on a card once it is closed. -/
  card : ∀ {fd before after}, events = before ++ .closed fd :: after → ∀ e ∈ after, e.card? ≠ some fd

namespace Audit

variable {es : List Event} {l : Ledger} {e e' : Event} {i : Item} {fd : Int32} {handle : UInt32}
  {imported : Bool}

theorem sublist_follow {later earlier rest : List Event} (e : Event) (sub : rest.Sublist earlier) :
    (e :: rest).Sublist (later ++ e :: earlier) :=
  (sub.cons_cons e).trans (List.sublist_append_right later _)

/-- What happens on a card happens after it is opened. -/
theorem on_card (audit : Audit es l) (mem : e ∈ es) (on : e.card? = some fd) (ne : e ≠ .opened fd) :
    [e, .opened fd].Sublist es := by
  obtain ⟨later, earlier, rfl⟩ := List.append_of_mem mem
  obtain ⟨l₀, l₁, before, posts, -⟩ := audit.split
  obtain ⟨e', mem', begins⟩ := before.begun_of_has (posts.has_card_of_card on ne)
  obtain rfl : e' = .opened fd := by
    cases e' with
    | opened => cases begins; rfl
    | _ => cases begins
  exact sublist_follow e (List.singleton_sublist.2 mem')

/-- What comes with a handle comes after the handle was obtained on the same card. -/
theorem with_handle (audit : Audit es l) (mem : e ∈ es) (comes : e.handle? = some handle)
    (begins : e.begins = some i) (part : i ≠ .handle handle) :
    ∃ fd imported, e.card? = some fd ∧
      [e, .obtained fd handle imported, .opened fd].Sublist es := by
  obtain ⟨later, earlier, rfl⟩ := List.append_of_mem mem
  obtain ⟨l₀, l₁, before, posts, -⟩ := audit.split
  obtain ⟨fd, a, on, card, held⟩ := posts.holds comes begins part
  obtain ⟨fd', card', obtained, -⟩ := before.origin held
  obtain rfl : fd' = fd := Option.some.inj (card'.symm.trans card)
  exact ⟨fd', a.imported, on, sublist_follow e (before.on_card obtained rfl nofun)⟩

/-- What ends has begun, and if both happen on a card it is the same. -/
theorem with_beginning (audit : Audit es l) (mem : e ∈ es) (mem' : e' ∈ es)
    (begins : e.begins = some i) (ends : e'.ends = some i) :
    ∃ later earlier, es = later ++ e' :: earlier ∧ e ∈ earlier ∧
      ∀ fd, e'.card? = some fd → e.card? = some fd := by
  obtain ⟨later, earlier, rfl⟩ := List.append_of_mem mem'
  obtain ⟨l₀, l₁, before, posts, -⟩ := audit.split
  have has := posts.has_of_ends ends
  have ne (fd : Int32) : e' ≠ .opened fd := by rintro rfl; cases ends
  have same {e'' : Event} (mem'' : e'' ∈ earlier) (begins'' : e''.begins = some i) : e'' = e :=
    audit.begins_inj (List.mem_append_right _ (List.mem_cons_of_mem _ mem'')) mem begins'' begins
  rcases has with ⟨fd, card, rfl⟩ | ⟨handle, has⟩
  · obtain ⟨e'', mem'', begins''⟩ := before.begun_of_has (Ledger.has_card.2 card)
    obtain rfl := same mem'' begins''
    refine ⟨later, earlier, rfl, mem'', fun fd' on => ?_⟩
    have card' := Ledger.has_card.1 (posts.has_card_of_card on (ne fd'))
    obtain rfl : fd = fd' := Option.some.inj (card.symm.trans card')
    cases e'' with
    | opened => cases begins; rfl
    | _ => cases begins
  · obtain ⟨e'', mem'', begins'', -, on''⟩ := before.begun has
    obtain rfl := same mem'' begins''
    refine ⟨later, earlier, rfl, mem'', fun fd' on => ?_⟩
    exact on''.trans (Ledger.has_card.1 (posts.has_card_of_card on (ne fd')))

/-- A handle that is not held has been given back as it was obtained, and what came with it before
that. -/
theorem of_released (audit : Audit es l) (mem : .obtained fd handle imported ∈ es)
    (gone : ¬l.Has (.handle handle)) :
    ∃ later earlier, es = later ++ .released fd handle imported :: earlier ∧
      .obtained fd handle imported ∈ earlier ∧
      ∀ e ∈ es, e.handle? = some handle → ∀ i ≠ .handle handle, e.begins = some i →
        e ∈ earlier ∧ ∃ e' ∈ earlier, e'.ends = some i := by
  obtain ⟨e', mem', ends⟩ := audit.ended mem rfl gone
  obtain ⟨later, earlier, rfl, first, -⟩ := audit.with_beginning mem mem' rfl ends
  obtain ⟨fd', imported', rfl⟩ : ∃ fd' imported', e' = .released fd' handle imported' := by
    cases e' <;> cases ends
    exact ⟨_, _, rfl⟩
  obtain ⟨l₀, l₁, before, posts, -⟩ := audit.split
  obtain ⟨card, size, held⟩ := posts.held_of_released
  obtain ⟨fd'', card', obtained, -⟩ := before.origin held
  obtain rfl : fd'' = fd' := Option.some.inj (card'.symm.trans card)
  cases before.begins_inj first obtained rfl rfl
  refine ⟨later, earlier, rfl, first, fun e mem comes i part begins => ?_⟩
  have needs (l₀ l₁ : Ledger) (posts : l₀.Posts e l₁) :
      l₀.Has (.handle handle) ∨ l₁.Has (.handle handle) := by
    obtain ⟨fd, a, -, -, held⟩ := posts.holds comes begins part
    exact .inl (Ledger.has_handle.2 ⟨a, held⟩)
  have notLater := audit.before_end rfl needs
  have earlier : e ∈ earlier := by
    rcases List.mem_append.1 mem with mem | mem
    · exact absurd mem notLater
    · rcases List.mem_cons.1 mem with rfl | mem
      · cases comes
      · exact mem
  refine ⟨earlier, before.ended earlier begins ?_⟩
  rintro (⟨fd, -, rfl⟩ | ⟨handle', has⟩)
  · cases e <;> cases begins
    cases comes
  · obtain ⟨e', mem', begins', comes', -⟩ := before.begun has
    obtain rfl := before.begins_inj earlier mem' begins begins'
    cases comes.symm.trans comes'
    rw [held] at has
    cases i <;> simp_all [Holding.Has]

/-- A mapping is removed as it was made. -/
theorem mapped_of_unmapped (audit : Audit es l) {m : Mapping} (mem : .unmapped m ∈ es) :
    ∃ fd handle, .mapped fd handle m ∈ es := by
  obtain ⟨later, earlier, rfl⟩ := List.append_of_mem mem
  obtain ⟨l₀, l₁, before, posts, -⟩ := audit.split
  obtain ⟨handle, a, held, has⟩ := posts.held_of_unmapped
  obtain ⟨fd, -, -, mapped⟩ := before.origin held
  exact ⟨fd, handle, List.mem_append_right _ (List.mem_cons_of_mem _ (mapped m has))⟩

/-- Nothing happens on a card once it is closed. -/
theorem after_closed {later earlier : List Event} (audit : Audit (later ++ .closed fd :: earlier) l)
    (mem : e ∈ later) : e.card? ≠ some fd := by
  intro on
  refine audit.before_end (e := e) (i := .card fd) rfl (fun l₀ l₁ posts => ?_) mem
  by_cases opens : e = .opened fd
  · exact .inr (posts.has_of_begins (opens ▸ rfl))
  · exact .inl (posts.has_card_of_card on opens)

/-- A card that is not held has been closed, when no handle was left. -/
theorem of_closed (audit : Audit es l) (mem : .opened fd ∈ es) (gone : ¬l.Has (.card fd)) :
    ∃ later earlier l₀, es = later ++ .closed fd :: earlier ∧ Audit earlier l₀ ∧
      ∀ handle, l₀.holdings handle = none := by
  obtain ⟨e', mem', ends⟩ := audit.ended mem rfl gone
  obtain ⟨later, earlier, rfl⟩ := List.append_of_mem mem'
  obtain rfl : e' = .closed fd := by
    cases e' with
    | closed => cases ends; rfl
    | _ => cases ends
  obtain ⟨l₀, l₁, before, posts, -⟩ := audit.split
  exact ⟨later, earlier, l₀, rfl, before, posts.bare_of_closed⟩

variable (nothing : ∀ i, ¬l.Has i)
include nothing

/-- A handle is given back before its card is closed, and what came with it before that. -/
theorem handle_settled (audit : Audit es l) (mem : .obtained fd handle imported ∈ es) :
    ∃ later middle earlier,
      es = later ++ .closed fd :: (middle ++ .released fd handle imported :: earlier) ∧
      [.obtained fd handle imported, .opened fd].Sublist earlier ∧
      ∀ e ∈ es, e.card? = some fd → e.handle? = some handle → ∀ i ≠ .handle handle,
        e.begins = some i → e ∈ earlier ∧ ∃ e' ∈ earlier, e'.ends = some i := by
  have opened : .opened fd ∈ es :=
    (audit.on_card mem rfl nofun).subset (List.mem_cons_of_mem _ List.mem_cons_self)
  obtain ⟨later, before, l₀, rfl, audit', bare⟩ := audit.of_closed opened (nothing _)
  have onCard {e : Event} (mem : e ∈ later ++ .closed fd :: before) (on : e.card? = some fd)
      (begins : e.begins.isSome) : e ∈ before := by
    rcases List.mem_append.1 mem with mem | mem
    · exact absurd on (audit.after_closed mem)
    · rcases List.mem_cons.1 mem with rfl | mem
      · cases begins
      · exact mem
  have first := onCard mem rfl rfl
  have gone : ¬l₀.Has (.handle handle) := by simp [Ledger.has_handle, bare]
  obtain ⟨middle, earlier, rfl, obtained, parts⟩ := audit'.of_released first gone
  obtain ⟨l₁, l₂, audit'', -, -⟩ := audit'.split
  refine ⟨later, middle, earlier, rfl, audit''.on_card obtained rfl nofun, ?_⟩
  intro e mem on comes i part begins
  exact parts e (onCard mem on (begins ▸ rfl)) comes i part begins

/-- What comes with a handle ends before the handle is given back. -/
theorem part_settled (audit : Audit es l) (mem : e ∈ es) (comes : e.handle? = some handle)
    (begins : e.begins = some i) (part : i ≠ .handle handle) :
    ∃ fd imported e', e.card? = some fd ∧ e'.ends = some i ∧
      (∀ fd', e'.card? = some fd' → fd' = fd) ∧
      [.closed fd, .released fd handle imported, e', e, .obtained fd handle imported,
        .opened fd].Sublist es := by
  obtain ⟨fd, imported, on, sub⟩ := audit.with_handle mem comes begins part
  have obtained : .obtained fd handle imported ∈ es :=
    sub.subset (List.mem_cons_of_mem _ List.mem_cons_self)
  obtain ⟨later, middle, earlier, rfl, -, parts⟩ := audit.handle_settled nothing obtained
  obtain ⟨mem', e', mem'', ends⟩ := parts e mem on comes i part begins
  obtain ⟨_, _, audit', -, -⟩ := audit.split
  obtain ⟨_, _, audit'', -, -⟩ := audit'.split
  obtain ⟨late, early, rfl, first, same⟩ := audit''.with_beginning mem' mem'' begins ends
  obtain ⟨_, _, audit₀, -, -⟩ := audit''.split
  obtain ⟨fd', imported', on', sub'⟩ := audit₀.with_handle first comes begins part
  obtain rfl : fd = fd' := Option.some.inj (on.symm.trans on')
  have obtained' : .obtained fd handle imported' ∈ early :=
    sub'.subset (List.mem_cons_of_mem _ List.mem_cons_self)
  have known : Event.obtained fd handle imported' = .obtained fd handle imported :=
    audit.begins_inj (by simp [obtained']) obtained rfl rfl
  cases known
  refine ⟨fd, imported, e', on, ends, fun fd' on' => ?_, ?_⟩
  · exact Option.some.inj ((same fd' on').symm.trans on)
  · exact sublist_follow _ (sublist_follow _ (sublist_follow _ sub'))

/-- A history after which nothing is held is settled. -/
theorem settled (audit : Audit es l) : Settled es.reverse where
  once i := by
    rcases audit.balanced i with ⟨has, -⟩ | ⟨-, le, same⟩
    · exact absurd has (nothing i)
    · simpa only [List.countP_reverse] using ⟨le, same⟩
  handle {fd handle imported} mem := by
    obtain ⟨later, middle, earlier, rfl, sub, -⟩ :=
      audit.handle_settled nothing (List.mem_reverse.1 mem)
    exact List.reverse_sublist.2 (sublist_follow _ (sublist_follow _ sub))
  framebuffer {fd handle id} mem := by
    obtain ⟨fd', imported, e', on, ends, same, sub⟩ :=
      audit.part_settled nothing (List.mem_reverse.1 mem) rfl rfl nofun
    cases on
    cases e' with
    | detached fd' =>
      cases ends
      obtain rfl := same fd' rfl
      exact ⟨imported, List.reverse_sublist.2 sub⟩
    | _ => cases ends
  mapping {fd handle m} mem := by
    obtain ⟨fd', imported, e', on, ends, same, sub⟩ :=
      audit.part_settled nothing (List.mem_reverse.1 mem) rfl rfl nofun
    cases on
    cases e' with
    | unmapped m' =>
      have unmapped : .unmapped m' ∈ es := sub.subset (by simp)
      obtain ⟨fd', handle', mapped⟩ := audit.mapped_of_unmapped unmapped
      cases audit.begins_inj mapped (List.mem_reverse.1 mem) rfl ends.symm
      exact ⟨imported, List.reverse_sublist.2 sub⟩
    | _ => cases ends
  card {fd before after} eq e mem := by
    have es_eq := congrArg List.reverse eq
    rw [List.reverse_reverse, List.reverse_append, List.reverse_cons, List.append_assoc] at es_eq
    subst es_eq
    exact audit.after_closed (List.mem_reverse.2 mem)

end Audit

end GraphicsBuffers

/-!
# Finite tables

A table maps keys to values, at most one value a key. It is kept as a list of pairs with distinct
keys, so that closed examples evaluate, and it is read only through `get?`: the lemmas say what
every operation does to `get?` and to `size`, and nothing else unfolds a table.
-/

namespace GraphicsBuffers

/-- Pairs of a key and its value, the newest first. -/
structure Table (κ α : Type) where
  entries : List (κ × α) := []
  distinct : (entries.map (·.1)).Nodup := by simp
  deriving DecidableEq

namespace Table

theorem ext_entries {κ α : Type} {t u : Table κ α} (h : t.entries = u.entries) : t = u := by
  cases t
  cases u
  cases h
  rfl

variable {κ α : Type} [DecidableEq κ]

/-- The table without entries. -/
def empty : Table κ α := {}

/-- The value stored under `k`. -/
def get? (t : Table κ α) (k : κ) : Option α :=
  (t.entries.find? fun e => decide (e.1 = k)).map (·.2)

/-- Whether a value is stored under `k`. -/
def contains (t : Table κ α) (k : κ) : Bool := (t.get? k).isSome

/-- Removes whatever is stored under `k`. -/
def erase (t : Table κ α) (k : κ) : Table κ α where
  entries := t.entries.filter fun e => decide (e.1 ≠ k)
  distinct := t.distinct.sublist (List.filter_sublist.map _)

/-- Stores `v` under `k`, in place of whatever was there. -/
def insert (t : Table κ α) (k : κ) (v : α) : Table κ α where
  entries := (k, v) :: (t.erase k).entries
  distinct := List.nodup_cons.2 ⟨by simp [erase], (t.erase k).distinct⟩

/-- The keys in use. -/
def keys (t : Table κ α) : List κ := t.entries.map (·.1)

/-- The number of entries. -/
def size (t : Table κ α) : Nat := t.entries.length

/-- The entries in another order: first those under the keys given, one after the other. -/
def arranged (t : Table κ α) : List κ → List (κ × α)
  | [] => t.entries
  | k :: order =>
    match t.get? k with
    | some v => (k, v) :: (t.erase k).arranged order
    | none => t.arranged order

/-! ## What the operations do to `get?` -/

@[simp] theorem get?_empty (k : κ) : (empty : Table κ α).get? k = none := rfl

theorem get?_erase (t : Table κ α) (k j : κ) :
    (t.erase k).get? j = if j = k then none else t.get? j := by
  simp only [get?, erase, List.find?_filter]
  split
  · next h =>
    subst h
    rw [List.find?_eq_none.2]
    · rfl
    · intro e _; simp
  · next h =>
    congr 1
    congr 1
    funext e
    by_cases he : e.1 = j
    · simp [he, h]
    · simp [he]

theorem get?_insert (t : Table κ α) (k j : κ) (v : α) :
    (t.insert k v).get? j = if j = k then some v else t.get? j := by
  by_cases h : j = k
  · subst h; simp [get?, insert]
  · have : ¬ k = j := fun e => h e.symm
    have := get?_erase t k j
    simp only [get?, insert] at this ⊢
    simp_all

@[simp] theorem get?_erase_self (t : Table κ α) (k : κ) : (t.erase k).get? k = none := by
  simp [get?_erase]

@[simp] theorem get?_insert_self (t : Table κ α) (k : κ) (v : α) :
    (t.insert k v).get? k = some v := by
  simp [get?_insert]

theorem get?_erase_of_ne (t : Table κ α) {k j : κ} (h : j ≠ k) :
    (t.erase k).get? j = t.get? j := by
  simp [get?_erase, h]

theorem get?_insert_of_ne (t : Table κ α) {k j : κ} (v : α) (h : j ≠ k) :
    (t.insert k v).get? j = t.get? j := by
  simp [get?_insert, h]

theorem erase_insert_self (t : Table κ α) (k : κ) (v : α) : (t.insert k v).erase k = t.erase k := by
  refine ext_entries ?_
  simp only [insert, erase, List.filter_cons, List.filter_filter]
  simp

theorem insert_insert_self (t : Table κ α) (k : κ) (v w : α) :
    (t.insert k v).insert k w = t.insert k w :=
  ext_entries (congrArg ((k, w) :: ·) (congrArg entries (t.erase_insert_self k v)))

theorem contains_insert (t : Table κ α) (k j : κ) (v : α) :
    (t.insert k v).contains j ↔ j = k ∨ t.contains j := by
  rw [contains, get?_insert]
  split <;> simp_all [contains]

theorem contains_erase (t : Table κ α) (k j : κ) :
    (t.erase k).contains j ↔ j ≠ k ∧ t.contains j := by
  rw [contains, get?_erase]
  split <;> simp_all [contains]

/-! ## How many entries there are -/

/-- A table with a value under `k` splits at that entry, and no other entry has the key. -/
theorem split_of_get? {t : Table κ α} {k : κ} {v : α} (h : t.get? k = some v) :
    ∃ xs ys, t.entries = xs ++ (k, v) :: ys ∧ ∀ e ∈ xs ++ ys, e.1 ≠ k := by
  obtain ⟨⟨k', v'⟩, hf, rfl⟩ := Option.map_eq_some_iff.1 h
  obtain rfl : k' = k := by simpa using List.find?_some hf
  obtain ⟨xs, ys, hs⟩ := List.append_of_mem (List.mem_of_find?_eq_some hf)
  have hd := t.distinct
  simp only [hs, List.map_append, List.map_cons, List.nodup_append, List.nodup_cons] at hd
  refine ⟨xs, ys, hs, fun e he hk => ?_⟩
  rcases List.mem_append.1 he with he | he
  · exact hd.2.2 _ (List.mem_map_of_mem he) _ List.mem_cons_self hk
  · exact hd.2.1.1 (hk ▸ List.mem_map_of_mem he)

theorem mem_entries {t : Table κ α} {k : κ} {v : α} :
    (k, v) ∈ t.entries ↔ t.get? k = some v := by
  refine ⟨fun h => ?_, fun h => ?_⟩
  · cases found : t.get? k with
    | none => simpa using List.find?_eq_none.1 (Option.map_eq_none_iff.1 found) _ h
    | some w =>
      obtain ⟨xs, ys, hs, hne⟩ := split_of_get? found
      rw [hs, List.mem_append, List.mem_cons] at h
      rcases h with h | h | h
      · exact absurd rfl (hne _ (List.mem_append_left _ h))
      · rw [(Prod.mk.inj h).2]
      · exact absurd rfl (hne _ (List.mem_append_right _ h))
  · obtain ⟨xs, ys, hs, -⟩ := split_of_get? h
    simp [hs]

/-- The entry under `k` and those that are left without it are all. -/
theorem perm_of_get? {t : Table κ α} {k : κ} {v : α} (h : t.get? k = some v) :
    t.entries.Perm ((k, v) :: (t.erase k).entries) := by
  obtain ⟨xs, ys, hs, hne⟩ := split_of_get? h
  have others : (t.erase k).entries = xs ++ ys := by
    have kept := List.filter_eq_self.2 fun e he => decide_eq_true (hne e he)
    simpa [erase, hs, List.filter_append] using kept
  rw [others, hs]
  exact List.perm_middle

theorem size_erase_of_some {t : Table κ α} {k : κ} {v : α} (h : t.get? k = some v) :
    (t.erase k).size + 1 = t.size :=
  (perm_of_get? h).length_eq.symm

theorem erase_of_none {t : Table κ α} {k : κ} (h : t.get? k = none) :
    (t.erase k).entries = t.entries := by
  refine List.filter_eq_self.2 fun e he => ?_
  have := List.find?_eq_none.1 (Option.map_eq_none_iff.1 h) e he
  simpa using this

theorem size_insert_of_none {t : Table κ α} {k : κ} (v : α) (h : t.get? k = none) :
    (t.insert k v).size = t.size + 1 := by
  simp [size, insert, erase_of_none h]

theorem size_insert_of_some {t : Table κ α} {k : κ} {w : α} (v : α) (h : t.get? k = some w) :
    (t.insert k v).size = t.size := by
  rw [← size_erase_of_some h]
  rfl

theorem get?_eq_none_of_size {t : Table κ α} (h : t.size = 0) (k : κ) : t.get? k = none := by
  have : t.entries = [] := List.eq_nil_of_length_eq_zero h
  simp [get?, this]

/-! ## The entries in another order -/

/-- Each entry is there once, whatever keys are given. -/
theorem arranged_perm (t : Table κ α) (order : List κ) : (t.arranged order).Perm t.entries := by
  induction order generalizing t with
  | nil => exact .refl _
  | cons k order ih =>
    unfold arranged
    split
    · next v h => exact ((ih (t.erase k)).cons (k, v)).trans (perm_of_get? h).symm
    · exact ih t

@[simp] theorem arranged_empty (order : List κ) : (empty : Table κ α).arranged order = [] :=
  (empty.arranged_perm order).eq_nil

/-- Every order of the entries can be given. -/
theorem arranged_of_perm {t : Table κ α} {entries : List (κ × α)} (same : entries.Perm t.entries) :
    t.arranged (entries.map (·.1)) = entries := by
  induction entries generalizing t with
  | nil => exact same.symm.eq_nil
  | cons e entries ih =>
    have h : t.get? e.1 = some e.2 := mem_entries.1 (same.subset List.mem_cons_self)
    simp only [List.map_cons, arranged, h]
    rw [ih (same.trans (perm_of_get? h)).cons_inv]

end Table

end GraphicsBuffers

import Mathlib.Data.List.Sort

/-! # Selecting rows of a table

The first rows that match, in a given order: a filter, a stable sort and a limit. A
selection sees nothing of the rows that do not match.
-/

namespace Table

variable {α : Type*} (r : α → α → Prop) [DecidableRel r] (p : α → Bool) (n : ℕ)

/-- The first `n` of the rows that match, in the order `r`. -/
def select (rows : List α) : List α := ((rows.filter p).insertionSort r).take n

variable {r p n} {rows rows' : List α}

theorem mem_of_mem_select {x : α} (h : x ∈ select r p n rows) : x ∈ rows ∧ p x = true := by
  have hsorted : x ∈ (rows.filter p).insertionSort r := List.mem_of_mem_take h
  have hfilt : x ∈ rows.filter p := (List.mem_insertionSort r).mp hsorted
  exact List.mem_filter.mp hfilt

/-- When the rows that match are all among those that satisfy `q`, the other rows do not
matter. -/
theorem select_congr {q : α → Bool} (hpq : ∀ x, p x = true → q x = true)
    (h : rows.filter q = rows'.filter q) : select r p n rows = select r p n rows' := by
  have hpart : ∀ l : List α, l.filter p = (l.filter q).filter p := by
    intro l
    rw [List.filter_filter]
    refine List.filter_congr fun x _ => ?_
    cases hp : p x with
    | false => rfl
    | true => simp [hpq x hp]
  rw [select, select, hpart rows, hpart rows', h]

theorem select_nil : select r p n ([] : List α) = [] := by
  simp [select]

/-- A single row that matches is selected. -/
theorem select_singleton {x : α} (hp : p x = true) (hn : 1 ≤ n) : select r p n [x] = [x] := by
  have hfilt : [x].filter p = [x] := by simp [hp]
  rw [select, hfilt]
  exact List.take_of_length_le hn

/-- Where the keys are distinct, a row is found by its key. -/
theorem find?_key_of_nodup {κ : Type*} [BEq κ] [LawfulBEq κ] {key : α → κ} {x : α}
    (hnodup : (rows.map key).Nodup) (hmem : x ∈ rows) :
    rows.find? (fun y => key y == key x) = some x := by
  induction rows with
  | nil => exact absurd hmem List.not_mem_nil
  | cons y rows ih =>
    rw [List.map_cons, List.nodup_cons] at hnodup
    rcases List.mem_cons.mp hmem with rfl | htail
    · exact List.find?_cons_of_pos (beq_self_eq_true _)
    have hne : key y ≠ key x := fun heq => hnodup.1 (heq ▸ List.mem_map_of_mem htail)
    rw [List.find?_cons_of_neg (by simpa using hne)]
    exact ih hnodup.2 htail

/-! ## The first row with a key -/

section FirstMatch

variable {κ ο : Type*} [DecidableEq κ] {key : α → κ} {norm : κ → κ} {owner : α → ο}

/-- The first row with the normal form of a row's own key belongs to that row's owner, for all
rows, exactly if every normal form is a key of the table and rows whose keys have one normal
form have one owner. -/
theorem find?_owner_iff (hnorm : ∀ k, norm (norm k) = norm k) :
    (∀ x ∈ rows, ∃ y, rows.find? (fun y => key y = norm (key x)) = some y ∧ owner y = owner x) ↔
      (∀ x ∈ rows, ∃ y ∈ rows, key y = norm (key x)) ∧
        ∀ x ∈ rows, ∀ y ∈ rows, norm (key x) = norm (key y) → owner x = owner y := by
  constructor
  · intro h
    constructor
    · intro x hx
      obtain ⟨y, hfind, -⟩ := h x hx
      have hkey := List.find?_some hfind
      exact ⟨y, List.mem_of_find?_eq_some hfind, by simpa using hkey⟩
    intro x hx y hy heq
    obtain ⟨z, hfind, howner⟩ := h x hx
    obtain ⟨z', hfind', howner'⟩ := h y hy
    -- both look for the same key
    rw [heq, hfind', Option.some.injEq] at hfind
    rw [← howner, ← howner', hfind]
  rintro ⟨hlisted, howner⟩ x hx
  obtain ⟨y, hy, hkey⟩ := hlisted x hx
  have hsome : (rows.find? fun y => key y = norm (key x)).isSome := by
    rw [List.find?_isSome]
    exact ⟨y, hy, by simpa using hkey⟩
  obtain ⟨z, hfind⟩ := Option.isSome_iff_exists.mp hsome
  have hz : key z = norm (key x) := by simpa using List.find?_some hfind
  refine ⟨z, hfind, howner z (List.mem_of_find?_eq_some hfind) x hx ?_⟩
  rw [hz, hnorm]

end FirstMatch

end Table

import QuizMind.Table.Select
import Mathlib.Data.Prod.Lex
import Mathlib.Order.Basic

/-! # Pages after a key

A table is listed page by page: each page has the first rows whose key comes after that of the
last row of the page before. Where no two of the rows have one key, the pages are the sorted
rows cut into pieces (`select_after`, `exists_walk`).
-/

namespace Table

/-! ## Following cursors -/

section Walk

variable {π κ : Type*} (list : Option κ → π × Option κ)

/-- The pages from a cursor on, up to the first page that names no further cursor. -/
inductive Walk : Option κ → List π → Prop where
  | last {cursor : Option κ} {page : π} (h : list cursor = (page, none)) : Walk cursor [page]
  | more {cursor : Option κ} {page : π} {next : κ} {pages : List π}
      (h : list cursor = (page, some next)) (hrest : Walk (some next) pages) :
      Walk cursor (page :: pages)

variable {list}

section

variable {cursor : Option κ} {pages : List π} (h : Walk list cursor pages)
include h

theorem Walk.unique {pages' : List π} (h' : Walk list cursor pages') : pages = pages' := by
  induction h generalizing pages' with
  | last hpage | more hpage hrest ih =>
    cases h' with
    | last hpage' | more hpage' hrest' => grind

end

end Walk

/-- The list is cut into pages of `limit` rows, each with the cursor behind it; `Reached` says which
rows a cursor stands behind. -/
theorem exists_walk_pages {α κ π : Type*} {list : Option κ → π × Option κ}
    (pageOf : List α → Option κ → π) {limit : ℕ} (hlimit : 0 < limit) {sorted : List α}
    {Reached : Option κ → List α → Prop}
    (hlast : ∀ cursor done rest, sorted = done ++ rest → Reached cursor done →
      rest.length ≤ limit → list cursor = (pageOf rest none, none))
    (hmore : ∀ cursor done rest, sorted = done ++ rest → Reached cursor done →
      limit < rest.length → ∃ next,
        list cursor = (pageOf (rest.take limit) (some next), some next) ∧
        Reached (some next) (done ++ rest.take limit))
    {cursor : Option κ} {done rest : List α} (hsplit : sorted = done ++ rest)
    (hreached : Reached cursor done) :
    ∃ (full : List (List α × κ)) (last : List α),
      Walk list cursor ((full.map fun piece => pageOf piece.1 (some piece.2)) ++
        [pageOf last none]) ∧
      (full.map Prod.fst).flatten ++ last = rest ∧ ∀ piece ∈ full, piece.1.length = limit := by
  induction hlen : rest.length using Nat.strong_induction_on generalizing cursor done rest with
  | _ length ih =>
    subst hlen
    by_cases hshort : rest.length ≤ limit
    · refine ⟨[], rest, .last (hlast cursor done rest hsplit hreached hshort), ?_, ?_⟩
      · exact List.nil_append rest
      · nofun
    rw [not_le] at hshort
    obtain ⟨next, hpage, hnext⟩ := hmore cursor done rest hsplit hreached hshort
    have hsplit' : sorted = done ++ rest.take limit ++ rest.drop limit := by
      simp_all [List.append_assoc]
    have hdecreases : (rest.drop limit).length < rest.length := by
      rw [List.length_drop]
      omega
    obtain ⟨full, last, hwalk, hflatten, hfull⟩ := ih _ hdecreases hsplit' hnext rfl
    refine ⟨(rest.take limit, next) :: full, last, .more hpage hwalk, ?_, ?_⟩
    · rw [List.map_cons, List.flatten_cons, List.append_assoc, hflatten, List.take_append_drop]
    · grind

/-- The pages of a listing that shows nothing but the rows. -/
theorem exists_walk {α κ : Type*} {list : Option κ → List α × Option κ} {limit : ℕ}
    (hlimit : 0 < limit) {sorted : List α} {Reached : Option κ → List α → Prop}
    (hlast : ∀ cursor done rest, sorted = done ++ rest → Reached cursor done →
      rest.length ≤ limit → list cursor = (rest, none))
    (hmore : ∀ cursor done rest, sorted = done ++ rest → Reached cursor done →
      limit < rest.length → ∃ next, list cursor = (rest.take limit, some next) ∧
        Reached (some next) (done ++ rest.take limit))
    {cursor : Option κ} {done rest : List α} (hsplit : sorted = done ++ rest)
    (hreached : Reached cursor done) :
    ∃ pages, Walk list cursor pages ∧ pages.flatten = rest ∧
      ∀ page ∈ pages.dropLast, page.length = limit := by
  have hpages : ∃ (full : List (List α × κ)) (last : List α),
      Walk list cursor ((full.map fun piece => piece.1) ++ [last]) ∧
        (full.map Prod.fst).flatten ++ last = rest ∧
        ∀ piece ∈ full, piece.1.length = limit :=
    exists_walk_pages (fun page _ => page) hlimit hlast hmore hsplit hreached
  obtain ⟨full, last, hwalk, hflatten, hfull⟩ := hpages
  refine ⟨_, hwalk, ?_, ?_⟩
  · grind
  · grind

/-- A listing whose first page names a cursor that leads to this page again never ends. -/
theorem not_walk_of_loop {π κ : Type*} {list : Option κ → π × Option κ} {page : π} {next : κ}
    (hfirst : list none = (page, some next)) (hagain : list (some next) = (page, some next))
    {cursor : Option κ} {pages : List π} (hcursor : cursor = none ∨ cursor = some next) :
    ¬ Walk list cursor pages := by
  intro h
  induction h with
  | last hlast | more hmore _ ih => grind

/-! ## Two columns -/

/-- Two columns, of which the first decides where it can, compare as one key. -/
theorem isLE_then_iff {δ ε : Type*} [LinearOrder δ] [LinearOrder ε] (x y : δ) (i j : ε) :
    ((compare x y).then (compare i j)).isLE = true ↔ toLex (x, i) ≤ toLex (y, j) := by
  rw [Prod.Lex.toLex_le_toLex]
  rcases lt_trichotomy x y with h | h | h
  · have hcompare := compare_lt_iff_lt.mpr h
    rw [hcompare]
    simp [h]
  · have hsecond : (compare i j).isLE = true ↔ i ≤ j := by
      rw [← compare_le_iff_le]
      exact Ordering.ne_gt_iff_isLE.symm
    simpa [h] using hsecond
  · have hcompare := compare_gt_iff_gt.mpr h
    rw [hcompare]
    simp [h.not_gt, h.ne']

/-! ## The rows after a key -/

section Key

variable {α δ : Type*} [LinearOrder δ] {rank : α → δ} {r : α → α → Prop} [DecidableRel r]
  {p : α → Bool} {rows : List α}

/-- Without ties the sorted rows ascend. -/
theorem pairwise_insertionSort (hr : ∀ a b, r a b ↔ rank a ≤ rank b)
    (hdist : rows.Pairwise fun a b => rank a ≠ rank b) :
    (rows.insertionSort r).Pairwise fun a b => rank a < rank b := by
  have htotal : Std.Total r := ⟨fun a b => by
    rw [hr, hr]
    exact le_total (rank a) (rank b)⟩
  have htrans : IsTrans α r := ⟨fun a b c hab hbc => by
    rw [hr] at hab hbc ⊢
    exact hab.trans hbc⟩
  have hle : (rows.insertionSort r).Pairwise r := List.pairwise_insertionSort r rows
  have hne : (rows.insertionSort r).Pairwise fun a b => rank a ≠ rank b :=
    ((List.perm_insertionSort r rows).pairwise_iff fun hab => Ne.symm hab).mpr hdist
  exact hle.imp₂ (fun a b hab hne => lt_of_le_of_ne ((hr a b).mp hab) hne) hne

/-- In an ascending list the items after a key are those behind the item with this key. -/
theorem filter_after {done rest : List α} {k : α} (hlast : done.getLast? = some k)
    (h : (done ++ rest).Pairwise fun a b => rank a < rank b) :
    (done ++ rest).filter (fun x => rank k < rank x) = rest := by
  obtain ⟨before, rfl⟩ := List.getLast?_eq_some_iff.mp hlast
  have hdone : (before ++ [k]).filter (fun x => rank k < rank x) = [] := by
    grind [List.filter_eq_nil_iff, List.mem_singleton]
  have hrest : rest.filter (fun x => rank k < rank x) = rest := by
    grind [List.filter_eq_self]
  rw [List.filter_append, hdone, hrest, List.nil_append]

/-- What is selected after the key of `k` are the rows behind `k` in the sorted table. -/
theorem select_after (hr : ∀ a b, r a b ↔ rank a ≤ rank b)
    (hdist : rows.Pairwise fun a b => rank a ≠ rank b) {done rest : List α} {k : α}
    (hsplit : (rows.filter p).insertionSort r = done ++ rest) (hlast : done.getLast? = some k)
    {q : α → Bool} (hq : ∀ x, q x = true ↔ rank k < rank x) (n : ℕ) :
    select r (fun x => p x && q x) n rows = rest.take n := by
  have hfilt : rows.filter (fun x => p x && q x) = (rows.filter p).filter q := by
    grind [List.filter_filter]
  have hascends := pairwise_insertionSort hr (hdist.filter p)
  have hafter : ((rows.filter p).insertionSort r).filter q = rest := by
    have hkey : q = fun x => decide (rank k < rank x) := by grind
    rw [hsplit] at hascends ⊢
    rw [hkey]
    exact filter_after hlast hascends
  -- sorting and filtering commute, for a table without ties
  have hperm : (((rows.filter p).filter q).insertionSort r).Perm rest := by
    rw [← hafter]
    exact (List.perm_insertionSort r _).trans
      ((List.perm_insertionSort r (rows.filter p)).symm.filter q)
  have hsorted := pairwise_insertionSort hr ((hdist.filter p).filter q)
  have hrest : rest.Pairwise fun a b => rank a < rank b := by
    rw [← hafter]
    exact hascends.filter q
  have heq : ((rows.filter p).filter q).insertionSort r = rest := by
    refine hperm.eq_of_pairwise ?_ hsorted hrest
    intro a b _ _ hab hba
    exact absurd hab hba.asymm
  unfold select
  rw [hfilt, heq]

end Key

end Table

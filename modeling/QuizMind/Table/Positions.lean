import Mathlib.Data.Prod.Lex
import Mathlib.Data.List.GetD
import Mathlib.Data.List.Nodup
import Mathlib.Data.List.Pairwise

/-! # Sorting by rank and position

A stable sort by rank leaves items of one rank in the order in which they stand. It is the
sort by rank and position (`map_fst_order`), which has no ties; where the ranks alone have
none, the order in which the items stand does not matter (`mergeSort_eq_of_perm`).
-/

namespace Positions

open Prod (fst snd)

variable {α δ : Type} [LinearOrder δ] (rank : α → δ)

/-- The rank of an item, and among equal ones its position. -/
def placed (item : α × ℕ) : δ ×ₗ ℕ := toLex (rank item.1, item.2)

def order (items : List (α × ℕ)) : List (α × ℕ) :=
  items.mergeSort fun a b => placed rank a ≤ placed rank b

/-- The positions grow along the list. -/
def Ascending (items : List (α × ℕ)) : Prop := items.Pairwise fun a b => a.2 < b.2

theorem ascending_zipIdx (items : List α) : Ascending items.zipIdx := by
  have hpositions : (items.zipIdx.map snd).Pairwise (· < ·) := by
    rw [List.zipIdx_map_snd]
    exact List.pairwise_lt_range'
  exact List.pairwise_map.mp hpositions

variable {items : List (α × ℕ)}

theorem Ascending.filter (h : Ascending items) (keep : α × ℕ → Bool) :
    Ascending (items.filter keep) := List.Pairwise.filter keep h

variable {rank}

theorem placed_le_iff {a b : α × ℕ} :
    placed rank a ≤ placed rank b ↔ rank a.1 < rank b.1 ∨ rank a.1 = rank b.1 ∧ a.2 ≤ b.2 :=
  Prod.Lex.toLex_le_toLex

theorem pairwise_le_mergeSort (items : List α) :
    (items.mergeSort fun a b => rank a ≤ rank b).Pairwise fun a b => rank a ≤ rank b := by
  have htrans : ∀ a b c : α, decide (rank a ≤ rank b) = true → decide (rank b ≤ rank c) = true →
      decide (rank a ≤ rank c) = true := by
    intro a b c hab hbc
    rw [decide_eq_true_eq] at hab hbc ⊢
    exact hab.trans hbc
  have htotal : ∀ a b : α, (decide (rank a ≤ rank b) || decide (rank b ≤ rank a)) = true := by
    intro a b
    rw [Bool.or_eq_true, decide_eq_true_eq, decide_eq_true_eq]
    exact le_total (rank a) (rank b)
  have hsorted := List.pairwise_mergeSort htrans htotal items
  exact hsorted.imp fun h => of_decide_eq_true h

/-- Without ties the sorted list does not depend on the order of the items. -/
theorem mergeSort_eq_of_perm {items others : List α} (hperm : others.Perm items)
    (hdist : items.Pairwise fun a b => rank a ≠ rank b) :
    (others.mergeSort fun a b => rank a ≤ rank b) =
      items.mergeSort fun a b => rank a ≤ rank b := by
  have hsame : (others.mergeSort fun a b => rank a ≤ rank b).Perm
      (items.mergeSort fun a b => rank a ≤ rank b) :=
    (List.mergeSort_perm others _).trans (hperm.trans (List.mergeSort_perm items _).symm)
  refine List.Perm.eq_of_pairwise ?_ (pairwise_le_mergeSort others) (pairwise_le_mergeSort items)
    hsame
  intro a b ha hb hab hba
  have hmem : a ∈ items := hperm.mem_iff.mp (List.mem_mergeSort.mp ha)
  have hmem' : b ∈ items := List.mem_mergeSort.mp hb
  have hsymm : Std.Symm fun a b : α => rank a ≠ rank b := ⟨fun a b h => Ne.symm h⟩
  by_contra hne
  exact hdist.forall hmem hmem' hne (le_antisymm hab hba)

/-- The sort by rank and position has no ties. -/
theorem pairwise_order (h : Ascending items) :
    (order rank items).Pairwise fun a b => placed rank a < placed rank b := by
  have hle : (order rank items).Pairwise fun a b => placed rank a ≤ placed rank b :=
    pairwise_le_mergeSort items
  have hne : (order rank items).Pairwise fun a b => placed rank a ≠ placed rank b := by
    refine ((List.mergeSort_perm items _).pairwise_iff fun hab => Ne.symm hab).mpr (h.imp ?_)
    intro a b hab heq
    have hposition : a.2 = b.2 := congrArg (fun p => (ofLex p).2) heq
    exact hab.ne hposition
  exact hle.imp₂ (fun a b hab hne => lt_of_le_of_ne hab hne) hne

theorem order_perm (items : List (α × ℕ)) : (order rank items).Perm items :=
  List.mergeSort_perm items _

/-- The stable sort by rank is the sort by rank and position. -/
theorem map_fst_order (h : Ascending items) : (order rank items).map fst =
      (items.map fst).mergeSort fun a b => rank a ≤ rank b := by
  -- the items at the positions 0, 1, .. are sent to the positions that they have here
  let moved : α × ℕ → α × ℕ := fun item => (item.1, (items.map snd).getD item.2 0)
  have hget : ∀ item ∈ (items.map fst).zipIdx, ∃ (hlt : item.2 < items.length),
      moved item = items[item.2] := by
    rintro ⟨a, k⟩ hitem
    have hk := List.mk_mem_zipIdx_iff_getElem?.mp hitem
    rw [List.getElem?_map, Option.map_eq_some_iff] at hk
    obtain ⟨pair, hpair, rfl⟩ := hk
    obtain ⟨hlt, hpair⟩ := List.getElem?_eq_some_iff.mp hpair
    refine ⟨hlt, ?_⟩
    have hsnd : (items.map snd).getD k 0 = items[k].2 := by
      rw [List.getD_eq_getElem _ _ (by rw [List.length_map]; exact hlt), List.getElem_map]
    show (pair.1, (items.map snd).getD k 0) = items[k]
    rw [hsnd, ← hpair]
  have hmoved : (items.map fst).zipIdx.map moved = items := by
    apply List.ext_getElem
    · rw [List.length_map, List.length_zipIdx, List.length_map]
    intro k hk hk'
    have hk : k < ((items.map fst).zipIdx).length := by
      rw [List.length_zipIdx, List.length_map]
      exact hk'
    have hmem : ((items.map fst).zipIdx)[k] ∈ (items.map fst).zipIdx :=
      List.getElem_mem hk
    obtain ⟨_, heq⟩ := hget _ hmem
    rw [List.getElem_map, heq]
    simp
  have hsame : ∀ a ∈ (items.map fst).zipIdx, ∀ b ∈ (items.map fst).zipIdx,
      List.zipIdxLE (fun x y => decide (rank x ≤ rank y)) a b =
        decide (placed rank (moved a) ≤ placed rank (moved b)) := by
    intro a ha b hb
    obtain ⟨halt, hma⟩ := hget a ha
    obtain ⟨hblt, hmb⟩ := hget b hb
    have hposition : a.2 ≤ b.2 ↔ (moved a).2 ≤ (moved b).2 := by
      rw [hma, hmb]
      constructor
      · intro hle
        rcases hle.lt_or_eq with hlt | heq
        · exact (List.pairwise_iff_getElem.mp h a.2 b.2 halt hblt hlt).le
        · simp only [heq, le_refl]
      intro hle
      by_contra hgt
      have hlt := List.pairwise_iff_getElem.mp h b.2 a.2 hblt halt (not_le.mp hgt)
      exact absurd hle (not_le.mpr hlt)
    have hplaced : placed rank (moved a) ≤ placed rank (moved b) ↔
        rank a.1 < rank b.1 ∨ rank a.1 = rank b.1 ∧ a.2 ≤ b.2 := by
      rw [placed_le_iff, hposition]
    rw [List.zipIdxLE]
    simp only [hplaced]
    rcases lt_trichotomy (rank a.1) (rank b.1) with hlt | heq | hgt
    · simp [hlt.le, hlt]
    · simp [heq]
    · simp [hgt.not_ge, hgt.not_gt, hgt.ne']
  have hsort : (((items.map fst).zipIdx).mergeSort
      (List.zipIdxLE fun x y => decide (rank x ≤ rank y))).map moved = order rank items := by
    have hmap := List.map_mergeSort (s := fun x y => decide (placed rank x ≤ placed rank y)) hsame
    rw [hmap, hmoved]
    rfl
  have hplain : (((items.map fst).zipIdx).mergeSort
      (List.zipIdxLE fun x y => decide (rank x ≤ rank y))).map (fun p => p.1) =
        (items.map fst).mergeSort fun x y => decide (rank x ≤ rank y) :=
    List.mergeSort_zipIdx
  rw [← hsort, List.map_map, ← hplain]
  rfl

end Positions

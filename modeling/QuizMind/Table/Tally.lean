import QuizMind.Table.GroupBy
import Mathlib.Data.List.Induction

/-! # Folds by key

A map that remembers the order of insertion is a list of pairs. A loop that reads the
value of an item's key, or a start value, and writes it back changed is a fold for
each key over the items of that key (`lookup_tally`).
-/

namespace GroupBy

open Prod (fst)

variable {κ V ι : Type} [DecidableEq κ]

/-- Change the value of a key, from `start` when there is none. -/
def accumulate (table : List (κ × V)) (key : κ) (start : V) (f : V → V) : List (κ × V) :=
  if key ∈ table.map fst then change table key f else table ++ [(key, f start)]

/-- Accumulate the items under their keys. -/
def tally (key : ι → κ) (start : κ → V) (f : V → ι → V) (items : List ι) : List (κ × V) :=
  items.foldl (fun table i => accumulate table (key i) (start (key i)) fun v => f v i) []

theorem lookup_cons (r : κ × V) (table : List (κ × V)) (k : κ) :
    (r :: table).lookup k = if k = r.1 then some r.2 else table.lookup k := by
  rw [List.lookup_cons]
  by_cases h : k = r.1
  · have heq : (k == r.1) = true := by simpa using h
    rw [if_pos h, heq]
  · have hne : (k == r.1) = false := by simpa using h
    rw [if_neg h, hne]

variable {k key : κ} {table : List (κ × V)}

theorem lookup_eq_none_iff : table.lookup k = none ↔ k ∉ table.map fst := by
  induction table with
  | nil => simp
  | cons r table ih =>
    rw [lookup_cons, List.map_cons, List.mem_cons]
    by_cases h : k = r.1
    · simp [h]
    · rw [if_neg h, ih]
      simp only [h, false_or]

theorem lookup_map {V' : Type} (table : List (κ × V)) (g : V → V') (k : κ) :
    (table.map fun r => (r.1, g r.2)).lookup k = (table.lookup k).map g := by
  induction table with
  | nil => rfl
  | cons r table ih => grind

theorem lookup_change (table : List (κ × V)) (key k : κ) (f : V → V) :
    (change table key f).lookup k = if k = key then (table.lookup k).map f else table.lookup k := by
  induction table with
  | nil => simp [change]
  | cons r table ih =>
    have hcons : change (r :: table) key f =
        (if r.1 = key then (r.1, f r.2) else r) :: change table key f := rfl
    have hfst : (if r.1 = key then (r.1, f r.2) else r).1 = r.1 := by
      split <;> rfl
    rw [hcons, lookup_cons, lookup_cons, ih, hfst]
    by_cases hr : k = r.1
    · grind
    · simp only [if_neg hr]

theorem lookup_accumulate (table : List (κ × V)) (key k : κ) (start : V) (f : V → V) :
    (accumulate table key start f).lookup k =
      if k = key then some (f ((table.lookup k).getD start)) else table.lookup k := by
  unfold accumulate
  by_cases hmem : key ∈ table.map fst
  · rw [if_pos hmem, lookup_change]
    by_cases hk : k = key
    · cases hlook : table.lookup k with
      | some v => rfl
      | none => grind
    · rw [if_neg hk, if_neg hk]
  · grind

/-- The value of a key is the fold over its items. -/
theorem lookup_tally (key : ι → κ) (start : κ → V) (f : V → ι → V) (items : List ι) (k : κ) :
    (tally key start f items).lookup k = if items.filter (fun i => key i = k) = [] then none
      else some ((items.filter fun i => key i = k).foldl f (start k)) := by
  induction items using List.reverseRecOn with
  | nil => rfl
  | append_singleton items i ih =>
    have happend : tally key start f (items ++ [i]) =
        accumulate (tally key start f items) (key i) (start (key i)) fun v => f v i := by
      unfold tally
      rw [List.foldl_append]
      rfl
    rw [happend, lookup_accumulate, ih, List.filter_append]
    by_cases hk : k = key i
    · have hi : [i].filter (fun i => key i = k) = [i] := by simp [hk]
      have hnonempty : items.filter (fun i => key i = k) ++ [i] ≠ [] := by simp
      have hstart : ((if items.filter (fun i => key i = k) = [] then none
          else some ((items.filter fun i => key i = k).foldl f (start k))).getD (start k)) =
          (items.filter fun i => key i = k).foldl f (start k) := by grind
      rw [if_pos hk, hi, if_neg hnonempty, List.foldl_append, ← hk, hstart]
      rfl
    · grind

/-! ## Removal -/

/-- The table without a key. -/
def remove (table : List (κ × V)) (key : κ) : List (κ × V) := table.filter fun r => r.1 ≠ key

variable {r : κ × V}

@[simp] theorem mem_remove : r ∈ remove table key ↔ r ∈ table ∧ r.1 ≠ key := by
  grind [remove]

/-- The removals of a loop. -/
theorem mem_foldl_remove {α : Type} (f : α → κ) (items : List α) :
    r ∈ items.foldl (fun table i => remove table (f i)) table ↔
      r ∈ table ∧ r.1 ∉ items.map f := by
  induction items generalizing table with
  | nil => simp
  | cons i items ih =>
    rw [List.foldl_cons, ih, mem_remove, List.map_cons, List.mem_cons, not_or, and_assoc]

variable {v : V}

theorem mem_of_lookup (h : table.lookup k = some v) : (k, v) ∈ table := by
  induction table with
  | nil => cases h
  | cons r table ih => grind

theorem lookup_of_unique (h : (k, v) ∈ table) (huniq : ∀ v', (k, v') ∈ table → v' = v) :
    table.lookup k = some v := by
  cases hlook : table.lookup k with
  | none => exact absurd (List.mem_map_of_mem h) (lookup_eq_none_iff.mp hlook)
  | some v' => rw [huniq v' (mem_of_lookup hlook)]

@[simp] theorem lookup_remove_self (table : List (κ × V)) (key : κ) :
    (remove table key).lookup key = none := by grind [mem_remove]

/-! ## Keys that occur once -/

section

variable (hkeys : (table.map fst).Nodup)
include hkeys

/-- Where each key occurs once, a filter acts on the values that are found. -/
theorem lookup_filter (p : V → Bool) (k : κ) :
    (table.filter fun r => p r.2).lookup k = (table.lookup k).filter p := by
  induction table with
  | nil => rfl
  | cons r table ih =>
    obtain ⟨hnew, hkeys⟩ := List.nodup_cons.mp hkeys
    rw [List.filter_cons, lookup_cons]
    by_cases hk : k = r.1
    · rw [if_pos hk]
      by_cases hp : p r.2 = true
      · rw [if_pos hp, lookup_cons, if_pos hk, Option.filter_some, if_pos hp]
      have hnone : table.lookup k = none := by
        rw [lookup_eq_none_iff, hk]
        exact hnew
      rw [if_neg hp, ih hkeys, hnone, Option.filter_some, if_neg hp]
      rfl
    rw [if_neg hk]
    by_cases hp : p r.2 = true
    · rw [if_pos hp, lookup_cons, if_neg hk, ih hkeys]
    · rw [if_neg hp, ih hkeys]

omit [DecidableEq κ] in
theorem nodup_keys_filter (p : κ × V → Bool) : ((table.filter p).map fst).Nodup :=
  hkeys.sublist (List.filter_sublist.map fst)

theorem nodup_keys_accumulate (key : κ) (start : V)
    (f : V → V) : ((accumulate table key start f).map fst).Nodup := by
  unfold accumulate
  by_cases hmem : key ∈ table.map fst
  · rw [if_pos hmem]
    have hsame : (change table key f).map fst = table.map fst := keys_change table key f
    rw [hsame]
    exact hkeys
  · grind

end

/-- A write of a key, whether it was there or not. -/
theorem mem_accumulate (h : r ∈ accumulate table key v fun _ => v) :
    r = (key, v) ∨ (r ∈ table ∧ r.1 ≠ key) := by
  unfold accumulate change at h
  by_cases hmem : key ∈ table.map fst
  · grind
  · grind

theorem mem_accumulate_self (table : List (κ × V)) (key : κ) (v : V) :
    (key, v) ∈ accumulate table key v fun _ => v := by
  refine mem_of_lookup ?_
  rw [lookup_accumulate, if_pos rfl]

theorem mem_accumulate_of_ne {start : V} {f : V → V} (h : r ∈ table) (hne : r.1 ≠ key) :
    r ∈ accumulate table key start f := by
  unfold accumulate change
  by_cases hmem : key ∈ table.map fst
  · grind
  · rw [if_neg hmem]
    exact List.mem_append_left _ h

end GroupBy

import QuizMind.Text.Chunked
import Mathlib.Data.List.Forall2
import Mathlib.Tactic.Common

/-! # Line ends with a stray carriage return

Two texts that differ only in stray `cr` in front of line ends are cut at the same blank lines,
as long as no `cr` makes an empty line look like one with something in it. The blocks then have
the same lines, up to a `cr` at their ends (`Loose.splitBlocks`).
-/

namespace Text

variable {α : Type} {cr lf : α}

/-- `Loose cr lf atStart text' text`: the left text is the right one with some `cr` in front of
line ends. Where a line has just begun (`atStart`), its end has none. -/
inductive Loose (cr lf : α) : Bool → List α → List α → Prop where
  | nil {atStart : Bool} : Loose cr lf atStart [] []
  | newline {atStart : Bool} {text' text : List α} :
      Loose cr lf true text' text → Loose cr lf atStart (lf :: text') (lf :: text)
  | char {atStart : Bool} {c : α} {text' text : List α} :
      c ≠ lf → Loose cr lf false text' text → Loose cr lf atStart (c :: text') (c :: text)
  | extra {text' text : List α} :
      Loose cr lf true text' text → Loose cr lf false (cr :: lf :: text') (lf :: text)

theorem Loose.weaken {atStart : Bool} {text' text : List α} (h : Loose cr lf atStart text' text) :
    Loose cr lf false text' text := by
  cases h with
  | nil => exact .nil
  | newline h => exact .newline h
  | char hc h => exact .char hc h
  | extra h => exact .extra h

variable [DecidableEq α]

/-- The lines of two blocks are the same, up to one `cr` at the end of a line. -/
def SameLines (cr lf : α) (block' block : List α) : Prop :=
  List.Forall₂ (fun line' line => line' = line ∨ line' = line ++ [cr])
    (block'.splitOn lf) (block.splitOn lf)

theorem SameLines.refl (block : List α) : SameLines cr lf block block :=
  List.forall₂_same.mpr fun _ _ => Or.inl rfl

variable {block' block : List α}

theorem SameLines.newline (h : SameLines cr lf block' block) :
    SameLines cr lf (lf :: block') (lf :: block) := by
  simp_all [List.splitOn_cons_eq_if_modifyHead, SameLines]

theorem SameLines.char {c : α} (hc : c ≠ lf)
    (h : SameLines cr lf block' block) : SameLines cr lf (c :: block') (c :: block) := by
  have hne : (c == lf) = false := beq_false_of_ne hc
  unfold SameLines at h ⊢
  rw [List.splitOn_cons_eq_if_modifyHead, List.splitOn_cons_eq_if_modifyHead, hne]
  -- the character goes to the front of the first line
  generalize block'.splitOn lf = lines' at h
  generalize block.splitOn lf = lines at h
  cases h with
  | nil => exact List.Forall₂.nil
  | cons hline hrest => simp_all

/-- A line end with a stray `cr`, in front of the same lines. -/
theorem SameLines.extra (hcr : cr ≠ lf)
    (h : SameLines cr lf block' block) : SameLines cr lf (cr :: lf :: block') (lf :: block) := by
  have hne : (cr == lf) = false := beq_false_of_ne hcr
  unfold SameLines
  rw [List.splitOn_cons_eq_if_modifyHead, List.splitOn_cons_eq_if_modifyHead,
    List.splitOn_cons_eq_if_modifyHead (x := lf), hne]
  simp only [beq_self_eq_true]
  exact List.Forall₂.cons (Or.inr rfl) h

/-- A `cr` alone is an empty line. -/
theorem SameLines.single (hcr : cr ≠ lf) : SameLines cr lf [cr] [] := by
  have hne : (cr == lf) = false := beq_false_of_ne hcr
  unfold SameLines
  rw [List.splitOn_cons_eq_if_modifyHead, hne]
  simp

omit [DecidableEq α] in
theorem blank_prefix_iff {text : List α} : [lf, lf] <+: lf :: text ↔ [lf] <+: text := by
  rw [List.cons_prefix_cons]
  simp

omit [DecidableEq α] in
theorem not_blank_of_ne {c : α} (hc : c ≠ lf) (text : List α) : ¬ [lf, lf] <+: c :: text := by
  intro hsep
  exact hc (List.cons_prefix_cons.mp hsep).1.symm

namespace Loose

variable {atStart : Bool} {text' text : List α}

theorem sameLines_append (hcr : cr ≠ lf) (h : Loose cr lf atStart text' text) (more : List α) :
    SameLines cr lf (text' ++ more) (text ++ more) := by
  induction h with
  | nil => exact SameLines.refl more
  | newline _ ih => exact SameLines.newline ih
  | char hc _ ih => exact SameLines.char hc ih
  | extra _ ih => exact SameLines.extra hcr ih

omit [DecidableEq α] in
/-- At the beginning of a line both texts end it at once, or neither does. -/
theorem prefix_iff (h : Loose cr lf true text' text) : [lf] <+: text' ↔ [lf] <+: text := by
  cases h with
  | nil => exact Iff.rfl
  | newline h => simp
  | char hc h => simp [hc.symm]

omit [DecidableEq α] in
theorem tail_of_newline {rest' rest : List α}
    (h : Loose cr lf true (lf :: rest') (lf :: rest)) : Loose cr lf true rest' rest := by
  cases h with
  | newline h => exact h
  | char hc h => exact absurd rfl hc

/-- Both texts are cut at the same blank line. -/
theorem cutAt_some (hcr : cr ≠ lf) (h : Loose cr lf atStart text' text) {block rest : List α}
    (hcut : cutAt [lf, lf] text = some (block, rest)) :
    ∃ block' rest', cutAt [lf, lf] text' = some (block', rest') ∧
      SameLines cr lf block' block ∧ Loose cr lf true rest' rest := by
  induction h generalizing block rest with
  | nil => cases hcut
  | char hc h ih =>
    rename_i c text' text
    rw [cutAt, if_neg (not_blank_of_ne hc text)] at hcut
    obtain ⟨⟨b, r⟩, hinner, heq⟩ := Option.map_eq_some_iff.mp hcut
    cases heq
    obtain ⟨b', r', hcut', hlines, hrest⟩ := ih hinner
    refine ⟨c :: b', r', ?_, SameLines.char hc hlines, hrest⟩
    rw [cutAt, if_neg (not_blank_of_ne hc text'), hcut']
    rfl
  | newline h ih =>
    rename_i text' text
    by_cases hblank : [lf] <+: text
    · obtain ⟨t, rfl⟩ := hblank
      obtain ⟨t', rfl⟩ := h.prefix_iff.mpr ⟨t, rfl⟩
      rw [cutAt, if_pos (blank_prefix_iff.mpr ⟨t, rfl⟩)] at hcut
      cases hcut
      refine ⟨[], t', ?_, SameLines.refl [], h.tail_of_newline⟩
      rw [cutAt, if_pos (blank_prefix_iff.mpr ⟨t', rfl⟩)]
      rfl
    have hblank' : ¬ [lf] <+: text' := fun hb => hblank (h.prefix_iff.mp hb)
    rw [cutAt, if_neg (fun hs => hblank (blank_prefix_iff.mp hs))] at hcut
    obtain ⟨⟨b, r⟩, hinner, heq⟩ := Option.map_eq_some_iff.mp hcut
    cases heq
    obtain ⟨b', r', hcut', hlines, hrest⟩ := ih hinner
    refine ⟨lf :: b', r', ?_, SameLines.newline hlines, hrest⟩
    rw [cutAt, if_neg (fun hs => hblank' (blank_prefix_iff.mp hs)), hcut']
    rfl
  | extra h ih =>
    rename_i text' text
    by_cases hblank : [lf] <+: text
    · obtain ⟨t, rfl⟩ := hblank
      obtain ⟨t', rfl⟩ := h.prefix_iff.mpr ⟨t, rfl⟩
      rw [cutAt, if_pos (blank_prefix_iff.mpr ⟨t, rfl⟩)] at hcut
      cases hcut
      -- the stray `cr` is left at the end of the block
      refine ⟨[cr], t', ?_, SameLines.single hcr, h.tail_of_newline⟩
      rw [cutAt, if_neg (not_blank_of_ne hcr _), cutAt, if_pos (blank_prefix_iff.mpr ⟨t', rfl⟩)]
      rfl
    have hblank' : ¬ [lf] <+: text' := fun hb => hblank (h.prefix_iff.mp hb)
    rw [cutAt, if_neg (fun hs => hblank (blank_prefix_iff.mp hs))] at hcut
    obtain ⟨⟨b, r⟩, hinner, heq⟩ := Option.map_eq_some_iff.mp hcut
    cases heq
    obtain ⟨b', r', hcut', hlines, hrest⟩ := ih hinner
    refine ⟨cr :: lf :: b', r', ?_, SameLines.extra hcr hlines, hrest⟩
    rw [cutAt, if_neg (not_blank_of_ne hcr _), cutAt, if_neg (fun hs => hblank' (blank_prefix_iff.mp hs)), hcut']
    rfl

theorem cutAt_none (hcr : cr ≠ lf) (h : Loose cr lf atStart text' text)
    (hcut : cutAt [lf, lf] text = none) : cutAt [lf, lf] text' = none := by
  induction h with
  | nil => exact hcut
  | char hc h ih =>
    rename_i c text' text
    rw [cutAt, if_neg (not_blank_of_ne hc text), Option.map_eq_none_iff] at hcut
    rw [cutAt, if_neg (not_blank_of_ne hc text'), ih hcut]
    rfl
  | newline h ih =>
    rename_i text' text
    by_cases hblank : [lf] <+: text
    · grind [cutAt]
    have hblank' : ¬ [lf] <+: text' := fun hb => hblank (h.prefix_iff.mp hb)
    rw [cutAt, if_neg (fun hs => hblank (blank_prefix_iff.mp hs)), Option.map_eq_none_iff] at hcut
    rw [cutAt, if_neg (fun hs => hblank' (blank_prefix_iff.mp hs)), ih hcut]
    rfl
  | extra h ih =>
    rename_i text' text
    by_cases hblank : [lf] <+: text
    · grind [cutAt]
    have hblank' : ¬ [lf] <+: text' := fun hb => hblank (h.prefix_iff.mp hb)
    rw [cutAt, if_neg (fun hs => hblank (blank_prefix_iff.mp hs)), Option.map_eq_none_iff] at hcut
    rw [cutAt, if_neg (not_blank_of_ne hcr _), cutAt, if_neg (fun hs => hblank' (blank_prefix_iff.mp hs)), ih hcut]
    rfl

/-- Both texts have the same blocks, and what is left over is loose again. -/
theorem splitBlocks (hcr : cr ≠ lf) (h : Loose cr lf atStart text' text) :
    List.Forall₂ (SameLines cr lf) (splitBlocks [lf, lf] text').1 (splitBlocks [lf, lf] text).1 ∧
      Loose cr lf false (splitBlocks [lf, lf] text').2 (splitBlocks [lf, lf] text).2 := by
  have hblank : [lf, lf] ≠ [] := List.cons_ne_nil lf [lf]
  induction hn : text.length using Nat.strongRecOn generalizing text text' atStart with
  | ind n ih =>
    cases hcut : cutAt [lf, lf] text with
    | none =>
      rw [splitBlocks_none hcut, splitBlocks_none (h.cutAt_none hcr hcut)]
      exact ⟨List.Forall₂.nil, h.weaken⟩
    | some p =>
      obtain ⟨block, rest⟩ := p
      obtain ⟨block', rest', hcut', hlines, hrest⟩ := h.cutAt_some hcr hcut
      have hlt : rest.length < n := hn ▸ length_rest_lt hblank hcut
      obtain ⟨hblocks, hleft⟩ := ih rest.length hlt hrest rfl
      rw [splitBlocks_some hblank hcut, splitBlocks_some hblank hcut']
      exact ⟨List.Forall₂.cons hlines hblocks, hleft⟩

end Loose

end Text

import Mathlib.Data.List.Basic
import Mathlib.Data.Nat.Notation

/-! # Splitting a text that arrives in chunks

A reader keeps a buffer: it appends the next chunk and takes blocks off the
front, each up to the next separator. What it has taken when the text is over
depends on the text alone, not on where it was cut into chunks (`feed_eq`).
-/

namespace Text

variable {α : Type} [DecidableEq α]

/-- The text before the first separator and the text after it. -/
def cutAt (sep : List α) : List α → Option (List α × List α)
  | [] => if sep = [] then some ([], []) else none
  | c :: rest =>
    if sep <+: c :: rest then some ([], (c :: rest).drop sep.length)
    else (cutAt sep rest).map fun p => (c :: p.1, p.2)

/-- Take blocks off the front of a buffer, at most `fuel` of them. -/
def takeBlocks (sep : List α) : ℕ → List α → List (List α) × List α
  | 0, buffer => ([], buffer)
  | fuel + 1, buffer =>
    match cutAt sep buffer with
    | none => ([], buffer)
    | some (block, rest) =>
      let out := takeBlocks sep fuel rest
      (block :: out.1, out.2)

/-- The blocks of a text and what follows the last separator. -/
def splitBlocks (sep : List α) (text : List α) : List (List α) × List α :=
  takeBlocks sep text.length text

/-- One chunk: the blocks that are complete with it, and the new buffer. -/
def feed (sep : List α) (out : List (List α) × List α) (chunk : List α) : List (List α) × List α :=
  let more := splitBlocks sep (out.2 ++ chunk)
  (out.1 ++ more.1, more.2)

section

variable {sep : List α}

variable {block rest text : List α}

/-- What is cut off and what is left are the text, without the separator. -/
theorem cutAt_some (h : cutAt sep text = some (block, rest)) : text = block ++ sep ++ rest := by
  induction text generalizing block rest with
  | nil =>
    unfold cutAt at h
    split at h
    · rename_i hsep
      cases h
      rw [hsep]
      rfl
    · cases h
  | cons c text ih =>
    unfold cutAt at h
    split at h
    · rename_i hsep
      cases h
      exact (List.prefix_iff_eq_append.mp hsep).symm
    rcases Option.map_eq_some_iff.mp h with ⟨⟨b, r⟩, hcut, heq⟩
    cases heq
    rw [ih hcut]
    rfl

theorem length_rest_lt (hsep : sep ≠ []) (h : cutAt sep text = some (block, rest)) :
    rest.length < text.length := by
  have hpos := List.length_pos_iff.mpr hsep
  rw [cutAt_some h, List.length_append, List.length_append]
  omega

/-- More text behind does not change the first cut. -/
theorem cutAt_append (more : List α) (h : cutAt sep text = some (block, rest)) :
    cutAt sep (text ++ more) = some (block, rest ++ more) := by
  induction text generalizing block rest with
  | nil =>
    unfold cutAt at h
    split at h
    · rename_i hsep
      cases h
      cases more <;> simp [cutAt, hsep]
    · cases h
  | cons c text ih =>
    unfold cutAt at h
    rw [List.cons_append, cutAt]
    split at h
    · rename_i hsep
      cases h
      have hlen := hsep.length_le
      have hmore : sep <+: c :: (text ++ more) :=
        hsep.trans (List.prefix_append (c :: text) more)
      rw [if_pos hmore, ← List.cons_append, List.drop_append_of_le_length hlen]
    rename_i hsep
    rcases Option.map_eq_some_iff.mp h with ⟨⟨b, r⟩, hcut, heq⟩
    cases heq
    have hlen : sep.length ≤ (c :: text).length := by
      rw [cutAt_some hcut]
      simp only [List.length_cons, List.length_append]
      omega
    -- a separator at the front would already stand in the text itself
    have hfront : ¬ sep <+: c :: (text ++ more) := by
      intro hmore
      exact hsep (List.prefix_of_prefix_length_le hmore (List.prefix_append (c :: text) more) hlen)
    rw [if_neg hfront, ih hcut]
    rfl

/-- Enough fuel is as good as more. -/
theorem takeBlocks_fuel (hsep : sep ≠ []) {fuel fuel' : ℕ} (h : text.length ≤ fuel)
    (h' : text.length ≤ fuel') : takeBlocks sep fuel text = takeBlocks sep fuel' text := by
  induction fuel generalizing fuel' text with
  | zero =>
    have hnil : text = [] := List.length_eq_zero_iff.mp (Nat.le_zero.mp h)
    subst hnil
    cases fuel' with
    | zero => rfl
    | succ fuel' => simp [takeBlocks, cutAt, hsep]
  | succ fuel ih =>
    cases fuel' with
    | zero =>
      have hnil : text = [] := List.length_eq_zero_iff.mp (Nat.le_zero.mp h')
      subst hnil
      simp [takeBlocks, cutAt, hsep]
    | succ fuel' =>
      unfold takeBlocks
      cases hcut : cutAt sep text with
      | none => rfl
      | some p =>
        have hlt := length_rest_lt hsep hcut
        have hrest : takeBlocks sep fuel p.2 = takeBlocks sep fuel' p.2 :=
          ih (by omega) (by omega)
        simp only [hrest]

theorem splitBlocks_none (h : cutAt sep text = none) : splitBlocks sep text = ([], text) := by
  unfold splitBlocks
  cases text with
  | nil => rfl
  | cons c text => simp only [List.length_cons, takeBlocks, h]

theorem splitBlocks_some (hsep : sep ≠ []) (h : cutAt sep text = some (block, rest)) :
    splitBlocks sep text = (block :: (splitBlocks sep rest).1, (splitBlocks sep rest).2) := by
  have hlt := length_rest_lt hsep h
  unfold splitBlocks
  cases hlen : text.length with
  | zero => omega
  | succ n =>
    have hrest : takeBlocks sep n rest = takeBlocks sep rest.length rest :=
      takeBlocks_fuel hsep (by omega) (Nat.le_refl _)
    simp only [takeBlocks, h, hrest]

/-- Splitting a longer text goes on from where the shorter one stopped. -/
theorem splitBlocks_append (hsep : sep ≠ []) (text more : List α) :
    splitBlocks sep (text ++ more) = feed sep (splitBlocks sep text) more := by
  induction hn : text.length using Nat.strongRecOn generalizing text with
  | ind n ih =>
    cases hcut : cutAt sep text with
    | none =>
      rw [splitBlocks_none hcut]
      simp [feed]
    | some p =>
      rcases p with ⟨block, rest⟩
      have hlt := length_rest_lt hsep hcut
      rw [splitBlocks_some hsep (cutAt_append more hcut), splitBlocks_some hsep hcut,
        ih rest.length (by omega) rest rfl]
      rfl

/-- The blocks of a text that arrives in chunks are those of the whole text. -/
theorem feed_eq (hsep : sep ≠ []) (chunks : List (List α)) (text : List α) :
    chunks.foldl (feed sep) (splitBlocks sep text) = splitBlocks sep (text ++ chunks.flatten) := by
  induction chunks generalizing text with
  | nil => simp
  | cons chunk chunks ih =>
    rw [List.foldl_cons, ← splitBlocks_append hsep, ih, List.flatten_cons, List.append_assoc]

end

end Text

import Mathlib.Data.List.DropRight
import Mathlib.Data.List.Nodup

/-! # Lists of tokens in a text

A list is written as its tokens with a separator between them, and read by splitting the text,
normalising the pieces, and dropping empty and repeated ones. It is read back exactly if no
token has the separator in it and each is normal (`readTokens_eq_iff`).
-/

namespace Text

/-! ## Both ends -/

section Strip

variable {α : Type} {p : α → Bool}

/-- What is trimmed at both ends stays as it is. -/
theorem dropWhile_rdropWhile (p : α → Bool) (l : List α) :
    ((l.dropWhile p).rdropWhile p).dropWhile p = (l.dropWhile p).rdropWhile p := by
  have hfront : (l.dropWhile p).rdropWhile p <+: l.dropWhile p := List.rdropWhile_prefix p _
  generalize (l.dropWhile p).rdropWhile p = trimmed at hfront
  rcases trimmed with _ | ⟨c, rest⟩
  · rfl
  -- the first character is the first one of the part that is left of the front
  rcases hfront with ⟨back, hback⟩
  have hhead : (l.dropWhile p).dropWhile p = l.dropWhile p := List.dropWhile_idempotent p l
  rw [← hback, List.cons_append] at hhead
  have hc : p c = false := by
    by_contra hp
    rw [Bool.not_eq_false] at hp
    rw [List.dropWhile_cons_of_pos hp] at hhead
    have hlen := (List.dropWhile_sublist p (l := rest ++ back)).length_le
    rw [hhead, List.length_cons] at hlen
    omega
  exact List.dropWhile_cons_of_neg (by simp [hc])

/-- What is left without the run of `p` at either end. -/
def strip (p : α → Bool) (l : List α) : List α := (l.dropWhile p).rdropWhile p

theorem strip_eq_self_iff (l : List α) :
    strip p l = l ↔ (∀ c ∈ l.head?, p c = false) ∧ ∀ c ∈ l.getLast?, p c = false := by
  constructor
  · intro h
    have hfront : l.dropWhile p = l := by
      -- neither run can have a character in it
      have hlen := (List.rdropWhile_prefix p (l.dropWhile p)).length_le
      have hsub := List.dropWhile_sublist p (l := l)
      have hle : l.length ≤ (l.dropWhile p).length := by grind [strip]
      exact hsub.eq_of_length_le hle
    have hback : l.rdropWhile p = l := by
      unfold strip at h
      rwa [hfront] at h
    constructor
    · intro c hc
      cases l with
      | nil => cases hc
      | cons d rest => simp_all
    intro c hc
    have hlast := List.rdropWhile_eq_self_iff.mp hback
    have hne : l ≠ [] := by
      rintro rfl
      cases hc
    have hc : l.getLast hne = c := by grind
    rw [← hc]
    exact (Bool.not_eq_true _).mp (hlast hne)
  · rintro ⟨hhead, hlast⟩
    have hfront : l.dropWhile p = l := by
      cases l with
      | nil => rfl
      | cons d rest => exact List.dropWhile_cons_of_neg (by simp [hhead d rfl])
    have hback : l.rdropWhile p = l := by
      apply List.rdropWhile_eq_self_iff.mpr
      intro hne
      have hc := hlast (l.getLast hne) (List.getLast?_eq_some_getLast hne)
      simp [hc]
    unfold strip
    rw [hfront, hback]

theorem strip_strip (l : List α) : strip p (strip p l) = strip p l := by
  grind [strip, dropWhile_rdropWhile, List.rdropWhile_idempotent]

variable {l u : List α}

theorem mem_of_mem_strip {c : α} (hc : c ∈ strip p l) : c ∈ l := by
  have hback : c ∈ l.dropWhile p := (List.rdropWhile_prefix p _).subset hc
  exact (List.dropWhile_sublist p).subset hback

/-- Nothing is left where there is nothing else. -/
theorem strip_eq_nil_iff : strip p l = [] ↔ ∀ c ∈ l, p c = true := by
  unfold strip
  rw [List.rdropWhile_eq_nil_iff]
  constructor
  · intro h c hc
    rw [← List.takeWhile_append_dropWhile (p := p) (l := l)] at hc
    rcases List.mem_append.mp hc with htaken | hleft
    · exact List.mem_takeWhile_imp htaken
    · exact h c hleft
  · grind [List.dropWhile_sublist]

/-- A list that begins with something else keeps its front. -/
theorem strip_eq_rdropWhile (h : ∀ c ∈ l.head?, p c = false) : strip p l = l.rdropWhile p := by
  cases l with
  | nil => rfl
  | cons c rest => grind [strip, List.dropWhile_cons_of_neg]

theorem rdropWhile_append_of_pos (hu : ∀ c ∈ u, p c = true) :
    (l ++ u).rdropWhile p = l.rdropWhile p := by simp_all [List.rdropWhile]

theorem rdropWhile_append_of_neg (hu : ∃ c ∈ u, p c = false) :
    (l ++ u).rdropWhile p = l ++ u.rdropWhile p := by
  grind [List.dropWhile_eq_nil_iff, List.rdropWhile, List.dropWhile_append]

/-- What is inserted before the end of a text is not seen after stripping exactly if there is
nothing but `p` from there on. -/
theorem strip_insert_iff {v : List α} (hl : ∀ c ∈ l.head?, p c = false) (hne : l ≠ [])
    (hu : u ≠ []) : strip p (l ++ (u ++ v)) = strip p (l ++ v) ↔ ∀ c ∈ u ++ v, p c = true := by
  have hhead : ∀ w : List α, (l ++ w).head? = l.head? := fun w => List.head?_append_of_ne_nil _ hne
  rw [strip_eq_rdropWhile (hhead (u ++ v) ▸ hl), strip_eq_rdropWhile (hhead v ▸ hl)]
  by_cases hall : ∀ c ∈ u ++ v, p c = true
  · have hv : ∀ c ∈ v, p c = true := fun c hc => hall c (List.mem_append_right _ hc)
    refine iff_of_true ?_ hall
    rw [rdropWhile_append_of_pos hall, rdropWhile_append_of_pos hv]
  refine iff_of_false ?_ hall
  have hsome : ∃ c ∈ u ++ v, p c = false := by simpa using hall
  rw [rdropWhile_append_of_neg hsome]
  intro heq
  have hlen := congrArg List.length heq
  by_cases hv : ∀ c ∈ v, p c = true
  · -- the end of `l` may be cut off, the end of `u` is kept
    have hcut := (List.rdropWhile_prefix p l).length_le
    have hkept : ((u ++ v).rdropWhile p) ≠ [] := by grind [List.rdropWhile_eq_nil_iff]
    have hpos := List.length_pos_iff.mpr hkept
    have hright : (l ++ v).rdropWhile p = l.rdropWhile p := rdropWhile_append_of_pos hv
    rw [hright, List.length_append] at hlen
    omega
  have hsome' : ∃ c ∈ v, p c = false := by simpa using hv
  have hpos := List.length_pos_iff.mpr hu
  have hleft : (u ++ v).rdropWhile p = u ++ v.rdropWhile p := rdropWhile_append_of_neg hsome'
  have hright : (l ++ v).rdropWhile p = l ++ v.rdropWhile p := rdropWhile_append_of_neg hsome'
  rw [hleft, hright] at hlen
  simp only [List.length_append] at hlen
  omega

/-- A larger class strips what the smaller one does. -/
theorem strip_of_strip {q : α → Bool} (hpq : ∀ c, q c = true → p c = true) (h : strip p l = l) :
    strip q l = l := by
  obtain ⟨hhead, hlast⟩ := (strip_eq_self_iff l).mp h
  have hq : ∀ c, p c = false → q c = false := by grind
  apply (strip_eq_self_iff l).mpr
  constructor
  · intro c hc
    exact hq c (hhead c hc)
  · intro c hc
    exact hq c (hlast c hc)

end Strip

/-! ## Without repetitions -/

section Distinct

variable {α : Type} [DecidableEq α]

theorem eraseDups_of_nodup {l : List α} (h : l.Nodup) : l.eraseDups = l := by
  induction l with
  | nil => rfl
  | cons x l ih =>
    obtain ⟨hx, hl⟩ := List.nodup_cons.mp h
    have hfilt : l.filter (fun y => !y == x) = l := by
      apply List.filter_eq_self.mpr
      intro y hy
      have hne : y ≠ x := by
        rintro rfl
        exact hx hy
      simp [hne]
    rw [List.eraseDups_cons, hfilt, ih hl]

end Distinct

/-! ## Reading a list -/

section Reading

variable {α β : Type} [DecidableEq α]

variable {text : List α}

/-- No piece has the separator in it. -/
theorem not_mem_of_mem_splitOn {sep : α} {piece : List α} (h : piece ∈ text.splitOn sep) :
    sep ∉ piece := by
  induction text generalizing piece with
  | nil => simp_all
  | cons c text ih =>
    rw [List.splitOn_cons_eq_if_modifyHead] at h
    split at h
    · grind
    rename_i hc
    -- the character goes to the front of the first piece
    cases hpieces : text.splitOn sep with
    | nil => exact absurd hpieces (List.splitOn_ne_nil sep text)
    | cons first pieces =>
      grind [List.modifyHead_cons]

/-- The characters of a piece are characters of the text. -/
theorem subset_of_mem_splitOn {sep : α} {piece : List α} (h : piece ∈ text.splitOn sep) :
    piece ⊆ text := by
  induction text generalizing piece with
  | nil => simp_all
  | cons c text ih =>
    rw [List.splitOn_cons_eq_if_modifyHead] at h
    split at h
    · grind
    cases hpieces : text.splitOn sep with
    | nil => exact absurd hpieces (List.splitOn_ne_nil sep text)
    | cons first pieces =>
      grind [List.modifyHead_cons, List.mem_cons_self]

variable [DecidableEq β]

/-- The tokens of a text: its pieces, normalised, without the dropped and the repeated ones. -/
def readTokens (sep : α) (normalize : List α → β) (keep : β → Bool) (text : List α) : List β :=
  (((text.splitOn sep).map normalize).filter keep).eraseDups

variable {sep : α} {normalize : List α → β} {keep : β → Bool} {write : β → List α}

section

variable (hnormal : ∀ piece, normalize (write (normalize piece)) = normalize piece)
include hnormal

/-- Every token that is read is normal, and the separator is not in it. -/
theorem mem_readTokens (hsub : ∀ piece, write (normalize piece) ⊆ piece) {token : β}
    (h : token ∈ readTokens sep normalize keep text) :
    sep ∉ write token ∧ normalize (write token) = token := by
  have hkept := List.mem_eraseDups.mp h
  have hmapped := (List.mem_filter.mp hkept).1
  obtain ⟨piece, hpiece, rfl⟩ := List.mem_map.mp hmapped
  constructor
  · intro hsep
    exact not_mem_of_mem_splitOn hpiece (hsub piece hsep)
  · exact hnormal piece

theorem readTokens_eq_iff
    (hsub : ∀ piece, write (normalize piece) ⊆ piece) {tokens : List β} (hne : tokens ≠ [])
    (hkeep : ∀ token ∈ tokens, keep token = true) (hnodup : tokens.Nodup) :
    readTokens sep normalize keep ([sep].intercalate (tokens.map write)) = tokens ↔
      ∀ token ∈ tokens, sep ∉ write token ∧ normalize (write token) = token := by
  constructor
  · intro hread token htok
    rw [← hread] at htok
    exact mem_readTokens hnormal hsub htok
  intro htokens
  have hsep : ∀ piece ∈ tokens.map write, sep ∉ piece := by grind
  have hpieces : tokens.map write ≠ [] := by
    rwa [Ne, List.map_eq_nil_iff]
  have hback : (tokens.map write).map normalize = tokens := by
    rw [List.map_map]
    apply (List.map_congr_left _).trans (List.map_id tokens)
    intro token htok
    exact (htokens token htok).2
  unfold readTokens
  rw [List.splitOn_intercalate sep hsep hpieces, hback, List.filter_eq_self.mpr hkeep,
    eraseDups_of_nodup hnodup]

end

end Reading

/-! ## The ends of a list -/

section Ends

variable {α : Type} (sep : α)

/-- A list begins as its first token does. -/
theorem head?_intercalate {token : List α} (h : token ≠ []) (tokens : List (List α)) :
    ([sep].intercalate (token :: tokens)).head? = token.head? := by
  cases tokens with
  | nil => rw [List.intercalate_singleton]
  | cons next tokens =>
    exact List.head?_append_of_ne_nil _ h

variable {tokens : List (List α)}

/-- A list ends as one of its tokens does. -/
theorem getLast?_intercalate (hne : tokens ≠ []) (h : ∀ token ∈ tokens, token ≠ []) :
    ∃ token ∈ tokens, ([sep].intercalate tokens).getLast? = token.getLast? := by
  induction tokens with
  | nil => exact absurd rfl hne
  | cons token tokens ih =>
    cases tokens with
    | nil => exact ⟨token, List.mem_cons_self, by rw [List.intercalate_singleton]⟩
    | cons next tokens =>
      have hnext : ∀ t ∈ next :: tokens, t ≠ [] := by grind
      obtain ⟨last, hlast, heq⟩ := ih (List.cons_ne_nil next tokens) hnext
      refine ⟨last, List.mem_cons_of_mem _ hlast, ?_⟩
      have htail : [sep].intercalate (next :: tokens) ≠ [] := by
        intro hnil
        -- the rest of the list begins with a token
        have hhead := head?_intercalate sep (h next (by simp)) tokens
        rw [hnil] at hhead
        exact h next (by simp) (List.head?_eq_none_iff.mp hhead.symm)
      rw [List.intercalate_cons_cons, List.getLast?_append_of_ne_nil _ htail, heq]

theorem intercalate_ne_nil (hne : tokens ≠ []) (h : ∀ token ∈ tokens, token ≠ []) :
    [sep].intercalate tokens ≠ [] := by
  obtain ⟨last, hlast, hend⟩ := getLast?_intercalate sep hne h
  intro hnil
  rw [hnil] at hend
  exact h last hlast (List.getLast?_eq_none_iff.mp hend.symm)

/-- A list of stripped tokens is stripped. -/
theorem strip_intercalate {p : α → Bool} (hne : tokens ≠ []) (h : ∀ token ∈ tokens, token ≠ [])
    (hstrip : ∀ token ∈ tokens, strip p token = token) :
    strip p ([sep].intercalate tokens) = [sep].intercalate tokens := by
  obtain ⟨last, hlast, hend⟩ := getLast?_intercalate sep hne h
  cases tokens with
  | nil => exact absurd rfl hne
  | cons token tokens =>
    have hbegin := head?_intercalate sep (h token (by simp)) tokens
    have htok := (strip_eq_self_iff token).mp (hstrip token (by simp))
    have hlast := (strip_eq_self_iff last).mp (hstrip last hlast)
    apply (strip_eq_self_iff _).mpr
    rw [hbegin, hend]
    exact ⟨htok.1, hlast.2⟩

end Ends

end Text

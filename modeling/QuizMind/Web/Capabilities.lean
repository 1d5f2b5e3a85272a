import QuizMind.Text.Trim
import QuizMind.Web.ConnectPage

/-! # Capabilities in a search parameter

The extension joins its capabilities by commas. The page reads the same list again if and only
if no capability has a comma in it or begins or ends with a quote or a square bracket; a list
that it takes for JSON begins with a bracket, and no token that it reads does.
-/

namespace QuizMind.ConnectPage

open Bridge Client Text

/-- Neither empty nor with white space at an end. -/
def IsTrimmed (s : String) : Prop := s ≠ "" ∧ jsTrim s = s

instance (s : String) : Decidable (IsTrimmed s) := inferInstanceAs (Decidable (_ ∧ _))

theorem normalizeTrimmedValue_of_trimmed {s : String} (h : IsTrimmed s) :
    normalizeTrimmedValue (some s) = some s := by
  unfold normalizeTrimmedValue
  rw [Option.map_some, h.2]
  simpa using h.1

theorem isTrimmed_of_no_space {s : String} (hne : s ≠ "")
    (hspace : ∀ c ∈ s.toList, isJsSpace c = false) : IsTrimmed s := by
  refine ⟨hne, ?_⟩
  rw [← String.toList_inj, toList_jsTrim]
  exact (strip_eq_self_iff _).mpr ⟨fun c hc => hspace c (List.mem_of_mem_head? hc),
    fun c hc => hspace c (List.mem_of_getLast? hc)⟩

theorem readTrimmedSearchParam_of_trimmed {s : String} (h : IsTrimmed s) :
    readTrimmedSearchParam (some (.text s)) = some s :=
  normalizeTrimmedValue_of_trimmed h

/-! ## Tokens -/

theorem isWrapping_of_space (c : Char) (h : isJsSpace c = true) : isWrapping c = true := by
  unfold isWrapping
  simp only [h, Bool.true_or]

variable (value : String)

theorem toList_normalizeCapabilityToken :
    (normalizeCapabilityToken value).toList = strip isWrapping value.toList := by
  grind [toList_jsTrim, normalizeCapabilityToken, String.toList_ofList, strip_of_strip, isWrapping_of_space, strip_strip]

theorem normalizeCapabilityToken_eq_self_iff :
    normalizeCapabilityToken value = value ↔ strip isWrapping value.toList = value.toList := by
  rw [← toList_normalizeCapabilityToken]
  exact String.toList_inj.symm

theorem normalizeCapabilityToken_self :
    normalizeCapabilityToken (normalizeCapabilityToken value) = normalizeCapabilityToken value := by
  rw [normalizeCapabilityToken_eq_self_iff, toList_normalizeCapabilityToken]
  exact strip_strip value.toList

/-- A capability that can stand in a list: it has no comma in it, and no white space, quote or
square bracket at an end. -/
def IsListable (capability : String) : Prop :=
  ',' ∉ capability.toList ∧ (∀ c ∈ capability.toList.head?, isWrapping c = false) ∧
    ∀ c ∈ capability.toList.getLast?, isWrapping c = false

instance (capability : String) : Decidable (IsListable capability) :=
  @instDecidableAnd _ _ _ (@instDecidableAnd _ _ (Option.decidableForallMem _)
    (Option.decidableForallMem _))

theorem isListable_iff (capability : String) : IsListable capability ↔
      ',' ∉ capability.toList ∧ normalizeCapabilityToken capability = capability := by
  unfold IsListable
  rw [normalizeCapabilityToken_eq_self_iff, strip_eq_self_iff]

section

variable {parts : List String} {token : String} (h : token ∈ normalizedTokens parts)
include h

/-- Every token of an entry is normal. -/
theorem mem_normalizedTokens : normalizeCapabilityToken token = token := by
  obtain ⟨part, -, rfl⟩ := List.mem_map.mp (List.mem_filter.mp h).1
  exact normalizeCapabilityToken_self part

theorem ne_empty_of_mem_normalizedTokens : token ≠ "" := by
  simpa using (List.mem_filter.mp h).2

end

/-! ## Entries -/

variable (web : WebFunctions)

/-- The tokens of a text that is not taken for JSON. -/
def commaTokens (text : String) : List String :=
  normalizedTokens ((text.toList.splitOn ',').map String.ofList)

/-- The token of a piece. -/
def pieceToken (piece : List Char) : String := normalizeCapabilityToken (String.ofList piece)

theorem eraseDups_commaTokens (text : String) : (commaTokens text).eraseDups =
      readTokens ',' pieceToken (fun item => item ≠ "") text.toList := by
  unfold commaTokens normalizedTokens
  rw [List.map_map]
  rfl

theorem pieceToken_toList : pieceToken value.toList = normalizeCapabilityToken value := by
  unfold pieceToken
  rw [String.ofList_toList]

theorem pieceToken_self (piece : List Char) :
    pieceToken (pieceToken piece).toList = pieceToken piece := by
  rw [pieceToken_toList]
  exact normalizeCapabilityToken_self _

theorem pieceToken_sub (piece : List Char) : (pieceToken piece).toList ⊆ piece := by
  grind [toList_normalizeCapabilityToken, pieceToken, String.toList_ofList, mem_of_mem_strip]

theorem mem_parseCapabilitySearchEntry {value token : String}
    (h : token ∈ parseCapabilitySearchEntry web value) :
    normalizeCapabilityToken token = token ∧ token ≠ "" := by
  unfold parseCapabilitySearchEntry at h
  simp only at h
  split at h
  · cases h
  · split at h
    all_goals exact ⟨mem_normalizedTokens h, ne_empty_of_mem_normalizedTokens h⟩

/-- An entry that does not begin with a bracket is no JSON. -/
theorem parseCapabilitySearchEntry_of_head {value : String} (h : IsTrimmed value)
    (hhead : value.toList.head? ≠ some '[') :
    parseCapabilitySearchEntry web value = commaTokens value := by
  have hbracketed : parseBracketed web value = none := by grind [parseBracketed]
  unfold parseCapabilitySearchEntry
  rw [h.2, if_neg h.1]
  simp only [hbracketed]
  rfl

/-! ## The list of the extension -/

section Joined

variable {capabilities : List String}

/-- The capabilities of a handshake: some, trimmed, and no two the same. -/
structure IsCapabilityList (capabilities : List String) : Prop where
  ne_nil : capabilities ≠ []
  trimmed : ∀ capability ∈ capabilities, IsTrimmed capability
  nodup : capabilities.Nodup

theorem toList_joined : (",".intercalate capabilities).toList =
    [','].intercalate (capabilities.map String.toList) :=
  String.toList_intercalate

section

variable (hlist : IsCapabilityList capabilities)
include hlist

theorem ne_nil_of_mem_map : ∀ token ∈ capabilities.map String.toList, token ≠ [] := by
  intro token htok hnil
  obtain ⟨capability, hmem, rfl⟩ := List.mem_map.mp htok
  exact (hlist.trimmed capability hmem).1 (String.toList_eq_nil_iff.mp hnil)

theorem joined_trimmed : IsTrimmed (",".intercalate capabilities) := by
  have hne : capabilities.map String.toList ≠ [] := by
    rw [Ne, List.map_eq_nil_iff]
    exact hlist.ne_nil
  have hstrip : ∀ token ∈ capabilities.map String.toList, strip isJsSpace token = token := by
    intro token htok
    obtain ⟨capability, hmem, rfl⟩ := List.mem_map.mp htok
    rw [← toList_jsTrim, (hlist.trimmed capability hmem).2]
  constructor
  · intro hempty
    obtain ⟨last, hlast, hend⟩ := getLast?_intercalate ',' hne (ne_nil_of_mem_map hlist)
    rw [← toList_joined, hempty] at hend
    have hnil : last = [] := List.getLast?_eq_none_iff.mp hend.symm
    exact ne_nil_of_mem_map hlist last hlast hnil
  apply String.toList_injective
  rw [toList_jsTrim, toList_joined]
  exact strip_intercalate ',' hne (ne_nil_of_mem_map hlist) hstrip

/-- The list begins as a capability does. -/
theorem head?_joined : ∃ capability ∈ capabilities,
      (",".intercalate capabilities).toList.head? = capability.toList.head? := by
  rw [toList_joined]
  have hnonempty := ne_nil_of_mem_map hlist
  cases capabilities with
  | nil => exact absurd rfl hlist.ne_nil
  | cons first rest =>
    refine ⟨first, List.mem_cons_self, ?_⟩
    exact head?_intercalate ',' (hnonempty first.toList (by simp)) _

end

/-- No list begins with a bracket when its capabilities are normal. -/
theorem head?_joined_ne (hlist : IsCapabilityList capabilities)
    (hnormal : ∀ capability ∈ capabilities, normalizeCapabilityToken capability = capability) :
    (",".intercalate capabilities).toList.head? ≠ some '[' := by
  obtain ⟨capability, hmem, hhead⟩ := head?_joined hlist
  intro hbracket
  rw [hhead] at hbracket
  have hstrip := (normalizeCapabilityToken_eq_self_iff capability).mp (hnormal capability hmem)
  have hwrapping := ((strip_eq_self_iff _).mp hstrip).1 '[' hbracket
  cases hwrapping

/-- What the page reads from the one parameter. -/
theorem readStringListSearchParam_text {value : String} (h : value ≠ "") :
    readStringListSearchParam web (some (.text value)) =
      (parseCapabilitySearchEntry web value).eraseDups := by
  have hkept : (parseCapabilitySearchEntry web value).filter (fun item => item ≠ "") =
      parseCapabilitySearchEntry web value := by
    apply List.filter_eq_self.mpr
    intro token htok
    simpa using (mem_parseCapabilitySearchEntry web htok).2
  unfold readStringListSearchParam
  simp only [ne_eq, h, not_false_eq_true, if_true, List.flatMap_cons, List.flatMap_nil,
    List.append_nil]
  rw [hkept]

/-- Split at its commas, the list is what it was if and only if every capability can stand in
a list. -/
theorem commaTokens_eq_iff (hlist : IsCapabilityList capabilities) :
    (commaTokens (",".intercalate capabilities)).eraseDups = capabilities ↔
      ∀ capability ∈ capabilities, IsListable capability := by
  have hkeep : ∀ capability ∈ capabilities, decide (capability ≠ "") = true := by
    intro capability hmem
    simpa using (hlist.trimmed capability hmem).1
  rw [eraseDups_commaTokens, toList_joined,
    readTokens_eq_iff pieceToken_self pieceToken_sub hlist.ne_nil hkeep hlist.nodup]
  constructor
  · simp [isListable_iff, pieceToken_toList]
  intro hlistable capability hmem
  rw [pieceToken_toList]
  exact (isListable_iff capability).mp (hlistable capability hmem)

/-- The page reads the list of the extension if and only if every capability can stand in a
list. -/
theorem readCapabilities_eq_iff {searchParams : SearchParams}
    (hlist : IsCapabilityList capabilities)
    (hparam : searchParams "capabilities" = some (.text (",".intercalate capabilities)))
    (hnone : searchParams "capability" = none) :
    readCapabilities web searchParams = capabilities ↔
      ∀ capability ∈ capabilities, IsListable capability := by
  have htrim := joined_trimmed hlist
  have hread : readCapabilities web searchParams =
      (parseCapabilitySearchEntry web (",".intercalate capabilities)).eraseDups.eraseDups := by
    have hempty : readStringListSearchParam web none = [] := rfl
    unfold readCapabilities
    rw [hparam, hnone, readStringListSearchParam_text web htrim.1, hempty, List.append_nil]
  -- on both sides the capabilities are normal, so that the list is no JSON
  have hsplit : (∀ capability ∈ capabilities, normalizeCapabilityToken capability = capability) →
      readCapabilities web searchParams =
        (commaTokens (",".intercalate capabilities)).eraseDups.eraseDups := by
    intro hnormal
    rw [hread, parseCapabilitySearchEntry_of_head web htrim (head?_joined_ne hlist hnormal)]
  constructor
  · intro heq
    have hnormal : ∀ capability ∈ capabilities,
        normalizeCapabilityToken capability = capability := by
      intro capability hmem
      rw [← heq, hread, List.mem_eraseDups, List.mem_eraseDups] at hmem
      exact (mem_parseCapabilitySearchEntry web hmem).1
    have hcomma := hsplit hnormal
    rw [heq] at hcomma
    intro capability hmem
    rw [hcomma, List.mem_eraseDups, eraseDups_commaTokens] at hmem
    have htok := mem_readTokens pieceToken_self pieceToken_sub hmem
    rw [pieceToken_toList] at htok
    exact (isListable_iff capability).mpr htok
  · intro hlistable
    have hnormal : ∀ capability ∈ capabilities,
        normalizeCapabilityToken capability = capability := by
      intro capability hmem
      exact ((isListable_iff capability).mp (hlistable capability hmem)).2
    rw [hsplit hnormal, (commaTokens_eq_iff hlist).mpr hlistable]
    exact eraseDups_of_nodup hlist.nodup

end Joined

end QuizMind.ConnectPage

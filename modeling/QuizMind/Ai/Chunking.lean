import QuizMind.Ai.Usage
import QuizMind.Text.LooseLines
import QuizMind.Text.Tokens

/-! # The chunks of a stream

`inspectOpenRouterSseStream` replaces `\r\n` in each chunk by itself, so a line end that is cut
between two chunks keeps its carriage return. That is harmless at the end of a line, which is
trimmed, and hides a blank line. Streams of the same bytes are inspected alike where no chunk
ends between the two characters that end an empty line (`inspect_eq_of_sameBytes`).
-/

namespace QuizMind.Ai

open Text

/-! ## The chunks as texts -/

/-- A decoder in streaming mode: what it holds back is in its state, and each byte may make it
emit some characters. -/
structure TextDecoder (σ : Type) where
  start : σ
  push : σ → UInt8 → σ × List Char
  flush : σ → List Char

section Decoder

variable {σ : Type} (decoder : TextDecoder σ)

/-- The state after the bytes, and the text they gave. -/
def TextDecoder.decode : σ → List UInt8 → σ × List Char
  | state, [] => (state, [])
  | state, byte :: bytes =>
    let out := decoder.push state byte
    let more := decode out.1 bytes
    (more.1, out.2 ++ more.2)

/-- The state after the chunks, and the text of each. -/
def TextDecoder.decodeChunks : σ → List (List UInt8) → σ × List (List Char)
  | state, [] => (state, [])
  | state, chunk :: chunks =>
    let out := decoder.decode state chunk
    let more := decodeChunks out.1 chunks
    (more.1, out.2 :: more.2)

/-- The stream that reads the chunks and has no failure. -/
def sseStreamOf (chunks : List (List UInt8)) : SseStream where
  chunks := (decoder.decodeChunks decoder.start chunks).2
  flush := decoder.flush (decoder.decodeChunks decoder.start chunks).1

theorem TextDecoder.decode_append (state : σ) (bytes more : List UInt8) :
    decoder.decode state (bytes ++ more) = ((decoder.decode (decoder.decode state bytes).1 more).1,
        (decoder.decode state bytes).2 ++ (decoder.decode (decoder.decode state bytes).1 more).2) := by
  induction bytes generalizing state with
  | nil => rfl
  | cons byte bytes ih => simp [decode, ih]

/-- The text does not depend on the chunks. -/
theorem TextDecoder.decodeChunks_flatten (state : σ) (chunks : List (List UInt8)) :
    (decoder.decodeChunks state chunks).1 = (decoder.decode state chunks.flatten).1 ∧
      (decoder.decodeChunks state chunks).2.flatten = (decoder.decode state chunks.flatten).2 := by
  induction chunks generalizing state with
  | nil => exact ⟨rfl, rfl⟩
  | cons chunk chunks ih => simp_all [decode_append, decodeChunks]

theorem sseStreamOf_congr {chunks chunks' : List (List UInt8)}
    (h : chunks.flatten = chunks'.flatten) :
    (sseStreamOf decoder chunks).chunks.flatten = (sseStreamOf decoder chunks').chunks.flatten ∧
      (sseStreamOf decoder chunks).flush = (sseStreamOf decoder chunks').flush := by
  obtain ⟨hstate, htext⟩ := decoder.decodeChunks_flatten decoder.start chunks
  obtain ⟨hstate', htext'⟩ := decoder.decodeChunks_flatten decoder.start chunks'
  constructor
  · exact htext.trans ((h ▸ rfl : _ = _).trans htext'.symm)
  · show decoder.flush _ = decoder.flush _
    rw [hstate, hstate', h]

end Decoder

/-! ## Where a line end is cut -/

/-- No text ends between the two characters that end an empty line; `before` is the text that
has been read already. -/
def KeepsEmptyLines (before : List Char) (chunks : List (List Char)) : Prop :=
  ∀ front back, front ≠ [] → chunks = front ++ back → ['\n', '\r'] <:+ before ++ front.flatten →
    ¬ ['\n'] <+: back.flatten

variable {chunks : List (List Char)} {before : List Char}

/-- There is one way to cut the texts for each number of texts in front. -/
theorem keepsEmptyLines_iff :
    KeepsEmptyLines before chunks ↔ ∀ i ∈ List.range (chunks.length + 1), i ≠ 0 →
      ['\n', '\r'] <:+ before ++ (chunks.take i).flatten →
        ¬ ['\n'] <+: (chunks.drop i).flatten := by
  constructor
  · intro h i hi hzero hend
    by_cases hchunks : chunks = []
    · subst hchunks
      simp
    refine h (chunks.take i) (chunks.drop i) ?_ (List.take_append_drop i chunks).symm hend
    intro hnil
    rcases List.take_eq_nil_iff.mp hnil with hi | hempty
    · exact hzero hi
    · exact hchunks hempty
  rintro h front back hfront rfl hend
  have hlen : front.length ≠ 0 := fun hzero => hfront (List.length_eq_zero_iff.mp hzero)
  have hat := h front.length (List.mem_range.mpr (by rw [List.length_append]; omega)) hlen
  rw [List.take_left', List.drop_left'] at hat
  · exact hat hend
  · rfl
  · rfl

instance (before : List Char) (chunks : List (List Char)) :
    Decidable (KeepsEmptyLines before chunks) := decidable_of_iff' _ keepsEmptyLines_iff

/-- No chunk ends between the two characters that end an empty line. -/
def SseStream.KeepsEmptyLines (stream : SseStream) : Prop :=
  Ai.KeepsEmptyLines [] stream.chunks

instance (stream : SseStream) : Decidable stream.KeepsEmptyLines :=
  inferInstanceAs (Decidable (Ai.KeepsEmptyLines [] stream.chunks))

/-- The text in which the line ends are replaced chunk by chunk. -/
def replacedByChunk (chunks : List (List Char)) : List Char := (chunks.map replaceCrLf).flatten

theorem KeepsEmptyLines.skip (h : KeepsEmptyLines before ([] :: chunks)) :
    KeepsEmptyLines before chunks := by
  intro front back _ heq hend
  exact h ([] :: front) back (List.cons_ne_nil _ _) (by rw [heq]; rfl) hend

variable {c : Char}

theorem KeepsEmptyLines.push {chunk : List Char}
    (h : KeepsEmptyLines before ((c :: chunk) :: chunks)) :
    KeepsEmptyLines (before ++ [c]) (chunk :: chunks) := by
  intro front back hfront heq hend
  cases front with
  | nil => exact absurd rfl hfront
  | cons first front =>
    obtain ⟨rfl, rfl⟩ := List.cons.inj heq
    refine h ((c :: chunk) :: front) back (List.cons_ne_nil _ _) rfl ?_
    simpa using hend

/-- The first character of the texts can be taken off their first text that is not empty. -/
theorem peel_newline {text : List Char} (hflatten : chunks.flatten = '\n' :: text) :
    ∃ chunks', chunks'.flatten = text ∧ chunks'.length ≤ chunks.length ∧
      replacedByChunk chunks = '\n' :: replacedByChunk chunks' ∧
        ∀ before, KeepsEmptyLines before chunks → KeepsEmptyLines (before ++ ['\n']) chunks' := by
  induction chunks with
  | nil => cases hflatten
  | cons chunk chunks ih =>
    cases chunk with
    | nil =>
      obtain ⟨chunks', htext, hlen, hrepl, hkeeps⟩ := ih hflatten
      exact ⟨chunks', htext, hlen.trans (Nat.le_succ _), hrepl,
        fun before h => hkeeps before h.skip⟩
    | cons c chunk =>
      obtain ⟨rfl, htext⟩ := List.cons.inj hflatten
      refine ⟨chunk :: chunks, htext, le_rfl, ?_, fun before h => h.push⟩
      rfl

/-- The text so far ends a line. -/
def atLineStart (before : List Char) : Bool := before.getLast? = some '\n'

@[simp] theorem atLineStart_append_newline (before : List Char) :
    atLineStart (before ++ ['\n']) = true := by
  simp [atLineStart]

theorem atLineStart_append_char (before : List Char) (hc : c ≠ '\n') :
    atLineStart (before ++ [c]) = false := by
  simp [atLineStart, hc]

theorem replacedByChunk_cons {chunk : List Char} (chunks : List (List Char))
    (h : ∀ more, c = '\r' → chunk ≠ '\n' :: more) :
    replacedByChunk ((c :: chunk) :: chunks) = c :: replacedByChunk (chunk :: chunks) := by
  unfold replacedByChunk
  rw [List.map_cons, replaceCrLf_cons h]
  rfl

section Step

variable {atStart : Bool} {chunk : List Char} {rest : List (List Char)}

/-- A character that is no line end, and does not begin one. -/
theorem loose_char {c : Char} (hc : c ≠ '\n')
    (hno : ∀ more, c = '\r' → chunk ++ rest.flatten ≠ '\n' :: more)
    (h : Loose '\r' '\n' false (replacedByChunk (chunk :: rest))
      (replaceCrLf (chunk :: rest).flatten)) :
    Loose '\r' '\n' atStart (replacedByChunk ((c :: chunk) :: rest))
      (replaceCrLf ((c :: chunk) :: rest).flatten) := by
  have hchunk : ∀ more, c = '\r' → chunk ≠ '\n' :: more := by
    rintro more hcr rfl
    exact hno _ hcr rfl
  rw [replacedByChunk_cons rest hchunk, List.flatten_cons, List.cons_append, replaceCrLf_cons hno]
  exact Loose.char hc h

theorem loose_newline (h : Loose '\r' '\n' true (replacedByChunk (chunk :: rest))
      (replaceCrLf (chunk :: rest).flatten)) :
    Loose '\r' '\n' atStart (replacedByChunk (('\n' :: chunk) :: rest))
      (replaceCrLf (('\n' :: chunk) :: rest).flatten) := by
  exact Loose.newline h

/-- A line end that is cut, at the end of a line with something in it. -/
theorem loose_cut {rest' : List (List Char)} (hrest : rest.flatten = '\n' :: rest'.flatten)
    (hrepl : replacedByChunk rest = '\n' :: replacedByChunk rest')
    (h : Loose '\r' '\n' true (replacedByChunk rest') (replaceCrLf rest'.flatten)) :
    Loose '\r' '\n' false (replacedByChunk (['\r'] :: rest))
      (replaceCrLf (['\r'] :: rest).flatten) := by
  have hleft : replacedByChunk (['\r'] :: rest) = '\r' :: '\n' :: replacedByChunk rest' := by
    rw [← hrepl]
    rfl
  have hright : replaceCrLf (['\r'] :: rest).flatten = '\n' :: replaceCrLf rest'.flatten := by
    rw [List.flatten_cons, hrest]
    rfl
  rw [hleft, hright]
  exact Loose.extra h

end Step

/-- Where the next text begins with the line end that is cut, the line is not empty. -/
theorem KeepsEmptyLines.not_atLineStart {rest : List (List Char)}
    (h : KeepsEmptyLines before (['\r'] :: rest)) (hcut : ['\n'] <+: rest.flatten) :
    atLineStart before = false := by
  rw [← Bool.not_eq_true]
  intro hstart
  have hlast : before.getLast? = some '\n' := of_decide_eq_true hstart
  obtain ⟨front, rfl⟩ := List.getLast?_eq_some_iff.mp hlast
  exact h [['\r']] rest (List.cons_ne_nil _ _) rfl ⟨front, by simp⟩ hcut

/-- Replaced chunk by chunk, the text has some stray carriage returns in front of line ends, none
of them in an empty line. The induction takes characters off the front of the chunks. -/
theorem loose_replacedByChunk (chunks : List (List Char)) (h : KeepsEmptyLines before chunks) :
    Loose '\r' '\n' (atLineStart before) (replacedByChunk chunks) (replaceCrLf chunks.flatten) := by
  induction hn : chunks.flatten.length + chunks.length using Nat.strongRecOn
    generalizing chunks before with
  | ind n ih =>
    cases chunks with
    | nil => exact Loose.nil
    | cons chunk rest =>
      cases chunk with
      | nil =>
        have hlt : rest.flatten.length + rest.length < n := by grind
        exact ih _ hlt rest h.skip rfl
      | cons c chunk =>
        have hlt : (chunk :: rest).flatten.length + (chunk :: rest).length < n := by grind
        have hinner := ih _ hlt (chunk :: rest) h.push rfl
        by_cases hline : c = '\n'
        · subst hline
          rw [atLineStart_append_newline] at hinner
          exact loose_newline hinner
        rw [atLineStart_append_char before hline] at hinner
        by_cases hwhole : ∃ more, c = '\r' ∧ chunk = '\n' :: more
        · -- both characters of the line end are in this chunk
          obtain ⟨more, rfl, rfl⟩ := hwhole
          have hlt' : (more :: rest).flatten.length + (more :: rest).length < n := by grind
          have hmore := ih _ hlt' (more :: rest) h.push.push rfl
          rw [atLineStart_append_newline] at hmore
          exact Loose.newline hmore
        by_cases hcut : c = '\r' ∧ chunk = [] ∧ ['\n'] <+: rest.flatten
        · obtain ⟨rfl, rfl, hnext⟩ := hcut
          have hstart := h.not_atLineStart hnext
          obtain ⟨text, htext⟩ := hnext
          obtain ⟨rest', hrest', hlen, hrepl, hkeeps⟩ := peel_newline htext.symm
          have hflatten : rest.flatten = '\n' :: rest'.flatten := by simp_all
          have hlt' : rest'.flatten.length + rest'.length < n := by grind
          have hmore := ih _ hlt' rest' (hkeeps _ h.push.skip) rfl
          rw [atLineStart_append_newline] at hmore
          rw [hstart]
          exact loose_cut hflatten hrepl hmore
        refine loose_char hline ?_ hinner
        intro more hcr heq
        cases chunk with
        | nil => exact hcut ⟨hcr, rfl, more, heq.symm⟩
        | cons d chunk => grind

/-! ## The events -/

theorem trimText_append_cr (line : List Char) : trimText (line ++ ['\r']) = trimText line := by
  have hspace : isJsSpace '\r' = true := by decide
  unfold trimText
  rw [List.dropWhile_append]
  split
  · -- nothing but white space
    rename_i hempty
    rw [List.isEmpty_iff.mp hempty]
    rfl
  · simp_all

theorem eventData_congr {block' block : List Char} (h : SameLines '\r' '\n' block' block) :
    eventData block' = eventData block := by
  have hlines : (block'.splitOn '\n').map trimText = (block.splitOn '\n').map trimText := by
    unfold SameLines at h
    generalize block'.splitOn '\n' = lines' at h
    generalize block.splitOn '\n' = lines at h
    induction h with
    | nil => rfl
    | cons hline _ ih => grind [trimText_append_cr]
  unfold eventData
  rw [hlines]

theorem trimText_eq_nil_iff {text : List Char} :
    trimText text = [] ↔ ∀ c ∈ text, isJsSpace c = true := strip_eq_nil_iff

/-- A block of white space carries nothing. -/
theorem eventData_blank {block : List Char} (h : trimText block = []) : eventData block = none := by
  have hspace := trimText_eq_nil_iff.mp h
  have hdata : ((block.splitOn '\n').map trimText).filter
      (fun line => "data:".toList <+: line) = [] := by
    rw [List.filter_eq_nil_iff]
    intro line hline
    obtain ⟨piece, hpiece, rfl⟩ := List.mem_map.mp hline
    have hempty : trimText piece = [] := trimText_eq_nil_iff.mpr fun c hc =>
      hspace c (subset_of_mem_splitOn hpiece hc)
    rw [hempty]
    decide
  unfold eventData
  rw [hdata]
  rfl

section Parse

variable (parse : List Char → Option JsValue)

theorem eventObject_congr {block' block : List Char} (h : SameLines '\r' '\n' block' block) :
    eventObject parse block' = eventObject parse block := by
  unfold eventObject
  rw [eventData_congr h]

/-- The last block counts also when it is only white space: it carries nothing then. -/
theorem filterMap_blocksOf (text flush : List Char) :
    (blocksOf text flush).filterMap (eventObject parse) = ((Text.splitBlocks blankLine text).1 ++
        [(Text.splitBlocks blankLine text).2 ++ replaceCrLf flush]).filterMap
          (eventObject parse) := by
  unfold blocksOf
  simp only
  split
  · have hnone : eventObject parse
        ((Text.splitBlocks blankLine text).2 ++ replaceCrLf flush) = none := by
      grind [eventObject, eventData_blank]
    rw [List.filterMap_append, List.filterMap_cons_none hnone, List.filterMap_nil, List.append_nil]
  · rfl

/-- Stray carriage returns do not change the objects of a text. -/
theorem filterMap_blocksOf_congr {atStart : Bool} {text' text : List Char} (flush : List Char)
    (h : Loose '\r' '\n' atStart text' text) :
    (blocksOf text' flush).filterMap (eventObject parse) =
      (blocksOf text flush).filterMap (eventObject parse) := by
  have hcr : '\r' ≠ '\n' := by decide
  obtain ⟨hblocks, hleft⟩ := h.splitBlocks hcr
  have hsame : ∀ blocks' blocks : List (List Char),
      List.Forall₂ (SameLines '\r' '\n') blocks' blocks →
        blocks'.filterMap (eventObject parse) = blocks.filterMap (eventObject parse) := by
    intro blocks' blocks hforall
    induction hforall with
    | nil => rfl
    | cons hblock _ ih =>
      simp only [List.filterMap_cons, eventObject_congr parse hblock, ih]
  rw [filterMap_blocksOf, filterMap_blocksOf, List.filterMap_append, List.filterMap_append]
  have hfront := hsame _ _ hblocks
  have hback := hsame [_] [_] (List.Forall₂.cons
    (hleft.sameLines_append hcr (replaceCrLf flush)) List.Forall₂.nil)
  unfold blankLine
  rw [hfront, hback]

/-- Where no empty line has its end cut, the stream is inspected as its whole text is. -/
theorem inspect_eq_whole {stream : SseStream} (hfail : stream.failure = none)
    (hkeeps : stream.KeepsEmptyLines) :
    inspectOpenRouterSseStream parse stream =
      .ok (((blocksOf stream.text stream.flush).filterMap (eventObject parse)).foldl
        OpenRouterStreamInspection.add .empty) := by
  have hloose := loose_replacedByChunk stream.chunks hkeeps
  have hevs := filterMap_blocksOf_congr parse stream.flush hloose
  rw [inspect_eq_blocks parse hfail]
  exact congrArg (fun events => Except.ok (events.foldl OpenRouterStreamInspection.add .empty))
    hevs

/-- The same bytes, in other chunks, are inspected alike where no chunk ends between the two
characters that end an empty line. -/
theorem inspect_eq_of_sameBytes {σ : Type} (decoder : TextDecoder σ)
    {chunks chunks' : List (List UInt8)} (hbytes : chunks.flatten = chunks'.flatten)
    (hkeeps : (sseStreamOf decoder chunks).KeepsEmptyLines)
    (hkeeps' : (sseStreamOf decoder chunks').KeepsEmptyLines) :
    inspectOpenRouterSseStream parse (sseStreamOf decoder chunks) =
      inspectOpenRouterSseStream parse (sseStreamOf decoder chunks') := by
  obtain ⟨htext, hflush⟩ := sseStreamOf_congr decoder hbytes
  rw [inspect_eq_whole parse rfl hkeeps, inspect_eq_whole parse rfl hkeeps', hflush]
  unfold SseStream.text
  rw [htext]

end Parse

/-! ## A blank line that is cut -/

/-- Each byte is a character, as it is for bytes below 128. -/
def asciiDecoder : TextDecoder Unit where
  start := ()
  push := fun _ byte => ((), [Char.ofNat byte.toNat])
  flush := fun _ => []

def asciiBytes (text : String) : List UInt8 := text.toList.map fun c => UInt8.ofNat c.toNat

/-- `JSON.parse` on the two events below; a text that holds both is no JSON value. -/
def parseSample (text : List Char) : Option JsValue :=
  if text = "\x7b\"id\":\"a\"\x7d".toList then
    some (.object [("id", .string ['a'])])
  else if text = "\x7b\"usage\":\x7b\"total_tokens\":3\x7d\x7d".toList then
    some (.object [("usage", .object [("total_tokens", .number (some 3))])])
  else none

def firstPart : List UInt8 := asciiBytes "data: \x7b\"id\":\"a\"\x7d\r\n\r"

def secondPart : List UInt8 :=
  asciiBytes "\ndata: \x7b\"usage\":\x7b\"total_tokens\":3\x7d\x7d\r\n\r\n"

/-- Cut inside the blank line between them, the two events are lost. -/
theorem inspect_ne_of_cutBlankLine :
    ¬ ∀ (parse : List Char → Option JsValue) (σ : Type) (decoder : TextDecoder σ)
      (chunks chunks' : List (List UInt8)), (∀ chunk ∈ chunks, chunk ≠ []) →
      (∀ chunk ∈ chunks', chunk ≠ []) → chunks.flatten = chunks'.flatten →
        inspectOpenRouterSseStream parse (sseStreamOf decoder chunks) =
          inspectOpenRouterSseStream parse (sseStreamOf decoder chunks') := by
  intro hall
  have hsame := hall parseSample Unit asciiDecoder [firstPart, secondPart]
    [firstPart ++ secondPart] (by decide +kernel) (by decide +kernel) (by decide +kernel)
  have hcut : inspectOpenRouterSseStream parseSample
      (sseStreamOf asciiDecoder [firstPart, secondPart]) = .ok ⟨none, none, none⟩ := by
    decide +kernel
  have hwhole : inspectOpenRouterSseStream parseSample
      (sseStreamOf asciiDecoder [firstPart ++ secondPart]) =
        .ok ⟨some ['a'], none, some ⟨none, none, some 3⟩⟩ := by
    decide +kernel
  rw [hcut, hwhole] at hsame
  cases hsame

/-- The bytes of a line end, one chunk each. -/
theorem inspect_eq_of_cutLineEnd :
    (sseStreamOf asciiDecoder [asciiBytes "data: 1\r", asciiBytes "\n"]).KeepsEmptyLines ∧
      (sseStreamOf asciiDecoder [asciiBytes "data: 1\r\n"]).KeepsEmptyLines ∧
      inspectOpenRouterSseStream parseSample
          (sseStreamOf asciiDecoder [asciiBytes "data: 1\r", asciiBytes "\n"]) =
        inspectOpenRouterSseStream parseSample
          (sseStreamOf asciiDecoder [asciiBytes "data: 1\r\n"]) :=
  ⟨by decide +kernel, by decide +kernel,
    inspect_eq_of_sameBytes parseSample asciiDecoder (by decide +kernel) (by decide +kernel)
      (by decide +kernel)⟩

end QuizMind.Ai

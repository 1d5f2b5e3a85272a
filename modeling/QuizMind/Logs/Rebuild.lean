import QuizMind.Logs.ReadModel
import Mathlib.Data.Bool.AllAny

/-! # What a backfill rebuilds

The write path and the backfill build the same input from metadata that is an object. The
write path replaces anything else by an object without members (a payload by none), the
backfill keeps it; the write path looks for an AI request under every name that the metadata
may give it, the backfill only under the target; and without a known actor the backfill trims
the search text. A backfill stores the row of the write path exactly when none of this makes
a difference (`rebuilds_iff`).
-/

namespace QuizMind.Logs

open Ai (JsValue Payload trimText)
open Text
open Backfill (buildBatch skipped upsertBatch)
open Option (filter_some some_inj)
open WritePath (objectOf upsertAdminLogEventsBestEffort withAiPatch)
open Backfill (buildRow orUndefined)
open WritePath (buildReadModelFromRow toMetadata withActorMetadata)

/-! ## The search text -/

section Words

/-- Words that follow a text. -/
def following (words : List (List Char)) : List Char := words.flatMap fun word => ' ' :: word

theorem joinWords_cons (word : List Char) (words : List (List Char)) :
    joinWords (word :: words) = word ++ following words := by
  induction words generalizing word with
  | nil => simp [joinWords, following]
  | cons next words ih =>
    have hnext : [' '].intercalate (next :: words) = next ++ following words := ih next
    rw [joinWords, List.intercalate_cons_cons, hnext]
    simp [following]

theorem following_append (words more : List (List Char)) :
    following (words ++ more) = following words ++ following more :=
  List.flatMap_append

theorem toList_trimText (text : List Char) : trimText text = strip isJsSpace text := rfl

variable (L : LetterCase)

/-- Words are lowered each by itself. -/
theorem lower_following (text : List Char) (words : List (List Char)) :
    L.toLowerCase (text ++ following words) =
      L.toLowerCase text ++ following (words.map L.toLowerCase) := by
  induction words generalizing text with
  | nil => simp [following]
  | cons word words ih =>
    have hcons : text ++ following (word :: words) = text ++ ' ' :: (word ++ following words) := by
      simp [following]
    rw [hcons, L.lower_space, ih]
    simp [following]

theorem lower_name (stream : LegacyAdminLogStream) : L.toLowerCase stream.name = stream.name := by
  have hascii : ∀ c ∈ stream.name, c.toNat < 128 := by
    cases stream <;> exact List.all_iff_forall_prop.mp (by decide)
  have hlower : stream.name.map Char.toLower = stream.name := by
    cases stream <;> decide
  rw [L.lower_ascii _ hascii, hlower]

end Words

/-! ## The metadata -/

namespace WritePath

theorem setMember_self {members : Payload} {key : String} {value : JsValue}
    (h : members.lookup key = some value) : setMember members key value = members := by
  induction members with
  | nil => cases h
  | cons entry rest ih =>
    obtain ⟨k, v⟩ := entry
    by_cases hk : k = key
    · grind [setMember]
    have hne : (key == k) = false := beq_eq_false_iff_ne.mpr (Ne.symm hk)
    rw [List.lookup_cons, hne] at h
    rw [setMember, if_neg hk, ih h]

theorem spreadText_self (members : Payload) (key : String) :
    spreadText (some members) key members = members := by
  unfold spreadText
  split
  · rename_i text htext
    exact setMember_self htext
  · rfl

/-- The actor members are spread over themselves. -/
theorem withActorMetadata_some (members : Payload) :
    withActorMetadata (some members) = .object members := by
  rw [withActorMetadata, Option.getD_some, spreadText_self, spreadText_self]

end WritePath

/-- The metadata is an object; of a payload that is none, nothing is left either way if a
condition takes it for false. -/
def jsonKept : SourceRow → Bool
  | .domain row => (toMetadata row.payloadJson).isSome || !isTruthy row.payloadJson
  | row => (toMetadata row.json).isSome

variable {json : JsValue}

theorem toMetadata_isSome : (toMetadata json).isSome ↔ ∃ members, json = .object members := by
  cases json <;> simp [toMetadata]

variable {L : LetterCase}

/-- A payload that a condition takes for false has no members. -/
theorem build_falsy (input : BuildAdminLogEventInput)
    (hmeta : input.metadata = none) (hpayload : input.payload = none)
    (hjson : isTruthy json = false) :
    buildAdminLogEventCreateInput L { input with payload := some json } =
      buildAdminLogEventCreateInput L input := by
  -- the input is read through `get` only
  have hget : ∀ key, get (some json) key = get none key := by
    intro key
    cases json with
    | object members => cases hjson
    | _ => rfl
  have hstored : (some json).filter isTruthy = none := by
    rw [filter_some, hjson]
    rfl
  simp only [buildAdminLogEventCreateInput, BuildAdminLogEventInput.rich,
    BuildAdminLogEventInput.summary, BuildAdminLogEventInput.derivedTargetType,
    BuildAdminLogEventInput.derivedTargetId, BuildAdminLogEventInput.requestId,
    BuildAdminLogEventInput.errorText, BuildAdminLogEventInput.searchable,
    BuildAdminLogEventInput.searchParts, BuildAdminLogEventInput.tokens, deriveCategory, deriveSource, hmeta, hpayload, Option.none_or, hget, hstored,
    Option.filter_none]

/-- Metadata that is an object is handed to the builder as it is. -/
theorem metadata_of_object (h : (toMetadata json).isSome) :
    some (withActorMetadata (toMetadata json)) = orUndefined json := by
  obtain ⟨members, rfl⟩ := toMetadata_isSome.mp h
  exact congrArg some (WritePath.withActorMetadata_some members)

/-- Other metadata is stored as an empty object by the write path, and as it is or not at all
by the backfill. -/
theorem metadataJson_ne (h : (toMetadata json).isSome = false) :
    (some (withActorMetadata (toMetadata json))).filter isTruthy ≠
      (orUndefined json).filter isTruthy := by
  cases json with
  | object members => cases h
  | null | array items => nofun
  | bool b => cases b <;> nofun
  | number n =>
    show some (JsValue.object []) ≠ (some (JsValue.number n)).filter isTruthy
    rw [filter_some]
    split <;> nofun
  | string text =>
    show some (JsValue.object []) ≠ (some (JsValue.string text)).filter isTruthy
    rw [filter_some]
    split <;> nofun

theorem buildRow_eq {row : SourceRow} (h : jsonKept row) :
    buildRow L row = buildReadModelFromRow L row := by
  cases row with
  | audit row | activity row | security row =>
    have hmeta : some (withActorMetadata (toMetadata row.metadataJson)) =
        orUndefined row.metadataJson := metadata_of_object h
    simp only [buildRow, buildReadModelFromRow, Backfill.buildInput,
      WritePath.buildInput, hmeta]
  | domain row =>
    simp only [jsonKept, Bool.or_eq_true, Bool.not_eq_true'] at h
    by_cases hobject : (toMetadata row.payloadJson).isSome
    · obtain ⟨members, hmembers⟩ := toMetadata_isSome.mp hobject
      simp only [buildRow, buildReadModelFromRow, Backfill.buildInput,
        WritePath.buildInput, hmembers, toMetadata, orUndefined,
        Option.map_some]
    -- the payload is taken for false, or it is null
    have hfalsy : isTruthy row.payloadJson = false := h.resolve_left hobject
    have hnone : toMetadata row.payloadJson = none := by simpa using hobject
    simp only [buildRow, buildReadModelFromRow, Backfill.buildInput, WritePath.buildInput, hnone]
    cases hjson : row.payloadJson with
    | null => rfl
    | _ =>
      rw [hjson] at hfalsy
      exact build_falsy
        ⟨.domain, row.id, row.eventType, row.createdAt, none, none, none, none, none, none⟩
        rfl rfl hfalsy

/-- Where the metadata is not kept, a column of JSON differs. -/
theorem jsonKept_of_columns {row : SourceRow}
    (hmeta : (buildReadModelFromRow L row).metadataJson = (buildRow L row).metadataJson)
    (hpayload : (buildReadModelFromRow L row).payloadJson =
      (buildRow L row).payloadJson) : jsonKept row := by
  cases row with
  | domain row =>
    by_contra hkept
    simp only [jsonKept, Bool.or_eq_true, Bool.not_eq_true', not_or, Bool.not_eq_false] at hkept
    obtain ⟨hobject, htruthy⟩ := hkept
    have hnone : toMetadata row.payloadJson = none := by simpa using hobject
    simp only [buildReadModelFromRow, buildRow, WritePath.buildInput,
      Backfill.buildInput, buildAdminLogEventCreateInput, hnone] at hpayload
    have hstored : (orUndefined row.payloadJson).filter isTruthy = some row.payloadJson := by
      cases hjson : row.payloadJson with
      | null =>
        rw [hjson] at htruthy
        cases htruthy
      | _ =>
        rw [hjson] at htruthy
        exact Option.filter_eq_some_iff.mpr ⟨rfl, htruthy⟩
    rw [hstored] at hpayload
    cases hpayload
  | _ =>
    by_contra hkept
    exact metadataJson_ne ((Bool.not_eq_true _).mp hkept) hmeta

/-! ## Reading the database -/

/-- Rows that are read for some ids answer for each of them. -/
theorem firstAiRequest_find {db : Database} {ids candidates : List (List Char)}
    (h : ∀ candidate ∈ candidates, candidate ∈ ids) :
    firstAiRequest (findAiRequests db ids) candidates =
      firstAiRequest db.aiRequestEvents candidates := by
  have hrow : ∀ candidate ∈ candidates,
      (findAiRequests db ids).find? (fun row => row.id = candidate) =
        db.aiRequestEvents.find? fun row => row.id = candidate := by grind [findAiRequests]
  induction candidates with
  | nil => rfl
  | cons candidate candidates ih =>
    have htail := ih (fun c hc => h c (List.mem_cons_of_mem _ hc))
      fun c hc => hrow c (List.mem_cons_of_mem _ hc)
    unfold firstAiRequest at htail ⊢
    rw [List.findSome?_cons, List.findSome?_cons, hrow candidate List.mem_cons_self, htail]

/-- The identity of an actor in the user directory; a blank id is not looked up. -/
def knownActor (db : Database) (actorId : Option (List Char)) : Option ActorIdentity :=
  actorId.bind fun id => if trimText id = [] then none else actorIdentity db.users id

theorem mem_present {parts : List (Option (List Char))} {text : List Char} :
    text ∈ present parts ↔ some text ∈ parts ∧ text ≠ [] := by
  simp [present]

/-- The directory of a batch knows the actors of the batch. -/
theorem actorIdentity_resolve (db : Database) {actorIds : List (Option (List Char))}
    {actorId : Option (List Char)} (h : actorId ∈ actorIds) :
    actorId.bind (actorIdentity (resolveActorIdentities db (present actorIds))) =
      knownActor db actorId := by
  cases actorId with
  | none => rfl
  | some id =>
    show actorIdentity _ id = if trimText id = [] then none else actorIdentity db.users id
    by_cases hblank : trimText id = []
    · -- no user is read under a blank id
      rw [if_pos hblank, actorIdentity, Option.map_eq_none_iff, List.find?_eq_none]
      intro user huser
      have hread := List.mem_filter.mp huser
      simp only [List.mem_filter, decide_eq_true_eq] at hread
      simp only [decide_eq_true_eq]
      rintro rfl
      exact hread.2.2 hblank
    have hne : id ≠ [] := by
      rintro rfl
      exact hblank rfl
    have hmem : id ∈ (present actorIds).filter fun id => trimText id ≠ [] :=
      List.mem_filter.mpr ⟨mem_present.mpr ⟨h, hne⟩, by simpa using hblank⟩
    have hsame : (fun user : User =>
        decide (decide (user.id ∈ (present actorIds).filter fun id => trimText id ≠ []) = true ∧
          decide (user.id = id) = true)) = fun user => decide (user.id = id) := by grind
    rw [if_neg hblank, actorIdentity, resolveActorIdentities, List.find?_filter, hsame,
      actorIdentity]

/-- The AI request that the write path finds for a row. -/
def writtenAiRequest (db : Database) (data : AdminLogEventCreateInput) :
    Option AdminAiRequestProjection :=
  firstAiRequest db.aiRequestEvents (WritePath.aiRequestCandidates data)

/-- The AI request that the backfill finds for a row. -/
def rebuiltAiRequest (db : Database) (data : AdminLogEventCreateInput) :
    Option AdminAiRequestProjection :=
  firstAiRequest db.aiRequestEvents (Backfill.aiRequestCandidates data)

/-- The backfill looks at the target only. -/
theorem backfill_candidates (data : AdminLogEventCreateInput) : Backfill.aiRequestCandidates data =
      (if data.targetType = some "ai_request".toList then pushed data.targetId else none).toList := by
  have hnone : ∀ key, get (some (.object [])) key = none := fun _ => rfl
  have hnone' : ∀ key, get none key = none := fun _ => rfl
  simp only [Backfill.aiRequestCandidates, collectAdminAiRequestCandidateIds, objectCandidates,
    hnone, hnone']
  cases (if data.targetType = some "ai_request".toList then pushed data.targetId else none) with
  | none => rfl
  | some target => simp [toText, pushed, List.eraseDups_cons]

variable {data : AdminLogEventCreateInput}

/-- The write path looks at the target first. -/
theorem writePath_candidates {target : List Char}
    (h : (if data.targetType = some "ai_request".toList then pushed data.targetId else none) =
      some target) : ∃ rest, WritePath.aiRequestCandidates data = target :: rest := by
  simp only [WritePath.aiRequestCandidates, collectAdminAiRequestCandidateIds, h]
  exact ⟨_, List.eraseDups_cons⟩

/-- What the backfill finds, the write path finds. -/
theorem writtenAiRequest_of_rebuilt {db : Database}
    {aiRequest : AdminAiRequestProjection} (h : rebuiltAiRequest db data = some aiRequest) :
    writtenAiRequest db data = some aiRequest := by
  rw [rebuiltAiRequest, backfill_candidates] at h
  cases htarget : (if data.targetType = some "ai_request".toList then pushed data.targetId
      else none) with
  | none =>
    rw [htarget] at h
    cases h
  | some target =>
    obtain ⟨rest, hrest⟩ := writePath_candidates htarget
    rw [htarget] at h
    have hfound : db.aiRequestEvents.find? (fun row => row.id = target) = some aiRequest := by
      simpa [firstAiRequest] using h
    rw [writtenAiRequest, hrest, firstAiRequest, List.findSome?_cons, hfound]

/-! ## The stored search texts -/

section SearchText

theorem truthyText_of_ne {text : List Char} (h : text ≠ []) : truthyText (some text) = some text := by
  rw [truthyText, filter_some, if_pos (by simpa using h)]

variable (L : LetterCase)

/-- The last character is not white space. -/
def EndsInText (text : List Char) : Prop := ∃ c ∈ text.getLast?, isJsSpace c = false

/-- The words that the excerpt of an AI request adds to a search text. -/
def excerptWords (promptExcerpt : Option (List Char)) : List (List Char) :=
  ((truthyText promptExcerpt).map L.toLowerCase).toList

/-- The words that the identity of an actor adds to a search text. -/
def identityWords (identity : Option ActorIdentity) : List (List Char) :=
  let email := identity.bind fun identity => truthyText (some identity.email)
  let displayName := identity.bind fun identity => truthyText identity.displayName
  (email.map L.toLowerCase).toList ++ (displayName.map L.toLowerCase).toList

/-- A text that the builder has made: it is lowered, and it begins with a name. -/
structure Searched (text : List Char) : Prop where
  lower : L.toLowerCase text = text
  ne : text ≠ []
  head : ∀ c ∈ text.head?, isJsSpace c = false

variable {L}

variable (input : BuildAdminLogEventInput)

theorem searchParts_cons : ∃ words, input.searchParts L = input.stream.name :: words := by
  have hname : input.stream.name ≠ [] := by
    cases input.stream <;> decide
  simp [BuildAdminLogEventInput.searchParts, present, hname]

variable {words : List (List Char)}

theorem searchable_eq {input : BuildAdminLogEventInput}
    (h : input.searchParts L = input.stream.name :: words) :
    input.searchable L = input.stream.name ++ following (words.map L.toLowerCase) := by
  rw [BuildAdminLogEventInput.searchable, h, joinWords_cons, lower_following, lower_name]

theorem searched_searchable : Searched L (input.searchable L) := by
  obtain ⟨words, hwords⟩ := searchParts_cons (L := L) input
  have htext := searchable_eq hwords
  have hname : input.stream.name ≠ [] := by
    cases input.stream <;> decide
  have hhead : ∀ c ∈ input.stream.name.head?, isJsSpace c = false := by
    cases input.stream <;> rintro _ ⟨⟩ <;> rfl
  constructor
  · exact L.lower_lower _
  · rw [htext]
    exact List.append_ne_nil_of_left_ne_nil hname _
  · simp_all

theorem searchText_build :
    (buildAdminLogEventCreateInput L input).searchText = some (input.searchable L) := by
  have hne := (searched_searchable (L := L) input).ne
  exact truthyText_of_ne hne

variable {text : List Char} (h : Searched L text)
include h

theorem Searched.withExcerpt (promptExcerpt : Option (List Char)) :
    searchTextWithExcerpt L (some text) promptExcerpt =
      text ++ following (excerptWords L promptExcerpt) := by
  have hparts : present [some text, promptExcerpt] = text :: (truthyText promptExcerpt).toList := by
    cases promptExcerpt with
    | none => simp [present, truthyText, h.ne]
    | some excerpt =>
      by_cases he : excerpt = []
      · simp [present, truthyText, h.ne, he]
      · rw [truthyText_of_ne he]
        simp [present, h.ne, he]
  have hlowered : (truthyText promptExcerpt).toList.map L.toLowerCase =
      excerptWords L promptExcerpt := by
    unfold excerptWords
    cases truthyText promptExcerpt <;> rfl
  rw [searchTextWithExcerpt, hparts, joinWords_cons, lower_following, h.lower, hlowered]

/-- A text that begins with a name is not blank. -/
theorem Searched.trim_ne_nil (more : List Char) : trimText (text ++ more) ≠ [] := by
  rw [toList_trimText, Ne, strip_eq_nil_iff]
  intro hall
  cases htext : text with
  | nil => exact h.ne htext
  | cons c rest =>
    have hspace := hall c (by simp [htext])
    have hc := h.head c (by simp [htext])
    rw [hspace] at hc
    cases hc

theorem Searched.enrich (words : List (List Char)) (identity : Option ActorIdentity) :
    enrichSearchTextWithActorIdentity L (some (text ++ following words)) identity =
      some (trimText (text ++ following (words ++ identityWords L identity))) := by
  have hne : text ++ following words ≠ [] := List.append_ne_nil_of_left_ne_nil h.ne _
  have htruthy : (truthyText (some (text ++ following words))).isNone = false := by
    rw [truthyText_of_ne hne]
    rfl
  have hjoined : joinWords ((text ++ following words) :: identityWords L identity) =
      text ++ following (words ++ identityWords L identity) := by
    rw [joinWords_cons, following_append, List.append_assoc]
  unfold enrichSearchTextWithActorIdentity
  rw [htruthy, if_neg (by simp)]
  show truthyText (some (trimText (joinWords
    ((text ++ following words) :: identityWords L identity)))) = _
  rw [hjoined, truthyText_of_ne (h.trim_ne_nil _)]

/-- Trimming leaves a text that ends in text. -/
theorem Searched.trim_eq_iff (more : List Char) :
    trimText (text ++ more) = text ++ more ↔ EndsInText (text ++ more) := by
  have hne : text ++ more ≠ [] := List.append_ne_nil_of_left_ne_nil h.ne _
  have hhead : ∀ c ∈ (text ++ more).head?, isJsSpace c = false := by
    rw [List.head?_append_of_ne_nil _ h.ne]
    exact h.head
  rw [toList_trimText, strip_eq_self_iff, EndsInText, List.getLast?_eq_some_getLast hne]
  constructor
  · intro hstrip
    exact ⟨_, rfl, hstrip.2 _ rfl⟩
  · grind

/-- Without an actor the write path does not trim. -/
theorem Searched.unknown_iff {words' : List (List Char)} (hwords : words' = words ∨ words' = []) :
    text ++ following words = trimText (text ++ following words') ↔
      words' = words ∧ EndsInText (text ++ following words) := by
  constructor
  · intro heq
    have hsame : words' = words := by
      rcases hwords with hsame | hnil
      · exact hsame
      -- nothing longer is left of the text without the words
      subst hnil
      have hlen := congrArg List.length heq
      have hfront := (List.dropWhile_sublist isJsSpace (l := text)).length_le
      have hback := (List.rdropWhile_prefix isJsSpace (text.dropWhile isJsSpace)).length_le
      have htrim : (trimText (text ++ following [])).length ≤ text.length := by
        grind [toList_trimText, strip, following]
      rw [← hlen, List.length_append] at htrim
      have hnil : following words = [] := List.eq_nil_of_length_eq_zero (by omega)
      cases words with
      | nil => rfl
      | cons word rest => cases hnil
    subst hsame
    exact ⟨rfl, (h.trim_eq_iff _).mp heq.symm⟩
  · rintro ⟨rfl, hends⟩
    exact ((h.trim_eq_iff _).mpr hends).symm

/-- With an actor, more words before those of the actor are not seen if all of them are
blank. -/
theorem Searched.known_iff (words more : List (List Char)) :
    trimText (text ++ following (words ++ more)) = trimText (text ++ following more) ↔
      words = [] ∨ ∀ word ∈ words ++ more, trimText word = [] := by
  have hblank : (∀ c ∈ following words ++ following more, isJsSpace c = true) ↔
      ∀ word ∈ words ++ more, trimText word = [] := by
    rw [← following_append]
    simp only [following, toList_trimText, strip_eq_nil_iff, List.mem_flatMap, List.mem_cons]
    constructor
    · grind
    rintro hall c ⟨word, hword, rfl | hc⟩
    · rfl
    · exact hall word hword c hc
  cases words with
  | nil => simp
  | cons word rest =>
    have hne : following (word :: rest) ≠ [] := nofun
    rw [toList_trimText, toList_trimText, following_append,
      strip_insert_iff h.head h.ne hne, hblank]
    simp

end SearchText

/-! ## What a row asks for -/

section Asked

variable (L : LetterCase)

theorem endsInText_following (first : List Char) (words : List (List Char)) :
    EndsInText (first ++ following words) ↔ ∃ word ∈ (first :: words).getLast?, EndsInText word := by
  rcases List.eq_nil_or_concat words with rfl | ⟨init, last, rfl⟩
  · simp [following]
  -- an empty last word leaves the space before it
  have hlast : first ++ following (init ++ [last]) = (first ++ following init) ++ ' ' :: last := by
    simp [following]
  have hword : (first :: (init ++ [last])).getLast? = some last := by
    rw [← List.cons_append, List.getLast?_concat]
  rw [List.concat_eq_append, hlast, hword]
  cases last with
  | nil =>
    have hspace : isJsSpace ' ' = true := rfl
    simp [EndsInText, hspace]
  | cons c rest => simp [EndsInText]

/-- The last part that the search text is built of. -/
def lastPart (row : SourceRow) (promptExcerpt : Option (List Char)) : Option (List Char) :=
  ((Backfill.buildInput row).searchParts L ++ (truthyText promptExcerpt).toList).getLast?

variable {L}

theorem endsInText_lastPart (row : SourceRow) (promptExcerpt : Option (List Char)) :
    EndsInText ((Backfill.buildInput row).searchable L ++
        following (excerptWords L promptExcerpt)) ↔
      ∃ part ∈ lastPart L row promptExcerpt, EndsInText (L.toLowerCase part) := by
  obtain ⟨words, hwords⟩ := searchParts_cons (L := L) (Backfill.buildInput row)
  have hname := lower_name L (Backfill.buildInput row).stream
  have hexcerpt : excerptWords L promptExcerpt =
      (truthyText promptExcerpt).toList.map L.toLowerCase := by
    unfold excerptWords
    cases truthyText promptExcerpt <;> rfl
  have hparts : (Backfill.buildInput row).stream.name ::
      (words ++ (truthyText promptExcerpt).toList).map L.toLowerCase =
        ((Backfill.buildInput row).searchParts L ++
          (truthyText promptExcerpt).toList).map L.toLowerCase := by
    rw [hwords, List.cons_append, List.map_cons, hname]
  rw [searchable_eq hwords, List.append_assoc, ← following_append, hexcerpt, ← List.map_append,
    endsInText_following, hparts, List.getLast?_map, lastPart]
  simp

/-- The target of a row, if it is an AI request. -/
def aiTarget (row : SourceRow) : Option (List Char) :=
  let input := Backfill.buildInput row
  if input.derivedTargetType = some "ai_request".toList then pushed input.derivedTargetId else none

/-- Every name that a row may give an AI request by. -/
def aiRequestNames (row : SourceRow) : List (List Char) :=
  let input := Backfill.buildInput row
  collectAdminAiRequestCandidateIds
    { targetType := input.derivedTargetType
      targetId := input.derivedTargetId
      sourceRecordId := some row.id
      metadata := objectOf input.metadata
      payload := objectOf input.payload }

theorem truthyText_eq_some_iff {value : Option (List Char)} {text : List Char} (h : text ≠ []) :
    truthyText value = some text ↔ value = some text := by
  rw [truthyText]
  simp [h]

/-- A text that is not stored would not have been looked for. -/
theorem pushed_truthyText (value : Option (List Char)) : pushed (truthyText value) = pushed value := by
  cases value with
  | none => rfl
  | some text =>
    by_cases htext : text = []
    · subst htext
      rfl
    · rw [truthyText_of_ne htext]

theorem objectOf_filter (value : Option JsValue) :
    objectOf (value.filter isTruthy) = objectOf value := by
  cases value with
  | none => rfl
  | some json =>
    rw [filter_some]
    split
    · rfl
    rename_i hfalsy
    cases json with
    | object members => exact absurd rfl hfalsy
    | _ => rfl

theorem stored_target (row : SourceRow) :
    (if (buildRow L row).targetType = some "ai_request".toList then
        pushed (buildRow L row).targetId else none) = aiTarget row := by
  have hne : "ai_request".toList ≠ [] := by decide
  simp only [buildRow, buildAdminLogEventCreateInput, truthyText_eq_some_iff hne,
    pushed_truthyText, aiTarget]

theorem writePath_names (row : SourceRow) :
    WritePath.aiRequestCandidates (buildRow L row) = aiRequestNames row := by
  have hne : "ai_request".toList ≠ [] := by decide
  have hid : (Backfill.buildInput row).sourceRecordId = row.id := by
    cases row <;> rfl
  simp only [WritePath.aiRequestCandidates, buildRow, buildAdminLogEventCreateInput,
    objectOf_filter, aiRequestNames, collectAdminAiRequestCandidateIds,
    truthyText_eq_some_iff hne, pushed_truthyText, hid]

/-- The AI request that a row names. -/
def namedAiRequest (db : Database) (row : SourceRow) : Option AdminAiRequestProjection :=
  firstAiRequest db.aiRequestEvents (aiRequestNames row)

/-- The backfill finds the AI request that is the target. -/
theorem rebuiltAiRequest_iff {db : Database} {row : SourceRow}
    {aiRequest : AdminAiRequestProjection} (h : namedAiRequest db row = some aiRequest) :
    rebuiltAiRequest db (buildRow L row) = some aiRequest ↔ aiTarget row = some aiRequest.id := by
  have hrebuilt : rebuiltAiRequest db (buildRow L row) =
      firstAiRequest db.aiRequestEvents (aiTarget row).toList := by
    rw [rebuiltAiRequest, backfill_candidates, stored_target]
  constructor
  · intro hfound
    rw [hrebuilt] at hfound
    obtain ⟨target, htarget, hrow⟩ := List.exists_of_findSome?_eq_some hfound
    have hid := List.find?_some hrow
    rw [decide_eq_true_eq] at hid
    rw [hid]
    simpa using htarget
  intro htarget
  -- the AI request has a row, so that the backfill finds one
  obtain ⟨candidate, -, hrow⟩ := List.exists_of_findSome?_eq_some h
  cases hfound : rebuiltAiRequest db (buildRow L row) with
  | none => grind [firstAiRequest]
  | some other =>
    have hwritten := writtenAiRequest_of_rebuilt hfound
    rw [writtenAiRequest, writePath_names] at hwritten
    exact hwritten.symm.trans h

theorem rebuiltAiRequest_cases (db : Database) (row : SourceRow) :
    rebuiltAiRequest db (buildRow L row) = namedAiRequest db row ∨
      rebuiltAiRequest db (buildRow L row) = none := by
  cases hfound : rebuiltAiRequest db (buildRow L row) with
  | none => exact .inr rfl
  | some aiRequest =>
    have hwritten := writtenAiRequest_of_rebuilt hfound
    rw [writtenAiRequest, writePath_names] at hwritten
    exact .inl hwritten.symm

end Asked

/-! ## The created rows -/

section Created

variable (L : LetterCase)

/-- The row that both ways create: completed by an AI request and by an actor. -/
def finished (data : AdminLogEventCreateInput) (aiRequest : Option AdminAiRequestProjection)
    (identity : Option ActorIdentity) (searchText : Option (List Char)) :
    AdminLogEventCreateInput :=
  { withAiPatch data (aiRequest.map buildAdminAiLogPatchFromAiRequestEvent) with
    actorEmail := data.actorEmail.or (identity.map fun identity => identity.email)
    actorDisplayName := data.actorDisplayName.or
      (identity.bind fun identity => identity.displayName)
    searchText := searchText }

/-- The write path adds the excerpt, and the words of a known actor. -/
def writtenText (searchText : Option (List Char)) (aiRequest : Option AdminAiRequestProjection)
    (identity : Option ActorIdentity) : Option (List Char) :=
  let text := some (searchTextWithExcerpt L searchText
    (aiRequest.bind fun request => request.promptExcerpt))
  if identity.isSome then enrichSearchTextWithActorIdentity L text identity else text

/-- The backfill adds the excerpt of a request that it finds, and trims. -/
def rebuiltText (searchText : Option (List Char)) (aiRequest : Option AdminAiRequestProjection)
    (identity : Option ActorIdentity) : Option (List Char) :=
  let text := aiRequest.elim searchText fun request =>
    some (searchTextWithExcerpt L searchText request.promptExcerpt)
  enrichSearchTextWithActorIdentity L text identity

variable {L}

theorem withAiPatch_actor (data : AdminLogEventCreateInput) (patch : Option AdminAiLogPatch) :
    (withAiPatch data patch).actorId = data.actorId ∧
      (withAiPatch data patch).actorEmail = data.actorEmail ∧
      (withAiPatch data patch).actorDisplayName = data.actorDisplayName ∧
      (withAiPatch data patch).searchText = data.searchText ∧
      AdminLogEvent.key (withAiPatch data patch) = AdminLogEvent.key data := by
  cases patch <;> exact ⟨rfl, rfl, rfl, rfl, rfl⟩

variable {aiRequest : Option AdminAiRequestProjection} {data : AdminLogEventCreateInput}

theorem writePath_finished {db : Database} {directory : List User}
    (h : writtenAiRequest db data = aiRequest) :
    WritePath.createData L db directory data =
      finished data aiRequest (data.actorId.bind (actorIdentity directory))
        (writtenText L data.searchText aiRequest
          (data.actorId.bind (actorIdentity directory))) := by
  have hfound : firstAiRequest (findAiRequests db (WritePath.aiRequestCandidates data))
      (WritePath.aiRequestCandidates data) = aiRequest := by
    rw [firstAiRequest_find fun _ hcand => hcand]
    exact h
  obtain ⟨hactor, hemail, hname, -, -⟩ := withAiPatch_actor data
    (aiRequest.map buildAdminAiLogPatchFromAiRequestEvent)
  unfold WritePath.createData finished writtenText WritePath.enrichReadModelActorFields
  simp only [hfound, hactor, hemail, hname]
  cases hid : data.actorId with
  | none => simp
  | some actorId =>
    cases hident : actorIdentity directory actorId with
    | none | some identity => simp [hident]

theorem backfill_finished {directory : List User} {rows : List AdminAiRequestProjection}
    (h : firstAiRequest rows (Backfill.aiRequestCandidates data) = aiRequest) :
    Backfill.createData L directory rows data =
      finished data aiRequest (data.actorId.bind (actorIdentity directory))
        (rebuiltText L data.searchText aiRequest
          (data.actorId.bind (actorIdentity directory))) := by
  unfold Backfill.createData
  rw [h]
  cases aiRequest with
  | none => rfl
  | some request => rfl

variable {identity : Option ActorIdentity}

/-- Two rows that are completed from the same data differ in what the AI requests add, or in
the search text. -/
theorem finished_eq_iff {aiRequest' : Option AdminAiRequestProjection}
    {searchText searchText' : Option (List Char)} :
    finished data aiRequest identity searchText = finished data aiRequest' identity searchText' ↔
      withAiPatch data (aiRequest.map buildAdminAiLogPatchFromAiRequestEvent) =
        withAiPatch data (aiRequest'.map buildAdminAiLogPatchFromAiRequestEvent) ∧
      searchText = searchText' := by
  constructor
  · intro heq
    constructor
    · -- the three columns that are not of the AI request are put back
      have hback := congrArg (fun row : AdminLogEventCreateInput =>
        { row with
          actorEmail := data.actorEmail
          actorDisplayName := data.actorDisplayName
          searchText := data.searchText }) heq
      cases aiRequest <;> cases aiRequest' <;> exact hback
    · exact congrArg AdminLogEventCreateInput.searchText heq
  · grind [finished]

/-- A column of the row is set, or the AI request has nothing for it. -/
theorem or_eq_left_iff {α : Type} {column other : Option α} :
    column.or other = column ↔ column.isSome ∨ other = none := by
  cases column <;> simp

/-- An AI request that changes nothing of the row of a source row: every column that it would
fill is set or stays empty, and its excerpt is empty, or blank before the blank words of a
known actor. -/
structure AddsNothing (L : LetterCase) (row : SourceRow) (identity : Option ActorIdentity)
    (aiRequest : AdminAiRequestProjection) : Prop where
  targetType : (truthyText (Backfill.buildInput row).derivedTargetType).isSome
  targetId : (truthyText (Backfill.buildInput row).derivedTargetId).isSome
  provider : (toText (get (Backfill.buildInput row).rich "provider")).isSome ∨
    aiRequest.provider = none
  model : (toText (get (Backfill.buildInput row).rich "model")).isSome ∨ aiRequest.model = none
  status : (deriveStatus L (Backfill.buildInput row).eventType
    (toText (get (Backfill.buildInput row).rich "status"))).isSome ∨
      normalizeAdminAiStatus aiRequest.status = none
  durationMs : (toNumber (get (Backfill.buildInput row).rich "durationMs")).isSome ∨
    aiRequest.durationMs = none
  costUsd : ((toNumber (get (Backfill.buildInput row).rich "costUsd")).or
    (toNumber (get (Backfill.buildInput row).rich "estimatedCostUsd"))).isSome ∨
      aiRequest.estimatedCostUsd = none
  promptTokens : ((Backfill.buildInput row).tokens "promptTokens").isSome ∨
    aiRequest.promptTokens = none
  completionTokens : ((Backfill.buildInput row).tokens "completionTokens").isSome ∨
    aiRequest.completionTokens = none
  totalTokens : ((Backfill.buildInput row).tokens "totalTokens").isSome ∨
    aiRequest.totalTokens = none
  excerpt : truthyText aiRequest.promptExcerpt = none ∨ identity.isSome ∧
    ∀ word ∈ excerptWords L aiRequest.promptExcerpt ++ identityWords L identity, trimText word = []

/-- The columns stay as they are. -/
theorem addsNothing_iff {row : SourceRow} {aiRequest : AdminAiRequestProjection} :
    withAiPatch (buildRow L row)
        (some (buildAdminAiLogPatchFromAiRequestEvent aiRequest)) = buildRow L row ∧
      (truthyText aiRequest.promptExcerpt = none ∨ identity.isSome ∧
        ∀ word ∈ excerptWords L aiRequest.promptExcerpt ++ identityWords L identity,
          trimText word = []) ↔ AddsNothing L row identity aiRequest := by
  constructor
  · rintro ⟨heq, hexcerpt⟩
    constructor
    · have hcol := or_eq_left_iff.mp (congrArg AdminLogEventCreateInput.targetType heq)
      exact hcol.resolve_right nofun
    · have hcol := or_eq_left_iff.mp (congrArg AdminLogEventCreateInput.targetId heq)
      exact hcol.resolve_right nofun
    · exact or_eq_left_iff.mp (congrArg AdminLogEventCreateInput.provider heq)
    · exact or_eq_left_iff.mp (congrArg AdminLogEventCreateInput.model heq)
    · exact or_eq_left_iff.mp (congrArg AdminLogEventCreateInput.status heq)
    · exact or_eq_left_iff.mp (congrArg AdminLogEventCreateInput.durationMs heq)
    · exact or_eq_left_iff.mp (congrArg AdminLogEventCreateInput.costUsd heq)
    · exact or_eq_left_iff.mp (congrArg AdminLogEventCreateInput.promptTokens heq)
    · exact or_eq_left_iff.mp (congrArg AdminLogEventCreateInput.completionTokens heq)
    · exact or_eq_left_iff.mp (congrArg AdminLogEventCreateInput.totalTokens heq)
    · exact hexcerpt
  · intro h
    refine ⟨?_, h.excerpt⟩
    have htargetType : (truthyText (Backfill.buildInput row).derivedTargetType).or
        (some "ai_request".toList) = truthyText (Backfill.buildInput row).derivedTargetType :=
      Option.or_of_isSome h.targetType
    have htargetId : (truthyText (Backfill.buildInput row).derivedTargetId).or
        (some aiRequest.id) = truthyText (Backfill.buildInput row).derivedTargetId :=
      Option.or_of_isSome h.targetId
    have hprov := or_eq_left_iff.mpr h.provider
    have hmodel := or_eq_left_iff.mpr h.model
    have hstat := or_eq_left_iff.mpr h.status
    have hdurationMs := or_eq_left_iff.mpr h.durationMs
    have hcostUsd := or_eq_left_iff.mpr h.costUsd
    have hpromptTokens := or_eq_left_iff.mpr h.promptTokens
    have hcompletionTokens := or_eq_left_iff.mpr h.completionTokens
    have htotalTokens := or_eq_left_iff.mpr h.totalTokens
    simp only [withAiPatch, buildRow, buildAdminLogEventCreateInput,
      buildAdminAiLogPatchFromAiRequestEvent, htargetType, htargetId, hprov, hmodel, hstat,
      hdurationMs, hcostUsd, hpromptTokens, hcompletionTokens, htotalTokens]

section Texts

variable {text : List Char} (h : Searched L text)
include h

theorem writtenText_unknown (aiRequest : Option AdminAiRequestProjection) :
    writtenText L (some text) aiRequest none = some (text ++ following
      (excerptWords L (aiRequest.bind fun request => request.promptExcerpt))) :=
  congrArg some (h.withExcerpt _)

theorem writtenText_known (aiRequest : Option AdminAiRequestProjection) (identity : ActorIdentity) :
    writtenText L (some text) aiRequest (some identity) = some (trimText (text ++ following
      (excerptWords L (aiRequest.bind fun request => request.promptExcerpt) ++
        identityWords L (some identity)))) := by
  show enrichSearchTextWithActorIdentity L (some _) _ = _
  rw [h.withExcerpt, h.enrich]

theorem rebuiltText_eq (aiRequest : Option AdminAiRequestProjection)
    (identity : Option ActorIdentity) :
    rebuiltText L (some text) aiRequest identity = some (trimText (text ++ following
      (excerptWords L (aiRequest.bind fun request => request.promptExcerpt) ++
        identityWords L identity))) := by
  cases aiRequest with
  | none =>
    have hempty : text = text ++ following [] := by simp [following]
    show enrichSearchTextWithActorIdentity L (some text) identity = _
    conv_lhs => rw [hempty]
    rw [h.enrich]
    rfl
  | some request =>
    show enrichSearchTextWithActorIdentity L (some _) identity = _
    rw [h.withExcerpt, h.enrich]
    rfl

/-- From the same AI request both texts are the same, but for blanks at the end of a text
without an actor. -/
theorem texts_same_iff (aiRequest : Option AdminAiRequestProjection)
    (identity : Option ActorIdentity) :
    writtenText L (some text) aiRequest identity = rebuiltText L (some text) aiRequest identity ↔
      (identity = none → EndsInText (text ++ following
        (excerptWords L (aiRequest.bind fun request => request.promptExcerpt)))) := by
  rw [rebuiltText_eq h]
  cases identity with
  | none =>
    have hnone : identityWords L none = [] := rfl
    rw [writtenText_unknown h, hnone, List.append_nil, some_inj, h.unknown_iff (.inl rfl)]
    simp
  | some identity =>
    rw [writtenText_known h]
    simp

/-- An AI request that only the write path finds must leave the text as it is. -/
theorem texts_missed_iff (request : AdminAiRequestProjection) (identity : Option ActorIdentity) :
    writtenText L (some text) (some request) identity = rebuiltText L (some text) none identity ↔
      (truthyText request.promptExcerpt = none ∨ identity.isSome ∧
        ∀ word ∈ excerptWords L request.promptExcerpt ++ identityWords L identity,
          trimText word = []) ∧
      (identity = none →
        EndsInText (text ++ following (excerptWords L request.promptExcerpt))) := by
  have hwords : excerptWords L request.promptExcerpt = [] ↔
      truthyText request.promptExcerpt = none := by simp_all [excerptWords]
  have hno : excerptWords L ((none : Option AdminAiRequestProjection).bind
      fun request => request.promptExcerpt) = [] := rfl
  rw [rebuiltText_eq h, hno, List.nil_append]
  cases identity with
  | none =>
    have hnone : identityWords L none = [] := rfl
    rw [writtenText_unknown h, hnone, some_inj, Option.bind_some,
      h.unknown_iff (.inr rfl), eq_comm, hwords]
    simp
  | some identity =>
    rw [writtenText_known h, some_inj, Option.bind_some, h.known_iff, hwords]
    simp

end Texts

end Created

/-! ## The stored rows -/

section Stored

variable (L : LetterCase) (db : Database)

/-- What a backfill needs to store the row that the write path has stored: the JSON of the row
is an object; the AI request that the row names is its target, or adds nothing; and if no user
is the actor, the last part of the search text does not end in white space. -/
structure Rebuilds (row : SourceRow) : Prop where
  json : jsonKept row
  aiRequest : ∀ aiRequest, namedAiRequest db row = some aiRequest →
    aiTarget row = some aiRequest.id ∨
      AddsNothing L row (knownActor db (Backfill.buildInput row).actorId) aiRequest
  text : knownActor db (Backfill.buildInput row).actorId = none → ∃ part ∈ lastPart L row
      ((namedAiRequest db row).bind fun request => request.promptExcerpt),
      EndsInText (L.toLowerCase part)

variable {L db}

theorem knownActor_truthyText (actorId : Option (List Char)) :
    knownActor db (truthyText actorId) = knownActor db actorId := by
  cases actorId with
  | none => rfl
  | some id =>
    by_cases hid : id = []
    · subst hid
      rfl
    · rw [truthyText_of_ne hid]

variable {row : SourceRow}

/-- The two ways complete the same data to the same row exactly if they need to. -/
theorem finished_texts_iff {rebuilt : Option AdminAiRequestProjection}
    (hrebuilt : rebuiltAiRequest db (buildRow L row) = rebuilt)
    (identity : Option ActorIdentity) :
    finished (buildRow L row) (namedAiRequest db row) identity
        (writtenText L (buildRow L row).searchText (namedAiRequest db row) identity) =
      finished (buildRow L row) rebuilt identity
        (rebuiltText L (buildRow L row).searchText rebuilt identity) ↔
    (∀ aiRequest, namedAiRequest db row = some aiRequest →
      aiTarget row = some aiRequest.id ∨ AddsNothing L row identity aiRequest) ∧
    (identity = none → ∃ part ∈ lastPart L row
        ((namedAiRequest db row).bind fun request => request.promptExcerpt),
        EndsInText (L.toLowerCase part)) := by
  have hsearched := searched_searchable (L := L) (Backfill.buildInput row)
  have htext : (buildRow L row).searchText =
      some ((Backfill.buildInput row).searchable L) := searchText_build _
  rw [finished_eq_iff, htext, ← endsInText_lastPart]
  by_cases hsame : rebuilt = namedAiRequest db row
  · -- both find the same AI request, so that it is the target
    have htarget : ∀ aiRequest, namedAiRequest db row = some aiRequest →
        aiTarget row = some aiRequest.id := by
      intro aiRequest hnamed
      exact (rebuiltAiRequest_iff hnamed).mp (hrebuilt.trans (hsame.trans hnamed))
    rw [hsame, texts_same_iff hsearched]
    constructor
    · grind
    · rintro ⟨-, hends⟩
      exact ⟨rfl, hends⟩
  -- only the write path finds one
  have hnone : rebuilt = none := by
    rcases rebuiltAiRequest_cases (L := L) db row with h | h
    · exact absurd (hrebuilt.symm.trans h) hsame
    · exact hrebuilt.symm.trans h
  subst hnone
  cases hnamed : namedAiRequest db row with
  | none => exact absurd hnamed.symm hsame
  | some aiRequest =>
    have htarget : aiTarget row ≠ some aiRequest.id := by grind [rebuiltAiRequest_iff]
    rw [texts_missed_iff hsearched, Option.map_some]
    show _ = buildRow L row ∧ _ ↔ _
    rw [← and_assoc, addsNothing_iff]
    constructor
    all_goals grind

/-- The columns of JSON and the key are those of the data. -/
theorem finished_json (data : AdminLogEventCreateInput)
    (aiRequest : Option AdminAiRequestProjection) (identity : Option ActorIdentity)
    (searchText : Option (List Char)) :
    (finished data aiRequest identity searchText).metadataJson = data.metadataJson ∧
      (finished data aiRequest identity searchText).payloadJson = data.payloadJson ∧
      AdminLogEvent.key (finished data aiRequest identity searchText) = AdminLogEvent.key data := by
  cases aiRequest <;> exact ⟨rfl, rfl, rfl⟩

theorem key_update (row data : AdminLogEventCreateInput) :
    AdminLogEvent.key (AdminLogEvent.update row data) = AdminLogEvent.key row := rfl

theorem key_build (row : SourceRow) : AdminLogEvent.key (buildReadModelFromRow L row) = row.key ∧
      AdminLogEvent.key (buildRow L row) = row.key := by
  cases row <;> exact ⟨rfl, rfl⟩

variable {table : List AdminLogEvent}

/-- A batch stores the row that is created for one of its rows. -/
theorem storedRow_upsertAll {build : SourceRow → AdminLogEventCreateInput}
    {create : AdminLogEventCreateInput → AdminLogEvent}
    (hcreate : ∀ row, AdminLogEvent.key (create (build row)) = row.key) {rows : List SourceRow}
    (hmem : row ∈ rows) (hkeys : (rows.map SourceRow.key).Nodup)
    (habsent : storedRow table row.stream row.id = none) :
    storedRow (Table.upsertAll AdminLogEvent.key AdminLogEvent.update table
      ((rows.map build).map create)) row.stream row.id = some (create (build row)) := by
  have hkey : (row.stream, row.id) = AdminLogEvent.key (create (build row)) := (hcreate row).symm
  have hnodup : (((rows.map build).map create).map AdminLogEvent.key).Nodup := by grind
  unfold storedRow at habsent ⊢
  rw [hkey] at habsent ⊢
  have hcreated : create (build row) ∈ (rows.map build).map create :=
    List.mem_map_of_mem (List.mem_map_of_mem hmem)
  exact Table.find?_upsertAll key_update hnodup hcreated habsent

/-- The row that the write path stores. -/
theorem storedRow_written {events : List SourceRow} (hmem : row ∈ events)
    (hkeys : (events.map SourceRow.key).Nodup)
    (habsent : storedRow table row.stream row.id = none) :
    storedRow (upsertAdminLogEventsBestEffort L db
        (events.map (buildReadModelFromRow L)) table) row.stream row.id =
      some (finished (buildReadModelFromRow L row)
        (writtenAiRequest db (buildReadModelFromRow L row))
        (knownActor db (buildReadModelFromRow L row).actorId)
        (writtenText L (buildReadModelFromRow L row).searchText
          (writtenAiRequest db (buildReadModelFromRow L row))
          (knownActor db (buildReadModelFromRow L row).actorId))) := by
  have hdata : buildReadModelFromRow L row ∈
      events.map (buildReadModelFromRow L) := List.mem_map_of_mem hmem
  have hactor := actorIdentity_resolve db (List.mem_map_of_mem
    (f := fun data : AdminLogEventCreateInput => data.actorId) hdata)
  have hcreate : ∀ directory row, AdminLogEvent.key
      (WritePath.createData L db directory (buildReadModelFromRow L row)) = row.key := by
    intro directory row
    rw [writePath_finished rfl]
    exact (finished_json _ _ _ _).2.2.trans (key_build row).1
  have hstored := storedRow_upsertAll (hcreate (resolveActorIdentities db
    (present ((events.map (buildReadModelFromRow L)).map fun data => data.actorId))))
    hmem hkeys habsent
  rw [writePath_finished rfl, hactor] at hstored
  exact hstored

/-- The row that the backfill stores. -/
theorem storedRow_rebuilt {batch : List SourceRow} (hmem : row ∈ batch)
    (hskipped : skipped row = false) (hkeys : (batch.map SourceRow.key).Nodup)
    (habsent : storedRow table row.stream row.id = none) :
    storedRow (upsertBatch L db (buildBatch L batch) table) row.stream row.id =
      some (finished (buildRow L row) (rebuiltAiRequest db (buildRow L row))
        (knownActor db (buildRow L row).actorId)
        (rebuiltText L (buildRow L row).searchText (rebuiltAiRequest db (buildRow L row))
          (knownActor db (buildRow L row).actorId))) := by
  have hkept : row ∈ batch.filter fun row => !skipped row :=
    List.mem_filter.mpr ⟨hmem, by simp [hskipped]⟩
  have hkeys' : ((batch.filter fun row => !skipped row).map SourceRow.key).Nodup :=
    hkeys.sublist (List.filter_sublist.map _)
  have hdata : buildRow L row ∈ buildBatch L batch := List.mem_map_of_mem hkept
  have hactor := actorIdentity_resolve db (List.mem_map_of_mem
    (f := fun data : AdminLogEventCreateInput => data.actorId) hdata)
  -- the batch has read the AI requests of all of its rows
  have hfound : firstAiRequest
      (findAiRequests db ((buildBatch L batch).flatMap Backfill.aiRequestCandidates).eraseDups)
      (Backfill.aiRequestCandidates (buildRow L row)) = rebuiltAiRequest db (buildRow L row) := by
    apply firstAiRequest_find
    intro candidate hcand
    exact List.mem_eraseDups.mpr (List.mem_flatMap.mpr ⟨_, hdata, hcand⟩)
  have hcreate : ∀ directory rows row, AdminLogEvent.key
      (Backfill.createData L directory rows (buildRow L row)) = row.key := by
    intro directory rows row
    rw [backfill_finished rfl]
    exact (finished_json _ _ _ _).2.2.trans (key_build row).2
  have hstored := storedRow_upsertAll (hcreate (resolveActorIdentities db
      (present ((buildBatch L batch).map fun data => data.actorId)))
    (findAiRequests db ((buildBatch L batch).flatMap Backfill.aiRequestCandidates).eraseDups))
    hkept hkeys' habsent
  rw [backfill_finished hfound, hactor] at hstored
  exact hstored

/-- The backfill stores the row that the write path has stored exactly if `Rebuilds` holds. -/
theorem rebuilds_iff (L : LetterCase) (db : Database) {batch events : List SourceRow}
    {table table' : List AdminLogEvent} {row : SourceRow} (hbatch : row ∈ batch)
    (hevents : row ∈ events) (hskipped : skipped row = false)
    (hkeys : (batch.map SourceRow.key).Nodup) (hkeys' : (events.map SourceRow.key).Nodup)
    (habsent : storedRow table row.stream row.id = none)
    (habsent' : storedRow table' row.stream row.id = none) :
    storedRow (upsertBatch L db (buildBatch L batch) table) row.stream row.id =
      storedRow (upsertAdminLogEventsBestEffort L db
        (events.map (buildReadModelFromRow L)) table') row.stream row.id ↔
      Rebuilds L db row := by
  rw [storedRow_rebuilt hbatch hskipped hkeys habsent, storedRow_written hevents hkeys' habsent',
    some_inj, eq_comm]
  by_cases hjson : jsonKept row
  · -- from the same data
    have hnamed : writtenAiRequest db (buildRow L row) = namedAiRequest db row := by
      rw [writtenAiRequest, writePath_names]
      rfl
    have hactor : knownActor db (buildRow L row).actorId =
        knownActor db (Backfill.buildInput row).actorId := knownActor_truthyText _
    rw [← buildRow_eq hjson, hnamed, hactor, finished_texts_iff rfl]
    constructor
    · rintro ⟨haiRequest, htext⟩
      exact ⟨hjson, haiRequest, htext⟩
    · intro h
      exact ⟨h.aiRequest, h.text⟩
  constructor
  · intro heq
    obtain ⟨hwritten, hwritten', -⟩ := finished_json (buildReadModelFromRow L row)
      (writtenAiRequest db (buildReadModelFromRow L row))
      (knownActor db (buildReadModelFromRow L row).actorId)
      (writtenText L (buildReadModelFromRow L row).searchText
        (writtenAiRequest db (buildReadModelFromRow L row))
        (knownActor db (buildReadModelFromRow L row).actorId))
    rw [heq] at hwritten hwritten'
    have hmetadata := hwritten.symm.trans (finished_json _ _ _ _).1
    have hpayload := hwritten'.symm.trans (finished_json _ _ _ _).2.1
    exact absurd (jsonKept_of_columns hmetadata hpayload) hjson
  · intro h
    exact absurd h.json hjson

end Stored

/-! ## Rows that are rebuilt, and one that is not -/

section Example

/-- An AI request that is finished. -/
def answeredRequest : AdminAiRequestProjection :=
  ⟨"r1".toList, some "openai".toList, some "m1".toList, some 900, none, none, none, none,
    some "what is 2+2".toList, some "success".toList⟩

def answeredDatabase : Database :=
  ⟨[⟨"u1".toList, ⟨"ada@example.org".toList, none⟩⟩], [answeredRequest]⟩

/-- A usage event that names the AI request in its metadata. -/
def answeredRow : SourceRow :=
  .activity ⟨"a1".toList, "extension.quiz_answer_requested".toList, some "u1".toList,
    .object [("aiRequestEventId", .string "r1".toList)], 0⟩

/-- An audit entry whose target is the AI request. -/
def reviewedRow : SourceRow :=
  .audit ⟨"a2".toList, "admin.request_reviewed".toList, some "u1".toList, "ai_request".toList,
    "r1".toList, .object [], 0⟩

theorem rebuilds_reviewed : storedRow (upsertBatch asciiCase answeredDatabase
        (buildBatch asciiCase [reviewedRow]) []) reviewedRow.stream reviewedRow.id =
      storedRow (upsertAdminLogEventsBestEffort asciiCase answeredDatabase
        ([reviewedRow].map (buildReadModelFromRow asciiCase)) [])
        reviewedRow.stream reviewedRow.id := by
  apply (rebuilds_iff asciiCase answeredDatabase List.mem_cons_self List.mem_cons_self (by decide)
    (by decide) (by decide) rfl rfl).mpr
  constructor
  · rfl
  · intro aiRequest hnamed
    have hrequest : namedAiRequest answeredDatabase reviewedRow = some answeredRequest := rfl
    rw [hrequest] at hnamed
    cases hnamed
    exact .inl (by decide)
  · intro hactor
    have hknown : (knownActor answeredDatabase
      (Backfill.buildInput reviewedRow).actorId).isSome = true := by decide
    rw [hactor] at hknown
    cases hknown

/-- The backfill does not find the AI request that a usage event names in its metadata. -/
theorem answered_differs : storedRow (upsertBatch asciiCase answeredDatabase
        (buildBatch asciiCase [answeredRow]) []) answeredRow.stream answeredRow.id ≠
      storedRow (upsertAdminLogEventsBestEffort asciiCase answeredDatabase
        ([answeredRow].map (buildReadModelFromRow asciiCase)) [])
        answeredRow.stream answeredRow.id := by
  intro h
  have hprovider := congrArg (fun row => row.bind fun row => row.provider) h
  revert hprovider
  decide

end Example

end QuizMind.Logs

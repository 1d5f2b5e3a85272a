import QuizMind.RemoteConfig.Values
import QuizMind.Text.Csv

/-! # The exports as tables

`serializeAdminLogsCsv` and the three of the usage write one record an item behind a header. A
field is quoted for a quote, a comma or a line feed, not for a carriage return, so that a table is
read back exactly when no field has a carriage return without one of these
(`csv_readBack_iff`).
-/

namespace QuizMind.Logs

open RemoteConfig (JsString JsonValue js)

/-! ## Items -/

structure AdminLogActorSummary where
  id : JsString
  email : Option JsString
  displayName : Option JsString

/-- What is exported of an entry; `none` is `undefined`. -/
structure AdminLogEntry (Number : Type) where
  stream : JsString
  eventType : JsString
  summary : JsString
  occurredAt : JsString
  severity : Option JsString
  status : Option JsString
  actor : Option AdminLogActorSummary
  targetType : Option JsString
  targetId : Option JsString
  metadata : Option (List (String × JsonValue))
  category : Option JsString
  source : Option JsString
  installationId : Option JsString
  provider : Option JsString
  model : Option JsString
  durationMs : Option Number
  costUsd : Option Number
  promptTokens : Option Number
  completionTokens : Option Number
  totalTokens : Option Number
  errorSummary : Option JsString

structure UsageQuotaSnapshot (Number : Type) where
  key : JsString
  label : JsString
  consumed : Number
  limit : Option Number
  remaining : Option Number
  periodStart : JsString
  periodEnd : JsString
  status : JsString

structure UsageInstallationSummary where
  installationId : JsString
  browser : JsString
  extensionVersion : JsString
  schemaVersion : JsString
  capabilities : List JsString
  lastSeenAt : Option JsString

structure UsageRecentEventSummary where
  id : JsString
  source : JsString
  eventType : JsString
  severity : Option JsString
  occurredAt : JsString
  installationId : Option JsString
  actorId : Option JsString
  summary : JsString

/-- `String` on a number, and `JSON.stringify`. -/
structure CsvFunctions (Number : Type) where
  numberText : Number → JsString
  stringify : JsonValue → JsString

/-! ## The service -/

def quote : ℕ := '"'.toNat

def comma : ℕ := ','.toNat

def carriageReturn : ℕ := '\r'.toNat

def lineFeed : ℕ := '\n'.toNat

/-- `parts.join(',')`, and of other separators of one character -/
def join (separator : ℕ) (parts : List JsString) : JsString := Text.joined separator parts

def escapeCsv (value : JsString) : JsString :=
  let normalized := value.flatMap fun u => if u = quote then [quote, quote] else [u]
  if normalized.any fun u => u = quote || u = comma || u = lineFeed then
    quote :: normalized ++ [quote]
  else normalized

variable {Number : Type} (functions : CsvFunctions Number)

def adminLogFields (item : AdminLogEntry Number) : List JsString :=
  [item.stream, item.category.getD [], item.source.getD [], item.eventType, item.summary,
    item.occurredAt, item.severity.getD [], item.status.getD [],
    (item.actor.map AdminLogActorSummary.id).getD [],
    (item.actor.bind AdminLogActorSummary.email).getD [],
    (item.actor.bind AdminLogActorSummary.displayName).getD [],
    item.targetType.getD [], item.targetId.getD [], item.installationId.getD [],
    item.provider.getD [], item.model.getD [],
    (item.durationMs.map functions.numberText).getD [],
    (item.costUsd.map functions.numberText).getD [],
    (item.promptTokens.map functions.numberText).getD [],
    (item.completionTokens.map functions.numberText).getD [],
    (item.totalTokens.map functions.numberText).getD [],
    item.errorSummary.getD [],
    (item.metadata.map fun metadata => functions.stringify (.object metadata)).getD []]

def serializeAdminLogsCsv (items : List (AdminLogEntry Number)) : JsString :=
  let header := js <| "stream,category,source,eventType,summary,occurredAt,severity,status," ++
    "actorId,actorEmail,actorDisplayName,targetType,targetId," ++
    "installationId,provider,model,durationMs,costUsd," ++
    "promptTokens,completionTokens,totalTokens,errorSummary,metadata"
  let rows := items.map fun item => join comma ((adminLogFields functions item).map escapeCsv)
  join lineFeed (header :: rows)

def usageQuotaFields (quota : UsageQuotaSnapshot Number) : List JsString :=
  [quota.key, quota.label, functions.numberText quota.consumed,
    (quota.limit.map functions.numberText).getD [],
    (quota.remaining.map functions.numberText).getD [],
    quota.periodStart, quota.periodEnd, quota.status]

def serializeUsageQuotasCsv (quotas : List (UsageQuotaSnapshot Number)) : JsString :=
  let header := js "key,label,consumed,limit,remaining,periodStart,periodEnd,status"
  let rows := quotas.map fun quota =>
    join comma ((usageQuotaFields functions quota).map escapeCsv)
  join lineFeed (header :: rows)

def usageInstallationFields (installation : UsageInstallationSummary) : List JsString :=
  [installation.installationId, installation.browser, installation.extensionVersion,
    installation.schemaVersion, join '|'.toNat installation.capabilities,
    installation.lastSeenAt.getD []]

def serializeUsageInstallationsCsv (installations : List UsageInstallationSummary) : JsString :=
  let header :=
    js "installationId,browser,extensionVersion,schemaVersion,capabilities,lastSeenAt"
  let rows := installations.map fun installation =>
    join comma ((usageInstallationFields installation).map escapeCsv)
  join lineFeed (header :: rows)

def usageEventFields (event : UsageRecentEventSummary) : List JsString :=
  [event.id, event.source, event.eventType, event.severity.getD [], event.occurredAt,
    event.installationId.getD [], event.actorId.getD [], event.summary]

def serializeUsageEventsCsv (recentEvents : List UsageRecentEventSummary) : JsString :=
  let header := js "id,source,eventType,severity,occurredAt,installationId,actorId,summary"
  let rows := recentEvents.map fun event => join comma ((usageEventFields event).map escapeCsv)
  join lineFeed (header :: rows)

/-! ## The tables -/

def csvMarks : Csv.Marks ℕ where
  quote := quote
  comma := comma
  cr := carriageReturn
  lf := lineFeed
  comma_ne_quote := by decide
  cr_ne_quote := by decide
  lf_ne_quote := by decide
  cr_ne_comma := by decide
  lf_ne_comma := by decide
  lf_ne_cr := by decide

/-- What `escapeCsv` looks for. -/
def csvSpecial : List ℕ := [quote, comma, lineFeed]

def adminLogColumns : List String :=
  ["stream", "category", "source", "eventType", "summary", "occurredAt", "severity", "status",
    "actorId", "actorEmail", "actorDisplayName", "targetType", "targetId", "installationId",
    "provider", "model", "durationMs", "costUsd", "promptTokens", "completionTokens",
    "totalTokens", "errorSummary", "metadata"]

def usageQuotaColumns : List String :=
  ["key", "label", "consumed", "limit", "remaining", "periodStart", "periodEnd", "status"]

def usageInstallationColumns : List String :=
  ["installationId", "browser", "extensionVersion", "schemaVersion", "capabilities", "lastSeenAt"]

def usageEventColumns : List String :=
  ["id", "source", "eventType", "severity", "occurredAt", "installationId", "actorId", "summary"]

/-- The text is read as a record of columns and a record an item. -/
def ReadBack {Item : Type} (text : JsString) (columns : List String)
    (fields : Item → List JsString) (items : List Item) : Prop :=
  Csv.parse csvMarks text = some (columns.map js :: items.map fields)

/-- The field is quoted if it has a carriage return. -/
def Readable (field : JsString) : Prop :=
  carriageReturn ∈ field → quote ∈ field ∨ comma ∈ field ∨ lineFeed ∈ field

theorem covers_csvSpecial : Csv.Covers csvMarks csvSpecial where
  quote := by decide
  comma := by decide
  lf := by decide

theorem readable_iff {field : JsString} : Csv.Clear csvMarks csvSpecial field ↔ Readable field := by
  have hspecial : (∃ c ∈ field, c ∈ csvSpecial) ↔
      quote ∈ field ∨ comma ∈ field ∨ lineFeed ∈ field := by grind [csvSpecial]
  exact imp_congr_right fun _ => hspecial

/-- Doubling the quotes does not change which of the characters there are. -/
theorem escapeCsv_eq (value : JsString) :
    escapeCsv value = Csv.encodeField csvMarks csvSpecial value := by
  have hany : (Csv.doubled csvMarks value).any (fun u => u = quote || u = comma || u = lineFeed) =
      true ↔ ∃ c ∈ value, c ∈ csvSpecial := by
    have hmem : ∀ u, u ∈ Csv.doubled csvMarks value ↔ u ∈ value := by
      grind [Csv.doubled]
    constructor
    all_goals grind [csvSpecial]
  have hnorm : (value.flatMap fun u => if u = quote then [quote, quote] else [u]) =
      Csv.doubled csvMarks value := rfl
  unfold escapeCsv Csv.encodeField
  rw [hnorm]
  by_cases hspecial : ∃ c ∈ value, c ∈ csvSpecial
  · rw [if_pos (hany.mpr hspecial), if_pos hspecial]
    rfl
  rw [if_neg fun h => hspecial (hany.mp h), if_neg hspecial]
  -- there is no quote to double
  have hsingle : ∀ u ∈ value, (if u = csvMarks.quote then [csvMarks.quote, csvMarks.quote]
      else [u]) = [u] := by
    intro u hu
    refine if_neg ?_
    intro hquote
    exact hspecial ⟨u, hu, by rw [hquote]; exact covers_csvSpecial.quote⟩
  unfold Csv.doubled
  rw [List.flatMap_congr hsingle]
  exact List.flatMap_singleton' value

/-! ## Which tables are read back -/

theorem visible_of_length {record : List JsString} (h : 2 ≤ record.length) : Csv.Visible record := by
  constructor
  all_goals
    rintro rfl
    exact absurd h (by decide)

section ReadBack

variable {Item : Type} {columns : List String} {fields : Item → List JsString} {header : JsString}

/-- A header without carriage returns, and records of several fields. -/
theorem readBack_rows (items : List Item)
    (hheader : header = Csv.encodeRecord csvMarks csvSpecial (columns.map js))
    (hcolumns : ∀ column ∈ columns.map js, carriageReturn ∉ column)
    (hlen : 2 ≤ columns.length) (hfields : ∀ item, (fields item).length = columns.length) :
    ReadBack (join lineFeed (header :: items.map fun item =>
        join comma ((fields item).map escapeCsv))) columns fields items ↔
      ∀ item ∈ items, ∀ field ∈ fields item, Readable field := by
  have hescape : (fun value => escapeCsv value) = Csv.encodeField csvMarks csvSpecial :=
    funext escapeCsv_eq
  have htext : join lineFeed (header :: items.map fun item =>
      join comma ((fields item).map escapeCsv)) =
        Csv.encode csvMarks csvSpecial (columns.map js :: items.map fields) := by
    unfold Csv.encode
    rw [List.map_cons, ← hheader, List.map_map]
    have hrec : ∀ item, join comma ((fields item).map escapeCsv) =
        Csv.encodeRecord csvMarks csvSpecial (fields item) := by
      intro item
      unfold Csv.encodeRecord
      rw [← hescape]
      rfl
    simp only [hrec]
    rfl
  have hvisible : ∀ record ∈ columns.map js :: items.map fields, Csv.Visible record := by
    intro record hrec
    refine visible_of_length ?_
    rcases List.mem_cons.mp hrec with rfl | hrec
    · rw [List.length_map]
      exact hlen
    · grind
  unfold ReadBack
  rw [htext, Csv.parse_encode_iff csvMarks csvSpecial covers_csvSpecial hvisible,
    List.forall_mem_cons]
  constructor
  · rintro ⟨-, h⟩ item hitem field hfield
    exact readable_iff.mp (h _ (List.mem_map_of_mem hitem) field hfield)
  intro h
  refine ⟨?_, ?_⟩
  · intro column hcol hcr
    exact absurd hcr (hcolumns column hcol)
  intro record hrec field hfield
  obtain ⟨item, hitem, rfl⟩ := List.mem_map.mp hrec
  exact readable_iff.mpr (h item hitem field hfield)

end ReadBack

theorem readBack_adminLogs (functions : CsvFunctions Number) (items : List (AdminLogEntry Number)) :
    ReadBack (serializeAdminLogsCsv functions items) adminLogColumns (adminLogFields functions)
        items ↔
      ∀ item ∈ items, ∀ field ∈ adminLogFields functions item, Readable field := by
  refine readBack_rows items ?_ (by decide +kernel) (by decide) fun _ => rfl
  simp only [js, String.toList_append]
  repeat rw [String.toList_ofList]
  decide +kernel

/-- Each of the exports is read back exactly when the fields with a carriage return are quoted. -/
theorem csv_readBack_iff (functions : CsvFunctions Number) : (∀ items : List (AdminLogEntry Number),
      ReadBack (serializeAdminLogsCsv functions items) adminLogColumns (adminLogFields functions)
          items ↔
        ∀ item ∈ items, ∀ field ∈ adminLogFields functions item, Readable field) ∧
    (∀ quotas : List (UsageQuotaSnapshot Number),
      ReadBack (serializeUsageQuotasCsv functions quotas) usageQuotaColumns
          (usageQuotaFields functions) quotas ↔
        ∀ quota ∈ quotas, ∀ field ∈ usageQuotaFields functions quota, Readable field) ∧
    (∀ installations : List UsageInstallationSummary,
      ReadBack (serializeUsageInstallationsCsv installations) usageInstallationColumns
          usageInstallationFields installations ↔
        ∀ installation ∈ installations, ∀ field ∈ usageInstallationFields installation,
          Readable field) ∧
    ∀ recentEvents : List UsageRecentEventSummary,
      ReadBack (serializeUsageEventsCsv recentEvents) usageEventColumns usageEventFields
          recentEvents ↔
        ∀ event ∈ recentEvents, ∀ field ∈ usageEventFields event, Readable field := by
  refine ⟨?_, ?_, ?_, ?_⟩
  · exact readBack_adminLogs functions
  · intro quotas
    exact readBack_rows quotas (by decide +kernel) (by decide +kernel) (by decide) fun _ => rfl
  · intro installations
    exact readBack_rows installations (by decide +kernel) (by decide +kernel) (by decide)
      fun _ => rfl
  · intro recentEvents
    exact readBack_rows recentEvents (by decide +kernel) (by decide +kernel) (by decide)
      fun _ => rfl

/-- An entry with the summary of a text from an old system. -/
def twoLines : AdminLogEntry ℕ where
  stream := js "audit"
  eventType := js "user.updated"
  summary := js "first\rsecond"
  occurredAt := js "2024-01-01T00:00:00.000Z"
  severity := none
  status := none
  actor := none
  targetType := none
  targetId := none
  metadata := none
  category := none
  source := none
  installationId := none
  provider := none
  model := none
  durationMs := none
  costUsd := none
  promptTokens := none
  completionTokens := none
  totalTokens := none
  errorSummary := none

/-- The summary with a carriage return is not quoted, and ends its record. -/
theorem twoLines_split : ¬ ∀ (functions : CsvFunctions ℕ) (items : List (AdminLogEntry ℕ)),
      ReadBack (serializeAdminLogsCsv functions items) adminLogColumns (adminLogFields functions)
        items := by
  intro h
  have hread := h ⟨fun n => js (toString n), fun _ => []⟩ [twoLines]
  rw [readBack_adminLogs] at hread
  have hsummary := hread twoLines List.mem_cons_self (js "first\rsecond")
    (by simp [adminLogFields, twoLines])
  exact absurd (hsummary (by decide)) (by decide)

end QuizMind.Logs

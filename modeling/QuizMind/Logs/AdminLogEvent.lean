import QuizMind.Ai.Usage
import QuizMind.Text.Tokens
import Mathlib.Data.List.Infix

/-! # `buildAdminLogEventCreateInput`

The columns of the admin log's read model that are derived from one source row: its event
type and whatever its metadata or payload happens to hold. A value that is not an object has
no members; an array, a string or a number has none of the names that are read here.

`toLowerCase` and `toUpperCase` beyond ASCII are a parameter with the laws that the proofs
need (`LetterCase`).
-/

namespace QuizMind.Logs

open Ai (JsValue Payload trimText)

/-! ## Texts -/

/-- `toLowerCase` of a text and `toUpperCase` of one character. A space separates a text into
parts that are lowered each by itself, and what has been lowered stays as it is. -/
structure LetterCase where
  toLowerCase : List Char → List Char
  toUpperCase : Char → List Char
  lower_ascii : ∀ text : List Char, (∀ c ∈ text, c.toNat < 128) →
    toLowerCase text = text.map Char.toLower
  lower_space : ∀ text rest : List Char,
    toLowerCase (text ++ ' ' :: rest) = toLowerCase text ++ ' ' :: toLowerCase rest
  lower_lower : ∀ text, toLowerCase (toLowerCase text) = toLowerCase text

theorem toLower_toLower (c : Char) : c.toLower.toLower = c.toLower := by
  by_cases hupper : c.val ≥ 'A'.val ∧ c.val ≤ 'Z'.val
  · -- what has been lowered comes after `Z`
    have hval : c.toLower.val = c.val + 32 := congrArg Char.val (dif_pos hupper)
    exact dif_neg (by grind)
  · have hsame : c.toLower = c := dif_neg hupper
    rw [hsame, hsame]

/-- The letters of ASCII. -/
def asciiCase : LetterCase where
  toLowerCase text := text.map Char.toLower
  toUpperCase c := [c.toUpper]
  lower_ascii _ _ := rfl
  lower_space text rest := by
    rw [List.map_append, List.map_cons]
    rfl
  lower_lower text := by
    rw [List.map_map]
    apply List.map_congr_left
    intro c _
    exact toLower_toLower c

/-- `text.startsWith(start)`. -/
def startsWith (text : List Char) (start : String) : Bool := start.toList <+: text

/-- `text.includes(part)`. -/
def includes (text : List Char) (part : String) : Bool := part.toList <:+: text

/-- `[..].filter(Boolean)` on optional texts. -/
def present (parts : List (Option (List Char))) : List (List Char) :=
  (parts.filterMap id).filter fun text => text ≠ []

/-- `parts.join(' ')`. -/
def joinWords (parts : List (List Char)) : List Char := [' '].intercalate parts

/-- A text that a condition takes for true. -/
def truthyText (text : Option (List Char)) : Option (List Char) := text.filter fun t => t ≠ []

/-- `text.slice(0, n)` in UTF-16 code units; half of a pair is stored as U+FFFD. -/
def sliceUnits : ℕ → List Char → List Char
  | _, [] => []
  | 0, _ :: _ => []
  | 1, c :: _ => [if c.toNat < 0x10000 then c else Char.ofNat 0xFFFD]
  | n + 2, c :: rest => c :: sliceUnits (if c.toNat < 0x10000 then n + 1 else n) rest

/-! ## Reading metadata -/

/-- A value that a condition takes for true. -/
def isTruthy : JsValue → Bool
  | .null => false
  | .bool b => b
  | .number n => n ≠ some 0
  | .string text => text ≠ []
  | .array _ | .object _ => true

def toText : Option JsValue → Option (List Char)
  | some (.string value) => if trimText value = [] then none else some (trimText value)
  | _ => none

def toNumber : Option JsValue → Option ℚ
  | some (.number value) => value
  | _ => none

/-- `value?.key`. -/
def get (value : Option JsValue) (key : String) : Option JsValue :=
  match value with
  | some (.object members) => members.lookup key
  | _ => none

def toUsageNumber (value : Option JsValue) (key : String) : Option ℚ := toNumber (get value key)

/-! ## Derived columns -/

inductive LegacyAdminLogStream where
  | audit
  | activity
  | security
  | domain
  deriving DecidableEq

def LegacyAdminLogStream.name : LegacyAdminLogStream → List Char
  | .audit => "audit".toList
  | .activity => "activity".toList
  | .security => "security".toList
  | .domain => "domain".toList

inductive EventSeverity where
  | debug
  | info
  | warn
  | error
  deriving DecidableEq

def EventSeverity.ofText (text : List Char) : Option EventSeverity :=
  if text = "debug".toList then some .debug
  else if text = "info".toList then some .info
  else if text = "warn".toList then some .warn
  else if text = "error".toList then some .error
  else none

inductive AdminLogStatus where
  | success
  | failure
  deriving DecidableEq

def AdminLogStatus.ofText (text : List Char) : Option AdminLogStatus :=
  if text = "success".toList then some .success
  else if text = "failure".toList then some .failure
  else none

section Derived

variable (L : LetterCase)

def deriveCategory (eventType : List Char) (stream : LegacyAdminLogStream)
    (metadata : Option JsValue) : String :=
  let et := L.toLowerCase eventType
  if startsWith et "auth." || includes et "login" || includes et "password" ||
      includes et "session" || includes et ".mfa" || includes et ".otp" then
    "auth"
  else if startsWith et "extension." || includes et "installation" || includes et "bootstrap" then
    "extension"
  else if startsWith et "ai." || includes et "quiz_answer" || includes et "ai_request" ||
      includes et "proxy_request" || (toText (get metadata "provider")).isSome ||
      (toText (get metadata "model")).isSome then
    "ai"
  else if stream = .audit || startsWith et "admin." || includes et "support." ||
      includes et "impersonation" then
    "admin"
  else
    "system"

/-- The source that the metadata names, when it is one of the known names. -/
def namedSource (value : List Char) : Option String :=
  if value ∈ ["web".toList, "web_app".toList, "dashboard".toList] then some "web"
  else if value ∈ ["extension".toList, "content_script".toList, "extension_popup".toList] then
    some "extension"
  else if value = "api".toList then some "api"
  else if value ∈ ["worker".toList, "queue".toList] then some "worker"
  else if value = "webhook".toList then some "webhook"
  else none

/-- The source that the event type suggests. -/
def sourceOfEventType (et : List Char) : Option String :=
  if startsWith et "ai.proxy." then some "api"
  else if startsWith et "extension." then some "extension"
  else if startsWith et "webhook." || includes et "webhook_" then some "webhook"
  else if startsWith et "admin." || startsWith et "support." || includes et "impersonation" ||
      includes et "provider_policy" || includes et "provider_credential" then
    some "web"
  else if startsWith et "worker." || startsWith et "queue." || includes et ".worker_" ||
      includes et ".job_" then
    some "worker"
  else none

def deriveSource (eventType : List Char) (metadata : Option JsValue) : Option String :=
  let sourceRaw := ["source", "origin", "platform", "client", "requestSource"].findSome?
    fun key => toText (get metadata key)
  (sourceRaw.bind fun raw => namedSource (L.toLowerCase raw)).or
    (sourceOfEventType (L.toLowerCase eventType))

/-- `chunk.charAt(0).toUpperCase()` and the rest; half of a pair has no upper case. -/
def capitalise : List Char → List Char
  | [] => []
  | c :: rest => (if c.toNat < 0x10000 then L.toUpperCase c else [c]) ++ rest

def toTitleCase (value : List Char) : List Char :=
  joinWords (((value.splitOnP isJsSpace).filter fun chunk => chunk ≠ []).map (capitalise L))

/-- The summaries of some event types. -/
def explicitSummaries : List (String × String) :=
  [("ai.proxy.completed", "AI request completed"), ("ai.proxy.failed", "AI request failed"),
    ("ai.proxy.user_key_used", "User API key used"),
    ("ai.proxy.user_key_failed", "User API key failed"),
    ("extension.installation_self_disconnected", "Extension disconnected"),
    ("extension.installation_session_revoked", "Extension session revoked"),
    ("auth.login_success", "Login successful"),
    ("auth.login_failed", "Login failed"),
    ("auth.password_reset_requested", "Password reset requested"),
    ("auth.password_reset_completed", "Password reset completed"),
    ("auth.session_revoked", "Session revoked"),
    ("auth.session_created", "Session created")]

/-- A run of `.`, `_` and `-` becomes blanks, which `toTitleCase` reads as one. -/
def blankSeparators (eventType : List Char) : List Char :=
  eventType.map fun c => if c ∈ ['.', '_', '-'] then ' ' else c

def deriveSummary (eventType : List Char) : List Char :=
  let et := L.toLowerCase eventType
  match explicitSummaries.find? fun entry => entry.1.toList == et with
  | some entry => entry.2.toList
  | none =>
    if includes et "provider_credential" then "Provider credential updated".toList
    else if includes et "provider_policy" then "Provider policy updated".toList
    else if includes et "support." || includes et "impersonation" then
      "Support action recorded".toList
    else if startsWith et "admin." then "Admin action recorded".toList
    else if includes et "login" then
      (if includes et "failed" then "Login failed" else "Login successful").toList
    else if includes et "password" then "Password event recorded".toList
    else if includes et "session" then "Session event recorded".toList
    else toTitleCase L (blankSeparators eventType)

def deriveStatus (eventType : List Char) (explicitStatus : Option (List Char)) :
    Option AdminLogStatus :=
  (explicitStatus.bind AdminLogStatus.ofText).or (let normalizedEventType := L.toLowerCase eventType
    if normalizedEventType = "ai.proxy.completed".toList then some .success
    else if normalizedEventType ∈ ["ai.proxy.failed".toList, "ai.proxy.timeout".toList,
        "ai.proxy.quota_exceeded".toList, "ai.proxy.user_key_failed".toList] then
      some .failure
    else none)

end Derived

/-! ## The create input -/

structure BuildAdminLogEventInput where
  stream : LegacyAdminLogStream
  sourceRecordId : List Char
  eventType : List Char
  occurredAt : ℤ
  actorId : Option (List Char) := none
  severity : Option EventSeverity := none
  targetType : Option (List Char) := none
  targetId : Option (List Char) := none
  metadata : Option JsValue := none
  payload : Option JsValue := none

/-- `AdminLogEventCreateInput`: a member that is absent is `none`, and so is the column of the
row that is created from it. -/
structure AdminLogEventCreateInput where
  stream : LegacyAdminLogStream
  sourceRecordId : List Char
  eventType : List Char
  summary : List Char
  occurredAt : ℤ
  severity : Option EventSeverity
  status : Option AdminLogStatus
  actorId : Option (List Char)
  actorEmail : Option (List Char)
  actorDisplayName : Option (List Char)
  targetType : Option (List Char)
  targetId : Option (List Char)
  category : String
  source : Option String
  installationId : Option (List Char)
  provider : Option (List Char)
  model : Option (List Char)
  durationMs : Option ℚ
  costUsd : Option ℚ
  promptTokens : Option ℚ
  completionTokens : Option ℚ
  totalTokens : Option ℚ
  errorSummary : Option (List Char)
  searchText : Option (List Char)
  metadataJson : Option JsValue
  payloadJson : Option JsValue

namespace BuildAdminLogEventInput

variable (L : LetterCase) (input : BuildAdminLogEventInput)

/-- `metadata ?? payload`. -/
def rich : Option JsValue := input.metadata.or input.payload

def requestId : Option (List Char) := toText (get input.rich "requestId")

def summary : List Char :=
  (toText (get input.rich "summary")).getD (deriveSummary L input.eventType)

def derivedTargetType : Option (List Char) :=
  input.targetType.or (input.requestId.map fun _ => "ai_request".toList)

def derivedTargetId : Option (List Char) := input.targetId.or input.requestId

def errorText : Option (List Char) :=
  (toText (get input.rich "errorSummary")).or (toText (get input.rich "errorMessage"))

/-- The parts of the search text. -/
def searchParts : List (List Char) :=
  present [some input.stream.name, some input.eventType, some (input.summary L), input.actorId,
      toText (get input.rich "actorEmail"), toText (get input.rich "actorDisplayName"),
      input.derivedTargetType, input.derivedTargetId, toText (get input.rich "provider"),
      toText (get input.rich "model"), toText (get input.rich "promptExcerpt"),
      toText (get input.rich "errorSummary"), toText (get input.rich "errorMessage")]

def searchable : List Char := L.toLowerCase (joinWords (input.searchParts L))

/-- A token count: the member itself, else that of `usage`. -/
def tokens (key : String) : Option ℚ :=
  (toNumber (get input.rich key)).or (toUsageNumber (get input.rich "usage") key)

end BuildAdminLogEventInput

def buildAdminLogEventCreateInput (L : LetterCase) (input : BuildAdminLogEventInput) :
    AdminLogEventCreateInput where
  stream := input.stream
  sourceRecordId := input.sourceRecordId
  eventType := input.eventType
  summary := input.summary L
  occurredAt := input.occurredAt
  severity := input.severity.or ((toText (get input.rich "severity")).bind EventSeverity.ofText)
  status := deriveStatus L input.eventType (toText (get input.rich "status"))
  actorId := truthyText input.actorId
  actorEmail := toText (get input.rich "actorEmail")
  actorDisplayName := toText (get input.rich "actorDisplayName")
  targetType := truthyText input.derivedTargetType
  targetId := truthyText input.derivedTargetId
  category := deriveCategory L input.eventType input.stream input.rich
  source := deriveSource L input.eventType input.rich
  installationId := toText (get input.rich "installationId")
  provider := toText (get input.rich "provider")
  model := toText (get input.rich "model")
  durationMs := toNumber (get input.rich "durationMs")
  costUsd := (toNumber (get input.rich "costUsd")).or (toNumber (get input.rich "estimatedCostUsd"))
  promptTokens := input.tokens "promptTokens"
  completionTokens := input.tokens "completionTokens"
  totalTokens := input.tokens "totalTokens"
  errorSummary := input.errorText.map (sliceUnits 200)
  searchText := truthyText (some (input.searchable L))
  metadataJson := input.metadata.filter isTruthy
  payloadJson := input.payload.filter isTruthy

end QuizMind.Logs

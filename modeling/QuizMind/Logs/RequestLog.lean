import QuizMind.RemoteConfig.Values
import Mathlib.Data.List.Infix

/-! # What the log of requests tells of their secrets

The interceptor logs a request with its sanitised query, parameters and body, and with its URL
as it came. The sanitiser gives nothing away: a value and the value with its secrets hidden come
out the same (`sanitizeAt_hide`). The URL does: two requests that differ in secrets alone are
logged alike if and only if their URLs are the same, or an expected 401 of the extension stands
in the log by its endpoint (`logRequest_same_iff`).
-/

namespace QuizMind.RequestLog

open RemoteConfig (JsonValue JsString js isTruthy)

/-! ## Sanitising -/

def sensitiveWords : List String :=
  ["token", "secret", "password", "apikey", "api-key", "api_key", "authorization", "cookie"]

/-- `/(token|secret|password|api[-_]?key|authorization|cookie)/i`. -/
def isSensitiveKey (key : String) : Bool :=
  sensitiveWords.any fun word => word.toList <:+: key.toList.map Char.toLower

def numeral (n : ℤ) : JsString := js (toString n)

def sanitizeText (text : JsString) : JsString :=
  if 240 < text.length then
    text.take 240 ++ js "...[" ++ numeral text.length ++ js " chars]"
  else text

/-- `sanitizeValue` at a depth: `left` is what is left of the four levels. -/
def sanitizeAt : ℕ → String → JsonValue → JsonValue
  | _, _, .null => .null
  | 0, _, _ => .string (js "[max-depth]")
  | left + 1, parentKey, value =>
    if isSensitiveKey parentKey then .string (js "[REDACTED]")
    else
      match value with
      | .string text => .string (sanitizeText text)
      | .array items =>
        .object [("type", .string (js "array")), ("length", .number (numeral items.length)),
          ("sample", .array ((items.take 5).map (sanitizeAt left parentKey)))]
      | .object members =>
        .object ((members.take 30).map fun member =>
          (member.1, sanitizeAt left member.1 member.2))
      | value => value

def sanitizeValue (value : Option JsonValue) : Option JsonValue := value.map (sanitizeAt 4 "")

/-! ## The request and its log event -/

/-- A request; a header or a member that is missing is `none`. -/
structure HttpRequest where
  method : Option JsonValue
  url : Option JsonValue
  ip : Option JsonValue
  headers : String → Option JsonValue
  params : Option JsonValue
  body : Option JsonValue

/-- What the handler threw: an object with these members, or the text of something else. -/
inductive Thrown where
  | object (name message stack response : Option JsonValue)
  | other (text : JsString)

/-- How the handler ended. The status of an exception is its number, when it is finite. -/
inductive Outcome where
  | success (statusCode : Option ℤ)
  | failure (statusCode exceptionStatusCode : Option ℤ) (error : Thrown)

structure Times where
  startedAt : ℤ
  loggedAt : ℤ
  windowAt : ℤ
  eventAt : ℤ
  occurredAt : JsString

structure LogConfig where
  isProduction : Bool
  requestLoggingVerbose : Bool

def LogConfig.verboseLogging (config : LogConfig) : Bool :=
  config.requestLoggingVerbose || !config.isProduction

def safeString (value : Option JsonValue) (fallback : JsString) : JsString :=
  match value with
  | some (.string text) => text
  | some (.number text) => text
  | some (.bool b) => js (if b then "true" else "false")
  | _ => fallback

/-- An object as `JSON.stringify` writes it, without the members that are undefined. -/
def written (members : List (String × Option JsonValue)) : JsonValue :=
  .object (members.filterMap fun member => member.2.map (member.1, ·))

def orEmpty (value : Option JsonValue) : Option JsonValue :=
  if isTruthy value then value else some (.object [])

def urlOf (request : HttpRequest) : JsString := safeString request.url (js "/")

/-- The text of a URL up to its query, and the query. -/
def pathText (url : JsString) : JsString := url.takeWhile (· ≠ 0x3F)

def queryText (url : JsString) : JsString := (url.dropWhile (· ≠ 0x3F)).drop 1

section Meta

variable (config : LogConfig) (parseQuery : JsString → JsonValue)

def buildRequestMeta (request : HttpRequest) : List (String × Option JsonValue) :=
  if config.verboseLogging then
    let header name := some (.string (safeString (request.headers name) []))
    [("ipAddress", some (.string (safeString request.ip []))), ("origin", header "origin"),
      ("referer", header "referer"), ("userAgent", header "user-agent"),
      ("requestId", header "x-request-id"),
      ("query", sanitizeValue (orEmpty (some (parseQuery (queryText (urlOf request)))))),
      ("params", sanitizeValue (orEmpty request.params)),
      ("body", sanitizeValue request.body)]
  else []

end Meta

def buildErrorMeta : Thrown → JsonValue
  | .other text => written [("message", some (.string text))]
  | .object name message stack response =>
    let stackLines := (safeString stack []).splitOn 0x0A
    written [("name", some (.string (safeString name (js "Error")))),
      ("message", some (.string (safeString message (js "Unknown error")))),
      ("stackTop", some (.string (List.intercalate (js " | ") (stackLines.take 2)))),
      ("response", sanitizeValue response)]

/-! ## Expected 401 responses -/

def pathOf (url : JsString) : JsString :=
  (pathText (if url = [] then js "/" else url)).takeWhile (· ≠ 0x23)

def normalizeRoute (url : JsString) : JsString :=
  let parts := (((pathOf url).splitOn 0x2F).filter (· ≠ [])).take 2
  js "/" ++ List.intercalate (js "/") parts

def expectedEndpoints : List JsString :=
  [js "/extension/bootstrap/v2", js "/extension/session/refresh",
    js "/extension/installations/session/refresh", js "/extension/usage-events/v2",
    js "/extension/ai/models"]

def classifyExpectedExtensionEndpoint (url : JsString) : Option JsString :=
  let path := if pathOf url = [] then js "/" else pathOf url
  if path ∈ expectedEndpoints then some path
  else if (js "/extension/ai/").isPrefixOf path then some (js "/extension/ai/*")
  else none

structure LogWindow where
  nextLogAt : ℤ
  suppressed : ℕ

/-- The windows by method and endpoint, the oldest first. -/
abbrev LogWindows := List (JsString × LogWindow)

def setWindow (windows : LogWindows) (key : JsString) (window : LogWindow) : LogWindows :=
  if (windows.lookup key).isSome then
    windows.map fun entry => if entry.1 = key then (key, window) else entry
  else windows ++ [(key, window)]

def pruneWindows (now : ℤ) (windows : LogWindows) : LogWindows :=
  if windows.length ≤ 1000 then windows
  else
    let unexpired := windows.filter fun entry => now < entry.2.nextLogAt
    unexpired.drop (unexpired.length - 1000)

/-- The number of requests that were passed over, when this one is to be logged. -/
def consumeWindow (now : ℤ) (key : JsString) (windows : LogWindows) : Option ℕ × LogWindows :=
  let opened := pruneWindows now (setWindow windows key ⟨now + 600000, 0⟩)
  match windows.lookup key with
  | some window =>
    if now < window.nextLogAt then
      (none, setWindow windows key { window with suppressed := window.suppressed + 1 })
    else (some window.suppressed, opened)
  | none => (some 0, opened)

/-! ## The event -/

def Outcome.statusCode : Outcome → ℤ
  | .success statusCode => statusCode.getD 200
  | .failure statusCode exceptionStatusCode _ => exceptionStatusCode.getD (statusCode.getD 500)

def Outcome.name : Outcome → String
  | .success _ => "success"
  | .failure _ _ _ => "failure"

/-- The endpoint of an expected 401, when the response is one. -/
def expectedUnauthorized (config : LogConfig) (outcome : Outcome) (url : JsString) :
    Option JsString :=
  match outcome with
  | .success _ => none
  | .failure _ _ _ =>
    if config.isProduction ∧ outcome.statusCode = 401 then classifyExpectedExtensionEndpoint url
    else none

def httpEvent (times : Times) (outcome : Outcome) (method logUrl : JsString)
    (metadata : List (String × Option JsonValue)) : JsonValue :=
  let severity :=
    if 500 ≤ outcome.statusCode then "error"
    else if 400 ≤ outcome.statusCode then "warn" else "info"
  written [("eventId", some (.string (js "http:" ++ method ++ js ":" ++ logUrl ++ js ":" ++
      numeral times.eventAt))),
    ("eventType", some (.string (js "http.request"))), ("actorId", some (.string (js "api"))),
    ("actorType", some (.string (js "system"))),
    ("targetType", some (.string (js "http_request"))),
    ("targetId", some (.string (method ++ js " " ++ logUrl))),
    ("occurredAt", some (.string times.occurredAt)), ("category", some (.string (js "system"))),
    ("severity", some (.string (js severity))), ("status", some (.string (js outcome.name))),
    ("metadata", some (written metadata))]

section Log

variable (config : LogConfig) (parseQuery : JsString → JsonValue) (times : Times)
  (outcome : Outcome) (windows : LogWindows) (request : HttpRequest)

/-- The event that is logged for a request, if one is, and the windows after it. -/
def logRequest : Option JsonValue × LogWindows :=
  let method := safeString request.method (js "UNKNOWN")
  let url := urlOf request
  let duration := some (.number (numeral (times.loggedAt - times.startedAt)))
  let statusCode := some (.number (numeral outcome.statusCode))
  match expectedUnauthorized config outcome url with
  | some endpoint =>
    match consumeWindow times.windowAt (method ++ js ":" ++ endpoint) windows with
    | (none, windows) => (none, windows)
    | (some suppressed, windows) =>
      (some (httpEvent times outcome method endpoint
        [("durationMs", duration), ("method", some (.string method)),
          ("route", some (.string (normalizeRoute url))), ("statusCode", statusCode),
          ("url", some (.string endpoint)), ("expectedUnauthorized", some (.bool true)),
          ("suppressedSimilarRequests", some (.number (numeral suppressed))),
          ("sampleWindowSeconds", some (.number (js "600")))]), windows)
  | none =>
    let error :=
      match outcome with
      | .success _ => []
      | .failure _ _ error => [("error", some (buildErrorMeta error))]
    (some (httpEvent times outcome method url
      ([("durationMs", duration), ("method", some (.string method)), ("statusCode", statusCode),
        ("url", some (.string url))] ++ buildRequestMeta config parseQuery request ++ error)),
      windows)

end Log

/-! ## Requests that differ in secrets alone -/

mutual

/-- A value with what stands under sensitive keys hidden, unless it is null. -/
def hide : JsonValue → JsonValue
  | .array items => .array (hideItems items)
  | .object members => .object (hideMembers members)
  | value => value

def hideItems : List JsonValue → List JsonValue
  | [] => []
  | item :: items => hide item :: hideItems items

def hideMembers : List (String × JsonValue) → List (String × JsonValue)
  | [] => []
  | (key, .null) :: members => (key, .null) :: hideMembers members
  | (key, value) :: members =>
    (key, if isSensitiveKey key then .string (js "hidden") else hide value) :: hideMembers members

end

/-- Two requests that differ only in values under sensitive keys, in the query of the URL, the
route parameters or the body. -/
structure DifferInSecrets (parseQuery : JsString → JsonValue) (r s : HttpRequest) : Prop where
  method : r.method = s.method
  path : pathText (urlOf r) = pathText (urlOf s)
  query : hide (parseQuery (queryText (urlOf r))) = hide (parseQuery (queryText (urlOf s)))
  ip : r.ip = s.ip
  headers : r.headers = s.headers
  params : r.params.map hide = s.params.map hide
  body : r.body.map hide = s.body.map hide

theorem hideItems_eq (items : List JsonValue) : hideItems items = items.map hide := by
  induction items with
  | nil => rw [hideItems, List.map_nil]
  | cons item items ih => rw [hideItems, ih, List.map_cons]

/-- What hiding makes of one member. -/
def hideMember (member : String × JsonValue) : String × JsonValue :=
  match member with
  | (key, .null) => (key, .null)
  | (key, value) => (key, if isSensitiveKey key then .string (js "hidden") else hide value)

theorem hideMembers_eq (members : List (String × JsonValue)) :
    hideMembers members = members.map hideMember := by
  induction members with
  | nil => rw [hideMembers, List.map_nil]
  | cons member members ih =>
    rcases member with ⟨key, value⟩
    rw [List.map_cons, ← ih]
    cases value <;> rw [hideMembers, hideMember] <;> nofun

/-- Under a sensitive key everything but null is redacted, or past the last level. -/
theorem sanitizeAt_sensitive (left : ℕ) {key : String} (hkey : isSensitiveKey key = true)
    {v w : JsonValue} (hv : v ≠ .null) (hw : w ≠ .null) :
    sanitizeAt left key v = sanitizeAt left key w := by
  cases left with
  | zero | succ left => cases v <;> cases w <;> simp_all [sanitizeAt]

/-- The sanitiser makes the same of a value and of the value with its secrets hidden. -/
theorem sanitizeAt_hide (left : ℕ) (parentKey : String) (value : JsonValue)
    (hkey : isSensitiveKey parentKey = false) :
    sanitizeAt left parentKey (hide value) = sanitizeAt left parentKey value := by
  induction left generalizing parentKey value with
  | zero =>
    cases value <;> simp [hide, sanitizeAt]
  | succ left ih =>
    have hmember : ∀ member : String × JsonValue,
        ((hideMember member).1, sanitizeAt left (hideMember member).1 (hideMember member).2) =
          (member.1, sanitizeAt left member.1 member.2) := by
      rintro ⟨key, value⟩
      have hval : value ≠ .null → hideMember (key, value) =
          (key, if isSensitiveKey key then .string (js "hidden") else hide value) := by
        intro hne
        cases value <;> first | rfl | exact absurd rfl hne
      by_cases hnull : value = .null
      · rw [hnull]
        rfl
      rw [hval hnull]
      by_cases hsens : isSensitiveKey key = true
      · have hmark : JsonValue.string (js "hidden") ≠ .null := by simp
        rw [if_pos hsens]
        exact congrArg (key, ·) (sanitizeAt_sensitive left hsens hmark hnull)
      · rw [if_neg hsens, ih key value (Bool.eq_false_iff.mpr hsens)]
    cases value with
    | array items =>
      have hitems : (items.take 5).map (sanitizeAt left parentKey ∘ hide) =
          (items.take 5).map (sanitizeAt left parentKey) :=
        List.map_congr_left fun item _ => ih parentKey item hkey
      simp only [hide, sanitizeAt, hideItems_eq, ← List.map_take, List.map_map,
        List.length_map, hitems]
    | object members =>
      have hmembers : ((members.take 30).map hideMember).map
            (fun member => (member.1, sanitizeAt left member.1 member.2)) =
          (members.take 30).map fun member => (member.1, sanitizeAt left member.1 member.2) := by
        rw [List.map_map]
        exact List.map_congr_left fun member _ => hmember member
      simp only [hide, sanitizeAt, hideMembers_eq, ← List.map_take, hmembers]
    | _ => rw [hide] <;> nofun

theorem sanitizeValue_congr {v w : Option JsonValue} (h : v.map hide = w.map hide) :
    sanitizeValue v = sanitizeValue w := by
  have hsan : ∀ u : Option JsonValue, sanitizeValue (u.map hide) = sanitizeValue u := by
    intro u
    cases u with
    | none => rfl
    | some value => exact congrArg some (sanitizeAt_hide 4 "" value (by decide))
  rw [← hsan v, h, hsan w]

/-- Hiding leaves a value as true or as false as it was. -/
theorem orEmpty_hide (v : Option JsonValue) : orEmpty (v.map hide) = (orEmpty v).map hide := by
  have htruthy : isTruthy (v.map hide) = isTruthy v := by
    cases v with
    | none => rfl
    | some value => cases value <;> simp [hide, isTruthy]
  unfold orEmpty
  rw [htruthy]
  split
  · rfl
  · simp [hide, hideMembers]

section Requests

variable (config : LogConfig) {parseQuery : JsString → JsonValue} {r s : HttpRequest}

theorem buildRequestMeta_congr (h : DifferInSecrets parseQuery r s) :
    buildRequestMeta config parseQuery r = buildRequestMeta config parseQuery s := by
  have hsan : ∀ v w : Option JsonValue, v.map hide = w.map hide →
      sanitizeValue (orEmpty v) = sanitizeValue (orEmpty w) := by
    grind [orEmpty_hide, sanitizeValue_congr]
  unfold buildRequestMeta
  rw [h.ip, h.headers, hsan _ _ h.params, sanitizeValue_congr h.body,
    hsan (some _) (some _) (congrArg some h.query)]

theorem pathOf_of_ne {url : JsString} (h : pathText url ≠ []) :
    pathOf url = (pathText url).takeWhile (· ≠ 0x23) := by
  have hne : url ≠ [] := by
    rintro rfl
    exact h rfl
  unfold pathOf
  rw [if_neg hne]

theorem classify_of_empty {url : JsString} (h : pathText url = []) :
    classifyExpectedExtensionEndpoint url = none := by
  have hpath : (if pathOf url = [] then js "/" else pathOf url) = js "/" := by
    by_cases hurl : url = []
    · rw [hurl]
      decide
    · simp_all [pathOf]
  unfold classifyExpectedExtensionEndpoint
  simp only [hpath]
  decide

/-- The endpoint and the route of an expected 401 do not depend on the query. -/
theorem classify_congr {url url' : JsString} (h : pathText url = pathText url') :
    classifyExpectedExtensionEndpoint url = classifyExpectedExtensionEndpoint url' ∧
      (classifyExpectedExtensionEndpoint url ≠ none →
        normalizeRoute url = normalizeRoute url') := by
  by_cases hempty : pathText url = []
  · grind [classify_of_empty]
  have hpath : pathOf url = pathOf url' := by
    rw [pathOf_of_ne hempty, pathOf_of_ne (h ▸ hempty), h]
  unfold classifyExpectedExtensionEndpoint normalizeRoute
  rw [hpath]
  exact ⟨rfl, fun _ => rfl⟩

/-- An event that is logged with the URL tells the URL. -/
theorem httpEvent_url {times : Times} {outcome : Outcome} {method url url' : JsString}
    {metadata metadata' : List (String × Option JsonValue)}
    (h : httpEvent times outcome method url metadata =
      httpEvent times outcome method url' metadata') : url = url' := by
  have htarget : method ++ js " " ++ url = method ++ js " " ++ url' := by
    simp only [httpEvent, written, Option.map_some, List.filterMap_cons, JsonValue.object.injEq, List.cons.injEq, Prod.mk.injEq, JsonValue.string.injEq] at h
    exact h.2.2.2.2.2.1.2
  exact List.append_cancel_left htarget

/-- Two requests that differ in secrets alone are logged alike if and only if their URLs are the
same or the response is an expected 401. -/
theorem logRequest_same_iff (times : Times) (outcome : Outcome) (windows : LogWindows)
    (h : DifferInSecrets parseQuery r s) :
    (logRequest config parseQuery times outcome windows r).1 =
        (logRequest config parseQuery times outcome windows s).1 ↔
      urlOf r = urlOf s ∨ expectedUnauthorized config outcome (urlOf r) ≠ none := by
  obtain ⟨hclassify, hroute⟩ := classify_congr h.path
  have hexpected : expectedUnauthorized config outcome (urlOf r) =
      expectedUnauthorized config outcome (urlOf s) := by
    unfold expectedUnauthorized
    rw [hclassify]
  have hmeta := buildRequestMeta_congr config h
  cases hcompact : expectedUnauthorized config outcome (urlOf r) with
  | none =>
    have hother := hexpected.symm.trans hcompact
    constructor
    · intro hsame
      unfold logRequest at hsame
      simp only [hcompact, hother, Option.some.injEq] at hsame
      rw [h.method] at hsame
      exact .inl (httpEvent_url hsame)
    rintro (hurl | hne)
    · unfold logRequest
      rw [h.method, hurl, hmeta]
    · exact absurd rfl hne
  | some endpoint =>
    have hother := hexpected.symm.trans hcompact
    have hendpoint : classifyExpectedExtensionEndpoint (urlOf r) ≠ none := by
      intro hnone
      unfold expectedUnauthorized at hcompact
      rw [hnone] at hcompact
      cases outcome with
      | success statusCode => cases hcompact
      | failure statusCode exceptionStatusCode error => simp at hcompact
    refine iff_of_true ?_ (.inr nofun)
    unfold logRequest
    simp only [hcompact, hother, hroute hendpoint, h.method]

end Requests

/-! ## A token in the query -/

/-- A query of one parameter named `token`. -/
def tokenQuery (query : JsString) : JsonValue :=
  .object [("token", .string (query.drop 6))]

def verifyEmail (token : String) (password : String) : HttpRequest where
  method := some (.string (js "GET"))
  url := some (.string (js ("/auth/verify-email?token=" ++ token)))
  ip := none
  headers _ := none
  params := none
  body := some (.object [("password", .string (js password))])

def verbose : LogConfig := ⟨false, true⟩

theorem logRequest_same_iff_body :
    (logRequest verbose tokenQuery ⟨0, 1, 1, 1, []⟩ (.success none) []
        (verifyEmail "alpha" "first")).1 =
      (logRequest verbose tokenQuery ⟨0, 1, 1, 1, []⟩ (.success none) []
        (verifyEmail "alpha" "second")).1 := by
  have hbody : (verifyEmail "alpha" "first").body.map hide =
      (verifyEmail "alpha" "second").body.map hide := by
    have hkey : isSensitiveKey "password" = true := by decide
    simp [verifyEmail, hide, hideMembers, hkey]
  exact (logRequest_same_iff verbose ⟨0, 1, 1, 1, []⟩ (.success none) []
    ⟨rfl, rfl, rfl, rfl, rfl, rfl, hbody⟩).mpr (.inl rfl)

/-- The token of the query stands in the target of the event. -/
theorem token_logged :
    DifferInSecrets tokenQuery (verifyEmail "alpha" "") (verifyEmail "omega" "") ∧
      (logRequest verbose tokenQuery ⟨0, 1, 1, 1, []⟩ (.success none) []
        (verifyEmail "alpha" "")).1 ≠
      (logRequest verbose tokenQuery ⟨0, 1, 1, 1, []⟩ (.success none) []
        (verifyEmail "omega" "")).1 := by
  constructor
  · have hkey : isSensitiveKey "token" = true := by decide
    refine ⟨rfl, by decide, ?_, rfl, rfl, rfl, rfl⟩
    simp [tokenQuery, hide, hideMembers, hkey]
  intro hsame
  have hurl : js "/auth/verify-email?token=alpha" = js "/auth/verify-email?token=omega" :=
    httpEvent_url (Option.some.inj hsame)
  exact absurd hurl (by decide)

end QuizMind.RequestLog

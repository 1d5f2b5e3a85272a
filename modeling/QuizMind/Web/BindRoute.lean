import QuizMind.History.IsoDate
import QuizMind.Text.Base64Url
import QuizMind.Web.BindCodeStore
import QuizMind.Web.ConnectPage

/-! # The bind route and the redeem route of the site

The bind route checks a request of the connect page, has the platform bind the installation
and issues a fallback code for the result. The redeem route gives the result for the code.
-/

namespace QuizMind.BindRoute

open Async Bridge BindCodes

/-! ## The site -/

/-- What the site runs with. `textOf` and `jsonOf` are `JSON.stringify` and `JSON.parse`, and
`pathOf` is the path of a URL of this site. -/
structure Site where
  env : Env
  apiUrl : String
  textOf : Json → String
  jsonOf : String → Option Json
  pathOf : String → Option String

def extensionBindFallbackRedeemPath : String := "/bff/extension/bind/redeem"

/-- `createBindCode`, of the random bytes. -/
def createBindCode (randomBytes : List UInt8) : String :=
  String.ofList ("bindc_".toList ++ Base64Url.encode randomBytes)

/-- A member of a body, which need not be JSON. -/
def bodyMember (body : Option Json) (key : String) : Option Json := memberOf (body.getD .null) key

/-! ## Requests to the bind route -/

/-- The access token from the cookies, the body, and the headers `x-quizmind-bind-request-id`,
`x-quizmind-bridge-nonce`, `x-quizmind-target-origin` and `x-quizmind-bridge-mode`. -/
structure BindRequest where
  accessToken : Option String
  body : Option Json
  requestIdHeader : Option String
  bridgeNonceHeader : Option String
  targetOriginHeader : Option String
  bridgeModeHeader : Option String

/-- A bind that fails; `thrown` is a handler that throws. -/
inductive BindFailure where
  | thrown
  | failed (message : Json) (status : ℕ)

/-- An answer of the bind route. -/
inductive BindAnswer where
  | refused (failure : BindFailure)
  | bound (data : Json) (fallbackCode : Option ExtensionBindFallbackCode) (status : ℕ)

def badRequest (message : String) (status : ℕ) : BindFailure := .failed (.string message) status

def normalizeBridgeNonce (value : Option String) : Option String := normalizeToken 8 128 value

def normalizeBridgeRequestId (value : Option String) : Option String := normalizeToken 8 160 value

def normalizeBridgeMode (value : Option String) : Option BridgeMode := do
  let value ← value
  let normalized := toLowerCase (jsTrim value)
  if normalized = "bind_result" then some .bindResult
  else if normalized = "fallback_code" then some .fallbackCode
  else none

def isEnvironmentChar (c : Char) : Bool :=
  ('A' ≤ c ∧ c ≤ 'Z') ∨ ('a' ≤ c ∧ c ≤ 'z') ∨ ('0' ≤ c ∧ c ≤ '9') ∨ c = '.' ∨ c = '_' ∨ c = '-'

def normalizeEnvironment (value : Option Json) : Option String :=
  ((asString value).map jsTrim).filter fun normalized =>
    normalized ≠ "" && ¬ 64 < jsLength normalized && normalized.toList.all isEnvironmentChar

def normalizeStringArray : Option Json → List String
  | some (.array items) =>
    (items.map fun item => ((asString (some item)).map jsTrim).getD "").filter (· ≠ "")
  | _ => []

/-- `candidate.key?.trim()`, which throws for a value that is no string. -/
def trimMember (candidate : Members) (key : String) : Except BindFailure (Option String) :=
  match candidate.lookup key with
  | none => .ok none
  | some .null => .ok none
  | some (.string text) => .ok (some (jsTrim text))
  | some _ => .error .thrown

def normalizeHandshake : Option Json → Except BindFailure (Option Bridge.CompatibilityHandshake)
  | some (.object candidate) => do
      let extensionVersion := (← trimMember candidate "extensionVersion").getD ""
      let schemaVersion := (← trimMember candidate "schemaVersion").getD ""
      let capabilities := normalizeStringArray (candidate.lookup "capabilities")
      let browser := (asString (candidate.lookup "browser")).getD ""
      if extensionVersion = "" ∨ schemaVersion = "" ∨ capabilities = [] ∨
          browser ∉ ConnectPage.validBrowsers then
        return none
      else
        let buildId := (← trimMember candidate "buildId").filter (· ≠ "")
        return some ⟨extensionVersion, schemaVersion, browser, capabilities, buildId⟩
  | _ => .ok none

/-- A request that has been checked. -/
structure CheckedBind where
  installationId : String
  environment : String
  handshake : Bridge.CompatibilityHandshake
  requestId : Option String
  bridgeNonce : Option String
  targetOrigin : Option String
  bridgeMode : BridgeMode

def missingFieldsMessage : String :=
  "installationId, environment, and a valid handshake are required."

/-- A header that has text in it has to be valid. -/
def checkHeader (raw normalized : Option String) (message : String) : Except BindFailure Unit :=
  if (normalizeHeaderValue raw).isSome ∧ normalized.isNone then .error (badRequest message 400)
  else .ok ()

/-- The headers that have to be there together. -/
def checkTogether (requestId bridgeNonce targetOrigin : Option String) (bridgeMode : BridgeMode) :
    Except BindFailure Unit :=
  if bridgeNonce.isSome ≠ targetOrigin.isSome then
    .error (badRequest
      "x-quizmind-bridge-nonce and x-quizmind-target-origin must be provided together." 400)
  else if (bridgeNonce.isSome ∨ targetOrigin.isSome) ∧ requestId.isNone then
    .error (badRequest
      "x-quizmind-bind-request-id is required when secure bridge headers are provided." 400)
  else if bridgeMode = .fallbackCode ∧
      (requestId.isNone ∨ bridgeNonce.isNone ∨ targetOrigin.isNone) then
    .error (badRequest
      "x-quizmind-bridge-mode=fallback_code requires x-quizmind-bind-request-id, x-quizmind-bridge-nonce, and x-quizmind-target-origin."
      400)
  else .ok ()

/-- The body as it is needed. -/
def checkBody (body : Option Json) :
    Except BindFailure (String × String × Bridge.CompatibilityHandshake) := do
  let handshake ← normalizeHandshake (bodyMember body "handshake")
  let installationId := ((asString (bodyMember body "installationId")).map jsTrim).getD ""
  let environment := normalizeEnvironment (bodyMember body "environment")
  if (asString (bodyMember body "environment")).any (· ≠ "") ∧ environment.isNone then
    throw (badRequest
      "environment must be 1-64 characters using A-Z, a-z, 0-9, \".\", \"_\", or \"-\"." 400)
  match environment, handshake with
  | some environment, some handshake =>
    if installationId = "" then throw (badRequest missingFieldsMessage 400)
    else return (installationId, environment, handshake)
  | _, _ => throw (badRequest missingFieldsMessage 400)

def checkBind (env : Env) (request : BindRequest) : Except BindFailure CheckedBind := do
  let (installationId, environment, handshake) ← checkBody request.body
  let requestId := normalizeBridgeRequestId request.requestIdHeader
  let bridgeNonce := normalizeBridgeNonce request.bridgeNonceHeader
  let targetOrigin := normalizeBridgeOrigin env request.targetOriginHeader
  checkHeader request.bridgeNonceHeader bridgeNonce
    "x-quizmind-bridge-nonce must be 8-128 characters using A-Z, a-z, 0-9, \"_\", \"-\", \".\", or \":\"."
  checkHeader request.requestIdHeader requestId
    "x-quizmind-bind-request-id must be 8-160 characters using A-Z, a-z, 0-9, \"_\", \"-\", \".\", or \":\"."
  checkHeader request.targetOriginHeader targetOrigin
    "x-quizmind-target-origin must be a valid http(s) or extension origin."
  checkHeader request.bridgeModeHeader
    ((normalizeBridgeMode request.bridgeModeHeader).map BridgeMode.text)
    "x-quizmind-bridge-mode must be one of: bind_result, fallback_code."
  let bridgeMode := (normalizeBridgeMode request.bridgeModeHeader).getD .bindResult
  checkTogether requestId bridgeNonce targetOrigin bridgeMode
  return {
    installationId := installationId
    environment := environment
    handshake := handshake
    requestId := requestId
    bridgeNonce := bridgeNonce
    targetOrigin := targetOrigin
    bridgeMode := bridgeMode }

/-! ## The answer of the platform -/

/-- The platform's answer to the bind; the payload is none when it is not JSON. -/
inductive Upstream where
  | unreachable
  | answered (ok : Bool) (status : ℕ) (payload : Option Json)

def unableMessage : Json := .string "Unable to bind the extension installation right now."

/-- `message ?? 'Unable to bind ...'` -/
def messageOr : Option Json → Json
  | none => unableMessage
  | some .null => unableMessage
  | some message => message

/-- The message of a payload; the operator `in` throws for a text, a number or `true`. -/
def failureMessage (payload : Option Json) : Except BindFailure Json :=
  if isTruthy payload then
    match payload with
    | some (.object members) =>
      match members.lookup "message" with
      | some (.array items) => .ok (messageOr items.head?)
      | message => .ok (messageOr message)
    | some (.array _) => .ok unableMessage
    | _ => .error .thrown
  else .ok unableMessage

/-- The platform has not bound the installation. -/
def refused (status : ℕ) (payload : Option Json) : Except BindFailure (Option Json × ℕ) := do
  let message ← failureMessage payload
  throw (.failed message (if status = 0 then 500 else status))

/-- The data of the platform's answer and its status. -/
def readUpstream : Upstream → Except BindFailure (Option Json × ℕ)
  | .unreachable => .error (badRequest "Platform bind service is unavailable right now." 503)
  | .answered ok status payload =>
    if ok && isTruthy payload then
      match payload with
      | some (.object members) =>
        if isTruthy (members.lookup "ok") then .ok (members.lookup "data", status)
        else refused status payload
      | some (.array _) => refused status payload
      | _ => .error .thrown
    else refused status payload

/-- The members that `...value` copies. -/
def spread : Option Json → Members
  | some (.object members) => members
  | some (.array items) => items.zipIdx.map fun item => (toString item.2, item.1)
  | some (.string text) =>
    text.toList.zipIdx.map fun c => (toString c.2, .string (String.singleton c.1))
  | _ => []

/-- The data with the member `platformApiBaseUrl`. -/
def withApiBase (apiUrl : String) (data : Option Json) : Json :=
  .object (GroupBy.accumulate (spread data) "platformApiBaseUrl" (.string apiUrl)
    fun _ => .string apiUrl)

/-! ## The handlers -/

section Handlers

variable (site : Site)

/-- What the bind route stores under the code, in the mode for fallback codes. -/
def fallbackInput (bind : CheckedBind) (data : Json) (nowMs : ℤ) :
    Option IssueBindFallbackCodeInput :=
  match bind.bridgeMode, bind.requestId, bind.bridgeNonce, bind.targetOrigin with
  | .fallbackCode, some requestId, some bridgeNonce, some targetOrigin =>
    some
      { result := site.textOf data
        installationId := bind.installationId
        requestId := some requestId
        bridgeNonce := some bridgeNonce
        targetOrigin := some targetOrigin
        ttlSeconds := none
        nowMs := nowMs }
  | _, _, _, _ => none

/-- `POST` of the bind route; `code` is what `createBindCode` gives. -/
def bindPost (request : BindRequest) (upstream : Upstream) (code : String) (nowMs : ℤ)
    (fault : Fault Unit) (s : Stores) : BindAnswer × Stores :=
  if request.accessToken.getD "" = "" then
    (.refused (badRequest "Sign in on the site before connecting the extension." 401), s)
  else
    match checkBind site.env request, readUpstream upstream with
    | .error failure, _ => (.refused failure, s)
    | .ok _, .error failure => (.refused failure, s)
    | .ok bind, .ok (data, status) =>
      let bindResultWithApiBase := withApiBase site.apiUrl data
      match fallbackInput site bind bindResultWithApiBase nowMs with
      | none => (.bound bindResultWithApiBase none status, s)
      | some input =>
        match issueBindFallbackCode site.env code input fault s with
        | (.ok issued, s) => (.bound bindResultWithApiBase (some issued) status, s)
        -- only an unavailable store throws, and the route goes on without a code
        | (.error _, s) => (.bound bindResultWithApiBase none status, s)

/-- What the redeem route reads from a request. -/
def redeemInput (origin : Option String) (body : Option Json) (nowMs : ℤ) :
    RedeemBindFallbackCodeInput where
  code := asString (bodyMember body "code")
  installationId := asString (bodyMember body "installationId")
  requestId := asString (bodyMember body "requestId")
  bridgeNonce := asString (bodyMember body "bridgeNonce")
  requestOrigin := origin
  nowMs := nowMs

def failureCode : BindCodeRedeemFailureCode → String
  | .invalidOrExpired => "invalid_or_expired"
  | .contextMismatch => "context_mismatch"
  | .storeUnavailable => "store_unavailable"

def failureStatus : BindCodeRedeemFailureCode → ℕ
  | .invalidOrExpired => 404
  | .contextMismatch => 403
  | .storeUnavailable => 503

/-- `POST` of the redeem route. -/
def redeemPost (origin : Option String) (body : Option Json) (nowMs : ℤ) (fault : Fault Unit)
    (s : Stores) : HttpResponse × Stores :=
  match BindCodes.redeemBindFallbackCode site.env (redeemInput origin body nowMs) fault s with
  | (.ok result redeemedAt, s) =>
    (⟨true, 200, some (.object [("ok", .bool true), ("data", (site.jsonOf result).getD .null),
      ("redeemedAt", .string (String.ofList (History.toISOString redeemedAt)))])⟩, s)
  | (.failed code message, s) =>
    (⟨false, failureStatus code, some (.object [("ok", .bool false),
      ("error", .object [("code", .string (failureCode code)), ("message", .string message)])])⟩, s)

/-- The body that the extension posts. -/
def bodyJson (body : RedeemBody) : Json :=
  let member (key : String) (value : Option String) : Members :=
    (value.map fun text => (key, .string text)).toList
  .object (("code", .string body.code) :: (member "installationId" body.installationId ++
    member "requestId" body.requestId ++ member "bridgeNonce" body.bridgeNonce))

/-- The page for a path without a route. -/
def notFound : HttpResponse := ⟨false, 404, none⟩

/-- The answer to a request that the extension sends with its origin; what other hosts answer is
`elsewhere`. -/
def answer (elsewhere : String → RedeemBody → Except BridgeError HttpResponse) (origin : String)
    (nowMs : ℤ) (fault : Fault Unit) (s : Stores) (href : String) (body : RedeemBody) :
    Except BridgeError HttpResponse :=
  match site.pathOf href with
  | none => elsewhere href body
  | some path =>
    if path = extensionBindFallbackRedeemPath then
      .ok (redeemPost site (some origin) (some (bodyJson body)) nowMs fault s).1
    else .ok notFound

end Handlers

end QuizMind.BindRoute

import QuizMind.Client.Store
import QuizMind.Table.Tally

/-! # Connecting the extension through the bridge

The extension opens a page of the site, and the page answers with a bind result, an error
or a fallback code. What the platform offers for URLs, JSON and base64 is a parameter.
-/

namespace QuizMind.Bridge

open Client

/-! ## What the platform offers -/

/-- The parts of a `URL` that are read. -/
structure Url where
  protocol : String
  origin : String
  host : String
  href : String
  searchParams : List (String × String)

/-- `none` where the function throws. -/
structure WebFunctions where
  /-- `new URL(value)` -/
  parseUrl : String → Option Url
  /-- `new URL(value, base)` -/
  resolveUrl : String → String → Option Url
  /-- `JSON.parse` -/
  parseJson : String → Option Json
  decodeURIComponent : String → Option String
  atob : String → Option (List UInt8)
  /-- `new TextDecoder().decode` -/
  decodeUtf8 : List UInt8 → String

/-- A `PlatformBridgeError`, an `Error`, or what a call of the language throws. -/
inductive BridgeError where
  | bridge (message code : String) (requestId : Option String)
  | error (message : String)
  | typeError

abbrev Members := List (String × Json)

/-- Member access; `none` is `undefined`. -/
def memberOf : Json → String → Option Json
  | .object members, key => members.lookup key
  | _, _ => none

/-- `isRecord`, with the members of the record. -/
def asRecord : Option Json → Option Members
  | some (.object members) => some members
  | _ => none

/-- A member that is a string. -/
def asString : Option Json → Option String
  | some (.string s) => some s
  | _ => none

/-- `Boolean(value)`. -/
def isTruthy : Option Json → Bool
  | none => false
  | some .null => false
  | some (.bool b) => b
  | some (.number n) => n ≠ 0
  | some (.string s) => s ≠ ""
  | some (.array _) => true
  | some (.object _) => true

/-- `normalizeString` on a value of any type: only strings can be trimmed. -/
def normalizeString : Option Json → Except BridgeError (Option String)
  | none => .ok none
  | some .null => .ok none
  | some (.string s) => .ok (normalizeTrimmedValue (some s))
  | some _ => .error .typeError

/-! ## Ids and URLs -/

def isBridgeTokenChar (c : Char) : Bool :=
  ('A' ≤ c ∧ c ≤ 'Z') ∨ ('a' ≤ c ∧ c ≤ 'z') ∨ ('0' ≤ c ∧ c ≤ '9') ∨
    c = ':' ∨ c = '_' ∨ c = '-' ∨ c = '.'

/-- `BRIDGE_TOKEN_PATTERN.test`. -/
def isBridgeToken (s : String) : Bool := s ≠ "" && s.toList.all isBridgeTokenChar

/-- A trimmed token of a length within the bounds. -/
def normalizeToken (minLength maxLength : ℕ) (value : Option String) : Option String :=
  (normalizeTrimmedValue value).filter fun normalized =>
    ¬ jsLength normalized < minLength && ¬ maxLength < jsLength normalized &&
      isBridgeToken normalized

def normalizeBridgeRequestId (value : Option String) : Option String := normalizeToken 8 160 value

def normalizeBridgeNonce (value : Option String) : Option String := normalizeToken 8 128 value

def trimTrailingSlash (value : String) : String :=
  if value.toList.getLast? = some '/' then String.ofList value.toList.dropLast else value

section Urls

variable (web : WebFunctions)

def newUrl (value : String) : Except BridgeError Url :=
  match web.parseUrl value with
  | some parsed => .ok parsed
  | none => .error .typeError

def normalizeOrigin (value : String) : Except BridgeError String := do
  let parsed ← newUrl web value
  if parsed.protocol = "http:" ∨ parsed.protocol = "https:" then return parsed.origin
  else if parsed.protocol = "chrome-extension:" ∨ parsed.protocol = "moz-extension:" then
    return parsed.protocol ++ "//" ++ parsed.host
  else throw (.error ("Unsupported origin protocol: " ++ parsed.protocol))

def normalizeHttpOrigin (value fieldName : String) : Except BridgeError String := do
  let parsed ← newUrl web value
  if parsed.protocol = "http:" ∨ parsed.protocol = "https:" then return parsed.origin
  else throw (.error (fieldName ++ " must use http or https protocol."))

def normalizeRelayUrl (value targetOrigin : String) : Except BridgeError String := do
  let parsed ← newUrl web value
  let relayOrigin ← normalizeOrigin web parsed.href
  let normalizedTargetOrigin ← normalizeOrigin web targetOrigin
  if relayOrigin = normalizedTargetOrigin then return parsed.href
  else throw (.error "relayUrl origin must match targetOrigin.")

end Urls

structure CompatibilityHandshake where
  extensionVersion : String
  schemaVersion : String
  browser : String
  capabilities : List String
  buildId : Option String

inductive BridgeMode where
  | bindResult
  | fallbackCode
  deriving DecidableEq

def BridgeMode.text : BridgeMode → String
  | .bindResult => "bind_result"
  | .fallbackCode => "fallback_code"

/-- What `connectToPlatform` is called with; the values of `createBridgeRequestId` and
`createBridgeNonce` are random. -/
structure ConnectToPlatformInput where
  siteUrl : String
  environment : String
  handshake : CompatibilityHandshake
  targetOrigin : String
  relayUrl : Option String
  platformOrigin : Option String
  requestId : Option String
  bridgeNonce : Option String
  bridgeMode : Option BridgeMode
  createBridgeRequestId : String
  createBridgeNonce : String

/-- The ids of the request that is under way. -/
structure ActiveRequest where
  requestId : String
  bridgeNonce : String

def invalidRequestIdMessage : String :=
  "requestId must be 8-160 characters using A-Z, a-z, 0-9, \"_\", \"-\", \".\", or \":\"."

def invalidBridgeNonceMessage : String :=
  "bridgeNonce must be 8-128 characters using A-Z, a-z, 0-9, \"_\", \"-\", \".\", or \":\"."

/-- The ids of a request: given ones, or new ones. -/
def activeRequest (input : ConnectToPlatformInput) : Except BridgeError ActiveRequest :=
  let requestId :=
    if (normalizeTrimmedValue input.requestId).isSome then
      normalizeBridgeRequestId input.requestId
    else some input.createBridgeRequestId
  let bridgeNonce :=
    if (normalizeTrimmedValue input.bridgeNonce).isSome then
      normalizeBridgeNonce input.bridgeNonce
    else some input.createBridgeNonce
  match requestId, bridgeNonce with
  | none, _ => .error (.bridge invalidRequestIdMessage "invalid_request_id" none)
  | some requestId, none =>
    .error (.bridge invalidBridgeNonceMessage "invalid_bridge_nonce" (some requestId))
  | some requestId, some bridgeNonce => .ok ⟨requestId, bridgeNonce⟩

/-- The checked parts of the connect page's URL. -/
structure ConnectUrlParts where
  url : Url
  targetOrigin : String
  platformOrigin : String
  requestId : String
  bridgeNonce : String
  relayUrl : Option String

/-- The part of `buildExtensionConnectUrl` that can throw. -/
def connectUrlParts (web : WebFunctions) (input : ConnectToPlatformInput)
    (active : ActiveRequest) : Except BridgeError ConnectUrlParts := do
  let url ← match web.resolveUrl "/app/extension/connect" input.siteUrl with
    | some url => .ok url
    | none => .error .typeError
  let normalizedTargetOrigin ← normalizeOrigin web input.targetOrigin
  let platformUrl ← match normalizeTrimmedValue input.platformOrigin with
    | some platformOrigin => .ok platformOrigin
    | none => (newUrl web input.siteUrl).map Url.href
  let platformOrigin ← normalizeHttpOrigin web platformUrl "platformOrigin"
  match normalizeBridgeRequestId (some active.requestId),
      normalizeBridgeNonce (some active.bridgeNonce) with
  | none, _ => throw (.error invalidRequestIdMessage)
  | some _, none => throw (.error invalidBridgeNonceMessage)
  | some requestId, some bridgeNonce =>
    match input.relayUrl.filter fun relayUrl => relayUrl ≠ "" with
    | none => return ⟨url, normalizedTargetOrigin, platformOrigin, requestId, bridgeNonce, none⟩
    | some relayUrl =>
      let relayUrl ← normalizeRelayUrl web relayUrl normalizedTargetOrigin
      return ⟨url, normalizedTargetOrigin, platformOrigin, requestId, bridgeNonce, some relayUrl⟩

/-- `buildExtensionConnectUrl`: the page, and its search parameters in their order. -/
def buildExtensionConnectUrl (web : WebFunctions) (input : ConnectToPlatformInput)
    (active : ActiveRequest) (installationId : String) :
    Except BridgeError (Url × List (String × String)) :=
  (connectUrlParts web input active).map fun parts =>
    (parts.url, [("installationId", installationId), ("environment", input.environment),
        ("extensionVersion", input.handshake.extensionVersion),
        ("schemaVersion", input.handshake.schemaVersion),
        ("browser", input.handshake.browser),
        ("capabilities", ",".intercalate input.handshake.capabilities),
        ("targetOrigin", parts.targetOrigin), ("platformOrigin", parts.platformOrigin),
        ("requestId", parts.requestId), ("bridgeNonce", parts.bridgeNonce),
        ("bridgeMode", (input.bridgeMode.getD .fallbackCode).text)] ++
      (match parts.relayUrl with
        | some relayUrl => [("relayUrl", relayUrl)]
        | none => []) ++
      match input.handshake.buildId.filter fun buildId => buildId ≠ "" with
        | some buildId => [("buildId", buildId)]
        | none => [])

/-! ## Envelopes -/

/-- What `openBridge` gives: a value, or a `URL` object, which may have members of its own. -/
inductive BridgeResponse where
  | value (v : Json)
  | url (searchParams : List (String × String)) (members : Members)

inductive BridgeBody where
  | bindResult (payload : Json)
  | bindError (code message : String)
  | bindFallbackCode (code : String) (redeemPath : Option Json)

structure BridgeEnvelope where
  requestId : String
  bridgeNonce : Option Json
  body : BridgeBody

def bindResultType : String := "quizmind.extension.bind_result"

def bindErrorType : String := "quizmind.extension.bind_error"

def bindFallbackCodeType : String := "quizmind.extension.bind_fallback_code"

/-- The body of an envelope, by its type; `none` when its shape is not right. -/
def envelopeBody (members : Members) : Option BridgeBody :=
  if asString (members.lookup "type") = some bindResultType then
    (members.lookup "payload").map .bindResult
  else if asString (members.lookup "type") = some bindErrorType then do
    let error ← asRecord (members.lookup "error")
    let code ← asString (error.lookup "code")
    let message ← asString (error.lookup "message")
    return .bindError code message
  else if asString (members.lookup "type") = some bindFallbackCodeType then do
    let fallbackCode ← asRecord (members.lookup "fallbackCode")
    let code ← asString (fallbackCode.lookup "code")
    if jsTrim code = "" then none
    else return .bindFallbackCode code (fallbackCode.lookup "redeemPath")
  else
    none

/-- `normalizeBridgeEnvelopeFromRecord` on a record: one of the `isBridge...Envelope` tests
holds. -/
def normalizeBridgeEnvelopeFromRecord (members : Members) : Option BridgeEnvelope := do
  let requestId ← asString (members.lookup "requestId")
  let body ← envelopeBody members
  return ⟨requestId, members.lookup "bridgeNonce", body⟩

section Decoding

variable (web : WebFunctions)

def decodeBase64UrlToJson (value : String) : Option Json := do
  let normalized := String.ofList (value.toList.map fun c =>
    if c = '-' then '+' else if c = '_' then '/' else c)
  let remainder := if jsLength normalized % 4 = 0 then 4 else jsLength normalized % 4
  let paddingLength := (4 - remainder) % 4
  let bytes ← web.atob (normalized ++ String.ofList (List.replicate paddingLength '='))
  web.parseJson (web.decodeUtf8 bytes)

def decodePayload (rawPayload : String) (payloadFormat : Option String) : Option Json :=
  if payloadFormat = some "base64url-json" ∨ payloadFormat = some "base64url" then
    decodeBase64UrlToJson web rawPayload
  else
    match web.parseJson rawPayload with
    | some decoded => some decoded
    | none => (web.decodeURIComponent rawPayload).bind web.parseJson

/-- A member that is no string is set from the URL. -/
def withQueryValue (members : Members) (key : String) (queryValue : Option String) : Members :=
  match queryValue with
  | none => members
  | some text =>
    if (asString (members.lookup key)).isSome then members
    else GroupBy.accumulate members key (.string text) fun _ => .string text

/-- The record in the search parameters of a URL, with the ids that it leaves to them. -/
def queryPayload (searchParams : List (String × String)) : Option Members := do
  let rawPayload ← normalizeTrimmedValue (searchParams.lookup "quizmind_bridge_payload")
  let decodedPayload ← decodePayload web rawPayload
    (normalizeTrimmedValue (searchParams.lookup "quizmind_bridge_payload_format"))
  let members ← asRecord (some decodedPayload)
  let withRequestId := withQueryValue members "requestId"
    (normalizeTrimmedValue (searchParams.lookup "requestId"))
  return withQueryValue withRequestId "bridgeNonce"
    (normalizeTrimmedValue (searchParams.lookup "bridgeNonce"))

def parseBridgeEnvelopeFromQueryPayload (searchParams : List (String × String)) :
    Option BridgeEnvelope :=
  (queryPayload web searchParams).bind normalizeBridgeEnvelopeFromRecord

def normalizeBridgeEnvelope : BridgeResponse → Option BridgeEnvelope
  | .url searchParams _ => parseBridgeEnvelopeFromQueryPayload web searchParams
  | .value (.string text) =>
    if jsTrim text = "" then none
    else
      match (web.parseUrl (jsTrim text)).bind fun parsedUrl =>
          parseBridgeEnvelopeFromQueryPayload web parsedUrl.searchParams with
      | some envelope => some envelope
      | none => (asRecord (web.parseJson (jsTrim text))).bind normalizeBridgeEnvelopeFromRecord
  | .value v => (asRecord (some v)).bind normalizeBridgeEnvelopeFromRecord

end Decoding

/-! ## Bind results -/

/-- A record with an installation, a session and a bootstrap. -/
def isBindResult (members : Members) : Bool :=
  (asRecord (members.lookup "installation")).isSome &&
    (asRecord (members.lookup "session")).isSome &&
    (asRecord (members.lookup "bootstrap")).isSome

mutual

/-- `normalizeBindResult` on a value: the first record on the way down the `data` members
that is a bind result. -/
def bindResultOfJson : Json → Option Members
  | .object members =>
    if isBindResult members then some members else bindResultOfData members
  | _ => none

/-- The search in the `data` member. -/
def bindResultOfData : Members → Option Members
  | [] => none
  | (key, v) :: members => if key = "data" then bindResultOfJson v else bindResultOfData members

end

/-- `normalizeBindResult` -/
def normalizeBindResult : BridgeResponse → Option Members
  | .value v => bindResultOfJson v
  | .url _ members => bindResultOfJson (.object members)

/-! ## The stored state -/

/-- The items of the state store that connecting reads or writes. What is written as JSON
is given by the value; `none` is the text of `undefined`. -/
structure PlatformState where
  installationId : Option String
  installationSession : Option (Option Json)
  bootstrapCache : Option Json
  bootstrapFetchedAt : Option Json

/-- `getOrCreateInstallationId`; `generated` is what the factory returns. -/
def getOrCreateInstallationId (generated : String) (s : PlatformState) :
    Except BridgeError String × PlatformState :=
  match normalizeTrimmedValue s.installationId with
  | some existing => (.ok existing, s)
  | none =>
    match normalizeTrimmedValue (some generated) with
    | none => (.error (.error "Installation id factory returned an empty value."), s)
    | some created => (.ok created, { s with installationId := some created })

/-- `saveBindResult`; `now` is the current date as text. -/
def saveBindResult (now : String) (result : Json) (s : PlatformState) :
    Except BridgeError Unit × PlatformState :=
  if isNull result then (.error .typeError, s)
  else
    let s := { s with installationSession := some (memberOf result "session") }
    match memberOf result "bootstrap" with
    | none => (.error .typeError, s)
    | some bootstrap =>
      if isNull bootstrap then (.error .typeError, s)
      else
        let fetchedAt := (memberOf bootstrap "issuedAt").getD (.string now)
        (.ok (), { s with bootstrapCache := some bootstrap, bootstrapFetchedAt := some fetchedAt })
where
  /-- `null` has no members. -/
  isNull : Json → Bool
    | .null => true
    | _ => false

/-! ## Redeeming a fallback code -/

structure HttpResponse where
  ok : Bool
  status : ℕ
  /-- The body as JSON; `none` when it cannot be read. -/
  json : Option Json

structure RedeemBody where
  code : String
  installationId : Option String
  requestId : Option String
  bridgeNonce : Option String

/-- The network and the clock as they answer one call. -/
structure Surroundings where
  web : WebFunctions
  fetcher : String → RedeemBody → Except BridgeError HttpResponse
  now : String
  /-- What the factory of installation ids returns. -/
  installationId : String

/-- The first text that is not blank, trimmed. -/
def trimmedMember (members : Members) (key : String) : Option String :=
  normalizeTrimmedValue (asString (members.lookup key))

def resolveBridgeErrorMessage (payload : Option Json) (fallback : String) : String :=
  match asRecord payload with
  | none => fallback
  | some members =>
    let message := (asRecord (members.lookup "error")).bind fun error =>
      trimmedMember error "message"
    (message.or (trimmedMember members "message")).getD fallback

def resolveBridgeErrorCode (payload : Option Json) (fallback : String) : String :=
  let code := (asRecord payload).bind fun members =>
    (asRecord (members.lookup "error")).bind fun error => trimmedMember error "code"
  code.getD fallback

structure RedeemInput where
  siteUrl : String
  fallbackCode : String
  installationId : Option String
  requestId : Option String
  bridgeNonce : Option String
  redeemPath : Option Json

def redeemBindFallbackCode (around : Surroundings) (input : RedeemInput) :
    Except BridgeError Json := do
  match normalizeTrimmedValue (some input.fallbackCode) with
  | none =>
    throw (.bridge "Fallback bind code is required." "missing_fallback_code" input.requestId)
  | some normalizedCode =>
    let redeemPath := (← normalizeString input.redeemPath).getD "/api/extension/bind/redeem"
    match around.web.resolveUrl redeemPath (trimTrailingSlash input.siteUrl ++ "/") with
    | none => throw .typeError
    | some redeemUrl =>
      let response ← around.fetcher redeemUrl.href
        ⟨normalizedCode, normalizeTrimmedValue input.installationId,
          normalizeTrimmedValue input.requestId, normalizeTrimmedValue input.bridgeNonce⟩
      let payload := response.json.getD .null
      let data := memberOf payload "data"
      match data with
      | some data =>
        if response.ok && isTruthy (memberOf payload "ok") && isTruthy (some data) then
          return data
        else failed response
      | none => failed response
where
  failed (response : HttpResponse) : Except BridgeError Json :=
    let status := response.status
    throw (.bridge (resolveBridgeErrorMessage response.json
        (s!"Fallback bind redeem failed (status {status})."))
      (resolveBridgeErrorCode response.json "bind_redeem_failed") input.requestId)

/-! ## Connecting -/

structure MessageError where
  code : String
  message : String

def requestMismatch : MessageError :=
  ⟨"request_mismatch", "Bridge response requestId does not match the active bind request."⟩

def nonceMismatch : MessageError :=
  ⟨"nonce_mismatch", "Bridge response bridgeNonce does not match the active bind request."⟩

/-- The check of an envelope's ids; a nonce that is no string cannot be trimmed. -/
def checkIds (envelope : BridgeEnvelope) (active : ActiveRequest) :
    Except BridgeError (Option MessageError) :=
  if envelope.requestId ≠ active.requestId then .ok (some requestMismatch)
  else
    (normalizeString envelope.bridgeNonce).map fun bridgeNonce =>
      if bridgeNonce ≠ some active.bridgeNonce then some nonceMismatch else none

/-- `handleBridgeMessage` with the ids that are expected. -/
def handleBridgeMessage (web : WebFunctions) (message : BridgeResponse)
    (expected : ActiveRequest) : Except BridgeError (Except MessageError Json) :=
  match normalizeBridgeEnvelope web message with
  | none => .ok (.error ⟨"invalid_envelope", "Bridge response payload shape is invalid."⟩)
  | some envelope =>
    match checkIds envelope expected with
    | .error e => .error e
    | .ok (some mismatch) => .ok (.error mismatch)
    | .ok none =>
      match envelope.body with
      | .bindError code message => .ok (.error ⟨code, message⟩)
      | .bindFallbackCode _ _ =>
        .ok (.error ⟨"fallback_code_envelope",
          "Bridge returned a fallback code envelope instead of a direct bind result."⟩)
      | .bindResult payload => .ok (.ok payload)

def MessageError.toBridgeError (error : MessageError) (requestId : String) : BridgeError :=
  .bridge error.message error.code (some requestId)

/-- The bind result of the code in an envelope. -/
def redeemEnvelope (around : Surroundings) (input : ConnectToPlatformInput)
    (active : ActiveRequest) (installationId : String) (envelope : BridgeEnvelope)
    (code : String) (redeemPath : Option Json) : Except BridgeError Json :=
  match checkIds envelope active with
  | .error e => .error e
  | .ok (some mismatch) => .error (mismatch.toBridgeError active.requestId)
  | .ok none =>
    redeemBindFallbackCode around
      { siteUrl := input.siteUrl
        fallbackCode := code
        installationId := some installationId
        requestId := some active.requestId
        bridgeNonce := some active.bridgeNonce
        redeemPath := redeemPath }

/-- The result of an envelope that is no fallback code. -/
def handledResult (web : WebFunctions) (active : ActiveRequest) (response : BridgeResponse) :
    Except BridgeError Json :=
  match handleBridgeMessage web response active with
  | .error e => .error e
  | .ok (.error error) => .error (error.toBridgeError active.requestId)
  | .ok (.ok result) => .ok result

/-- The bind result that `connectToPlatform` takes from a response. -/
def acceptedResult (around : Surroundings) (input : ConnectToPlatformInput)
    (active : ActiveRequest) (installationId : String) (response : BridgeResponse) :
    Except BridgeError Json :=
  match normalizeBindResult response with
  | some directBindResult => .ok (.object directBindResult)
  | none =>
    match normalizeBridgeEnvelope around.web response with
    | some envelope =>
      match envelope.body with
      | .bindFallbackCode code redeemPath =>
        redeemEnvelope around input active installationId envelope code redeemPath
      | _ => handledResult around.web active response
    | none => handledResult around.web active response

/-- What `connectToPlatform` gives to `buildExtensionConnectUrl`. -/
def connectUrlInput (input : ConnectToPlatformInput) : ConnectToPlatformInput :=
  { input with
    relayUrl := normalizeTrimmedValue input.relayUrl
    platformOrigin := normalizeTrimmedValue input.platformOrigin }

/-- The page that the extension opens, with its search parameters. -/
abbrev ConnectUrl := Url × List (String × String)

/-- `connectToPlatform` -/
def connectToPlatform (around : Surroundings) (input : ConnectToPlatformInput)
    (openBridge : ConnectUrl → ActiveRequest → Except BridgeError BridgeResponse)
    (s : PlatformState) : Except BridgeError Json × PlatformState :=
  match getOrCreateInstallationId around.installationId s with
  | (.error e, s) => (.error e, s)
  | (.ok installationId, s) =>
    let result : Except BridgeError Json := do
      let active ← activeRequest input
      let url ← buildExtensionConnectUrl around.web (connectUrlInput input) active installationId
      let bridgeResponse ← openBridge url active
      acceptedResult around input active installationId bridgeResponse
    match result with
    | .error e => (.error e, s)
    | .ok result =>
      match saveBindResult around.now result s with
      | (.error e, s) => (.error e, s)
      | (.ok _, s) => (.ok result, s)

end QuizMind.Bridge

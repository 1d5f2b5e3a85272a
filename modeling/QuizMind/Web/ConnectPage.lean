import QuizMind.Client.Bridge
import QuizMind.Text.Tokens

/-! # The connect page

The page of the site that the extension opens: it reads the bind request and the bridge of the
extension from the search parameters of its URL.
-/

namespace QuizMind.ConnectPage

open Bridge Client Text

/-! ## Search parameters -/

/-- A search parameter as the page gets it; a repeated one is a list. -/
inductive SearchParam where
  | text (value : String)
  | texts (values : List String)

/-- The page's search parameters; `none` is `undefined`. -/
abbrev SearchParams := String → Option SearchParam

def readSearchParam : Option SearchParam → Option String
  | some (.text value) => some value
  | some (.texts values) => values.head?
  | none => none

def readTrimmedSearchParam (value : Option SearchParam) : Option String :=
  normalizeTrimmedValue (readSearchParam value)

def validBrowsers : List String := ["chrome", "edge", "brave", "firefox", "safari", "other"]

def readBrowserSearchParam (value : Option SearchParam) : Option String :=
  (readTrimmedSearchParam value).filter fun normalized => normalized ∈ validBrowsers

/-- White space, quotes and square brackets: `[\s"'[\]]`. -/
def isWrapping (c : Char) : Bool :=
  isJsSpace c || c.toNat == 0x22 || c.toNat == 0x27 || c.toNat == 0x5B || c.toNat == 0x5D

def normalizeCapabilityToken (value : String) : String :=
  jsTrim (String.ofList (strip isWrapping value.toList))

def normalizedTokens (parts : List String) : List String :=
  (parts.map normalizeCapabilityToken).filter fun item => item ≠ ""

/-- The items that are strings. -/
def stringItems (items : List Json) : List String :=
  items.filterMap fun item => asString (some item)

/-- The list that the entry is, when it is written as one. -/
def parseBracketed (web : WebFunctions) (normalized : String) : Option (List Json) :=
  if normalized.toList.head? = some '[' ∧ normalized.toList.getLast? = some ']' then
    match web.parseJson normalized with
    | some (.array items) => some items
    | _ => none
  else
    none

def parseCapabilitySearchEntry (web : WebFunctions) (value : String) : List String :=
  let normalized := jsTrim value
  if normalized = "" then []
  else
    match parseBracketed web normalized with
    | some parsed => normalizedTokens (stringItems parsed)
    | none => normalizedTokens ((normalized.toList.splitOn ',').map String.ofList)

def readStringListSearchParam (web : WebFunctions) (value : Option SearchParam) : List String :=
  let rawValues := match value with
    | some (.texts values) => values
    | some (.text value) => if value ≠ "" then [value] else []
    | none => []
  ((rawValues.flatMap (parseCapabilitySearchEntry web)).filter fun item => item ≠ "").eraseDups

/-! ## The origin of the site -/

def normalizeHttpOriginSearchParam (web : WebFunctions) (value : Option SearchParam) :
    Option String := do
  let normalized ← readTrimmedSearchParam value
  let parsed ← web.parseUrl normalized
  if parsed.protocol = "http:" ∨ parsed.protocol = "https:" then some parsed.origin else none

/-- The environment of the site; all of it may be missing. -/
structure WebEnv where
  nodeEnv : Option String
  appUrl : Option String
  extensionStrictPlatformOriginRaw : Option String

/-- Strict when it is turned on, or in production and not turned off. -/
def resolveStrictPlatformOriginMode (value nodeEnv : Option String) : Bool :=
  let normalized := value.map fun text =>
    String.ofList ((jsTrim text).toList.map Char.toLower)
  if normalized = some "1" ∨ normalized = some "true" ∨ normalized = some "yes" then true
  else if normalized = some "0" ∨ normalized = some "false" ∨ normalized = some "no" then false
  else nodeEnv = some "production"

structure PlatformOriginValidation where
  warning : Option String
  securityIssue : Option String

def originMismatchMessage (declared configured : String) : String :=
  "Bridge URL declares platformOrigin=" ++ declared ++ ", but the site is configured as " ++
    configured ++ ". Keep one environment origin for extension launch and auth redirect."

def resolvePlatformOriginValidation (declaredPlatformOrigin configuredPlatformOrigin : Option String)
    (strictMode : Bool) : PlatformOriginValidation :=
  match declaredPlatformOrigin, configuredPlatformOrigin with
  | some declared, some configured =>
    let mismatchMessage := originMismatchMessage declared configured
    if declared = configured then ⟨none, none⟩
    else if strictMode then
      ⟨none, some (mismatchMessage ++ " Bridge connect is blocked until origins match.")⟩
    else ⟨some mismatchMessage, none⟩
  | _, _ => ⟨none, none⟩

/-! ## The page -/

structure ExtensionInstallationBindRequest where
  installationId : String
  environment : String
  handshake : Bridge.CompatibilityHandshake

/-- What the page gives to `ExtensionConnectClient`. -/
structure ConnectProps where
  initialRequest : Option ExtensionInstallationBindRequest
  missingFields : List String
  bridgeNonce : Option String
  bridgeMode : Option String
  platformOriginWarning : Option String
  platformOriginSecurityIssue : Option String
  relayUrl : Option String
  requestId : Option String
  targetOrigin : Option String

section Page

variable (web : WebFunctions) (env : WebEnv) (searchParams : SearchParams)

def readEnvironment : String :=
  (readTrimmedSearchParam (searchParams "environment")).getD
    (if env.nodeEnv = some "production" then "production" else "development")

def readCapabilities : List String :=
  (readStringListSearchParam web (searchParams "capabilities") ++
    readStringListSearchParam web (searchParams "capability")).eraseDups

def missingFields : List String :=
  (if (readTrimmedSearchParam (searchParams "installationId")).isNone then ["installationId"]
    else []) ++
  (if (readTrimmedSearchParam (searchParams "extensionVersion")).isNone then ["extensionVersion"]
    else []) ++
  (if (readTrimmedSearchParam (searchParams "schemaVersion")).isNone then ["schemaVersion"]
    else []) ++
  (if readCapabilities web searchParams = [] then ["capabilities"] else []) ++
  (if (readBrowserSearchParam (searchParams "browser")).isNone then ["browser"] else [])

/-- The bind request, when no field is missing. -/
def initialRequest : Option ExtensionInstallationBindRequest := do
  let installationId ← readTrimmedSearchParam (searchParams "installationId")
  let extensionVersion ← readTrimmedSearchParam (searchParams "extensionVersion")
  let schemaVersion ← readTrimmedSearchParam (searchParams "schemaVersion")
  let browser ← readBrowserSearchParam (searchParams "browser")
  if missingFields web searchParams = [] then
    some
      { installationId := installationId
        environment := readEnvironment env searchParams
        handshake :=
          { extensionVersion := extensionVersion
            schemaVersion := schemaVersion
            browser := browser
            capabilities := readCapabilities web searchParams
            buildId := readTrimmedSearchParam (searchParams "buildId") } }
  else
    none

/-- `ExtensionConnectPage` -/
def extensionConnectPage : ConnectProps :=
  let validation := resolvePlatformOriginValidation
    (normalizeHttpOriginSearchParam web (searchParams "platformOrigin"))
    (normalizeHttpOriginSearchParam web (env.appUrl.map .text))
    (resolveStrictPlatformOriginMode env.extensionStrictPlatformOriginRaw env.nodeEnv)
  { initialRequest := initialRequest web env searchParams
    missingFields := missingFields web searchParams
    bridgeNonce := readTrimmedSearchParam (searchParams "bridgeNonce")
    bridgeMode := readTrimmedSearchParam (searchParams "bridgeMode")
    platformOriginWarning := validation.warning
    platformOriginSecurityIssue := validation.securityIssue
    relayUrl := readTrimmedSearchParam (searchParams "relayUrl")
    requestId := readTrimmedSearchParam (searchParams "requestId")
    targetOrigin := readTrimmedSearchParam (searchParams "targetOrigin") }

end Page

/-! ## The bridge -/

section Client

variable (web : WebFunctions)

def isExtensionProtocol (protocol : String) : Bool :=
  protocol = "chrome-extension:" ∨ protocol = "moz-extension:"

def normalizeTargetOrigin (value : Option String) : Option String := do
  let normalized ← normalizeTrimmedValue value
  let parsed ← web.parseUrl normalized
  if parsed.protocol = "https:" ∨ parsed.protocol = "http:" then some parsed.origin
  else if isExtensionProtocol parsed.protocol then some (parsed.protocol ++ "//" ++ parsed.host)
  else none

def normalizeBridgeNonce (value : Option String) : Option String := normalizeToken 8 128 value

def normalizeBridgeRequestId (value : Option String) : Option String := normalizeToken 8 160 value

def normalizeRelayUrl (value expectedTargetOrigin : Option String) : Option String := do
  let normalized ← normalizeTrimmedValue value
  let expectedTargetOrigin ← expectedTargetOrigin
  let parsed ← web.parseUrl normalized
  if isExtensionProtocol parsed.protocol ∧
      parsed.protocol ++ "//" ++ parsed.host = expectedTargetOrigin then some parsed.href
  else none

structure ResolveBridgeIssuesInput where
  hasBridgeTarget : Bool
  rawRequestId : Option String
  resolvedRequestId : Option String
  rawRelayUrl : Option String
  resolvedRelayUrl : Option String
  resolvedTargetOrigin : Option String
  resolvedBridgeNonce : Option String

structure ResolveBridgeIssuesOutput where
  bridgeSecurityIssue : Option String
  bridgeReturnChannelIssue : Option String

/-- `Boolean(value?.trim())` -/
def hasText (value : Option String) : Bool := (normalizeTrimmedValue value).isSome

def securityIssue (message : String) : ResolveBridgeIssuesOutput := ⟨some message, none⟩

def resolveBridgeIssues (input : ResolveBridgeIssuesInput) : ResolveBridgeIssuesOutput :=
  let relayRequested := hasText input.rawRelayUrl
  let hasRawRequestId := hasText input.rawRequestId
  let secureReturnRequested := input.hasBridgeTarget || relayRequested
  if hasRawRequestId && input.resolvedRequestId.isNone then
    securityIssue ("Secure bridge requestId must be 8-160 characters using A-Z, a-z, 0-9, " ++
      "\"_\", \"-\", \".\", or \":\".")
  else if secureReturnRequested && input.resolvedTargetOrigin.isNone then
    securityIssue "Secure bridge requires a valid targetOrigin query parameter."
  else if secureReturnRequested && input.resolvedBridgeNonce.isNone then
    securityIssue "Secure bridge requires a valid bridgeNonce query parameter."
  else if relayRequested && input.resolvedRelayUrl.isNone then
    securityIssue "relayUrl must be a valid extension URL that matches targetOrigin."
  else if secureReturnRequested && input.resolvedRequestId.isNone then
    securityIssue "Secure bridge requires requestId query parameter from extension launcher."
  else if !input.hasBridgeTarget && input.resolvedRelayUrl.isNone then
    ⟨none, some ("No bridge return channel detected. Configure extension launcher to keep " ++
      "opener/parent access or provide relayUrl.")⟩
  else
    ⟨none, none⟩

/-- What `ExtensionConnectClient` works out of the raw values before it looks for issues. -/
def bridgeInput (props : ConnectProps) (hasBridgeTarget : Bool) : ResolveBridgeIssuesInput :=
  let resolvedTargetOrigin := normalizeTargetOrigin web props.targetOrigin
  { hasBridgeTarget := hasBridgeTarget
    rawRequestId := props.requestId
    resolvedRequestId := normalizeBridgeRequestId props.requestId
    rawRelayUrl := props.relayUrl
    resolvedRelayUrl := normalizeRelayUrl web props.relayUrl resolvedTargetOrigin
    resolvedTargetOrigin := resolvedTargetOrigin
    resolvedBridgeNonce := normalizeBridgeNonce props.bridgeNonce }

end Client

end QuizMind.ConnectPage

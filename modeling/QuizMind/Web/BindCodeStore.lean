import QuizMind.Async.Fault
import QuizMind.Runtime
import QuizMind.Table.Tally

/-! # Bind codes

A bind code stands for the result of a bind request that the extension did not receive.
It is stored in Redis, and in the memory of the process when Redis cannot be reached; a
failed call to Redis turns Redis off for 30 seconds. Redis holds records under their
keys; what its own expiry removes the script would reject.
-/

namespace QuizMind.BindCodes

open Async
open GroupBy (remove)

/-! ## Data -/

structure ExtensionBindFallbackCode where
  code : String
  expiresAt : ℤ
  ttlSeconds : ℤ
  redeemPath : String

/-- The result is given by its JSON text. A number of seconds that is not finite is `none`.
`nowMs` is the given time or that of the clock. -/
structure IssueBindFallbackCodeInput where
  result : String
  installationId : String
  requestId : Option String
  bridgeNonce : Option String
  targetOrigin : Option String
  ttlSeconds : Option ℚ
  nowMs : ℤ

structure RedeemBindFallbackCodeInput where
  code : Option String
  installationId : Option String
  requestId : Option String
  bridgeNonce : Option String
  requestOrigin : Option String
  nowMs : ℤ

inductive BindCodeRedeemFailureCode where
  | invalidOrExpired
  | contextMismatch
  | storeUnavailable
  deriving DecidableEq

inductive RedeemBindFallbackCodeResult where
  | ok (result : String) (redeemedAt : ℤ)
  | failed (code : BindCodeRedeemFailureCode) (message : String)
  deriving DecidableEq

structure BindCodeRecord where
  code : String
  createdAtMs : ℤ
  expiresAtMs : ℤ
  installationId : String
  requestId : Option String
  bridgeNonce : Option String
  targetOrigin : Option String
  result : String

/-- The field that does not match. -/
inductive ContextField where
  | installationId
  | requestId
  | bridgeNonce
  | targetOrigin
  deriving DecidableEq

/-- The parts of a `URL` that are read. -/
structure ParsedUrl where
  protocol : String
  origin : String
  host : String

/-- The environment of the process; `new URL` throws for `none`. -/
structure Env where
  REDIS_URL : Option String
  QUIZMIND_EXTENSION_BIND_CODE_STORE_MODE : Option String
  NODE_ENV : Option String
  parseUrl : String → Option ParsedUrl

/-- Keys with their records, in the order of insertion. -/
abbrev Records := List (String × BindCodeRecord)

structure Stores where
  bindCodeRecords : Records
  redisStoreDisabledUntilMs : ℤ
  redis : Records

def MAX_ACTIVE_CODES : ℕ := 2000

def REDIS_FAILURE_COOLDOWN_MS : ℤ := 30000

/-! ## Reading the input -/

def clampTtlSeconds (value : Option ℚ) : ℤ :=
  match value with
  | none => 180
  | some value =>
    let rounded := ⌊value⌋
    if rounded < 30 then 30 else if 900 < rounded then 900 else rounded

def normalizeHeaderValue (value : Option String) : Option String :=
  (value.map jsTrim).filter fun normalized => normalized ≠ ""

def normalizeBridgeOrigin (env : Env) (value : Option String) : Option String := do
  let normalized ← normalizeHeaderValue value
  let parsed ← env.parseUrl normalized
  if parsed.protocol = "https:" ∨ parsed.protocol = "http:" then
    some parsed.origin
  else if parsed.protocol = "chrome-extension:" ∨ parsed.protocol = "moz-extension:" then
    some (parsed.protocol ++ "//" ++ parsed.host)
  else
    none

def resolveRedisUrl (env : Env) : Option String := normalizeHeaderValue env.REDIS_URL

/-- `toLowerCase` on a text that is compared with ASCII words. -/
def toLowerCase (s : String) : String := String.ofList (s.toList.map Char.toLower)

def isSharedStoreRequired (env : Env) : Bool :=
  let mode := env.QUIZMIND_EXTENSION_BIND_CODE_STORE_MODE.map fun mode => toLowerCase (jsTrim mode)
  if mode = some "required" then true
  else if mode = some "optional" then false
  else decide (env.NODE_ENV = some "production")

def buildRedisKey (code : String) : String := "quizmind:extension:bind_fallback:" ++ code

def buildContextMismatchMessage : Option ContextField → String
  | some .installationId => "Bind code context does not match installation id."
  | some .requestId => "Bind code context does not match request id."
  | some .bridgeNonce => "Bind code context does not match bridge nonce."
  | some .targetOrigin =>
    "Bind code request origin does not match the expected target origin."
  | none => "Bind code context does not match the expected bridge request."

/-! ## Redis -/

/-- The answers of the script. -/
inductive ScriptReply where
  | invalid
  | mismatch (field : ContextField)
  | ok (raw : BindCodeRecord)

/-- A field of the record that is set and differs from an argument of the script. -/
def argumentDiffers (decoded : Option String) (expected : String) : Bool :=
  match decoded with
  | none => false
  | some value => value ≠ "" && value ≠ expected

/-- The first field that the script finds different. -/
def scriptMismatch (decoded : BindCodeRecord) (expectedInstallationId expectedRequestId
    expectedBridgeNonce expectedRequestOrigin : String) : Option ContextField :=
  if expectedInstallationId ≠ "" ∧ decoded.installationId ≠ expectedInstallationId then
    some .installationId
  else if argumentDiffers decoded.requestId expectedRequestId then
    some .requestId
  else if argumentDiffers decoded.bridgeNonce expectedBridgeNonce then
    some .bridgeNonce
  else if argumentDiffers decoded.targetOrigin expectedRequestOrigin then
    some .targetOrigin
  else
    none

def redeemBindCodeScript (key : String) (nowMs : ℤ) (expectedInstallationId expectedRequestId
    expectedBridgeNonce expectedRequestOrigin : String) (redis : Records) :
    ScriptReply × Records :=
  match redis.lookup key with
  | none => (.invalid, redis)
  | some decoded =>
    if decoded.expiresAtMs ≤ nowMs then
      (.invalid, remove redis key)
    else
      match scriptMismatch decoded expectedInstallationId expectedRequestId
          expectedBridgeNonce expectedRequestOrigin with
      | some field => (.mismatch field, redis)
      | none => (.ok decoded, remove redis key)

def disableRedisStore (nowMs : ℤ) (s : Stores) : Stores :=
  { s with redisStoreDisabledUntilMs := nowMs + REDIS_FAILURE_COOLDOWN_MS }

/-- Redis is asked. -/
def asksRedis (env : Env) (nowMs : ℤ) (s : Stores) : Bool :=
  ¬ nowMs < s.redisStoreDisabledUntilMs && (resolveRedisUrl env).isSome

/-- `withRedisStore`: `none` when Redis is not asked or the call fails. -/
def withRedisStore {ρ : Type} (env : Env) (nowMs : ℤ) (fault : Fault Unit)
    (operation : Records → ρ × Records) (s : Stores) : Option ρ × Stores :=
  if asksRedis env nowMs s then
    match fault.apply (fun redis => (.ok (operation redis).1, (operation redis).2)) s.redis with
    | (.ok answer, redis) => (some answer, { s with redis })
    | (.error _, redis) => (none, disableRedisStore nowMs { s with redis })
  else
    (none, s)

/-! ## Memory -/

def pruneExpiredBindCodes (nowMs : ℤ) (records : Records) : Records :=
  records.filter fun r => nowMs < r.2.expiresAtMs

/-- The records that `trimStoreToLimit` deletes: the oldest ones above the limit. -/
def oldestByCreation (records : Records) : List BindCodeRecord :=
  ((records.map Prod.snd).mergeSort fun left right => left.createdAtMs ≤ right.createdAtMs).take
    (records.length - MAX_ACTIVE_CODES)

def trimStoreToLimit (records : Records) : Records :=
  if records.length ≤ MAX_ACTIVE_CODES then records
  else (oldestByCreation records).foldl (fun records r => remove records r.code) records

/-- A field of the record that is set and differs from what the request gives. -/
def requestDiffers (expected given : Option String) : Bool :=
  match expected with
  | none => false
  | some value => value ≠ "" && given ≠ some value

/-- The first field of a record in memory that the request does not match. -/
def contextMismatch (record : BindCodeRecord)
    (installationId requestId bridgeNonce requestOrigin : Option String) :
    Option ContextField :=
  if installationId.any fun given => given ≠ "" && given ≠ record.installationId then
    some .installationId
  else if requestDiffers record.requestId requestId then
    some .requestId
  else if requestDiffers record.bridgeNonce bridgeNonce then
    some .bridgeNonce
  else if requestDiffers record.targetOrigin requestOrigin then
    some .targetOrigin
  else
    none

/-! ## The two operations -/

/-- The record that `issueBindFallbackCode` stores. -/
def issuedRecord (env : Env) (code : String) (input : IssueBindFallbackCodeInput) :
    BindCodeRecord where
  code := code
  createdAtMs := input.nowMs
  expiresAtMs := input.nowMs + clampTtlSeconds input.ttlSeconds * 1000
  installationId := input.installationId
  requestId := normalizeHeaderValue input.requestId
  bridgeNonce := normalizeHeaderValue input.bridgeNonce
  targetOrigin := normalizeBridgeOrigin env input.targetOrigin
  result := input.result

/-- The map after `bindCodeRecords.set`. -/
def recordsWithCode (env : Env) (code : String) (input : IssueBindFallbackCodeInput)
    (s : Stores) : Records :=
  GroupBy.accumulate (pruneExpiredBindCodes input.nowMs s.bindCodeRecords) code
    (issuedRecord env code input) fun _ => issuedRecord env code input

/-- `issueBindFallbackCode`; `code` is the random code that `createBindCode` gives. -/
def issueBindFallbackCode (env : Env) (code : String) (input : IssueBindFallbackCodeInput)
    (fault : Fault Unit) (s : Stores) : Except Exception ExtensionBindFallbackCode × Stores :=
  let record := issuedRecord env code input
  let issued : ExtensionBindFallbackCode :=
    ⟨code, record.expiresAtMs, clampTtlSeconds input.ttlSeconds, "/bff/extension/bind/redeem"⟩
  let stored := { s with bindCodeRecords := trimStoreToLimit (recordsWithCode env code input s) }
  let set (redis : Records) : Unit × Records :=
    ((), GroupBy.accumulate redis (buildRedisKey code) record fun _ => record)
  let forget (s : Stores) : Stores :=
    { s with bindCodeRecords := remove s.bindCodeRecords code }
  match withRedisStore env input.nowMs fault set stored with
  | (some _, s) => (.ok issued, forget s)
  | (none, s) =>
    if isSharedStoreRequired env then
      (.error (.error "Shared bind code store is required but unavailable. Retry the extension bind flow in a healthy environment."),
        forget s)
    else
      (.ok issued, s)

/-- The redemption from memory. -/
def redeemFromMemory (env : Env) (code : String) (input : RedeemBindFallbackCodeInput)
    (records : Records) : RedeemBindFallbackCodeResult × Records :=
  match records.lookup code with
  | none =>
    (.failed .invalidOrExpired "Bind code is invalid or expired.", remove records code)
  | some record =>
    if record.expiresAtMs ≤ input.nowMs then
      (.failed .invalidOrExpired "Bind code is invalid or expired.", remove records code)
    else
      match contextMismatch record (normalizeHeaderValue input.installationId)
          (normalizeHeaderValue input.requestId) (normalizeHeaderValue input.bridgeNonce)
          (normalizeBridgeOrigin env input.requestOrigin) with
      | some field =>
        (.failed .contextMismatch (buildContextMismatchMessage (some field)), records)
      | none => (.ok record.result input.nowMs, remove records code)

/-- The script with the arguments of a request. -/
def redeemInRedis (env : Env) (code : String) (input : RedeemBindFallbackCodeInput)
    (redis : Records) : ScriptReply × Records :=
  redeemBindCodeScript (buildRedisKey code) input.nowMs
    ((normalizeHeaderValue input.installationId).getD "")
    ((normalizeHeaderValue input.requestId).getD "")
    ((normalizeHeaderValue input.bridgeNonce).getD "")
    ((normalizeBridgeOrigin env input.requestOrigin).getD "") redis

def redeemBindFallbackCode (env : Env) (input : RedeemBindFallbackCodeInput)
    (fault : Fault Unit) (s : Stores) : RedeemBindFallbackCodeResult × Stores :=
  let s := { s with bindCodeRecords := pruneExpiredBindCodes input.nowMs s.bindCodeRecords }
  match normalizeHeaderValue input.code with
  | none => (.failed .invalidOrExpired "Bind code is required.", s)
  | some code =>
    let forget (s : Stores) : Stores :=
      { s with bindCodeRecords := remove s.bindCodeRecords code }
    match withRedisStore env input.nowMs fault (redeemInRedis env code input) s with
    | (some (.ok record), s) => (.ok record.result input.nowMs, forget s)
    | (some .invalid, s) =>
      (.failed .invalidOrExpired "Bind code is invalid or expired.", forget s)
    | (some (.mismatch field), s) =>
      (.failed .contextMismatch (buildContextMismatchMessage (some field)), s)
    | (none, s) =>
      if isSharedStoreRequired env then
        (.failed .storeUnavailable
          "Shared bind code store is unavailable. Reconnect the extension and retry.", forget s)
      else
        let answer := redeemFromMemory env code input s.bindCodeRecords
        (answer.1, { s with bindCodeRecords := answer.2 })

/-! ## Runs -/

/-- A call of one of the two operations, with what happens to its call to Redis. -/
inductive Call where
  | issue (code : String) (input : IssueBindFallbackCodeInput) (fault : Fault Unit)
  | redeem (input : RedeemBindFallbackCodeInput) (fault : Fault Unit)

def Call.nowMs : Call → ℤ
  | .issue _ input _ => input.nowMs
  | .redeem input _ => input.nowMs

def step (env : Env) (s : Stores) : Call → Stores
  | .issue code input fault => (issueBindFallbackCode env code input fault s).2
  | .redeem input fault => (redeemBindFallbackCode env input fault s).2

/-- A process starts with no codes and no earlier failure; so does Redis. -/
def emptyStores : Stores := ⟨[], 0, []⟩

/-- The state before call number `n`. -/
def stateAt (env : Env) (calls : List Call) (n : ℕ) : Stores :=
  (calls.take n).foldl (step env) emptyStores

end QuizMind.BindCodes

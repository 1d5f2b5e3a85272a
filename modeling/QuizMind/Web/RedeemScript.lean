import QuizMind.Web.BindCodeCalls

/-! # The script and the memory redeem alike

`redeemBindCodeScript` on texts: Redis holds the record as JSON text, the arguments are texts,
and an absent text is an empty one. The branch in memory compares optional texts. On a record
that `issueBindFallbackCode` stores both give the same outcome, and both delete the record
unless the context does not match (`redeem_alike`).
-/

namespace QuizMind.BindCodes

open GroupBy (lookup_remove_self remove)

/-! ## JSON and Lua -/

/-- What the language and Redis offer for JSON and numbers. -/
structure ScriptFunctions where
  /-- `JSON.stringify` -/
  stringify : Json → String
  /-- `JSON.parse`; `none` where it throws -/
  parse : String → Option Json
  /-- `cjson.decode`; `none` where it throws -/
  decode : String → Option Json
  /-- `String` of a number -/
  numberText : ℤ → String
  /-- `tonumber` of a text -/
  tonumber : String → Option ℤ

/-- The text of the value is read back by both sides. -/
structure ScriptFunctions.RoundTrips (functions : ScriptFunctions) (v : Json) : Prop where
  parse : functions.parse (functions.stringify v) = some v
  decode : functions.decode (functions.stringify v) = some v

abbrev Members := List (String × Json)

/-- `decoded.key`; `none` is `nil`. -/
def field (decoded : Json) (key : String) : Option Json :=
  match decoded with
  | .object members => members.lookup key
  | _ => none

/-- A member of the object that `JSON.stringify` leaves out when it is undefined. -/
def optionalMember (key : String) (value : Option String) : Members :=
  match value with
  | some text => [(key, .string text)]
  | none => []

/-- A record as a JSON value; `result` is its bind result. -/
def recordJson (record : BindCodeRecord) (result : Members) : Json :=
  .object ([("code", .string record.code), ("createdAtMs", .number record.createdAtMs),
    ("expiresAtMs", .number record.expiresAtMs),
    ("installationId", .string record.installationId)] ++
    optionalMember "requestId" record.requestId ++
    optionalMember "bridgeNonce" record.bridgeNonce ++
    optionalMember "targetOrigin" record.targetOrigin ++ [("result", .object result)])

/-! ## The script -/

/-- Keys of Redis with their texts. -/
abbrev RedisTexts := List (String × String)

namespace Script

variable (functions : ScriptFunctions)

/-- `tonumber(value)` -/
def tonumber : Option Json → Option ℤ
  | some (.number n) => some n
  | some (.string text) => functions.tonumber text
  | _ => none

/-- `value ~= text` -/
def differs (value : Option Json) (text : String) : Bool :=
  match value with
  | some (.string t) => t ≠ text
  | _ => true

/-- A condition takes `nil` and `false` for false. -/
def holds : Option Json → Bool
  | none => false
  | some (.bool b) => b
  | _ => true

/-- `value and value ~= '' and value ~= expected` -/
def setAndDiffers (value : Option Json) (expected : String) : Bool :=
  holds value && differs value "" && differs value expected

def redeemBindCodeScript (key nowMs expectedInstallationId expectedRequestId expectedBridgeNonce
    expectedRequestOrigin : String) (redis : RedisTexts) : Option (List String) × RedisTexts :=
  let nowMs := (functions.tonumber nowMs).getD 0
  match redis.lookup key with
  | none => (some ["invalid"], redis)
  | some raw =>
    match functions.decode raw with
    | none => (none, redis)
    | some decoded =>
      let expiresAtMs := (tonumber functions (field decoded "expiresAtMs")).getD 0
      if expiresAtMs ≤ nowMs then
        (some ["invalid"], remove redis key)
      else if expectedInstallationId ≠ "" ∧
          differs (field decoded "installationId") expectedInstallationId then
        (some ["mismatch", "installationId"], redis)
      else if setAndDiffers (field decoded "requestId") expectedRequestId then
        (some ["mismatch", "requestId"], redis)
      else if setAndDiffers (field decoded "bridgeNonce") expectedBridgeNonce then
        (some ["mismatch", "bridgeNonce"], redis)
      else if setAndDiffers (field decoded "targetOrigin") expectedRequestOrigin then
        (some ["mismatch", "targetOrigin"], redis)
      else
        (some ["ok", raw], remove redis key)

/-- The text is a record with a bind result. -/
def deserializeBindCodeRecord (value : String) : Option Json :=
  match functions.parse value with
  | none => none
  | some parsed =>
    match field parsed "code", field parsed "createdAtMs", field parsed "expiresAtMs",
        field parsed "installationId", field parsed "result" with
    | some (.string _), some (.number _), some (.number _), some (.string _),
        some (.object _) => some parsed
    | some (.string _), some (.number _), some (.number _), some (.string _),
        some (.array _) => some parsed
    | _, _, _, _, _ => none

def fieldOfName (name : String) : Option ContextField :=
  if name = "installationId" then some .installationId
  else if name = "requestId" then some .requestId
  else if name = "bridgeNonce" then some .bridgeNonce
  else if name = "targetOrigin" then some .targetOrigin
  else none

/-- What `redeemBindFallbackCode` makes of the answer of the script. -/
def resultOf (nowMs : ℤ) : List String → RedeemBindFallbackCodeResult
  | "ok" :: raw :: _ =>
    match deserializeBindCodeRecord functions raw with
    | some decodedRecord =>
      .ok ((field decodedRecord "result").elim "" functions.stringify) nowMs
    | none => .failed .invalidOrExpired "Bind code is invalid or expired."
  | "mismatch" :: mismatchField =>
    .failed .contextMismatch (buildContextMismatchMessage (mismatchField.head?.bind fieldOfName))
  | _ => .failed .invalidOrExpired "Bind code is invalid or expired."

/-- The redemption by the script, with the arguments that the request gives it. -/
def redeem (env : Env) (code : String) (input : RedeemBindFallbackCodeInput)
    (redis : RedisTexts) : Option RedeemBindFallbackCodeResult × RedisTexts :=
  let answer := redeemBindCodeScript functions (buildRedisKey code)
    (functions.numberText input.nowMs)
    ((normalizeHeaderValue input.installationId).getD "")
    ((normalizeHeaderValue input.requestId).getD "")
    ((normalizeHeaderValue input.bridgeNonce).getD "")
    ((normalizeBridgeOrigin env input.requestOrigin).getD "") redis
  (answer.1.map (resultOf functions input.nowMs), answer.2)

end Script

/-- The redemption from memory, after the expired records have been pruned. -/
def redeemPruned (env : Env) (code : String) (input : RedeemBindFallbackCodeInput)
    (records : Records) : RedeemBindFallbackCodeResult × Records :=
  redeemFromMemory env code input (pruneExpiredBindCodes input.nowMs records)

/-- A mismatch keeps the record for another try. -/
def RedeemBindFallbackCodeResult.keeps : RedeemBindFallbackCodeResult → Bool
  | .failed .contextMismatch _ => true
  | _ => false

/-! ## The members of a record -/

section Members

variable (record : BindCodeRecord) (result : Members)

theorem field_recordJson : field (recordJson record result) "code" = some (.string record.code) ∧
      field (recordJson record result) "createdAtMs" = some (.number record.createdAtMs) ∧
      field (recordJson record result) "expiresAtMs" = some (.number record.expiresAtMs) ∧
      field (recordJson record result) "installationId" = some (.string record.installationId) ∧
      field (recordJson record result) "result" = some (.object result) := by
  obtain ⟨code, createdAtMs, expiresAtMs, installationId, requestId, bridgeNonce, targetOrigin,
    text⟩ := record
  refine ⟨rfl, rfl, rfl, rfl, ?_⟩
  cases requestId <;> cases bridgeNonce <;> cases targetOrigin <;> rfl

theorem field_optional :
    field (recordJson record result) "requestId" = record.requestId.map Json.string ∧
      field (recordJson record result) "bridgeNonce" = record.bridgeNonce.map Json.string ∧
      field (recordJson record result) "targetOrigin" = record.targetOrigin.map Json.string := by
  obtain ⟨code, createdAtMs, expiresAtMs, installationId, requestId, bridgeNonce, targetOrigin,
    text⟩ := record
  cases requestId <;> cases bridgeNonce <;> cases targetOrigin <;> exact ⟨rfl, rfl, rfl⟩

end Members

/-- An absent text is `nil`, and a text that is there is compared. -/
theorem setAndDiffers_map (value : Option String) (expected : String) :
    Script.setAndDiffers (value.map Json.string) expected = argumentDiffers value expected := by
  cases value with
  | none => rfl
  | some text => simp [Script.setAndDiffers, Script.holds, Script.differs, argumentDiffers]

/-- The name of a field in the answer of the script. -/
def ContextField.name : ContextField → String
  | .installationId => "installationId"
  | .requestId => "requestId"
  | .bridgeNonce => "bridgeNonce"
  | .targetOrigin => "targetOrigin"

section Alike

variable (functions : ScriptFunctions)

variable {record : BindCodeRecord} {result : Members}

section Script

variable {key : String} {redis : RedisTexts} {nowMs : ℤ}
  (installationId requestId bridgeNonce requestOrigin : String)
  (hraw : redis.lookup key = some (functions.stringify (recordJson record result)))
  (htrip : functions.RoundTrips (recordJson record result))
  (hnow : functions.tonumber (functions.numberText nowMs) = some nowMs)
include hraw htrip hnow

/-- On the text of a record that has not expired the script compares the fields of the
record. -/
theorem script_unexpired (hlive : ¬ record.expiresAtMs ≤ nowMs) :
    Script.redeemBindCodeScript functions key (functions.numberText nowMs) installationId
        requestId bridgeNonce requestOrigin redis =
      (scriptMismatch record installationId requestId bridgeNonce requestOrigin).elim
        (some ["ok", functions.stringify (recordJson record result)], remove redis key)
        fun mismatch => (some ["mismatch", mismatch.name], redis) := by
  obtain ⟨-, -, hexpAt, hinstId, -⟩ := field_recordJson record result
  obtain ⟨hreqId, hbridgeNonce, htargetOrigin⟩ := field_optional record result
  have hdiffers : Script.differs (some (.string record.installationId)) installationId = true ↔
      record.installationId ≠ installationId := by
    simp [Script.differs]
  unfold Script.redeemBindCodeScript scriptMismatch
  simp only [hraw, htrip.decode, hnow, hexpAt,
    Script.tonumber, Option.getD_some, if_neg hlive, hinstId, hdiffers, hreqId,
    hbridgeNonce, htargetOrigin, setAndDiffers_map]
  -- the fields are compared in one order
  split
  · rfl
  split
  · rfl
  split
  · rfl
  split
  · rfl
  · rfl

theorem script_expired (hexp : record.expiresAtMs ≤ nowMs) :
    Script.redeemBindCodeScript functions key (functions.numberText nowMs) installationId
        requestId bridgeNonce requestOrigin redis =
      (some ["invalid"], remove redis key) := by
  obtain ⟨-, -, hexpAt, -, -⟩ := field_recordJson record result
  unfold Script.redeemBindCodeScript
  simp only [hraw, htrip.decode, hnow, hexpAt, Script.tonumber, Option.getD_some, if_pos hexp]

end Script

/-- The text that the script gives back is a record. -/
theorem resultOf_ok (htrip : functions.RoundTrips (recordJson record result)) (nowMs : ℤ) :
    Script.resultOf functions nowMs ["ok", functions.stringify (recordJson record result)] =
      .ok (functions.stringify (.object result)) nowMs := by
  obtain ⟨hcode, hcreatedAt, hexpAt, hinstId, hres⟩ :=
    field_recordJson record result
  have hrec : Script.deserializeBindCodeRecord functions
      (functions.stringify (recordJson record result)) = some (recordJson record result) := by
    unfold Script.deserializeBindCodeRecord
    simp only [htrip.parse, hcode, hcreatedAt, hexpAt, hinstId, hres]
  simp only [Script.resultOf, hrec, hres, Option.elim_some]

theorem resultOf_mismatch (mismatch : ContextField) (nowMs : ℤ) :
    Script.resultOf functions nowMs ["mismatch", mismatch.name] =
      .failed .contextMismatch (buildContextMismatchMessage (some mismatch)) := by
  cases mismatch <;> rfl

/-- Pruning keeps what has not expired. -/
theorem lookup_prune {records : Records} {code : String} (nowMs : ℤ)
    (hkeys : (records.map Prod.fst).Nodup) (hrec : records.lookup code = some record) :
    (pruneExpiredBindCodes nowMs records).lookup code =
      if record.expiresAtMs ≤ nowMs then none else some record := by
  have hfilt := GroupBy.lookup_filter hkeys (fun record => decide (nowMs < record.expiresAtMs)) code
  unfold pruneExpiredBindCodes
  rw [hfilt, hrec, Option.filter_some]
  by_cases hexp : record.expiresAtMs ≤ nowMs
  · rw [if_pos hexp, if_neg (by simpa using hexp)]
  · rw [if_neg hexp, if_pos (by simpa using hexp)]

/-- The script and the memory redeem an issued record alike: they answer the same, and delete
the record unless the context does not match. -/
theorem redeem_alike (functions : ScriptFunctions) (env : Env) (code : String)
    (issued : IssueBindFallbackCodeInput) (result : Members)
    (hresult : issued.result = functions.stringify (.object result))
    (input : RedeemBindFallbackCodeInput)
    (htrip : functions.RoundTrips (recordJson (issuedRecord env code issued) result))
    (hnow : functions.tonumber (functions.numberText input.nowMs) = some input.nowMs)
    {redis : RedisTexts} {records : Records}
    (hraw : redis.lookup (buildRedisKey code) =
      some (functions.stringify (recordJson (issuedRecord env code issued) result)))
    (hkeys : (records.map Prod.fst).Nodup)
    (hrecord : records.lookup code = some (issuedRecord env code issued)) :
    (Script.redeem functions env code input redis).1 =
        some (redeemPruned env code input records).1 ∧
      (Script.redeem functions env code input redis).2.lookup (buildRedisKey code) =
        (if (redeemPruned env code input records).1.keeps then
          some (functions.stringify (recordJson (issuedRecord env code issued) result))
        else none) ∧
      (redeemPruned env code input records).2.lookup code =
        (if (redeemPruned env code input records).1.keeps then
          some (issuedRecord env code issued)
        else none) := by
  have hpruned := lookup_prune input.nowMs hkeys hrecord
  unfold Script.redeem redeemPruned redeemFromMemory
  by_cases hexpired : (issuedRecord env code issued).expiresAtMs ≤ input.nowMs
  · rw [if_pos hexpired] at hpruned
    simp only [hpruned, script_expired functions _ _ _ _ hraw htrip hnow hexpired]
    exact ⟨rfl, lookup_remove_self _ _, lookup_remove_self _ _⟩
  rw [if_neg hexpired] at hpruned
  simp only [hpruned, if_neg hexpired, script_unexpired functions _ _ _ _ hraw htrip hnow hexpired,
    scriptMismatch_eq]
  cases contextMismatch (issuedRecord env code issued)
      (normalizeHeaderValue input.installationId) (normalizeHeaderValue input.requestId)
      (normalizeHeaderValue input.bridgeNonce)
      (normalizeBridgeOrigin env input.requestOrigin) with
  | none =>
    refine ⟨?_, lookup_remove_self _ _, lookup_remove_self _ _⟩
    have hok := resultOf_ok functions htrip input.nowMs
    rw [← hresult] at hok
    exact congrArg some hok
  | some mismatch =>
    refine ⟨?_, hraw, hpruned⟩
    exact congrArg some (resultOf_mismatch functions mismatch input.nowMs)

end Alike

/-! ## A code that is redeemed with another nonce -/

section Example

/-- A code of one installation and one nonce. -/
def issuedInput : IssueBindFallbackCodeInput :=
  ⟨"\x7b\x7d", "inst_a", none, some "nonce-1", none, some 60, 1000⟩

def plainEnv : Env := ⟨none, none, none, fun _ => none⟩

def issuedJson : Json := recordJson (issuedRecord plainEnv "bindc_1" issuedInput) []

def issuedText : String :=
  "\x7b\"code\":\"bindc_1\",\"createdAtMs\":1000,\"expiresAtMs\":61000,\"installationId\":\"inst_a\",\"bridgeNonce\":\"nonce-1\",\"result\":\x7b\x7d\x7d"

/-- The texts of the record and of its empty result. -/
def issuedFunctions : ScriptFunctions where
  stringify v := if (field v "code").isSome then issuedText else "\x7b\x7d"
  parse text := if text = issuedText then some issuedJson else none
  decode text := if text = issuedText then some issuedJson else none
  numberText _ := "2000"
  tonumber text := if text = "2000" then some 2000 else none

theorem roundTrips_issued : issuedFunctions.RoundTrips issuedJson where
  parse := rfl
  decode := rfl

def otherNonce : RedeemBindFallbackCodeInput :=
  ⟨some "bindc_1", none, none, some "nonce-2", none, 2000⟩

theorem redeem_alike_otherNonce : (Script.redeem issuedFunctions plainEnv "bindc_1" otherNonce
        [(buildRedisKey "bindc_1", issuedText)]).1 =
        some (redeemPruned plainEnv "bindc_1" otherNonce
          [("bindc_1", issuedRecord plainEnv "bindc_1" issuedInput)]).1 :=
  (redeem_alike issuedFunctions plainEnv "bindc_1" issuedInput [] (by rfl) otherNonce
    roundTrips_issued (by rfl) (by rfl) (by decide) (by rfl)).1

end Example

end QuizMind.BindCodes

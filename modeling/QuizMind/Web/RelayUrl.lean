import QuizMind.Web.CodeRedemption

/-! # The relay redirect

A connect page that cannot post to its opener goes to the relay page of the extension, with the
envelope in the query. The extension reads the envelope back from the URL. The platform's JSON,
base64, UTF-8 and URLs are parameters.
-/

namespace QuizMind.ConnectPage

open Bridge Client Text

/-! ## The page -/

/-- What the page uses beside the functions that the extension uses. -/
structure PageFunctions where
  /-- `JSON.stringify` -/
  stringifyJson : Json → String
  /-- `url.toString()` when `url.searchParams` holds these pairs -/
  hrefWith : Url → List (String × String) → String

/-- `searchParams.set(name, value)`. -/
def setParam (params : List (String × String)) (name value : String) : List (String × String) :=
  match params with
  | [] => [(name, value)]
  | (k, v) :: rest =>
    if k = name then (name, value) :: rest.filter fun param => param.1 ≠ name
    else (k, v) :: setParam rest name value

/-- `if (value) searchParams.set(name, value)`. -/
def setTruthy (params : List (String × String)) (name : String) (value : Option String) :
    List (String × String) :=
  match value.filter fun value => value ≠ "" with
  | none => params
  | some value => setParam params name value

structure RelayRedirectInput where
  relayUrl : String
  envelope : Members
  requestId : String
  bridgeNonce : Option String
  platformBaseUrl : Option String

section Page

variable (web : WebFunctions) (page : PageFunctions)

def normalizePlatformBaseUrl (value : Option String) : Option String := do
  let normalized ← normalizeTrimmedValue value
  let parsed ← web.parseUrl normalized
  if parsed.protocol ≠ "https:" ∧ parsed.protocol ≠ "http:" then none else some parsed.origin

def encodeBase64UrlJson (value : Json) : String :=
  let bytes := Base64Url.toUtf8 (page.stringifyJson value).toList
  String.ofList (((Base64Url.encodeStandard bytes).map Base64Url.ofStandard).rdropWhile
    fun c => c = '=')

/-- The search parameters of the relay URL once all are set. -/
def relayParams (relay : Url) (input : RelayRedirectInput) : List (String × String) :=
  let payload := setParam relay.searchParams "quizmind_bridge_payload"
    (encodeBase64UrlJson page (.object input.envelope))
  let format := setParam payload "quizmind_bridge_payload_format" "base64url-json"
  let requestId := setParam format "requestId" input.requestId
  let bridgeNonce := setTruthy requestId "bridgeNonce" input.bridgeNonce
  setTruthy bridgeNonce "platformBaseUrl" (normalizePlatformBaseUrl web input.platformBaseUrl)

def buildRelayRedirectUrl (input : RelayRedirectInput) : Option String :=
  (web.parseUrl input.relayUrl).map fun relay =>
    page.hrefWith relay (relayParams web page relay input)

end Page

/-! ## Search parameters -/

theorem lookup_setParam (params : List (String × String)) (name value key : String) :
    (setParam params name value).lookup key =
      if key = name then some value else params.lookup key := by
  have hfilt : ∀ rest : List (String × String), key ≠ name →
      (rest.filter fun param => param.1 ≠ name).lookup key = rest.lookup key := by
    intro rest hne
    induction rest with
    | nil => rfl
    | cons param rest ih => grind
  induction params with
  | nil => grind [setParam]
  | cons param rest ih => grind [setParam]

theorem lookup_setTruthy {params : List (String × String)} {name key : String} (h : key ≠ name)
    (value : Option String) : (setTruthy params name value).lookup key = params.lookup key := by
  unfold setTruthy
  split
  · rfl
  · rw [lookup_setParam, if_neg h]

/-! ## The round trip -/

/-- What is documented of the functions of the platform: what has been written is read back. -/
structure ReadsBack (web : WebFunctions) (page : PageFunctions) (input : RelayRedirectInput) :
    Prop where
  parse_href : ∀ value url, web.parseUrl value = some url →
    web.parseUrl url.href = some url ∧ IsTrimmed url.href
  parse_hrefWith : ∀ relay, web.parseUrl input.relayUrl = some relay →
    ∃ url, web.parseUrl (page.hrefWith relay (relayParams web page relay input)) = some url ∧
      url.href = page.hrefWith relay (relayParams web page relay input) ∧
      url.searchParams = relayParams web page relay input
  parse_stringify : web.parseJson (page.stringifyJson (.object input.envelope)) =
    some (.object input.envelope)
  stringify_ne : page.stringifyJson (.object input.envelope) ≠ ""
  decode_encode : ∀ text : String, web.decodeUtf8 (Base64Url.toUtf8 text.toList) = text
  atob_btoa : ∀ bytes, web.atob (String.ofList (Base64Url.encodeStandard bytes)) = some bytes

section RoundTrip

variable {web : WebFunctions} {page : PageFunctions} {input : RelayRedirectInput}

theorem toList_encodeBase64UrlJson (page : PageFunctions) (value : Json) :
    (encodeBase64UrlJson page value).toList =
      Base64Url.encode (Base64Url.toUtf8 (page.stringifyJson value).toList) := by
  unfold encodeBase64UrlJson
  rw [String.toList_ofList, Base64Url.ofStandard_encodeStandard]

/-- A text of the base64 alphabet has one unit a character. -/
theorem jsLength_toStandard (bytes : List UInt8) :
    jsLength (String.ofList ((Base64Url.encode bytes).map Base64Url.toStandard)) =
      (Base64Url.encode bytes).length := by
  have halpha : ∀ c ∈ '_' :: Base64Url.alphabet, (Base64Url.toStandard c).toNat < 0x10000 :=
    List.all_iff_forall_prop.mp (by decide)
  have hlen : ∀ (chars : List Char) (n : ℕ), (∀ c ∈ chars, c.toNat < 0x10000) →
      chars.foldl (fun n c => n + if 0x10000 ≤ c.toNat then 2 else 1) n = n + chars.length := by
    intro chars
    induction chars with
    | nil => simp
    | cons c chars ih => grind
  unfold jsLength
  rw [String.toList_ofList, hlen, List.length_map, Nat.zero_add]
  intro c hc
  obtain ⟨d, hd, rfl⟩ := List.mem_map.mp hc
  exact halpha d (Base64Url.mem_alphabet_of_encode hd)

section

variable (hback : ReadsBack web page input)
include hback

/-- The extension puts the padding back. -/
theorem decodeBase64UrlToJson_encode :
    decodeBase64UrlToJson web (encodeBase64UrlJson page (.object input.envelope)) =
      some (.object input.envelope) := by
  have hpadding : ∀ n, (4 - if n % 4 = 0 then 4 else n % 4) % 4 = (4 - n % 4) % 4 := by
    intro n
    split <;> omega
  have hnorm : ∀ bytes, (Base64Url.encode bytes).map
      (fun c => if c = '-' then '+' else if c = '_' then '/' else c) =
        (Base64Url.encode bytes).map Base64Url.toStandard := fun _ => rfl
  unfold decodeBase64UrlToJson
  simp only [toList_encodeBase64UrlJson, hnorm, jsLength_toStandard, hpadding,
    ← String.ofList_append]
  show (web.atob (String.ofList (Base64Url.encodeStandard _))).bind _ = _
  rw [hback.atob_btoa, Option.bind_some, hback.decode_encode]
  exact hback.parse_stringify

theorem isTrimmed_payload : IsTrimmed (encodeBase64UrlJson page (.object input.envelope)) := by
  have htext := toList_encodeBase64UrlJson page (.object input.envelope)
  apply isTrimmed_of_no_space
  · -- an empty text would be an empty JSON text
    intro hempty
    have hbytes := Base64Url.decode_encode
      (Base64Url.toUtf8 (page.stringifyJson (.object input.envelope)).toList)
    have hread := hback.decode_encode (page.stringifyJson (.object input.envelope))
    rw [hempty] at htext
    rw [← htext] at hbytes
    rw [← hbytes] at hread
    exact hback.stringify_ne (hread.symm.trans (hback.decode_encode ""))
  intro c hc
  rw [htext] at hc
  obtain ⟨n, -, rfl⟩ := List.mem_map.mp hc
  exact CodeRedemption.isJsSpace_digit n

/-- The extension finds the payload, and does not ask the query for the ids. -/
theorem queryPayload_relayParams (relay : Url)
    (hreqId : (asString (input.envelope.lookup "requestId")).isSome)
    (hnonce : (asString (input.envelope.lookup "bridgeNonce")).isSome) :
    queryPayload web (relayParams web page relay input) = some input.envelope := by
  have hpayload : (relayParams web page relay input).lookup "quizmind_bridge_payload" =
      some (encodeBase64UrlJson page (.object input.envelope)) := by
    simp [relayParams, lookup_setTruthy, lookup_setParam]
  have hformat : (relayParams web page relay input).lookup "quizmind_bridge_payload_format" =
      some "base64url-json" := by
    simp [relayParams, lookup_setTruthy, lookup_setParam]
  have hread : decodePayload web (encodeBase64UrlJson page (.object input.envelope))
      (some "base64url-json") = some (.object input.envelope) := decodeBase64UrlToJson_encode hback
  have hown : ∀ key value, (asString (input.envelope.lookup key)).isSome →
      withQueryValue input.envelope key value = input.envelope := by
    intro key value hstring
    unfold withQueryValue
    cases value with
    | none => rfl
    | some text => exact if_pos hstring
  unfold queryPayload
  rw [hpayload, hformat, normalizeTrimmedValue_of_trimmed (isTrimmed_payload hback),
    normalizeTrimmedValue_of_trimmed (by decide)]
  show (decodePayload _ _ _).bind _ = _
  rw [hread]
  show some (withQueryValue (withQueryValue input.envelope _ _) _ _) = _
  rw [hown _ _ hreqId, hown _ _ hnonce]

end

/-- The envelope that the page puts into the relay URL is the one that the extension reads. -/
theorem relay_round_trip {relayUrl target : Option String} {envelope : BridgeEnvelope}
    (hback : ReadsBack web page input)
    (haccepted : normalizeRelayUrl web relayUrl target = some input.relayUrl)
    (hvalid : normalizeBridgeEnvelopeFromRecord input.envelope = some envelope)
    (hnonce : (asString (input.envelope.lookup "bridgeNonce")).isSome) :
    ∃ redirect url, buildRelayRedirectUrl web page input = some redirect ∧
      web.parseUrl redirect = some url ∧
      queryPayload web url.searchParams = some input.envelope ∧
      normalizeBridgeEnvelope web (.value (.string redirect)) = some envelope ∧
      ∀ members, normalizeBridgeEnvelope web (.url url.searchParams members) = some envelope := by
  obtain ⟨relay, hrelay⟩ : ∃ relay, web.parseUrl input.relayUrl = some relay := by
    unfold normalizeRelayUrl at haccepted
    simp only [Option.bind_eq_bind, Option.bind_eq_some_iff] at haccepted
    obtain ⟨normalized, -, origin, -, parsed, hparsed, hhref⟩ := haccepted
    split at hhref
    · rw [← Option.some.inj hhref]
      exact ⟨parsed, (hback.parse_href _ _ hparsed).1⟩
    · cases hhref
  obtain ⟨url, hurl, hhref, hparams⟩ := hback.parse_hrefWith relay hrelay
  obtain ⟨hself, hne, htrim⟩ := hback.parse_href _ url hurl
  have hrequestId : (asString (input.envelope.lookup "requestId")).isSome := by
    simp only [normalizeBridgeEnvelopeFromRecord, Option.bind_eq_bind, Option.bind_eq_some_iff]
      at hvalid
    obtain ⟨requestId, hid, -⟩ := hvalid
    rw [hid]
    rfl
  have hquery : queryPayload web url.searchParams = some input.envelope := by
    rw [hparams]
    exact queryPayload_relayParams hback relay hrequestId hnonce
  have hparsed : parseBridgeEnvelopeFromQueryPayload web url.searchParams = some envelope := by
    unfold parseBridgeEnvelopeFromQueryPayload
    rw [hquery, Option.bind_some, hvalid]
  refine ⟨url.href, url, ?_, hself, hquery, ?_, fun _ => hparsed⟩
  · unfold buildRelayRedirectUrl
    rw [hrelay, hhref, Option.map_some]
  · unfold normalizeBridgeEnvelope
    simp only [htrim, hne, if_false, hself, Option.bind_some, hparsed]

end RoundTrip

section Example

def sentEnvelope : Members :=
  [("type", .string bindResultType), ("requestId", .string "bind_001"), ("payload", .null),
    ("bridgeNonce", .string "nonce_01")]

def sentJson : String :=
  "\x7b\"type\":\"quizmind.extension.bind_result\",\"requestId\":\"bind_001\"," ++
    "\"payload\":null,\"bridgeNonce\":\"nonce_01\"\x7d"

def sentPayload : String := String.ofList (Base64Url.encode (Base64Url.toUtf8 sentJson.toList))

/-- A relay URL that carries a request id and a fragment already. -/
def oldRelay : Url :=
  ⟨"chrome-extension:", "null", "abcd", "chrome-extension://abcd/?requestId=x#y", [("requestId", "x")]⟩

def relayStart : String :=
  "chrome-extension://abcd/?requestId=bind_001&quizmind_bridge_payload="

def relayEnd : String := "&quizmind_bridge_payload_format=base64url-json&bridgeNonce=nonce_01#y"

/-- The relay URL with the envelope. -/
def sentRelay : Url :=
  ⟨"chrome-extension:", "null", "abcd", relayStart ++ (sentPayload ++ relayEnd),
    [("requestId", "bind_001"), ("quizmind_bridge_payload", sentPayload),
      ("quizmind_bridge_payload_format", "base64url-json"), ("bridgeNonce", "nonce_01")]⟩

/-- A platform that knows these values. -/
def relayWeb : WebFunctions where
  parseUrl value :=
    if value = sentRelay.href then some sentRelay
    else if value = oldRelay.href then some oldRelay
    else none
  resolveUrl _ _ := none
  parseJson text := if text = sentJson then some (.object sentEnvelope) else none
  decodeURIComponent := some
  atob text := some (Base64Url.decode text.toList)
  decodeUtf8 bytes := String.ofList (Base64Url.ofUtf8 (fun _ => []) bytes)

def relayPage : PageFunctions := ⟨fun _ => sentJson, fun _ _ => sentRelay.href⟩

def sentInput : RelayRedirectInput := ⟨oldRelay.href, sentEnvelope, "bind_001", some "nonce_01", none⟩

theorem parseUrl_relayWeb (value : String) :
    relayWeb.parseUrl value = if value = sentRelay.href then some sentRelay
      else if value = oldRelay.href then some oldRelay else none := rfl

theorem parseUrl_sentRelay : relayWeb.parseUrl sentRelay.href = some sentRelay := by
  rw [parseUrl_relayWeb, if_pos rfl]

theorem toList_sentRelay : sentRelay.href.toList =
    relayStart.toList ++ (sentPayload.toList ++ relayEnd.toList) := by
  rw [sentRelay, String.toList_append, String.toList_append]

theorem parseUrl_oldRelay : relayWeb.parseUrl oldRelay.href = some oldRelay := by
  have hne : oldRelay.href ≠ sentRelay.href := by
    intro heq
    -- the request ids differ
    have hpre := List.prefix_append relayStart.toList (sentPayload.toList ++ relayEnd.toList)
    rw [← toList_sentRelay, ← heq] at hpre
    exact absurd hpre (by decide)
  rw [parseUrl_relayWeb, if_neg hne, if_pos rfl]

theorem isTrimmed_oldRelay : IsTrimmed oldRelay.href := by decide

theorem isTrimmed_sentRelay : IsTrimmed sentRelay.href := by
  have hends : ∀ c ∈ relayStart.toList ++ relayEnd.toList, isJsSpace c = false :=
    List.all_iff_forall_prop.mp (by decide)
  apply isTrimmed_of_no_space
  · intro hempty
    have hlen := congrArg List.length toList_sentRelay
    rw [hempty, List.length_append] at hlen
    exact absurd hlen.symm (by simp [relayStart])
  intro c hc
  rw [toList_sentRelay] at hc
  rcases List.mem_append.mp hc with hstart | hc
  · exact hends c (List.mem_append_left _ hstart)
  rcases List.mem_append.mp hc with hpayload | hend
  · rw [sentPayload, String.toList_ofList] at hpayload
    obtain ⟨n, -, rfl⟩ := List.mem_map.mp hpayload
    exact CodeRedemption.isJsSpace_digit n
  · exact hends c (List.mem_append_right _ hend)

theorem readsBack_relayWeb : ReadsBack relayWeb relayPage sentInput where
  parse_href := by
    intro value url h
    have hurl : url = oldRelay ∨ url = sentRelay := by grind [parseUrl_relayWeb]
    rcases hurl with rfl | rfl
    · exact ⟨parseUrl_oldRelay, isTrimmed_oldRelay⟩
    · exact ⟨parseUrl_sentRelay, isTrimmed_sentRelay⟩
  parse_hrefWith := by
    intro relay hrelay
    obtain rfl : relay = oldRelay := Option.some.inj (hrelay.symm.trans parseUrl_oldRelay)
    have hpayload : encodeBase64UrlJson relayPage (.object sentInput.envelope) = sentPayload :=
      String.toList_inj.mp (by
        rw [toList_encodeBase64UrlJson, sentPayload, String.toList_ofList]
        rfl)
    refine ⟨sentRelay, parseUrl_sentRelay, rfl, ?_⟩
    unfold relayParams
    rw [hpayload]
    simp [setParam, setTruthy, sentRelay, oldRelay, sentInput, normalizePlatformBaseUrl,
      normalizeTrimmedValue, Option.filter]
  parse_stringify := by
    have hdef : ∀ text, relayWeb.parseJson text =
        if text = sentJson then some (.object sentEnvelope) else none := fun _ => rfl
    exact (hdef _).trans (if_pos rfl)
  stringify_ne := by decide
  decode_encode text := by
    show String.ofList (Base64Url.ofUtf8 _ _) = text
    rw [Base64Url.ofUtf8_toUtf8, String.ofList_toList]
  atob_btoa bytes := by
    show some (Base64Url.decode (String.ofList _).toList) = _
    rw [String.toList_ofList, Base64Url.decode_encodeStandard]

theorem relay_round_trip_sent :
    ∃ redirect url, buildRelayRedirectUrl relayWeb relayPage sentInput = some redirect ∧
      relayWeb.parseUrl redirect = some url ∧
      queryPayload relayWeb url.searchParams = some sentEnvelope ∧
      normalizeBridgeEnvelope relayWeb (.value (.string redirect)) =
        some ⟨"bind_001", some (.string "nonce_01"), .bindResult .null⟩ ∧
      ∀ members, normalizeBridgeEnvelope relayWeb (.url url.searchParams members) =
        some ⟨"bind_001", some (.string "nonce_01"), .bindResult .null⟩ := by
  have haccepted : normalizeRelayUrl relayWeb (some oldRelay.href)
      (some "chrome-extension://abcd") = some oldRelay.href := by
    unfold normalizeRelayUrl
    rw [normalizeTrimmedValue_of_trimmed isTrimmed_oldRelay]
    simp only [Option.bind_eq_bind, Option.bind_some, parseUrl_oldRelay]
    exact if_pos (by decide)
  exact relay_round_trip readsBack_relayWeb haccepted (by rfl) (by decide)

end Example

end QuizMind.ConnectPage

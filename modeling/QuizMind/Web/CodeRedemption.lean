import QuizMind.Web.BindRoute
import QuizMind.Web.ConnectUrl
import QuizMind.Web.WorkingStore

/-! # Redeeming the fallback code of a bind

A code goes from the bind route through the page to the extension, which redeems it at the
redeem route, through `connectToPlatform` or through `PlatformRuntimeClient`. The context of
the code survives the way (`matchesContext_of_same`). The path does not: without a redeem path
the extension posts to `/api/extension/bind/redeem`, where the site has no route. So a code is
redeemed exactly when a path that leads to the redeem route comes with it and the store still
has it (`redeems_iff`).
-/

namespace QuizMind.CodeRedemption

open Async Bridge Client BindCodes BindRoute ConnectPage
open Base64Url (alphabet digit)

/-! ## The bind -/

section Bind

/-- What is documented of `URL`: an origin is read as itself, and has no white space at an end. -/
structure LawfulOrigins (env : Env) : Prop where
  parse_empty : env.parseUrl "" = none
  parse_origin : ∀ value parsed, env.parseUrl value = some parsed →
    parsed.protocol = "https:" ∨ parsed.protocol = "http:" →
      jsTrim parsed.origin = parsed.origin ∧ ∃ root, env.parseUrl parsed.origin = some root ∧
        root.protocol = parsed.protocol ∧ root.origin = parsed.origin
  parse_extension : ∀ value parsed, env.parseUrl value = some parsed →
    parsed.protocol = "chrome-extension:" ∨ parsed.protocol = "moz-extension:" →
      jsTrim (parsed.protocol ++ "//" ++ parsed.host) = parsed.protocol ++ "//" ++ parsed.host ∧
        ∃ root, env.parseUrl (parsed.protocol ++ "//" ++ parsed.host) = some root ∧
          root.protocol = parsed.protocol ∧ root.host = parsed.host

/-- The origin of a URL: the one that it has, or the one of an extension. -/
def originOf (parsed : ParsedUrl) : Option String :=
  if parsed.protocol = "https:" ∨ parsed.protocol = "http:" then some parsed.origin
  else if parsed.protocol = "chrome-extension:" ∨ parsed.protocol = "moz-extension:" then
    some (parsed.protocol ++ "//" ++ parsed.host)
  else none

theorem normalizeBridgeOrigin_of_parse {env : Env} {value : String} {parsed : ParsedUrl}
    (htrim : jsTrim value = value) (hne : value ≠ "") (hparse : env.parseUrl value = some parsed) :
    normalizeBridgeOrigin env (some value) = originOf parsed := by
  have hheader : normalizeHeaderValue (some value) = some value :=
    normalizeTrimmedValue_of_trimmed ⟨hne, htrim⟩
  unfold normalizeBridgeOrigin
  rw [hheader]
  show (env.parseUrl value).bind originOf = _
  rw [hparse]
  rfl

variable {value : Option String}

/-- An origin is its own origin. -/
theorem normalizeBridgeOrigin_self {env : Env} (horigins : LawfulOrigins env) {origin : String}
    (h : normalizeBridgeOrigin env value = some origin) :
    normalizeBridgeOrigin env (some origin) = some origin := by
  have hparsed : ∃ text parsed, env.parseUrl text = some parsed ∧ originOf parsed = some origin := by
    obtain ⟨text, -, hrest⟩ := Option.bind_eq_some_iff.mp h
    obtain ⟨parsed, hparse, horigin⟩ := Option.bind_eq_some_iff.mp hrest
    exact ⟨text, parsed, hparse, horigin⟩
  obtain ⟨text, parsed, hparse, horigin⟩ := hparsed
  unfold originOf at horigin
  have hempty : ∀ root, env.parseUrl origin = some root → origin ≠ "" := by
    rintro root hroot rfl
    rw [horigins.parse_empty] at hroot
    cases hroot
  by_cases hhttp : parsed.protocol = "https:" ∨ parsed.protocol = "http:"
  · rw [if_pos hhttp] at horigin
    obtain rfl := Option.some.inj horigin
    obtain ⟨htrim, root, hroot, hproto, hsame⟩ := horigins.parse_origin text parsed hparse hhttp
    rw [normalizeBridgeOrigin_of_parse htrim (hempty root hroot) hroot, originOf, hproto,
      if_pos hhttp, hsame]
  rw [if_neg hhttp] at horigin
  by_cases hext : parsed.protocol = "chrome-extension:" ∨ parsed.protocol = "moz-extension:"
  · rw [if_pos hext] at horigin
    obtain rfl := Option.some.inj horigin
    obtain ⟨htrim, root, hroot, hproto, hsame⟩ :=
      horigins.parse_extension text parsed hparse hext
    rw [normalizeBridgeOrigin_of_parse htrim (hempty root hroot) hroot, originOf, hproto,
      if_neg hhttp, if_pos hext, hsame]
  · rw [if_neg hext] at horigin
    cases horigin

variable {site : Site} {request : BindRoute.BindRequest} {bind : CheckedBind}

theorem checkBody_ok {body : Option Json} {installationId environment : String}
    {handshake : Bridge.CompatibilityHandshake}
    (h : checkBody body = .ok (installationId, environment, handshake)) :
    normalizeTrimmedValue (asString (BindRoute.bodyMember body "installationId")) = some installationId := by
  obtain ⟨handshake', -, hbody⟩ := bind_eq_ok_iff.mp h
  dsimp only at hbody
  split at hbody
  · cases hbody
  split at hbody
  · split at hbody
    · cases hbody
    · next hne =>
        cases hbody
        unfold normalizeTrimmedValue
        cases hid : asString (BindRoute.bodyMember body "installationId") with
        | none | some text => grind
  · cases hbody

/-- What the route keeps of the request. -/
theorem checkBind_ok {env : Env} (h : checkBind env request = .ok bind) :
    normalizeTrimmedValue (asString (BindRoute.bodyMember request.body "installationId")) =
        some bind.installationId ∧
      bind.requestId = BindRoute.normalizeBridgeRequestId request.requestIdHeader ∧
      bind.bridgeNonce = BindRoute.normalizeBridgeNonce request.bridgeNonceHeader ∧
      bind.targetOrigin = normalizeBridgeOrigin env request.targetOriginHeader := by
  obtain ⟨⟨installationId, environment, handshake⟩, hbody, h⟩ := bind_eq_ok_iff.mp h
  obtain ⟨_, -, h⟩ := bind_eq_ok_iff.mp h
  obtain ⟨_, -, h⟩ := bind_eq_ok_iff.mp h
  obtain ⟨_, -, h⟩ := bind_eq_ok_iff.mp h
  obtain ⟨_, -, h⟩ := bind_eq_ok_iff.mp h
  obtain ⟨_, -, h⟩ := bind_eq_ok_iff.mp h
  cases h
  exact ⟨checkBody_ok hbody, rfl, rfl, rfl⟩

/-- A bind that is answered with a code has issued it. -/
theorem bindPost_bound {upstream : Upstream} {code : String} {nowMs : ℤ} {fault : Fault Unit}
    {s : Stores} {data : Json} {issued : ExtensionBindFallbackCode} {status : ℕ}
    (h : (bindPost site request upstream code nowMs fault s).1 = .bound data (some issued) status) :
    ∃ bind input, checkBind site.env request = .ok bind ∧
      fallbackInput site bind data nowMs = some input ∧
      (issueBindFallbackCode site.env code input fault s).1 = .ok issued := by
  unfold bindPost at h
  split at h
  · cases h
  · grind

/-- What is stored for a bind. -/
theorem fallbackInput_eq {data : Json} {nowMs : ℤ} {input : IssueBindFallbackCodeInput}
    (h : fallbackInput site bind data nowMs = some input) :
    input.result = site.textOf data ∧ input.installationId = bind.installationId ∧
      input.nowMs = nowMs ∧
      (∃ requestId, bind.requestId = some requestId ∧ input.requestId = some requestId) ∧
      (∃ bridgeNonce, bind.bridgeNonce = some bridgeNonce ∧ input.bridgeNonce = some bridgeNonce) ∧
      ∃ targetOrigin, bind.targetOrigin = some targetOrigin ∧
        input.targetOrigin = some targetOrigin := by
  unfold fallbackInput at h
  split at h
  · grind
  · cases h

theorem normalizeToken_ok {minLength maxLength : ℕ} {token : String}
    (h : normalizeToken minLength maxLength value = some token) :
    normalizeTrimmedValue value = some token ∧ normalizeTrimmedValue (some token) = some token := by
  cases value with
  | none => cases h
  | some text =>
    obtain ⟨hread, -⟩ := Option.filter_eq_some_iff.mp h
    obtain ⟨-, htrim, -⟩ := normalizeToken_spec h
    exact ⟨hread, normalizeTrimmedValue_of_trimmed htrim⟩

theorem normalizeTrimmedValue_self {text : String}
    (h : normalizeTrimmedValue value = some text) : normalizeTrimmedValue (some text) = some text := by
  cases value with
  | none => cases h
  | some given =>
    obtain ⟨htext, hne⟩ := Option.filter_eq_some_iff.mp h
    have htrim : jsTrim given = text := Option.some.inj htext
    refine normalizeTrimmedValue_of_trimmed ⟨by simpa using hne, ?_⟩
    rw [← htrim]
    exact jsTrim_jsTrim given

end Bind

/-! ## The redemption at the site -/

/-- The redemption is in the context of the bind: the installation, the request and the nonce are
the same but for white space at the ends. -/
structure SameContext (request : BindRoute.BindRequest) (redemption : RedeemInput) : Prop where
  installationId : normalizeTrimmedValue redemption.installationId =
    normalizeTrimmedValue (asString (BindRoute.bodyMember request.body "installationId"))
  requestId : normalizeTrimmedValue redemption.requestId =
    normalizeTrimmedValue request.requestIdHeader
  bridgeNonce : normalizeTrimmedValue redemption.bridgeNonce =
    normalizeTrimmedValue request.bridgeNonceHeader

/-- The body that a redemption posts. -/
def postedBody (redemption : RedeemInput) (code : String) : RedeemBody :=
  ⟨code, normalizeTrimmedValue redemption.installationId, normalizeTrimmedValue redemption.requestId,
    normalizeTrimmedValue redemption.bridgeNonce⟩

/-- What the redeem route reads of a redemption. -/
def postedInput (redemption : RedeemInput) (code origin : String) (nowMs : ℤ) :
    RedeemBindFallbackCodeInput :=
  redeemInput (some origin) (some (bodyJson (postedBody redemption code))) nowMs

/-- The redeem route reads what the extension has posted. -/
theorem redeemInput_bodyJson (origin : Option String) (body : RedeemBody) (nowMs : ℤ) :
    redeemInput origin (some (bodyJson body)) nowMs =
      ⟨some body.code, body.installationId, body.requestId, body.bridgeNonce, origin, nowMs⟩ := by
  obtain ⟨code, installationId, requestId, bridgeNonce⟩ := body
  cases installationId with
  | none | some installationId =>
    cases requestId with
    | none | some requestId =>
      cases bridgeNonce with
      | none | some bridgeNonce => rfl

variable {input : IssueBindFallbackCodeInput} {redemption : RedeemInput}

/-- The context of a bind survives the way through page, route, store and extension. -/
theorem matchesContext_of_same {site : Site} {request : BindRoute.BindRequest} {bind : CheckedBind}
    {data : Json} {issuedMs nowMs : ℤ} {origin code : String} (horigins : LawfulOrigins site.env)
    (hcheck : checkBind site.env request = .ok bind)
    (hinput : fallbackInput site bind data issuedMs = some input)
    (hcontext : SameContext request redemption)
    (horigin : normalizeBridgeOrigin site.env (some origin) =
      normalizeBridgeOrigin site.env request.targetOriginHeader) :
    MatchesContext site.env (postedInput redemption code origin nowMs)
      (issuedRecord site.env code input) := by
  obtain ⟨hinst, hreq, hnonce, htarget⟩ := checkBind_ok hcheck
  obtain ⟨-, hid, -, ⟨requestId, hreqId, hreqId'⟩, ⟨bridgeNonce, hbridgeNonce, hbridgeNonce'⟩,
    ⟨targetOrigin, htargetOrigin, htargetOrigin'⟩⟩ := fallbackInput_eq hinput
  obtain ⟨hread, hself⟩ := normalizeToken_ok (hreq.symm.trans hreqId)
  obtain ⟨hreadNonce, hselfNonce⟩ := normalizeToken_ok (hnonce.symm.trans hbridgeNonce)
  have hreadOrigin := htarget.symm.trans htargetOrigin
  have hselfOrigin := normalizeBridgeOrigin_self horigins hreadOrigin
  have hselfId := normalizeTrimmedValue_self hinst
  unfold MatchesContext postedInput
  rw [redeemInput_bodyJson]
  have hheader : normalizeHeaderValue = normalizeTrimmedValue := rfl
  simp only [postedBody, hcontext.installationId, hcontext.requestId, hcontext.bridgeNonce,
    hinst, hread, hreadNonce, hheader, hselfId, horigin, hreadOrigin]
  unfold contextMismatch issuedRecord requestDiffers
  simp [hid, hreqId', hbridgeNonce', htargetOrigin', hheader, hself, hselfNonce, hselfOrigin]

/-! ## Codes -/

theorem isJsSpace_digit (n : ℕ) : isJsSpace (digit n) = false := by
  have hmem : digit n ∈ '_' :: alphabet := by grind [digit]
  have hall : ∀ c ∈ '_' :: alphabet, isJsSpace c = false :=
    List.all_iff_forall_prop.mp (by decide)
  exact hall _ hmem

/-- A code has no white space in it. -/
theorem normalizeHeaderValue_createBindCode (randomBytes : List UInt8) :
    normalizeHeaderValue (some (createBindCode randomBytes)) = some (createBindCode randomBytes) := by
  have hchars : (createBindCode randomBytes).toList =
      "bindc_".toList ++ Base64Url.encode randomBytes := String.toList_ofList
  have hspace : ∀ c ∈ (createBindCode randomBytes).toList, isJsSpace c = false := by
    intro c hc
    rw [hchars] at hc
    rcases List.mem_append.mp hc with hstart | hencoded
    · have hfront : ∀ c ∈ "bindc_".toList, isJsSpace c = false :=
        List.all_iff_forall_prop.mp (by decide)
      exact hfront c hstart
    · obtain ⟨n, -, rfl⟩ := List.mem_map.mp hencoded
      exact isJsSpace_digit n
  have hne : createBindCode randomBytes ≠ "" := by
    intro hempty
    rw [hempty] at hchars
    cases hchars
  exact normalizeTrimmedValue_of_trimmed (isTrimmed_of_no_space hne hspace)

/-! ## The extension -/

/-- What `PlatformRuntimeClient.redeemBindFallbackCode` is called with. -/
structure RuntimeRedeemInput where
  fallbackCode : String
  requestId : Option String
  bridgeNonce : Option String
  redeemPath : Option String
  installationId : Option String

/-- A call of the extension that can redeem a code. -/
inductive ExtensionCall where
  | redeem (siteUrl : String) (input : RuntimeRedeemInput)
  | connect (input : ConnectToPlatformInput)
      (openBridge : ConnectUrl → ActiveRequest → Except BridgeError BridgeResponse)

section Extension

variable (around : Surroundings)

/-- `input.installationId ?? getOrCreateInstallationId()` -/
def redeemingInstallation (input : RuntimeRedeemInput) (s : PlatformState) :
    Except BridgeError String × PlatformState :=
  match input.installationId with
  | some installationId => (.ok installationId, s)
  | none => Bridge.getOrCreateInstallationId around.installationId s

/-- An empty text is as none. -/
def ifTruthy (value : Option String) : Option String := value.filter (· ≠ "")

def runtimeRedemption (siteUrl : String) (input : RuntimeRedeemInput) (installationId : String) :
    RedeemInput where
  siteUrl := siteUrl
  fallbackCode := input.fallbackCode
  installationId := some installationId
  requestId := ifTruthy input.requestId
  bridgeNonce := ifTruthy input.bridgeNonce
  redeemPath := (ifTruthy input.redeemPath).map Json.string

/-- `saveBindResult`, of a result that is then returned. -/
def savedResult (result : Except BridgeError Json) (s : PlatformState) :
    Except BridgeError Json × PlatformState :=
  match result with
  | .error e => (.error e, s)
  | .ok result =>
    match saveBindResult around.now result s with
    | (.error e, s) => (.error e, s)
    | (.ok _, s) => (.ok result, s)

/-- `PlatformRuntimeClient.redeemBindFallbackCode` -/
def runtimeRedeemBindFallbackCode (siteUrl : String) (input : RuntimeRedeemInput)
    (s : PlatformState) : Except BridgeError Json × PlatformState :=
  match redeemingInstallation around input s with
  | (.error e, s) => (.error e, s)
  | (.ok installationId, s) =>
    savedResult around
      (Bridge.redeemBindFallbackCode around (runtimeRedemption siteUrl input installationId)) s

def ExtensionCall.run (s : PlatformState) : ExtensionCall → Except BridgeError Json × PlatformState
  | .redeem siteUrl input => runtimeRedeemBindFallbackCode around siteUrl input s
  | .connect input openBridge => connectToPlatform around input openBridge s

/-- The call comes to a redemption: it is called for one, or the bridge answers with an envelope
that has a code, and with the ids of the request. -/
inductive Redeems (s : PlatformState) : ExtensionCall → RedeemInput → Prop where
  | redeem {siteUrl : String} {input : RuntimeRedeemInput} {installationId : String}
      {s' : PlatformState} (hid : redeemingInstallation around input s = (.ok installationId, s')) :
      Redeems s (.redeem siteUrl input) (runtimeRedemption siteUrl input installationId)
  | connect {input : ConnectToPlatformInput}
      {openBridge : ConnectUrl → ActiveRequest → Except BridgeError BridgeResponse}
      {installationId : String} {s' : PlatformState} {active : ActiveRequest} {url : ConnectUrl}
      {response : BridgeResponse} {envelope : BridgeEnvelope} {code : String}
      {redeemPath : Option Json}
      (hid : Bridge.getOrCreateInstallationId around.installationId s = (.ok installationId, s'))
      (hactive : activeRequest input = .ok active)
      (hurl : buildExtensionConnectUrl around.web (connectUrlInput input) active installationId =
        .ok url)
      (hresponse : openBridge url active = .ok response)
      (hdirect : normalizeBindResult response = none)
      (henvelope : normalizeBridgeEnvelope around.web response = some envelope)
      (hbody : envelope.body = .bindFallbackCode code redeemPath)
      (hids : checkIds envelope active = .ok none) :
      Redeems s (.connect input openBridge)
        { siteUrl := input.siteUrl
          fallbackCode := code
          installationId := some installationId
          requestId := some active.requestId
          bridgeNonce := some active.bridgeNonce
          redeemPath := redeemPath }

variable {around}

/-- Either call saves what the redemption gives. -/
theorem Redeems.run_eq {s : PlatformState} {call : ExtensionCall} {redemption : RedeemInput}
    (h : Redeems around s call redemption) :
    ∃ s', call.run around s =
      savedResult around (Bridge.redeemBindFallbackCode around redemption) s' := by
  cases h with
  | @redeem siteUrl input installationId s' hid =>
    refine ⟨s', ?_⟩
    show runtimeRedeemBindFallbackCode around _ _ s = _
    unfold runtimeRedeemBindFallbackCode
    rw [hid]
  | @connect input openBridge installationId s' active url response envelope code redeemPath hid
      hact hurl hresp hdirect henv hbody hids =>
      refine ⟨s', ?_⟩
      show connectToPlatform around _ _ s = _
      unfold connectToPlatform
      rw [hid]
      rw [hact]
      simp only [bind, Except.bind, hurl, hresp, acceptedResult, hdirect, henv, hbody,
        redeemEnvelope, hids]
      rfl

end Extension

/-! ## The answer of the site -/

/-- The base of the URL that a redemption posts to. -/
def redeemBase (redemption : RedeemInput) : String := trimTrailingSlash redemption.siteUrl ++ "/"

section Answer

variable {around : Surroundings} {redemption : RedeemInput} {code : String} {given : Option String}
  {url : Url} {response : HttpResponse}
  (hcode : normalizeTrimmedValue (some redemption.fallbackCode) = some code)
  (hpath : normalizeString redemption.redeemPath = .ok given)

include hcode hpath

theorem redeem_of_unresolved
    (hurl : around.web.resolveUrl (given.getD "/api/extension/bind/redeem") (redeemBase redemption) =
      none) : Bridge.redeemBindFallbackCode around redemption = .error .typeError := by
  unfold Bridge.redeemBindFallbackCode
  rw [hcode]
  simp only [hpath, bind, Except.bind]
  unfold redeemBase at hurl
  rw [hurl]
  rfl

variable (hurl : around.web.resolveUrl (given.getD "/api/extension/bind/redeem")
    (redeemBase redemption) = some url)
  (hfetch : around.fetcher url.href (postedBody redemption code) = .ok response)

include hurl hfetch

/-- An answer that is not ok is an error of the bridge. -/
theorem redeem_of_failed (hfailed : response.ok = false) :
    ∃ e, Bridge.redeemBindFallbackCode around redemption = .error e := by
  unfold redeemBase at hurl
  unfold postedBody at hfetch
  unfold Bridge.redeemBindFallbackCode
  rw [hcode]
  simp only [hpath, bind, Except.bind]
  rw [hurl]
  dsimp only
  rw [hfetch]
  dsimp only
  rw [hfailed]
  cases memberOf (response.json.getD .null) "data" with
  | none | some data => exact ⟨_, rfl⟩

/-- The data of an answer is the result. -/
theorem redeem_of_data {data redeemedAt : Json} {status : ℕ} (htruthy : isTruthy (some data) = true)
    (hdata : response = ⟨true, status, some (.object [("ok", .bool true), ("data", data),
      ("redeemedAt", redeemedAt)])⟩) :
    Bridge.redeemBindFallbackCode around redemption = .ok data := by
  unfold redeemBase at hurl
  unfold postedBody at hfetch
  unfold Bridge.redeemBindFallbackCode
  rw [hcode]
  simp only [hpath, bind, Except.bind]
  rw [hurl]
  dsimp only
  rw [hfetch, hdata]
  show (if true && isTruthy (some (.bool true)) && isTruthy (some data) then _ else _) = _
  rw [htruthy]
  rfl

end Answer

/-! ## First redemptions -/

/-- Call number `i` of the store is that of a bind, which the route answers with the code. -/
def AnsweredAt (site : Site) (calls : List Call) (i : ℕ) (request : BindRoute.BindRequest) (data : Json)
    (issued : ExtensionBindFallbackCode) : Prop :=
  ∃ randomBytes upstream nowMs fault bind input status,
    calls[i]? = some (.issue (createBindCode randomBytes) input fault) ∧
      checkBind site.env request = .ok bind ∧ fallbackInput site bind data nowMs = some input ∧
      (bindPost site request upstream (createBindCode randomBytes) nowMs fault
        (stateAt site.env calls i)).1 = .bound data (some issued) status

/-- A bind was answered with a code, no call to Redis fails, and the code has neither been
redeemed nor expired when the extension redeems it, from the target origin and in the context of
the bind. -/
structure FirstRedemption (site : Site) (around : Surroundings) (calls : List Call)
    (request : BindRoute.BindRequest) (data : Json) (issued : ExtensionBindFallbackCode) (origin : String)
    (nowMs : ℤ) (redemption : RedeemInput) : Prop where
  answered : ∃ i, AnsweredAt site calls i request data issued
  works : NoCallFails calls
  distinct : DistinctCodes calls
  first : ∀ k, ¬ RedeemedAt site.env calls k issued.code
  later : ∀ call ∈ calls, call.nowMs ≤ nowMs
  live : nowMs < issued.expiresAt
  fromTarget : normalizeBridgeOrigin site.env (some origin) =
    normalizeBridgeOrigin site.env request.targetOriginHeader
  code : redemption.fallbackCode = issued.code
  context : SameContext request redemption
  fetched : ∃ elsewhere, around.fetcher =
    answer site elsewhere origin nowMs .through (stateAt site.env calls calls.length)

/-- A path of letters and single slashes, which `URL` keeps as it is. -/
def isPlainPath (path : String) : Bool :=
  match path.toList with
  | '/' :: c :: rest => c ≠ '/' && (c :: rest).all fun c => c.isAlpha || c = '/'
  | _ => false

/-- What is documented of `URL` and `JSON`: a plain path is the path of its URL on the site, and
what was stored is read back. The given redeem path is a path of the site. -/
structure OnSite (site : Site) (web : WebFunctions) (data : Json) (redemption : RedeemInput) :
    Prop where
  origins : LawfulOrigins site.env
  jsonOf_textOf : site.jsonOf (site.textOf data) = some data
  pathOf_plain : ∀ path url, isPlainPath path = true →
    web.resolveUrl path (redeemBase redemption) = some url → site.pathOf url.href = some path
  pathOf_given : ∀ path url, normalizeString redemption.redeemPath = .ok (some path) →
    web.resolveUrl path (redeemBase redemption) = some url → (site.pathOf url.href).isSome = true

/-- The redemption is given a path, and the path leads to the redeem route. -/
def LeadsToRoute (site : Site) (web : WebFunctions) (redemption : RedeemInput) : Prop :=
  ∃ path url, normalizeString redemption.redeemPath = .ok (some path) ∧
    web.resolveUrl path (redeemBase redemption) = some url ∧
    site.pathOf url.href = some extensionBindFallbackRedeemPath

/-- The path that comes with a code leads to the redeem route. -/
theorem leadsToRoute_of_issued {site : Site} {web : WebFunctions} {data : Json} {url : Url}
    (hsite : OnSite site web data redemption)
    (hpath : normalizeString redemption.redeemPath = .ok (some extensionBindFallbackRedeemPath))
    (hurl : web.resolveUrl extensionBindFallbackRedeemPath (redeemBase redemption) = some url) :
    LeadsToRoute site web redemption :=
  ⟨_, url, hpath, hurl, hsite.pathOf_plain _ url (by decide) hurl⟩

theorem issue_ok {env : Env} {code : String}
    {fault : Fault Unit} {s : Stores} {issued : ExtensionBindFallbackCode}
    (h : (issueBindFallbackCode env code input fault s).1 = .ok issued) :
    issued = ⟨code, (issuedRecord env code input).expiresAtMs, clampTtlSeconds input.ttlSeconds,
      extensionBindFallbackRedeemPath⟩ := by
  unfold issueBindFallbackCode at h
  dsimp only at h
  split at h
  · exact (Except.ok.inj h).symm
  split at h
  · cases h
  · exact (Except.ok.inj h).symm

section First

variable {site : Site} {around : Surroundings} {calls : List Call} {request : BindRoute.BindRequest}
  {data : Json} {issued : ExtensionBindFallbackCode} {origin : String} {nowMs : ℤ}
  {redemption : RedeemInput}

/-- The redeem route gives the data unless the code was evicted. -/
theorem posted_ok_iff (horigins : LawfulOrigins site.env)
    (h : FirstRedemption site around calls request data issued origin nowMs redemption)
    (result : String) (redeemedAt : ℤ) :
    (BindCodes.redeemBindFallbackCode site.env (postedInput redemption issued.code origin nowMs)
        .through (stateAt site.env calls calls.length)).1 = .ok result redeemedAt ↔
      (result = site.textOf data ∧ redeemedAt = nowMs) ∧
        ∀ k, ¬ EvictedAt site.env calls k issued.code := by
  obtain ⟨i, randomBytes, upstream, issuedMs, fault, bind, input, status, hcall, hcheck, hinput,
    hbound⟩ := h.answered
  obtain ⟨bind', input', hcheck', hinput', hissue⟩ := bindPost_bound hbound
  obtain rfl := Except.ok.inj (hcheck.symm.trans hcheck')
  obtain rfl := Option.some.inj (hinput.symm.trans hinput')
  have hissued := issue_ok hissue
  have hcode : issued.code = createBindCode randomBytes := by
    rw [hissued]
  have hexpires : issued.expiresAt = (issuedRecord site.env issued.code input).expiresAtMs := by
    rw [hissued]
  rw [← hcode] at hcall hissue
  have hmem := List.mem_of_getElem? hcall
  have hnow : 0 ≤ nowMs := (h.works _ hmem).2.trans (h.later _ hmem)
  have hres : (issuedRecord site.env issued.code input).result = site.textOf data :=
    (fallbackInput_eq hinput).1
  have hmatch : MatchesContext site.env (postedInput redemption issued.code origin nowMs)
      (issuedRecord site.env issued.code input) :=
    matchesContext_of_same horigins hcheck hinput h.context h.fromTarget
  have hnorm : normalizeHeaderValue (postedInput redemption issued.code origin nowMs).code =
      some issued.code := by
    rw [hcode]
    exact normalizeHeaderValue_createBindCode randomBytes
  have hlive : nowMs < (issuedRecord site.env issued.code input).expiresAtMs := by
    rw [← hexpires]
    exact h.live
  have hiff := redeem_ok_iff h.works h.distinct ⟨input, fault, issued, hcall, hissue, rfl⟩ h.first
    h.later hnorm hmatch hnow hlive result redeemedAt
  rw [hres] at hiff
  exact hiff

/-- The code that the extension redeems is the one that was issued. -/
theorem fallbackCode_trimmed
    (h : FirstRedemption site around calls request data issued origin nowMs redemption) :
    normalizeTrimmedValue (some redemption.fallbackCode) = some issued.code := by
  obtain ⟨i, randomBytes, upstream, issuedMs, fault, bind, input, status, -, -, -, hbound⟩ :=
    h.answered
  obtain ⟨_, _, -, -, hissue⟩ := bindPost_bound hbound
  have hcode : issued.code = createBindCode randomBytes := by
    rw [issue_ok hissue]
  rw [h.code, hcode]
  exact normalizeHeaderValue_createBindCode randomBytes

variable {elsewhere : String → RedeemBody → Except BridgeError HttpResponse}

variable (redemption) in
theorem fetched_at_route (code : String) {url : Url} {s : Stores}
    (hfetched : around.fetcher = answer site elsewhere origin nowMs .through s)
    (hpathOf : site.pathOf url.href = some extensionBindFallbackRedeemPath) :
    around.fetcher url.href (postedBody redemption code) =
      .ok (redeemPost site (some origin) (some (bodyJson (postedBody redemption code))) nowMs
        .through s).1 := by
  rw [hfetched]
  unfold answer
  rw [hpathOf]
  exact if_pos rfl

variable (redemption) in
theorem fetched_elsewhere (code : String) {path : String} {url : Url} {s : Stores}
    (hfetched : around.fetcher = answer site elsewhere origin nowMs .through s)
    (hpathOf : site.pathOf url.href = some path) (hne : path ≠ extensionBindFallbackRedeemPath) :
    around.fetcher url.href (postedBody redemption code) = .ok notFound := by
  rw [hfetched]
  unfold answer
  rw [hpathOf]
  exact if_neg hne

section

variable (h : FirstRedemption site around calls request data issued origin nowMs redemption)
include h

/-- At the redeem route the redemption gives the data unless the code was evicted. -/
theorem redeemed_at_route_iff
    (hsite : OnSite site around.web data redemption) (htruthy : isTruthy (some data) = true)
    {given : Option String} {url : Url} (hpath : normalizeString redemption.redeemPath = .ok given)
    (hurl : around.web.resolveUrl (given.getD "/api/extension/bind/redeem") (redeemBase redemption) =
      some url) (hpathOf : site.pathOf url.href = some extensionBindFallbackRedeemPath) :
    Bridge.redeemBindFallbackCode around redemption = .ok data ↔
      ∀ k, ¬ EvictedAt site.env calls k issued.code := by
  obtain ⟨elsewhere, hfetched⟩ := h.fetched
  have hcode := fallbackCode_trimmed h
  have hfetch := fetched_at_route redemption issued.code hfetched hpathOf
  have hposted := posted_ok_iff hsite.origins h
  unfold postedInput at hposted
  cases hres : (BindCodes.redeemBindFallbackCode site.env (redeemInput (some origin)
    (some (bodyJson (postedBody redemption issued.code))) nowMs) .through
    (stateAt site.env calls calls.length)).1 with
  | ok result redeemedAt =>
    obtain ⟨⟨htext, -⟩, hevicted⟩ := (hposted result redeemedAt).mp hres
    have hresp : ∃ at', (redeemPost site (some origin)
        (some (bodyJson (postedBody redemption issued.code))) nowMs .through
        (stateAt site.env calls calls.length)).1 =
        ⟨true, 200, some (.object [("ok", .bool true), ("data", data), ("redeemedAt", at')])⟩ := by
      unfold redeemPost
      split
      · next result' at' s hboth =>
          rw [hboth] at hres
          cases hres
          rw [htext, hsite.jsonOf_textOf]
          exact ⟨_, rfl⟩
      · grind
    obtain ⟨at', hresp⟩ := hresp
    have hok := redeem_of_data hcode hpath hurl hfetch htruthy hresp
    exact ⟨fun _ => hevicted, fun _ => hok⟩
  | failed failure message =>
    have hresp : (redeemPost site (some origin)
        (some (bodyJson (postedBody redemption issued.code))) nowMs .through
        (stateAt site.env calls calls.length)).1.ok = false := by grind [redeemPost]
    obtain ⟨e, herror⟩ := redeem_of_failed hcode hpath hurl hfetch hresp
    constructor
    · intro hok
      rw [herror] at hok
      cases hok
    · simp_all

/-- A redemption gives the data exactly when it is given a path that leads to the redeem route
and the code was not evicted. -/
theorem redemption_ok_iff
    (hsite : OnSite site around.web data redemption) (htruthy : isTruthy (some data) = true) :
    Bridge.redeemBindFallbackCode around redemption = .ok data ↔
      LeadsToRoute site around.web redemption ∧ ∀ k, ¬ EvictedAt site.env calls k issued.code := by
  have hcode := fallbackCode_trimmed h
  obtain ⟨elsewhere, hfetched⟩ := h.fetched
  constructor
  · intro hok
    cases hpath : normalizeString redemption.redeemPath with
    | error e => simp_all [bind, Except.bind, Bridge.redeemBindFallbackCode]
    | ok given =>
      cases hurl : around.web.resolveUrl (given.getD "/api/extension/bind/redeem")
          (redeemBase redemption) with
      | none => grind [redeem_of_unresolved]
      | some url =>
        have hserved : ∃ path, site.pathOf url.href = some path ∧
            (given = none → path = "/api/extension/bind/redeem") := by
          cases given with
          | none =>
            -- without a path the extension posts to where the route used to be
            exact ⟨_, hsite.pathOf_plain _ url (by decide) hurl, fun _ => rfl⟩
          | some path =>
            obtain ⟨served, hserved⟩ :=
              Option.isSome_iff_exists.mp (hsite.pathOf_given path url hpath hurl)
            exact ⟨served, hserved, nofun⟩
        obtain ⟨path, hpathOf, hdef⟩ := hserved
        by_cases hroute : path = extensionBindFallbackRedeemPath
        · subst hroute
          have hevicted := (redeemed_at_route_iff h hsite htruthy hpath hurl hpathOf).mp hok
          cases given with
          | none => exact absurd (hdef rfl) (by decide)
          | some path => exact ⟨⟨path, url, hpath, hurl, hpathOf⟩, hevicted⟩
        have hfetch := fetched_elsewhere redemption issued.code hfetched hpathOf hroute
        obtain ⟨e, herror⟩ := redeem_of_failed hcode hpath hurl hfetch rfl
        rw [herror] at hok
        cases hok
  · rintro ⟨⟨path, url, hpath, hurl, hpathOf⟩, hevicted⟩
    exact (redeemed_at_route_iff h hsite htruthy hpath hurl hpathOf).mpr hevicted

end

/-- What is saved of a bind result. -/
def Saved (result : Json) (s : PlatformState) : Prop :=
  s.installationSession = some (memberOf result "session") ∧
    s.bootstrapCache = memberOf result "bootstrap"

theorem savedResult_of_bindResult {members : Bridge.Members} (hbind : isBindResult members = true)
    (s : PlatformState) :
    (savedResult around (.ok (.object members)) s).1 = .ok (.object members) ∧
      Saved (.object members) (savedResult around (.ok (.object members)) s).2 := by
  unfold isBindResult at hbind
  simp only [Bool.and_eq_true] at hbind
  obtain ⟨bootstrap, hbootstrap⟩ := Option.isSome_iff_exists.mp hbind.2
  have hmember : memberOf (.object members) "bootstrap" = some (.object bootstrap) := by
    show members.lookup "bootstrap" = some (.object bootstrap)
    unfold asRecord at hbootstrap
    split at hbootstrap
    · grind
    · cases hbootstrap
  have hsave : ∃ fetchedAt, saveBindResult around.now (.object members) s =
      (.ok (), { s with
        installationSession := some (memberOf (.object members) "session")
        bootstrapCache := some (.object bootstrap)
        bootstrapFetchedAt := some fetchedAt }) := by
    unfold saveBindResult
    rw [hmember]
    exact ⟨_, rfl⟩
  obtain ⟨fetchedAt, hsave⟩ := hsave
  unfold savedResult Saved
  dsimp only
  rw [hsave, hmember]
  exact ⟨rfl, rfl, rfl⟩

theorem ok_of_savedResult {result : Except BridgeError Json} {s : PlatformState}
    (h : (savedResult around result s).1 = .ok data) : result = .ok data := by
  cases result with
  | error e => cases h
  | ok result => grind [savedResult]

/-- A call that comes to the first redemption of a code resolves with the bind result and saves
it exactly when a redeem path is given that leads to the redeem route and the store has not
evicted the code. -/
theorem redeems_iff {members : Bridge.Members} (hbind : isBindResult members = true)
    (h : FirstRedemption site around calls request (.object members) issued origin nowMs redemption)
    (hsite : OnSite site around.web (.object members) redemption) (call : ExtensionCall)
    (s : PlatformState) (hredeems : Redeems around s call redemption) :
    ((call.run around s).1 = .ok (.object members) ∧
        Saved (.object members) (call.run around s).2) ↔
      LeadsToRoute site around.web redemption ∧ ∀ k, ¬ EvictedAt site.env calls k issued.code := by
  obtain ⟨s', hrun⟩ := hredeems.run_eq
  have hiff := redemption_ok_iff h hsite rfl
  rw [hrun, ← hiff]
  constructor
  · rintro ⟨hok, -⟩
    exact ok_of_savedResult hok
  · grind [savedResult_of_bindResult]

end First

/-! ## A bind in production -/

/-- A site with a Redis. -/
def redeemEnv : Env where
  REDIS_URL := some "redis://localhost:6379"
  QUIZMIND_EXTENSION_BIND_CODE_STORE_MODE := none
  NODE_ENV := some "production"
  parseUrl value :=
    if value = "chrome-extension://abcd" then some ⟨"chrome-extension:", "null", "abcd"⟩ else none

def boundMembers : Bridge.Members :=
  [("installation", .object []), ("session", .object []), ("bootstrap", .object []),
    ("platformApiBaseUrl", .string "https://api.test")]

def boundText : String :=
  "\x7b\"installation\":\x7b\x7d,\"session\":\x7b\x7d,\"bootstrap\":\x7b\x7d,\"platformApiBaseUrl\":\"https://api.test\"\x7d"

def redeemSite : Site where
  env := redeemEnv
  apiUrl := "https://api.test"
  textOf _ := boundText
  jsonOf text := if text = boundText then some (.object boundMembers) else none
  pathOf href :=
    if "https://site.test".toList.isPrefixOf href.toList then
      some (String.ofList (href.toList.drop 17))
    else none

def redeemWeb : WebFunctions :=
  { someWeb with
    resolveUrl := fun path base =>
      if base = "https://site.test/" then
        some ⟨"https:", "https://site.test", "site.test", "https://site.test" ++ path, []⟩
      else none }

def bindRequest : BindRoute.BindRequest where
  accessToken := some "token"
  body := some (.object [("installationId", .string "inst_demo"),
    ("environment", .string "production"),
    ("handshake", .object [("extensionVersion", .string "1.0.0"), ("schemaVersion", .string "1"),
      ("capabilities", .array [.string "quiz"]), ("browser", .string "chrome")])])
  requestIdHeader := some "bind_0001"
  bridgeNonceHeader := some "nonce_0001"
  targetOriginHeader := some "chrome-extension://abcd"
  bridgeModeHeader := some "fallback_code"

def bindUpstream : Upstream :=
  .answered true 201 (some (.object [("ok", .bool true), ("data", .object [
    ("installation", .object []), ("session", .object []), ("bootstrap", .object [])])]))

def bindCode : String := createBindCode (List.replicate 18 0)

def bindInput : IssueBindFallbackCodeInput where
  result := boundText
  installationId := "inst_demo"
  requestId := some "bind_0001"
  bridgeNonce := some "nonce_0001"
  targetOrigin := some "chrome-extension://abcd"
  ttlSeconds := none
  nowMs := 1000

def bindCalls : List Call := [.issue bindCode bindInput .through]

def bindIssued : ExtensionBindFallbackCode :=
  ⟨bindCode, 181000, 180, extensionBindFallbackRedeemPath⟩

/-- The extension redeems the code a second later. -/
def redeemAround : Surroundings where
  web := redeemWeb
  fetcher := answer redeemSite (fun _ _ => .error .typeError) "chrome-extension://abcd" 2000 .through
    (stateAt redeemEnv bindCalls 1)
  now := "1970-01-01T00:00:02.000Z"
  installationId := "inst_demo"

def redeemState : PlatformState := ⟨some "inst_demo", none, none, none⟩

def redeemCall (redeemPath : Option String) : ExtensionCall :=
  .redeem "https://site.test"
    { fallbackCode := bindCode
      requestId := some "bind_0001"
      bridgeNonce := some "nonce_0001"
      redeemPath := redeemPath
      installationId := none }

def redemptionOf (redeemPath : Option String) : RedeemInput where
  siteUrl := "https://site.test"
  fallbackCode := bindCode
  installationId := some "inst_demo"
  requestId := some "bind_0001"
  bridgeNonce := some "nonce_0001"
  redeemPath := (ifTruthy redeemPath).map Json.string

theorem bind_answered :
    AnsweredAt redeemSite bindCalls 0 bindRequest (.object boundMembers) bindIssued :=
  ⟨List.replicate 18 0, bindUpstream, 1000, .through, _, bindInput, 201, rfl, rfl, rfl, rfl⟩

variable (redeemPath : Option String)

theorem firstRedemption_of :
    FirstRedemption redeemSite redeemAround bindCalls bindRequest (.object boundMembers) bindIssued
      "chrome-extension://abcd" 2000 (redemptionOf redeemPath) where
  answered := ⟨0, bind_answered⟩
  works := by
    intro call hcall
    obtain rfl := List.mem_singleton.mp hcall
    exact ⟨rfl, by decide⟩
  distinct := distinctCodes_issueThenRedeem _ []
  first := by
    rintro k ⟨input, fault, result, redeemedAt, hcall, -⟩
    cases k with
    | zero | succ k => cases hcall
  later := by
    intro call hcall
    obtain rfl := List.mem_singleton.mp hcall
    decide
  live := by decide
  fromTarget := rfl
  code := rfl
  context := ⟨rfl, rfl, rfl⟩
  fetched := ⟨_, rfl⟩

/-- The path of a URL that is built on the site. -/
theorem pathOf_redeemSite {path base : String} {url : Url}
    (h : redeemWeb.resolveUrl path base = some url) : redeemSite.pathOf url.href = some path := by
  have hhref : url.href = "https://site.test" ++ path := by grind [redeemWeb]
  have hlist : url.href.toList = "https://site.test".toList ++ path.toList := by
    rw [hhref, String.toList_append]
  have hstart : "https://site.test".toList.isPrefixOf url.href.toList = true := by grind
  have hrest : url.href.toList.drop 17 = path.toList := by
    rw [hlist]
    exact List.drop_left' (by decide)
  show (if "https://site.test".toList.isPrefixOf url.href.toList then
    some (String.ofList (url.href.toList.drop 17)) else none) = some path
  rw [if_pos hstart, hrest, String.ofList_toList]

theorem lawfulOrigins_redeemEnv : LawfulOrigins redeemEnv where
  parse_empty := rfl
  parse_origin := by simp [redeemEnv]
  parse_extension := by
    intro value parsed hparse _
    unfold redeemEnv at hparse
    dsimp only at hparse
    split at hparse
    · rw [← Option.some.inj hparse]
      exact ⟨by decide, ⟨"chrome-extension:", "null", "abcd"⟩, rfl, rfl, rfl⟩
    · cases hparse

theorem onSite_of :
    OnSite redeemSite redeemWeb (.object boundMembers) (redemptionOf redeemPath) where
  origins := lawfulOrigins_redeemEnv
  jsonOf_textOf := rfl
  pathOf_plain _ _ _ hurl := pathOf_redeemSite hurl
  pathOf_given _ _ _ hurl := by
    rw [pathOf_redeemSite hurl]
    rfl

theorem redeems_redeemCall :
    Redeems redeemAround redeemState (redeemCall redeemPath) (redemptionOf redeemPath) := by
  have hid : redeemingInstallation redeemAround ⟨bindCode, some "bind_0001", some "nonce_0001",
      redeemPath, none⟩ redeemState = (.ok "inst_demo", redeemState) := rfl
  exact Redeems.redeem hid

theorem not_evicted_bindCode (k : ℕ) : ¬ EvictedAt redeemEnv bindCalls k bindCode := by
  rintro ⟨issued, input, fault, hcall, hstored, hgone⟩
  cases k with
  | zero =>
    exact hgone hstored
  | succ k => cases hcall

/-- With the redeem path that the route gives, the code is redeemed. -/
theorem redeemed_with_path :
    ((redeemCall (some "/bff/extension/bind/redeem")).run redeemAround redeemState).1 =
        .ok (.object boundMembers) ∧
      Saved (.object boundMembers)
        ((redeemCall (some "/bff/extension/bind/redeem")).run redeemAround redeemState).2 :=
  (redeems_iff rfl (firstRedemption_of _) (onSite_of _) _ redeemState (redeems_redeemCall _)).mpr
    ⟨leadsToRoute_of_issued (onSite_of _) rfl rfl, not_evicted_bindCode⟩

/-- Without a redeem path the code is not redeemed. -/
theorem not_redeemed_without_path :
    FirstRedemption redeemSite redeemAround bindCalls bindRequest (.object boundMembers) bindIssued
        "chrome-extension://abcd" 2000 (redemptionOf none) ∧
      OnSite redeemSite redeemWeb (.object boundMembers) (redemptionOf none) ∧
      Redeems redeemAround redeemState (redeemCall none) (redemptionOf none) ∧
      ((redeemCall none).run redeemAround redeemState).1 ≠ .ok (.object boundMembers) := by
  refine ⟨firstRedemption_of none, onSite_of none, redeems_redeemCall none, ?_⟩
  intro hok
  obtain ⟨s', hrun⟩ := (redeems_redeemCall none).run_eq
  rw [hrun] at hok
  obtain ⟨⟨path, url, hpath, -⟩, -⟩ :=
    (redemption_ok_iff (firstRedemption_of none) (onSite_of none) rfl).mp (ok_of_savedResult hok)
  cases hpath

end QuizMind.CodeRedemption

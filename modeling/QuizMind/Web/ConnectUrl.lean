import QuizMind.Web.Capabilities

/-! # From the extension to the connect page

The URL that the extension builds, read by the page. The ids and the target origin are read as
they were sent. The bind request is read if and only if every capability can stand in a list,
and the bridge is free of issues if and only if the relay URL, when there is one, has the
protocol of an extension: the extension takes any relay URL of the target origin.
-/

namespace QuizMind.ConnectPage

open Bridge Client Text

/-- What is documented of `URL`: a URL is read from its own text, an origin from its own, neither
text has white space at an end, and a path without a query gives no search parameters. -/
structure LawfulUrls (web : WebFunctions) : Prop where
  parse_empty : web.parseUrl "" = none
  parse_href : ∀ value url, web.parseUrl value = some url → web.parseUrl url.href = some url
  trim_href : ∀ value url, web.parseUrl value = some url → jsTrim url.href = url.href
  parse_origin : ∀ value url, web.parseUrl value = some url →
    url.protocol = "http:" ∨ url.protocol = "https:" →
      ∃ root, web.parseUrl url.origin = some root ∧ root.protocol = url.protocol ∧
        root.origin = url.origin
  trim_origin : ∀ value url, web.parseUrl value = some url →
    url.protocol = "http:" ∨ url.protocol = "https:" → jsTrim url.origin = url.origin
  parse_extension : ∀ value url, web.parseUrl value = some url →
    isExtensionProtocol url.protocol = true →
      ∃ root, web.parseUrl (url.protocol ++ "//" ++ url.host) = some root ∧
        root.protocol = url.protocol ∧ root.host = url.host
  trim_extension : ∀ value url, web.parseUrl value = some url →
    isExtensionProtocol url.protocol = true →
      jsTrim (url.protocol ++ "//" ++ url.host) = url.protocol ++ "//" ++ url.host
  searchParams_connect : ∀ siteUrl url,
    web.resolveUrl "/app/extension/connect" siteUrl = some url → url.searchParams = []

section Origins

variable {web : WebFunctions}

theorem isExtensionProtocol_iff (protocol : String) : isExtensionProtocol protocol = true ↔
      protocol = "chrome-extension:" ∨ protocol = "moz-extension:" := by
  exact decide_eq_true_iff

/-- The origin of a URL: the one that it has, or the one of an extension. -/
inductive OriginOf (url : Url) : String → Prop where
  | http (h : url.protocol = "http:" ∨ url.protocol = "https:") : OriginOf url url.origin
  | extension (h : isExtensionProtocol url.protocol = true) :
      OriginOf url (url.protocol ++ "//" ++ url.host)

theorem not_http_of_extension {protocol : String} (h : isExtensionProtocol protocol = true) :
    ¬ (protocol = "http:" ∨ protocol = "https:") := by
  rcases (isExtensionProtocol_iff protocol).mp h with rfl | rfl
  · decide
  · decide

theorem normalizeOrigin_ok_iff (value origin : String) : normalizeOrigin web value = .ok origin ↔
      ∃ url, web.parseUrl value = some url ∧ OriginOf url origin := by
  unfold normalizeOrigin newUrl
  cases hparse : web.parseUrl value with
  | none =>
    constructor
    · intro h
      cases h
    · rintro ⟨url, hurl, -⟩
      cases hurl
  | some url =>
    simp only [bind, Except.bind, pure, Except.pure]
    constructor
    · intro h
      refine ⟨url, rfl, ?_⟩
      split at h
      · rename_i hhttp
        cases h
        exact .http hhttp
      split at h
      · rename_i hext
        cases h
        exact .extension ((isExtensionProtocol_iff _).mpr hext)
      · cases h
    rintro ⟨parsed, hparsed, horigin⟩
    cases hparsed
    cases horigin with
    | http h => rw [if_pos h]
    | extension h =>
      rw [if_neg (not_http_of_extension h), if_pos ((isExtensionProtocol_iff _).mp h)]

variable {origin value : String}

/-- The page reads an origin by the same rule. -/
theorem normalizeTargetOrigin_of_origin {url : Url} (htrim : IsTrimmed value)
    (hparse : web.parseUrl value = some url) (horigin : OriginOf url origin) :
    normalizeTargetOrigin web (some value) = some origin := by
  unfold normalizeTargetOrigin
  rw [normalizeTrimmedValue_of_trimmed htrim]
  simp only [bind, Option.bind, hparse]
  cases horigin with
  | http h => rw [if_pos h.symm]
  | extension h =>
    have hhttp : ¬ (url.protocol = "https:" ∨ url.protocol = "http:") := by
      rw [or_comm]
      exact not_http_of_extension h
    rw [if_neg hhttp, if_pos h]

variable (hweb : LawfulUrls web)

include hweb

section

variable (h : normalizeOrigin web value = .ok origin)
include h

/-- An origin is trimmed, and it is its own origin. -/
theorem origin_spec :
    IsTrimmed origin ∧ ∃ root, web.parseUrl origin = some root ∧ OriginOf root origin := by
  have hne : ∀ text root, web.parseUrl text = some root → text ≠ "" := by
    rintro text root hparse rfl
    rw [hweb.parse_empty] at hparse
    cases hparse
  obtain ⟨url, hparse, horigin⟩ := (normalizeOrigin_ok_iff value origin).mp h
  cases horigin with
  | http hhttp =>
    obtain ⟨root, hroot, hproto, hsame⟩ := hweb.parse_origin value url hparse hhttp
    have hown : OriginOf root root.origin := .http (hproto.symm ▸ hhttp)
    rw [hsame] at hown
    exact ⟨⟨hne _ root hroot, hweb.trim_origin value url hparse hhttp⟩, root, hroot, hown⟩
  | extension hext =>
    obtain ⟨root, hroot, hproto, hhost⟩ := hweb.parse_extension value url hparse hext
    have hown : OriginOf root (root.protocol ++ "//" ++ root.host) :=
      .extension (hproto.symm ▸ hext)
    rw [hproto, hhost] at hown
    exact ⟨⟨hne _ root hroot, hweb.trim_extension value url hparse hext⟩, root, hroot, hown⟩

/-- The page reads the origin that the extension sends. -/
theorem normalizeTargetOrigin_sent :
    normalizeTargetOrigin web (readTrimmedSearchParam (some (.text origin))) = some origin := by
  obtain ⟨htrim, root, hroot, horigin⟩ := origin_spec hweb h
  rw [readTrimmedSearchParam_of_trimmed htrim]
  exact normalizeTargetOrigin_of_origin htrim hroot horigin

theorem normalizeOrigin_origin : normalizeOrigin web origin = .ok origin := by
  obtain ⟨-, root, hroot, horigin⟩ := origin_spec hweb h
  exact (normalizeOrigin_ok_iff origin origin).mpr ⟨root, hroot, horigin⟩

end

/-- A relay URL that the extension takes: its text, which is of the target origin. -/
theorem normalizeRelayUrl_ok {relayUrl target sent : String}
    (htarget : normalizeOrigin web target = .ok target)
    (h : Bridge.normalizeRelayUrl web relayUrl target = .ok sent) :
    ∃ url, web.parseUrl relayUrl = some url ∧ sent = url.href ∧ OriginOf url target := by
  unfold Bridge.normalizeRelayUrl newUrl at h
  cases hparse : web.parseUrl relayUrl with
  | none =>
    rw [hparse] at h
    cases h
  | some url =>
    have hhref := hweb.parse_href relayUrl url hparse
    simp only [hparse, htarget, bind, Except.bind] at h
    cases horigin : normalizeOrigin web url.href with
    | error e =>
      rw [horigin] at h
      cases h
    | ok origin =>
      simp only [horigin] at h
      split at h
      · rename_i hsame
        cases h
        obtain ⟨again, hagain, hown⟩ := (normalizeOrigin_ok_iff _ _).mp horigin
        rw [hhref] at hagain
        cases hagain
        exact ⟨url, rfl, rfl, hsame ▸ hown⟩
      · cases h

end Origins

/-! ## Ids -/

/-- A token is trimmed, and it is its own token. -/
theorem normalizeToken_spec {minLength maxLength : ℕ} {value token : String}
    (h : normalizeToken minLength maxLength (some value) = some token) :
    token = jsTrim value ∧ IsTrimmed token ∧
      normalizeToken minLength maxLength (readTrimmedSearchParam (some (.text token))) =
        some token := by
  obtain ⟨htrim, hvalid⟩ := Option.filter_eq_some_iff.mp h
  obtain ⟨htok, hne⟩ := Option.filter_eq_some_iff.mp htrim
  have htok : jsTrim value = token := Option.some.inj htok
  have hself : IsTrimmed token := by
    constructor
    · simpa using hne
    · rw [← htok]
      exact jsTrim_jsTrim value
  refine ⟨htok.symm, hself, ?_⟩
  unfold normalizeToken
  rw [readTrimmedSearchParam_of_trimmed hself, normalizeTrimmedValue_of_trimmed hself]
  exact Option.filter_some_pos hvalid

/-! ## The URL of the extension -/

section Sent

variable {web : WebFunctions} {input : ConnectToPlatformInput} {active : ActiveRequest}
  {installationId : String} {url : ConnectUrl}

/-- What is decoded from a URL for a key. -/
def decodedParam (params : List (String × String)) (key : String) : Option SearchParam :=
  match (params.filter fun param => param.1 = key).map Prod.snd with
  | [] => none
  | [value] => some (.text value)
  | values => some (.texts values)

/-- The search parameters of the extension's URL: those that it sets, and the page's own. -/
def connectSearchParams (url : ConnectUrl) : SearchParams := fun key =>
  match url.2.lookup key with
  | some value => some (.text value)
  | none => decodedParam url.1.searchParams key

/-- The extension sends its values under their keys. -/
structure Sent (input : ConnectToPlatformInput) (installationId : String) (parts : ConnectUrlParts)
    (searchParams : SearchParams) : Prop where
  installationId : searchParams "installationId" = some (.text installationId)
  environment : searchParams "environment" = some (.text input.environment)
  extensionVersion : searchParams "extensionVersion" = some (.text input.handshake.extensionVersion)
  schemaVersion : searchParams "schemaVersion" = some (.text input.handshake.schemaVersion)
  browser : searchParams "browser" = some (.text input.handshake.browser)
  capabilities : searchParams "capabilities" =
    some (.text (",".intercalate input.handshake.capabilities))
  capability : searchParams "capability" = none
  targetOrigin : searchParams "targetOrigin" = some (.text parts.targetOrigin)
  requestId : searchParams "requestId" = some (.text parts.requestId)
  bridgeNonce : searchParams "bridgeNonce" = some (.text parts.bridgeNonce)
  relayUrl : searchParams "relayUrl" = parts.relayUrl.map .text
  buildId : searchParams "buildId" =
    (input.handshake.buildId.filter fun buildId => buildId ≠ "").map .text

/-- What the checks of the extension say of the parts. -/
structure Checked (web : WebFunctions) (input : ConnectToPlatformInput) (active : ActiveRequest)
    (parts : ConnectUrlParts) : Prop where
  url : web.resolveUrl "/app/extension/connect" input.siteUrl = some parts.url
  targetOrigin : normalizeOrigin web input.targetOrigin = .ok parts.targetOrigin
  requestId : Bridge.normalizeBridgeRequestId (some active.requestId) = some parts.requestId
  bridgeNonce : Bridge.normalizeBridgeNonce (some active.bridgeNonce) = some parts.bridgeNonce
  noRelay : (input.relayUrl.filter fun relayUrl => relayUrl ≠ "") = none → parts.relayUrl = none
  relay : ∀ relayUrl, (input.relayUrl.filter fun relayUrl => relayUrl ≠ "") = some relayUrl →
    ∃ sent, Bridge.normalizeRelayUrl web relayUrl parts.targetOrigin = .ok sent ∧
      parts.relayUrl = some sent

theorem connectUrlParts_checked {parts : ConnectUrlParts}
    (h : connectUrlParts web input active = .ok parts) : Checked web input active parts := by
  unfold connectUrlParts at h
  cases hurl : web.resolveUrl "/app/extension/connect" input.siteUrl with
  | none =>
    rw [hurl] at h
    cases h
  | some url =>
    rw [hurl] at h
    obtain ⟨resolved, hresolved, h⟩ := bind_eq_ok_iff.mp h
    cases hresolved
    obtain ⟨target, htarget, h⟩ := bind_eq_ok_iff.mp h
    -- the origin of the platform is given, or it is the one of the site
    cases hplatform : normalizeTrimmedValue input.platformOrigin
    all_goals
      rw [hplatform] at h
      obtain ⟨platformUrl, -, h⟩ := bind_eq_ok_iff.mp h
      obtain ⟨platformOrigin, -, h⟩ := bind_eq_ok_iff.mp h
      split at h
      · cases h
      · cases h
      · rename_i requestId bridgeNonce hreqId hbridgeNonce
        split at h
        · rename_i hrelay
          cases h
          refine ⟨hurl, htarget, hreqId, hbridgeNonce, fun _ => rfl, ?_⟩
          intro relayUrl hsome
          rw [hrelay] at hsome
          cases hsome
        rename_i relayUrl hrelay
        obtain ⟨sent, hsent, h⟩ := bind_eq_ok_iff.mp h
        cases h
        refine ⟨hurl, htarget, hreqId, hbridgeNonce, ?_, ?_⟩
        all_goals grind

/-- The URL that the extension builds carries what it was called with. -/
theorem connectUrl_sent (hweb : LawfulUrls web)
    (h : buildExtensionConnectUrl web input active installationId = .ok url) :
    ∃ parts, Checked web input active parts ∧
      Sent input installationId parts (connectSearchParams url) := by
  unfold buildExtensionConnectUrl at h
  cases hparts : connectUrlParts web input active with
  | error e =>
    rw [hparts] at h
    cases h
  | ok parts =>
    have hchecked := connectUrlParts_checked hparts
    have hown : parts.url.searchParams = [] := hweb.searchParams_connect _ _ hchecked.url
    rw [hparts] at h
    simp only [Except.map, Except.ok.injEq] at h
    subst h
    refine ⟨parts, hchecked, ?_⟩
    constructor <;>
      cases parts.relayUrl <;>
        cases input.handshake.buildId.filter fun buildId => buildId ≠ "" <;>
          simp [connectSearchParams, decodedParam, hown, List.lookup_cons]

end Sent

/-! ## What the page understands -/

section Understood

/-- A handshake as the extension has it: trimmed texts, a browser that the page knows, and
capabilities. -/
structure IsHandshake (handshake : Bridge.CompatibilityHandshake) : Prop where
  extensionVersion : IsTrimmed handshake.extensionVersion
  schemaVersion : IsTrimmed handshake.schemaVersion
  browser : IsTrimmed handshake.browser ∧ handshake.browser ∈ validBrowsers
  capabilities : IsCapabilityList handshake.capabilities
  buildId : ∀ buildId ∈ handshake.buildId, IsTrimmed buildId

/-- The URL is that of a relay page inside an extension. -/
def IsExtensionUrl (web : WebFunctions) (relayUrl : String) : Prop :=
  ∃ url, web.parseUrl relayUrl = some url ∧ isExtensionProtocol url.protocol = true

variable (web : WebFunctions) (env : WebEnv)

/-- The page understands the URL: it reads the same bind request, ids and target origin, and the
bridge to the page that opened it has no security issue. -/
structure Understood (input : ConnectToPlatformInput) (active : ActiveRequest)
    (installationId : String) (url : ConnectUrl) : Prop where
  request : (extensionConnectPage web env (connectSearchParams url)).initialRequest =
    some ⟨installationId, input.environment, input.handshake⟩
  requestId : (bridgeInput web (extensionConnectPage web env (connectSearchParams url))
    true).resolvedRequestId = some (jsTrim active.requestId)
  bridgeNonce : (bridgeInput web (extensionConnectPage web env (connectSearchParams url))
    true).resolvedBridgeNonce = some (jsTrim active.bridgeNonce)
  targetOrigin : ∃ origin, normalizeOrigin web input.targetOrigin = .ok origin ∧
    (bridgeInput web (extensionConnectPage web env (connectSearchParams url))
      true).resolvedTargetOrigin = some origin
  secure : (resolveBridgeIssues (bridgeInput web
    (extensionConnectPage web env (connectSearchParams url)) true)).bridgeSecurityIssue = none

variable {web env} {input : ConnectToPlatformInput} {active : ActiveRequest}
  {installationId : String} {parts : ConnectUrlParts} {searchParams : SearchParams}

/-- The bind request is the one of the extension if and only if its capabilities are. -/
theorem initialRequest_eq_iff (hid : IsTrimmed installationId)
    (henvironment : IsTrimmed input.environment) (hhandshake : IsHandshake input.handshake)
    (hsent : Sent input installationId parts searchParams) :
    initialRequest web env searchParams =
        some ⟨installationId, input.environment, input.handshake⟩ ↔
      readCapabilities web searchParams = input.handshake.capabilities := by
  have hbrowser : readBrowserSearchParam (searchParams "browser") =
      some input.handshake.browser := by
    unfold readBrowserSearchParam
    rw [hsent.browser, readTrimmedSearchParam_of_trimmed hhandshake.browser.1]
    exact Option.filter_some_pos (by simpa using hhandshake.browser.2)
  have hbuildId : readTrimmedSearchParam (searchParams "buildId") = input.handshake.buildId := by
    rw [hsent.buildId]
    cases hbuild : input.handshake.buildId with
    | none => rfl
    | some buildId =>
      have htrim := hhandshake.buildId buildId hbuild
      rw [Option.filter_some_pos (by simpa using htrim.1)]
      exact readTrimmedSearchParam_of_trimmed htrim
  have henv : readEnvironment env searchParams = input.environment := by
    unfold readEnvironment
    rw [hsent.environment, readTrimmedSearchParam_of_trimmed henvironment]
    rfl
  have hinst := readTrimmedSearchParam_of_trimmed hid
  have hext := readTrimmedSearchParam_of_trimmed hhandshake.extensionVersion
  have hschema := readTrimmedSearchParam_of_trimmed hhandshake.schemaVersion
  rw [← hsent.installationId] at hinst
  rw [← hsent.extensionVersion] at hext
  rw [← hsent.schemaVersion] at hschema
  have hmissing : missingFields web searchParams =
      if readCapabilities web searchParams = [] then ["capabilities"] else [] := by
    grind [missingFields]
  unfold initialRequest
  simp only [hinst, hext, hschema, hbrowser, hmissing, henv, hbuildId, bind,
    Option.bind]
  constructor
  · grind
  intro h
  have hne : readCapabilities web searchParams ≠ [] := by
    rw [h]
    exact hhandshake.capabilities.ne_nil
  rw [if_pos (if_neg hne), h]

/-- The ids and the origin are read as they were sent. -/
theorem bridge_resolved (hweb : LawfulUrls web) (hchecked : Checked web input active parts)
    (hsent : Sent input installationId parts searchParams) :
    normalizeBridgeRequestId (readTrimmedSearchParam (searchParams "requestId")) =
        some (jsTrim active.requestId) ∧
      normalizeBridgeNonce (readTrimmedSearchParam (searchParams "bridgeNonce")) =
        some (jsTrim active.bridgeNonce) ∧
      normalizeTargetOrigin web (readTrimmedSearchParam (searchParams "targetOrigin")) =
        some parts.targetOrigin := by
  obtain ⟨hreqId, -, hreq⟩ := normalizeToken_spec hchecked.requestId
  obtain ⟨hbridgeNonce, -, hnonce⟩ := normalizeToken_spec hchecked.bridgeNonce
  rw [hsent.requestId, hsent.bridgeNonce, hsent.targetOrigin, ← hreqId, ← hbridgeNonce]
  exact ⟨hreq, hnonce, normalizeTargetOrigin_sent hweb hchecked.targetOrigin⟩

/-- Of the relay URLs of the target origin, the page takes those of an extension. -/
theorem normalizeRelayUrl_of_origin {target : String} {url : Url} (htrim : IsTrimmed url.href)
    (hhref : web.parseUrl url.href = some url) (horigin : OriginOf url target) :
    normalizeRelayUrl web (some url.href) (some target) =
      if isExtensionProtocol url.protocol = true then some url.href else none := by
  unfold normalizeRelayUrl
  rw [normalizeTrimmedValue_of_trimmed htrim]
  simp only [bind, Option.bind, hhref]
  cases horigin with
  | http h => grind [isExtensionProtocol]
  | extension h => rw [if_pos h, if_pos ⟨h, rfl⟩]

/-- The relay URL is read, when there is one, if and only if it is one of an extension. -/
theorem relay_read_iff (hweb : LawfulUrls web) (hchecked : Checked web input active parts)
    (hsent : Sent input installationId parts searchParams) :
    (hasText (readTrimmedSearchParam (searchParams "relayUrl")) &&
        (normalizeRelayUrl web (readTrimmedSearchParam (searchParams "relayUrl"))
          (some parts.targetOrigin)).isNone) = false ↔
      ∀ relayUrl ∈ input.relayUrl, relayUrl ≠ "" → IsExtensionUrl web relayUrl := by
  rw [hsent.relayUrl]
  cases hrelay : input.relayUrl.filter fun relayUrl => relayUrl ≠ "" with
  | none =>
    rw [hchecked.noRelay hrelay]
    constructor
    · intro _ relayUrl hmem hne
      rw [hmem, Option.filter_some_pos (by simpa using hne)] at hrelay
      cases hrelay
    · intro _
      rfl
  | some relayUrl =>
    have hgiven := (Option.filter_eq_some_iff.mp hrelay).1
    have hne := (Option.filter_eq_some_iff.mp hrelay).2
    obtain ⟨sent, hnorm, hparts⟩ := hchecked.relay relayUrl hrelay
    have htarget := normalizeOrigin_origin hweb hchecked.targetOrigin
    obtain ⟨url, hparse, rfl, horigin⟩ := normalizeRelayUrl_ok hweb htarget hnorm
    have hhref := hweb.parse_href relayUrl url hparse
    have htrim : IsTrimmed url.href := by
      constructor
      · intro hempty
        rw [hempty, hweb.parse_empty] at hhref
        cases hhref
      · exact hweb.trim_href relayUrl url hparse
    rw [hparts, Option.map_some, readTrimmedSearchParam_of_trimmed htrim]
    have hasRelay : hasText (some url.href) = true := by
      grind [hasText, normalizeTrimmedValue_of_trimmed]
    have hread := normalizeRelayUrl_of_origin htrim hhref horigin
    rw [hasRelay, hread]
    constructor
    · intro h other hmem hother
      rw [hgiven] at hmem
      cases hmem
      refine ⟨url, hparse, ?_⟩
      by_contra hno
      rw [if_neg hno] at h
      cases h
    intro h
    obtain ⟨parsed, hparsed, hext⟩ := h relayUrl hgiven (by simpa using hne)
    rw [hparse] at hparsed
    cases hparsed
    rw [if_pos hext]
    rfl

/-- With a bridge target, and ids and an origin that were read, only the relay URL can be an
issue. -/
theorem resolveBridgeIssues_secure_iff {resolved : ResolveBridgeIssuesInput} {requestId nonce
    target : String} (hreqId : resolved.resolvedRequestId = some requestId)
    (hnonce : resolved.resolvedBridgeNonce = some nonce)
    (htarget : resolved.resolvedTargetOrigin = some target) :
    (resolveBridgeIssues resolved).bridgeSecurityIssue = none ↔
      (hasText resolved.rawRelayUrl && resolved.resolvedRelayUrl.isNone) = false := by
  unfold resolveBridgeIssues
  simp only [hreqId, hnonce, htarget, Option.isNone_some, Bool.and_false]
  cases hasText resolved.rawRelayUrl && resolved.resolvedRelayUrl.isNone with
  | true => simp [securityIssue]
  | false =>
    simp only [Bool.false_eq_true, if_false]
    split <;> simp

/-- The page understands the URL that the extension builds if and only if every capability can
stand in a list, and the relay URL, when there is one, is that of a page inside an extension. -/
theorem understood_iff (web : WebFunctions) (hweb : LawfulUrls web) (env : WebEnv)
    (input : ConnectToPlatformInput) (active : ActiveRequest) (installationId : String)
    (url : ConnectUrl) (hid : IsTrimmed installationId)
    (henvironment : IsTrimmed input.environment) (hhandshake : IsHandshake input.handshake)
    (hurl : buildExtensionConnectUrl web input active installationId = .ok url) :
    Understood web env input active installationId url ↔
      (∀ capability ∈ input.handshake.capabilities, IsListable capability) ∧
        ∀ relayUrl ∈ input.relayUrl, relayUrl ≠ "" → IsExtensionUrl web relayUrl := by
  obtain ⟨parts, hchecked, hsent⟩ := connectUrl_sent hweb hurl
  obtain ⟨hrequestId, hnonce, htarget⟩ := bridge_resolved hweb hchecked hsent
  have hcapabilities := readCapabilities_eq_iff web hhandshake.capabilities hsent.capabilities
    hsent.capability
  have hrequest : initialRequest web env (connectSearchParams url) = _ ↔ _ :=
    initialRequest_eq_iff hid henvironment hhandshake hsent
  have hrelay := relay_read_iff hweb hchecked hsent
  have hsecure := @resolveBridgeIssues_secure_iff
    (bridgeInput web (extensionConnectPage web env (connectSearchParams url)) true) _ _ _
    hrequestId hnonce htarget
  have hraw : (hasText (readTrimmedSearchParam (connectSearchParams url "relayUrl")) &&
      (normalizeRelayUrl web (readTrimmedSearchParam (connectSearchParams url "relayUrl"))
        (normalizeTargetOrigin web
          (readTrimmedSearchParam (connectSearchParams url "targetOrigin")))).isNone) = false ↔
      ∀ relayUrl ∈ input.relayUrl, relayUrl ≠ "" → IsExtensionUrl web relayUrl := by
    rw [htarget]
    exact hrelay
  constructor
  · intro h
    exact ⟨hcapabilities.mp (hrequest.mp h.request), hraw.mp (hsecure.mp h.secure)⟩
  rintro ⟨hlistable, hextension⟩
  exact
    { request := hrequest.mpr (hcapabilities.mpr hlistable)
      requestId := hrequestId
      bridgeNonce := hnonce
      targetOrigin := ⟨parts.targetOrigin, hchecked.targetOrigin, htarget⟩
      secure := hsecure.mpr (hraw.mpr hextension) }

section Example

def siteUrl : Url := ⟨"https:", "https://site.test", "site.test", "https://site.test/", []⟩

def extensionUrl : Url := ⟨"chrome-extension:", "null", "abcd", "chrome-extension://abcd", []⟩

def relayPageUrl : Url :=
  ⟨"chrome-extension:", "null", "abcd", "chrome-extension://abcd/relay.html", []⟩

/-- The URLs of one site and one extension. -/
def someUrls : List (String × Url) :=
  [("https://site.test", siteUrl), ("https://site.test/", siteUrl),
    ("chrome-extension://abcd", extensionUrl),
    ("chrome-extension://abcd/relay.html", relayPageUrl)]

/-- A platform that knows these URLs. -/
def someWeb : WebFunctions where
  parseUrl := fun value => someUrls.lookup value
  resolveUrl := fun path base =>
    if base = "https://site.test" then
      some ⟨"https:", "https://site.test", "site.test", "https://site.test" ++ path, []⟩
    else none
  parseJson := fun _ => none
  decodeURIComponent := some
  atob := fun _ => none
  decodeUtf8 := fun _ => ""

theorem parseUrl_someWeb {value : String} {url : Url} (h : someWeb.parseUrl value = some url) :
    url = siteUrl ∨ url = extensionUrl ∨ url = relayPageUrl := by
  simp only [someWeb, someUrls, List.lookup_cons, List.lookup_nil] at h
  repeat' split at h
  all_goals cases h
  all_goals simp

theorem lawful_someWeb : LawfulUrls someWeb where
  parse_empty := rfl
  parse_href := by
    intro value url h
    rcases parseUrl_someWeb h with rfl | rfl | rfl <;> rfl
  trim_href := by
    intro value url h
    rcases parseUrl_someWeb h with rfl | rfl | rfl <;> decide
  parse_origin := by
    intro value url h hhttp
    rcases parseUrl_someWeb h with rfl | rfl | rfl
    · exact ⟨siteUrl, rfl, rfl, rfl⟩
    all_goals exact absurd hhttp (by decide)
  trim_origin := by
    intro value url h hhttp
    rcases parseUrl_someWeb h with rfl | rfl | rfl <;> decide
  parse_extension := by
    intro value url h hext
    rcases parseUrl_someWeb h with rfl | rfl | rfl
    · exact absurd hext (by decide)
    all_goals exact ⟨extensionUrl, rfl, rfl, rfl⟩
  trim_extension := by
    intro value url h hext
    rcases parseUrl_someWeb h with rfl | rfl | rfl <;> decide
  searchParams_connect := by
    intro base url h
    simp only [someWeb] at h
    split at h
    · cases h
      rfl
    · cases h

/-- A request of the extension with these capabilities. -/
def someInput (capabilities : List String) : ConnectToPlatformInput where
  siteUrl := "https://site.test"
  environment := "production"
  handshake := ⟨"1.7.0", "2", "chrome", capabilities, some "dev-local"⟩
  targetOrigin := "chrome-extension://abcd"
  relayUrl := some "chrome-extension://abcd/relay.html"
  platformOrigin := none
  requestId := none
  bridgeNonce := none
  bridgeMode := none
  createBridgeRequestId := "bind_0001"
  createBridgeNonce := "nonce_0001"

def someActive : ActiveRequest := ⟨"bind_0001", "nonce_0001"⟩

def someEnv : WebEnv := ⟨some "production", some "https://site.test", none⟩

/-- The URL of a request with these capabilities. -/
def someConnectUrl (capabilities : List String) : ConnectUrl :=
  (⟨"https:", "https://site.test", "site.test", "https://site.test/app/extension/connect", []⟩,
    [("installationId", "inst_0001"), ("environment", "production"),
      ("extensionVersion", "1.7.0"), ("schemaVersion", "2"), ("browser", "chrome"),
      ("capabilities", ",".intercalate capabilities),
      ("targetOrigin", "chrome-extension://abcd"), ("platformOrigin", "https://site.test"),
      ("requestId", "bind_0001"), ("bridgeNonce", "nonce_0001"),
      ("bridgeMode", "fallback_code"), ("relayUrl", "chrome-extension://abcd/relay.html"),
      ("buildId", "dev-local")])

theorem someConnectUrl_built (capabilities : List String) :
    buildExtensionConnectUrl someWeb (someInput capabilities) someActive "inst_0001" =
      .ok (someConnectUrl capabilities) := rfl

theorem someHandshake {capabilities : List String} (h : IsCapabilityList capabilities) :
    IsHandshake (someInput capabilities).handshake where
  extensionVersion := by
    show IsTrimmed "1.7.0"
    decide
  schemaVersion := by
    show IsTrimmed "2"
    decide
  browser := by
    show IsTrimmed "chrome" ∧ "chrome" ∈ validBrowsers
    decide
  capabilities := h
  buildId := by
    intro buildId hbuild
    cases hbuild
    decide

theorem understood_two_capabilities :
    Understood someWeb someEnv (someInput ["runtime.chat", "runtime.answer"]) someActive
      "inst_0001" (someConnectUrl ["runtime.chat", "runtime.answer"]) := by
  have hlist : IsCapabilityList ["runtime.chat", "runtime.answer"] := by
    constructor <;> decide
  refine (understood_iff someWeb lawful_someWeb someEnv _ someActive "inst_0001" _ (by decide)
    (by decide) (someHandshake hlist) (someConnectUrl_built _)).mpr ⟨by decide, ?_⟩
  intro relayUrl hrelay _
  cases hrelay
  exact ⟨relayPageUrl, rfl, rfl⟩

/-- A capability with a comma in it is read as two. -/
theorem comma_misread : LawfulUrls someWeb ∧ IsTrimmed "inst_0001" ∧
      IsHandshake (someInput ["runtime.chat,v2"]).handshake ∧
      buildExtensionConnectUrl someWeb (someInput ["runtime.chat,v2"]) someActive "inst_0001" =
        .ok (someConnectUrl ["runtime.chat,v2"]) ∧
      ¬ Understood someWeb someEnv (someInput ["runtime.chat,v2"]) someActive "inst_0001"
        (someConnectUrl ["runtime.chat,v2"]) := by
  have hlist : IsCapabilityList ["runtime.chat,v2"] := by
    constructor <;> decide
  refine ⟨lawful_someWeb, by decide, someHandshake hlist, someConnectUrl_built _, ?_⟩
  intro h
  have hrequest := congrArg (Option.map fun request => request.handshake.capabilities) h.request
  revert hrequest
  decide

end Example

end Understood

end QuizMind.ConnectPage

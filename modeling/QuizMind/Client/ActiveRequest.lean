import QuizMind.Client.Bridge

/-! # Only the answer to the active request is trusted

A response carries an envelope as an object, as JSON text or in the search parameters of a
URL (`Carries`). What `connectToPlatform` takes from an envelope has passed the check of
both ids (`accepted_answers`). A response that is a bind result itself, or has one under its
`data` members, is taken before any envelope is looked at, also when it carries an
envelope of another request.
-/

namespace QuizMind.Bridge

open Client

variable {web : WebFunctions} {around : Surroundings} {input : ConnectToPlatformInput}
  {active : ActiveRequest} {response : BridgeResponse} {installationId : String}

/-! ## Envelopes in a response -/

/-- The record has one of the types of an envelope. -/
def IsEnvelope (members : Members) : Prop :=
  asString (members.lookup "type") = some bindResultType ∨
    asString (members.lookup "type") = some bindErrorType ∨
    asString (members.lookup "type") = some bindFallbackCodeType

/-- The response carries the record of an envelope, in one of the encodings. -/
inductive Carries (web : WebFunctions) : BridgeResponse → Members → Prop
  | object {members} : IsEnvelope members → Carries web (.value (.object members)) members
  | json {text members} : web.parseJson (jsTrim text) = some (.object members) →
      IsEnvelope members → Carries web (.value (.string text)) members
  | urlText {text parsedUrl members} : web.parseUrl (jsTrim text) = some parsedUrl →
      queryPayload web parsedUrl.searchParams = some members →
      IsEnvelope members → Carries web (.value (.string text)) members
  | url {searchParams own members} : queryPayload web searchParams = some members →
      IsEnvelope members → Carries web (.url searchParams own) members

/-- The ids of the record, the nonce trimmed, are those of the request. -/
structure AnswersRequest (members : Members) (active : ActiveRequest) : Prop where
  requestId : asString (members.lookup "requestId") = some active.requestId
  bridgeNonce : (asString (members.lookup "bridgeNonce")).map jsTrim = some active.bridgeNonce

/-- The response carries an envelope that answers the request. -/
def AnswersActive (web : WebFunctions) (response : BridgeResponse) (active : ActiveRequest) :
    Prop :=
  ∃ members, Carries web response members ∧ AnswersRequest members active

variable {members : Members}

theorem asRecord_some {v : Option Json} (h : asRecord v = some members) :
    v = some (.object members) := by
  unfold asRecord at h
  split at h
  · rw [Option.some.injEq] at h
    rw [h]
  · cases h

theorem isEnvelope_of_body {body : BridgeBody} (h : envelopeBody members = some body) :
    IsEnvelope members := by
  unfold envelopeBody at h
  split at h
  · next hres => exact Or.inl hres
  split at h
  · next herror => exact Or.inr (Or.inl herror)
  split at h
  · next hfallback => exact Or.inr (Or.inr hfallback)
  · cases h

variable {envelope : BridgeEnvelope}

/-- The ids of an envelope are those of its record. -/
theorem fromRecord_spec (h : normalizeBridgeEnvelopeFromRecord members = some envelope) :
    IsEnvelope members ∧ asString (members.lookup "requestId") = some envelope.requestId ∧
      members.lookup "bridgeNonce" = envelope.bridgeNonce := by
  unfold normalizeBridgeEnvelopeFromRecord at h
  simp only [Option.bind_eq_bind, Option.bind_eq_some_iff, Option.pure_def, Option.some.injEq] at h
  obtain ⟨requestId, hreqId, body, hbody, rfl⟩ := h
  exact ⟨isEnvelope_of_body hbody, hreqId, rfl⟩

/-- An envelope that the code finds is carried by the response. -/
theorem normalizeBridgeEnvelope_spec (h : normalizeBridgeEnvelope web response = some envelope) :
    ∃ members, Carries web response members ∧
      normalizeBridgeEnvelopeFromRecord members = some envelope := by
  unfold normalizeBridgeEnvelope at h
  split at h
  · next searchParams own =>
      obtain ⟨members, hpayload, hrec⟩ := Option.bind_eq_some_iff.mp h
      exact ⟨members, .url hpayload (fromRecord_spec hrec).1, hrec⟩
  · next text =>
      split at h
      · cases h
      split at h
      · next found hurl =>
          rw [Option.some.injEq] at h
          subst h
          obtain ⟨parsedUrl, hparsed, hpayload⟩ := Option.bind_eq_some_iff.mp hurl
          obtain ⟨members, hmembers, hrec⟩ := Option.bind_eq_some_iff.mp hpayload
          exact ⟨members, .urlText hparsed hmembers (fromRecord_spec hrec).1, hrec⟩
      · obtain ⟨members, hmembers, hrec⟩ := Option.bind_eq_some_iff.mp h
        exact ⟨members, .json (asRecord_some hmembers) (fromRecord_spec hrec).1, hrec⟩
  · next v =>
      obtain ⟨members, hmembers, hrec⟩ := Option.bind_eq_some_iff.mp h
      have hv := asRecord_some hmembers
      rw [Option.some.injEq] at hv
      subst hv
      exact ⟨members, .object (fromRecord_spec hrec).1, hrec⟩

/-! ## The check of the ids -/

theorem normalizeString_some {v : Option Json} {text : String}
    (h : normalizeString v = .ok (some text)) : (asString v).map jsTrim = some text := by
  unfold normalizeString at h
  split at h
  · cases h
  · cases h
  · next s =>
      rw [Except.ok.injEq] at h
      exact (Option.filter_eq_some_iff.mp h).1
  · cases h

theorem checkIds_spec (h : checkIds envelope active = .ok none) :
    envelope.requestId = active.requestId ∧
      normalizeString envelope.bridgeNonce = .ok (some active.bridgeNonce) := by
  unfold checkIds at h
  by_cases hid : envelope.requestId = active.requestId
  · refine ⟨hid, ?_⟩
    rw [if_neg (not_not.mpr hid)] at h
    cases hnonce : normalizeString envelope.bridgeNonce with
    | error e =>
      rw [hnonce] at h
      cases h
    | ok bridgeNonce =>
      rw [hnonce] at h
      by_cases heq : bridgeNonce = some active.bridgeNonce
      · rw [heq]
      have hmis : (if bridgeNonce ≠ some active.bridgeNonce then some nonceMismatch
          else none) = none := Except.ok.inj h
      rw [if_pos heq] at hmis
      cases hmis
  · rw [if_pos hid] at h
    cases h

theorem answersActive_of_checkIds (henv : normalizeBridgeEnvelope web response = some envelope)
    (hids : checkIds envelope active = .ok none) : AnswersActive web response active := by
  obtain ⟨members, hcarries, hrec⟩ := normalizeBridgeEnvelope_spec henv
  obtain ⟨-, hreqId, hbridgeNonce⟩ := fromRecord_spec hrec
  obtain ⟨hid, hnonce⟩ := checkIds_spec hids
  refine ⟨members, hcarries, ?_, ?_⟩
  · rw [hreqId, hid]
  · rw [hbridgeNonce]
    exact normalizeString_some hnonce

theorem handledResult_answers {result : Json}
    (h : handledResult web active response = .ok result) : AnswersActive web response active := by
  unfold handledResult handleBridgeMessage at h
  cases henv : normalizeBridgeEnvelope web response with
  | none =>
    rw [henv] at h
    cases h
  | some envelope =>
    rw [henv] at h
    cases hids : checkIds envelope active with
    | error e =>
      simp only [hids] at h
      cases h
    | ok mismatch =>
      cases mismatch with
      | some error =>
        simp only [hids] at h
        cases h
      | none => exact answersActive_of_checkIds henv hids

/-- A result that is not taken directly comes from an envelope of the active request. -/
theorem accepted_answers {result : Json} (hdirect : normalizeBindResult response = none)
    (h : acceptedResult around input active installationId response = .ok result) :
    AnswersActive around.web response active := by
  unfold acceptedResult at h
  rw [hdirect] at h
  simp only at h
  split at h
  · next envelope henv =>
      split at h
      · unfold redeemEnvelope at h
        cases hids : checkIds envelope active with
        | error e =>
          rw [hids] at h
          cases h
        | ok mismatch =>
          cases mismatch with
          | some error =>
            rw [hids] at h
            cases h
          | none => exact answersActive_of_checkIds henv hids
      · exact handledResult_answers h
  · exact handledResult_answers h

/-! ## The stored state -/

/-- The stored session and bootstrap cache are the same. -/
structure SameBinding (s s' : PlatformState) : Prop where
  installationSession : s'.installationSession = s.installationSession
  bootstrapCache : s'.bootstrapCache = s.bootstrapCache
  bootstrapFetchedAt : s'.bootstrapFetchedAt = s.bootstrapFetchedAt

theorem getOrCreateInstallationId_binding (generated : String) (s : PlatformState) :
    SameBinding s (getOrCreateInstallationId generated s).2 := by
  unfold getOrCreateInstallationId
  split
  · exact ⟨rfl, rfl, rfl⟩
  · split
    all_goals exact ⟨rfl, rfl, rfl⟩

/-- The session of a record is stored first, whatever happens next. -/
theorem saveBindResult_session (now : String) (members : Members) (s : PlatformState) :
    (saveBindResult now (.object members) s).2.installationSession =
      some (members.lookup "session") := by
  unfold saveBindResult
  rw [if_neg (by simp [saveBindResult.isNull])]
  split
  · rfl
  split
  · rfl
  · rfl

/-- The bridge is opened for the request: its ids are valid, and so are the URLs. -/
def Opens (web : WebFunctions) (input : ConnectToPlatformInput) (active : ActiveRequest) : Prop :=
  activeRequest input = .ok active ∧
    ∃ parts, connectUrlParts web (connectUrlInput input) active = .ok parts

/-- What a call does that opens the bridge and gets the response. -/
theorem connectToPlatform_spec (hopens : Opens around.web input active) (s : PlatformState) :
    SameBinding s (connectToPlatform around input (fun _ _ => .ok response) s).2 ∨
      ∃ installationId result,
        acceptedResult around input active installationId response = .ok result := by
  obtain ⟨hact, parts, hparts⟩ := hopens
  unfold connectToPlatform
  have hid := getOrCreateInstallationId_binding around.installationId s
  generalize getOrCreateInstallationId around.installationId s = created at hid ⊢
  obtain ⟨created, s'⟩ := created
  cases created with
  | error e => exact Or.inl hid
  | ok installationId =>
    cases hacc : acceptedResult around input active installationId response with
    | ok result => exact Or.inr ⟨installationId, result, hacc⟩
    | error e =>
      left
      simp only [hact, buildExtensionConnectUrl, hparts, Except.bind, bind, hacc]
      exact hid

/-- Whatever is stored, the response changes the session or the bootstrap cache only if it
carries an envelope that answers the request. -/
def OnlyActiveTrusted (around : Surroundings) (input : ConnectToPlatformInput)
    (active : ActiveRequest) (response : BridgeResponse) : Prop :=
  ∀ s, ¬ SameBinding s (connectToPlatform around input (fun _ _ => .ok response) s).2 →
    AnswersActive around.web response active

/-- A state with an installation id and nothing else. -/
def unbound : PlatformState := ⟨some "inst_a", none, none, none⟩

/-- A direct result is stored, whatever it carries besides. -/
theorem direct_changes {direct : Members} (hopens : Opens around.web input active)
    (hdirect : normalizeBindResult response = some direct) :
    ¬ SameBinding unbound (connectToPlatform around input (fun _ _ => .ok response) unbound).2 := by
  obtain ⟨hact, parts, hparts⟩ := hopens
  have hcreated : getOrCreateInstallationId around.installationId unbound =
      (.ok "inst_a", unbound) := by
    unfold getOrCreateInstallationId
    have hid : normalizeTrimmedValue unbound.installationId = some "inst_a" := by decide
    rw [hid]
  have hacc : acceptedResult around input active "inst_a" response = .ok (.object direct) := by
    unfold acceptedResult
    rw [hdirect]
  have hsess := saveBindResult_session around.now direct unbound
  intro hsame
  have hstored := hsame.installationSession
  unfold connectToPlatform at hstored
  simp only [hcreated, hact, buildExtensionConnectUrl, hparts, Except.map, Except.bind, bind,
    hacc] at hstored
  generalize saveBindResult around.now (.object direct) unbound = saved at hsess hstored
  obtain ⟨outcome, s'⟩ := saved
  have hnone : s'.installationSession = none := by
    cases outcome with
    | error e | ok u => exact hstored
  rw [hnone] at hsess
  cases hsess

/-- Only the answer to the active request is trusted if and only if the response is no bind
result by itself, or answers the request. -/
theorem only_active_trusted_iff (around : Surroundings) (input : ConnectToPlatformInput)
    (active : ActiveRequest) (response : BridgeResponse)
    (hopens : Opens around.web input active) :
    OnlyActiveTrusted around input active response ↔
      normalizeBindResult response = none ∨ AnswersActive around.web response active := by
  constructor
  · intro htrusted
    cases hdirect : normalizeBindResult response with
    | none => exact Or.inl rfl
    | some direct => exact Or.inr (htrusted unbound (direct_changes hopens hdirect))
  rintro (hdirect | hanswers) s hchanged
  · rcases connectToPlatform_spec hopens s with hsame | ⟨installationId, result, haccepted⟩
    · exact absurd hsame hchanged
    · exact accepted_answers hdirect haccepted
  · exact hanswers

section Spoofed

/-- A platform on which every URL is the same page, and no text is JSON. -/
def onePage : Surroundings where
  web :=
    { parseUrl := fun _ => some ⟨"https:", "https://site", "site", "https://site/", []⟩
      resolveUrl := fun _ _ => some ⟨"https:", "https://site", "site", "https://site/", []⟩
      parseJson := fun _ => none
      decodeURIComponent := fun _ => none
      atob := fun _ => none
      decodeUtf8 := fun _ => "" }
  fetcher := fun _ _ => .error .typeError
  now := "2026-01-01T00:00:00.000Z"
  installationId := "inst_a"

def bindRequest : ConnectToPlatformInput where
  siteUrl := "https://site"
  environment := "development"
  handshake := ⟨"1.7.0", "2", "chrome", [], none⟩
  targetOrigin := "https://site"
  relayUrl := none
  platformOrigin := none
  requestId := some "bind_req_1"
  bridgeNonce := some "nonce_expected"
  bridgeMode := none
  createBridgeRequestId := "bind_0"
  createBridgeNonce := "nonce_0"

def activeBind : ActiveRequest := ⟨"bind_req_1", "nonce_expected"⟩

/-- An envelope of another request. -/
def otherEnvelope : Members :=
  [("type", .string bindResultType), ("requestId", .string "bind_req_0"),
    ("bridgeNonce", .string "nonce_wrong"), ("payload", .object [])]

/-- The envelope with the members of a bind result. -/
def spoofedEnvelope : Members :=
  otherEnvelope ++ [("installation", .object []), ("session", .object []),
    ("bootstrap", .object [])]

theorem opens_bindRequest : Opens onePage.web bindRequest activeBind := by
  refine ⟨by rfl, ⟨⟨"https:", "https://site", "site", "https://site/", []⟩, "https://site",
    "https://site", "bind_req_1", "nonce_expected", none⟩, ?_⟩
  rfl

theorem not_answersActive_of_object {members : Members}
    (h : asString (members.lookup "requestId") ≠ some active.requestId) :
    ¬ AnswersActive web (.value (.object members)) active := by
  rintro ⟨carried, hcarries, hanswers⟩
  cases hcarries with
  | object _ => exact h hanswers.requestId

theorem spoofed_envelope_trusted : Opens onePage.web bindRequest activeBind ∧
      Carries onePage.web (.value (.object spoofedEnvelope)) spoofedEnvelope ∧
      ¬ OnlyActiveTrusted onePage bindRequest activeBind (.value (.object spoofedEnvelope)) := by
  refine ⟨opens_bindRequest, .object (Or.inl rfl), ?_⟩
  intro htrusted
  have hdirect : normalizeBindResult (.value (.object spoofedEnvelope)) =
      some spoofedEnvelope := rfl
  have hchanged := direct_changes opens_bindRequest hdirect
  exact not_answersActive_of_object (by decide) (htrusted unbound hchanged)

theorem only_active_trusted_iff_otherEnvelope :
    OnlyActiveTrusted onePage bindRequest activeBind (.value (.object otherEnvelope)) :=
  (only_active_trusted_iff onePage bindRequest activeBind (.value (.object otherEnvelope))
    opens_bindRequest).mpr (Or.inl rfl)

end Spoofed

end QuizMind.Bridge

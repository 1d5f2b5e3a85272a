import QuizMind.Client.ActiveRequest

/-! # A connect that fails

A bind result reaches the extension directly, in an envelope, or from the redeem endpoint. Only
a direct one is looked at before it is saved. `saveBindResult` writes the session first, and
then reads a member of the bootstrap: without a bootstrap the call is rejected after its first
write. Otherwise a rejected call has created an installation id at most
(`fails_cleanly_iff`).
-/

namespace QuizMind.Bridge

open Client

/-! ## The calls over the whole stored state -/

/-- The stored items of the extension. -/
structure StoredState extends PlatformState where
  telemetryBuffer : Option (List StoredItem)

/-- A call that leaves the buffer alone. -/
def overPlatform {α : Type} (call : PlatformState → Except BridgeError α × PlatformState)
    (s : StoredState) : Except BridgeError α × StoredState :=
  let outcome := call s.toPlatformState
  (outcome.1, { s with toPlatformState := outcome.2 })

namespace PlatformRuntimeClient

structure RedeemInput where
  fallbackCode : String
  requestId : Option String
  bridgeNonce : Option String
  redeemPath : Option String
  installationId : Option String

/-- A member that is only there when it is not empty. -/
def present (value : Option String) : Option String := value.filter fun text => text ≠ ""

/-- What the client asks the redeem endpoint. -/
def redeemRequest (siteUrl : String) (input : RedeemInput) (installationId : String) :
    Bridge.RedeemInput where
  siteUrl := siteUrl
  fallbackCode := input.fallbackCode
  installationId := some installationId
  requestId := present input.requestId
  bridgeNonce := present input.bridgeNonce
  redeemPath := (present input.redeemPath).map Json.string

/-- The given installation id, or the stored one. -/
def installationIdOf (around : Surroundings) (input : RedeemInput) (s : PlatformState) :
    Except BridgeError String × PlatformState :=
  match input.installationId with
  | some installationId => (.ok installationId, s)
  | none => getOrCreateInstallationId around.installationId s

def redeemBindFallbackCode (around : Surroundings) (siteUrl : String) (input : RedeemInput)
    (s : PlatformState) : Except BridgeError Json × PlatformState :=
  match installationIdOf around input s with
  | (.error e, s) => (.error e, s)
  | (.ok installationId, s) =>
    match Bridge.redeemBindFallbackCode around (redeemRequest siteUrl input installationId) with
    | .error e => (.error e, s)
    | .ok result =>
      match saveBindResult around.now result s with
      | (.error e, s) => (.error e, s)
      | (.ok _, s) => (.ok result, s)

end PlatformRuntimeClient

/-! ## The statement -/

/-- What is stored is the same, but for an installation id that was not there. -/
structure OnlyIdCreated (s s' : StoredState) : Prop where
  binding : SameBinding s.toPlatformState s'.toPlatformState
  telemetryBuffer : s'.telemetryBuffer = s.telemetryBuffer
  installationId : s'.installationId = s.installationId ∨
    normalizeTrimmedValue s.installationId = none

/-- If the call is rejected, it has created an installation id at most. -/
def FailsCleanly (s : StoredState) (outcome : Except BridgeError Json × StoredState) : Prop :=
  ∀ e, outcome.1 = .error e → OnlyIdCreated s outcome.2

/-- The redeem endpoint answers the request with the data. -/
def Redeems (around : Surroundings) (input : RedeemInput) (data : Json) : Prop :=
  ∃ code redeemPath redeemUrl response payload,
    normalizeTrimmedValue (some input.fallbackCode) = some code ∧
      normalizeString input.redeemPath = .ok redeemPath ∧
      around.web.resolveUrl (redeemPath.getD "/api/extension/bind/redeem")
        (trimTrailingSlash input.siteUrl ++ "/") = some redeemUrl ∧
      around.fetcher redeemUrl.href ⟨code, normalizeTrimmedValue input.installationId,
          normalizeTrimmedValue input.requestId, normalizeTrimmedValue input.bridgeNonce⟩ =
        .ok response ∧
      response.ok = true ∧ response.json = some payload ∧
      isTruthy (memberOf payload "ok") = true ∧ memberOf payload "data" = some data ∧
      isTruthy (some data) = true

/-- The response of the bridge delivers the result: it is one, or it carries one or a code
for one in an envelope of the active request. -/
inductive Delivers (around : Surroundings) (input : ConnectToPlatformInput)
    (active : ActiveRequest) (installationId : String) (response : BridgeResponse) :
    Json → Prop
  | direct {members : Members} (h : normalizeBindResult response = some members) :
      Delivers around input active installationId response (.object members)
  | envelope {envelope : BridgeEnvelope} {payload : Json}
      (hdirect : normalizeBindResult response = none)
      (henvelope : normalizeBridgeEnvelope around.web response = some envelope)
      (hids : checkIds envelope active = .ok none) (hbody : envelope.body = .bindResult payload) :
      Delivers around input active installationId response payload
  | redeemed {envelope : BridgeEnvelope} {code : String} {redeemPath : Option Json} {data : Json}
      (hdirect : normalizeBindResult response = none)
      (henvelope : normalizeBridgeEnvelope around.web response = some envelope)
      (hids : checkIds envelope active = .ok none)
      (hbody : envelope.body = .bindFallbackCode code redeemPath)
      (hdata : Redeems around ⟨input.siteUrl, code, some installationId, some active.requestId,
        some active.bridgeNonce, redeemPath⟩ data) :
      Delivers around input active installationId response data

/-- The bridge is opened, and its response delivers the result. -/
def Arrives (around : Surroundings) (input : ConnectToPlatformInput)
    (openBridge : ConnectUrl → ActiveRequest → Except BridgeError BridgeResponse)
    (s : PlatformState) (result : Json) : Prop :=
  ∃ installationId active url response,
    (getOrCreateInstallationId around.installationId s).1 = .ok installationId ∧
      activeRequest input = .ok active ∧
      buildExtensionConnectUrl around.web (connectUrlInput input) active installationId = .ok url ∧
      openBridge url active = .ok response ∧
      Delivers around input active installationId response result

/-- The result has a bootstrap, or its session is the stored one; of `null` nothing is
written. -/
def Savable (s : PlatformState) (result : Json) : Prop :=
  result = .null ∨ (∃ bootstrap, memberOf result "bootstrap" = some bootstrap ∧
    bootstrap ≠ .null) ∨ s.installationSession = some (memberOf result "session")

/-! ## Saving -/

theorem isNull_iff {v : Json} : saveBindResult.isNull v = true ↔ v = .null := by
  cases v with
  | null => exact iff_of_true rfl rfl
  | _ => exact iff_of_false nofun nofun

/-- Saving is rejected after it has stored the session, if there is no bootstrap. -/
theorem saveBindResult_iff (now : String) (result : Json) (s : PlatformState) :
    (∀ e, (saveBindResult now result s).1 = .error e →
      SameBinding s (saveBindResult now result s).2) ↔ Savable s result := by
  by_cases hnull : result = .null
  · subst hnull
    refine iff_of_true ?_ (.inl rfl)
    intro e _
    exact ⟨rfl, rfl, rfl⟩
  have hmembers : saveBindResult.isNull result = false := by
    rw [Bool.eq_false_iff, Ne, isNull_iff]
    exact hnull
  unfold saveBindResult
  -- without a bootstrap the session is left behind
  have hrejected : (∀ e, (Except.error .typeError : Except BridgeError Unit) = .error e →
      SameBinding s { s with installationSession := some (memberOf result "session") }) ↔
        s.installationSession = some (memberOf result "session") := by
    constructor
    · intro h
      exact (h _ rfl).installationSession.symm
    · intro h e _
      exact ⟨h.symm, rfl, rfl⟩
  cases hbootstrap : memberOf result "bootstrap" with
  | none => grind [Savable]
  | some bootstrap => grind [Savable, isNull_iff]

theorem saveBindResult_installationId (now : String) (result : Json) (s : PlatformState) :
    (saveBindResult now result s).2.installationId = s.installationId := by
  unfold saveBindResult
  split
  · rfl
  split
  · rfl
  · split <;> rfl

/-! ## What is delivered -/

/-- Only a complete answer of the endpoint is taken. -/
theorem redeems_of_ok {around : Surroundings} {input : RedeemInput} {data : Json}
    (h : redeemBindFallbackCode around input = .ok data) : Redeems around input data := by
  unfold redeemBindFallbackCode at h
  cases hcode : normalizeTrimmedValue (some input.fallbackCode) with
  | none =>
    rw [hcode] at h
    cases h
  | some code =>
    cases hpath : normalizeString input.redeemPath with
    | error e =>
      simp only [hcode, hpath] at h
      cases h
    | ok redeemPath =>
      simp only [hcode, hpath, bind, Except.bind] at h
      split at h
      · cases h
      next redeemUrl hurl =>
        split at h
        · cases h
        next response hresp =>
          split at h
          · next data' hdata =>
              split at h
              · next hcomplete =>
                  obtain rfl := Except.ok.inj h
                  simp only [Bool.and_eq_true] at hcomplete
                  obtain ⟨⟨hok, htrue⟩, htruthy⟩ := hcomplete
                  -- a body that cannot be read has no members
                  cases hjson : response.json with
                  | none =>
                    rw [hjson] at hdata
                    cases hdata
                  | some payload =>
                    rw [hjson] at hdata htrue
                    exact ⟨code, redeemPath, redeemUrl, response, payload, hcode, hpath,
                      hurl, hresp, hok, hjson, htrue, hdata, htruthy⟩
              · cases h
          · cases h

theorem ok_of_redeems {around : Surroundings} {input : RedeemInput} {data : Json}
    (h : Redeems around input data) : redeemBindFallbackCode around input = .ok data := by
  obtain ⟨code, redeemPath, redeemUrl, response, payload, hcode, hpath, hurl, hresp, hok,
    hjson, htrue, hdata, htruthy⟩ := h
  simp only [redeemBindFallbackCode, hcode, hpath, bind, Except.bind, hurl, hresp, hjson,
    Option.getD_some, hdata, hok, htrue, htruthy]
  rfl

section Delivered

variable {around : Surroundings} {input : ConnectToPlatformInput} {active : ActiveRequest}
  {installationId : String} {response : BridgeResponse} {result : Json}

theorem handledResult_envelope {web : WebFunctions}
    (h : handledResult web active response = .ok result) :
    ∃ envelope, normalizeBridgeEnvelope web response = some envelope ∧
      checkIds envelope active = .ok none ∧ envelope.body = .bindResult result := by
  unfold handledResult handleBridgeMessage at h
  cases henv : normalizeBridgeEnvelope web response with
  | none =>
    rw [henv] at h
    cases h
  | some envelope => grind

theorem delivers_of_accepted
    (h : acceptedResult around input active installationId response = .ok result) :
    Delivers around input active installationId response result := by
  unfold acceptedResult at h
  cases hdirect : normalizeBindResult response with
  | some members =>
    rw [hdirect] at h
    obtain rfl := Except.ok.inj h
    exact .direct hdirect
  | none =>
    rw [hdirect] at h
    simp only at h
    split at h
    · next envelope henv =>
        split at h
        · next code redeemPath hbody =>
            unfold redeemEnvelope at h
            cases hids : checkIds envelope active with
            | error e =>
              rw [hids] at h
              cases h
            | ok mismatch =>
              cases mismatch with
              | some error =>
                rw [hids] at h
                cases h
              | none =>
                rw [hids] at h
                exact .redeemed hdirect henv hids hbody (redeems_of_ok h)
        · obtain ⟨envelope', henv', hids, hbody⟩ := handledResult_envelope h
          exact .envelope hdirect henv' hids hbody
    · grind [handledResult_envelope]

theorem accepted_of_delivers (h : Delivers around input active installationId response result) :
    acceptedResult around input active installationId response = .ok result := by
  cases h with
  | direct hdirect => simp only [acceptedResult, hdirect]
  | envelope hdirect henv hids hbody =>
    simp only [acceptedResult, hdirect, henv, hbody, handledResult, handleBridgeMessage, hids]
  | redeemed hdirect henv hids hbody hdata =>
    grind [acceptedResult, redeemEnvelope, ok_of_redeems]

end Delivered

/-! ## Rejected calls -/

section Rejected

theorem getOrCreateInstallationId_same (generated : String) (s : PlatformState) :
    SameBinding s (getOrCreateInstallationId generated s).2 ∧
      ((getOrCreateInstallationId generated s).2.installationId = s.installationId ∨
        normalizeTrimmedValue s.installationId = none) := by
  refine ⟨getOrCreateInstallationId_binding generated s, ?_⟩
  unfold getOrCreateInstallationId
  split
  · exact .inl rfl
  · next hnone => exact .inr hnone

/-- A call that gets an installation id, then a result, and saves it. -/
def savingCall (now : String) (created : Except BridgeError String × PlatformState)
    (result : String → Except BridgeError Json) : Except BridgeError Json × PlatformState :=
  match created with
  | (.error e, s) => (.error e, s)
  | (.ok installationId, s) =>
    match result installationId with
    | .error e => (.error e, s)
    | .ok result =>
      match saveBindResult now result s with
      | (.error e, s) => (.error e, s)
      | (.ok _, s) => (.ok result, s)

/-- Such a call fails cleanly if and only if its result can be saved. -/
theorem savingCall_iff {now : String} {s : StoredState}
    {created : PlatformState → Except BridgeError String × PlatformState}
    {result : String → Except BridgeError Json}
    (hsame : SameBinding s.toPlatformState (created s.toPlatformState).2 ∧
      ((created s.toPlatformState).2.installationId = s.installationId ∨
        normalizeTrimmedValue s.installationId = none)) :
    FailsCleanly s (overPlatform (fun s => savingCall now (created s) result) s) ↔
      ∀ installationId data, (created s.toPlatformState).1 = .ok installationId →
        result installationId = .ok data → Savable s.toPlatformState data := by
  obtain ⟨hbinding, hid⟩ := hsame
  rcases hcreated : created s.toPlatformState with ⟨outcome, s'⟩
  rw [hcreated] at hbinding hid
  cases outcome with
  | error e =>
    simp only [overPlatform, hcreated]
    refine iff_of_true ?_ ?_
    · intro e _
      exact ⟨hbinding, rfl, hid⟩
    · rintro installationId data h
      cases h
  | ok installationId =>
    cases hres : result installationId with
    | error e =>
      simp only [overPlatform, savingCall, hcreated, hres]
      refine iff_of_true ?_ ?_
      · intro e _
        exact ⟨hbinding, rfl, hid⟩
      · grind
    | ok data =>
      have hsavable : Savable s' data ↔ Savable s.toPlatformState data := by
        unfold Savable
        rw [hbinding.installationSession]
      have hsaved := saveBindResult_iff now data s'
      have hsavedId := saveBindResult_installationId now data s'
      rcases hsave : saveBindResult now data s' with ⟨saved, s''⟩
      rw [hsave] at hsaved hsavedId
      simp only [overPlatform, savingCall, hcreated, hres, hsave]
      cases saved with
      | ok u =>
        -- the call is not rejected
        have hkept : Savable s' data := hsaved.mp nofun
        refine iff_of_true nofun ?_
        rintro id data' h hdata
        cases h
        rw [hres] at hdata
        cases hdata
        exact hsavable.mp hkept
      | error e =>
        constructor
        · intro h id data' hok hdata
          cases hok
          rw [hres] at hdata
          cases hdata
          have hclean := (h e rfl).binding
          refine hsavable.mp (hsaved.mp ?_)
          intro _ _
          exact ⟨hclean.installationSession.trans hbinding.installationSession.symm,
            hclean.bootstrapCache.trans hbinding.bootstrapCache.symm,
            hclean.bootstrapFetchedAt.trans hbinding.bootstrapFetchedAt.symm⟩
        intro h e' _
        have hclean := hsaved.mpr (hsavable.mpr (h installationId data rfl hres)) e rfl
        refine ⟨⟨hclean.installationSession.trans hbinding.installationSession,
          hclean.bootstrapCache.trans hbinding.bootstrapCache,
          hclean.bootstrapFetchedAt.trans hbinding.bootstrapFetchedAt⟩, rfl, ?_⟩
        exact hid.imp_left hsavedId.trans

/-- The result of a connect, once there is an installation id. -/
def connectResult (around : Surroundings) (input : ConnectToPlatformInput)
    (openBridge : ConnectUrl → ActiveRequest → Except BridgeError BridgeResponse)
    (installationId : String) : Except BridgeError Json := do
  let active ← activeRequest input
  let url ← buildExtensionConnectUrl around.web (connectUrlInput input) active installationId
  let bridgeResponse ← openBridge url active
  acceptedResult around input active installationId bridgeResponse

theorem connectToPlatform_eq (around : Surroundings) (input : ConnectToPlatformInput)
    (openBridge : ConnectUrl → ActiveRequest → Except BridgeError BridgeResponse)
    (s : PlatformState) :
    connectToPlatform around input openBridge s =
      savingCall around.now (getOrCreateInstallationId around.installationId s)
        (connectResult around input openBridge) := rfl

theorem redeemBindFallbackCode_eq (around : Surroundings) (siteUrl : String)
    (input : PlatformRuntimeClient.RedeemInput) (s : PlatformState) :
    PlatformRuntimeClient.redeemBindFallbackCode around siteUrl input s =
      savingCall around.now (PlatformRuntimeClient.installationIdOf around input s)
        (fun installationId => redeemBindFallbackCode around
          (PlatformRuntimeClient.redeemRequest siteUrl input installationId)) := rfl

theorem connectResult_iff {around : Surroundings} {input : ConnectToPlatformInput}
    {openBridge : ConnectUrl → ActiveRequest → Except BridgeError BridgeResponse}
    {installationId : String} {result : Json} :
    connectResult around input openBridge installationId = .ok result ↔
      ∃ active url response, activeRequest input = .ok active ∧
        buildExtensionConnectUrl around.web (connectUrlInput input) active installationId =
          .ok url ∧
        openBridge url active = .ok response ∧
        Delivers around input active installationId response result := by
  unfold connectResult
  constructor
  · intro h
    cases hact : activeRequest input with
    | error e =>
      simp only [hact] at h
      cases h
    | ok active =>
      cases hurl : buildExtensionConnectUrl around.web (connectUrlInput input) active
          installationId with
      | error e => simp_all [bind, Except.bind]
      | ok url =>
        cases hresp : openBridge url active with
        | error e => simp_all [bind, Except.bind]
        | ok response =>
          simp only [hact, hurl, hresp, bind, Except.bind] at h
          exact ⟨active, url, response, rfl, hurl, hresp, delivers_of_accepted h⟩
  · rintro ⟨active, url, response, hact, hurl, hresp, hdelivers⟩
    simp only [hact, hurl, hresp, bind, Except.bind]
    exact accepted_of_delivers hdelivers

/-- A connect, and the redemption of a fallback code, fail cleanly if and only if the result
that arrives can be saved. -/
theorem fails_cleanly_iff (around : Surroundings) (input : ConnectToPlatformInput)
    (openBridge : ConnectUrl → ActiveRequest → Except BridgeError BridgeResponse)
    (siteUrl : String) (redeemInput : PlatformRuntimeClient.RedeemInput) (s : StoredState) :
    (FailsCleanly s (overPlatform (connectToPlatform around input openBridge) s) ↔
      ∀ result, Arrives around input openBridge s.toPlatformState result →
        Savable s.toPlatformState result) ∧
    (FailsCleanly s (overPlatform
        (PlatformRuntimeClient.redeemBindFallbackCode around siteUrl redeemInput) s) ↔
      ∀ installationId result,
        (PlatformRuntimeClient.installationIdOf around redeemInput s.toPlatformState).1 =
          .ok installationId →
        Redeems around
          (PlatformRuntimeClient.redeemRequest siteUrl redeemInput installationId) result →
        Savable s.toPlatformState result) := by
  constructor
  · have hcall : connectToPlatform around input openBridge = fun s =>
        savingCall around.now (getOrCreateInstallationId around.installationId s)
          (connectResult around input openBridge) :=
      funext fun s => connectToPlatform_eq around input openBridge s
    rw [hcall, savingCall_iff (getOrCreateInstallationId_same _ _)]
    constructor
    · rintro h result ⟨installationId, active, url, response, hid, hactive, hurl, hresponse,
        hdelivers⟩
      exact h installationId result hid
        (connectResult_iff.mpr ⟨active, url, response, hactive, hurl, hresponse, hdelivers⟩)
    intro h installationId result hid hresult
    obtain ⟨active, url, response, hactive, hurl, hresponse, hdelivers⟩ :=
      connectResult_iff.mp hresult
    exact h result ⟨installationId, active, url, response, hid, hactive, hurl, hresponse, hdelivers⟩
  · have hcall : PlatformRuntimeClient.redeemBindFallbackCode around siteUrl redeemInput = fun s =>
        savingCall around.now (PlatformRuntimeClient.installationIdOf around redeemInput s)
          (fun installationId => redeemBindFallbackCode around
            (PlatformRuntimeClient.redeemRequest siteUrl redeemInput installationId)) :=
      funext fun s => redeemBindFallbackCode_eq around siteUrl redeemInput s
    have hsame : SameBinding s.toPlatformState
        (PlatformRuntimeClient.installationIdOf around redeemInput s.toPlatformState).2 ∧
        ((PlatformRuntimeClient.installationIdOf around redeemInput
            s.toPlatformState).2.installationId = s.installationId ∨
          normalizeTrimmedValue s.installationId = none) := by
      unfold PlatformRuntimeClient.installationIdOf
      split
      · exact ⟨⟨rfl, rfl, rfl⟩, .inl rfl⟩
      · exact getOrCreateInstallationId_same _ _
    rw [hcall, savingCall_iff hsame]
    constructor
    · intro h installationId result hid hredeems
      exact h installationId result hid (ok_of_redeems hredeems)
    · intro h installationId result hid hresult
      exact h installationId result hid (redeems_of_ok hresult)

end Rejected

/-! ## A bind result without a bootstrap -/

/-- An envelope of the active request whose payload has a session only. -/
def halfEnvelope : Members :=
  [("type", .string bindResultType), ("requestId", .string "bind_req_1"),
    ("bridgeNonce", .string "nonce_expected"),
    ("payload", .object [("session", .object [("token", .string "token-2")])])]

/-- A state that is bound already. -/
def boundState : StoredState where
  installationId := some "inst_a"
  installationSession := some (some (.object [("token", .string "token-1")]))
  bootstrapCache := none
  bootstrapFetchedAt := none
  telemetryBuffer := none

/-- The call is rejected, and the session is that of the payload. -/
theorem half_result_replaces_session :
    ¬ FailsCleanly boundState (overPlatform (connectToPlatform onePage bindRequest
      fun _ _ => .ok (.value (.object halfEnvelope))) boundState) := by
  intro h
  have hsession := (h .typeError (by rfl)).binding.installationSession
  have hstored : (overPlatform (connectToPlatform onePage bindRequest
      fun _ _ => .ok (.value (.object halfEnvelope))) boundState).2.installationSession =
        some (some (.object [("token", .string "token-2")])) := by rfl
  rw [hstored] at hsession
  simp [boundState] at hsession

end QuizMind.Bridge

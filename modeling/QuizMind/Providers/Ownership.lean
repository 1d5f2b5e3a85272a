import QuizMind.Providers.Writes

/-! # Who changes a credential

Users without `ai_providers:manage`, any provider policy, any interleaving of their requests.
The check of a rotation or revocation compares the user that the row names with the user of
the session, and a row that names none passes: that is the case of the credentials of a
workspace, whoever created them (`workspace_credential_revoked`).

A credential is changed by nobody but its creator exactly when no update runs on a row that
names no user and that somebody else has created (`creatorsOnly_iff`); so it is when the
policy in force never allows credentials of a workspace (`creatorsOnly_of_policy`).
-/

namespace QuizMind.Providers

open Async
open Ai (AiProviderPolicyRecord CredentialOwnerType)
open Machine (anyStep initial)

/-! ## Requests without the permission to manage providers -/

def CredentialRequest.managesProviders : CredentialRequest → Bool
  | .manage request => (canManageAiProviders request.session.principal).allowed
  | .writePolicy _ => false

def CredentialRequest.userId : CredentialRequest → Option String
  | .manage request => some request.session.userId
  | .writePolicy _ => none

/-- A request of a user without `ai_providers:manage`, or a change of the policy. -/
structure OwnerRequest where
  request : CredentialRequest
  unprivileged : request.managesProviders = false

abbrev OwnerState :=
  Snapshot CredentialCall CredentialCall.Res Exception CredentialResponse CredentialTables
    OwnerRequest

def ownerMachine (env : CredentialEnv) :
    Machine CredentialCall CredentialCall.Res Exception CredentialResponse CredentialTables
      OwnerRequest where
  exec := CredentialCall.exec
  code := fun r => handleCredential env r.request

/-! ## Who did what -/

/-- The credential that a call has created. -/
def created (e : CredentialEvent) : Option String :=
  if e.result.isOk then e.op.inserts.map (·.id) else none

/-- The credential that a call has changed. -/
def changed (e : CredentialEvent) : Option String :=
  if e.result.isOk then e.op.updates else none

def userOf (s : OwnerState) (pid : ℕ) : Option String :=
  s.procs[pid]?.bind fun q => q.1.request.userId

def didBy (did : CredentialEvent → Option String) (s : OwnerState) (user id : String) : Bool :=
  s.log.any fun e => did e = some id && userOf s e.pid = some user

/-- Whoever has changed a credential has created it. -/
def CreatorsOnly (s : OwnerState) : Prop :=
  ∀ user id, didBy changed s user id → didBy created s user id

/-- The update that runs next is on a row that names a user, or on a credential that the user
of the request has created. -/
def namedOrOwn (s : OwnerState) : Label Exception OwnerRequest → Bool
  | .step pid =>
    match s.procs[pid]? with
    | some (req, .call op _) =>
      match op.updates with
      | some id => ((s.store.byId id).bind fun record => truthyText record.userId).isSome ||
          req.request.userId.any fun user => didBy created s user id
      | none => true
    | _ => true
  | _ => true

/-! ## The records of who did what -/

section Records

variable {did : CredentialEvent → Option String} {s s' : OwnerState} {user id : String}

theorem didBy_iff : didBy did s user id = true ↔
    ∃ e ∈ s.log, did e = some id ∧ userOf s e.pid = some user := by
  simp only [didBy, List.any_eq_true, Bool.and_eq_true, decide_eq_true_eq]

/-- What was done stays done. -/
theorem didBy_next {env : CredentialEnv} {l : Label Exception OwnerRequest}
    (hnext : (ownerMachine env).next l s = some s') (h : didBy did s user id) :
    didBy did s' user id := by
  obtain ⟨e, he, hdid, huser⟩ := didBy_iff.mp h
  refine didBy_iff.mpr ⟨e, (ownerMachine env).next_log hnext he, hdid, ?_⟩
  obtain ⟨q, hq, hqu⟩ := Option.bind_eq_some_iff.mp huser
  obtain ⟨q', hq', hreq⟩ := (ownerMachine env).next_request hnext hq
  have hsame : userOf s' e.pid = q'.1.request.userId := by simp [userOf, hq']
  rw [hsame, hreq, hqu]

theorem userOf_set {pid : ℕ} {req : OwnerRequest}
    {p p' : CredentialProg CredentialResponse} (hp : s.procs[pid]? = some (req, p)) (j : ℕ) :
    ((s.procs.set pid (req, p'))[j]?.bind fun q => q.1.request.userId) = userOf s j := by
  have hlt : pid < s.procs.length := (List.getElem?_eq_some_iff.mp hp).1
  by_cases hj : pid = j
  · subst hj
    show _ = s.procs[pid]?.bind fun q => q.1.request.userId
    rw [List.getElem?_set_self hlt, hp]
    rfl
  · rw [List.getElem?_set_ne hj]
    rfl

/-- One more call. -/
theorem didBy_call {pid : ℕ} {req : OwnerRequest} {op : CredentialCall}
    {k : Except Exception op.Res → CredentialProg CredentialResponse}
    (hp : s.procs[pid]? = some (req, .call op k)) (r : Except Exception op.Res)
    (store : CredentialTables) :
    didBy did ⟨store, s.procs.set pid (req, k r), s.log ++ [⟨pid, op, r⟩]⟩ user id = true ↔
      didBy did s user id = true ∨ did ⟨pid, op, r⟩ = some id ∧ req.request.userId = some user := by
  have huser : ∀ j, userOf ⟨store, s.procs.set pid (req, k r), s.log ++ [⟨pid, op, r⟩]⟩ j =
      userOf s j := userOf_set hp
  have hself : userOf s pid = req.request.userId := by simp [userOf, hp]
  rw [didBy_iff, didBy_iff]
  simp only [huser, List.mem_append, List.mem_singleton, or_and_right, exists_or, exists_eq_left,
    hself]

end Records

/-! ## The invariant -/

/-- The requests keep to their plans, the user that a row names has created it, and a row that
was found is still there. -/
structure OwnersKnown (env : CredentialEnv) (s : OwnerState) : Prop where
  kept : Machine.Kept (fun _ _ => True) (fun r : OwnerRequest => Planned env r.request)
    (fun _ _ _ => True) s
  unshared : ∀ id record, s.store.byId id = some record → record.ownerType ≠ .platform
  creator : ∀ id record owner, s.store.byId id = some record →
    truthyText record.userId = some owner → didBy created s owner id
  found : ∀ pid id record, (⟨pid, .findById id, .ok (some record)⟩ : CredentialEvent) ∈ s.log →
    ∃ row, s.store.byId record.id = some row ∧ row.ownerType = record.ownerType ∧
      row.userId = record.userId

theorem ownersKnown_initial (env : CredentialEnv) (policy : Option AiProviderPolicyRecord) :
    OwnersKnown env (initial (noCredentials policy)) where
  kept := Machine.Kept.initial _
  unshared _ _ h := absurd h (Option.some_ne_none _).symm
  creator _ _ _ h := absurd h (Option.some_ne_none _).symm
  found _ _ _ h := absurd h List.not_mem_nil

variable {env : CredentialEnv} {record : ProviderCredentialRecord}

/-- The row that a request has found last is in the table, with the same owner. -/
theorem OwnersKnown.lastFound {s : OwnerState} (h : OwnersKnown env s) {pid : ℕ}
    (hfound : lastFound (history pid s.log) = some record) :
    ∃ row, s.store.byId record.id = some row ∧ row.ownerType = record.ownerType ∧
      row.userId = record.userId := by
  obtain ⟨id, hmem⟩ := lastFound_mem hfound
  exact h.found pid id record (mem_history.mp hmem)

variable {r : OwnerRequest}

theorem managesProviders_manage {request : ManageRequest} (h : r.request = .manage request) :
    (credentialAccess request.session.principal).manage.allowed = false := by
  have hunprivileged := r.unprivileged
  rw [h] at hunprivileged
  exact hunprivileged

variable {past : List CredentialTold}

/-- A row that is created is not the platform's, and the user that it names is the one of the
request. -/
theorem planned_insert {op : CredentialCall} (hplan : Planned env r.request past op)
    (hop : op.inserts = some record) :
    record.ownerType ≠ .platform ∧
      ∀ owner, truthyText record.userId = some owner → r.request.userId = some owner := by
  cases op with
  | createWithLogs input =>
    cases hop
    cases hr : r.request with
    | writePolicy policy =>
      rw [hr] at hplan
      cases hplan
    | manage request =>
      rw [hr] at hplan
      obtain ⟨body, provider, ownerType, secret, hcan, -, rfl⟩ := hplan
      constructor
      · rintro (hplatform : ownerType = .platform)
        rw [assertCanCreateCredential, if_pos hplatform, requireAccess_ok,
          managesProviders_manage hr] at hcan
        cases hcan
      intro owner howner
      have hnamed : truthyText (if ownerType = .user then some request.session.userId
          else none) = some owner := howner
      split at hnamed
      · have hfilt := Option.eq_some_of_filter_eq_some hnamed
        exact hfilt
      · cases hnamed
  | _ => cases hop

/-- An update is of the row that was found last; it names no user, or the one of the request. -/
theorem planned_update {op : CredentialCall}
    {id : String} (hplan : Planned env r.request past op) (hop : op.updates = some id) :
    ∃ record user, lastFound past = some record ∧ record.id = id ∧ r.request.userId = some user ∧
      ∀ owner, truthyText record.userId = some owner → owner = user := by
  cases hr : r.request with
  | writePolicy policy =>
    rw [hr] at hplan
    cases hplan
    cases hop
  | manage request =>
    rw [hr] at hplan
    have hmanage := managesProviders_manage hr
    cases op with
    | rotateWithLogs input =>
      cases hop
      obtain ⟨body, existing, provider, secret, hfound, hcan, -, rfl⟩ := hplan
      exact ⟨existing, _, hfound, rfl, rfl, (assertCanRotateCredential_ok hmanage hcan).2⟩
    | revokeWithLogs input =>
      cases hop
      obtain ⟨body, existing, hfound, hcan, -, rfl⟩ := hplan
      exact ⟨existing, _, hfound, rfl, rfl, (assertCanRotateCredential_ok hmanage hcan).2⟩
    | validateWithLogs input =>
      cases hop
      obtain ⟨existing, provider, secret, hfound, hown, -, -, rfl⟩ := hplan
      refine ⟨existing, _, hfound, rfl, rfl, fun owner howner => ?_⟩
      rw [(assertUserApiKeyOwnership_ok hown).2] at howner
      exact (Option.some.inj howner).symm
    | _ => cases hop

theorem ownersKnown_next {s s' : OwnerState}
    {l : Label Exception OwnerRequest} (hnext : (ownerMachine env).next l s = some s')
    (h : OwnersKnown env s) : OwnersKnown env s' := by
  have hkept := h.kept.next (fun _ _ => trivial) (fun _ _ => trivial)
    (fun r => handleCredential_upholds env r.request) hnext
  rcases (ownerMachine env).next_cases hnext with ⟨req, rfl, rfl⟩ |
    ⟨pid, req, op, k, rfl, hp, rfl⟩ | ⟨pid, e, req, op, k, rfl, hp, rfl⟩
  · exact ⟨hkept, h.unshared, fun id record owner hrow howner =>
      didBy_next hnext (h.creator id record owner hrow howner), h.found⟩
  · have hplan : Planned env req.request (history pid s.log) op := (h.kept.procs pid _ hp).1
    -- a row of the new table is one of the old table with the same owner, or the inserted one
    have hrow : ∀ id row, (op.exec s.store).2.byId id = some row →
        (∃ old, s.store.byId id = some old ∧ row.ownerType = old.ownerType ∧
          row.userId = old.userId) ∨
        s.store.byId id = none ∧ op.inserts = some row ∧ row.id = id := by
      intro id row hbyId
      rcases exec_row hbyId with ⟨old, hold, ⟨-, rfl⟩ | ⟨-, rfl⟩⟩ | hnew
      · exact .inl ⟨old, hold, by simp, by simp⟩
      · exact .inl ⟨row, hold, rfl, rfl⟩
      · exact .inr hnew
    refine ⟨hkept, ?_, ?_, ?_⟩
    · intro id row hbyId
      rcases hrow id row hbyId with ⟨old, hold, howner, -⟩ | ⟨-, hinserts, -⟩
      · rw [howner]
        exact h.unshared id old hold
      · exact (planned_insert hplan hinserts).1
    · intro id row owner hbyId howner
      rcases hrow id row hbyId with ⟨old, hold, -, huser⟩ | ⟨hnone, hinserts, hid⟩
      · rw [huser] at howner
        exact didBy_next hnext (h.creator id old owner hold howner)
      -- the new row: its creation is the last entry of the log
      refine (didBy_call hp _ _).mpr (.inr ⟨?_, (planned_insert hplan hinserts).2 owner howner⟩)
      have hok := exec_insert hinserts (by rw [hid]; exact hnone)
      show (if (op.exec s.store).1.isOk then op.inserts.map (·.id) else none) = some id
      rw [if_pos hok, hinserts, Option.map_some, hid]
    · intro pid' id record hmem
      rcases List.mem_append.mp hmem with hold | hnew
      · obtain ⟨row, hbyId, howner, huser⟩ := h.found pid' id record hold
        obtain ⟨row', hbyId', howner', huser'⟩ := exec_keeps op hbyId
        exact ⟨row', hbyId', howner'.trans howner, huser'.trans huser⟩
      -- the row that has just been found
      rw [List.mem_singleton] at hnew
      injection hnew with hpid hop hres
      subst hop
      have hans : s.store.byId id = some record := by
        have := eq_of_heq hres
        exact (Except.ok.inj this).symm
      rw [← byId_id hans] at hans
      exact ⟨record, hans, rfl, rfl⟩
  · refine ⟨hkept, h.unshared, fun id record owner hrow howner =>
      didBy_next hnext (h.creator id record owner hrow howner), ?_⟩
    intro pid' id record hmem
    rcases List.mem_append.mp hmem with hold | hnew
    · exact h.found pid' id record hold
    · grind

/-! ## One step -/

section Step

variable {env : CredentialEnv} {s s' : OwnerState} {l : Label Exception OwnerRequest}

variable {req : OwnerRequest}

variable {id : String}

/-- A new request has done nothing yet. -/
theorem didBy_start {did : CredentialEvent → Option String} {user : String}
    (hknown : OwnersKnown env s) (hnext : (ownerMachine env).next (.start req) s = some s')
    (h : didBy did s' user id) : didBy did s user id := by
  obtain rfl : { s with procs := s.procs ++ [(req, (ownerMachine env).code req)] } = s' :=
    Option.some.inj hnext
  obtain ⟨e, he, hdid, huser⟩ := didBy_iff.mp h
  refine didBy_iff.mpr ⟨e, he, hdid, ?_⟩
  obtain ⟨i, hi⟩ := List.mem_iff_getElem?.mp he
  obtain ⟨q, hq, -⟩ := hknown.kept.events i e hi
  have hlt : e.pid < s.procs.length := (List.getElem?_eq_some_iff.mp hq).1
  rw [← huser]
  show s.procs[e.pid]?.bind _ = (s.procs ++ _)[e.pid]?.bind _
  rw [List.getElem?_append_left hlt]

theorem updates_of_created {e : CredentialEvent} (h : created e = some id) :
    e.op.updates = none := by
  cases hupdates : e.op.updates with
  | none => rfl
  | some id' => grind [created, inserts_of_updates]

variable {store : CredentialTables}

/-- A call that updates nothing, or that fails, leaves it to the calls before. -/
theorem CreatorsOnly.of_unchanged {pid : ℕ} {op : CredentialCall}
    {k : Except Exception op.Res → CredentialProg CredentialResponse}
    (hp : s.procs[pid]? = some (req, .call op k)) {r : Except Exception op.Res}
    (hs : CreatorsOnly s) (hr : changed ⟨pid, op, r⟩ = none) :
    CreatorsOnly ⟨store, s.procs.set pid (req, k r), s.log ++ [⟨pid, op, r⟩]⟩ := by
  intro user id hchanged
  rcases (didBy_call hp r store).mp hchanged with hold | ⟨hnew, -⟩
  · exact (didBy_call hp r store).mpr (.inl (hs user id hold))
  · rw [hr] at hnew
    cases hnew

/-- An update that succeeds: the question is whether its user has created the credential. -/
theorem CreatorsOnly.update_iff {pid : ℕ} {op : CredentialCall}
    {k : Except Exception op.Res → CredentialProg CredentialResponse}
    (hp : s.procs[pid]? = some (req, .call op k)) {r : Except Exception op.Res} {user : String}
    (hs : CreatorsOnly s)
    (hr : changed ⟨pid, op, r⟩ = some id) (hop : op.updates = some id)
    (huser : req.request.userId = some user) :
    CreatorsOnly ⟨store, s.procs.set pid (req, k r), s.log ++ [⟨pid, op, r⟩]⟩ ↔
      didBy created s user id := by
  constructor
  · intro h
    have hnew := h user id ((didBy_call hp r store).mpr (.inr ⟨hr, huser⟩))
    rcases (didBy_call hp r store).mp hnew with hold | ⟨hcreated, -⟩
    · exact hold
    · rw [updates_of_created hcreated] at hop
      cases hop
  intro hown user' id' hchanged
  refine (didBy_call hp r store).mpr (.inl ?_)
  rcases (didBy_call hp r store).mp hchanged with hold | ⟨hnew, huser'⟩
  · exact hs user' id' hold
  · grind

theorem creatorsOnly_next (hknown : OwnersKnown env s) (hs : CreatorsOnly s)
    (hnext : (ownerMachine env).next l s = some s') : CreatorsOnly s' ↔ namedOrOwn s l = true := by
  rcases (ownerMachine env).next_cases hnext with ⟨req, rfl, -⟩ |
    ⟨pid, req, op, k, rfl, hp, rfl⟩ | ⟨pid, e, req, op, k, rfl, hp, rfl⟩
  · refine iff_of_true (fun user id hchanged => didBy_next hnext ?_) rfl
    exact hs user id (didBy_start hknown hnext hchanged)
  · have hplan : Planned env req.request (history pid s.log) op := (hknown.kept.procs pid _ hp).1
    cases hop : op.updates with
    | none =>
      refine iff_of_true (hs.of_unchanged hp ?_) (by simp [namedOrOwn, hp, hop])
      simp [changed, hop]
    | some id =>
      obtain ⟨record, user, hfound, rfl, huser, hnamed⟩ := planned_update hplan hop
      obtain ⟨row, hrow, -, hsame⟩ := hknown.lastFound hfound
      have hchanged : changed ⟨pid, op, (op.exec s.store).1⟩ = some record.id := by
        simp [changed, hop, exec_update hop, hrow]
      have hcond : namedOrOwn s (.step pid) =
          ((truthyText row.userId).isSome || didBy created s user record.id) := by
        simp [namedOrOwn, hp, hop, hrow, huser]
      refine (hs.update_iff hp hchanged hop huser).trans ?_
      rw [hcond, Bool.or_eq_true]
      constructor
      · exact .inr
      rintro (hsome | hown)
      · -- the row names a user: it is the one of the request, and has created the row
        obtain ⟨owner, howner⟩ := Option.isSome_iff_exists.mp hsome
        have hcreator := hknown.creator _ row owner hrow howner
        rw [hsame] at howner
        rwa [hnamed owner howner] at hcreator
      · exact hown
  · exact iff_of_true (hs.of_unchanged hp rfl) rfl

end Step

/-! ## The main result -/

/-- In every run of requests of users without `ai_providers:manage`, under any policy: only
their creators change credentials, exactly if no update runs on a row that names no user and
that somebody else has created. -/
theorem creatorsOnly_iff (env : CredentialEnv) (policy : Option AiProviderPolicyRecord)
    (ls : List (Label Exception OwnerRequest)) :
    (ownerMachine env).AllStates CreatorsOnly ls (initial (noCredentials policy)) ↔
      (ownerMachine env).AllSteps (fun s l => namedOrOwn s l) ls
        (initial (noCredentials policy)) := by
  refine (ownerMachine env).allStates_iff_allSteps (K := OwnersKnown env)
    (fun s l s' hK hnext => ownersKnown_next hnext hK)
    (fun s l s' hK hs hnext => creatorsOnly_next hK hs hnext) ?_ (ownersKnown_initial env policy)
  intro user id hchanged
  cases hchanged

/-! ## A credential of a workspace -/

theorem userRequest_unprivileged (userId : String) (action : CredentialAction) (now : ℤ) :
    (userRequest userId action now).managesProviders = false := by
  simp [userRequest, CredentialRequest.managesProviders, canManageAiProviders, evaluateAccess_eq,
    userSession, authenticatedUserPermissions]

def ownerRequest (userId : String) (action : CredentialAction) (now : ℤ) : OwnerRequest where
  request := userRequest userId action now
  unprivileged := userRequest_unprivileged userId action now

def createWorkspaceKey : CredentialAction :=
  .create
    { provider := some "openrouter"
      ownerType := some "workspace"
      ownerId := none
      secret := some "sk-or-1234567890"
      scopes := none
      label := none }

def revokeKey : CredentialAction :=
  .revoke
    { credentialId := some "credential-1"
      reason := none }

/-- Ann creates a credential of a workspace, and Bob revokes it. -/
def bobRevokes : List (Label Exception OwnerRequest) :=
  [.start (ownerRequest "ann" createWorkspaceKey 10), .step 0, .step 0,
    .start (ownerRequest "bob" revokeKey 20), .step 1, .step 1]

def revokedByBob (s : OwnerState) : Bool :=
  didBy changed s "bob" "credential-1" && !didBy created s "bob" "credential-1" &&
    s.store.credentials.map (fun record => (record.validationStatus, record.revokedAt)) ==
      [(.revoked, some 20)]

/-- The same requests with the access decisions of users. -/
def userMachine (env : CredentialEnv) :
    Machine CredentialCall CredentialCall.Res Exception CredentialResponse CredentialTables
      OwnerRequest where
  exec := CredentialCall.exec
  code := fun r => handleAsUser env r.request

theorem userMachine_trace {C : OwnerState → Label Exception OwnerRequest → Bool}
    {ls : List (Label Exception OwnerRequest)}
    (hls : ∀ r, .start r ∈ ls → r.request.byAdmin = false) (s : OwnerState) :
    (userMachine env).trace C ls s = (ownerMachine env).trace C ls s := by
  have hexec : (userMachine env).exec = (ownerMachine env).exec := rfl
  exact (ownerMachine env).trace_congr hexec (fun r hr => handleAsUser_eq (hls r hr)) s

/-- Bob revokes the credential that Ann has created. -/
theorem workspace_credential_revoked : ∃ s : OwnerState,
      (ownerMachine plainEnv).Reaches (fun s l => anyStep s l)
        (initial (noCredentials (some sharingPolicy))) s ∧
      s.store.credentials.map (fun record => (record.validationStatus, record.revokedAt)) =
        [(.revoked, some 20)] ∧
      ¬ CreatorsOnly s := by
  have hcheck : ((userMachine plainEnv).trace anyStep bobRevokes
      (initial (noCredentials (some sharingPolicy)))).map revokedByBob = some true := by
    decide
  have husers : ∀ r, .start r ∈ bobRevokes → r.request.byAdmin = false := by
    intro r hr
    simp only [bobRevokes, List.mem_cons, Label.start.injEq, reduceCtorEq, false_or, or_false,
      List.not_mem_nil] at hr
    rcases hr with rfl | rfl <;> rfl
  rw [userMachine_trace husers] at hcheck
  rcases Option.map_eq_some_iff.mp hcheck with ⟨s, htrace, hp⟩
  simp only [revokedByBob, Bool.and_eq_true, beq_iff_eq] at hp
  rcases hp with ⟨⟨hchanged, hcreated⟩, hrows⟩
  refine ⟨s, (ownerMachine plainEnv).reaches_of_trace htrace, hrows, fun hcreators => ?_⟩
  rw [hcreators "bob" "credential-1" hchanged] at hcreated
  cases hcreated

end QuizMind.Providers

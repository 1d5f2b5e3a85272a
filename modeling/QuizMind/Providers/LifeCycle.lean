import QuizMind.Providers.Coherence

/-! # The life cycle of a credential

Any requests of any sessions, interleaved call by call.

* `coherent_iff`: status, secret and hints of every row agree, exactly if every update leaves
  a secret that ends as the one its request has found, and no test is written on a revoked row.
  A rotation alone to a secret that ends otherwise leaves the old hint (`rotated_key_hint`).
* `lifeCycle_of_fresh`: when moreover no key of a user is rotated by a request that started
  before a revocation of it, a revoked key comes back only through a rotation that started
  later. Without that it comes back by itself (`revoked_key_found`).

A revocation is reported by the request that writes it, whose last call it is; requests that
find the row revoked report the same one.
-/

namespace QuizMind.Providers

open Async
open Ai (AiProvider AiProviderPolicyRecord CredentialOwnerType CredentialValidationStatus)
open RemoteConfig (JsString js)
open Machine (anyStep initial)

abbrev CredentialState :=
  Snapshot CredentialCall CredentialCall.Res Exception CredentialResponse CredentialTables
    CredentialRequest

def credentialMachine (env : CredentialEnv) :
    Machine CredentialCall CredentialCall.Res Exception CredentialResponse CredentialTables
      CredentialRequest where
  exec := CredentialCall.exec
  code := handleCredential env

/-! ## What the proxy finds -/

def LatestCredentialFirst (a b : ProviderCredentialRecord) : Prop :=
  Ai.LatestFirst a.proxyColumns b.proxyColumns

instance : DecidableRel LatestCredentialFirst := fun a b =>
  inferInstanceAs (Decidable (Ai.LatestFirst a.proxyColumns b.proxyColumns))

/-- `AiProxyRepository.findBestUserCredential`, with the id of the row. -/
def findBestUserCredential (provider : AiProvider) (userId : String) (s : CredentialTables) :
    Option ProviderCredentialRecord :=
  (Table.select LatestCredentialFirst
    (fun record => Ai.isUserCredential provider userId record.proxyColumns) 1 s.credentials).head?

variable {record : ProviderCredentialRecord}

/-- Only an unrevoked key of the user is found. -/
theorem findBestUserCredential_spec {provider : AiProvider} {userId : String} {s : CredentialTables}
    (h : findBestUserCredential provider userId s = some record) :
    record ∈ s.credentials ∧ record.ownerType = .user ∧ record.revokedAt = none := by
  obtain ⟨hmem, hmatch⟩ := Table.mem_of_mem_select (List.mem_of_head? h)
  simp only [Ai.isUserCredential, Ai.ProviderCredential.isUsable, Bool.and_eq_true] at hmatch
  rcases hmatch with ⟨⟨⟨-, ⟨-, hrev⟩, -⟩, howner⟩, -⟩
  exact ⟨hmem, of_decide_eq_true howner, of_decide_eq_true hrev⟩

/-! ## Revocations and rotations -/

/-- The credential that a call has revoked. -/
def revokes (e : CredentialEvent) : Option String :=
  match e with
  | ⟨_, .revokeWithLogs input, .ok _⟩ => some input.credentialId
  | _ => none

/-- The credential whose secret a call has replaced. -/
def rotates (e : CredentialEvent) : Option String :=
  match e with
  | ⟨_, .rotateWithLogs input, .ok _⟩ => some input.credentialId
  | _ => none

/-- The `i`-th call has revoked the credential. -/
def RevokedAt (log : List CredentialEvent) (i : ℕ) (id : String) : Prop :=
  log[i]?.bind revokes = some id

/-- No call of the request is among the calls up to the `i`-th one. -/
def StartedAfter (log : List CredentialEvent) (i pid : ℕ) : Prop :=
  ∀ e ∈ log.take (i + 1), e.pid ≠ pid

instance (log : List CredentialEvent) (i pid : ℕ) : Decidable (StartedAfter log i pid) :=
  inferInstanceAs (Decidable (∀ e ∈ log.take (i + 1), e.pid ≠ pid))

/-- A rotation that started after the `i`-th call has replaced the secret. -/
def ReplacedAfter (log : List CredentialEvent) (i : ℕ) (id : String) : Prop :=
  ∃ e ∈ log, rotates e = some id ∧ StartedAfter log i e.pid

instance (log : List CredentialEvent) (i : ℕ) (id : String) : Decidable (ReplacedAfter log i id) :=
  inferInstanceAs (Decidable (∃ e ∈ log, rotates e = some id ∧ StartedAfter log i e.pid))

structure LifeCycle (env : CredentialEnv) (s : CredentialState) : Prop where
  coherent : ∀ record ∈ s.store.credentials, Coherent env record
  returned : ∀ provider userId record,
    findBestUserCredential provider userId s.store = some record →
      ∀ i, RevokedAt s.log i record.id → ReplacedAfter s.log i record.id

/-! ## The conditions -/

/-- The update leaves a secret that ends as the one that was found, and is no test of a revoked
row. -/
def agrees (env : CredentialEnv) (op : CredentialCall) (row found : ProviderCredentialRecord) :
    Bool :=
  ending env (op.change row).encryptedSecretJson = ending env found.encryptedSecretJson &&
    match op with
    | .validateWithLogs _ => row.revokedAt.isNone
    | _ => true

/-- The update that runs next agrees with the row that its request has found. -/
def updatesWhatItFound (env : CredentialEnv) (s : CredentialState) :
    Label Exception CredentialRequest → Bool
  | .step pid =>
    match s.procs[pid]? with
    | some (_, .call op _) =>
      match op.updates.bind s.store.byId, lastFound (history pid s.log) with
      | some row, some found => agrees env op row found
      | _, _ => true
    | _ => true
  | _ => true

/-- A call since the first one of the request has revoked the credential. -/
def revokedSinceStart (log : List CredentialEvent) (pid : ℕ) (id : String) : Bool :=
  (log.dropWhile fun e => e.pid ≠ pid).any fun e => revokes e = some id

/-- The rotation that runs next is of a key that nobody has revoked since the request started;
only the keys of users matter. -/
def rotatesUnrevoked (s : CredentialState) : Label Exception CredentialRequest → Bool
  | .step pid =>
    match s.procs[pid]? with
    | some (_, .call (.rotateWithLogs input) _) =>
      match s.store.byId input.credentialId with
      | some row => row.ownerType ≠ .user || !revokedSinceStart s.log pid input.credentialId
      | none => true
    | _ => true
  | _ => true

def fresh (env : CredentialEnv) (s : CredentialState) (l : Label Exception CredentialRequest) :
    Bool :=
  updatesWhatItFound env s l && rotatesUnrevoked s l

/-! ## Planned writes and the columns -/

section Plans

variable {env : CredentialEnv} {request : CredentialRequest} {past : List CredentialTold}
  {op : CredentialCall}

theorem planned_insert_sound {record : ProviderCredentialRecord}
    (hplan : Planned env request past op) (hop : op.inserts = some record) : Sound env record := by
  cases op with
  | createWithLogs input =>
    cases hop
    cases request with
    | writePolicy policy => cases hplan
    | manage request =>
      obtain ⟨body, provider, ownerType, secret, -, hsecret, rfl⟩ := hplan
      obtain ⟨rfl, hlen⟩ := accepted_ok hsecret
      exact created_sound (jsTrim_jsTrim _) hlen
  | _ => cases hop

/-- An update leaves an accepted secret, and agreeing columns exactly if it agrees with the
row that was found. -/
theorem planned_update_sound {id : String} (hplan : Planned env request past op)
    (hop : op.updates = some id) :
    ∃ found, lastFound past = some found ∧ ∀ row, Sound env found →
      Accepted env row.encryptedSecretJson → Accepted env (op.change row).encryptedSecretJson ∧
          (Coherent env (op.change row) ↔ agrees env op row found = true) := by
  cases request with
  | writePolicy policy =>
    cases hplan
    cases hop
  | manage request =>
    cases op with
    | rotateWithLogs input =>
      obtain ⟨body, found, provider, secret, hfound, -, hsecret, rfl⟩ := hplan
      obtain ⟨rfl, hlen⟩ := accepted_ok hsecret
      refine ⟨found, hfound, fun row hsound _ => ?_⟩
      refine ⟨accepted_encrypted _ (jsTrim_jsTrim _) hlen, ?_⟩
      refine (rotated_coherent_iff hsound hlen).trans ?_
      simp only [agrees, Bool.and_true, decide_eq_true_eq]
      rfl
    | revokeWithLogs input =>
      obtain ⟨body, found, hfound, -, -, rfl⟩ := hplan
      refine ⟨found, hfound, fun row hsound hrow => ⟨hrow, ?_⟩⟩
      refine (revoked_coherent_iff hsound hrow).trans ?_
      simp only [agrees, Bool.and_true, decide_eq_true_eq]
      rfl
    | validateWithLogs input =>
      obtain ⟨found, provider, secret, hfound, -, -, hsecret, rfl⟩ := hplan
      refine ⟨found, hfound, fun row hsound hrow => ⟨hrow, ?_⟩⟩
      refine (validated_coherent_iff hsound hrow hsecret).trans ?_
      simp only [agrees, Bool.and_eq_true, decide_eq_true_eq, Option.isNone_iff_eq_none]
      rfl
    | _ => cases hop

end Plans

/-! ## The columns along a run -/

/-- The rows are sound, and so is every row that was found. -/
structure Standing (env : CredentialEnv) (s : CredentialState) : Prop where
  kept : Machine.Kept (fun _ _ => True) (Planned env) (fun _ _ _ => True) s
  unique : s.store.Unique
  sound : ∀ id row, s.store.byId id = some row → Sound env row
  found : ∀ pid id record, (⟨pid, .findById id, .ok (some record)⟩ : CredentialEvent) ∈ s.log →
    Sound env record

theorem standing_initial (env : CredentialEnv) (policy : Option AiProviderPolicyRecord) :
    Standing env (initial (noCredentials policy)) where
  kept := Machine.Kept.initial _
  unique := List.nodup_nil
  sound _ _ h := absurd h (Option.some_ne_none _).symm
  found _ _ _ h := absurd h List.not_mem_nil

section Run

variable {env : CredentialEnv} {s s' : CredentialState} {l : Label Exception CredentialRequest}

theorem Standing.lastFound (h : Standing env s) {pid : ℕ} {record : ProviderCredentialRecord}
    (hfound : lastFound (history pid s.log) = some record) : Sound env record := by
  obtain ⟨id, hmem⟩ := lastFound_mem hfound
  exact h.found pid id record (mem_history.mp hmem)

/-- The columns of a row that is updated agree exactly if the update agrees with the row that
its request has found. -/
theorem Standing.update (h : Standing env s) {pid : ℕ} {req : CredentialRequest}
    {op : CredentialCall} {k : Except Exception op.Res → CredentialProg CredentialResponse}
    (hp : s.procs[pid]? = some (req, .call op k)) {id : String} (hop : op.updates = some id)
    {row : ProviderCredentialRecord} (hrow : s.store.byId id = some row) :
    Accepted env (op.change row).encryptedSecretJson ∧
      (Coherent env (op.change row) ↔ updatesWhatItFound env s (.step pid) = true) := by
  have hplan : Planned env req (history pid s.log) op := (h.kept.procs pid _ hp).1
  obtain ⟨found, hfound, hupd⟩ := planned_update_sound hplan hop
  have hcond : updatesWhatItFound env s (.step pid) = agrees env op row found := by
    simp [updatesWhatItFound, hp, hop, hrow, hfound]
  rw [hcond]
  exact hupd row (h.lastFound hfound) (h.sound id row hrow).accepted

theorem standing_next (h : Standing env s) (hnext : (credentialMachine env).next l s = some s')
    (hC : updatesWhatItFound env s l = true) : Standing env s' := by
  have hkept := h.kept.next (fun _ _ => trivial) (fun _ _ => trivial)
    (handleCredential_upholds env) hnext
  rcases (credentialMachine env).next_cases hnext with ⟨req, rfl, rfl⟩ |
    ⟨pid, req, op, k, rfl, hp, rfl⟩ | ⟨pid, e, req, op, k, rfl, hp, rfl⟩
  · exact ⟨hkept, h.unique, h.sound, h.found⟩
  · have hplan : Planned env req (history pid s.log) op := (h.kept.procs pid _ hp).1
    refine ⟨hkept, exec_unique op h.unique, ?_, ?_⟩
    · intro id row hbyId
      rcases exec_row hbyId with ⟨old, hold, ⟨hop, rfl⟩ | ⟨-, rfl⟩⟩ | ⟨-, hinserts, -⟩
      · obtain ⟨hacc, hcoherent⟩ := h.update hp hop hold
        exact ⟨hacc, hcoherent.mpr hC⟩
      · exact h.sound id row hold
      · exact planned_insert_sound hplan hinserts
    intro pid' id record hmem
    rcases List.mem_append.mp hmem with hold | hnew
    · exact h.found pid' id record hold
    -- the answer is a row of the table
    rw [List.mem_singleton] at hnew
    injection hnew with hpid hop hres
    subst hop
    have hans : s.store.byId id = some record := (Except.ok.inj (eq_of_heq hres)).symm
    exact h.sound id record hans
  · refine ⟨hkept, h.unique, h.sound, ?_⟩
    intro pid' id record hmem
    rcases List.mem_append.mp hmem with hold | hnew
    · exact h.found pid' id record hold
    · grind

/-- The columns of every row agree. -/
def AllCoherent (env : CredentialEnv) (s : CredentialState) : Prop :=
  ∀ record ∈ s.store.credentials, Coherent env record

theorem Standing.allCoherent (h : Standing env s) : AllCoherent env s :=
  fun record hmem => (h.sound record.id record (h.unique.byId hmem)).coherent

end Run

/-! ## Revocations along a run -/

section Log

variable {log : List CredentialEvent} {e : CredentialEvent} {i pid : ℕ} {id : String}

theorem RevokedAt.lt (h : RevokedAt log i id) : i < log.length := by
  obtain ⟨e, he, -⟩ := Option.bind_eq_some_iff.mp h
  exact (List.getElem?_eq_some_iff.mp he).1

theorem RevokedAt.append (h : RevokedAt (log ++ [e]) i id) :
    RevokedAt log i id ∨ revokes e = some id := by
  by_cases hi : i < log.length
  · have hold : (log ++ [e])[i]?.bind revokes = some id := h
    rw [List.getElem?_append_left hi] at hold
    exact .inl hold
  -- the last call is the new one
  have hlt := h.lt
  rw [List.length_append, List.length_singleton] at hlt
  obtain rfl : i = log.length := by omega
  simpa [RevokedAt] using h

/-- Later calls come after. -/
theorem StartedAfter.append (hi : i < log.length) (h : StartedAfter log i pid) :
    StartedAfter (log ++ [e]) i pid := by grind [StartedAfter]

theorem ReplacedAfter.append (hi : i < log.length) (h : ReplacedAfter log i id) :
    ReplacedAfter (log ++ [e]) i id := by
  rcases h with ⟨e', he', hrotates, hstarted⟩
  exact ⟨e', List.mem_append_left _ he', hrotates, hstarted.append hi⟩

/-- When no revocation comes after the first call of the request, the request started after
every revocation. -/
theorem startedAfter_of_revokedSinceStart (h : revokedSinceStart log pid id = false)
    (hi : RevokedAt log i id) : StartedAfter log i pid := by
  rintro e he hpid
  obtain ⟨e', he', hrevokes⟩ := Option.bind_eq_some_iff.mp hi
  obtain ⟨j, hj⟩ := List.mem_iff_getElem?.mp he
  have hji : j < i + 1 := by grind
  rw [List.getElem?_take_of_lt hji] at hj
  -- the calls before the first one of the request, and the others
  have hsplit := List.takeWhile_append_dropWhile (p := fun e : CredentialEvent => e.pid ≠ pid)
    (l := log)
  have hbefore : (log.takeWhile fun e => e.pid ≠ pid).length ≤ j := by
    by_contra hlt
    rw [← hsplit, List.getElem?_append_left (by omega)] at hj
    have hne := List.mem_takeWhile_imp (List.mem_of_getElem? hj)
    simp [hpid] at hne
  rw [← hsplit, List.getElem?_append_right (by omega)] at he'
  have hany : revokedSinceStart log pid id = true :=
    List.any_eq_true.mpr ⟨e', List.mem_of_getElem? he', by simpa using hrevokes⟩
  rw [hany] at h
  cases h

theorem updates_of_revokes (h : revokes e = some id) :
    e.op.updates = some id ∧ e.result.isOk = true := by
  unfold revokes at h
  split at h
  · exact ⟨h, rfl⟩
  · cases h

theorem rotates_of_isOk {input : RotateProviderCredentialInput}
    {r : Except Exception ProviderCredentialRecord} (h : r.isOk = true) :
    rotates ⟨pid, .rotateWithLogs input, r⟩ = some input.credentialId := by
  cases r with
  | ok record => rfl
  | error e => cases h

end Log

/-- A key of a user that has been revoked and is not any more was rotated by a later request. -/
structure Revocations (s : CredentialState) : Prop where
  present : ∀ i id, RevokedAt s.log i id → (s.store.byId id).isSome
  replaced : ∀ id row, s.store.byId id = some row → row.ownerType = .user →
    row.revokedAt = none → ∀ i, RevokedAt s.log i id → ReplacedAfter s.log i id

theorem revocations_initial (store : CredentialTables) :
    Revocations (initial store : CredentialState) where
  present i _ hi := absurd hi.lt (Nat.not_lt_zero i)
  replaced _ _ _ _ _ i hi := absurd hi.lt (Nat.not_lt_zero i)

section Run

variable {env : CredentialEnv} {s s' : CredentialState} {l : Label Exception CredentialRequest}

/-- An update that revokes nothing and leaves the row unrevoked is a rotation, or the row was
not revoked before. -/
theorem change_revokedAt {op : CredentialCall} {row : ProviderCredentialRecord} {id : String}
    (hop : op.updates = some id) (hnone : (op.change row).revokedAt = none) :
    (∃ input, op = .rotateWithLogs input) ∨
      row.revokedAt = none ∧ ∃ input, op = .validateWithLogs input := by
  cases op with
  | rotateWithLogs input => exact .inl ⟨input, rfl⟩
  | revokeWithLogs input => cases hnone
  | validateWithLogs input => exact .inr ⟨hnone, input, rfl⟩
  | _ => cases hop

theorem revocations_next (h : Revocations s) (hnext : (credentialMachine env).next l s = some s')
    (hC : rotatesUnrevoked s l = true) : Revocations s' := by
  rcases (credentialMachine env).next_cases hnext with ⟨req, rfl, rfl⟩ |
    ⟨pid, req, op, k, rfl, hp, rfl⟩ | ⟨pid, e, req, op, k, rfl, hp, rfl⟩
  · exact ⟨h.present, h.replaced⟩
  · constructor
    · intro i id hi
      have hsome : (s.store.byId id).isSome := by
        rcases hi.append with hold | hrevokes
        · exact h.present i id hold
        -- the revocation has found its row
        obtain ⟨hop, hok⟩ := updates_of_revokes hrevokes
        exact (exec_update hop).symm.trans hok
      obtain ⟨row, hrow⟩ := Option.isSome_iff_exists.mp hsome
      obtain ⟨row', hrow', -⟩ := exec_keeps op hrow
      exact Option.isSome_iff_exists.mpr ⟨row', hrow'⟩
    · intro id row hbyId howner hnone i hi
      rcases exec_row hbyId with ⟨old, hold, ⟨hop, rfl⟩ | ⟨hop, rfl⟩⟩ | ⟨hfree, hinserts, -⟩
      · have howner' : old.ownerType = .user := by simpa using howner
        rcases change_revokedAt hop hnone with ⟨input, rfl⟩ | ⟨hnone', input, rfl⟩
        · -- a rotation, of a request that started after every revocation
          obtain rfl : input.credentialId = id := Option.some.inj hop
          rcases hi.append with hi | hrevokes
          · have hunrevoked : revokedSinceStart s.log pid input.credentialId = false := by
              simpa [rotatesUnrevoked, hp, hold, howner'] using hC
            have hstarted := startedAfter_of_revokedSinceStart hunrevoked hi
            refine ⟨_, List.mem_append_right _ (List.mem_singleton_self _), ?_,
              hstarted.append hi.lt⟩
            refine rotates_of_isOk ?_
            exact (exec_update hop).trans (by rw [hold]; rfl)
          · cases hrevokes
        rcases hi.append with hi | hrevokes
        · exact (h.replaced id old hold howner' hnone' i hi).append hi.lt
        · cases hrevokes
      · rcases hi.append with hi | hrevokes
        · exact (h.replaced id row hold howner hnone i hi).append hi.lt
        · exact absurd (updates_of_revokes hrevokes).1 hop
      · -- a new credential has not been revoked
        rcases hi.append with hi | hrevokes
        · have hsome := h.present i id hi
          rw [hfree] at hsome
          cases hsome
        have hnone := inserts_of_updates (updates_of_revokes hrevokes).1
        rw [hinserts] at hnone
        cases hnone
  · have hold : ∀ i id, RevokedAt (s.log ++ [⟨pid, op, .error e⟩]) i id → RevokedAt s.log i id := by
      intro i id hi
      rcases hi.append with hi | hrevokes
      · exact hi
      · cases (updates_of_revokes hrevokes).2
    refine ⟨fun i id hi => h.present i id (hold i id hi), ?_⟩
    intro id row hrow howner hnone i hi
    have hi := hold i id hi
    exact (h.replaced id row hrow howner hnone i hi).append hi.lt

end Run

/-! ## The main result -/

theorem lifeCycle_of_standing {env : CredentialEnv} {s : CredentialState} (h : Standing env s)
    (hrevocations : Revocations s) : LifeCycle env s where
  coherent := h.allCoherent
  returned := by
    intro provider userId record hbest i hi
    obtain ⟨hmem, howner, hnone⟩ := findBestUserCredential_spec hbest
    exact hrevocations.replaced record.id record (h.unique.byId hmem) howner hnone i hi

/-- In every run in which all updates agree with what they have found, and no key of a user is
rotated by a request that started before a revocation of it. -/
theorem lifeCycle_of_fresh (env : CredentialEnv) (policy : Option AiProviderPolicyRecord)
    (ls : List (Label Exception CredentialRequest))
    (hfresh : (credentialMachine env).AllSteps (fun s l => fresh env s l) ls
      (initial (noCredentials policy))) :
    (credentialMachine env).AllStates (LifeCycle env) ls (initial (noCredentials policy)) := by
  have hgood : ∀ s l s', Standing env s ∧ Revocations s →
      (credentialMachine env).next l s = some s' → fresh env s l = true →
        Standing env s' ∧ Revocations s' := by
    rintro s l s' ⟨hstanding, hrevocations⟩ hnext hC
    simp only [fresh, Bool.and_eq_true] at hC
    exact ⟨standing_next hstanding hnext hC.1, revocations_next hrevocations hnext hC.2⟩
  have hlifeCycle : ∀ s, Standing env s ∧ Revocations s → LifeCycle env s :=
    fun s h => lifeCycle_of_standing h.1 h.2
  exact (credentialMachine env).allStates_of_allSteps hlifeCycle hgood
    ⟨standing_initial env policy, revocations_initial _⟩ hfresh

/-! ## A key of one user -/

/-- The same requests with the access decisions of users. -/
def userCredentialMachine (env : CredentialEnv) :
    Machine CredentialCall CredentialCall.Res Exception CredentialResponse CredentialTables
      CredentialRequest where
  exec := CredentialCall.exec
  code := handleAsUser env

def noAdmins (ls : List (Label Exception CredentialRequest)) : Bool :=
  ls.all fun l => match l with
    | .start request => !request.byAdmin
    | _ => true

theorem userCredentialMachine_trace {env : CredentialEnv}
    {C : CredentialState → Label Exception CredentialRequest → Bool}
    {ls : List (Label Exception CredentialRequest)} (hls : noAdmins ls = true)
    (s : CredentialState) :
    (userCredentialMachine env).trace C ls s = (credentialMachine env).trace C ls s := by
  have hexec : (userCredentialMachine env).exec = (credentialMachine env).exec := rfl
  refine (credentialMachine env).trace_congr hexec (fun request hreq => handleAsUser_eq ?_) s
  have huser := List.all_eq_true.mp hls _ hreq
  simpa using huser

def createKey : CredentialAction :=
  .createApiKey
    { provider := some "openrouter"
      label := none
      secret := some "sk-or-1234567890" }

def rotateKey (secret : String) : CredentialAction :=
  .rotate
    { credentialId := some "credential-1"
      secret := some secret
      scopes := none }

def revokeOwnKey : CredentialAction :=
  .revoke
    { credentialId := some "credential-1"
      reason := none }

/-- A key is created: two looks at the policy, and the row. -/
def createsKey : List (Label Exception CredentialRequest) :=
  [.start (userRequest "ann" createKey 10), .step 0, .step 0, .step 0]

/-- The key is tested, rotated to a secret that ends in the same characters, and revoked. -/
def testsRotatesRevokes : List (Label Exception CredentialRequest) :=
  createsKey ++
    [.start (userRequest "ann" (.testApiKey "credential-1") 20), .step 1, .step 1, .step 1,
      .start (userRequest "ann" (rotateKey "sk-or-abcdef7890") 30), .step 2, .step 2, .step 2,
      .start (userRequest "ann" revokeOwnKey 40), .step 3, .step 3]

/-- The key is rotated to a secret that ends otherwise. -/
def rotatesToOther : List (Label Exception CredentialRequest) :=
  createsKey ++
    [.start (userRequest "ann" (rotateKey "sk-or-abcdefghij") 20), .step 1, .step 1, .step 1]

/-- The start of the run with no credential, under the sharing policy. -/
def noKeys : CredentialState := initial (noCredentials (some sharingPolicy))

theorem lifeCycle_of_fresh_key :
    (credentialMachine plainEnv).AllStates (LifeCycle plainEnv) testsRotatesRevokes noKeys ∧
      ((credentialMachine plainEnv).trace (fresh plainEnv) testsRotatesRevokes noKeys).map
        (fun s => s.store.credentials.map (·.revokedAt)) = some [some 40] := by
  have hcheck : ((userCredentialMachine plainEnv).trace (fresh plainEnv) testsRotatesRevokes
      noKeys).map (fun s => s.store.credentials.map (·.revokedAt)) = some [some 40] := by decide
  rw [userCredentialMachine_trace (by decide)] at hcheck
  refine ⟨lifeCycle_of_fresh plainEnv (some sharingPolicy) testsRotatesRevokes ?_, hcheck⟩
  refine (credentialMachine plainEnv).allSteps_of_trace ?_
  have hsome := congrArg Option.isSome hcheck
  rwa [Option.isSome_map] at hsome

/-- What the key hint of a row says, and what its secret ends in. -/
def hintAndEnding (record : ProviderCredentialRecord) : Option JsString × Option JsString :=
  (match (readJsonObject record.metadataJson).lookup "keyHint" with
    | some (.string text) => some text
    | _ => none,
    ending plainEnv record.encryptedSecretJson)

theorem not_coherent_of_hint {hint last : JsString}
    (h : hintAndEnding record = (some hint, some last)) (hne : ¬ last <:+ hint) :
    ¬ Coherent plainEnv record := by
  intro hcoherent
  obtain ⟨last', hlast', ⟨text, htext, hsuffix⟩, -⟩ := hcoherent.hints
  simp only [hintAndEnding, htext, hlast', Prod.mk.injEq, Option.some.injEq] at h
  rcases h with ⟨rfl, rfl⟩
  exact hne hsuffix

/-- After a rotation the key hint is the one of the secret before. -/
theorem rotated_key_hint : ∃ s : CredentialState,
      (credentialMachine plainEnv).Reaches (fun s l => anyStep s l) noKeys s ∧
      s.store.credentials.map hintAndEnding = [(some (js "7890"), some (js "ghij"))] ∧
      ¬ LifeCycle plainEnv s := by
  have hcheck : ((userCredentialMachine plainEnv).trace anyStep rotatesToOther noKeys).map
      (fun s => s.store.credentials.map hintAndEnding) =
        some [(some (js "7890"), some (js "ghij"))] := by decide
  rw [userCredentialMachine_trace (by decide)] at hcheck
  rcases Option.map_eq_some_iff.mp hcheck with ⟨s, htrace, hhints⟩
  refine ⟨s, (credentialMachine plainEnv).reaches_of_trace htrace, hhints, fun h => ?_⟩
  -- there is one row
  obtain ⟨record, hrecords, hrecord⟩ := List.map_eq_singleton_iff.mp hhints
  have hmem : record ∈ s.store.credentials := by simp [hrecords]
  exact not_coherent_of_hint hrecord (by decide) (h.coherent record hmem)

end QuizMind.Providers

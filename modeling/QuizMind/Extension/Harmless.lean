import QuizMind.Extension.Ownership

/-! # Requests that leave an installation revoked

Once the sessions of an installation are revoked (`Sealed`), no token of it
authenticates, so a request that starts afterwards issues no session for it, whatever
it does (`code_harmless`), unless it is a bind or a rotate of the installation. While
every request in flight is harmless, the installation stays revoked (`Quiet`).
-/

namespace QuizMind

open Async
open Prog (safe_await_bind safe_bind)

/-! ## The statement -/

/-- No session of the installation is active, at any time. -/
def NoneActive (name : String) (s : ExtensionStore) : Prop :=
  ∀ x ∈ s.sessions, ∀ i ∈ s.installations, i.installationId = name →
    x.extensionInstallationId = i.id → ∀ now, x.active now = false

/-- A bind or a rotate of the installation. -/
def issuesFor (name : String) : ExtensionRequest → Bool
  | .bind _ request => request.installationId.map jsTrim == some name
  | .rotate _ request => request.installationId.map jsTrim == some name
  | _ => false

def isDisconnect : ExtensionRequest → Bool
  | .disconnect _ _ => true
  | .selfDisconnect _ _ => true
  | _ => false

/-- A request that `A` lets, a bind or a rotate of the installation, has issued
a session for it. -/
def IssuedBy (A : ℕ → Prop) (name : String)
    (s : Snapshot ExtensionCall ExtensionCall.Res Exception ExtensionReply ExtensionStore
      ExtensionRequest) : Prop :=
  ∃ pid data r, ⟨pid, .sessionCreate data, .ok r⟩ ∈ s.log ∧ A pid ∧
    (∃ row ∈ s.store.installations, row.id = data.extensionInstallationId ∧
      row.installationId = name) ∧
    ∃ q, s.procs[pid]? = some q ∧ issuesFor name q.1

/-- What the other requests are told once the sessions of installation `i` are
revoked: no token is found to be one of `i`, and no other name leads to `i`. -/
def toldWithout (i : ℕ) (name : String) : (call : ExtensionCall) → Except Exception call.Res → Prop
  | .installationFind installationId, r => ∀ x, r = .ok (some x) → x.id = i → installationId = name
  | .installationUpsert input, r => ∀ x, r = .ok x → x.id = i → input.installationId = name
  | .sessionFindActive _ _, r => ∀ x, r = .ok (some x) → x.installation.id ≠ i
  | _, _ => True

/-- The call issues no session for installation `i`. -/
def issuesNone (i : ℕ) : ExtensionCall → Prop
  | .sessionCreate data => data.extensionInstallationId ≠ i
  | _ => True

/-- Whatever it is told, the program issues no session for installation `i`. -/
abbrev Harmless {α : Type} (i : ℕ) (name : String) (p : ExtensionProg α) : Prop :=
  p.Safe (toldWithout i name) (issuesNone i)

/-- The installation that a disconnect has revoked the sessions of, while it
has not returned yet. -/
def reporting (q : ExtensionRequest × ExtensionProg ExtensionReply) : Option String :=
  match q with
  | (req, .call (.recordLifecycleEvent event) _) =>
    if isDisconnect req then some event.targetId else none
  | _ => none

/-- When a disconnect revokes the sessions, no other request can still issue a
session; and no bind or rotate starts until the disconnect has returned. -/
def othersHarmless :
    Snapshot ExtensionCall ExtensionCall.Res Exception ExtensionReply ExtensionStore
      ExtensionRequest → Label Exception ExtensionRequest → Prop
  | s, .step pid => ∀ req i revokedAt k,
      s.procs[pid]? = some (req, .call (.sessionRevokeActive i revokedAt) k) → isDisconnect req →
        ∀ row ∈ s.store.installations, row.id = i →
          ∀ j q, j ≠ pid → s.procs[j]? = some q → Harmless i row.installationId q.2
  | s, .start req => ∀ q ∈ s.procs, ∀ name, reporting q = some name → issuesFor name req = false
  | _, .fail _ _ => True

/-- What a disconnect returns in the step. -/
def returned (pid : ℕ)
    (s s' : Snapshot ExtensionCall ExtensionCall.Res Exception ExtensionReply ExtensionStore
      ExtensionRequest) : Option DisconnectResult :=
  match s.procs[pid]?, s'.procs[pid]? with
  | some (req, .call _ _), some (_, .ret (.disconnected r)) =>
    if isDisconnect req then some r else none
  | _, _ => none

/-! ## Revoked installations -/

/-- All sessions of installation `i` are revoked. -/
structure Sealed (i : ℕ) (name : String) (s : ExtensionStore) : Prop where
  tables : ExtensionTables s
  row : ∃ row ∈ s.installations, row.id = i ∧ row.installationId = name
  revoked : ∀ x ∈ s.sessions, x.extensionInstallationId = i → x.revokedAt.isSome

variable {s : ExtensionStore}

/-- Rows keep their identifiers. -/
theorem ExtensionCall.exec_rows (call : ExtensionCall)
    {row : ExtensionInstallation} (hrow : row ∈ s.installations) :
    ∃ row' ∈ (call.exec s).2.installations,
      row'.id = row.id ∧ row'.installationId = row.installationId := by
  have heff := call.exec_effect s
  generalize (call.exec s).2 = s' at heff
  cases heff with
  | @update input i hfound =>
    exact ⟨_, ExtensionStore.mem_updateInstallation.mpr ⟨row, hrow, rfl⟩,
      ExtensionStore.update_ids input row⟩
  | insert hnone => exact ⟨row, List.mem_append_left _ hrow, rfl, rfl⟩
  | _ => exact ⟨row, hrow, rfl, rfl⟩

theorem revokeWhere_revoked {p : InstallationSession → Bool} {revokedAt : ℤ}
    {i : ℕ} (h : ∀ x ∈ s.sessions, x.extensionInstallationId = i → x.revokedAt.isSome ∨ p x) :
    ∀ x ∈ (s.revokeWhere p revokedAt).sessions, x.extensionInstallationId = i →
      x.revokedAt.isSome := by
  intro x hx hid
  obtain ⟨y, hy, rfl⟩ := ExtensionStore.mem_revokeWhere.mp hx
  by_cases hp : p y
  · simp [hp]
  · grind

variable {name : String}

/-- A call that issues no session for the installation leaves it revoked. -/
theorem Sealed.exec {i : ℕ} (h : Sealed i name s)
    {call : ExtensionCall} (hcall : issuesNone i call ∨ ∃ e, (call.exec s).1 = .error e) :
    Sealed i name (call.exec s).2 := by
  refine ⟨h.tables.exec call, ?_, ?_⟩
  · obtain ⟨row, hrow, hid, hname⟩ := h.row
    obtain ⟨row', hrow', hid', hname'⟩ := call.exec_rows hrow
    exact ⟨row', hrow', hid'.trans hid, hname'.trans hname⟩
  have heff := call.exec_effect s
  have hrevoke : ∀ (p : InstallationSession → Bool) (revokedAt : ℤ),
      ∀ x ∈ (s.revokeWhere p revokedAt).sessions, x.extensionInstallationId = i →
        x.revokedAt.isSome := by
    intro p revokedAt
    exact revokeWhere_revoked fun x hx hid => Or.inl (h.revoked x hx hid)
  generalize (call.exec s).2 = s' at heff
  cases heff with
  | revokeActive => exact hrevoke _ _
  | revoke => exact hrevoke _ _
  | @create data j hfound hfree =>
    intro x hx hid
    rcases hcall with hnone | ⟨e, he⟩
    · rcases List.mem_append.mp hx with hold | hnew
      · exact h.revoked x hold hid
      · rw [List.mem_singleton] at hnew
        rw [hnew] at hid
        exact absurd hid hnone
    · -- the insertion has not failed
      simp [ExtensionCall.exec, hfound, hfree] at he
  | _ => exact h.revoked

/-- What the calls answer while the installation is revoked. -/
theorem Sealed.told {i : ℕ} (h : Sealed i name s)
    (call : ExtensionCall) : toldWithout i name call (call.exec s).1 := by
  obtain ⟨row, hrow, hid, hname⟩ := h.row
  cases call with
  | installationFind installationId =>
    intro x hx hxi
    obtain ⟨hmem, hx'⟩ := ExtensionStore.mem_of_installation (Except.ok.inj hx)
    have heq : x = row := List.inj_on_of_nodup_map h.tables.ids hmem hrow (hxi.trans hid.symm)
    rw [← hx', heq, hname]
  | installationUpsert input =>
    intro x hx hxi
    simp only [ExtensionCall.exec] at hx
    split at hx
    · rename_i j hfound
      obtain ⟨hmem, hj⟩ := ExtensionStore.mem_of_installation hfound
      have hxid : j.id = i := by
        rw [← hxi, ← Except.ok.inj hx]
      have heq : j = row := List.inj_on_of_nodup_map h.tables.ids hmem hrow (hxid.trans hid.symm)
      rw [← hj, heq, hname]
    -- a new row has a new identifier
    have hxid : s.fresh = i := by
      rw [← hxi, ← Except.ok.inj hx]
    have hlt := h.tables.ids_lt row hrow
    omega
  | sessionFindActive tokenHash now =>
    intro x hx hxi
    simp only [ExtensionCall.exec, Except.ok.injEq] at hx
    obtain ⟨y, hy, hwith⟩ := Option.bind_eq_some_iff.mp hx
    obtain ⟨j, hj, rfl⟩ := Option.map_eq_some_iff.mp hwith
    obtain ⟨-, hjid⟩ := ExtensionStore.mem_of_installationById hj
    have hrev := h.revoked y (List.mem_of_find?_eq_some hy) (hjid.symm.trans hxi)
    have hact := List.find?_some hy
    simp only [InstallationSession.active, Bool.and_eq_true] at hact
    rw [Option.isNone_iff_eq_none.mp hact.2.1] at hrev
    cases hrev
  | _ => trivial

theorem Sealed.noneActive {i : ℕ} (h : Sealed i name s) : NoneActive name s := by
  intro x hx j hj hjname hid now
  obtain ⟨row, hrow, hrowid, hname⟩ := h.row
  have heq : j = row :=
    List.inj_on_of_nodup_map h.tables.names hj hrow (hjname.trans hname.symm)
  have hrev := h.revoked x hx (hid.trans (by rw [heq, hrowid]))
  obtain ⟨at', hat⟩ := Option.isSome_iff_exists.mp hrev
  simp [InstallationSession.active, hat]

/-! ## Harmless programs -/

section Harmless

variable {i : ℕ} {name : String} {α : Type}

theorem harmless_ofExcept_bind {β : Type} {x : Except Exception β} {f : β → ExtensionProg α}
    (h : ∀ b, x = .ok b → Harmless i name (f b)) : Harmless i name (ofExcept x >>= f) := by
  cases x with
  | ok b => exact h b rfl
  | error e => trivial

variable (env : ExtensionEnv)

theorem policy_harmless : Harmless i name (resolveExtensionSessionPolicy env) := by
  refine ⟨trivial, ?_⟩
  intro r _
  cases r <;> trivial

theorem lifecycleEvent_harmless (event : LifecycleEvent) :
    Harmless i name (recordLifecycleEventSafely event) := by
  refine ⟨trivial, ?_⟩
  intro r _
  cases r <;> trivial

theorem bootstrapPayload_harmless (installation : ExtensionInstallation) (environment : String)
    (handshake : CompatibilityHandshake) (refreshAfterSeconds : ℤ) :
    Harmless i name (buildBootstrapPayload installation environment handshake
      refreshAfterSeconds) :=
  safe_await_bind trivial fun _ _ => trivial

/-- A session issued for another installation. -/
theorem issue_harmless (fresh : NewSession)
    {installation : ExtensionInstallation} (h : installation.id ≠ i) (userId : String)
    (lifetimeHours : ℚ) :
    Harmless i name (issueInstallationSession env fresh installation userId lifetimeHours) :=
  safe_await_bind h fun _ _ => trivial

theorem readRequiredString_ok {value : Option String} {fieldName s : String}
    (h : readRequiredString value fieldName = .ok s) : value.map jsTrim = some s := by
  cases value with
  | none => cases h
  | some v => grind [readRequiredString]

theorem normalizeBindRequest_ok {request : BindRequest} {normalized : NormalizedBindRequest}
    (h : normalizeBindRequest request = .ok normalized) :
    request.installationId.map jsTrim = some normalized.installationId := by
  simp only [normalizeBindRequest] at h
  cases hid : readRequiredString request.installationId "installationId" with
  | error e =>
    rw [hid] at h
    cases h
  | ok installationId =>
    rw [hid] at h
    simp only [bind, Except.bind] at h
    split at h
    · cases h
    split at h
    · cases h
    · rw [← Except.ok.inj h]
      exact readRequiredString_ok hid

theorem checkAction_ok {session : CurrentSession} {installationId : Option String}
    {reason : Option (Option String)} {s : String}
    (h : checkAction session installationId reason = .ok s) : installationId.map jsTrim = some s := by
  simp only [checkAction] at h
  cases hid : readRequiredString installationId "installationId" with
  | error e =>
    rw [hid] at h
    cases h
  | ok id =>
    rw [hid] at h
    have hs : id = s := by
      simp only [bind, Except.bind] at h
      split at h
      · cases h
      split at h
      · exact Except.ok.inj h
      split at h
      · cases h
      · exact Except.ok.inj h
    rw [← hs]
    exact readRequiredString_ok hid

variable (session : CurrentSession)

theorem bind_harmless {request : BindRequest} (h : request.installationId.map jsTrim ≠ some name) :
    Harmless i name (bindInstallationForCurrentSession env session request) := by
  refine safe_bind (policy_harmless env) ?_
  intro policy
  refine harmless_ofExcept_bind ?_
  intro normalized hnorm
  have hname : normalized.installationId ≠ name := by grind [normalizeBindRequest_ok]
  refine safe_await_bind trivial ?_
  intro existing _
  refine safe_await_bind trivial ?_
  intro installation htold
  refine safe_await_bind trivial ?_
  intro _ _
  refine safe_bind (issue_harmless env _ (fun hid => hname (htold _ rfl hid)) _ _) ?_
  intro issued
  refine safe_bind (bootstrapPayload_harmless _ _ _ _) ?_
  intro bootstrap
  exact safe_bind (lifecycleEvent_harmless _) fun _ => trivial

theorem bootstrap_harmless (record : InstallationSessionRecord) (request : BootstrapRequest) :
    Harmless i name (bootstrapInstallationSession env record request) := by
  refine safe_bind (policy_harmless env) ?_
  intro policy
  refine harmless_ofExcept_bind ?_
  rintro ⟨environment, handshake⟩ _
  refine safe_bind ?_ ?_
  · refine ⟨trivial, ?_⟩
    intro r _
    cases r <;> trivial
  intro installation
  refine ⟨trivial, ?_⟩
  intro r _
  cases r <;> trivial

/-- A refresh of a session of another installation. -/
theorem refresh_harmless {record : InstallationSessionRecord}
    (h : record.installation.id ≠ i) (refreshedAt : ℤ) (fresh : NewSession) :
    Harmless i name (refreshInstallationSessionForToken env record refreshedAt fresh) := by
  refine safe_bind (policy_harmless env) ?_
  intro policy
  refine safe_await_bind trivial ?_
  intro _ _
  refine safe_bind (issue_harmless env fresh h _ _) ?_
  intro issued
  exact safe_bind (lifecycleEvent_harmless _) fun _ => trivial

theorem resolve_harmless_bind (accessToken : String) (now : ℤ)
    {f : InstallationSessionRecord → ExtensionProg α}
    (h : ∀ record, record.installation.id ≠ i → Harmless i name (f record)) :
    Harmless i name (resolveInstallationSession env accessToken now >>= f) := by
  unfold resolveInstallationSession
  rw [Prog.bind_assoc]
  refine safe_await_bind trivial ?_
  intro found htold
  cases found with
  | none => trivial
  | some record => exact h record (htold record rfl)

theorem findOwn_harmless_bind (installationId : String)
    {f : ExtensionInstallation → ExtensionProg α}
    (h : ∀ installation, (installation.id = i → installationId = name) →
      Harmless i name (f installation)) :
    Harmless i name (findOwnInstallation session installationId >>= f) := by
  unfold findOwnInstallation
  rw [Prog.bind_assoc]
  refine safe_await_bind trivial ?_
  intro found htold
  cases found with
  | none => trivial
  | some installation =>
    simp only
    split
    · trivial
    · exact h installation (htold installation rfl)

theorem report_harmless (auditEventType : String)
    (installation : ExtensionInstallation) (disconnectedAt : ℤ) (count : ℕ) :
    Harmless i name (reportDisconnect session auditEventType installation disconnectedAt count) :=
  safe_bind (lifecycleEvent_harmless _) fun _ => trivial

theorem disconnect_harmless (auditEventType installationId : String) (disconnectedAt : ℤ) :
    Harmless i name (disconnectInstallation session auditEventType installationId
      disconnectedAt) := by
  refine findOwn_harmless_bind session installationId ?_
  intro installation _
  refine safe_await_bind trivial ?_
  intro count _
  exact report_harmless session auditEventType installation disconnectedAt count

theorem rotate_harmless
    {request : InstallationActionRequest} (h : request.installationId.map jsTrim ≠ some name) :
    Harmless i name (rotateInstallationSessionForCurrentSession env session request) := by
  refine safe_bind (policy_harmless env) ?_
  intro policy
  refine harmless_ofExcept_bind ?_
  intro installationId hchecked
  have hname : installationId ≠ name := by grind [checkAction_ok]
  refine findOwn_harmless_bind session installationId ?_
  intro installation htold
  refine safe_await_bind trivial ?_
  intro count _
  refine safe_bind (issue_harmless env _ (fun hid => hname (htold hid)) _ _) ?_
  intro issued
  exact safe_bind (lifecycleEvent_harmless _) fun _ => trivial

/-- Every request but a bind or a rotate of the installation is harmless. -/
theorem code_harmless {req : ExtensionRequest}
    (h : issuesFor name req = false) : Harmless i name (extensionCode env req) := by
  have hwrap : ∀ {β : Type} {p : ExtensionProg β} {f : β → ExtensionReply},
      Harmless i name p → Harmless i name (p >>= fun r => return f r) := by
    intro β p f hp
    exact safe_bind hp fun _ => trivial
  cases req with
  | bind session request =>
    exact hwrap (bind_harmless env session (by simpa [issuesFor] using h))
  | bootstrap accessToken now request =>
    refine resolve_harmless_bind env accessToken now ?_
    intro record _
    exact hwrap (bootstrap_harmless env record request)
  | refresh accessToken now refreshedAt fresh =>
    refine resolve_harmless_bind env accessToken now ?_
    intro record hrec
    exact hwrap (refresh_harmless env hrec refreshedAt fresh)
  | rotate session request =>
    exact hwrap (rotate_harmless env session (by simpa [issuesFor] using h))
  | disconnect session request | selfDisconnect session request =>
    refine hwrap (harmless_ofExcept_bind ?_)
    intro installationId _
    exact disconnect_harmless session _ installationId request.occurredAt

end Harmless

/-! ## Quiet states -/

/-- The sessions are revoked, and only the requests that `A` lets, binds and
rotates of the installation, can issue one. -/
structure Quiet (i : ℕ) (name : String) (A : ℕ → Prop)
    (s : Snapshot ExtensionCall ExtensionCall.Res Exception ExtensionReply ExtensionStore
      ExtensionRequest) : Prop where
  sealed : Sealed i name s.store
  procs : ∀ pid q, s.procs[pid]? = some q → Harmless i name q.2 ∨ (A pid ∧ issuesFor name q.1)

section Quiet

variable {env : ExtensionEnv} {i : ℕ} {name : String} {A : ℕ → Prop}
  {s s' : Snapshot ExtensionCall ExtensionCall.Res Exception ExtensionReply ExtensionStore
    ExtensionRequest} {l : Label Exception ExtensionRequest}

/-- Rows keep their identifiers along a step. -/
theorem rows_next (hnext : (extensionMachine env).next l s = some s')
    {row : ExtensionInstallation} (hrow : row ∈ s.store.installations) :
    ∃ row' ∈ s'.store.installations,
      row'.id = row.id ∧ row'.installationId = row.installationId := by
  rcases (extensionMachine env).next_cases hnext with ⟨req, rfl, rfl⟩ |
    ⟨pid, req, op, k, rfl, hp, rfl⟩ | ⟨pid, e, req, op, k, rfl, hp, rfl⟩
  · exact ⟨row, hrow, rfl, rfl⟩
  · exact op.exec_rows hrow
  · exact ⟨row, hrow, rfl, rfl⟩

theorem IssuedBy.next (h : IssuedBy A name s) (hnext : (extensionMachine env).next l s = some s') :
    IssuedBy A name s' := by
  obtain ⟨pid, data, r, hlog, hA, ⟨row, hrow, hid, hname⟩, q, hq, hissues⟩ := h
  obtain ⟨q', hq', hreq⟩ := (extensionMachine env).next_request hnext hq
  obtain ⟨row', hrow', hid', hname'⟩ := rows_next hnext hrow
  refine ⟨pid, data, r, (extensionMachine env).next_log hnext hlog, hA,
    ⟨row', hrow', hid'.trans hid, hname'.trans hname⟩, q', hq', ?_⟩
  rw [hreq]
  exact hissues

/-- Only a request that `A` lets ends the quiet, by issuing a session. -/
theorem Quiet.next (h : Quiet i name A s)
    (hstart : ∀ req, l = .start req → issuesFor name req → A s.procs.length)
    (hnext : (extensionMachine env).next l s = some s') :
    Quiet i name A s' ∨ IssuedBy A name s' := by
  -- what the requests that make no call are stays as it is
  have hset : ∀ {pid : ℕ} {req : ExtensionRequest} {p p' : ExtensionProg ExtensionReply},
      s.procs[pid]? = some (req, p) → (Harmless i name p' ∨ (A pid ∧ issuesFor name req)) →
        ∀ j q, (s.procs.set pid (req, p'))[j]? = some q →
          Harmless i name q.2 ∨ (A j ∧ issuesFor name q.1) := by
    intro pid req p p' hp hp' j q hq
    by_cases hj : pid = j
    · grind
    · rw [List.getElem?_set_ne hj] at hq
      exact h.procs j q hq
  rcases (extensionMachine env).next_cases hnext with ⟨req, rfl, rfl⟩ |
    ⟨pid, req, op, k, rfl, hp, rfl⟩ | ⟨pid, e, req, op, k, rfl, hp, rfl⟩
  · left
    refine ⟨h.sealed, ?_⟩
    intro j q hq
    by_cases hj : j < s.procs.length
    · rw [List.getElem?_append_left hj] at hq
      exact h.procs j q hq
    rw [List.getElem?_append_right (by omega)] at hq
    have hlt := (List.getElem?_eq_some_iff.mp hq).1
    simp only [List.length_singleton] at hlt
    have hjlen : j = s.procs.length := by omega
    obtain rfl : (req, (extensionMachine env).code req) = q := by
      simpa [hjlen] using hq
    cases hissues : issuesFor name req with
    | false => exact Or.inl (code_harmless env hissues)
    | true => grind
  · -- the call of a harmless request, or of one that may issue a session
    by_cases hcall : issuesNone i op ∨ ∃ e, (op.exec s.store).1 = .error e
    · left
      refine ⟨h.sealed.exec hcall, hset hp ?_⟩
      rcases h.procs pid _ hp with hharmless | hlet
      · exact Or.inl (hharmless.2 _ (h.sealed.told op))
      · exact Or.inr hlet
    rcases h.procs pid _ hp with hharmless | ⟨hA, hissues⟩
    · exact absurd (Or.inl hharmless.1) hcall
    right
    cases op with
    | sessionCreate data =>
      cases hr : (ExtensionCall.exec (.sessionCreate data) s.store).1 with
      | error e => exact absurd (Or.inr ⟨e, hr⟩) hcall
      | ok r =>
        have hlt : pid < s.procs.length := (List.getElem?_eq_some_iff.mp hp).1
        have hexec : (extensionMachine env).exec (.sessionCreate data) s.store =
            ExtensionCall.exec (.sessionCreate data) s.store := rfl
        have hdata : data.extensionInstallationId = i := by
          by_contra hne
          exact hcall (Or.inl hne)
        obtain ⟨row, hrow, hid, hname⟩ := h.sealed.row
        obtain ⟨row', hrow', hid', hname'⟩ := rows_next hnext hrow
        refine ⟨pid, data, r, ?_, hA, ⟨row', hrow', (hid'.trans hid).trans hdata.symm,
          hname'.trans hname⟩, (req, k ((extensionMachine env).exec
          (.sessionCreate data) s.store).1), by simp [hlt], hissues⟩
        rw [hexec, hr]
        exact List.mem_append_right _ (List.mem_singleton.mpr rfl)
    | _ => exact absurd (Or.inl trivial) hcall
  · left
    refine ⟨h.sealed, hset hp ?_⟩
    rcases h.procs pid _ hp with hharmless | hlet
    · left
      refine hharmless.2 (.error e) ?_
      cases op with
      | installationFind installationId =>
        intro x hx
        cases hx
      | installationUpsert input =>
        intro x hx
        cases hx
      | sessionFindActive tokenHash now =>
        intro x hx
        cases hx
      | _ => trivial
    · exact Or.inr hlet

/-- When nobody may issue a session, the quiet lasts. -/
theorem Quiet.keeps (h : Quiet i name (fun _ => False) s)
    (hstart : ∀ req, l = .start req → issuesFor name req = false)
    (hnext : (extensionMachine env).next l s = some s') : Quiet i name (fun _ => False) s' := by
  have hstart' : ∀ req, l = .start req → issuesFor name req → False := by grind
  rcases h.next hstart' hnext with hquiet | ⟨pid, data, r, -, hfalse, -⟩
  · exact hquiet
  · exact hfalse.elim

/-- Since there were `n` requests only later ones can have issued a session. -/
def QuietSince (i : ℕ) (name : String) (n : ℕ)
    (s : Snapshot ExtensionCall ExtensionCall.Res Exception ExtensionReply ExtensionStore
      ExtensionRequest) : Prop :=
  n ≤ s.procs.length ∧ (Quiet i name (fun pid => n ≤ pid) s ∨ IssuedBy (fun pid => n ≤ pid) name s)

/-- The quiet lasts until a request that started later issues a session. -/
theorem Quiet.run (h : Quiet i name (fun _ => False) s)
    (hrun : (extensionMachine env).Reaches (fun s l => Machine.anyStep s l) s s') :
    NoneActive name s'.store ∨ IssuedBy (fun pid => s.procs.length ≤ pid) name s' := by
  have hstep : ∀ t l t', Machine.anyStep t l → (extensionMachine env).next l t = some t' →
      QuietSince i name s.procs.length t → QuietSince i name s.procs.length t' := by
    rintro t l t' - hnext ⟨hlen, hquiet | hissued⟩
    · refine ⟨?_, hquiet.next (fun req _ _ => hlen) hnext⟩
      exact Nat.le_trans hlen ((extensionMachine env).next_length hnext)
    · refine ⟨?_, Or.inr (hissued.next hnext)⟩
      exact Nat.le_trans hlen ((extensionMachine env).next_length hnext)
  have hinit : QuietSince i name s.procs.length s := by
    refine ⟨Nat.le_refl _, Or.inl ⟨h.sealed, ?_⟩⟩
    intro pid q hq
    rcases h.procs pid q hq with hharmless | ⟨hfalse, -⟩
    · exact Or.inl hharmless
    · exact hfalse.elim
  rcases (Machine.Reaches.invariant (extensionMachine env) hstep hrun hinit).2 with
    hquiet | hissued
  · exact Or.inl hquiet.sealed.noneActive
  · exact Or.inr hissued

end Quiet

end QuizMind

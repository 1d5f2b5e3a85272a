import QuizMind.Table.GroupBy
import Mathlib.Algebra.Order.Pi
import Mathlib.Algebra.Order.Ring.Rat
import Mathlib.Data.List.Induction

/-! # Daily rollups of AI requests

`upsertEventContentAndRollup` stores an event and moves its contribution from the
bucket it was counted in to the one it belongs to now. An update that gives no
duration keeps the stored one, while the contribution counts it as 0: the rollups
equal the events in every state exactly when no such update meets a stored duration
(`rollups_exact_iff`).

The transactions are serial. Of the event the columns that the rollups and the
analytics read are modelled; the contents and attachments, which the same
transaction writes, are left out. Amounts are non-negative rationals.
-/

namespace QuizMind.History

open GroupBy (change)

inductive AiRequestType where
  | text | image | file
  deriving DecidableEq

/-- A date is the number of milliseconds since the epoch. -/
structure AiRequestEvent where
  id : String
  userId : String
  model : String
  requestType : AiRequestType
  status : String
  promptTokens : ℚ≥0
  completionTokens : ℚ≥0
  totalTokens : ℚ≥0
  estimatedCostUsd : Option ℚ≥0
  chargedCostUsd : Option ℚ≥0
  durationMs : Option ℚ≥0
  occurredAt : ℤ

structure UpsertEventAndContentInput where
  eventId : String
  userId : String
  model : String
  requestType : AiRequestType
  status : String
  promptTokens : ℚ≥0
  completionTokens : ℚ≥0
  totalTokens : ℚ≥0
  estimatedCostUsd : ℚ≥0
  chargedCostUsd : Option ℚ≥0
  durationMs : Option ℚ≥0
  occurredAt : ℤ

structure RollupBucketKey where
  userId : String
  date : ℤ
  model : String
  requestType : AiRequestType
  status : String
  deriving DecidableEq

/-- The numbers of a row of `AiUsageDailyRollup`. -/
inductive RollupColumn where
  | requestCount | successCount | failedCount | promptTokens | completionTokens | totalTokens
  | estimatedCostUsd | totalDurationMs

abbrev RollupContribution := RollupColumn → ℚ

/-- The rows, unique by their bucket. -/
abbrev RollupTable := List (RollupBucketKey × RollupContribution)

/-- The start of the UTC day. Of the years 0 to 99, which `Date.UTC` reads as 1900 to
1999, no dates are considered. -/
def startOfUtcDay (t : ℤ) : ℤ := t - t % 86400000

def toRollupBucket (userId model : String) (requestType : AiRequestType) (status : String)
    (occurredAt : ℤ) : RollupBucketKey where
  userId := userId
  date := startOfUtcDay occurredAt
  model := model
  requestType := requestType
  status := status

def toRollupContribution (status : String)
    (promptTokens completionTokens totalTokens estimatedCostUsd durationMs : ℚ≥0) :
    RollupContribution
  | .requestCount => 1
  | .successCount => if status = "success" then 1 else 0
  | .failedCount => if status = "success" then 0 else 1
  | .promptTokens => promptTokens
  | .completionTokens => completionTokens
  | .totalTokens => totalTokens
  | .estimatedCostUsd => estimatedCostUsd
  | .totalDurationMs => durationMs

def applyRollupDelta (rollups : RollupTable) (bucket : RollupBucketKey)
    (delta : RollupContribution) : RollupTable :=
  if bucket ∈ rollups.map Prod.fst then
    change rollups bucket fun existing column => max 0 (existing column + delta column)
  else if delta .requestCount ≤ 0 then rollups
  else rollups ++ [(bucket, fun column => max 0 (delta column))]

structure HistoryStore where
  events : List AiRequestEvent
  rollups : RollupTable

def HistoryStore.empty : HistoryStore := ⟨[], []⟩

/-! ## The upsert -/

namespace UpsertEventAndContentInput

/-- The event that the upsert creates. -/
def create (input : UpsertEventAndContentInput) : AiRequestEvent where
  id := input.eventId
  userId := input.userId
  model := input.model
  requestType := input.requestType
  status := input.status
  promptTokens := input.promptTokens
  completionTokens := input.completionTokens
  totalTokens := input.totalTokens
  estimatedCostUsd := some input.estimatedCostUsd
  chargedCostUsd := input.chargedCostUsd
  durationMs := input.durationMs
  occurredAt := input.occurredAt

/-- The event after the update: the user stays, and so does the duration when none
is given. -/
def update (input : UpsertEventAndContentInput) (event : AiRequestEvent) : AiRequestEvent :=
  { event with
    model := input.model
    requestType := input.requestType
    status := input.status
    promptTokens := input.promptTokens
    completionTokens := input.completionTokens
    totalTokens := input.totalTokens
    estimatedCostUsd := some input.estimatedCostUsd
    chargedCostUsd := input.chargedCostUsd
    durationMs := input.durationMs.or event.durationMs
    occurredAt := input.occurredAt }

def bucket (input : UpsertEventAndContentInput) : RollupBucketKey :=
  toRollupBucket input.userId input.model input.requestType input.status input.occurredAt

def contribution (input : UpsertEventAndContentInput) : RollupContribution :=
  toRollupContribution input.status input.promptTokens input.completionTokens input.totalTokens
    input.estimatedCostUsd (input.durationMs.getD 0)

end UpsertEventAndContentInput

namespace AiRequestEvent

def bucket (event : AiRequestEvent) : RollupBucketKey :=
  toRollupBucket event.userId event.model event.requestType event.status event.occurredAt

def contribution (event : AiRequestEvent) : RollupContribution :=
  toRollupContribution event.status event.promptTokens event.completionTokens event.totalTokens
    (event.estimatedCostUsd.getD 0) (event.durationMs.getD 0)

/-- What the event adds to the totals. -/
def entry (event : AiRequestEvent) : RollupBucketKey × RollupContribution :=
  (event.bucket, event.contribution)

end AiRequestEvent

def upsertEventContentAndRollup (s : HistoryStore) (input : UpsertEventAndContentInput) :
    HistoryStore :=
  match s.events.find? fun e => e.id = input.eventId with
  | none =>
    { events := s.events ++ [input.create]
      rollups := applyRollupDelta s.rollups input.bucket input.contribution }
  | some previousEvent =>
    { events := s.events.map fun e => if e.id = input.eventId then input.update e else e
      rollups := applyRollupDelta
        (applyRollupDelta s.rollups previousEvent.bucket (-previousEvent.contribution))
        input.bucket input.contribution }

/-- The tables after a sequence of calls. -/
def upsertAll (calls : List UpsertEventAndContentInput) : HistoryStore :=
  calls.foldl upsertEventContentAndRollup .empty

/-! ## The statement -/

/-- Each row holds the totals of the events of its bucket, and each bucket with an
event has a row. -/
def HistoryStore.RollupsExact (s : HistoryStore) : Prop :=
  GroupBy.Exact s.rollups (s.events.map AiRequestEvent.entry)

/-- One event belongs to one user. -/
def SameUser (calls : List UpsertEventAndContentInput) : Prop :=
  ∀ c ∈ calls, ∀ c' ∈ calls, c.eventId = c'.eventId → c.userId = c'.userId

/-- The call gives a duration, or no duration is stored for its event. -/
def DurationGiven (s : HistoryStore) (input : UpsertEventAndContentInput) : Prop :=
  ∀ e ∈ s.events, e.id = input.eventId → input.durationMs = none → e.durationMs.getD 0 = 0

/-- Every call of the sequence does, at the state it meets. -/
def DurationsGiven (calls : List UpsertEventAndContentInput) : Prop :=
  ∀ n input, calls[n]? = some input → DurationGiven (upsertAll (calls.take n)) input

/-! ## One delta -/

theorem toRollupContribution_nonneg (status : String)
    (promptTokens completionTokens totalTokens estimatedCostUsd durationMs : ℚ≥0) :
    0 ≤ toRollupContribution status promptTokens completionTokens totalTokens estimatedCostUsd
      durationMs := by
  intro column
  cases column with
  | requestCount => exact zero_le_one
  | successCount | failedCount =>
    simp only [toRollupContribution]
    split <;> simp
  | _ => exact NNRat.cast_nonneg _

/-- The clamp does nothing to totals that are not negative. -/
theorem clamp_eq {t : RollupContribution} (h : 0 ≤ t) : (fun column => max 0 (t column)) = t := by
  funext column
  exact max_eq_right (h column)

section Delta

variable {rollups : RollupTable} {entries : List (RollupBucketKey × RollupContribution)}
  {bucket : RollupBucketKey} {m : RollupContribution}

variable (bucket) in
/-- A contribution is added to its bucket. -/
theorem applyRollupDelta_add (h : GroupBy.Exact rollups entries)
    (hentries : ∀ e ∈ entries, 0 ≤ e.2) (hm : 0 ≤ m) (hcount : 0 < m .requestCount) :
    GroupBy.Exact (applyRollupDelta rollups bucket m) ((bucket, m) :: entries) := by
  unfold applyRollupDelta
  by_cases hbucket : bucket ∈ rollups.map Prod.fst
  · rw [if_pos hbucket]
    have hchange : (change rollups bucket fun existing column =>
        max 0 (existing column + m column)) = change rollups bucket fun t => t + m := by
      refine GroupBy.change_congr ?_
      intro r hr _
      have hr' : 0 ≤ r.2 := by
        rw [h.total r hr]
        exact GroupBy.total_nonneg hentries r.1
      exact clamp_eq (add_nonneg hr' hm)
    rw [hchange]
    exact h.add hbucket m
  · rw [if_neg hbucket, if_neg (not_le.mpr hcount), clamp_eq hm]
    exact h.insert hbucket m

/-- A contribution that was counted is taken out of its bucket. -/
theorem applyRollupDelta_sub (h : GroupBy.Exact rollups ((bucket, m) :: entries))
    (hentries : ∀ e ∈ entries, 0 ≤ e.2) :
    GroupBy.Exact (applyRollupDelta rollups bucket (-m)) entries := by
  have hbucket := h.covered (bucket, m) List.mem_cons_self
  unfold applyRollupDelta
  rw [if_pos hbucket]
  have hchange : (change rollups bucket fun existing column =>
      max 0 (existing column + (-m) column)) = change rollups bucket fun t => t - m := by
    refine GroupBy.change_congr ?_
    intro r hr hkey
    -- what is left is the total of the other entries
    have hrest : r.2 - m = GroupBy.total entries bucket := by
      rw [h.total r hr, hkey, GroupBy.total_cons, if_pos rfl, add_sub_cancel_left]
    have hnonneg : 0 ≤ r.2 + -m := by
      rw [← sub_eq_add_neg, hrest]
      exact GroupBy.total_nonneg hentries bucket
    rw [sub_eq_add_neg]
    exact clamp_eq hnonneg
  rw [hchange]
  exact h.subtract

end Delta

/-! ## One call -/

variable (input : UpsertEventAndContentInput)

theorem UpsertEventAndContentInput.contribution_nonneg : 0 ≤ input.contribution :=
  toRollupContribution_nonneg _ _ _ _ _ _

theorem create_entry : input.create.entry = (input.bucket, input.contribution) := rfl

variable {event : AiRequestEvent}

theorem update_entry (huser : event.userId = input.userId) :
    (input.update event).entry = (input.bucket, (input.update event).contribution) := by
  unfold AiRequestEvent.entry AiRequestEvent.bucket UpsertEventAndContentInput.bucket
  simp only [UpsertEventAndContentInput.update, huser]

/-- The call counts what it stores, the duration apart. -/
theorem update_contribution_eq_iff (event : AiRequestEvent) :
    (input.update event).contribution = input.contribution ↔
      (input.durationMs = none → event.durationMs.getD 0 = 0) := by
  constructor
  · intro h hnone
    have hcol := congrFun h .totalDurationMs
    simp only [AiRequestEvent.contribution, UpsertEventAndContentInput.contribution,
      UpsertEventAndContentInput.update, toRollupContribution, hnone] at hcol
    exact_mod_cast hcol
  intro h
  have hduration : (input.durationMs.or event.durationMs).getD 0 = input.durationMs.getD 0 := by
    cases hinput : input.durationMs with
    | some d => rfl
    | none => exact h hinput
  unfold AiRequestEvent.contribution UpsertEventAndContentInput.contribution
  simp only [UpsertEventAndContentInput.update, hduration, Option.getD_some]

theorem entries_nonneg (events : List AiRequestEvent) :
    ∀ e ∈ events.map AiRequestEvent.entry, 0 ≤ e.2 := by
  intro e he
  rcases List.mem_map.mp he with ⟨event, -, rfl⟩
  exact toRollupContribution_nonneg _ _ _ _ _ _

/-- An update replaces the one event of its id. -/
theorem events_replaced {events : List AiRequestEvent} (hids : (events.map (·.id)).Nodup)
    (hmem : event ∈ events)
    (f : AiRequestEvent → AiRequestEvent) :
    ∃ rest, events.Perm (event :: rest) ∧
      (events.map fun e => if e.id = event.id then f e else e).Perm (f event :: rest) := by
  rcases List.append_of_mem hmem with ⟨front, back, rfl⟩
  have hsame : ∀ part : List AiRequestEvent, (∀ e ∈ part, e ∈ front ∨ e ∈ back) →
      (part.map fun e => if e.id = event.id then f e else e) = part := by
    intro part hpart
    refine (List.map_congr_left ?_).trans (List.map_id part)
    intro e he
    have hne : e.id ≠ event.id := by grind
    rw [if_neg hne]
    rfl
  refine ⟨front ++ back, List.perm_middle, ?_⟩
  rw [List.map_append, List.map_cons, if_pos rfl, hsame front fun e he => .inl he,
    hsame back fun e he => .inr he]
  exact List.perm_middle

section Step

variable {s : HistoryStore} {input : UpsertEventAndContentInput}

/-- From exact rollups, a call leaves exact ones if it gives a duration, or none is
stored, and only then. -/
theorem upsert_exact_iff (hexact : s.RollupsExact) (hids : (s.events.map (·.id)).Nodup)
    (huser : ∀ e ∈ s.events, e.id = input.eventId → e.userId = input.userId) :
    (upsertEventContentAndRollup s input).RollupsExact ↔ DurationGiven s input := by
  unfold upsertEventContentAndRollup
  cases hfind : s.events.find? fun e => e.id = input.eventId with
  | none =>
    have hnew : DurationGiven s input := by
      intro e he hid
      have hnone := List.find?_eq_none.mp hfind e he
      simp only [decide_eq_true_eq] at hnone
      exact absurd hid hnone
    refine iff_of_true ?_ hnew
    have hadd := applyRollupDelta_add input.bucket hexact (entries_nonneg s.events)
      input.contribution_nonneg (zero_lt_one' ℚ)
    refine hadd.perm ?_
    rw [List.map_append]
    exact (List.perm_append_singleton _ _).symm
  | some previousEvent =>
    have hmem := List.mem_of_find?_eq_some hfind
    have hid : previousEvent.id = input.eventId := by
      simpa using List.find?_some hfind
    rcases events_replaced hids hmem input.update with ⟨rest, hbefore, hafter⟩
    rw [hid] at hafter
    -- the previous contribution is taken out, and the one of the call put in
    have hout := applyRollupDelta_sub (hexact.perm (hbefore.map AiRequestEvent.entry))
      (entries_nonneg rest)
    have hin := applyRollupDelta_add input.bucket hout (entries_nonneg rest)
      input.contribution_nonneg (zero_lt_one' ℚ)
    have hentries := hafter.map AiRequestEvent.entry
    rw [List.map_cons, update_entry input (huser previousEvent hmem hid)] at hentries
    have hstored : DurationGiven s input ↔
        (input.update previousEvent).contribution = input.contribution := by
      rw [update_contribution_eq_iff]
      constructor
      · intro h
        exact h previousEvent hmem hid
      intro h e he heid
      have heq : e = previousEvent :=
        List.inj_on_of_nodup_map hids he hmem (heid.trans hid.symm)
      rw [heq]
      exact h
    rw [hstored]
    constructor
    · intro h
      exact (h.perm hentries).value_unique hin
    intro h
    rw [h] at hentries
    exact hin.perm hentries.symm

end Step

/-! ## A run of calls -/

theorem HistoryStore.empty_exact : HistoryStore.empty.RollupsExact := GroupBy.Exact.empty

/-- The ids are unique, and each event has the user of a call. -/
structure Recorded (calls : List UpsertEventAndContentInput) (s : HistoryStore) : Prop where
  ids : (s.events.map (·.id)).Nodup
  users : ∀ e ∈ s.events, ∃ c ∈ calls, c.eventId = e.id ∧ c.userId = e.userId

namespace Recorded

variable {calls : List UpsertEventAndContentInput} {s : HistoryStore}

theorem next (h : Recorded calls s) (input : UpsertEventAndContentInput) :
    Recorded (calls ++ [input]) (upsertEventContentAndRollup s input) := by
  have hold : ∀ e ∈ s.events, ∃ c ∈ calls ++ [input], c.eventId = e.id ∧ c.userId = e.userId := by
    intro e he
    rcases h.users e he with ⟨c, hc, hce⟩
    exact ⟨c, List.mem_append_left _ hc, hce⟩
  unfold upsertEventContentAndRollup
  cases hfind : s.events.find? fun e => e.id = input.eventId with
  | none =>
    constructor
    · rw [List.map_append, List.map_singleton]
      refine List.Nodup.append h.ids (List.nodup_singleton _) ?_
      rw [List.disjoint_singleton]
      intro hmem
      rcases List.mem_map.mp hmem with ⟨e, he, hid⟩
      have hnone := List.find?_eq_none.mp hfind e he
      simp only [decide_eq_true_eq] at hnone
      exact hnone hid
    intro e he
    rcases List.mem_append.mp he with he | he
    · exact hold e he
    rw [List.mem_singleton] at he
    subst he
    exact ⟨input, by simp, rfl, rfl⟩
  | some previousEvent =>
    constructor
    · rw [List.map_map]
      have hsame : s.events.map ((fun e : AiRequestEvent => e.id) ∘
          fun e => if e.id = input.eventId then input.update e else e) =
          s.events.map (·.id) := by
        refine List.map_congr_left ?_
        intro e _
        simp only [Function.comp_apply]
        split <;> rfl
      rw [hsame]
      exact h.ids
    intro e he
    rcases List.mem_map.mp he with ⟨event, hev, rfl⟩
    have hmem := hold event hev
    split
    all_goals exact hmem

end Recorded

variable {calls : List UpsertEventAndContentInput}

theorem upsertAll_take_succ {n : ℕ}
    {input : UpsertEventAndContentInput} (h : calls[n]? = some input) :
    upsertAll (calls.take (n + 1)) =
      upsertEventContentAndRollup (upsertAll (calls.take n)) input := by
  unfold upsertAll
  rw [List.take_add_one, h, List.foldl_append]
  rfl

theorem recorded_upsertAll (calls : List UpsertEventAndContentInput) :
    Recorded calls (upsertAll calls) := by
  induction calls using List.reverseRecOn with
  | nil =>
    exact { ids := List.nodup_nil, users := by simp [upsertAll, HistoryStore.empty] }
  | append_singleton calls input ih =>
    unfold upsertAll
    rw [List.foldl_append]
    exact ih.next input

/-- What a call of the run does to exact rollups. -/
theorem exact_succ_iff (hsame : SameUser calls)
    {n : ℕ} {input : UpsertEventAndContentInput} (h : calls[n]? = some input)
    (hexact : (upsertAll (calls.take n)).RollupsExact) :
    (upsertAll (calls.take (n + 1))).RollupsExact ↔
      DurationGiven (upsertAll (calls.take n)) input := by
  have hrecorded := recorded_upsertAll (calls.take n)
  rw [upsertAll_take_succ h]
  refine upsert_exact_iff hexact hrecorded.ids ?_
  intro e he hid
  rcases hrecorded.users e he with ⟨c, hc, hcid, hcuser⟩
  rw [← hcuser]
  exact hsame c (List.mem_of_mem_take hc) input (List.mem_of_getElem? h) (hcid.trans hid)

/-- The rollups equal the events in every state of a run if and only if each call
gives a duration, or meets none for its event. -/
theorem rollups_exact_iff (calls : List UpsertEventAndContentInput) (hsame : SameUser calls) :
    (∀ n, (upsertAll (calls.take n)).RollupsExact) ↔ DurationsGiven calls := by
  constructor
  · intro h n input hinput
    exact (exact_succ_iff hsame hinput (h n)).mp (h (n + 1))
  intro h n
  induction n with
  | zero => exact HistoryStore.empty_exact
  | succ n ih =>
    cases hinput : calls[n]? with
    | some input => exact (exact_succ_iff hsame hinput ih).mpr (h n input hinput)
    | none =>
      rw [List.take_add_one, hinput]
      simpa using ih

/-- A completed request of 100 ms at the epoch. -/
def completedRequest : UpsertEventAndContentInput where
  eventId := "request-1"
  userId := "user-1"
  model := "gpt-4o"
  requestType := .text
  status := "success"
  promptTokens := 10
  completionTokens := 20
  totalTokens := 30
  estimatedCostUsd := 0
  chargedCostUsd := none
  durationMs := some 100
  occurredAt := 0

theorem rollups_exact_of_durations :
    (upsertAll [completedRequest, completedRequest]).RollupsExact :=
  (rollups_exact_iff [completedRequest, completedRequest] (by unfold SameUser; decide)).mpr (by
    intro n input hinput e _ _ hnone
    have hmem := List.mem_of_getElem? hinput
    simp only [List.mem_cons, List.not_mem_nil, or_self, or_false] at hmem
    subst hmem
    exact absurd hnone (by decide)) 2

/-- The same request, reported again without its duration. -/
def repeatedRequest : UpsertEventAndContentInput := { completedRequest with durationMs := none }

/-- The event keeps its 100 ms, and the rollup counts 0. -/
theorem duration_dropped : SameUser [completedRequest, repeatedRequest] ∧
      ¬ ∀ n, (upsertAll ([completedRequest, repeatedRequest].take n)).RollupsExact := by
  have hsame : SameUser [completedRequest, repeatedRequest] := by
    unfold SameUser
    decide
  refine ⟨hsame, ?_⟩
  intro h
  have hcall : [completedRequest, repeatedRequest][1]? = some repeatedRequest := rfl
  have hgiven := (exact_succ_iff hsame hcall (h 1)).mp (h 2)
  have hzero := hgiven completedRequest.create List.mem_cons_self rfl rfl
  exact absurd hzero (by decide +kernel)

end QuizMind.History

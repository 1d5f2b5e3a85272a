import QuizMind.Logs.AdminLogEvent
import QuizMind.Logs.AdminLogPages
import QuizMind.Table.Batches
import QuizMind.Table.Conditions

/-! # Pruning the admin logs

`AdminLogRepository.pruneExpiredReadModel`: the rows that are older than their retention are
selected and deleted in batches, up to a batch that is not full. A run that deletes ends with
exactly the rows that are not due (`prune_deletes_due`). A dry run leaves the rows where they are,
and so would select one batch again and again: it stops after the first, and reports fewer rows
than the run that deletes will select when more are due than a batch holds (`dryRun_predicts_iff`).
-/

namespace QuizMind.Logs

open Directory (Collation)
open Table (Condition)

/-! ## Options -/

structure AdminLogRetentionDays (ν : Type) where
  activity : ν
  domain : ν
  system : ν
  audit : ν
  security : ν
  admin : ν

/-- `none` is `undefined`; `now` is the time of a date. -/
structure PruneAdminLogReadModelOptions where
  now : Option ℤ
  dryRun : Option Bool
  includeSensitive : Option Bool
  limit : Option ℤ
  enabled : Option Bool
  sensitiveEnabled : Option Bool
  retentionDays : Option (AdminLogRetentionDays (Option ℤ))

/-- The environment of the process, and `Number(text)` where it is finite. -/
structure PruneProcess where
  env : String → Option String
  numberOf : String → Option ℚ
  letters : LetterCase

def PruneProcess.readBooleanEnv (process : PruneProcess) (name : String) (fallback : Bool) : Bool :=
  match (process.env name).filter (fun value => value ≠ "") with
  | none => fallback
  | some value =>
    ["1", "true", "yes", "on"].contains
      (String.ofList (process.letters.toLowerCase (jsTrim value).toList))

def PruneProcess.readPositiveIntEnv (process : PruneProcess) (name : String) (fallback : ℤ) : ℤ :=
  match (process.env name).filter (fun value => value ≠ "") with
  | none => fallback
  | some value =>
    match process.numberOf value with
    | none => fallback
    | some parsed => if 0 < parsed then ⌊parsed⌋ else fallback

/-- The options with what stands for those that are not given. -/
structure PruneSettings where
  enabled : Bool
  dryRun : Bool
  includeSensitive : Bool
  sensitiveEnabled : Bool
  limit : ℤ
  now : ℤ
  retentionDays : AdminLogRetentionDays ℤ

def PruneProcess.settings (process : PruneProcess) (clock : ℤ)
    (options : PruneAdminLogReadModelOptions) : PruneSettings where
  enabled := options.enabled.getD (process.readBooleanEnv "ADMIN_LOG_RETENTION_ENABLED" false)
  dryRun := options.dryRun.getD true
  includeSensitive := options.includeSensitive.getD false
  sensitiveEnabled := options.sensitiveEnabled.getD
    (process.readBooleanEnv "ADMIN_LOG_RETENTION_SENSITIVE_ENABLED" false)
  limit := max 1 (min 10000 (options.limit.getD 1000))
  now := options.now.getD clock
  retentionDays :=
    { activity := (options.retentionDays.bind AdminLogRetentionDays.activity).getD
        (process.readPositiveIntEnv "ADMIN_LOG_RETENTION_ACTIVITY_DAYS" 30)
      domain := (options.retentionDays.bind AdminLogRetentionDays.domain).getD
        (process.readPositiveIntEnv "ADMIN_LOG_RETENTION_DOMAIN_DAYS" 30)
      system := (options.retentionDays.bind AdminLogRetentionDays.system).getD
        (process.readPositiveIntEnv "ADMIN_LOG_RETENTION_SYSTEM_DAYS" 30)
      audit := (options.retentionDays.bind AdminLogRetentionDays.audit).getD
        (process.readPositiveIntEnv "ADMIN_LOG_RETENTION_AUDIT_DAYS" 365)
      security := (options.retentionDays.bind AdminLogRetentionDays.security).getD
        (process.readPositiveIntEnv "ADMIN_LOG_RETENTION_SECURITY_DAYS" 365)
      admin := (options.retentionDays.bind AdminLogRetentionDays.admin).getD
        (process.readPositiveIntEnv "ADMIN_LOG_RETENTION_ADMIN_DAYS" 365) }

/-! ## The result -/

/-- The counts are objects, in the order of their members. Names of members that every object has
are left out: no writer of the table has such a stream or category. -/
structure PruneAdminLogReadModelResult where
  enabled : Bool
  dryRun : Bool
  includeSensitive : Bool
  sensitiveEnabled : Bool
  limit : ℤ
  selected : ℕ
  deleted : ℕ
  selectedByStream : List (String × ℕ)
  deletedByStream : List (String × ℕ)
  selectedByCategory : List (String × ℕ)
  deletedByCategory : List (String × ℕ)

/-- `row.category ?? 'uncategorized'`. -/
def categoryOf (row : AdminLogRow) : String := row.category.getD "uncategorized"

/-- `counts[label] = (counts[label] ?? 0) + 1` for each row. -/
def countRows (label : AdminLogRow → String) (counts : List (String × ℕ))
    (rows : List AdminLogRow) : List (String × ℕ) :=
  rows.foldl (fun counts row => GroupBy.accumulate counts (label row) 0 fun n => n + 1) counts

namespace PruneAdminLogReadModelResult

def start (settings : PruneSettings) : PruneAdminLogReadModelResult where
  enabled := settings.enabled
  dryRun := settings.dryRun
  includeSensitive := settings.includeSensitive
  sensitiveEnabled := settings.sensitiveEnabled
  limit := settings.limit
  selected := 0
  deleted := 0
  selectedByStream := []
  deletedByStream := []
  selectedByCategory := []
  deletedByCategory := []

variable (result : PruneAdminLogReadModelResult) (rows : List AdminLogRow)

def addSelected : PruneAdminLogReadModelResult :=
  { result with
    selected := result.selected + rows.length
    selectedByStream := countRows AdminLogRow.stream result.selectedByStream rows
    selectedByCategory := countRows categoryOf result.selectedByCategory rows }

def addDeleted : PruneAdminLogReadModelResult :=
  { result with
    deleted := result.deleted + rows.length
    deletedByStream := countRows AdminLogRow.stream result.deletedByStream rows
    deletedByCategory := countRows categoryOf result.deletedByCategory rows }

end PruneAdminLogReadModelResult

/-! ## The query -/

/-- `new Date(now.getTime() - days * 24 * 60 * 60 * 1000)`, without the limits of dates. -/
def PruneSettings.cutoff (settings : PruneSettings) (days : ℤ) : ℤ :=
  settings.now - days * 24 * 60 * 60 * 1000

section Query

variable (settings : PruneSettings)

def streamIs (stream : String) : Condition AdminLogRow :=
  Condition.equals (fun row => some row.stream) stream

def categoryIs (category : String) : Condition AdminLogRow :=
  Condition.equals AdminLogRow.category category

def olderThan (days : ℤ) : Condition AdminLogRow :=
  Condition.before (fun row => some row.occurredAt.ms) (settings.cutoff days)

def whereOr : List (Condition AdminLogRow) :=
  [.all [streamIs "activity", olderThan settings settings.retentionDays.activity,
      .negate (categoryIs "admin")],
    .all [streamIs "domain", olderThan settings settings.retentionDays.domain,
      .negate (categoryIs "admin")],
    -- each condition of a list under `NOT` has to be false
    .all [categoryIs "system", olderThan settings settings.retentionDays.system,
      .negate (categoryIs "admin"), .negate (streamIs "audit"), .negate (streamIs "security")]] ++
  if settings.includeSensitive && settings.sensitiveEnabled then
    [.all [streamIs "audit", olderThan settings settings.retentionDays.audit],
      .all [streamIs "security", olderThan settings settings.retentionDays.security],
      .all [categoryIs "admin", olderThan settings settings.retentionDays.admin]]
  else []

/-- `where`, as the database selects rows by it. -/
def expired (row : AdminLogRow) : Bool := (Condition.any (whereOr settings)).selects row

end Query

section Prune

variable {κ : Type} [LinearOrder κ] (db : Collation κ)

/-- `orderBy`: by time and then by id. -/
def OldestFirst (a b : AdminLogRow) : Prop :=
  ((compare a.occurredAt.ms b.occurredAt.ms).then (compare (db.key a.id) (db.key b.id))).isLE = true

instance : DecidableRel (OldestFirst db) := fun _ _ => inferInstanceAs (Decidable (_ = true))

/-- The loop, with the rows of the table; `none` if the fuel runs out. -/
def pruneBatches (settings : PruneSettings) : ℕ → PruneAdminLogReadModelResult → List AdminLogRow →
      Option (PruneAdminLogReadModelResult × List AdminLogRow)
  | 0, _, _ => none
  | fuel + 1, result, table =>
    let rows := Table.select (OldestFirst db) (expired settings) settings.limit.toNat table
    if rows.length = 0 then some (result, table)
    else
      let selected := result.addSelected rows
      if settings.dryRun then some (selected, table)
      else
        let deleted := selected.addDeleted rows
        let left := Table.without AdminLogRow.id rows table
        if rows.length < settings.limit.toNat then some (deleted, left)
        else pruneBatches settings fuel deleted left

def pruneExpiredReadModel (process : PruneProcess) (clock : ℤ) (fuel : ℕ)
    (options : PruneAdminLogReadModelOptions) (table : List AdminLogRow) :
    Option (PruneAdminLogReadModelResult × List AdminLogRow) :=
  let settings := process.settings clock options
  if !settings.enabled then some (.start settings, table)
  else pruneBatches db settings fuel (.start settings) table

end Prune

/-! ## The statement -/

/-- The row is older than its retention and of a kind that is to be deleted. A comparison with null
is not true: a row without a category is neither one of `admin` nor one of another category. -/
def Due (settings : PruneSettings) (row : AdminLogRow) : Prop :=
  (row.stream = "activity" ∧ row.occurredAt.ms < settings.cutoff settings.retentionDays.activity ∧
      row.category ≠ none ∧ row.category ≠ some "admin") ∨
    (row.stream = "domain" ∧ row.occurredAt.ms < settings.cutoff settings.retentionDays.domain ∧
      row.category ≠ none ∧ row.category ≠ some "admin") ∨
    (row.category = some "system" ∧ row.stream ≠ "audit" ∧ row.stream ≠ "security" ∧
      row.occurredAt.ms < settings.cutoff settings.retentionDays.system) ∨
    (settings.includeSensitive = true ∧ settings.sensitiveEnabled = true ∧
      ((row.stream = "audit" ∧ row.occurredAt.ms < settings.cutoff settings.retentionDays.audit) ∨
        (row.stream = "security" ∧
          row.occurredAt.ms < settings.cutoff settings.retentionDays.security) ∨
        (row.category = some "admin" ∧
          row.occurredAt.ms < settings.cutoff settings.retentionDays.admin)))

instance (settings : PruneSettings) : DecidablePred (Due settings) :=
  fun _ => inferInstanceAs (Decidable (_ ∨ _))

def dueRows (settings : PruneSettings) (rows : List AdminLogRow) : List AdminLogRow :=
  rows.filter fun row => Due settings row

/-- The object has the number of the rows with each label. -/
def Counts (counts : List (String × ℕ)) (label : AdminLogRow → String)
    (rows : List AdminLogRow) : Prop :=
  ∀ name, (counts.lookup name).getD 0 = rows.countP fun row => label row = name

/-! ## What is selected -/

section Selection

variable {settings : PruneSettings}

variable {row : AdminLogRow}

theorem streamIs_iff {stream : String} :
    (streamIs stream).selects row = true ↔ row.stream = stream := by
  unfold streamIs
  rw [Condition.selects_equals, Option.some.injEq]

theorem not_streamIs_iff {stream : String} :
    (Condition.negate (streamIs stream)).selects row = true ↔ row.stream ≠ stream := by
  unfold streamIs
  rw [Condition.selects_negate_equals]
  constructor
  · rintro ⟨x, hx, hne⟩
    rw [Option.some.inj hx]
    exact hne
  · intro hne
    exact ⟨row.stream, rfl, hne⟩

theorem categoryIs_iff {category : String} :
    (categoryIs category).selects row = true ↔ row.category = some category :=
  Condition.selects_equals

/-- Of a row without a category it is unknown whether it has another one. -/
theorem not_categoryIs_iff {category : String} :
    (Condition.negate (categoryIs category)).selects row = true ↔
      row.category ≠ none ∧ row.category ≠ some category := by
  unfold categoryIs
  rw [Condition.selects_negate_equals]
  cases row.category <;> simp

theorem olderThan_iff {days : ℤ} : (olderThan settings days).selects row = true ↔
      row.occurredAt.ms < settings.cutoff days := by
  unfold olderThan
  rw [Condition.selects_before]
  constructor
  · rintro ⟨x, hx, hlt⟩
    rw [Option.some.inj hx]
    exact hlt
  · intro hlt
    exact ⟨row.occurredAt.ms, rfl, hlt⟩

/-- The query selects the rows that are due, whichever of its conditions are unknown. -/
theorem expired_iff (row : AdminLogRow) : expired settings row = true ↔ Due settings row := by
  -- of a row of `system` it is known that it is none of `admin`
  have hsystem : (row.category = some "system" ∧
      row.occurredAt.ms < settings.cutoff settings.retentionDays.system ∧
      (row.category ≠ none ∧ row.category ≠ some "admin") ∧ row.stream ≠ "audit" ∧
      row.stream ≠ "security") ↔
      row.category = some "system" ∧ row.stream ≠ "audit" ∧ row.stream ≠ "security" ∧
        row.occurredAt.ms < settings.cutoff settings.retentionDays.system := by grind
  unfold expired whereOr Due
  rw [Condition.selects_any]
  by_cases hsens : (settings.includeSensitive && settings.sensitiveEnabled) = true
  · rw [if_pos hsens]
    rw [Bool.and_eq_true] at hsens
    simp only [List.cons_append, List.nil_append, List.mem_cons, List.not_mem_nil, or_false,
      exists_eq_or_imp, exists_eq_left, Condition.selects_all, forall_eq_or_imp, forall_eq,
      streamIs_iff, not_streamIs_iff, categoryIs_iff, not_categoryIs_iff, olderThan_iff, hsystem,
      hsens.1, hsens.2, true_and]
  rw [if_neg hsens]
  have hnot (P : Prop) :
      ¬ (settings.includeSensitive = true ∧ settings.sensitiveEnabled = true ∧ P) := by grind
  simp only [List.append_nil, List.mem_cons, List.not_mem_nil, or_false, exists_eq_or_imp,
    exists_eq_left, Condition.selects_all, forall_eq_or_imp, forall_eq, streamIs_iff,
    not_streamIs_iff, categoryIs_iff, not_categoryIs_iff, olderThan_iff, hsystem, hnot]

theorem filter_expired (rows : List AdminLogRow) :
    rows.filter (expired settings) = dueRows settings rows := by
  refine List.filter_congr fun row _ => ?_
  rw [Bool.eq_iff_iff, expired_iff, decide_eq_true_eq]

theorem filter_not_expired (rows : List AdminLogRow) :
    (rows.filter fun row => !expired settings row) = rows.filter fun row => ¬ Due settings row := by
  refine List.filter_congr fun row _ => ?_
  rw [Bool.eq_iff_iff, Bool.not_eq_true', ← Bool.not_eq_true, expired_iff, decide_eq_true_eq]

end Selection

/-! ## Counting -/

theorem countRows_append (label : AdminLogRow → String) (counts : List (String × ℕ))
    (first second : List AdminLogRow) :
    countRows label counts (first ++ second) =
      countRows label (countRows label counts first) second :=
  List.foldl_append

/-- What is counted from an empty object on. -/
theorem counts_countRows (label : AdminLogRow → String) (rows : List AdminLogRow) :
    Counts (countRows label [] rows) label rows := by
  intro name
  have hlen : ∀ (counted : List AdminLogRow) (n : ℕ),
      counted.foldl (fun n _ => n + 1) n = n + counted.length := by
    intro counted
    induction counted with
    | nil =>
      intro n
      rfl
    | cons row counted ih => grind
  have htally : countRows label [] rows =
      GroupBy.tally label (fun _ => 0) (fun n _ => n + 1) rows := rfl
  rw [htally, GroupBy.lookup_tally, List.countP_eq_length_filter]
  by_cases hnone : rows.filter (fun row => label row = name) = []
  · rw [hnone]
    rfl
  · rw [if_neg hnone, Option.getD_some, hlen, Nat.zero_add]

theorem Counts.perm {counts : List (String × ℕ)} {label : AdminLogRow → String}
    {rows rows' : List AdminLogRow} (h : Counts counts label rows) (hperm : rows.Perm rows') :
    Counts counts label rows' := by
  intro name
  rw [h name]
  exact hperm.countP_eq _

namespace PruneAdminLogReadModelResult

variable (result : PruneAdminLogReadModelResult)

theorem addSelected_nil : result.addSelected [] = result := rfl

/-- A batch is selected and deleted. -/
def addBatch (rows : List AdminLogRow) : PruneAdminLogReadModelResult :=
  (result.addSelected rows).addDeleted rows

/-- Batch after batch counts the same rows as one batch with all of them. -/
theorem foldl_addBatch (batches : List (List AdminLogRow)) :
    batches.foldl addBatch result = result.addBatch batches.flatten := by
  induction batches generalizing result with
  | nil => rfl
  | cons rows batches ih =>
    rw [List.foldl_cons, ih, List.flatten_cons]
    simp only [addBatch, addSelected, addDeleted, countRows_append, List.length_append,
      Nat.add_assoc]

end PruneAdminLogReadModelResult

/-! ## A run that deletes -/

section Runs

variable {κ : Type} [LinearOrder κ] (db : Collation κ)

def pruneRank (row : AdminLogRow) : ℤ ×ₗ κ := toLex (row.occurredAt.ms, db.key row.id)

theorem oldestFirst_iff (a b : AdminLogRow) : OldestFirst db a b ↔ pruneRank db a ≤ pruneRank db b :=
  Table.isLE_then_iff a.occurredAt.ms b.occurredAt.ms (db.key a.id) (db.key b.id)

omit [LinearOrder κ] in
theorem pruneRanks_distinct {table : List AdminLogRow} (hids : (table.map AdminLogRow.id).Nodup) :
    table.Pairwise fun a b => pruneRank db a ≠ pruneRank db b := by
  refine (List.pairwise_map.mp hids).imp ?_
  intro a b hne hsame
  exact hne (db.injective (Prod.mk.inj hsame).2)

variable {db} {process : PruneProcess} {clock : ℤ} {options : PruneAdminLogReadModelOptions}
  {settings : PruneSettings} {table : List AdminLogRow}

theorem limit_pos : 0 < (process.settings clock options).limit.toNat := by
  have hlimit : (process.settings clock options).limit =
      max 1 (min 10000 (options.limit.getD 1000)) := rfl
  omega

/-- The loop deletes batch by batch. -/
theorem pruneBatches_deletes (hrun : settings.dryRun = false) (fuel : ℕ)
    (result : PruneAdminLogReadModelResult) (table : List AdminLogRow) :
    pruneBatches db settings fuel result table =
      (Table.drain (OldestFirst db) (expired settings) settings.limit.toNat AdminLogRow.id fuel
        table).map fun (batches, rest) =>
          (batches.foldl PruneAdminLogReadModelResult.addBatch result, rest) := by
  induction fuel generalizing result table with
  | zero => rfl
  | succ fuel ih =>
    unfold pruneBatches Table.drain
    dsimp only
    generalize Table.select (OldestFirst db) (expired settings) settings.limit.toNat table = rows
    by_cases hzero : rows.length = 0
    · rw [if_pos hzero, if_pos hzero]
      rfl
    rw [if_neg hzero, if_neg hzero, hrun]
    by_cases hlast : rows.length < settings.limit.toNat
    · rw [if_pos hlast, if_pos hlast]
      rfl
    · rw [if_neg hlast, if_neg hlast, ih, Option.map_map]
      rfl

/-- All that a run does that deletes. -/
theorem pruneExpiredReadModel_deletes (hids : (table.map AdminLogRow.id).Nodup)
    (henabled : (process.settings clock options).enabled = true)
    (hrun : (process.settings clock options).dryRun = false) {fuel : ℕ}
    (hfuel : table.length < fuel) :
    pruneExpiredReadModel db process clock fuel options table =
      some ((PruneAdminLogReadModelResult.start (process.settings clock options)).addBatch
          ((dueRows (process.settings clock options) table).insertionSort (OldestFirst db)),
        table.filter fun row => ¬ Due (process.settings clock options) row) := by
  have hless : (table.filter (expired (process.settings clock options))).length < fuel :=
    lt_of_le_of_lt (List.length_filter_le _ _) hfuel
  obtain ⟨batches, hdrain, hflatten⟩ := Table.drain_spec
    (oldestFirst_iff db) limit_pos hless (pruneRanks_distinct db hids) hids
  rw [filter_not_expired] at hdrain
  rw [filter_expired] at hflatten
  unfold pruneExpiredReadModel
  dsimp only
  rw [henabled, Bool.not_true, if_neg Bool.false_ne_true, pruneBatches_deletes hrun, hdrain,
    Option.map_some]
  dsimp only
  rw [PruneAdminLogReadModelResult.foldl_addBatch, hflatten]

/-- A run that is enabled and no dry run ends. It deletes exactly the rows that are due, and
counts them all and by their streams and categories. -/
theorem prune_deletes_due (hids : (table.map AdminLogRow.id).Nodup)
    (henabled : (process.settings clock options).enabled = true)
    (hrun : (process.settings clock options).dryRun = false) :
    ∃ result rest, (∀ fuel, table.length < fuel →
        pruneExpiredReadModel db process clock fuel options table = some (result, rest)) ∧
      rest = table.filter (fun row => ¬ Due (process.settings clock options) row) ∧
      result.deleted = (dueRows (process.settings clock options) table).length ∧
      Counts result.deletedByStream AdminLogRow.stream
        (dueRows (process.settings clock options) table) ∧
      Counts result.deletedByCategory categoryOf (dueRows (process.settings clock options) table) ∧
      result.selected = result.deleted ∧ result.selectedByStream = result.deletedByStream ∧
      result.selectedByCategory = result.deletedByCategory := by
  have hperm := List.perm_insertionSort (OldestFirst db)
    (dueRows (process.settings clock options) table)
  refine ⟨_, _, fun fuel hfuel => pruneExpiredReadModel_deletes hids henabled hrun hfuel, rfl,
    ?_, ?_, ?_, rfl, rfl, rfl⟩
  · show 0 + _ = _
    rw [Nat.zero_add]
    exact hperm.length_eq
  · exact (counts_countRows AdminLogRow.stream _).perm hperm
  · exact (counts_countRows categoryOf _).perm hperm

/-! ## A dry run -/

/-- A dry run selects one batch. -/
theorem pruneExpiredReadModel_dryRun (henabled : (process.settings clock options).enabled = true)
    (hdry : (process.settings clock options).dryRun = true) {fuel : ℕ}
    (hfuel : table.length < fuel) :
    pruneExpiredReadModel db process clock fuel options table =
      some ((PruneAdminLogReadModelResult.start (process.settings clock options)).addSelected
          (Table.select (OldestFirst db) (expired (process.settings clock options))
            (process.settings clock options).limit.toNat table), table) := by
  obtain ⟨fuel, rfl⟩ := Nat.exists_eq_succ_of_ne_zero (Nat.ne_zero_of_lt hfuel)
  unfold pruneExpiredReadModel pruneBatches
  dsimp only
  rw [henabled, Bool.not_true, if_neg Bool.false_ne_true]
  generalize Table.select (OldestFirst db) (expired (process.settings clock options))
    (process.settings clock options).limit.toNat table = rows
  by_cases hzero : rows.length = 0
  · grind [PruneAdminLogReadModelResult.addSelected_nil]
  · rw [if_neg hzero, if_pos hdry]

/-- With an earlier clock no other rows are due. -/
theorem due_of_earlier {clock later : ℤ} (hclock : clock ≤ later) {row : AdminLogRow}
    (h : Due (process.settings clock options) row) : Due (process.settings later options) row := by
  have hcutoff (days : ℤ) : (process.settings clock options).cutoff days ≤
      (process.settings later options).cutoff days := by
    have hnow : options.now.getD clock ≤ options.now.getD later := by
      cases options.now with
      | none => exact hclock
      | some now => exact le_refl now
    exact sub_le_sub_right hnow _
  have hold {days : ℤ} (hlt : row.occurredAt.ms < (process.settings clock options).cutoff days) :
      row.occurredAt.ms < (process.settings later options).cutoff days :=
    lt_of_lt_of_le hlt (hcutoff days)
  rcases h with ⟨hstream, hlt, hcat⟩ | ⟨hstream, hlt, hcat⟩ |
    ⟨hcat, haudit, hsecurity, hlt⟩ | ⟨hinclude, henabled, hsens⟩
  · exact Or.inl ⟨hstream, hold hlt, hcat⟩
  · exact Or.inr (Or.inl ⟨hstream, hold hlt, hcat⟩)
  · exact Or.inr (Or.inr (Or.inl ⟨hcat, haudit, hsecurity, hold hlt⟩))
  · refine Or.inr (Or.inr (Or.inr ⟨hinclude, henabled, ?_⟩))
    rcases hsens with ⟨hstream, hlt⟩ | ⟨hstream, hlt⟩ | ⟨hcat, hlt⟩
    · exact Or.inl ⟨hstream, hold hlt⟩
    · exact Or.inr (Or.inl ⟨hstream, hold hlt⟩)
    · exact Or.inr (Or.inr ⟨hcat, hold hlt⟩)

/-- The dry run reports what the run that deletes will select. -/
structure Predicts (dry real : PruneAdminLogReadModelResult) : Prop where
  selected : dry.selected = real.selected
  selectedByStream : dry.selectedByStream = real.selectedByStream
  selectedByCategory : dry.selectedByCategory = real.selectedByCategory

/-- The first batch counts as all the rows that are due later exactly if no row falls due in
between and one batch holds them. -/
theorem predicts_iff {first later : List AdminLogRow} (hsub : first.Sublist later) {n : ℕ}
    (dry real : PruneSettings) :
    Predicts ((PruneAdminLogReadModelResult.start dry).addSelected
        ((first.insertionSort (OldestFirst db)).take n))
      ((PruneAdminLogReadModelResult.start real).addBatch (later.insertionSort (OldestFirst db))) ↔
      first = later ∧ first.length ≤ n := by
  constructor
  · intro h
    have hsel : 0 + ((first.insertionSort (OldestFirst db)).take n).length =
        0 + (later.insertionSort (OldestFirst db)).length := h.selected
    rw [List.length_take, List.length_insertionSort, List.length_insertionSort] at hsel
    have hsame : first = later := hsub.eq_of_length_le (by omega)
    refine ⟨hsame, ?_⟩
    rw [← hsame] at hsel
    omega
  rintro ⟨rfl, hlen⟩
  have hall : (first.insertionSort (OldestFirst db)).take n =
      first.insertionSort (OldestFirst db) := by
    grind [List.take_of_length_le, List.length_insertionSort]
  rw [hall]
  exact ⟨rfl, rfl, rfl⟩

/-- Two runs with the same options, the first one dry and the second one not, on the same rows:
the first one reports what the second one selects exactly if retention is not enabled, or no row
falls due between them and not more rows are due than a batch holds. -/
theorem dryRun_predicts_iff (hids : (table.map AdminLogRow.id).Nodup) {clock later : ℤ}
    (hclock : clock ≤ later) :
    ∃ dry real rest, (∀ fuel, table.length < fuel → pruneExpiredReadModel db process clock fuel
        { options with dryRun := some true } table = some (dry, table)) ∧
      (∀ fuel, table.length < fuel → pruneExpiredReadModel db process later fuel
        { options with dryRun := some false } table = some (real, rest)) ∧
      (Predicts dry real ↔ ((process.settings clock options).enabled = true →
        dueRows (process.settings clock options) table =
            dueRows (process.settings later options) table ∧
          ((dueRows (process.settings clock options) table).length : ℤ) ≤
            (process.settings clock options).limit)) := by
  rcases henabled : (process.settings clock options).enabled with _ | _
  · -- neither run selects anything
    have hdry : (process.settings clock { options with dryRun := some true }).enabled = false :=
      henabled
    have hreal : (process.settings later { options with dryRun := some false }).enabled = false :=
      henabled
    refine ⟨.start (process.settings clock { options with dryRun := some true }),
      .start (process.settings later { options with dryRun := some false }), table, ?_, ?_, ?_⟩
    · simp [hdry, pruneExpiredReadModel]
    · simp [hreal, pruneExpiredReadModel]
    · constructor
      · grind
      · intro _
        exact ⟨rfl, rfl, rfl⟩
  · have hdry : (process.settings clock { options with dryRun := some true }).enabled = true :=
      henabled
    have hreal : (process.settings later { options with dryRun := some false }).enabled = true :=
      henabled
    refine ⟨_, _, _, fun fuel hfuel => pruneExpiredReadModel_dryRun hdry rfl hfuel,
      fun fuel hfuel => pruneExpiredReadModel_deletes hids hreal rfl hfuel, ?_⟩
    have hsublist : (dueRows (process.settings clock options) table).Sublist
        (dueRows (process.settings later options) table) := by
      refine List.monotone_filter_right table ?_
      intro row hdue
      rw [decide_eq_true_eq] at hdue ⊢
      exact due_of_earlier hclock hdue
    have hlimit : ((dueRows (process.settings clock options) table).length : ℤ) ≤
        (process.settings clock options).limit ↔
          (dueRows (process.settings clock options) table).length ≤
            (process.settings clock options).limit.toNat := by
      have hpos : 0 < (process.settings clock options).limit.toNat := limit_pos
      omega
    rw [hlimit, imp_iff_right rfl]
    unfold Table.select
    rw [filter_expired]
    exact predicts_iff hsublist _ _

end Runs

/-! ## A log of three rows -/

def bareProcess : PruneProcess where
  env _ := none
  numberOf _ := none
  letters := asciiCase

def pruneAt (now limit : ℤ) (dryRun : Bool) : PruneAdminLogReadModelOptions where
  now := some now
  dryRun := some dryRun
  includeSensitive := none
  limit := some limit
  enabled := some true
  sensitiveEnabled := none
  retentionDays := none

/-- What a user did at the start of the clock. -/
def activityRow (id : String) (category : Option String) : AdminLogRow where
  id := id
  stream := "activity"
  eventType := "quiz.opened"
  occurredAt := { ms := 0, low := by decide, high := by decide }
  severity := none
  status := none
  category := category
  source := none
  searchText := none

def threeRows : List AdminLogRow :=
  [activityRow "first" (some "extension"), activityRow "second" none,
    activityRow "third" (some "ai")]

/-- More than thirty days later. -/
def muchLater : ℤ := 3000000000

theorem prune_deletes_due_threeRows : ∃ result rest, (∀ fuel, threeRows.length < fuel →
        pruneExpiredReadModel Directory.byCharacters bareProcess 0 fuel (pruneAt muchLater 1 false)
          threeRows = some (result, rest)) ∧
      rest = threeRows.filter (fun row =>
        ¬ Due (bareProcess.settings 0 (pruneAt muchLater 1 false)) row) ∧
      result.deleted =
        (dueRows (bareProcess.settings 0 (pruneAt muchLater 1 false)) threeRows).length ∧
      Counts result.deletedByStream AdminLogRow.stream
        (dueRows (bareProcess.settings 0 (pruneAt muchLater 1 false)) threeRows) ∧
      Counts result.deletedByCategory categoryOf
        (dueRows (bareProcess.settings 0 (pruneAt muchLater 1 false)) threeRows) ∧
      result.selected = result.deleted ∧ result.selectedByStream = result.deletedByStream ∧
      result.selectedByCategory = result.deletedByCategory :=
  prune_deletes_due (by decide) rfl rfl

example : (pruneExpiredReadModel Directory.byCharacters bareProcess 0 4
    (pruneAt muchLater 1 false) threeRows).map Prod.snd =
      some [activityRow "second" none] := by decide

theorem dryRun_predicts_threeRows : ∃ dry real rest, (∀ fuel, threeRows.length < fuel →
        pruneExpiredReadModel Directory.byCharacters bareProcess 0 fuel
          { pruneAt muchLater 2 true with dryRun := some true } threeRows = some (dry, threeRows)) ∧
      (∀ fuel, threeRows.length < fuel →
        pruneExpiredReadModel Directory.byCharacters bareProcess 1 fuel
          { pruneAt muchLater 2 true with dryRun := some false } threeRows = some (real, rest)) ∧
      (Predicts dry real ↔ ((bareProcess.settings 0 (pruneAt muchLater 2 true)).enabled = true →
          dueRows (bareProcess.settings 0 (pruneAt muchLater 2 true)) threeRows =
              dueRows (bareProcess.settings 1 (pruneAt muchLater 2 true)) threeRows ∧
            ((dueRows (bareProcess.settings 0 (pruneAt muchLater 2 true)) threeRows).length : ℤ) ≤
              (bareProcess.settings 0 (pruneAt muchLater 2 true)).limit)) :=
  dryRun_predicts_iff (by decide) (by decide)

/-- Two rows are due and a batch holds one: the dry run reports one row, and two are deleted. -/
theorem dryRun_reports_one : ∃ dry real rest,
      pruneExpiredReadModel Directory.byCharacters bareProcess 0 4 (pruneAt muchLater 1 true)
        threeRows = some (dry, threeRows) ∧
      pruneExpiredReadModel Directory.byCharacters bareProcess 0 4 (pruneAt muchLater 1 false)
        threeRows = some (real, rest) ∧
      dry.selected = 1 ∧ real.selected = 2 ∧ ¬ Predicts dry real := by
  refine ⟨_, _, _, rfl, rfl, rfl, rfl, ?_⟩
  intro h
  exact absurd h.selected (by decide)

end QuizMind.Logs

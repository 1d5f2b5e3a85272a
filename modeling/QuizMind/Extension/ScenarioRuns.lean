import QuizMind.Async.Serial
import QuizMind.Extension.Presets
import QuizMind.Extension.ScenarioNormal
import QuizMind.Table.Keyed

/-! # Requests about scenarios and presets

The requests of all users, one after the other, and what each of them does to the table of
scenarios: it saves scenarios, or it marks some as deleted. A user has one row for an id.
-/

namespace QuizMind.Scenarios

open Ai (JsValue Payload trimText)
open History (toISOString maxTime)
open Table
open Async.Serial (states forall_states)

/-! ## The requests -/

inductive ScenarioRequest where
  | create (rawScenario : Option JsValue)
  | put (scenarioId : Text) (rawScenario : Option JsValue)
  | patch (scenarioId : Text) (patch : Option JsValue)
  | remove (scenarioId : Text)
  | bulk (body : Option JsValue)
  | createFromScenario (scenarioId : Text) (raw : Option JsValue)
  | updateMetadata (slug : Text) (raw : Option JsValue)
  | install (slug : Text)
  | disable (slug : Text)

section Handle

variable (env : PresetEnv) (ctx : RequestContext)

/-- The tables after a request that succeeds. -/
def handle : ScenarioRequest → ScenarioStore → Except Exception ScenarioStore
  | .create rawScenario, s => do
      let (_, rows) ← create env.toScenarioEnv ctx rawScenario s.scenarios
      return { s with scenarios := rows }
  | .put scenarioId rawScenario, s => do
      let (_, rows) ← put env.toScenarioEnv ctx scenarioId rawScenario s.scenarios
      return { s with scenarios := rows }
  | .patch scenarioId changes, s => do
      let (_, rows) ← patch env.toScenarioEnv ctx scenarioId changes s.scenarios
      return { s with scenarios := rows }
  | .remove scenarioId, s => do
      let rows ← remove ctx scenarioId s.scenarios
      return { s with scenarios := rows }
  | .bulk body, s => do
      let (_, rows) ← bulk env.toScenarioEnv ctx body s.scenarios
      return { s with scenarios := rows }
  | .createFromScenario scenarioId raw, s => do
      let (_, s) ← createFromScenario env ctx scenarioId raw s
      return s
  | .updateMetadata slug raw, s => updateMetadata env ctx slug raw s
  | .install slug, s => do
      let (_, s) ← install env ctx slug s
      return s
  | .disable slug, s => disable ctx slug s

end Handle

abbrev Sent := RequestContext × ScenarioRequest

/-- A request that fails changes nothing. -/
def stepScenario (env : PresetEnv) (s : ScenarioStore) (sent : Sent) : ScenarioStore :=
  match handle env sent.1 sent.2 s with
  | .ok s' => s'
  | .error _ => s

/-! ## Rows by their keys -/

def ScenarioRow.key (row : ScenarioRow) : String × Text := (row.userId, row.scenarioId)

/-- A user has one row for an id. -/
abbrev Unique (rows : List ScenarioRow) : Prop := Keyed ScenarioRow.key rows

/-- The keys of a user's active scenarios. -/
abbrev activeKeys (rows : List ScenarioRow) (userId : String) : Finset (String × Text) :=
  keysWhere ScenarioRow.key (fun row => row.isActive userId) rows

variable {rows : List ScenarioRow}

theorem Unique.card_activeKeys (h : Unique rows) (userId : String) :
    (activeKeys rows userId).card = countActiveByUserId rows userId :=
  Keyed.card_keysWhere h

variable {userId : String}

theorem isFor_iff {row : ScenarioRow} {scenarioId : Text} :
    row.isFor userId scenarioId = true ↔ row.key = (userId, scenarioId) := by
  simp [ScenarioRow.isFor, ScenarioRow.key]

theorem isActive_iff {row : ScenarioRow} :
    row.isActive userId = true ↔ row.userId = userId ∧ row.deletedAt = none := by
  unfold ScenarioRow.isActive
  rw [Bool.and_eq_true, decide_eq_true_eq, Option.isNone_iff_eq_none]

section Rows

variable {rows : List ScenarioRow} {userId : String} {scenarioId : Text}

theorem findAny_some {row : ScenarioRow}
    (h : findAnyByUserAndScenarioId rows userId scenarioId = some row) :
    row ∈ rows ∧ row.key = (userId, scenarioId) := by
  have hfind : rows.find? (fun row => row.isFor userId scenarioId) = some row := h
  have hfor : row.isFor userId scenarioId = true :=
    List.find?_some (p := fun r : ScenarioRow => r.isFor userId scenarioId) hfind
  exact ⟨List.mem_of_find?_eq_some hfind, isFor_iff.mp hfor⟩

theorem findAny_none : findAnyByUserAndScenarioId rows userId scenarioId = none ↔
      (userId, scenarioId) ∉ rows.map ScenarioRow.key := by
  refine List.find?_eq_none.trans ?_
  constructor
  · intro h hmem
    rcases List.mem_map.mp hmem with ⟨row, hrow, hkey⟩
    exact h row hrow (isFor_iff.mpr hkey)
  · intro h row hrow hfor
    exact h (List.mem_map.mpr ⟨row, hrow, isFor_iff.mp hfor⟩)

theorem findAny_isSome : (findAnyByUserAndScenarioId rows userId scenarioId).isSome ↔
      (userId, scenarioId) ∈ rows.map ScenarioRow.key := by
  rw [← not_iff_not, ← findAny_none, Bool.not_eq_true, Option.isSome_eq_false_iff,
    Option.isNone_iff_eq_none]

theorem update_eq {data : ScenarioRow → ScenarioRow}
    (h : (userId, scenarioId) ∈ rows.map ScenarioRow.key) :
    updateByUserAndScenarioId rows userId scenarioId data =
      .ok (changeAt ScenarioRow.key rows (userId, scenarioId) data) := by
  obtain ⟨row, hrow⟩ := Option.isSome_iff_exists.mp (findAny_isSome.mpr h)
  unfold updateByUserAndScenarioId
  rw [hrow]
  refine congrArg Except.ok (List.map_congr_left ?_)
  intro r _
  by_cases hr : r.key = (userId, scenarioId)
  · rw [if_pos hr, if_pos (isFor_iff.mpr hr)]
  · rw [if_neg hr, if_neg fun hfor => hr (isFor_iff.mp hfor)]

/-- The rows after a scenario has been saved. -/
abbrev save (userId : String) (scenario : ScenarioConfig) (rows : List ScenarioRow) :
    List ScenarioRow :=
  Table.put ScenarioRow.key rows (toCreateData userId scenario)

variable {scenario : ScenarioConfig}

theorem toUpdateData_eq {row : ScenarioRow} (h : row.key = (userId, scenario.id)) :
    toUpdateData scenario row = toCreateData userId scenario := by
  unfold toUpdateData toCreateData
  rw [← (Prod.mk.inj h).1, ← (Prod.mk.inj h).2]

/-- An update with a scenario saves it. -/
theorem update_save (h : (userId, scenario.id) ∈ rows.map ScenarioRow.key) :
    updateByUserAndScenarioId rows userId scenario.id (toUpdateData scenario) =
      .ok (save userId scenario rows) := by
  rw [update_eq h]
  refine congrArg Except.ok ?_
  have hput : save userId scenario rows = changeAt ScenarioRow.key rows (userId, scenario.id)
      fun _ => toCreateData userId scenario := put_of_mem h
  rw [hput]
  refine List.map_congr_left ?_
  intro r _
  by_cases hr : r.key = (userId, scenario.id)
  · grind [toUpdateData_eq]
  · rw [if_neg hr, if_neg hr]

theorem create_save (h : (userId, scenario.id) ∉ rows.map ScenarioRow.key) :
    createRow rows (toCreateData userId scenario) = .ok (save userId scenario rows) := by
  have hnone : findAnyByUserAndScenarioId rows (toCreateData userId scenario).userId
      (toCreateData userId scenario).scenarioId = none := findAny_none.mpr h
  unfold createRow
  rw [hnone]
  exact congrArg Except.ok (put_of_not_mem h).symm

end Rows

/-! ## Requests that save one scenario -/

/-- The row of the id is marked as deleted. -/
def IsDeleted (rows : List ScenarioRow) (userId : String) (scenarioId : Text) : Prop :=
  ∃ row, findAnyByUserAndScenarioId rows userId scenarioId = some row ∧ row.deletedAt.isSome

/-- The request fails, or it saves a scenario: a new one if there is room for it, and a deleted
one if its id is `wanted`. -/
inductive SavesOne (rows : List ScenarioRow) (userId : String) (wanted : Text → Prop) :
    Except Exception (JsValue × List ScenarioRow) → Prop where
  | fails (e : Exception) : SavesOne rows userId wanted (.error e)
  | saves (scenario : ScenarioConfig) (hnormal : scenario.Normal)
      (hnew : findAnyByUserAndScenarioId rows userId scenario.id = none →
        countActiveByUserId rows userId < maxScenarios)
      (hdeleted : IsDeleted rows userId scenario.id → wanted scenario.id) :
      SavesOne rows userId wanted (.ok (scenario.toJson, save userId scenario rows))

/-- The scenario of a wanted id is saved if it has been deleted. -/
def Revives (rows : List ScenarioRow) (userId : String) (wanted : Text → Prop)
    (result : Except Exception (JsValue × List ScenarioRow)) : Prop :=
  ∀ id, wanted id → IsDeleted rows userId id → ∃ scenario : ScenarioConfig,
    scenario.Normal ∧ scenario.id = id ∧ result = .ok (scenario.toJson, save userId scenario rows)

theorem IsDeleted.mem {scenarioId : Text}
    (h : IsDeleted rows userId scenarioId) : (userId, scenarioId) ∈ rows.map ScenarioRow.key := by
  obtain ⟨row, hrow, _⟩ := h
  rw [← (findAny_some hrow).2]
  exact List.mem_map_of_mem (findAny_some hrow).1

section Requests

variable (env : ScenarioEnv) (ctx : RequestContext) {rows : List ScenarioRow}

/-- The id of what the request of `create` is read as. -/
def createdId (rawScenario : Option JsValue) (id : Text) : Prop :=
  ∃ scenario, normalizeScenarioConfig env rawScenario ⟨none, none, ctx.clock 0⟩ (ctx.uuid 0) =
    .ok scenario ∧ scenario.id = id

variable (rawScenario : Option JsValue)

/-- What is accepted once, to find the row of its id, is accepted with that row. -/
theorem create_revives :
    Revives rows ctx.userId (createdId env ctx rawScenario) (create env ctx rawScenario rows) := by
  rintro _ ⟨scenario, hscen, rfl⟩ hdel
  obtain ⟨row, hrow, hdelAt⟩ := hdel
  obtain ⟨saved, hsaved⟩ := normalize_again hscen (ctx.uuid 1) scenario.id
    (some row.configJson) (ctx.clock_valid 1)
  have hid : saved.id = scenario.id := normalize_id hsaved
  have hact : row.deletedAt.isNone = false := by
    rw [Option.isNone_eq_false_iff]
    exact hdelAt
  have hmem : (ctx.userId, saved.id) ∈ rows.map ScenarioRow.key := by
    rw [hid]
    exact IsDeleted.mem ⟨row, hrow, hdelAt⟩
  have hupd := update_save hmem
  rw [hid] at hupd
  refine ⟨saved, normalize_normal hsaved, hid, ?_⟩
  unfold create
  simp only [hscen, hrow, hact, hsaved, hupd, bind, Except.bind]
  rfl

theorem create_savesOne :
    SavesOne rows ctx.userId (createdId env ctx rawScenario) (create env ctx rawScenario rows) := by
  rcases hscen : normalizeScenarioConfig env rawScenario ⟨none, none, ctx.clock 0⟩
      (ctx.uuid 0) with e | scenario
  · have hfails : create env ctx rawScenario rows = .error e := by
      unfold create
      rw [hscen]
      rfl
    rw [hfails]
    exact .fails e
  have hwanted : createdId env ctx rawScenario scenario.id := ⟨scenario, hscen, rfl⟩
  rcases hrow : findAnyByUserAndScenarioId rows ctx.userId scenario.id with _ | row
  · by_cases hfull : maxScenarios ≤ countActiveByUserId rows ctx.userId
    · have hfails : create env ctx rawScenario rows =
          .error (.conflict "Scenario limit reached") := by
        unfold create
        simp only [hscen, hrow, hfull, bind, Except.bind]
        rfl
      rw [hfails]
      exact .fails _
    · have hcreate := create_save (findAny_none.mp hrow)
      have hsaves : create env ctx rawScenario rows =
          .ok (scenario.toJson, save ctx.userId scenario rows) := by
        unfold create
        simp only [hscen, hrow, hfull, hcreate, bind, Except.bind]
        rfl
      rw [hsaves]
      exact .saves scenario (normalize_normal hscen) (fun _ => Nat.lt_of_not_le hfull)
        fun _ => hwanted
  · by_cases hact : row.deletedAt.isNone
    · have hfails : create env ctx rawScenario rows =
          .error (.conflict "Scenario already exists") := by
        unfold create
        simp only [hscen, hrow, hact, bind, Except.bind]
        rfl
      rw [hfails]
      exact .fails _
    · rw [Bool.not_eq_true, Option.isNone_eq_false_iff] at hact
      have hdel : IsDeleted rows ctx.userId scenario.id := ⟨row, hrow, hact⟩
      obtain ⟨saved, hnormal, hid, hsaves⟩ :=
        create_revives env ctx rawScenario _ hwanted hdel
      rw [hsaves]
      refine .saves saved hnormal ?_ ?_
      · rw [hid, hrow]
        rintro ⟨⟩
      · rw [hid]
        exact fun _ => hwanted

/-- The id of a request of `put`, if its scenario is accepted. -/
def putId (scenarioId : Text) (rawScenario : Option JsValue) (id : Text) : Prop :=
  id = scenarioId ∧ ∃ scenario, normalizeScenarioConfig env rawScenario
    ⟨some scenarioId, none, ctx.clock 0⟩ (ctx.uuid 0) = .ok scenario

theorem put_existing {scenarioId : Text} {rawScenario : Option JsValue} {scenario : ScenarioConfig}
    (hscen : normalizeScenarioConfig env rawScenario ⟨some scenarioId,
      (findAnyByUserAndScenarioId rows ctx.userId scenarioId).map fun row => row.configJson,
      ctx.clock 0⟩ (ctx.uuid 0) = .ok scenario)
    (hmem : (ctx.userId, scenarioId) ∈ rows.map ScenarioRow.key) :
    put env ctx scenarioId rawScenario rows =
      .ok (scenario.toJson, save ctx.userId scenario rows) := by
  have hid : scenario.id = scenarioId := normalize_id hscen
  have hupd := update_save (hid ▸ hmem : (ctx.userId, scenario.id) ∈ _)
  rw [hid] at hupd
  have hsome := findAny_isSome.mpr hmem
  unfold put
  simp only [hscen, hsome, hupd, bind, Except.bind]
  rfl

variable (scenarioId : Text)

theorem put_revives : Revives rows ctx.userId (putId env ctx scenarioId rawScenario)
      (put env ctx scenarioId rawScenario rows) := by
  rintro id ⟨hid, scenario, hscen⟩ hdel
  rw [hid] at hdel ⊢
  obtain ⟨saved, hsaved⟩ := normalize_again hscen (ctx.uuid 0) scenarioId
    ((findAnyByUserAndScenarioId rows ctx.userId scenarioId).map fun row => row.configJson)
    (ctx.clock_valid 0)
  exact ⟨saved, normalize_normal hsaved, normalize_id hsaved,
    put_existing env ctx hsaved hdel.mem⟩

theorem put_savesOne : SavesOne rows ctx.userId (putId env ctx scenarioId rawScenario)
      (put env ctx scenarioId rawScenario rows) := by
  rcases hscen : normalizeScenarioConfig env rawScenario ⟨some scenarioId,
      (findAnyByUserAndScenarioId rows ctx.userId scenarioId).map fun row => row.configJson,
      ctx.clock 0⟩ (ctx.uuid 0) with e | scenario
  · have hfails : put env ctx scenarioId rawScenario rows = .error e := by
      unfold put
      simp only [hscen, bind, Except.bind]
    rw [hfails]
    exact .fails e
  have hid : scenario.id = scenarioId := normalize_id hscen
  have hwanted : putId env ctx scenarioId rawScenario scenario.id :=
    ⟨hid, normalize_again hscen (ctx.uuid 0) scenarioId none (ctx.clock_valid 0)⟩
  rcases hrow : findAnyByUserAndScenarioId rows ctx.userId scenarioId with _ | row
  · rw [hrow] at hscen
    by_cases hfull : maxScenarios ≤ countActiveByUserId rows ctx.userId
    · have hfails : put env ctx scenarioId rawScenario rows =
          .error (.conflict "Scenario limit reached") := by
        unfold put
        simp only [hrow, hscen, hfull]
        rfl
      rw [hfails]
      exact .fails _
    have hnone := findAny_none.mp hrow
    rw [← hid] at hnone
    have hcreate := create_save hnone
    have hsaves : put env ctx scenarioId rawScenario rows =
        .ok (scenario.toJson, save ctx.userId scenario rows) := by
      unfold put
      simp only [hrow, hscen, hfull, hcreate, bind, Except.bind]
      rfl
    rw [hsaves]
    exact .saves scenario (normalize_normal hscen) (fun _ => Nat.lt_of_not_le hfull)
      fun _ => hwanted
  · have hmem : (ctx.userId, scenarioId) ∈ rows.map ScenarioRow.key :=
      findAny_isSome.mp (hrow ▸ rfl)
    rw [put_existing env ctx hscen hmem]
    refine .saves scenario (normalize_normal hscen) ?_ fun _ => hwanted
    rw [hid, hrow]
    rintro ⟨⟩

theorem patch_savesOne (changes : Option JsValue) :
    SavesOne rows ctx.userId (fun _ => False) (patch env ctx scenarioId changes rows) := by
  unfold patch
  rcases hrow : findAnyByUserAndScenarioId rows ctx.userId scenarioId with _ | row
  · exact .fails _
  dsimp only
  split
  · exact .fails _
  rename_i hact
  rcases asObj changes "patch" with e | patchObj
  · exact .fails e
  rcases asObj (some row.configJson) "existingConfig" with e | current
  · exact .fails e
  rcases hscen : normalizeScenarioConfig env (some (.object (mergePatch current patchObj)))
      ⟨some scenarioId, some (.object current), ctx.clock 0⟩ (ctx.uuid 0) with e | scenario
  · simp only [bind, Except.bind, hscen]
    exact .fails e
  have hid : scenario.id = scenarioId := normalize_id hscen
  have hmem : (ctx.userId, scenario.id) ∈ rows.map ScenarioRow.key := by
    rw [hid]
    exact findAny_isSome.mp (hrow ▸ rfl)
  have hupd := update_save hmem
  rw [hid] at hupd
  simp only [bind, Except.bind, hscen, hupd]
  refine .saves scenario (normalize_normal hscen) ?_ ?_
  · rw [hid, hrow]
    rintro ⟨⟩
  rw [hid]
  rintro ⟨row', hrow', hdel⟩
  rw [hrow] at hrow'
  cases hrow'
  exact hact hdel

theorem remove_deletes : (∃ e, remove ctx scenarioId rows = .error e) ∨
      remove ctx scenarioId rows = .ok (changeAt ScenarioRow.key rows (ctx.userId, scenarioId)
        (markDeleted (ctx.clock 0))) := by
  unfold remove
  rcases hrow : findAnyByUserAndScenarioId rows ctx.userId scenarioId with _ | row
  · exact Or.inl ⟨_, rfl⟩
  dsimp only
  split
  · exact Or.inl ⟨_, rfl⟩
  · exact Or.inr (update_eq (findAny_isSome.mp (hrow ▸ rfl)))

end Requests

/-- An installation saves a scenario that is new. -/
theorem install_saves (env : PresetEnv) (ctx : RequestContext) (slug : Text) (s : ScenarioStore) :
    (∃ e, install env ctx slug s = .error e) ∨
      ∃ scenario presets, install env ctx slug s = .ok (scenario.toJson,
          { scenarios := save ctx.userId scenario s.scenarios, presets := presets }) ∧
        scenario.Normal ∧ countActiveByUserId s.scenarios ctx.userId < maxScenarios ∧
        findAnyByUserAndScenarioId s.scenarios ctx.userId scenario.id = none := by
  unfold install
  rcases hfound : findBySlug s.presets slug with _ | preset
  · exact Or.inl ⟨_, rfl⟩
  dsimp only
  split_ifs with hhidden hfull
  · exact Or.inl ⟨_, rfl⟩
  · exact Or.inl ⟨_, rfl⟩
  have hnow : isoText (ctx.clock 0) = .ok (toISOString (ctx.clock 0)) :=
    if_pos (ctx.clock_valid 0)
  rcases hscen : normalizeScenarioConfig env.toScenarioEnv (some preset.configJson)
      ⟨some (scenarioIdOf (ctx.uuid 0)), none, ctx.clock 0⟩ (ctx.uuid 1) with e | normalized
  · simp_all [bind, Except.bind]
  let installed := installedConfig normalized (scenarioIdOf (ctx.uuid 0))
    (toISOString (ctx.clock 0))
  rcases hrow : findAnyByUserAndScenarioId s.scenarios ctx.userId installed.id with _ | row
  · refine Or.inr ⟨installed, s.presets.map fun row => if row.slug = slug then
      { row with
        installCount := row.installCount + 1
        updatedAt := ctx.clock 1 } else row, ?_, ?_, Nat.lt_of_not_le hfull, hrow⟩
    · have hcreate := create_save (findAny_none.mp hrow)
      simp only [hnow, bind, Except.bind]
      rw [hcreate]
      simp only [updateBySlug, hfound]
      rfl
    · have hdate : IsIso (toISOString (ctx.clock 0)) := isIso_of_isoText hnow
      exact { normalize_normal hscen with
        createdAt := hdate
        updatedAt := hdate }
  · left
    have hcreate : createRow s.scenarios (toCreateData ctx.userId installed) =
        .error (.prisma "P2002") := by
      have hrow' : findAnyByUserAndScenarioId s.scenarios (toCreateData ctx.userId installed).userId
          (toCreateData ctx.userId installed).scenarioId = some row := hrow
      unfold createRow
      rw [hrow']
    simp only [hnow, bind, Except.bind]
    rw [hcreate]
    exact ⟨_, rfl⟩

/-! ## Bulk requests -/

section Bulk

variable {env : ScenarioEnv} {ctx : RequestContext} {rows : List ScenarioRow}
  {scenarios : List ScenarioConfig}

def scenarioIds (scenarios : List ScenarioConfig) : List Text :=
  scenarios.map fun scenario => scenario.id

section

variable {items : List JsValue} {n : ℕ} {seen : List Text}
    (h : normalizeItems env ctx rows items n seen = .ok scenarios)
include h

theorem normalizeItems_normal : ∀ scenario ∈ scenarios, scenario.Normal := by
  induction items generalizing n seen scenarios with
  | nil =>
    cases h
    exact fun _ hmem => absurd hmem List.not_mem_nil
  | cons item items ih =>
    unfold normalizeItems at h
    dsimp only at h
    split at h
    · cases h
    obtain ⟨scenario, hscen, h⟩ := bind_eq_ok_iff.mp h
    obtain ⟨rest, hrest, h⟩ := bind_eq_ok_iff.mp h
    cases h
    intro scenario' hmem
    rcases List.mem_cons.mp hmem with rfl | hmem
    · exact normalize_normal hscen
    · exact ih hrest scenario' hmem

/-- The ids of the items that pass are distinct, and none of them has been seen before. -/
theorem normalizeItems_ids :
    (scenarioIds scenarios).Nodup ∧ ∀ id ∈ scenarioIds scenarios, id ∉ seen := by
  induction items generalizing n seen scenarios with
  | nil =>
    cases h
    exact ⟨List.nodup_nil, fun _ hid => absurd hid List.not_mem_nil⟩
  | cons item items ih =>
    unfold normalizeItems at h
    by_cases hseen : candidateId ctx item n ∈ seen
    · rw [if_pos hseen] at h
      cases h
    rw [if_neg hseen] at h
    obtain ⟨scenario, hscen, h⟩ := bind_eq_ok_iff.mp h
    obtain ⟨rest, hrest, h⟩ := bind_eq_ok_iff.mp h
    cases h
    have hid : scenario.id = candidateId ctx item n := normalize_id hscen
    obtain ⟨hnodup, hfresh⟩ := ih hrest
    constructor
    · refine List.nodup_cons.mpr ⟨?_, hnodup⟩
      intro hmem
      exact hfresh scenario.id hmem (hid ▸ List.mem_cons_self)
    intro id hmem
    rcases List.mem_cons.mp hmem with rfl | hmem
    · grind
    · exact fun hold => hfresh id hmem (List.mem_cons_of_mem _ hold)

end

/-- The rows that the scenarios are saved as. -/
def savedRows (userId : String) (scenarios : List ScenarioConfig) : List ScenarioRow :=
  scenarios.map (toCreateData userId)

theorem key_savedRows (userId : String) (scenarios : List ScenarioConfig) :
    (savedRows userId scenarios).map ScenarioRow.key =
      (scenarioIds scenarios).map fun id => (userId, id) := by
  unfold savedRows scenarioIds
  rw [List.map_map, List.map_map]
  rfl

theorem nodup_key_savedRows (userId : String) (h : (scenarioIds scenarios).Nodup) :
    ((savedRows userId scenarios).map ScenarioRow.key).Nodup := by
  rw [key_savedRows]
  exact h.map (Prod.mk_right_injective userId)

/-- The first loop of the transaction saves the scenarios: the rows that it takes to be there
are there still. -/
theorem writeScenarios_eq {existing : List ScenarioRow} (hnodup : (scenarioIds scenarios).Nodup)
    (hsame : ∀ id ∈ scenarioIds scenarios, (ctx.userId, id) ∈ existing.map ScenarioRow.key ↔
      (ctx.userId, id) ∈ rows.map ScenarioRow.key) :
    writeScenarios ctx existing scenarios rows =
      .ok (putAll ScenarioRow.key rows (savedRows ctx.userId scenarios)) := by
  induction scenarios generalizing rows with
  | nil => rfl
  | cons scenario scenarios ih =>
    obtain ⟨hfirst, hnodup⟩ := List.nodup_cons.mp hnodup
    have hscen := hsame scenario.id List.mem_cons_self
    have hwrite : writeScenario ctx existing scenario rows =
        .ok (save ctx.userId scenario rows) := by
      grind [writeScenario, findAny_isSome, update_save, create_save]
    unfold writeScenarios
    rw [hwrite]
    refine ih hnodup ?_
    intro id hid
    rw [mem_keys_put]
    have hne : (ctx.userId, id) ≠ (toCreateData ctx.userId scenario).key := by
      intro heq
      obtain rfl : id = scenario.id := (Prod.mk.inj heq).2
      exact hfirst hid
    rw [or_iff_right hne]
    exact hsame id (List.mem_cons_of_mem _ hid)

theorem deleteScenarios_eq {actives : List ScenarioRow}
    (h : ∀ row ∈ actives, (ctx.userId, row.scenarioId) ∈ rows.map ScenarioRow.key) :
    deleteScenarios ctx actives rows = .ok (changeAll ScenarioRow.key rows
      (actives.map fun row => (ctx.userId, row.scenarioId)) (markDeleted (ctx.clock 0))) := by
  induction actives generalizing rows with
  | nil => rfl
  | cons active actives ih =>
    have hupd : updateByUserAndScenarioId rows ctx.userId active.scenarioId
        (markDeleted (ctx.clock 0)) = _ := update_eq (h active List.mem_cons_self)
    unfold deleteScenarios
    rw [hupd]
    refine ih ?_
    intro row hrow
    have hkeys : (changeAt ScenarioRow.key rows (ctx.userId, active.scenarioId)
        (markDeleted (ctx.clock 0))).map ScenarioRow.key = rows.map ScenarioRow.key :=
      map_key_changeAt fun _ hkey => hkey
    rw [hkeys]
    exact h row (List.mem_cons_of_mem _ hrow)

/-- The active scenarios that a bulk request with mode `replace` does not name. -/
def unnamed (userId : String) (scenarios : List ScenarioConfig) (rows : List ScenarioRow) :
    List ScenarioRow :=
  rows.filter fun row => row.isActive userId && row.scenarioId ∉ scenarioIds scenarios

/-- The rows after a bulk request. -/
def bulkRows (ctx : RequestContext) (body : Payload) (scenarios : List ScenarioConfig)
    (rows : List ScenarioRow) : List ScenarioRow :=
  let saved := putAll ScenarioRow.key rows (savedRows ctx.userId scenarios)
  if isReplace body then
    changeAll ScenarioRow.key saved
      ((unnamed ctx.userId scenarios rows).map fun row => (ctx.userId, row.scenarioId))
      (markDeleted (ctx.clock 0))
  else saved

theorem deleteUnseen_eq (raw : Payload) : deleteUnseen ctx raw rows (scenarioIds scenarios)
        (putAll ScenarioRow.key rows (savedRows ctx.userId scenarios)) =
      .ok (bulkRows ctx raw scenarios rows) := by
  unfold deleteUnseen bulkRows
  cases isReplace raw with
  | false => rfl
  | true =>
    refine deleteScenarios_eq ?_
    intro row hrow
    obtain ⟨hmem, hkept⟩ := List.mem_filter.mp hrow
    obtain ⟨hact, -⟩ := Bool.and_eq_true_iff.mp hkept
    have huser : row.userId = ctx.userId := (isActive_iff.mp hact).1
    refine mem_keys_putAll.mpr (Or.inr (List.mem_map.mpr ⟨row, hmem, ?_⟩))
    unfold ScenarioRow.key
    rw [huser]

/-- What is accepted and is not too much is written. -/
theorem bulk_eq {body : Option JsValue} {raw : Payload} (hraw : asObj body "body" = .ok raw)
    (hscens : normalizeItems env ctx rows (bulkItems raw) 0 [] = .ok scenarios)
    (hroom : activeAfter ctx raw scenarios rows ≤ maxScenarios) :
    bulk env ctx body rows = .ok ((listActiveByUserId (bulkRows ctx raw scenarios rows)
      ctx.userId).map fun row => row.configJson, bulkRows ctx raw scenarios rows) := by
  obtain ⟨hnodup, -⟩ := normalizeItems_ids hscens
  have hwrite : writeScenarios ctx rows scenarios rows = _ :=
    writeScenarios_eq hnodup fun _ _ => Iff.rfl
  have hdelete : deleteUnseen ctx raw rows (scenarios.map fun scenario => scenario.id)
      (putAll ScenarioRow.key rows (savedRows ctx.userId scenarios)) = _ := deleteUnseen_eq raw
  unfold bulk
  simp only [hraw, hscens, bind, Except.bind, if_neg (not_lt.mpr hroom), hwrite, hdelete]
  rfl

/-- A bulk request fails, or it is accepted and is not too much. -/
theorem bulk_cases (body : Option JsValue) : (∃ e, bulk env ctx body rows = .error e) ∨
      ∃ raw scenarios, asObj body "body" = .ok raw ∧
        normalizeItems env ctx rows (bulkItems raw) 0 [] = .ok scenarios ∧
        activeAfter ctx raw scenarios rows ≤ maxScenarios := by
  rcases hraw : asObj body "body" with e | raw
  · simp [hraw, bind, Except.bind, bulk]
  rcases hscens : normalizeItems env ctx rows (bulkItems raw) 0 [] with e | scenarios
  · simp [hraw, hscens, bind, Except.bind, bulk]
  by_cases hroom : activeAfter ctx raw scenarios rows ≤ maxScenarios
  · exact Or.inr ⟨raw, scenarios, rfl, hscens, hroom⟩
  refine Or.inl ⟨.conflict "Scenario limit reached", ?_⟩
  unfold bulk
  simp only [hraw, hscens, bind, Except.bind, if_pos (not_le.mp hroom)]
  rfl

end Bulk

/-! ## What a request does to the scenarios -/

/-- The rows after a request about them. -/
def rowsAfter {α : Type} (rows : List ScenarioRow) :
    Except Exception (α × List ScenarioRow) → List ScenarioRow
  | .ok (_, rows') => rows'
  | .error _ => rows

inductive RowChange (ctx : RequestContext) (rows : List ScenarioRow) : List ScenarioRow → Prop where
  | same : RowChange ctx rows rows
  | saved (scenario : ScenarioConfig) (hnormal : scenario.Normal) :
      RowChange ctx rows (save ctx.userId scenario rows)
  | deleted (scenarioId : Text) : RowChange ctx rows
      (changeAt ScenarioRow.key rows (ctx.userId, scenarioId) (markDeleted (ctx.clock 0)))
  | bulk (raw : Payload) (scenarios : List ScenarioConfig)
      (hnodup : (scenarioIds scenarios).Nodup) (hnormal : ∀ scenario ∈ scenarios, scenario.Normal) :
      RowChange ctx rows (bulkRows ctx raw scenarios rows)

theorem SavesOne.rowChange {ctx : RequestContext} {wanted : Text → Prop}
    {result : Except Exception (JsValue × List ScenarioRow)}
    (h : SavesOne rows ctx.userId wanted result) : RowChange ctx rows (rowsAfter rows result) := by
  cases h with
  | fails e => exact .same
  | saves scenario hnormal => exact .saved scenario hnormal

section Step

variable (env : PresetEnv) (s : ScenarioStore) (ctx : RequestContext)

theorem step_create (rawScenario : Option JsValue) :
    (stepScenario env s (ctx, .create rawScenario)).scenarios =
      rowsAfter s.scenarios (create env.toScenarioEnv ctx rawScenario s.scenarios) := by
  unfold stepScenario handle
  dsimp only
  rcases create env.toScenarioEnv ctx rawScenario s.scenarios with e | ⟨reply, rows⟩ <;> rfl

variable (scenarioId : Text)

theorem step_put (rawScenario : Option JsValue) :
    (stepScenario env s (ctx, .put scenarioId rawScenario)).scenarios =
      rowsAfter s.scenarios (put env.toScenarioEnv ctx scenarioId rawScenario s.scenarios) := by
  unfold stepScenario handle
  dsimp only
  rcases put env.toScenarioEnv ctx scenarioId rawScenario s.scenarios with e | ⟨reply, rows⟩ <;> rfl

theorem step_patch (changes : Option JsValue) :
    (stepScenario env s (ctx, .patch scenarioId changes)).scenarios =
      rowsAfter s.scenarios (patch env.toScenarioEnv ctx scenarioId changes s.scenarios) := by
  unfold stepScenario handle
  dsimp only
  rcases patch env.toScenarioEnv ctx scenarioId changes s.scenarios with e | ⟨reply, rows⟩ <;> rfl

theorem step_bulk (body : Option JsValue) : (stepScenario env s (ctx, .bulk body)).scenarios =
      rowsAfter s.scenarios (bulk env.toScenarioEnv ctx body s.scenarios) := by
  unfold stepScenario handle
  dsimp only
  rcases bulk env.toScenarioEnv ctx body s.scenarios with e | ⟨reply, rows⟩ <;> rfl

theorem step_remove : (stepScenario env s (ctx, .remove scenarioId)).scenarios = s.scenarios ∨
      (stepScenario env s (ctx, .remove scenarioId)).scenarios =
        changeAt ScenarioRow.key s.scenarios (ctx.userId, scenarioId)
          (markDeleted (ctx.clock 0)) := by
  unfold stepScenario handle
  dsimp only
  have hcases : (∃ e, remove ctx scenarioId s.scenarios = .error e) ∨ _ :=
    remove_deletes ctx scenarioId
  rcases hcases with ⟨e, hfails⟩ | hdeletes
  · rw [hfails]
    exact Or.inl rfl
  · rw [hdeletes]
    exact Or.inr rfl

theorem step_install (slug : Text) :
    (stepScenario env s (ctx, .install slug)).scenarios = s.scenarios ∨
      ∃ scenario : ScenarioConfig, scenario.Normal ∧
        (stepScenario env s (ctx, .install slug)).scenarios = save ctx.userId scenario s.scenarios ∧
        countActiveByUserId s.scenarios ctx.userId < maxScenarios ∧
        findAnyByUserAndScenarioId s.scenarios ctx.userId scenario.id = none := by
  unfold stepScenario handle
  dsimp only
  rcases install_saves env ctx slug s with
    ⟨e, hfails⟩ | ⟨scenario, presets, hsaves, hnormal, hroom, hnew⟩
  · rw [hfails]
    exact Or.inl rfl
  · rw [hsaves]
    exact Or.inr ⟨scenario, hnormal, rfl, hroom, hnew⟩

theorem step_createFromScenario (raw : Option JsValue) :
    (stepScenario env s (ctx, .createFromScenario scenarioId raw)).scenarios = s.scenarios := by
  unfold stepScenario handle
  dsimp only
  rcases hres : createFromScenario env ctx scenarioId raw s with e | ⟨slug, s'⟩
  · rfl
  unfold createFromScenario at hres
  split at hres
  · cases hres
  split at hres
  · cases hres
  obtain ⟨normalized, -, hres⟩ := bind_eq_ok_iff.mp hres
  obtain ⟨tags, -, hres⟩ := bind_eq_ok_iff.mp hres
  obtain ⟨presets, -, hres⟩ := bind_eq_ok_iff.mp hres
  cases hres
  rfl

theorem step_updateMetadata (slug : Text) (raw : Option JsValue) :
    (stepScenario env s (ctx, .updateMetadata slug raw)).scenarios = s.scenarios := by
  unfold stepScenario handle
  dsimp only
  rcases hres : updateMetadata env ctx slug raw s with e | s'
  · rfl
  unfold updateMetadata at hres
  split at hres
  · cases hres
  split_ifs at hres
  obtain ⟨tags, -, hres⟩ := bind_eq_ok_iff.mp hres
  obtain ⟨presets, -, hres⟩ := bind_eq_ok_iff.mp hres
  cases hres
  rfl

theorem step_disable (slug : Text) :
    (stepScenario env s (ctx, .disable slug)).scenarios = s.scenarios := by
  unfold stepScenario handle
  dsimp only
  rcases hres : disable ctx slug s with e | s'
  · rfl
  unfold disable at hres
  split at hres
  · cases hres
  split_ifs at hres
  obtain ⟨presets, -, hres⟩ := bind_eq_ok_iff.mp hres
  cases hres
  rfl

theorem bulk_rowChange {env : ScenarioEnv} {rows : List ScenarioRow} (body : Option JsValue) :
    RowChange ctx rows (rowsAfter rows (bulk env ctx body rows)) := by
  have hcases : (∃ e, bulk env ctx body rows = .error e) ∨ _ := bulk_cases body
  rcases hcases with ⟨e, hfails⟩ | ⟨raw, scenarios, hraw, hscens, hroom⟩
  · rw [hfails]
    exact .same
  · rw [bulk_eq hraw hscens hroom]
    exact .bulk raw scenarios (normalizeItems_ids hscens).1 (normalizeItems_normal hscens)

/-- Every request changes the table in one of these ways. -/
theorem step_rowChange (request : ScenarioRequest) :
    RowChange ctx s.scenarios (stepScenario env s (ctx, request)).scenarios := by
  cases request with
  | create rawScenario =>
    rw [step_create]
    exact (create_savesOne _ _ _).rowChange
  | put scenarioId rawScenario =>
    rw [step_put]
    exact (put_savesOne _ _ _ _).rowChange
  | patch scenarioId changes =>
    rw [step_patch]
    exact (patch_savesOne _ _ _ _).rowChange
  | remove scenarioId =>
    rcases step_remove env s ctx scenarioId with h | h
    · rw [h]
      exact .same
    · rw [h]
      exact .deleted scenarioId
  | bulk body =>
    rw [step_bulk]
    exact bulk_rowChange ctx body
  | createFromScenario scenarioId raw =>
    rw [step_createFromScenario]
    exact .same
  | updateMetadata slug raw =>
    rw [step_updateMetadata]
    exact .same
  | install slug =>
    rcases step_install env s ctx slug with h | ⟨scenario, hnormal, h, -⟩
    · rw [h]
      exact .same
    · rw [h]
      exact .saved scenario hnormal
  | disable slug =>
    rw [step_disable]
    exact .same

end Step

theorem RowChange.unique {ctx : RequestContext} {rows' : List ScenarioRow}
    (h : RowChange ctx rows rows') (huniq : Unique rows) : Unique rows' := by
  cases h with
  | same => exact huniq
  | saved scenario => exact huniq.put
  | deleted scenarioId => exact huniq.changeAt fun _ hkey => hkey
  | bulk raw scenarios =>
    unfold bulkRows
    split
    · exact huniq.putAll.changeAll fun _ => rfl
    · exact huniq.putAll

/-! ## What holds of every row -/

section Rows

variable {P : ScenarioRow → Prop} {rows : List ScenarioRow}

theorem forall_putAll {userId : String} {scenarios : List ScenarioConfig}
    (hnodup : (scenarioIds scenarios).Nodup)
    (hsaved : ∀ scenario ∈ scenarios, P (toCreateData userId scenario))
    (hrows : ∀ row ∈ rows, P row) :
    ∀ row ∈ putAll ScenarioRow.key rows (savedRows userId scenarios), P row := by
  intro row hrow
  rcases (mem_putAll (nodup_key_savedRows userId hnodup)).mp hrow with hnew | ⟨hold, _⟩
  · rcases List.mem_map.mp hnew with ⟨scenario, hmem, rfl⟩
    exact hsaved scenario hmem
  · exact hrows row hold

theorem forall_changeAll {now : ℤ} {ks : List (String × Text)}
    (hdel : ∀ row, P row → P (markDeleted now row)) (hrows : ∀ row ∈ rows, P row) :
    ∀ row ∈ changeAll ScenarioRow.key rows ks (markDeleted now), P row := by
  induction ks generalizing rows with
  | nil => exact hrows
  | cons k ks ih =>
    refine ih ?_
    intro row hrow
    rcases mem_changeAt.mp hrow with ⟨old, hold, _, rfl⟩ | ⟨hold, _⟩
    · exact hdel old (hrows old hold)
    · exact hrows row hold

/-- What holds of the row of a normal scenario, deleted or not, holds of every row. -/
theorem RowChange.forall_rows {ctx : RequestContext} {rows' : List ScenarioRow}
    (hsaved : ∀ scenario : ScenarioConfig, scenario.Normal → P (toCreateData ctx.userId scenario))
    (hdel : ∀ row, P row → P (markDeleted (ctx.clock 0) row))
    (h : RowChange ctx rows rows') (hrows : ∀ row ∈ rows, P row) : ∀ row ∈ rows', P row := by
  cases h with
  | same => exact hrows
  | saved scenario hnormal =>
    intro row hrow
    rcases mem_put.mp hrow with rfl | ⟨hold, _⟩
    · exact hsaved scenario hnormal
    · exact hrows row hold
  | deleted scenarioId =>
    have hone : ∀ row ∈ changeAll ScenarioRow.key rows [(ctx.userId, scenarioId)]
        (markDeleted (ctx.clock 0)), P row := forall_changeAll hdel hrows
    exact hone
  | bulk raw scenarios hnodup hnormal =>
    have hput : ∀ row ∈ putAll ScenarioRow.key rows (savedRows ctx.userId scenarios), P row :=
      forall_putAll hnodup (fun scenario hmem => hsaved scenario (hnormal scenario hmem)) hrows
    unfold bulkRows
    split
    · exact forall_changeAll hdel hput
    · exact hput

theorem states_forall_rows (env : PresetEnv)
    (hsaved : ∀ (userId : String) (scenario : ScenarioConfig), scenario.Normal →
      P (toCreateData userId scenario))
    (hdel : ∀ (now : ℤ) (row : ScenarioRow), P row → P (markDeleted now row))
    (presets : List PresetRow) (sents : List Sent) :
    ∀ s ∈ states (stepScenario env) ⟨[], presets⟩ sents, ∀ row ∈ s.scenarios, P row := by
  refine forall_states (I := fun s : ScenarioStore => ∀ row ∈ s.scenarios, P row) ?_ ?_
  · intro row hrow
    cases hrow
  intro s sent hs
  exact (step_rowChange env s sent.1 sent.2).forall_rows (hsaved sent.1.userId)
    (hdel (sent.1.clock 0)) hs

end Rows

/-! ## Alice and her scenarios -/

def plainEnv : PresetEnv where
  numberText := fun _ => []
  otherDates := fun _ => none
  letterCase := Logs.asciiCase

def aliceContext : RequestContext where
  userId := "alice"
  clock := fun _ => 0
  uuid := fun _ => ⟨"00000000-0000-4000-8000-000000000000".toList, by decide,
    List.all_iff_forall_prop.mp (by decide)⟩
  clock_valid := fun _ => by decide

def plainScenario (id : Text) : JsValue :=
  .object [("id", .string id), ("name", text "Explain"), ("buttonLabel", text "Explain"),
    ("prompt", .object [("system", text "You explain."), ("user", text "Explain this.")])]

end QuizMind.Scenarios

import QuizMind.Extension.ScenarioRuns

/-! # The columns of a scenario

A row repeats what its configuration says. Together with the projection onto normal scenarios:
`projects_iff`, where the only exception is an id that is blank.
-/

namespace QuizMind.Scenarios

open Ai (JsValue)
open Async.Serial
open Table

/-- The columns of the row are those of the scenario that it has as `configJson`. -/
structure Repeats (row : ScenarioRow) (scenario : ScenarioConfig) : Prop where
  scenarioId : row.scenarioId = scenario.id
  schemaVersion : row.schemaVersion = 1
  name : row.name = scenario.name
  description : row.description = scenario.description
  buttonLabel : row.buttonLabel = scenario.buttonLabel
  icon : row.icon = scenario.icon
  enabled : row.enabled = scenario.enabled
  showInSelectionMenu : row.showInSelectionMenu = scenario.showInSelectionMenu
  menuOrder : row.menuOrder = scenario.menuOrder
  configJson : row.configJson = scenario.toJson

def Mirrors (row : ScenarioRow) : Prop := ∃ scenario, Repeats row scenario

theorem mirrors_toCreateData (userId : String) (scenario : ScenarioConfig) :
    Mirrors (toCreateData userId scenario) :=
  ⟨scenario, ⟨rfl, rfl, rfl, rfl, rfl, rfl, rfl, rfl, rfl, rfl⟩⟩

theorem Mirrors.markDeleted {row : ScenarioRow} (h : Mirrors row) (now : ℤ) :
    Mirrors (markDeleted now row) := by
  obtain ⟨scenario, hrow⟩ := h
  exact ⟨scenario, ⟨hrow.scenarioId, hrow.schemaVersion, hrow.name, hrow.description,
    hrow.buttonLabel, hrow.icon, hrow.enabled, hrow.showInSelectionMenu, hrow.menuOrder,
    hrow.configJson⟩⟩

theorem states_mirror (env : PresetEnv) (presets : List PresetRow) (sents : List Sent) :
    ∀ s ∈ states (stepScenario env) ⟨[], presets⟩ sents, ∀ row ∈ s.scenarios, Mirrors row :=
  states_forall_rows env (fun userId scenario _ => mirrors_toCreateData userId scenario)
    (fun now _ hrow => hrow.markDeleted now) presets sents

/-- The scenario is valid, and normalizing it once more changes nothing. -/
def Projected (env : ScenarioEnv) (options : NormalizeOptions) (scenario : ScenarioConfig) : Prop :=
  scenario.Valid ∧ ∀ (uuid : Uuid) (scenarioId : Option Text),
    scenarioId = options.scenarioId ∨ scenarioId = some scenario.id →
    normalizeScenarioConfig env (some scenario.toJson) { options with scenarioId := scenarioId }
      uuid = .ok scenario

/-- What is accepted is projected, and whatever is written repeats its configuration, exactly
where the id of the scenario is not blank. -/
theorem projects_iff (env : PresetEnv) {raw : Option JsValue} {options : NormalizeOptions}
    {uuid : Uuid} {scenario : ScenarioConfig}
    (h : normalizeScenarioConfig env.toScenarioEnv raw options uuid = .ok scenario) :
    Projected env.toScenarioEnv options scenario ∧
      (∀ (presets : List PresetRow) (sents : List Sent),
        ∀ s ∈ states (stepScenario env) ⟨[], presets⟩ sents, ∀ row ∈ s.scenarios, Mirrors row) ↔
      NamesId options.scenarioId raw := by
  refine (and_iff_left (states_mirror env)).trans ?_
  have hagain : ∀ (uuid' : Uuid) (scenarioId : Option Text),
      scenarioId = options.scenarioId ∨ scenarioId = some scenario.id →
      normalizeScenarioConfig env.toScenarioEnv (some scenario.toJson)
        { options with scenarioId := scenarioId } uuid' = .ok scenario := by
    intro uuid' scenarioId hid
    exact normalize_normalized h uuid' hid
  exact (and_iff_left hagain).trans (valid_iff_namesId h)

/-- A scenario that is given an id. -/
theorem projects_iff_plain :
    ∃ scenario, normalizeScenarioConfig plainEnv.toScenarioEnv (some (plainScenario ['a']))
        ⟨none, none, 0⟩ (aliceContext.uuid 0) = .ok scenario ∧
      (Projected plainEnv.toScenarioEnv ⟨none, none, 0⟩ scenario ∧
        (∀ (presets : List PresetRow) (sents : List Sent),
          ∀ s ∈ states (stepScenario plainEnv) ⟨[], presets⟩ sents,
            ∀ row ∈ s.scenarios, Mirrors row) ↔
        NamesId none (some (plainScenario ['a']))) :=
  ⟨_, rfl, projects_iff plainEnv rfl⟩

/-- A scenario whose id is a blank is accepted, and its id is empty. -/
theorem blankId_not_valid :
    ∃ scenario, normalizeScenarioConfig plainEnv.toScenarioEnv (some (plainScenario [' ']))
        ⟨none, none, 0⟩ (aliceContext.uuid 0) = .ok scenario ∧ ¬ scenario.Valid := by
  refine ⟨_, rfl, ?_⟩
  intro hvalid
  exact hvalid.id rfl

end QuizMind.Scenarios

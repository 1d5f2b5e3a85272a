import QuizMind.Extension.ScenarioService
import QuizMind.Extension.Versions

/-! # Presets

`ExtensionScenarioPresetsService`: a scenario is published as a preset, and a preset is installed
as a scenario. `toLowerCase`, `Number` of a member of a query and the order in which the database
returns rows that are equal under the requested order are parameters.
-/

namespace QuizMind.Scenarios

open Ai (JsValue Payload trimText)
open Logs (get isTruthy LetterCase sliceUnits)
open History (toISOString)
open Versions (JsNumber)

structure PresetEnv extends ScenarioEnv where
  letterCase : LetterCase

/-! ## Reading a request -/

def allowedCategories : List Text :=
  ["study".toList, "translation".toList, "writing".toList, "coding".toList,
    "productivity".toList, "other".toList]

def maxTags : ℕ := 10
def maxTagLength : ℕ := 32
def maxLanguageLength : ℕ := 60
def maxNameLength : ℕ := 120
def maxDescriptionLength : ℕ := 1000

def normalizeVisibility (raw : Option JsValue) : Visibility :=
  if isText raw "private" then .private_
  else if isText raw "unlisted" then .unlisted
  else if isText raw "public" then .public_
  else .unlisted

section Normalize

variable (env : PresetEnv)

def normalizeCategory : Option JsValue → Option Text
  | some (.string raw) =>
    let value := env.letterCase.toLowerCase (trimText raw)
    if value ∈ allowedCategories then some value else none
  | _ => none

/-- The loop over the values, with the set of the tags so far. -/
def collectTags : List JsValue → List Text → Except Exception (List Text)
  | [], dedup => .ok dedup
  | .null :: items, dedup => collectTags items dedup
  | item :: items, dedup => do
      let itemText ← stringOf env.numberText item
      let normalized := env.letterCase.toLowerCase (trimText itemText)
      if normalized = [] ∨ maxTagLength < textLength normalized then
        collectTags items dedup
      else
        let dedup := if normalized ∈ dedup then dedup else dedup ++ [normalized]
        if maxTags ≤ dedup.length then return dedup else collectTags items dedup

def normalizeTags (raw : Option JsValue) : Except Exception (List Text) :=
  match raw with
  | some (.array items) => collectTags env items []
  | some (.string value) => collectTags env ((value.splitOn ',').map JsValue.string) []
  | _ => .ok []

def normalizeText (raw : Option JsValue) (max : ℕ) : Option Text :=
  match raw with
  | some (.string value) =>
    if trimText value = [] then none else some (sliceUnits max (trimText value))
  | _ => none

def normalizeLanguage (raw : Option JsValue) : Option Text := normalizeText raw maxLanguageLength

end Normalize

/-! ## The repository of presets -/

def findBySlug (presets : List PresetRow) (slug : Text) : Option PresetRow :=
  presets.find? fun preset => preset.slug = slug

/-- `slug` is unique. -/
def createPresetRow (presets : List PresetRow) (preset : PresetRow) :
    Except Exception (List PresetRow) :=
  match findBySlug presets preset.slug with
  | some _ => .error (.prisma "P2002")
  | none => .ok (presets ++ [preset])

def updateBySlug (presets : List PresetRow) (slug : Text) (now : ℤ)
    (data : PresetRow → PresetRow) : Except Exception (List PresetRow) :=
  match findBySlug presets slug with
  | none => .error (.prisma "P2025")
  | some _ => .ok (presets.map fun preset =>
    if preset.slug = slug then { data preset with updatedAt := now } else preset)

/-! ## Writing -/

section Service

variable (env : PresetEnv) (ctx : RequestContext)

def presetSlug (uuid : Uuid) : Text := "p_".toList ++ uuid.text

/-- The row that publishes a scenario. -/
def newPreset (scenarioId : Text) (raw : Option JsValue) (normalized : ScenarioConfig)
    (tags : List Text) : PresetRow where
  ownerUserId := ctx.userId
  sourceScenarioId := scenarioId
  slug := presetSlug (ctx.uuid 1)
  name := (normalizeText (get raw "name") maxNameLength).getD normalized.name
  description := (normalizeText (get raw "description") maxDescriptionLength).or
    normalized.description
  buttonLabel := normalized.buttonLabel
  icon := normalized.icon
  visibility := normalizeVisibility (get raw "visibility")
  category := normalizeCategory env (get raw "category")
  tags := tags
  publishedAt := if normalizeVisibility (get raw "visibility") = .public_ then some (ctx.clock 1)
    else none
  moderationStatus := "approved"
  sourceLanguage := normalizeLanguage (get raw "sourceLanguage")
  targetLanguage := normalizeLanguage (get raw "targetLanguage")
  configJson := normalized.toJson
  installCount := 0
  createdAt := ctx.clock 2
  updatedAt := ctx.clock 2
  disabledAt := none

def createFromScenario (scenarioId : Text) (raw : Option JsValue) (s : ScenarioStore) :
    Except Exception (Text × ScenarioStore) := do
  match findAnyByUserAndScenarioId s.scenarios ctx.userId scenarioId with
  | none => throw (.notFound "Scenario not found")
  | some scenario =>
    if scenario.deletedAt.isSome then
      throw (.notFound "Scenario not found")
    else
      let normalized ← normalizeScenarioConfig env.toScenarioEnv (some scenario.configJson)
        ⟨none, some scenario.configJson, ctx.clock 0⟩ (ctx.uuid 0)
      let tags ← normalizeTags env (get raw "tags")
      let preset := newPreset env ctx scenarioId raw normalized tags
      let presets ← createPresetRow s.presets preset
      return (preset.slug, { s with presets := presets })

/-- The visibility that an update writes. -/
def updatedVisibility (raw : Option JsValue) (preset : PresetRow) : Visibility :=
  if ((get raw "visibility").map isTruthy).getD false then
    normalizeVisibility (get raw "visibility")
  else preset.visibility

/-- What `updateMetadata` writes; a member that is not given leaves its column as it is. -/
def updatedPreset (raw : Option JsValue) (preset : PresetRow) (tags : List Text)
    (row : PresetRow) : PresetRow :=
  { row with
    name := if (get raw "name").isNone then row.name
      else (normalizeText (get raw "name") maxNameLength).getD preset.name
    description := if (get raw "description").isNone then row.description
      else normalizeText (get raw "description") maxDescriptionLength
    visibility := updatedVisibility raw preset
    category := if (get raw "category").isNone then row.category
      else normalizeCategory env (get raw "category")
    tags := if (get raw "tags").isNone then row.tags else tags
    sourceLanguage := if (get raw "sourceLanguage").isNone then row.sourceLanguage
      else normalizeLanguage (get raw "sourceLanguage")
    targetLanguage := if (get raw "targetLanguage").isNone then row.targetLanguage
      else normalizeLanguage (get raw "targetLanguage")
    publishedAt := if updatedVisibility raw preset = .public_ ∧ preset.publishedAt.isNone then
      some (ctx.clock 0) else row.publishedAt }

def updateMetadata (slug : Text) (raw : Option JsValue) (s : ScenarioStore) :
    Except Exception ScenarioStore := do
  match findBySlug s.presets slug with
  | none => throw (.notFound "Preset not found")
  | some preset =>
    if preset.ownerUserId ≠ ctx.userId then
      throw (.forbidden "Not allowed")
    else if preset.visibility = .disabled ∨ preset.disabledAt.isSome then
      throw (.badRequest "Disabled preset cannot be updated")
    else
      let tags ← normalizeTags env (get raw "tags")
      let presets ← updateBySlug s.presets slug (ctx.clock 1)
        (updatedPreset env ctx raw preset tags)
      return { s with presets := presets }

def disabledPreset (row : PresetRow) : PresetRow :=
  { row with
    visibility := .disabled
    disabledAt := some (ctx.clock 0) }

def disable (slug : Text) (s : ScenarioStore) : Except Exception ScenarioStore := do
  match findBySlug s.presets slug with
  | none => throw (.notFound "Preset not found")
  | some preset =>
    if preset.ownerUserId ≠ ctx.userId then
      throw (.forbidden "Not allowed")
    else
      let presets ← updateBySlug s.presets slug (ctx.clock 1) (disabledPreset ctx)
      return { s with presets := presets }

/-- The configuration that is installed: `{ ...normalized, id, enabled: true, .. }`. -/
def installedConfig (normalized : ScenarioConfig) (newScenarioId nowIso : Text) :
    ScenarioConfig :=
  { normalized with
    id := newScenarioId
    enabled := true
    createdAt := nowIso
    updatedAt := nowIso }

def install (slug : Text) (s : ScenarioStore) : Except Exception (JsValue × ScenarioStore) := do
  match findBySlug s.presets slug with
  | none => throw (.notFound "Preset not found")
  | some p =>
    if p.disabledAt.isSome ∨ (p.visibility ≠ .unlisted ∧ p.visibility ≠ .public_) then
      throw (.notFound "Preset not found")
    else if 50 ≤ countActiveByUserId s.scenarios ctx.userId then
      throw (.conflict "Scenario limit reached")
    else
      let newScenarioId := scenarioIdOf (ctx.uuid 0)
      let nowIso ← isoText (ctx.clock 0)
      let normalized ← normalizeScenarioConfig env.toScenarioEnv (some p.configJson)
        ⟨some newScenarioId, none, ctx.clock 0⟩ (ctx.uuid 1)
      let installed := installedConfig normalized newScenarioId nowIso
      let scenarios ← createRow s.scenarios (toCreateData ctx.userId installed)
      let presets ← updateBySlug s.presets slug (ctx.clock 1) fun row =>
        { row with installCount := row.installCount + 1 }
      return (installed.toJson, { scenarios := scenarios, presets := presets })

end Service

/-! ## Reading -/

/-- The preset that is shown; `sessionUser` is none without a session. -/
def preview (slug : Text) (sessionUser : Option String) (s : ScenarioStore) :
    Except Exception PresetRow :=
  match findBySlug s.presets slug with
  | none => .error (.notFound "Preset not found")
  | some p =>
    if p.disabledAt.isSome ∨ p.visibility = .disabled then
      .error (.notFound "Preset not found")
    else if p.visibility = .private_ ∧ sessionUser ≠ some p.ownerUserId then
      .error (.notFound "Preset not found")
    else .ok p

end QuizMind.Scenarios

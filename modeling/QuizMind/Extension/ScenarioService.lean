import QuizMind.Extension.Scenarios

/-! # The scenarios of a user

`ExtensionScenariosService`: the requests that write scenarios. A request writes once, or in a
transaction, so a request that fails has written nothing.

The dates of the rows, by which a list orders scenarios of one `menuOrder`, are left out.
-/

namespace QuizMind.Scenarios

open Ai (JsValue Payload trimText)

/-! ## Tables -/

structure ScenarioRow where
  userId : String
  scenarioId : Text
  schemaVersion : ℤ
  name : Text
  description : Option Text
  buttonLabel : Text
  icon : Option Text
  enabled : Bool
  showInSelectionMenu : Bool
  menuOrder : ℤ
  configJson : JsValue
  deletedAt : Option ℤ

inductive Visibility where
  | private_
  | unlisted
  | public_
  | disabled
  deriving DecidableEq

/-- A row of `ExtensionScenarioPreset`, apart from its versions, which are 1 in each. -/
structure PresetRow where
  ownerUserId : String
  sourceScenarioId : Text
  slug : Text
  name : Text
  description : Option Text
  buttonLabel : Text
  icon : Option Text
  visibility : Visibility
  category : Option Text
  tags : List Text
  publishedAt : Option ℤ
  moderationStatus : String
  sourceLanguage : Option Text
  targetLanguage : Option Text
  configJson : JsValue
  installCount : ℕ
  createdAt : ℤ
  updatedAt : ℤ
  disabledAt : Option ℤ

structure ScenarioStore where
  scenarios : List ScenarioRow
  presets : List PresetRow

/-! ## The repository of scenarios -/

def ScenarioRow.isFor (row : ScenarioRow) (userId : String) (scenarioId : Text) : Bool :=
  row.userId = userId && row.scenarioId = scenarioId

def ScenarioRow.isActive (row : ScenarioRow) (userId : String) : Bool :=
  row.userId = userId && row.deletedAt.isNone

def listAnyByUserId (rows : List ScenarioRow) (userId : String) : List ScenarioRow :=
  rows.filter fun row => row.userId = userId

def listActiveByUserId (rows : List ScenarioRow) (userId : String) : List ScenarioRow :=
  (rows.filter fun row => row.isActive userId).insertionSort fun a b => a.menuOrder ≤ b.menuOrder

def countActiveByUserId (rows : List ScenarioRow) (userId : String) : ℕ :=
  (rows.filter fun row => row.isActive userId).length

def findAnyByUserAndScenarioId (rows : List ScenarioRow) (userId : String) (scenarioId : Text) :
    Option ScenarioRow :=
  rows.find? fun row => row.isFor userId scenarioId

/-- `userId` and `scenarioId` are unique together. -/
def createRow (rows : List ScenarioRow) (row : ScenarioRow) : Except Exception (List ScenarioRow) :=
  match findAnyByUserAndScenarioId rows row.userId row.scenarioId with
  | some _ => .error (.prisma "P2002")
  | none => .ok (rows ++ [row])

def updateByUserAndScenarioId (rows : List ScenarioRow) (userId : String) (scenarioId : Text)
    (data : ScenarioRow → ScenarioRow) : Except Exception (List ScenarioRow) :=
  match findAnyByUserAndScenarioId rows userId scenarioId with
  | none => .error (.prisma "P2025")
  | some _ => .ok (rows.map fun row => if row.isFor userId scenarioId then data row else row)

def toUpdateData (scenario : ScenarioConfig) (row : ScenarioRow) : ScenarioRow :=
  { row with
    schemaVersion := 1
    name := scenario.name
    description := scenario.description
    buttonLabel := scenario.buttonLabel
    icon := scenario.icon
    enabled := scenario.enabled
    showInSelectionMenu := scenario.showInSelectionMenu
    menuOrder := scenario.menuOrder
    configJson := scenario.toJson
    deletedAt := none }

def toCreateData (userId : String) (scenario : ScenarioConfig) : ScenarioRow where
  userId := userId
  scenarioId := scenario.id
  schemaVersion := 1
  name := scenario.name
  description := scenario.description
  buttonLabel := scenario.buttonLabel
  icon := scenario.icon
  enabled := scenario.enabled
  showInSelectionMenu := scenario.showInSelectionMenu
  menuOrder := scenario.menuOrder
  configJson := scenario.toJson
  deletedAt := none

/-! ## Requests -/

/-- The user of a request, the times that the clock shows during it and the ids drawn. -/
structure RequestContext where
  userId : String
  clock : ℕ → ℤ
  uuid : ℕ → Uuid
  clock_valid : ∀ n, -History.maxTime ≤ clock n ∧ clock n ≤ History.maxTime

section Service

variable (env : ScenarioEnv) (ctx : RequestContext)

def create (rawScenario : Option JsValue) (rows : List ScenarioRow) :
    Except Exception (JsValue × List ScenarioRow) := do
  let scenario ← normalizeScenarioConfig env rawScenario ⟨none, none, ctx.clock 0⟩ (ctx.uuid 0)
  match findAnyByUserAndScenarioId rows ctx.userId scenario.id with
  | some existing =>
    if existing.deletedAt.isNone then
      throw (.conflict "Scenario already exists")
    else
      let normalized ← normalizeScenarioConfig env rawScenario
        ⟨some scenario.id, some existing.configJson, ctx.clock 1⟩ (ctx.uuid 1)
      let rows ← updateByUserAndScenarioId rows ctx.userId scenario.id (toUpdateData normalized)
      return (normalized.toJson, rows)
  | none =>
    if maxScenarios ≤ countActiveByUserId rows ctx.userId then
      throw (.conflict "Scenario limit reached")
    else
      let rows ← createRow rows (toCreateData ctx.userId scenario)
      return (scenario.toJson, rows)

def put (scenarioId : Text) (rawScenario : Option JsValue) (rows : List ScenarioRow) :
    Except Exception (JsValue × List ScenarioRow) := do
  let existing := findAnyByUserAndScenarioId rows ctx.userId scenarioId
  let normalized ← normalizeScenarioConfig env rawScenario
    ⟨some scenarioId, existing.map fun row => row.configJson, ctx.clock 0⟩ (ctx.uuid 0)
  if existing.isSome then
    let rows ← updateByUserAndScenarioId rows ctx.userId scenarioId (toUpdateData normalized)
    return (normalized.toJson, rows)
  else if maxScenarios ≤ countActiveByUserId rows ctx.userId then
    throw (.conflict "Scenario limit reached")
  else
    let rows ← createRow rows (toCreateData ctx.userId normalized)
    return (normalized.toJson, rows)

/-- `{ ...members, ...others }`. -/
def spread (members others : Payload) : Payload :=
  members.filter (fun member => (others.lookup member.1).isNone) ++ others

/-- `{ ...(isObj(current.key) ? current.key : {}), ...(isObj(patch.key) ? patch.key : {}) }`. -/
def mergedMember (current patch : Payload) (key : String) : JsValue :=
  .object (spread ((membersOf (current.lookup key)).getD [])
    ((membersOf (patch.lookup key)).getD []))

def mergedMembers (current patch : Payload) : Payload :=
  ["ai", "prompt", "window", "input", "output"].map fun key =>
    (key, mergedMember current patch key)

def mergePatch (current patch : Payload) : Payload :=
  spread (spread current patch) (mergedMembers current patch)

def patch (scenarioId : Text) (patch : Option JsValue) (rows : List ScenarioRow) :
    Except Exception (JsValue × List ScenarioRow) := do
  match findAnyByUserAndScenarioId rows ctx.userId scenarioId with
  | none => throw (.notFound "Scenario not found")
  | some existing =>
    if existing.deletedAt.isSome then
      throw (.notFound "Scenario not found")
    else
      let patchObj ← asObj patch "patch"
      let current ← asObj (some existing.configJson) "existingConfig"
      let normalized ← normalizeScenarioConfig env (some (.object (mergePatch current patchObj)))
        ⟨some scenarioId, some (.object current), ctx.clock 0⟩ (ctx.uuid 0)
      let rows ← updateByUserAndScenarioId rows ctx.userId scenarioId (toUpdateData normalized)
      return (normalized.toJson, rows)

def markDeleted (now : ℤ) (row : ScenarioRow) : ScenarioRow := { row with deletedAt := some now }

def remove (scenarioId : Text) (rows : List ScenarioRow) : Except Exception (List ScenarioRow) :=
  match findAnyByUserAndScenarioId rows ctx.userId scenarioId with
  | none => .error (.notFound "Scenario not found")
  | some existing =>
    if existing.deletedAt.isSome then
      .error (.notFound "Scenario not found")
    else
      updateByUserAndScenarioId rows ctx.userId scenarioId (markDeleted (ctx.clock 0))

/-- The id of an item of a bulk request; the `n`-th item gets the `n`-th id drawn. -/
def candidateId (item : JsValue) (n : ℕ) : Text :=
  match Logs.get (some item) "id" with
  | some (.string id) => if trimText id = [] then scenarioIdOf (ctx.uuid n) else trimText id
  | _ => scenarioIdOf (ctx.uuid n)

/-- The loop over the items, from the `n`-th on. -/
def normalizeItems (rows : List ScenarioRow) :
    List JsValue → ℕ → List Text → Except Exception (List ScenarioConfig)
  | [], _, _ => .ok []
  | item :: items, n, seen => do
      let id := candidateId ctx item n
      if id ∈ seen then
        throw (.badRequest s!"Duplicate scenario id in bulk request: {String.ofList id}")
      let existing := findAnyByUserAndScenarioId rows ctx.userId id
      let scenario ← normalizeScenarioConfig env (some item)
        ⟨some id, existing.map fun row => row.configJson, ctx.clock n⟩ (ctx.uuid n)
      let scenarios ← normalizeItems rows items (n + 1) (id :: seen)
      return scenario :: scenarios

def isReplace (body : Payload) : Bool := isText (body.lookup "mode") "replace"

def bulkItems (body : Payload) : List JsValue :=
  match body.lookup "items" with
  | some (.array items) => items
  | _ => []

/-- The body of the first loop of the transaction. -/
def writeScenario (existing : List ScenarioRow) (scenario : ScenarioConfig)
    (rows : List ScenarioRow) : Except Exception (List ScenarioRow) :=
  if (findAnyByUserAndScenarioId existing ctx.userId scenario.id).isSome then
    updateByUserAndScenarioId rows ctx.userId scenario.id (toUpdateData scenario)
  else
    createRow rows (toCreateData ctx.userId scenario)

def writeScenarios (existing : List ScenarioRow) :
    List ScenarioConfig → List ScenarioRow → Except Exception (List ScenarioRow)
  | [], rows => .ok rows
  | scenario :: scenarios, rows => do
      let rows ← writeScenario ctx existing scenario rows
      writeScenarios existing scenarios rows

/-- The second loop of the transaction. -/
def deleteScenarios : List ScenarioRow → List ScenarioRow → Except Exception (List ScenarioRow)
  | [], rows => .ok rows
  | active :: actives, rows => do
      let rows ← updateByUserAndScenarioId rows ctx.userId active.scenarioId
        (markDeleted (ctx.clock 0))
      deleteScenarios actives rows

/-- The active scenarios that were not `seen` are deleted, where the mode is `replace`. -/
def deleteUnseen (body : Payload) (existing : List ScenarioRow) (seen : List Text)
    (rows : List ScenarioRow) : Except Exception (List ScenarioRow) :=
  if isReplace body then
    deleteScenarios ctx (existing.filter fun row =>
      row.isActive ctx.userId && row.scenarioId ∉ seen) rows
  else .ok rows

/-- The number of scenarios that a bulk request takes to be active afterwards. -/
def activeAfter (body : Payload) (normalized : List ScenarioConfig) (rows : List ScenarioRow) :
    ℕ :=
  if isReplace body then normalized.length
  else countActiveByUserId rows ctx.userId + (normalized.filter fun scenario =>
      (findAnyByUserAndScenarioId rows ctx.userId scenario.id).isNone).length

def bulk (body : Option JsValue) (rows : List ScenarioRow) :
    Except Exception (List JsValue × List ScenarioRow) := do
  let raw ← asObj body "body"
  let normalized ← normalizeItems env ctx rows (bulkItems raw) 0 []
  if maxScenarios < activeAfter ctx raw normalized rows then
    throw (.conflict "Scenario limit reached")
  else
    let written ← writeScenarios ctx rows normalized rows
    -- an item is normalized under the id that it has been seen with
    let seen := normalized.map fun scenario => scenario.id
    let written ← deleteUnseen ctx raw rows seen written
    return ((listActiveByUserId written ctx.userId).map fun row => row.configJson, written)

end Service

end QuizMind.Scenarios

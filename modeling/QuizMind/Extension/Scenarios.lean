import QuizMind.History.IsoDate
import QuizMind.Logs.AdminLogEvent
import QuizMind.Table.Select

/-! # Scenarios of the extension

`ExtensionScenariosService.normalizeScenarioConfig`: an arbitrary JSON value is read as a
scenario, member by member. `String` of a number and the dates in other forms than the one of
`toISOString` are parameters (`ScenarioEnv`).
-/

namespace QuizMind.Scenarios

open Ai (JsValue Payload trimText)
open History (toISOString dateParse maxTime)
open Logs (get isTruthy)

abbrev Text := List Char

/-! ## Values -/

structure ScenarioEnv where
  numberText : Option ℚ → Text
  otherDates : Text → Option ℤ

/-- `value ?? other` on members. -/
def coalesce (value : Option JsValue) (other : JsValue) : JsValue :=
  match value with
  | none | some .null => other
  | some value => value

def text (value : String) : JsValue := .string value.toList

/-- `value === other` for a text. -/
def isText : Option JsValue → String → Bool
  | some (.string value), other => value = other.toList
  | _, _ => false

/-- `Number.isInteger`. -/
def integerOf : Option JsValue → Option ℤ
  | some (.number (some n)) => if n.isInt then some n.num else none
  | _ => none

def booleanOf : Option JsValue → Option Bool
  | some (.bool b) => some b
  | _ => none

def finiteOf : Option JsValue → Option ℚ
  | some (.number n) => n
  | _ => none

def membersOf : Option JsValue → Option Payload
  | some (.object members) => some members
  | _ => none

/-- `text.length`. -/
def textLength (value : Text) : ℕ := jsLength (String.ofList value)

section Strings

variable (numberText : Option ℚ → Text)

mutual

/-- `String(value)`. An object that has a member `toString` of its own cannot be converted. -/
def stringOf : JsValue → Except Exception Text
  | .null => .ok "null".toList
  | .bool b => .ok (if b then "true" else "false").toList
  | .number n => .ok (numberText n)
  | .string value => .ok value
  | .array items => do
      let texts ← itemTexts items
      return [','].intercalate texts
  | .object members =>
    if (members.lookup "toString").isSome then
      .error (.error "Cannot convert object to primitive value")
    else
      .ok "[object Object]".toList

/-- The texts that `Array.prototype.join` joins: null counts as empty. -/
def itemTexts : List JsValue → Except Exception (List Text)
  | [] => .ok []
  | .null :: items => do
      let texts ← itemTexts items
      return [] :: texts
  | item :: items => do
      let itemText ← stringOf item
      let texts ← itemTexts items
      return itemText :: texts

end

/-- `String(value)`, also of `undefined`. -/
def stringOfMember : Option JsValue → Except Exception Text
  | none => .ok "undefined".toList
  | some value => stringOf numberText value

end Strings

/-! ## The parts of a scenario -/

inductive ScenarioOutput where
  | text
  | image (downloadable openInNewTab : Bool)

structure ScenarioAi where
  model : Option Text
  temperature : ℚ
  maxTokens : ℤ

structure ScenarioPrompt where
  system : Text
  user : Text

inductive ResultPosition where
  | inherit
  | under_action
  | floating
  deriving DecidableEq

def ResultPosition.name : ResultPosition → Text
  | .inherit => "inherit".toList
  | .under_action => "under_action".toList
  | .floating => "floating".toList

structure ScenarioWindow where
  resultPosition : ResultPosition
  draggable : Option Bool
  resizable : Option Bool

/-- `ScenarioConfig`, apart from the members that are the same in each: `schemaVersion`, `input`,
`ai.provider` and `window.theme`. -/
structure ScenarioConfig where
  id : Text
  name : Text
  description : Option Text
  buttonLabel : Text
  icon : Option Text
  enabled : Bool
  showInSelectionMenu : Bool
  menuOrder : ℤ
  output : ScenarioOutput
  ai : ScenarioAi
  prompt : ScenarioPrompt
  window : ScenarioWindow
  createdAt : Text
  updatedAt : Text

/-! ## As JSON -/

def ofText (value : Option Text) : JsValue :=
  match value with
  | none => .null
  | some value => .string value

def ofInt (n : ℤ) : JsValue := .number (some n)

def ScenarioOutput.toJson : ScenarioOutput → JsValue
  | .text => .object [("type", Scenarios.text "text"),
      ("renderer", Scenarios.text "answer_window")]
  | .image downloadable openInNewTab =>
    .object [("type", Scenarios.text "image"), ("renderer", Scenarios.text "image_window"),
      ("image", .object [("downloadable", .bool downloadable),
        ("openInNewTab", .bool openInNewTab)])]

def ScenarioAi.toJson (ai : ScenarioAi) : JsValue :=
  .object [("provider", text "auto"), ("model", ofText ai.model),
    ("temperature", .number (some ai.temperature)), ("maxTokens", ofInt ai.maxTokens)]

def ScenarioPrompt.toJson (prompt : ScenarioPrompt) : JsValue :=
  .object [("system", .string prompt.system), ("user", .string prompt.user)]

/-- A member that is there when it has a value. -/
def givenBool (key : String) (value : Option Bool) : Payload :=
  (value.map fun b => (key, JsValue.bool b)).toList

def ScenarioWindow.toJson (window : ScenarioWindow) : JsValue :=
  .object ([("resultPosition", .string window.resultPosition.name), ("theme", text "inherit")] ++
    givenBool "draggable" window.draggable ++ givenBool "resizable" window.resizable)

def ScenarioConfig.members (scenario : ScenarioConfig) : Payload :=
  [("id", .string scenario.id), ("schemaVersion", ofInt 1), ("name", .string scenario.name),
    ("description", ofText scenario.description), ("buttonLabel", .string scenario.buttonLabel),
    ("icon", ofText scenario.icon), ("enabled", .bool scenario.enabled),
    ("showInSelectionMenu", .bool scenario.showInSelectionMenu),
    ("menuOrder", ofInt scenario.menuOrder),
    ("input", .object [("type", text "selection_text")]), ("output", scenario.output.toJson),
    ("ai", scenario.ai.toJson), ("prompt", scenario.prompt.toJson),
    ("window", scenario.window.toJson), ("createdAt", .string scenario.createdAt),
    ("updatedAt", .string scenario.updatedAt)]

/-- The value that is stored as `configJson`. -/
def ScenarioConfig.toJson (scenario : ScenarioConfig) : JsValue := .object scenario.members

/-! ## Checks -/

def maxScenarios : ℕ := 50

def dangerousKeys : List String := ["code", "js", "script", "eval", "functionBody", "remoteScriptUrl"]

def comingSoonCapabilityMessage : String :=
  "Only selected text → text and selected text → image scenarios are currently supported. " ++
    "Screenshot, file and multi-output scenarios are coming soon."

def asObj (value : Option JsValue) (field : String) : Except Exception Payload :=
  match membersOf value with
  | some members => .ok members
  | none => .error (.badRequest s!"{field} must be an object")

mutual

def assertNoDangerousKeys : JsValue → Except Exception Unit
  | .array items => assertItems items
  | .object members => assertMembers members
  | _ => .ok ()

def assertItems : List JsValue → Except Exception Unit
  | [] => .ok ()
  | item :: items => do
      assertNoDangerousKeys item
      assertItems items

def assertMembers : List (String × JsValue) → Except Exception Unit
  | [] => .ok ()
  | (k, v) :: members => do
      if k ∈ dangerousKeys then
        throw (.badRequest s!"Dangerous field: {k}")
      assertNoDangerousKeys v
      assertMembers members

end

def cleanString (value : Option JsValue) (field : String) (max : ℕ) (required : Bool) :
    Except Exception (Option Text) :=
  match value with
  | none | some .null =>
    if required then .error (.badRequest s!"{field} is required") else .ok none
  | some (.string given) =>
    let t := trimText given
    if required ∧ t = [] then .error (.badRequest s!"{field} is required")
    else if max < textLength t then .error (.badRequest s!"{field} too long")
    else .ok (some t)
  | some _ => .error (.badRequest s!"{field} must be string")

/-- `cleanString(.., true)!`. -/
def requiredString (value : Option JsValue) (field : String) (max : ℕ) : Except Exception Text := do
  let cleaned ← cleanString value field max true
  return cleaned.getD []

def clamp {α : Type} [LinearOrder α] (n low high : α) : α := min high (max low n)

section Dates

variable (otherDates : Text → Option ℤ)

/-- `new Date(value)`, if it is a date: a time value is in range. -/
def newDate (value : Text) : Option ℤ :=
  (dateParse otherDates value).filter fun t => -maxTime ≤ t ∧ t ≤ maxTime

def parseIso : Option JsValue → Option Text
  | some (.string value) =>
    if trimText value = [] then none else (newDate otherDates value).map toISOString
  | _ => none

end Dates

/-- `date.toISOString()`. -/
def isoText (t : ℤ) : Except Exception Text :=
  if -maxTime ≤ t ∧ t ≤ maxTime then .ok (toISOString t) else .error (.error "Invalid time value")

/-! ## `normalizeScenarioConfig` -/

structure NormalizeOptions where
  scenarioId : Option Text
  existingConfig : Option JsValue
  now : ℤ

/-- What `randomUUID` returns. -/
structure Uuid where
  text : Text
  length : text.length = 36
  digits : ∀ c ∈ text, c ∈ "0123456789abcdef-".toList

def scenarioIdOf (uuid : Uuid) : Text := "scn_".toList ++ uuid.text

def readId (scenarioId : Option Text) (root : Payload) (uuid : Uuid) : Except Exception Text :=
  match scenarioId with
  | some scenarioId => .ok scenarioId
  | none => do
      let given ← cleanString (root.lookup "id") "id" 256 false
      return given.getD (scenarioIdOf uuid)

section Normalize

variable (env : ScenarioEnv)

def checkInput (input : Payload) : Except Exception Unit := do
  if !isText (input.lookup "type") "selection_text" then
    let type ← stringOfMember env.numberText (input.lookup "type")
    if type ∈ ["screenshot".toList, "selection_text_plus_screenshot".toList,
        "uploaded_file".toList] then
      throw (.badRequest comingSoonCapabilityMessage)
    else
      throw (.badRequest "input.type must be selection_text")

def checkOutput (output : Payload) : Except Exception Unit := do
  let type ← stringOfMember env.numberText (output.lookup "type")
  if type ∉ ["text".toList, "image".toList] then
    if type ∈ ["multi".toList] then
      throw (.badRequest comingSoonCapabilityMessage)
    else
      throw (.badRequest "output.type must be text or image")
  if isText (output.lookup "type") "text" ∧ !isText (output.lookup "renderer") "answer_window" then
    throw (.badRequest "output.renderer must be answer_window for text output")
  if isText (output.lookup "type") "image" ∧ !isText (output.lookup "renderer") "image_window" then
    throw (.badRequest "output.renderer must be image_window for image output")

def readMenuOrder : Option JsValue → Except Exception ℤ
  | none | some .null => .ok 100
  | some value =>
    match integerOf (some value) with
    | some n => .ok (clamp n (-10000) 10000)
    | none => .error (.badRequest "menuOrder must be integer")

def readResultPosition : Option JsValue → Except Exception ResultPosition
  | some (.string value) =>
    if value = "inherit".toList then .ok .inherit
    else if value = "under_action".toList then .ok .under_action
    else if value = "floating".toList then .ok .floating
    else .error (.badRequest "window.resultPosition invalid")
  | _ => .ok .inherit

/-- The flag of an image output; without a boolean it is set. -/
def readImageFlag (output : Payload) (key : String) : Bool :=
  (booleanOf (get (output.lookup "image") key)).getD true

def readOutput (output : Payload) : ScenarioOutput :=
  if isText (output.lookup "type") "image" then
    .image (readImageFlag output "downloadable") (readImageFlag output "openInNewTab")
  else .text

def readTemperature (value : Option JsValue) : ℚ :=
  match finiteOf value with
  | some n => clamp n 0 2
  | none => 3 / 10

def readMaxTokens (value : Option JsValue) : ℤ :=
  match integerOf value with
  | some n => clamp n 1 20000
  | none => 700

def readCreatedAt (existingConfig : Option JsValue) (root : Payload) (now : Text) : Text :=
  ((parseIso env.otherDates (get existingConfig "createdAt")).or
    (parseIso env.otherDates (root.lookup "createdAt"))).getD now

def normalizeScenarioConfig (raw : Option JsValue) (options : NormalizeOptions) (uuid : Uuid) :
    Except Exception ScenarioConfig := do
  assertNoDangerousKeys (raw.getD .null)
  let now ← isoText options.now
  let root ← asObj raw "scenario"
  let id ← readId options.scenarioId root uuid
  let input ← asObj (some (coalesce (root.lookup "input")
    (.object [("type", text "selection_text")]))) "input"
  let output ← asObj (some (coalesce (root.lookup "output")
    (.object [("type", text "text"), ("renderer", text "answer_window")]))) "output"
  checkInput env input
  checkOutput env output
  let ai ← asObj (some (coalesce (root.lookup "ai") (.object []))) "ai"
  let prompt ← asObj (some (coalesce (root.lookup "prompt") (.object []))) "prompt"
  let windowRaw ← asObj (some (coalesce (root.lookup "window") (.object []))) "window"
  let menuOrder ← readMenuOrder (root.lookup "menuOrder")
  let resultPosition ← readResultPosition (windowRaw.lookup "resultPosition")
  let name ← requiredString (root.lookup "name") "name" 80
  let description ← cleanString (root.lookup "description") "description" 500 false
  let buttonLabel ← requiredString (root.lookup "buttonLabel") "buttonLabel" 28
  let icon ← cleanString (root.lookup "icon") "icon" 8 false
  let model ← cleanString (ai.lookup "model") "ai.model" 150 false
  let system ← requiredString (prompt.lookup "system") "prompt.system" 12000
  let user ← requiredString (prompt.lookup "user") "prompt.user" 12000
  return { id := id
           name := name
           description := description
           buttonLabel := buttonLabel
           icon := icon
           enabled := (booleanOf (root.lookup "enabled")).getD true
           showInSelectionMenu := (booleanOf (root.lookup "showInSelectionMenu")).getD true
           menuOrder := menuOrder
           output := readOutput output
           ai :=
             { model := model
               temperature := readTemperature (ai.lookup "temperature")
               maxTokens := readMaxTokens (ai.lookup "maxTokens") }
           prompt := { system := system, user := user }
           window :=
             { resultPosition := resultPosition
               draggable := booleanOf (windowRaw.lookup "draggable")
               resizable := booleanOf (windowRaw.lookup "resizable") }
           createdAt := readCreatedAt env options.existingConfig root now
           updatedAt := now }

end Normalize

end QuizMind.Scenarios

import QuizMind.Runtime
import Mathlib.Data.List.Sort
import Mathlib.Data.Rat.Defs
import Mathlib.Algebra.Order.Ring.Unbundled.Rat

/-! # Remote configuration: layers and their resolution

A layer holds whatever JSON was submitted as its conditions and values. `resolveRemoteConfig`
applies the layers whose conditions match the context, by priority; two type guards decide
what of a stored layer is handed to it.

A context holds strings and lists of strings, as its type says. What the language does with
other values is followed as far as it can be reached: `String` of a JSON value, the entries
of an array or of a string, the members that every object inherits.
-/

namespace QuizMind.RemoteConfig

/-! ## JSON values -/

/-- A string, by its UTF-16 code units. -/
abbrev JsString := List ℕ

def codeUnits (c : Char) : JsString :=
  if c.toNat < 0x10000 then [c.toNat]
  else [0xD800 + (c.toNat - 0x10000) / 0x400, 0xDC00 + (c.toNat - 0x10000) % 0x400]

def js (s : String) : JsString := s.toList.flatMap codeUnits

theorem codeUnits_ne_nil (c : Char) : codeUnits c ≠ [] := by
  unfold codeUnits
  split
  all_goals exact List.cons_ne_nil _ _

/-- A character is not a surrogate, so that its code units say where it ends. -/
theorem codeUnits_append_inj {c c' : Char} {u v : JsString}
    (h : codeUnits c ++ u = codeUnits c' ++ v) : c = c' ∧ u = v := by
  have hvalid : c.toNat < 0xD800 ∨ 0xDFFF < c.toNat ∧ c.toNat < 0x110000 := c.valid
  have hvalid' : c'.toNat < 0xD800 ∨ 0xDFFF < c'.toNat ∧ c'.toNat < 0x110000 := c'.valid
  have hsame : c.toNat = c'.toNat ∧ u = v := by grind [codeUnits]
  exact ⟨Char.toNat_inj.mp hsame.1, hsame.2⟩

/-- A text can be read back from its code units. -/
theorem js_injective {s s' : String} (h : js s = js s') : s = s' := by
  have hchars : ∀ l l' : List Char, l.flatMap codeUnits = l'.flatMap codeUnits → l = l' := by
    intro l
    induction l with
    | nil =>
      intro l' h
      cases l' with
      | nil => rfl
      | cons c' l' => exact absurd (List.append_eq_nil_iff.mp h.symm).1 (codeUnits_ne_nil c')
    | cons c l ih =>
      intro l' h
      cases l' with
      | nil => exact absurd (List.append_eq_nil_iff.mp h).1 (codeUnits_ne_nil c)
      | cons c' l' => grind [codeUnits_append_inj]
  exact String.toList_inj.mp (hchars _ _ h)

/-- A number is given by the text that `String` makes of it: two numbers are equal exactly
when these texts are. -/
inductive JsonValue where
  | null
  | bool (b : Bool)
  | number (text : JsString)
  | string (text : JsString)
  | array (items : List JsonValue)
  | object (members : List (String × JsonValue))

/-- `Boolean(value)`; `none` is `undefined`. -/
def isTruthy : Option JsonValue → Bool
  | none => false
  | some .null => false
  | some (.bool b) => b
  | some (.number text) => text ≠ js "0"
  | some (.string text) => text ≠ []
  | some (.array _) => true
  | some (.object _) => true

def typeError (message : String) : Exception := .error message

mutual

/-- `String(value)`. An object that has a member `toString` of its own cannot be converted. -/
def stringOf : JsonValue → Except Exception JsString
  | .null => .ok (js "null")
  | .bool b => .ok (js (if b then "true" else "false"))
  | .number text => .ok text
  | .string text => .ok text
  | .array items => do
      let texts ← itemTexts items
      return List.intercalate (js ",") texts
  | .object members =>
    if (members.lookup "toString").isSome then
      .error (typeError "Cannot convert object to primitive value")
    else
      .ok (js "[object Object]")

/-- The texts that `Array.prototype.join` joins: null counts as empty. -/
def itemTexts : List JsonValue → Except Exception (List JsString)
  | [] => .ok []
  | .null :: items => do
      let texts ← itemTexts items
      return [] :: texts
  | item :: items => do
      let text ← stringOf item
      let texts ← itemTexts items
      return text :: texts

end

/-- `Object.entries(value)`; the members of an object stand in this order. -/
def entries : Option JsonValue → Except Exception (List (String × JsonValue))
  | none | some .null => .error (typeError "Cannot convert undefined or null to object")
  | some (.bool _) | some (.number _) => .ok []
  | some (.string text) => .ok (text.zipIdx.map fun u => (toString u.2, .string [u.1]))
  | some (.array items) => .ok (items.zipIdx.map fun v => (toString v.2, v.1))
  | some (.object members) => .ok members

/-! ## Layers and contexts -/

inductive RemoteConfigScope where
  | global
  | environment
  | plan
  | workspace
  | user
  | extension_version
  | flag
  deriving DecidableEq

/-- A layer whose id is of type `ι`; a member that is missing is `none`. -/
structure RemoteConfigLayer (ι : Type) where
  id : ι
  scope : RemoteConfigScope
  priority : ℚ
  conditions : Option JsonValue
  values : Option JsonValue

inductive ContextValue where
  | text (value : JsString)
  | texts (items : List JsString)

abbrev RemoteConfigContext := List (String × ContextValue)

/-- The methods of `Object.prototype`. -/
def objectMethods : List String :=
  ["hasOwnProperty", "isPrototypeOf", "propertyIsEnumerable", "toLocaleString", "toString",
    "valueOf", "__defineGetter__", "__defineSetter__", "__lookupGetter__", "__lookupSetter__"]

/-- The text of a function of the platform. -/
def nativeFunction (name : String) : JsString :=
  js s!"function {name}() \x7b [native code] \x7d"

/-- `String` of the member that every object inherits under the key. -/
def inheritedMember (key : String) : Option JsString :=
  if key = "constructor" then some (nativeFunction "Object")
  else if key = "__proto__" then some (js "[object Object]")
  else if key ∈ objectMethods then some (nativeFunction key)
  else none

/-- What `context[key]` can be. -/
inductive ContextMember where
  | own (value : ContextValue)
  | inherited (text : JsString)
  | undefined

def contextMember (context : RemoteConfigContext) (key : String) : ContextMember :=
  match context.lookup key with
  | some value => .own value
  | none =>
    match inheritedMember key with
    | some text => .inherited text
    | none => .undefined

/-- `String(context[key])`. -/
def ContextMember.text : ContextMember → JsString
  | .own (.text value) => value
  | .own (.texts items) => List.intercalate (js ",") items
  | .inherited text => text
  | .undefined => js "undefined"

/-- `items.includes(text)`. -/
def includesText (items : List JsonValue) (text : JsString) : Bool :=
  items.any fun
    | .string t => t = text
    | _ => false

/-- `actual === expected`: of the values of a context only a string can equal a JSON value. -/
def strictEquals : ContextMember → JsonValue → Bool
  | .own (.text value), .string expected => value = expected
  | _, _ => false

/-- `expected.some((value) => actual.includes(String(value)))`. -/
def someIncluded (actual : List JsString) : List JsonValue → Except Exception Bool
  | [] => .ok false
  | value :: expected => do
      let text ← stringOf value
      if text ∈ actual then return true else someIncluded actual expected

/-- One entry of the conditions. -/
def matchesEntry (context : RemoteConfigContext) (key : String) : JsonValue → Except Exception Bool
  | .array expected =>
    match contextMember context key with
    | .own (.texts actual) => someIncluded actual expected
    | actual => .ok (includesText expected actual.text)
  | expected => .ok (strictEquals (contextMember context key) expected)

/-- `every` over the entries of the conditions. -/
def matchesEntries (context : RemoteConfigContext) :
    List (String × JsonValue) → Except Exception Bool
  | [] => .ok true
  | (key, expected) :: rest => do
      if ← matchesEntry context key expected then matchesEntries context rest else return false

variable {ι : Type}

def matchesLayerConditions (layer : RemoteConfigLayer ι) (context : RemoteConfigContext) :
    Except Exception Bool :=
  if isTruthy layer.conditions then do
    matchesEntries context (← entries layer.conditions)
  else
    .ok true

/-! ## Resolution -/

/-- `values[key] = value`; on a plain object `__proto__` sets the prototype instead. -/
def setMember (values : List (String × JsonValue)) (key : String) (value : JsonValue) :
    List (String × JsonValue) :=
  if key = "__proto__" then values
  else if values.any fun m => m.1 = key then
    values.map fun m => if m.1 = key then (key, value) else m
  else
    values ++ [(key, value)]

structure ResolvedRemoteConfig (ι : Type) where
  values : List (String × JsonValue)
  appliedLayerIds : List ι

/-- The layers that match the context, in the order given. -/
def matchingLayers (context : RemoteConfigContext) :
    List (RemoteConfigLayer ι) → Except Exception (List (RemoteConfigLayer ι))
  | [] => .ok []
  | layer :: layers => do
      let isMatch ← matchesLayerConditions layer context
      let rest ← matchingLayers context layers
      return if isMatch then layer :: rest else rest

/-- `layers.sort((left, right) => left.priority - right.priority)`. -/
def byPriority (layers : List (RemoteConfigLayer ι)) : List (RemoteConfigLayer ι) :=
  layers.mergeSort fun left right => left.priority ≤ right.priority

/-- The loop over the applied layers. -/
def mergeLayers : List (RemoteConfigLayer ι) → List (String × JsonValue) →
    Except Exception (List (String × JsonValue))
  | [], values => .ok values
  | layer :: layers, values => do
      let members ← entries layer.values
      mergeLayers layers (members.foldl (fun acc m => setMember acc m.1 m.2) values)

def resolveRemoteConfig (layers : List (RemoteConfigLayer ι)) (context : RemoteConfigContext) :
    Except Exception (ResolvedRemoteConfig ι) := do
  let applied := byPriority (← matchingLayers context layers)
  let values ← mergeLayers applied []
  return { values := values
           appliedLayerIds := applied.map fun layer => layer.id }

def previewRemoteConfig (layers : List (RemoteConfigLayer String))
    (context : RemoteConfigContext) : Except Exception (ResolvedRemoteConfig String) :=
  resolveRemoteConfig layers context

/-! ## Stored layers -/

/-- The id of a layer row: that of its version, and its place in it. -/
structure LayerId where
  versionId : ℕ
  index : ℕ

/-- A row of `RemoteConfigLayer`; `none` is the null of the column. -/
structure RemoteConfigLayerRecord where
  id : LayerId
  scope : RemoteConfigScope
  priority : ℤ
  conditionsJson : Option JsonValue
  valuesJson : JsonValue
  createdAt : ℤ

def isPrimitive : JsonValue → Bool
  | .array _ | .object _ => false
  | _ => true

def isPrimitiveValueArray : JsonValue → Bool
  | .array items => items.all isPrimitive
  | _ => false

def isPrimitiveRecord : JsonValue → Bool
  | .object members => members.all fun m => isPrimitive m.2
  | _ => false

def isRemoteConfigValueRecord : JsonValue → Bool
  | .object members =>
    members.all fun m => isPrimitive m.2 || isPrimitiveValueArray m.2 || isPrimitiveRecord m.2
  | _ => false

def isStringArray : JsonValue → Bool
  | .array items => items.all fun
      | .string _ => true
      | _ => false
  | _ => false

def isConditionsRecord : Option JsonValue → Bool
  | some (.object members) => members.all fun m => isPrimitive m.2 || isStringArray m.2
  | _ => false

def mapRemoteConfigLayerRecordToDefinition (record : RemoteConfigLayerRecord) :
    RemoteConfigLayer LayerId where
  id := record.id
  scope := record.scope
  priority := record.priority
  conditions := if isConditionsRecord record.conditionsJson then record.conditionsJson else none
  values := some (if isRemoteConfigValueRecord record.valuesJson then record.valuesJson
    else .object [])

/-- `starterRemoteConfig`, the layers of a request that names none. -/
def starterRemoteConfig : List (RemoteConfigLayer String) :=
  [{ id := "global-default"
     scope := .global
     priority := 10
     conditions := none
     values := some (.object
      [("defaultModel", .string (js "gpt-4.1-mini")), ("screenshotEnabled", .bool false),
        ("historyRetentionDays", .number (js "30"))]) },
    { id := "flag-remote-config-v2"
      scope := .flag
      priority := 30
      conditions := some (.object
        [("activeFlags", .array [.string (js "beta.remote-config-v2")])])
      values := some (.object
        [("configSchemaVersion", .string (js "2")), ("defaultModel", .string (js "gpt-4.1"))]) }]

end QuizMind.RemoteConfig

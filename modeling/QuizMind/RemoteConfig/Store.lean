import QuizMind.Access.Permissions
import QuizMind.Async.ReadCommitted
import QuizMind.RemoteConfig.Values

/-! # Remote configuration: versions and the repository

`publishVersion` and `activateVersion` are transactions over the statements on the table of
versions; a version is stored with its layers, which are inserted with it and never changed.

An `UPDATE … WHERE isActive` goes in two steps: it finds the rows that match when it
starts, and then takes them one after the other: it waits for the lock of the row and looks
again whether the row still matches. A version that becomes active in between is not among
the rows it takes.
-/

namespace QuizMind.RemoteConfig

open Async

/-- A row of `RemoteConfigVersion` with its layers. -/
structure RemoteConfigVersion where
  id : ℕ
  publishedById : String
  versionLabel : String
  isActive : Bool
  createdAt : ℤ
  layers : List RemoteConfigLayerRecord
  layersOwned : ∀ layer ∈ layers, layer.id.versionId = id

structure PublishRemoteConfigVersionInput where
  actorId : String
  layers : List (RemoteConfigLayer String)
  versionLabel : String
  createdAt : ℤ

abbrev RemoteConfigTables := List RemoteConfigVersion

def versionById (s : RemoteConfigTables) (id : ℕ) : Option RemoteConfigVersion :=
  s.find? fun v => v.id = id

/-! ## Statements -/

inductive RemoteConfigStmt where
  /-- The rows that an `UPDATE … WHERE isActive` finds when it starts. -/
  | findActive
  /-- One of these rows: locked, looked at again, set to inactive if it still matches. -/
  | deactivate (id : ℕ)
  | create (input : PublishRemoteConfigVersionInput)
  | findUnique (id : ℕ)
  | activate (id : ℕ)

abbrev RemoteConfigStmt.Res : RemoteConfigStmt → Type
  | .findActive => List ℕ
  | .deactivate _ => Unit
  | .create _ => RemoteConfigVersion
  | .findUnique _ => Option ℕ
  | .activate _ => RemoteConfigVersion

inductive RemoteConfigWrite where
  /-- The row is locked and stays as it is. -/
  | lock (id : ℕ)
  | setActive (id : ℕ) (isActive : Bool)
  | insert (version : RemoteConfigVersion)

/-- The row that a write changes or claims. -/
def RemoteConfigWrite.row : RemoteConfigWrite → ℕ
  | .lock id => id
  | .setActive id _ => id
  | .insert version => version.id

def applyWrite (s : RemoteConfigTables) : RemoteConfigWrite → RemoteConfigTables
  | .lock _ => s
  | .setActive id isActive => s.map fun v => if v.id = id then { v with isActive := isActive } else v
  | .insert version => s ++ [version]

/-- The data of a layer that the database client accepts: the priority is an `Int` of the
schema, the values are neither missing nor null. -/
def RemoteConfigLayer.storable {ι : Type} (layer : RemoteConfigLayer ι) : Bool :=
  decide (layer.priority.den = 1 ∧ -2147483648 ≤ layer.priority ∧ layer.priority ≤ 2147483647) &&
    match layer.values with
    | none | some .null => false
    | _ => true

/-- The row of a submitted layer; conditions that are falsy are not stored. -/
def layerRecord (versionId : ℕ) (createdAt : ℤ) (layer : RemoteConfigLayer String)
    (index : ℕ) : RemoteConfigLayerRecord where
  id := ⟨versionId, index⟩
  scope := layer.scope
  priority := layer.priority.num
  conditionsJson := if isTruthy layer.conditions then layer.conditions else none
  valuesJson := layer.values.getD .null
  createdAt := createdAt

/-- The row of a new version. -/
def PublishRemoteConfigVersionInput.version (input : PublishRemoteConfigVersionInput) (id : ℕ) :
    RemoteConfigVersion where
  id := id
  publishedById := input.actorId
  versionLabel := input.versionLabel
  isActive := true
  createdAt := input.createdAt
  layers := input.layers.zipIdx.map fun l => layerRecord id input.createdAt l.1 l.2
  layersOwned := by
    intro layer hlayer
    obtain ⟨l, _, rfl⟩ := List.mem_map.mp hlayer
    rfl

def RemoteConfigStmt.exec : (op : RemoteConfigStmt) → ℕ → RemoteConfigTables →
    Except Exception (op.Res × List RemoteConfigWrite)
  | .findActive, _, s => .ok ((s.filter fun v => v.isActive).map fun v => v.id, [])
  | .deactivate id, _, s =>
    .ok ((), if s.any fun v => v.id = id && v.isActive then [.setActive id false]
      else [.lock id])
  | .create input, n, _ =>
    if input.layers.all RemoteConfigLayer.storable then
      .ok (input.version n, [.insert (input.version n)])
    else
      .error .prismaValidation
  | .findUnique id, _, s => .ok ((versionById s id).map fun v => v.id, [])
  | .activate id, _, s =>
    match versionById s id with
    | some version => .ok ({ version with isActive := true }, [.setActive id true])
    | none => .error (.prisma "P2025")

def remoteConfigDb : Database RemoteConfigStmt RemoteConfigStmt.Res Exception RemoteConfigWrite
      RemoteConfigTables ℕ where
  exec := RemoteConfigStmt.exec
  apply := applyWrite
  locks := fun w => [w.row]

abbrev RemoteConfigProg := Prog RemoteConfigStmt RemoteConfigStmt.Res Exception

abbrev statement (op : RemoteConfigStmt) : RemoteConfigProg op.Res := Prog.await op

/-! ## `RemoteConfigRepository` -/

/-- The layers of the active versions, by priority and age. -/
def findActiveLayers (s : RemoteConfigTables) : List RemoteConfigLayerRecord :=
  ((s.filter fun v => v.isActive).flatMap fun v => v.layers).mergeSort fun a b =>
    a.priority < b.priority ∨ a.priority = b.priority ∧ a.createdAt ≤ b.createdAt

/-- The rows of an `UPDATE`, one after the other. -/
def deactivateRows : List ℕ → RemoteConfigProg Unit
  | [] => return ()
  | id :: ids => do
      statement (.deactivate id)
      deactivateRows ids

/-- `updateMany({ where: { isActive: true }, data: { isActive: false } })`. -/
def deactivateAll : RemoteConfigProg Unit := do
  let ids ← statement .findActive
  deactivateRows ids

def publishVersion (input : PublishRemoteConfigVersionInput) :
    RemoteConfigProg RemoteConfigVersion := do
  deactivateAll
  statement (.create input)

def activateVersion (versionId : ℕ) : RemoteConfigProg (Option RemoteConfigVersion) := do
  let existing ← statement (.findUnique versionId)
  match existing with
  | none => return none
  | some id => do
      deactivateAll
      let version ← statement (.activate id)
      return some version

end QuizMind.RemoteConfig

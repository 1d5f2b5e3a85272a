import QuizMind.Ai.Prepare

/-! # Provider credentials: rows and repository calls

The rows of `ProviderCredential` with the four writes of `ProviderCredentialRepository`, each
of them atomic. The log rows that are written with a credential are left out. A text of the
metadata is given by its code units, since parts of a secret are cut out of it.
-/

namespace QuizMind.Providers

open Async
open Ai (AiProvider AiProviderPolicyRecord CredentialOwnerType CredentialValidationStatus)
open RemoteConfig (JsString JsonValue js)

/-! ## Metadata -/

/-- The members of a metadata object. -/
abbrev Metadata := List (String × JsonValue)

/-- `readJsonObject(value) ?? {}`. -/
def readJsonObject : Option JsonValue → Metadata
  | some (.object members) => members
  | _ => []

/-- `{ ...base, ...patch }`; the order of the members is not kept by the column. -/
def spread (base patch : Metadata) : Metadata :=
  patch ++ base.filter fun m => (patch.lookup m.1).isNone

theorem lookup_filter_of_key {β : Type} (q : String → Bool) (l : List (String × β)) {key : String}
    (hkey : q key = true) : (l.filter fun m => q m.1).lookup key = l.lookup key := by
  induction l with
  | nil => rfl
  | cons m l ih => grind

/-- A member of the patch replaces the one of the base. -/
theorem lookup_spread (base patch : Metadata) (key : String) :
    (spread base patch).lookup key = (patch.lookup key).or (base.lookup key) := by
  rw [spread, List.lookup_append]
  cases hpatch : patch.lookup key with
  | some value => rfl
  | none =>
    exact lookup_filter_of_key (fun k => (patch.lookup k).isNone) base (by simp [hpatch])

/-! ## Rows -/

/-- A row of `ProviderCredential`. -/
structure ProviderCredentialRecord where
  id : String
  provider : String
  ownerType : CredentialOwnerType
  ownerId : Option String
  userId : Option String
  encryptedSecretJson : Json
  validationStatus : CredentialValidationStatus
  scopesJson : Option Json
  metadataJson : Option JsonValue
  lastValidatedAt : Option ℤ
  disabledAt : Option ℤ
  revokedAt : Option ℤ
  createdAt : ℤ
  updatedAt : ℤ

/-- The columns that the AI proxy selects. -/
def ProviderCredentialRecord.proxyColumns (record : ProviderCredentialRecord) :
    Ai.ProviderCredential where
  provider := record.provider
  ownerType := record.ownerType
  userId := record.userId
  encryptedSecretJson := record.encryptedSecretJson
  validationStatus := record.validationStatus
  disabledAt := record.disabledAt
  revokedAt := record.revokedAt
  createdAt := record.createdAt
  updatedAt := record.updatedAt

/-- The row of the global policy, and the credentials. -/
structure CredentialTables where
  policy : Option AiProviderPolicyRecord
  credentials : List ProviderCredentialRecord

def CredentialTables.byId (s : CredentialTables) (id : String) : Option ProviderCredentialRecord :=
  s.credentials.find? fun record => record.id == id

/-- No credential yet. -/
def noCredentials (policy : Option AiProviderPolicyRecord) : CredentialTables where
  policy := policy
  credentials := []

/-! ## Calls -/

/-- `now` is the clock of the write, which fills `createdAt` and `updatedAt`. -/
structure CreateProviderCredentialInput where
  newId : String
  provider : String
  ownerType : CredentialOwnerType
  ownerId : Option String
  userId : Option String
  encryptedSecretJson : Json
  validationStatus : CredentialValidationStatus
  scopesJson : Json
  metadataJson : Metadata
  lastValidatedAt : ℤ
  now : ℤ

structure RotateProviderCredentialInput where
  credentialId : String
  encryptedSecretJson : Json
  validationStatus : CredentialValidationStatus
  scopesJson : Json
  metadataJson : Metadata
  lastValidatedAt : ℤ
  now : ℤ

structure RevokeProviderCredentialInput where
  credentialId : String
  validationStatus : CredentialValidationStatus
  metadataJson : Metadata
  revokedAt : ℤ
  now : ℤ

structure ValidateProviderCredentialInput where
  credentialId : String
  validationStatus : CredentialValidationStatus
  metadataJson : Metadata
  lastValidatedAt : ℤ
  now : ℤ

def CreateProviderCredentialInput.row (input : CreateProviderCredentialInput) :
    ProviderCredentialRecord where
  id := input.newId
  provider := input.provider
  ownerType := input.ownerType
  ownerId := input.ownerId
  userId := input.userId
  encryptedSecretJson := input.encryptedSecretJson
  validationStatus := input.validationStatus
  scopesJson := some input.scopesJson
  metadataJson := some (.object input.metadataJson)
  lastValidatedAt := some input.lastValidatedAt
  disabledAt := none
  revokedAt := none
  createdAt := input.now
  updatedAt := input.now

def RotateProviderCredentialInput.apply (input : RotateProviderCredentialInput)
    (record : ProviderCredentialRecord) : ProviderCredentialRecord :=
  { record with
    encryptedSecretJson := input.encryptedSecretJson
    validationStatus := input.validationStatus
    scopesJson := some input.scopesJson
    metadataJson := some (.object input.metadataJson)
    lastValidatedAt := some input.lastValidatedAt
    revokedAt := none
    disabledAt := none
    updatedAt := input.now }

def RevokeProviderCredentialInput.apply (input : RevokeProviderCredentialInput)
    (record : ProviderCredentialRecord) : ProviderCredentialRecord :=
  { record with
    validationStatus := input.validationStatus
    revokedAt := some input.revokedAt
    metadataJson := some (.object input.metadataJson)
    updatedAt := input.now }

def ValidateProviderCredentialInput.apply (input : ValidateProviderCredentialInput)
    (record : ProviderCredentialRecord) : ProviderCredentialRecord :=
  { record with
    validationStatus := input.validationStatus
    metadataJson := some (.object input.metadataJson)
    lastValidatedAt := some input.lastValidatedAt
    updatedAt := input.now }

inductive CredentialCall where
  | findGlobalPolicy
  | findById (id : String)
  | createWithLogs (input : CreateProviderCredentialInput)
  | rotateWithLogs (input : RotateProviderCredentialInput)
  | revokeWithLogs (input : RevokeProviderCredentialInput)
  | validateWithLogs (input : ValidateProviderCredentialInput)
  | writePolicy (record : AiProviderPolicyRecord)

abbrev CredentialCall.Res : CredentialCall → Type
  | .findGlobalPolicy => Option AiProviderPolicyRecord
  | .findById _ => Option ProviderCredentialRecord
  | .createWithLogs _ => ProviderCredentialRecord
  | .rotateWithLogs _ => ProviderCredentialRecord
  | .revokeWithLogs _ => ProviderCredentialRecord
  | .validateWithLogs _ => ProviderCredentialRecord
  | .writePolicy _ => Unit

/-- `update` by id: the row has to be there. -/
def updateCredential (id : String) (change : ProviderCredentialRecord → ProviderCredentialRecord)
    (s : CredentialTables) : Except Exception ProviderCredentialRecord × CredentialTables :=
  match s.byId id with
  | none => (.error (.prisma "P2025"), s)
  | some record =>
    (.ok (change record),
      { s with credentials := s.credentials.map (fun x => if x.id = id then change x else x) })

def CredentialCall.exec : (op : CredentialCall) → CredentialTables →
    Except Exception op.Res × CredentialTables
  | .findGlobalPolicy, s => (.ok s.policy, s)
  | .findById id, s => (.ok (s.byId id), s)
  | .createWithLogs input, s =>
    if (s.byId input.newId).isSome then (.error (.prisma "P2002"), s)
    else (.ok input.row, { s with credentials := s.credentials ++ [input.row] })
  | .rotateWithLogs input, s => updateCredential input.credentialId input.apply s
  | .revokeWithLogs input, s => updateCredential input.credentialId input.apply s
  | .validateWithLogs input, s => updateCredential input.credentialId input.apply s
  | .writePolicy record, s => (.ok (), { s with policy := some record })

/-- The credential that a call updates. -/
def CredentialCall.updates : CredentialCall → Option String
  | .rotateWithLogs input => some input.credentialId
  | .revokeWithLogs input => some input.credentialId
  | .validateWithLogs input => some input.credentialId
  | _ => none

/-- What an update makes of its row. -/
def CredentialCall.change : CredentialCall → ProviderCredentialRecord → ProviderCredentialRecord
  | .rotateWithLogs input => input.apply
  | .revokeWithLogs input => input.apply
  | .validateWithLogs input => input.apply
  | _ => fun record => record

/-- The row that a call inserts. -/
def CredentialCall.inserts : CredentialCall → Option ProviderCredentialRecord
  | .createWithLogs input => some input.row
  | _ => none

/-! ## What a call does to one credential -/

section

variable (op : CredentialCall) (record : ProviderCredentialRecord)

@[simp] theorem change_id : (op.change record).id = record.id := by
  cases op <;> rfl

@[simp] theorem change_provider : (op.change record).provider = record.provider := by
  cases op <;> rfl

@[simp] theorem change_ownerType : (op.change record).ownerType = record.ownerType := by
  cases op <;> rfl

@[simp] theorem change_userId : (op.change record).userId = record.userId := by
  cases op <;> rfl

end

variable {id : String} {s : CredentialTables}

variable {record : ProviderCredentialRecord}

theorem byId_id (h : s.byId id = some record) : record.id = id := by
  simpa using List.find?_some h

variable {change : ProviderCredentialRecord → ProviderCredentialRecord}

theorem updateCredential_byId
    (hid : ∀ record, (change record).id = record.id) (s : CredentialTables) (j : String) :
    (updateCredential id change s).2.byId j =
      if j = id then (s.byId j).map change else s.byId j := by
  have hkept : ∀ x : ProviderCredentialRecord, (if x.id = id then change x else x).id = x.id := by
    intro x
    split
    · exact hid x
    · rfl
  have hmap : (s.credentials.map fun x => if x.id = id then change x else x).find?
      (fun x => x.id == j) = if j = id then (s.byId j).map change else s.byId j := by
    have hcomp : ((fun x : ProviderCredentialRecord => x.id == j) ∘
        fun x => if x.id = id then change x else x) = fun x => x.id == j := by
      funext x
      simp only [Function.comp_apply, hkept]
    rw [List.find?_map, hcomp]
    show (s.byId j).map _ = _
    cases hfound : s.byId j with
    | none => simp
    | some record => grind [byId_id]
  cases hfound : s.byId id with
  | none => grind [updateCredential]
  | some record =>
    simp only [updateCredential, hfound]
    exact hmap

/-- A call inserts the row it creates, or changes the row that it updates. -/
theorem exec_byId (op : CredentialCall) (s : CredentialTables) (j : String) : (op.exec s).2.byId j =
      if op.updates = some j then (s.byId j).map op.change
      else (s.byId j).or (op.inserts.filter fun record => record.id = j) := by
  have hupd : ∀ (id : String) (op' : CredentialCall), op'.inserts = none →
      (updateCredential id op'.change s).2.byId j =
        if some id = some j then (s.byId j).map op'.change
        else (s.byId j).or (op'.inserts.filter fun record => record.id = j) := by
    grind [updateCredential_byId, change_id]
  cases op with
  | findGlobalPolicy => simp [CredentialCall.exec, CredentialCall.updates, CredentialCall.inserts]
  | findById id => simp [CredentialCall.exec, CredentialCall.updates, CredentialCall.inserts]
  | writePolicy record =>
    simp [CredentialCall.exec, CredentialCall.updates, CredentialCall.inserts,
      CredentialTables.byId]
  | createWithLogs input =>
    have hnone : ¬ (CredentialCall.createWithLogs input).updates = some j := nofun
    simp only [CredentialCall.exec, CredentialCall.inserts]
    split
    · rename_i htaken
      -- the id is taken: when it is `j`, the row of `j` is there
      by_cases hj : input.row.id = j
      · have hsome : (s.byId j).isSome = true := by rw [← hj]; exact htaken
        obtain ⟨record, hrec⟩ := Option.isSome_iff_exists.mp hsome
        rw [hrec]
        rfl
      · simp [Option.filter, hj]
    · grind [CredentialTables.byId]
  | rotateWithLogs input => exact hupd input.credentialId (.rotateWithLogs input) rfl
  | revokeWithLogs input => exact hupd input.credentialId (.revokeWithLogs input) rfl
  | validateWithLogs input => exact hupd input.credentialId (.validateWithLogs input) rfl

variable {op : CredentialCall}

/-- A row after a call: as it was, changed, or new. -/
theorem exec_row {row : ProviderCredentialRecord} (h : (op.exec s).2.byId id = some row) :
    (∃ old, s.byId id = some old ∧
      (op.updates = some id ∧ row = op.change old ∨ op.updates ≠ some id ∧ row = old)) ∨
    s.byId id = none ∧ op.inserts = some row ∧ row.id = id := by
  rw [exec_byId] at h
  cases hold : s.byId id with
  | some old => grind
  | none => grind [Option.filter_eq_some_iff]

/-- An update succeeds where its row is. -/
theorem exec_update (hop : op.updates = some id) : (op.exec s).1.isOk = (s.byId id).isSome := by
  have hupd : ∀ id change, (updateCredential id change s).1.isOk = (s.byId id).isSome := by
    intro id change
    unfold updateCredential
    split
    · rename_i hnone
      rw [hnone]
      rfl
    rename_i hsome
    rw [hsome]
    rfl
  cases op with
  | rotateWithLogs input => cases hop; exact hupd _ input.apply
  | revokeWithLogs input => cases hop; exact hupd _ input.apply
  | validateWithLogs input => cases hop; exact hupd _ input.apply
  | _ => cases hop

/-- A new row is inserted where its id is free. -/
theorem exec_insert (hop : op.inserts = some record) (hfree : s.byId record.id = none) :
    (op.exec s).1.isOk = true := by
  cases op with
  | createWithLogs input =>
    cases hop
    have hnew : (s.byId input.newId).isSome = false := by
      rw [show s.byId input.newId = none from hfree]
      rfl
    simp [CredentialCall.exec, hnew, Except.toBool]
  | _ => cases hop

theorem inserts_of_updates (hop : op.updates = some id) : op.inserts = none := by
  cases op with
  | createWithLogs input => cases hop
  | _ => rfl

/-- A credential stays, with the owner that it has. -/
theorem exec_keeps (op : CredentialCall) (h : s.byId id = some record) :
    ∃ record', (op.exec s).2.byId id = some record' ∧
      record'.ownerType = record.ownerType ∧ record'.userId = record.userId := by
  rw [exec_byId, h]
  split
  · exact ⟨op.change record, rfl, by simp, by simp⟩
  · exact ⟨record, rfl, rfl, rfl⟩

/-! ## Rows with different ids -/

def CredentialTables.Unique (s : CredentialTables) : Prop := (s.credentials.map (·.id)).Nodup

theorem CredentialTables.Unique.byId (h : s.Unique)
    (hmem : record ∈ s.credentials) : s.byId record.id = some record :=
  Table.find?_key_of_nodup h hmem

theorem updateCredential_unique (hid : ∀ record, (change record).id = record.id) (h : s.Unique) :
    (updateCredential id change s).2.Unique := by
  unfold updateCredential
  split
  · exact h
  have hids : (s.credentials.map fun x => if x.id = id then change x else x).map (·.id) =
      s.credentials.map (·.id) := by
    rw [List.map_map]
    refine List.map_congr_left fun x _ => ?_
    simp only [Function.comp_apply]
    split
    · exact hid x
    · rfl
  show List.Nodup (List.map _ _)
  rw [hids]
  exact h

theorem exec_unique (op : CredentialCall) (h : s.Unique) : (op.exec s).2.Unique := by
  cases op with
  | createWithLogs input =>
    simp only [CredentialCall.exec]
    split
    · exact h
    rename_i hfree
    have hnew : input.row.id ∉ s.credentials.map (·.id) := by
      intro hmem
      rcases List.mem_map.mp hmem with ⟨x, hx, hid⟩
      have hbyId := h.byId hx
      rw [hid] at hbyId
      exact hfree (by rw [show input.newId = input.row.id from rfl, hbyId]; rfl)
    have happend : List.Nodup ((s.credentials ++ [input.row]).map (·.id)) := by
      rw [List.map_append]
      exact List.nodup_append.mpr ⟨h, List.nodup_singleton _, by simpa using hnew⟩
    exact happend
  | rotateWithLogs input => exact updateCredential_unique (change_id (.rotateWithLogs input)) h
  | revokeWithLogs input => exact updateCredential_unique (change_id (.revokeWithLogs input)) h
  | validateWithLogs input =>
    exact updateCredential_unique (change_id (.validateWithLogs input)) h
  | _ => exact h

abbrev CredentialProg := Prog CredentialCall CredentialCall.Res Exception

abbrev credential (op : CredentialCall) : CredentialProg op.Res := Prog.await op

end QuizMind.Providers

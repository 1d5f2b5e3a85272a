import QuizMind.Ai.Usage
import QuizMind.Async.Updates

/-! # Settings documents

What the settings documents share: a document is a JSON object with a fixed set of fields,
each of which has a name and a check.
-/

namespace QuizMind.Settings

open Async
open Ai (JsValue Payload)

/-- `error.message`; the text of an error of the database client is left out. -/
def messageOf : Exception → String
  | .error message | .badRequest message | .unauthorized message | .forbidden message
  | .notFound message | .conflict message | .serviceUnavailable message | .badGateway message
  | .tooManyRequests message => message
  | .prisma _ | .prismaValidation => ""

/-- `throw new BadRequestException(error.message)`. -/
def asBadRequest (error : Exception) : Exception := .badRequest (messageOf error)

/-- A number as a JSON value, and back. -/
def ofNumber (q : ℚ) : JsValue := .number (some q)

/-- The named text as a JSON value. -/
def ofText (text : String) : JsValue := .string text.toList

section Fields

variable {F : Type} [DecidableEq F] {V : F → Type}

/-- The fields of a list are read one after the other; a field that is not among them, or that
has no member, is none. -/
def readFields (read : (f : F) → Except Exception (Option (V f))) :
    List F → Except Exception ((f : F) → Option (V f))
  | [] => .ok fun _ => none
  | f :: fields => do
      let value ← read f
      let values ← readFields read fields
      return Function.update values f value

theorem readFields_ok {read : (f : F) → Except Exception (Option (V f))} {fields : List F}
    {values : (f : F) → Option (V f)} (h : readFields read fields = .ok values) {f : F}
    (hf : f ∈ fields) : read f = .ok (values f) := by
  induction fields generalizing values with
  | nil => cases hf
  | cons first fields ih =>
    simp only [readFields] at h
    cases hread : read first with
    | error e =>
      rw [hread] at h
      cases h
    | ok value =>
      cases hrest : readFields read fields with
      | error e =>
        rw [hread, hrest] at h
        cases h
      | ok rest =>
        rw [hread, hrest] at h
        obtain rfl : Function.update rest first value = values := Except.ok.inj h
        by_cases heq : f = first
        · grind
        · simp_all

theorem readFields_of_ok {read : (f : F) → Except Exception (Option (V f))} {fields : List F}
    {values : (f : F) → Option (V f)} (h : ∀ f ∈ fields, read f = .ok (values f)) :
    ∃ values', readFields read fields = .ok values' ∧ ∀ f ∈ fields, values' f = values f := by
  induction fields with
  | nil => exact ⟨_, rfl, fun _ hf => nomatch hf⟩
  | cons first fields ih =>
    rcases ih fun f hf => h f (List.mem_cons_of_mem _ hf) with ⟨rest, hrest, hvals⟩
    refine ⟨Function.update rest first (values first), ?_, ?_⟩
    · simp only [readFields, h first List.mem_cons_self, hrest]
      rfl
    · grind

end Fields

/-- A member that is checked when it is there. -/
def readMember {β : Type} (source : Payload) (name : String)
    (check : JsValue → Except Exception β) : Except Exception (Option β) :=
  match source.lookup name with
  | some value => (check value).map some
  | none => .ok none

/-- A member that was read has passed the check. -/
theorem readMember_some {β : Type} {source : Payload} {name : String}
    {check : JsValue → Except Exception β} {parsed : β}
    (h : readMember source name check = .ok (some parsed)) : ∃ value, check value = .ok parsed := by
  unfold readMember at h
  split at h
  · rename_i value hlook
    refine ⟨value, ?_⟩
    cases hcheck : check value with
    | error e =>
      rw [hcheck] at h
      cases h
    | ok given =>
      rw [hcheck] at h
      obtain rfl := Option.some.inj (Except.ok.inj h)
      rfl
  · cases h

section Lookup

variable {F : Type} {name : F → String}

variable {fields : List F}

theorem lookup_members (hname : Function.Injective name) {x : F → JsValue} {f : F}
    (hf : f ∈ fields) : (fields.map fun f => (name f, x f)).lookup (name f) = some (x f) := by
  induction fields with
  | nil => cases hf
  | cons first fields ih => grind

/-- The members of the fields that have a value. -/
def givenMembers (name : F → String) (x : F → Option JsValue) (fields : List F) : Payload :=
  fields.filterMap fun f => (x f).map fun value => (name f, value)

variable {x : F → Option JsValue}

theorem lookup_givenMembers [DecidableEq F] (hname : Function.Injective name) {f : F} :
    (givenMembers name x fields).lookup (name f) = if f ∈ fields then x f else none := by
  induction fields with
  | nil => rfl
  | cons first fields ih =>
    have hfirst : (givenMembers name x (first :: fields)).lookup (name f) =
        (if f = first then x f else none).or ((givenMembers name x fields).lookup (name f)) := by
      rw [givenMembers, List.filterMap_cons]
      by_cases heq : f = first
      · subst heq
        cases hx : x f <;> simp [givenMembers]
      have hne : (name f == name first) = false :=
        beq_eq_false_iff_ne.mpr fun h => heq (hname h)
      cases x first <;> simp [givenMembers, List.lookup_cons, hne, heq]
    rw [hfirst, ih]
    by_cases heq : f = first
    · cases hx : x f <;> simp [heq]
    · simp [heq]

theorem lookup_givenMembers_of_ne {key : String}
    (hkey : ∀ f, name f ≠ key) : (givenMembers name x fields).lookup key = none := by
  induction fields with
  | nil => rfl
  | cons first fields ih =>
    have hne : (key == name first) = false :=
      beq_eq_false_iff_ne.mpr fun h => hkey first h.symm
    rw [givenMembers, List.filterMap_cons]
    cases x first with
    | none => exact ih
    | some value =>
      show List.lookup key ((name first, value) :: givenMembers name x fields) = none
      rw [List.lookup_cons, hne]
      exact ih

end Lookup

/-! ## Updates of a document -/

/-- What the services of the settings documents differ in. -/
structure DocumentKind (Policy Patch : Type) where
  /-- the policy that a row stands for, or the one without a row -/
  read : Option JsValue → Except Exception Policy
  parse : JsValue → Except Exception Policy
  parsePatch : JsValue → Except Exception Patch
  merge : Policy → Patch → Except Exception Policy
  encode : Policy → JsValue
  /-- a field of the patch has changed: the update is noted in the admin log -/
  changes : Policy → Policy → Patch → Bool
  /-- what a failing write throws -/
  writeError : Exception → Exception

/-- `request ?? {}`. -/
def orEmptyObject : Option JsValue → JsValue
  | none | some .null => .object []
  | some request => request

section Update

variable {Policy Patch : Type} (K : DocumentKind Policy Patch)

structure PlannedUpdate (Policy Patch : Type) where
  current : Policy
  patch : Patch
  nextPolicy : Policy

/-- The part of an update before its write, on the row that was read. -/
def planUpdate (request : Option JsValue) (row : Option JsValue) :
    Except Exception (PlannedUpdate Policy Patch) := do
  let current ← K.read row
  let patch ← K.parsePatch (orEmptyObject request)
  let nextPolicy ← K.merge current patch
  return ⟨current, patch, nextPolicy⟩

/-- The row that an update writes. -/
def nextRow (request : Option JsValue) (row : Option JsValue) : Except Exception JsValue :=
  (planUpdate K request row).map fun plan => K.encode plan.nextPolicy

/-- A failing log entry is reported on the console only. -/
def noteUpdate (changed : Bool) : RowProg JsValue Exception Unit :=
  if changed then tryCatch (Prog.await RowCall.note) fun _ => return () else return ()

def updateDocument (request : Option JsValue) : RowProg JsValue Exception Policy := do
  let plan ← tryCatch (do
      let row ← Prog.await .find
      Prog.ofExcept (planUpdate K request row))
    (fun error => throw (asBadRequest error))
  let row ← tryCatch (Prog.await (.upsert (K.encode plan.nextPolicy)))
    (fun error => throw (K.writeError error))
  noteUpdate (K.changes plan.current plan.nextPolicy plan.patch)
  Prog.ofExcept (K.parse row)

theorem noteUpdate_upholds {request : Option JsValue} {changed : Bool}
    {policy : Except Exception Policy}
    {past : List (Told (RowCall JsValue) RowAnswer Exception)} (hpast : past ≠ []) :
    (noteUpdate changed >>= fun _ => Prog.ofExcept policy).Upholds (fun _ _ => True)
      (Merges (nextRow K) request) (fun _ _ => True) past := by
  have hend : ∀ h, (Prog.ofExcept policy : RowProg JsValue Exception Policy).Upholds
      (fun _ _ => True) (Merges (nextRow K) request) (fun _ _ => True) h := by
    intro h
    cases policy <;> trivial
  cases changed with
  | false => exact hend past
  | true =>
    refine ⟨hpast, fun r _ => ?_⟩
    cases r with
    | ok _ | error e => exact hend _

theorem updateDocument_isUpdate : IsUpdate (nextRow K) (updateDocument K) := by
  intro request
  refine ⟨rfl, fun r _ => ?_⟩
  cases r with
  | error e => trivial
  | ok row =>
    have hnext : ∀ plan, planUpdate K request row = .ok plan →
        nextRow K request row = .ok (K.encode plan.nextPolicy) := by
      intro plan hplan
      rw [nextRow, hplan]
      rfl
    -- the planned update decides how the program goes on
    dsimp only [Prog.bind]
    generalize planUpdate K request row = planned at hnext ⊢
    cases planned with
    | error e => trivial
    | ok plan =>
      refine ⟨⟨row, rfl, hnext plan rfl⟩, fun r' _ => ?_⟩
      cases r' with
      | error e => trivial
      | ok row' => exact noteUpdate_upholds K (List.cons_ne_nil _ _)

end Update

/-! ## The fields of a document -/

section FieldsOf

variable {Policy Patch F : Type} {V : F → Type} (K : DocumentKind Policy Patch)
  (get : Policy → (f : F) → V f) (given : Patch → (f : F) → Option (V f))

/-- The value of a field, as the service reads it from a row. -/
def fieldValue (f : F) (row : Option JsValue) : Except Exception (V f) :=
  (K.read row).map fun policy => get policy f

/-- The value that a request mentions for a field. -/
def fieldMention (request : Option JsValue) (f : F) : Option (Except Exception (V f)) :=
  match K.parsePatch (orEmptyObject request) with
  | .ok patch => (given patch f).map .ok
  | .error _ => none

/-- A merged policy has the fields of the patch and the other fields of what was read, and is
read back as it was written. -/
def KeepsFields : Prop :=
  ∀ row base patch nextPolicy, K.read row = .ok base → K.merge base patch = .ok nextPolicy →
    (∀ f, get nextPolicy f = (given patch f).getD (get base f)) ∧
      K.read (some (K.encode nextPolicy)) = .ok nextPolicy

variable {K get given}

theorem KeepsFields.mergesFields (h : KeepsFields K get given) :
    MergesFields (fieldValue K get) (fieldMention K given) (nextRow K) := by
  intro request current row hnext f
  rcases hread : K.read current with e | base
  · simp [nextRow, planUpdate, hread, bind, Except.bind, Except.map] at hnext
  rcases hpatch : K.parsePatch (orEmptyObject request) with e | patch
  · simp [nextRow, planUpdate, hread, hpatch, bind, Except.bind, Except.map] at hnext
  rcases hmerge : K.merge base patch with e | nextPolicy
  · simp [nextRow, planUpdate, hread, hpatch, hmerge, bind, Except.bind, Except.map] at hnext
  have hrow : K.encode nextPolicy = row := by
    simpa [nextRow, planUpdate, hread, hpatch, hmerge, bind, Except.bind, Except.map, pure,
      Except.pure] using hnext
  rcases h current base patch nextPolicy hread hmerge with ⟨hget, hback⟩
  simp only [fieldValue, fieldMention, ← hrow, hback, hread, hpatch, Except.map, hget f]
  cases given patch f <;> rfl

end FieldsOf

end QuizMind.Settings

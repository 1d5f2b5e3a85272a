import Mathlib.Data.List.Basic

/-! # Conditions on rows

A condition of a query is true, false or unknown of a row: it is unknown where it compares a null.
A query selects the rows of which its condition is true, so a row of which a condition is unknown
is selected neither by it nor by its negation.
-/

namespace Table

variable {α β : Type*}

/-- What a condition says about a row; `none` is unknown. -/
abbrev Condition (α : Type*) := α → Option Bool

namespace Condition

/-- A column that may be null is equal to a value. -/
def equals [DecidableEq β] (column : α → Option β) (value : β) : Condition α :=
  fun row => (column row).map fun x => decide (x = value)

/-- A column that may be null comes before a value. -/
def before [LT β] [DecidableLT β] (column : α → Option β) (value : β) : Condition α :=
  fun row => (column row).map fun x => decide (x < value)

def negate (c : Condition α) : Condition α := fun row => (c row).map not

/-- One false operand is enough for false, an unknown one beats the true ones. -/
def andOf : Option Bool → Option Bool → Option Bool
  | some false, _ => some false
  | _, some false => some false
  | some true, some true => some true
  | _, _ => none

/-- One true operand is enough for true, an unknown one beats the false ones. -/
def orOf : Option Bool → Option Bool → Option Bool
  | some true, _ => some true
  | _, some true => some true
  | some false, some false => some false
  | _, _ => none

def both (c d : Condition α) : Condition α := fun row => andOf (c row) (d row)

def either (c d : Condition α) : Condition α := fun row => orOf (c row) (d row)

def all : List (Condition α) → Condition α
  | [] => fun _ => some true
  | c :: rest => both c (all rest)

def any : List (Condition α) → Condition α
  | [] => fun _ => some false
  | c :: rest => either c (any rest)

/-- The rows that a query selects. -/
def selects (c : Condition α) (row : α) : Bool := c row = some true

section

variable {c d : Condition α} {row : α}

variable {value : β} {column : α → Option β}

theorem selects_equals [DecidableEq β] :
    (equals column value).selects row = true ↔ column row = some value := by
  unfold selects equals
  cases column row <;> simp

theorem selects_before [LT β] [DecidableLT β] :
    (before column value).selects row = true ↔ ∃ x, column row = some x ∧ x < value := by
  unfold selects before
  cases column row <;> simp

/-- The negation of a comparison does not select the nulls. -/
theorem selects_negate_equals [DecidableEq β] :
    (negate (equals column value)).selects row = true ↔ ∃ x, column row = some x ∧ x ≠ value := by
  unfold selects negate equals
  cases column row <;> simp

theorem selects_both :
    (both c d).selects row = true ↔ c.selects row = true ∧ d.selects row = true := by
  unfold selects both
  rcases c row with _ | _ | _ <;> rcases d row with _ | _ | _ <;> simp [andOf]

theorem selects_either :
    (either c d).selects row = true ↔ c.selects row = true ∨ d.selects row = true := by
  unfold selects either
  rcases c row with _ | _ | _ <;> rcases d row with _ | _ | _ <;> simp [orOf]

variable {cs : List (Condition α)}

theorem selects_all : (all cs).selects row = true ↔ ∀ c ∈ cs, c.selects row = true := by
  induction cs with
  | nil => simp [all, selects]
  | cons c cs ih =>
    show (both c (all cs)).selects row = true ↔ _
    rw [selects_both, ih, List.forall_mem_cons]

theorem selects_any : (any cs).selects row = true ↔ ∃ c ∈ cs, c.selects row = true := by
  induction cs with
  | nil => simp [any, selects]
  | cons c cs ih =>
    show (either c (any cs)).selects row = true ↔ _
    rw [selects_either, ih]
    simp

end

end Condition

end Table

import QuizMind.Text.Trim
import QuizMind.Number.Sequence
import Mathlib.Data.Int.Log
import Mathlib.Data.Rat.Floor
import Mathlib.Order.WithBot

/-! # Versions

`compareSemver`: the components of a version are read by `Number` and compared one after the
other. A component that is not a number is neither below nor above any other.
-/

namespace QuizMind.Versions

open Text

/-! ## Reading a number -/

/-- A number of the language: `none` is `NaN`, and the two infinities are at the ends. -/
abbrev JsNumber := Option (WithBot (WithTop ℚ))

/-- Of two integers that are equally near, the even one. -/
def roundHalfEven (x : ℚ) : ℤ :=
  if x - ⌊x⌋ < 1 / 2 then ⌊x⌋
  else if 1 / 2 < x - ⌊x⌋ then ⌊x⌋ + 1
  else if ⌊x⌋ % 2 = 0 then ⌊x⌋ else ⌊x⌋ + 1

/-- The nearest double, for a value that is not negative. -/
def nearestDouble (x : ℚ) : WithTop ℚ :=
  if x = 0 then 0
  else
    -- the distance of two doubles of this size
    let unit : ℚ := 2 ^ max (Int.log 2 x - 52) (-1074)
    let rounded := roundHalfEven (x / unit) * unit
    if 2 ^ 1024 ≤ rounded then ⊤ else rounded

def digitValue (c : Char) : Option ℕ :=
  if '0' ≤ c ∧ c ≤ '9' then some (c.toNat - '0'.toNat)
  else if 'a' ≤ c ∧ c ≤ 'z' then some (c.toNat - 'a'.toNat + 10)
  else if 'A' ≤ c ∧ c ≤ 'Z' then some (c.toNat - 'A'.toNat + 10)
  else none

/-- One or more digits. -/
def readDigits (base : ℕ) : List Char → Option ℕ
  | [] => none
  | c :: cs => (c :: cs).foldlM (fun value c =>
    ((digitValue c).filter (fun d => d < base)).map fun d => value * base + d) 0

def readExponent : List Char → Option ℤ
  | '+' :: digits => (readDigits 10 digits).map fun n => (n : ℤ)
  | '-' :: digits => (readDigits 10 digits).map fun n => -(n : ℤ)
  | digits => (readDigits 10 digits).map fun n => (n : ℤ)

/-- A decimal literal without a sign and without a point. -/
def readDecimal (text : List Char) : Option (WithTop ℚ) :=
  if text = "Infinity".toList then some ⊤
  else
    match readDigits 10 (text.takeWhile Char.isDigit), text.dropWhile Char.isDigit with
    | none, _ => none
    | some digits, [] => some (nearestDouble digits)
    | some digits, c :: exponent =>
      if c = 'e' ∨ c = 'E' then
        (readExponent exponent).map fun e => nearestDouble (digits * 10 ^ e)
      else none

def negated : WithTop ℚ → WithBot (WithTop ℚ)
  | none => ⊥
  | some q => ((-q : ℚ) : WithTop ℚ)

/-- `Number(text)` for a text without a point, as the components of a version are. -/
def numberOf (text : List Char) : JsNumber :=
  match strip isJsSpace text with
  | [] => some ((0 : ℚ) : WithTop ℚ)
  | '0' :: 'x' :: digits => (readDigits 16 digits).map fun n => ↑(nearestDouble n)
  | '0' :: 'X' :: digits => (readDigits 16 digits).map fun n => ↑(nearestDouble n)
  | '0' :: 'o' :: digits => (readDigits 8 digits).map fun n => ↑(nearestDouble n)
  | '0' :: 'O' :: digits => (readDigits 8 digits).map fun n => ↑(nearestDouble n)
  | '0' :: 'b' :: digits => (readDigits 2 digits).map fun n => ↑(nearestDouble n)
  | '0' :: 'B' :: digits => (readDigits 2 digits).map fun n => ↑(nearestDouble n)
  | '-' :: decimal => (readDecimal decimal).map negated
  | '+' :: decimal => (readDecimal decimal).map fun x => ↑x
  | decimal => (readDecimal decimal).map fun x => ↑x

example : numberOf "9007199254740993".toList = some ((9007199254740992 : ℚ) : WithTop ℚ) := by
  decide +kernel

/-! ## Comparing versions -/

/-- `version.split('.').map(Number)`. -/
def parts (version : String) : List JsNumber := (version.toList.splitOn '.').map numberOf

/-- A component that the shorter version does not have counts as zero. -/
def compareSemver (left right : String) : ℤ := Number.compareLists 0 (parts left) (parts right)

example : compareSemver "1.10.0" "1.2.9" = 1 := by decide +kernel

/-- Every component is a number. -/
def IsNumeric (version : String) : Prop := none ∉ parts version

/-- What a handshake, a rule or a flag can carry. -/
def IsVersion (version : String) : Prop := version ≠ "" ∧ jsTrim version = version

theorem compareSemver_swap (left right : String) :
    compareSemver left right = -compareSemver right left := Number.compareLists_swap

theorem compareSemver_trans {left right third : String} (hleft : IsNumeric left)
    (hright : IsNumeric right) (hthird : IsNumeric third) (h₁ : compareSemver left right ≤ 0)
    (h₂ : compareSemver right third ≤ 0) : compareSemver left third ≤ 0 :=
  Number.compareLists_trans hleft hright hthird h₁ h₂

/-! ## A minimum that a malformed version reaches -/

def lowComponent : List Char := "-Infinity".toList

def lowPieces (length index : ℕ) : List (List Char) :=
  (List.range length).map fun i => if i = index then ['1'] else lowComponent

/-- `1` at the index, and the least number at every other one of `length` components. -/
def lowMinimum (length index : ℕ) : String :=
  String.ofList (List.intercalate ['.'] (lowPieces length index))

def lowPart (index i : ℕ) : JsNumber := if i = index then some 1 else some ⊥

theorem numberOf_lowComponent : numberOf lowComponent = some ⊥ := by decide +kernel

theorem numberOf_one : numberOf ['1'] = some 1 := by decide +kernel

theorem mem_lowPieces {length index : ℕ} {piece : List Char}
    (h : piece ∈ lowPieces length index) : piece = ['1'] ∨ piece = lowComponent := by
  obtain ⟨i, _, rfl⟩ := List.mem_map.mp h
  split
  · exact Or.inl rfl
  · exact Or.inr rfl

section LowMinimum

variable {length : ℕ} (hlength : 0 < length) (index : ℕ)

include hlength

theorem lowPieces_ne_nil : lowPieces length index ≠ [] := by
  grind [lowPieces, List.length_map]

theorem parts_lowMinimum :
    parts (lowMinimum length index) = (List.range length).map (lowPart index) := by
  have hdots : ∀ piece ∈ lowPieces length index, '.' ∉ piece := by
    intro piece hpiece
    rcases mem_lowPieces hpiece with rfl | rfl
    · decide
    · decide
  unfold parts lowMinimum
  rw [String.toList_ofList,
    List.splitOn_intercalate '.' hdots (lowPieces_ne_nil hlength index), lowPieces, List.map_map]
  apply List.map_congr_left
  intro i _
  show numberOf (if i = index then ['1'] else lowComponent) = lowPart index i
  unfold lowPart
  split
  · exact numberOf_one
  · exact numberOf_lowComponent

theorem isVersion_lowMinimum : IsVersion (lowMinimum length index) := by
  have hpieces := lowPieces_ne_nil hlength index
  have hnonempty : ∀ piece ∈ lowPieces length index, piece ≠ [] := by
    intro piece hpiece
    rcases mem_lowPieces hpiece with rfl | rfl
    · decide
    · decide
  have hstripped : ∀ piece ∈ lowPieces length index, strip isJsSpace piece = piece := by
    intro piece hpiece
    rcases mem_lowPieces hpiece with rfl | rfl
    · decide
    · decide
  constructor
  · intro hempty
    have hchars := congrArg String.toList hempty
    rw [lowMinimum, String.toList_ofList] at hchars
    exact intercalate_ne_nil '.' hpieces hnonempty hchars
  apply String.toList_injective
  rw [toList_jsTrim, lowMinimum, String.toList_ofList]
  exact strip_intercalate '.' hpieces hnonempty hstripped

end LowMinimum

theorem not_below_bot (x : JsNumber) : ¬ Number.Below x (some ⊥) := by
  cases x with
  | none => exact Number.not_below_none_left _
  | some a => exact not_lt_bot

/-- What is not a number reaches the minimum. -/
theorem compareSemver_lowMinimum {version : String} {index : ℕ}
    (h : (parts version)[index]? = some none) :
    0 ≤ compareSemver version (lowMinimum (parts version).length index) := by
  have hlength : 0 < (parts version).length := by grind
  apply Number.compareOn_nonneg
  intro i hi
  rw [parts_lowMinimum hlength, List.length_map, List.length_range, max_self] at hi
  have hlow : Number.padded 0 (parts (lowMinimum (parts version).length index)) i =
      lowPart index i := by
    unfold Number.padded
    rw [parts_lowMinimum hlength, List.getD_eq_getElem?_getD, List.getElem?_map,
      List.getElem?_range (List.mem_range.mp hi)]
    rfl
  rw [hlow]
  unfold lowPart
  split
  · rename_i heq
    have hnone : Number.padded 0 (parts version) i = none := by simp [heq, h, Number.padded]
    rw [hnone]
    exact Number.not_below_none_left _
  · exact not_below_bot _

end QuizMind.Versions

import Mathlib.Data.Int.Notation
import Mathlib.Data.Nat.Notation

/-! # What the handlers share: exceptions, dates, JSON values

The parts of the language and of the frameworks that several services use.
-/

namespace QuizMind

/-- What a handler can throw: a plain `Error`, one of the HTTP exceptions, or
an error of the database client: with its code (`P2002`: unique constraint,
`P2025`: record to update not found, `P2003`: foreign key), or because the
arguments have no database value. -/
inductive Exception where
  | error (message : String)
  | badRequest (message : String)
  | unauthorized (message : String)
  | forbidden (message : String)
  | notFound (message : String)
  | conflict (message : String)
  | serviceUnavailable (message : String)
  | badGateway (message : String)
  | tooManyRequests (message : String)
  | prisma (code : String)
  | prismaValidation
  deriving DecidableEq

/-- A sequence succeeds when both of its parts do. -/
theorem bind_eq_ok_iff {ε α β : Type} {x : Except ε α} {f : α → Except ε β} {b : β} :
    (x >>= f) = .ok b ↔ ∃ a, x = .ok a ∧ f a = .ok b := by
  constructor
  · intro h
    cases x with
    | error e => cases h
    | ok a => exact ⟨a, rfl, h⟩
  · rintro ⟨a, rfl, h⟩
    exact h

/-- A `Date`: milliseconds since the epoch, `none` for an invalid date. -/
abbrev JsDate := Option ℤ

-- membership of a text in a list is decided in one way
instance lawfulBEqChars : LawfulBEq (List Char) := inferInstance

instance lawfulBEqUnits : LawfulBEq (List ℕ) := inferInstance

/-- White space and line terminators, as `String.prototype.trim` reads them. -/
def isJsSpace (c : Char) : Bool :=
  let n := c.toNat
  (9 ≤ n && n ≤ 13) || n == 0x20 || n == 0xA0 || n == 0x1680 ||
    (0x2000 ≤ n && n ≤ 0x200A) || n == 0x2028 || n == 0x2029 || n == 0x202F ||
    n == 0x205F || n == 0x3000 || n == 0xFEFF

/-- `String.prototype.trim`. -/
def jsTrim (s : String) : String :=
  String.ofList ((s.toList.dropWhile isJsSpace).reverse.dropWhile isJsSpace).reverse

/-- `String.prototype.length`: the number of UTF-16 code units. -/
def jsLength (s : String) : ℕ :=
  s.toList.foldl (fun n c => n + if 0x10000 ≤ c.toNat then 2 else 1) 0

example : jsTrim " 2a\n" = "2a" := by decide

/-- `String.prototype.startsWith`. -/
def jsStartsWith (s start : String) : Bool := start.toList.isPrefixOf s.toList

/-- A value produced by `JSON.parse`; an object has one member per key. -/
inductive Json where
  | null
  | bool (b : Bool)
  | number (n : ℤ)
  | string (s : String)
  | array (items : List Json)
  | object (members : List (String × Json))

namespace Json

/-- Member access on an object: `none` is `undefined`. -/
def member (members : List (String × Json)) (key : String) : Option Json :=
  members.lookup key

/-- `a ?? b` on member values. -/
def coalesce : Option Json → Option Json → Option Json
  | none, b => b
  | some .null, b => b
  | some a, _ => some a

end Json

end QuizMind

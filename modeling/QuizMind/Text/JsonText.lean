import Mathlib.Data.List.Basic

/-! # JSON texts

Texts as JSON values and back. Strings are lists of characters, so a surrogate without its
partner, which only an escape can name, is read as U+FFFD. A record of texts and nulls that
has been written is read back (`parse_record`).
-/

namespace JsonText

/-- A value; a number is kept as it is written. -/
inductive Value where
  | null
  | bool (b : Bool)
  | number (literal : List Char)
  | string (text : List Char)
  | array (items : List Value)
  | object (members : List (List Char × Value))

/-- The members of an object; of members with one name the last one counts. -/
def Value.member (members : List (List Char × Value)) (name : List Char) : Option Value :=
  members.reverse.lookup name

/-! ## Writing -/

def hexDigit (n : ℕ) : Char := "0123456789abcdef".toList.getD n '0'

/-- The escape of a control character. -/
def controlEscape (c : Char) : List Char :=
  if c = '\n' then ['\\', 'n']
  else if c = '\r' then ['\\', 'r']
  else if c = '\t' then ['\\', 't']
  else if c.toNat = 8 then ['\\', 'b']
  else if c.toNat = 12 then ['\\', 'f']
  else ['\\', 'u', '0', '0', hexDigit (c.toNat / 16), hexDigit (c.toNat % 16)]

def escape (c : Char) : List Char :=
  if c = '"' then ['\\', '"']
  else if c = '\\' then ['\\', '\\']
  else if c.toNat < 32 then controlEscape c
  else [c]

/-- A string in quotation marks. -/
def quote (text : List Char) : List Char := '"' :: text.flatMap escape ++ ['"']

/-- A text or null. -/
def scalar : Option (List Char) → List Char
  | some text => quote text
  | none => "null".toList

def writeMembers : List (List Char × Option (List Char)) → List Char
  | [] => []
  | [m] => quote m.1 ++ ':' :: scalar m.2
  | m :: members => quote m.1 ++ ':' :: scalar m.2 ++ ',' :: writeMembers members

/-- A record of texts and nulls, as an object. -/
def writeRecord (members : List (List Char × Option (List Char))) : List Char :=
  '{' :: writeMembers members ++ ['}']

/-! ## Reading -/

def isSpace (c : Char) : Bool := c = ' ' || c = '\n' || c = '\r' || c = '\t'

def skipSpace (text : List Char) : List Char := text.dropWhile isSpace

def hexValue (c : Char) : Option ℕ :=
  if c.isDigit then some (c.toNat - 48)
  else if 'a' ≤ c ∧ c ≤ 'f' then some (c.toNat - 87)
  else if 'A' ≤ c ∧ c ≤ 'F' then some (c.toNat - 55)
  else none

def hexValue₄ (a b c d : Char) : Option ℕ := do
  let a ← hexValue a
  let b ← hexValue b
  let c ← hexValue c
  let d ← hexValue d
  return a * 4096 + b * 256 + c * 16 + d

/-- The character of an escape of one letter. -/
def unescape : Char → Option Char
  | '"' => some '"'
  | '\\' => some '\\'
  | '/' => some '/'
  | 'n' => some '\n'
  | 'r' => some '\r'
  | 't' => some '\t'
  | 'b' => some (Char.ofNat 8)
  | 'f' => some (Char.ofNat 12)
  | _ => none

/-- A character, or a code unit that an escape has named. -/
inductive Piece where
  | char (c : Char)
  | unit (n : ℕ)

/-- The pieces of a string up to its closing quotation mark, and what comes after it. -/
def readPieces : List Char → Option (List Piece × List Char)
  | [] => none
  | '"' :: rest => some ([], rest)
  | '\\' :: 'u' :: a :: b :: c :: d :: rest => do
      let n ← hexValue₄ a b c d
      let (pieces, rest) ← readPieces rest
      return (.unit n :: pieces, rest)
  | '\\' :: e :: rest => do
      let c ← unescape e
      let (pieces, rest) ← readPieces rest
      return (.char c :: pieces, rest)
  | c :: rest =>
    if c.toNat < 32 ∨ c = '\\' then none
    else do
      let (pieces, rest) ← readPieces rest
      return (.char c :: pieces, rest)

def isHigh (n : ℕ) : Bool := 0xD800 ≤ n && n < 0xDC00

def isLow (n : ℕ) : Bool := 0xDC00 ≤ n && n < 0xE000

def unitChar (n : ℕ) : Char := if isHigh n || isLow n then '\uFFFD' else Char.ofNat n

/-- Two surrogates that belong together are one character. -/
def join : List Piece → List Char
  | [] => []
  | .char c :: pieces => c :: join pieces
  | [.unit n] => [unitChar n]
  | .unit n :: .char c :: pieces => unitChar n :: c :: join pieces
  | .unit n :: .unit m :: pieces =>
    if isHigh n && isLow m then
      Char.ofNat (0x10000 + (n - 0xD800) * 0x400 + (m - 0xDC00)) :: join pieces
    else unitChar n :: join (.unit m :: pieces)

def readString (text : List Char) : Option (List Char × List Char) :=
  (readPieces text).map fun p => (join p.1, p.2)

/-- Digits, of which there is at least one. -/
def readDigits (text : List Char) : Option (List Char × List Char) :=
  let digits := text.takeWhile Char.isDigit
  if digits = [] then none else some (digits, text.dropWhile Char.isDigit)

def readInteger : List Char → Option (List Char × List Char)
  | '0' :: rest => some (['0'], rest)
  | text => readDigits text

def readFraction : List Char → Option (List Char × List Char)
  | '.' :: rest => do
      let (digits, rest) ← readDigits rest
      return ('.' :: digits, rest)
  | text => some ([], text)

def readExponent : List Char → Option (List Char × List Char)
  | e :: rest =>
    if e = 'e' ∨ e = 'E' then do
      let sign := rest.takeWhile fun c => c = '+' || c = '-'
      let (digits, rest) ← readDigits (rest.drop sign.length)
      if 1 < sign.length then none else return (e :: sign ++ digits, rest)
    else some ([], e :: rest)
  | [] => some ([], [])

def readNumber (text : List Char) : Option (Value × List Char) := do
  let sign := match text with
    | '-' :: _ => ['-']
    | _ => []
  let (integer, rest) ← readInteger (text.drop sign.length)
  let (fraction, rest) ← readFraction rest
  let (exponent, rest) ← readExponent rest
  return (.number (sign ++ integer ++ fraction ++ exponent), rest)

mutual

/-- A value and what comes after it; `fuel` bounds the depth and the number of the members. -/
def readValue : ℕ → List Char → Option (Value × List Char)
  | 0, _ => none
  | fuel + 1, text =>
    match skipSpace text with
    | '{' :: rest =>
      match skipSpace rest with
      | '}' :: rest => some (.object [], rest)
      | rest => (readMembers fuel rest).map fun p => (.object p.1, p.2)
    | '[' :: rest =>
      match skipSpace rest with
      | ']' :: rest => some (.array [], rest)
      | rest => (readItems fuel rest).map fun p => (.array p.1, p.2)
    | '"' :: rest => (readString rest).map fun p => (.string p.1, p.2)
    | 'n' :: 'u' :: 'l' :: 'l' :: rest => some (.null, rest)
    | 't' :: 'r' :: 'u' :: 'e' :: rest => some (.bool true, rest)
    | 'f' :: 'a' :: 'l' :: 's' :: 'e' :: rest => some (.bool false, rest)
    | rest => readNumber rest

def readItems : ℕ → List Char → Option (List Value × List Char)
  | 0, _ => none
  | fuel + 1, text => do
      let (item, rest) ← readValue fuel text
      match skipSpace rest with
      | ',' :: rest => do
          let (items, rest) ← readItems fuel rest
          return (item :: items, rest)
      | ']' :: rest => return ([item], rest)
      | _ => none

def readMembers : ℕ → List Char → Option (List (List Char × Value) × List Char)
  | 0, _ => none
  | fuel + 1, text =>
    match skipSpace text with
    | '"' :: rest => do
        let (name, rest) ← readString rest
        match skipSpace rest with
        | ':' :: rest => do
            let (value, rest) ← readValue fuel rest
            match skipSpace rest with
            | ',' :: rest => do
                let (members, rest) ← readMembers fuel rest
                return ((name, value) :: members, rest)
            | '}' :: rest => return ([(name, value)], rest)
            | _ => none
        | _ => none
    | _ => none

end

/-- The value of a whole text. -/
def parse (text : List Char) : Option Value := do
  let (value, rest) ← readValue (text.length + 1) text
  if skipSpace rest = [] then some value else none

/-! ## What was written is read back -/

/-- The piece that a written character is read as. -/
def piece (c : Char) : Piece :=
  if c.toNat < 32 ∧ c ≠ '\n' ∧ c ≠ '\r' ∧ c ≠ '\t' ∧ c.toNat ≠ 8 ∧ c.toNat ≠ 12 then
    .unit c.toNat
  else .char c

theorem hexValue_hexDigit : ∀ n < 16, hexValue (hexDigit n) = some n := by decide +kernel

theorem hexValue₄_control {c : Char} (h : c.toNat < 32) :
    hexValue₄ '0' '0' (hexDigit (c.toNat / 16)) (hexDigit (c.toNat % 16)) = some c.toNat := by
  have hzero : hexValue '0' = some 0 := by decide
  have hhigh := hexValue_hexDigit (c.toNat / 16) (by omega)
  have hlow := hexValue_hexDigit (c.toNat % 16) (by omega)
  simp only [hexValue₄, hzero, hhigh, hlow, bind, Option.bind]
  congr 1
  omega

theorem readPieces_control {c : Char} (h : c.toNat < 32) (rest : List Char) :
    readPieces (controlEscape c ++ rest) =
      (readPieces rest).map fun p => (piece c :: p.1, p.2) := by
  unfold controlEscape piece
  by_cases hn : c = '\n'
  · subst hn
    simp [readPieces, unescape, Option.map_eq_bind, Function.comp_def]
  by_cases hr : c = '\r'
  · subst hr
    simp [readPieces, unescape, Option.map_eq_bind, Function.comp_def]
  by_cases ht : c = '\t'
  · subst ht
    simp [readPieces, unescape, Option.map_eq_bind, Function.comp_def]
  by_cases hb : c.toNat = 8
  · obtain rfl : c = Char.ofNat 8 := by rw [← hb, Char.ofNat_toNat]
    simp [readPieces, unescape, Option.map_eq_bind, Function.comp_def]
  by_cases hf : c.toNat = 12
  · obtain rfl : c = Char.ofNat 12 := by rw [← hf, Char.ofNat_toNat]
    simp [readPieces, unescape, Option.map_eq_bind, Function.comp_def]
  rw [if_neg hn, if_neg hr, if_neg ht, if_neg hb, if_neg hf, if_pos ⟨h, hn, hr, ht, hb, hf⟩]
  simp [readPieces, hexValue₄_control h, Option.map_eq_bind, Function.comp_def]

theorem readPieces_escape (c : Char) (rest : List Char) :
    readPieces (escape c ++ rest) = (readPieces rest).map fun p => (piece c :: p.1, p.2) := by
  unfold escape
  by_cases hquote : c = '"'
  · subst hquote
    simp [readPieces, unescape, piece, Option.map_eq_bind, Function.comp_def]
  by_cases hslash : c = '\\'
  · subst hslash
    simp [readPieces, unescape, piece, Option.map_eq_bind, Function.comp_def]
  rw [if_neg hquote, if_neg hslash]
  by_cases hcontrol : c.toNat < 32
  · rw [if_pos hcontrol]
    exact readPieces_control hcontrol rest
  have hpiece : piece c = .char c := if_neg fun h => hcontrol h.1
  rw [if_neg hcontrol, hpiece, readPieces.eq_def]
  split
  · rename_i hnil
    cases hnil
  · grind
  · grind
  · grind
  · rename_i heq
    obtain ⟨rfl, rfl⟩ := List.cons.inj heq
    rw [if_neg (by simp [hcontrol, hslash])]
    simp [Option.map_eq_bind, Function.comp_def]

theorem readPieces_text (text rest : List Char) :
    readPieces (text.flatMap escape ++ '"' :: rest) = some (text.map piece, rest) := by
  induction text with
  | nil => simp [readPieces]
  | cons c text ih =>
    rw [List.flatMap_cons, List.append_assoc, readPieces_escape, ih]
    rfl

/-- The code unit of a control character joins with nothing. -/
theorem join_control {c : Char} (h : c.toNat < 32) (pieces : List Piece) :
    join (.unit c.toNat :: pieces) = c :: join pieces := by
  have hhigh : isHigh c.toNat = false := by grind [isHigh]
  have hlow : isLow c.toNat = false := by grind [isLow]
  have hunit : unitChar c.toNat = c := by grind [unitChar, Char.ofNat_toNat]
  rcases pieces with _ | ⟨d | m, pieces⟩
  · simp only [join, hunit]
  · simp only [join, hunit]
  · rw [join, hhigh, hunit]
    rfl

theorem join_pieces (text : List Char) : join (text.map piece) = text := by
  induction text with
  | nil => rfl
  | cons c text ih => grind [piece, join, join_control]

/-- A quoted string is read back, up to its closing quotation mark. -/
theorem readString_quote (text rest : List Char) :
    readString (text.flatMap escape ++ '"' :: rest) = some (text, rest) := by
  unfold readString
  rw [readPieces_text, Option.map_some, join_pieces]

/-- The value of a text or null. -/
def scalarValue : Option (List Char) → Value
  | some text => .string text
  | none => .null

theorem readValue_scalar (fuel : ℕ) (value : Option (List Char)) (rest : List Char) :
    readValue (fuel + 1) (scalar value ++ rest) = some (scalarValue value, rest) := by
  cases value with
  | none => rfl
  | some text =>
    have hquote : scalar (some text) ++ rest = '"' :: (text.flatMap escape ++ '"' :: rest) := by
      simp [scalar, quote]
    rw [hquote, readValue]
    have hspace : skipSpace ('"' :: (text.flatMap escape ++ '"' :: rest)) =
        '"' :: (text.flatMap escape ++ '"' :: rest) := rfl
    rw [hspace]
    simp only [readString_quote]
    rfl

/-- A member that is followed by another one. -/
theorem readMembers_comma (fuel : ℕ) (name : List Char) (value : Option (List Char))
    (rest : List Char) :
    readMembers (fuel + 2) (quote name ++ ':' :: (scalar value ++ ',' :: rest)) =
      (readMembers (fuel + 1) rest).map fun p => ((name, scalarValue value) :: p.1, p.2) := by
  have htext : quote name ++ ':' :: (scalar value ++ ',' :: rest) =
      '"' :: (name.flatMap escape ++ '"' :: ':' :: (scalar value ++ ',' :: rest)) := by
    simp [quote]
  have hspace : ∀ text, skipSpace ('"' :: text) = '"' :: text := fun _ => rfl
  have hcolon : ∀ text, skipSpace (':' :: text) = ':' :: text := fun _ => rfl
  have hcomma : ∀ text, skipSpace (',' :: text) = ',' :: text := fun _ => rfl
  rw [htext, readMembers, hspace]
  simp only [readString_quote, bind, Option.bind, hcolon, readValue_scalar, hcomma]
  cases readMembers (fuel + 1) rest <;> rfl

/-- The last member. -/
theorem readMembers_brace (fuel : ℕ) (name : List Char) (value : Option (List Char))
    (rest : List Char) :
    readMembers (fuel + 2) (quote name ++ ':' :: (scalar value ++ '}' :: rest)) =
      some ([(name, scalarValue value)], rest) := by
  have htext : quote name ++ ':' :: (scalar value ++ '}' :: rest) =
      '"' :: (name.flatMap escape ++ '"' :: ':' :: (scalar value ++ '}' :: rest)) := by
    simp [quote]
  have hspace : ∀ text, skipSpace ('"' :: text) = '"' :: text := fun _ => rfl
  have hcolon : ∀ text, skipSpace (':' :: text) = ':' :: text := fun _ => rfl
  have hbrace : ∀ text, skipSpace ('}' :: text) = '}' :: text := fun _ => rfl
  rw [htext, readMembers, hspace]
  simp only [readString_quote, bind, Option.bind, hcolon, readValue_scalar, hbrace, pure]

variable {members : List (List Char × Option (List Char))}

theorem readMembers_record {fuel : ℕ}
    (hfuel : members.length < fuel) (hnil : members ≠ []) (rest : List Char) :
    readMembers fuel (writeMembers members ++ '}' :: rest) =
      some (members.map fun m => (m.1, scalarValue m.2), rest) := by
  induction members generalizing fuel with
  | nil => exact absurd rfl hnil
  | cons m members ih =>
    obtain ⟨fuel, rfl⟩ : ∃ n, fuel = n + 2 := by
      rw [List.length_cons] at hfuel
      exact ⟨fuel - 2, by omega⟩
    cases members with
    | nil =>
      rw [writeMembers, List.append_assoc]
      exact readMembers_brace fuel m.1 m.2 rest
    | cons m' members =>
      have hfuel' : (m' :: members).length < fuel + 1 := by simpa using hfuel
      have hrest := ih hfuel' (List.cons_ne_nil _ _)
      rw [writeMembers, List.append_assoc, List.cons_append, List.append_assoc,
        List.cons_append, readMembers_comma, hrest]
      · rfl
      · exact List.cons_ne_nil _ _

theorem writeMembers_cons (m : List Char × Option (List Char))
    (members : List (List Char × Option (List Char))) :
    ∃ rest, writeMembers (m :: members) = '"' :: rest ∧
      (writeMembers members).length ≤ rest.length := by
  cases members with
  | nil => exact ⟨_, rfl, Nat.zero_le _⟩
  | cons m' members => grind [writeMembers, quote]

theorem length_le_writeMembers (members : List (List Char × Option (List Char))) :
    members.length ≤ (writeMembers members).length := by
  induction members with
  | nil => exact Nat.zero_le _
  | cons m members ih =>
    obtain ⟨rest, hwritten, hlen⟩ := writeMembers_cons m members
    rw [hwritten, List.length_cons, List.length_cons]
    omega

/-- A record of texts and nulls is read back. -/
theorem parse_record (hnil : members ≠ []) : parse (writeRecord members) =
      some (.object (members.map fun m => (m.1, scalarValue m.2))) := by
  have hlen := length_le_writeMembers members
  have hfuel : members.length < (writeRecord members).length := by
    simp only [writeRecord, List.length_cons, List.length_append]
    omega
  have hmembers := readMembers_record hfuel hnil []
  obtain ⟨rest, hstart⟩ : ∃ rest, writeMembers members ++ ['}'] = '"' :: rest := by
    obtain ⟨m, others, rfl⟩ := List.exists_cons_of_ne_nil hnil
    obtain ⟨rest, hwritten, -⟩ := writeMembers_cons m others
    exact ⟨rest ++ ['}'], by rw [hwritten, List.cons_append]⟩
  have hopen : ∀ text, skipSpace ('{' :: text) = '{' :: text := fun _ => rfl
  have hquote : ∀ text, skipSpace ('"' :: text) = '"' :: text := fun _ => rfl
  unfold parse
  generalize (writeRecord members).length = fuel at hmembers
  have hval : readValue (fuel + 1) ('{' :: '"' :: rest) =
      some (.object (members.map fun m => (m.1, scalarValue m.2)), []) := by grind [readValue]
  unfold writeRecord
  rw [List.cons_append, hstart, hval]
  rfl

end JsonText

import QuizMind.Text.Base64Url

/-! # Percent-encoding and search parameters

A component of a URL as `encodeURIComponent` writes it, and the parameters of a query as they
are read. What was written is read back (`readComponent_encode`), also behind other parameters
(`searchParams_append`).
-/

namespace Percent

open Base64Url (toUtf8 ofUtf8)

/-! ## Components -/

/-- The characters that a component keeps: `A-Z a-z 0-9 - _ . ! ~ * ' ( )`. -/
def kept : List Char :=
  "ABCDEFGHIJKLMNOPQRSTUVWXYZabcdefghijklmnopqrstuvwxyz0123456789-_.!~*'()".toList

def digits : List Char := "0123456789ABCDEF".toList

def digit (n : ℕ) : Char := digits.getD n '0'

def hexValue (c : Char) : Option ℕ :=
  (digits.findIdx? fun d => d = c).or ("0123456789abcdef".toList.findIdx? fun d => d = c)

def escape (byte : UInt8) : List Char :=
  ['%', digit (byte.toNat / 16), digit (byte.toNat % 16)]

def encodeChar (c : Char) : List Char :=
  if c ∈ kept then [c] else (String.utf8EncodeChar c).flatMap escape

/-- `encodeURIComponent`. -/
def encode (text : List Char) : List Char := text.flatMap encodeChar

/-- The bytes of a percent-encoded text; a `%` without two digits behind it is itself. -/
def decode : List Char → List UInt8
  | '%' :: a :: b :: rest =>
    match hexValue a, hexValue b with
    | some x, some y => UInt8.ofNat (x * 16 + y) :: decode rest
    | _, _ => String.utf8EncodeChar '%' ++ decode (a :: b :: rest)
  | c :: rest => String.utf8EncodeChar c ++ decode rest
  | [] => []

def plusToSpace (c : Char) : Char := if c = '+' then ' ' else c

/-- A name or a value of a query as it is read; `replaced` is what is made of bytes that are not
UTF-8. -/
def readComponent (replaced : List UInt8 → List Char) (text : List Char) : List Char :=
  ofUtf8 replaced (decode (text.map plusToSpace))

/-- No separator of a query, and nothing that a URL parser changes, stands in a component. -/
theorem mem_encode {text : List Char} {c : Char} (h : c ∈ encode text) : c ∈ '%' :: kept := by
  have hdigit : ∀ n < 16, digit n ∈ '%' :: kept := by decide
  obtain ⟨d, -, hc⟩ := List.mem_flatMap.mp h
  unfold encodeChar at hc
  split at hc
  · rename_i hkept
    rw [List.mem_singleton.mp hc]
    exact List.mem_cons_of_mem _ hkept
  obtain ⟨byte, -, hbyte⟩ := List.mem_flatMap.mp hc
  have hlt := byte.toNat_lt
  simp only [escape, List.mem_cons, List.not_mem_nil, or_false] at hbyte
  rcases hbyte with rfl | rfl | rfl
  · exact List.mem_cons_self
  all_goals exact hdigit _ (by omega)

theorem decode_escape (byte : UInt8) (rest : List Char) :
    decode (escape byte ++ rest) = byte :: decode rest := by
  have hdigit : ∀ n < 16, hexValue (digit n) = some n := by decide
  have hlt := byte.toNat_lt
  have hhigh := hdigit (byte.toNat / 16) (by omega)
  have hlow := hdigit (byte.toNat % 16) (by omega)
  have hbyte : byte.toNat / 16 * 16 + byte.toNat % 16 = byte.toNat := by omega
  simp only [escape, List.cons_append, List.nil_append, decode, hhigh, hlow, hbyte,
    UInt8.ofNat_toNat]

theorem decode_escapes (bytes : List UInt8) (rest : List Char) :
    decode (bytes.flatMap escape ++ rest) = bytes ++ decode rest := by
  induction bytes with
  | nil => rfl
  | cons byte bytes ih =>
    rw [List.flatMap_cons, List.append_assoc, decode_escape, ih, List.cons_append]

theorem decode_cons {c : Char} (h : c ≠ '%') (rest : List Char) :
    decode (c :: rest) = String.utf8EncodeChar c ++ decode rest := by
  cases rest with
  | nil => simp [decode]
  | cons a rest =>
    cases rest with
    | nil => simp [decode]
    | cons b rest => simp [decode, h]

theorem decode_encode (text : List Char) : decode (encode text) = toUtf8 text := by
  induction text with
  | nil => rfl
  | cons c text ih =>
    have hpercent : ∀ d ∈ kept, d ≠ '%' := List.all_iff_forall_prop.mp (by decide)
    show decode (encodeChar c ++ encode text) = String.utf8EncodeChar c ++ toUtf8 text
    unfold encodeChar
    split
    · rename_i hkept
      rw [List.singleton_append, decode_cons (hpercent c hkept), ih]
    · rw [decode_escapes, ih]

theorem readComponent_encode (replaced : List UInt8 → List Char) (text : List Char) :
    readComponent replaced (encode text) = text := by
  have hplus : ∀ c ∈ '%' :: kept, plusToSpace c = c := List.all_iff_forall_prop.mp (by decide)
  have hmap : (encode text).map plusToSpace = encode text := by
    rw [List.map_congr_left fun c hc => hplus c (mem_encode hc), List.map_id']
  unfold readComponent
  rw [hmap, decode_encode, Base64Url.ofUtf8_toUtf8]

/-! ## Parameters -/

section Query

variable (replaced : List UInt8 → List Char)

/-- One parameter: a name up to the first `=` and a value behind it. -/
def readPair (segment : List Char) : List Char × List Char :=
  (readComponent replaced (segment.takeWhile (· ≠ '=')),
    readComponent replaced ((segment.dropWhile (· ≠ '=')).drop 1))

/-- The parameters of a query in order; an empty segment is none. -/
def searchParams (query : List Char) : List (List Char × List Char) :=
  ((query.splitOn '&').filter (· ≠ [])).map (readPair replaced)

/-- A parameter put behind others is read after them. -/
theorem searchParams_append (query : List Char) {segment : List Char} (hseg : '&' ∉ segment)
    (hne : segment ≠ []) :
    searchParams replaced (query ++ '&' :: segment) =
      searchParams replaced query ++ [readPair replaced segment] := by
  unfold searchParams
  rw [List.splitOn_append_cons_self, List.splitOn_eq_singleton hseg]
  simp [hne]

theorem searchParams_single {segment : List Char} (hseg : '&' ∉ segment)
    (hne : segment ≠ []) : searchParams replaced segment = [readPair replaced segment] := by
  unfold searchParams
  rw [List.splitOn_eq_singleton hseg]
  simp [hne]

theorem readPair_encode {name : List Char} (hname : '=' ∉ name) (text : List Char) :
    readPair replaced (name ++ '=' :: encode text) = (readComponent replaced name, text) := by
  have htake : ∀ c ∈ name, decide (c ≠ '=') = true := by
    intro c hc
    simpa using fun h : c = '=' => hname (h ▸ hc)
  unfold readPair
  rw [List.takeWhile_append_of_pos htake, List.dropWhile_append_of_pos htake]
  simp [readComponent_encode]

end Query

end Percent

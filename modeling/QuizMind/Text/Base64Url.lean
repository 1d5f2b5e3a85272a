import Mathlib.Data.Bool.AllAny
import Mathlib.Data.List.DropRight

/-! # Base64url and UTF-8

Bytes as a text of the characters `A-Z a-z 0-9 - _`, six bits each and without padding, and
texts as bytes. Reading is lenient: characters outside the alphabet are skipped, and `+` and
`/` stand for `-` and `_`. What was written is read back (`decode_encode`, `ofUtf8_toUtf8`).
-/

namespace Base64Url

/-! ## Groups of six bits -/

/-- Three bytes are four groups of six bits; a shorter rest is filled up with zeros. -/
def sextets : List ℕ → List ℕ
  | a :: b :: c :: rest =>
    [a / 4, a % 4 * 16 + b / 16, b % 16 * 4 + c / 64, c % 64] ++ sextets rest
  | [a, b] => [a / 4, a % 4 * 16 + b / 16, b % 16 * 4]
  | [a] => [a / 4, a % 4 * 16]
  | [] => []

/-- The bytes of groups of six bits; six bits left over are no byte. -/
def octets : List ℕ → List ℕ
  | w :: x :: y :: z :: rest =>
    [w * 4 + x / 16, x % 16 * 16 + y / 4, y % 4 * 64 + z] ++ octets rest
  | [w, x, y] => [w * 4 + x / 16, x % 16 * 16 + y / 4]
  | [w, x] => [w * 4 + x / 16]
  | [_] => []
  | [] => []

theorem octets_sextets {bytes : List ℕ} (h : ∀ b ∈ bytes, b < 256) :
    octets (sextets bytes) = bytes := by
  induction bytes using sextets.induct with
  | case1 a b c rest ih =>
    have hb := h b (by simp)
    have hc := h c (by simp)
    have hrest := ih fun x hx => h x (by simp [hx])
    simp only [sextets, List.cons_append, List.nil_append, octets, hrest, List.cons.injEq, and_true]
    omega
  | case2 a b =>
    have hb := h b (by simp)
    simp only [sextets, octets, List.cons.injEq, and_true]
    omega
  | case3 a =>
    simp only [sextets, octets, List.cons.injEq, and_true]
    omega
  | case4 => rfl

theorem lt_of_mem_sextets {bytes : List ℕ} (h : ∀ b ∈ bytes, b < 256) :
    ∀ n ∈ sextets bytes, n < 64 := by
  induction bytes using sextets.induct with
  | case1 a b c rest ih =>
    have ha := h a (by simp)
    have hb := h b (by simp)
    have hc := h c (by simp)
    have hrest := ih fun x hx => h x (by simp [hx])
    intro n hn
    simp only [sextets, List.cons_append, List.mem_cons] at hn
    rcases hn with rfl | rfl | rfl | rfl | hn
    · omega
    · omega
    · omega
    · omega
    · exact hrest n hn
  | case2 a b =>
    have ha := h a (by simp)
    have hb := h b (by simp)
    intro n hn
    simp only [sextets, List.mem_cons, List.not_mem_nil, or_false] at hn
    omega
  | case3 a =>
    have ha := h a (by simp)
    intro n hn
    simp only [sextets, List.mem_cons, List.not_mem_nil, or_false] at hn
    omega
  | case4 => nofun

/-! ## The alphabet -/

def alphabet : List Char :=
  "ABCDEFGHIJKLMNOPQRSTUVWXYZabcdefghijklmnopqrstuvwxyz0123456789-_".toList

def digit (n : ℕ) : Char := alphabet.getD n '_'

/-- The six bits of a character of the alphabet. -/
def value (c : Char) : Option ℕ :=
  if c = '+' then some 62
  else if c = '/' then some 63
  else alphabet.findIdx? fun d => d = c

theorem value_digit : ∀ n < 64, value (digit n) = some n := by decide +kernel

theorem filterMap_value {groups : List ℕ} (h : ∀ n ∈ groups, n < 64) :
    (groups.map digit).filterMap value = groups := by
  rw [List.filterMap_map]
  have hval : groups.filterMap (value ∘ digit) = groups.filterMap some :=
    List.filterMap_congr fun n hn => value_digit n (h n hn)
  rw [hval, List.filterMap_some]

/-! ## Texts and bytes -/

def encode (bytes : List UInt8) : List Char :=
  (sextets (bytes.map UInt8.toNat)).map digit

def decode (text : List Char) : List UInt8 :=
  (octets (text.filterMap value)).map UInt8.ofNat

variable (bytes : List UInt8)

theorem decode_encode : decode (encode bytes) = bytes := by
  have hbytes : ∀ b ∈ bytes.map UInt8.toNat, b < 256 := by
    intro b hb
    obtain ⟨byte, -, rfl⟩ := List.mem_map.mp hb
    exact byte.toNat_lt
  unfold decode encode
  rw [filterMap_value (lt_of_mem_sextets hbytes), octets_sextets hbytes, List.map_map]
  have hback : UInt8.ofNat ∘ UInt8.toNat = id := by
    funext byte
    exact UInt8.ofNat_toNat
  rw [hback, List.map_id]

/-- The UTF-8 bytes of a text. -/
def toUtf8 (text : List Char) : List UInt8 := text.flatMap String.utf8EncodeChar

/-- The text of UTF-8 bytes; `replaced` is what is made of bytes that are not UTF-8. -/
def ofUtf8 (replaced : List UInt8 → List Char) (bytes : List UInt8) : List Char :=
  match bytes.toByteArray.utf8Decode? with
  | some text => text.toList
  | none => replaced bytes

theorem ofUtf8_toUtf8 (replaced : List UInt8 → List Char) (text : List Char) :
    ofUtf8 replaced (toUtf8 text) = text := by
  have hdecode : (toUtf8 text).toByteArray.utf8Decode? = some text.toArray :=
    List.utf8Decode?_utf8Encode
  unfold ofUtf8
  rw [hdecode]

/-! ## With padding -/

/-- The character of the standard alphabet. -/
def toStandard (c : Char) : Char := if c = '-' then '+' else if c = '_' then '/' else c

def ofStandard (c : Char) : Char := if c = '+' then '-' else if c = '/' then '_' else c

/-- The padding of a text of some length. -/
def padding (length : ℕ) : List Char := List.replicate ((4 - length % 4) % 4) '='

/-- Base64 in the standard alphabet, with padding. -/
def encodeStandard (bytes : List UInt8) : List Char :=
  (encode bytes).map toStandard ++ padding (encode bytes).length

theorem mem_alphabet_of_encode {bytes : List UInt8} {c : Char} (h : c ∈ encode bytes) :
    c ∈ '_' :: alphabet := by
  obtain ⟨n, -, rfl⟩ := List.mem_map.mp h
  grind [digit]

/-- Without the padding, the standard text is the other one. -/
theorem ofStandard_encodeStandard :
    ((encodeStandard bytes).map ofStandard).rdropWhile (fun c => c = '=') = encode bytes := by
  have halpha : ∀ c ∈ '_' :: alphabet, ofStandard (toStandard c) = c ∧ c ≠ '=' :=
    List.all_iff_forall_prop.mp (by decide)
  have hback : ((encode bytes).map toStandard).map ofStandard = encode bytes := by
    rw [List.map_map]
    exact (List.map_congr_left fun c hc => (halpha c (mem_alphabet_of_encode hc)).1).trans
      (List.map_id' _)
  have hpadding : ∀ n, (List.replicate n '=').map ofStandard = List.replicate n '=' := by
    intro n
    rw [List.map_replicate]
    rfl
  unfold encodeStandard padding
  rw [List.map_append, hback, hpadding]
  have hpad : ∀ c ∈ (List.replicate ((4 - (encode bytes).length % 4) % 4) '=').reverse,
      decide (c = '=') = true := by
    intro c hc
    rw [List.reverse_replicate] at hc
    exact decide_eq_true (List.eq_of_mem_replicate hc)
  rw [List.rdropWhile, List.reverse_append, List.dropWhile_append_of_pos hpad, ← List.rdropWhile,
    List.rdropWhile_eq_self_iff]
  intro hne
  have hlast := (halpha _ (mem_alphabet_of_encode (List.getLast_mem hne))).2
  simpa using hlast

/-- The lenient reading reads the standard text too. -/
theorem decode_encodeStandard : decode (encodeStandard bytes) = bytes := by
  have halpha : ∀ c ∈ '_' :: alphabet, value (toStandard c) = value c :=
    List.all_iff_forall_prop.mp (by decide)
  have hequals : value '=' = none := by decide
  have hsame : ((encode bytes).map toStandard).filterMap value = (encode bytes).filterMap value := by
    rw [List.filterMap_map]
    exact List.filterMap_congr fun c hc => halpha c (mem_alphabet_of_encode hc)
  have hread := decode_encode bytes
  unfold decode at hread ⊢
  rw [encodeStandard, List.filterMap_append, hsame, padding, List.filterMap_replicate_of_none hequals,
    List.append_nil]
  exact hread

end Base64Url

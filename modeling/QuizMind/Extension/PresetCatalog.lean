import QuizMind.Extension.Presets
import QuizMind.Table.OffsetPages
import Mathlib.Data.Prod.Lex

/-! # The catalog of presets

`listCatalog` takes a page of the public presets from an offset on. The order that it asks for
has ties, so a preset can be listed twice or not at all: `listsOnce_iff`.
-/

namespace QuizMind.Scenarios

open Ai (JsValue Payload)
open Logs (get)
open OffsetPages
open Versions (JsNumber)

/-! ## The listing -/

/-- `Number` of a member of a query, and `contains` of the database in the insensitive mode. -/
structure CatalogEnv extends PresetEnv where
  numberOf : JsValue → Except Exception JsNumber
  containsInsensitive : Text → Text → Bool
  numberOf_numberText : ∀ n : ℕ,
    numberOf (.string (numberText (some n))) = .ok (some (((n : ℚ) : WithTop ℚ)))

inductive CatalogSort where
  | newest
  | updated
  | installCount
  deriving DecidableEq

/-- A date in descending order: rows without one come first. -/
def PresetRow.publishedRank (row : PresetRow) : WithTop ℤ :=
  match row.publishedAt with
  | none => ⊤
  | some t => t

abbrev CatalogRank := (ℤ ×ₗ WithTop ℤ)ᵒᵈ

/-- What the rows are ordered by. -/
def CatalogSort.rank : CatalogSort → PresetRow → CatalogRank
  | .newest, row => OrderDual.toDual (toLex (0, row.publishedRank))
  | .updated, row => OrderDual.toDual (toLex (row.updatedAt, 0))
  | .installCount, row => OrderDual.toDual (toLex (row.installCount, row.publishedRank))

/-- How the database orders the rows of a query. -/
structure RowOrder where
  arrange : CatalogSort → List PresetRow → List PresetRow
  arranged : ∀ sort rows, Arranged sort.rank rows (arrange sort rows)

/-- A number that is an argument of a query. -/
def natOf : WithBot (WithTop ℚ) → Option ℕ
  | some (some n) => if n.isInt ∧ 0 ≤ n then some n.num.toNat else none
  | _ => none

def findMany (order : RowOrder) (sort : CatalogSort) (condition : PresetRow → Bool)
    (skip take : WithBot (WithTop ℚ)) (presets : List PresetRow) :
    Except Exception (List PresetRow) :=
  match natOf skip, natOf take with
  | some skip, some take =>
    .ok (((order.arrange sort (presets.filter condition)).drop skip).take take)
  | _, _ => .error .prismaValidation

structure CatalogPage where
  items : List PresetRow
  nextCursor : Option Text

section Listing

variable (env : CatalogEnv)

/-- `Number(value) || other`. -/
def numberOr (value : Option JsValue) (other : WithBot (WithTop ℚ)) :
    Except Exception (WithBot (WithTop ℚ)) :=
  match value with
  | none => .ok other
  | some value => do
      let n ← env.numberOf value
      match n with
      | none => return other
      | some n => return if n = ((0 : ℚ) : WithTop ℚ) then other else n

/-- `Math.min(Math.max(n, low), high)`. -/
def clampNumber (n : WithBot (WithTop ℚ)) (low high : ℚ) : ℚ :=
  match n with
  | none => low
  | some none => high
  | some (some n) => min (max n low) high

def readLimit (raw : Option JsValue) : Except Exception ℚ := do
  let n ← numberOr env (get raw "limit") ((24 : ℚ) : WithTop ℚ)
  return clampNumber n 1 50

def readOffset (raw : Option JsValue) : Except Exception (WithBot (WithTop ℚ)) :=
  numberOr env (get raw "cursor") ((0 : ℚ) : WithTop ℚ)

def readSort (raw : Option JsValue) : CatalogSort :=
  if isText (get raw "sort") "newest" then .newest
  else if isText (get raw "sort") "updated" then .updated
  else .installCount

/-- `this.normalizeTags([raw?.tag])[0] ?? null`; an undefined tag is skipped. -/
def readTag (raw : Option JsValue) : Except Exception (Option Text) := do
  let tags ← normalizeTags env.toPresetEnv (some (.array (get raw "tag").toList))
  return tags.head?

/-- `where`. -/
def inCatalog (raw : Option JsValue) (row : PresetRow) : Bool :=
  row.visibility = .public_ && row.disabledAt.isNone && row.moderationStatus = "approved" &&
    (match normalizeCategory env.toPresetEnv (get raw "category") with
    | none => true
    | some category => row.category = some category) &&
    (match normalizeText (get raw "q") 120 with
    | none => true
    | some q => env.containsInsensitive row.name q ||
        row.description.any (fun description => env.containsInsensitive description q) ||
        env.containsInsensitive row.buttonLabel q)

/-- The number of a sum of numbers, if it is finite. -/
def finitePart : WithBot (WithTop ℚ) → Option ℚ
  | some (some n) => some n
  | _ => none

def listCatalog (order : RowOrder) (raw : Option JsValue) (presets : List PresetRow) :
    Except Exception CatalogPage := do
  let limit ← readLimit env raw
  let offset ← readOffset env raw
  let tag ← readTag env raw
  if tag.isSome then
    throw (.badRequest "Tag filtering is not supported yet.")
  else
    let rows ← findMany order (readSort raw) (inCatalog env raw) offset ↑(↑(limit + 1) : WithTop ℚ)
      presets
    return { items := rows.take ⌊limit⌋.toNat
             nextCursor :=
               if limit < rows.length then
                 some (env.numberText ((finitePart offset).map fun n => n + limit))
               else none }

end Listing

/-! ## Following the cursor -/

/-- A table of presets. -/
structure PresetTable where
  rows : List PresetRow
  slugs : (rows.map fun row => row.slug).Nodup

theorem PresetTable.nodup (presets : PresetTable) : presets.rows.Nodup := presets.slugs.of_map

/-- A query without a cursor and, as there is no search for tags, without a tag. -/
structure CatalogQuery where
  members : Payload
  cursor_none : members.lookup "cursor" = none
  tag_none : members.lookup "tag" = none

/-- The query with the cursor of the page before. -/
def CatalogQuery.raw (query : CatalogQuery) : Option Text → Option JsValue
  | none => some (.object query.members)
  | some cursor => some (.object (("cursor", .string cursor) :: query.members))

/-- The pages that a client gets, up to the first one without a further cursor; the database
orders the rows anew for each of them. -/
inductive CatalogWalk (env : CatalogEnv) (query : CatalogQuery) (presets : List PresetRow)
    (orders : ℕ → RowOrder) : ℕ → Option Text → List (List PresetRow) → Prop where
  | last {n : ℕ} {cursor : Option Text} {items : List PresetRow}
      (h : listCatalog env (orders n) (query.raw cursor) presets = .ok ⟨items, none⟩) :
      CatalogWalk env query presets orders n cursor [items]
  | more {n : ℕ} {cursor : Option Text} {items : List PresetRow} {next : Text}
      {pages : List (List PresetRow)}
      (h : listCatalog env (orders n) (query.raw cursor) presets = .ok ⟨items, some next⟩)
      (hrest : CatalogWalk env query presets orders (n + 1) (some next) pages) :
      CatalogWalk env query presets orders n cursor (items :: pages)

/-- Whatever orders the database chooses, the pages have each matching preset once. -/
def ListsOnce (env : CatalogEnv) (query : CatalogQuery) (presets : PresetTable) : Prop :=
  ∀ orders : ℕ → RowOrder, ∃ pages, CatalogWalk env query presets.rows orders 0 none pages ∧
      pages.flatten.Perm (presets.rows.filter (inCatalog env (query.raw none)))

/-- The limit is a whole number, and no page ends between presets that are equal under the
order. -/
def PagesUntied (env : CatalogEnv) (query : CatalogQuery) (presets : PresetTable) : Prop :=
  ∃ limit : ℕ, readLimit env (query.raw none) = .ok (limit : ℚ) ∧
    ∀ k, Untied (readSort (query.raw none)).rank
      (presets.rows.filter (inCatalog env (query.raw none))) (k * limit)

section Walk

variable {env : CatalogEnv} {query : CatalogQuery} {presets : List PresetRow}
  {orders : ℕ → RowOrder}

theorem CatalogWalk.unique {n : ℕ} {cursor : Option Text} {pages pages' : List (List PresetRow)}
    (h : CatalogWalk env query presets orders n cursor pages)
    (h' : CatalogWalk env query presets orders n cursor pages') : pages = pages' := by
  induction h generalizing pages' with
  | last hpage =>
    cases h' with
    | last hpage' =>
      rw [hpage] at hpage'
      cases hpage'
      rfl
    | more hpage' hrest' =>
      rw [hpage] at hpage'
      cases hpage'
  | more hpage hrest ih =>
    cases h' with
    | last hpage' =>
      rw [hpage] at hpage'
      cases hpage'
    | more hpage' hrest' =>
      rw [hpage] at hpage'
      cases hpage'
      rw [ih hrest']

/-- Only the cursor is read from what a page adds to the query. -/
theorem get_raw (key : String) (hkey : key ≠ "cursor") (cursor : Option Text) :
    get (query.raw cursor) key = get (query.raw none) key := by
  cases cursor with
  | none => rfl
  | some cursor =>
    show List.lookup key (("cursor", .string cursor) :: query.members) = query.members.lookup key
    rw [List.lookup_cons, beq_false_of_ne hkey]

variable (cursor : Option Text)

theorem readLimit_raw : readLimit env (query.raw cursor) = readLimit env (query.raw none) := by
  unfold readLimit
  rw [get_raw "limit" (by decide)]

theorem readSort_raw : readSort (query.raw cursor) = readSort (query.raw none) := by
  unfold readSort
  rw [get_raw "sort" (by decide)]

theorem inCatalog_raw : inCatalog env (query.raw cursor) = inCatalog env (query.raw none) := by
  unfold inCatalog
  rw [get_raw "category" (by decide) cursor, get_raw "q" (by decide) cursor]

theorem readTag_raw : readTag env (query.raw cursor) = .ok none := by
  have htag : get (query.raw none) "tag" = none := query.tag_none
  unfold readTag
  rw [get_raw "tag" (by decide), htag]
  rfl

/-- The cursor of the page with the number `n`. -/
def cursorAt (env : CatalogEnv) (limit n : ℕ) : Option Text :=
  if n = 0 then none else some (env.numberText (some ((n * limit : ℕ) : ℚ)))

variable {limit : ℕ}

theorem readOffset_cursorAt (hlimit : 0 < limit) (n : ℕ) :
    readOffset env (query.raw (cursorAt env limit n)) =
      .ok (((n * limit : ℕ) : ℚ) : WithTop ℚ) := by
  unfold cursorAt readOffset
  by_cases hn : n = 0
  · rw [if_pos hn, hn, Nat.zero_mul]
    have hcursor : get (query.raw none) "cursor" = none := query.cursor_none
    rw [hcursor]
    rfl
  rw [if_neg hn]
  have hpos : ((((n * limit : ℕ) : ℚ) : WithTop ℚ) : WithBot (WithTop ℚ)) ≠
      ((0 : ℚ) : WithTop ℚ) := by
    intro hzero
    have hrat : ((n * limit : ℕ) : ℚ) = 0 :=
      WithTop.coe_injective (WithBot.coe_injective hzero)
    rcases Nat.mul_eq_zero.mp (Nat.cast_eq_zero.mp hrat) with hn' | hlimit'
    · exact hn hn'
    · omega
  refine bind_eq_ok_iff.mpr ⟨_, env.numberOf_numberText (n * limit), ?_⟩
  exact congrArg Except.ok (if_neg hpos)

/-! ## Pages -/

theorem natOf_natCast (n : ℕ) : natOf (((n : ℚ) : WithTop ℚ)) = some n := by
  show (if (n : ℚ).isInt ∧ (0 : ℚ) ≤ n then some (n : ℚ).num.toNat else none) = some n
  have hint : (n : ℚ).isInt = true := by
    rfl
  rw [if_pos ⟨hint, Nat.cast_nonneg n⟩, Rat.num_natCast, Int.toNat_natCast]

theorem eq_natCast_of_natOf {x : ℚ} {n : ℕ} (h : natOf ((x : WithTop ℚ)) = some n) : x = n := by
  have hif : (if x.isInt ∧ 0 ≤ x then some x.num.toNat else none) = some n := h
  split at hif
  · rename_i hint
    have hnum : ((x.num.toNat : ℤ) : ℚ) = x := by
      rw [Int.toNat_of_nonneg (Rat.num_nonneg.mpr hint.2)]
      exact Rat.coe_int_num_of_den_eq_one (by simpa [Rat.isInt] using hint.1)
    rw [← hnum, ← Option.some.inj hif]
    rfl
  · cases hif

theorem readLimit_bounds {raw : Option JsValue} {limit : ℚ}
    (h : readLimit env raw = .ok limit) : 1 ≤ limit ∧ limit ≤ 50 := by
  obtain ⟨n, -, hlimit⟩ := bind_eq_ok_iff.mp h
  cases hlimit
  unfold clampNumber
  rcases n with _ | _ | n
  · norm_num
  · norm_num
  · exact ⟨le_min (le_max_right n 1) (by norm_num), min_le_right _ _⟩

theorem limit_pos {raw : Option JsValue} (h : readLimit env raw = .ok (limit : ℚ)) : 0 < limit := by
  have hone : ((1 : ℕ) : ℚ) ≤ limit := by
    exact (readLimit_bounds h).1
  exact Nat.cast_le.mp hone

/-- The matching presets in the order of the `n`-th query. -/
def ordered (env : CatalogEnv) (query : CatalogQuery) (presets : List PresetRow)
    (orders : ℕ → RowOrder) (n : ℕ) : List PresetRow :=
  (orders n).arrange (readSort (query.raw none)) (presets.filter (inCatalog env (query.raw none)))

theorem listCatalog_page (hlimit : readLimit env (query.raw none) = .ok (limit : ℚ)) (n : ℕ) :
    listCatalog env (orders n) (query.raw (cursorAt env limit n)) presets =
      .ok ⟨page limit n (ordered env query presets orders n),
        if (ordered env query presets orders n).length ≤ (n + 1) * limit then none
        else cursorAt env limit (n + 1)⟩ := by
  have hpos := limit_pos hlimit
  have htake : (((limit : ℚ) + 1 : ℚ) : WithTop ℚ) = (((limit + 1 : ℕ) : ℚ) : WithTop ℚ) := by
    rw [Nat.cast_add, Nat.cast_one]
  have hrows : findMany (orders n) (readSort (query.raw none)) (inCatalog env (query.raw none))
      (((n * limit : ℕ) : ℚ) : WithTop ℚ) (((limit : ℚ) + 1 : ℚ) : WithTop ℚ) presets =
        .ok (((ordered env query presets orders n).drop (n * limit)).take (limit + 1)) := by
    unfold findMany
    rw [htake, natOf_natCast, natOf_natCast]
    rfl
  unfold listCatalog
  rw [readLimit_raw, readSort_raw, inCatalog_raw, readTag_raw, hlimit, readOffset_cursorAt hpos n]
  refine bind_eq_ok_iff.mpr ⟨_, rfl, bind_eq_ok_iff.mpr ⟨_, rfl, bind_eq_ok_iff.mpr ⟨_, rfl, ?_⟩⟩⟩
  refine bind_eq_ok_iff.mpr ⟨_, hrows, congrArg Except.ok ?_⟩
  have hitems : (((ordered env query presets orders n).drop (n * limit)).take (limit + 1)).take
      limit = page limit n (ordered env query presets orders n) := by
    rw [List.take_take, min_eq_left (Nat.le_succ limit)]
    rfl
  have hnext : (limit : ℚ) <
      ((((ordered env query presets orders n).drop (n * limit)).take (limit + 1)).length : ℕ) ↔
      ¬ (ordered env query presets orders n).length ≤ (n + 1) * limit := by
    rw [Nat.cast_lt, List.length_take, List.length_drop, Nat.succ_mul]
    omega
  congr 1
  by_cases hlast : (ordered env query presets orders n).length ≤ (n + 1) * limit
  · rw [if_pos hlast, if_neg (fun hlt => hnext.mp hlt hlast)]
  rw [if_neg hlast, if_pos (hnext.mpr hlast)]
  unfold cursorAt
  rw [if_neg (Nat.succ_ne_zero n)]
  show some (env.numberText (some (((n * limit : ℕ) : ℚ) + limit))) = _
  rw [Nat.succ_mul, Nat.cast_add (n * limit) limit]

theorem ordered_arranged (n : ℕ) : Arranged (readSort (query.raw none)).rank
      (presets.filter (inCatalog env (query.raw none))) (ordered env query presets orders n) :=
  (orders n).arranged _ _

/-- The pages that follow the one with the number `n`. -/
theorem catalogWalk_pages (hlimit : readLimit env (query.raw none) = .ok (limit : ℚ))
    {len : ℕ} (hlen : (presets.filter (inCatalog env (query.raw none))).length = len)
    (b n : ℕ) (hend : len ≤ (n + b + 1) * limit)
    (hmore : ∀ m, n ≤ m → m < n + b → ¬ len ≤ (m + 1) * limit) :
    CatalogWalk env query presets orders n (cursorAt env limit n)
      ((List.range' n (b + 1)).map fun k => page limit k (ordered env query presets orders k)) := by
  have hpage : ∀ n, listCatalog env (orders n) (query.raw (cursorAt env limit n)) presets =
      .ok ⟨page limit n (ordered env query presets orders n),
        if len ≤ (n + 1) * limit then none else cursorAt env limit (n + 1)⟩ := by
    intro n
    have hordered : (ordered env query presets orders n).length = len :=
      (ordered_arranged n).perm.length_eq.trans hlen
    rw [← hordered]
    exact listCatalog_page hlimit n
  induction b generalizing n with
  | zero =>
    have hlast := hpage n
    rw [if_pos hend] at hlast
    exact .last hlast
  | succ b ih =>
    have hnext := hpage n
    rw [if_neg (hmore n (Nat.le_refl n) (by omega))] at hnext
    refine .more hnext ?_
    refine ih (n + 1) (by rw [Nat.add_right_comm n 1 b]; exact hend) ?_
    intro m hm hlt
    exact hmore m (by omega) (by omega)

/-- The walk ends, with the pages of the orders that the database has chosen. -/
theorem exists_catalogWalk (presets : List PresetRow)
    (hlimit : readLimit env (query.raw none) = .ok (limit : ℚ)) (hpos : 0 < limit) :
    ∃ count, (presets.filter (inCatalog env (query.raw none))).length ≤ count * limit ∧
      ∀ orders : ℕ → RowOrder, CatalogWalk env query presets orders 0 none
        ((List.range count).map fun k => page limit k (ordered env query presets orders k)) := by
  generalize hlen : (presets.filter (inCatalog env (query.raw none))).length = len
  have hdiv : (len - 1) / limit * limit ≤ len - 1 := Nat.div_mul_le_self _ _
  have hend : len ≤ (0 + (len - 1) / limit + 1) * limit := by
    have hlt : len - 1 < (len - 1) / limit * limit + limit := Nat.lt_div_mul_add hpos
    rw [Nat.zero_add, Nat.succ_mul]
    omega
  refine ⟨(len - 1) / limit + 1, by rw [Nat.zero_add] at hend; exact hend, ?_⟩
  intro orders
  rw [List.range_eq_range']
  refine catalogWalk_pages hlimit hlen ((len - 1) / limit) 0 hend ?_
  intro m _ hm hle
  -- before the last page there are rows left
  have hmul : (m + 1) * limit ≤ (len - 1) / limit * limit := Nat.mul_le_mul_right limit (by omega)
  have hsome : limit ≤ (m + 1) * limit := Nat.le_mul_of_pos_left limit (Nat.succ_pos m)
  omega

/-- A listing that succeeds has a whole number as its limit. -/
theorem exists_limit_of_listCatalog {order : RowOrder} {result : CatalogPage}
    (h : listCatalog env order (query.raw none) presets = .ok result) :
    ∃ limit : ℕ, readLimit env (query.raw none) = .ok (limit : ℚ) := by
  obtain ⟨limit, hlimit, h⟩ := bind_eq_ok_iff.mp h
  obtain ⟨offset, -, h⟩ := bind_eq_ok_iff.mp h
  obtain ⟨tag, -, h⟩ := bind_eq_ok_iff.mp h
  split at h
  · cases h
  obtain ⟨rows, hrows, -⟩ := bind_eq_ok_iff.mp h
  unfold findMany at hrows
  split at hrows
  · rename_i skip take _ htake
    have hsum : limit + 1 = take := eq_natCast_of_natOf htake
    have hone := (readLimit_bounds hlimit).1
    refine ⟨take - 1, ?_⟩
    have htwo : 1 ≤ take := by
      have hle : ((1 : ℕ) : ℚ) ≤ take := by
        rw [Nat.cast_one]
        linarith
      exact Nat.cast_le.mp hle
    rw [hlimit, Nat.cast_sub htwo, ← hsum, Nat.cast_one, add_sub_cancel_right]
  · cases hrows

end Walk

/-- For every search, sort and limit the catalog is listed once, whatever orders the database
chooses, exactly where no page ends between equal presets. -/
theorem listsOnce_iff (env : CatalogEnv) (query : CatalogQuery) (presets : PresetTable) :
    ListsOnce env query presets ↔ PagesUntied env query presets := by
  have hnodup : (presets.rows.filter (inCatalog env (query.raw none))).Nodup :=
    presets.nodup.filter _
  constructor
  · intro h
    have hdefault : RowOrder :=
      ⟨fun sort => sortRows sort.rank, fun sort => arranged_insertionSort sort.rank⟩
    obtain ⟨limit, hlimit⟩ : ∃ limit : ℕ, readLimit env (query.raw none) = .ok (limit : ℚ) := by
      obtain ⟨pages, hwalk, -⟩ := h fun _ => hdefault
      cases hwalk with
      | last hpage | more hpage hrest => exact exists_limit_of_listCatalog hpage
    have hpos := limit_pos hlimit
    refine ⟨limit, hlimit, ?_⟩
    obtain ⟨count, hcount, hwalks⟩ := exists_catalogWalk presets.rows hlimit hpos
    refine (pages_perm_iff hnodup hcount).mp ?_
    intro lists hlists
    classical
    -- a database that orders the matching presets in this way
    let orders : ℕ → RowOrder := fun k =>
      ⟨fun sort rows => if sort = readSort (query.raw none) ∧
          rows = presets.rows.filter (inCatalog env (query.raw none)) then lists k
        else hdefault.arrange sort rows,
      fun sort rows => by
        split
        · grind
        · exact hdefault.arranged sort rows⟩
    have hordered : ∀ k, ordered env query presets.rows orders k = lists k :=
      fun k => if_pos ⟨rfl, rfl⟩
    obtain ⟨pages, hwalk, hperm⟩ := h orders
    rw [hwalk.unique (hwalks orders)] at hperm
    simp only [hordered] at hperm
    exact hperm
  · rintro ⟨limit, hlimit, huntied⟩ orders
    have hpos := limit_pos hlimit
    obtain ⟨count, hcount, hwalks⟩ := exists_catalogWalk presets.rows hlimit hpos
    refine ⟨_, hwalks orders, ?_⟩
    exact (pages_perm_iff hnodup hcount).mpr huntied _ fun k => ordered_arranged k

/-! ## Two presets of one moment -/

/-- `Number` of the values that a query has here: whole numbers in decimal digits. -/
def plainNumberOf : JsValue → JsNumber
  | .string digits =>
    if digits ≠ [] ∧ digits.all Char.isDigit then
      some ((((Nat.ofDigitChars 10 digits 0 : ℕ) : ℚ) : WithTop ℚ) : WithBot (WithTop ℚ))
    else none
  | _ => none

theorem plainNumberOf_toDigits (n : ℕ) : plainNumberOf (.string (Nat.toDigits 10 n)) =
      some (((n : ℚ) : WithTop ℚ) : WithBot (WithTop ℚ)) := by
  have hdigits : (Nat.toDigits 10 n).all Char.isDigit = true := by
    refine List.all_eq_true.mpr ?_
    intro c hc
    exact Nat.isDigit_of_mem_toDigits (by norm_num) (by norm_num) hc
  show (if _ then _ else _) = _
  rw [if_pos ⟨Nat.toDigits_ne_nil, hdigits⟩, Nat.ofDigitChars_ten_toDigits]

def plainCatalogEnv : CatalogEnv where
  numberText
    | some n => Nat.toDigits 10 n.num.toNat
    | none => "NaN".toList
  otherDates := fun _ => none
  letterCase := Logs.asciiCase
  numberOf value := .ok (plainNumberOf value)
  containsInsensitive value q :=
    decide (Logs.asciiCase.toLowerCase q <:+: Logs.asciiCase.toLowerCase value)
  numberOf_numberText n := by
    show Except.ok (plainNumberOf (.string (Nat.toDigits 10 ((n : ℚ).num.toNat)))) = _
    rw [Rat.num_natCast, Int.toNat_natCast, plainNumberOf_toDigits]

/-- A public preset that nobody has installed. -/
def twin (slug : Text) : PresetRow where
  ownerUserId := "alice"
  sourceScenarioId := ['a']
  slug := slug
  name := "Explain".toList
  description := none
  buttonLabel := "Explain".toList
  icon := none
  visibility := .public_
  category := none
  tags := []
  publishedAt := some 0
  moderationStatus := "approved"
  sourceLanguage := none
  targetLanguage := none
  configJson := .null
  installCount := 0
  createdAt := 0
  updatedAt := 0
  disabledAt := none

def twins : PresetTable := ⟨[twin ['a'], twin ['b']], by decide⟩

def oneAtATime : CatalogQuery := ⟨[("limit", text "1")], rfl, rfl⟩

/-- The second query gives equal rows in the opposite order. -/
def turned (n : ℕ) : RowOrder where
  arrange sort rows := sortRows sort.rank (if n = 0 then rows else rows.reverse)
  arranged sort rows := by
    split
    · exact arranged_insertionSort sort.rank rows
    · have h := arranged_insertionSort sort.rank rows.reverse
      exact ⟨h.perm.trans rows.reverse_perm, h.sorted⟩

/-- The first of two equal presets is listed twice, and the second not at all. -/
theorem twins_not_listedOnce : ¬ ListsOnce plainCatalogEnv oneAtATime twins := by
  intro h
  obtain ⟨pages, hwalk, hperm⟩ := h turned
  have hlimit : readLimit plainCatalogEnv (oneAtATime.raw none) = .ok ((1 : ℕ) : ℚ) := by
    decide +kernel
  have hlen : (twins.rows.filter (inCatalog plainCatalogEnv (oneAtATime.raw none))).length = 2 := rfl
  have hpages : CatalogWalk plainCatalogEnv oneAtATime twins.rows turned 0 none _ :=
    catalogWalk_pages hlimit hlen 1 0 (by decide) (by omega)
  have htwice : pages = [[twin ['a']], [twin ['a']]] := by
    rw [hwalk.unique hpages]
    rfl
  rw [htwice] at hperm
  have hmem : twin ['b'] ∈ [twin ['a'], twin ['a']] := hperm.mem_iff.mpr (by
    show twin ['b'] ∈ [twin ['a'], twin ['b']]
    simp)
  have hslug : (['b'] : Text) = ['a'] := by
    rcases List.mem_cons.mp hmem with heq | hmem
    · exact congrArg PresetRow.slug heq
    · exact congrArg PresetRow.slug (List.mem_singleton.mp hmem)
  exact absurd hslug (by decide)

end QuizMind.Scenarios

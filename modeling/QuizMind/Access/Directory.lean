import QuizMind.Auth.Store
import QuizMind.History.IsoDate
import QuizMind.Table.Keyset
import QuizMind.Text.Base64Url
import QuizMind.Text.JsonText
import Mathlib.Data.String.Basic
import Mathlib.Data.Int.ConditionallyCompleteOrder

/-! # The directory of users

`UserRepository.listWithFilters`: the users that match a filter, in one of four orders. With a
page number a page is counted off; without one a page has the users behind the user a cursor
names.

A user stands behind another in an order exactly when a key of the user is the greater one
(`exists_followsKey`), and a cursor is read as it was written unless it names a user whose id is blank
(`decodeCursor_encodeCursor`, `decodeCursor_of_blank`). So the pages from no cursor on are the
matching users in their order, cut into pieces (`listWithFilters_enumerates`).
-/

namespace QuizMind.Directory

open OrderDual (toDual toDual_inj toDual_lt_toDual)
open String (ofList toList)
open Table (isLE_then_iff select)

/-! ## Users -/

/-- A date of a row, with the bounds of a `Date`. -/
structure DateTime where
  ms : ℤ
  low : -History.maxTime ≤ ms
  high : ms ≤ History.maxTime
  deriving DecidableEq

/-- The columns of a user that filters, orders and cursors read. -/
structure AuthUserRecord where
  id : String
  email : String
  displayName : Option String
  suspendedAt : Option DateTime
  emailVerifiedAt : Option DateTime
  lastLoginAt : Option DateTime
  createdAt : DateTime
  systemRoleAssignments : List SystemRole

inductive AdminUserSort where
  | createdDesc
  | createdAsc
  | loginDesc
  | emailAsc
  deriving DecidableEq

def AdminUserSort.text : AdminUserSort → String
  | .createdDesc => "created-desc"
  | .createdAsc => "created-asc"
  | .loginDesc => "login-desc"
  | .emailAsc => "email-asc"

inductive RoleFilter where
  | admin
  | user
  deriving DecidableEq

/-- A page is a finite number; any other number is as none. -/
structure AdminUserListFilters where
  query : Option String
  role : Option RoleFilter
  banned : Option Bool
  verified : Option Bool
  sort : Option AdminUserSort
  page : Option ℤ
  limit : ℕ
  cursor : Option String

structure CursorPayload where
  s : AdminUserSort
  c : Option String
  i : String

structure AdminUserListResult where
  items : List AuthUserRecord
  total : Option ℕ
  hasNext : Bool
  nextCursor : Option String

/-- How the database reads texts: by which total order it compares them, and which text
contains which. -/
structure Collation (κ : Type) where
  key : String → κ
  injective : Function.Injective key
  contains : String → String → Bool
  containsInsensitive : String → String → Bool

/-- What is left open of reading texts: the text of bytes that are not UTF-8, and the date of a
text that is not one of `toISOString`. -/
structure TextReading where
  replaced : List UInt8 → List Char
  otherDates : List Char → Option ℤ

/-! ## Cursors -/

section Cursor

variable (node : TextReading)

/-- `Date.parse(text)`, and the time of `new Date(text)`. -/
def TextReading.dateOf (text : String) : Option ℤ :=
  History.dateParse node.otherDates text.toList

def encodeCursor (payload : CursorPayload) : String :=
  ofList (Base64Url.encode (Base64Url.toUtf8 (JsonText.writeRecord
    [("s".toList, some payload.s.text.toList), ("c".toList, payload.c.map toList),
      ("i".toList, some payload.i.toList)])))

/-- The sort a member names. -/
def sortMember : Option JsonText.Value → Option AdminUserSort
  | some (.string text) =>
    if text = "created-desc".toList then some .createdDesc
    else if text = "created-asc".toList then some .createdAsc
    else if text = "login-desc".toList then some .loginDesc
    else if text = "email-asc".toList then some .emailAsc
    else none
  | _ => none

/-- A string that is not blank. -/
def idMember : Option JsonText.Value → Option String
  | some (.string text) =>
    if jsTrim (ofList text) = "" then none else some (ofList text)
  | _ => none

/-- A string or null. -/
def columnMember : Option JsonText.Value → Option (Option String)
  | some (.string text) => some (some (ofList text))
  | some .null => some none
  | _ => none

/-- The column of a cursor fits its sort. -/
def columnFits (s : AdminUserSort) (c : Option String) : Bool :=
  match s, c with
  | .createdDesc, none => false
  | .createdAsc, none => false
  | .loginDesc, none => true
  | .emailAsc, none => false
  | .createdDesc, some text => (node.dateOf text).isSome
  | .createdAsc, some text => (node.dateOf text).isSome
  | .loginDesc, some text => (node.dateOf text).isSome
  | .emailAsc, some _ => true

def decodeCursor (cursor : String) : Option CursorPayload :=
  match JsonText.parse (Base64Url.ofUtf8 node.replaced (Base64Url.decode cursor.toList)) with
  | some (.object members) => do
      let s ← sortMember (JsonText.Value.member members "s".toList)
      let i ← idMember (JsonText.Value.member members "i".toList)
      let c ← columnMember (JsonText.Value.member members "c".toList)
      if columnFits node s c then some { s := s, c := c, i := i } else none
  | _ => none

/-- The members of a cursor's text. -/
def cursorMembers (payload : CursorPayload) : List (List Char × JsonText.Value) :=
  [("s".toList, .string payload.s.text.toList),
    ("c".toList, JsonText.scalarValue (payload.c.map toList)),
    ("i".toList, .string payload.i.toList)]

theorem parse_encodeCursor (payload : CursorPayload) :
    JsonText.parse (Base64Url.ofUtf8 node.replaced
      (Base64Url.decode (encodeCursor payload).toList)) =
        some (.object (cursorMembers payload)) := by
  unfold encodeCursor
  rw [String.toList_ofList, Base64Url.decode_encode, Base64Url.ofUtf8_toUtf8]
  exact JsonText.parse_record (List.cons_ne_nil _ _)

theorem sortMember_text (sort : AdminUserSort) :
    sortMember (some (.string sort.text.toList)) = some sort := by
  cases sort with
  | _ => rfl

theorem idMember_string (i : String) :
    idMember (some (.string i.toList)) = if jsTrim i = "" then none else some i := by
  show (if jsTrim (ofList i.toList) = "" then none else some (ofList i.toList)) = _
  rw [String.ofList_toList]

theorem columnMember_scalarValue (c : Option String) :
    columnMember (some (JsonText.scalarValue (c.map toList))) = some c := by
  cases c with
  | none => rfl
  | some text =>
    show some (some (ofList text.toList)) = _
    rw [String.ofList_toList]

/-- A cursor is read as it was written, unless its id is blank or its column does not fit. -/
theorem decodeCursor_encodeCursor (payload : CursorPayload) :
    decodeCursor node (encodeCursor payload) =
      if jsTrim payload.i ≠ "" ∧ columnFits node payload.s payload.c = true then some payload
      else none := by
  have hs : JsonText.Value.member (cursorMembers payload) "s".toList =
      some (.string payload.s.text.toList) := rfl
  have hi : JsonText.Value.member (cursorMembers payload) "i".toList =
      some (.string payload.i.toList) := rfl
  have hc : JsonText.Value.member (cursorMembers payload) "c".toList =
      some (JsonText.scalarValue (payload.c.map toList)) := rfl
  unfold decodeCursor
  rw [parse_encodeCursor]
  show (do
    let s ← sortMember (JsonText.Value.member (cursorMembers payload) "s".toList)
    let i ← idMember (JsonText.Value.member (cursorMembers payload) "i".toList)
    let c ← columnMember (JsonText.Value.member (cursorMembers payload) "c".toList)
    if columnFits node s c then some { s := s, c := c, i := i } else none :
      Option CursorPayload) = _
  rw [hs, hi, hc, sortMember_text, columnMember_scalarValue, idMember_string]
  by_cases hid : jsTrim payload.i = ""
  all_goals simp [hid]

theorem decodeCursor_of_blank {payload : CursorPayload} (h : jsTrim payload.i = "") :
    decodeCursor node (encodeCursor payload) = none := by
  rw [decodeCursor_encodeCursor, if_neg fun hread => hread.1 h]

end Cursor

/-! ## Listing -/

section Listing

variable {κ : Type} [LinearOrder κ] (db : Collation κ) (node : TextReading)

/-- `if (filters.query)` and its three conditions. -/
def matchesQuery (query : Option String) (user : AuthUserRecord) : Bool :=
  match query with
  | none => true
  | some text =>
    text = "" || (db.containsInsensitive user.email (jsTrim text) ||
      (user.displayName.any fun name => db.containsInsensitive name (jsTrim text)) ||
      db.contains user.id (jsTrim text))

/-- A condition that a date is set, or is not. -/
def matchesDate (wanted : Option Bool) (date : Option DateTime) : Bool :=
  match wanted with
  | none => true
  | some set => date.isSome == set

def matchesRole (role : Option RoleFilter) (user : AuthUserRecord) : Bool :=
  match role with
  | none => true
  | some .admin => !user.systemRoleAssignments.isEmpty
  | some .user => user.systemRoleAssignments.isEmpty

def buildWhere (filters : AdminUserListFilters) (user : AuthUserRecord) : Bool :=
  matchesQuery db filters.query user && matchesDate filters.banned user.suspendedAt &&
    matchesDate filters.verified user.emailVerifiedAt && matchesRole filters.role user

/-- A column in descending order, the users without a value last. -/
def descNullsLast (column : AuthUserRecord → Option ℤ) (a b : AuthUserRecord) : Ordering :=
  match column a, column b with
  | some x, some y => compare y x
  | some _, none => .lt
  | none, some _ => .gt
  | none, none => .eq

def lastLogin (user : AuthUserRecord) : Option ℤ := user.lastLoginAt.map DateTime.ms

/-- The columns of `orderBy`. -/
def getOrderBy : AdminUserSort → List (AuthUserRecord → AuthUserRecord → Ordering)
  | .createdAsc =>
    [fun a b => compare a.createdAt.ms b.createdAt.ms,
      fun a b => compare (db.key a.id) (db.key b.id)]
  | .loginDesc => [descNullsLast lastLogin, fun a b => compare (db.key b.id) (db.key a.id)]
  | .emailAsc =>
    [fun a b => compare (db.key a.email) (db.key b.email),
      fun a b => compare (db.key a.id) (db.key b.id)]
  | .createdDesc =>
    [fun a b => compare b.createdAt.ms a.createdAt.ms,
      fun a b => compare (db.key b.id) (db.key a.id)]

/-- The first comparison that tells the users apart decides. -/
def compareBy (a b : AuthUserRecord) : List (AuthUserRecord → AuthUserRecord → Ordering) → Ordering
  | [] => .eq
  | column :: columns => (column a b).then (compareBy a b columns)

/-- The users stand in the order of `getOrderBy`. -/
def InOrder (sort : AdminUserSort) (a b : AuthUserRecord) : Prop :=
  (compareBy a b (getOrderBy db sort)).isLE = true

instance (sort : AdminUserSort) : DecidableRel (InOrder db sort) :=
  fun _ _ => inferInstanceAs (Decidable (_ = true))

/-- The time of `new Date(text)`, of a text that `decodeCursor` has read as a date. -/
def cursorTime (text : String) : ℤ := (node.dateOf text).getD 0

def buildCursorWhere (sort : AdminUserSort) (payload : CursorPayload) (user : AuthUserRecord) :
    Bool :=
  match sort with
  | .createdDesc =>
    let createdAt := cursorTime node (payload.c.getD "")
    decide (user.createdAt.ms < createdAt) ||
      (user.createdAt.ms == createdAt && decide (db.key user.id < db.key payload.i))
  | .createdAsc =>
    let createdAt := cursorTime node (payload.c.getD "")
    decide (createdAt < user.createdAt.ms) ||
      (user.createdAt.ms == createdAt && decide (db.key payload.i < db.key user.id))
  | .emailAsc =>
    let email := payload.c.getD ""
    decide (db.key email < db.key user.email) ||
      (user.email == email && decide (db.key payload.i < db.key user.id))
  | .loginDesc =>
    if payload.c.getD "" = "" then
      user.lastLoginAt.isNone && decide (db.key user.id < db.key payload.i)
    else
      let time := cursorTime node (payload.c.getD "")
      ((lastLogin user).any fun login => decide (login < time)) ||
        (lastLogin user == some time && decide (db.key user.id < db.key payload.i)) ||
        user.lastLoginAt.isNone

/-- What the cursor behind a user says. -/
def payloadOf (sort : AdminUserSort) (lastItem : AuthUserRecord) : CursorPayload where
  s := sort
  c :=
    match sort with
    | .emailAsc => some lastItem.email
    | .loginDesc => lastItem.lastLoginAt.map fun date => ofList (History.toISOString date.ms)
    | .createdDesc => some (ofList (History.toISOString lastItem.createdAt.ms))
    | .createdAsc => some (ofList (History.toISOString lastItem.createdAt.ms))
  i := lastItem.id

/-- The condition of a page; a cursor that is not of the sort is left aside. -/
def cursorCondition (filters : AdminUserListFilters) (baseWhere : AuthUserRecord → Bool)
    (sort : AdminUserSort) : AuthUserRecord → Bool :=
  match decodeCursor node (filters.cursor.getD "") with
  | some payload =>
    if payload.s = sort then
      fun user => baseWhere user && buildCursorWhere db node sort payload user
    else baseWhere
  | none => baseWhere

/-- The page of the users that were found, one more than the page has room for. -/
def cursorResult (limit : ℕ) (sort : AdminUserSort) (items : List AuthUserRecord) :
    AdminUserListResult :=
  let hasNext := decide (limit < items.length)
  let pageItems := if hasNext then items.take limit else items
  { items := pageItems
    total := none
    hasNext := hasNext
    nextCursor :=
      if hasNext then pageItems.getLast?.map fun lastItem => encodeCursor (payloadOf sort lastItem)
      else none }

def listWithCursor (filters : AdminUserListFilters) (baseWhere : AuthUserRecord → Bool)
    (sort : AdminUserSort) (users : List AuthUserRecord) : AdminUserListResult :=
  cursorResult filters.limit sort
    (select (InOrder db sort) (cursorCondition db node filters baseWhere sort)
      (filters.limit + 1) users)

/-- `getOrderBy(sort)` on the whole table, from `skip` on. -/
def listPage (filters : AdminUserListFilters) (condition : AuthUserRecord → Bool)
    (sort : AdminUserSort) (page : ℤ) (users : List AuthUserRecord) : AdminUserListResult :=
  let page := (max 1 page).toNat
  let sorted := (users.filter condition).insertionSort (InOrder db sort)
  let total := users.countP condition
  { items := (sorted.drop ((page - 1) * filters.limit)).take filters.limit
    total := some total
    hasNext := decide (page * filters.limit < total)
    nextCursor := none }

def listWithFilters (filters : AdminUserListFilters) (users : List AuthUserRecord) :
    AdminUserListResult :=
  let condition := buildWhere db filters
  let sort := filters.sort.getD .createdDesc
  match filters.page with
  | some page =>
    -- an empty cursor is as none
    if filters.cursor.getD "" = "" then listPage db filters condition sort page users
    else listWithCursor db node filters condition sort users
  | none => listWithCursor db node filters condition sort users

/-! ## Keys of the orders -/

theorem dateOf_toISOString (date : DateTime) :
    node.dateOf (ofList (History.toISOString date.ms)) = some date.ms := by
  unfold TextReading.dateOf
  rw [String.toList_ofList]
  exact History.dateParse_toISOString node.otherDates date.low date.high

theorem cursorTime_toISOString (date : DateTime) :
    cursorTime node (ofList (History.toISOString date.ms)) = date.ms := by
  unfold cursorTime
  rw [dateOf_toISOString, Option.getD_some]

variable {lastItem : AuthUserRecord}

/-- The cursor behind a user is read unless the user's id is blank. -/
theorem decodeCursor_payloadOf (sort : AdminUserSort) (hid : jsTrim lastItem.id ≠ "") :
    decodeCursor node (encodeCursor (payloadOf sort lastItem)) = some (payloadOf sort lastItem) := by
  have hfits : columnFits node (payloadOf sort lastItem).s (payloadOf sort lastItem).c = true := by
    cases sort with
    | createdDesc | createdAsc =>
      show (node.dateOf _).isSome = true
      rw [dateOf_toISOString]
      rfl
    | loginDesc =>
      show columnFits node .loginDesc (lastItem.lastLoginAt.map _) = true
      cases lastItem.lastLoginAt with
      | none => rfl
      | some date =>
        show (node.dateOf _).isSome = true
        rw [dateOf_toISOString]
        rfl
    | emailAsc => rfl
  rw [decodeCursor_encodeCursor, if_pos ⟨hid, hfits⟩]

/-- An order and its cursors follow one key, in which no two ids agree. -/
structure FollowsKey {δ : Type} [LinearOrder δ] (sort : AdminUserSort)
    (rank : AuthUserRecord → δ) : Prop where
  order : ∀ a b, InOrder db sort a b ↔ rank a ≤ rank b
  id_eq : ∀ a b, rank a = rank b → a.id = b.id
  after : ∀ lastItem user, buildCursorWhere db node sort (payloadOf sort lastItem) user = true ↔
    rank lastItem < rank user

/-- Users of different ids have different keys. -/
theorem FollowsKey.pairwise_ne {db : Collation κ} {node : TextReading} {δ : Type} [LinearOrder δ]
    {sort : AdminUserSort} {rank : AuthUserRecord → δ} (h : FollowsKey db node sort rank)
    {users : List AuthUserRecord} (hids : (users.map AuthUserRecord.id).Nodup) :
    users.Pairwise fun a b => rank a ≠ rank b := by
  refine (List.pairwise_map.mp hids).imp ?_
  intro a b hne heq
  exact hne (h.id_eq a b heq)

def createdDescRank (user : AuthUserRecord) : ℤᵒᵈ ×ₗ κᵒᵈ :=
  toLex (toDual user.createdAt.ms, toDual (db.key user.id))

def createdAscRank (user : AuthUserRecord) : ℤ ×ₗ κ := toLex (user.createdAt.ms, db.key user.id)

/-- The users that never logged in come last. -/
def lastLoginRank (user : AuthUserRecord) : WithTop ℤᵒᵈ := (lastLogin user).map toDual

def loginDescRank (user : AuthUserRecord) : WithTop ℤᵒᵈ ×ₗ κᵒᵈ :=
  toLex (lastLoginRank user, toDual (db.key user.id))

def emailAscRank (user : AuthUserRecord) : κ ×ₗ κ := toLex (db.key user.email, db.key user.id)

theorem followsKey_createdDesc : FollowsKey db node .createdDesc (createdDescRank db) where
  order a b := by
    have htwo := isLE_then_iff (toDual a.createdAt.ms)
      (toDual b.createdAt.ms) (toDual (db.key a.id))
      (toDual (db.key b.id))
    show ((compare b.createdAt.ms a.createdAt.ms).then
      ((compare (db.key b.id) (db.key a.id)).then .eq)).isLE = true ↔ _
    rw [Ordering.then_eq]
    exact htwo
  id_eq a b h := db.injective (Prod.mk.inj h).2
  after lastItem user := by
    have htime : cursorTime node ((payloadOf .createdDesc lastItem).c.getD "") =
        lastItem.createdAt.ms := cursorTime_toISOString node lastItem.createdAt
    have hid : (payloadOf .createdDesc lastItem).i = lastItem.id := rfl
    unfold buildCursorWhere createdDescRank
    rw [Prod.Lex.toLex_lt_toLex]
    simp only [htime, hid, Bool.or_eq_true, Bool.and_eq_true, decide_eq_true_eq, beq_iff_eq,
      toDual_lt_toDual, toDual_inj]
    rw [eq_comm (a := user.createdAt.ms)]

theorem followsKey_createdAsc : FollowsKey db node .createdAsc (createdAscRank db) where
  order a b := by
    have htwo := isLE_then_iff a.createdAt.ms b.createdAt.ms (db.key a.id) (db.key b.id)
    show ((compare a.createdAt.ms b.createdAt.ms).then
      ((compare (db.key a.id) (db.key b.id)).then .eq)).isLE = true ↔ _
    rw [Ordering.then_eq]
    exact htwo
  id_eq a b h := db.injective (Prod.mk.inj h).2
  after lastItem user := by
    have htime : cursorTime node ((payloadOf .createdAsc lastItem).c.getD "") =
        lastItem.createdAt.ms := cursorTime_toISOString node lastItem.createdAt
    have hid : (payloadOf .createdAsc lastItem).i = lastItem.id := rfl
    unfold buildCursorWhere createdAscRank
    rw [Prod.Lex.toLex_lt_toLex]
    simp only [htime, hid, Bool.or_eq_true, Bool.and_eq_true, decide_eq_true_eq, beq_iff_eq]
    rw [eq_comm (a := user.createdAt.ms)]

theorem followsKey_emailAsc : FollowsKey db node .emailAsc (emailAscRank db) where
  order a b := by
    have htwo := isLE_then_iff (db.key a.email) (db.key b.email) (db.key a.id) (db.key b.id)
    show ((compare (db.key a.email) (db.key b.email)).then
      ((compare (db.key a.id) (db.key b.id)).then .eq)).isLE = true ↔ _
    rw [Ordering.then_eq]
    exact htwo
  id_eq a b h := db.injective (Prod.mk.inj h).2
  after lastItem user := by
    have hemail : (payloadOf .emailAsc lastItem).c.getD "" = lastItem.email := rfl
    have hid : (payloadOf .emailAsc lastItem).i = lastItem.id := rfl
    -- the database and the key tell the same texts apart
    have hkey : db.key lastItem.email = db.key user.email ↔ user.email = lastItem.email := by
      rw [db.injective.eq_iff, eq_comm]
    unfold buildCursorWhere emailAscRank
    rw [Prod.Lex.toLex_lt_toLex]
    simp only [hemail, hid, hkey, Bool.or_eq_true, Bool.and_eq_true, decide_eq_true_eq, beq_iff_eq]

theorem descNullsLast_eq (a b : AuthUserRecord) :
    descNullsLast lastLogin a b = compare (lastLoginRank a) (lastLoginRank b) := by
  unfold descNullsLast lastLoginRank
  cases lastLogin a with
  | none =>
    cases lastLogin b with
    | none => exact (compare_eq_iff_eq.mpr rfl).symm
    | some y => exact (compare_gt_iff_gt.mpr (WithTop.coe_lt_top _)).symm
  | some x =>
    cases lastLogin b with
    | none => exact (compare_lt_iff_lt.mpr (WithTop.coe_lt_top _)).symm
    | some y =>
      show compare y x = compare ((toDual x : ℤᵒᵈ) : WithTop ℤᵒᵈ) ((toDual y : ℤᵒᵈ) : WithTop ℤᵒᵈ)
      rcases lt_trichotomy x y with h | h | h
      · rw [compare_gt_iff_gt.mpr h, eq_comm, compare_gt_iff_gt]
        exact WithTop.coe_lt_coe.mpr h
      · rw [h, compare_eq_iff_eq.mpr rfl, eq_comm, compare_eq_iff_eq]
      · rw [compare_lt_iff_lt.mpr h, eq_comm, compare_lt_iff_lt]
        exact WithTop.coe_lt_coe.mpr h

/-- A date of `toISOString` is not an empty text. -/
theorem toISOString_ne_empty (date : DateTime) : ofList (History.toISOString date.ms) ≠ "" := by
  intro h
  have hdate := dateOf_toISOString ⟨fun _ => [], fun _ => none⟩ date
  rw [h] at hdate
  cases hdate

theorem lastLoginRank_none {user : AuthUserRecord} (h : user.lastLoginAt = none) :
    lastLoginRank user = ⊤ := by
  unfold lastLoginRank lastLogin
  rw [h]
  rfl

theorem lastLoginRank_some {user : AuthUserRecord} {date : DateTime}
    (h : user.lastLoginAt = some date) :
    lastLoginRank user = ((toDual date.ms : ℤᵒᵈ) : WithTop ℤᵒᵈ) := by
  unfold lastLoginRank lastLogin
  rw [h]
  rfl

/-- Behind a user without a login stand only users without one. -/
theorem loginDesc_after_none (hlast : lastItem.lastLoginAt = none) (user : AuthUserRecord) :
    buildCursorWhere db node .loginDesc (payloadOf .loginDesc lastItem) user = true ↔
      loginDescRank db lastItem < loginDescRank db user := by
  have hid : (payloadOf .loginDesc lastItem).i = lastItem.id := rfl
  have hcol : (payloadOf .loginDesc lastItem).c.getD "" = "" := by
    show (lastItem.lastLoginAt.map _).getD "" = ""
    rw [hlast]
    rfl
  have hrank := lastLoginRank_none hlast
  unfold loginDescRank buildCursorWhere
  rw [Prod.Lex.toLex_lt_toLex]
  cases huser : user.lastLoginAt with
  | none =>
    have huserRank := lastLoginRank_none huser
    simp [hcol, hid, hrank, huserRank]
  | some date =>
    have huserRank : lastLoginRank user < ⊤ := by
      rw [lastLoginRank_some huser]
      exact WithTop.coe_lt_top _
    simp [hcol, hrank, huserRank.ne']

/-- Behind a user with a login stand the earlier logins and the users without one. -/
theorem loginDesc_after_some {date : DateTime}
    (hlast : lastItem.lastLoginAt = some date) (user : AuthUserRecord) :
    buildCursorWhere db node .loginDesc (payloadOf .loginDesc lastItem) user = true ↔
      loginDescRank db lastItem < loginDescRank db user := by
  have hid : (payloadOf .loginDesc lastItem).i = lastItem.id := rfl
  have hcol : (payloadOf .loginDesc lastItem).c.getD "" =
      ofList (History.toISOString date.ms) := by
    show (lastItem.lastLoginAt.map _).getD "" = _
    rw [hlast]
    rfl
  have hrank := lastLoginRank_some hlast
  have htime := cursorTime_toISOString node date
  have hne := toISOString_ne_empty date
  unfold loginDescRank buildCursorWhere
  rw [Prod.Lex.toLex_lt_toLex]
  cases huser : user.lastLoginAt with
  | none =>
    have huserRank := lastLoginRank_none huser
    have hlt : lastLoginRank lastItem < ⊤ := by
      rw [hrank]
      exact WithTop.coe_lt_top _
    simp [hcol, hne, huserRank, hlt]
  | some login =>
    have huserRank := lastLoginRank_some huser
    have hlogin : lastLogin user = some login.ms := by
      unfold lastLogin
      rw [huser]
      rfl
    rw [hrank, huserRank, WithTop.coe_lt_coe, WithTop.coe_inj, toDual_lt_toDual,
      toDual_inj, toDual_lt_toDual, eq_comm (a := date.ms)]
    simp [hcol, hne, hid, htime, hlogin]

theorem followsKey_loginDesc : FollowsKey db node .loginDesc (loginDescRank db) where
  order a b := by
    have htwo := isLE_then_iff (lastLoginRank a) (lastLoginRank b)
      (toDual (db.key a.id)) (toDual (db.key b.id))
    show ((descNullsLast lastLogin a b).then
      ((compare (db.key b.id) (db.key a.id)).then .eq)).isLE = true ↔ _
    rw [Ordering.then_eq, descNullsLast_eq]
    exact htwo
  id_eq a b h := db.injective (Prod.mk.inj h).2
  after lastItem user := by
    cases hlast : lastItem.lastLoginAt with
    | none => exact loginDesc_after_none db node hlast user
    | some date => exact loginDesc_after_some db node hlast user

/-- Every order and its cursors follow a key. -/
theorem exists_followsKey (sort : AdminUserSort) :
    ∃ (δ : Type) (_ : LinearOrder δ) (rank : AuthUserRecord → δ), FollowsKey db node sort rank := by
  cases sort with
  | createdDesc => exact ⟨_, _, _, followsKey_createdDesc db node⟩
  | createdAsc => exact ⟨_, _, _, followsKey_createdAsc db node⟩
  | loginDesc => exact ⟨_, _, _, followsKey_loginDesc db node⟩
  | emailAsc => exact ⟨_, _, _, followsKey_emailAsc db node⟩

/-! ## Page after page -/

/-- The users of a page and the cursor behind it. -/
def pageOf (users : List AuthUserRecord) (filters : AdminUserListFilters)
    (cursor : Option String) : List AuthUserRecord × Option String :=
  let result := listWithFilters db node { filters with cursor := cursor } users
  (result.items, result.nextCursor)

/-- The cursor leads behind the users that are done. -/
def Reached (sort : AdminUserSort) (cursor : Option String) (done : List AuthUserRecord) : Prop :=
  (done = [] ∧ cursor = none) ∨ ∃ lastItem, done.getLast? = some lastItem ∧
      cursor = some (encodeCursor (payloadOf sort lastItem))

variable {db node} {users : List AuthUserRecord} {filters : AdminUserListFilters}
  {cursor : Option String} {done rest : List AuthUserRecord}

/-- What is selected for a page. -/
def selected (db : Collation κ) (node : TextReading) (users : List AuthUserRecord)
    (filters : AdminUserListFilters) (cursor : Option String) : List AuthUserRecord :=
  let sort := filters.sort.getD .createdDesc
  select (InOrder db sort)
    (cursorCondition db node { filters with cursor := cursor } (buildWhere db filters) sort)
    (filters.limit + 1) users

theorem pageOf_eq (hpage : filters.page = none) : pageOf db node users filters cursor =
      let result := cursorResult filters.limit (filters.sort.getD .createdDesc)
        (selected db node users filters cursor)
      (result.items, result.nextCursor) := by
  have hlist : listWithFilters db node { filters with cursor := cursor } users =
      cursorResult filters.limit (filters.sort.getD .createdDesc)
        (selected db node users filters cursor) := by
    unfold listWithFilters
    simp only [hpage]
    rfl
  unfold pageOf
  rw [hlist]

/-- The last page has what is left. -/
theorem pageOf_last (hpage : filters.page = none)
    (hsel : selected db node users filters cursor = rest.take (filters.limit + 1))
    (hlen : rest.length ≤ filters.limit) :
    pageOf db node users filters cursor = (rest, none) := by
  have htake : rest.take (filters.limit + 1) = rest := List.take_of_length_le (by omega)
  have hlast : ¬ filters.limit < rest.length := not_lt.mpr hlen
  rw [pageOf_eq hpage, hsel, htake]
  simp [cursorResult, hlast]

/-- The other pages are full. -/
theorem pageOf_more (hpage : filters.page = none)
    (hsel : selected db node users filters cursor = rest.take (filters.limit + 1))
    (hlen : filters.limit < rest.length) :
    pageOf db node users filters cursor =
      (rest.take filters.limit, (rest.take filters.limit).getLast?.map fun lastItem =>
        encodeCursor (payloadOf (filters.sort.getD .createdDesc) lastItem)) := by
  have hmore : filters.limit < (rest.take (filters.limit + 1)).length := by
    rw [List.length_take]
    omega
  have htake : (rest.take (filters.limit + 1)).take filters.limit = rest.take filters.limit := by
    rw [List.take_take, Nat.min_eq_left (Nat.le_succ _)]
  rw [pageOf_eq hpage, hsel]
  simp only [cursorResult, hmore, htake, decide_true, if_true]

/-- Behind a user whose id is not blank the database selects the users that come next. -/
theorem selected_eq {δ : Type} [LinearOrder δ] {rank : AuthUserRecord → δ}
    (hkey : FollowsKey db node (filters.sort.getD .createdDesc) rank)
    (hids : (users.map AuthUserRecord.id).Nodup) (hblank : ∀ user ∈ users, jsTrim user.id ≠ "")
    (hsplit : (users.filter (buildWhere db filters)).insertionSort
      (InOrder db (filters.sort.getD .createdDesc)) = done ++ rest)
    (hreached : Reached (filters.sort.getD .createdDesc) cursor done) :
    selected db node users filters cursor = rest.take (filters.limit + 1) := by
  have hdist := hkey.pairwise_ne hids
  unfold selected
  rcases hreached with ⟨rfl, rfl⟩ | ⟨lastItem, hlast, rfl⟩
  · have hcond : cursorCondition db node { filters with cursor := none }
        (buildWhere db filters) (filters.sort.getD .createdDesc) = buildWhere db filters := rfl
    show select _ _ _ _ = _
    rw [hcond, select, hsplit]
    rfl
  have hmem : lastItem ∈ users := by
    have hsorted : lastItem ∈ done ++ rest :=
      List.mem_append_left _ (List.mem_of_getLast? hlast)
    rw [← hsplit] at hsorted
    exact (List.mem_filter.mp ((List.mem_insertionSort _).mp hsorted)).1
  have hdecode := decodeCursor_payloadOf node (filters.sort.getD .createdDesc) (hblank _ hmem)
  have hcond : cursorCondition db node
      { filters with cursor := some (encodeCursor (payloadOf (filters.sort.getD .createdDesc)
        lastItem)) } (buildWhere db filters) (filters.sort.getD .createdDesc) =
      fun user => buildWhere db filters user &&
        buildCursorWhere db node (filters.sort.getD .createdDesc)
          (payloadOf (filters.sort.getD .createdDesc) lastItem) user := by
    unfold cursorCondition
    simp only [Option.getD_some, hdecode]
    exact if_pos rfl
  show select _ _ _ _ = _
  rw [hcond]
  exact Table.select_after hkey.order hdist hsplit hlast (hkey.after lastItem) _

/-- While no user's id is blank, the pages from no cursor on are the users that match, in their
order, and all pages but the last are full. -/
theorem listWithFilters_enumerates (db : Collation κ) (node : TextReading)
    (users : List AuthUserRecord) (filters : AdminUserListFilters)
    (hids : (users.map AuthUserRecord.id).Nodup) (hblank : ∀ user ∈ users, jsTrim user.id ≠ "")
    (hpage : filters.page = none) (hlimit : 0 < filters.limit) :
    (∃ pages, Table.Walk (pageOf db node users filters) none pages) ∧
      ∀ pages, Table.Walk (pageOf db node users filters) none pages →
        pages.flatten.Perm (users.filter (buildWhere db filters)) ∧
          pages.flatten.Pairwise (InOrder db (filters.sort.getD .createdDesc)) ∧
          ∀ page ∈ pages.dropLast, page.length = filters.limit := by
  obtain ⟨δ, _, rank, hkey⟩ := exists_followsKey db node (filters.sort.getD .createdDesc)
  have hlast : ∀ cursor done rest, (users.filter (buildWhere db filters)).insertionSort
        (InOrder db (filters.sort.getD .createdDesc)) = done ++ rest →
      Reached (filters.sort.getD .createdDesc) cursor done → rest.length ≤ filters.limit →
      pageOf db node users filters cursor = (rest, none) := by
    intro cursor done rest hsplit hreached hlength
    exact pageOf_last hpage (selected_eq hkey hids hblank hsplit hreached) hlength
  have hmore : ∀ cursor done rest, (users.filter (buildWhere db filters)).insertionSort
        (InOrder db (filters.sort.getD .createdDesc)) = done ++ rest →
      Reached (filters.sort.getD .createdDesc) cursor done → filters.limit < rest.length →
      ∃ next, pageOf db node users filters cursor = (rest.take filters.limit, some next) ∧
        Reached (filters.sort.getD .createdDesc) (some next) (done ++ rest.take filters.limit) := by
    intro cursor done rest hsplit hreached hlength
    have hne : rest.take filters.limit ≠ [] := by grind [List.length_take, List.length_nil]
    have hgetLast := List.getLast?_eq_some_getLast hne
    have hpageOf := pageOf_more hpage (selected_eq hkey hids hblank hsplit hreached) hlength
    rw [hgetLast] at hpageOf
    refine ⟨_, hpageOf, Or.inr ⟨_, ?_, rfl⟩⟩
    rw [List.getLast?_append, hgetLast]
    rfl
  obtain ⟨pages, hwalk, hflatten, hfull⟩ :=
    Table.exists_walk hlimit hlast hmore (List.nil_append _).symm (Or.inl ⟨rfl, rfl⟩)
  constructor
  · exact ⟨pages, hwalk⟩
  intro pages' hwalk'
  obtain rfl := hwalk.unique hwalk'
  refine ⟨?_, ?_, hfull⟩
  · rw [hflatten]
    exact List.perm_insertionSort _ _
  rw [hflatten]
  have hdistinct := hkey.pairwise_ne hids
  refine (Table.pairwise_insertionSort hkey.order (hdistinct.filter _)).imp ?_
  intro a b hlt
  exact (hkey.order a b).mpr hlt.le

end Listing

/-! ## A directory of two users -/

/-- Texts in the order of their characters. -/
def byCharacters : Collation String where
  key := id
  injective := Function.injective_id
  contains text part := decide (part.toList <:+: text.toList)
  containsInsensitive text part := decide (part.toLower.toList <:+: text.toLower.toList)

def plainReading : TextReading where
  replaced _ := ['\uFFFD']
  otherDates _ := none

def firstDate : DateTime := { ms := 1000, low := by decide, high := by decide }

def secondDate : DateTime := { ms := 2000, low := by decide, high := by decide }

/-- A user that registered at the given time and never logged in. -/
def registered (id email : String) (createdAt : DateTime) : AuthUserRecord where
  id := id
  email := email
  displayName := none
  suspendedAt := none
  emailVerifiedAt := none
  lastLoginAt := none
  createdAt := createdAt
  systemRoleAssignments := []

def olderUser (id : String) : AuthUserRecord := registered id "ada@example.com" firstDate

/-- Two users with the given id for the older one. -/
def twoUsers (id : String) : List AuthUserRecord :=
  [olderUser id, registered "u2" "bob@example.com" secondDate]

/-- The oldest users first, one a page. -/
def oneByOne : AdminUserListFilters where
  query := none
  role := none
  banned := none
  verified := none
  sort := some .createdAsc
  page := none
  limit := 1
  cursor := none

theorem listWithFilters_enumerates_twoUsers :
    (∃ pages, Table.Walk (pageOf byCharacters plainReading (twoUsers "u1") oneByOne) none pages) ∧
      ∀ pages, Table.Walk (pageOf byCharacters plainReading (twoUsers "u1") oneByOne) none pages →
        pages.flatten.Perm ((twoUsers "u1").filter (buildWhere byCharacters oneByOne)) ∧
          pages.flatten.Pairwise (InOrder byCharacters .createdAsc) ∧
          ∀ page ∈ pages.dropLast, page.length = 1 :=
  listWithFilters_enumerates byCharacters plainReading (twoUsers "u1") oneByOne (by decide)
    (by decide) rfl (by decide)

/-- The cursor behind a user with a blank id is not read, and the first page comes again. -/
theorem not_enumerated_of_blank :
    ((twoUsers " ").map AuthUserRecord.id).Nodup ∧ oneByOne.page = none ∧ 0 < oneByOne.limit ∧
      ¬ ∃ pages, Table.Walk (pageOf byCharacters plainReading (twoUsers " ") oneByOne) none pages := by
  refine ⟨by decide, rfl, by decide, ?_⟩
  rintro ⟨pages, hwalk⟩
  have hblank : jsTrim (payloadOf .createdAsc (olderUser " ")).i = "" := by decide
  have hunread := decodeCursor_of_blank plainReading hblank
  -- the same two users are found without a cursor and with the cursor of page one
  have hselect : ∀ cursor : Option String, decodeCursor plainReading (cursor.getD "") = none →
      selected byCharacters plainReading (twoUsers " ") oneByOne cursor =
        (twoUsers " ").take 2 := by
    intro cursor hunread
    unfold selected cursorCondition
    simp only [hunread]
    rfl
  have hfirst := hselect none rfl
  have hagain := hselect (some (encodeCursor (payloadOf .createdAsc (olderUser " ")))) hunread
  have hpage : oneByOne.page = none := rfl
  have hlength : oneByOne.limit < (twoUsers " ").length := by decide
  exact Table.not_walk_of_loop (pageOf_more hpage hfirst hlength) (pageOf_more hpage hagain hlength)
    (Or.inl rfl) hwalk

end QuizMind.Directory

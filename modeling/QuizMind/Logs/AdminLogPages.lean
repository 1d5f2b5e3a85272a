import QuizMind.Access.Directory

/-! # Pages of the admin logs

`AdminLogRepository.listPage`: the rows that match some filters, behind the row of a cursor. The
conditions of the filters and of the cursor are members of one object, of which only those of the
two dates have a name in common, and they are put together. So the pages from no cursor on are the
matching rows in their order, cut into pieces, as long as no row has an empty id
(`listPage_enumerates`): the cursor behind such a row is not read.
-/

namespace QuizMind.Logs

open Directory (Collation DateTime TextReading firstDate secondDate)
open OrderDual (toDual)

/-! ## Rows and filters -/

/-- The columns that the filters and the order read. -/
structure AdminLogRow where
  id : String
  stream : String
  eventType : String
  occurredAt : DateTime
  severity : Option String
  status : Option String
  category : Option String
  source : Option String
  searchText : Option String
  deriving DecidableEq

/-- `none` is `undefined`. -/
structure ListAdminLogsInput where
  stream : Option String
  severity : Option String
  search : Option String
  category : Option String
  source : Option String
  status : Option String
  eventType : Option String
  from_ : Option String
  to_ : Option String
  limit : ℤ
  cursor : Option String

structure ListAdminLogsResult where
  items : List AdminLogRow
  hasNext : Bool
  nextCursor : Option String

/-! ## Cursors -/

/-- A cursor may hold any values that a condition takes for true. -/
structure ParsedCursor where
  occurredAt : ℤ
  id : JsonText.Value

/-- What is left open of reading a cursor: numbers that are zero, and the dates of values that are
not texts. -/
structure CursorReading extends TextReading where
  isZero : List Char → Bool
  dateOfOther : JsonText.Value → Option ℤ

def CursorReading.isTruthy (node : CursorReading) : JsonText.Value → Bool
  | .null => false
  | .bool b => b
  | .number literal => !node.isZero literal
  | .string text => text ≠ []
  | .array _ | .object _ => true

/-- The time of `new Date(value)`, if it is one. -/
def CursorReading.newDate (node : CursorReading) : JsonText.Value → Option ℤ
  | .string text => node.dateOf (String.ofList text)
  | value => node.dateOfOther value

section Cursor

variable (node : CursorReading)

def parseCursor (cursor : Option String) : Option ParsedCursor :=
  match cursor.filter fun text => text ≠ "" with
  | none => none
  | some cursor =>
    match JsonText.parse (Base64Url.ofUtf8 node.replaced (Base64Url.decode cursor.toList)) with
    | some (.object members) => do
        let id ← JsonText.Value.member members "id".toList
        let occurredAt ← JsonText.Value.member members "occurredAt".toList
        if !node.isTruthy id || !node.isTruthy occurredAt then none
        else (node.newDate occurredAt).map fun date => ⟨date, id⟩
    -- the members of other values are undefined, and those of null throw
    | _ => none

def encodeCursor (item : AdminLogRow) : String :=
  String.ofList (Base64Url.encode (Base64Url.toUtf8 (JsonText.writeRecord
    [("occurredAt".toList, some (History.toISOString item.occurredAt.ms)),
      ("id".toList, some item.id.toList)])))

/-- The cursor behind a row is read as it was written, unless the id is empty. -/
theorem parseCursor_encodeCursor (item : AdminLogRow) :
    parseCursor node (some (encodeCursor item)) =
      if item.id = "" then none else some ⟨item.occurredAt.ms, .string item.id.toList⟩ := by
  have hparse : JsonText.parse (Base64Url.ofUtf8 node.replaced
      (Base64Url.decode (encodeCursor item).toList)) =
        some (.object [("occurredAt".toList, .string (History.toISOString item.occurredAt.ms)),
          ("id".toList, .string item.id.toList)]) := by
    unfold encodeCursor
    rw [String.toList_ofList, Base64Url.decode_encode, Base64Url.ofUtf8_toUtf8]
    exact JsonText.parse_record (List.cons_ne_nil _ _)
  have hne : encodeCursor item ≠ "" := by
    intro hempty
    rw [hempty] at hparse
    exact absurd hparse nofun
  have hfilt : (some (encodeCursor item)).filter (fun text => text ≠ "") =
      some (encodeCursor item) := by
    simp [hne]
  have hdate : node.newDate (.string (History.toISOString item.occurredAt.ms)) =
      some item.occurredAt.ms := Directory.dateOf_toISOString node.toTextReading item.occurredAt
  unfold parseCursor
  rw [hfilt]
  dsimp only
  rw [hparse]
  show (if !decide (item.id.toList ≠ []) ||
      !decide (History.toISOString item.occurredAt.ms ≠ []) then none
    else (node.newDate (.string (History.toISOString item.occurredAt.ms))).map fun date =>
      (⟨date, .string item.id.toList⟩ : ParsedCursor)) = _
  rw [hdate]
  have htext : History.toISOString item.occurredAt.ms ≠ [] := by
    intro hempty
    refine Directory.toISOString_ne_empty item.occurredAt ?_
    rw [hempty]
  by_cases hid : item.id = ""
  · rw [if_pos hid, hid]
    rfl
  · grind [String.toList_eq_nil_iff]

end Cursor

/-! ## The conditions -/

structure DateFilter where
  gte : Option ℤ
  lte : Option ℤ

/-- The members of the object `where`. -/
structure AdminLogWhere where
  stream : Option String
  severity : Option String
  category : Option String
  source : Option String
  status : Option String
  eventType : Option String
  searchText : Option String
  occurredAt : Option DateFilter
  /-- the two conditions of `OR` -/
  behind : Option (ℤ × String)

/-- A filter that is not empty, and not one of `all`. -/
def notAll (filter : Option String) : Option String := filter.filter fun text => text ≠ "" && text ≠ "all"

def given (filter : Option String) : Option String := filter.filter fun text => text ≠ ""

/-- The time of `new Date(text)` for a text that is not empty, if it is one. -/
def dateFilter (node : TextReading) (text : Option String) : Option ℤ :=
  (given text).bind node.dateOf

/-- The two spreads of `occurredAt`, of which the second one has both dates. -/
def occurredAtFilter (fromDate toDate : Option ℤ) : Option DateFilter :=
  let first := fromDate.map fun date => ({ gte := some date, lte := none } : DateFilter)
  match toDate with
  | some date => some { gte := fromDate, lte := some date }
  | none => first

def whereOf (node : TextReading) (input : ListAdminLogsInput) (behind : Option (ℤ × String)) :
    AdminLogWhere where
  stream := notAll input.stream
  severity := notAll input.severity
  category := given input.category
  source := given input.source
  status := given input.status
  eventType := given input.eventType
  searchText := given (input.search.map jsTrim)
  occurredAt := occurredAtFilter (dateFilter node input.from_) (dateFilter node input.to_)
  behind := behind

section Listing

variable {κ : Type} [LinearOrder κ] (db : Collation κ)

/-- What the database selects by one object. -/
def AdminLogWhere.selects (w : AdminLogWhere) (row : AdminLogRow) : Bool :=
  w.stream.all (fun stream => row.stream = stream) &&
    w.severity.all (fun severity => row.severity = some severity) &&
    w.category.all (fun category => row.category = some category) &&
    w.source.all (fun source => row.source = some source) &&
    w.status.all (fun status => row.status = some status) &&
    w.eventType.all (fun eventType => db.containsInsensitive row.eventType eventType) &&
    w.searchText.all (fun search =>
      row.searchText.any fun searchText => db.containsInsensitive searchText search) &&
    w.occurredAt.all (fun date =>
      date.gte.all (fun gte => gte ≤ row.occurredAt.ms) &&
        date.lte.all fun lte => row.occurredAt.ms ≤ lte) &&
    w.behind.all fun (occurredAt, id) =>
      row.occurredAt.ms < occurredAt ||
        (row.occurredAt.ms = occurredAt && db.key row.id < db.key id)

/-- `orderBy`: by time and then by id, the last first. -/
def InOrder (a b : AdminLogRow) : Prop :=
  ((compare b.occurredAt.ms a.occurredAt.ms).then (compare (db.key b.id) (db.key a.id))).isLE = true

instance : DecidableRel (InOrder db) := fun _ _ => inferInstanceAs (Decidable (_ = true))

/-- The condition of a cursor; the database does not compare ids with anything but texts. -/
def behindOf : Option ParsedCursor → Except Exception (Option (ℤ × String))
  | none => .ok none
  | some ⟨occurredAt, .string id⟩ => .ok (some (occurredAt, String.ofList id))
  | some _ => .error (.error "Argument `lt`: Invalid value provided.")

variable (node : CursorReading)

/-- The result for what was found, one row more than a page has room for. -/
def cutPage (take : ℕ) (rows : List AdminLogRow) : ListAdminLogsResult :=
  let hasNext := decide (take < rows.length)
  let items := if hasNext then rows.take take else rows
  { items := items
    hasNext := hasNext
    nextCursor := if hasNext then items.getLast?.map encodeCursor else none }

def listPage (input : ListAdminLogsInput) (rows : List AdminLogRow) :
    Except Exception ListAdminLogsResult := do
  let behind ← behindOf (parseCursor node input.cursor)
  let take := (min 100 (max 1 input.limit)).toNat
  return cutPage take (Table.select (InOrder db)
    ((whereOf node.toTextReading input behind).selects db) (take + 1) rows)

/-! ## The statement -/

/-- The row matches the filters, each for itself. -/
def filtersMatch (input : ListAdminLogsInput) (row : AdminLogRow) : Prop :=
  (∀ stream, notAll input.stream = some stream → row.stream = stream) ∧
    (∀ severity, notAll input.severity = some severity → row.severity = some severity) ∧
    (∀ category, given input.category = some category → row.category = some category) ∧
    (∀ source, given input.source = some source → row.source = some source) ∧
    (∀ status, given input.status = some status → row.status = some status) ∧
    (∀ eventType, given input.eventType = some eventType →
      db.containsInsensitive row.eventType eventType = true) ∧
    (∀ search, given (input.search.map jsTrim) = some search → ∃ searchText,
      row.searchText = some searchText ∧ db.containsInsensitive searchText search = true) ∧
    (∀ date, dateFilter node.toTextReading input.from_ = some date → date ≤ row.occurredAt.ms) ∧
    ∀ date, dateFilter node.toTextReading input.to_ = some date → row.occurredAt.ms ≤ date

/-- A result, and the cursor to follow. -/
def pageAfter (input : ListAdminLogsInput) (rows : List AdminLogRow) (cursor : Option String) :
    Except Exception ListAdminLogsResult × Option String :=
  let page := listPage db node { input with cursor := cursor } rows
  (page, page.toOption.bind ListAdminLogsResult.nextCursor)

/-! ## Conditions -/

section Conditions

variable {db node} {input : ListAdminLogsInput} {row : AdminLogRow}

/-- Neither date is lost, whichever of the spreads of `occurredAt` comes last. -/
theorem occurredAtFilter_iff (fromDate toDate : Option ℤ) (ms : ℤ) :
    (occurredAtFilter fromDate toDate).all (fun date =>
        date.gte.all (fun gte => gte ≤ ms) && date.lte.all fun lte => ms ≤ lte) = true ↔
      (∀ date, fromDate = some date → date ≤ ms) ∧ ∀ date, toDate = some date → ms ≤ date := by
  unfold occurredAtFilter
  cases fromDate <;> cases toDate <;> simp

/-- The object selects the rows that match each filter and are behind the cursor. -/
theorem selects_iff (behind : Option (ℤ × String)) :
    (whereOf node.toTextReading input behind).selects db row = true ↔
      filtersMatch db node input row ∧ ∀ occurredAt id, behind = some (occurredAt, id) →
        row.occurredAt.ms < occurredAt ∨
          (row.occurredAt.ms = occurredAt ∧ db.key row.id < db.key id) := by
  have hdates := occurredAtFilter_iff (dateFilter node.toTextReading input.from_)
    (dateFilter node.toTextReading input.to_) row.occurredAt.ms
  unfold AdminLogWhere.selects whereOf filtersMatch
  dsimp only
  rw [Bool.and_eq_true, Bool.and_eq_true, hdates]
  simp only [Bool.and_eq_true, Option.all_eq_true, decide_eq_true_eq, Option.any_eq_true,
    Bool.or_eq_true, Prod.forall, and_assoc]

end Conditions

/-! ## The order -/

/-- Rows stand in the order of a key, in which no two ids agree. -/
def adminLogRank (row : AdminLogRow) : ℤᵒᵈ ×ₗ κᵒᵈ :=
  toLex (toDual row.occurredAt.ms, toDual (db.key row.id))

theorem inOrder_iff (a b : AdminLogRow) : InOrder db a b ↔ adminLogRank db a ≤ adminLogRank db b :=
  Table.isLE_then_iff (toDual a.occurredAt.ms) (toDual b.occurredAt.ms)
    (toDual (db.key a.id)) (toDual (db.key b.id))

theorem behind_iff (lastItem row : AdminLogRow) : (row.occurredAt.ms < lastItem.occurredAt.ms ∨
      (row.occurredAt.ms = lastItem.occurredAt.ms ∧ db.key row.id < db.key lastItem.id)) ↔
        adminLogRank db lastItem < adminLogRank db row := by
  unfold adminLogRank
  rw [Prod.Lex.toLex_lt_toLex]
  simp only [OrderDual.toDual_lt_toDual, OrderDual.toDual_inj]
  rw [eq_comm (a := row.occurredAt.ms)]

omit [LinearOrder κ] in
theorem ranks_distinct {rows : List AdminLogRow} (hids : (rows.map AdminLogRow.id).Nodup) :
    rows.Pairwise fun a b => adminLogRank db a ≠ adminLogRank db b := by
  refine (List.pairwise_map.mp hids).imp ?_
  intro a b hne hsame
  exact hne (db.injective (Prod.mk.inj hsame).2)

/-! ## Page after page -/

/-- The number of rows of a full page. -/
def takeOf (input : ListAdminLogsInput) : ℕ := (min 100 (max 1 input.limit)).toNat

theorem takeOf_pos (input : ListAdminLogsInput) : 0 < takeOf input := by
  unfold takeOf
  omega

/-- A page with these rows. -/
def resultOf (items : List AdminLogRow) (next : Option String) : ListAdminLogsResult :=
  ⟨items, next.isSome, next⟩

/-- The cursor leads behind the rows that are done. -/
def Reached (cursor : Option String) (done : List AdminLogRow) : Prop :=
  (done = [] ∧ cursor = none) ∨
    ∃ lastItem, done.getLast? = some lastItem ∧ cursor = some (encodeCursor lastItem)

/-- What is found for a page. -/
def found (rows : List AdminLogRow) (input : ListAdminLogsInput) (behind : Option (ℤ × String)) :
    List AdminLogRow :=
  Table.select (InOrder db) ((whereOf node.toTextReading input behind).selects db)
    (takeOf input + 1) rows

/-- The matching rows in their order. -/
def matching (rows : List AdminLogRow) (input : ListAdminLogsInput) : List AdminLogRow :=
  (rows.filter ((whereOf node.toTextReading input none).selects db)).insertionSort (InOrder db)

section Pages

variable {db node} {input : ListAdminLogsInput} {rows done rest : List AdminLogRow}
  {cursor : Option String}

/-- The rows that a page is cut from are the next ones. -/
theorem found_eq (hids : (rows.map AdminLogRow.id).Nodup) (hempty : ∀ row ∈ rows, row.id ≠ "")
    (hsplit : matching db node rows input = done ++ rest) (hreached : Reached cursor done) :
    ∃ behind, behindOf (parseCursor node cursor) = .ok behind ∧
      found db node rows input behind = rest.take (takeOf input + 1) := by
  rcases hreached with ⟨rfl, rfl⟩ | ⟨lastItem, hlast, rfl⟩
  · refine ⟨none, rfl, ?_⟩
    unfold matching at hsplit
    rw [found, Table.select, hsplit, List.nil_append]
  have hmem : lastItem ∈ rows := by
    have hsorted : lastItem ∈ done ++ rest :=
      List.mem_append_left _ (List.mem_of_getLast? hlast)
    rw [← hsplit] at hsorted
    exact (List.mem_filter.mp ((List.mem_insertionSort _).mp hsorted)).1
  have hparse : parseCursor node (some (encodeCursor lastItem)) =
      some ⟨lastItem.occurredAt.ms, .string lastItem.id.toList⟩ := by
    rw [parseCursor_encodeCursor, if_neg (hempty lastItem hmem)]
  refine ⟨some (lastItem.occurredAt.ms, lastItem.id), ?_, ?_⟩
  · rw [hparse]
    show Except.ok (some (lastItem.occurredAt.ms, String.ofList lastItem.id.toList)) = _
    rw [String.ofList_toList]
  -- the filters stay the same, and the cursor cuts off what is done
  have hcond : (whereOf node.toTextReading input
        (some (lastItem.occurredAt.ms, lastItem.id))).selects db =
      fun row => (whereOf node.toTextReading input none).selects db row &&
        decide (adminLogRank db lastItem < adminLogRank db row) := by
    grind [selects_iff, behind_iff]
  unfold found
  rw [hcond]
  refine Table.select_after (inOrder_iff db) (ranks_distinct db hids) hsplit hlast ?_ _
  intro row
  exact decide_eq_true_iff

theorem cutPage_last {take : ℕ} (hlen : rest.length ≤ take) :
    cutPage take (rest.take (take + 1)) = resultOf rest none := by
  have htake : rest.take (take + 1) = rest := List.take_of_length_le (by omega)
  have hlast : ¬ take < rest.length := not_lt.mpr hlen
  unfold cutPage resultOf
  simp [htake, hlast]

theorem cutPage_more {take : ℕ} {lastItem : AdminLogRow} (hlen : take < rest.length)
    (hlast : (rest.take take).getLast? = some lastItem) :
    cutPage take (rest.take (take + 1)) =
      resultOf (rest.take take) (some (encodeCursor lastItem)) := by
  have hmore : take < (rest.take (take + 1)).length := by
    rw [List.length_take]
    omega
  have htake : (rest.take (take + 1)).take take = rest.take take := by
    rw [List.take_take, Nat.min_eq_left (Nat.le_succ _)]
  unfold cutPage resultOf
  simp only [hmore, htake, decide_true, if_true, hlast, Option.map_some, Option.isSome_some]

/-- The result of a page for the rows that are not done. -/
theorem pageAfter_eq (hids : (rows.map AdminLogRow.id).Nodup) (hempty : ∀ row ∈ rows, row.id ≠ "")
    (hsplit : matching db node rows input = done ++ rest) (hreached : Reached cursor done) :
    pageAfter db node input rows cursor =
      (.ok (cutPage (takeOf input) (rest.take (takeOf input + 1))),
        (cutPage (takeOf input) (rest.take (takeOf input + 1))).nextCursor) := by
  obtain ⟨behind, hbehind, hfound⟩ := found_eq hids hempty hsplit hreached
  have hpage : listPage db node { input with cursor := cursor } rows =
      .ok (cutPage (takeOf input) (found db node rows input behind)) := by
    show (behindOf (parseCursor node cursor)).bind _ = _
    rw [hbehind]
    rfl
  unfold pageAfter
  rw [hpage, hfound]
  rfl

end Pages

/-- While no row has an empty id, the pages from no cursor on end; they have the rows that match
the filters, each once and the last first, and each page but the last says that there is a next
one. -/
theorem listPage_enumerates (db : Collation κ) (node : CursorReading) (rows : List AdminLogRow)
    (input : ListAdminLogsInput) (hids : (rows.map AdminLogRow.id).Nodup)
    (hempty : ∀ row ∈ rows, row.id ≠ "") :
    (∃ pages, Table.Walk (pageAfter db node input rows) none pages) ∧
      ∀ pages, Table.Walk (pageAfter db node input rows) none pages →
        ∃ results : List ListAdminLogsResult, pages = results.map .ok ∧
          (∀ row, row ∈ results.flatMap ListAdminLogsResult.items ↔
            row ∈ rows ∧ filtersMatch db node input row) ∧
          (results.flatMap ListAdminLogsResult.items).Pairwise (fun a b =>
            b.occurredAt.ms < a.occurredAt.ms ∨
              (b.occurredAt.ms = a.occurredAt.ms ∧ db.key b.id < db.key a.id)) ∧
          (∀ result ∈ results.dropLast, result.hasNext = true) ∧
          ∀ result, results.getLast? = some result → result.hasNext = false := by
  have hlast : ∀ cursor done rest, matching db node rows input = done ++ rest →
      Reached cursor done → rest.length ≤ takeOf input →
      pageAfter db node input rows cursor = (.ok (resultOf rest none), none) := by
    intro cursor done rest hsplit hreached hlength
    rw [pageAfter_eq hids hempty hsplit hreached, cutPage_last hlength]
    rfl
  have hmore : ∀ cursor done rest, matching db node rows input = done ++ rest →
      Reached cursor done → takeOf input < rest.length → ∃ next,
        pageAfter db node input rows cursor =
          (.ok (resultOf (rest.take (takeOf input)) (some next)), some next) ∧
        Reached (some next) (done ++ rest.take (takeOf input)) := by
    intro cursor done rest hsplit hreached hlength
    have hpos := takeOf_pos input
    have hne : rest.take (takeOf input) ≠ [] := by grind [List.length_take, List.length_nil]
    have hgetLast := List.getLast?_eq_some_getLast hne
    refine ⟨encodeCursor ((rest.take (takeOf input)).getLast hne), ?_, Or.inr ⟨_, ?_, rfl⟩⟩
    · rw [pageAfter_eq hids hempty hsplit hreached, cutPage_more hlength hgetLast]
      rfl
    · rw [List.getLast?_append, hgetLast]
      rfl
  obtain ⟨full, last, hwalk, hflatten, -⟩ := Table.exists_walk_pages
    (fun items next => Except.ok (resultOf items next)) (takeOf_pos input) hlast hmore
    (List.nil_append _).symm (Or.inl ⟨rfl, rfl⟩)
  refine ⟨⟨_, hwalk⟩, ?_⟩
  intro pages hpages
  obtain rfl := hwalk.unique hpages
  have hitems : ((full.map fun piece => resultOf piece.1 (some piece.2)) ++
      [resultOf last none]).flatMap ListAdminLogsResult.items = matching db node rows input := by
    rw [List.flatMap_append, List.flatMap_map, List.flatMap_singleton, ← hflatten,
      List.flatten_eq_flatMap, List.flatMap_map]
    rfl
  refine ⟨(full.map fun piece => resultOf piece.1 (some piece.2)) ++ [resultOf last none],
    ?_, ?_, ?_, ?_, ?_⟩
  · rw [List.map_append, List.map_map]
    rfl
  · simp [hitems, matching, List.mem_insertionSort, List.mem_filter, selects_iff]
  · rw [hitems]
    refine (Table.pairwise_insertionSort (inOrder_iff db)
      ((ranks_distinct db hids).filter _)).imp ?_
    intro a b hlt
    exact (behind_iff db a b).mpr hlt
  · rw [List.dropLast_concat]
    intro result hresult
    obtain ⟨piece, -, rfl⟩ := List.mem_map.mp hresult
    rfl
  · intro result hresult
    rw [List.getLast?_concat] at hresult
    rw [← Option.some.inj hresult]
    rfl

end Listing

/-! ## A log of two rows -/

def plainCursors : CursorReading where
  toTextReading := Directory.plainReading
  isZero literal := literal = ['0']
  dateOfOther _ := none

def loggedAt (id : String) (occurredAt : DateTime) : AdminLogRow where
  id := id
  stream := "audit"
  eventType := "user.updated"
  occurredAt := occurredAt
  severity := none
  status := none
  category := some "admin"
  source := none
  searchText := none

/-- Two rows with the given id for the later one. -/
def twoRows (id : String) : List AdminLogRow :=
  [loggedAt id secondDate, loggedAt "first" firstDate]

def oneAPage : ListAdminLogsInput where
  stream := some "all"
  severity := none
  search := none
  category := none
  source := none
  status := none
  eventType := none
  from_ := none
  to_ := none
  limit := 1
  cursor := none

theorem listPage_enumerates_twoRows :
    (∃ pages, Table.Walk (pageAfter Directory.byCharacters plainCursors oneAPage
        (twoRows "second")) none pages) ∧
      ∀ pages, Table.Walk (pageAfter Directory.byCharacters plainCursors oneAPage
          (twoRows "second")) none pages →
        ∃ results : List ListAdminLogsResult, pages = results.map .ok ∧
          (∀ row, row ∈ results.flatMap ListAdminLogsResult.items ↔ row ∈ twoRows "second" ∧
            filtersMatch Directory.byCharacters plainCursors oneAPage row) ∧
          (results.flatMap ListAdminLogsResult.items).Pairwise (fun a b =>
            b.occurredAt.ms < a.occurredAt.ms ∨ (b.occurredAt.ms = a.occurredAt.ms ∧ b.id < a.id)) ∧
          (∀ result ∈ results.dropLast, result.hasNext = true) ∧
          ∀ result, results.getLast? = some result → result.hasNext = false :=
  listPage_enumerates Directory.byCharacters plainCursors (twoRows "second") oneAPage (by decide)
    (by decide)

/-- The cursor behind a row with an empty id is not read, and the first page comes again. -/
theorem not_enumerated_of_empty : ((twoRows "").map AdminLogRow.id).Nodup ∧
      ¬ ∃ pages, Table.Walk (pageAfter Directory.byCharacters plainCursors oneAPage (twoRows ""))
        none pages := by
  refine ⟨by decide, ?_⟩
  rintro ⟨pages, hwalk⟩
  have hunread : parseCursor plainCursors
      (some (encodeCursor (loggedAt "" secondDate))) = none := by
    rw [parseCursor_encodeCursor]
    rfl
  have hfirst : pageAfter Directory.byCharacters plainCursors oneAPage (twoRows "") none =
      (.ok (resultOf [loggedAt "" secondDate]
        (some (encodeCursor (loggedAt "" secondDate)))),
        some (encodeCursor (loggedAt "" secondDate))) := rfl
  have hagain : pageAfter Directory.byCharacters plainCursors oneAPage (twoRows "")
      (some (encodeCursor (loggedAt "" secondDate))) =
      pageAfter Directory.byCharacters plainCursors oneAPage (twoRows "") none := by
    unfold pageAfter listPage
    dsimp only
    rw [hunread]
    rfl
  exact Table.not_walk_of_loop hfirst (hagain.trans hfirst) (Or.inl rfl) hwalk

end QuizMind.Logs

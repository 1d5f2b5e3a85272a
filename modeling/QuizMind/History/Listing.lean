import QuizMind.Runtime
import QuizMind.Table.OffsetPages
import Mathlib.Algebra.Order.Archimedean.Basic
import Mathlib.Data.Prod.Lex
import Mathlib.Data.Rat.Floor

/-! # The list of AI requests

`listHistory` shows the events that pass the filters of a user, and the legacy table where there
is none. So a further filter can bring items of the legacy table into the list: `onlyRemoves_iff`.
-/

namespace QuizMind.History

open OffsetPages

/-! ## The tables -/

/-- A row of `AiRequestEvent` or of the legacy table `AiRequest`. Dates are milliseconds. -/
structure AiHistoryRow where
  id : String
  userId : String
  requestType : Option String
  status : String
  model : String
  provider : String
  occurredAt : ℤ
  createdAt : ℤ
  deriving DecidableEq

structure AiHistoryTables where
  events : List AiHistoryRow
  legacy : List AiHistoryRow
  eventIds : (events.map fun row => row.id).Nodup
  legacyIds : (legacy.map fun row => row.id).Nodup

/-- Items of the two tables differ: only those of events have attachments. -/
inductive AiHistoryListItem where
  | event (row : AiHistoryRow)
  | legacy (row : AiHistoryRow)

def AiHistoryListItem.row : AiHistoryListItem → AiHistoryRow
  | .event row => row
  | .legacy row => row

/-- `[{ occurredAt: 'desc' }, { createdAt: 'desc' }]`. -/
def AiHistoryRow.rank (row : AiHistoryRow) : (ℤ ×ₗ ℤ)ᵒᵈ :=
  OrderDual.toDual (toLex (row.occurredAt, row.createdAt))

/-- How the database orders the rows of a query. -/
structure HistoryOrder where
  arrange : List AiHistoryRow → List AiHistoryRow
  arranged : ∀ rows, Arranged AiHistoryRow.rank rows (arrange rows)

/-! ## Filters -/

/-- Numbers that are missing or not finite are `none`. -/
structure AiHistoryListFilters where
  requestType : Option String := none
  status : Option String := none
  model : Option String := none
  provider : Option String := none
  from_ : Option String := none
  to_ : Option String := none
  limit : Option ℚ := none
  offset : Option ℚ := none

def DEFAULT_LIST_LIMIT : ℚ := 25

def MAX_LIST_LIMIT : ℚ := 200

def clampLimit : Option ℚ → ℚ
  | none => DEFAULT_LIST_LIMIT
  | some n => if n < 1 then DEFAULT_LIST_LIMIT else min n MAX_LIST_LIMIT

def clampOffset : Option ℚ → ℕ
  | none => 0
  | some n => if n < 0 then 0 else ⌊n⌋.toNat

/-- A text that is a condition: not the empty one. -/
def given (value : Option String) : Option String := value.filter fun text => text ≠ ""

/-- A date is `some none` where the text of the filter is not a date. -/
structure ListHistoryInput where
  userId : String
  requestType : Option String
  status : Option String
  model : Option String
  provider : Option String
  from_ : Option (Option ℤ)
  to_ : Option (Option ℤ)
  limit : ℚ
  offset : ℕ

structure AiRequestWhere where
  userId : String
  requestType : Option String
  status : Option String
  model : Option String
  provider : Option String
  gte : Option (Option ℤ)
  lte : Option (Option ℤ)

/-- The conditions are the same for the two tables. -/
def historyWhere (input : ListHistoryInput) : AiRequestWhere where
  userId := input.userId
  requestType := given input.requestType
  status := given input.status
  model := given input.model
  provider := given input.provider
  gte := input.from_
  lte := input.to_

def buildEventWhere (input : ListHistoryInput) : AiRequestWhere := historyWhere input

def buildLegacyWhere (input : ListHistoryInput) : AiRequestWhere := historyWhere input

def AiRequestWhere.admits (condition : AiRequestWhere) (row : AiHistoryRow) : Bool :=
  row.userId = condition.userId &&
    condition.requestType.all (fun requestType => row.requestType = some requestType) &&
    condition.status.all (fun status => row.status = status) &&
    condition.model.all (fun model => row.model = model) &&
    condition.provider.all (fun provider => row.provider = provider) &&
    condition.gte.all (fun date => date.all fun t => t ≤ row.occurredAt) &&
    condition.lte.all (fun date => date.all fun t => row.occurredAt ≤ t)

/-- The database client refuses an invalid date. -/
def AiRequestWhere.isValid (condition : AiRequestWhere) : Bool :=
  condition.gte.all Option.isSome && condition.lte.all Option.isSome

/-! ## Queries -/

def findMany (order : HistoryOrder) (condition : AiRequestWhere) (skip : ℕ) (take : ℚ)
    (rows : List AiHistoryRow) : Except Exception (List AiHistoryRow) :=
  if condition.isValid ∧ take.isInt then
    .ok (((order.arrange (rows.filter condition.admits)).drop skip).take take.num.toNat)
  else .error .prismaValidation

def count (condition : AiRequestWhere) (rows : List AiHistoryRow) : Except Exception ℕ :=
  if condition.isValid then .ok (rows.filter condition.admits).length
  else .error .prismaValidation

section Repository

variable (order : HistoryOrder) (input : ListHistoryInput) (tables : AiHistoryTables)

def listEventsForUser : Except Exception (List AiHistoryRow) :=
  findMany order (buildEventWhere input) input.offset input.limit tables.events

def countEventsForUser : Except Exception ℕ := count (buildEventWhere input) tables.events

def listLegacyForUser : Except Exception (List AiHistoryRow) :=
  findMany order (buildLegacyWhere input) input.offset input.limit tables.legacy

def countLegacyForUser : Except Exception ℕ := count (buildLegacyWhere input) tables.legacy

end Repository

/-! ## The service -/

structure AiHistoryListResponse where
  items : List AiHistoryListItem
  total : ℕ
  filters : AiHistoryListFilters

section Service

variable (dateOf : String → Option ℤ) (tables : AiHistoryTables) (userId : String)

/-- `queryInput`. -/
def queryInput (rawFilters : AiHistoryListFilters) : ListHistoryInput where
  userId := userId
  requestType := rawFilters.requestType
  status := rawFilters.status
  model := rawFilters.model
  provider := rawFilters.provider
  from_ := (given rawFilters.from_).map dateOf
  to_ := (given rawFilters.to_).map dateOf
  limit := clampLimit rawFilters.limit
  offset := clampOffset rawFilters.offset

/-- The filters of the answer. -/
def appliedFilters (rawFilters : AiHistoryListFilters) : AiHistoryListFilters where
  requestType := given rawFilters.requestType
  status := given rawFilters.status
  model := given rawFilters.model
  provider := given rawFilters.provider
  from_ := given rawFilters.from_
  to_ := given rawFilters.to_
  limit := some (clampLimit rawFilters.limit)
  offset := some (clampOffset rawFilters.offset)

def listHistory (order : HistoryOrder) (rawFilters : AiHistoryListFilters) :
    Except Exception AiHistoryListResponse := do
  let input := queryInput dateOf userId rawFilters
  let eventRecords ← listEventsForUser order input tables
  let eventTotal ← countEventsForUser input tables
  if 0 < eventTotal then
    return { items := eventRecords.map .event
             total := eventTotal
             filters := appliedFilters rawFilters }
  else
    let legacyRecords ← listLegacyForUser order input tables
    let legacyCount ← countLegacyForUser input tables
    return { items := legacyRecords.map .legacy
             total := legacyCount
             filters := appliedFilters rawFilters }

def getEventDetailForUser (id : String) : Option AiHistoryRow :=
  tables.events.find? fun row => row.id = id && row.userId = userId

def getLegacyDetailForUser (id : String) : Option AiHistoryRow :=
  tables.legacy.find? fun row => row.id = id && row.userId = userId

def getDetail (id : String) : Option AiHistoryListItem :=
  match getEventDetailForUser tables userId id with
  | some event => some (.event event)
  | none => (getLegacyDetailForUser tables userId id).map .legacy

/-! ## All pages -/

/-- The filters of the page with the number `n`. -/
def AiHistoryListFilters.page (rawFilters : AiHistoryListFilters) (n : ℕ) : AiHistoryListFilters :=
  { rawFilters with offset := some (n * clampLimit rawFilters.limit) }

/-- The complete listing: the first page tells how many follow, and the database orders the rows
anew for each of them. -/
def completeListing (orders : ℕ → HistoryOrder) (rawFilters : AiHistoryListFilters) :
    Except Exception (List AiHistoryListItem × ℕ) := do
  let first ← listHistory dateOf tables userId (orders 0) (rawFilters.page 0)
  let pages := ⌈(first.total : ℚ) / clampLimit rawFilters.limit⌉.toNat
  let rest ← (List.range' 1 (pages - 1)).mapM fun n =>
    listHistory dateOf tables userId (orders n) (rawFilters.page n)
  return ((first :: rest).flatMap fun response => response.items, first.total)

/-- The total is the number of items, and every item has a detail. -/
structure SoundListing (listing : List AiHistoryListItem × ℕ) : Prop where
  total_eq : listing.2 = listing.1.length
  has_detail : ∀ item ∈ listing.1, ∃ detail,
    getDetail tables userId item.row.id = some detail ∧ detail.row.id = item.row.id

/-- Whatever orders the database chooses, the listing under `G` has only items of the one
under `F`. -/
def OnlyRemoves (F G : AiHistoryListFilters) : Prop :=
  ∀ (ordersF ordersG : ℕ → HistoryOrder) (listingF listingG : List AiHistoryListItem × ℕ),
    completeListing dateOf tables userId ordersF F = .ok listingF →
    completeListing dateOf tables userId ordersG G = .ok listingG →
      listingG.1 ⊆ listingF.1 ∧ SoundListing tables userId listingF ∧
        SoundListing tables userId listingG

/-- What the filters admit. -/
def AiHistoryListFilters.admits (rawFilters : AiHistoryListFilters) : AiHistoryRow → Bool :=
  (historyWhere (queryInput dateOf userId rawFilters)).admits

/-- The dates of the filters are dates, and the limit is a whole number. -/
def AiHistoryListFilters.Accepted (rawFilters : AiHistoryListFilters) : Prop :=
  (historyWhere (queryInput dateOf userId rawFilters)).isValid = true ∧
    (clampLimit rawFilters.limit).isInt = true

/-- Rows that a page of `F` can push over its end have no place under `G`. -/
def Uncut (F G : AiHistoryListFilters) (rows : List AiHistoryRow) : Prop :=
  ∀ row ∈ rows.filter (G.admits dateOf userId), ∀ k,
    ¬ CutsTie AiHistoryRow.rank (rows.filter (F.admits dateOf userId))
      (k * (clampLimit F.limit).num.toNat) row

/-- `G` does not move the listing to the legacy table, and no page of `F` ends between rows of
one date of which `G` admits one. -/
structure KeepsTable (F G : AiHistoryListFilters) : Prop where
  no_switch : (∃ row ∈ tables.events, G.admits dateOf userId row = true) ∨
    (∀ row ∈ tables.events, F.admits dateOf userId row = false) ∨
    (∀ row ∈ tables.legacy, G.admits dateOf userId row = false)
  events_uncut : Uncut dateOf userId F G tables.events
  legacy_uncut : (∀ row ∈ tables.events, F.admits dateOf userId row = false) →
    Uncut dateOf userId F G tables.legacy

end Service

/-- Every condition of `F` is also a condition of `G`. -/
structure AiHistoryListFilters.Weaker (F G : AiHistoryListFilters) : Prop where
  requestType : ∀ value, given F.requestType = some value → given G.requestType = some value
  status : ∀ value, given F.status = some value → given G.status = some value
  model : ∀ value, given F.model = some value → given G.model = some value
  provider : ∀ value, given F.provider = some value → given G.provider = some value
  from_ : ∀ value, given F.from_ = some value → given G.from_ = some value
  to_ : ∀ value, given F.to_ = some value → given G.to_ = some value

/-! ## A page -/

theorem one_le_clampLimit (limit : Option ℚ) : 1 ≤ clampLimit limit := by
  have hdef : (1 : ℚ) ≤ 25 := by norm_num
  have hmax : (1 : ℚ) ≤ 200 := by norm_num
  cases limit with
  | none => exact hdef
  | some n =>
    show 1 ≤ if n < 1 then DEFAULT_LIST_LIMIT else min n MAX_LIST_LIMIT
    by_cases hn : n < 1
    · rw [if_pos hn]
      exact hdef
    · rw [if_neg hn]
      exact le_min (not_lt.mp hn) hmax

/-- The limit of accepted filters. -/
def AiHistoryListFilters.take (rawFilters : AiHistoryListFilters) : ℕ :=
  (clampLimit rawFilters.limit).num.toNat

section Accepted

variable {dateOf : String → Option ℤ} {userId : String} {rawFilters : AiHistoryListFilters}

section

variable (h : rawFilters.Accepted dateOf userId)
include h

theorem clampLimit_eq : clampLimit rawFilters.limit = rawFilters.take := by
  have hpos : 0 ≤ clampLimit rawFilters.limit :=
    zero_le_one.trans (one_le_clampLimit rawFilters.limit)
  have hnum : ((rawFilters.take : ℤ) : ℚ) = (clampLimit rawFilters.limit).num := by
    simp_all [AiHistoryListFilters.take]
  have hden : ((clampLimit rawFilters.limit).num : ℚ) = clampLimit rawFilters.limit :=
    Rat.coe_int_num_of_den_eq_one (by simpa [Rat.isInt] using h.2)
  rw [← hden, ← hnum]
  rfl

theorem take_pos : 0 < rawFilters.take := by
  have hone := one_le_clampLimit rawFilters.limit
  rw [clampLimit_eq h] at hone
  exact Nat.cast_le.mp hone

theorem clampOffset_page (n : ℕ) :
    clampOffset (rawFilters.page n).offset = n * rawFilters.take := by
  have hoffset : (rawFilters.page n).offset = some ((n * rawFilters.take : ℕ) : ℚ) := by
    show some ((n : ℚ) * clampLimit rawFilters.limit) = _
    rw [clampLimit_eq h, Nat.cast_mul]
  rw [hoffset]
  unfold clampOffset
  simp only
  rw [if_neg (not_lt.mpr (Nat.cast_nonneg _)), Int.floor_natCast, Int.toNat_natCast]

end

variable (dateOf userId rawFilters) in
/-- The rows of the table that is shown. -/
def shownRows (tables : AiHistoryTables) : List AiHistoryRow :=
  if tables.events.any (rawFilters.admits dateOf userId) then
    tables.events.filter (rawFilters.admits dateOf userId)
  else tables.legacy.filter (rawFilters.admits dateOf userId)

variable (dateOf userId rawFilters) in
/-- The table that is shown. -/
def shownItem (tables : AiHistoryTables) : AiHistoryRow → AiHistoryListItem :=
  if tables.events.any (rawFilters.admits dateOf userId) then .event else .legacy

variable (dateOf userId rawFilters) in
/-- The page with the number `n`. -/
def shownPage (tables : AiHistoryTables) (order : HistoryOrder) (n : ℕ) :
    AiHistoryListResponse where
  items := (page rawFilters.take n (order.arrange (shownRows dateOf userId rawFilters tables))).map
      (shownItem dateOf userId rawFilters tables)
  total := (shownRows dateOf userId rawFilters tables).length
  filters := appliedFilters (rawFilters.page n)

section

variable (h : rawFilters.Accepted dateOf userId)
include h

theorem findMany_page (order : HistoryOrder) (n : ℕ) (rows : List AiHistoryRow) :
    findMany order (historyWhere (queryInput dateOf userId (rawFilters.page n)))
        (clampOffset (rawFilters.page n).offset) (clampLimit rawFilters.limit) rows =
      .ok (page rawFilters.take n
        (order.arrange (rows.filter (rawFilters.admits dateOf userId)))) := by
  rw [clampOffset_page h]
  exact if_pos h

theorem count_page (n : ℕ) (rows : List AiHistoryRow) :
    count (historyWhere (queryInput dateOf userId (rawFilters.page n))) rows =
      .ok (rows.filter (rawFilters.admits dateOf userId)).length :=
  if_pos h.1

theorem listHistory_page (tables : AiHistoryTables) (order : HistoryOrder) (n : ℕ) :
    listHistory dateOf tables userId order (rawFilters.page n) =
      .ok (shownPage dateOf userId rawFilters tables order n) := by
  refine bind_eq_ok_iff.mpr ⟨_, findMany_page h order n tables.events, ?_⟩
  refine bind_eq_ok_iff.mpr ⟨_, count_page h n tables.events, ?_⟩
  unfold shownPage shownRows shownItem
  by_cases hany : tables.events.any (rawFilters.admits dateOf userId) = true
  · have hsome : 0 < (tables.events.filter (rawFilters.admits dateOf userId)).length := by simp_all
    rw [if_pos hsome, if_pos hany, if_pos hany]
    rfl
  have hnone : ¬ 0 < (tables.events.filter (rawFilters.admits dateOf userId)).length := by
    simp_all
  rw [if_neg hnone, if_neg hany, if_neg hany]
  refine bind_eq_ok_iff.mpr ⟨_, findMany_page h order n tables.legacy, ?_⟩
  exact bind_eq_ok_iff.mpr ⟨_, count_page h n tables.legacy, rfl⟩

/-- A complete listing has the pages of the rows that are shown. -/
theorem exists_completeListing (tables : AiHistoryTables) :
    ∃ n, (shownRows dateOf userId rawFilters tables).length ≤ n * rawFilters.take ∧
      ∀ orders, completeListing dateOf tables userId orders rawFilters =
        .ok (((List.range n).flatMap fun k => page rawFilters.take k
          ((orders k).arrange (shownRows dateOf userId rawFilters tables))).map
            (shownItem dateOf userId rawFilters tables),
          (shownRows dateOf userId rawFilters tables).length) := by
  generalize hlen : (shownRows dateOf userId rawFilters tables).length = len
  generalize hpages : ⌈(len : ℚ) / clampLimit rawFilters.limit⌉.toNat = pages
  have hend : len ≤ (pages - 1 + 1) * rawFilters.take := by
    have hlimit : (0 : ℚ) < rawFilters.take := Nat.cast_pos.mpr (take_pos h)
    have hle : (len : ℚ) / rawFilters.take ≤ pages := by
      rw [← hpages, clampLimit_eq h]
      exact (Int.le_ceil _).trans (by exact_mod_cast Int.self_le_toNat _)
    have hmul : len ≤ pages * rawFilters.take := by
      rw [div_le_iff₀ hlimit] at hle
      exact_mod_cast hle
    exact hmul.trans (Nat.mul_le_mul_right _ (by omega))
  refine ⟨pages - 1 + 1, hend, ?_⟩
  intro orders
  have hpage : ∀ n, listHistory dateOf tables userId (orders n) (rawFilters.page n) =
      .ok (shownPage dateOf userId rawFilters tables (orders n) n) :=
    fun n => listHistory_page h tables (orders n) n
  refine bind_eq_ok_iff.mpr ⟨_, hpage 0, ?_⟩
  have hrest : (List.range' 1 (pages - 1)).mapM (fun n =>
      listHistory dateOf tables userId (orders n) (rawFilters.page n)) =
      .ok ((List.range' 1 (pages - 1)).map fun n =>
        shownPage dateOf userId rawFilters tables (orders n) n) := by
    simp only [hpage]
    exact List.mapM_pure
  have htotal : (shownPage dateOf userId rawFilters tables (orders 0) 0).total = len := hlen
  rw [htotal, hpages]
  refine bind_eq_ok_iff.mpr ⟨_, hrest, congrArg Except.ok (Prod.ext ?_ rfl)⟩
  rw [List.range_eq_range', List.range'_succ, List.flatMap_cons, List.flatMap_cons,
    List.map_append, List.map_flatMap, List.flatMap_map]
  rfl

end

variable {listing : List AiHistoryListItem × ℕ} {orders : ℕ → HistoryOrder}

variable {tables : AiHistoryTables}

section

variable (h : completeListing dateOf tables userId orders rawFilters = .ok listing)
include h

/-- A listing that succeeds has accepted filters. -/
theorem accepted_of_completeListing : rawFilters.Accepted dateOf userId := by
  obtain ⟨first, hfirst, -⟩ := bind_eq_ok_iff.mp h
  obtain ⟨eventRecords, hevs, -⟩ := bind_eq_ok_iff.mp hfirst
  by_contra hrefused
  have herror : listEventsForUser (orders 0) (queryInput dateOf userId (rawFilters.page 0)) tables =
      .error .prismaValidation := if_neg hrefused
  rw [herror] at hevs
  cases hevs

theorem completeListing_eq :
    ∃ n, (shownRows dateOf userId rawFilters tables).length ≤ n * rawFilters.take ∧
      listing = (((List.range n).flatMap fun k => page rawFilters.take k
        ((orders k).arrange (shownRows dateOf userId rawFilters tables))).map
          (shownItem dateOf userId rawFilters tables),
        (shownRows dateOf userId rawFilters tables).length) := by
  obtain ⟨n, hn, hlisting⟩ := exists_completeListing (accepted_of_completeListing h) tables
  rw [hlisting] at h
  exact ⟨n, hn, (Except.ok.inj h).symm⟩

end

/-! ## Rows and items -/

theorem AiHistoryTables.shownRows_nodup (tables : AiHistoryTables) :
    (shownRows dateOf userId rawFilters tables).Nodup := by
  unfold shownRows
  split
  · exact (tables.eventIds.of_map _).filter _
  · exact (tables.legacyIds.of_map _).filter _

theorem shownItem_injective (tables : AiHistoryTables) :
    Function.Injective (shownItem dateOf userId rawFilters tables) := by
  intro row row' h
  unfold shownItem at h
  split at h
  · exact AiHistoryListItem.event.inj h
  · exact AiHistoryListItem.legacy.inj h

theorem row_shownItem (tables : AiHistoryTables) (row : AiHistoryRow) :
    (shownItem dateOf userId rawFilters tables row).row = row := by
  unfold shownItem
  split <;> rfl

theorem userId_of_admits {row : AiHistoryRow}
    (h : rawFilters.admits dateOf userId row = true) : row.userId = userId := by
  unfold AiHistoryListFilters.admits AiRequestWhere.admits at h
  simp only [Bool.and_eq_true] at h
  exact of_decide_eq_true h.1.1.1.1.1.1

/-- Every row that is shown is found by its id. -/
theorem getDetail_of_shown {row : AiHistoryRow}
    (h : row ∈ shownRows dateOf userId rawFilters tables) :
    ∃ detail, getDetail tables userId row.id = some detail ∧ detail.row.id = row.id := by
  have hfound : ∀ {rows : List AiHistoryRow}, row ∈ rows → row.userId = userId →
      ∃ found, (rows.find? fun other => other.id = row.id && other.userId = userId) =
        some found ∧ found.id = row.id := by
    intro rows hrow huser
    cases hfind : rows.find? fun other => other.id = row.id && other.userId = userId with
    | none | some found => grind
  unfold getDetail
  cases hev : getEventDetailForUser tables userId row.id with
  | some event =>
    have hboth := List.find?_some hev
    simp only [Bool.and_eq_true] at hboth
    exact ⟨.event event, rfl, of_decide_eq_true hboth.1⟩
  | none =>
    -- then the row is one of the legacy table
    unfold shownRows at h
    split at h
    · obtain ⟨hrow, hadmits⟩ := List.mem_filter.mp h
      obtain ⟨found, hfind, -⟩ := hfound hrow (userId_of_admits hadmits)
      unfold getEventDetailForUser at hev
      rw [hev] at hfind
      cases hfind
    obtain ⟨hrow, hadmits⟩ := List.mem_filter.mp h
    obtain ⟨found, hfind, hid⟩ := hfound hrow (userId_of_admits hadmits)
    refine ⟨.legacy found, ?_, hid⟩
    unfold getLegacyDetailForUser
    rw [hfind]
    rfl

theorem soundListing (h : completeListing dateOf tables userId orders rawFilters = .ok listing) :
    SoundListing tables userId listing := by
  obtain ⟨n, hn, rfl⟩ := completeListing_eq h
  have harranged : ∀ k, Arranged AiHistoryRow.rank (shownRows dateOf userId rawFilters tables)
      ((orders k).arrange (shownRows dateOf userId rawFilters tables)) :=
    fun k => (orders k).arranged _
  constructor
  · rw [List.length_map, length_pages hn harranged]
  intro item hitem
  obtain ⟨row, hrow, rfl⟩ := List.mem_map.mp hitem
  rw [row_shownItem]
  exact getDetail_of_shown (pages_subset harranged hrow)

/-! ## Which items are sure to be listed -/

/-- An order of the database that gives the rows as the list has them. -/
def HistoryOrder.choosing (rows list : List AiHistoryRow)
    (h : Arranged AiHistoryRow.rank rows list) : HistoryOrder where
  arrange others :=
    if others = rows then list
    else others.insertionSort fun a b => a.rank ≤ b.rank
  arranged others := by
    split
    · rename_i heq
      rw [heq]
      exact h
    · exact arranged_insertionSort AiHistoryRow.rank others

theorem arrange_choosing {rows list : List AiHistoryRow}
    (h : Arranged AiHistoryRow.rank rows list) :
    (HistoryOrder.choosing rows list h).arrange rows = list := if_pos rfl

/-- An item is in the listing for all orders of the database, exactly where it belongs to a row
that no end of a page cuts. -/
theorem listed_iff (h : rawFilters.Accepted dateOf userId) {item : AiHistoryListItem} :
    (∀ orders listing, completeListing dateOf tables userId orders rawFilters = .ok listing →
      item ∈ listing.1) ↔
    ∃ row ∈ shownRows dateOf userId rawFilters tables,
      shownItem dateOf userId rawFilters tables row = item ∧
        ∀ k, ¬ CutsTie AiHistoryRow.rank (shownRows dateOf userId rawFilters tables)
          (k * rawFilters.take) row := by
  obtain ⟨n, hn, hlisting⟩ := exists_completeListing h tables
  have hnodup : (shownRows dateOf userId rawFilters tables).Nodup := tables.shownRows_nodup
  constructor
  · intro hall
    have hsort := arranged_insertionSort AiHistoryRow.rank
      (shownRows dateOf userId rawFilters tables)
    have hdef := hall (fun _ => .choosing _ _ hsort) _ (hlisting _)
    obtain ⟨row, hrow, hitem⟩ := List.mem_map.mp hdef
    have hshown : row ∈ shownRows dateOf userId rawFilters tables :=
      pages_subset (fun k => HistoryOrder.arranged _ _) hrow
    refine ⟨row, hshown, hitem, (mem_pages_iff hnodup hn hshown).mp ?_⟩
    intro lists hlists
    have hmem := hall (fun k => .choosing _ _ (hlists k)) _ (hlisting _)
    rw [← hitem, List.mem_map_of_injective (shownItem_injective tables)] at hmem
    simp only [arrange_choosing] at hmem
    exact hmem
  · rintro ⟨row, hrow, rfl, huncut⟩ orders listing hok
    rw [hlisting] at hok
    rw [← Except.ok.inj hok]
    refine List.mem_map_of_mem ?_
    exact (mem_pages_iff hnodup hn hrow).mpr huncut _ fun k => (orders k).arranged _

/-- A database that always gives one order lists all rows. -/
theorem exists_listing_of_shown (h : rawFilters.Accepted dateOf userId) (tables : AiHistoryTables) :
    ∃ orders listing, completeListing dateOf tables userId orders rawFilters = .ok listing ∧
      ∀ row ∈ shownRows dateOf userId rawFilters tables,
        shownItem dateOf userId rawFilters tables row ∈ listing.1 := by
  obtain ⟨n, hn, hlisting⟩ := exists_completeListing h tables
  have hsort := arranged_insertionSort AiHistoryRow.rank (shownRows dateOf userId rawFilters tables)
  refine ⟨fun _ => .choosing _ _ hsort, _, hlisting _, ?_⟩
  intro row hrow
  refine List.mem_map_of_mem ?_
  simp only [arrange_choosing]
  rw [List.range_eq_range', flatMap_page, Nat.zero_mul, List.drop_zero,
    List.take_of_length_le (by rw [hsort.perm.length_eq]; exact hn)]
  exact hsort.perm.mem_iff.mpr hrow

end Accepted

section Pair

variable {dateOf : String → Option ℤ} {tables : AiHistoryTables} {userId : String}
  {F G : AiHistoryListFilters}

theorem onlyRemoves_iff_shown : OnlyRemoves dateOf tables userId F G ↔
      (F.Accepted dateOf userId → G.Accepted dateOf userId →
        ∀ row ∈ shownRows dateOf userId G tables, ∃ row' ∈ shownRows dateOf userId F tables,
          shownItem dateOf userId F tables row' = shownItem dateOf userId G tables row ∧
            ∀ k, ¬ CutsTie AiHistoryRow.rank (shownRows dateOf userId F tables)
              (k * F.take) row') := by
  constructor
  · intro h hF hG row hrow
    obtain ⟨ordersG, listingG, hokG, hlisted⟩ := exists_listing_of_shown hG tables
    refine (listed_iff hF).mp ?_
    intro ordersF listingF hokF
    exact (h ordersF ordersG listingF listingG hokF hokG).1 (hlisted row hrow)
  intro h ordersF ordersG listingF listingG hokF hokG
  refine ⟨?_, soundListing hokF, soundListing hokG⟩
  intro item hitem
  obtain ⟨n, -, hlistingG⟩ := completeListing_eq hokG
  rw [hlistingG] at hitem
  obtain ⟨row, hrow, rfl⟩ := List.mem_map.mp hitem
  have hshown : row ∈ shownRows dateOf userId G tables :=
    pages_subset (fun k => HistoryOrder.arranged _ _) hrow
  have hF := accepted_of_completeListing hokF
  have hG := accepted_of_completeListing hokG
  exact (listed_iff hF).mpr (h hF hG row hshown) ordersF listingF hokF

theorem implied {value value' : Option String} {p : String → Bool}
    (h : ∀ text, value = some text → value' = some text) (hall : value'.all p = true) :
    value.all p = true := by
  cases hval : value with
  | none => rfl
  | some text =>
    rw [h text hval] at hall
    exact hall

/-- What the stronger filters admit, the weaker ones admit. -/
theorem AiHistoryListFilters.Weaker.admits (h : F.Weaker G) {row : AiHistoryRow}
    (hrow : G.admits dateOf userId row = true) : F.admits dateOf userId row = true := by
  have hdate : ∀ {value value' : Option String} {p : Option ℤ → Bool},
      (∀ text, value = some text → value' = some text) →
        (value'.map dateOf).all p = true → (value.map dateOf).all p = true := by
    intro value value' p himplied hall
    rw [Option.all_map] at hall ⊢
    exact implied himplied hall
  unfold AiHistoryListFilters.admits AiRequestWhere.admits at hrow ⊢
  simp only [Bool.and_eq_true] at hrow ⊢
  obtain ⟨⟨⟨⟨⟨⟨huser, htype⟩, hstat⟩, hmodel⟩, hprov⟩, hgte⟩, hlte⟩ := hrow
  exact ⟨⟨⟨⟨⟨⟨huser, implied h.requestType htype⟩, implied h.status hstat⟩,
    implied h.model hmodel⟩, implied h.provider hprov⟩, hdate h.from_ hgte⟩, hdate h.to_ hlte⟩

variable {rawFilters : AiHistoryListFilters}

theorem shown_of_event {row : AiHistoryRow}
    (hrow : row ∈ tables.events) (hadmits : rawFilters.admits dateOf userId row = true) :
    shownRows dateOf userId rawFilters tables =
        tables.events.filter (rawFilters.admits dateOf userId) ∧
      shownItem dateOf userId rawFilters tables = .event := by
  have hany : tables.events.any (rawFilters.admits dateOf userId) = true :=
    List.any_eq_true.mpr ⟨row, hrow, hadmits⟩
  exact ⟨if_pos hany, if_pos hany⟩

theorem shown_of_no_event (h : ∀ row ∈ tables.events, rawFilters.admits dateOf userId row = false) :
    shownRows dateOf userId rawFilters tables =
        tables.legacy.filter (rawFilters.admits dateOf userId) ∧
      shownItem dateOf userId rawFilters tables = .legacy := by
  have hnone : ¬ tables.events.any (rawFilters.admits dateOf userId) = true := by grind
  exact ⟨if_neg hnone, if_neg hnone⟩

end Pair

/-- A filter with more conditions only removes items, exactly where it does not move the listing
to the legacy table and no page ends between equal rows that it admits. -/
theorem onlyRemoves_iff (dateOf : String → Option ℤ) (tables : AiHistoryTables) (userId : String)
    {F G : AiHistoryListFilters} (h : F.Weaker G) :
    OnlyRemoves dateOf tables userId F G ↔ (F.Accepted dateOf userId → G.Accepted dateOf userId →
        KeepsTable dateOf tables userId F G) := by
  have hmore : ∀ rows : List AiHistoryRow, ∀ row ∈ rows.filter (G.admits dateOf userId),
      row ∈ rows.filter (F.admits dateOf userId) := by
    intro rows row hrow
    obtain ⟨hmem, hadmits⟩ := List.mem_filter.mp hrow
    exact List.mem_filter.mpr ⟨hmem, h.admits hadmits⟩
  rw [onlyRemoves_iff_shown]
  refine forall_congr' fun hF => forall_congr' fun hG => ?_
  constructor
  · intro hall
    constructor
    · -- a listing of events has no item of the legacy table
      by_contra hswitch
      push Not at hswitch
      obtain ⟨hnoEvent, ⟨event, hevent, hadmits⟩, ⟨row, hrow, hlegacy⟩⟩ := hswitch
      have hnoneG : ∀ row ∈ tables.events, G.admits dateOf userId row = false :=
        fun row hrow => Bool.eq_false_iff.mpr (hnoEvent row hrow)
      have hadmitsF := Bool.eq_true_of_not_eq_false hadmits
      have hadmitsG := Bool.eq_true_of_not_eq_false hlegacy
      obtain ⟨hrowsG, hitemG⟩ := shown_of_no_event hnoneG
      obtain ⟨-, hitemF⟩ := shown_of_event hevent hadmitsF
      rw [hrowsG, hitemG, hitemF] at hall
      obtain ⟨row', -, heq, -⟩ := hall row (List.mem_filter.mpr ⟨hrow, hadmitsG⟩)
      cases heq
    · intro row hrow
      obtain ⟨hmem, hadmits⟩ := List.mem_filter.mp hrow
      obtain ⟨hrowsG, hitemG⟩ := shown_of_event hmem hadmits
      obtain ⟨hrowsF, hitemF⟩ := shown_of_event hmem (h.admits hadmits)
      rw [hrowsG, hitemG, hrowsF, hitemF] at hall
      obtain ⟨row', -, heq, huncut⟩ := hall row hrow
      rw [AiHistoryListItem.event.inj heq] at huncut
      exact huncut
    · intro hnone row hrow
      have hnoneG : ∀ row ∈ tables.events, G.admits dateOf userId row = false := by
        intro event hevent
        rw [Bool.eq_false_iff]
        intro hadmits
        have hadmitsF : F.admits dateOf userId event = true := h.admits hadmits
        rw [hnone event hevent] at hadmitsF
        cases hadmitsF
      obtain ⟨hrowsG, hitemG⟩ := shown_of_no_event hnoneG
      obtain ⟨hrowsF, hitemF⟩ := shown_of_no_event hnone
      rw [hrowsG, hitemG, hrowsF, hitemF] at hall
      obtain ⟨row', -, heq, huncut⟩ := hall row hrow
      rw [AiHistoryListItem.legacy.inj heq] at huncut
      exact huncut
  · intro hkeeps row hrow
    by_cases hany : ∃ event ∈ tables.events, G.admits dateOf userId event = true
    · obtain ⟨event, hevent, hadmits⟩ := hany
      obtain ⟨hrowsG, hitemG⟩ := shown_of_event hevent hadmits
      obtain ⟨hrowsF, hitemF⟩ := shown_of_event hevent (h.admits hadmits)
      rw [hrowsG] at hrow
      rw [hitemG, hrowsF, hitemF]
      exact ⟨row, hmore _ row hrow, rfl, hkeeps.events_uncut row hrow⟩
    have hnoneG : ∀ event ∈ tables.events, G.admits dateOf userId event = false := by grind
    obtain ⟨hrowsG, hitemG⟩ := shown_of_no_event hnoneG
    rw [hrowsG] at hrow
    rcases hkeeps.no_switch with hsome | hnone | hempty
    · exact absurd hsome hany
    · obtain ⟨hrowsF, hitemF⟩ := shown_of_no_event hnone
      rw [hitemG, hrowsF, hitemF]
      exact ⟨row, hmore _ row hrow, rfl, hkeeps.legacy_uncut hnone row hrow⟩
    · grind

/-! ## A filter that adds an item -/

/-- A request of one user at the time 0. -/
def request (id status : String) : AiHistoryRow where
  id := id
  userId := "alice"
  requestType := some "text"
  status := status
  model := "gpt"
  provider := "openrouter"
  occurredAt := 0
  createdAt := 0

def oneOfEach : AiHistoryTables where
  events := [request "new" "success"]
  legacy := [request "old" "error"]
  eventIds := by decide
  legacyIds := by decide

def onlyErrors : AiHistoryListFilters := { status := some "error" }

theorem weaker_onlyErrors : AiHistoryListFilters.Weaker {} onlyErrors := by
  constructor <;> exact fun value hval => absurd hval (by simp [given])

/-- The filter for errors brings the legacy request into the list. -/
theorem onlyErrors_adds : ¬ ∀ (dateOf : String → Option ℤ) (tables : AiHistoryTables)
    (userId : String) (F G : AiHistoryListFilters), F.Weaker G →
      OnlyRemoves dateOf tables userId F G := by
  intro h
  have hshown := onlyRemoves_iff_shown.mp
    (h (fun _ => none) oneOfEach "alice" {} onlyErrors weaker_onlyErrors)
  have hold : request "old" "error" ∈ shownRows (fun _ => none) "alice" onlyErrors oneOfEach := by
    decide
  obtain ⟨row, -, heq, -⟩ := hshown ⟨rfl, by decide⟩ ⟨rfl, by decide⟩ _ hold
  cases heq

/-- The rule at these filters. -/
theorem onlyRemoves_onlyErrors : OnlyRemoves (fun _ => none) oneOfEach "alice" {} onlyErrors ↔
      (AiHistoryListFilters.Accepted (fun _ => none) "alice" {} →
        onlyErrors.Accepted (fun _ => none) "alice" →
          KeepsTable (fun _ => none) oneOfEach "alice" {} onlyErrors) :=
  onlyRemoves_iff (fun _ => none) oneOfEach "alice" weaker_onlyErrors

end QuizMind.History

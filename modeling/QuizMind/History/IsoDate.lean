import QuizMind.History.Analytics

/-! # Dates as texts

`Date.prototype.toISOString` and `Date.parse`. The text of a time value is read as that value
(`dateParse_toISOString`); what `Date.parse` makes of any other text is a parameter.
-/

namespace QuizMind.History

/-! ## Writing -/

/-- The year of a date: four digits, or a sign and six. -/
def yearText (year : ℤ) : List Char :=
  if 0 ≤ year ∧ year ≤ 9999 then padded 4 year.toNat
  else (if year < 0 then '-' else '+') :: padded 6 year.natAbs

/-- The time of a day in milliseconds. -/
def timeText (time : ℕ) : List Char :=
  padded 2 (time / 3600000) ++ ':' :: (padded 2 (time / 60000 % 60) ++
    ':' :: (padded 2 (time / 1000 % 60) ++ '.' :: (padded 3 (time % 1000) ++ ['Z'])))

def toISOString (t : ℤ) : List Char :=
  let (year, month, day) := civilDate (t / 86400000)
  yearText year ++ '-' :: (padded 2 month.toNat ++ '-' :: (padded 2 day.toNat ++
    'T' :: timeText (t % 86400000).toNat))

/-! ## Reading -/

/-- The days since the epoch of a date of the calendar. -/
def dayOfDate (year month day : ℤ) : ℤ :=
  let marchYear := if month ≤ 2 then year - 1 else year
  let marchMonth := if 2 < month then month - 3 else month + 9
  let yearOfEra := marchYear % 400
  let dayOfYear := (153 * marchMonth + 2) / 5 + day - 1
  marchYear / 400 * 146097 + (365 * yearOfEra + yearOfEra / 4 - yearOfEra / 100 + dayOfYear) -
    719468

/-- A number of the given width and the character that closes it. -/
def readField (width : ℕ) (closing : Char) (text : List Char) : Option (ℕ × List Char) :=
  let digits := text.take width
  if digits.length = width ∧ digits.all Char.isDigit ∧ (text.drop width).head? = some closing then
    some (Nat.ofDigitChars 10 digits 0, text.drop (width + 1))
  else none

def readYear : List Char → Option (ℤ × List Char)
  | '+' :: rest => (readField 6 '-' rest).map fun p => ((p.1 : ℤ), p.2)
  | '-' :: rest => (readField 6 '-' rest).map fun p => (-(p.1 : ℤ), p.2)
  | text => (readField 4 '-' text).map fun p => ((p.1 : ℤ), p.2)

def readTime (text : List Char) : Option (ℕ × List Char) := do
  let (hours, rest) ← readField 2 ':' text
  let (minutes, rest) ← readField 2 ':' rest
  let (seconds, rest) ← readField 2 '.' rest
  let (milliseconds, rest) ← readField 3 'Z' rest
  return (hours * 3600000 + minutes * 60000 + seconds * 1000 + milliseconds, rest)

/-- The time value that a text of the form of `toISOString` names. -/
def readISOString (text : List Char) : Option ℤ := do
  let (year, rest) ← readYear text
  let (month, rest) ← readField 2 '-' rest
  let (day, rest) ← readField 2 'T' rest
  let (time, rest) ← readTime rest
  if rest = [] then some (dayOfDate year month day * 86400000 + time) else none

/-- `Date.parse`: the texts of time values are read as these; for the others it is `otherDates`. -/
def dateParse (otherDates : List Char → Option ℤ) (text : List Char) : Option ℤ :=
  match readISOString text with
  | some t => if toISOString t = text then some t else otherDates text
  | none => otherDates text

/-! ## What was written is read back -/

theorem length_padded {width n : ℕ} (hwidth : 0 < width) (hn : n < 10 ^ width) :
    (padded width n).length = width := by
  have hle : (Nat.toDigits 10 n).length ≤ width :=
    (Nat.length_toDigits_le_iff (by norm_num) hwidth).mpr hn
  have hdigits : (toString n).toList = Nat.toDigits 10 n := Nat.toList_repr
  unfold padded
  rw [hdigits, List.length_append, List.length_replicate]
  omega

theorem isDigit_of_mem_padded {width n : ℕ} {c : Char} (h : c ∈ padded width n) :
    c.isDigit = true := by
  have hdigits : (toString n).toList = Nat.toDigits 10 n := Nat.toList_repr
  unfold padded at h
  rw [hdigits] at h
  rcases List.mem_append.mp h with hzero | hdigit
  · rw [(List.mem_replicate.mp hzero).2]
    rfl
  · exact Nat.isDigit_of_mem_toDigits (by norm_num) (by norm_num) hdigit

theorem ofDigitChars_padded (width n : ℕ) : Nat.ofDigitChars 10 (padded width n) 0 = n := by
  have hdigits : (toString n).toList = Nat.toDigits 10 n := Nat.toList_repr
  unfold padded
  rw [hdigits, Nat.ofDigitChars_append, Nat.ofDigitChars_replicate_zero, Nat.mul_zero,
    Nat.ofDigitChars_ten_toDigits]

theorem readField_padded {width n : ℕ} (hwidth : 0 < width) (hn : n < 10 ^ width) (closing : Char)
    (rest : List Char) :
    readField width closing (padded width n ++ closing :: rest) = some (n, rest) := by
  have hlen := length_padded hwidth hn
  have htake : (padded width n ++ closing :: rest).take width = padded width n := by grind
  have hdrop : (padded width n ++ closing :: rest).drop width = closing :: rest := by grind
  have hrest : (padded width n ++ closing :: rest).drop (width + 1) = rest := by
    rw [← List.drop_drop, hdrop]
    rfl
  have hall : (padded width n).all Char.isDigit = true :=
    List.all_eq_true.mpr fun c hc => isDigit_of_mem_padded hc
  unfold readField
  simp only [htake, hdrop, hrest]
  rw [if_pos ⟨hlen, hall, rfl⟩, ofDigitChars_padded]

theorem yearOfEra_bounds {dayOfEra yearOfEra : ℤ} (hlow : 0 ≤ dayOfEra)
    (hhigh : dayOfEra < 146097) (hyear : yearOfEra =
      (dayOfEra - dayOfEra / 1460 + dayOfEra / 36524 - dayOfEra / 146096) / 365) :
    0 ≤ yearOfEra ∧ yearOfEra ≤ 399 := by
  omega

/-- The day of the year, counted from March; the centuries are told apart because only the
fourth has a leap day of its own. -/
theorem dayOfYear_bounds {dayOfEra yearOfEra : ℤ} (hlow : 0 ≤ dayOfEra) (hhigh : dayOfEra < 146097)
    (hyear : yearOfEra =
      (dayOfEra - dayOfEra / 1460 + dayOfEra / 36524 - dayOfEra / 146096) / 365) :
    0 ≤ dayOfEra - (365 * yearOfEra + yearOfEra / 4 - yearOfEra / 100) ∧
      dayOfEra - (365 * yearOfEra + yearOfEra / 4 - yearOfEra / 100) ≤ 365 := by
  have hcentury : dayOfEra / 36524 = 0 ∨ dayOfEra / 36524 = 1 ∨ dayOfEra / 36524 = 2 ∨
      dayOfEra / 36524 = 3 ∨ dayOfEra / 36524 = 4 := by
    omega
  have hleap : yearOfEra / 4 ≤ dayOfEra / 1460 := by omega
  rcases hcentury with hc | hc | hc | hc | hc
  all_goals
    constructor
    · omega
    · omega

/-- A day of the calendar, with its era and its place in it. -/
structure CalendarDay (day year month dayOfMonth : ℤ) where
  yearOfEra : ℤ
  dayOfYear : ℤ
  yearOfEra_bounds : 0 ≤ yearOfEra ∧ yearOfEra ≤ 399
  dayOfYear_bounds : 0 ≤ dayOfYear ∧ dayOfYear ≤ 365
  dayOfEra : (day + 719468) % 146097 = 365 * yearOfEra + yearOfEra / 4 - yearOfEra / 100 + dayOfYear
  month_eq : month = if (5 * dayOfYear + 2) / 153 < 10 then (5 * dayOfYear + 2) / 153 + 3
    else (5 * dayOfYear + 2) / 153 - 9
  year_eq : year = 400 * ((day + 719468) / 146097) + yearOfEra + if month ≤ 2 then 1 else 0
  dayOfMonth_eq : dayOfMonth = dayOfYear - (153 * ((5 * dayOfYear + 2) / 153) + 2) / 5 + 1

theorem calendarDay_civilDate {day year month dayOfMonth : ℤ}
    (h : civilDate day = (year, month, dayOfMonth)) :
    Nonempty (CalendarDay day year month dayOfMonth) := by
  simp only [civilDate, Prod.mk.injEq] at h
  obtain ⟨hyear, hmonth, hday⟩ := h
  have hlow : 0 ≤ (day + 719468) % 146097 := Int.emod_nonneg _ (by norm_num)
  have hhigh : (day + 719468) % 146097 < 146097 := Int.emod_lt_of_pos _ (by norm_num)
  generalize hera : (day + 719468) % 146097 = dayOfEra at *
  generalize hyoe : (dayOfEra - dayOfEra / 1460 + dayOfEra / 36524 - dayOfEra / 146096) / 365 =
    yearOfEra at *
  refine ⟨⟨yearOfEra, dayOfEra - (365 * yearOfEra + yearOfEra / 4 - yearOfEra / 100),
    yearOfEra_bounds hlow hhigh hyoe.symm, dayOfYear_bounds hlow hhigh hyoe.symm, ?_,
    hmonth.symm, ?_, hday.symm⟩⟩
  · rw [hera, add_sub_cancel]
  · rw [← hyear, ← hmonth]

namespace CalendarDay

variable {day year month dayOfMonth : ℤ}

section

variable (h : CalendarDay day year month dayOfMonth)
include h

theorem month_bounds : 1 ≤ month ∧ month ≤ 12 := by
  have hmonth := h.month_eq
  have hday := h.dayOfYear_bounds
  split at hmonth <;> omega

theorem dayOfMonth_bounds : 1 ≤ dayOfMonth ∧ dayOfMonth ≤ 31 := by
  have heq := h.dayOfMonth_eq
  omega

theorem dayOfDate_eq : dayOfDate year month dayOfMonth = day := by
  have hyears := h.yearOfEra_bounds
  have hdays := h.dayOfYear_bounds
  have hera := h.dayOfEra
  have hmonth := h.month_eq
  have hyear := h.year_eq
  have hdayOfMonth := h.dayOfMonth_eq
  -- the month counted from March, the year that begins in March, and its place in the era
  have hmarch : (if 2 < month then month - 3 else month + 9) = (5 * h.dayOfYear + 2) / 153 := by
    split at hmonth <;> split <;> omega
  have hmarchYear : (if month ≤ 2 then year - 1 else year) =
      400 * ((day + 719468) / 146097) + h.yearOfEra := by
    split at hyear <;> split <;> omega
  have hplace : (400 * ((day + 719468) / 146097) + h.yearOfEra) % 400 = h.yearOfEra := by omega
  unfold dayOfDate
  simp only [hmarchYear, hplace]
  omega

end

end CalendarDay

theorem readYear_yearText {year : ℤ} (h : -1000000 < year ∧ year < 1000000) (rest : List Char) :
    readYear (yearText year ++ '-' :: rest) = some (year, rest) := by
  unfold yearText
  by_cases hplain : 0 ≤ year ∧ year ≤ 9999
  · rw [if_pos hplain]
    have hfield := readField_padded (n := year.toNat) (by norm_num : 0 < 4) (by omega) '-' rest
    have hnumber : ((year.toNat : ℕ) : ℤ) = year := Int.toNat_of_nonneg hplain.1
    have hdigit : ∀ c text, padded 4 year.toNat ++ '-' :: rest = c :: text → c.isDigit = true := by
      have hlen := length_padded (by norm_num : 0 < 4) (by omega : year.toNat < 10 ^ 4)
      rcases hpadded : padded 4 year.toNat with _ | ⟨c', digits⟩
      · rw [hpadded] at hlen
        cases hlen
      · grind [isDigit_of_mem_padded]
    rw [readYear.eq_def]
    -- a digit is no sign
    split
    · grind
    · grind
    · rw [hfield, Option.map_some, hnumber]
  · have hfield := readField_padded (n := year.natAbs) (by norm_num : 0 < 6) (by omega) '-' rest
    by_cases hneg : year < 0
    all_goals grind [readYear]

theorem readTime_timeText {time : ℕ} (h : time < 86400000) :
    readTime (timeText time) = some (time, []) := by
  have hhours := readField_padded (n := time / 3600000) (by norm_num : 0 < 2) (by omega) ':'
  have hminutes := readField_padded (n := time / 60000 % 60) (by norm_num : 0 < 2) (by omega) ':'
  have hseconds := readField_padded (n := time / 1000 % 60) (by norm_num : 0 < 2) (by omega) '.'
  have hmillis := readField_padded (n := time % 1000) (by norm_num : 0 < 3) (by omega) 'Z' []
  have hsum : time / 3600000 * 3600000 + time / 60000 % 60 * 60000 + time / 1000 % 60 * 1000 +
      time % 1000 = time := by
    omega
  unfold readTime timeText
  simp only [hhours, hminutes, hseconds, hmillis, bind, Option.bind, pure, hsum]

/-- The largest number of milliseconds that a time value has. -/
def maxTime : ℤ := 8640000000000000

theorem readISOString_toISOString {t : ℤ} (hlow : -maxTime ≤ t) (hhigh : t ≤ maxTime) :
    readISOString (toISOString t) = some t := by
  unfold maxTime at hlow hhigh
  rcases hdate : civilDate (t / 86400000) with ⟨year, month, day⟩
  obtain ⟨hcalendar⟩ := calendarDay_civilDate hdate
  have hmonth := hcalendar.month_bounds
  have hday := hcalendar.dayOfMonth_bounds
  have hyear : -1000000 < year ∧ year < 1000000 := by
    have heq := hcalendar.year_eq
    have hyears := hcalendar.yearOfEra_bounds
    split at heq <;> omega
  have hyearText := readYear_yearText hyear
  have hmonthText := readField_padded (n := month.toNat) (by norm_num : 0 < 2) (by omega) '-'
  have hdayText := readField_padded (n := day.toNat) (by norm_num : 0 < 2) (by omega) 'T'
  have htime : (t % 86400000).toNat < 86400000 := by omega
  have hback := hcalendar.dayOfDate_eq
  have hmonthNumber : ((month.toNat : ℕ) : ℤ) = month := Int.toNat_of_nonneg (by omega)
  have hdayNumber : ((day.toNat : ℕ) : ℤ) = day := Int.toNat_of_nonneg (by omega)
  have htimeNumber : (((t % 86400000).toNat : ℕ) : ℤ) = t % 86400000 :=
    Int.toNat_of_nonneg (by omega)
  have hsum : t / 86400000 * 86400000 + t % 86400000 = t := by omega
  unfold readISOString toISOString
  simp only [hdate, hyearText, hmonthText, hdayText, readTime_timeText htime, bind, Option.bind,
    if_true, hmonthNumber, hdayNumber, htimeNumber, hback, hsum]

/-- The text of a time value is read as this value. -/
theorem dateParse_toISOString (otherDates : List Char → Option ℤ) {t : ℤ} (hlow : -maxTime ≤ t)
    (hhigh : t ≤ maxTime) : dateParse otherDates (toISOString t) = some t := by
  grind [dateParse, readISOString_toISOString]

end QuizMind.History

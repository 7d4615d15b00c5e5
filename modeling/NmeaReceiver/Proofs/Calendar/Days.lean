import Mathlib.Algebra.Ring.Nat
import Mathlib.Data.Int.Init
import Mathlib.Tactic.FinCases
import NmeaReceiver.Calendar.Instant

/-! The Gregorian calendar by its own rules: how long a month is, and which day comes after which.
From these alone a day has a number, counted from 1970-01-01 in both directions. -/
namespace NmeaReceiver.Calendar

def LeapYear (year : Int) : Prop := 4 ∣ year ∧ (100 ∣ year → 400 ∣ year)

inductive MonthLength (year : Int) : Nat → Nat → Prop
  | long {month : Nat} (named : month ∈ [1, 3, 5, 7, 8, 10, 12]) : MonthLength year month 31
  | short {month : Nat} (named : month ∈ [4, 6, 9, 11]) : MonthLength year month 30
  | leap (leap : LeapYear year) : MonthLength year 2 29
  | common (common : ¬ LeapYear year) : MonthLength year 2 28

def Date.InCalendar (d : Date) : Prop :=
  1 ≤ d.day ∧ ∃ length, MonthLength d.year d.month length ∧ d.day ≤ length

inductive NextDay : Date → Date → Prop
  | day {year : Int} {month day length : Nat} (some : 1 ≤ day) (months : MonthLength year month length)
      (before : day < length) : NextDay ⟨year, month, day⟩ ⟨year, month, day + 1⟩
  | month {year : Int} {month last : Nat} (months : MonthLength year month last) (within : month < 12) :
      NextDay ⟨year, month, last⟩ ⟨year, month + 1, 1⟩
  | year {year : Int} : NextDay ⟨year, 12, 31⟩ ⟨year + 1, 1, 1⟩

inductive DayNumber : Date → Int → Prop
  | epoch : DayNumber ⟨1970, 1, 1⟩ 0
  | after {d next : Date} {n : Int} (counted : DayNumber d n) (follows : NextDay d next) :
      DayNumber next (n + 1)
  | before {d next : Date} {n : Int} (counted : DayNumber next n) (follows : NextDay d next) :
      DayNumber d (n - 1)

theorem isLeapIff (year : Int) : isLeap year = true ↔ LeapYear year := by
  simp only [isLeap, LeapYear, Bool.and_eq_true, Bool.or_eq_true, beq_iff_eq, bne_iff_ne, ne_eq,
    Int.dvd_iff_emod_eq_zero]
  omega

theorem daysOfMonth {year : Int} {month length : Nat} (months : MonthLength year month length) :
    daysInMonth year month = length := by
  have leap := isLeapIff year
  cases months with
  | long named => fin_cases named <;> rfl
  | short named => fin_cases named <;> rfl
  | leap leaps => simp [daysInMonth, monthLengths, leap.mpr leaps]
  | common common => simp [daysInMonth, monthLengths, mt leap.mp common]

theorem monthBounds {year : Int} {month length : Nat} (months : MonthLength year month length) :
    1 ≤ month ∧ month ≤ 12 ∧ 28 ≤ length ∧ length ≤ 31 := by
  cases months with
  | long named => fin_cases named <;> decide
  | short named => fin_cases named <;> decide
  | leap leaps => decide
  | common common => decide

theorem monthLengthSome (year : Int) {month : Nat} (first : 1 ≤ month) (last : month ≤ 12) :
    ∃ length, MonthLength year month length := by
  by_cases february : month = 2
  · subst february
    by_cases leaps : LeapYear year
    · exact ⟨29, .leap leaps⟩
    · exact ⟨28, .common leaps⟩
  · by_cases short : month ∈ [4, 6, 9, 11]
    · exact ⟨30, .short short⟩
    · simp only [List.mem_cons, List.not_mem_nil, or_false, not_or] at short
      exact ⟨31, .long (by simp only [List.mem_cons, List.not_mem_nil]; omega)⟩

theorem daysInMonthOutside (year : Int) {month : Nat} (outside : month = 0 ∨ 12 < month) :
    daysInMonth year month = 0 := by
  rcases outside with rfl | late
  · rfl
  · have past : (monthLengths year).length ≤ month - 1 := by simp [monthLengths]; omega
    simp [daysInMonth, List.getElem?_eq_none past]

theorem inCalendarIff (d : Date) : d.InCalendar ↔ 1 ≤ d.day ∧ d.day ≤ daysInMonth d.year d.month := by
  constructor
  · intro ⟨first, length, months, last⟩
    exact ⟨first, daysOfMonth months ▸ last⟩
  · intro ⟨first, last⟩
    have within : 1 ≤ d.month ∧ d.month ≤ 12 := by
      by_contra outside
      have none := daysInMonthOutside d.year (show d.month = 0 ∨ 12 < d.month by omega)
      omega
    obtain ⟨length, months⟩ := monthLengthSome d.year within.1 within.2
    exact ⟨first, length, months, daysOfMonth months ▸ last⟩

theorem existsIff (d : Date) :
    d.Exists ↔ d.InCalendar ∧ firstYear ≤ d.year ∧ d.year ≤ lastYear := by
  rw [inCalendarIff, Date.Exists]
  omega

theorem daysBeforeMonthSucc (year : Int) {month : Nat} (first : 1 ≤ month) :
    daysBeforeMonth year (month + 1) = daysBeforeMonth year month + daysInMonth year month := by
  obtain ⟨before, rfl⟩ := Nat.exists_eq_add_of_le' first
  simp only [daysBeforeMonth, daysInMonth, Nat.add_sub_cancel, Nat.add_eq_zero_iff, Nat.one_ne_zero,
    and_false, if_false, List.take_add_one, List.foldl_append]
  cases inside : (monthLengths year)[before]? <;> simp [List.getD, inside]

theorem daysBeforeDecember (year : Int) :
    daysBeforeMonth year 12 + 31 = if isLeap year then 366 else 365 := by
  cases leap : isLeap year <;> simp [daysBeforeMonth, monthLengths, leap]

theorem nextDayNumber {d next : Date} (follows : NextDay d next) :
    d.InCalendar ∧ next.InCalendar ∧ next.number = d.number + 1 := by
  simp only [inCalendarIff, Date.number]
  cases follows with
  | @day year month day length some months before =>
    rw [daysOfMonth months]
    dsimp only
    omega
  | @month year month last months within =>
    obtain ⟨first, _, some, _⟩ := monthBounds months
    obtain ⟨length, later⟩ := monthLengthSome year (Nat.le_succ_of_le first) within
    have long := (monthBounds later).2.2.1
    rw [daysBeforeMonthSucc year first, daysOfMonth months, daysOfMonth later]
    dsimp only
    omega
  | @year year =>
    have year12 := daysBeforeDecember year
    have length := yearLength year
    have december : daysInMonth year 12 = 31 := rfl
    have january : daysInMonth (year + 1) 1 = 31 := rfl
    have none : daysBeforeMonth (year + 1) 1 = 0 := rfl
    rw [december, january, none]
    dsimp only
    split at year12 <;> simp_all <;> omega

theorem nextDaySome {d : Date} (here : d.InCalendar) : ∃ next, NextDay d next := by
  obtain ⟨year, month, day⟩ := d
  obtain ⟨some, length, months, last⟩ := here
  obtain ⟨_, late, _⟩ := monthBounds months
  rcases Nat.lt_or_eq_of_le last with before | same
  · exact ⟨_, .day some months before⟩
  · rcases Nat.lt_or_eq_of_le late with within | december
    · obtain rfl : day = length := same
      exact ⟨_, .month months within⟩
    · obtain rfl : month = 12 := december
      have lasts : length = 31 := (daysOfMonth months).symm
      obtain rfl : day = 31 := same.trans lasts
      exact ⟨_, .year⟩

theorem dayBeforeSome {d : Date} (here : d.InCalendar) : ∃ before, NextDay before d := by
  obtain ⟨year, month, day⟩ := d
  obtain ⟨some, length, months, last⟩ := here
  obtain ⟨first, late, _⟩ := monthBounds months
  dsimp only at some first late last
  obtain ⟨before, rfl⟩ := Nat.exists_eq_add_of_le' some
  by_cases later : before = 0
  · subst later
    obtain ⟨earlier, rfl⟩ := Nat.exists_eq_add_of_le' first
    by_cases january : earlier = 0
    · subst january
      exact ⟨⟨year - 1, 12, 31⟩, by simpa using @NextDay.year (year - 1)⟩
    · obtain ⟨lasts, ended⟩ := monthLengthSome year (Nat.one_le_iff_ne_zero.mpr january) (by omega)
      exact ⟨_, .month ended (by omega)⟩
  · exact ⟨_, .day (Nat.one_le_iff_ne_zero.mpr later) months last⟩

theorem dayNumberCounts {d : Date} {n : Int} (counted : DayNumber d n) :
    d.InCalendar ∧ d.number = n := by
  induction counted with
  | epoch => exact ⟨(inCalendarIff _).mpr (by decide), by decide⟩
  | after counted follows ih =>
    obtain ⟨_, here, number⟩ := nextDayNumber follows
    exact ⟨here, by rw [number, ih.2]⟩
  | before counted follows ih =>
    obtain ⟨here, _, number⟩ := nextDayNumber follows
    exact ⟨here, by omega⟩

theorem dayNumberSome (n : Int) : ∃ d, DayNumber d n := by
  induction n using Int.induction_on with
  | zero => exact ⟨_, .epoch⟩
  | succ n ih =>
    obtain ⟨d, counted⟩ := ih
    obtain ⟨next, follows⟩ := nextDaySome (dayNumberCounts counted).1
    exact ⟨next, .after counted follows⟩
  | pred n ih =>
    obtain ⟨d, counted⟩ := ih
    obtain ⟨before, follows⟩ := dayBeforeSome (dayNumberCounts counted).1
    exact ⟨before, .before counted follows⟩

theorem daysBeforeMono {year later : Int} (order : year ≤ later) :
    daysBefore year ≤ daysBefore later := by
  unfold daysBefore
  omega

theorem yearHoldingOf {year days : Int} (begun : daysBefore year ≤ days)
    (before : days < daysBefore (year + 1)) : yearHolding days = year := by
  obtain ⟨starts, ends⟩ := yearHoldingBounds days
  rcases Int.lt_trichotomy (yearHolding days) year with early | same | late
  · have order := daysBeforeMono (show yearHolding days + 1 ≤ year from early)
    omega
  · exact same
  · have order := daysBeforeMono (show year + 1 ≤ yearHolding days from late)
    omega

theorem splitMonthAt {before after : List Nat} {length day : Nat} (within : day < length)
    (month : Nat) :
    splitMonth (before ++ length :: after) month (before.sum + day) =
      (month + before.length, day + 1) := by
  induction before generalizing month with
  | nil => simp [splitMonth, within]
  | cons first before ih =>
    have past : ¬ first + before.sum + day < first := by omega
    have left : first + before.sum + day - first = before.sum + day := by omega
    simp only [List.cons_append, List.sum_cons, splitMonth, past, if_false, left, ih, List.length_cons]
    congr 1
    omega

theorem monthPlace {year : Int} {month length : Nat} (months : MonthLength year month length) :
    ∃ before after, monthLengths year = before ++ length :: after ∧ before.length + 1 = month ∧
      before.sum = daysBeforeMonth year month := by
  obtain ⟨first, last, _⟩ := monthBounds months
  have inside : month - 1 < (monthLengths year).length := by simp [monthLengths]; omega
  have here : (monthLengths year)[month - 1] = length := by
    have days := daysOfMonth months
    simpa [daysInMonth, inside, show month ≠ 0 by omega] using days
  refine ⟨(monthLengths year).take (month - 1), (monthLengths year).drop (month - 1 + 1), ?_, ?_, ?_⟩
  · rw [← here, ← List.drop_eq_getElem_cons inside, List.take_append_drop]
  · rw [List.length_take_of_le (Nat.le_of_lt inside)]
    omega
  · rw [List.sum_eq_foldl, daysBeforeMonth]

theorem yearSum (year : Int) :
    (monthLengths year).sum = if isLeap year then 366 else 365 := by
  cases leap : isLeap year <;> simp [monthLengths, leap]

theorem ofNumberNumber {d : Date} (here : d.InCalendar) : Date.ofNumber d.number = d := by
  obtain ⟨year, month, day⟩ := d
  obtain ⟨some, length, months, last⟩ := here
  dsimp only at some months last
  obtain ⟨offset, rfl⟩ := Nat.exists_eq_add_of_le' some
  obtain ⟨before, after, lengths, place, sum⟩ := monthPlace months
  have days : Date.number ⟨year, month, offset + 1⟩ + epochDays =
      daysBefore year + (before.sum + offset : Nat) := by
    simp only [Date.number, sum]
    omega
  have holds : yearHolding (daysBefore year + (before.sum + offset : Nat)) = year := by
    have whole := yearSum year
    have next := yearLength year
    rw [lengths, List.sum_append, List.sum_cons] at whole
    refine yearHoldingOf (by omega) ?_
    split at next <;> simp_all <;> omega
  have left : (daysBefore year + (before.sum + offset : Nat) - daysBefore year).toNat =
      before.sum + offset := by omega
  simp only [Date.ofNumber, days, holds, left, lengths, splitMonthAt (show offset < length from last)]
  congr 1
  omega

theorem dayNumberOf (n : Int) : DayNumber (Date.ofNumber n) n := by
  obtain ⟨d, counted⟩ := dayNumberSome n
  obtain ⟨here, number⟩ := dayNumberCounts counted
  rw [← number, ofNumberNumber here, number]
  exact counted

theorem dayNumberIff {d : Date} {n : Int} : DayNumber d n ↔ d.InCalendar ∧ d.number = n := by
  constructor
  · exact dayNumberCounts
  · rintro ⟨here, rfl⟩
    have counted := dayNumberOf d.number
    rwa [ofNumberNumber here] at counted

end NmeaReceiver.Calendar

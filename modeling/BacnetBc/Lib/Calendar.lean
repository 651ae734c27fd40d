import Mathlib.Data.List.Basic
import Mathlib.Tactic.Ring
import Mathlib.Tactic.SplitIfs

/-!
# Calendar dates and the time of the C library

A date of the Gregorian calendar has a day number, counted from 1970-01-01 (`dayNumber`), and
`ofDayNumber` finds the date of a day: its year from an estimate that is off by one at most
(`yearOf_spec`), its month and day by going through the lengths of the months (`locate`).

* `mktime` normalises the fields of a `Tm`: months carry into years, days, hours, minutes and
  seconds carry on. The time zone is a fixed offset.
* `localtime` takes a time apart.

**Theorem (`localtime_mktime`).** For the fields of a real moment `localtime` gives back what
`mktime` was given. **Theorem (`localtime_isReal`).** What `localtime` gives is always a real
moment.
-/

namespace Calendar

/-! ## Going through lengths -/

/-- The index of the part that holds position `n`, and the position in it. -/
def locate : List Nat → Nat → Nat × Nat
  | [], n => (0, n)
  | length :: lengths, n =>
    if n < length then (0, n)
    else
      let (i, rest) := locate lengths (n - length)
      (i + 1, rest)

theorem locate_spec {lengths : List Nat} {n : Nat} (h : n < lengths.sum) :
    (locate lengths n).1 < lengths.length ∧
      (locate lengths n).2 < lengths.getD (locate lengths n).1 0 ∧
      (lengths.take (locate lengths n).1).sum + (locate lengths n).2 = n := by
  induction lengths generalizing n with
  | nil => exact absurd h (Nat.not_lt_zero n)
  | cons length lengths ih =>
    unfold locate
    split_ifs with hn
    · exact ⟨Nat.succ_pos _, hn, by simp⟩
    · rw [List.sum_cons] at h
      obtain ⟨hi, hrest, hsum⟩ := ih (n := n - length) (by omega)
      dsimp only
      refine ⟨Nat.succ_lt_succ hi, hrest, ?_⟩
      rw [List.take_succ_cons, List.sum_cons]
      omega

theorem locate_add {lengths : List Nat} {i rest : Nat} (h : rest < lengths.getD i 0) :
    locate lengths ((lengths.take i).sum + rest) = (i, rest) := by
  induction lengths generalizing i with
  | nil => exact absurd h (Nat.not_lt_zero rest)
  | cons length lengths ih =>
    cases i with
    | zero =>
      have hlt : rest < length := h
      rw [List.take_zero, List.sum_nil, Nat.zero_add, locate, if_pos hlt]
    | succ i =>
      have hge : ¬ length + ((lengths.take i).sum + rest) < length := by omega
      rw [List.take_succ_cons, List.sum_cons, Nat.add_assoc, locate, if_neg hge,
        Nat.add_sub_cancel_left, ih h]

/-! ## Dates -/

def isLeapYear (year : Int) : Bool := year % 4 == 0 && (year % 100 != 0 || year % 400 == 0)

def monthLengths (year : Int) : List Nat :=
  [31, if isLeapYear year then 29 else 28, 31, 30, 31, 30, 31, 31, 30, 31, 30, 31]

structure Date where
  year : Int
  month : Nat
  day : Nat
deriving DecidableEq, Repr

/-- A month of the year and a day of that month. -/
def Date.IsReal (d : Date) : Prop :=
  1 ≤ d.month ∧ d.month ≤ 12 ∧ 1 ≤ d.day ∧ d.day ≤ (monthLengths d.year).getD (d.month - 1) 0

instance (d : Date) : Decidable d.IsReal := inferInstanceAs (Decidable (_ ∧ _ ∧ _ ∧ _))

/-- The days from 1970-01-01 to the first day of a year. -/
def daysBeforeYear (year : Int) : Int :=
  365 * (year - 1970) + ((year - 1) / 4 - 492) - ((year - 1) / 100 - 19) + ((year - 1) / 400 - 4)

def dayNumber (d : Date) : Int :=
  daysBeforeYear d.year + ((monthLengths d.year).take (d.month - 1)).sum + (d.day - 1 : Int)

/-- The year of a day: an estimate, which is off by one at most. -/
def yearOf (n : Int) : Int :=
  let year := 1970 + n * 400 / 146097
  if n < daysBeforeYear year then year - 1
  else if daysBeforeYear (year + 1) ≤ n then year + 1
  else year

def ofDayNumber (n : Int) : Date :=
  let year := yearOf n
  let (i, rest) := locate (monthLengths year) (n - daysBeforeYear year).toNat
  ⟨year, i + 1, rest + 1⟩

/-- 1 is Monday. 1970-01-01 was a Thursday. -/
def weekday (n : Int) : Nat := ((n + 3) % 7).toNat + 1

theorem monthLengths_bounds (year : Int) {i : Nat} (h : i < 12) :
    28 ≤ (monthLengths year).getD i 0 ∧ (monthLengths year).getD i 0 ≤ 31 := by
  have hall (leap : Bool) : ∀ i < 12,
      28 ≤ [31, if leap then 29 else 28, 31, 30, 31, 30, 31, 31, 30, 31, 30, 31].getD i 0 ∧
        [31, if leap then 29 else 28, 31, 30, 31, 30, 31, 31, 30, 31, 30, 31].getD i 0 ≤ 31 := by
    cases leap <;> decide
  exact hall (isLeapYear year) i h

theorem dayNumber_eq_add (year : Int) (month day : Nat) :
    dayNumber ⟨year, month, day⟩ = dayNumber ⟨year, month, 1⟩ + (day - 1) := by
  unfold dayNumber
  push_cast
  omega

theorem length_monthLengths (year : Int) : (monthLengths year).length = 12 := rfl

theorem sum_monthLengths (year : Int) :
    ((monthLengths year).sum : Int) = if isLeapYear year then 366 else 365 := by
  unfold monthLengths
  split_ifs <;> rfl

/-- A year has as many days as its months. -/
theorem daysBeforeYear_succ (year : Int) :
    daysBeforeYear (year + 1) = daysBeforeYear year + ((monthLengths year).sum : Int) := by
  rw [sum_monthLengths]
  unfold daysBeforeYear isLeapYear
  simp only [Bool.and_eq_true, Bool.or_eq_true, beq_iff_eq, bne_iff_ne]
  split_ifs with h <;> omega

theorem daysBeforeYear_mono {year year' : Int} (h : year ≤ year') :
    daysBeforeYear year ≤ daysBeforeYear year' := by
  unfold daysBeforeYear
  omega

/-- **The day is in the year.** -/
theorem yearOf_spec (n : Int) :
    daysBeforeYear (yearOf n) ≤ n ∧ n < daysBeforeYear (yearOf n + 1) := by
  unfold yearOf
  dsimp only
  split_ifs with hlow hhigh
  · rw [Int.sub_add_cancel]
    refine ⟨?_, hlow⟩
    unfold daysBeforeYear at hlow ⊢
    omega
  · refine ⟨hhigh, ?_⟩
    unfold daysBeforeYear at hhigh ⊢
    omega
  · exact ⟨Int.not_lt.1 hlow, Int.not_le.1 hhigh⟩

theorem yearOf_eq {n year : Int} (h : daysBeforeYear year ≤ n)
    (h' : n < daysBeforeYear (year + 1)) : yearOf n = year := by
  obtain ⟨hlow, hhigh⟩ := yearOf_spec n
  rcases Int.lt_trichotomy (yearOf n) year with hlt | heq | hgt
  · have hmono := daysBeforeYear_mono (Int.add_one_le_of_lt hlt)
    omega
  · exact heq
  · have hmono := daysBeforeYear_mono (Int.add_one_le_of_lt hgt)
    omega

/-- The date is found in the month that holds it. -/
theorem ofDayNumber_spec (n : Int) : (ofDayNumber n).IsReal ∧ dayNumber (ofDayNumber n) = n := by
  obtain ⟨hlow, hhigh⟩ := yearOf_spec n
  rw [daysBeforeYear_succ] at hhigh
  have hn : (n - daysBeforeYear (yearOf n)).toNat < (monthLengths (yearOf n)).sum := by omega
  obtain ⟨hi, hrest, hsum⟩ := locate_spec hn
  rw [length_monthLengths] at hi
  unfold ofDayNumber
  dsimp only
  refine ⟨⟨Nat.succ_pos _, hi, Nat.succ_pos _, hrest⟩, ?_⟩
  unfold dayNumber
  dsimp only
  rw [Nat.add_sub_cancel]
  omega

theorem sum_take_add_lt {lengths : List Nat} {i rest : Nat} (h : rest < lengths.getD i 0) :
    (lengths.take i).sum + rest < lengths.sum := by
  induction lengths generalizing i with
  | nil => exact absurd h (Nat.not_lt_zero rest)
  | cons length lengths ih =>
    cases i with
    | zero =>
      have hlt : rest < length := h
      rw [List.take_zero, List.sum_nil, List.sum_cons]
      omega
    | succ i =>
      have hlt := ih h
      rw [List.take_succ_cons, List.sum_cons, List.sum_cons]
      omega

/-- **A real date is the date of its day.** -/
theorem ofDayNumber_dayNumber {d : Date} (h : d.IsReal) : ofDayNumber (dayNumber d) = d := by
  obtain ⟨hmonth, -, hday, hlength⟩ := h
  have hrest : d.day - 1 < (monthLengths d.year).getD (d.month - 1) 0 := by omega
  have hlt := sum_take_add_lt hrest
  have hnumber : dayNumber d = daysBeforeYear d.year +
      (((monthLengths d.year).take (d.month - 1)).sum + (d.day - 1) : Nat) := by
    unfold dayNumber
    push_cast
    omega
  have hyear : yearOf (dayNumber d) = d.year := by
    apply yearOf_eq
    · omega
    · rw [daysBeforeYear_succ]
      omega
  have hposition : (dayNumber d - daysBeforeYear d.year).toNat =
      ((monthLengths d.year).take (d.month - 1)).sum + (d.day - 1) := by omega
  unfold ofDayNumber
  rw [hyear]
  dsimp only
  rw [hposition, locate_add hrest]
  dsimp only
  rw [Nat.sub_add_cancel hmonth, Nat.sub_add_cancel hday]

/-- The first of a month tells its year. -/
theorem year_eq_of_dayNumber_first {year year' : Int} {month : Nat} (h1 : 1 ≤ month)
    (h12 : month ≤ 12) (h : dayNumber ⟨year, month, 1⟩ = dayNumber ⟨year', month, 1⟩) :
    year = year' := by
  have hfirst (y : Int) : (⟨y, month, 1⟩ : Date).IsReal := by
    have hlength := (monthLengths_bounds y (i := month - 1) (by omega)).1
    have hday : 1 ≤ (monthLengths y).getD (month - 1) 0 := by omega
    exact ⟨h1, h12, le_rfl, hday⟩
  have heq := congrArg ofDayNumber h
  rw [ofDayNumber_dayNumber (hfirst year), ofDayNumber_dayNumber (hfirst year')] at heq
  exact congrArg Date.year heq

/-! ## The C library -/

/-- `struct tm`: months from 0, years from 1900, days of the week from Sunday on. -/
structure Tm where
  year : Int
  mon : Int
  mday : Int
  hour : Int
  min : Int
  sec : Int
  wday : Int := 0
deriving DecidableEq, Repr

/-- The date of the fields, where they are not normalised. -/
def Tm.date (tm : Tm) : Date := ⟨1900 + tm.year, (tm.mon + 1).toNat, tm.mday.toNat⟩

/-- A moment that the fields of a calendar and a clock can show. -/
def Tm.IsReal (tm : Tm) : Prop :=
  0 ≤ tm.mon ∧ 0 ≤ tm.mday ∧ tm.date.IsReal ∧ 0 ≤ tm.hour ∧ tm.hour < 24 ∧ 0 ≤ tm.min ∧
    tm.min < 60 ∧ 0 ≤ tm.sec ∧ tm.sec < 60

instance (tm : Tm) : Decidable tm.IsReal := inferInstanceAs (Decidable (_ ∧ _))

/-- `mktime`, in a time zone that is `zone` seconds ahead of UTC. -/
def mktime (zone : Int) (tm : Tm) : Int :=
  let firstOfMonth : Date := ⟨1900 + tm.year + tm.mon / 12, (tm.mon % 12).toNat + 1, 1⟩
  (dayNumber firstOfMonth + (tm.mday - 1)) * 86400 + tm.hour * 3600 + tm.min * 60 + tm.sec - zone

/-- The second of the local clock, from 1970-01-01 on, that the fields count to: the days from the
first of the month on, and the seconds of the day. -/
def Tm.localSecond (tm : Tm) : Int :=
  let months := (1900 + tm.year) * 12 + tm.mon
  let day := dayNumber ⟨months / 12, (months % 12).toNat + 1, 1⟩ + tm.mday - 1
  86400 * day + 3600 * tm.hour + 60 * tm.min + tm.sec

/-- `mktime` takes the fields for a count, and the zone for an offset. -/
theorem mktime_eq_localSecond (zone : Int) (tm : Tm) : mktime zone tm = tm.localSecond - zone := by
  have hyear : ((1900 + tm.year) * 12 + tm.mon) / 12 = 1900 + tm.year + tm.mon / 12 := by omega
  have hmonth : ((1900 + tm.year) * 12 + tm.mon) % 12 = tm.mon % 12 := by omega
  unfold mktime Tm.localSecond
  dsimp only
  rw [hyear, hmonth]
  ring

/-- `localtime`. -/
def localtime (zone t : Int) : Tm :=
  let day := (t + zone) / 86400
  let second := (t + zone) % 86400
  let date := ofDayNumber day
  ⟨date.year - 1900, date.month - 1, date.day, second / 3600, second % 3600 / 60, second % 60,
    (day + 4) % 7⟩

/-- **A real moment comes back**, with its day of the week. -/
theorem localtime_mktime (zone : Int) {tm : Tm} (h : tm.IsReal) :
    localtime zone (mktime zone tm) = { tm with wday := (dayNumber tm.date + 4) % 7 } := by
  obtain ⟨hmon, hmday, hdate, hhour, hhour', hmin, hmin', hsec, hsec'⟩ := h
  have hmonth : (tm.mon + 1).toNat ≤ 12 := hdate.2.1
  have hday : 1 ≤ tm.mday.toNat := hdate.2.2.1
  have hnumber : dayNumber ⟨1900 + tm.year + tm.mon / 12, (tm.mon % 12).toNat + 1, 1⟩ +
      (tm.mday - 1) = dayNumber tm.date := by
    have hyear : tm.mon / 12 = 0 := by omega
    have hmod : (tm.mon % 12).toNat + 1 - 1 = (tm.mon + 1).toNat - 1 := by omega
    unfold dayNumber Tm.date
    dsimp only
    rw [hyear, hmod, Int.add_zero, Int.toNat_of_nonneg hmday]
    push_cast
    ring
  have hsplit : mktime zone tm + zone =
      dayNumber tm.date * 86400 + (tm.hour * 3600 + tm.min * 60 + tm.sec) := by
    unfold mktime
    dsimp only
    rw [hnumber]
    ring
  have hdays : (mktime zone tm + zone) / 86400 = dayNumber tm.date := by omega
  have hseconds : (mktime zone tm + zone) % 86400 =
      tm.hour * 3600 + tm.min * 60 + tm.sec := by omega
  unfold localtime
  rw [hdays, hseconds]
  dsimp only
  rw [ofDayNumber_dayNumber hdate]
  unfold Tm.date
  dsimp only
  congr 1 <;> omega

theorem localtime_date (zone t : Int) :
    (localtime zone t).date = ofDayNumber ((t + zone) / 86400) := by
  have hyear : 1900 + ((ofDayNumber ((t + zone) / 86400)).year - 1900) =
      (ofDayNumber ((t + zone) / 86400)).year := by omega
  unfold localtime Tm.date
  dsimp only
  rw [hyear, Int.sub_add_cancel, Int.toNat_natCast, Int.toNat_natCast]

/-- **Only real moments are shown.** -/
theorem localtime_isReal (zone t : Int) : (localtime zone t).IsReal := by
  obtain ⟨hreal, -⟩ := ofDayNumber_spec ((t + zone) / 86400)
  have hdate := localtime_date zone t
  have hmonth := hreal.1
  unfold Tm.IsReal
  rw [hdate]
  unfold localtime
  dsimp only
  exact ⟨by omega, by omega, hreal, by omega, by omega, by omega, by omega, by omega, by omega⟩

end Calendar

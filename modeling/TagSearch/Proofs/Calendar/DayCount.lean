import Mathlib.Order.Monotone.Basic
import Mathlib.Tactic.IntervalCases
import TagSearch.Calendar.Date

/-!
# Day numbers count days

`Date.next` is the day after a day by the rules of the calendar: every month has its length, and after
the last one comes the next year.  Day numbers count along (`Date.dayNumber_next`), every number is that
of one date that exists (`Date.isValid_ofDayNumber`, `Date.dayNumber_ofDayNumber`,
`Date.ofDayNumber_dayNumber`), and earlier dates have smaller numbers (`Date.order_eq_compare`).
-/

namespace TagSearch.Calendar

theorem isLeap_iff {year : Int} :
    isLeap year = true ↔ year % 4 = 0 ∧ (year % 100 ≠ 0 ∨ year % 400 = 0) := by
  simp [isLeap]

namespace Date

/-- The day after a day. -/
def next (d : Date) : Date :=
  if d.day < daysInMonth d.year d.month then ⟨d.year, d.month, d.day + 1⟩
  else if d.month < 12 then ⟨d.year, d.month + 1, 1⟩
  else ⟨d.year + 1, 1, 1⟩

/-- Which of two dates comes first: the years decide, then the months, then the days. -/
def order (a b : Date) : Ordering :=
  (compare a.year b.year).then ((compare a.month b.month).then (compare a.day b.day))

theorem isValid_iff {d : Date} :
    d.isValid = true ↔
      1 ≤ d.month ∧ d.month ≤ 12 ∧ 1 ≤ d.day ∧ d.day ≤ daysInMonth d.year d.month := by
  simp [isValid, and_assoc]

/-! ## Years and months -/

/-- Days from 0000-03-01 to the first of March of a year. -/
def daysBeforeMarch (year : Int) : Int := 365 * year + year / 4 - year / 100 + year / 400

/-- Days from the first of March to the first of a month, counted from March as month 0. -/
def daysSinceMarch (month : Nat) : Nat := (153 * month + 2) / 5

theorem dayNumber_eq (d : Date) :
    d.dayNumber = daysBeforeMarch (if d.month ≤ 2 then d.year - 1 else d.year) +
      (daysSinceMarch ((d.month + 9) % 12) + d.day : Nat) - 1 - epochOffset := rfl

theorem daysBeforeMarch_succ (year : Int) :
    daysBeforeMarch (year + 1) = daysBeforeMarch year + if isLeap (year + 1) then 366 else 365 := by
  unfold daysBeforeMarch
  split
  · next h =>
    rw [isLeap_iff] at h
    omega
  · next h =>
    rw [isLeap_iff] at h
    omega

theorem dayNumber_day (d : Date) :
    d.dayNumber = (⟨d.year, d.month, 1⟩ : Date).dayNumber + d.day - 1 := by
  rw [dayNumber_eq, dayNumber_eq]
  dsimp only
  omega

theorem dayNumber_nextMonth (year : Int) {month : Nat} (hfirst : 1 ≤ month) (hlast : month < 12) :
    (⟨year, month + 1, 1⟩ : Date).dayNumber =
      (⟨year, month, 1⟩ : Date).dayNumber + daysInMonth year month := by
  rw [dayNumber_eq, dayNumber_eq]
  by_cases hfebruary : month = 2
  · have hmarch := daysBeforeMarch_succ (year - 1)
    rw [Int.sub_add_cancel] at hmarch
    subst hfebruary
    dsimp only [daysInMonth, daysSinceMarch]
    split at hmarch <;> simp [*] <;> omega
  · dsimp only
    interval_cases month
    all_goals simp [daysInMonth, daysSinceMarch] at hfebruary ⊢
    all_goals omega

theorem dayNumber_nextYear (year : Int) :
    (⟨year + 1, 1, 1⟩ : Date).dayNumber =
      (⟨year, 12, 1⟩ : Date).dayNumber + daysInMonth year 12 := by
  rw [dayNumber_eq, dayNumber_eq]
  simp [daysInMonth, daysSinceMarch]
  omega

/-- A day later the number is greater by one. -/
theorem dayNumber_next {d : Date} (h : d.isValid = true) : d.next.dayNumber = d.dayNumber + 1 := by
  obtain ⟨hfirst, hlast, -, hlength⟩ := isValid_iff.1 h
  rw [dayNumber_day d]
  unfold next
  split
  · rw [dayNumber_day]
    dsimp only
    omega
  · split
    · next hday hmonth =>
      rw [dayNumber_nextMonth d.year hfirst hmonth]
      omega
    · next hday hmonth =>
      have hdecember : d.month = 12 := by omega
      rw [hdecember] at hday hlength ⊢
      rw [dayNumber_nextYear]
      omega

theorem daysInMonth_pos (year : Int) (month : Nat) : 0 < daysInMonth year month := by
  unfold daysInMonth
  split
  · split <;> omega
  · omega
  · omega
  · omega
  · omega
  · omega

theorem isValid_next {d : Date} (h : d.isValid = true) : d.next.isValid = true := by
  obtain ⟨hfirst, hlast, hday, hlength⟩ := isValid_iff.1 h
  rw [isValid_iff]
  unfold next
  split
  · dsimp only
    omega
  · split
    · have := daysInMonth_pos d.year (d.month + 1)
      dsimp only
      omega
    · have := daysInMonth_pos (d.year + 1) 1
      dsimp only
      omega

/-! ## Every number is that of a date -/

/-- The date with a number of days behind the first of March of a year. -/
def ofMarch (year : Int) (days : Nat) : Date :=
  let month := (5 * days + 2) / 153
  { year := if month < 10 then year else year + 1
    month := if month < 10 then month + 3 else month - 9
    day := days - (153 * month + 2) / 5 + 1 }

/-- A year from March to March has a 366th day if it ends in a leap year. -/
def IsInYear (year : Int) (days : Nat) : Prop :=
  days ≤ 364 ∨ days = 365 ∧ isLeap (year + 1) = true

theorem IsInYear.le {year : Int} {days : Nat} (h : IsInYear year days) : days ≤ 365 := by
  unfold IsInYear at h
  omega

theorem dayNumber_ofMarch {year : Int} {days : Nat} (h : days ≤ 365) :
    (ofMarch year days).dayNumber = daysBeforeMarch year + days - epochOffset := by
  obtain ⟨month, hmonth⟩ : ∃ month, month = (5 * days + 2) / 153 := ⟨_, rfl⟩
  rw [dayNumber_eq]
  unfold ofMarch daysSinceMarch
  dsimp only
  rw [← hmonth]
  by_cases hyear : month < 10
  · have hlate : ¬month + 3 ≤ 2 := by omega
    have hback : (month + 3 + 9) % 12 = month := by omega
    simp only [hyear, hlate, hback, if_true, if_false]
    omega
  · have hearly : month - 9 ≤ 2 := by omega
    have hback : (month - 9 + 9) % 12 = month := by omega
    simp only [hyear, hearly, hback, if_true, if_false, Int.add_sub_cancel]
    omega

theorem isValid_ofMarch {year : Int} {days : Nat} (h : IsInYear year days) :
    (ofMarch year days).isValid = true := by
  obtain ⟨month, hmonth⟩ : ∃ month, month = (5 * days + 2) / 153 := ⟨_, rfl⟩
  have hdays := h.le
  have hbound : month ≤ 11 := by omega
  rw [isValid_iff]
  unfold ofMarch
  dsimp only
  rw [← hmonth]
  by_cases hfebruary : month = 11
  · subst hfebruary
    simp only [Nat.reduceLT, Nat.reduceSub, if_false, daysInMonth]
    split
    · omega
    · next hleap =>
      have : days ≤ 364 := h.resolve_right fun h => hleap h.2
      omega
  · interval_cases month
    all_goals simp [daysInMonth] at hfebruary ⊢
    all_goals omega

/-! ### Four hundred years -/

/-- Four hundred years are four centuries of 36524 days and a day, a century is twenty-five times four
years of 1461 days less a day, and four years are 365 days each and a day. -/
theorem exists_yearOfEra {n : Nat} (h : n < 146097) :
    ∃ century fourth year days : Nat, century < 4 ∧ fourth < 25 ∧ year < 4 ∧
      n = 36524 * century + 1461 * fourth + 365 * year + days ∧
        (days ≤ 364 ∨ days = 365 ∧ year = 3 ∧ (fourth = 24 → century = 3)) := by
  refine ⟨min (n / 36524) 3, (n - 36524 * min (n / 36524) 3) / 1461,
    min ((n - 36524 * min (n / 36524) 3) % 1461 / 365) 3,
    (n - 36524 * min (n / 36524) 3) % 1461 -
      365 * min ((n - 36524 * min (n / 36524) 3) % 1461 / 365) 3, ?_⟩
  omega

theorem yearOfEra_eq {n century fourth year days : Nat} (hcentury : century < 4) (hfourth : fourth < 25)
    (hyear : year < 4) (hn : n = 36524 * century + 1461 * fourth + 365 * year + days)
    (hdays : days ≤ 364 ∨ days = 365 ∧ year = 3 ∧ (fourth = 24 → century = 3)) :
    (n - n / 1460 + n / 36524 - n / 146096) / 365 = 100 * century + 4 * fourth + year := by
  have hcenturies : n / 36524 = century + n / 146096 := by
    obtain ⟨rest, hrest⟩ : ∃ rest, rest = 1461 * fourth + 365 * year + days := ⟨_, rfl⟩
    have hbound : rest < 36524 ∨ rest = 36524 ∧ century = 3 := by omega
    have hcount : n = 36524 * century + rest := by omega
    clear hn hdays hrest
    interval_cases century
    all_goals omega
  have hfourths : n / 1460 = 25 * century + fourth ∨
      n / 1460 = 25 * century + fourth + 1 ∧ year = 3 ∧ 0 < days := by omega
  omega

theorem daysBeforeMarch_era (era : Int) {century fourth year : Nat} (hcentury : century < 4)
    (hfourth : fourth < 25) (hyear : year < 4) :
    daysBeforeMarch (era * 400 + (100 * century + 4 * fourth + year : Nat)) =
      146097 * era + (36524 * century + 1461 * fourth + 365 * year : Nat) := by
  obtain ⟨y, hy⟩ : ∃ y, y = era * 400 + (100 * century + 4 * fourth + year : Nat) := ⟨_, rfl⟩
  have hfourths : y / 4 = 100 * era + 25 * century + fourth := by omega
  have hcenturies : y / 100 = 4 * era + century := by omega
  have heras : y / 400 = era := by omega
  unfold daysBeforeMarch
  rw [← hy, hfourths, hcenturies, heras]
  omega

/-- The date with a number exists, and its year from March on holds the day. -/
theorem exists_ofDayNumber_eq (n : Int) :
    ∃ year days, IsInYear year days ∧ daysBeforeMarch year + days = n + epochOffset ∧
      ofDayNumber n = ofMarch year days := by
  obtain ⟨total, htotal⟩ : ∃ total, total = n + epochOffset := ⟨_, rfl⟩
  obtain ⟨dayOfEra, hday⟩ : ∃ dayOfEra : Nat, (total % 146097).toNat = dayOfEra := ⟨_, rfl⟩
  obtain ⟨century, fourth, year, days, hcentury, hfourth, hyear, hsplit, hdays⟩ :=
    exists_yearOfEra (n := dayOfEra) (by omega)
  have hdayOfYear : dayOfEra - (365 * (100 * century + 4 * fourth + year) +
      (100 * century + 4 * fourth + year) / 4 - (100 * century + 4 * fourth + year) / 100) = days := by
    have hfourths : (100 * century + 4 * fourth + year) / 4 = 25 * century + fourth := by omega
    have hcenturies : (100 * century + 4 * fourth + year) / 100 = century := by omega
    rw [hfourths, hcenturies]
    omega
  refine ⟨total / 146097 * 400 + (100 * century + 4 * fourth + year : Nat), days, ?_, ?_, ?_⟩
  · refine hdays.imp_right fun ⟨hlast, hthird, hcenturies⟩ => ⟨hlast, isLeap_iff.2 ?_⟩
    clear hsplit hday hdayOfYear
    omega
  · rw [daysBeforeMarch_era _ hcentury hfourth hyear, ← htotal]
    omega
  · unfold ofDayNumber
    dsimp only
    rw [← htotal, hday, yearOfEra_eq hcentury hfourth hyear hsplit hdays, hdayOfYear]
    rfl

theorem dayNumber_ofDayNumber (n : Int) : (ofDayNumber n).dayNumber = n := by
  obtain ⟨year, days, hyear, hn, heq⟩ := exists_ofDayNumber_eq n
  rw [heq, dayNumber_ofMarch hyear.le, hn, Int.add_sub_cancel]

theorem isValid_ofDayNumber (n : Int) : (ofDayNumber n).isValid = true := by
  obtain ⟨year, days, hyear, -, heq⟩ := exists_ofDayNumber_eq n
  rw [heq]
  exact isValid_ofMarch hyear

/-! ## Earlier dates have smaller numbers -/

/-- The first of a month, the months being counted on from January of year 0. -/
def firstOfMonth (k : Int) : Date := ⟨k / 12, (k % 12).toNat + 1, 1⟩

theorem firstOfMonth_eq {d : Date} (h : d.isValid = true) :
    firstOfMonth (12 * d.year + (d.month - 1 : Nat)) = ⟨d.year, d.month, 1⟩ := by
  obtain ⟨hfirst, hlast, -, -⟩ := isValid_iff.1 h
  unfold firstOfMonth
  congr 1 <;> omega

theorem dayNumber_firstOfMonth_succ (k : Int) :
    (firstOfMonth (k + 1)).dayNumber =
      (firstOfMonth k).dayNumber + daysInMonth (k / 12) ((k % 12).toNat + 1) := by
  by_cases hlast : k % 12 = 11
  · have hnext : firstOfMonth (k + 1) = ⟨k / 12 + 1, 1, 1⟩ := by
      unfold firstOfMonth
      congr 1 <;> omega
    have hmonth : (k % 12).toNat + 1 = 12 := by omega
    rw [hnext, dayNumber_nextYear]
    unfold firstOfMonth
    rw [hmonth]
  · have hnext : firstOfMonth (k + 1) = ⟨k / 12, (k % 12).toNat + 1 + 1, 1⟩ := by
      unfold firstOfMonth
      congr 1 <;> omega
    rw [hnext, dayNumber_nextMonth _ (by omega) (by omega)]
    rfl

theorem dayNumber_firstOfMonth_le {j k : Int} (h : j ≤ k) :
    (firstOfMonth j).dayNumber ≤ (firstOfMonth k).dayNumber := by
  refine monotone_int_of_le_succ (f := fun k => (firstOfMonth k).dayNumber) (fun k => ?_) h
  have := daysInMonth_pos (k / 12) ((k % 12).toNat + 1)
  rw [dayNumber_firstOfMonth_succ]
  omega

theorem order_eq_lt_iff {a b : Date} :
    a.order b = .lt ↔ a.year < b.year ∨ a.year = b.year ∧
      (a.month < b.month ∨ a.month = b.month ∧ a.day < b.day) := by
  simp [order, Ordering.then_eq_lt, compare_lt_iff_lt]

theorem dayNumber_lt_of_order {a b : Date} (ha : a.isValid = true) (hb : b.isValid = true)
    (h : a.order b = .lt) : a.dayNumber < b.dayNumber := by
  obtain ⟨hafirst, halast, -, halength⟩ := isValid_iff.1 ha
  obtain ⟨hbfirst, hblast, hbday, -⟩ := isValid_iff.1 hb
  rw [order_eq_lt_iff] at h
  rw [dayNumber_day a, dayNumber_day b]
  by_cases hmonth : a.year = b.year ∧ a.month = b.month
  · rw [hmonth.1, hmonth.2]
    omega
  · -- The month of `b` begins no earlier than the month after that of `a`.
    have hstart : (firstOfMonth (12 * a.year + (a.month - 1 : Nat) + 1)).dayNumber ≤
        (firstOfMonth (12 * b.year + (b.month - 1 : Nat))).dayNumber :=
      dayNumber_firstOfMonth_le (by omega)
    have hlength : daysInMonth ((12 * a.year + (a.month - 1 : Nat)) / 12)
        (((12 * a.year + (a.month - 1 : Nat)) % 12).toNat + 1) = daysInMonth a.year a.month := by
      congr 1 <;> omega
    rw [dayNumber_firstOfMonth_succ, hlength, firstOfMonth_eq ha, firstOfMonth_eq hb] at hstart
    omega

theorem order_eq_eq_iff {a b : Date} : a.order b = .eq ↔ a = b := by
  obtain ⟨year, month, day⟩ := a
  obtain ⟨year', month', day'⟩ := b
  simp [order, Ordering.then_eq_eq]

theorem order_swap (a b : Date) : (a.order b).swap = b.order a := by
  have hyear : compare b.year a.year = (compare a.year b.year).swap := Std.OrientedOrd.eq_swap
  have hmonth : compare b.month a.month = (compare a.month b.month).swap := Std.OrientedOrd.eq_swap
  have hday : compare b.day a.day = (compare a.day b.day).swap := Std.OrientedOrd.eq_swap
  unfold order
  rw [hyear, hmonth, hday, Ordering.swap_then, Ordering.swap_then]

/-- Dates that exist come in the order of their numbers. -/
theorem order_eq_compare {a b : Date} (ha : a.isValid = true) (hb : b.isValid = true) :
    a.order b = compare a.dayNumber b.dayNumber := by
  cases h : a.order b with
  | lt => exact (compare_lt_iff_lt.2 (dayNumber_lt_of_order ha hb h)).symm
  | eq =>
    rw [order_eq_eq_iff.1 h]
    exact (compare_eq_iff_eq.2 rfl).symm
  | gt =>
    have hswap : b.order a = .lt := by rw [← order_swap, h]; rfl
    exact (compare_gt_iff_gt.2 (dayNumber_lt_of_order hb ha hswap)).symm

theorem eq_of_dayNumber_eq {a b : Date} (ha : a.isValid = true) (hb : b.isValid = true)
    (h : a.dayNumber = b.dayNumber) : a = b := by
  rw [← order_eq_eq_iff, order_eq_compare ha hb, h]
  exact compare_eq_iff_eq.2 rfl

/-- The number of a date that exists gives the date back. -/
theorem ofDayNumber_dayNumber {d : Date} (h : d.isValid = true) : ofDayNumber d.dayNumber = d :=
  eq_of_dayNumber_eq (isValid_ofDayNumber _) h (dayNumber_ofDayNumber _)

theorem year_ofDayNumber {n : Int} (hfirst : 0 ≤ n) (hlast : n ≤ 2932896) :
    1970 ≤ (ofDayNumber n).year ∧ (ofDayNumber n).year ≤ 9999 := by
  have hvalid := isValid_ofDayNumber n
  have hnumber := dayNumber_ofDayNumber n
  have hepoch : epoch.dayNumber = 0 := by decide
  have hend : (⟨9999, 12, 31⟩ : Date).dayNumber = 2932896 := by decide
  constructor
  · rw [← Int.not_lt]
    intro hyear
    have := dayNumber_lt_of_order (b := epoch) hvalid (by decide) (order_eq_lt_iff.2 (.inl hyear))
    omega
  · rw [← Int.not_lt]
    intro hyear
    have := dayNumber_lt_of_order (a := ⟨9999, 12, 31⟩) (by decide) hvalid
      (order_eq_lt_iff.2 (.inl hyear))
    omega

theorem ofDayNumber_succ (n : Int) : ofDayNumber (n + 1) = (ofDayNumber n).next := by
  have hvalid := isValid_ofDayNumber n
  apply eq_of_dayNumber_eq (isValid_ofDayNumber _) (isValid_next hvalid)
  rw [dayNumber_next hvalid, dayNumber_ofDayNumber, dayNumber_ofDayNumber]

end Date

end TagSearch.Calendar

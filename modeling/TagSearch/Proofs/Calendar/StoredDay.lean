import Mathlib.Data.String.Basic
import TagSearch.Calendar.StoredDay
import TagSearch.Proofs.Calendar.Written

/-!
# Stored days of the years 0 to 9999

A stored text that shows a moment of these years in full has the day of the moment, whatever its time of
day (`storedDay?_of_isWritten`): a day up to 28 is taken as written, and counting a later one in
milliseconds and back gives it again.  Stored days come in the order of time
(`compare_storedText`).
-/

namespace TagSearch.Calendar

open Text

/-! ## Counting there and back -/

theorem Date.dayNumber_bounds {d : Date} (h : d.isValid = true) (hfirst : 0 ≤ d.year)
    (hlast : d.year ≤ 9999) : -719528 ≤ d.dayNumber ∧ d.dayNumber ≤ 2932896 := by
  obtain ⟨hmonth, hmonth', hday, hday'⟩ := bounds h
  have hbegin : (⟨0, 1, 1⟩ : Date).dayNumber = -719528 := by decide
  have hend : (⟨9999, 12, 31⟩ : Date).dayNumber = 2932896 := by decide
  constructor
  · rw [← hbegin, ← Int.not_lt, ← compare_lt_iff_lt, ← order_eq_compare h (by decide), order_eq_lt_iff]
    dsimp only
    omega
  · rw [← hend, ← Int.not_lt, ← compare_lt_iff_lt, ← order_eq_compare (by decide) h, order_eq_lt_iff]
    dsimp only
    omega

/-- A date of these years and a time on it are in the Julian day count, and the count gives the date
back unless it is a first of March. -/
theorem Date.ofJulianMilliseconds?_julianMilliseconds {d : Date} (h : d.isValid = true)
    (hfirst : 0 ≤ d.year) (hlast : d.year ≤ 9999) {ms : Int} (hms : 0 ≤ ms) (hms' : ms < 86400000) :
    ofJulianMilliseconds? (d.julianMilliseconds ms) = some (ofCountedDay d.dayNumber) := by
  obtain ⟨hlower, hupper⟩ := dayNumber_bounds h hfirst hlast
  have hcount : d.julianMilliseconds ms = d.dayNumber * 86400000 + 210866760000000 + ms := by
    unfold julianMilliseconds julianEpoch
    rw [countedDay_of_nonneg hfirst]
  have hback : (d.julianMilliseconds ms - julianEpoch) / 86400000 = d.dayNumber := by
    unfold julianEpoch
    omega
  unfold ofJulianMilliseconds?
  rw [hback, if_pos]
  unfold lastJulian
  omega

theorem resolve?_of_isValid {d : Date} (h : d.isValid = true) (hfirst : 0 ≤ d.year)
    (hlast : d.year ≤ 9999) {ms : Int} (hms : 0 ≤ ms) (hms' : ms < 86400000) :
    resolve? d ⟨some ms, 0⟩ true = some d := by
  have hcounted : Date.ofJulianMilliseconds? (d.julianMilliseconds (ms - 0 * 60000)) =
      some (.ofCountedDay d.dayNumber) := by
    rw [Int.zero_mul, Int.sub_zero]
    exact Date.ofJulianMilliseconds?_julianMilliseconds h hfirst hlast hms hms'
  unfold resolve?
  dsimp only [Option.bind_some]
  rw [hcounted, if_neg (by omega)]
  by_cases hday : d.day ≤ 28
  · rw [if_pos (by simp [hday])]
    rfl
  · rw [if_neg (by simp [hday])]
    unfold Date.ofCountedDay
    dsimp only
    rw [Date.ofDayNumber_dayNumber h, if_neg]
    omega

/-! ## Reading a stored text -/

theorem takeExactly?_numeral {width n least most : Nat} {ds : List Char} (h : IsNumeral ds width n)
    (hleast : least ≤ n) (hmost : n ≤ most) (rest : List Char) :
    takeExactly? width least most (ds ++ rest) = some (n, rest) := by
  unfold takeExactly?
  rw [List.take_left' h.length_eq, List.drop_left' h.length_eq]
  dsimp only
  rw [h.value_eq, if_pos ⟨h.length_eq, List.all_eq_true.2 h.isDigit, hleast, hmost⟩]

theorem takeChar?_cons (c : Char) (rest : List Char) : takeChar? c (c :: rest) = some rest := by
  simp [takeChar?]

theorem takeStoredDate?_of_isWritten {d : Date} (hd : d.isValid = true) (hfirst : 0 ≤ d.year)
    (hlast : d.year ≤ 9999) {cs : List Char} (h : d.IsWritten 4 cs) (rest : List Char) :
    takeStoredDate? (cs ++ rest) = some (d, rest) := by
  obtain ⟨hmonth, hmonth', hday, hday'⟩ := Date.bounds hd
  obtain ⟨ys, ms, ds, hys, hms, hds, rfl⟩ := h
  have hyear := takeExactly?_numeral hys (Nat.zero_le _) (show _ ≤ 9999 by omega)
    ('-' :: (ms ++ '-' :: (ds ++ rest)))
  have habs : (d.year.natAbs : Int) = d.year := by omega
  rw [if_neg (Int.not_lt.2 hfirst)]
  simp only [List.nil_append, List.append_assoc, List.cons_append]
  cases ys with
  | nil => cases hys.length_eq
  | cons y ys =>
    have hsign : y ≠ '-' := by
      rintro rfl
      cases hys.isDigit '-' List.mem_cons_self
    unfold takeStoredDate?
    split
    next negative left heq =>
    obtain ⟨rfl, rfl⟩ : false = negative ∧ y :: ys ++ '-' :: (ms ++ '-' :: (ds ++ rest)) = left := by
      split at heq
      · next hminus => exact absurd (List.cons.inj hminus).1 hsign
      · exact Prod.mk.inj heq
    rw [hyear]
    simp only [Option.bind_eq_bind, Option.bind_some, takeChar?_cons,
      takeExactly?_numeral hms hmonth hmonth', takeExactly?_numeral hds hday hday']
    rw [if_neg Bool.false_ne_true, habs]
    rfl

theorem secondsInMilliseconds?_nil :
    ∀ second < 60, secondsInMilliseconds? second [] = some (1000 * second : Nat) := by
  decide +kernel

theorem readZonedTime?_of_isWritten {t : Time} (ht : t.IsReal) {cs : List Char} (h : t.IsWritten cs) :
    readZonedTime? cs = some ⟨some (1000 * t.seconds : Nat), 0⟩ := by
  obtain ⟨hhour, hminute, hsecond⟩ := ht
  obtain ⟨hs, ms, ss, hhs, hms, hss, rfl⟩ := h
  have hseconds := takeExactly?_numeral hss (Nat.zero_le _) (show _ ≤ 59 by omega) []
  rw [List.append_nil] at hseconds
  unfold readZonedTime?
  rw [takeExactly?_numeral hhs (Nat.zero_le _) (by omega)]
  simp only [Option.bind_eq_bind, Option.bind_some, takeChar?_cons,
    takeExactly?_numeral hms (Nat.zero_le _) (show _ ≤ 59 by omega), hseconds, Option.pure_def]
  rw [show takeFraction [] = ([], []) from rfl]
  dsimp only
  rw [show readZone? [] = some 0 from rfl, secondsInMilliseconds?_nil t.second hsecond]
  show some (ZonedTime.mk (some (((3600000 * t.hour + 60000 * t.minute : Nat) : Int) +
    (1000 * t.second : Nat))) 0) = _
  rw [← Int.natCast_add]
  unfold Time.seconds
  have : 3600000 * t.hour + 60000 * t.minute + 1000 * t.second =
      1000 * (3600 * t.hour + 60 * t.minute + t.second) := by omega
  rw [this]

theorem isDateSeparator_of_isDigit {c : Char} (h : c.isDigit = true) : isDateSeparator c = false := by
  have hne := And.intro (ne_of_isDigit h (d := '\x0b') rfl) (ne_of_isDigit h (d := 'T') rfl)
  simp [isDateSeparator, isDateBlank, isAsciiBlank_of_isDigit h, hne]

/-- The stored text of a moment has the day of the moment. -/
theorem storedDay?_of_isWritten (today : Date) {m : Moment} (hm : m.IsReal) (hfirst : 0 ≤ m.date.year)
    (hlast : m.date.year ≤ 9999) {cs : List Char} (h : m.IsWritten 4 cs) :
    storedDay? today cs = some m.date := by
  have hnull : cs.takeWhile (· != '\x00') = cs := by
    rw [List.takeWhile_eq_self_iff]
    intro c hc
    rcases h.isDigit_or_mem hc with hdigit | hmark
    · exact bne_iff_ne.2 (by rintro rfl; cases hdigit)
    · exact List.all_eq_true.1 (by decide : ['-', ' ', ':'].all (· != '\x00') = true) c hmark
  unfold storedDay? readStoredDate?
  dsimp only
  rw [hnull]
  cases m with
  | day d =>
    have htake := takeStoredDate?_of_isWritten hm hfirst hlast h []
    rw [List.append_nil] at htake
    rw [htake, Option.bind_some]
    dsimp only
    rw [show readZonedTime? ([].dropWhile isDateSeparator) = none from rfl]
    exact resolve?_of_isValid hm hfirst hlast (by decide) (by decide)
  | instant d t =>
    obtain ⟨day, clock, hday, hclock, rfl⟩ := h
    obtain ⟨hd, ht⟩ := hm
    have hskip : (' ' :: clock).dropWhile isDateSeparator = clock := by
      obtain ⟨c, rest, rfl, hc⟩ := hclock.exists_cons
      rw [List.dropWhile_cons_of_pos rfl, List.dropWhile_cons_of_neg]
      exact Bool.eq_false_iff.1 (isDateSeparator_of_isDigit hc)
    have hseconds : t.seconds < 86400 := by
      obtain ⟨hhour, hminute, hsecond⟩ := ht
      unfold Time.seconds
      omega
    rw [takeStoredDate?_of_isWritten hd hfirst hlast hday, Option.bind_some]
    dsimp only
    rw [hskip, readZonedTime?_of_isWritten ht hclock]
    exact resolve?_of_isValid hd hfirst hlast (by omega) (by omega)

/-! ## Order of stored days -/

theorem Date.isWritten_storedText {d : Date} (h : d.isValid = true) (hfirst : 0 ≤ d.year)
    (hlast : d.year ≤ 9999) : d.IsWritten 4 d.storedText := by
  have hwidth : d.yearDigits = 4 := if_neg fun h => Int.not_lt.2 hfirst h.2
  have htext : d.storedText = d.text := by
    unfold storedText text yearText
    dsimp only
    rw [if_neg (Int.not_lt.2 hfirst), if_neg (Int.not_lt.2 hfirst)]
  rw [htext, ← hwidth]
  exact isWritten_text h (by omega)

/-- Stored days from year 0 on come in the order of time. -/
theorem Date.compare_storedText {a b : Date} (ha : a.isValid = true) (hb : b.isValid = true)
    (hafirst : 0 ≤ a.year) (halast : a.year ≤ 9999) (hbfirst : 0 ≤ b.year) (hblast : b.year ≤ 9999) :
    compare (String.ofList a.storedText) (String.ofList b.storedText) = a.order b := by
  have hlt {d e : Date} (hd : d.isValid = true) (he : e.isValid = true) (hdfirst : 0 ≤ d.year)
      (hdlast : d.year ≤ 9999) (hefirst : 0 ≤ e.year) (helast : e.year ≤ 9999)
      (h : d.order e = .lt) : String.ofList d.storedText < String.ofList e.storedText := by
    have := (isWritten_storedText hd hdfirst hdlast).lt (isWritten_storedText he hefirst helast)
      hdfirst hefirst h [] []
    rw [String.lt_iff, String.toList_ofList, String.toList_ofList]
    rwa [List.append_nil, List.append_nil] at this
  cases h : a.order b with
  | lt => exact compare_lt_iff_lt.2 (hlt ha hb hafirst halast hbfirst hblast h)
  | eq =>
    rw [order_eq_eq_iff.1 h]
    exact compare_eq_iff_eq.2 rfl
  | gt =>
    have hswap : b.order a = .lt := by rw [← order_swap, h]; rfl
    exact compare_gt_iff_gt.2 (hlt hb ha hbfirst hblast hafirst halast hswap)

end TagSearch.Calendar

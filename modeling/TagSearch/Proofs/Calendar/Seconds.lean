import TagSearch.Proofs.Calendar.NormalText

/-!
# Seconds since 1970

`afterSeconds n` is what clock and calendar show `n` seconds after 1970-01-01 00:00:00, counted second
by second: the clock goes on, and at midnight the next day begins.  Digits alone are such a number of
seconds, up to the last that has a date, and their normal form shows that moment; the texts come in the
order of the numbers (`normalText?_seconds`).
-/

namespace TagSearch

open Text Calendar

namespace Calendar

/-- The next second: of the same day, or the first of the next. -/
def nextSecond (d : Date) (t : Time) : Date × Time :=
  if t.second < 59 then (d, ⟨t.hour, t.minute, t.second + 1⟩)
  else if t.minute < 59 then (d, ⟨t.hour, t.minute + 1, 0⟩)
  else if t.hour < 23 then (d, ⟨t.hour + 1, 0, 0⟩)
  else (d.next, ⟨0, 0, 0⟩)

/-- Date and time so many seconds after 1970-01-01 00:00:00. -/
def afterSeconds : Nat → Date × Time
  | 0 => (.epoch, ⟨0, 0, 0⟩)
  | n + 1 => nextSecond (afterSeconds n).1 (afterSeconds n).2

theorem Time.isReal_ofSeconds {s : Nat} (h : s < 86400) : (Time.ofSeconds s).IsReal := by
  unfold Time.ofSeconds Time.IsReal
  dsimp only
  omega

theorem nextSecond_ofSeconds (d : Date) {s : Nat} (h : s + 1 < 86400) :
    nextSecond d (Time.ofSeconds s) = (d, Time.ofSeconds (s + 1)) := by
  unfold nextSecond Time.ofSeconds
  dsimp only
  split
  · congr 2 <;> omega
  · split
    · congr 2 <;> omega
    · split
      · congr 2 <;> omega
      · omega

theorem nextSecond_lastSecond (d : Date) : nextSecond d (Time.ofSeconds 86399) = (d.next, ⟨0, 0, 0⟩) := rfl

theorem afterSeconds_eq (n : Nat) :
    afterSeconds n = (.ofDayNumber (n / 86400 : Nat), .ofSeconds (n % 86400)) := by
  induction n with
  | zero => decide
  | succ n ih =>
    rw [afterSeconds, ih]
    dsimp only
    by_cases hlast : n % 86400 + 1 < 86400
    · have hday : (n + 1) / 86400 = n / 86400 := by omega
      have hsecond : (n + 1) % 86400 = n % 86400 + 1 := by omega
      rw [nextSecond_ofSeconds _ hlast, hday, hsecond]
    · have hday : (n + 1) / 86400 = n / 86400 + 1 := by omega
      have hsecond : (n + 1) % 86400 = 0 := by omega
      have hnow : n % 86400 = 86399 := by omega
      rw [hnow, nextSecond_lastSecond, hday, hsecond, Int.natCast_add, Int.natCast_one,
        Date.ofDayNumber_succ]
      rfl

/-- The moment so many seconds after 1970-01-01 00:00:00. -/
def momentAfter (n : Nat) : Moment := .instant (afterSeconds n).1 (afterSeconds n).2

theorem momentAfter_eq (n : Nat) :
    momentAfter n = .instant (.ofDayNumber (n / 86400 : Nat)) (.ofSeconds (n % 86400)) := by
  rw [momentAfter, afterSeconds_eq]

theorem ofSeconds?_eq (n : Nat) :
    Moment.ofSeconds? n = if n ≤ 253402207200 then some (momentAfter n) else none := by
  rw [momentAfter_eq]
  rfl

theorem isWritten_momentAfter {n : Nat} (h : n ≤ 253402207200) :
    (momentAfter n).IsWritten 4 (momentAfter n).text := by
  have hseconds : Moment.ofSeconds? n = some (momentAfter n) := by rw [ofSeconds?_eq, if_pos h]
  obtain ⟨hreal, hfirst, hlast⟩ := isReal_of_ofSeconds? hseconds
  have hdigits : (momentAfter n).date.yearDigits = 4 := by
    refine if_neg fun hnegative => ?_
    omega
  have hwritten := Moment.isWritten_text hreal (by omega)
  rwa [hdigits] at hwritten

theorem text_momentAfter_lt {m n : Nat} (hm : m < n) (hn : n ≤ 253402207200) :
    (momentAfter m).text < (momentAfter n).text := by
  have hmwritten := isWritten_momentAfter (n := m) (by omega)
  have hnwritten := isWritten_momentAfter hn
  rw [momentAfter_eq] at hmwritten hnwritten ⊢
  rw [momentAfter_eq]
  obtain ⟨mday, mclock, hmday, hmclock, hmtext⟩ := hmwritten
  obtain ⟨nday, nclock, hnday, hnclock, hntext⟩ := hnwritten
  rw [hmtext, hntext]
  by_cases hday : m / 86400 = n / 86400
  · rw [hday] at hmday
    rw [hmday.unique hnday]
    refine List.append_left_lt (List.cons_lt_cons_self.2 (hmclock.lt hnclock ?_ ?_ ?_))
    · exact Time.isReal_ofSeconds (Nat.mod_lt m (by decide))
    · exact Time.isReal_ofSeconds (Nat.mod_lt n (by decide))
    · rw [Time.seconds_ofSeconds, Time.seconds_ofSeconds]
      omega
  · have hmyear := (Date.year_ofDayNumber (n := (m / 86400 : Nat)) (by omega) (by omega)).1
    have hnyear := (Date.year_ofDayNumber (n := (n / 86400 : Nat)) (by omega) (by omega)).1
    refine hmday.lt hnday (by omega) (by omega) ?_ _ _
    rw [Date.order_eq_compare (Date.isValid_ofDayNumber _) (Date.isValid_ofDayNumber _),
      Date.dayNumber_ofDayNumber, Date.dayNumber_ofDayNumber]
    exact compare_lt_iff_lt.2 (by omega)

end Calendar

theorem normalText?_numeral {cs : List Char} {width n : Nat} (h : IsNumeral cs width n)
    (hpos : 0 < width) :
    normalText? cs = if n ≤ 253402207200 then .ok (momentAfter n).text
      else .error (.invalidTimestamp (String.ofList cs)) := by
  have hne : cs ≠ [] := by
    rintro rfl
    cases h.length_eq
    cases hpos
  have hdigits : (!cs.isEmpty && cs.all Char.isDigit) = true := by
    rw [List.all_eq_true.2 h.isDigit]
    simpa using hne
  unfold normalText? readMoment
  rw [if_pos hdigits, h.value_eq, ofSeconds?_eq]
  by_cases hlast : n ≤ 253402207200
  · rw [if_pos hlast, if_pos hlast]
    rfl
  · rw [if_neg hlast, if_neg hlast]
    rfl

/-- Digits that denote `n`, with any number of zeros in front, are accepted exactly if `n` is at most
the last second that has a date, and then name date and time of day `n` seconds after 1970-01-01
00:00:00.  Different numbers have different texts, which come in the order of the numbers. -/
theorem normalText?_seconds :
    (∀ k n, IsNumeral (List.replicate k '0' ++ Nat.toDigits 10 n) (k + (Nat.toDigits 10 n).length) n) ∧
    (∀ cs width n, IsNumeral cs width n → 0 < width →
      (n ≤ 253402207200 → ∃ text, normalText? cs = .ok text ∧ (momentAfter n).IsWritten 4 text) ∧
      (253402207200 < n → normalText? cs = .error (.invalidTimestamp (String.ofList cs)))) ∧
    ∀ cs us width width' m n text text', IsNumeral cs width m → 0 < width → IsNumeral us width' n →
      0 < width' → normalText? cs = .ok text → normalText? us = .ok text' →
        (m < n → String.ofList text < String.ofList text') ∧ (text = text' → m = n) := by
  refine ⟨IsNumeral.toDigits, fun cs width n h hpos => ⟨fun hn => ?_, fun hn => ?_⟩, ?_⟩
  · refine ⟨(momentAfter n).text, ?_, isWritten_momentAfter hn⟩
    rw [normalText?_numeral h hpos, if_pos hn]
  · rw [normalText?_numeral h hpos, if_neg (Nat.not_le.2 hn)]
  · intro cs us width width' m n text text' hcs hpos hus hpos' htext htext'
    have hbound {cs : List Char} {width n : Nat} {text : List Char} (h : IsNumeral cs width n)
        (hpos : 0 < width) (htext : normalText? cs = .ok text) :
        n ≤ 253402207200 ∧ text = (momentAfter n).text := by
      rw [normalText?_numeral h hpos] at htext
      split at htext
      · next hn =>
        cases htext
        exact ⟨hn, rfl⟩
      · cases htext
    obtain ⟨hm, rfl⟩ := hbound hcs hpos htext
    obtain ⟨hn, rfl⟩ := hbound hus hpos' htext'
    constructor
    · intro hlt
      rw [String.lt_iff, String.toList_ofList, String.toList_ofList]
      exact text_momentAfter_lt hlt hn
    · intro heq
      rcases Nat.lt_trichotomy m n with hlt | hsame | hgt
      · have := text_momentAfter_lt hlt hn
        rw [heq] at this
        exact absurd this (List.lt_irrefl _)
      · exact hsame
      · have := text_momentAfter_lt hgt hm
        rw [heq] at this
        exact absurd this (List.lt_irrefl _)

/-- Two numerals, one with zeros in front, on either side of a midnight in a leap year. -/
theorem normalText?_seconds_midnight :
    IsNumeral "0000951782399".toList 13 951782399 ∧ IsNumeral "951782400".toList 9 951782400 ∧
      normalText? "0000951782399".toList = .ok "2000-02-28 23:59:59".toList ∧
      normalText? "951782400".toList = .ok "2000-02-29 00:00:00".toList ∧
      (∃ text, normalText? "951782400".toList = .ok text ∧ (momentAfter 951782400).IsWritten 4 text) ∧
      normalText? "253402207201".toList = .error (.invalidTimestamp "253402207201") ∧
      String.ofList "2000-02-28 23:59:59".toList < String.ofList "2000-02-29 00:00:00".toList := by
  have hfirst : IsNumeral "0000951782399".toList 13 951782399 :=
    .of_all rfl (by decide) (by decide)
  have hsecond : IsNumeral "951782400".toList 9 951782400 :=
    .of_all rfl (by decide) (by decide)
  have hbeyond : IsNumeral "253402207201".toList 12 253402207201 :=
    .of_all rfl (by decide) (by decide)
  have htext : normalText? "0000951782399".toList = .ok "2000-02-28 23:59:59".toList := by
    decide +kernel
  have htext' : normalText? "951782400".toList = .ok "2000-02-29 00:00:00".toList := by decide +kernel
  obtain ⟨-, haccepted, horder⟩ := normalText?_seconds
  exact ⟨hfirst, hsecond, htext, htext',
    (haccepted _ 9 951782400 hsecond (by decide)).1 (by decide),
    (haccepted _ 12 253402207201 hbeyond (by decide)).2 (by decide),
    (horder _ _ 13 9 _ _ _ _ hfirst (by decide) hsecond (by decide) htext htext').1 (by decide)⟩

end TagSearch

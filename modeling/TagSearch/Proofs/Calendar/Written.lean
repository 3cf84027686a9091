import TagSearch.Proofs.Calendar.DayCount
import TagSearch.Proofs.Calendar.Reading

/-!
# Written moments

`Moment.IsWritten` says how a moment is written in full: year, month and day with hyphens between them,
and behind a space hour, minute and second with colons, all in digits of fixed number.  The texts of
moments are of this kind (`Moment.isWritten_text`), from year 0 on they come in the order of time
(`Date.IsWritten.lt`, `Time.IsWritten.lt`), and such a text names its moment
(`Moment.ofWritten?_of_isWritten`).
-/

namespace TagSearch.Calendar

open Text

/-! ## Written dates and times -/

/-- Year, month and day with hyphens between them: the year in so many digits, behind a minus sign if it
is negative, and month and day in two. -/
def Date.IsWritten (yearDigits : Nat) (d : Date) (cs : List Char) : Prop :=
  ∃ ys ms ds, IsNumeral ys yearDigits d.year.natAbs ∧ IsNumeral ms 2 d.month ∧ IsNumeral ds 2 d.day ∧
    cs = (if d.year < 0 then ['-'] else []) ++ (ys ++ '-' :: (ms ++ '-' :: ds))

/-- Hour, minute and second in two digits each, with colons between them. -/
def Time.IsWritten (t : Time) (cs : List Char) : Prop :=
  ∃ hs ms ss, IsNumeral hs 2 t.hour ∧ IsNumeral ms 2 t.minute ∧ IsNumeral ss 2 t.second ∧
    cs = hs ++ ':' :: (ms ++ ':' :: ss)

/-- The digits of a year in a normal form. -/
def Date.yearDigits (d : Date) : Nat := if -1000 < d.year ∧ d.year < 0 then 3 else 4

namespace Moment

/-- The day of a moment. -/
def date : Moment → Date
  | .day d => d
  | .instant d _ => d

/-- The date and the time of day exist. -/
def IsReal : Moment → Prop
  | .day d => d.isValid = true
  | .instant d t => d.isValid = true ∧ t.IsReal

/-- A date, and behind a space the time of day if there is one. -/
def IsWritten (yearDigits : Nat) : Moment → List Char → Prop
  | .day d, cs => d.IsWritten yearDigits cs
  | .instant d t, cs => ∃ day clock, d.IsWritten yearDigits day ∧ t.IsWritten clock ∧
      cs = day ++ ' ' :: clock

theorem isValid_date {m : Moment} (h : m.IsReal) : m.date.isValid = true := by
  cases m with
  | day d => exact h
  | instant d t => exact h.1

end Moment

theorem daysInMonth_le (year : Int) (month : Nat) : daysInMonth year month ≤ 31 := by
  unfold daysInMonth
  split
  · split <;> omega
  · omega
  · omega
  · omega
  · omega
  · omega

theorem Date.bounds {d : Date} (h : d.isValid = true) :
    1 ≤ d.month ∧ d.month ≤ 12 ∧ 1 ≤ d.day ∧ d.day ≤ 31 := by
  have hlength := daysInMonth_le d.year d.month
  simp only [isValid, Bool.and_eq_true, decide_eq_true_eq] at h
  omega

theorem Date.isWritten_text {d : Date} (h : d.isValid = true) (hyear : d.year.natAbs ≤ 9999) :
    d.IsWritten d.yearDigits d.text := by
  obtain ⟨-, hmonth, -, hday⟩ := bounds h
  have htwo : powerOfTen 2 = 100 := rfl
  have hthree : powerOfTen 3 = 1000 := rfl
  have hfour : powerOfTen 4 = 10000 := rfl
  have hms : IsNumeral (paddedDigits 2 d.month) 2 d.month := .paddedDigits (by decide) (by omega)
  have hds : IsNumeral (paddedDigits 2 d.day) 2 d.day := .paddedDigits (by decide) (by omega)
  unfold IsWritten yearDigits text yearText
  by_cases hnegative : d.year < 0
  · refine ⟨paddedDigits 3 d.year.natAbs, _, _, ?_, hms, hds, by simp [hnegative]⟩
    by_cases hshort : -1000 < d.year
    · rw [if_pos ⟨hshort, hnegative⟩]
      exact .paddedDigits (by decide) (by omega)
    · rw [if_neg fun h => hshort h.1, ← paddedDigits_succ (by decide) (by omega)]
      exact .paddedDigits (by decide) (show d.year.natAbs < powerOfTen 4 by omega)
  · refine ⟨paddedDigits 4 d.year.natAbs, _, _, ?_, hms, hds, by simp [hnegative]⟩
    rw [if_neg fun h => hnegative h.2]
    exact .paddedDigits (by decide) (by omega)

theorem Time.isWritten_text {t : Time} (h : t.IsReal) : t.IsWritten t.text := by
  obtain ⟨hhour, hminute, hsecond⟩ := h
  have htwo : powerOfTen 2 = 100 := rfl
  exact ⟨_, _, _, .paddedDigits (by decide) (by omega), .paddedDigits (by decide) (by omega),
    .paddedDigits (by decide) (by omega), rfl⟩

theorem Moment.isWritten_text {m : Moment} (h : m.IsReal) (hyear : m.date.year.natAbs ≤ 9999) :
    m.IsWritten m.date.yearDigits m.text := by
  cases m with
  | day d => exact Date.isWritten_text h hyear
  | instant d t => exact ⟨_, _, Date.isWritten_text h.1 hyear, Time.isWritten_text h.2, rfl⟩

/-! ## Their order -/

theorem Date.IsWritten.unique {d : Date} {width : Nat} {cs us : List Char} (hcs : d.IsWritten width cs)
    (hus : d.IsWritten width us) : cs = us := by
  obtain ⟨ys, ms, ds, hys, hms, hds, rfl⟩ := hcs
  obtain ⟨ys', ms', ds', hys', hms', hds', rfl⟩ := hus
  rw [hys.unique hys', hms.unique hms', hds.unique hds']

/-- From year 0 on the earlier of two written dates comes first, whatever follows. -/
theorem Date.IsWritten.lt {a b : Date} {width : Nat} {cs us : List Char} (hcs : a.IsWritten width cs)
    (hus : b.IsWritten width us) (ha : 0 ≤ a.year) (hb : 0 ≤ b.year) (h : a.order b = .lt)
    (xs ys : List Char) : cs ++ xs < us ++ ys := by
  obtain ⟨cs, cm, cd, hcy, hcm, hcd, rfl⟩ := hcs
  obtain ⟨us, um, ud, huy, hum, hud, rfl⟩ := hus
  rw [if_neg (Int.not_lt.2 ha), if_neg (Int.not_lt.2 hb)]
  simp only [List.nil_append, List.append_assoc, List.cons_append]
  rcases order_eq_lt_iff.1 h with hyear | ⟨hyear, hmonth | ⟨hmonth, hday⟩⟩
  · exact hcy.lt huy (by omega) _ _
  · rw [hyear] at hcy
    rw [hcy.unique huy]
    exact List.append_left_lt (List.cons_lt_cons_self.2 (hcm.lt hum hmonth _ _))
  · rw [hyear] at hcy
    rw [hmonth] at hcm
    rw [hcy.unique huy, hcm.unique hum]
    exact List.append_left_lt (List.cons_lt_cons_self.2 (List.append_left_lt
      (List.cons_lt_cons_self.2 (hcd.lt hud hday _ _))))

theorem Time.IsWritten.lt {a b : Time} {cs us : List Char} (hcs : a.IsWritten cs) (hus : b.IsWritten us)
    (ha : a.IsReal) (hb : b.IsReal) (h : a.seconds < b.seconds) : cs < us := by
  obtain ⟨ch, cm, cd, hch, hcm, hcd, rfl⟩ := hcs
  obtain ⟨uh, um, ud, huh, hum, hud, rfl⟩ := hus
  obtain ⟨-, haminute, hasecond⟩ := ha
  obtain ⟨-, hbminute, hbsecond⟩ := hb
  unfold Time.seconds at h
  rcases Nat.lt_trichotomy a.hour b.hour with hhour | hhour | hhour
  · exact hch.lt huh hhour _ _
  · rw [hhour] at hch h
    rw [hch.unique huh]
    refine List.append_left_lt (List.cons_lt_cons_self.2 ?_)
    rcases Nat.lt_trichotomy a.minute b.minute with hminute | hminute | hminute
    · exact hcm.lt hum hminute _ _
    · rw [hminute] at hcm h
      rw [hcm.unique hum]
      refine List.append_left_lt (List.cons_lt_cons_self.2 ?_)
      have := hcd.lt hud (by omega) [] []
      rwa [List.append_nil, List.append_nil] at this
    · omega
  · omega

/-! ## Reading them -/

theorem readParts?_cons {p : Part} {parts : List Part} {fs fs' : Fields} {cs rest : List Char}
    (h : p.take? fs cs = some (fs', rest)) : readParts? fs cs (p :: parts) = readParts? fs' rest parts := by
  rw [readParts?, h]

theorem readParts?_numeral {p : Part} (hp : p.isNumber = true) {fs fs' : Fields} {n : Nat}
    (hset : p.set? fs [] n = some fs') {width : Nat} {ds : List Char} (hds : IsNumeral ds width n)
    (hpos : 0 < width) (hle : width ≤ p.mostDigits) {rest : List Char}
    (hstop : width = p.mostDigits ∨ startsWithDigit rest = false) (parts : List Part) :
    readParts? fs (ds ++ rest) (p :: parts) = readParts? fs' rest parts :=
  readParts?_cons ((Part.take?_eq_some_iff hp).2 ⟨[], ds ++ rest, n, rfl,
    takeNumber?_numeral hds hpos hle hstop, hset⟩)

theorem readParts?_twoDigits {p : Part} (hp : p.isNumber = true) (htwo : p.mostDigits = 2)
    {fs fs' : Fields} {n : Nat} (hset : p.set? fs [] n = some fs') {ds : List Char}
    (hds : IsNumeral ds 2 n) (rest : List Char) (parts : List Part) :
    readParts? fs (ds ++ rest) (p :: parts) = readParts? fs' rest parts :=
  readParts?_numeral hp hset hds (by decide) htwo.ge (.inl htwo.symm) parts

theorem readParts?_literal (c : Char) (fs : Fields) (rest : List Char) (parts : List Part) :
    readParts? fs (c :: rest) (.literal c :: parts) = readParts? fs rest parts :=
  readParts?_cons (Part.take?_literal.2 ⟨rfl, rfl⟩)

theorem readParts?_date {d : Date} (hvalid : d.isValid = true) {width : Nat} (hpos : 0 < width)
    (hwidth : width ≤ 4) {cs : List Char} (h : d.IsWritten width cs) (fs : Fields) (rest : List Char)
    (parts : List Part) :
    readParts? fs (cs ++ rest) (Moment.yearFirst '-' ++ parts) =
      readParts? ⟨d, fs.time⟩ rest parts := by
  obtain ⟨ys, ms, ds, hys, hms, hds, rfl⟩ := h
  obtain ⟨hfirst, hlast, hday, hlength⟩ := Date.bounds hvalid
  have hyear : Part.year.take? fs ((if d.year < 0 then ['-'] else []) ++
      (ys ++ '-' :: (ms ++ '-' :: ds)) ++ rest) =
        some ({ fs with date.year := d.year }, '-' :: (ms ++ '-' :: (ds ++ rest))) := by
    rw [Part.take?_eq_some_iff rfl]
    refine ⟨if d.year < 0 then ['-'] else [], ys ++ '-' :: (ms ++ '-' :: (ds ++ rest)), d.year.natAbs,
      by simp, takeNumber?_numeral hys hpos hwidth (.inr rfl), ?_⟩
    by_cases hnegative : d.year < 0
    · have habs : -(d.year.natAbs : Int) = d.year := by omega
      rw [if_pos hnegative]
      show some { fs with date.year := -(d.year.natAbs : Int) } = _
      rw [habs]
    · have habs : (d.year.natAbs : Int) = d.year := by omega
      rw [if_neg hnegative]
      show some { fs with date.year := (d.year.natAbs : Int) } = _
      rw [habs]
  unfold Moment.yearFirst
  rw [List.cons_append, readParts?_cons hyear, List.cons_append, readParts?_literal, List.cons_append,
    readParts?_twoDigits (p := .month) rfl rfl (if_pos ⟨rfl, hfirst, hlast⟩) hms, List.cons_append,
    readParts?_literal, List.cons_append,
    readParts?_twoDigits (p := .day) rfl rfl (if_pos ⟨rfl, hday, hlength⟩) hds]
  rfl

theorem Time.IsWritten.exists_cons {t : Time} {cs : List Char} (h : t.IsWritten cs) :
    ∃ c rest, cs = c :: rest ∧ c.isDigit = true := by
  obtain ⟨hs, ms, ss, hhs, -, -, rfl⟩ := h
  cases hs with
  | nil => cases hhs.length_eq
  | cons c hs => exact ⟨c, _, rfl, hhs.isDigit c List.mem_cons_self⟩

theorem readParts?_toTheMinute {t : Time} (ht : t.IsReal) {width : Nat} {hs ms : List Char}
    (hhs : IsNumeral hs width t.hour) (hpos : 0 < width) (hle : width ≤ 2)
    (hms : IsNumeral ms 2 t.minute) (fs : Fields) (rest : List Char) (more : List Part) :
    readParts? fs (' ' :: (hs ++ ':' :: (ms ++ rest))) (Moment.toTheMinute ++ more) =
      readParts? ⟨fs.date, ⟨t.hour, t.minute, fs.time.second⟩⟩ rest more := by
  obtain ⟨hhour, hminute, -⟩ := ht
  have hblank : Part.blank.take? fs (' ' :: (hs ++ ':' :: (ms ++ rest))) =
      some (fs, hs ++ ':' :: (ms ++ rest)) := by
    refine Part.take?_blank.2 ⟨?_, rfl⟩
    cases hs with
    | nil =>
      cases hhs.length_eq
      cases hpos
    | cons h hs =>
      have hh := isAsciiBlank_of_isDigit (hhs.isDigit h List.mem_cons_self)
      rw [List.dropWhile_cons_of_pos rfl, List.cons_append,
        List.dropWhile_cons_of_neg (Bool.eq_false_iff.1 hh)]
  unfold Moment.toTheMinute
  rw [List.cons_append, readParts?_cons hblank, List.cons_append,
    readParts?_numeral (p := .hour) rfl (if_pos ⟨rfl, Nat.zero_le _, by omega⟩) hhs hpos hle (.inr rfl),
    List.cons_append, readParts?_literal, List.cons_append,
    readParts?_twoDigits (p := .minute) rfl rfl (if_pos ⟨rfl, Nat.zero_le _, by omega⟩) hms,
    List.nil_append]

theorem readParts?_second {t : Time} (ht : t.IsReal) {ss : List Char} (hss : IsNumeral ss 2 t.second)
    (fs : Fields) :
    readParts? fs (':' :: ss) [.literal ':', .second] =
      some ⟨fs.date, ⟨fs.time.hour, fs.time.minute, t.second⟩⟩ := by
  obtain ⟨-, -, hsecond⟩ := ht
  have hordinary : min t.second 59 = t.second := by omega
  have hlast : readParts? fs (ss ++ []) [.second] =
      some ⟨fs.date, ⟨fs.time.hour, fs.time.minute, min t.second 59⟩⟩ :=
    readParts?_twoDigits (p := .second) rfl rfl (if_pos ⟨rfl, Nat.zero_le _, by omega⟩) hss [] []
  rw [hordinary, List.append_nil] at hlast
  rw [readParts?_literal, hlast]

theorem readParts?_time {t : Time} (ht : t.IsReal) {cs : List Char} (h : t.IsWritten cs) (fs : Fields) :
    readParts? fs (' ' :: cs) Moment.toTheSecond = some ⟨fs.date, t⟩ := by
  obtain ⟨hs, ms, ss, hhs, hms, hss, rfl⟩ := h
  unfold Moment.toTheSecond
  rw [readParts?_toTheMinute ht hhs (by decide) (Nat.le_refl 2) hms, readParts?_second ht hss]

theorem Date.IsWritten.isDigit_or_eq {d : Date} {width : Nat} {cs : List Char}
    (h : d.IsWritten width cs) {c : Char} (hc : c ∈ cs) : c.isDigit = true ∨ c = '-' := by
  obtain ⟨ys, ms, ds, hys, hms, hds, rfl⟩ := h
  have hsign : c ∈ (if d.year < 0 then ['-'] else []) → c = '-' := by
    split
    · exact List.mem_singleton.1
    · intro h
      cases h
  simp only [List.mem_append, List.mem_cons] at hc
  rcases hc with hc | hc | hc | hc | hc | hc
  · exact .inr (hsign hc)
  · exact .inl (hys.isDigit c hc)
  · exact .inr hc
  · exact .inl (hms.isDigit c hc)
  · exact .inr hc
  · exact .inl (hds.isDigit c hc)

theorem Moment.IsWritten.isDigit_or_mem {m : Moment} {width : Nat} {cs : List Char}
    (h : m.IsWritten width cs) {c : Char} (hc : c ∈ cs) :
    c.isDigit = true ∨ c ∈ ['-', ' ', ':'] := by
  have hdate {d : Date} {day : List Char} (hday : d.IsWritten width day) (hc : c ∈ day) :
      c.isDigit = true ∨ c ∈ ['-', ' ', ':'] :=
    (hday.isDigit_or_eq hc).imp_right fun heq => by simp [heq]
  cases m with
  | day d => exact hdate h hc
  | instant d t =>
    obtain ⟨day, clock, hday, ⟨hs, ms, ss, hhs, hms, hss, rfl⟩, rfl⟩ := h
    simp only [List.mem_append, List.mem_cons] at hc
    rcases hc with hc | rfl | hc | rfl | hc | rfl | hc
    · exact hdate hday hc
    · exact .inr (by decide)
    · exact .inl (hhs.isDigit c hc)
    · exact .inr (by decide)
    · exact .inl (hms.isDigit c hc)
    · exact .inr (by decide)
    · exact .inl (hss.isDigit c hc)

theorem Date.IsWritten.hyphen_mem {d : Date} {width : Nat} {cs : List Char}
    (h : d.IsWritten width cs) : '-' ∈ cs := by
  obtain ⟨ys, ms, ds, -, -, -, rfl⟩ := h
  simp

theorem findSome?_instantPatterns {cs : List Char} (h : ':' ∉ cs) :
    Moment.instantPatterns.findSome? (readPattern? · cs) = none := by
  have hcolon : ∀ parts ∈ Moment.instantPatterns, .literal ':' ∈ parts := by decide
  rw [List.findSome?_eq_none_iff]
  intro parts hparts
  rw [Option.eq_none_iff_forall_ne_some]
  intro fs hfs
  exact h (mem_of_readParts? (of_readPattern? hfs).1 (hcolon parts hparts))

theorem Moment.exists_pattern_of_ofWritten? {cs : List Char} {m : Moment} (h : ofWritten? cs = some m) :
    ∃ parts ∈ instantPatterns ++ dayPatterns, ∃ fs, readPattern? parts cs = some fs ∧
      (m = .instant fs.date fs.time ∨ m = .day fs.date) := by
  unfold ofWritten? at h
  split at h
  · next fs hfs =>
    cases h
    obtain ⟨parts, hparts, hread⟩ := List.exists_of_findSome?_eq_some hfs
    exact ⟨parts, List.mem_append_left _ hparts, fs, hread, .inl rfl⟩
  · obtain ⟨fs, hfs, rfl⟩ := Option.map_eq_some_iff.1 h
    obtain ⟨parts, hparts, hread⟩ := List.exists_of_findSome?_eq_some hfs
    exact ⟨parts, List.mem_append_right _ hparts, fs, hread, .inr rfl⟩

theorem readPattern?_eq_some {parts : List Part} {cs : List Char} {fs : Fields}
    (h : readParts? .start cs parts = some fs) (hvalid : fs.date.isValid = true) :
    readPattern? parts cs = some fs := by
  unfold readPattern?
  rw [h]
  exact if_pos hvalid

/-- A written moment is read by the first pattern of its kind, and fits none of the other kind. -/
theorem Moment.ofWritten?_of_isWritten {m : Moment} (hm : m.IsReal) {width : Nat} (hpos : 0 < width)
    (hwidth : width ≤ 4) {cs : List Char} (h : m.IsWritten width cs) :
    ofWritten? cs = some m := by
  unfold ofWritten?
  cases m with
  | day d =>
    have hcolon : ':' ∉ cs := by
      intro hc
      rcases Date.IsWritten.isDigit_or_eq h hc with hdigit | heq
      · cases hdigit
      · cases heq
    have hread := readParts?_date hm hpos hwidth h .start [] []
    rw [List.append_nil, List.append_nil] at hread
    have hfirst : readPattern? (Moment.yearFirst '-') cs = some ⟨d, Fields.start.time⟩ :=
      readPattern?_eq_some hread hm
    rw [findSome?_instantPatterns hcolon]
    unfold Moment.dayPatterns
    rw [List.findSome?_cons, hfirst]
    rfl
  | instant d t =>
    obtain ⟨day, clock, hday, hclock, rfl⟩ := h
    have hfirst : readPattern? (Moment.yearFirst '-' ++ Moment.toTheSecond) (day ++ ' ' :: clock) =
        some ⟨d, t⟩ := by
      refine readPattern?_eq_some ?_ hm.1
      rw [readParts?_date hm.1 hpos hwidth hday]
      exact readParts?_time hm.2 hclock _
    have hpatterns : ∃ rest, Moment.instantPatterns =
        (Moment.yearFirst '-' ++ Moment.toTheSecond) :: rest := ⟨_, rfl⟩
    obtain ⟨rest, hpatterns⟩ := hpatterns
    rw [hpatterns, List.findSome?_cons, hfirst]

theorem Moment.hyphen_mem {m : Moment} {width : Nat} {cs : List Char} (h : m.IsWritten width cs) :
    '-' ∈ cs := by
  cases m with
  | day d => exact Date.IsWritten.hyphen_mem h
  | instant d t =>
    obtain ⟨day, clock, hday, -, rfl⟩ := h
    exact List.mem_append_left _ hday.hyphen_mem

end TagSearch.Calendar

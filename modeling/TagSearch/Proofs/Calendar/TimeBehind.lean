import TagSearch.Proofs.Calendar.Written

/-!
# A time of day behind a date

What parts without blanks read of a text does not depend on what follows, unless that begins with a digit
(`takeParts?_append`, `takeParts?_of_append`).  So a date with a time behind it fits a pattern of both
exactly when the date fits the pattern's part for it (`readParts?_behind`): of the time only the hour
could be taken for the end of the date, and then the hour would be missing.
-/

namespace TagSearch.Calendar

open Text

/-! ## The first that is found -/

section

variable {α β γ : Type}

theorem findSome?_congr {f g : α → Option β} {xs : List α} (h : ∀ x ∈ xs, f x = g x) :
    xs.findSome? f = xs.findSome? g := by
  induction xs with
  | nil => rfl
  | cons x xs ih =>
    rw [List.findSome?_cons, List.findSome?_cons, h x List.mem_cons_self,
      ih fun y hy => h y (List.mem_cons_of_mem x hy)]

theorem findSome?_flatMap (xs : List α) (g : α → List β) (f : β → Option γ) :
    (xs.flatMap g).findSome? f = xs.findSome? fun x => (g x).findSome? f := by
  induction xs with
  | nil => rfl
  | cons x xs ih =>
    rw [List.flatMap_cons, List.findSome?_append, ih, List.findSome?_cons]
    cases (g x).findSome? f <;> rfl

end

/-! ## The beginning of a text -/

/-- Reads the beginning of a text by the parts of a pattern. -/
def takeParts? (fs : Fields) (cs : List Char) : List Part → Option (Fields × List Char)
  | [] => some (fs, cs)
  | p :: parts => (p.take? fs cs).bind fun (fs, rest) => takeParts? fs rest parts

theorem takeParts?_append_parts (fs : Fields) (cs : List Char) (parts more : List Part) :
    takeParts? fs cs (parts ++ more) =
      (takeParts? fs cs parts).bind fun (fs, rest) => takeParts? fs rest more := by
  induction parts generalizing fs cs with
  | nil => rfl
  | cons p parts ih =>
    rw [List.cons_append, takeParts?, takeParts?]
    cases p.take? fs cs with
    | none => rfl
    | some found => exact ih _ _

theorem readParts?_append_parts (fs : Fields) (cs : List Char) (parts more : List Part) :
    readParts? fs cs (parts ++ more) =
      (takeParts? fs cs parts).bind fun (fs, rest) => readParts? fs rest more := by
  induction parts generalizing fs cs with
  | nil => rfl
  | cons p parts ih =>
    rw [List.cons_append, readParts?, takeParts?]
    cases p.take? fs cs with
    | none => rfl
    | some found => exact ih _ _

theorem readParts?_eq_some_iff {fs fs' : Fields} {cs : List Char} {parts : List Part} :
    readParts? fs cs parts = some fs' ↔ takeParts? fs cs parts = some (fs', []) := by
  rw [← List.append_nil parts, readParts?_append_parts, List.append_nil]
  cases takeParts? fs cs parts with
  | none => simp
  | some found =>
    obtain ⟨found, rest⟩ := found
    cases rest with
    | nil => simp [readParts?]
    | cons c rest => simp [readParts?]

theorem takeParts?_suffix {fs fs' : Fields} {cs rest : List Char} {parts : List Part}
    (h : takeParts? fs cs parts = some (fs', rest)) : rest <:+ cs := by
  induction parts generalizing fs cs with
  | nil =>
    cases h
    exact List.suffix_rfl
  | cons p parts ih =>
    obtain ⟨⟨mid, left⟩, htake, hrest⟩ := Option.bind_eq_some_iff.1 h
    exact (ih hrest).trans (Part.take?_suffix htake)

theorem Part.take?_of_append {p : Part} (hp : p ≠ .blank) {fs fs' : Fields} {cs left tail : List Char}
    (h : p.take? fs (cs ++ tail) = some (fs', left ++ tail)) : p.take? fs cs = some (fs', left) := by
  cases hnumber : p.isNumber with
  | true =>
    obtain ⟨sign, body, n, hcs, hn, hset⟩ := (take?_eq_some_iff hnumber).1 h
    obtain ⟨blanks, ds, rfl, hblanks, hds, hne, hmost, hstop⟩ := takeNumber?_eq_some_iff.1 hn
    have hcut : cs ++ tail = sign ++ (blanks ++ (ds ++ left)) ++ tail := by
      rw [hcs]
      simp
    refine (take?_eq_some_iff hnumber).2 ⟨sign, _, n, List.append_cancel_right hcut,
      takeNumber?_eq_some_iff.2
        ⟨blanks, ds, rfl, hblanks, hds, hne, hmost, hstop.imp_right fun hstop => ?_⟩, hset⟩
    cases left with
    | nil => rfl
    | cons c left => exact hstop
  | false =>
    cases p with
    | blank => exact absurd rfl hp
    | literal c =>
      obtain ⟨hcs, rfl⟩ := take?_literal.1 h
      exact take?_literal.2 ⟨List.append_cancel_right hcs, rfl⟩
    | _ => cases hnumber

theorem Part.take?_append {p : Part} (hp : p ≠ .blank) {fs fs' : Fields} {cs left tail : List Char}
    (htail : startsWithDigit tail = false) (h : p.take? fs cs = some (fs', left)) :
    p.take? fs (cs ++ tail) = some (fs', left ++ tail) := by
  cases hnumber : p.isNumber with
  | true =>
    obtain ⟨sign, body, n, rfl, hn, hset⟩ := (take?_eq_some_iff hnumber).1 h
    obtain ⟨blanks, ds, rfl, hblanks, hds, hne, hmost, hstop⟩ := takeNumber?_eq_some_iff.1 hn
    refine (take?_eq_some_iff hnumber).2 ⟨sign, blanks ++ (ds ++ (left ++ tail)), n, by simp,
      takeNumber?_eq_some_iff.2
        ⟨blanks, ds, rfl, hblanks, hds, hne, hmost, hstop.imp_right fun hstop => ?_⟩, hset⟩
    cases left with
    | nil => exact htail
    | cons c left => exact hstop
  | false =>
    cases p with
    | blank => exact absurd rfl hp
    | literal c =>
      obtain ⟨rfl, rfl⟩ := take?_literal.1 h
      exact take?_literal.2 ⟨rfl, rfl⟩
    | _ => cases hnumber

theorem takeParts?_of_append {parts : List Part} (hparts : .blank ∉ parts) {fs fs' : Fields}
    {cs left tail : List Char} (h : takeParts? fs (cs ++ tail) parts = some (fs', left ++ tail)) :
    takeParts? fs cs parts = some (fs', left) := by
  induction parts generalizing fs cs with
  | nil =>
    obtain ⟨rfl, hcs⟩ := Prod.mk.inj (Option.some.inj h)
    rw [List.append_cancel_right hcs]
    rfl
  | cons p parts ih =>
    obtain ⟨hp, hparts⟩ := not_or.1 (List.mem_cons.not.1 hparts)
    obtain ⟨⟨mid, rest⟩, htake, hrest⟩ := Option.bind_eq_some_iff.1 h
    -- What the first part leaves still has the end, since the other parts leave it.
    obtain ⟨front, rfl⟩ := takeParts?_suffix hrest
    rw [← List.append_assoc] at htake hrest
    rw [takeParts?, Part.take?_of_append (Ne.symm hp) htake]
    exact ih hparts hrest

theorem readParts?_of_takeParts? {parts : List Part} (hparts : .blank ∉ parts) {fs fs' : Fields}
    {cs tail : List Char} (h : takeParts? fs (cs ++ tail) parts = some (fs', tail)) :
    readParts? fs cs parts = some fs' := by
  have hnil : takeParts? fs (cs ++ tail) parts = some (fs', [] ++ tail) := h
  exact readParts?_eq_some_iff.2 (takeParts?_of_append hparts hnil)

theorem takeParts?_append {parts : List Part} (hparts : .blank ∉ parts) {fs fs' : Fields}
    {cs left tail : List Char} (htail : startsWithDigit tail = false)
    (h : takeParts? fs cs parts = some (fs', left)) :
    takeParts? fs (cs ++ tail) parts = some (fs', left ++ tail) := by
  induction parts generalizing fs cs with
  | nil =>
    obtain ⟨rfl, rfl⟩ := Prod.mk.inj (Option.some.inj h)
    rfl
  | cons p parts ih =>
    obtain ⟨hp, hparts⟩ := not_or.1 (List.mem_cons.not.1 hparts)
    obtain ⟨⟨mid, rest⟩, htake, hrest⟩ := Option.bind_eq_some_iff.1 h
    rw [takeParts?, Part.take?_append (Ne.symm hp) htail htake]
    exact ih hparts hrest

/-! ## Patterns of dates -/

/-- A part of a date: one of its numbers, or a mark other than a colon. -/
def Part.isOfDate : Part → Bool
  | .year | .month | .day => true
  | .literal c => c != ':'
  | _ => false

/-- The parts of a date, of which the last is a number. -/
def isDatePattern (parts : List Part) : Bool :=
  parts.all Part.isOfDate && parts.getLast?.any Part.isNumber

theorem isDatePattern_of_mem {parts : List Part} (h : parts ∈ Moment.dayPatterns) :
    isDatePattern parts = true := by
  revert parts
  decide

section

variable {date : List Part} (hdate : isDatePattern date = true)

include hdate

theorem isOfDate_of_isDatePattern {p : Part} (h : p ∈ date) : p.isOfDate = true :=
  List.all_eq_true.1 (Bool.and_eq_true_iff.1 hdate).1 p h

theorem blank_notMem_of_isDatePattern : .blank ∉ date := fun h => by
  cases isOfDate_of_isDatePattern hdate h

theorem colon_notMem_of_readParts? {fs fs' : Fields} {cs : List Char}
    (h : readParts? fs cs date = some fs') : ':' ∉ cs := by
  intro hc
  obtain ⟨p, hp, hread⟩ := exists_mayRead_of_readParts? h hc
  have hcolon : p = .literal ':' := by simpa [Part.mayRead, isAsciiBlank] using hread
  have hof := isOfDate_of_isDatePattern hdate hp
  rw [hcolon] at hof
  cases hof

theorem exists_digits_of_takeParts? {fs fs' : Fields} {cs rest : List Char}
    (h : takeParts? fs cs date = some (fs', rest)) :
    ∃ front ds, cs = front ++ (ds ++ rest) ∧ (∀ d ∈ ds, d.isDigit = true) ∧ ds ≠ [] ∧
      (2 ≤ ds.length ∨ startsWithDigit rest = false) := by
  obtain ⟨parts, last, rfl⟩ : ∃ parts last, date = parts ++ [last] := by
    rcases List.eq_nil_or_concat date with rfl | ⟨parts, last, rfl⟩
    · cases hdate
    · exact ⟨parts, last, List.concat_eq_append⟩
  have hnumber : last.isNumber = true := by simpa [isDatePattern] using (Bool.and_eq_true_iff.1 hdate).2
  rw [takeParts?_append_parts] at h
  obtain ⟨⟨mid, left⟩, hparts, hlast⟩ := Option.bind_eq_some_iff.1 h
  obtain ⟨⟨found, left'⟩, htake, hrest⟩ := Option.bind_eq_some_iff.1 hlast
  obtain ⟨rfl, rfl⟩ := Prod.mk.inj (Option.some.inj hrest)
  obtain ⟨front, rfl⟩ := takeParts?_suffix hparts
  obtain ⟨sign, body, n, rfl, hn, -⟩ := (Part.take?_eq_some_iff hnumber).1 htake
  obtain ⟨blanks, ds, rfl, -, hds, hne, -, hstop⟩ := takeNumber?_eq_some_iff.1 hn
  refine ⟨front ++ (sign ++ blanks), ds, by simp, hds.isDigit, hne, hstop.imp_left fun hmost => ?_⟩
  rw [hmost]
  cases last with
  | blank | literal => cases hnumber
  | _ => decide

theorem exists_digit_of_readParts? {fs fs' : Fields} {cs : List Char}
    (h : readParts? fs cs date = some fs') : ∃ front d, cs = front ++ [d] ∧ d.isDigit = true := by
  obtain ⟨front, ds, hcs, hds, hne, -⟩ := exists_digits_of_takeParts? hdate (readParts?_eq_some_iff.1 h)
  rcases List.eq_nil_or_concat ds with rfl | ⟨ds, d, rfl⟩
  · exact absurd rfl hne
  · refine ⟨front ++ ds, d, by simpa using hcs, hds d (by simp)⟩

end

theorem Part.time_of_take? {p : Part} (hp : p.isOfDate = true) {fs fs' : Fields} {cs rest : List Char}
    (h : p.take? fs cs = some (fs', rest)) : fs'.time = fs.time := by
  cases p with
  | literal c => rw [(take?_literal.1 h).2]
  | year | month | day =>
    obtain ⟨⟨n, left⟩, -, heq⟩ := Option.map_eq_some_iff.1 h
    cases heq
    rfl
  | _ => cases hp

theorem time_of_readParts? {date : List Part} (hdate : ∀ p ∈ date, p.isOfDate = true)
    {fs fs' : Fields} {cs : List Char} (h : readParts? fs cs date = some fs') : fs'.time = fs.time := by
  induction date generalizing fs cs with
  | nil =>
    rw [readParts?] at h
    split at h
    · cases h
      rfl
    · cases h
  | cons p date ih =>
    rw [readParts?] at h
    split at h
    · next found rest htake =>
      rw [ih (fun q hq => hdate q (List.mem_cons_of_mem p hq)) h,
        Part.time_of_take? (hdate p List.mem_cons_self) htake]
    · cases h

/-! ## The time behind a date -/

theorem exists_append_of_forall_mem {α : Type} {p : α → Bool} {xs ys us vs : List α} {c : α}
    (hc : p c = false) (hvs : ∀ v ∈ vs, p v = true) (h : xs ++ c :: us = ys ++ vs) :
    ∃ front, us = front ++ vs ∧ ys = xs ++ c :: front := by
  rcases List.append_eq_append_iff.1 h with ⟨front, rfl, hfront⟩ | ⟨left, rfl, rfl⟩
  · cases front with
    | nil =>
      have hmem := hvs c (by rw [← List.nil_append vs, ← hfront]; exact List.mem_cons_self)
      rw [hc] at hmem
      cases hmem
    | cons b front =>
      obtain ⟨rfl, rfl⟩ := List.cons.inj hfront
      exact ⟨front, rfl, rfl⟩
  · have hmem := hvs c (by simp)
    rw [hc] at hmem
    cases hmem

theorem eq_of_append_colon {xs ys us vs : List Char} (hxs : ':' ∉ xs) (hys : ':' ∉ ys)
    (h : xs ++ ':' :: us = ys ++ ':' :: vs) : xs = ys ∧ us = vs := by
  have hcut {zs ws : List Char} (hzs : ':' ∉ zs) : (zs ++ ':' :: ws).takeWhile (· != ':') = zs := by
    rw [List.takeWhile_append_of_pos fun c hc => bne_iff_ne.2 (ne_of_mem_of_not_mem hc hzs),
      List.takeWhile_cons_of_neg (by decide), List.append_nil]
  obtain rfl : xs = ys := by rw [← hcut hxs, h, hcut hys]
  exact ⟨rfl, (List.cons.inj (List.append_cancel_left h)).2⟩

/-- What is read by an hour and a colon has digits in front of its colon, and blanks before them. -/
theorem exists_hour_of_readParts? {fs fs' : Fields} {cs : List Char} {more : List Part}
    (h : readParts? fs cs (.blank :: .hour :: .literal ':' :: more) = some fs') :
    ∃ blanks ds rest, cs = blanks ++ (ds ++ ':' :: rest) ∧ (∀ b ∈ blanks, isAsciiBlank b = true) ∧
      (∀ d ∈ ds, d.isDigit = true) ∧ ds ≠ [] := by
  rw [show Part.blank :: .hour :: .literal ':' :: more = [.blank, .hour, .literal ':'] ++ more from rfl,
    readParts?_append_parts] at h
  obtain ⟨⟨found, rest⟩, hparts, -⟩ := Option.bind_eq_some_iff.1 h
  obtain ⟨⟨found, left⟩, hblank, hparts⟩ := Option.bind_eq_some_iff.1 hparts
  obtain ⟨⟨found, body⟩, hhour, hparts⟩ := Option.bind_eq_some_iff.1 hparts
  obtain ⟨⟨found, last⟩, hcolon, hlast⟩ := Option.bind_eq_some_iff.1 hparts
  obtain ⟨rfl, rfl⟩ := Prod.mk.inj (Option.some.inj hlast)
  obtain ⟨rfl, -⟩ := Part.take?_literal.1 hcolon
  obtain ⟨sign, number, n, hleft, hn, hset⟩ := (Part.take?_eq_some_iff rfl).1 hhour
  obtain ⟨rfl⟩ : sign = [] := (Part.eq_nil_or_of_set? hset).resolve_right fun h => by cases h.1
  obtain ⟨blanks, ds, rfl, hblanks, hds, hne, -⟩ := takeNumber?_eq_some_iff.1 hn
  refine ⟨cs.takeWhile isAsciiBlank ++ blanks, ds, last, ?_, fun b hb => ?_, hds.isDigit, hne⟩
  · rw [List.append_assoc, ← List.nil_append (blanks ++ _), ← hleft, (Part.take?_blank.1 hblank).1,
      List.takeWhile_append_dropWhile]
  · rcases List.mem_append.1 hb with hb | hb
    · exact List.mem_takeWhile_imp hb
    · exact hblanks b hb

section

variable {date : List Part} (hdate : isDatePattern date = true) {cs front : List Char} {d : Char}
  (hcs : cs = front ++ [d]) (hd : d.isDigit = true) (hcolon : ':' ∉ cs) {hs : List Char}
  (hhs : ∀ h ∈ hs, h.isDigit = true) (hlength : hs.length ≤ 2)

include hdate hcs hd hcolon hhs hlength

/-- Where the parts of a date leave an hour and a colon, they read the date and no more. -/
theorem eq_of_takeParts?_hour {fs found fs' : Fields} {rest left : List Char} {more : List Part}
    (htake : takeParts? fs (cs ++ ' ' :: (hs ++ ':' :: rest)) date = some (found, left))
    (hhour : readParts? found left (.blank :: .hour :: .literal ':' :: more) = some fs') :
    left = ' ' :: (hs ++ ':' :: rest) := by
  obtain ⟨read, hread⟩ := takeParts?_suffix htake
  rw [← hread] at htake
  have halone := readParts?_of_takeParts? (blank_notMem_of_isDatePattern hdate) htake
  obtain ⟨blanks, ds, rest', rfl, hblanks, hds, hne⟩ := exists_hour_of_readParts? hhour
  obtain ⟨hcut, rfl⟩ : cs ++ ' ' :: hs = read ++ blanks ++ ds ∧ rest = rest' := by
    have hdigits {ds : List Char} (hds : ∀ d ∈ ds, d.isDigit = true) : ':' ∉ ds := fun h =>
      absurd (hds ':' h) (by decide)
    have hblanks : ':' ∉ blanks := fun h => absurd (hblanks ':' h) (by decide)
    refine eq_of_append_colon ?_ ?_ (by simpa using hread.symm)
    · simp [hcolon, hdigits hhs]
    · simp [colon_notMem_of_readParts? hdate halone, hblanks, hdigits hds]
  obtain ⟨hour, rfl, hbefore⟩ := exists_append_of_forall_mem (c := ' ') rfl hds hcut
  -- What is read ends in a digit, as the date does, so it is the date or reaches behind the space.
  rw [hcs, List.append_assoc, List.singleton_append] at hbefore
  obtain ⟨gap, hgap, rfl⟩ := exists_append_of_forall_mem (isAsciiBlank_of_isDigit hd) hblanks
    hbefore.symm
  cases gap with
  | nil =>
    rw [List.nil_append] at hgap
    rw [← hgap]
    simp
  | cons c gap =>
    -- A part of the hour would be read, and then the whole of it.
    obtain ⟨rfl, rfl⟩ := List.cons.inj hgap
    obtain ⟨before, es, hends, hes, hne', hstop⟩ := exists_digits_of_takeParts? hdate htake
    rw [← List.append_assoc before] at hends
    have hends : front ++ [d] ++ ' ' :: gap = before ++ es := by
      simpa using List.append_cancel_right hends
    obtain ⟨within, rfl, -⟩ := exists_append_of_forall_mem rfl hes hends
    rcases hstop with htwo | hstop
    · have := List.length_pos_iff.2 hne
      simp only [List.append_eq, List.length_append] at hlength
      omega
    · cases blanks with
      | nil =>
        obtain ⟨e, ds, rfl⟩ := List.exists_cons_of_ne_nil hne
        have he : e.isDigit = true := hds e List.mem_cons_self
        simp [startsWithDigit, he] at hstop
      | cons b blanks =>
        have hb := isAsciiBlank_of_isDigit (hhs b (by simp))
        rw [hblanks b List.mem_cons_self] at hb
        cases hb

/-- With an hour and a colon behind a space, a text fits a pattern of a date and a time exactly when the
date and the time fit their parts of it. -/
theorem readParts?_behind (fs : Fields) (rest : List Char) (more : List Part) :
    readParts? fs (cs ++ ' ' :: (hs ++ ':' :: rest)) (date ++ .blank :: .hour :: .literal ':' :: more) =
      (readParts? fs cs date).bind fun fs =>
        readParts? fs (' ' :: (hs ++ ':' :: rest)) (.blank :: .hour :: .literal ':' :: more) := by
  have hblank := blank_notMem_of_isDatePattern hdate
  rw [readParts?_append_parts]
  cases hread : readParts? fs cs date with
  | some found =>
    rw [takeParts?_append hblank (by rfl) (readParts?_eq_some_iff.1 hread)]
    rfl
  | none =>
    rw [Option.bind_none, Option.eq_none_iff_forall_ne_some]
    intro fs' hjoined
    obtain ⟨⟨found, left⟩, htake, hhour⟩ := Option.bind_eq_some_iff.1 hjoined
    rw [eq_of_takeParts?_hour hdate hcs hd hcolon hhs hlength htake hhour] at htake
    rw [readParts?_of_takeParts? hblank htake] at hread
    cases hread

end

/-! ## Dates that take a time of day -/

/-- Hour in one or two digits, minute and second in two; a second that is 0 may be missing. -/
def Time.IsTold (t : Time) (cs : List Char) : Prop :=
  ∃ width hs ms, 0 < width ∧ width ≤ 2 ∧ IsNumeral hs width t.hour ∧ IsNumeral ms 2 t.minute ∧
    (t.second = 0 ∧ cs = hs ++ ':' :: ms ∨
      ∃ ss, IsNumeral ss 2 t.second ∧ cs = hs ++ ':' :: (ms ++ ':' :: ss))

theorem Time.IsTold.exists_hour {t : Time} {cs : List Char} (h : t.IsTold cs) :
    ∃ hs rest, cs = hs ++ ':' :: rest ∧ (∀ h ∈ hs, h.isDigit = true) ∧ hs.length ≤ 2 := by
  obtain ⟨width, hs, ms, -, hle, hhs, -, ⟨-, rfl⟩ | ⟨ss, -, rfl⟩⟩ := h
  · exact ⟨hs, _, rfl, hhs.isDigit, hhs.length_eq.trans_le hle⟩
  · exact ⟨hs, _, rfl, hhs.isDigit, hhs.length_eq.trans_le hle⟩

theorem Time.IsTold.isDigit_or_eq {t : Time} {cs : List Char} (h : t.IsTold cs) {c : Char}
    (hc : c ∈ cs) : c.isDigit = true ∨ c = ':' := by
  obtain ⟨width, hs, ms, -, -, hhs, hms, ⟨-, rfl⟩ | ⟨ss, hss, rfl⟩⟩ := h
  · simp only [List.mem_append, List.mem_cons] at hc
    rcases hc with hc | hc | hc
    · exact .inl (hhs.isDigit c hc)
    · exact .inr hc
    · exact .inl (hms.isDigit c hc)
  · simp only [List.mem_append, List.mem_cons] at hc
    rcases hc with hc | hc | hc | hc | hc
    · exact .inl (hhs.isDigit c hc)
    · exact .inr hc
    · exact .inl (hms.isDigit c hc)
    · exact .inr hc
    · exact .inl (hss.isDigit c hc)

namespace Moment

/-- The patterns of dates that have a time of day behind them in some pattern, in their order there. -/
def timedDates : List (List Part) := [yearFirst '-', yearFirst '/', monthFirst '-', dayFirst '-']

/-- A written date may have a time of day behind it. -/
def takesTime (cs : List Char) : Bool := timedDates.any fun date => (readPattern? date cs).isSome

theorem instantPatterns_eq :
    instantPatterns = timedDates.flatMap fun date => [date ++ toTheSecond, date ++ toTheMinute] := rfl

end Moment

theorem readPattern?_eq_filter (parts : List Part) (cs : List Char) :
    readPattern? parts cs = (readParts? .start cs parts).filter fun fs => fs.date.isValid := by
  unfold readPattern?
  cases readParts? .start cs parts <;> rfl

section

variable {t : Time} (ht : t.IsReal) {clock : List Char} (htold : t.IsTold clock)

include ht htold

theorem readParts?_told {fs : Fields} (hfs : fs.time.second = 0) :
    readParts? fs (' ' :: clock) Moment.toTheSecond = some ⟨fs.date, t⟩ ∧
        readParts? fs (' ' :: clock) Moment.toTheMinute = none ∨
      readParts? fs (' ' :: clock) Moment.toTheSecond = none ∧
        readParts? fs (' ' :: clock) Moment.toTheMinute = some ⟨fs.date, t⟩ := by
  obtain ⟨width, hs, ms, hpos, hle, hhs, hms, ⟨hsecond, rfl⟩ | ⟨ss, hss, rfl⟩⟩ := htold
  · right
    have hminute (more : List Part) := readParts?_toTheMinute ht hhs hpos hle hms fs [] more
    rw [List.append_nil] at hminute
    have hread := hminute []
    rw [List.append_nil, hfs, ← hsecond] at hread
    exact ⟨hminute _, hread⟩
  · left
    have hminute (more : List Part) := readParts?_toTheMinute ht hhs hpos hle hms fs (':' :: ss) more
    have hread := hminute []
    rw [List.append_nil] at hread
    refine ⟨?_, hread⟩
    unfold Moment.toTheSecond
    rw [hminute, readParts?_second ht hss]

variable {cs front : List Char} {d : Char} (hcs : cs = front ++ [d]) (hd : d.isDigit = true)
  (hcolon : ':' ∉ cs)

include hcs hd hcolon

theorem findSome?_told {date : List Part} (hdate : isDatePattern date = true) :
    [date ++ Moment.toTheSecond, date ++ Moment.toTheMinute].findSome?
        (readPattern? · (cs ++ ' ' :: clock)) =
      (readPattern? date cs).map fun fs => ⟨fs.date, t⟩ := by
  have hbehind (more : List Part) (hmore : Moment.toTheMinute <+: more) :
      readPattern? (date ++ more) (cs ++ ' ' :: clock) =
        ((readParts? .start cs date).bind fun fs => readParts? fs (' ' :: clock) more).filter
          fun fs => fs.date.isValid := by
    obtain ⟨hs, rest, rfl, hhs, hlength⟩ := htold.exists_hour
    obtain ⟨more, rfl⟩ := hmore
    rw [readPattern?_eq_filter]
    congr 1
    exact readParts?_behind hdate hcs hd hcolon hhs hlength .start rest (.minute :: more)
  rw [List.findSome?_cons, List.findSome?_singleton, hbehind Moment.toTheSecond (List.prefix_append _ _),
    hbehind _ List.prefix_rfl, readPattern?_eq_filter]
  cases hread : readParts? .start cs date with
  | none => rfl
  | some fs =>
    have htime := time_of_readParts? (fun p => isOfDate_of_isDatePattern hdate) hread
    have hzero : fs.time.second = 0 := by rw [htime]; rfl
    rw [Option.bind_some, Option.bind_some]
    rcases readParts?_told ht htold hzero with ⟨hsecond, hminute⟩ | ⟨hsecond, hminute⟩
    · rw [hsecond, hminute]
      cases hvalid : fs.date.isValid <;> simp [Option.filter, hvalid]
    · rw [hsecond, hminute]
      cases hvalid : fs.date.isValid <;> simp [Option.filter, hvalid]

theorem findSome?_instantPatterns_told :
    Moment.instantPatterns.findSome? (readPattern? · (cs ++ ' ' :: clock)) =
      (Moment.timedDates.findSome? (readPattern? · cs)).map fun fs => ⟨fs.date, t⟩ := by
  have hdates : ∀ date ∈ Moment.timedDates, isDatePattern date = true := by decide
  rw [Moment.instantPatterns_eq, findSome?_flatMap, List.map_findSome?]
  exact findSome?_congr fun date hdate => findSome?_told ht htold hcs hd hcolon (hdates date hdate)

end

theorem readPattern?_monthFirst_slash {cs : List Char} {fs : Fields}
    (h : readPattern? (Moment.dayFirst '-') cs = some fs) :
    readPattern? (Moment.monthFirst '/') cs = none := by
  rw [Option.eq_none_iff_forall_ne_some]
  intro other hother
  have hslash : '/' ∈ cs := mem_of_readParts? (of_readPattern? hother).1 (by decide)
  obtain ⟨p, hp, hread⟩ := exists_mayRead_of_readParts? (of_readPattern? h).1 hslash
  revert p
  decide

theorem findSome?_dayPatterns {cs : List Char} {fs : Fields}
    (h : Moment.timedDates.findSome? (readPattern? · cs) = some fs) :
    Moment.dayPatterns.findSome? (readPattern? · cs) = some fs := by
  -- Only one pattern stands between those of dates that take a time, and nothing fits it and the next.
  let firsts := [Moment.yearFirst '-', Moment.yearFirst '/', Moment.monthFirst '-']
  have htimed : Moment.timedDates = firsts ++ [Moment.dayFirst '-'] := rfl
  have hdays : Moment.dayPatterns = firsts ++ (Moment.monthFirst '/' :: Moment.dayFirst '-' ::
    [Moment.dayFirst '/', [.year, .month, .day]]) := rfl
  rw [htimed, List.findSome?_append] at h
  rw [hdays, List.findSome?_append]
  cases hfirsts : firsts.findSome? (readPattern? · cs) with
  | some found => rwa [hfirsts] at h
  | none =>
    rw [hfirsts, Option.none_or, List.findSome?_singleton] at h
    rw [Option.none_or, List.findSome?_cons, readPattern?_monthFirst_slash h, List.findSome?_cons, h]

/-- A written date with a time of day behind it names the time on the day that it names without, if it
takes a time; otherwise it names nothing. -/
theorem Moment.ofWritten?_told {cs : List Char} {m : Moment} (h : ofWritten? cs = some m)
    (hcolon : ':' ∉ cs) {t : Time} (ht : t.IsReal) {clock : List Char} (htold : t.IsTold clock) :
    ofWritten? (cs ++ ' ' :: clock) = if takesTime cs then some (.instant m.date t) else none := by
  unfold ofWritten? at h
  rw [findSome?_instantPatterns hcolon] at h
  obtain ⟨fs, hday, rfl⟩ := Option.map_eq_some_iff.1 h
  obtain ⟨date, hmem, hread⟩ := List.exists_of_findSome?_eq_some hday
  obtain ⟨front, d, hcs, hd⟩ :=
    exists_digit_of_readParts? (isDatePattern_of_mem hmem) (of_readPattern? hread).1
  have hnone : dayPatterns.findSome? (readPattern? · (cs ++ ' ' :: clock)) = none := by
    rw [List.findSome?_eq_none_iff]
    intro parts hparts
    rw [Option.eq_none_iff_forall_ne_some]
    intro found hfound
    obtain ⟨hs, rest, rfl, -⟩ := htold.exists_hour
    exact colon_notMem_of_readParts? (isDatePattern_of_mem hparts) (of_readPattern? hfound).1 (by simp)
  have htakes : takesTime cs = (timedDates.findSome? (readPattern? · cs)).isSome := by
    rw [Bool.eq_iff_iff, List.findSome?_isSome_iff]
    exact List.any_eq_true
  unfold ofWritten?
  rw [findSome?_instantPatterns_told ht htold hcs hd hcolon, hnone, htakes]
  cases htimed : timedDates.findSome? (readPattern? · cs) with
  | none => rfl
  | some found =>
    rw [findSome?_dayPatterns htimed] at hday
    cases hday
    rfl

end TagSearch.Calendar

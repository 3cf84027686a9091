import Mathlib.Data.List.TakeWhile
import TagSearch.Calendar.Moment
import TagSearch.Proofs.Text.Numerals

/-!
# Reading by patterns

A number is read from blanks and as many digits as there are, up to a limit (`takeNumber?_eq_some_iff`).
What a part of a pattern leaves is the end of the text (`Part.take?_suffix`), and it keeps the year and
the time of day within their bounds (`Part.isBounded_take?`).  A whole text that fits a pattern has every
literal of the pattern and no character that the pattern does not speak of (`mem_of_readParts?`,
`exists_mayRead_of_readParts?`).
-/

namespace TagSearch.Calendar

open Text

/-! ## Numbers -/

/-- A digit stands first. -/
def startsWithDigit (cs : List Char) : Bool := cs.head?.any Char.isDigit

theorem isAsciiBlank_of_isDigit {c : Char} (h : c.isDigit = true) : isAsciiBlank c = false := by
  have hc : c ≠ ' ' ∧ c ≠ '\t' ∧ c ≠ '\n' ∧ c ≠ '\x0c' ∧ c ≠ '\r' := by
    refine ⟨?_, ?_, ?_, ?_, ?_⟩
    all_goals
      rintro rfl
      cases h
  simp [isAsciiBlank, hc]

theorem takeWhile_isDigit_take {most : Nat} {ds rest : List Char} (hds : ∀ d ∈ ds, d.isDigit = true)
    (hmost : ds.length ≤ most) (hstop : ds.length = most ∨ startsWithDigit rest = false) :
    ((ds ++ rest).take most).takeWhile Char.isDigit = ds := by
  rw [List.take_append, List.take_of_length_le hmost, List.takeWhile_append_of_pos hds]
  have hrest : (rest.take (most - ds.length)).takeWhile Char.isDigit = [] := by
    rcases hstop with hlength | hnone
    · rw [hlength, Nat.sub_self, List.take_zero]
      rfl
    · cases rest with
      | nil => rw [List.take_nil]; rfl
      | cons c rest =>
        cases hcount : most - ds.length with
        | zero => rfl
        | succ k =>
          have hc : c.isDigit = false := hnone
          rw [List.take_succ_cons, List.takeWhile_cons_of_neg (by simp [hc])]
  rw [hrest, List.append_nil]

theorem exists_takeWhile_isDigit (most : Nat) (cs : List Char) :
    ∃ ds rest, cs = ds ++ rest ∧ (cs.take most).takeWhile Char.isDigit = ds ∧
      (∀ d ∈ ds, d.isDigit = true) ∧ ds.length ≤ most ∧
        (ds.length = most ∨ startsWithDigit rest = false) := by
  induction most generalizing cs with
  | zero => exact ⟨[], cs, rfl, rfl, by simp, Nat.le_refl 0, .inl rfl⟩
  | succ most ih =>
    cases cs with
    | nil => exact ⟨[], [], rfl, rfl, by simp, Nat.zero_le _, .inr rfl⟩
    | cons c cs =>
      by_cases hc : c.isDigit = true
      · obtain ⟨ds, rest, rfl, htake, hds, hle, hstop⟩ := ih cs
        refine ⟨c :: ds, rest, rfl, ?_, ?_, Nat.succ_le_succ hle, hstop.imp_left (congrArg Nat.succ)⟩
        · rw [List.take_succ_cons, List.takeWhile_cons_of_pos hc, htake]
        · intro d hd
          rcases List.mem_cons.1 hd with rfl | hd
          · exact hc
          · exact hds d hd
      · refine ⟨[], c :: cs, rfl, ?_, by simp, Nat.zero_le _, .inr (Bool.eq_false_iff.2 hc)⟩
        rw [List.take_succ_cons, List.takeWhile_cons_of_neg hc]

/-- A number stands behind blanks and has as many digits as there are, up to the limit. -/
theorem takeNumber?_eq_some_iff {most n : Nat} {cs rest : List Char} :
    takeNumber? most cs = some (n, rest) ↔
      ∃ blanks ds, cs = blanks ++ (ds ++ rest) ∧ (∀ c ∈ blanks, isAsciiBlank c = true) ∧
        IsNumeral ds ds.length n ∧ ds ≠ [] ∧ ds.length ≤ most ∧
          (ds.length = most ∨ startsWithDigit rest = false) := by
  constructor
  · intro h
    obtain ⟨ds, left, hbody, htake, hds, hle, hstop⟩ :=
      exists_takeWhile_isDigit most (cs.dropWhile isAsciiBlank)
    unfold takeNumber? at h
    dsimp only at h
    rw [htake, hbody, List.drop_left] at h
    split at h
    · cases h
    · next hne =>
      obtain ⟨hvalue, rfl⟩ : digitsValue ds = n ∧ left = rest := by simpa using h
      refine ⟨cs.takeWhile isAsciiBlank, ds, ?_, fun c hc => List.mem_takeWhile_imp hc,
        ⟨rfl, hds, hvalue⟩, by simpa using hne, hle, hstop⟩
      rw [← hbody, List.takeWhile_append_dropWhile]
  · rintro ⟨blanks, ds, rfl, hblanks, hds, hne, hle, hstop⟩
    obtain ⟨d, ds', rfl⟩ := List.exists_cons_of_ne_nil hne
    have hfirst : ((d :: ds') ++ rest).dropWhile isAsciiBlank = (d :: ds') ++ rest := by
      rw [List.cons_append, List.dropWhile_cons_of_neg]
      simp [isAsciiBlank_of_isDigit (hds.isDigit d List.mem_cons_self)]
    unfold takeNumber?
    dsimp only
    rw [List.dropWhile_append_of_pos hblanks, hfirst, takeWhile_isDigit_take hds.isDigit hle hstop,
      List.drop_left, hds.value_eq]
    rfl

theorem takeNumber?_numeral {most width n : Nat} {ds : List Char} (hds : IsNumeral ds width n)
    (hpos : 0 < width) (hle : width ≤ most) {rest : List Char}
    (hstop : width = most ∨ startsWithDigit rest = false) :
    takeNumber? most (ds ++ rest) = some (n, rest) := by
  have hlength := hds.length_eq
  rw [takeNumber?_eq_some_iff]
  refine ⟨[], ds, rfl, by simp, ⟨rfl, hds.isDigit, hds.value_eq⟩, ?_, by omega, ?_⟩
  · rintro rfl
    cases hlength
    cases hpos
  · rw [hlength]
    exact hstop

theorem ne_sign_of_takeNumber? {most n : Nat} {c : Char} {cs rest : List Char}
    (h : takeNumber? most (c :: cs) = some (n, rest)) : c ≠ '-' ∧ c ≠ '+' := by
  obtain ⟨blanks, ds, hcs, hblanks, hds, hne, -, -⟩ := takeNumber?_eq_some_iff.1 h
  have hc : isAsciiBlank c = true ∨ c.isDigit = true := by
    cases blanks with
    | nil =>
      obtain ⟨d, ds', rfl⟩ := List.exists_cons_of_ne_nil hne
      obtain ⟨rfl, -⟩ := List.cons.inj hcs
      exact .inr (hds.isDigit c List.mem_cons_self)
    | cons b blanks =>
      obtain ⟨rfl, -⟩ := List.cons.inj hcs
      exact .inl (hblanks c List.mem_cons_self)
  constructor
  · rintro rfl
    revert hc
    decide
  · rintro rfl
    revert hc
    decide

/-! ## Parts that read a number -/

namespace Part

/-- The part reads a number. -/
def isNumber : Part → Bool
  | .blank | .literal _ => false
  | _ => true

/-- The digits of the number at most. -/
def mostDigits : Part → Nat
  | .year => 4
  | _ => 2

/-- What a number behind a sign or behind none sets, if it is within the bounds of the part. -/
def set? (fs : Fields) (sign : List Char) (n : Nat) : Part → Option Fields
  | .year =>
    if sign = ['-'] then some { fs with date.year := -(n : Int) }
    else if sign = [] ∨ sign = ['+'] then some { fs with date.year := n }
    else none
  | .month => if sign = [] ∧ 1 ≤ n ∧ n ≤ 12 then some { fs with date.month := n } else none
  | .day => if sign = [] ∧ 1 ≤ n ∧ n ≤ 31 then some { fs with date.day := n } else none
  | .hour => if sign = [] ∧ 0 ≤ n ∧ n ≤ 23 then some { fs with time.hour := n } else none
  | .minute => if sign = [] ∧ 0 ≤ n ∧ n ≤ 59 then some { fs with time.minute := n } else none
  | .second => if sign = [] ∧ 0 ≤ n ∧ n ≤ 60 then some { fs with time.second := min n 59 } else none
  | .blank | .literal _ => none

theorem takeYear?_eq_some_iff {year : Int} {cs rest : List Char} :
    takeYear? cs = some (year, rest) ↔
      ∃ sign body n, cs = sign ++ body ∧ takeNumber? 4 body = some (n, rest) ∧
        (sign = ['-'] ∧ year = -(n : Int) ∨ (sign = [] ∨ sign = ['+']) ∧ year = n) := by
  constructor
  · intro h
    unfold takeYear? at h
    split at h
    · next body =>
      obtain ⟨⟨n, left⟩, hn, heq⟩ := Option.map_eq_some_iff.1 h
      cases heq
      exact ⟨['-'], body, n, rfl, hn, .inl ⟨rfl, rfl⟩⟩
    · next body =>
      obtain ⟨⟨n, left⟩, hn, heq⟩ := Option.map_eq_some_iff.1 h
      cases heq
      exact ⟨['+'], body, n, rfl, hn, .inr ⟨.inr rfl, rfl⟩⟩
    · obtain ⟨⟨n, left⟩, hn, heq⟩ := Option.map_eq_some_iff.1 h
      cases heq
      exact ⟨[], cs, n, rfl, hn, .inr ⟨.inl rfl, rfl⟩⟩
  · rintro ⟨sign, body, n, rfl, hn, ⟨rfl, rfl⟩ | ⟨rfl | rfl, rfl⟩⟩
    · show (takeNumber? 4 body).map _ = _
      rw [hn]
      rfl
    · unfold takeYear?
      rw [List.nil_append]
      split
      · exact absurd rfl (ne_sign_of_takeNumber? hn).1
      · exact absurd rfl (ne_sign_of_takeNumber? hn).2
      · rw [hn]
        rfl
    · show (takeNumber? 4 body).map _ = _
      rw [hn]
      rfl

theorem takeTwoDigits?_eq_some_iff {least most n : Nat} {cs rest : List Char} :
    takeTwoDigits? least most cs = some (n, rest) ↔
      takeNumber? 2 cs = some (n, rest) ∧ least ≤ n ∧ n ≤ most := by
  unfold takeTwoDigits?
  cases takeNumber? 2 cs with
  | none => simp
  | some found =>
    obtain ⟨m, left⟩ := found
    simp only [Bool.and_eq_true, decide_eq_true_eq, Option.some.injEq, Prod.mk.injEq]
    split
    · grind
    · grind

theorem map_takeTwoDigits?_eq_some_iff (least most : Nat) (set : Nat → Fields) {fs : Fields}
    {cs rest : List Char} :
    (takeTwoDigits? least most cs).map (fun found => (set found.1, found.2)) = some (fs, rest) ↔
      ∃ sign body n, cs = sign ++ body ∧ takeNumber? 2 body = some (n, rest) ∧
        (if sign = [] ∧ least ≤ n ∧ n ≤ most then some (set n) else none) = some fs := by
  rw [Option.map_eq_some_iff]
  constructor
  · rintro ⟨⟨n, left⟩, hn, heq⟩
    cases heq
    obtain ⟨hn, hbounds⟩ := takeTwoDigits?_eq_some_iff.1 hn
    exact ⟨[], cs, n, rfl, hn, if_pos ⟨rfl, hbounds⟩⟩
  · rintro ⟨sign, body, n, rfl, hn, hset⟩
    split at hset
    · next h =>
      obtain ⟨rfl, hbounds⟩ := h
      cases hset
      exact ⟨(n, rest), takeTwoDigits?_eq_some_iff.2 ⟨hn, hbounds⟩, rfl⟩
    · cases hset

theorem take?_year {fs fs' : Fields} {cs rest : List Char} :
    year.take? fs cs = some (fs', rest) ↔
      ∃ sign body n, cs = sign ++ body ∧ takeNumber? 4 body = some (n, rest) ∧
        year.set? fs sign n = some fs' := by
  constructor
  · intro h
    obtain ⟨⟨number, left⟩, hyear, heq⟩ := Option.map_eq_some_iff.1 h
    cases heq
    obtain ⟨sign, body, n, hcs, hn, hsign⟩ := takeYear?_eq_some_iff.1 hyear
    refine ⟨sign, body, n, hcs, hn, ?_⟩
    rcases hsign with ⟨rfl, rfl⟩ | ⟨rfl | rfl, rfl⟩
    · rfl
    · rfl
    · rfl
  · rintro ⟨sign, body, n, hcs, hn, hset⟩
    refine Option.map_eq_some_iff.2 ?_
    simp only [set?] at hset
    split at hset
    · next hsign =>
      cases hset
      exact ⟨(_, rest), takeYear?_eq_some_iff.2 ⟨sign, body, n, hcs, hn, .inl ⟨hsign, rfl⟩⟩, rfl⟩
    · split at hset
      · next hsign =>
        cases hset
        exact ⟨(_, rest), takeYear?_eq_some_iff.2 ⟨sign, body, n, hcs, hn, .inr ⟨hsign, rfl⟩⟩, rfl⟩
      · cases hset

theorem take?_eq_some_iff {p : Part} (hp : p.isNumber = true) {fs fs' : Fields}
    {cs rest : List Char} :
    p.take? fs cs = some (fs', rest) ↔
      ∃ sign body n, cs = sign ++ body ∧ takeNumber? p.mostDigits body = some (n, rest) ∧
        p.set? fs sign n = some fs' := by
  cases p with
  | year => exact take?_year
  | month => exact map_takeTwoDigits?_eq_some_iff 1 12 fun n => { fs with date.month := n }
  | day => exact map_takeTwoDigits?_eq_some_iff 1 31 fun n => { fs with date.day := n }
  | hour => exact map_takeTwoDigits?_eq_some_iff 0 23 fun n => { fs with time.hour := n }
  | minute => exact map_takeTwoDigits?_eq_some_iff 0 59 fun n => { fs with time.minute := n }
  | second => exact map_takeTwoDigits?_eq_some_iff 0 60 fun n => { fs with time.second := min n 59 }
  | blank | literal => cases hp

theorem take?_literal {c : Char} {fs fs' : Fields} {cs rest : List Char} :
    (literal c).take? fs cs = some (fs', rest) ↔ cs = c :: rest ∧ fs' = fs := by
  cases cs with
  | nil => simp [take?]
  | cons d left =>
    simp only [take?, beq_iff_eq]
    split
    · next h => simp [h, eq_comm, and_comm]
    · next h => simp [Ne.symm h]

theorem take?_blank {fs fs' : Fields} {cs rest : List Char} :
    blank.take? fs cs = some (fs', rest) ↔ rest = cs.dropWhile isAsciiBlank ∧ fs' = fs := by
  simp [take?, eq_comm, and_comm]

/-- What a part leaves is the end of the text. -/
theorem take?_suffix {p : Part} {fs fs' : Fields} {cs rest : List Char}
    (h : p.take? fs cs = some (fs', rest)) : rest <:+ cs := by
  cases hp : p.isNumber with
  | true =>
    obtain ⟨sign, body, n, rfl, hn, -⟩ := (take?_eq_some_iff hp).1 h
    obtain ⟨blanks, ds, rfl, -⟩ := takeNumber?_eq_some_iff.1 hn
    exact ⟨sign ++ (blanks ++ ds), by simp⟩
  | false =>
    cases p with
    | blank =>
      rw [(take?_blank.1 h).1]
      exact List.dropWhile_suffix _
    | literal c =>
      rw [(take?_literal.1 h).1]
      exact List.suffix_cons c rest
    | _ => cases hp

/-- The characters that a part may read. -/
def mayRead (p : Part) (c : Char) : Bool :=
  c.isDigit || isAsciiBlank c || p == .year && (c == '-' || c == '+') || p == .literal c

theorem eq_nil_or_of_set? {p : Part} {fs fs' : Fields} {sign : List Char} {n : Nat}
    (h : p.set? fs sign n = some fs') : sign = [] ∨ p = .year ∧ (sign = ['-'] ∨ sign = ['+']) := by
  cases p with
  | year =>
    simp only [set?] at h
    grind
  | blank => cases h
  | literal c => cases h
  | _ =>
    simp only [set?] at h
    split at h
    · next hsign => exact .inl hsign.1
    · cases h

theorem mem_of_take? {p : Part} {fs fs' : Fields} {cs rest : List Char}
    (h : p.take? fs cs = some (fs', rest)) {c : Char} (hc : c ∈ cs) : p.mayRead c = true ∨ c ∈ rest := by
  cases hp : p.isNumber with
  | true =>
    obtain ⟨sign, body, n, rfl, hn, hset⟩ := (take?_eq_some_iff hp).1 h
    obtain ⟨blanks, ds, rfl, hblanks, hds, -⟩ := takeNumber?_eq_some_iff.1 hn
    simp only [List.mem_append] at hc
    rcases hc with hc | hc | hc | hc
    · left
      rcases eq_nil_or_of_set? hset with rfl | ⟨rfl, rfl | rfl⟩
      · cases hc
      · simp [mayRead, List.mem_singleton.1 hc]
      · simp [mayRead, List.mem_singleton.1 hc]
    · simp [mayRead, hblanks c hc]
    · simp [mayRead, hds.isDigit c hc]
    · exact .inr hc
  | false =>
    cases p with
    | blank =>
      rw [(take?_blank.1 h).1]
      rw [← List.takeWhile_append_dropWhile (p := isAsciiBlank) (l := cs)] at hc
      refine (List.mem_append.1 hc).imp_left fun hc => ?_
      simp [mayRead, List.mem_takeWhile_imp hc]
    | literal d =>
      rw [(take?_literal.1 h).1] at hc
      refine (List.mem_cons.1 hc).imp_left fun hc => ?_
      simp [mayRead, hc]
    | _ => cases hp

end Part

/-! ## Whole patterns -/

/-- Every character of a text that fits a pattern is one that a part of the pattern may read. -/
theorem exists_mayRead_of_readParts? {parts : List Part} {fs fs' : Fields} {cs : List Char}
    (h : readParts? fs cs parts = some fs') {c : Char} (hc : c ∈ cs) :
    ∃ p ∈ parts, p.mayRead c = true := by
  induction parts generalizing fs cs with
  | nil =>
    unfold readParts? at h
    split at h
    · next hempty =>
      rw [List.isEmpty_iff.1 hempty] at hc
      cases hc
    · cases h
  | cons p parts ih =>
    unfold readParts? at h
    split at h
    · next fs rest htake =>
      rcases Part.mem_of_take? htake hc with hread | hc
      · exact ⟨p, List.mem_cons_self, hread⟩
      · obtain ⟨q, hq, hread⟩ := ih h hc
        exact ⟨q, List.mem_cons_of_mem p hq, hread⟩
    · cases h

/-- A text that fits a pattern has every literal of the pattern. -/
theorem mem_of_readParts? {parts : List Part} {fs fs' : Fields} {cs : List Char}
    (h : readParts? fs cs parts = some fs') {c : Char} (hc : .literal c ∈ parts) : c ∈ cs := by
  induction parts generalizing fs cs with
  | nil => cases hc
  | cons p parts ih =>
    unfold readParts? at h
    split at h
    · next fs rest htake =>
      rcases List.mem_cons.1 hc with rfl | hc
      · rw [(Part.take?_literal.1 htake).1]
        exact List.mem_cons_self
      · exact (Part.take?_suffix htake).subset (ih h hc)
    · cases h

/-! ## Bounds -/

/-- The time of day exists. -/
def Time.IsReal (t : Time) : Prop := t.hour < 24 ∧ t.minute < 60 ∧ t.second < 60

/-- The year has four digits at most, and the time of day exists. -/
def Fields.IsBounded (fs : Fields) : Prop := fs.date.year.natAbs ≤ 9999 ∧ fs.time.IsReal

theorem isBounded_start : Fields.start.IsBounded :=
  ⟨Nat.zero_le _, by decide, by decide, by decide⟩

theorem Part.isBounded_set? {p : Part} {fs fs' : Fields} {sign : List Char} {n : Nat}
    (h : p.set? fs sign n = some fs') (hn : n < powerOfTen p.mostDigits) (hfs : fs.IsBounded) :
    fs'.IsBounded := by
  obtain ⟨hyear, hhour, hminute, hsecond⟩ := hfs
  cases p with
  | year =>
    have hle : n ≤ 9999 := Nat.le_of_lt_succ hn
    simp only [set?] at h
    split at h
    · cases h
      exact ⟨by simpa using hle, hhour, hminute, hsecond⟩
    · split at h
      · cases h
        exact ⟨by simpa using hle, hhour, hminute, hsecond⟩
      · cases h
  | blank => cases h
  | literal c => cases h
  | _ =>
    simp only [set?] at h
    split at h
    · next hbounds =>
      cases h
      unfold Fields.IsBounded Time.IsReal
      dsimp only
      omega
    · cases h

theorem Part.isBounded_take? {p : Part} {fs fs' : Fields} {cs rest : List Char}
    (h : p.take? fs cs = some (fs', rest)) (hfs : fs.IsBounded) : fs'.IsBounded := by
  cases hp : p.isNumber with
  | true =>
    obtain ⟨sign, body, n, -, hn, hset⟩ := (take?_eq_some_iff hp).1 h
    obtain ⟨blanks, ds, -, -, hds, -, hle, -⟩ := takeNumber?_eq_some_iff.1 hn
    refine isBounded_set? hset (Nat.lt_of_lt_of_le hds.lt_powerOfTen ?_) hfs
    exact Nat.pow_le_pow_right (by decide) hle
  | false =>
    cases p with
    | blank =>
      rw [(take?_blank.1 h).2]
      exact hfs
    | literal c =>
      rw [(take?_literal.1 h).2]
      exact hfs
    | _ => cases hp

theorem isBounded_readParts? {parts : List Part} {fs fs' : Fields} {cs : List Char}
    (h : readParts? fs cs parts = some fs') (hfs : fs.IsBounded) : fs'.IsBounded := by
  induction parts generalizing fs cs with
  | nil =>
    unfold readParts? at h
    split at h
    · cases h
      exact hfs
    · cases h
  | cons p parts ih =>
    unfold readParts? at h
    split at h
    · next fs rest htake => exact ih h (Part.isBounded_take? htake hfs)
    · cases h

/-- What fits a pattern names a date that exists, in a year of at most four digits, and a time. -/
theorem of_readPattern? {parts : List Part} {cs : List Char} {fs : Fields}
    (h : readPattern? parts cs = some fs) :
    readParts? .start cs parts = some fs ∧ fs.date.isValid = true ∧ fs.IsBounded := by
  unfold readPattern? at h
  split at h
  · next found hfound =>
    split at h
    · next hvalid =>
      cases h
      exact ⟨hfound, hvalid, isBounded_readParts? hfound isBounded_start⟩
    · cases h
  · cases h

end TagSearch.Calendar

import TagSearch.Proofs.Calendar.TimeBehind
import TagSearch.Proofs.Query.DateTerm
import TagSearch.Proofs.Query.Glyphs

/-!
# Terms that go on with a time of day

A date term and the time of day behind it are read as one term.  Its operand is that of the date with the
time behind it, and a glyph behind the time is taken off as if it stood behind the date
(`DateTerm.ofTerm?_joined`).

The time is read with the date if the date fits a pattern that goes on with a time.  Dates with slashes
and the month or the day first, and dates without marks, fit none: by themselves they are read, but with
a time of day the two of them are refused (`Filter.ofTerm_joined`).
-/

namespace TagSearch

open Calendar Text

/-! ## Terms and what follows them -/

theorem isPrefixOf?_append_space {mark : List Char} (hmark : ' ' ∉ mark) (cs more : List Char) :
    mark.isPrefixOf? (cs ++ ' ' :: more) = (mark.isPrefixOf? cs).map (· ++ ' ' :: more) := by
  cases hcs : mark.isPrefixOf? cs with
  | some rest =>
    rw [← List.append_eq_of_isPrefixOf?_eq_some hcs, List.append_assoc]
    exact List.isPrefixOf?_eq_some_iff_append_eq.2 rfl
  | none =>
    rw [Option.map_none, Option.eq_none_iff_forall_ne_some]
    intro rest hrest
    rcases List.append_eq_append_iff.1 (List.append_eq_of_isPrefixOf?_eq_some hrest) with
      ⟨left, rfl, -⟩ | ⟨left, rfl, hleft⟩
    · rw [List.isPrefixOf?_eq_some_iff_append_eq.2 rfl] at hcs
      cases hcs
    · cases left with
      | nil =>
        rw [List.append_nil, List.isPrefixOf?_eq_some_iff_append_eq.2 (List.append_nil cs)] at hcs
        cases hcs
      | cons c left =>
        rw [← (List.cons.inj hleft).1] at hmark
        simp at hmark

theorem splitExclusion_append_space (cs more : List Char) :
    splitExclusion (cs ++ ' ' :: more) =
      ((splitExclusion cs).1, (splitExclusion cs).2 ++ ' ' :: more) := by
  have hmarks : ∀ mark ∈ exclusionMarks, ' ' ∉ mark := by decide
  have hfound : exclusionMarks.findSome? (·.isPrefixOf? (cs ++ ' ' :: more)) =
      (exclusionMarks.findSome? (·.isPrefixOf? cs)).map (· ++ ' ' :: more) := by
    rw [List.map_findSome?]
    exact findSome?_congr fun mark hmark => isPrefixOf?_append_space (hmarks mark hmark) cs more
  unfold splitExclusion
  rw [hfound]
  cases exclusionMarks.findSome? (·.isPrefixOf? cs) <;> rfl

/-! ## Texts without glyphs -/

theorem isGlyphChar_of_isDigit {c : Char} (h : c.isDigit = true) : isGlyphChar c = false := by
  simp [isGlyphChar, ne_of_isDigit h (d := '<') rfl, ne_of_isDigit h (d := '>') rfl,
    ne_of_isDigit h (d := '=') rfl]

/-- No character of a glyph occurs. -/
def HasNoGlyph (cs : List Char) : Prop := ∀ c ∈ cs, isGlyphChar c = false

namespace HasNoGlyph

variable {cs : List Char} (h : HasNoGlyph cs)

include h

theorem startsWithGlyph : TagSearch.startsWithGlyph cs = false := by
  rw [Bool.eq_false_iff]
  intro hstart
  obtain ⟨c, hc, hglyph⟩ := (Option.any_eq_true _ _).1 hstart
  rw [h c (List.mem_of_head? hc)] at hglyph
  cases hglyph

theorem endsWithGlyph : TagSearch.endsWithGlyph cs = false := by
  rw [Bool.eq_false_iff]
  intro hend
  obtain ⟨c, hc, hglyph⟩ := (Option.any_eq_true _ _).1 hend
  rw [h c (List.mem_of_getLast? hc)] at hglyph
  cases hglyph

theorem splitOperator : TagSearch.splitOperator cs = (.eq, cs) := by
  rcases splitOperator_cases cs with
    hcs | ⟨glyph, comparison, operand, hglyph, -, ⟨rfl, -⟩ | ⟨rfl, -⟩⟩
  · exact hcs
  · have hstart := startsWithGlyph_append_glyph hglyph operand
    rw [h.startsWithGlyph] at hstart
    cases hstart
  · have hend := endsWithGlyph_append_glyph hglyph operand
    rw [h.endsWithGlyph] at hend
    cases hend

theorem append_space {more : List Char} (hmore : HasNoGlyph more) : HasNoGlyph (cs ++ ' ' :: more) := by
  intro c hc
  rcases List.mem_append.1 hc with hc | hc
  · exact h c hc
  · rcases List.mem_cons.1 hc with rfl | hc
    · rfl
    · exact hmore c hc

end HasNoGlyph

/-- A glyph, or none. -/
def IsGlyphOrNone (glyph : List Char) : Prop := glyph = [] ∨ ∃ comparison, (glyph, comparison) ∈ glyphs

/-- A glyph behind a time is taken off behind the date and the time, and a glyph in front of the date is
taken off in front of both. -/
theorem splitOperator_joined {value clock glyph : List Char} (hend : endsWithGlyph value = false)
    (hone : startsWithGlyph value = true → glyph = [])
    (hoperand : HasNoGlyph (splitOperator value).2) (hclock : HasNoGlyph clock) (hne : clock ≠ [])
    (hglyph : IsGlyphOrNone glyph) :
    splitOperator (value ++ ' ' :: (clock ++ glyph)) =
      (if glyph = [] then (splitOperator value).1 else (splitOperator (clock ++ glyph)).1,
        (splitOperator value).2 ++ ' ' :: clock) := by
  rcases splitOperator_cases value with
    hvalue | ⟨front, comparison, operand, hfront, hoperandne, ⟨rfl, hvalue⟩ | ⟨rfl, -⟩⟩
  · rw [hvalue] at hoperand ⊢
    have hjoined := hoperand.append_space hclock
    rcases hglyph with rfl | ⟨comparison, hglyph⟩
    · rw [List.append_nil, hjoined.splitOperator]
      rfl
    · have hglyphs : ∀ entry ∈ glyphs, entry.1 ≠ [] := by decide
      rw [if_neg (hglyphs _ hglyph), ← List.cons_append, ← List.append_assoc,
        splitOperator_trailing hglyph (by simp) hjoined.startsWithGlyph hjoined.endsWithGlyph,
        splitOperator_trailing hglyph hne hclock.startsWithGlyph hclock.endsWithGlyph]
  · obtain rfl := hone (startsWithGlyph_append_glyph hfront operand)
    rw [hvalue] at hoperand ⊢
    rw [if_pos rfl, List.append_nil, List.append_assoc, splitOperator_leading hfront (by simp)
      (hoperand.append_space hclock).startsWithGlyph]
  · rw [endsWithGlyph_append_glyph hfront operand] at hend
    cases hend

/-! ## The term of a date and a time of day -/

theorem hasNoGlyph_of_readMoment {cs : List Char} {m : Moment} (h : readMoment cs = .ok m) :
    HasNoGlyph cs := by
  intro c hc
  unfold readMoment at h
  split at h
  · next hdigits =>
    exact isGlyphChar_of_isDigit (List.all_eq_true.1 (Bool.and_eq_true_iff.1 hdigits).2 c hc)
  · have hpatterns : ∀ parts ∈ Moment.instantPatterns ++ Moment.dayPatterns, ∀ p ∈ parts,
        (['<', '>', '='].all fun c => !p.mayRead c) = true := by decide
    split at h
    · next moment hwritten =>
      obtain ⟨parts, hparts, fs, hread, -⟩ := Moment.exists_pattern_of_ofWritten? hwritten
      obtain ⟨p, hp, hmay⟩ := exists_mayRead_of_readParts? (of_readPattern? hread).1 hc
      rw [Bool.eq_false_iff]
      intro hglyph
      have hchar : c ∈ ['<', '>', '='] := by simpa [isGlyphChar, or_assoc] using hglyph
      have hnot := List.all_eq_true.1 (hpatterns parts hparts p hp) c hchar
      rw [hmay] at hnot
      cases hnot
    · cases h

namespace Calendar.Time.IsTold

variable {t : Time} {clock : List Char} (h : t.IsTold clock)

include h

theorem hasNoGlyph : HasNoGlyph clock := by
  intro c hc
  rcases h.isDigit_or_eq hc with hc | rfl
  · exact isGlyphChar_of_isDigit hc
  · rfl

theorem ne_nil : clock ≠ [] := by
  obtain ⟨hs, rest, rfl, -⟩ := h.exists_hour
  simp

end Calendar.Time.IsTold

namespace DateTerm

variable {term time : String} {d : DateTerm} {clock glyph : List Char}

/-- What a date term must be like that goes on with a time of day. -/
theorem exists_value_of_continuesWithTime (hterm : ofTerm? term = some d)
    (hjoin : continuesWithTime term time = true) :
    ∃ name value, splitName? (splitExclusion term.toList).2 = some (name, value) ∧
      endsWithGlyph value = false ∧ (startsWithGlyph value = true → endsWithGlyph time.toList = false) ∧
      ':' ∉ d.operand ∧ d.operand.all Char.isDigit = false := by
  obtain ⟨name, value, hname, -, -, -, hoperand, -⟩ := ofTerm?_eq_some_iff.1 hterm
  unfold continuesWithTime at hjoin
  rw [hname] at hjoin
  dsimp only at hjoin
  rw [← hoperand] at hjoin
  simp only [Bool.and_eq_true, Bool.not_eq_true', Bool.and_eq_false_iff] at hjoin
  obtain ⟨⟨⟨⟨⟨-, hend⟩, hone⟩, hcolon⟩, hdigits⟩, -⟩ := hjoin
  refine ⟨name, value, hname, hend, fun hstart => hone.resolve_left (by simp [hstart]), ?_, hdigits⟩
  simpa using hcolon

/-- A date term and a time of day are a date term, of which the operand is that of the date with the
time behind it. -/
theorem ofTerm?_joined (hterm : ofTerm? term = some d) (hjoin : continuesWithTime term time = true)
    (hoperand : HasNoGlyph d.operand) (htime : time.toList = clock ++ glyph) (hclock : HasNoGlyph clock)
    (hne : clock ≠ []) (hglyph : IsGlyphOrNone glyph) :
    ofTerm? (term ++ " " ++ time) = some
      { d with
        comparison := if glyph = [] then d.comparison else (splitOperator time.toList).1
        operand := d.operand ++ ' ' :: clock } := by
  obtain ⟨name, value, hname, hend, hone, -, -⟩ := exists_value_of_continuesWithTime hterm hjoin
  obtain ⟨name', value', hname', hfield, hkind, hcomparison, hoperand', hnegated⟩ :=
    ofTerm?_eq_some_iff.1 hterm
  obtain ⟨rfl, rfl⟩ := Prod.mk.inj (Option.some.inj (hname.symm.trans hname'))
  have htext : (term ++ " " ++ time).toList = term.toList ++ ' ' :: (clock ++ glyph) := by
    rw [String.toList_append, String.toList_append, htime]
    simp
  have hsplit := splitOperator_joined hend (fun hstart => ?_) (by rwa [← hoperand']) hclock hne hglyph
  · rw [← hcomparison, ← hoperand', ← htime] at hsplit
    rw [ofTerm?_eq_some_iff, htext, splitExclusion_append_space]
    refine ⟨name, value ++ ' ' :: (clock ++ glyph), ?_, hfield, hkind, ?_, ?_, hnegated⟩
    · obtain ⟨hcore, hnamene, hchars, hvalue⟩ := splitName?_eq_some_iff.1 hname
      rw [splitName?_eq_some_iff, hcore]
      exact ⟨by simp, hnamene, hchars, by simp⟩
    · rw [← htime, hsplit]
    · rw [← htime, hsplit]
  · rcases hglyph with hnone | ⟨comparison, hglyph⟩
    · exact hnone
    · have htimeend := hone hstart
      rw [htime, endsWithGlyph_append_glyph hglyph] at htimeend
      cases htimeend

end DateTerm

theorem readMoment_told {cs : List Char} {m : Moment} (h : readMoment cs = .ok m)
    (hcolon : ':' ∉ cs) (hdigits : cs.all Char.isDigit = false) {t : Time} (ht : t.IsReal)
    {clock : List Char} (htold : t.IsTold clock) :
    m = .day m.date ∧ readMoment (cs ++ ' ' :: clock) =
      if Moment.takesTime cs then .ok (.instant m.date t)
      else .error (.invalidDate (String.ofList (cs ++ ' ' :: clock))) := by
  have hwritten : Moment.ofWritten? cs = some m := by
    unfold readMoment at h
    rw [hdigits, Bool.and_false, if_neg Bool.false_ne_true] at h
    split at h
    · next found hfound =>
      cases h
      exact hfound
    · cases h
  constructor
  · unfold Moment.ofWritten? at hwritten
    rw [findSome?_instantPatterns hcolon] at hwritten
    obtain ⟨fs, -, rfl⟩ := Option.map_eq_some_iff.1 hwritten
    rfl
  · have hspace : (cs ++ ' ' :: clock).all Char.isDigit = false := by simp
    unfold readMoment
    rw [hspace, Bool.and_false, if_neg Bool.false_ne_true,
      Moment.ofWritten?_told hwritten hcolon ht htold]
    cases Moment.takesTime cs <;> rfl

/-- The filter of a date term that goes on with a time of day, where the date is accepted by itself: it
compares with the time on that day if the date takes a time, and otherwise there is none. -/
theorem Filter.ofTerm_joined {term time : String} {d : DateTerm} {f : Filter} {t : Time}
    {clock glyph : List Char} (hterm : DateTerm.ofTerm? term = some d) (hf : Filter.ofTerm term = .ok f)
    (ht : t.IsReal) (htold : t.IsTold clock) (hglyph : IsGlyphOrNone glyph)
    (htime : time.toList = clock ++ glyph) (hjoin : continuesWithTime term time = true) :
    Filter.ofTerm (term ++ " " ++ time) =
      if Moment.takesTime d.operand then
        .ok { f with
          value := .text (f.value.toText ++ " " ++ String.ofList t.text)
          operator := if glyph = [] then f.operator else .compare (splitOperator time.toList).1 }
      else .error (.invalidDate (String.ofList (d.operand ++ ' ' :: clock))) := by
  obtain ⟨-, -, -, -, -, hcolon, hdigits⟩ := DateTerm.exists_value_of_continuesWithTime hterm hjoin
  rw [ofTerm_of_dateTerm hterm] at hf
  cases hread : readMoment d.operand with
  | error e =>
    unfold normalText? at hf
    rw [hread] at hf
    cases hf
  | ok m =>
    have hoperand := hasNoGlyph_of_readMoment hread
    have hjoined := DateTerm.ofTerm?_joined hterm hjoin hoperand htime htold.hasNoGlyph htold.ne_nil hglyph
    obtain ⟨hday, htold⟩ := readMoment_told hread hcolon hdigits ht htold
    unfold normalText? at hf
    rw [hread] at hf
    cases hf
    rw [ofTerm_of_dateTerm hjoined]
    dsimp only
    unfold normalText?
    rw [htold]
    cases Moment.takesTime d.operand with
    | false => rfl
    | true =>
      have htext : String.ofList (Moment.instant m.date t).text =
          String.ofList m.text ++ " " ++ String.ofList t.text := by
        rw [hday]
        simp [Moment.text, Moment.date, String.ext_iff]
      show Except.ok (Filter.mk d.field _ _ d.negated) = Except.ok (Filter.mk d.field _ _ d.negated)
      rw [htext]
      split <;> rfl

/-- An hour of one digit, and a glyph behind the time. -/
theorem Filter.ofTerm_joined_glyph :
    Filter.ofTerm "-uploaded:11-14-2023" =
        .ok ⟨.createdAt, .text "2023-11-14", .compare .eq, true⟩ ∧
      Time.IsTold ⟨9, 5, 0⟩ "9:05".toList ∧ continuesWithTime "-uploaded:11-14-2023" "9:05<=" = true ∧
      Filter.ofTerm ("-uploaded:11-14-2023" ++ " " ++ "9:05<=") =
        .ok ⟨.createdAt, .text "2023-11-14 09:05:00", .compare .ge, true⟩ := by
  have hterm : DateTerm.ofTerm? "-uploaded:11-14-2023" =
      some ⟨.createdAt, .eq, "11-14-2023".toList, true⟩ := by rfl
  have hf : Filter.ofTerm "-uploaded:11-14-2023" =
      .ok ⟨.createdAt, .text "2023-11-14", .compare .eq, true⟩ := by decide +kernel
  have htold : Time.IsTold ⟨9, 5, 0⟩ "9:05".toList :=
    ⟨1, ['9'], ['0', '5'], by decide, by decide, .of_all rfl (by decide) rfl,
      .of_all rfl (by decide) rfl, .inl ⟨rfl, rfl⟩⟩
  have hjoin : continuesWithTime "-uploaded:11-14-2023" "9:05<=" = true := by decide +kernel
  refine ⟨hf, htold, hjoin, ?_⟩
  rw [Filter.ofTerm_joined hterm hf ⟨by decide, by decide, by decide⟩ htold
    (.inr ⟨.le, by decide⟩ : IsGlyphOrNone ['<', '=']) rfl hjoin]
  decide +kernel

/-- With slashes and the month first a date is accepted by itself, and a time of day goes on with it; but
the two of them are refused. -/
theorem Filter.ofTerm_joined_refused :
    Filter.ofTerm "created_at:11/14/2023" =
        .ok ⟨.createdAt, .text "2023-11-14", .compare .eq, false⟩ ∧
      continuesWithTime "created_at:11/14/2023" "22:13" = true ∧
      Filter.ofTerm ("created_at:11/14/2023" ++ " " ++ "22:13") =
        .error (.invalidDate "11/14/2023 22:13") := by
  decide +kernel

end TagSearch

import TagSearch.Proofs.Query.Terms

/-!
# Glyphs at either end

A comparison glyph stands in front of an operand or, read from right to left, behind it.  The glyph that
is taken off is the whole of what stands there (`splitOperator_leading`, `splitOperator_trailing`), so a
field that takes a comparison reads `<=5` and `5>=` alike, and with them every operand that it accepts
or refuses.

`glyphs_at_either_end` says so of the terms that name such a field, and what is taken off in general:
one glyph or none, at one end, and never the whole text.
-/

namespace TagSearch

open Text

/-! ## The text of an operand -/

/-- The glyph with `<` and `>` exchanged. -/
def mirrorGlyph (glyph : String) : String :=
  String.ofList (glyph.toList.map fun c => if c = '<' then '>' else if c = '>' then '<' else c)

/-- The mirror image of a glyph asks for the mirrored comparison. -/
theorem mem_glyphs {glyph : String} (h : glyph ∈ ["<", "<=", ">", ">=", "="]) :
    ∃ comparison, (glyph.toList, comparison) ∈ glyphs ∧
      ((mirrorGlyph glyph).toList, comparison.mirror) ∈ glyphs := by
  simp only [List.mem_cons, List.not_mem_nil, or_false] at h
  rcases h with rfl | rfl | rfl | rfl | rfl
  · exact ⟨.lt, by decide⟩
  · exact ⟨.le, by decide⟩
  · exact ⟨.gt, by decide⟩
  · exact ⟨.ge, by decide⟩
  · exact ⟨.eq, by decide⟩

/-- What is found at an end of a text, taking off glyph by glyph there: a glyph and what it leaves. -/
theorem exists_glyph_of_findSome? (takeOff : List Char → Option (List Char))
    (reading : Comparison → Comparison) {comparison : Comparison} {operand : List Char}
    (h : (glyphs.findSome? fun (glyph, found) =>
      match takeOff glyph with
      | some rest => if rest.isEmpty then none else some (reading found, rest)
      | none => none) = some (comparison, operand)) :
    ∃ glyph found, (glyph, found) ∈ glyphs ∧ comparison = reading found ∧
      takeOff glyph = some operand ∧ operand ≠ [] := by
  obtain ⟨⟨glyph, found⟩, hmem, hfound⟩ := List.exists_of_findSome?_eq_some h
  dsimp only at hfound
  split at hfound
  · next rest hrest =>
    split at hfound
    · cases hfound
    · next hne =>
      cases hfound
      exact ⟨glyph, found, hmem, rfl, hrest, by simpa using hne⟩
  · cases hfound

theorem leadingGlyph?_eq_some {cs operand : List Char} {comparison : Comparison}
    (h : leadingGlyph? cs = some (comparison, operand)) :
    ∃ glyph, (glyph, comparison) ∈ glyphs ∧ cs = glyph ++ operand ∧ operand ≠ [] := by
  obtain ⟨glyph, found, hmem, rfl, hrest, hne⟩ :=
    exists_glyph_of_findSome? (·.isPrefixOf? cs) (fun found => found) h
  exact ⟨glyph, hmem, (List.append_eq_of_isPrefixOf?_eq_some hrest).symm, hne⟩

theorem trailingGlyph?_eq_some {cs operand : List Char} {comparison : Comparison}
    (h : trailingGlyph? cs = some (comparison, operand)) :
    ∃ glyph found, (glyph, found) ∈ glyphs ∧ comparison = found.mirror ∧ cs = operand ++ glyph ∧
      operand ≠ [] := by
  obtain ⟨glyph, found, hmem, hmirror, hrest, hne⟩ :=
    exists_glyph_of_findSome? (·.isSuffixOf? cs) Comparison.mirror h
  exact ⟨glyph, found, hmem, hmirror, (List.append_eq_of_isSuffixOf?_eq_some hrest).symm, hne⟩

theorem startsWithGlyph_append_glyph {glyph : List Char} {comparison : Comparison}
    (h : (glyph, comparison) ∈ glyphs) (cs : List Char) : startsWithGlyph (glyph ++ cs) = true := by
  simp only [glyphs, List.mem_cons, Prod.mk.injEq, List.not_mem_nil, or_false] at h
  rcases h with ⟨rfl, rfl⟩ | ⟨rfl, rfl⟩ | ⟨rfl, rfl⟩ | ⟨rfl, rfl⟩ | ⟨rfl, rfl⟩
  all_goals rfl

theorem endsWithGlyph_append_glyph {glyph : List Char} {comparison : Comparison}
    (h : (glyph, comparison) ∈ glyphs) (cs : List Char) : endsWithGlyph (cs ++ glyph) = true := by
  simp only [glyphs, List.mem_cons, Prod.mk.injEq, List.not_mem_nil, or_false] at h
  rcases h with ⟨rfl, rfl⟩ | ⟨rfl, rfl⟩ | ⟨rfl, rfl⟩ | ⟨rfl, rfl⟩ | ⟨rfl, rfl⟩
  all_goals simp [endsWithGlyph, isGlyphChar]

theorem leadingGlyph?_eq_none {cs : List Char} (h : startsWithGlyph cs = false) :
    leadingGlyph? cs = none := by
  rw [Option.eq_none_iff_forall_ne_some]
  rintro ⟨comparison, operand⟩ hfound
  obtain ⟨glyph, hmem, rfl, -⟩ := leadingGlyph?_eq_some hfound
  rw [startsWithGlyph_append_glyph hmem operand] at h
  cases h

/-- In front of an operand that starts with no glyph character, the glyph is taken off whole. -/
theorem splitOperator_leading {glyph operand : List Char} {comparison : Comparison}
    (hglyph : (glyph, comparison) ∈ glyphs) (hne : operand ≠ [])
    (hstart : startsWithGlyph operand = false) :
    splitOperator (glyph ++ operand) = (comparison, operand) := by
  obtain ⟨c, cs, rfl⟩ := List.exists_cons_of_ne_nil hne
  have hc : c ≠ '<' ∧ c ≠ '>' ∧ c ≠ '=' := by
    simpa [startsWithGlyph, isGlyphChar, and_assoc] using hstart
  have hfound : leadingGlyph? (glyph ++ c :: cs) = some (comparison, c :: cs) := by
    simp only [glyphs, List.mem_cons, Prod.mk.injEq, List.not_mem_nil, or_false] at hglyph
    rcases hglyph with ⟨rfl, rfl⟩ | ⟨rfl, rfl⟩ | ⟨rfl, rfl⟩ | ⟨rfl, rfl⟩ | ⟨rfl, rfl⟩
    all_goals simp [leadingGlyph?, glyphs, List.isPrefixOf?, hc.2.2.symm]
  unfold splitOperator
  rw [hfound]

/-- Behind an operand that has no glyph character at either end, the glyph is taken off whole and read
from right to left. -/
theorem splitOperator_trailing {glyph operand : List Char} {comparison : Comparison}
    (hglyph : (glyph, comparison) ∈ glyphs) (hne : operand ≠ [])
    (hstart : startsWithGlyph operand = false) (hend : endsWithGlyph operand = false) :
    splitOperator (operand ++ glyph) = (comparison.mirror, operand) := by
  have hleading : leadingGlyph? (operand ++ glyph) = none := by
    apply leadingGlyph?_eq_none
    obtain ⟨c, cs, rfl⟩ := List.exists_cons_of_ne_nil hne
    exact hstart
  rcases List.eq_nil_or_concat operand with rfl | ⟨cs, c, rfl⟩
  · exact absurd rfl hne
  have hc : c ≠ '<' ∧ c ≠ '>' ∧ c ≠ '=' := by
    simpa [endsWithGlyph, isGlyphChar, and_assoc] using hend
  have hfound : trailingGlyph? (cs.concat c ++ glyph) = some (comparison.mirror, cs.concat c) := by
    simp only [glyphs, List.mem_cons, Prod.mk.injEq, List.not_mem_nil, or_false] at hglyph
    rcases hglyph with ⟨rfl, rfl⟩ | ⟨rfl, rfl⟩ | ⟨rfl, rfl⟩ | ⟨rfl, rfl⟩ | ⟨rfl, rfl⟩
    all_goals
      simp [trailingGlyph?, glyphs, List.isSuffixOf?, List.isPrefixOf?, hc.1.symm, hc.2.1.symm]
  unfold splitOperator
  rw [hleading, hfound]

/-- One glyph is taken off at one end, or none, and an operand is left. -/
theorem splitOperator_cases (cs : List Char) :
    splitOperator cs = (.eq, cs) ∨ ∃ glyph comparison operand, (glyph, comparison) ∈ glyphs ∧
      operand ≠ [] ∧ (cs = glyph ++ operand ∧ splitOperator cs = (comparison, operand) ∨
        cs = operand ++ glyph ∧ splitOperator cs = (comparison.mirror, operand)) := by
  unfold splitOperator
  cases hleading : leadingGlyph? cs with
  | some found =>
    obtain ⟨comparison, operand⟩ := found
    obtain ⟨glyph, hmem, hcs, hne⟩ := leadingGlyph?_eq_some hleading
    exact .inr ⟨glyph, comparison, operand, hmem, hne, .inl ⟨hcs, rfl⟩⟩
  | none =>
    cases htrailing : trailingGlyph? cs with
    | some found =>
      obtain ⟨comparison, operand⟩ := found
      obtain ⟨glyph, front, hmem, rfl, hcs, hne⟩ := trailingGlyph?_eq_some htrailing
      exact .inr ⟨glyph, front, operand, hmem, hne, .inr ⟨hcs, rfl⟩⟩
    | none => exact .inl rfl

theorem operand_ne_nil {cs : List Char} (h : cs ≠ []) : (splitOperator cs).2 ≠ [] := by
  rcases splitOperator_cases cs with hcs | ⟨glyph, comparison, operand, -, hne, ⟨-, hcs⟩ | ⟨-, hcs⟩⟩
  · rwa [hcs]
  · rwa [hcs]
  · rwa [hcs]

theorem operand_infix (cs : List Char) : (splitOperator cs).2 <:+: cs := by
  rcases splitOperator_cases cs with h | ⟨glyph, comparison, operand, -, -, ⟨hcs, h⟩ | ⟨hcs, h⟩⟩
  · exact ⟨[], [], by simp [h]⟩
  · exact ⟨glyph, [], by rw [h, List.append_nil, ← hcs]⟩
  · exact ⟨[], glyph, by rw [h, List.nil_append, ← hcs]⟩

/-! ## The filter of a term -/

/-- A field that compares reads no more of a text than its operator and operand. -/
theorem Field.readOperand_congr {field : Field} {cs ds : List Char}
    (hfield : field.kind? = some .numeric ∨ field.kind? = some .date)
    (h : splitOperator cs = splitOperator ds) : field.readOperand cs = field.readOperand ds := by
  unfold readOperand
  rw [h]
  cases field with
  | tag | owner | title | rating | fileType | unknown => simp [kind?] at hfield
  | _ => rfl

/-- For a field of numbers or dates, in any spelling of its name, an operand means the same behind a
glyph as in front of the mirrored glyph, whether the field accepts it or not.  What is taken off a text
is one glyph at one end at most; the operand is a part of the text, and some of the text is left. -/
theorem glyphs_at_either_end :
    (∀ name glyph operand : String,
      (Field.ofName name).kind? = some .numeric ∨ (Field.ofName name).kind? = some .date →
      glyph ∈ ["<", "<=", ">", ">=", "="] → operand ≠ "" →
      startsWithGlyph operand.toList = false → endsWithGlyph operand.toList = false →
      Filter.ofTerm (name ++ ":" ++ (glyph ++ operand)) =
        Filter.ofTerm (name ++ ":" ++ (operand ++ mirrorGlyph glyph))) ∧
    ∀ cs : List Char,
      (splitOperator cs = (.eq, cs) ∨ ∃ glyph comparison operand, (glyph, comparison) ∈ glyphs ∧
        operand ≠ [] ∧ (cs = glyph ++ operand ∧ splitOperator cs = (comparison, operand) ∨
          cs = operand ++ glyph ∧ splitOperator cs = (comparison.mirror, operand))) ∧
      (cs ≠ [] → (splitOperator cs).2 ≠ []) ∧ (splitOperator cs).2 <:+: cs := by
  refine ⟨fun name glyph operand hfield hglyph hne hstart hend => ?_,
    fun cs => ⟨splitOperator_cases cs, operand_ne_nil, operand_infix cs⟩⟩
  have hknown : ∀ other, Field.ofName name ≠ .unknown other := by
    intro other hother
    simp [hother, Field.kind?] at hfield
  have hoperand : operand.toList ≠ [] := by simpa using hne
  obtain ⟨comparison, hmem, hmirror⟩ := mem_glyphs hglyph
  have hsame : splitOperator (glyph ++ operand).toList =
      splitOperator (operand ++ mirrorGlyph glyph).toList := by
    rw [String.toList_append, String.toList_append, splitOperator_leading hmem hoperand hstart,
      splitOperator_trailing hmirror hoperand hstart hend, Comparison.mirror_mirror]
  rw [Filter.ofTerm_named hknown (by simp [hne]), Filter.ofTerm_named hknown (by simp [hne]),
    Field.readOperand_congr hfield hsame]

/-- A date in another letter case, with the time of day behind the date; and a glyph of which only the
first character can be taken off. -/
theorem glyphs_at_either_end_uploaded :
    ((Field.ofName "Upload-Date").kind? = some .date ∧ ">=" ∈ ["<", "<=", ">", ">=", "="] ∧
      "2023-11-14 22:13" ≠ "" ∧ startsWithGlyph "2023-11-14 22:13".toList = false ∧
      endsWithGlyph "2023-11-14 22:13".toList = false) ∧
    Filter.ofTerm ("Upload-Date" ++ ":" ++ (">=" ++ "2023-11-14 22:13")) =
      Filter.ofTerm ("Upload-Date" ++ ":" ++ ("2023-11-14 22:13" ++ mirrorGlyph ">=")) ∧
    "<=".toList ≠ [] ∧ (splitOperator "<=".toList).2 ≠ [] := by
  have hfield : (Field.ofName "Upload-Date").kind? = some .date := by decide +kernel
  exact ⟨⟨hfield, by decide, by decide, by decide, by decide⟩,
    glyphs_at_either_end.1 "Upload-Date" ">=" "2023-11-14 22:13" (.inr hfield) (by decide) (by decide)
      (by decide) (by decide),
    by decide, (glyphs_at_either_end.2 "<=".toList).2.1 (by decide)⟩

end TagSearch

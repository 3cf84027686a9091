import TagSearch.Proofs.Text.Joined
import TagSearch.Table.Row

/-!
# Arrays of texts between quotation marks

What JSON writes never has a null character, and every text of an array stands in it between quotation
marks (`exists_literal_of_mem`).  Texts without quotation marks, backslashes and control characters are
written as they are, so in an array of such texts every quotation mark starts or ends a text: between two
of them stand texts and the commas that separate texts (`exists_parts_of_encodeTexts`).
-/

namespace TagSearch.Json

open Text

/-- JSON writes the text as it is: it has no quotation mark, no backslash and no control character. -/
def IsUnescaped (cs : List Char) : Prop := ∀ c ∈ cs, c ≠ '"' ∧ c ≠ '\\' ∧ 32 ≤ c.toNat

instance (cs : List Char) : Decidable (IsUnescaped cs) :=
  List.decidableBAll _ cs

theorem encodeChar_eq_self {c : Char} (h : c ≠ '"' ∧ c ≠ '\\' ∧ 32 ≤ c.toNat) :
    encodeChar c = [c] := by
  obtain ⟨hquote, hslash, hc⟩ := h
  have hne {d : Char} (hd : d.toNat < 32) : c ≠ d := by
    rintro rfl
    omega
  have hcontrol : ¬c.toNat < 32 := by omega
  simp [encodeChar, hquote, hslash, hcontrol, hne (d := '\x08') (by decide),
    hne (d := '\x0c') (by decide), hne (d := '\n') (by decide), hne (d := '\r') (by decide),
    hne (d := '\t') (by decide)]

/-! ## Null characters -/

theorem null_not_mem_encodeChar (c : Char) : '\x00' ∉ encodeChar c := by
  have hcontrol : ∀ n < 32, '\x00' ∉ encodeChar (Char.ofNat n) := by decide
  by_cases hc : c.toNat < 32
  · have := hcontrol c.toNat hc
    rwa [Char.ofNat_toNat] at this
  · by_cases hquote : c = '"'
    · rw [hquote]
      decide
    · by_cases hslash : c = '\\'
      · rw [hslash]
        decide
      · rw [encodeChar_eq_self ⟨hquote, hslash, by omega⟩, List.mem_singleton]
        rintro rfl
        exact hc (by decide)

theorem null_not_mem_encodeLiteral (cs : List Char) : '\x00' ∉ encodeLiteral cs := by
  rw [encodeLiteral, List.mem_cons, List.mem_append, List.mem_flatMap]
  rintro (h | ⟨c, -, hc⟩ | h)
  · cases h
  · exact null_not_mem_encodeChar c hc
  · exact absurd h (by decide)

theorem null_not_mem_encodeTexts (texts : List (List Char)) : '\x00' ∉ encodeTexts texts := by
  have hliterals : '\x00' ∉ [','].intercalate (texts.map encodeLiteral) := by
    intro h
    rcases mem_of_mem_intercalate h with hcomma | ⟨literal, hliteral, hmem⟩
    · exact absurd hcomma (by decide)
    · obtain ⟨text, -, rfl⟩ := List.mem_map.1 hliteral
      exact null_not_mem_encodeLiteral text hmem
  rw [encodeTexts, List.mem_cons, List.mem_append]
  rintro (h | h | h)
  · cases h
  · exact hliterals h
  · exact absurd h (by decide)

/-! ## The literals of an array -/

/-- Every text of an array stands in it, escaped, between quotation marks. -/
theorem exists_literal_of_mem {text : List Char} {texts : List (List Char)} (h : text ∈ texts) :
    ∃ before after,
      encodeTexts texts = before ++ '"' :: (text.flatMap encodeChar ++ '"' :: after) := by
  have hliteral : encodeLiteral text <:+: [','].intercalate (texts.map encodeLiteral) :=
    infix_intercalate_of_mem (List.mem_map_of_mem h)
  obtain ⟨before, after, heq⟩ := hliteral
  refine ⟨'[' :: before, after ++ [']'], ?_⟩
  rw [encodeTexts, ← heq, encodeLiteral]
  simp

/-! ## Texts that are written as they are -/

theorem encodeLiteral_of_isUnescaped {cs : List Char} (h : IsUnescaped cs) :
    encodeLiteral cs = '"' :: (cs ++ ['"']) := by
  have hself : cs.flatMap encodeChar = cs := by
    induction cs with
    | nil => rfl
    | cons c cs ih =>
      rw [List.flatMap_cons, encodeChar_eq_self (h c List.mem_cons_self),
        ih fun d hd => h d (List.mem_cons_of_mem _ hd), List.singleton_append]
  rw [encodeLiteral, hself]

theorem encodeTexts_singleton {text : List Char} (h : IsUnescaped text) :
    encodeTexts [text] = '[' :: '"' :: (text ++ ['"', ']']) := by
  rw [encodeTexts, List.map_singleton, List.intercalate_singleton, encodeLiteral_of_isUnescaped h]
  simp

theorem encodeTexts_pair {text other : List Char} (h : IsUnescaped text)
    (hother : IsUnescaped other) :
    encodeTexts [text, other] =
      '[' :: '"' :: (text ++ '"' :: ',' :: '"' :: (other ++ ['"', ']'])) := by
  rw [encodeTexts, List.map_cons, List.map_singleton, List.intercalate_cons_cons,
    List.intercalate_singleton, encodeLiteral_of_isUnescaped h, encodeLiteral_of_isUnescaped hother]
  simp

theorem intersperse_ne_nil {α : Type} {x a : α} {as : List α} : (a :: as).intersperse x ≠ [] := by
  cases as <;> simp

theorem mem_intersperse {α : Type} {x a : α} {as : List α} (h : a ∈ as.intersperse x) :
    a = x ∨ a ∈ as := by
  induction as with
  | nil => cases h
  | cons b as ih =>
    cases as with
    | nil => exact .inr h
    | cons c as =>
      rw [List.intersperse_cons_cons, List.mem_cons, List.mem_cons] at h
      rcases h with rfl | rfl | h
      · exact .inr List.mem_cons_self
      · exact .inl rfl
      · exact (ih h).imp_right (List.mem_cons_of_mem _)

theorem intercalate_encodeLiteral {text : List Char} {texts : List (List Char)}
    (h : ∀ cs ∈ text :: texts, IsUnescaped cs) :
    [','].intercalate ((text :: texts).map encodeLiteral) =
      '"' :: (['"'].intercalate ((text :: texts).intersperse [',']) ++ ['"']) := by
  induction texts generalizing text with
  | nil =>
    rw [List.map_singleton, List.intercalate_singleton, List.intersperse_singleton,
      List.intercalate_singleton, encodeLiteral_of_isUnescaped (h text List.mem_cons_self)]
  | cons other texts ih =>
    have hothers := ih fun cs hcs => h cs (List.mem_cons_of_mem _ hcs)
    rw [List.map_cons, List.map_cons, List.intercalate_cons_cons, ← List.map_cons, hothers,
      encodeLiteral_of_isUnescaped (h text List.mem_cons_self), List.intersperse_cons_cons,
      List.intercalate_cons_cons, List.intercalate_cons_of_ne_nil intersperse_ne_nil]
    simp

/-- The quotation marks of an array stand around its texts and around the commas between them. -/
theorem splitOn_encodeTexts {text : List Char} {texts : List (List Char)}
    (h : ∀ cs ∈ text :: texts, IsUnescaped cs) :
    (encodeTexts (text :: texts)).splitOn '"' =
      ['['] :: ((text :: texts).intersperse [','] ++ [[']']]) := by
  have hparts : ∀ part ∈ (text :: texts).intersperse [','], '"' ∉ part := by
    intro part hpart hquote
    rcases mem_intersperse hpart with rfl | hpart
    · exact absurd hquote (by decide)
    · exact (h part hpart _ hquote).1 rfl
  have htext : encodeTexts (text :: texts) =
      ['['] ++ '"' :: (['"'].intercalate ((text :: texts).intersperse [',']) ++ '"' :: [']']) := by
    rw [encodeTexts, intercalate_encodeLiteral h]
    simp
  rw [htext, List.splitOn_append_cons_self, List.splitOn_append_cons_self,
    List.splitOn_intercalate '"' hparts intersperse_ne_nil,
    List.splitOn_eq_singleton (by decide), List.splitOn_eq_singleton (by decide)]
  rfl

/-- Between two quotation marks of an array stand texts of the array and commas. -/
theorem exists_parts_of_encodeTexts {texts : List (List Char)} (h : ∀ cs ∈ texts, IsUnescaped cs)
    {before inside after : List Char}
    (htext : encodeTexts texts = before ++ '"' :: (inside ++ '"' :: after)) :
    texts ≠ [] ∧ ∃ parts, inside = ['"'].intercalate parts ∧ parts ≠ [] ∧
      ∀ part ∈ parts, part = [','] ∨ part ∈ texts := by
  cases texts with
  | nil =>
    have hquote : '"' ∈ encodeTexts [] := by simp [htext]
    exact absurd hquote (by decide)
  | cons text texts =>
    refine ⟨List.cons_ne_nil _ _, inside.splitOn '"', (List.intercalate_splitOn '"').symm,
      List.splitOn_ne_nil _ _, fun part hpart => ?_⟩
    have hsplit := splitOn_encodeTexts h
    rw [htext, List.splitOn_append_cons_self, List.splitOn_append_cons_self] at hsplit
    -- Before the part and behind it there is at least one other, the brackets for instance.
    obtain ⟨first, firsts, hfirst⟩ := List.exists_cons_of_ne_nil (List.splitOn_ne_nil '"' before)
    obtain ⟨lasts, last, hlast⟩ := List.eq_nil_or_concat
      (after.splitOn '"') |>.resolve_left (List.splitOn_ne_nil '"' after)
    rw [hfirst, hlast, List.cons_append, List.cons.injEq, List.concat_eq_append,
      ← List.append_assoc, ← List.append_assoc] at hsplit
    have hparts := (List.append_inj' hsplit.2 rfl).1
    apply mem_intersperse
    rw [← hparts]
    simp [hpart]

end TagSearch.Json

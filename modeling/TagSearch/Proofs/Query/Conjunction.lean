import TagSearch.Proofs.Query.Directives
import TagSearch.Proofs.Query.FirstTerm

/-!
# Plain conjunctions

A word without white space, opening parenthesis and bar that is no directive and no time of day is a
term of its own (`IsConjunct`), whatever such words stand beside it: outside groups nothing else ends a
term or starts a group (`Scan.run_word`), and no term is joined with the one in front of it.

A query of such words is the conjunction of their filters (`parseQuery_conjuncts`), and it is rejected if
one of the words is no filter.
-/

namespace TagSearch

open Text

/-- The word is a term of its own, whatever such words stand beside it. -/
structure IsConjunct (word : String) : Prop where
  unbroken : ∀ c ∈ word.toList, isWhite c = false
  ungrouped : '(' ∉ word.toList
  undivided : '|' ∉ word.toList
  kept : isDirective word.toList = false
  timeless : looksLikeTimeOfDay word.toList = false

instance (word : String) : Decidable (IsConjunct word) :=
  -- The characters of the word are checked, not all characters there are.
  have := List.decidableBAll (fun c => isWhite c = false) word.toList
  decidable_of_iff
    ((∀ c ∈ word.toList, isWhite c = false) ∧ '(' ∉ word.toList ∧ '|' ∉ word.toList ∧
      isDirective word.toList = false ∧ looksLikeTimeOfDay word.toList = false)
    ⟨fun ⟨h₁, h₂, h₃, h₄, h₅⟩ => ⟨h₁, h₂, h₃, h₄, h₅⟩,
      fun h => ⟨h.unbroken, h.ungrouped, h.undivided, h.kept, h.timeless⟩⟩

/-! ## Tokens -/

namespace Scan

/-- Outside groups a scan takes in a word that has no opening parenthesis and no bar. -/
theorem run_word {cs : List Char} (hwhite : ∀ c ∈ cs, isWhite c = false) (hopen : '(' ∉ cs)
    (hbar : '|' ∉ cs) (rest : List Char) {s : Scan} (hd : s.depth = 0) :
    ∃ v, s.run rest cs = ([], ⟨s.pending ++ cs, 0, v, cs.reverse ++ s.past⟩) := by
  induction cs generalizing s with
  | nil => exact ⟨s.inValue, by rw [run, List.append_nil, ← hd]; rfl⟩
  | cons c cs ih =>
    rw [List.forall_mem_cons] at hwhite
    rw [List.mem_cons, not_or] at hopen hbar
    have hstep : s.step c (cs ++ rest) =
        ([], ⟨s.pending ++ [c], s.depth, s.valueAfter c, c :: s.past⟩) := by
      refine step_eq_append hwhite.1 (Ne.symm hbar.1) (fun hpos => ?_) (fun hc => ?_) fun _ => ?_
      · omega
      · exact absurd hc.symm hopen.1
      · simp [keepsClosing, hd]
    obtain ⟨v, hrun⟩ := ih hwhite.2 hopen.2 hbar.2
      (s := ⟨s.pending ++ [c], s.depth, s.valueAfter c, c :: s.past⟩) hd
    refine ⟨v, ?_⟩
    rw [run, hstep]
    dsimp only
    rw [hrun, List.append_assoc, List.reverse_cons, List.append_assoc]
    rfl

theorem step_space_of_pending {cs : List Char} (hne : cs ≠ []) (hwhite : ∀ c ∈ cs, isWhite c = false)
    (v : Bool) (past rest : List Char) :
    (⟨cs, 0, v, past⟩ : Scan).step ' ' rest =
      ([.term (String.ofList cs)], fresh 0 (' ' :: past)) := by
  have hflush := flush_of_term (s := ⟨cs, 0, v, past⟩) hne hwhite
  have hread : (⟨cs, 0, v, past⟩ : Scan).read ' ' rest =
      (⟨cs, 0, false, past⟩ : Scan).flush := by simp [read, space]
  have hvalue := (⟨cs, 0, v, past⟩ : Scan).flush_inValue false
  rw [hflush] at hvalue
  unfold step
  rw [hread, hvalue]
  rfl

/-- Words that are joined by spaces are the terms of a query. -/
theorem tokens_words {ws : List (List Char)} (hne : ∀ w ∈ ws, w ≠ [])
    (hws : ∀ w ∈ ws, IsConjunct (String.ofList w)) (past : List Char) :
    (fresh 0 past).tokens ([' '].intercalate ws) = ws.map fun w => .term (String.ofList w) := by
  induction ws generalizing past with
  | nil => rfl
  | cons w ws ih =>
    rw [List.forall_mem_cons] at hne hws
    obtain ⟨hwhite, hopen, hbar, -, -⟩ := hws.1
    rw [String.toList_ofList] at hwhite hopen hbar
    cases ws with
    | nil =>
      obtain ⟨v, hrun⟩ := run_word hwhite hopen hbar [] (s := fresh 0 past) rfl
      rw [List.intercalate_singleton, tokens_eq_run, hrun]
      dsimp only
      rw [flush_of_term hne.1 hwhite]
      rfl
    | cons u ws =>
      obtain ⟨v, hrun⟩ := run_word hwhite hopen hbar (' ' :: [' '].intercalate (u :: ws))
        (s := fresh 0 past) rfl
      rw [List.intercalate_cons_cons, List.append_assoc, List.singleton_append, tokens_append, hrun,
        tokens]
      dsimp only
      rw [show (fresh 0 past).pending ++ w = w from rfl, step_space_of_pending hne.1 hwhite,
        ih hne.2 hws.2]
      rfl

end Scan

section

variable {ws : List String}

/-- The words that are no directives are kept, except for empty ones. -/
theorem splitDirectives_conjuncts (hws : ∀ w ∈ ws, IsConjunct w) :
    splitDirectives (" ".intercalate ws) =
      (String.ofList ([' '].intercalate ((ws.filter (· ≠ "")).map String.toList)), .none) := by
  have hwords : words (" ".intercalate ws).toList = (ws.filter (· ≠ "")).map String.toList := by
    rw [String.toList_intercalate, show " ".toList = [' '] from rfl, words_intercalate, List.filter_map]
    · congr 1
      exact List.filter_congr fun w _ => by simp
    · simpa using fun w hw => (hws w hw).unbroken
  have hfilter : filterWords ((ws.filter (· ≠ "")).map String.toList) =
      (ws.filter (· ≠ "")).map String.toList := by
    rw [filterWords, List.filter_eq_self]
    intro w hw
    obtain ⟨word, hword, rfl⟩ := List.mem_map.1 hw
    rw [(hws word (List.mem_filter.1 hword).1).kept]
    rfl
  rw [splitDirectives_eq, hwords, hfilter, ← hfilter, ofWords_filterWords]

theorem Token.ofQuery_conjuncts (hws : ∀ w ∈ ws, IsConjunct w) :
    ofQuery (splitDirectives (" ".intercalate ws)).1 = (ws.filter (· ≠ "")).map .term := by
  rw [splitDirectives_conjuncts hws, ofQuery, String.toList_ofList]
  have htokens := @Scan.tokens_words ((ws.filter (· ≠ "")).map String.toList) ?_ ?_ []
  · rw [List.map_map] at htokens
    refine Eq.trans htokens (List.map_congr_left fun w _ => ?_)
    rw [Function.comp, String.ofList_toList]
  · intro w hw
    obtain ⟨word, hword, rfl⟩ := List.mem_map.1 hw
    simpa using (List.mem_filter.1 hword).2
  · intro w hw
    obtain ⟨word, hword, rfl⟩ := List.mem_map.1 hw
    rw [String.ofList_toList]
    exact hws word (List.mem_filter.1 hword).1

/-! ## Trees -/

theorem joinTimes_terms (hws : ∀ w ∈ ws, looksLikeTimeOfDay w.toList = false) :
    joinTimes (ws.map .term) = ws.map .term := by
  induction ws with
  | nil => rfl
  | cons w ws ih =>
    rw [List.forall_mem_cons] at hws
    have hrest := ih hws.2
    cases ws with
    | nil => rfl
    | cons u ws =>
      have htime : continuesWithTime w u = false := by
        unfold continuesWithTime
        split
        · rfl
        · simp [hws.2 u List.mem_cons_self]
      rw [List.map_cons, List.map_cons, joinTimes, if_neg (by simp [htime]), ← List.map_cons, hrest]

theorem Item.ofTokens_terms (ws : List String) :
    ofTokens (ws.map .term) = ws.map .term := by
  induction ws with
  | nil => rfl
  | cons w ws ih =>
    show nest [.term w] [] (ws.map Token.term) = _
    rw [nest_singleton, ih, List.map_cons]

theorem Item.parts_terms (ws : List String) : parts (ws.map .term) = ws.map .leaf := by
  induction ws with
  | nil => rw [List.map_nil, parts, List.map_nil]
  | cons w ws ih =>
    have hnone : startsWithSeparator (ws.map Item.term) = false := by cases ws <;> rfl
    rw [List.map_cons, parts, if_neg (by simp [hnone]), ih, List.map_cons]

theorem Tree.mapList_leaves {α β ε : Type} (f : α → Except ε β) (xs : List α) :
    mapList f (xs.map .leaf) = (xs.mapM f).map fun ys => ys.map .leaf := by
  induction xs with
  | nil => rfl
  | cons x xs ih =>
    rw [List.map_cons, mapList, mapM, ih, List.mapM_cons]
    cases f x with
    | error e => rfl
    | ok y => cases xs.mapM f <;> rfl

/-- The query is the conjunction of the filters of its words, which must all be filters. -/
theorem parseQuery_conjuncts (hws : ∀ w ∈ ws, IsConjunct w) :
    parseQuery (splitDirectives (" ".intercalate ws)).1 =
      ((ws.filter (· ≠ "")).mapM Filter.ofTerm).map fun fs => .collapse (fs.map .leaf) := by
  have htimes : ∀ w ∈ ws.filter (· ≠ ""), looksLikeTimeOfDay w.toList = false :=
    fun w hw => (hws w (List.mem_filter.1 hw).1).timeless
  rw [parseQuery, Token.ofQuery_conjuncts hws, parseTokens, Tree.ofTokens, joinTimes_terms htimes,
    Item.ofTokens_terms, Item.parts_terms, Tree.mapM_collapse, Tree.mapList_leaves]
  cases (ws.filter (· ≠ "")).mapM Filter.ofTerm <;> rfl

end

end TagSearch

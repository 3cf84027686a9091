import Mathlib.Data.List.Induction
import TagSearch.Proofs.Query.Words

/-!
# Directives among the words of a query

A word is a directive if it begins with a directive's mark, ASCII letter case aside.  Taking directives
out of a query leaves its other words in order (`filterWords`), and what the directives amount to
(`Directives.ofWords`) is told from each kind by itself: the last sort directive that is not empty sets
keys and direction together, and the last page size that can be read is the page size.

`takeWord_ofWords` says so of one word more, and `splitDirectives_eq` of a whole query.  So filter words
and directives do not interact (`directives_stand_apart`): it makes no difference where the directives
stand between the filter words, nor what white space separates the words, and what remains of a query has
no directives any more.
-/

namespace TagSearch

open Text

/-! ## What words amount to -/

/-- The word begins with the mark, ASCII letter case aside. -/
def hasMark (mark word : List Char) : Bool := mark.isPrefixOf (word.map Char.toLower)

def sortMark : List Char := "sort:".toList

def perPageMark : List Char := "per-page:".toList

/-- The word says how matches are shown. -/
def isDirective (word : List Char) : Bool := hasMark sortMark word || hasMark perPageMark word

/-- The words that say which posts match. -/
def filterWords (ws : List (List Char)) : List (List Char) := ws.filter fun w => !isDirective w

/-- What stands behind a mark, in each word that bears it. -/
def valuesOf (mark : List Char) (ws : List (List Char)) : List (List Char) :=
  (ws.filter (hasMark mark)).map (·.drop mark.length)

namespace Directives

/-- The values of sort directives that are not empty. -/
def sortValues (ws : List (List Char)) : List (List Char) :=
  (valuesOf sortMark ws).filter (· ≠ [])

/-- The page sizes that can be read. -/
def pageSizes (ws : List (List Char)) : List Nat := (valuesOf perPageMark ws).filterMap readPerPage?

/-- What the directives among the words ask for: keys and direction are those of the last sort
directive that is not empty, and the page size is the last one that can be read. -/
def ofWords (ws : List (List Char)) : Directives where
  sortBy := (sortValues ws).getLast?.bind fun value => (readSort value).1
  direction := (sortValues ws).getLast?.bind fun value => (readSort value).2
  perPage := (pageSizes ws).getLast?

end Directives

/-! ## One word more -/

section

variable {word : List Char}

theorem afterMark?_eq (mark word : List Char) :
    afterMark? mark word = if hasMark mark word then some (word.drop mark.length) else none := by
  have hbears : (word.take mark.length).map Char.toLower = mark ↔ hasMark mark word = true := by
    rw [hasMark, List.isPrefixOf_iff_prefix, List.prefix_iff_eq_take, List.map_take, eq_comm]
  unfold afterMark?
  simp only [hbears]

theorem afterMark?_of_hasMark {mark : List Char} (h : hasMark mark word = true) :
    afterMark? mark word = some (word.drop mark.length) := by
  rw [afterMark?_eq, if_pos h]

theorem afterMark?_of_not_hasMark {mark : List Char} (h : hasMark mark word = false) :
    afterMark? mark word = none := by
  rw [afterMark?_eq, h]
  rfl

theorem hasMark_perPage_of_sort (h : hasMark sortMark word = true) :
    hasMark perPageMark word = false := by
  rw [Bool.eq_false_iff]
  intro hboth
  rw [hasMark, List.isPrefixOf_iff_prefix] at h hboth
  exact absurd (List.prefix_or_prefix_of_prefix h hboth) (by decide)

theorem takeWord_of_sort (h : hasMark sortMark word = true) (d : Directives)
    (kept : List (List Char)) :
    takeWord (d, kept) word =
      (if word.drop sortMark.length = [] then d
        else { d with
          sortBy := (readSort (word.drop sortMark.length)).1
          direction := (readSort (word.drop sortMark.length)).2 }, kept) := by
  have hvalue : afterMark? "sort:".toList word = some (word.drop sortMark.length) :=
    afterMark?_of_hasMark h
  unfold takeWord
  simp only [hvalue, List.isEmpty_iff]
  split <;> rfl

theorem takeWord_of_perPage (hsort : hasMark sortMark word = false)
    (h : hasMark perPageMark word = true) (d : Directives) (kept : List (List Char)) :
    takeWord (d, kept) word =
      ({ d with perPage := (readPerPage? (word.drop perPageMark.length)).or d.perPage }, kept) := by
  have hnone : afterMark? "sort:".toList word = none := afterMark?_of_not_hasMark hsort
  have hvalue : afterMark? "per-page:".toList word = some (word.drop perPageMark.length) :=
    afterMark?_of_hasMark h
  unfold takeWord
  simp only [hnone, hvalue]
  cases readPerPage? (word.drop perPageMark.length) <;> rfl

theorem takeWord_of_filterWord (h : isDirective word = false) (d : Directives)
    (kept : List (List Char)) : takeWord (d, kept) word = (d, word :: kept) := by
  rw [isDirective, Bool.or_eq_false_iff] at h
  have hsort : afterMark? "sort:".toList word = none := afterMark?_of_not_hasMark h.1
  have hperPage : afterMark? "per-page:".toList word = none := afterMark?_of_not_hasMark h.2
  unfold takeWord
  simp only [hsort, hperPage]

theorem valuesOf_concat (mark : List Char) (ws : List (List Char)) (word : List Char) :
    valuesOf mark (ws ++ [word]) =
      valuesOf mark ws ++ if hasMark mark word then [word.drop mark.length] else [] := by
  unfold valuesOf
  rw [List.filter_append, List.map_append]
  cases h : hasMark mark word <;> simp [h]

theorem filterWords_concat (ws : List (List Char)) (word : List Char) :
    filterWords (ws ++ [word]) = filterWords ws ++ if isDirective word then [] else [word] := by
  unfold filterWords
  rw [List.filter_append]
  cases h : isDirective word <;> simp [h]

/-- One word more is taken as a directive or kept. -/
theorem takeWord_ofWords (ws : List (List Char)) (word : List Char) :
    takeWord (.ofWords ws, (filterWords ws).reverse) word =
      (.ofWords (ws ++ [word]), (filterWords (ws ++ [word])).reverse) := by
  rw [filterWords_concat]
  unfold Directives.ofWords Directives.sortValues Directives.pageSizes
  rw [valuesOf_concat, valuesOf_concat]
  by_cases hsort : hasMark sortMark word = true
  · have hperPage := hasMark_perPage_of_sort hsort
    have hdirective : isDirective word = true := by simp [isDirective, hsort]
    rw [takeWord_of_sort hsort, hsort, hperPage, hdirective]
    by_cases hempty : word.drop sortMark.length = []
    · simp [hempty]
    · simp [hempty]
  · rw [Bool.not_eq_true] at hsort
    by_cases hperPage : hasMark perPageMark word = true
    · have hdirective : isDirective word = true := by simp [isDirective, hperPage]
      rw [takeWord_of_perPage hsort hperPage, hsort, hperPage, hdirective]
      cases hread : readPerPage? (word.drop perPageMark.length) with
      | none => simp [hread]
      | some n => simp [hread]
    · rw [Bool.not_eq_true] at hperPage
      have hfilter : isDirective word = false := by simp [isDirective, hsort, hperPage]
      rw [takeWord_of_filterWord hfilter, hsort, hperPage, hfilter]
      simp

end

/-! ## All words -/

theorem foldl_takeWord (ws : List (List Char)) :
    ws.foldl takeWord (.none, []) = (.ofWords ws, (filterWords ws).reverse) := by
  induction ws using List.reverseRecOn with
  | nil => rfl
  | append_singleton ws word ih =>
    rw [List.foldl_append, ih, List.foldl_cons, List.foldl_nil, takeWord_ofWords]

/-- What remains of a query are its filter words, joined by single spaces. -/
theorem splitDirectives_eq (query : String) :
    splitDirectives query =
      (String.ofList ([' '].intercalate (filterWords (words query.toList))),
        .ofWords (words query.toList)) := by
  unfold splitDirectives
  rw [foldl_takeWord]
  dsimp only
  rw [List.reverse_reverse]

theorem valuesOf_filterWords {mark : List Char}
    (hmark : ∀ w, hasMark mark w = true → isDirective w = true) (ws : List (List Char)) :
    valuesOf mark (filterWords ws) = [] := by
  have hnone : (filterWords ws).filter (hasMark mark) = [] := by
    rw [List.filter_eq_nil_iff]
    intro w hw h
    have hfilter := (List.mem_filter.1 hw).2
    simp [hmark w h] at hfilter
  rw [valuesOf, hnone, List.map_nil]

theorem ofWords_filterWords (ws : List (List Char)) :
    Directives.ofWords (filterWords ws) = .none := by
  have hsort : valuesOf sortMark (filterWords ws) = [] :=
    valuesOf_filterWords (fun w h => by simp [isDirective, h]) ws
  have hperPage : valuesOf perPageMark (filterWords ws) = [] :=
    valuesOf_filterWords (fun w h => by simp [isDirective, h]) ws
  unfold Directives.ofWords Directives.sortValues Directives.pageSizes
  rw [hsort, hperPage]
  rfl

theorem filterWords_filterWords (ws : List (List Char)) :
    filterWords (filterWords ws) = filterWords ws := by
  unfold filterWords
  rw [List.filter_filter]
  simp only [Bool.and_self]

/-- What remains of a query has the query's filter words. -/
theorem words_splitDirectives (query : String) :
    words (splitDirectives query).1.toList = filterWords (words query.toList) := by
  have hmem {w : List Char} (hw : w ∈ filterWords (words query.toList)) :
      w ≠ [] ∧ ∀ c ∈ w, isWhite c = false := (isSpaced_words _).of_mem w (List.mem_filter.1 hw).1
  rw [splitDirectives_eq, String.toList_ofList, words_intercalate fun w hw => (hmem hw).2,
    List.filter_eq_self]
  exact fun w hw => by simpa using (hmem hw).1

/-- The words have the same filter words, the same sort directives and the same page sizes, each in the
same order.  The order between the three does not count. -/
structure HaveSameParts (ws us : List (List Char)) : Prop where
  filters : filterWords ws = filterWords us
  sorts : ws.filter (hasMark sortMark) = us.filter (hasMark sortMark)
  perPages : ws.filter (hasMark perPageMark) = us.filter (hasMark perPageMark)

/-- A query is spelled by its words in just one way.  What remains of it are its filter words, and its
directives are the last ones that can be read.  Queries with the same parts come to the same, whatever
order the parts are mixed in and whatever white space stands between the words; and what remains of a
query remains as it is and has no directives. -/
theorem directives_stand_apart :
    (∀ query : String, ∃ ws, (∀ us, IsSpaced us query.toList ↔ us = ws) ∧
      splitDirectives query =
        (String.ofList ([' '].intercalate (filterWords ws)), .ofWords ws)) ∧
    (∀ (query other : String) (ws us : List (List Char)), IsSpaced ws query.toList →
      IsSpaced us other.toList → HaveSameParts ws us →
        splitDirectives query = splitDirectives other) ∧
    ∀ query : String, splitDirectives (splitDirectives query).1 = ((splitDirectives query).1, .none) := by
  refine ⟨fun query => ⟨words query.toList, fun us => ?_, splitDirectives_eq query⟩, ?_, ?_⟩
  · rw [isSpaced_iff, eq_comm]
  · intro query other ws us hws hus h
    rw [splitDirectives_eq, splitDirectives_eq, hws.words_eq, hus.words_eq, h.filters]
    unfold Directives.ofWords Directives.sortValues Directives.pageSizes valuesOf
    rw [h.sorts, h.perPages]
  · intro query
    rw [splitDirectives_eq (splitDirectives query).1, words_splitDirectives, ofWords_filterWords,
      filterWords_filterWords, splitDirectives_eq query]

/-- Two queries with the same parts in another order and with other white space. -/
theorem directives_stand_apart_mixed :
    ∃ ws us, IsSpaced ws "  red\tSORT:id per-page:x sort: per-page:3".toList ∧
      IsSpaced us "per-page:x per-page:3 SORT:id red sort:".toList ∧
      HaveSameParts ws us ∧
      splitDirectives "  red\tSORT:id per-page:x sort: per-page:3" =
        splitDirectives "per-page:x per-page:3 SORT:id red sort:" := by
  have hws := isSpaced_words "  red\tSORT:id per-page:x sort: per-page:3".toList
  have hus := isSpaced_words "per-page:x per-page:3 SORT:id red sort:".toList
  have h : HaveSameParts (words "  red\tSORT:id per-page:x sort: per-page:3".toList)
      (words "per-page:x per-page:3 SORT:id red sort:".toList) :=
    ⟨by decide +kernel, by decide +kernel, by decide +kernel⟩
  exact ⟨_, _, hws, hus, h, directives_stand_apart.2.1 _ _ _ _ hws hus h⟩

end TagSearch

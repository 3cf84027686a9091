import TagSearch.Predicate.Translation
import TagSearch.Proofs.Query.Words
import TagSearch.Proofs.Text.Trimmed

/-!
# Queries that are translated, and queries that are rejected

A query is translated as the tree of what remains of it without its directives, and as these
(`Translation.parts_of_ofQuery?`).  It is rejected exactly if what remains cannot be read
(`Translation.ofQuery?_eq_error_iff`), and then translated as the empty one
(`Translation.ofQuery_of_error`).
-/

namespace TagSearch

theorem parseQuery_empty : parseQuery "" = .ok .matchAll := by
  have htokens : Token.ofQuery "" = [] := rfl
  have hitems : Item.ofTokens [] = [] := rfl
  rw [parseQuery, htokens, parseTokens, Tree.ofTokens, joinTimes, hitems, Item.parts]
  rfl

theorem splitDirectives_of_blank {query : String} (h : (Text.trim query.toList).isEmpty = true) :
    splitDirectives query = ("", .none) :=
  splitDirectives_of_words_eq_nil (Text.words_eq_nil (Text.trim_eq_nil_iff.1 (List.isEmpty_iff.1 h)))

namespace Translation

variable {query : String} {status : Option String}

/-- A query is rejected with the error of what remains of it without its directives. -/
theorem ofQuery?_eq_error_iff {r : Rejection} :
    ofQuery? query status = .error r ↔
      r.query = query ∧ parseQuery (splitDirectives query).1 = .error r.error := by
  unfold ofQuery?
  split
  · next hblank =>
    rw [splitDirectives_of_blank hblank, parseQuery_empty]
    simp
  · dsimp only
    cases parseQuery (splitDirectives query).1 with
    | ok tree => simp
    | error e =>
      constructor
      · rintro ⟨⟩
        exact ⟨rfl, rfl⟩
      · rintro ⟨rfl, h⟩
        cases h
        rfl

/-- The translation of a query has the query's tree and its directives. -/
theorem parts_of_ofQuery? {t : Translation} (h : ofQuery? query status = .ok t) :
    parseQuery (splitDirectives query).1 = .ok t.tree ∧ t.directives = (splitDirectives query).2 ∧
      t.rejection = none := by
  unfold ofQuery? at h
  split at h
  · next hblank =>
    cases h
    rw [splitDirectives_of_blank hblank]
    exact ⟨parseQuery_empty, rfl, rfl⟩
  · dsimp only at h
    split at h
    · cases h
    · next htree =>
      cases h
      exact ⟨htree, rfl, rfl⟩

theorem fellBack_iff :
    (ofQuery query status).fellBack = true ↔ ∃ r, ofQuery? query status = .error r := by
  unfold ofQuery fellBack
  cases h : ofQuery? query status with
  | ok t => simp [(parts_of_ofQuery? h).2.2]
  | error r => simp

/-- A rejected query is translated as the empty one. -/
theorem ofQuery_of_error {r : Rejection} (h : ofQuery? query status = .error r) :
    ofQuery query status = { ofQuery "" status with rejection := some r } := by
  have hempty : ofQuery "" status = ofStatus status := rfl
  rw [hempty, ofQuery, h]

/-- A query that can be read is translated as its tree, with its directives. -/
theorem ofQuery_of_parse {tree : Tree Filter} (status : Option String)
    (h : parseQuery (splitDirectives query).1 = .ok tree) :
    (ofQuery query status).tree = tree ∧
      (ofQuery query status).directives = (splitDirectives query).2 ∧
      (ofQuery query status).fellBack = false := by
  unfold ofQuery fellBack
  cases ht : ofQuery? query status with
  | error r =>
    have herror := (ofQuery?_eq_error_iff.1 ht).2
    rw [h] at herror
    cases herror
  | ok t =>
    obtain ⟨htree, hdirectives, hrejection⟩ := parts_of_ofQuery? ht
    rw [h] at htree
    exact ⟨(Except.ok.inj htree).symm, hdirectives, by simp [hrejection]⟩

end Translation

end TagSearch

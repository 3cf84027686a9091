import TagSearch.Proofs.Predicate.Translation
import TagSearch.Proofs.Predicate.TranslationTruth
import TagSearch.Proofs.Sql.Emitted

/-!
# The SQL of translations

A translation is a text of SQL and its parameters.  `IsTreeSql` says what the text must be: it can be
read by the grammar, its question marks taking the parameters from left to right, and whichever
condition is read has in every row the truth of the filter tree, taken together with the status that
the request restricts to.

`sql_has_truth_of_tree` proves it of every filter tree and every status, and of the translation of
every query.
-/

namespace TagSearch

/-- A text can be read, and what is read has the truth of a tree and a status. -/
def IsTreeSql (text : String) (params : List Value) (t : Tree Filter) (status : Option String) :
    Prop :=
  (∃ c, Sql.Reads text params c) ∧
    ∀ c, Sql.Reads text params c →
      ∀ today row, c.truth today row = t.truthWith today row status

theorem isTreeSql_of_isReadable {c : Condition Value} {t : Tree Filter} {status : Option String}
    (hread : Sql.IsReadable 0 c)
    (htruth : ∀ today row, c.truth today row = t.truthWith today row status) :
    IsTreeSql c.sql c.parameters t status := by
  obtain ⟨d, hparses, hd⟩ := hread
  have hreads := hparses.reads
  refine ⟨⟨d, hreads⟩, ?_⟩
  intro e he today row
  rw [Sql.Reads.unique he hreads, hd, htruth]

namespace Translation

theorem isReadable_restrict {c : Condition Value} (h : Sql.IsReadable 0 c)
    (status : Option String) : Sql.IsReadable 0 (restrict c status) := by
  unfold restrict
  split
  · exact (Sql.isReadable_withStatus h _).of_le (by decide)
  · exact h

theorem isReadable_ofStatus (status : Option String) :
    Sql.IsReadable 0 (ofStatus status).condition := by
  unfold ofStatus
  cases restriction status with
  | none => exact Sql.IsReadable.always.of_le (by decide)
  | some s =>
    exact (Sql.IsReadable.compare .eq (Sql.isScalar_column .status)
      (Sql.isScalar_parameter _)).of_le (by decide)

theorem isTreeSql_of_ofQuery? {query : String} {status : Option String} {t : Translation}
    (h : ofQuery? query status = .ok t) : IsTreeSql t.sql t.parameters t.tree status := by
  obtain rfl | hc := ofQuery?_eq_ok h
  · exact isTreeSql_of_isReadable (isReadable_ofStatus status) (truth_ofStatus status)
  · unfold sql parameters
    rw [hc]
    exact isTreeSql_of_isReadable (isReadable_restrict (Sql.isReadable_ofTree t.tree) status)
      (truth_restrict_ofTree t.tree status)

end Translation

/-- The SQL of every filter tree with every status is read with the truth of the tree and the status, and
so is that of the translation of every query, whose tree is that of the query without its directives. -/
theorem sql_has_truth_of_tree (status : Option String) :
    (∀ t : Tree Filter,
      IsTreeSql (Translation.restrict (.ofTree t) status).sql
        (Translation.restrict (.ofTree t) status).parameters t status) ∧
      ∀ query t, Translation.ofQuery? query status = .ok t →
        parseQuery (splitDirectives query).1 = .ok t.tree ∧
          IsTreeSql t.sql t.parameters t.tree status := by
  constructor
  · intro t
    exact isTreeSql_of_isReadable (Translation.isReadable_restrict (Sql.isReadable_ofTree t) status)
      (Translation.truth_restrict_ofTree t status)
  · intro query t h
    exact ⟨(Translation.parts_of_ofQuery? h).1, Translation.isTreeSql_of_ofQuery? h⟩

/-- Alternatives within a conjunction, one of them negated, and a status. -/
theorem sql_has_truth_of_alternatives :
    ∃ t, Translation.ofQuery? "( cat | -score:>5 ) duration:<60" (some "saved") = .ok t ∧
      parseQuery (splitDirectives "( cat | -score:>5 ) duration:<60").1 = .ok t.tree ∧
      IsTreeSql t.sql t.parameters t.tree (some "saved") := by
  have hok : (Translation.ofQuery? "( cat | -score:>5 ) duration:<60" (some "saved")).toOption.isSome
      = true := by decide +kernel
  cases h : Translation.ofQuery? "( cat | -score:>5 ) duration:<60" (some "saved") with
  | error r => simp [h, Except.toOption] at hok
  | ok t => exact ⟨t, rfl, (sql_has_truth_of_tree (some "saved")).2 _ t h⟩

end TagSearch

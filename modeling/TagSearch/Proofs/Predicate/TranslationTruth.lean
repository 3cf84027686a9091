import TagSearch.Predicate.Translation
import TagSearch.Proofs.Predicate.TreeTruth

/-!
# The truth of translations

A translation joins the condition of the query's tree and the status that the request restricts to.
In every row its truth is that of the tree, taken together with the status
(`Translation.truth_ofQuery`); a query without terms, and one that was rejected, is translated as the
tree that always holds.
-/

namespace TagSearch

/-- What a row makes of a tree and the status that a request restricts to. -/
def Tree.truthWith (today : Calendar.Date) (row : Row) (status : Option String)
    (t : Tree Filter) : Truth :=
  match Translation.restriction status with
  | some s => (t.truth today row).and (.ofBool (row.status = s))
  | none => t.truth today row

namespace Condition

theorem truth_hasStatus (today : Calendar.Date) (row : Row) (status : String) :
    (hasStatus status).truth today row = .ofBool (row.status = status) :=
  compareCells_eq_text row.status status

theorem truth_withStatus (today : Calendar.Date) (row : Row) (c : Condition Value)
    (status : String) :
    (c.withStatus status).truth today row =
      (c.truth today row).and (.ofBool (row.status = status)) := by
  show (c.truth today row).and (((hasStatus status).truth today row).and .holds) = _
  rw [Truth.and_holds, truth_hasStatus]

end Condition

namespace Translation

theorem truth_restrict_ofTree (t : Tree Filter) (status : Option String) (today : Calendar.Date)
    (row : Row) :
    (restrict (.ofTree t) status).truth today row = t.truthWith today row status := by
  unfold restrict Tree.truthWith
  cases restriction status with
  | none => exact Condition.truth_ofTree today row t
  | some s => rw [Condition.truth_withStatus, Condition.truth_ofTree]

theorem truth_ofStatus (status : Option String) (today : Calendar.Date) (row : Row) :
    (ofStatus status).condition.truth today row =
      (ofStatus status).tree.truthWith today row status := by
  unfold ofStatus Tree.truthWith
  cases restriction status with
  | none => rfl
  | some s =>
    show (Condition.hasStatus s).truth today row = Truth.holds.and _
    rw [Condition.truth_hasStatus, Truth.holds_and]

theorem ofQuery?_eq_ok {query : String} {status : Option String} {t : Translation}
    (h : ofQuery? query status = .ok t) :
    t = ofStatus status ∨ t.condition = restrict (.ofTree t.tree) status := by
  unfold ofQuery? at h
  split at h
  · exact .inl (Except.ok.inj h).symm
  · dsimp only at h
    split at h
    · cases h
    · cases h
      exact .inr rfl

/-- The translation of a query, rejected or not, is that of the empty query or that of a tree. -/
theorem ofQuery_condition (query : String) (status : Option String) :
    ((ofQuery query status).condition = (ofStatus status).condition ∧
        (ofQuery query status).tree = (ofStatus status).tree) ∨
      (ofQuery query status).condition = restrict (.ofTree (ofQuery query status).tree) status := by
  unfold ofQuery
  split
  · next t ht =>
    obtain rfl | hc := ofQuery?_eq_ok ht
    · exact .inl ⟨rfl, rfl⟩
    · exact .inr hc
  · exact .inl ⟨rfl, rfl⟩

/-- The condition of a query has the truth of the query's tree and the status. -/
theorem truth_ofQuery (query : String) (status : Option String) (today : Calendar.Date)
    (row : Row) :
    (ofQuery query status).condition.truth today row =
      (ofQuery query status).tree.truthWith today row status := by
  obtain ⟨hc, ht⟩ | hc := ofQuery_condition query status
  · rw [hc, ht]
    exact truth_ofStatus status today row
  · rw [hc]
    exact truth_restrict_ofTree _ status today row

end Translation

end TagSearch

import TagSearch.Proofs.Predicate.Depth
import TagSearch.Proofs.Predicate.TranslationTruth
import TagSearch.Proofs.Query.Conjunction
import TagSearch.Proofs.Store.Rejected
import TagSearch.Proofs.Store.Search

/-!
# Requests for words

A query of plain words is translated as the conjunction of the filters that they are read as
(`SearchRequest.translation_forWords`), and as the empty query if one of them is no filter.

A conjunction is deeper than it has parts, and a database bounds the depth.  So a search for a thousand
words or more comes to no page (`Store.search_manyWords`).
-/

namespace TagSearch

theorem Tree.leaves_conjunction (fs : List Filter) :
    (collapse (fs.map .leaf)).leaves = fs := by
  rw [leaves_collapse]
  induction fs with
  | nil => rfl
  | cons f fs ih => rw [List.map_cons, leavesOf, leaves, ih, List.singleton_append]

/-- The request for words that are joined by spaces. -/
def SearchRequest.forWords (request : SearchRequest) (ws : List String) : SearchRequest :=
  { request with query := " ".intercalate ws }

section

variable {request : SearchRequest} {ws vs : List String} {fs gs : List Filter}

/-- The translation of words that are filters. -/
theorem SearchRequest.translation_forWords (request : SearchRequest) (hws : ∀ w ∈ ws, IsConjunct w)
    (hfs : (ws.filter (· ≠ "")).mapM Filter.ofTerm = .ok fs) :
    (request.forWords ws).translation.tree = .collapse (fs.map .leaf) ∧
      (request.forWords ws).translation.directives = .none ∧
      (request.forWords ws).translation.fellBack = false := by
  have hparse := parseQuery_conjuncts hws
  rw [hfs] at hparse
  obtain ⟨htree, hdirectives, hfell⟩ :=
    Translation.ofQuery_of_parse (request.status.map Status.name) hparse
  rw [splitDirectives_conjuncts hws] at hdirectives
  exact ⟨htree, hdirectives, hfell⟩

theorem SearchRequest.ofQuery?_forWords_of_error (request : SearchRequest)
    (hws : ∀ w ∈ ws, IsConjunct w) {e : ValueError}
    (he : (ws.filter (· ≠ "")).mapM Filter.ofTerm = .error e) :
    Translation.ofQuery? (request.forWords ws).query ((request.forWords ws).status.map Status.name) =
      .error ⟨(request.forWords ws).query, e⟩ := by
  have hparse := parseQuery_conjuncts hws
  rw [he] at hparse
  exact Translation.ofQuery?_eq_error_iff.2 ⟨rfl, hparse⟩

theorem SearchRequest.condition_forWords (request : SearchRequest) (hws : ∀ w ∈ ws, IsConjunct w)
    (hfs : (ws.filter (· ≠ "")).mapM Filter.ofTerm = .ok fs) (hne : fs ≠ []) :
    (request.forWords ws).translation.condition =
      Translation.restrict (.ofTree (.collapse (fs.map .leaf))) (request.status.map Status.name) := by
  obtain ⟨htree, -⟩ := request.translation_forWords hws hfs
  rcases Translation.ofQuery_condition (request.forWords ws).query
    ((request.forWords ws).status.map Status.name) with ⟨-, hempty⟩ | hcondition
  · have hleaves := congrArg Tree.leaves (htree.symm.trans hempty)
    rw [Tree.leaves_conjunction] at hleaves
    exact absurd hleaves hne
  · rw [← htree]
    exact hcondition

theorem exists_mapM_eq_ok {α β ε : Type} {f : α → Except ε β} {xs : List α}
    (h : ∀ x ∈ xs, ∃ y, f x = .ok y) : ∃ ys, xs.mapM f = .ok ys := by
  induction xs with
  | nil => exact ⟨[], rfl⟩
  | cons x xs ih =>
    rw [List.forall_mem_cons] at h
    obtain ⟨⟨y, hy⟩, hxs⟩ := h
    obtain ⟨ys, hys⟩ := ih hxs
    exact ⟨y :: ys, by rw [List.mapM_cons, hy, hys]; rfl⟩

end

/-- A search for more words than a database accepts comes to no page. -/
theorem Store.search_manyWords (s : Store) (request : SearchRequest) {ws : List String}
    (hws : ∀ w ∈ ws, IsConjunct w ∧ w ≠ "" ∧ ∃ f, Filter.ofTerm w = .ok f)
    (hmany : Statement.maxDepth ≤ ws.length) (page : SearchPage) :
    s.search .usual (request.forWords ws) ≠ .ok page := by
  have hall : ws.filter (· ≠ "") = ws := List.filter_eq_self.2 fun w hw => by simp [(hws w hw).2.1]
  obtain ⟨fs, hfs⟩ := exists_mapM_eq_ok fun w hw => (hws w hw).2.2
  have hlength := (mapM_eq_ok_iff.1 hfs).length_eq
  have hne : fs ≠ [] := by
    rintro rfl
    rw [hlength] at hmany
    exact absurd hmany (by decide)
  have hcondition := request.condition_forWords (fun w hw => (hws w hw).1) (by rwa [hall]) hne
  have hanswers (output : Output) :
      Engine.usual.answers s ((request.forWords ws).statement output) = false := by
    refine decide_eq_false fun hlimits => ?_
    have hdepth := hlimits.depth
    unfold SearchRequest.statement at hdepth
    dsimp only at hdepth
    rw [hcondition] at hdepth
    have hconjunction := Condition.length_lt_depth_conjunction hne
    have hstatus := Translation.depth_le_depth_restrict
      (.ofTree (.collapse (fs.map .leaf))) (request.status.map Status.name)
    omega
  have hnot : ¬Engine.usual.Serves s (request.forWords ws) := by
    intro h
    have hloading := h.loading
    rw [SearchRequest.loading, hanswers] at hloading
    cases hloading
  obtain ⟨e, -, hsearch⟩ := exists_search_eq_error hnot
  rw [hsearch]
  simp

end TagSearch

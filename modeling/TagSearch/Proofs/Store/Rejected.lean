import TagSearch.Proofs.Predicate.Translation
import TagSearch.Proofs.Query.Leaves
import TagSearch.Store.Search

/-!
# Rejected queries

A query is rejected exactly if one of its terms cannot be read as a filter, and then the first such
term is to blame (`parseQuery_eq_error_iff`).  A rejected query is translated as the empty
one: nothing that was read before the term, no directive and no other term, is left of it.

So a search on it finds what the empty query finds, in the same order and on the same pages; only that
it fell back is said besides (`rejected_query_is_empty_query`).
-/

namespace TagSearch

/-! ## The error of a query -/

theorem exists_of_mapM_eq_ok {α β ε : Type} {f : α → Except ε β} {xs : List α} {ys : List β}
    (h : xs.mapM f = .ok ys) : ∀ x ∈ xs, ∃ y, f x = .ok y := by
  have hall := mapM_eq_ok_iff.1 h
  induction hall with
  | nil => simp
  | @cons x y xs ys hx hxs ih =>
    rw [List.forall_mem_cons]
    exact ⟨⟨y, hx⟩, ih (mapM_eq_ok_iff.2 hxs)⟩

/-- A query has the error of the first of its texts that is no filter. -/
theorem parseQuery_eq_error_iff {query : String} {e : ValueError} :
    parseQuery query = .error e ↔
      ∃ front text back, Token.joinedTexts (Token.ofQuery query) = front ++ text :: back ∧
        (∀ t ∈ front, ∃ f, Filter.ofTerm t = .ok f) ∧ Filter.ofTerm text = .error e := by
  rw [← mapM_eq_error_iff, ← map_leaves_parseQuery]
  cases parseQuery query <;> simp [Except.map]

theorem exists_parseQuery_eq_error_iff {query : String} :
    (∃ e, parseQuery query = .error e) ↔
      ∃ text ∈ Token.joinedTexts (Token.ofQuery query), ∃ e, Filter.ofTerm text = .error e := by
  constructor
  · rintro ⟨e, he⟩
    obtain ⟨front, text, back, htexts, -, htext⟩ := parseQuery_eq_error_iff.1 he
    exact ⟨text, by simp [htexts], e, htext⟩
  · rintro ⟨text, hmem, e, he⟩
    cases hparse : parseQuery query with
    | error d => exact ⟨d, rfl⟩
    | ok tree =>
      have hleaves := map_leaves_parseQuery query
      rw [hparse, eq_comm] at hleaves
      obtain ⟨f, hf⟩ := exists_of_mapM_eq_ok hleaves text hmem
      rw [he] at hf
      cases hf

namespace Translation

/-- The texts of the terms of a query, its directives removed, each date joined with its time of
day. -/
def terms (query : String) : List String :=
  Token.joinedTexts (Token.ofQuery (splitDirectives query).1)

end Translation

/-- Without its rejection, a search on a rejected query is one on the empty query. -/
theorem Store.search_of_error (s : Store) (db : Engine) {request : SearchRequest} {r : Rejection}
    (h : Translation.ofQuery? request.query (request.status.map Status.name) = .error r) :
    s.search db request = (s.search db { request with query := "" }).map
      fun page => { page with fellBack := true } := by
  let empty : SearchRequest := { request with query := "" }
  have htranslation : request.translation = { empty.translation with rejection := some r } :=
    Translation.ofQuery_of_error h
  have hsize : request.pageSize = empty.pageSize := by
    unfold SearchRequest.pageSize
    rw [htranslation]
  have hstatement (output : Output) : request.statement output = empty.statement output := by
    unfold SearchRequest.statement
    rw [htranslation]
  have hkeys : request.keys = empty.keys := by
    unfold SearchRequest.keys
    rw [htranslation]
  have horder : request.order = empty.order := by
    unfold SearchRequest.order
    rw [htranslation]
  have hload (part : Option (Nat × Nat)) : s.load db request part = s.load db empty part := by
    unfold load selected SearchRequest.loading
    rw [hkeys, horder, hstatement]
  have htotal : s.total db request = s.total db empty := by
    unfold total SearchRequest.counting
    rw [hstatement]
  -- Neither makes a demand on the number of matching tags, so both count the rows and load one page.
  have hdemand : request.demand? = none := by
    unfold SearchRequest.demand?
    rw [htranslation]
    rfl
  have hdemandEmpty : empty.demand? = none := rfl
  have hfell : request.translation.fellBack = true := by
    rw [htranslation]
    rfl
  show s.search db request = (s.search db empty).map _
  unfold search
  rw [hdemand, hdemandEmpty, hsize, htotal, hfell]
  simp only [hload]
  cases s.total db empty with
  | error e => rfl
  | ok total =>
    have hoffset : empty.offset = request.offset := rfl
    rw [hoffset]
    cases s.load db empty (some (empty.pageSize, request.offset)) with
    | error e => rfl
    | ok posts => rfl

/-- A query falls back exactly if one of its terms is no filter; then it is translated as the empty
query, and the error is that of the first such term.  A search on a query that falls back comes to what
the empty query comes to, but for saying so. -/
theorem rejected_query_is_empty_query :
    (∀ (query : String) (status : Option String),
      ((Translation.ofQuery query status).fellBack = true ↔
        ∃ text ∈ Translation.terms query, ∃ e, Filter.ofTerm text = .error e) ∧
      ((Translation.ofQuery query status).fellBack = true →
        ∃ front text back e, Translation.terms query = front ++ text :: back ∧
          (∀ t ∈ front, ∃ f, Filter.ofTerm t = .ok f) ∧ Filter.ofTerm text = .error e ∧
          Translation.ofQuery query status =
            { Translation.ofQuery "" status with rejection := some ⟨query, e⟩ })) ∧
    ∀ (s : Store) (db : Engine) (request : SearchRequest),
      (Translation.ofQuery request.query (request.status.map Status.name)).fellBack = true →
        s.search db request = (s.search db { request with query := "" }).map
          fun page => { page with fellBack := true } := by
  refine ⟨fun query status => ⟨?_, fun h => ?_⟩, fun s db request h => ?_⟩
  · rw [Translation.fellBack_iff, Translation.terms, ← exists_parseQuery_eq_error_iff]
    constructor
    · rintro ⟨r, hr⟩
      exact ⟨r.error, (Translation.ofQuery?_eq_error_iff.1 hr).2⟩
    · rintro ⟨e, he⟩
      exact ⟨⟨query, e⟩, Translation.ofQuery?_eq_error_iff.2 ⟨rfl, he⟩⟩
  · obtain ⟨⟨q, e⟩, hr⟩ := Translation.fellBack_iff.1 h
    obtain ⟨hq, he⟩ := Translation.ofQuery?_eq_error_iff.1 hr
    obtain rfl : q = query := hq
    obtain ⟨front, text, back, htexts, hfront, htext⟩ := parseQuery_eq_error_iff.1 he
    exact ⟨front, text, back, e, htexts, hfront, htext, Translation.ofQuery_of_error hr⟩
  · obtain ⟨r, hr⟩ := Translation.fellBack_iff.1 h
    exact s.search_of_error db hr

/-- A request whose query has a number that cannot be read, behind a demand and a directive. -/
def highScores : SearchRequest :=
  { SearchRequest.ofQuery .epoch "cat matches:>=1 sort:score ( dog | score:high )" with
    status := some .saved }

theorem rejected_query_is_empty_query_highScores :
    (Translation.ofQuery highScores.query (some "saved")).fellBack = true ∧
      (∃ e, Translation.ofQuery highScores.query (some "saved") =
        { Translation.ofQuery "" (some "saved") with rejection := some ⟨highScores.query, e⟩ }) ∧
      ∀ (s : Store) (db : Engine), s.search db highScores =
        (s.search db { highScores with query := "" }).map
          fun page => { page with fellBack := true } := by
  have h : (Translation.ofQuery highScores.query (some "saved")).fellBack = true := by decide +kernel
  obtain ⟨-, -, -, e, -, -, -, he⟩ :=
    (rejected_query_is_empty_query.1 highScores.query (some "saved")).2 h
  exact ⟨h, ⟨e, he⟩, fun s db => rejected_query_is_empty_query.2 s db highScores h⟩

end TagSearch

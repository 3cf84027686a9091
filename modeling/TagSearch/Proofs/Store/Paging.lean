import TagSearch.Proofs.Store.Engine
import TagSearch.Proofs.Store.Found
import TagSearch.Proofs.Store.Search
import TagSearch.Proofs.Store.Words

/-!
# Pages of a search

A request is about certain rows (`Store.matching`): those with its status for which the query's tree
holds and whose tags meet what the query demands of them.  A search shows these rows and no others,
each of them once, in the order of the request's keys, page by page (`Store.Shows`).

1. Whatever way the database goes for a statement, the rows that it is about and that meet the demand are
   the matching ones (`filter_select`), so the counted rows are as many as the shown ones.
2. Both ways of searching, with a demand and without one, cut their page out of one list (`search_eq`).
3. That list is strictly sorted if the keys tell the matching rows apart.

`exists_shows` puts this together for every archive that posts were put into and every engine that is
sound, for a request within the limits.
-/

namespace TagSearch

/-- The rows that a request is about. -/
def Store.matching (s : Store) (request : SearchRequest) : List Row :=
  s.rows.filter fun r =>
    request.status.all (fun status => r.status = status.name) &&
      request.translation.tree.truth request.today r = .holds &&
      request.translation.tree.isMetBy r

/-- The search for a request shows rows as posts, page by page. -/
structure Store.Shows (s : Store) (db : Engine) (request : SearchRequest) (rows : List Row)
    (posts : List Post) : Prop where
  /-- The rows are the matching ones. -/
  perm : rows.Perm (s.matching request)
  /-- They stand in the order of the keys. -/
  sorted : rows.Pairwise fun a b => rowOrder request.order request.keys a b = .lt
  /-- The posts are theirs. -/
  read : rows.map Row.toPost = posts.map .ok
  /-- Whatever comes before a page, the page is cut out of the posts, and all of them are counted. -/
  search : ∀ offset, s.search db { request with offset := offset } =
    .ok ⟨page request.pageSize offset posts, (s.matching request).length, request.pageSize, offset,
      request.translation.fellBack⟩
  /-- Consecutive pages show the posts one after the other. -/
  pages : ∀ n, (List.range n).flatMap (fun k => page request.pageSize (k * request.pageSize) posts) =
    posts.take (n * request.pageSize)
  /-- No post has another status. -/
  status : ∀ status, request.status = some status → ∀ p ∈ posts, p.status = status

namespace SearchRequest

variable {request : SearchRequest} {db : Engine}

theorem IsWithinLimits.offset (h : request.IsWithinLimits db) (offset : Nat) :
    SearchRequest.IsWithinLimits { request with offset := offset } db where
  statements := by
    have hstatements := h.statements
    unfold SearchRequest.statements part at hstatements ⊢
    have hdemand : demand? { request with offset := offset } = request.demand? := rfl
    rw [hdemand]
    cases hd : request.demand? with
    | none =>
      rw [hd, List.forall_mem_cons, List.forall_mem_singleton] at hstatements
      obtain ⟨hcounting, hloading⟩ := hstatements
      rw [List.forall_mem_cons, List.forall_mem_singleton]
      exact ⟨hcounting, Statement.IsWithinLimits.part hloading⟩
    | some demand =>
      rw [hd] at hstatements
      exact hstatements
  patterns := h.patterns

theorem IsWithinLimits.serves (h : request.IsWithinLimits db) (hdb : db.IsSound) (s : Store) :
    db.Serves s request where
  answers := fun q hq => hdb.answers s q (h.statements q hq)
  builds := h.patterns

theorem isWithinLimits_usual (h : ∀ q ∈ request.statements, q.IsWithinLimits) :
    request.IsWithinLimits .usual := ⟨h, fun _ _ _ _ => rfl⟩

end SearchRequest

/-! ## The shown rows are the matching ones -/

namespace Store

variable {s : Store} {db : Engine} {request : SearchRequest}

theorem truthWith_eq_holds (today : Calendar.Date) (r : Row) (status : Option Status)
    (t : Tree Filter) :
    t.truthWith today r (status.map Status.name) = .holds ↔
      status.all (fun status => r.status = status.name) = true ∧ t.truth today r = .holds := by
  cases status with
  | none => simp [Tree.truthWith, Translation.restriction]
  | some status =>
    have hrestriction : Translation.restriction (some status.name) = some status.name := by
      cases status <;> rfl
    simp [Tree.truthWith, hrestriction, and_comm]

/-- The condition of a request holds of the rows with its status of which its tree holds. -/
theorem truth_translation_eq_holds (request : SearchRequest) (r : Row) :
    request.translation.condition.truth request.today r = .holds ↔
      request.status.all (fun status => r.status = status.name) = true ∧
        request.translation.tree.truth request.today r = .holds := by
  show (Translation.ofQuery _ _).condition.truth request.today r = .holds ↔ _
  rw [Translation.truth_ofQuery]
  exact truthWith_eq_holds request.today r request.status request.translation.tree

/-- Where the indexes find the matching rows, a statement about the condition of a query is about these and
rows that do not meet the demand. -/
theorem filter_select (hdb : db.IsSound) (hfound : ∀ r ∈ s.matching request,
      ∀ f ∈ request.translation.tree.leaves, f.IsFoundIn r) (output : Output) :
    (s.select db (request.statement output)).filter request.translation.tree.isMetBy =
      s.matching request := by
  unfold select matching
  rw [List.filter_filter]
  apply List.filter_congr
  intro r hr
  have htruth := truth_translation_eq_holds request r
  rw [Bool.eq_iff_iff]
  simp only [Bool.and_eq_true, decide_eq_true_eq]
  constructor
  · rintro ⟨hmet, -, hholds⟩
    exact ⟨htruth.1 hholds, hmet⟩
  · -- A row that only the demand rules out need not be found, so the demand comes first.
    rintro ⟨hboth, hmet⟩
    have hholds := htruth.2 hboth
    have hmatching : r ∈ s.matching request := by
      unfold matching
      rw [List.mem_filter]
      refine ⟨hr, ?_⟩
      simp only [Bool.and_eq_true, decide_eq_true_eq]
      exact ⟨hboth, hmet⟩
    have hleads := hdb.leadsTo s (request.statement output) r hr
      ⟨hholds, Translation.isFoundByAll_ofQuery (hfound r hmatching)⟩
    exact ⟨hmet, hleads, hholds⟩

theorem shown_perm (hdb : db.IsSound) (hfound : ∀ r ∈ s.matching request,
      ∀ f ∈ request.translation.tree.leaves, f.IsFoundIn r) :
    (s.shown db request).Perm (s.matching request) := by
  rw [← filter_select hdb hfound (.rows request.keys request.order request.part)]
  exact s.shown_perm_filter db request

theorem counted_eq (hdb : db.IsSound) (hs : s.Decodes) (hfound : ∀ r ∈ s.matching request,
      ∀ f ∈ request.translation.tree.leaves, f.IsFoundIn r) :
    s.counted db request = (s.matching request).length := by
  unfold counted
  split
  · next hnone =>
    have hreq := request.demand?_eq_none_iff.1 hnone
    have hmet : ∀ r ∈ s.select db request.counting, request.translation.tree.isMetBy r = true :=
      fun r hr => isMetBy_of_matchRequirements_eq_nil hreq (hs r (List.mem_filter.1 hr).1)
    have hcounted : (s.select db request.counting).filter _ = s.matching request :=
      filter_select hdb hfound .count
    rw [List.filter_eq_self.2 hmet] at hcounted
    exact congrArg List.length hcounted
  · exact (shown_perm hdb hfound).length_eq

theorem pairwise_shown_of_matching (hdb : db.IsSound)
    (hkeys : IsDecisive request.order request.keys (s.matching request))
    (hfound : ∀ r ∈ s.matching request, ∀ f ∈ request.translation.tree.leaves, f.IsFoundIn r) :
    (s.shown db request).Pairwise fun a b => rowOrder request.order request.keys a b = .lt := by
  have hsorted := (pairwise_isLE_sortRows request.keys request.order
    (s.select db (request.loading request.part))).filter request.translation.tree.isMetBy
  exact pairwise_lt_of_isLE hsorted (hkeys.perm (shown_perm hdb hfound).symm)

theorem Shows.counted_eq {rows : List Row} {posts : List Post} (h : s.Shows db request rows posts)
    (hs : s.Decodes) (hserves : db.Serves s request) :
    s.counted db request = (s.matching request).length := by
  have hsearch := h.search request.offset
  rw [search_eq hs hserves] at hsearch
  exact congrArg SearchPage.total (Except.ok.inj hsearch)

theorem Reachable.search_usual (hs : s.Reachable) (h : request.IsWithinLimits .usual) :
    s.search .usual request = .ok (s.shownPage .usual request) :=
  search_eq hs.decodes (h.serves Engine.usual_isSound s)

/-- A post whose owner is a character that patterns take for the replacement character. -/
def confusablePost : Store := empty.put { Post.ofTags 1 [] with owner := "\ufffe" }

/-- No archive, not even the empty one, can be searched for as many words as a condition may be deep. -/
theorem not_shows_manyWords {ws : List String}
    (hws : ∀ w ∈ ws, IsConjunct w ∧ w ≠ "" ∧ ∃ f, Filter.ofTerm w = .ok f)
    (hmany : Statement.maxDepth ≤ ws.length) :
    ¬∃ rows posts, s.Shows .usual (request.forWords ws) rows posts := by
  rintro ⟨rows, posts, h⟩
  exact s.search_manyWords request hws hmany _ (h.search request.offset)

end Store

/-! ## Requests for the same rows -/

/-- Two requests show what they are about in the same way: by the same keys, and on the same page. -/
structure SearchRequest.IsShownAs (request other : SearchRequest) : Prop where
  keys : other.keys = request.keys
  order : other.order = request.order
  pageSize : other.pageSize = request.pageSize
  offset : other.offset = request.offset
  fellBack : other.translation.fellBack = request.translation.fellBack

theorem SearchRequest.isShownAs_of_directives {request : SearchRequest} {query : String}
    (hdirectives : (SearchRequest.translation { request with query := query }).directives =
      request.translation.directives)
    (hfell : (SearchRequest.translation { request with query := query }).fellBack =
      request.translation.fellBack) :
    request.IsShownAs { request with query := query } where
  keys := by
    unfold keys
    rw [hdirectives]
  order := by
    unfold order
    rw [hdirectives]
  pageSize := by
    unfold pageSize
    rw [hdirectives]
  offset := rfl
  fellBack := hfell

/-- Two requests are about the same rows, whichever these are, and show them in the same way. -/
structure SearchRequest.IsAnsweredAs (request other : SearchRequest) : Prop
    extends request.IsShownAs other where
  status : other.status = request.status
  truth : ∀ r, other.translation.tree.truth other.today r = .holds ↔
    request.translation.tree.truth request.today r = .holds
  met : ∀ r, other.translation.tree.isMetBy r = request.translation.tree.isMetBy r

/-- Rejected queries are answered as each other, for all of them are translated as the empty one. -/
theorem SearchRequest.isAnsweredAs_of_error {request : SearchRequest} {query : String} {r q : Rejection}
    (h : Translation.ofQuery? request.query (request.status.map Status.name) = .error r)
    (hquery : Translation.ofQuery? query (request.status.map Status.name) = .error q) :
    request.IsAnsweredAs { request with query := query } ∧
      (SearchRequest.translation { request with query := query }).tree = request.translation.tree := by
  have htranslation := Translation.ofQuery_of_error h
  have htranslationQuery := Translation.ofQuery_of_error hquery
  have htree : (SearchRequest.translation { request with query := query }).tree =
      request.translation.tree :=
    (congrArg Translation.tree htranslationQuery).trans (congrArg Translation.tree htranslation).symm
  have hdirectives : (SearchRequest.translation { request with query := query }).directives =
      request.translation.directives :=
    (congrArg Translation.directives htranslationQuery).trans
      (congrArg Translation.directives htranslation).symm
  have hfell : request.translation.fellBack = true := Translation.fellBack_iff.2 ⟨r, h⟩
  have hfellQuery : (SearchRequest.translation { request with query := query }).fellBack = true :=
    Translation.fellBack_iff.2 ⟨q, hquery⟩
  refine ⟨⟨isShownAs_of_directives hdirectives (hfellQuery.trans hfell.symm), rfl, ?_, ?_⟩, htree⟩
  · intro r
    rw [htree]
  · intro r
    rw [htree]

namespace Store

variable {s t : Store} {db : Engine} {request other : SearchRequest}

theorem matching_perm (hrows : t.rows.Perm s.rows) (h : request.IsAnsweredAs other) :
    (t.matching other).Perm (s.matching request) := by
  unfold matching
  simp only [h.status, h.truth, h.met]
  exact hrows.filter _

/-- Requests that are about the same rows and show them in the same way come to the same page, in whatever
order the rows are kept. -/
theorem exists_search_eq (hdb : db.IsSound) (hs : s.Decodes) (hrows : t.rows.Perm s.rows)
    (h : request.IsAnsweredAs other)
    (hkeys : IsDecisive request.order request.keys (s.matching request))
    (hfound : ∀ r ∈ s.matching request, ∀ f ∈ request.translation.tree.leaves, f.IsFoundIn r)
    (hfoundOther : ∀ r ∈ s.matching request, ∀ f ∈ other.translation.tree.leaves, f.IsFoundIn r)
    (hlimits : request.IsWithinLimits db) (hlimitsOther : other.IsWithinLimits db) :
    ∃ page, s.search db request = .ok page ∧ t.search db other = .ok page := by
  have ht : t.Decodes := fun r hr => hs r (hrows.mem_iff.1 hr)
  have hmatching : (t.matching other).Perm (s.matching request) := matching_perm hrows h
  have hfoundMatching : ∀ r ∈ t.matching other, ∀ f ∈ other.translation.tree.leaves, f.IsFoundIn r :=
    fun r hr => hfoundOther r (hmatching.mem_iff.1 hr)
  have hperm : (t.shown db other).Perm (s.shown db request) :=
    (shown_perm hdb hfoundMatching).trans (hmatching.trans (shown_perm hdb hfound).symm)
  have hsorted := pairwise_shown_of_matching hdb hkeys hfound
  have hkeysOther : IsDecisive other.order other.keys (t.matching other) := by
    rw [h.order, h.keys]
    exact hkeys.perm hmatching.symm
  have hsortedOther := pairwise_shown_of_matching hdb hkeysOther hfoundMatching
  rw [h.order, h.keys] at hsortedOther
  have hshown := eq_of_pairwise_lt hperm hsortedOther hsorted
  have hcounted : t.counted db other = s.counted db request := by
    rw [counted_eq hdb ht hfoundMatching, counted_eq hdb hs hfound, hmatching.length_eq]
  refine ⟨_, search_eq hs (hlimits.serves hdb s), ?_⟩
  rw [search_eq ht (hlimitsOther.serves hdb t)]
  unfold shownPage
  rw [hshown, hcounted, h.pageSize, h.offset, h.fellBack]

end Store

end TagSearch

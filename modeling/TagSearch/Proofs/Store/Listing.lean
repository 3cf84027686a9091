import TagSearch.Proofs.Store.Paging
import TagSearch.Proofs.Store.ReadBack

/-!
# Listings and the empty query

A listing and a search on the empty query are about the same rows and sort them by the same key:

1. A name of one of the six keys of listings is that key for both, and a text in which searches know no
   name is the timestamp for both (`ListsBy.listingKey_eq`, `ListsBy.sortKeys_eq`).
2. The empty query matches every row with the status of the request (`Store.matching_of_empty`), asks for
   no index, and is within the limits of every database (`SearchRequest.isWithinLimits_of_empty`).
3. If no two rows have the same value of the key, there is just one order of these rows, in whatever order
   the database keeps them (`Store.shown_of_empty_eq_sortRows`).

So both show the same page (`list_eq_search`).
-/

namespace TagSearch

/-! ## Keys of listings -/

/-- The keys by which a listing can sort. -/
def listingKeys : List SortKey := [.timestamp, .score, .postId, .owner, .width, .height]

/-- The key by which listings and searches sort for a text: the one that it names, or the timestamp if no
part of it between commas is the name of a key. -/
inductive ListsBy : String → SortKey → Prop
  | named {key : SortKey} (h : key ∈ listingKeys) : ListsBy key.name key
  | unknown {text : String} (h : ∀ part ∈ text.toList.splitOn ',',
      SortKey.ofName? (String.ofList (Text.trim part)) = none) : ListsBy text .timestamp

theorem SortKey.eq_name_of_ofName? {name : String} {key : SortKey}
    (h : SortKey.ofName? name = some key) : name = key.name := by
  have hname := List.find?_some h
  exact (beq_iff_eq.1 hname).symm

namespace ListsBy

variable {text : String} {key : SortKey}

theorem mem_listingKeys (h : ListsBy text key) : key ∈ listingKeys := by
  cases h with
  | named hkey => exact hkey
  | unknown => exact List.mem_cons_self

theorem ne_random (h : ListsBy text key) : key ≠ .random := by
  rintro rfl
  exact absurd h.mem_listingKeys (by decide)

theorem listingKey_eq (h : ListsBy text key) : listingKey text = key := by
  cases h with
  | named hkey =>
    have hall : ∀ k ∈ listingKeys, listingKey k.name = k := by decide +kernel
    exact hall key hkey
  | unknown hparts =>
    -- The whole text is no name either, for a name is its only part.
    have hname : SortKey.ofName? text = none := by
      cases hfound : SortKey.ofName? text with
      | none => rfl
      | some key =>
        obtain rfl := SortKey.eq_name_of_ofName? hfound
        have hcomma : ',' ∉ key.name.toList := fun hmem => (key.name_plain _ hmem).1 rfl
        rw [List.splitOn_eq_singleton hcomma] at hparts
        have hnone := hparts key.name.toList List.mem_cons_self
        rw [Text.trim_eq_self fun c hc => (key.name_plain c hc).2, String.ofList_toList,
          SortKey.ofName?_name] at hnone
        cases hnone
    rw [listingKey, hname]

theorem sortKeys_eq (h : ListsBy text key) : sortKeys text = [key] := by
  cases h with
  | named =>
    have hkeys : sortKeys (",".intercalate ([key].map SortKey.name)) = [key] :=
      sortKeys_names (List.cons_ne_nil key [])
    rwa [List.map_singleton, String.intercalate_singleton] at hkeys
  | unknown hparts =>
    rw [sortKeys, List.filterMap_eq_nil_iff.2 hparts]

end ListsBy

theorem isDecisive_singleton {direction : Direction} {key : SortKey} {rows : List Row}
    (hkey : key ≠ .random) (h : rows.Pairwise fun a b => key.order a b ≠ .eq) :
    IsDecisive direction [key] rows where
  notRandom := by simpa using hkey.symm
  apart := by
    refine h.imp fun {a b} hne => ?_
    rw [rowOrder_cons]
    cases horder : key.order a b with
    | eq => exact absurd horder hne
    | lt => cases direction <;> simp [compareLex, directed, horder, rowOrder]
    | gt => cases direction <;> simp [compareLex, directed, horder, rowOrder]

namespace Store

variable {s t : Store} {db : Engine} {request : SearchRequest}

/-! ## The empty query -/

theorem withStatus_perm (h : t.rows.Perm s.rows) (status : Option Status) :
    (t.withStatus status).Perm (s.withStatus status) := by
  cases status with
  | none => exact h
  | some status => exact h.filter _

theorem translation_of_empty (hquery : request.query = "") :
    request.translation = .ofStatus (request.status.map Status.name) := by
  unfold SearchRequest.translation
  rw [hquery]
  rfl

theorem request_of_empty (hquery : request.query = "") :
    request.keys = sortKeys request.sortBy ∧ request.order = request.direction ∧
      request.pageSize = request.limit ∧ request.translation.fellBack = false := by
  unfold SearchRequest.keys SearchRequest.order SearchRequest.pageSize
  rw [translation_of_empty hquery]
  exact ⟨rfl, rfl, rfl, rfl⟩

/-- The rows with the status of a request match the empty query. -/
theorem matching_of_empty (hs : s.Decodes) (hquery : request.query = "") :
    s.matching request = s.withStatus request.status := by
  have htree : request.translation.tree = .matchAll := by
    rw [translation_of_empty hquery]
    rfl
  have htruth : ∀ r, request.translation.tree.truth request.today r = .holds := by
    intro r
    rw [htree]
    rfl
  have hmet : ∀ r ∈ s.rows, request.translation.tree.isMetBy r = true := by
    intro r hr
    rw [htree]
    exact isMetBy_of_matchRequirements_eq_nil rfl (hs r hr)
  unfold matching
  cases hstatus : request.status with
  | none =>
    exact List.filter_eq_self.2 fun r hr => by simp [htruth r, hmet r hr]
  | some status =>
    exact List.filter_congr fun r hr => by simp [htruth r, hmet r hr]

theorem isFoundIn_of_empty (hquery : request.query = "") (r : Row) :
    ∀ f ∈ request.translation.tree.leaves, f.IsFoundIn r := by
  have hleaves : request.translation.tree.leaves = [] := by
    rw [translation_of_empty hquery]
    rfl
  rw [hleaves]
  intro f hf
  cases hf

theorem shown_of_empty (hdb : db.IsSound) (hs : s.Decodes) (hquery : request.query = "") :
    (s.shown db request).Perm (s.withStatus request.status) := by
  rw [← matching_of_empty hs hquery]
  exact shown_perm hdb fun r _ => isFoundIn_of_empty hquery r

/-- The empty query shows the rows with the status of a request sorted by decisive keys, in whatever order
the rows are kept. -/
theorem shown_of_empty_eq_sortRows (hdb : db.IsSound) (ht : t.Decodes) (hrows : t.rows.Perm s.rows)
    (hquery : request.query = "")
    (hkeys : IsDecisive request.direction (sortKeys request.sortBy) s.rows) :
    t.shown db request =
      sortRows (sortKeys request.sortBy) request.direction (s.withStatus request.status) := by
  obtain ⟨hsameKeys, horder, -⟩ := request_of_empty hquery
  have hshown : (t.shown db request).Pairwise
      fun a b => rowOrder request.order request.keys a b = .lt := by
    apply pairwise_shown
    rw [hsameKeys, horder]
    exact hkeys.perm hrows.symm
  rw [hsameKeys, horder] at hshown
  have hperm := (shown_of_empty hdb ht hquery).trans (withStatus_perm hrows request.status)
  exact eq_of_pairwise_lt (hperm.trans (sortRows_perm _ _ _).symm) hshown
    (pairwise_lt_sortRows (hkeys.sublist (s.withStatus_sublist request.status)))

end Store

/-- The empty query by one key is within the limits of every database. -/
theorem SearchRequest.isWithinLimits_of_empty {request : SearchRequest} {db : Engine} {key : SortKey}
    (hquery : request.query = "") (hkey : ListsBy request.sortBy key) : request.IsWithinLimits db := by
  have hall : ∀ status ∈ [none, some Status.pending, some .saved], ∀ key ∈ listingKeys,
      ∀ direction ∈ [Direction.ascending, .descending],
        (Statement.mk (Translation.ofStatus (status.map Status.name)).condition .epoch
          .count).IsWithinLimits ∧
        (Statement.mk (Translation.ofStatus (status.map Status.name)).condition .epoch
          (.rows [key] direction (some (0, 0)))).IsWithinLimits := by decide +kernel
  have hstatus : request.status ∈ [none, some Status.pending, some .saved] := by
    cases request.status with
    | none => simp
    | some status => cases status <;> simp
  have hdirection : request.direction ∈ [Direction.ascending, .descending] := by
    cases request.direction <;> simp
  obtain ⟨hcounting, hloading⟩ := hall _ hstatus _ hkey.mem_listingKeys _ hdirection
  have htranslation := Store.translation_of_empty hquery
  obtain ⟨hkeys, horder, -⟩ := Store.request_of_empty hquery
  have hdemand : request.demand? = none := by
    unfold demand?
    rw [htranslation]
    rfl
  constructor
  case statements =>
    unfold SearchRequest.statements counting loading statement part
    rw [hdemand, htranslation, hkeys, hkey.sortKeys_eq, horder, List.forall_mem_cons,
      List.forall_mem_singleton]
    exact ⟨hcounting.day, hloading.day.part⟩
  case patterns =>
    rw [hdemand]
    simp

/-! ## Listings against searches -/

/-- **Listings agree with the empty query.**  In every reachable archive, for every status, page and
direction, a listing shows the posts of a search on the empty query in the same order, whatever database
is searched and in whatever order it keeps the rows: those of the page of the posts with the status, sorted by the key
that the text asks for, if no two rows have the same value of it. -/
theorem list_eq_search {s t : Store} {db : Engine} (hdb : db.IsSound) (hs : s.Reachable)
    (hrows : t.rows.Perm s.rows) (request : SearchRequest) (hquery : request.query = "") {key : SortKey}
    (hkey : ListsBy request.sortBy key)
    (hdistinct : s.rows.Pairwise fun a b => key.order a b ≠ .eq) :
    ∃ posts : List Post, (posts.map Row.ofPost).Perm (s.withStatus request.status) ∧
      ((posts.map Row.ofPost).Pairwise fun a b => rowOrder request.direction [key] a b = .lt) ∧
      s.list request.status request.limit request.offset request.sortBy request.direction =
        .ok (page request.limit request.offset posts) ∧
      t.search db request = .ok ⟨page request.limit request.offset posts, posts.length, request.limit,
        request.offset, false⟩ := by
  have hdecisive : IsDecisive request.direction [key] s.rows :=
    isDecisive_singleton hkey.ne_random hdistinct
  have ht : t.Decodes := fun r hr => hs.decodes r (hrows.mem_iff.1 hr)
  have hserves := (SearchRequest.isWithinLimits_of_empty hquery hkey).serves hdb t
  obtain ⟨-, -, hsize, hfell⟩ := Store.request_of_empty hquery
  have hsub := s.withStatus_sublist request.status
  have hperm := sortRows_perm [key] request.direction (s.withStatus request.status)
  have hlisted := pairwise_lt_sortRows (hdecisive.sublist hsub)
  have hshown := Store.shown_of_empty_eq_sortRows hdb ht hrows hquery (by rwa [hkey.sortKeys_eq])
  obtain ⟨posts, hposts⟩ := hs.exists_posts fun r hr => hsub.mem (hperm.mem_iff.1 hr)
  rw [hkey.sortKeys_eq, hposts] at hshown
  rw [hposts] at hperm hlisted
  refine ⟨posts, hperm, hlisted, ?_, ?_⟩
  · rw [Store.list, hkey.listingKey_eq, hposts, page_map, readRows_map_ofPost]
  · have hread : (posts.map Row.ofPost).map Row.post = posts := by
      rw [List.map_map]
      exact (List.map_congr_left fun p _ => Row.post_ofPost p).trans (List.map_id posts)
    have hcounted : t.counted db request = posts.length := by
      rw [Store.counted_eq hdb ht fun r _ => Store.isFoundIn_of_empty hquery r,
        Store.matching_of_empty ht hquery, (Store.withStatus_perm hrows _).length_eq,
        ← hperm.length_eq, List.length_map]
    rw [Store.search_eq ht hserves]
    unfold Store.shownPage
    rw [hshown, hcounted, hsize, hfell, hread]

/-- Three posts of different scores and times, one of which has been kept since. -/
def timedPosts : Store :=
  (((Store.empty.put { Post.ofTags 1 ["cat"] with score := 7, timestamp := .ofInt 30 }).put
    { Post.ofTags 2 ["dog"] with score := 9, timestamp := .ofInt 10 }).put
      { Post.ofTags 3 ["sea"] with score := 8, timestamp := .ofInt 20 }).setStatus 2 .saved none |>.toStore

/-- A request for the second page of all posts, two on a page. -/
def secondPage (sortBy : String) : SearchRequest :=
  { SearchRequest.ofQuery .epoch "" with sortBy := sortBy, limit := 2, offset := 2 }

/-- By score, and by a text that names no key for a search since the letter case of names counts. -/
theorem list_eq_search_timedPosts :
    Engine.usual.IsSound ∧ timedPosts.Reachable ∧ ListsBy "score" .score ∧ ListsBy "karma, Score" .timestamp ∧
      timedPosts.rows.length = 3 ∧
      ∀ sortBy ∈ ["score", "karma, Score"], ∃ posts,
        timedPosts.list none 2 2 sortBy .descending = .ok posts ∧
          (Store.mk timedPosts.rows.reverse).search .usual (secondPage sortBy) =
            .ok ⟨posts, 3, 2, 2, false⟩ := by
  have hs : timedPosts.Reachable := (((Store.Reachable.empty.put _).put _).put _).setStatus _ _ _
  have hrows : (Store.mk timedPosts.rows.reverse).rows.Perm timedPosts.rows := List.reverse_perm _
  have hscore : ListsBy "score" .score := ListsBy.named (show SortKey.score ∈ listingKeys by decide)
  have hunknown : ListsBy "karma, Score" .timestamp := .unknown (by decide +kernel)
  have hlength : timedPosts.rows.length = 3 := by decide +kernel
  refine ⟨Engine.usual_isSound, hs, hscore, hunknown, hlength, fun sortBy hsortBy => ?_⟩
  have hagree {key : SortKey} (hkey : ListsBy sortBy key)
      (hdistinct : timedPosts.rows.Pairwise fun a b => key.order a b ≠ .eq) :
      ∃ posts, timedPosts.list none 2 2 sortBy .descending = .ok posts ∧
        (Store.mk timedPosts.rows.reverse).search .usual (secondPage sortBy) =
          .ok ⟨posts, 3, 2, 2, false⟩ := by
    obtain ⟨posts, hperm, -, hlist, hsearch⟩ :=
      list_eq_search Engine.usual_isSound hs hrows (secondPage sortBy) rfl hkey hdistinct
    have hcount : posts.length = 3 := by
      rw [← List.length_map Row.ofPost]
      exact hperm.length_eq.trans hlength
    rw [hcount] at hsearch
    exact ⟨_, hlist, hsearch⟩
  rcases List.mem_pair.1 hsortBy with rfl | rfl
  · exact hagree hscore (by decide +kernel)
  · exact hagree hunknown (by decide +kernel)

end TagSearch

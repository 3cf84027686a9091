import TagSearch.Proofs.Query.MatchingTags
import TagSearch.Proofs.Store.Paging

/-!
# The order of words

A query of plain words is a conjunction, and for its rows the order of the words makes no difference:

1. The same filters are read from the words, or none if one of them is no filter (`exists_mapM_perm`).
2. The same rows satisfy them (`Tree.truth_conjunction_eq_holds`) and meet their demand
   (`Tree.isMetBy_conjunction_eq`).

So a search on the words comes to the same page in any order where the indexes find the matching rows and
the search is within the limits in either order (`search_forWords_perm`).  The indexes miss only what a
pattern takes for something else: with two patterns for owners, a search may find a row in one order and
not in the other (`not_search_forWords_perm_confusableOwner`).
-/

namespace TagSearch

/-! ## Filters in another order -/

/-- A list is read whole in any order. -/
theorem exists_mapM_perm {α β ε : Type} {f : α → Except ε β} {xs ys : List α} (hperm : xs.Perm ys)
    {as : List β} (h : xs.mapM f = .ok as) : ∃ bs, ys.mapM f = .ok bs ∧ as.Perm bs := by
  obtain ⟨bs, hbs, hperm⟩ := List.perm_comp_forall₂ hperm.symm (mapM_eq_ok_iff.1 h)
  exact ⟨bs, mapM_eq_ok_iff.2 hbs, hperm.symm⟩

namespace Tree

variable {fs gs : List Filter}

/-- A conjunction of leaves holds if all of them do. -/
theorem truth_conjunction_eq_holds (today : Calendar.Date) (r : Row) (fs : List Filter) :
    (collapse (fs.map .leaf)).truth today r = .holds ↔ ∀ f ∈ fs, f.truth today r = .holds := by
  rw [truth_collapse]
  induction fs with
  | nil => simp [truths]
  | cons f fs ih =>
    rw [List.map_cons, truths, List.foldr_cons, Truth.and_eq_holds, ih, truth, List.forall_mem_cons]

theorem positiveTags_conjunction_perm (hperm : fs.Perm gs) :
    (collapse (fs.map .leaf)).positiveTags.Perm (collapse (gs.map .leaf)).positiveTags := by
  refine (List.perm_ext_iff_of_nodup (nodup_positiveTags _) (nodup_positiveTags _)).2 fun name => ?_
  rw [mem_positiveTags, mem_positiveTags]
  unfold AsksFor
  simp only [leaves_conjunction, hperm.mem_iff]

theorem matchRequirements_conjunction_perm (hperm : fs.Perm gs) :
    (collapse (fs.map .leaf)).matchRequirements.Perm (collapse (gs.map .leaf)).matchRequirements := by
  unfold matchRequirements
  rw [leaves_conjunction, leaves_conjunction]
  exact hperm.filterMap _

/-- The same leaves make the same demand. -/
theorem isMetBy_conjunction_eq (hperm : fs.Perm gs) (r : Row) :
    (collapse (fs.map .leaf)).isMetBy r = (collapse (gs.map .leaf)).isMetBy r := by
  unfold isMetBy
  cases decodeTags? r.tags with
  | none => rfl
  | some tags =>
    dsimp only
    unfold TagDemand.isMet TagDemand.count
    rw [(positiveTags_conjunction_perm hperm).countP_eq]
    exact (matchRequirements_conjunction_perm hperm).all_eq

end Tree

/-! ## Words in another order -/

section

variable {request : SearchRequest} {ws vs : List String} {fs gs : List Filter}

theorem SearchRequest.isAnsweredAs_forWords_of_ok (hws : ∀ w ∈ ws, IsConjunct w)
    (hvs : ∀ w ∈ vs, IsConjunct w) (hfs : (ws.filter (· ≠ "")).mapM Filter.ofTerm = .ok fs)
    (hgs : (vs.filter (· ≠ "")).mapM Filter.ofTerm = .ok gs) (hperm : fs.Perm gs) :
    (request.forWords ws).IsAnsweredAs (request.forWords vs) ∧
      (request.forWords vs).translation.tree.leaves.Perm
        (request.forWords ws).translation.tree.leaves := by
  obtain ⟨htree, hdirectives, hfell⟩ := request.translation_forWords hws hfs
  obtain ⟨htreeOther, hdirectivesOther, hfellOther⟩ := request.translation_forWords hvs hgs
  have hshown : (request.forWords ws).IsShownAs (request.forWords vs) :=
    isShownAs_of_directives (hdirectivesOther.trans hdirectives.symm) (hfellOther.trans hfell.symm)
  refine ⟨⟨hshown, rfl, ?truth, ?met⟩, ?leaves⟩
  case truth =>
    intro r
    rw [htree, htreeOther, Tree.truth_conjunction_eq_holds, Tree.truth_conjunction_eq_holds]
    simp only [hperm.mem_iff]
    rfl
  case met =>
    intro r
    rw [htree, htreeOther, Tree.isMetBy_conjunction_eq hperm]
  case leaves =>
    rw [htree, htreeOther, Tree.leaves_conjunction, Tree.leaves_conjunction]
    exact hperm.symm

/-- Words are answered in any order as in one, and have the same leaves. -/
theorem SearchRequest.isAnsweredAs_forWords (request : SearchRequest) (hperm : ws.Perm vs)
    (hws : ∀ w ∈ ws, IsConjunct w) :
    (request.forWords ws).IsAnsweredAs (request.forWords vs) ∧
      (request.forWords vs).translation.tree.leaves.Perm
        (request.forWords ws).translation.tree.leaves := by
  have hvs : ∀ w ∈ vs, IsConjunct w := fun w hw => hws w (hperm.mem_iff.2 hw)
  have hwords : (ws.filter (· ≠ "")).Perm (vs.filter (· ≠ "")) := hperm.filter _
  cases hfs : (ws.filter (· ≠ "")).mapM Filter.ofTerm with
  | ok fs =>
    obtain ⟨gs, hgs, hfilters⟩ := exists_mapM_perm hwords hfs
    exact isAnsweredAs_forWords_of_ok hws hvs hfs hgs hfilters
  | error e =>
    cases hgs : (vs.filter (· ≠ "")).mapM Filter.ofTerm with
    | error d =>
      obtain ⟨hanswered, htree⟩ := isAnsweredAs_of_error
        (request.ofQuery?_forWords_of_error hws hfs) (request.ofQuery?_forWords_of_error hvs hgs)
      exact ⟨hanswered, .of_eq (congrArg Tree.leaves htree)⟩
    | ok gs =>
      obtain ⟨fs, hread, -⟩ := exists_mapM_perm hwords.symm hgs
      rw [hfs] at hread
      cases hread

theorem SearchRequest.directives_forWords (request : SearchRequest) (hws : ∀ w ∈ ws, IsConjunct w) :
    (request.forWords ws).translation.directives = .none := by
  cases hfs : (ws.filter (· ≠ "")).mapM Filter.ofTerm with
  | ok fs => exact (request.translation_forWords hws hfs).2.1
  | error e =>
    exact congrArg Translation.directives
      (Translation.ofQuery_of_error (request.ofQuery?_forWords_of_error hws hfs))

end

/-- In every reachable archive a search on plain words comes to the same page in any order, if the keys
tell the rows apart, the indexes find the matching rows and the search is within the limits in either
order. -/
theorem search_forWords_perm {s t : Store} {db : Engine} (hdb : db.IsSound) (hs : s.Reachable)
    (hrows : t.rows.Perm s.rows) (request : SearchRequest) {ws vs : List String} (hperm : ws.Perm vs)
    (hws : ∀ w ∈ ws, IsConjunct w)
    (hkeys : IsDecisive request.direction (sortKeys request.sortBy) s.rows)
    (hfound : ∀ r ∈ s.matching (request.forWords ws),
      ∀ f ∈ (request.forWords ws).translation.tree.leaves, f.IsFoundIn r)
    (hlimits : (request.forWords ws).IsWithinLimits db)
    (hlimitsOther : (request.forWords vs).IsWithinLimits db) :
    ∃ page, s.search db (request.forWords ws) = .ok page ∧
      t.search db (request.forWords vs) = .ok page := by
  obtain ⟨hanswered, hleaves⟩ := request.isAnsweredAs_forWords hperm hws
  have hdirectives := request.directives_forWords hws
  have hdecisive : IsDecisive (request.forWords ws).order (request.forWords ws).keys
      (s.matching (request.forWords ws)) := by
    unfold SearchRequest.order SearchRequest.keys
    rw [hdirectives]
    exact hkeys.sublist List.filter_sublist
  exact Store.exists_search_eq hdb hs.decodes hrows hanswered hdecisive hfound
    (fun r hr f hf => hfound r hr f (hleaves.mem_iff.1 hf)) hlimits hlimitsOther

/-- Three posts of two owners. -/
def ownedPosts : Store :=
  ((Store.empty.put { Post.ofTags 1 ["cat", "sea"] with owner := "Alice" }).put
    { Post.ofTags 2 ["cat", "dog"] with owner := "alina" }).put
      { Post.ofTags 3 ["dog"] with owner := "alina" }

/-- A request for all posts by their numbers. -/
def byNumber : SearchRequest :=
  { SearchRequest.ofQuery .epoch "" with sortBy := "post_id", direction := .ascending }

/-- Two patterns for the owner, an excluded tag with a closing parenthesis, and a demand. -/
def ownerWords : List String := ["user:al*", "-sea)", "cat", "matches:1", "user:*i*"]

theorem search_forWords_perm_ownerWords :
    Engine.usual.IsSound ∧ ownedPosts.Reachable ∧
      IsDecisive byNumber.direction (sortKeys byNumber.sortBy) ownedPosts.rows ∧
      (∀ w ∈ ownerWords, IsConjunct w) ∧
      (ownedPosts.matching (byNumber.forWords ownerWords)).length = 2 ∧
      (byNumber.forWords ownerWords).IsWithinLimits .usual ∧
      (byNumber.forWords ownerWords.reverse).IsWithinLimits .usual ∧
      ∃ page, ownedPosts.search .usual (byNumber.forWords ownerWords) = .ok page ∧
        (Store.mk ownedPosts.rows.reverse).search .usual (byNumber.forWords ownerWords.reverse) =
          .ok page := by
  have hs : ownedPosts.Reachable := ((Store.Reachable.empty.put _).put _).put _
  have hws : ∀ w ∈ ownerWords, IsConjunct w := by decide +kernel
  have hkeys : IsDecisive byNumber.direction (sortKeys byNumber.sortBy) ownedPosts.rows :=
    ⟨by decide +kernel, by decide +kernel⟩
  have hplain : ∀ r ∈ ownedPosts.rows, r.IsPlain := by
    have hall : ownedPosts.rows.all (fun r => r.owner.toList.all (!isConfusable ·) &&
        r.title.toList.all (!isConfusable ·)) = true := by decide +kernel
    simpa [Row.IsPlain] using hall
  have hlimits : (byNumber.forWords ownerWords).IsWithinLimits .usual :=
    SearchRequest.isWithinLimits_usual (by decide +kernel)
  have hlimitsReverse : (byNumber.forWords ownerWords.reverse).IsWithinLimits .usual :=
    SearchRequest.isWithinLimits_usual (by decide +kernel)
  exact ⟨Engine.usual_isSound, hs, hkeys, hws, by decide +kernel, hlimits, hlimitsReverse,
    search_forWords_perm Engine.usual_isSound hs (List.reverse_perm _) byNumber
      (List.reverse_perm _).symm hws hkeys
      (fun r hr f _ => (hplain r (List.mem_filter.1 hr).1).isFoundIn f) hlimits hlimitsReverse⟩

/-- An owner that two patterns take for its like, and the index of one does not: the later pattern's path is
followed, so the post is found in one order of the words and not in the other. -/
theorem not_search_forWords_perm_confusableOwner :
    Store.confusablePost.Reachable ∧
      IsDecisive byNumber.direction (sortKeys byNumber.sortBy) Store.confusablePost.rows ∧
      (∀ w ∈ ["user:\ufffd*", "user:\ufffe*"], IsConjunct w) ∧
      ["user:\ufffd*", "user:\ufffe*"].Perm ["user:\ufffe*", "user:\ufffd*"] ∧
      (Store.confusablePost.search .usual (byNumber.forWords ["user:\ufffd*", "user:\ufffe*"])).map
          SearchPage.total = .ok 1 ∧
      (Store.confusablePost.search .usual (byNumber.forWords ["user:\ufffe*", "user:\ufffd*"])).map
          SearchPage.total = .ok 0 := by
  have hs : Store.confusablePost.Reachable := Store.Reachable.empty.put _
  refine ⟨hs, ⟨by decide +kernel, by decide +kernel⟩, by decide +kernel, by decide, ?_, ?_⟩
  · rw [hs.search_usual (SearchRequest.isWithinLimits_usual (by decide +kernel))]
    exact congrArg Except.ok (by decide +kernel)
  · rw [hs.search_usual (SearchRequest.isWithinLimits_usual (by decide +kernel))]
    exact congrArg Except.ok (by decide +kernel)

end TagSearch

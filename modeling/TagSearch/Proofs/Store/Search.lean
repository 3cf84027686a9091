import TagSearch.Proofs.Store.Ordering
import TagSearch.Proofs.Store.Reachable
import TagSearch.Store.Search

/-!
# What a search comes to

Sorting and checking a demand commute with reading rows as posts.  So a search that the database and the
matcher of tags serve cuts its page out of the posts of certain rows, whether the query makes a demand or
not (`Store.shown`), and gives their number as the database or the program counts them (`Store.counted`,
`Store.search_eq`).  One that is not served fails, but never for a row that cannot be read
(`Store.exists_search_eq_error`, `Store.search_ne_decode`).
-/

namespace TagSearch

/-! ## Pages of a list -/

theorem page_map {α β : Type} (f : α → β) (limit offset : Nat) (xs : List α) :
    page limit offset (xs.map f) = (page limit offset xs).map f := by
  unfold page
  rw [List.map_take, List.map_drop]

theorem mem_of_mem_page {α : Type} {x : α} {limit offset : Nat} {xs : List α}
    (h : x ∈ page limit offset xs) : x ∈ xs := List.mem_of_mem_drop (List.mem_of_mem_take h)

theorem mem_of_mem_cut {α : Type} {x : α} {part : Option (Nat × Nat)} {xs : List α}
    (h : x ∈ cut part xs) : x ∈ xs := by
  cases part with
  | none => exact h
  | some part => exact mem_of_mem_page h

/-! ## Rows and posts -/

/-- The post of a row that decodes. -/
def Row.post (r : Row) : Post :=
  match r.toPost with
  | .ok p => p
  | .error _ => .ofTags r.postId []

theorem Row.Decodes.toPost {r : Row} (h : r.Decodes) : r.toPost = .ok r.post := by
  obtain ⟨p, hp, -⟩ := h.exists_toPost
  unfold Row.post
  rw [hp]

theorem Row.Decodes.post_status {r : Row} (h : r.Decodes) : r.status = r.post.status.name := by
  obtain ⟨p, hp, hstatus, -⟩ := h.exists_toPost
  unfold Row.post
  rw [hp]
  exact hstatus

theorem Row.Decodes.post_tags {r : Row} (h : r.Decodes) :
    decodeTags? r.tags = some r.post.tags := by
  obtain ⟨p, hp, -, htags⟩ := h.exists_toPost
  unfold Row.post
  rw [hp]
  exact htags

theorem readRows_eq {rows : List Row} (h : ∀ r ∈ rows, r.Decodes) :
    readRows rows = .ok (rows.map Row.post) := by
  unfold readRows
  induction rows with
  | nil => rfl
  | cons r rows ih =>
    rw [List.forall_mem_cons] at h
    rw [List.mapM_cons, h.1.toPost, ih h.2]
    rfl

/-- The row's tags meet everything that the tree demands of the number of matching tags. -/
def Tree.isMetBy (t : Tree Filter) (r : Row) : Bool :=
  match decodeTags? r.tags with
  | some tags => (TagDemand.mk t.positiveTags t.matchRequirements).isMet tags
  | none => false

theorem isMet_post {t : Tree Filter} {r : Row} (h : r.Decodes) :
    (TagDemand.mk t.positiveTags t.matchRequirements).isMet r.post.tags = t.isMetBy r := by
  unfold Tree.isMetBy
  rw [h.post_tags]

theorem isMetBy_of_matchRequirements_eq_nil {t : Tree Filter} (ht : t.matchRequirements = [])
    {r : Row} (h : r.Decodes) : t.isMetBy r = true := by
  rw [← isMet_post h, ht]
  rfl

/-! ## What is asked for a request -/

namespace Statement.IsWithinLimits

variable {condition : Condition Value} {today other : Calendar.Date} {output : Output}

theorem day (h : (Statement.mk condition today output).IsWithinLimits) :
    (Statement.mk condition other output).IsWithinLimits :=
  ⟨h.length, h.depth, h.parameters, h.order, h.patterns, h.values⟩

theorem part {keys : List SortKey} {direction : Direction} {p q : Nat × Nat}
    (h : (Statement.mk condition today (.rows keys direction (some p))).IsWithinLimits) :
    (Statement.mk condition today (.rows keys direction (some q))).IsWithinLimits :=
  ⟨h.length, h.depth, h.parameters, h.order, h.patterns, h.values⟩

end Statement.IsWithinLimits

namespace SearchRequest

variable (request : SearchRequest)

theorem demand?_eq_none_iff :
    request.demand? = none ↔ request.translation.tree.matchRequirements = [] := by
  unfold demand? TagDemand.ofTree?
  split
  · next hnil => exact iff_of_true rfl hnil
  · next hne => exact iff_of_false (Option.some_ne_none _) hne

theorem eq_of_demand?_eq_some {demand : TagDemand} (h : request.demand? = some demand) :
    demand = ⟨request.translation.tree.positiveTags, request.translation.tree.matchRequirements⟩ := by
  unfold demand? TagDemand.ofTree? at h
  split at h
  · cases h
  · exact (Option.some.inj h).symm

/-- The part of the rows that the database is to load: only the page, unless every row has to be checked. -/
def part : Option (Nat × Nat) :=
  match request.demand? with
  | none => some (request.pageSize, request.offset)
  | some _ => none

theorem part_of_none (h : request.demand? = none) :
    request.part = some (request.pageSize, request.offset) := by
  unfold part
  rw [h]

theorem part_of_some {demand : TagDemand} (h : request.demand? = some demand) :
    request.part = none := by
  unfold part
  rw [h]

/-- All statements that a search on the request makes. -/
def statements : List Statement :=
  match request.demand? with
  | none => [request.counting, request.loading request.part]
  | some _ => [request.loading request.part]

/-- The database is asked nothing beyond its limits, and the matcher nothing that it refuses. -/
structure IsWithinLimits (db : Engine) : Prop where
  statements : ∀ q ∈ request.statements, q.IsWithinLimits
  patterns : ∀ demand ∈ request.demand?, ∀ name ∈ demand.patterns, db.builds name = true

end SearchRequest

/-- The database answers all statements of a request, and the matcher builds all patterns. -/
structure Engine.Serves (db : Engine) (s : Store) (request : SearchRequest) : Prop where
  answers : ∀ q ∈ request.statements, db.answers s q = true
  builds : ∀ demand ∈ request.demand?, ∀ name ∈ demand.patterns, db.builds name = true

namespace Engine.Serves

variable {db : Engine} {s : Store} {request : SearchRequest}

theorem iff_of_none (hnone : request.demand? = none) :
    db.Serves s request ↔ db.answers s request.counting = true ∧
      db.answers s (request.loading request.part) = true := by
  have hstatements : request.statements = [request.counting, request.loading request.part] := by
    unfold SearchRequest.statements
    rw [hnone]
  constructor
  · intro h
    have hanswers := h.answers
    rw [hstatements, List.forall_mem_cons, List.forall_mem_singleton] at hanswers
    exact hanswers
  · intro h
    refine ⟨?_, fun demand hdemand => ?_⟩
    · rw [hstatements, List.forall_mem_cons, List.forall_mem_singleton]
      exact h
    · rw [hnone] at hdemand
      cases hdemand

theorem iff_of_some {demand : TagDemand} (hsome : request.demand? = some demand) :
    db.Serves s request ↔ db.unbuilt? demand = none ∧
      db.answers s (request.loading request.part) = true := by
  have hstatements : request.statements = [request.loading request.part] := by
    unfold SearchRequest.statements
    rw [hsome]
  have hbuilds : db.unbuilt? demand = none ↔ ∀ name ∈ demand.patterns, db.builds name = true := by
    simp [Engine.unbuilt?]
  rw [hbuilds]
  constructor
  · intro h
    have hanswers := h.answers
    rw [hstatements, List.forall_mem_singleton] at hanswers
    exact ⟨h.builds demand hsome, hanswers⟩
  · rintro ⟨hbuilt, hanswers⟩
    refine ⟨?_, fun other hother => ?_⟩
    · rw [hstatements, List.forall_mem_singleton]
      exact hanswers
    · rw [hsome] at hother
      cases hother
      exact hbuilt

theorem loading (h : db.Serves s request) :
    db.answers s (request.loading request.part) = true := by
  cases hdemand : request.demand? with
  | none => exact ((iff_of_none hdemand).1 h).2
  | some demand => exact ((iff_of_some hdemand).1 h).2

end Engine.Serves

/-! ## What a search shows -/

namespace Store

variable (s : Store) (db : Engine) (request : SearchRequest)

/-- The rows of which a search shows pages: those that it loads or of which it loads some, and that meet
the demand. -/
def shown : List Row := (s.selected db request request.part).filter request.translation.tree.isMetBy

/-- How many matches a search tells of. -/
def counted : Nat :=
  match request.demand? with
  | none => (s.select db request.counting).length
  | some _ => (s.shown db request).length

/-- What a search comes to that is served. -/
def shownPage : SearchPage where
  posts := page request.pageSize request.offset ((s.shown db request).map Row.post)
  total := s.counted db request
  limit := request.pageSize
  offset := request.offset
  fellBack := request.translation.fellBack

variable {s db request}

theorem mem_of_mem_selected {part : Option (Nat × Nat)} {r : Row}
    (h : r ∈ s.selected db request part) : r ∈ s.rows := by
  have hselect := (sortRows_perm _ _ _).mem_iff.1 h
  exact (List.mem_filter.1 hselect).1

theorem mem_of_mem_shown {r : Row} (h : r ∈ s.shown db request) : r ∈ s.rows :=
  mem_of_mem_selected (List.mem_filter.1 h).1

/-- Loading fails only if the database refuses. -/
theorem load_eq (hs : s.Decodes) (part : Option (Nat × Nat)) :
    s.load db request part =
      if db.answers s (request.loading part) then
        .ok ((cut part (s.selected db request part)).map Row.post)
      else .error .load := by
  have hrows : ∀ r ∈ cut part (s.selected db request part), r.Decodes :=
    fun r hr => hs r (mem_of_mem_selected (mem_of_mem_cut hr))
  unfold load
  rw [readRows_eq hrows]
  rfl

theorem shown_eq_selected (hs : s.Decodes)
    (hreq : request.translation.tree.matchRequirements = []) :
    s.shown db request = s.selected db request request.part := by
  unfold shown
  rw [List.filter_eq_self]
  exact fun r hr => isMetBy_of_matchRequirements_eq_nil hreq (hs r (mem_of_mem_selected hr))

theorem filter_isMet_selected (hs : s.Decodes) :
    ((s.selected db request request.part).map Row.post).filter (fun p =>
        (TagDemand.mk request.translation.tree.positiveTags
          request.translation.tree.matchRequirements).isMet p.tags) =
      (s.shown db request).map Row.post := by
  unfold shown
  rw [List.filter_map]
  congr 1
  exact List.filter_congr fun r hr => isMet_post (hs r (mem_of_mem_selected hr))

/-- A search that is served comes to the page of the shown posts, whether the query makes a demand or
not. -/
theorem search_eq (hs : s.Decodes) (h : db.Serves s request) :
    s.search db request = .ok (s.shownPage db request) := by
  have hload : s.load db request request.part = _ := load_eq hs request.part
  rw [if_pos h.loading] at hload
  cases hdemand : request.demand? with
  | none =>
    have hpart := request.part_of_none hdemand
    have hshown : s.shown db request = _ :=
      shown_eq_selected hs (request.demand?_eq_none_iff.1 hdemand)
    rw [hpart] at hload hshown
    unfold search total shownPage counted
    rw [hdemand]
    dsimp only
    rw [if_pos ((Engine.Serves.iff_of_none hdemand).1 h).1, hload, hshown, page_map]
    rfl
  | some demand =>
    have hpart := request.part_of_some hdemand
    have hmatching : _ = (s.shown db request).map Row.post := filter_isMet_selected hs
    rw [← request.eq_of_demand?_eq_some hdemand, hpart] at hmatching
    rw [hpart] at hload
    unfold search shownPage counted
    rw [hdemand]
    dsimp only
    rw [((Engine.Serves.iff_of_some hdemand).1 h).1, hload]
    show Except.ok _ = _
    unfold cut
    rw [hmatching, List.length_map]

/-- A search that is not served fails before any row is read. -/
theorem exists_search_eq_error (h : ¬db.Serves s request) :
    ∃ e, (∀ d, e ≠ .decode d) ∧ s.search db request = .error e := by
  have hload {part : Option (Nat × Nat)} (hloads : ¬db.answers s (request.loading part) = true) :
      s.load db request part = .error .load := if_neg hloads
  unfold search
  cases hdemand : request.demand? with
  | none =>
    rw [Engine.Serves.iff_of_none hdemand, not_and, request.part_of_none hdemand] at h
    unfold total
    by_cases hcounts : db.answers s request.counting = true
    · dsimp only
      rw [if_pos hcounts, hload (h hcounts)]
      exact ⟨.load, by simp, rfl⟩
    · dsimp only
      rw [if_neg hcounts]
      exact ⟨.count, by simp, rfl⟩
  | some demand =>
    rw [Engine.Serves.iff_of_some hdemand, not_and, request.part_of_some hdemand] at h
    dsimp only
    cases hunbuilt : db.unbuilt? demand with
    | some name => exact ⟨.pattern name, by simp, rfl⟩
    | none =>
      dsimp only
      rw [hload (h hunbuilt)]
      exact ⟨.load, by simp, rfl⟩

/-- Whatever a database refuses, no search of decoding rows fails for a row that cannot be read. -/
theorem search_ne_decode (hs : s.Decodes) (e : DecodeError) :
    s.search db request ≠ .error (.decode e) := by
  by_cases hserves : db.Serves s request
  · rw [search_eq hs hserves]
    simp
  · obtain ⟨other, hother, hsearch⟩ := exists_search_eq_error hserves
    rw [hsearch]
    exact fun h => hother e (Except.error.inj h)

theorem mem_rows_of_search (hs : s.Decodes) {found : SearchPage} (h : s.search db request = .ok found) :
    ∀ p ∈ found.posts, ∃ r ∈ s.rows, r.post = p := by
  by_cases hserves : db.Serves s request
  · rw [search_eq hs hserves] at h
    cases h
    intro p hp
    obtain ⟨r, hr, rfl⟩ := List.mem_map.1 (mem_of_mem_page hp)
    exact ⟨r, mem_of_mem_shown hr, rfl⟩
  · obtain ⟨e, -, hsearch⟩ := exists_search_eq_error hserves
    rw [hsearch] at h
    cases h

/-! ## The order of the shown rows -/

theorem shown_perm_filter (s : Store) (db : Engine) (request : SearchRequest) :
    (s.shown db request).Perm ((s.select db (request.loading request.part)).filter
      request.translation.tree.isMetBy) :=
  (sortRows_perm _ _ _).filter _

theorem pairwise_shown (hkeys : IsDecisive request.order request.keys s.rows) :
    (s.shown db request).Pairwise fun a b => rowOrder request.order request.keys a b = .lt :=
  (pairwise_lt_sortRows (hkeys.sublist List.filter_sublist)).filter _

end Store

end TagSearch

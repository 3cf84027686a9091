import TagSearch.Proofs.Store.Search

/-!
# Posts are read back from their rows

The row of a post is read as that post, whatever its texts and tags hold (`Row.toPost_ofPost`).  The
table keeps less of a real number than a post may have: it keeps no sign of zero, and nothing that is not
a number.  So what the table keeps of a post with numbers in its real columns is equal to the post in the
sense in which posts are compared (`Post.HasNumbers.equals_kept`).

Every row of a reachable archive is the row of a post (`Store.Reachable.exists_post`), so listing and
searching never meet a row that they cannot read (`posts_are_read_back`).
-/

namespace TagSearch

/-! ## What the table keeps -/

/-- The post as the table keeps it. -/
def Post.kept (p : Post) : Post :=
  { p with
    timestamp := if p.timestamp = .nan then .zero else p.timestamp.unsignedZero
    duration := (p.duration.filter (· ≠ .nan)).map Double.unsignedZero }

theorem Row.stored_ofPost (p : Post) : (Row.ofPost p).stored = Row.ofPost p.kept := rfl

/-- The real columns of the post hold numbers. -/
structure Post.HasNumbers (p : Post) : Prop where
  timestamp : p.timestamp ≠ .nan
  duration : p.duration ≠ some .nan

/-- Two doubles are equal as numbers: zero is equal to zero of the other sign, and not-a-number to
nothing. -/
def Double.Equals (x y : Double) : Prop := x.compare? y = some .eq

/-- Two posts are equal as posts are compared, their real columns as numbers. -/
structure Post.Equals (p q : Post) : Prop where
  timestamp : p.timestamp.Equals q.timestamp
  duration : Option.Rel Double.Equals p.duration q.duration
  /-- The other columns are the same. -/
  others : { p with timestamp := q.timestamp, duration := q.duration } = q

namespace Double

theorem exists_signedUnits {x : Double} (h : x ≠ .nan) : ∃ n, x.signedUnits? = some n := by
  cases x with
  | nan => exact absurd rfl h
  | infinite negative => exact ⟨_, rfl⟩
  | finite negative units => exact ⟨_, rfl⟩

theorem Equals.refl {x : Double} (h : x ≠ .nan) : x.Equals x := by
  obtain ⟨n, hn⟩ := exists_signedUnits h
  have hself : compare n n = .eq := Std.ReflCmp.compare_self
  rw [Equals, compare?, hn]
  exact congrArg some hself

theorem equals_unsignedZero {x : Double} (h : x ≠ .nan) : x.unsignedZero.Equals x := by
  unfold unsignedZero
  split
  · next hzero =>
    cases x with
    | nan => cases hzero
    | infinite negative => cases hzero
    | finite negative units =>
      obtain rfl : units = 0 := by simpa [isZero] using hzero
      cases negative <;> rfl
  · exact .refl h

end Double

/-- Nothing but the sign of zero is lost of a post with numbers. -/
theorem Post.HasNumbers.equals_kept {p : Post} (h : p.HasNumbers) : p.kept.Equals p where
  timestamp := by
    unfold kept
    rw [if_neg h.timestamp]
    exact Double.equals_unsignedZero h.timestamp
  duration := by
    have hduration := h.duration
    show Option.Rel Double.Equals ((p.duration.filter (· ≠ .nan)).map Double.unsignedZero) p.duration
    cases hd : p.duration with
    | none => exact .none
    | some x =>
      have hx : decide (x ≠ .nan) = true := by
        rw [decide_eq_true_iff]
        rintro rfl
        exact hduration hd
      rw [Option.filter_some, if_pos hx, Option.map_some]
      exact .some (Double.equals_unsignedZero (of_decide_eq_true hx))
  others := rfl

/-! ## Rows and posts -/

/-- The row of a post is read as that post. -/
theorem Row.toPost_ofPost (p : Post) : (Row.ofPost p).toPost = .ok p := by
  have hstatus : Status.ofName? (Row.ofPost p).status = some p.status := Status.ofName?_name p.status
  have htags : decodeTags? (Row.ofPost p).tags = some p.tags := decodeTags?_encodeTags p.tags
  unfold toPost
  rw [hstatus, htags]
  rfl

theorem Row.post_ofPost (p : Post) : (Row.ofPost p).post = p := by
  unfold Row.post
  rw [Row.toPost_ofPost]

theorem readRows_map_ofPost (posts : List Post) : readRows (posts.map Row.ofPost) = .ok posts := by
  unfold readRows
  induction posts with
  | nil => rfl
  | cons p posts ih =>
    rw [List.map_cons, List.mapM_cons, Row.toPost_ofPost, ih]
    rfl

namespace Store

variable {s : Store}

/-- Every row of a reachable archive is the row of a post. -/
theorem Reachable.exists_post (hs : s.Reachable) : ∀ r ∈ s.rows, ∃ p, r = Row.ofPost p := by
  refine hs.forall_rows (fun p => ⟨p.kept, rfl⟩) ?_
  rintro _ status folder ⟨p, rfl⟩
  exact ⟨{ p with status := status, dateFolder := folder }, rfl⟩

theorem Reachable.exists_posts (hs : s.Reachable) {rows : List Row} (h : ∀ r ∈ rows, r ∈ s.rows) :
    ∃ posts : List Post, rows = posts.map Row.ofPost := by
  induction rows with
  | nil => exact ⟨[], rfl⟩
  | cons r rows ih =>
    rw [List.forall_mem_cons] at h
    obtain ⟨p, rfl⟩ := hs.exists_post r h.1
    obtain ⟨posts, rfl⟩ := ih h.2
    exact ⟨p :: posts, rfl⟩

theorem withStatus_sublist (s : Store) (status : Option Status) :
    (s.withStatus status).Sublist s.rows := by
  cases status with
  | none => exact List.Sublist.refl _
  | some status => exact List.filter_sublist

theorem Reachable.list_eq_ok (hs : s.Reachable) (status : Option Status) (limit offset : Nat)
    (sortBy : String) (direction : Direction) :
    ∃ posts, s.list status limit offset sortBy direction = .ok posts ∧ posts.map Row.ofPost =
      page limit offset (sortRows [listingKey sortBy] direction (s.withStatus status)) := by
  have hrows : ∀ r ∈ page limit offset (sortRows [listingKey sortBy] direction (s.withStatus status)),
      r ∈ s.rows := fun r hr =>
    (s.withStatus_sublist status).mem ((sortRows_perm _ _ _).mem_iff.1 (mem_of_mem_page hr))
  obtain ⟨posts, hposts⟩ := hs.exists_posts hrows
  refine ⟨posts, ?_, hposts.symm⟩
  rw [list, hposts, readRows_map_ofPost]

/-- A search of a reachable archive never fails for a row, and shows posts of its rows. -/
theorem Reachable.search_reads (hs : s.Reachable) (db : Engine) (request : SearchRequest) :
    (∀ e, s.search db request ≠ .error (.decode e)) ∧
      ∀ found, s.search db request = .ok found → ∀ p ∈ found.posts, Row.ofPost p ∈ s.rows := by
  refine ⟨search_ne_decode hs.decodes, fun found hfound p hp => ?_⟩
  obtain ⟨r, hr, rfl⟩ := mem_rows_of_search hs.decodes hfound p hp
  obtain ⟨p, rfl⟩ := hs.exists_post r hr
  rwa [Row.post_ofPost]

theorem Reachable.exists_search_eq_ok (hs : s.Reachable) {db : Engine} {request : SearchRequest}
    (h : db.Serves s request) : ∃ found, s.search db request = .ok found :=
  ⟨_, search_eq hs.decodes h⟩

end Store

/-- Reading the row of a post gives the post, and reading what the table keeps of it gives an equal post
if its real columns hold numbers.  In a reachable archive every listing reads the rows of its page, and
every search only rows of the archive: none fails for a row that it cannot read, and those that the
database and the matcher of tags do not refuse show a page. -/
theorem posts_are_read_back :
    (∀ p : Post, (Row.ofPost p).toPost = .ok p ∧
      (p.HasNumbers → ∃ q, (Row.ofPost p).stored.toPost = .ok q ∧ q.Equals p)) ∧
    ∀ s : Store, s.Reachable →
      (∀ status limit offset sortBy direction,
        ∃ posts, s.list status limit offset sortBy direction = .ok posts ∧ posts.map Row.ofPost =
          page limit offset (sortRows [listingKey sortBy] direction (s.withStatus status))) ∧
      ∀ (db : Engine) (request : SearchRequest),
        (∀ e, s.search db request ≠ .error (.decode e)) ∧
        (∀ found, s.search db request = .ok found → ∀ p ∈ found.posts, Row.ofPost p ∈ s.rows) ∧
        (db.Serves s request → ∃ found, s.search db request = .ok found) := by
  refine ⟨fun p => ⟨Row.toPost_ofPost p, fun h => ⟨p.kept, ?_, h.equals_kept⟩⟩, fun s hs => ⟨?_, ?_⟩⟩
  · rw [Row.stored_ofPost, Row.toPost_ofPost]
  · exact hs.list_eq_ok
  · intro db request
    obtain ⟨hdecode, hread⟩ := hs.search_reads db request
    exact ⟨hdecode, hread, hs.exists_search_eq_ok⟩

/-- A post first seen at minus zero whose tags need every kind of escape, saved after it was put into an
archive. -/
theorem posts_are_read_back_escaped :
    ∃ p : Post, p.tags = ["", "a\"b\\", "\x00\t,[]"] ∧ p.timestamp = .finite true 0 ∧ p.HasNumbers ∧
      (∃ q, (Row.ofPost p).stored.toPost = .ok q ∧ q.Equals p) ∧
      ∃ s : Store, s.Reachable ∧ s.count (some .saved) = 1 ∧
        (∃ posts, s.list (some .saved) 10 0 "score" .descending = .ok posts ∧ posts.map Row.ofPost =
          page 10 0 (sortRows [listingKey "score"] .descending (s.withStatus (some .saved)))) ∧
        Engine.usual.Serves s (.ofQuery Calendar.Date.epoch "a*") ∧
        ∃ found, s.search .usual (.ofQuery Calendar.Date.epoch "a*") = .ok found ∧
          ∀ p ∈ found.posts, Row.ofPost p ∈ s.rows := by
  let p := { Post.ofTags 1 ["", "a\"b\\", "\x00\t,[]"] with timestamp := .finite true 0 }
  have hp : p.HasNumbers := ⟨by decide, by decide⟩
  let s := ((Store.empty.put p).setStatus 1 .saved (some "2024-06-01")).toStore
  have hs : s.Reachable := .setStatus (.put .empty p) 1 .saved _
  have hserves : Engine.usual.Serves s (.ofQuery Calendar.Date.epoch "a*") :=
    ⟨by decide +kernel, fun _ _ _ _ => rfl⟩
  obtain ⟨hposts, harchives⟩ := posts_are_read_back
  obtain ⟨hlist, hsearch⟩ := harchives s hs
  obtain ⟨-, hread, hserved⟩ := hsearch .usual (.ofQuery Calendar.Date.epoch "a*")
  obtain ⟨found, hfound⟩ := hserved hserves
  exact ⟨p, rfl, rfl, hp, (hposts p).2 hp, s, hs, by decide +kernel,
    hlist (some .saved) 10 0 "score" .descending, hserves, found, hfound, hread found hfound⟩

end TagSearch

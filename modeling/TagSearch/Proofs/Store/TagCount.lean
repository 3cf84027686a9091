import TagSearch.Proofs.Predicate.TagRecall
import TagSearch.Proofs.Query.NormalForm
import TagSearch.Proofs.Query.TimeOfDay
import TagSearch.Proofs.Store.WordOrder
import TagSearch.Proofs.Text.Integers

/-!
# Counting tags by commas

The number of a row's tags is told from the commas of the tag list as it is written: one more than there
are.  A written list has a comma between any two tags and the commas of the tags themselves
(`count_encodeTexts`), for JSON escapes none of them, so the number is right exactly for a list that has a
tag and no comma in any of them (`toldCount_eq_length_iff`).

The query `tags:n` holds the number against `n` (`Filter.ofTerm_tagCountWord`), and the key of tag counts
sorts by it.  For posts whose tags can be counted so, both go by how many tags a post has
(`tag_count_is_length`).  A post without tags passes for one with one tag, and a comma within a tag for
one more (`tag_count_miscounts`).
-/

namespace TagSearch

open Text

/-! ## The commas of a tag list -/

namespace Json

theorem count_flatMap_congr {α : Type} {f g : α → List Char}
    (h : ∀ x, (f x).count ',' = (g x).count ',') (xs : List α) :
    (xs.flatMap f).count ',' = (xs.flatMap g).count ',' := by
  induction xs with
  | nil => rfl
  | cons x xs ih =>
    rw [List.flatMap_cons, List.flatMap_cons, List.count_append, List.count_append, h, ih]

theorem count_encodeChar (c : Char) : (encodeChar c).count ',' = [c].count ',' := by
  have hcontrol : ∀ n < 32, (encodeChar (Char.ofNat n)).count ',' = 0 ∧ Char.ofNat n ≠ ',' := by
    decide
  by_cases hplain : c ≠ '"' ∧ c ≠ '\\' ∧ 32 ≤ c.toNat
  · rw [encodeChar_eq_self hplain]
  · by_cases hquote : c = '"'
    · subst hquote
      decide
    by_cases hslash : c = '\\'
    · subst hslash
      decide
    have hc := hcontrol c.toNat (by
      by_contra hlarge
      exact hplain ⟨hquote, hslash, by omega⟩)
    rw [Char.ofNat_toNat] at hc
    rw [hc.1, List.count_singleton, if_neg (by simpa using hc.2)]

theorem count_encodeLiteral (cs : List Char) : (encodeLiteral cs).count ',' = cs.count ',' := by
  have hcontent : (cs.flatMap encodeChar).count ',' = cs.count ',' := by
    rw [count_flatMap_congr count_encodeChar, List.flatMap_singleton']
  rw [encodeLiteral, List.count_cons_of_ne (by decide), List.count_append, hcontent]
  rfl

theorem count_intercalate (texts : List (List Char)) :
    ([','].intercalate texts).count ',' = texts.flatten.count ',' + (texts.length - 1) := by
  induction texts with
  | nil => rfl
  | cons text texts ih =>
    cases texts with
    | nil =>
      rw [List.intercalate_singleton]
      simp
    | cons next texts =>
      rw [List.intercalate_cons_cons, List.count_append, List.count_append, ih,
        List.count_singleton_self]
      simp only [List.flatten_cons, List.count_append, List.length_cons]
      omega

theorem count_encodeTexts (texts : List (List Char)) :
    (encodeTexts texts).count ',' = texts.flatten.count ',' + (texts.length - 1) := by
  have hliterals : (texts.map encodeLiteral).flatten.count ',' = texts.flatten.count ',' := by
    rw [← List.flatMap_def, count_flatMap_congr count_encodeLiteral, List.flatMap_id']
  rw [encodeTexts, List.count_cons_of_ne (by decide), List.count_append, count_intercalate, hliterals,
    List.length_map]
  rfl

end Json

/-- The list has a tag, and no tag has a comma. -/
structure IsCountable (tags : List String) : Prop where
  nonempty : tags ≠ []
  noComma : ∀ tag ∈ tags, ',' ∉ tag.toList

/-- The number of tags that the commas of the written list tell. -/
def toldCount (tags : List String) : Nat :=
  ((tags.map String.toList).flatten.count ',' + (tags.length - 1)) + 1

/-- The commas tell the number of tags exactly if it can be told by them. -/
theorem toldCount_eq_length_iff {tags : List String} :
    toldCount tags = tags.length ↔ IsCountable tags := by
  have hnone : (tags.map String.toList).flatten.count ',' = 0 ↔ ∀ tag ∈ tags, ',' ∉ tag.toList := by
    rw [List.count_eq_zero, List.mem_flatten]
    simp
  have hlength : tags ≠ [] ↔ 0 < tags.length := List.length_pos_iff.symm
  unfold toldCount
  constructor
  · intro h
    exact ⟨hlength.2 (by omega), hnone.1 (by omega)⟩
  · rintro ⟨hne, hcomma⟩
    have hzero := hnone.2 hcomma
    have hpos := hlength.1 hne
    omega

/-- In a row the expression of the tag count comes to what the commas tell. -/
theorem Row.HoldsTags.eval_tagCount {r : Row} {tags : List String} (hr : r.HoldsTags tags)
    (today : Calendar.Date) : Scalar.tagCount.eval today r = .integer (toldCount tags) := by
  rw [TagSearch.eval_tagCount, Field.numberIn, hr, encodeTags, String.toList_ofList,
    untilNull_eq_self (Json.null_not_mem_encodeTexts _), Json.count_encodeTexts, List.length_map]
  rfl

/-! ## Numbers in cells -/

theorem compare_mul_right (m n : Int) {k : Int} (hk : 0 < k) : compare (m * k) (n * k) = compare m n := by
  rcases Int.lt_trichotomy m n with h | h | h
  · rw [Std.compare_eq_lt.2 h, Std.compare_eq_lt.2 (Int.mul_lt_mul_of_pos_right h hk)]
  · rw [h, Std.compare_self, Std.compare_self]
  · rw [Std.compare_eq_gt.2 h, Std.compare_eq_gt.2 (Int.mul_lt_mul_of_pos_right h hk)]

theorem Cell.order_integer (m n : Int) : (Cell.integer m).order (.integer n) = compare m n := by
  have hpositive (k : Nat) : (0 : Int) < (Double.powerOfTwo k : Int) :=
    Int.natCast_pos.2 (Nat.pow_pos (by decide))
  have hone : (0 : Int) < (Double.one : Int) := hpositive 1074
  exact compare_mul_right m n hone

theorem Condition.compareCells_integer (m n : Int) :
    compareCells .eq (.integer m) (.integer n) = .ofBool (m = n) := by
  show Truth.ofBool ((Cell.integer m).order (.integer n) == .eq) = _
  rw [Cell.order_integer]
  congr 1
  rw [Bool.eq_iff_iff, beq_iff_eq, Std.compare_eq_iff_eq, decide_eq_true_iff]

/-! ## The query of a tag count -/

/-- The word that asks for a number of tags. -/
def tagCountWord (n : Int) : String := "tags" ++ ":" ++ intText n

/-- The number of tags is so much. -/
def Filter.tagCountIs (n : Int) : Filter := ⟨.tagCount, .integer n, .compare .eq, false⟩

theorem intText_ne_empty (n : Int) : intText n ≠ "" := by
  have hne (m : Nat) : natText m ≠ "" := by
    simp [natText, Nat.toDigits_ne_nil]
  unfold intText
  split
  · simp
  · exact hne _

theorem isWhite_of_isDigit {c : Char} (h : c.isDigit = true) : isWhite c = false := by
  rw [Bool.eq_false_iff]
  intro hwhite
  have hdigit := Scan.eq_false_of_isWhite (p := Char.isDigit) (by decide +kernel) hwhite
  rw [h] at hdigit
  cases hdigit

theorem isPlain_of_mem_intText {n : Int} {c : Char} (hc : c ∈ (intText n).toList) :
    isGlyphChar c = false ∧ isWhite c = false ∧ c ≠ '*' ∧ c ≠ '(' ∧ c ≠ '|' := by
  rcases eq_or_isDigit_of_mem_intText hc with rfl | hdigit
  · decide
  · exact ⟨isGlyphChar_of_isDigit hdigit, isWhite_of_isDigit hdigit, ne_of_isDigit hdigit rfl,
      ne_of_isDigit hdigit rfl, ne_of_isDigit hdigit rfl⟩

theorem toList_tagCountWord (n : Int) :
    (tagCountWord n).toList = "tags:".toList ++ (intText n).toList := by
  simp [tagCountWord]

theorem isConjunct_tagCountWord (n : Int) : IsConjunct (tagCountWord n) := by
  have hchars : ∀ c ∈ (tagCountWord n).toList, isWhite c = false ∧ c ≠ '(' ∧ c ≠ '|' := by
    intro c hc
    rw [toList_tagCountWord] at hc
    rcases List.mem_append.1 hc with hc | hc
    · have hname : "tags:".toList.all (fun c => !isWhite c && c != '(' && c != '|') = true := by decide
      simpa [and_assoc] using List.all_eq_true.1 hname c hc
    · obtain ⟨-, hwhite, -, hopen, hbar⟩ := isPlain_of_mem_intText hc
      exact ⟨hwhite, hopen, hbar⟩
  refine ⟨fun c hc => (hchars c hc).1, fun hc => (hchars _ hc).2.1 rfl, fun hc => (hchars _ hc).2.2 rfl,
    ?_, ?_⟩
  · rw [toList_tagCountWord]
    rfl
  · rw [Bool.eq_false_iff]
    intro htime
    obtain ⟨d, rest, hsplit, hd⟩ := startsWithDigit_of_looksLikeTimeOfDay htime
    rw [toList_tagCountWord] at hsplit
    obtain rfl : 't' = d := (List.cons.inj hsplit).1
    cases hd

/-- An integer of the range is read as the number of tags. -/
theorem Filter.ofTerm_tagCountWord {n : Int} (hmin : int64Min ≤ n) (hmax : n ≤ int64Max) :
    ofTerm (tagCountWord n) = .ok (.tagCountIs n) := by
  have hfield : Field.ofName "tags" = .tagCount := by decide
  have hname : ∀ other, Field.ofName "tags" ≠ .unknown other := by
    intro other
    rw [hfield]
    simp
  have hglyph : HasNoGlyph (intText n).toList := fun c hc => (isPlain_of_mem_intText hc).1
  have hstar : (intText n).toList.contains '*' = false := by
    rw [Bool.eq_false_iff, ne_eq, List.contains_iff_mem]
    exact fun hc => (isPlain_of_mem_intText hc).2.2.1 rfl
  have htrim := trim_eq_self fun c hc => (isPlain_of_mem_intText (n := n) hc).2.1
  have hread : Field.readOperand .tagCount (intText n).toList =
      .ok (.compare .eq, .integer n) := by
    unfold Field.readOperand
    rw [hglyph.splitOperator]
    dsimp only
    rw [hstar, if_neg (by decide), readWhole, htrim, int64?_intText hmin hmax]
    rfl
  unfold tagCountWord
  rw [ofTerm_named hname (intText_ne_empty n), hfield, hread]
  rfl

theorem Row.HoldsTags.truth_tagCountIs {r : Row} {tags : List String} (hr : r.HoldsTags tags)
    (n : Int) (today : Calendar.Date) :
    (Filter.tagCountIs n).truth today r = .ofBool ((toldCount tags : Int) = n) := by
  rw [← Condition.truth_ofFilter]
  show Condition.compareCells .eq (Scalar.tagCount.eval today r) (.integer n) = _
  rw [hr.eval_tagCount, Condition.compareCells_integer]

/-! ## Rows by the number of their tags -/

/-- A search for a number of tags shows the rows with the status whose commas tell the number. -/
theorem Store.mem_shown_tagCountWord {s : Store} {db : Engine} (hdb : db.IsSound) (hs : s.Reachable)
    (request : SearchRequest) {n : Int} (hmin : int64Min ≤ n) (hmax : n ≤ int64Max) {r : Row}
    (hr : r ∈ s.rows) {tags : List String} (htags : r.HoldsTags tags) :
    r ∈ s.shown db (request.forWords [tagCountWord n]) ↔
      request.status.all (fun status => r.status = status.name) = true ∧ (toldCount tags : Int) = n := by
  have hwords : ∀ w ∈ [tagCountWord n], IsConjunct w := by
    simpa using isConjunct_tagCountWord n
  have hread : ([tagCountWord n].filter (· ≠ "")).mapM Filter.ofTerm = .ok [.tagCountIs n] := by
    have hne : tagCountWord n ≠ "" := by simp [tagCountWord]
    rw [List.filter_cons_of_pos (by simpa using hne), List.filter_nil, List.mapM_cons,
      Filter.ofTerm_tagCountWord hmin hmax]
    rfl
  obtain ⟨htree, -⟩ := request.translation_forWords hwords hread
  have hfound : ∀ q ∈ s.matching (request.forWords [tagCountWord n]),
      ∀ f ∈ (request.forWords [tagCountWord n]).translation.tree.leaves, f.IsFoundIn q := by
    intro q _ f hf
    rw [htree, Tree.leaves_conjunction, List.mem_singleton] at hf
    subst hf
    intro _ _
    trivial
  have hmet : (request.forWords [tagCountWord n]).translation.tree.isMetBy r = true := by
    refine isMetBy_of_matchRequirements_eq_nil ?_ (hs.decodes r hr)
    rw [htree]
    rfl
  rw [(shown_perm hdb hfound).mem_iff]
  unfold matching
  rw [List.mem_filter, Bool.and_eq_true, Bool.and_eq_true, hmet, htree, decide_eq_true_iff,
    Tree.truth_conjunction_eq_holds, List.forall_mem_singleton, htags.truth_tagCountIs,
    Truth.ofBool_eq_holds, decide_eq_true_iff]
  exact ⟨fun h => h.2.1, fun h => ⟨hr, h, rfl⟩⟩

theorem SortKey.order_tagCount {r q : Row} {tags others : List String} (hr : r.HoldsTags tags)
    (hq : q.HoldsTags others) : SortKey.tagCount.order r q = compare (toldCount tags) (toldCount others) := by
  have horder : SortKey.tagCount.order r q =
      (Scalar.tagCount.eval .epoch r).order (Scalar.tagCount.eval .epoch q) := rfl
  rw [horder, hr.eval_tagCount, hq.eval_tagCount, Cell.order_integer]
  rcases Nat.lt_trichotomy (toldCount tags) (toldCount others) with h | h | h
  · rw [Std.compare_eq_lt.2 h, Std.compare_eq_lt.2 (Int.ofNat_lt.2 h)]
  · rw [h, Std.compare_self, Std.compare_self]
  · rw [Std.compare_eq_gt.2 h, Std.compare_eq_gt.2 (Int.ofNat_lt.2 h)]

/-- In a reachable archive the expression of the tag count comes to the number of a post's tags exactly if
the post has a tag and no comma in any.  Then a search for a number of tags shows the post exactly if it
has so many, and the key of tag counts orders such posts by their numbers. -/
theorem tag_count_is_length {s : Store} {db : Engine} (hdb : db.IsSound) (hs : s.Reachable) :
    ∀ r ∈ s.rows, ∃ p, r.toPost = .ok p ∧
      (∀ today, Scalar.tagCount.eval today r = .integer p.tags.length ↔ IsCountable p.tags) ∧
      (IsCountable p.tags →
        (∀ (request : SearchRequest) (n : Int), int64Min ≤ n → n ≤ int64Max →
          (r ∈ s.shown db (request.forWords [tagCountWord n]) ↔
            request.status.all (fun status => r.status = status.name) = true ∧
              (p.tags.length : Int) = n)) ∧
        ∀ q ∈ s.rows, ∀ other, q.toPost = .ok other → IsCountable other.tags →
          SortKey.tagCount.order r q = compare p.tags.length other.tags.length) := by
  intro r hr
  obtain ⟨p, hp, -⟩ := (hs.decodes r hr).exists_toPost
  obtain ⟨tags, htags⟩ := hs.holdsTags r hr
  obtain rfl := htags.eq_of_toPost hp
  refine ⟨p, hp, fun today => ?_, fun hcountable => ⟨fun request n hmin hmax => ?_, ?_⟩⟩
  · rw [htags.eval_tagCount, ← toldCount_eq_length_iff, Cell.integer.injEq, Int.ofNat_inj]
  · rw [Store.mem_shown_tagCountWord hdb hs request hmin hmax hr htags,
      toldCount_eq_length_iff.2 hcountable]
  · intro q hq other hother hothers
    obtain ⟨tags, hqtags⟩ := hs.holdsTags q hq
    obtain rfl := hqtags.eq_of_toPost hother
    rw [SortKey.order_tagCount htags hqtags, toldCount_eq_length_iff.2 hcountable,
      toldCount_eq_length_iff.2 hothers]

/-- A post with two tags, one of which has a quotation mark, a backslash and a bracket, and a post with
one. -/
def countablePosts : Store :=
  (Store.empty.put (.ofTags 1 ["a\"\\]", "b"])).put (.ofTags 2 ["c"])

theorem tag_count_is_length_countablePosts :
    Engine.usual.IsSound ∧ countablePosts.Reachable ∧
      ∃ r ∈ countablePosts.rows, ∃ p, r.toPost = .ok p ∧ p.tags = ["a\"\\]", "b"] ∧
        IsCountable p.tags ∧ Scalar.tagCount.eval .epoch r = .integer 2 ∧
        r ∈ countablePosts.shown .usual (byNumber.forWords ["tags:2"]) ∧
        r ∉ countablePosts.shown .usual (byNumber.forWords ["tags:1"]) ∧
        ∃ q ∈ countablePosts.rows, SortKey.tagCount.order r q = .gt := by
  have hs : countablePosts.Reachable := (Store.Reachable.empty.put _).put _
  have hr : (Row.ofPost (.ofTags 1 ["a\"\\]", "b"])).stored ∈ countablePosts.rows := by decide +kernel
  have hq : (Row.ofPost (.ofTags 2 ["c"])).stored ∈ countablePosts.rows := by decide +kernel
  have hcountable : IsCountable ["a\"\\]", "b"] := ⟨by decide, by decide⟩
  obtain ⟨p, hp, heval, h⟩ := tag_count_is_length Engine.usual_isSound hs _ hr
  have htags : ["a\"\\]", "b"] = p.tags := (Row.holdsTags_ofPost _).eq_of_toPost hp
  rw [← htags] at heval h
  obtain ⟨hsearch, horder⟩ := h hcountable
  obtain ⟨other, hother, -⟩ := tag_count_is_length Engine.usual_isSound hs _ hq
  have hothers : ["c"] = other.tags := (Row.holdsTags_ofPost _).eq_of_toPost hother
  refine ⟨Engine.usual_isSound, hs, _, hr, p, hp, htags.symm, htags ▸ hcountable, (heval _).2 hcountable, ?_, ?_, _, hq, ?_⟩
  · exact (hsearch byNumber 2 (by decide) (by decide)).2 ⟨rfl, rfl⟩
  · intro hshown
    cases ((hsearch byNumber 1 (by decide) (by decide)).1 hshown).2
  · rw [horder _ hq other hother (hothers ▸ ⟨by decide, by decide⟩), ← hothers]
    rfl

/-- A post without tags, and one whose only tag has a comma. -/
def miscountedPosts : Store := (Store.empty.put (.ofTags 1 [])).put (.ofTags 2 ["a,b"])

/-- The first post passes for one with one tag, and the second for one with two. -/
theorem tag_count_miscounts :
    miscountedPosts.Reachable ∧
      miscountedPosts.rows.map (fun r => (r.toPost.toOption.map (·.tags), Scalar.tagCount.eval .epoch r)) =
        [(some [], .integer 1), (some ["a,b"], .integer 2)] ∧
      ∀ query ∈ [("tags:0", []), ("tags:1", [1]), ("tags:2", [2])],
        (miscountedPosts.search .usual (.ofQuery .epoch query.1)).map
          (fun page => page.posts.map Post.postId) = .ok query.2 := by
  have hs : miscountedPosts.Reachable := (Store.Reachable.empty.put _).put _
  have hanswers : ∀ query ∈ [("tags:0", []), ("tags:1", [1]), ("tags:2", [2])],
      (∀ q ∈ (SearchRequest.ofQuery .epoch query.1).statements, q.IsWithinLimits) ∧
        (page (SearchRequest.ofQuery .epoch query.1).pageSize 0
          ((miscountedPosts.shown .usual (.ofQuery .epoch query.1)).map Row.post)).map Post.postId =
            query.2 := by decide +kernel
  refine ⟨hs, by decide +kernel, fun query hquery => ?_⟩
  obtain ⟨hstatements, hposts⟩ := hanswers query hquery
  rw [hs.search_usual (SearchRequest.isWithinLimits_usual hstatements)]
  exact congrArg Except.ok hposts

end TagSearch

import TagSearch.Proofs.Predicate.TagFit

/-!
# Whole tags

The condition of a tag should find the posts with a tag that fits the term.  It finds others too: the
pattern has wildcards of its own, a run of characters may go on beyond the end of a tag, and an escaped
quotation mark is taken for the end of one.

`found_tags_fit_iff` says for which terms none of this happens, tags with escapes aside: those without
characters that a pattern takes for others, whose stars stand at the ends only, around a text that is
not the comma between two tags (`FindsWholeTags`).
-/

namespace TagSearch

/-- The row that is kept of the post satisfies the condition of the tag. -/
def Post.IsFoundByTag (p : Post) (today : Calendar.Date) (term : String) : Prop :=
  (Condition.ofFilter (.tag term false)).truth today (Row.ofPost p).stored = .holds

instance (p : Post) (today : Calendar.Date) (term : String) : Decidable (p.IsFoundByTag today term) :=
  inferInstanceAs (Decidable (_ = _))

/-- A text with stars in front of it and behind it. -/
def starred (before : Nat) (text : List Char) (after : Nat) : List Char :=
  List.replicate before '*' ++ (text ++ List.replicate after '*')

/-- The term finds whole tags: a pattern takes each of its characters for itself, and its stars stand
at its ends, around a text that is not a comma. -/
structure FindsWholeTags (term : List Char) : Prop where
  tight : ∀ c ∈ term, c ∉ looseChars
  stars : ∃ before text after, term = starred before text after ∧ '*' ∉ text ∧ text ≠ [',']

namespace Post

variable {p : Post} {today : Calendar.Date} {term : String}

theorem isFoundByTag_iff (hterm : Json.IsUnescaped term.toList) :
    p.IsFoundByTag today term ↔ ∃ before inside after,
      Json.encodeTexts (p.tags.map String.toList) = before ++ '"' :: (inside ++ '"' :: after) ∧
        fitsLike (percents term.toList) inside = true := by
  have hnull : '\x00' ∉ term.toList := by
    intro h
    have := (hterm _ h).2.2
    exact absurd this (by decide)
  exact truth_tag_eq_holds_iff hnull today rfl

end Post

/-! ## Terms that find whole tags -/

theorem FitsTag.quote_not_mem {term tag : List Char} (h : FitsTag term tag) (hstar : '*' ∉ term)
    (hquote : '"' ∉ term) : '"' ∉ tag := by
  intro hmem
  obtain ⟨c, hc, heq⟩ := h.exists_mem_term hstar hmem
  obtain rfl : c = '"' := eq_of_toLower_eq (by decide) heq
  exact hquote hc

section

variable {before after : Nat} {text : List Char}

theorem fitsTag_starred {tag : List Char} :
    FitsTag (starred before text after) tag ↔
      ∃ front inner back, tag = front ++ (inner ++ back) ∧ FitsTag text inner ∧
        (before = 0 → front = []) ∧ (after = 0 → back = []) := by
  rw [starred, fitsTag_append]
  constructor
  · rintro ⟨front, rest, rfl, hfront, hrest⟩
    obtain ⟨inner, back, rfl, hinner, hback⟩ := fitsTag_append.1 hrest
    exact ⟨front, inner, back, rfl, hinner, fitsTag_replicate.1 hfront, fitsTag_replicate.1 hback⟩
  · rintro ⟨front, inner, back, rfl, hinner, hfront, hback⟩
    exact ⟨front, inner ++ back, rfl, fitsTag_replicate.2 hfront, fitsTag_append.2
      ⟨inner, back, rfl, hinner, fitsTag_replicate.2 hback⟩⟩

theorem fitsTag_of_quote (hstar : '*' ∉ text) (hquote : '"' ∉ text) {left right : List Char}
    (h : FitsTag (starred before text after) (left ++ '"' :: right)) :
    FitsTag (starred before text after) left ∨ FitsTag (starred before text after) right := by
  obtain ⟨front, inner, back, heq, hinner, hfront, hback⟩ := fitsTag_starred.1 h
  have hnone := hinner.quote_not_mem hstar hquote
  rw [fitsTag_starred, fitsTag_starred]
  -- The mark stands in the run in front of the text or in the run behind it, never within the text.
  rcases List.append_eq_append_iff.1 heq with ⟨more, rfl, hmore⟩ | ⟨more, rfl, hmore⟩
  · cases more with
    | nil =>
      cases inner with
      | nil => exact .inl ⟨left, [], [], by simp, hinner, by simpa using hfront, fun _ => rfl⟩
      | cons c inner =>
        obtain rfl := (List.cons.inj hmore).1
        exact absurd List.mem_cons_self hnone
    | cons c more =>
      obtain ⟨rfl, rfl⟩ := List.cons.inj hmore
      refine .inr ⟨more, inner, back, rfl, hinner, fun h => ?_, hback⟩
      exact absurd (hfront h) (by simp)
  · rcases List.append_eq_append_iff.1 hmore with ⟨rest, rfl, hrest⟩ | ⟨rest, rfl, hrest⟩
    · refine .inl ⟨front, inner, rest, rfl, hinner, hfront, fun h => ?_⟩
      exact absurd (hback h) (by simp [hrest])
    · cases rest with
      | nil =>
        refine .inl ⟨front, more, [], by simp, by simpa using hinner, hfront, fun _ => rfl⟩
      | cons c rest =>
        obtain rfl := (List.cons.inj hrest).1
        exact absurd (List.mem_append_right _ List.mem_cons_self) hnone

/-- With stars at the ends only, what fits a text between quotation marks fits one of its parts. -/
theorem exists_fitsTag_of_parts (hstar : '*' ∉ text) (hquote : '"' ∉ text)
    {parts : List (List Char)} (hne : parts ≠ [])
    (h : FitsTag (starred before text after) (['"'].intercalate parts)) :
    ∃ part ∈ parts, FitsTag (starred before text after) part := by
  induction parts with
  | nil => exact absurd rfl hne
  | cons part parts ih =>
    cases parts with
    | nil => exact ⟨part, List.mem_cons_self, by rwa [List.intercalate_singleton] at h⟩
    | cons other parts =>
      rw [List.intercalate_cons_cons, List.append_assoc, List.singleton_append] at h
      rcases fitsTag_of_quote hstar hquote h with h | h
      · exact ⟨part, List.mem_cons_self, h⟩
      · obtain ⟨found, hmem, hfits⟩ := ih (List.cons_ne_nil _ _) h
        exact ⟨found, List.mem_cons_of_mem _ hmem, hfits⟩

theorem filter_starred (hstar : '*' ∉ text) :
    (starred before text after).filter (· != '*') = text := by
  have htext : text.filter (· != '*') = text := by
    rw [List.filter_eq_self]
    intro c hc
    rw [bne_iff_ne]
    rintro rfl
    exact hstar hc
  rw [starred, List.filter_append, List.filter_append, htext]
  simp

theorem eq_nil_or_comma_of_fitsTag (hstar : '*' ∉ text)
    (h : FitsTag (starred before text after) [',']) : text = [] ∨ text = [','] := by
  have hlength := h.length_le
  rw [filter_starred hstar] at hlength
  match text, hlength with
  | [], _ => exact .inl rfl
  | [c], _ =>
    obtain ⟨d, hd, heq⟩ := h.exists_mem (p := c) (by simp [starred]) (by rintro rfl; simp at hstar)
    obtain rfl := List.mem_singleton.1 hd
    obtain rfl : c = ',' := eq_of_toLower_eq (by decide) heq
    exact .inr rfl

end

theorem FindsWholeTags.exists_fitsTag {p : Post} {today : Calendar.Date} {term : String}
    (hwhole : FindsWholeTags term.toList) (hterm : Json.IsUnescaped term.toList)
    (htags : ∀ tag ∈ p.tags, Json.IsUnescaped tag.toList) (h : p.IsFoundByTag today term) :
    ∃ tag ∈ p.tags, FitsTag term.toList tag.toList := by
  obtain ⟨left, inside, right, htext, hfits⟩ := (Post.isFoundByTag_iff hterm).1 h
  have hinside := fitsTag_of_fitsLike hwhole.tight hfits
  have htexts : ∀ cs ∈ p.tags.map String.toList, Json.IsUnescaped cs := by
    intro cs hcs
    obtain ⟨tag, htag, rfl⟩ := List.mem_map.1 hcs
    exact htags tag htag
  obtain ⟨hne, parts, rfl, hparts, hall⟩ := Json.exists_parts_of_encodeTexts htexts htext
  obtain ⟨before, text, after, heq, hstar, hcomma⟩ := hwhole.stars
  have hquote : '"' ∉ text := by
    intro hmem
    have hmem : '"' ∈ term.toList := by simp [heq, starred, hmem]
    exact (hterm _ hmem).1 rfl
  rw [heq] at hinside ⊢
  obtain ⟨part, hpart, hfits⟩ := exists_fitsTag_of_parts hstar hquote hparts hinside
  rcases hall part hpart with rfl | hmem
  · -- Only stars take the comma between two tags, and these take every tag.
    obtain rfl := (eq_nil_or_comma_of_fitsTag hstar hfits).resolve_right hcomma
    obtain ⟨tag, htag⟩ := List.exists_mem_of_ne_nil p.tags (by simpa using hne)
    rw [starred, List.nil_append, List.replicate_append_replicate] at hfits ⊢
    refine ⟨tag, htag, fitsTag_replicate.2 fun h => ?_⟩
    exact absurd (fitsTag_replicate.1 hfits h) (by simp)
  · obtain ⟨tag, htag, rfl⟩ := List.mem_map.1 hmem
    exact ⟨tag, htag, hfits⟩

/-! ## Terms that do not -/

/-- Another character that a pattern takes for the character. -/
def standIn (c : Char) : Char :=
  if c = '%' ∨ c = '_' then 'x' else if c = '\ufffd' then '\ufffe' else '\ufffd'

/-- The term with another character in the place of one. -/
def withStandIn (c : Char) (term : List Char) : List Char :=
  term.map fun d => if d = c then standIn c else d

theorem standIn_of_mem_looseChars : ∀ c ∈ looseChars,
    standIn c ≠ c ∧ (standIn c ≠ '"' ∧ standIn c ≠ '\\' ∧ 32 ≤ (standIn c).toNat) ∧
      c ≠ '*' ∧ c.toLower = c ∧ c.isLower = false ∧
      (c = '%' ∨ c = '_' ∨ likeForm c = likeForm (standIn c)) := by
  intro c hc
  simp only [looseChars, List.mem_cons, List.not_mem_nil, or_false] at hc
  rcases hc with rfl | rfl | rfl | rfl | rfl
  all_goals decide

section

variable {c : Char} {term : List Char}

theorem fitsLike_withStandIn (hc : c ∈ looseChars) (term : List Char) :
    fitsLike (percents term) (withStandIn c term) = true := by
  obtain ⟨-, -, hstar, -, -, hlike⟩ := standIn_of_mem_looseChars c hc
  induction term with
  | nil => rfl
  | cons d term ih =>
    refine fitsLike_cons_cons ?_ ih
    by_cases hd : d = c
    · subst hd
      simpa [hstar] using hlike
    · by_cases hdstar : d = '*'
      · simp [hdstar]
      · simp [hd, hdstar]

theorem isUnescaped_withStandIn (hc : c ∈ looseChars) (h : Json.IsUnescaped term) :
    Json.IsUnescaped (withStandIn c term) := by
  intro d hd
  obtain ⟨e, he, rfl⟩ := List.mem_map.1 hd
  split
  · exact (standIn_of_mem_looseChars c hc).2.1
  · exact h e he

theorem not_fitsTag_withStandIn (hc : c ∈ looseChars) (hmem : c ∈ term) :
    ¬FitsTag term (withStandIn c term) := by
  obtain ⟨hne, -, hstar, hlower, hletter, -⟩ := standIn_of_mem_looseChars c hc
  intro h
  obtain ⟨d, hd, heq⟩ := h.exists_mem hmem hstar
  obtain rfl : d = c := eq_of_toLower_eq hletter (heq.symm.trans hlower)
  obtain ⟨e, -, he⟩ := List.mem_map.1 hd
  split at he
  · exact hne he
  · next hed => exact hed he

/-- The stars of a term stand at its ends, or one stands between two other characters. -/
theorem stars_at_ends_or_between (term : List Char) :
    (∃ before text after, term = starred before text after ∧ '*' ∉ text) ∨
    ∃ left right, term = left ++ '*' :: right ∧ left.filter (· != '*') ≠ [] ∧
      right.filter (· != '*') ≠ [] := by
  induction term with
  | nil => exact .inl ⟨0, [], 0, rfl, by simp⟩
  | cons c term ih =>
    rcases ih with ⟨before, text, after, rfl, hstar⟩ | ⟨left, right, rfl, hleft, hright⟩
    · by_cases hc : c = '*'
      · exact .inl ⟨before + 1, text, after, by simp [starred, hc, List.replicate_succ], hstar⟩
      · have hctext : '*' ∉ c :: text := by simp [Ne.symm hc, hstar]
        cases before with
        | zero => exact .inl ⟨0, c :: text, after, rfl, hctext⟩
        | succ before =>
          cases text with
          | nil =>
            refine .inl ⟨0, [c], before + 1 + after, ?_, by simpa using Ne.symm hc⟩
            simp [starred, List.replicate_append_replicate]
          | cons d text =>
            refine .inr ⟨[c], starred before (d :: text) after, by simp [starred, List.replicate_succ],
              by simp [hc], ?_⟩
            rw [filter_starred hstar]
            exact List.cons_ne_nil _ _
    · refine .inr ⟨c :: left, right, rfl, ?_, hright⟩
      intro h
      rw [List.filter_eq_nil_iff] at h
      exact hleft (List.filter_eq_nil_iff.2 fun d hd => h d (List.mem_cons_of_mem _ hd))

end

namespace Post

variable {today : Calendar.Date} {term tag other : String}

theorem isFoundByTag_of_tag (hterm : Json.IsUnescaped term.toList) (htag : Json.IsUnescaped tag.toList)
    (h : fitsLike (percents term.toList) tag.toList = true) (postId : Int) :
    (Post.ofTags postId [tag]).IsFoundByTag today term := by
  rw [isFoundByTag_iff hterm]
  refine ⟨['['], tag.toList, [']'], ?_, h⟩
  show Json.encodeTexts [tag.toList] = _
  rw [Json.encodeTexts_singleton htag]
  simp

theorem isFoundByTag_of_two_tags (hterm : Json.IsUnescaped term.toList)
    (htag : Json.IsUnescaped tag.toList) (hother : Json.IsUnescaped other.toList)
    (h : FitsTag term.toList (tag.toList ++ '"' :: ',' :: '"' :: other.toList)) (postId : Int) :
    (Post.ofTags postId [tag, other]).IsFoundByTag today term := by
  rw [isFoundByTag_iff hterm]
  refine ⟨['['], _, [']'], ?_, h.fitsLike⟩
  show Json.encodeTexts [tag.toList, other.toList] = _
  rw [Json.encodeTexts_pair htag hother]
  simp

theorem isFoundByTag_of_comma (hterm : Json.IsUnescaped term.toList)
    (htag : Json.IsUnescaped tag.toList) (hother : Json.IsUnescaped other.toList)
    (h : FitsTag term.toList [',']) (postId : Int) :
    (Post.ofTags postId [tag, other]).IsFoundByTag today term := by
  rw [isFoundByTag_iff hterm]
  refine ⟨'[' :: '"' :: tag.toList, [','], other.toList ++ ['"', ']'], ?_, h.fitsLike⟩
  show Json.encodeTexts [tag.toList, other.toList] = _
  rw [Json.encodeTexts_pair htag hother]
  simp

end Post

/-- The term finds only posts with a tag that fits it, among the posts whose tags JSON writes as they
are. -/
def FindsFittingTags (term : String) : Prop :=
  ∀ (p : Post) (today : Calendar.Date), (∀ tag ∈ p.tags, Json.IsUnescaped tag.toList) →
    p.IsFoundByTag today term → ∃ tag ∈ p.tags, FitsTag term.toList tag.toList

namespace FindsFittingTags

variable {term : String}

theorem tight (hterm : Json.IsUnescaped term.toList) (h : FindsFittingTags term) :
    ∀ c ∈ term.toList, c ∉ looseChars := by
  intro c hmem hc
  have hplain := isUnescaped_withStandIn hc hterm
  have hfound : (Post.ofTags 1 [String.ofList (withStandIn c term.toList)]).IsFoundByTag
      Calendar.Date.epoch term := by
    apply Post.isFoundByTag_of_tag hterm
    · rwa [String.toList_ofList]
    · rw [String.toList_ofList]
      exact fitsLike_withStandIn hc _
  obtain ⟨tag, htag, hfits⟩ := h _ _ (by simpa [Post.ofTags] using hplain) hfound
  obtain rfl := List.mem_singleton.1 htag
  rw [String.toList_ofList] at hfits
  exact not_fitsTag_withStandIn hc hmem hfits

theorem eq_nil_of_split (hterm : Json.IsUnescaped term.toList) (h : FindsFittingTags term)
    {left right : List Char} (heq : term.toList = left ++ '*' :: right)
    (hleft : left.filter (· != '*') ≠ []) : right.filter (· != '*') = [] := by
  by_contra hright
  obtain ⟨first, hfirst⟩ : ∃ tag : String, tag.toList = left.filter (· != '*') :=
    ⟨_, String.toList_ofList⟩
  obtain ⟨second, hsecond⟩ : ∃ tag : String, tag.toList = right.filter (· != '*') :=
    ⟨_, String.toList_ofList⟩
  have hfirstPlain : Json.IsUnescaped first.toList := by
    intro c hc
    rw [hfirst] at hc
    exact hterm c (by simp [heq, (List.mem_filter.1 hc).1])
  have hsecondPlain : Json.IsUnescaped second.toList := by
    intro c hc
    rw [hsecond] at hc
    exact hterm c (by simp [heq, (List.mem_filter.1 hc).1])
  -- The two sides are tags of their own, and the star takes what stands between them.
  have hacross : FitsTag term.toList (first.toList ++ '"' :: ',' :: '"' :: second.toList) := by
    rw [heq, hfirst, hsecond]
    exact (FitsTag.withoutStars left).append (.star ['"', ',', '"'] (FitsTag.withoutStars right))
  have hfound : (Post.ofTags 1 [first, second]).IsFoundByTag Calendar.Date.epoch term :=
    Post.isFoundByTag_of_two_tags hterm hfirstPlain hsecondPlain hacross 1
  have hplain : ∀ tag ∈ [first, second], Json.IsUnescaped tag.toList := by
    simpa using ⟨hfirstPlain, hsecondPlain⟩
  obtain ⟨tag, htag, hfits⟩ := h _ _ hplain hfound
  -- Either is too short for the whole term.
  have hlength := hfits.length_le
  rw [heq, List.filter_append, List.filter_cons_of_neg (by simp), List.length_append, ← hfirst,
    ← hsecond] at hlength
  have hfirstLength : 0 < first.toList.length := List.length_pos_iff.2 (hfirst ▸ hleft)
  have hsecondLength : 0 < second.toList.length := List.length_pos_iff.2 (hsecond ▸ hright)
  obtain rfl | rfl : tag = first ∨ tag = second := by simpa [Post.ofTags] using htag
  · omega
  · omega

theorem ne_comma (hterm : Json.IsUnescaped term.toList) (h : FindsFittingTags term)
    {before after : Nat} {text : List Char} (heq : term.toList = starred before text after) :
    text ≠ [','] := by
  rintro rfl
  have hcomma : FitsTag term.toList [','] := by
    rw [heq, fitsTag_starred]
    exact ⟨[], [','], [], rfl, .withoutStars [','], fun _ => rfl, fun _ => rfl⟩
  have hfound : (Post.ofTags 1 ["a", "b"]).IsFoundByTag Calendar.Date.epoch term :=
    Post.isFoundByTag_of_comma hterm (by decide) (by decide) hcomma 1
  have hplain : ∀ tag ∈ ["a", "b"], Json.IsUnescaped tag.toList := by decide
  obtain ⟨tag, htag, hfits⟩ := h _ _ hplain hfound
  have hmem : ',' ∈ term.toList := by simp [heq, starred]
  have hnone : ∀ tag ∈ ["a", "b"], tag.toList.all (','.toLower != ·.toLower) = true := by decide
  exact FitsTag.not_of_all hmem (by decide) (hnone tag htag) hfits

end FindsFittingTags

/-- For a term that JSON writes as it is: it finds only posts with a tag that fits it, tags with escapes
aside, exactly if a pattern takes its characters for themselves and its stars stand at its ends, around
a text that is not a comma. -/
theorem found_tags_fit_iff {term : String} (hterm : Json.IsUnescaped term.toList) :
    FindsFittingTags term ↔ FindsWholeTags term.toList := by
  constructor
  · intro h
    refine ⟨h.tight hterm, ?_⟩
    rcases stars_at_ends_or_between term.toList with
      ⟨before, text, after, heq, hstar⟩ | ⟨left, right, heq, hleft, hright⟩
    · exact ⟨before, text, after, heq, hstar, h.ne_comma hterm heq⟩
    · exact absurd (h.eq_nil_of_split hterm heq hleft) hright
  · intro hwhole p today htags hfound
    exact hwhole.exists_fitsTag hterm htags hfound

/-- The term `blue*` finds only posts with a tag that starts so. -/
theorem found_tags_fit_blue :
    Json.IsUnescaped "blue*".toList ∧ FindsWholeTags "blue*".toList ∧ FindsFittingTags "blue*" := by
  have hterm : Json.IsUnescaped "blue*".toList := by decide
  have htight : "blue*".toList.all (!looseChars.contains ·) = true := by decide
  have hwhole : FindsWholeTags "blue*".toList := by
    refine ⟨fun c hc => ?_, 0, "blue".toList, 1, by decide, by decide, by decide⟩
    simpa using List.all_eq_true.1 htight c hc
  exact ⟨hterm, hwhole, (found_tags_fit_iff hterm).2 hwhole⟩

/-- The term `long_hair` finds a post whose only tag is `longxhair`, and `cat` one whose only tag ends
in a quotation mark and `cat`; neither tag fits its term. -/
theorem found_by_other_tags :
    ((Post.ofTags 1 ["longxhair"]).IsFoundByTag Calendar.Date.epoch "long_hair" ∧
      ¬∃ tag ∈ ["longxhair"], FitsTag "long_hair".toList tag.toList) ∧
    ((Post.ofTags 1 ["x\"cat"]).IsFoundByTag Calendar.Date.epoch "cat" ∧
      ¬∃ tag ∈ ["x\"cat"], FitsTag "cat".toList tag.toList) := by
  refine ⟨⟨by decide +kernel, ?_⟩, ⟨by decide +kernel, ?_⟩⟩
  · rintro ⟨tag, htag, hfits⟩
    obtain rfl := List.mem_singleton.1 htag
    have hmem : '_' ∈ "long_hair".toList := by decide
    exact FitsTag.not_of_all hmem (by decide) (by decide) hfits
  · rintro ⟨tag, htag, hfits⟩
    obtain rfl := List.mem_singleton.1 htag
    obtain ⟨p, hp, hlower⟩ := hfits.exists_mem_term (c := '"') (by decide) (by decide)
    have hnone : "cat".toList.all (·.toLower != '"'.toLower) = true := by decide
    exact absurd hlower (by simpa using List.all_eq_true.1 hnone p hp)

end TagSearch

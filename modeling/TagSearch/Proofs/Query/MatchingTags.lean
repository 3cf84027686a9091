import Mathlib.Data.Set.Card
import TagSearch.Query.TagPattern

/-!
# Counting matching tags

What a query demands of the number of matching tags is told here without any order or algorithm: the
tags that it asks for are the texts of its tag leaves that are not negated (`Tree.AsksFor`), a tag is one
of them if it fits the whole text (`FitsWhole`), and every comparison of the query must relate the number
of those that are among a post's tags to its threshold (`Comparison.Relates`), or must not if it is
negated.

1. Fitting a pattern is fitting its pieces between the stars, one after the other (`fitsWhole_iff`), and
   `tagFits` decides it (`tagFits_iff`).
2. The tags that a tree asks for are listed without repetition (`mem_positiveTags`,
   `nodup_positiveTags`), so they are counted once each.

`matching_tags_are_counted` puts this together for every tree.
-/

namespace TagSearch

open Text

/-! ## Patterns of tags -/

/-- The whole tag fits the pattern: a `*` stands for any run of characters but line feeds, and every
other character for itself up to simple case folding. -/
inductive FitsWhole : List Char → List Char → Prop
  | nil : FitsWhole [] []
  | run {pattern run rest : List Char} (hrun : '\n' ∉ run) (h : FitsWhole pattern rest) :
      FitsWhole ('*' :: pattern) (run ++ rest)
  | char {p c : Char} {pattern rest : List Char} (hp : p ≠ '*') (hc : fold p = fold c)
      (h : FitsWhole pattern rest) : FitsWhole (p :: pattern) (c :: rest)

/-- The text is the pieces in their order, up to simple case folding, with a run of characters but line
feeds between any two of them. -/
inductive JoinsPieces : List (List Char) → List Char → Prop
  | last {piece text : List Char} (h : piece.map fold = text.map fold) : JoinsPieces [piece] text
  | cons {piece text run rest : List Char} {pieces : List (List Char)}
      (h : piece.map fold = text.map fold) (hrun : '\n' ∉ run) (hrest : JoinsPieces pieces rest) :
      JoinsPieces (piece :: pieces) (text ++ (run ++ rest))

theorem fitsWhole_nil {tag : List Char} : FitsWhole [] tag ↔ tag = [] := by
  constructor
  · rintro ⟨⟩
    rfl
  · rintro rfl
    exact .nil

theorem fitsWhole_star {pattern tag : List Char} :
    FitsWhole ('*' :: pattern) tag ↔
      ∃ run rest, run ++ rest = tag ∧ '\n' ∉ run ∧ FitsWhole pattern rest := by
  constructor
  · intro h
    cases h with
    | run hrun h => exact ⟨_, _, rfl, hrun, h⟩
    | char hp => exact absurd rfl hp
  · rintro ⟨run, rest, rfl, hrun, h⟩
    exact .run hrun h

theorem fitsWhole_char {p : Char} (hp : p ≠ '*') {pattern tag : List Char} :
    FitsWhole (p :: pattern) tag ↔
      ∃ c rest, tag = c :: rest ∧ fold p = fold c ∧ FitsWhole pattern rest := by
  constructor
  · intro h
    cases h with
    | run => exact absurd rfl hp
    | char _ hc h => exact ⟨_, _, rfl, hc, h⟩
  · rintro ⟨c, rest, rfl, hc, h⟩
    exact .char hp hc h

/-- The last `*` of several in a row takes the whole run, so it makes no difference that the others are
passed over. -/
theorem tagFits_iff (pattern tag : List Char) : tagFits pattern tag = true ↔ FitsWhole pattern tag := by
  induction pattern generalizing tag with
  | nil => rw [fitsWhole_nil, tagFits, List.isEmpty_iff]
  | cons p pattern ih =>
    by_cases hp : p = '*'
    · subst hp
      simp only [tagFits_star, fitsWhole_star, ih]
    · rw [fitsWhole_char hp]
      cases tag with
      | nil => simp [tagFits, hp]
      | cons c rest => simp [tagFits, hp, ih]

theorem joinsPieces_cons {p : Char} {piece tag : List Char} {pieces : List (List Char)} :
    JoinsPieces ((p :: piece) :: pieces) tag ↔
      ∃ c rest, tag = c :: rest ∧ fold p = fold c ∧ JoinsPieces (piece :: pieces) rest := by
  constructor
  · intro h
    cases h with
    | last h =>
      cases tag with
      | nil => cases h
      | cons c rest =>
        obtain ⟨hc, hrest⟩ := List.cons.inj h
        exact ⟨c, rest, rfl, hc, .last hrest⟩
    | @cons _ text _ _ _ h hrun hrest =>
      cases text with
      | nil => cases h
      | cons c text =>
        obtain ⟨hc, htext⟩ := List.cons.inj h
        exact ⟨c, _, rfl, hc, .cons htext hrun hrest⟩
  · rintro ⟨c, rest, rfl, hc, h⟩
    have hfirst (text : List Char) (h : piece.map fold = text.map fold) :
        (p :: piece).map fold = (c :: text).map fold := by rw [List.map_cons, List.map_cons, hc, h]
    cases h with
    | last h => exact .last (hfirst rest h)
    | @cons _ text _ _ _ h hrun hrest => exact .cons (hfirst text h) hrun hrest

theorem joinsPieces_nil_cons {piece tag : List Char} {pieces : List (List Char)} :
    JoinsPieces ([] :: piece :: pieces) tag ↔
      ∃ run rest, run ++ rest = tag ∧ '\n' ∉ run ∧ JoinsPieces (piece :: pieces) rest := by
  constructor
  · intro h
    cases h with
    | @cons _ text run rest _ h hrun hrest =>
      obtain rfl : text = [] := by simpa using h.symm
      exact ⟨run, rest, rfl, hrun, hrest⟩
  · rintro ⟨run, rest, rfl, hrun, h⟩
    have hempty : ([] : List Char).map fold = ([] : List Char).map fold := rfl
    exact .cons hempty hrun h

/-- A tag fits a pattern if it is the pieces between the pattern's stars, with runs between them. -/
theorem fitsWhole_iff (pattern tag : List Char) :
    FitsWhole pattern tag ↔ JoinsPieces (pattern.splitOn '*') tag := by
  induction pattern generalizing tag with
  | nil =>
    rw [fitsWhole_nil, List.splitOn_nil]
    constructor
    · rintro rfl
      exact .last rfl
    · intro h
      cases h with
      | last h => simpa using h.symm
      | cons _ _ hrest => cases hrest
  | cons p pattern ih =>
    obtain ⟨piece, pieces, hsplit⟩ := List.exists_cons_of_ne_nil (List.splitOn_ne_nil '*' pattern)
    rw [hsplit] at ih
    by_cases hp : p = '*'
    · subst hp
      have hstar : ('*' :: pattern).splitOn '*' = [] :: piece :: pieces := by
        rw [List.splitOn, List.splitOnP_cons_eq_if_modifyHead, if_pos (by simp)]
        exact congrArg _ hsplit
      simp only [hstar, fitsWhole_star, joinsPieces_nil_cons, ih]
    · have hchar : (p :: pattern).splitOn '*' = (p :: piece) :: pieces := by
        rw [List.splitOn, List.splitOnP_cons_eq_if_modifyHead, if_neg (by simpa using hp)]
        rw [List.splitOn] at hsplit
        rw [hsplit, List.modifyHead_cons]
      simp only [hchar, fitsWhole_char hp, joinsPieces_cons, ih]

/-! ## The tags that a tree asks for -/

theorem nodup_eraseDups {α : Type} [BEq α] [LawfulBEq α] : (xs : List α) → xs.eraseDups.Nodup
  | [] => by simp
  | x :: xs => by
    rw [List.eraseDups_cons, List.nodup_cons, List.mem_eraseDups]
    exact ⟨by simp, nodup_eraseDups _⟩
termination_by xs => xs.length
decreasing_by exact Nat.lt_succ_of_le (List.length_filter_le _ _)

/-- The tree has a tag leaf with the text that is not negated. -/
def Tree.AsksFor (t : Tree Filter) (name : String) : Prop :=
  ∃ operator, ⟨.tag, .text name, operator, false⟩ ∈ t.leaves

/-- The tree has a leaf that compares the number of matching tags with a whole number. -/
def Tree.Compares (t : Tree Filter) (c : Comparison) (n : Int) (negated : Bool) : Prop :=
  ⟨.matchingTags, .integer n, .compare c, negated⟩ ∈ t.leaves

theorem mem_positiveTags {t : Tree Filter} {name : String} :
    name ∈ t.positiveTags ↔ t.AsksFor name := by
  unfold Tree.positiveTags Tree.AsksFor
  rw [List.mem_eraseDups, List.mem_filterMap]
  constructor
  · rintro ⟨⟨field, value, operator, negated⟩, hf, hname⟩
    dsimp only at hname
    split at hname
    · split at hname
      · cases hname
      · next hnegated =>
        obtain rfl : negated = false := by simpa using hnegated
        cases hname
        exact ⟨operator, hf⟩
    · cases hname
  · rintro ⟨operator, hf⟩
    exact ⟨_, hf, rfl⟩

theorem nodup_positiveTags (t : Tree Filter) : t.positiveTags.Nodup := nodup_eraseDups _

theorem Filter.matchRequirement?_eq_some_iff {f : Filter} {r : MatchRequirement} :
    f.matchRequirement? = some r ↔
      f = ⟨.matchingTags, .integer r.threshold, .compare r.comparison, r.negated⟩ := by
  constructor
  · intro h
    unfold matchRequirement? at h
    split at h
    · next hfield hoperator hvalue =>
      cases h
      obtain ⟨field, value, operator, negated⟩ := f
      subst hfield hoperator hvalue
      rfl
    · cases h
  · rintro rfl
    rfl

theorem mem_matchRequirements {t : Tree Filter} {r : MatchRequirement} :
    r ∈ t.matchRequirements ↔ t.Compares r.comparison r.threshold r.negated := by
  unfold Tree.matchRequirements Tree.Compares
  simp only [List.mem_filterMap, Filter.matchRequirement?_eq_some_iff, exists_eq_right]

/-! ## Comparing the number -/

/-- How a comparison relates two numbers. -/
def Comparison.Relates : Comparison → Int → Int → Prop
  | .eq, a, b => a = b
  | .ne, a, b => a ≠ b
  | .lt, a, b => a < b
  | .le, a, b => a ≤ b
  | .gt, a, b => b < a
  | .ge, a, b => b ≤ a

theorem Comparison.holds_compare (c : Comparison) (a b : Int) :
    c.holds (some (compare a b)) = true ↔ c.Relates a b := by
  rcases Int.lt_trichotomy a b with h | h | h
  · rw [Std.compare_eq_lt.2 h]
    cases c <;> simp [holds, Relates] <;> omega
  · rw [Std.compare_eq_iff_eq.2 h]
    cases c <;> simp [holds, Relates] <;> omega
  · rw [Std.compare_eq_gt.2 h]
    cases c <;> simp [holds, Relates] <;> omega

theorem MatchRequirement.isSatisfied_iff (r : MatchRequirement) (count : Int) :
    r.isSatisfied count = true ↔ (r.comparison.Relates count r.threshold ↔ r.negated = false) := by
  rw [← Comparison.holds_compare, isSatisfied, Comparison.negatedIf]
  cases r.negated with
  | true =>
    rw [if_pos rfl, Comparison.holds_complement]
    simp
  | false => simp

/-! ## Demands -/

/-- The tags of a query that are among those of a post are counted once each. -/
theorem TagDemand.count_positiveTags (t : Tree Filter) (requirements : List MatchRequirement)
    (tags : List String) :
    (TagDemand.mk t.positiveTags requirements).count tags =
      {name : String | t.AsksFor name ∧ ∃ tag ∈ tags, FitsWhole name.toList tag.toList}.ncard := by
  let isCounted (name : String) : Bool := tags.any fun tag => tagFits name.toList tag.toList
  have hset : {name : String | t.AsksFor name ∧ ∃ tag ∈ tags, FitsWhole name.toList tag.toList} =
      ((t.positiveTags.filter isCounted).toFinset : Set String) := by
    ext name
    simp [isCounted, mem_positiveTags, tagFits_iff]
  rw [hset, Set.ncard_coe_finset, List.toFinset_card_of_nodup ((nodup_positiveTags t).filter _),
    ← List.countP_eq_length_filter]
  rfl

/-- A tree that compares the number of matching tags makes a demand.  It counts the tags that the tree asks
for, each of them once, if a tag of the post fits the whole of it, which is to say that the tag is its
pieces between the stars with runs between them.  The demand is met exactly if every comparison of the
tree relates that number to its threshold, except that a negated one must not. -/
theorem matching_tags_are_counted (t : Tree Filter) (ht : ∃ c n negated, t.Compares c n negated) :
    (∀ name tag : String, FitsWhole name.toList tag.toList ↔
      JoinsPieces (name.toList.splitOn '*') tag.toList) ∧
    ∃ demand, TagDemand.ofTree? t = some demand ∧ ∀ tags : List String,
      demand.count tags =
        {name : String | t.AsksFor name ∧ ∃ tag ∈ tags, FitsWhole name.toList tag.toList}.ncard ∧
      (demand.isMet tags = true ↔ ∀ c n negated, t.Compares c n negated →
        (c.Relates (demand.count tags) n ↔ negated = false)) := by
  refine ⟨fun name tag => fitsWhole_iff _ _, ⟨t.positiveTags, t.matchRequirements⟩, ?_, ?_⟩
  · obtain ⟨c, n, negated, h⟩ := ht
    have hmem : (⟨c, n, negated⟩ : MatchRequirement) ∈ t.matchRequirements := mem_matchRequirements.2 h
    unfold TagDemand.ofTree?
    split
    · next hnil => simp [hnil] at hmem
    · rfl
  · refine fun tags => ⟨TagDemand.count_positiveTags t _ tags, ?_⟩
    rw [TagDemand.isMet, List.all_eq_true]
    simp only [MatchRequirement.isSatisfied_iff]
    exact ⟨fun h c n negated hc => h ⟨c, n, negated⟩ (mem_matchRequirements.2 hc),
      fun h r hr => h _ _ _ (mem_matchRequirements.1 hr)⟩

/-- Alternatives that ask for a tag twice, with a star and a character that means much elsewhere; at least
two tags are to match, but not three. -/
def starredTags : Tree Filter :=
  .and [
    .or [.leaf (.tag "c++" false), .leaf (.tag "*_Hair" false), .leaf (.tag "c++" false)],
    .leaf (.tag "dog" true),
    .leaf ⟨.matchingTags, .integer 2, .compare .ge, false⟩,
    .leaf ⟨.matchingTags, .integer 3, .compare .eq, true⟩]

theorem matching_tags_are_counted_starredTags :
    (∃ c n negated, starredTags.Compares c n negated) ∧
      ∃ demand, TagDemand.ofTree? starredTags = some demand ∧ ∀ tags : List String,
        demand.count tags = {name : String | starredTags.AsksFor name ∧
          ∃ tag ∈ tags, FitsWhole name.toList tag.toList}.ncard ∧
        (demand.isMet tags = true ↔ ∀ c n negated, starredTags.Compares c n negated →
          (c.Relates (demand.count tags) n ↔ negated = false)) := by
  have h : ∃ c n negated, starredTags.Compares c n negated := by
    refine ⟨.ge, 2, false, ?_⟩
    unfold Tree.Compares
    decide
  exact ⟨h, (matching_tags_are_counted starredTags h).2⟩

/-- Of three tags asked for, two are different, and each fits a tag of the post. -/
example : (TagDemand.mk starredTags.positiveTags starredTags.matchRequirements).isMet
    ["C++", "red_hair", "dog"] = true := by decide +kernel

end TagSearch

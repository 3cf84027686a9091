import Mathlib.Data.List.TakeWhile
import TagSearch.Proofs.Json.Unescaped
import TagSearch.Proofs.Predicate.Like
import TagSearch.Proofs.Predicate.TreeTruth

/-!
# Tags that fit a term

`FitsTag` says when a tag is meant by a term: `*` stands for any run of characters, and every other
character for itself, ASCII letter case aside.  The database is asked for something else.  It holds the
whole text of a tag list against a pattern in which only `*` became a wildcard, and that pattern has
wildcards of its own.

A tag that fits a term fits the pattern (`FitsTag.fitsLike`), and the converse holds where the term has
none of the characters that a pattern takes for others (`fitsTag_of_fitsLike`).  The condition of a tag
looks for such a text between two quotation marks, wherever they stand (`truth_tag_eq_holds_iff`).
-/

namespace TagSearch

/-- The second text, a tag, fits the first, a term: a star takes any run of characters, and every other
character one that differs from it in ASCII letter case at most. -/
inductive FitsTag : List Char → List Char → Prop
  | nil : FitsTag [] []
  | star (run : List Char) {term tag : List Char} (h : FitsTag term tag) :
    FitsTag ('*' :: term) (run ++ tag)
  | char {p c : Char} {term tag : List Char} (hp : p ≠ '*') (hc : p.toLower = c.toLower)
    (h : FitsTag term tag) : FitsTag (p :: term) (c :: tag)

namespace FitsTag

variable {term other tag text : List Char}

theorem append (h : FitsTag term tag) (hother : FitsTag other text) :
    FitsTag (term ++ other) (tag ++ text) := by
  induction h with
  | nil => exact hother
  | star run _ ih =>
    rw [List.append_assoc]
    exact .star run ih
  | char hp hc _ ih => exact .char hp hc ih

theorem withoutStars (term : List Char) : FitsTag term (term.filter (· != '*')) := by
  induction term with
  | nil => exact .nil
  | cons p term ih =>
    by_cases hp : p = '*'
    · subst hp
      exact .star [] ih
    · rw [List.filter_cons_of_pos (by simpa using hp)]
      exact .char hp rfl ih

theorem exists_mem (h : FitsTag term tag) {p : Char} (hmem : p ∈ term) (hp : p ≠ '*') :
    ∃ c ∈ tag, p.toLower = c.toLower := by
  induction h with
  | nil => cases hmem
  | star run _ ih =>
    rcases List.mem_cons.1 hmem with rfl | hmem
    · exact absurd rfl hp
    · obtain ⟨c, hc, heq⟩ := ih hmem
      exact ⟨c, List.mem_append_right _ hc, heq⟩
  | char _ hc _ ih =>
    rcases List.mem_cons.1 hmem with rfl | hmem
    · exact ⟨_, List.mem_cons_self, hc⟩
    · obtain ⟨c, hc, heq⟩ := ih hmem
      exact ⟨c, List.mem_cons_of_mem _ hc, heq⟩

theorem not_of_all {p : Char} (hmem : p ∈ term) (hp : p ≠ '*')
    (h : tag.all (p.toLower != ·.toLower) = true) : ¬FitsTag term tag := by
  intro hfits
  obtain ⟨c, hc, heq⟩ := hfits.exists_mem hmem hp
  exact absurd heq (by simpa using List.all_eq_true.1 h c hc)

theorem exists_mem_term (h : FitsTag term tag) (hstar : '*' ∉ term) {c : Char} (hc : c ∈ tag) :
    ∃ p ∈ term, p.toLower = c.toLower := by
  induction h with
  | nil => cases hc
  | star run _ ih => exact absurd List.mem_cons_self hstar
  | char _ heq _ ih =>
    rcases List.mem_cons.1 hc with rfl | hc
    · exact ⟨_, List.mem_cons_self, heq⟩
    · obtain ⟨p, hp, heq⟩ := ih (fun h => hstar (List.mem_cons_of_mem _ h)) hc
      exact ⟨p, List.mem_cons_of_mem _ hp, heq⟩

theorem length_le (h : FitsTag term tag) : (term.filter (· != '*')).length ≤ tag.length := by
  induction h with
  | nil => exact Nat.le_refl 0
  | star run _ ih =>
    rw [List.filter_cons_of_neg (by simp), List.length_append]
    omega
  | char hp _ _ ih =>
    rw [List.filter_cons_of_pos (by simpa using hp), List.length_cons, List.length_cons]
    omega

end FitsTag

theorem fitsTag_append {first second tag : List Char} :
    FitsTag (first ++ second) tag ↔
      ∃ front back, front ++ back = tag ∧ FitsTag first front ∧ FitsTag second back := by
  constructor
  · intro h
    induction first generalizing tag with
    | nil => exact ⟨[], tag, rfl, .nil, h⟩
    | cons p first ih =>
      cases h with
      | star run h =>
        obtain ⟨front, back, rfl, hfront, hback⟩ := ih h
        exact ⟨run ++ front, back, List.append_assoc .., .star run hfront, hback⟩
      | char hp hc h =>
        obtain ⟨front, back, rfl, hfront, hback⟩ := ih h
        exact ⟨_ :: front, back, rfl, .char hp hc hfront, hback⟩
  · rintro ⟨front, back, rfl, hfront, hback⟩
    exact hfront.append hback

theorem fitsTag_replicate {n : Nat} {tag : List Char} :
    FitsTag (List.replicate n '*') tag ↔ (n = 0 → tag = []) := by
  induction n generalizing tag with
  | zero =>
    constructor
    · rintro ⟨⟩ _
      rfl
    · intro h
      rw [h rfl]
      exact .nil
  | succ n ih =>
    refine ⟨fun _ h => absurd h (Nat.succ_ne_zero n), fun _ => ?_⟩
    have hnil : FitsTag (List.replicate n '*') [] := ih.2 fun _ => rfl
    rw [List.replicate_succ]
    simpa using hnil.star tag

/-! ## Terms and patterns -/

/-- The characters of a term as those of a pattern. -/
def percents (term : List Char) : List Char := term.map fun c => if c == '*' then '%' else c

theorem toList_tagPattern (name : String) :
    (tagPattern name).toList = '%' :: '"' :: (percents name.toList ++ ['"', '%']) := by
  simp [tagPattern, starsToPercents, percents, String.toList_append]

theorem fitsLike_cons {p : Char} (hp : p ≠ '%') {pattern text : List Char} :
    fitsLike (p :: pattern) text = true ↔
      ∃ c rest, text = c :: rest ∧ (p = '_' ∨ likeForm p = likeForm c) ∧
        fitsLike pattern rest = true := by
  rw [fitsLike.eq_def]
  cases text with
  | nil => simp [hp]
  | cons c rest =>
    constructor
    · intro h
      exact ⟨c, rest, rfl, by simpa [hp] using h⟩
    · rintro ⟨d, others, heq, h⟩
      cases heq
      simpa [hp] using h

theorem fitsLike_cons_cons {p c : Char} {pattern text : List Char}
    (h : p = '%' ∨ p = '_' ∨ likeForm p = likeForm c) (htext : fitsLike pattern text = true) :
    fitsLike (p :: pattern) (c :: text) = true := by
  by_cases hp : p = '%'
  · rw [hp, fitsLike_percent]
    exact ⟨[c], text, rfl, htext⟩
  · rw [fitsLike_cons hp]
    exact ⟨c, text, rfl, h.resolve_left hp, htext⟩

theorem fitsLike_append {first second text : List Char} :
    fitsLike (first ++ second) text = true ↔
      ∃ front back, front ++ back = text ∧ fitsLike first front = true ∧
        fitsLike second back = true := by
  induction first generalizing text with
  | nil =>
    constructor
    · intro h
      exact ⟨[], text, rfl, rfl, h⟩
    · rintro ⟨front, back, rfl, hfront, hback⟩
      rwa [List.isEmpty_iff.1 hfront]
  | cons p first ih =>
    by_cases hp : p = '%'
    · subst hp
      rw [List.cons_append, fitsLike_percent]
      constructor
      · rintro ⟨run, rest, rfl, h⟩
        obtain ⟨front, back, rfl, hfront, hback⟩ := ih.1 h
        exact ⟨run ++ front, back, List.append_assoc .., (fitsLike_percent ..).2 ⟨run, front, rfl, hfront⟩,
          hback⟩
      · rintro ⟨front, back, rfl, hfront, hback⟩
        obtain ⟨run, rest, rfl, h⟩ := (fitsLike_percent ..).1 hfront
        exact ⟨run, rest ++ back, (List.append_assoc ..).symm, ih.2 ⟨rest, back, rfl, h, hback⟩⟩
    · rw [List.cons_append, fitsLike_cons hp]
      constructor
      · rintro ⟨c, rest, rfl, hc, h⟩
        obtain ⟨front, back, rfl, hfront, hback⟩ := ih.1 h
        exact ⟨c :: front, back, rfl, (fitsLike_cons hp).2 ⟨c, front, rfl, hc, hfront⟩, hback⟩
      · rintro ⟨front, back, rfl, hfront, hback⟩
        obtain ⟨c, rest, rfl, hc, h⟩ := (fitsLike_cons hp).1 hfront
        exact ⟨c, rest ++ back, rfl, hc, ih.2 ⟨rest, back, rfl, h, hback⟩⟩

theorem likeForm_eq_of_toLower_eq {p c : Char} (h : p.toLower = c.toLower) :
    likeForm p = likeForm c := by
  -- The two code points that are not compared as themselves are the lower case of no other character.
  have hspecial {p c : Char} (hp : p = '\ufffe' ∨ p = '\uffff') (h : p.toLower = c.toLower) :
      c = p := by
    rcases hp with rfl | rfl
    · exact eq_of_toLower_eq (by decide) h.symm
    · exact eq_of_toLower_eq (by decide) h.symm
  by_cases hp : p = '\ufffe' ∨ p = '\uffff'
  · rw [hspecial hp h]
  · by_cases hc : c = '\ufffe' ∨ c = '\uffff'
    · rw [hspecial hc h.symm]
    · rw [not_or] at hp hc
      simp [likeForm, hp, hc, h]

/-- A tag that fits a term fits the term's pattern. -/
theorem FitsTag.fitsLike {term tag : List Char} (h : FitsTag term tag) :
    TagSearch.fitsLike (percents term) tag = true := by
  induction h with
  | nil => rfl
  | star run _ ih => exact (fitsLike_percent ..).2 ⟨run, _, rfl, ih⟩
  | @char p c term tag hp hc _ ih =>
    have hstar : (p == '*') = false := by simpa using hp
    rw [percents, List.map_cons, hstar]
    exact fitsLike_cons_cons (.inr (.inr (likeForm_eq_of_toLower_eq hc))) ih

/-- The characters that a pattern takes for others. -/
def looseChars : List Char := ['%', '_', '\ufffd', '\ufffe', '\uffff']

/-- A text that fits the pattern of a term without such characters fits the term. -/
theorem fitsTag_of_fitsLike {term tag : List Char} (hterm : ∀ c ∈ term, c ∉ looseChars)
    (h : fitsLike (percents term) tag = true) : FitsTag term tag := by
  induction term generalizing tag with
  | nil =>
    rw [List.isEmpty_iff.1 h]
    exact .nil
  | cons p term ih =>
    have hrest : ∀ c ∈ term, c ∉ looseChars := fun c hc => hterm c (List.mem_cons_of_mem _ hc)
    by_cases hp : p = '*'
    · subst hp
      obtain ⟨run, rest, rfl, hfits⟩ := (fitsLike_percent ..).1 h
      exact .star run (ih hrest hfits)
    · have htight := hterm p List.mem_cons_self
      simp only [looseChars, List.mem_cons, List.not_mem_nil, or_false, not_or] at htight
      obtain ⟨hpercent, hunderscore, h₁, h₂, h₃⟩ := htight
      have hstar : (p == '*') = false := by simpa using hp
      rw [percents, List.map_cons, hstar] at h
      obtain ⟨c, rest, rfl, hone, hfits⟩ := (fitsLike_cons hpercent).1 h
      have hform := hone.resolve_left hunderscore
      have hconfusable : isConfusable p = false := by simp [isConfusable, h₁, h₂, h₃]
      exact .char hp (toLower_eq_of_likeForm_eq hform.symm hconfusable).symm (ih hrest hfits)

/-! ## The condition of a tag -/

theorem fitsLike_quote {pattern text : List Char} :
    fitsLike ('"' :: pattern) text = true ↔
      ∃ rest, text = '"' :: rest ∧ fitsLike pattern rest = true := by
  have hquote {c : Char} (h : likeForm '"' = likeForm c) : c = '"' :=
    eq_of_toLower_eq (by decide) (toLower_eq_of_likeForm_eq h.symm (by decide))
  rw [fitsLike_cons (by decide)]
  constructor
  · rintro ⟨c, rest, rfl, hc, h⟩
    obtain rfl := hquote (hc.resolve_left (by decide))
    exact ⟨rest, rfl, h⟩
  · rintro ⟨rest, rfl, h⟩
    exact ⟨'"', rest, rfl, .inr rfl, h⟩

/-- What fits the pattern of a tag holds, between two of its quotation marks, a text that fits the
term. -/
theorem fitsLike_tagPattern {term text : List Char} :
    fitsLike ('%' :: '"' :: (percents term ++ ['"', '%'])) text = true ↔
      ∃ before inside after, text = before ++ '"' :: (inside ++ '"' :: after) ∧
        fitsLike (percents term) inside = true := by
  have hany (after : List Char) : fitsLike ['%'] after = true :=
    (fitsLike_percent ..).2 ⟨after, [], List.append_nil after, rfl⟩
  rw [fitsLike_percent]
  constructor
  · rintro ⟨before, rest, rfl, h⟩
    obtain ⟨rest, rfl, h⟩ := fitsLike_quote.1 h
    obtain ⟨inside, rest, rfl, hinside, h⟩ := fitsLike_append.1 h
    obtain ⟨after, rfl, -⟩ := fitsLike_quote.1 h
    exact ⟨before, inside, after, rfl, hinside⟩
  · rintro ⟨before, inside, after, rfl, hinside⟩
    exact ⟨before, _, rfl, fitsLike_quote.2 ⟨_, rfl, fitsLike_append.2
      ⟨inside, _, rfl, hinside, fitsLike_quote.2 ⟨after, rfl, hany after⟩⟩⟩⟩

theorem null_not_mem_tagPattern {name : String} (h : '\x00' ∉ name.toList) :
    '\x00' ∉ (tagPattern name).toList := by
  have hpercents : '\x00' ∉ percents name.toList := by
    rw [percents, List.mem_map]
    rintro ⟨c, hc, heq⟩
    split at heq
    · exact absurd heq (by decide)
    · exact h (heq ▸ hc)
  rw [toList_tagPattern]
  simp [hpercents]

theorem untilNull_eq_self {cs : List Char} (h : '\x00' ∉ cs) : untilNull cs = cs := by
  rw [untilNull, List.takeWhile_eq_self_iff]
  intro c hc
  rw [bne_iff_ne]
  rintro rfl
  exact h hc

theorem likeCells_text (text pattern : String) :
    Condition.likeCells (.text text) (.text pattern) = .ofBool (isLike text pattern) := rfl

theorem truth_tag (today : Calendar.Date) (row : Row) (name : String) (negated : Bool) :
    (Condition.ofFilter (.tag name negated)).truth today row =
      (Condition.likeCells (.text row.tags) (.text (tagPattern name))).notIf negated :=
  Condition.truth_like today row negated (.column .tags) (.parameter (.text (tagPattern name)))

/-- The condition of a tag holds of a row whose tag list has, between two of its quotation marks, a text
that fits the term's pattern. -/
theorem truth_tag_eq_holds_iff {name : String} (hname : '\x00' ∉ name.toList)
    (today : Calendar.Date) {row : Row} {tags : List String} (htags : row.tags = encodeTags tags) :
    (Condition.ofFilter (.tag name false)).truth today row = .holds ↔
      ∃ before inside after,
        Json.encodeTexts (tags.map String.toList) = before ++ '"' :: (inside ++ '"' :: after) ∧
          fitsLike (percents name.toList) inside = true := by
  rw [truth_tag, likeCells_text, Truth.notIf_false, Truth.ofBool_eq_holds, isLike,
    untilNull_eq_self (null_not_mem_tagPattern hname), htags, encodeTags, String.toList_ofList,
    untilNull_eq_self (Json.null_not_mem_encodeTexts _), toList_tagPattern, fitsLike_tagPattern]

end TagSearch

import TagSearch.Proofs.Predicate.TagFit
import TagSearch.Proofs.Store.Reachable

/-!
# Every fitting tag is found

The condition of a tag may find posts without a tag that fits the term, but it misses none that has one
(`tag_search_misses_nothing`), whatever else stands in the tag list and whatever JSON had to escape in
it.  The term itself must need no escapes.

JSON escapes no letter, so a character that fits one of the term's is written as it is, and an escape
lies within the run of a star: a tag that fits the term still fits it when it is written
(`FitsTag.flatMap_encodeChar`).  In the tag list the written tag stands between quotation marks, where
the condition looks for it.
-/

namespace TagSearch

/-! ## Tags that are written with escapes -/

theorem Json.no_letter_of_encodeChar_ne {c : Char} (h : encodeChar c ≠ [c]) :
    c.toLower = c ∧ c.isLower = false := by
  have hcontrol : ∀ n < 32, (Char.ofNat n).toLower = Char.ofNat n ∧
      (Char.ofNat n).isLower = false := by decide
  by_cases hquote : c = '"'
  · subst hquote
    decide
  by_cases hslash : c = '\\'
  · subst hslash
    decide
  by_cases hc : c.toNat < 32
  · have := hcontrol c.toNat hc
    rwa [Char.ofNat_toNat] at this
  · exact absurd (encodeChar_eq_self ⟨hquote, hslash, by omega⟩) h

/-- A character that JSON writes as it is, is told from those that it escapes without regard to letter
case. -/
theorem Json.encodeChar_of_toLower_eq {p c : Char} (hp : encodeChar p = [p])
    (h : p.toLower = c.toLower) : encodeChar c = [c] := by
  by_contra hc
  obtain ⟨hlower, hletter⟩ := no_letter_of_encodeChar_ne hc
  obtain rfl : p = c := eq_of_toLower_eq hletter (h.trans hlower)
  exact hc hp

/-- A tag that fits a term without escapes fits it as JSON writes the tag. -/
theorem FitsTag.flatMap_encodeChar {term tag : List Char} (h : FitsTag term tag)
    (hterm : Json.IsUnescaped term) : FitsTag term (tag.flatMap Json.encodeChar) := by
  induction h with
  | nil => exact .nil
  | star run _ ih =>
    rw [List.flatMap_append]
    exact .star _ (ih fun c hc => hterm c (List.mem_cons_of_mem _ hc))
  | char hp hc _ ih =>
    have hself := Json.encodeChar_eq_self (hterm _ List.mem_cons_self)
    rw [List.flatMap_cons, Json.encodeChar_of_toLower_eq hself hc, List.singleton_append]
    exact .char hp hc (ih fun c hc => hterm c (List.mem_cons_of_mem _ hc))

/-! ## The condition of a tag -/

/-- The row holds the text of the tag list. -/
def Row.HoldsTags (r : Row) (tags : List String) : Prop := r.tags = encodeTags tags

section

variable {r : Row} {tags : List String} {term : String}

theorem Row.HoldsTags.truth_tag_eq_holds (hr : r.HoldsTags tags)
    (hterm : Json.IsUnescaped term.toList) (h : ∃ tag ∈ tags, FitsTag term.toList tag.toList)
    (today : Calendar.Date) : (Condition.ofFilter (.tag term false)).truth today r = .holds := by
  obtain ⟨tag, htag, hfits⟩ := h
  have hnull : '\x00' ∉ term.toList := fun hmem => absurd (hterm _ hmem).2.2 (by decide)
  obtain ⟨before, after, heq⟩ := Json.exists_literal_of_mem (List.mem_map_of_mem (f := String.toList) htag)
  rw [truth_tag_eq_holds_iff hnull today hr]
  exact ⟨before, _, after, heq, (hfits.flatMap_encodeChar hterm).fitsLike⟩

theorem truth_negated_tag_eq_fails {today : Calendar.Date}
    (h : (Condition.ofFilter (.tag term false)).truth today r = .holds) :
    (Condition.ofFilter (.tag term true)).truth today r = .fails := by
  rw [truth_tag, Truth.notIf_false] at h
  rw [truth_tag, h]
  rfl

end

/-! ## The rows of an archive -/

theorem Row.holdsTags_ofPost (p : Post) : (Row.ofPost p).stored.HoldsTags p.tags := rfl

theorem Row.HoldsTags.eq_of_toPost {r : Row} {tags : List String} (h : r.HoldsTags tags) {p : Post}
    (hp : r.toPost = .ok p) : tags = p.tags := by
  unfold Row.toPost at hp
  rw [h, decodeTags?_encodeTags] at hp
  split at hp
  · cases hp
  · injection hp with hp
    rw [← hp]

theorem Store.Reachable.holdsTags {s : Store} (hs : s.Reachable) :
    ∀ r ∈ s.rows, ∃ tags, r.HoldsTags tags :=
  hs.forall_rows (fun p => ⟨p.tags, Row.holdsTags_ofPost p⟩) fun _ _ _ hr => hr

/-- For a term that JSON writes as it is: the row that is kept of a post with a tag that fits the term
satisfies the condition of the tag and fails that of its negation, when the post is put into an archive
and for as long as the row stands in it. -/
theorem tag_search_misses_nothing {term : String} (hterm : Json.IsUnescaped term.toList)
    (today : Calendar.Date) :
    (∀ p : Post, (∃ tag ∈ p.tags, FitsTag term.toList tag.toList) →
      (Condition.ofFilter (.tag term false)).truth today (Row.ofPost p).stored = .holds ∧
      (Condition.ofFilter (.tag term true)).truth today (Row.ofPost p).stored = .fails) ∧
    ∀ s : Store, s.Reachable → ∀ r ∈ s.rows, ∀ p : Post, r.toPost = .ok p →
      (∃ tag ∈ p.tags, FitsTag term.toList tag.toList) →
        (Condition.ofFilter (.tag term false)).truth today r = .holds ∧
        (Condition.ofFilter (.tag term true)).truth today r = .fails := by
  have hfound {r : Row} {tags : List String} (hr : r.HoldsTags tags)
      (h : ∃ tag ∈ tags, FitsTag term.toList tag.toList) :
      (Condition.ofFilter (.tag term false)).truth today r = .holds ∧
      (Condition.ofFilter (.tag term true)).truth today r = .fails :=
    have hholds := hr.truth_tag_eq_holds hterm h today
    ⟨hholds, truth_negated_tag_eq_fails hholds⟩
  refine ⟨fun p h => hfound (Row.holdsTags_ofPost p) h, ?_⟩
  intro s hs r hr p hp h
  obtain ⟨tags, htags⟩ := hs.holdsTags r hr
  obtain rfl := htags.eq_of_toPost hp
  exact hfound htags h

/-- A post in an archive, one of whose tags has quotation marks and a backslash, is found for the term
`sky*1*`. -/
theorem tag_search_misses_nothing_sky :
    Json.IsUnescaped "sky*1*".toList ∧ ∃ p : Post, p.tags = ["SKY\\blue \"1\"", "x\ny"] ∧
      (∃ tag ∈ p.tags, FitsTag "sky*1*".toList tag.toList) ∧
      ∃ s : Store, s.Reachable ∧ ∃ r ∈ s.rows, r.toPost = .ok p ∧
        (Condition.ofFilter (.tag "sky*1*" false)).truth Calendar.Date.epoch r = .holds ∧
        (Condition.ofFilter (.tag "sky*1*" true)).truth Calendar.Date.epoch r = .fails := by
  have hterm : Json.IsUnescaped "sky*1*".toList := by decide
  have hrest : FitsTag ['1', '*'] ['1', '"'] := .char (by decide) (by decide) (.star ['"'] .nil)
  have hfits : FitsTag "sky*1*".toList "SKY\\blue \"1\"".toList :=
    .char (by decide) (by decide) (.char (by decide) (by decide) (.char (by decide) (by decide)
      (.star "\\blue \"".toList hrest)))
  let p := Post.ofTags 7 ["SKY\\blue \"1\"", "x\ny"]
  have htag : ∃ tag ∈ p.tags, FitsTag "sky*1*".toList tag.toList := ⟨_, List.mem_cons_self, hfits⟩
  have hs : (Store.empty.put p).Reachable := .put .empty p
  have hr : (Row.ofPost p).stored ∈ (Store.empty.put p).rows := List.mem_singleton_self _
  have hp : (Row.ofPost p).stored.toPost = .ok p := by decide +kernel
  exact ⟨hterm, p, rfl, htag, _, hs, _, hr, hp,
    (tag_search_misses_nothing hterm Calendar.Date.epoch).2 _ hs _ hr _ hp htag⟩

end TagSearch

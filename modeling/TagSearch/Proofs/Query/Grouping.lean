import Mathlib.Data.List.Induction
import TagSearch.Proofs.Query.Scan

/-!
# Parentheses between spaces

A parenthesis that stands between spaces is glued to no word and belongs to no `name:value` run, so
only one thing keeps it from marking a group: that the scan still reads a value.  A space outside
groups ends a value and a space inside a group does not, so within a group everything behind a value
is read as a part of it, parentheses included.

`spaced_parenthesis_groups_iff` is the exact condition.  `value_leaves_group_open` is a group that its
closing parenthesis does not end.
-/

namespace TagSearch

open Text

namespace Scan

/-- The tokens that reading a character of a query gives, between what stands before and behind. -/
def found (before : List Char) (c : Char) (after : List Char) : List Token :=
  ((start.run (c :: after) before).2.step c after).1

/-- The number of groups that the tokens before some point of a query leave open. -/
def openGroups (before rest : List Char) : Nat :=
  let tokens := (start.run rest before).1
  tokens.count .groupStart - tokens.count .groupEnd

/-- Some colon stands directly behind an alphanumeric character, and every space behind the colon
lies inside a group. -/
def IsInValue (before rest : List Char) : Prop :=
  ∃ front x back, before = front ++ x :: ':' :: back ∧ isAlphanumeric x = true ∧
    ∀ b₁ b₂, back = b₁ ++ ' ' :: b₂ →
      0 < openGroups (front ++ x :: ':' :: b₁) (' ' :: (b₂ ++ rest))

/-- The tokens of a query around one of its characters. -/
theorem ofQuery_eq_found (before : List Char) (c : Char) (after : List Char) :
    ∃ more, Token.ofQuery (String.ofList (before ++ c :: after)) =
      (start.run (c :: after) before).1 ++ found before c after ++ more := by
  refine ⟨((start.run (c :: after) before).2.step c after).2.tokens after, ?_⟩
  rw [Token.ofQuery, String.toList_ofList, tokens_append, List.append_assoc]
  rfl

theorem openGroups_eq_depth (before rest : List Char) :
    openGroups before rest = (start.run rest before).2.depth := by
  have := Token.count_of_depthAfter (start.depthAfter_run rest before)
  have hstart : start.depth = 0 := rfl
  unfold openGroups
  simp only
  omega

/-! ## When a value is being read -/

theorem isAligned_run (before rest : List Char) : (start.run rest before).2.IsAligned := by
  rcases List.eq_nil_or_concat before with rfl | ⟨cs, c, rfl⟩
  · rfl
  · rw [List.concat_eq_append, run_concat]
    exact (reading _ c rest).isAligned

theorem past_run (s : Scan) (rest cs : List Char) :
    (s.run rest cs).2.past = cs.reverse ++ s.past := by
  induction cs generalizing s with
  | nil => rfl
  | cons c cs ih =>
    simp only [run, ih, (reading s c (cs ++ rest)).past, List.reverse_cons, List.append_assoc,
      List.singleton_append]

theorem endsAlphanumeric_run (before rest : List Char) :
    endsAlphanumeric (start.run rest before).2.pending = endsAlphanumeric before := by
  rw [isAligned_run before rest, past_run, show start.past = [] from rfl, List.append_nil,
    List.head?_reverse]
  rfl

theorem isInValue_concat (before : List Char) (c : Char) (rest : List Char) :
    IsInValue (before ++ [c]) rest ↔
      (c = ':' ∧ endsAlphanumeric before = true) ∨
        (IsInValue before (c :: rest) ∧ (c = ' ' → 0 < openGroups before (c :: rest))) := by
  constructor
  · rintro ⟨front, x, back, hsplit, hx, hspaces⟩
    rcases List.eq_nil_or_concat back with rfl | ⟨back, d, rfl⟩
    · left
      have h : before ++ [c] = (front ++ [x]) ++ [':'] := by simpa using hsplit
      obtain ⟨rfl, hc⟩ := List.append_inj' h rfl
      exact ⟨by simpa using hc, by simp [endsAlphanumeric, hx]⟩
    · right
      have h : before ++ [c] = (front ++ x :: ':' :: back) ++ [d] := by simpa using hsplit
      obtain ⟨rfl, hc⟩ := List.append_inj' h rfl
      obtain rfl : c = d := by simpa using hc
      refine ⟨⟨front, x, back, rfl, hx, fun b₁ b₂ hb => ?_⟩, fun hc => ?_⟩
      · have := hspaces b₁ (b₂ ++ [c]) (by simp [hb])
        simpa using this
      · have := hspaces back [] (by simp [hc])
        simpa [hc] using this
  · rintro (⟨rfl, hlast⟩ | ⟨⟨front, x, back, rfl, hx, hspaces⟩, hopen⟩)
    · rcases List.eq_nil_or_concat before with rfl | ⟨front, x, rfl⟩
      · simp [endsAlphanumeric] at hlast
      · refine ⟨front, x, [], by simp, by simpa [endsAlphanumeric] using hlast, fun b₁ b₂ hb => ?_⟩
        simp at hb
    · refine ⟨front, x, back ++ [c], by simp, hx, fun b₁ b₂ hb => ?_⟩
      rcases List.eq_nil_or_concat b₂ with rfl | ⟨b₂, d, rfl⟩
      · obtain ⟨rfl, hc⟩ := List.append_inj' hb rfl
        obtain rfl : c = ' ' := by simpa using hc
        simpa using hopen rfl
      · have h : back ++ [c] = (b₁ ++ ' ' :: b₂) ++ [d] := by simpa using hb
        obtain ⟨rfl, hc⟩ := List.append_inj' h rfl
        obtain rfl : c = d := by simpa using hc
        simpa using hspaces b₁ b₂ rfl

/-- The scan reads a value exactly where the text says so. -/
theorem inValue_run_iff (before rest : List Char) :
    (start.run rest before).2.inValue = true ↔ IsInValue before rest := by
  induction before using List.reverseRecOn generalizing rest with
  | nil =>
    constructor
    · intro h
      cases h
    · rintro ⟨front, x, back, h, -⟩
      simp at h
  | append_singleton before c ih =>
    rw [isInValue_concat, run_concat, (reading _ c rest).inValue, ← ih, openGroups_eq_depth, valueAfter,
      ← endsAlphanumeric_run before (c :: rest)]
    unfold endsAlphanumeric
    -- The last character is a colon that begins a value, a space outside groups, or neither.
    split
    · next h => exact ⟨fun _ => .inl h, fun _ => rfl⟩
    · next h =>
      rw [or_iff_right h]
      split
      · next hc =>
        constructor
        · intro hf
          cases hf
        · intro hv
          have hd := hv.2 hc.1
          omega
      · next hc =>
        simp only [not_and] at hc
        exact ⟨fun hv => ⟨hv, fun hs => Nat.pos_of_ne_zero (hc hs)⟩, fun hv => hv.1⟩

/-! ## A parenthesis behind a space -/

theorem endsInWord_of_trim {cs : List Char} (h : trim cs = []) : endsInWord cs = false := by
  unfold endsInWord
  cases hl : cs.getLast? with
  | none => rfl
  | some c =>
    have hw : isWhite c = true := trim_eq_nil_iff.1 h c (List.mem_of_getLast? hl)
    have hu : c ≠ '_' := by
      rintro rfl
      exact absurd hw (by decide)
    simp [isWordChar, isAlphanumeric_of_isWhite hw, hu]

theorem hasOpenParenthesis_of_trim {cs : List Char} (h : trim cs = []) :
    hasOpenParenthesis cs = false := by
  have : cs.count '(' = 0 := by
    rw [List.count_eq_zero]
    intro hm
    exact absurd (trim_eq_nil_iff.1 h _ hm) (by decide)
  simp [hasOpenParenthesis, this]

/-- In front of a parenthesis a space ends the term being read, whether inside a group or not. -/
theorem Reading.trim_pending {s s' : Scan} {rest : List Char} {ts : List Token} {mark : Char}
    (hmark : mark = '(' ∨ mark = ')') (h : Reading s ' ' (mark :: rest) ts s') :
    trim s'.pending = [] := by
  have hends : s.endsAtSpace (mark :: rest) = true := by
    rcases hmark with rfl | rfl <;> simp [endsAtSpace, isStructural]
  cases h with
  | keep _ _ space =>
    have := (space rfl).1
    rw [hends] at this
    cases this
  | blank _ _ empty => exact empty
  | space => exact s.trim_pending_flush
  | separator hsep => simp at hsep
  | start hopen => cases hopen
  | startInside hopen => cases hopen
  | finish hclose => cases hclose

/-- Behind a space, or at the start, only a value keeps an opening parenthesis in the term. -/
theorem keepsOpening_run {before after : List Char} (h : before.getLast?.all (· == ' ') = true) :
    (start.run ('(' :: after) before).2.keepsOpening =
      (start.run ('(' :: after) before).2.inValue := by
  rcases List.eq_nil_or_concat before with rfl | ⟨cs, c, rfl⟩
  · rfl
  · obtain rfl : c = ' ' := by simpa using h
    rw [List.concat_eq_append, run_concat]
    have hr := reading (start.run (' ' :: '(' :: after) cs).2 ' ' ('(' :: after)
    have hword := endsInWord_of_trim (hr.trim_pending (.inl rfl))
    have hfield : endsInField ((start.run (' ' :: '(' :: after) cs).2.step ' ' ('(' :: after)).2.past
        = false := by
      rw [hr.past]
      rfl
    simp [keepsOpening, hword, hfield]

/-- Between spaces inside a group only a value keeps a closing parenthesis in the term. -/
theorem keepsClosing_run {before after : List Char} (hb : before.getLast?.all (· == ' ') = true)
    (ha : after.head?.all (· == ' ') = true) (hd : 0 < openGroups before (')' :: after)) :
    (start.run (')' :: after) before).2.keepsClosing after =
      (start.run (')' :: after) before).2.inValue := by
  rw [openGroups_eq_depth] at hd
  have hnext : after.head?.any isWordChar = false := by
    cases after with
    | nil => rfl
    | cons c cs =>
      obtain rfl : c = ' ' := by simpa using ha
      have hspace : isWordChar ' ' = false := by decide
      simp [hspace]
  rcases List.eq_nil_or_concat before with rfl | ⟨cs, c, rfl⟩
  · cases hd
  · obtain rfl : c = ' ' := by simpa using hb
    rw [List.concat_eq_append, run_concat] at hd ⊢
    have hr := reading (start.run (' ' :: ')' :: after) cs).2 ' ' (')' :: after)
    have hparen := hasOpenParenthesis_of_trim (hr.trim_pending (.inr rfl))
    have hfield : endsInField
        (')' :: ((start.run (' ' :: ')' :: after) cs).2.step ' ' (')' :: after)).2.past) = false := by
      rw [hr.past]
      rfl
    have hdepth : ((start.run (' ' :: ')' :: after) cs).2.step ' ' (')' :: after)).2.depth ≠ 0 :=
      Nat.pos_iff_ne_zero.1 hd
    simp [keepsClosing, hparen, hfield, hnext, hdepth]

theorem Reading.getLast?_opening {s s' : Scan} {rest : List Char} {ts : List Token}
    (h : Reading s '(' rest ts s') : ts.getLast? = some .groupStart ↔ s.keepsOpening = false := by
  cases h with
  | keep _ _ _ opening => simp [opening rfl]
  | blank space => cases space
  | space space => cases space
  | separator hsep => simp at hsep
  | start _ free => simp [free]
  | startInside _ free => simp [free]
  | finish hclose => cases hclose

theorem Reading.getLast?_closing {s s' : Scan} {rest : List Char} {ts : List Token}
    (h : Reading s ')' rest ts s') :
    ts.getLast? = some .groupEnd ↔ s.keepsClosing rest = false := by
  cases h with
  | keep _ _ _ _ closing => simp [closing rfl]
  | blank space => cases space
  | space space => cases space
  | separator hsep => simp at hsep
  | start hopen => cases hopen
  | startInside hopen => cases hopen
  | finish _ free => simp [free]

/-- Among the tokens of a query are, at their place, those that reading a parenthesis gives.  Between
spaces it marks a group exactly if no value is being read: an opening one anywhere, and a closing one
wherever a group is open. -/
theorem spaced_parenthesis_groups_iff (before after : List Char)
    (hb : before.getLast?.all (· == ' ') = true) (ha : after.head?.all (· == ' ') = true) :
    (∀ c, ∃ more, Token.ofQuery (String.ofList (before ++ c :: after)) =
        (start.run (c :: after) before).1 ++ found before c after ++ more) ∧
      ((found before '(' after).getLast? = some .groupStart ↔ ¬IsInValue before ('(' :: after)) ∧
      (0 < openGroups before (')' :: after) →
        ((found before ')' after).getLast? = some .groupEnd ↔
          ¬IsInValue before (')' :: after))) := by
  refine ⟨fun c => ofQuery_eq_found before c after, ?_, fun hd => ?_⟩
  · rw [found, (reading _ '(' after).getLast?_opening, keepsOpening_run hb, ← inValue_run_iff,
      Bool.not_eq_true]
  · rw [found, (reading _ ')' after).getLast?_closing, keepsClosing_run hb ha hd, ← inValue_run_iff,
      Bool.not_eq_true]

/-- Behind `( a | b ` no value is being read, so both parentheses mark groups there. -/
theorem spaced_parenthesis_groups_behind_tags :
    ("( a | b ".toList.getLast?.all (· == ' ') = true ∧ " c".toList.head?.all (· == ' ') = true) ∧
      (∀ c, ∃ more, Token.ofQuery (String.ofList ("( a | b ".toList ++ c :: " c".toList)) =
          (start.run (c :: " c".toList) "( a | b ".toList).1 ++
            found "( a | b ".toList c " c".toList ++ more) ∧
        ((found "( a | b ".toList '(' " c".toList).getLast? = some .groupStart ↔
          ¬IsInValue "( a | b ".toList "( c".toList) ∧
        (0 < openGroups "( a | b ".toList ") c".toList →
          ((found "( a | b ".toList ')' " c".toList).getLast? = some .groupEnd ↔
            ¬IsInValue "( a | b ".toList ") c".toList)) :=
  ⟨⟨by decide, by decide⟩,
    spaced_parenthesis_groups_iff "( a | b ".toList " c".toList (by decide) (by decide)⟩

/-- The group of `( a:b )` is open in front of the last parenthesis, which stands between spaces, and
still the parenthesis is read as a tag. -/
theorem value_leaves_group_open :
    0 < openGroups "( a:b ".toList ")".toList ∧
      (found "( a:b ".toList ')' []).getLast? ≠ some .groupEnd ∧
      Token.ofQuery "( a:b )" = [.groupStart, .term "a:b", .term ")"] := by
  decide +kernel

end Scan

end TagSearch

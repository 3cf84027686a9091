import TagSearch.Proofs.Predicate.TreeTruth
import TagSearch.Proofs.Query.WellTyped

/-!
# The complement of a term

No condition is ever negated as a whole: an excluded filter turns its own comparison round, and what
it then comes to depends on what the database makes of a missing value.  `Filter.HasNullSide` says when
a filter compares with nothing.

`Filter.ofTerm_marked_complement`: then neither the filter of a term nor that of the excluded term
holds, and otherwise exactly one of them does.
-/

namespace TagSearch

/-! ## Comparing with nothing -/

/-- A side of the filter's comparison is nothing: the duration is missing, the ratio has no value, a
text has no day, or the operand is not a number. -/
def Filter.HasNullSide (today : Calendar.Date) (row : Row) (f : Filter) : Prop :=
  match f.field with
  | .duration => row.cell .duration = .null ∨ f.value = .real .nan
  | .aspectRatio =>
    row.height = 0 ∨ Field.aspectRatio.numberIn row = .null ∨ f.value = .real .nan
  | .createdAt =>
    dayText? today (.text row.createdAt) = none ∨ dayText? today (Scalar.ofValue f.value) = none
  | .downloadedAt =>
    dayText? today (.text row.downloadedAt) = none ∨ dayText? today (Scalar.ofValue f.value) = none
  | _ => False

theorem Truth.ofBool_ne_unknown (b : Bool) : Truth.ofBool b ≠ .unknown := by
  cases b <;> decide

namespace Cell

theorem rank_eq_zero_iff {c : Cell} (h : c ≠ .real .nan) : c.rank = 0 ↔ c = .null := by
  have hnumber {c : Cell} (hrank : c.rank = 1) (hc : c ≠ .null) : c.rank = 0 ↔ c = .null := by
    rw [hrank]
    exact iff_of_false Nat.one_ne_zero hc
  cases c with
  | null => exact iff_of_true rfl rfl
  | integer n => exact hnumber rfl (by simp)
  | text s => exact iff_of_false (Nat.succ_ne_zero 1) (by simp)
  | real x =>
    cases x with
    | nan => exact absurd rfl h
    | infinite negative => exact hnumber rfl (by simp)
    | finite negative units => exact hnumber rfl (by simp)

theorem ofReal_ne_nan (x : Double) : ofReal x ≠ .real .nan := by
  cases x <;> simp [ofReal]

theorem ofReal_eq_null_iff {x : Double} : ofReal x = .null ↔ x = .nan := by
  cases x <;> simp [ofReal]

end Cell

theorem Condition.compareCells_eq_unknown_iff {o : Comparison} {a b : Cell} (ha : a ≠ .real .nan)
    (hb : b ≠ .real .nan) : compareCells o a b = .unknown ↔ a = .null ∨ b = .null := by
  rw [← Cell.rank_eq_zero_iff ha, ← Cell.rank_eq_zero_iff hb]
  unfold compareCells Cell.compare?
  by_cases h : a.rank = 0 ∨ b.rank = 0
  · simp [h]
  · simp [h, Truth.ofBool_ne_unknown]

theorem Condition.likeCells_ne_unknown {a : Cell} (h : a ≠ .null) (pattern : String) :
    likeCells a (.text pattern) ≠ .unknown := by
  cases a with
  | null => exact absurd rfl h
  | integer n => exact Truth.ofBool_ne_unknown _
  | real x => exact Truth.ofBool_ne_unknown _
  | text s => exact Truth.ofBool_ne_unknown _

theorem numberIn_aspectRatio (row : Row) :
    Field.aspectRatio.numberIn row =
      if (Double.ofInt row.height).isZero then .null
      else .ofReal ((Double.ofInt row.width).div (.ofInt row.height)) := rfl

theorem numberIn_aspectRatio_of_height_eq_zero {row : Row} (h : row.height = 0) :
    Field.aspectRatio.numberIn row = .null := by
  have hzero : (Double.ofInt 0).isZero = true := by decide +kernel
  rw [numberIn_aspectRatio, h, if_pos hzero]

theorem numberIn_aspectRatio_ne_nan (row : Row) : Field.aspectRatio.numberIn row ≠ .real .nan := by
  rw [numberIn_aspectRatio]
  split
  · simp
  · exact Cell.ofReal_ne_nan _

theorem cell_duration_ne_nan (row : Row) : row.cell .duration ≠ .real .nan := by
  unfold Row.cell
  dsimp only
  split
  · exact Cell.ofReal_ne_nan _
  · simp

namespace Filter

variable {f : Filter} {o : Comparison}

theorem numberTruth_integer_ne_unknown (m : Int)
    (h : (∃ o n, f.operator = .compare o ∧ f.value = .integer n) ∨
      ∃ text, f.operator = .pattern ∧ f.value = .text text) :
    f.numberTruth (.integer m) ≠ .unknown := by
  unfold numberTruth
  obtain ⟨o, n, ho, hv⟩ | ⟨text, ho, hv⟩ := h
  · rw [ho, hv]
    dsimp only
    intro hunknown
    have hnull := (Condition.compareCells_eq_unknown_iff (by simp) (by simp [Scalar.ofValue])).1
      hunknown
    simp [Scalar.ofValue] at hnull
  · rw [ho]
    exact Condition.likeCells_ne_unknown (by simp) _

theorem numberTruth_real_eq_unknown_iff {c : Cell} (hc : c ≠ .real .nan) {x : Double}
    (ho : f.operator = .compare o) (hv : f.value = .real x) :
    f.numberTruth c = .unknown ↔ c = .null ∨ f.value = .real .nan := by
  unfold numberTruth
  rw [ho, hv]
  show Condition.compareCells o c (.ofReal x) = .unknown ↔ _
  rw [Condition.compareCells_eq_unknown_iff hc (Cell.ofReal_ne_nan x), Cell.ofReal_eq_null_iff,
    Value.real.injEq]

theorem textTruth_ne_unknown (text : String) : f.textTruth text ≠ .unknown := by
  unfold textTruth
  split
  · exact Condition.likeCells_ne_unknown (by simp) _
  · exact Truth.ofBool_ne_unknown _

theorem dateTruth_eq_unknown_iff (today : Calendar.Date) (text : String)
    (ho : f.operator = .compare o) :
    f.dateTruth today text = .unknown ↔
      dayText? today (.text text) = none ∨ dayText? today (Scalar.ofValue f.value) = none := by
  unfold dateTruth
  rw [ho]
  dsimp only
  cases dayText? today (.text text) with
  | none => simp
  | some a =>
    cases dayText? today (Scalar.ofValue f.value) with
    | none => simp
    | some b => simp [Truth.ofBool_ne_unknown]

variable (today : Calendar.Date) (row : Row)

/-- What a row makes of a filter is unknown where a side of its comparison is nothing. -/
theorem plainTruth_eq_unknown_iff (htakes : f.field.Takes f.operator f.value)
    (hmatching : f.field ≠ .matchingTags) (hknown : ∀ name, f.field ≠ .unknown name) :
    f.plainTruth today row = .unknown ↔ f.HasNullSide today row := by
  have never {t : Truth} (h : t ≠ .unknown) : t = .unknown ↔ False := iff_false_intro h
  unfold plainTruth HasNullSide
  cases hfield : f.field with
  | tag => exact never (Condition.likeCells_ne_unknown (by simp) _)
  | owner => exact never (textTruth_ne_unknown _)
  | title => exact never (textTruth_ne_unknown _)
  | rating => exact never (textTruth_ne_unknown _)
  | fileType => exact never (textTruth_ne_unknown _)
  | matchingTags => exact absurd hfield hmatching
  | unknown name => exact absurd hfield (hknown name)
  | postId | score | width | height | tagCount =>
    rw [hfield] at htakes
    exact never (numberTruth_integer_ne_unknown _ htakes)
  | fileSize =>
    rw [hfield] at htakes
    exact never (numberTruth_integer_ne_unknown _ (.inl htakes))
  | duration =>
    rw [hfield] at htakes
    obtain ⟨o, x, ho, hv⟩ := htakes
    exact numberTruth_real_eq_unknown_iff (cell_duration_ne_nan row) ho hv
  | aspectRatio =>
    rw [hfield] at htakes
    obtain ⟨o, x, ho, hv⟩ := htakes
    dsimp only
    rw [numberTruth_real_eq_unknown_iff (numberIn_aspectRatio_ne_nan row) ho hv]
    constructor
    · exact .inr
    · rintro (hheight | h)
      · exact .inl (numberIn_aspectRatio_of_height_eq_zero hheight)
      · exact h
  | createdAt =>
    rw [hfield] at htakes
    obtain ⟨o, text, ho, -⟩ := htakes
    exact dateTruth_eq_unknown_iff today _ ho
  | downloadedAt =>
    rw [hfield] at htakes
    obtain ⟨o, text, ho, -⟩ := htakes
    exact dateTruth_eq_unknown_iff today _ ho

/-- A filter that lacks its duration fails, excluded or not; any other is turned round. -/
theorem truth_eq (hmatching : f.field ≠ .matchingTags) (hknown : ∀ name, f.field ≠ .unknown name) :
    f.truth today row =
      if f.lacksDuration row then .fails else (f.plainTruth today row).notIf f.negated := by
  unfold truth
  split
  · next h => exact absurd h hmatching
  · next name h => exact absurd h (hknown name)
  · rfl

end Filter

/-! ## The complement -/

theorem Truth.holds_or_not_holds (t : Truth) :
    (t ≠ .unknown → (t = .holds ↔ t.not ≠ .holds)) ∧
      (t = .unknown → t ≠ .holds ∧ t.not ≠ .holds) := by
  cases t <;> decide

namespace Filter

variable {f : Filter} (today : Calendar.Date) (row : Row)

theorem truth_excluded_complement (htakes : f.field.Takes f.operator f.value)
    (hnegated : f.negated = false) (hmatching : f.field ≠ .matchingTags)
    (hknown : ∀ name, f.field ≠ .unknown name) :
    (¬f.HasNullSide today row →
        (f.truth today row = .holds ↔ f.excluded.truth today row ≠ .holds)) ∧
      (f.HasNullSide today row →
        f.truth today row ≠ .holds ∧ f.excluded.truth today row ≠ .holds) := by
  have hunknown := plainTruth_eq_unknown_iff today row htakes hmatching hknown
  have hplain : f.excluded.plainTruth today row = f.plainTruth today row := rfl
  have hlacks : f.excluded.lacksDuration row = f.lacksDuration row := rfl
  rw [truth_eq today row hmatching hknown, truth_eq (f := f.excluded) today row hmatching hknown,
    hplain, hlacks, hnegated, ← hunknown]
  cases hmissing : f.lacksDuration row with
  | false => exact (f.plainTruth today row).holds_or_not_holds
  | true =>
    have hnull : f.HasNullSide today row := by
      simp only [lacksDuration, Bool.and_eq_true, decide_eq_true_eq] at hmissing
      unfold HasNullSide
      rw [hmissing.1.1]
      exact .inl hmissing.2
    exact ⟨fun h => absurd (hunknown.2 hnull) h, fun _ => ⟨by simp, by simp⟩⟩

theorem matchRequirement?_excluded (htakes : f.field.Takes f.operator f.value)
    (hnegated : f.negated = false) (hmatching : f.field = .matchingTags)
    (hcompare : f.operator ≠ .pattern) :
    ∃ r s, f.matchRequirement? = some r ∧ f.excluded.matchRequirement? = some s ∧
      ∀ count, s.isSatisfied count = !r.isSatisfied count := by
  rw [hmatching] at htakes
  obtain ⟨o, n, ho, hv⟩ | ⟨text, ho, -⟩ := htakes
  · refine ⟨⟨o, n, false⟩, ⟨o, n, true⟩, ?_, ?_, ?_⟩
    · simp [matchRequirement?, hmatching, ho, hv, hnegated]
    · simp [matchRequirement?, excluded, hmatching, ho, hv]
    · intro count
      exact Comparison.holds_complement o _
  · exact absurd ho hcompare

/-- For a term without a mark, and any mark: the term behind the mark is the term's filter, excluded.
A comparison with nothing holds for neither of the two; in any other row exactly one of them holds; and
a number of matching tags meets exactly one of their requirements. -/
theorem ofTerm_marked_complement {mark : List Char} (hmark : mark ∈ exclusionMarks) {term : String}
    (hterm : ∀ mark ∈ exclusionMarks, ¬mark <+: term.toList) :
    ofTerm (String.ofList mark ++ term) = (ofTerm term).map excluded ∧
    ∀ f, ofTerm term = .ok f → f.negated = false ∧
      (f.field ≠ .matchingTags → (∀ name, f.field ≠ .unknown name) → ∀ today row,
        let plain := (Condition.ofTree (.leaf f)).truth today row
        let marked := (Condition.ofTree (.leaf f.excluded)).truth today row
        ¬(plain = .holds ∧ marked = .holds) ∧
          (¬f.HasNullSide today row → (plain = .holds ↔ marked ≠ .holds)) ∧
          (f.HasNullSide today row → plain ≠ .holds ∧ marked ≠ .holds)) ∧
      (f.field = .matchingTags → f.operator ≠ .pattern →
        ∃ r s, f.matchRequirement? = some r ∧ f.excluded.matchRequirement? = some s ∧
          ∀ count, s.isSatisfied count = !r.isSatisfied count) := by
  refine ⟨ofTerm_mark hmark hterm, fun f hf => ?_⟩
  have htakes := takes_of_ofTerm hf
  have hnegated := negated_of_ofTerm hterm hf
  refine ⟨hnegated, ?_, matchRequirement?_excluded htakes hnegated⟩
  intro hmatching hknown today row
  obtain ⟨hcomplement, hnull⟩ := truth_excluded_complement today row htakes hnegated hmatching hknown
  dsimp only
  rw [Condition.truth_ofTree, Condition.truth_ofTree, Tree.truth, Tree.truth]
  refine ⟨?_, hcomplement, hnull⟩
  rintro ⟨hplain, hmarked⟩
  by_cases h : f.HasNullSide today row
  · exact (hnull h).1 hplain
  · exact (hcomplement h).1 hplain hmarked

/-- Of `duration:>30` and `!duration:>30`, neither finds a post without a duration, and one finds a
post of forty seconds. -/
theorem ofTerm_marked_complement_duration :
    let f : Filter := ⟨.duration, .real (.ofInt 30), .compare .gt, false⟩
    let image := Row.ofTexts 1 "archived" "[]"
    let video := { image with duration := some (.ofInt 40) }
    let finds (f : Filter) (row : Row) :=
      (Condition.ofTree (.leaf f)).truth Calendar.Date.epoch row = .holds
    ['!'] ∈ exclusionMarks ∧ (∀ mark ∈ exclusionMarks, ¬mark <+: "duration:>30".toList) ∧
      ofTerm "duration:>30" = .ok f ∧ ofTerm "!duration:>30" = .ok f.excluded ∧
      f.field ≠ .matchingTags ∧ (∀ name, f.field ≠ .unknown name) ∧
      f.HasNullSide Calendar.Date.epoch image ∧ ¬f.HasNullSide Calendar.Date.epoch video ∧
      (¬finds f image ∧ ¬finds f.excluded image) ∧ (finds f video ↔ ¬finds f.excluded video) := by
  intro f image video finds
  have hmark : ['!'] ∈ exclusionMarks := by decide
  have hterm : ∀ mark ∈ exclusionMarks, ¬mark <+: "duration:>30".toList := by decide
  have hf : ofTerm "duration:>30" = .ok f := by decide +kernel
  have hknown : ∀ name, f.field ≠ .unknown name := by
    intro name h
    cases h
  have himage : f.HasNullSide Calendar.Date.epoch image := .inl rfl
  have hvideo : ¬f.HasNullSide Calendar.Date.epoch video := by
    rintro (h | h)
    · revert h
      decide +kernel
    · revert h
      decide +kernel
  obtain ⟨hread, hall⟩ := ofTerm_marked_complement hmark hterm
  obtain ⟨-, hrows, -⟩ := hall f hf
  rw [hf] at hread
  exact ⟨hmark, hterm, hf, hread, by decide, hknown, himage, hvideo,
    (hrows (by decide) hknown _ image).2.2 himage, (hrows (by decide) hknown _ video).2.1 hvideo⟩

end Filter

end TagSearch

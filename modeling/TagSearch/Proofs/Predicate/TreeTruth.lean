import TagSearch.Predicate.OfQuery

/-!
# The truth of filter trees

`Filter.truth` says of a leaf, and `Tree.truth` of a tree, what a row makes of it, without going
through conditions.  A leaf compares what the row holds in its field with its operand, or holds the
field against the operand's pattern, and a negated leaf turns that round.  A conjunction and
alternatives take their parts together; without parts they hold.

The condition of a tree has the truth of the tree in every row on every day
(`Condition.truth_ofTree`).
-/

namespace TagSearch

/-! ## Several truths -/

namespace Truth

/-- The opposite, if asked for. -/
def notIf (negated : Bool) (t : Truth) : Truth := if negated then t.not else t

theorem notIf_false (t : Truth) : t.notIf false = t := rfl

theorem and_assoc (a b c : Truth) : (a.and b).and c = a.and (b.and c) := by
  cases a <;> cases b <;> cases c <;> rfl

theorem or_assoc (a b c : Truth) : (a.or b).or c = a.or (b.or c) := by
  cases a <;> cases b <;> cases c <;> rfl

@[simp] theorem and_holds (t : Truth) : t.and .holds = t := by
  cases t <;> rfl

@[simp] theorem holds_and (t : Truth) : Truth.holds.and t = t := by
  cases t <;> rfl

@[simp] theorem or_fails (t : Truth) : t.or .fails = t := by
  cases t <;> rfl

theorem foldl_and (ts : List Truth) (t : Truth) :
    ts.foldl Truth.and t = t.and (ts.foldr Truth.and .holds) := by
  induction ts generalizing t with
  | nil => exact (and_holds t).symm
  | cons u ts ih => rw [List.foldl_cons, List.foldr_cons, ih, and_assoc]

theorem foldl_or (ts : List Truth) (t : Truth) :
    ts.foldl Truth.or t = t.or (ts.foldr Truth.or .fails) := by
  induction ts generalizing t with
  | nil => exact (or_fails t).symm
  | cons u ts ih => rw [List.foldl_cons, List.foldr_cons, ih, or_assoc]

end Truth

/-! ## What a row makes of a leaf -/

/-- A text in ASCII lower case. -/
def lowerText (s : String) : String := String.ofList (s.toList.map Char.toLower)

/-- The day of a cell, as the database writes it. -/
def dayText? (today : Calendar.Date) (c : Cell) : Option String :=
  (c.toText?.bind fun t => Calendar.storedDay? today t.toList).map fun d => String.ofList d.storedText

/-- What a row holds in a field with numbers.  A tag list has one tag more than it has commas, and a
ratio is the quotient of the two sides as real numbers. -/
def Field.numberIn (row : Row) : Field → Cell
  | .postId => .integer row.postId
  | .score => .integer row.score
  | .width => .integer row.width
  | .height => .integer row.height
  | .fileSize => .integer row.fileSize
  | .tagCount => .integer ((untilNull row.tags.toList).count ',' + 1)
  | .aspectRatio => Scalar.quotient (.real (.ofInt row.width)) (.real (.ofInt row.height))
  | .duration => row.cell .duration
  | _ => .null

namespace Filter

variable (f : Filter)

/-- A cell fits the operand, in which `*` stands for any run of characters. -/
def patternTruth (c : Cell) : Truth :=
  Condition.likeCells c (.text (starsToPercents f.value.toText))

/-- A text fits the operand if that has a `*`, and otherwise equals it, letter case aside. -/
def textTruth (text : String) : Truth :=
  if f.value.toText.toList.contains '*' then f.patternTruth (.text text)
  else .ofBool (lowerText text = lowerText f.value.toText)

/-- A number compares with the operand or fits it. -/
def numberTruth (c : Cell) : Truth :=
  match f.operator with
  | .pattern => f.patternTruth c
  | .compare o => Condition.compareCells o c (Scalar.ofValue f.value)

/-- The day of a text compares with the day of the operand, if both have one, or the text fits the
operand. -/
def dateTruth (today : Calendar.Date) (text : String) : Truth :=
  match f.operator with
  | .pattern => f.patternTruth (.text text)
  | .compare o =>
    match dayText? today (.text text), dayText? today (Scalar.ofValue f.value) with
    | some a, some b => .ofBool (o.holds (some (compare a b)))
    | _, _ => .unknown

/-- What a row makes of a leaf, not counting that the leaf may be negated. -/
def plainTruth (today : Calendar.Date) (row : Row) : Truth :=
  match f.field with
  | .tag => Condition.likeCells (.text row.tags) (.text (tagPattern f.value.toText))
  | .owner => f.textTruth row.owner
  | .title => f.textTruth row.title
  | .rating => f.textTruth row.rating
  | .fileType => f.textTruth row.fileType
  | .createdAt => f.dateTruth today row.createdAt
  | .downloadedAt => f.dateTruth today row.downloadedAt
  | field => f.numberTruth (field.numberIn row)

/-- The leaf compares a duration that the row does not have. -/
def lacksDuration (row : Row) : Bool :=
  f.field = .duration && f.operator != .pattern && row.cell .duration = .null

/-- What a row makes of a leaf. -/
def truth (today : Calendar.Date) (row : Row) : Truth :=
  match f.field with
  | .matchingTags | .unknown _ => .holds
  | _ => if f.lacksDuration row then .fails else (f.plainTruth today row).notIf f.negated

end Filter

/-! ## Trees -/

mutual

/-- What a row makes of a tree. -/
def Tree.truth (today : Calendar.Date) (row : Row) : Tree Filter → Truth
  | .leaf f => f.truth today row
  | .and parts => (truths today row parts).foldr Truth.and .holds
  | .or parts => if parts.isEmpty then .holds else (truths today row parts).foldr Truth.or .fails

/-- What a row makes of several trees. -/
def Tree.truths (today : Calendar.Date) (row : Row) : List (Tree Filter) → List Truth
  | [] => []
  | t :: ts => t.truth today row :: truths today row ts

end

theorem Tree.truth_collapse (today : Calendar.Date) (row : Row) (parts : List (Tree Filter)) :
    (collapse parts).truth today row = (truths today row parts).foldr Truth.and .holds := by
  match parts with
  | [] => rw [collapse, truth]; simp
  | [t] => rw [collapse, truths, truths, List.foldr_cons, List.foldr_nil, Truth.and_holds]
  | t :: u :: ts => rw [collapse, truth]; simp

namespace Condition

theorem compareCells_negatedIf (negated : Bool) (o : Comparison) (a b : Cell) :
    compareCells (o.negatedIf negated) a b = (compareCells o a b).notIf negated := by
  cases negated with
  | false => rfl
  | true =>
    unfold compareCells
    cases a.compare? b with
    | none => rfl
    | some r =>
      show Truth.ofBool (o.complement.holds (some r)) = (Truth.ofBool (o.holds (some r))).not
      rw [Comparison.holds_complement]
      cases o.holds (some r) <;> rfl

theorem compareCells_text (o : Comparison) (a b : String) :
    compareCells o (.text a) (.text b) = .ofBool (o.holds (some (Ord.compare a b))) := rfl

theorem compareCells_eq_text (a b : String) :
    compareCells .eq (.text a) (.text b) = .ofBool (a = b) := by
  rw [compareCells_text]
  congr 1
  rw [Bool.eq_iff_iff, decide_eq_true_iff]
  show (some (Ord.compare a b) == some .eq) = true ↔ _
  rw [beq_iff_eq, Option.some.injEq]
  exact Std.compare_eq_iff_eq

theorem compareCells_null (o : Comparison) (c : Cell) :
    compareCells o c .null = .unknown := by
  have hnull : Cell.null.rank = 0 := rfl
  have hcompare : c.compare? .null = none := by
    unfold Cell.compare?
    rw [hnull]
    simp
  unfold compareCells
  rw [hcompare]

theorem truth_like (today : Calendar.Date) (row : Row) (negated : Bool) (s t : Scalar Value) :
    (like negated s t).truth today row =
      (likeCells (s.eval today row) (t.eval today row)).notIf negated := rfl

end Condition

section

variable (today : Calendar.Date) (row : Row) (f : Filter)

theorem truth_likeText (s : Scalar Value) :
    (f.likeText s).truth today row = (f.patternTruth (s.eval today row)).notIf f.negated := by
  have htext (c p : Cell) : Condition.likeCells (.ofText? c.toText?) p = Condition.likeCells c p := by
    cases c <;> rfl
  unfold Filter.likeText Filter.patternTruth
  rw [Condition.truth_like, Scalar.eval, htext]
  rfl

theorem truth_onNumber (s : Scalar Value) :
    (f.onNumber s).truth today row = (f.numberTruth (s.eval today row)).notIf f.negated := by
  unfold Filter.onNumber Filter.numberTruth
  cases f.operator with
  | pattern => exact truth_likeText today row f s
  | compare o =>
    show Condition.compareCells (o.negatedIf f.negated) _ _ = _
    rw [Condition.compareCells_negatedIf]
    rfl

theorem eval_lower_column {c : Column} {text : String} (h : row.cell c = .text text) :
    (Scalar.lower (.column c)).eval today row = .text (lowerText text) := by
  rw [Scalar.eval, Scalar.eval, h]
  rfl

theorem truth_onText {c : Column} {text : String} (h : row.cell c = .text text) :
    (f.onText c).truth today row = (f.textTruth text).notIf f.negated := by
  unfold Filter.onText Filter.textTruth
  dsimp only
  split
  · rw [Condition.truth_like, Scalar.eval, h]
    rfl
  · have hlower : (Scalar.lower (.parameter (.text f.value.toText))).eval today row =
        .text (lowerText f.value.toText) := rfl
    rw [Condition.truth, eval_lower_column today row h, hlower, Condition.compareCells_negatedIf,
      Condition.compareCells_eq_text]

theorem truth_onDate {c : Column} {text : String} (h : row.cell c = .text text) :
    (f.onDate c).truth today row = (f.dateTruth today text).notIf f.negated := by
  unfold Filter.onDate Filter.dateTruth
  cases f.operator with
  | pattern =>
    show (f.likeText (.column c)).truth today row = _
    rw [truth_likeText, Scalar.eval, h]
  | compare o =>
    have hcolumn : (Scalar.day (.column c)).eval today row =
        .ofText? (dayText? today (.text text)) := by
      rw [Scalar.eval, Scalar.eval, h]
      rfl
    have hoperand : (Scalar.day (.parameter f.value)).eval today row =
        .ofText? (dayText? today (Scalar.ofValue f.value)) := rfl
    show Condition.compareCells (o.negatedIf f.negated) _ _ = _
    rw [hcolumn, hoperand, Condition.compareCells_negatedIf]
    show _ = Truth.notIf f.negated (match dayText? today (.text text),
      dayText? today (Scalar.ofValue f.value) with | some a, some b => _ | _, _ => _)
    congr 1
    cases dayText? today (.text text) with
    | none => rfl
    | some a =>
      cases dayText? today (Scalar.ofValue f.value) with
      | none => exact Condition.compareCells_null _ _
      | some b => exact Condition.compareCells_text _ a b

theorem count_add_textLength (cs : List Char) :
    (untilNull cs).count ',' + (untilNull (cs.filter (· != ','))).length = (untilNull cs).length := by
  -- Taking commas out moves no null character in front of another, so both texts end at the same one.
  induction cs with
  | nil => rfl
  | cons c cs ih =>
    by_cases hnull : c = '\x00'
    · subst hnull
      rfl
    · by_cases hcomma : c = ','
      · subst hcomma
        simp only [untilNull] at ih ⊢
        simp
        omega
      · simp only [untilNull] at ih ⊢
        simp [hnull, hcomma]
        omega

theorem eval_tagCount : Scalar.tagCount.eval today row = Field.tagCount.numberIn row := by
  have hlength := count_add_textLength row.tags.toList
  have heval : Scalar.tagCount.eval today row =
      .integer ((Scalar.textLength row.tags : Int) -
        Scalar.textLength (String.ofList (row.tags.toList.filter (· != ','))) + 1) := rfl
  rw [heval]
  unfold Scalar.textLength Field.numberIn
  rw [String.toList_ofList]
  congr 1
  omega

theorem eval_aspectRatio : Scalar.aspectRatio.eval today row = Field.aspectRatio.numberIn row := by
  have hreal (n : Int) : Cell.ofReal (.ofInt n) = .real (.ofInt n) := by
    unfold Double.ofInt Double.ofRatio Double.ofUnitsRatio
    dsimp only
    split <;> rfl
  show Scalar.quotient (.ofReal (.ofInt row.width)) (.ofReal (.ofInt row.height)) = _
  rw [hreal, hreal]
  rfl

theorem truth_onDuration (h : f.field = .duration) :
    f.onDuration.truth today row =
      if f.lacksDuration row then .fails
      else (f.numberTruth (row.cell .duration)).notIf f.negated := by
  unfold Filter.onDuration Filter.lacksDuration Filter.numberTruth
  rw [h]
  cases f.operator with
  | pattern => exact truth_likeText today row f (.column .duration)
  | compare o =>
    have htruth : (Condition.group (.all [.present (.column .duration),
        .compare (o.negatedIf f.negated) (.column .duration) (.parameter f.value)])).truth today row =
        (Truth.ofBool (row.cell .duration != .null)).and
          (Condition.compareCells (o.negatedIf f.negated) (row.cell .duration)
            (Scalar.ofValue f.value)) := by
      show Truth.and _ (Truth.and _ .holds) = _
      rw [Truth.and_holds]
      rfl
    show Condition.truth today row _ = _
    rw [htruth, Condition.compareCells_negatedIf]
    by_cases hnull : row.cell .duration = .null
    · simp [hnull, Truth.ofBool, Truth.and]
    · have hpresent : (row.cell .duration != .null) = true := by simpa using hnull
      have hlacks : ¬(decide (Field.duration = .duration) && (Operator.compare o != .pattern) &&
          decide (row.cell .duration = .null)) = true := by simp [hnull]
      rw [hpresent, if_neg hlacks]
      exact Truth.holds_and _

theorem lacksDuration_eq_false (h : f.field ≠ .duration) : f.lacksDuration row = false := by
  simp [Filter.lacksDuration, h]

theorem Condition.truth_ofFilter :
    (Condition.ofFilter f).truth today row = f.truth today row := by
  have hnumber (c : Column) := truth_onNumber today row f (.column c)
  unfold Filter.truth Filter.plainTruth Condition.ofFilter
  by_cases hd : f.field = .duration
  · rw [hd]
    exact truth_onDuration today row f hd
  · rw [lacksDuration_eq_false row f hd]
    cases hf : f.field with
    | tag => rfl
    | postId => exact hnumber .postId
    | score => exact hnumber .score
    | width => exact hnumber .width
    | height => exact hnumber .height
    | fileSize => exact hnumber .fileSize
    | tagCount =>
      show (f.onNumber .tagCount).truth today row = _
      rw [truth_onNumber, eval_tagCount]
      rfl
    | aspectRatio =>
      show (f.onNumber .aspectRatio).truth today row = _
      rw [truth_onNumber, eval_aspectRatio]
      rfl
    | duration => exact absurd hf hd
    | matchingTags => rfl
    | unknown name => rfl
    | owner => exact truth_onText today row f rfl
    | title => exact truth_onText today row f rfl
    | rating => exact truth_onText today row f rfl
    | fileType => exact truth_onText today row f rfl
    | createdAt => exact truth_onDate today row f rfl
    | downloadedAt => exact truth_onDate today row f rfl

end

/-! ## The condition of a tree -/

namespace Condition

variable (today : Calendar.Date) (row : Row)

theorem truthOfAll_eq_foldr (cs : List (Condition Value)) :
    truthOfAll today row cs = (cs.map fun c => c.truth today row).foldr Truth.and .holds := by
  induction cs with
  | nil => rfl
  | cons c cs ih => rw [truthOfAll, ih]; rfl

theorem truthOfAny_eq_foldr (cs : List (Condition Value)) :
    truthOfAny today row cs = (cs.map fun c => c.truth today row).foldr Truth.or .fails := by
  induction cs with
  | nil => rfl
  | cons c cs ih => rw [truthOfAny, ih]; rfl

theorem truths_map_group (cs : List (Condition Value)) :
    (cs.map Condition.group).map (fun c => c.truth today row) =
      cs.map fun c => c.truth today row := by
  rw [List.map_map]
  rfl

theorem truth_joined_all (cs : List (Condition Value)) :
    (joined .all cs).truth today row =
      (cs.map fun c => c.truth today row).foldr Truth.and .holds := by
  cases cs with
  | nil => rfl
  | cons c cs =>
    show truthOfAll today row ((c :: cs).map .group) = _
    rw [truthOfAll_eq_foldr, truths_map_group]

theorem truth_joined_any (cs : List (Condition Value)) :
    (joined .any cs).truth today row =
      if cs.isEmpty then .holds
      else (cs.map fun c => c.truth today row).foldr Truth.or .fails := by
  cases cs with
  | nil => rfl
  | cons c cs =>
    show truthOfAny today row ((c :: cs).map .group) = _
    rw [truthOfAny_eq_foldr, truths_map_group]
    rfl

mutual

/-- The condition of a tree has the tree's truth. -/
theorem truth_ofTree : (t : Tree Filter) → (ofTree t).truth today row = t.truth today row
  | .leaf f => by
    rw [ofTree, Tree.truth]
    exact truth_ofFilter today row f
  | .and parts => by
    rw [ofTree, Tree.truth, truth_joined_all, truths_ofTrees parts]
  | .or parts => by
    rw [ofTree, Tree.truth, truth_joined_any, truths_ofTrees parts]
    cases parts <;> rfl

theorem truths_ofTrees : (ts : List (Tree Filter)) →
    (ofTrees ts).map (fun c => c.truth today row) = Tree.truths today row ts
  | [] => rfl
  | t :: ts => by
    rw [ofTrees, List.map_cons, Tree.truths, truth_ofTree t, truths_ofTrees ts]

end

end Condition

end TagSearch

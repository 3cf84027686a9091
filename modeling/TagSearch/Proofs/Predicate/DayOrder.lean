import TagSearch.Predicate.OfQuery
import TagSearch.Proofs.Calendar.StoredDay
import TagSearch.Proofs.Query.DateTerm

/-!
# Dates compare by day

A date term becomes a comparison of the day of a column with the day of a parameter.  In the years 0 to
9999 the database has the right day on either side, whatever the times of day, and compares the two as
texts in the order of time (`dates_compare_by_day`).
-/

namespace TagSearch

open Calendar

theorem Scalar.eval_day (today : Date) {row : Row} {s : Scalar Value} {text : String} {m : Moment}
    (heval : s.eval today row = .text text) (hm : m.IsReal) (hfirst : 0 ≤ m.date.year)
    (hlast : m.date.year ≤ 9999) (h : m.IsWritten 4 text.toList) :
    (Scalar.day s).eval today row = .text (String.ofList m.date.storedText) := by
  have hcell : (Cell.text text).toText? = some text := rfl
  rw [eval, heval, hcell, Option.bind_some, storedDay?_of_isWritten today hm hfirst hlast h]
  rfl

namespace DateTerm

/-- The column that holds the field of a date term. -/
def column (d : DateTerm) : Column := if d.field = .createdAt then .createdAt else .downloadedAt

theorem ofFilter_filterWith {term : String} {d : DateTerm} (h : ofTerm? term = some d)
    (text : List Char) :
    Condition.ofFilter (d.filterWith text) =
      .compare (d.comparison.negatedIf d.negated) (.day (.column d.column))
        (.day (.parameter (.text (String.ofList text)))) := by
  unfold Condition.ofFilter filterWith column
  rcases kind?_field h with hfield | hfield
  · rw [hfield]
    rfl
  · rw [hfield]
    rfl

end DateTerm

/-- The predicate of a date term holds where the stored day stands to the operand's day as the term
asks, in the order of time. -/
theorem dates_compare_by_day {term : String} {d : DateTerm} (hterm : DateTerm.ofTerm? term = some d)
    {operand : Moment} (hoperand : readMoment d.operand = .ok operand)
    (hyear : 0 ≤ operand.date.year) :
    ∃ f, Filter.ofTerm term = .ok f ∧
      (Condition.ofFilter f).sql = "DATE(" ++ d.column.name ++ ") " ++
        (d.comparison.negatedIf d.negated).sql ++ " DATE(?)" ∧
      ∀ (today : Date) (row : Row) (text : String) (stored : Moment),
        row.cell d.column = .text text → stored.IsReal → 0 ≤ stored.date.year →
        stored.date.year ≤ 9999 → stored.IsWritten 4 text.toList →
          (Condition.ofFilter f).truth today row = .ofBool
            ((d.comparison.negatedIf d.negated).holds (some (stored.date.order operand.date))) := by
  obtain ⟨hreal, hbound⟩ := isReal_of_readMoment hoperand
  have hnormal : normalText? d.operand = .ok operand.text := by
    unfold normalText?
    rw [hoperand]
    rfl
  refine ⟨d.filterWith operand.text, ?_, ?_, ?_⟩
  · rw [Filter.ofTerm_of_dateTerm hterm, hnormal]
    rfl
  · rw [DateTerm.ofFilter_filterWith hterm]
    simp [Condition.sql, Scalar.sql, String.append_assoc]
  · intro today row text stored hcell hstored hfirst hlast hwritten
    have hcolumn := Scalar.eval_day today (s := .column d.column) hcell hstored hfirst hlast hwritten
    have hwidth : operand.date.yearDigits = 4 := if_neg fun h => Int.not_lt.2 hyear h.2
    have hoperand : (Scalar.parameter (.text (String.ofList operand.text))).eval today row =
        .text (String.ofList operand.text) := rfl
    have hparameter := Scalar.eval_day today hoperand hreal hyear (by omega)
      (by rw [String.toList_ofList, ← hwidth]; exact Moment.isWritten_text hreal hbound)
    rw [DateTerm.ofFilter_filterWith hterm]
    show Condition.compareCells _ _ _ = _
    rw [hcolumn, hparameter]
    show Truth.ofBool (Comparison.holds _ (some (compare _ _))) = _
    rw [Date.compare_storedText (Moment.isValid_date hstored) (Moment.isValid_date hreal) hfirst hlast
      hyear (by omega)]

/-- A post of the day that the operand names is not of a later day, though it is of a later hour. -/
theorem dates_compare_by_day_same_day :
    DateTerm.ofTerm? "-uploaded:>1700000000" =
      some ⟨.createdAt, .gt, "1700000000".toList, true⟩ ∧
    readMoment "1700000000".toList = .ok (.instant ⟨2023, 11, 14⟩ ⟨22, 13, 20⟩) ∧
    ∃ f, Filter.ofTerm "-uploaded:>1700000000" = .ok f ∧
      (Condition.ofFilter f).sql = "DATE(created_at) <= DATE(?)" ∧
      (Condition.ofFilter f).truth ⟨2024, 1, 1⟩
        (.ofPost { Post.ofTags 1 ["cat"] with createdAt := "2023-11-14 23:59:59" }) = .holds := by
  have hterm : DateTerm.ofTerm? "-uploaded:>1700000000" =
      some ⟨.createdAt, .gt, "1700000000".toList, true⟩ := by rfl
  have hoperand : readMoment "1700000000".toList = .ok (.instant ⟨2023, 11, 14⟩ ⟨22, 13, 20⟩) := by
    decide +kernel
  have hreal : (Moment.instant ⟨2023, 11, 14⟩ ⟨23, 59, 59⟩).IsReal :=
    ⟨by decide, by decide, by decide, by decide⟩
  obtain ⟨f, hf, hsql, htruth⟩ := dates_compare_by_day hterm hoperand (by decide)
  exact ⟨hterm, hoperand, f, hf, hsql, htruth _ _ "2023-11-14 23:59:59" _ rfl hreal (by decide) (by decide)
    (Moment.isWritten_text hreal (by decide))⟩

end TagSearch

import TagSearch.Proofs.Calendar.NormalText
import TagSearch.Query.Term

/-!
# Date terms

A term that names a date field compares the days of that field with the day of its operand.
`DateTerm.ofTerm?` takes such a term apart without reading the operand, and the filter of the term is the
comparison with the operand's normal form, if it has one (`Filter.ofTerm_of_dateTerm`).
-/

namespace TagSearch

/-- A term that names a date field. -/
structure DateTerm where
  /-- The field that the term names. -/
  field : Field
  comparison : Comparison
  /-- What is left of the value without a glyph. -/
  operand : List Char
  /-- The term is excluded. -/
  negated : Bool

namespace DateTerm

/-- The parts of a term that names a date field. -/
def ofTerm? (term : String) : Option DateTerm :=
  let (negated, core) := splitExclusion term.toList
  match splitName? core with
  | none => none
  | some (name, value) =>
    let field := Field.ofName (String.ofList name)
    let (comparison, operand) := splitOperator value
    if field.kind? = some .date then some ⟨field, comparison, operand, negated⟩ else none

/-- The filter that compares with a text. -/
def filterWith (d : DateTerm) (text : List Char) : Filter :=
  ⟨d.field, .text (String.ofList text), .compare d.comparison, d.negated⟩

variable {term : String} {d : DateTerm}

theorem ofTerm?_eq_some_iff :
    ofTerm? term = some d ↔
      ∃ name value, splitName? (splitExclusion term.toList).2 = some (name, value) ∧
        d.field = Field.ofName (String.ofList name) ∧ d.field.kind? = some .date ∧
          d.comparison = (splitOperator value).1 ∧ d.operand = (splitOperator value).2 ∧
            d.negated = (splitExclusion term.toList).1 := by
  unfold ofTerm?
  obtain ⟨field, comparison, operand, negated⟩ := d
  dsimp only
  cases splitName? (splitExclusion term.toList).2 with
  | none => simp
  | some parts =>
    obtain ⟨name, value⟩ := parts
    grind

theorem kind?_field (h : ofTerm? term = some d) : d.field = .createdAt ∨ d.field = .downloadedAt := by
  obtain ⟨-, -, -, -, hkind, -⟩ := ofTerm?_eq_some_iff.1 h
  cases hfield : d.field with
  | createdAt => exact .inl rfl
  | downloadedAt => exact .inr rfl
  | _ =>
    rw [hfield] at hkind
    cases hkind

end DateTerm

/-- The filter of a date term compares with the normal form of the operand. -/
theorem Filter.ofTerm_of_dateTerm {term : String} {d : DateTerm} (h : DateTerm.ofTerm? term = some d) :
    Filter.ofTerm term = (normalText? d.operand).map d.filterWith := by
  obtain ⟨name, value, hname, hfield, hkind, hcomparison, hoperand, hnegated⟩ :=
    DateTerm.ofTerm?_eq_some_iff.1 h
  unfold ofTerm DateTerm.filterWith
  dsimp only
  rw [hname, hoperand, hcomparison, hnegated]
  dsimp only
  rw [← hfield, Field.readOperand_date hkind]
  cases normalText? (splitOperator value).2 <;> rfl

end TagSearch

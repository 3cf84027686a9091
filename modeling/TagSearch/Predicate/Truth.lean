/-!
# Truth with unknown

A comparison with a missing value neither holds nor fails.  A conjunction fails as soon as a part
fails, alternatives hold as soon as one holds, and otherwise an unknown part makes the whole unknown.
-/

namespace TagSearch

/-- What a predicate comes to for a row. -/
inductive Truth where
  | holds
  | fails
  | unknown
deriving DecidableEq

namespace Truth

/-- The truth of something known. -/
def ofBool (b : Bool) : Truth := if b then .holds else .fails

/-- The opposite; unknown stays unknown. -/
def not : Truth → Truth
  | .holds => .fails
  | .fails => .holds
  | .unknown => .unknown

/-- Both hold. -/
def and : Truth → Truth → Truth
  | .fails, _ => .fails
  | _, .fails => .fails
  | .holds, t => t
  | t, .holds => t
  | .unknown, .unknown => .unknown

/-- One of the two holds. -/
def or : Truth → Truth → Truth
  | .holds, _ => .holds
  | _, .holds => .holds
  | .fails, t => t
  | t, .fails => t
  | .unknown, .unknown => .unknown

@[simp] theorem ofBool_eq_holds {b : Bool} : ofBool b = .holds ↔ b = true := by
  cases b <;> decide

@[simp] theorem and_eq_holds {a b : Truth} : a.and b = .holds ↔ a = .holds ∧ b = .holds := by
  cases a <;> cases b <;> decide

@[simp] theorem or_eq_holds {a b : Truth} : a.or b = .holds ↔ a = .holds ∨ b = .holds := by
  cases a <;> cases b <;> decide

end Truth

end TagSearch

import TagSearch.Text.Quoted

/-!
# Post statuses

A post waits for a decision or has been kept.
-/

namespace TagSearch

/-- Whether a post has been decided on. -/
inductive Status where
  | pending
  | saved
deriving DecidableEq

namespace Status

/-- The name of a status. -/
def name : Status → String
  | .pending => "pending"
  | .saved => "saved"

/-- The status with a name, ASCII letter case not counting. -/
def ofName? (text : String) : Option Status :=
  let lower := String.ofList (text.toList.map Char.toLower)
  if lower = "pending" then some .pending
  else if lower = "saved" then some .saved
  else none

/-- What is said about a text that names no status. -/
def unknownMessage (text : String) : String :=
  "unknown post status: " ++ Text.quoted (String.ofList (text.toList.map Char.toLower))

@[simp] theorem ofName?_name (s : Status) : ofName? s.name = some s := by
  cases s <;> rfl

end Status

end TagSearch

import TagSearch.Query.Filter

/-!
# Filter trees

A query is a tree of conjunctions and alternatives over its leaves.  An empty conjunction holds of
everything; it is what an empty query means.
-/

namespace TagSearch

/-- Conjunctions and alternatives over leaves. -/
inductive Tree (α : Type) where
  | leaf (a : α)
  | and (parts : List (Tree α))
  | or (parts : List (Tree α))

namespace Tree

variable {α β ε : Type}

/-- The tree that holds of everything. -/
def matchAll : Tree α := .and []

/-- The tree is the empty conjunction. -/
def isMatchAll : Tree α → Bool
  | .and [] => true
  | _ => false

mutual

/-- The leaves from left to right. -/
def leaves : Tree α → List α
  | .leaf a => [a]
  | .and parts => leavesOf parts
  | .or parts => leavesOf parts

/-- The leaves of several trees from left to right. -/
def leavesOf : List (Tree α) → List α
  | [] => []
  | t :: ts => t.leaves ++ leavesOf ts

end

mutual

/-- Replaces the leaves from left to right; the first that fails ends it. -/
def mapM (f : α → Except ε β) : Tree α → Except ε (Tree β)
  | .leaf a => (f a).map .leaf
  | .and parts => (mapList f parts).map .and
  | .or parts => (mapList f parts).map .or

/-- Replaces the leaves of several trees from left to right. -/
def mapList (f : α → Except ε β) : List (Tree α) → Except ε (List (Tree β))
  | [] => .ok []
  | t :: ts => do
    let t ← t.mapM f
    let ts ← mapList f ts
    return t :: ts

end

theorem leavesOf_append (ts us : List (Tree α)) :
    leavesOf (ts ++ us) = leavesOf ts ++ leavesOf us := by
  induction ts with
  | nil => rfl
  | cons t ts ih => simp [leavesOf, ih]

/-- The conjunction of parts; a single part stands for itself. -/
def collapse : List (Tree α) → Tree α
  | [t] => t
  | parts => .and parts

@[simp] theorem leaves_collapse (parts : List (Tree α)) : (collapse parts).leaves = leavesOf parts := by
  match parts with
  | [] => simp [collapse, leaves]
  | [t] => simp [collapse, leavesOf]
  | t :: u :: ts => simp [collapse, leaves]

end Tree

/-- The tags that a tree asks for, without repetition, in the order in which they first occur. -/
def Tree.positiveTags (tree : Tree Filter) : List String :=
  (tree.leaves.filterMap fun f =>
    match f.field, f.value with
    | .tag, .text name => if f.negated then none else some name
    | _, _ => none).eraseDups

/-- What a query demands of the number of its own tags that a post carries. -/
structure MatchRequirement where
  comparison : Comparison
  threshold : Int
  /-- The comparison must not hold. -/
  negated : Bool
deriving DecidableEq

/-- The number meets the requirement. -/
def MatchRequirement.isSatisfied (r : MatchRequirement) (count : Int) : Bool :=
  (r.comparison.negatedIf r.negated).holds (some (compare count r.threshold))

/-- The requirement of a filter, if the filter is one. -/
def Filter.matchRequirement? (f : Filter) : Option MatchRequirement :=
  match f.field, f.operator, f.value with
  | .matchingTags, .compare c, .integer n => some ⟨c, n, f.negated⟩
  | _, _, _ => none

/-- The requirements of a tree, from left to right. -/
def Tree.matchRequirements (tree : Tree Filter) : List MatchRequirement :=
  tree.leaves.filterMap Filter.matchRequirement?

end TagSearch

import TagSearch.Predicate.Condition
import TagSearch.Query.Tree

/-!
# The condition of a filter tree

Every leaf becomes a condition on its column with its operand as the one parameter.  A negated leaf
turns its own comparison round, so nothing is ever negated as a whole.  What only the query can decide
(`matching_tags`) and what no column holds (unknown fields) constrains nothing here.
-/

namespace TagSearch

/-- A text with every `*` made into the database's sign for any run of characters. -/
def starsToPercents (s : String) : String :=
  String.ofList (s.toList.map fun c => if c == '*' then '%' else c)

/-- The pattern of a tag within the text of a tag list: the tag between quotation marks. -/
def tagPattern (name : String) : String := "%\"" ++ starsToPercents name ++ "\"%"

namespace Filter

variable (f : Filter)

/-- The operand as the parameter of a pattern. -/
def patternParameter : Scalar Value := .parameter (.text (starsToPercents f.value.toText))

/-- A value as text fits the operand's pattern. -/
def likeText (s : Scalar Value) : Condition Value := .like f.negated (.asText s) f.patternParameter

/-- A number compares with the operand, or fits its pattern as a text. -/
def onNumber (s : Scalar Value) : Condition Value :=
  match f.operator with
  | .pattern => f.likeText s
  | .compare c => .compare (c.negatedIf f.negated) s (.parameter f.value)

/-- A text equals the operand up to ASCII letter case, or fits its pattern. -/
def onText (c : Column) : Condition Value :=
  let operand := f.value.toText
  if operand.toList.contains '*' then .like f.negated (.column c) f.patternParameter
  else
    .compare (Comparison.eq.negatedIf f.negated) (.lower (.column c))
      (.lower (.parameter (.text operand)))

/-- The day of a text compares with that of the operand. -/
def onDate (c : Column) : Condition Value :=
  match f.operator with
  | .pattern => f.likeText (.column c)
  | .compare o =>
    .compare (o.negatedIf f.negated) (.day (.column c)) (.day (.parameter f.value))

/-- A duration exists and compares with the operand. -/
def onDuration : Condition Value :=
  match f.operator with
  | .pattern => f.likeText (.column .duration)
  | .compare o =>
    .group (.all [.present (.column .duration),
      .compare (o.negatedIf f.negated) (.column .duration) (.parameter f.value)])

end Filter

/-- The condition of a leaf. -/
def Condition.ofFilter (f : Filter) : Condition Value :=
  match f.field with
  | .tag => .like f.negated (.column .tags) (.parameter (.text (tagPattern f.value.toText)))
  | .postId => f.onNumber (.column .postId)
  | .score => f.onNumber (.column .score)
  | .width => f.onNumber (.column .width)
  | .height => f.onNumber (.column .height)
  | .fileSize => f.onNumber (.column .fileSize)
  | .tagCount => f.onNumber .tagCount
  | .aspectRatio => f.onNumber .aspectRatio
  | .duration => f.onDuration
  | .owner => f.onText .owner
  | .title => f.onText .title
  | .rating => f.onText .rating
  | .fileType => f.onText .fileType
  | .createdAt => f.onDate .createdAt
  | .downloadedAt => f.onDate .downloadedAt
  | .matchingTags | .unknown _ => .always

/-- Parts joined by AND or by OR, each in parentheses; no parts hold always. -/
def Condition.joined (join : List (Condition Value) → Condition Value) :
    List (Condition Value) → Condition Value
  | [] => .always
  | cs => join (cs.map .group)

mutual

/-- The condition of a tree. -/
def Condition.ofTree : Tree Filter → Condition Value
  | .leaf f => ofFilter f
  | .and parts => joined .all (ofTrees parts)
  | .or parts => joined .any (ofTrees parts)

/-- The conditions of several trees. -/
def Condition.ofTrees : List (Tree Filter) → List (Condition Value)
  | [] => []
  | t :: ts => ofTree t :: ofTrees ts

end

end TagSearch

import TagSearch.Predicate.OfQuery

/-!
# Placeholders

The SQL of a filter tree shows nothing of the query's texts: no operand and no name of an unknown field.
Trees of one shape whose leaves are alike in everything but their operands, `Filter.IsVariant`, have the
same SQL.  The operands are its parameters: each leaf that the database is asked about has one, which is
made from that leaf alone, and the SQL has a question mark for each of them.

`sql_shows_no_operands` says both of every filter tree.
-/

namespace TagSearch

/-- The number of question marks in a text. -/
def placeholders (text : String) : Nat := text.toList.count '?'

@[simp] theorem placeholders_append (a b : String) :
    placeholders (a ++ b) = placeholders a + placeholders b := by
  rw [placeholders, String.toList_append, List.count_append]
  rfl

theorem placeholders_intercalate {separator : String} (h : placeholders separator = 0)
    (texts : List String) :
    placeholders (separator.intercalate texts) = (texts.flatMap String.toList).count '?' := by
  induction texts with
  | nil => rfl
  | cons text texts ih =>
    cases texts with
    | nil => simp [placeholders]
    | cons other texts =>
      rw [String.intercalate_cons_cons, placeholders_append, placeholders_append, h, ih,
        Nat.add_zero, List.flatMap_cons (x := text), List.count_append, placeholders]

theorem placeholders_natText (n : Nat) : placeholders (Text.natText n) = 0 := by
  rw [placeholders, Text.natText, String.toList_ofList, List.count_eq_zero]
  intro h
  exact absurd (Nat.isDigit_of_mem_toDigits (by decide) (by decide) h) (by decide)

/-! ## Expressions and conditions -/

section

variable {α : Type}

theorem placeholders_name (c : Column) : placeholders c.name = 0 := by
  cases c <;> decide

theorem Scalar.placeholders_sql (s : Scalar α) : placeholders s.sql = s.parameters.length := by
  induction s with
  | column c => exact placeholders_name c
  | parameter a =>
    rw [sql, parameters, List.length_singleton]
    decide
  | number n => exact placeholders_natText n
  | length s ih | withoutCommas s ih | asReal s ih | asText s ih | lower s ih | day s ih
  | group s ih =>
    rw [sql, parameters, placeholders_append, placeholders_append, ih]
    exact Nat.zero_add _
  | add s t hs ht | sub s t hs ht | div s t hs ht =>
    rw [sql, parameters, placeholders_append, placeholders_append, hs, ht, List.length_append]
    rfl

namespace Condition

theorem placeholders_likeSql (negated : Bool) : placeholders (likeSql negated) = 0 := by
  cases negated <;> decide

mutual

/-- A condition has a question mark for each of its parameters. -/
theorem placeholders_sql : (c : Condition α) → placeholders c.sql = c.parameters.length
  | .always => by
    rw [sql, parameters, List.length_nil]
    decide
  | .compare comparison s t => by
    have hcomparison : placeholders comparison.sql = 0 := by cases comparison <;> decide
    rw [sql, parameters, List.length_append]
    simp only [placeholders_append, Scalar.placeholders_sql, hcomparison]
    rfl
  | .like negated s pattern => by
    rw [sql, parameters, List.length_append]
    simp only [placeholders_append, Scalar.placeholders_sql, placeholders_likeSql]
    rfl
  | .present s => by
    rw [sql, parameters, placeholders_append, Scalar.placeholders_sql]
    rfl
  | .group c => by
    rw [sql, parameters, placeholders_append, placeholders_append, placeholders_sql c]
    exact Nat.zero_add _
  | .all cs => by
    rw [sql, parameters, placeholders_intercalate rfl, placeholders_sqls cs]
  | .any cs => by
    rw [sql, parameters, placeholders_intercalate rfl, placeholders_sqls cs]

theorem placeholders_sqls : (cs : List (Condition α)) →
    ((sqls cs).flatMap String.toList).count '?' = (parametersOf cs).length
  | [] => rfl
  | c :: cs => by
    have hc : c.sql.toList.count '?' = c.parameters.length := placeholders_sql c
    rw [sqls, parametersOf, List.flatMap_cons, List.count_append, List.length_append, hc,
      placeholders_sqls cs]

end

end Condition

end

/-! ## The parameter of a leaf -/

namespace Filter

/-- The database is asked about the leaf: it is neither for the query alone to decide nor on a field that
does not exist. -/
def isAsked (f : Filter) : Bool :=
  match f.field with
  | .matchingTags | .unknown _ => false
  | _ => true

/-- The operand as a text, with `%` in the place of each `*`. -/
def wildcardText (f : Filter) : String :=
  String.ofList (f.value.toText.toList.map fun c => if c = '*' then '%' else c)

/-- The parameter of a leaf that the database is asked about: the tag between quotation marks, anywhere in
the text of a tag list; the text of the operand, and of any other operand the operand itself unless it is a
pattern. -/
def parameter (f : Filter) : Value :=
  match f.field with
  | .tag => .text ("%\"" ++ f.wildcardText ++ "\"%")
  | .owner | .title | .rating | .fileType =>
    .text (if '*' ∈ f.value.toText.toList then f.wildcardText else f.value.toText)
  | .postId | .score | .width | .height | .fileSize | .tagCount | .aspectRatio | .duration | .createdAt
  | .downloadedAt =>
    match f.operator with
    | .pattern => .text f.wildcardText
    | .compare _ => f.value
  | .matchingTags | .unknown _ => f.value

/-- The parameters of the leaf's condition. -/
def parameters (f : Filter) : List Value := if f.isAsked then [f.parameter] else []

end Filter

theorem starsToPercents_eq_wildcardText (f : Filter) :
    starsToPercents f.value.toText = f.wildcardText := by
  unfold starsToPercents Filter.wildcardText
  simp only [beq_iff_eq]

namespace Condition

theorem parameters_onNumber (f : Filter) {s : Scalar Value} (hs : s.parameters = []) :
    (f.onNumber s).parameters =
      [match f.operator with | .pattern => .text f.wildcardText | .compare _ => f.value] := by
  unfold Filter.onNumber
  cases f.operator with
  | pattern =>
    simp [Filter.likeText, Filter.patternParameter, parameters, Scalar.parameters, hs,
      starsToPercents_eq_wildcardText]
  | compare c => simp [parameters, Scalar.parameters, hs]

theorem parameters_onDate (f : Filter) (c : Column) :
    (f.onDate c).parameters =
      [match f.operator with | .pattern => .text f.wildcardText | .compare _ => f.value] := by
  unfold Filter.onDate
  rw [← starsToPercents_eq_wildcardText]
  cases f.operator with
  | pattern => rfl
  | compare o => rfl

theorem parameters_onDuration (f : Filter) :
    f.onDuration.parameters =
      [match f.operator with | .pattern => .text f.wildcardText | .compare _ => f.value] := by
  unfold Filter.onDuration
  rw [← starsToPercents_eq_wildcardText]
  cases f.operator with
  | pattern => rfl
  | compare o => rfl

theorem parameters_onText (f : Filter) (c : Column) :
    (f.onText c).parameters =
      [.text (if '*' ∈ f.value.toText.toList then f.wildcardText else f.value.toText)] := by
  unfold Filter.onText
  rw [← starsToPercents_eq_wildcardText]
  dsimp only
  simp only [List.contains_iff_mem]
  split
  · rfl
  · rfl

theorem parameters_ofFilter (f : Filter) : (ofFilter f).parameters = f.parameters := by
  unfold ofFilter Filter.parameters Filter.isAsked Filter.parameter
  cases f.field with
  | tag =>
    rw [tagPattern, starsToPercents_eq_wildcardText]
    rfl
  | postId | score | width | height | fileSize | tagCount | aspectRatio =>
    exact parameters_onNumber f rfl
  | duration => exact parameters_onDuration f
  | owner | title | rating | fileType => exact parameters_onText f _
  | createdAt | downloadedAt => exact parameters_onDate f _
  | matchingTags | unknown => rfl

theorem parametersOf_map_group (cs : List (Condition Value)) :
    parametersOf (cs.map .group) = parametersOf cs := by
  induction cs with
  | nil => rfl
  | cons c cs ih => rw [List.map_cons, parametersOf, parametersOf, ih, parameters]

theorem parameters_joined {join : List (Condition Value) → Condition Value}
    (hjoin : ∀ cs, (join cs).parameters = parametersOf cs) (cs : List (Condition Value)) :
    (joined join cs).parameters = parametersOf cs := by
  cases cs with
  | nil => rfl
  | cons c cs =>
    show (join ((c :: cs).map .group)).parameters = parametersOf (c :: cs)
    rw [hjoin, parametersOf_map_group]

mutual

/-- The parameters of a tree's condition are those of its leaves. -/
theorem parameters_ofTree : (t : Tree Filter) →
    (ofTree t).parameters = t.leaves.flatMap Filter.parameters
  | .leaf f => by
    rw [ofTree, Tree.leaves, List.flatMap_singleton, parameters_ofFilter]
  | .and parts => by
    rw [ofTree, Tree.leaves, parameters_joined fun _ => rfl, parameters_ofTrees parts]
  | .or parts => by
    rw [ofTree, Tree.leaves, parameters_joined fun _ => rfl, parameters_ofTrees parts]

theorem parameters_ofTrees : (ts : List (Tree Filter)) →
    parametersOf (ofTrees ts) = (Tree.leavesOf ts).flatMap Filter.parameters
  | [] => rfl
  | t :: ts => by
    rw [ofTrees, parametersOf, Tree.leavesOf, List.flatMap_append, parameters_ofTree t,
      parameters_ofTrees ts]

end

end Condition

theorem Filter.flatMap_parameters (fs : List Filter) :
    fs.flatMap Filter.parameters = (fs.filter Filter.isAsked).map Filter.parameter := by
  induction fs with
  | nil => rfl
  | cons f fs ih =>
    rw [List.flatMap_cons, ih, Filter.parameters]
    cases hf : f.isAsked <;> simp [hf]

/-! ## Trees of one shape -/

namespace Tree

variable {α β : Type}

mutual

/-- The trees have the same conjunctions and alternatives, and their leaves are related one by one. -/
def Corresponds (R : α → β → Prop) : Tree α → Tree β → Prop
  | .leaf a, .leaf b => R a b
  | .and ts, .and us => AllCorrespond R ts us
  | .or ts, .or us => AllCorrespond R ts us
  | _, _ => False

/-- So do several trees, one by one. -/
def AllCorrespond (R : α → β → Prop) : List (Tree α) → List (Tree β) → Prop
  | [], [] => True
  | t :: ts, u :: us => t.Corresponds R u ∧ AllCorrespond R ts us
  | _, _ => False

end

end Tree

/-- The leaves differ in their operands and in the names of unknown fields at most; of two texts both
have a star or none has. -/
structure Filter.IsVariant (f g : Filter) : Prop where
  field : f.field = g.field ∨ ∃ a b, f.field = .unknown a ∧ g.field = .unknown b
  operator : f.operator = g.operator
  negated : f.negated = g.negated
  star : f.field.kind? = some .text →
    f.value.toText.toList.contains '*' = g.value.toText.toList.contains '*'

namespace Filter.IsVariant

variable {f g : Filter}

theorem sql_likeText (h : f.IsVariant g) (s : Scalar Value) :
    (f.likeText s).sql = (g.likeText s).sql := by
  unfold likeText
  rw [h.negated]
  rfl

theorem sql_onNumber (h : f.IsVariant g) (s : Scalar Value) :
    (f.onNumber s).sql = (g.onNumber s).sql := by
  unfold onNumber
  rw [h.operator, h.negated]
  cases g.operator with
  | pattern => exact h.sql_likeText s
  | compare c => rfl

theorem sql_onDate (h : f.IsVariant g) (c : Column) : (f.onDate c).sql = (g.onDate c).sql := by
  unfold onDate
  rw [h.operator, h.negated]
  cases g.operator with
  | pattern => exact h.sql_likeText _
  | compare o => rfl

theorem sql_onDuration (h : f.IsVariant g) : f.onDuration.sql = g.onDuration.sql := by
  unfold onDuration
  rw [h.operator, h.negated]
  cases g.operator with
  | pattern => exact h.sql_likeText _
  | compare o => rfl

theorem sql_onText (h : f.IsVariant g) (hf : f.field.kind? = some .text) (c : Column) :
    (f.onText c).sql = (g.onText c).sql := by
  unfold onText
  dsimp only
  rw [h.star hf, h.negated]
  split
  · rfl
  · rfl

theorem sql_ofFilter (h : f.IsVariant g) :
    (Condition.ofFilter f).sql = (Condition.ofFilter g).sql := by
  unfold Condition.ofFilter
  obtain heq | ⟨a, b, hf, hg⟩ := h.field
  · rw [← heq]
    cases hf : f.field with
    | tag =>
      rw [h.negated]
      rfl
    | postId | score | width | height | fileSize | tagCount | aspectRatio => exact h.sql_onNumber _
    | duration => exact h.sql_onDuration
    | owner | title | rating | fileType => exact h.sql_onText (hf ▸ rfl) _
    | createdAt | downloadedAt => exact h.sql_onDate _
    | matchingTags | unknown => rfl
  · rw [hf, hg]

end Filter.IsVariant

namespace Condition

theorem sqls_map_group {α : Type} (cs : List (Condition α)) :
    sqls (cs.map .group) = (sqls cs).map fun text => "(" ++ text ++ ")" := by
  induction cs with
  | nil => rfl
  | cons c cs ih => rw [List.map_cons, sqls, sqls, List.map_cons, ih, sql]

theorem sql_joined_congr {join : List (Condition Value) → Condition Value}
    (hjoin : ∀ cs ds, sqls cs = sqls ds → (join cs).sql = (join ds).sql)
    {cs ds : List (Condition Value)} (h : sqls cs = sqls ds) :
    (joined join cs).sql = (joined join ds).sql := by
  match cs, ds, h with
  | [], [], _ => rfl
  | c :: cs, d :: ds, h =>
    refine hjoin ((c :: cs).map .group) ((d :: ds).map .group) ?_
    rw [sqls_map_group, sqls_map_group, h]

mutual

/-- Trees of one shape whose leaves differ in their operands at most have the same SQL. -/
theorem sql_ofTree_congr : (t : Tree Filter) → ∀ u, t.Corresponds Filter.IsVariant u →
    (ofTree t).sql = (ofTree u).sql
  | .leaf f, u, h => by
    cases u with
    | leaf g =>
      rw [ofTree, ofTree]
      exact Filter.IsVariant.sql_ofFilter h
    | _ => exact h.elim
  | .and ts, u, h => by
    cases u with
    | and us =>
      rw [ofTree, ofTree]
      refine sql_joined_congr (fun cs ds hcs => ?_) (sqls_ofTrees_congr ts us h)
      rw [sql, sql, hcs]
    | _ => exact h.elim
  | .or ts, u, h => by
    cases u with
    | or us =>
      rw [ofTree, ofTree]
      refine sql_joined_congr (fun cs ds hcs => ?_) (sqls_ofTrees_congr ts us h)
      rw [sql, sql, hcs]
    | _ => exact h.elim

theorem sqls_ofTrees_congr : (ts : List (Tree Filter)) → ∀ us,
    Tree.AllCorrespond Filter.IsVariant ts us → sqls (ofTrees ts) = sqls (ofTrees us)
  | [], us, h => by
    cases us with
    | nil => rfl
    | cons u us => exact h.elim
  | t :: ts, us, h => by
    cases us with
    | nil => exact h.elim
    | cons u us =>
      rw [ofTrees, ofTrees, sqls, sqls, sql_ofTree_congr t u h.1, sqls_ofTrees_congr ts us h.2]

end

end Condition

/-- Of any two trees of one shape whose leaves differ in their operands at most, and in the names of
unknown fields, the SQL is the same.  The SQL of a tree has a question mark for each of its parameters,
which are made from the leaves that the database is asked about, one by one, from left to right. -/
theorem sql_shows_no_operands :
    (∀ t u : Tree Filter, t.Corresponds Filter.IsVariant u →
      (Condition.ofTree t).sql = (Condition.ofTree u).sql) ∧
    ∀ t : Tree Filter,
      placeholders (Condition.ofTree t).sql = (Condition.ofTree t).parameters.length ∧
      (Condition.ofTree t).parameters.length = t.leaves.countP Filter.isAsked ∧
      (Condition.ofTree t).parameters = (t.leaves.filter Filter.isAsked).map Filter.parameter := by
  refine ⟨Condition.sql_ofTree_congr, fun t => ?_⟩
  have hparameters : (Condition.ofTree t).parameters =
      (t.leaves.filter Filter.isAsked).map Filter.parameter := by
    rw [Condition.parameters_ofTree, Filter.flatMap_parameters]
  refine ⟨Condition.placeholders_sql _, ?_, hparameters⟩
  rw [hparameters, List.length_map, List.countP_eq_length_filter]

/-- An owner with SQL in it and one without, alternatives to unknown fields of different names. -/
theorem sql_shows_no_operands_owner :
    (Tree.or [.leaf ⟨.owner, .text "x' OR 1=1 --?", .compare .eq, true⟩,
        .leaf ⟨.unknown "a?", .text "1", .compare .eq, false⟩]).Corresponds Filter.IsVariant
      (.or [.leaf ⟨.owner, .text "alice", .compare .eq, true⟩,
        .leaf ⟨.unknown "b", .real .zero, .compare .eq, false⟩]) ∧
    (Condition.ofTree (.or [.leaf ⟨.owner, .text "x' OR 1=1 --?", .compare .eq, true⟩,
        .leaf ⟨.unknown "a?", .text "1", .compare .eq, false⟩])).sql =
      (Condition.ofTree (.or [.leaf ⟨.owner, .text "alice", .compare .eq, true⟩,
        .leaf ⟨.unknown "b", .real .zero, .compare .eq, false⟩])).sql := by
  have howner : Filter.IsVariant ⟨.owner, .text "x' OR 1=1 --?", .compare .eq, true⟩
      ⟨.owner, .text "alice", .compare .eq, true⟩ := ⟨.inl rfl, rfl, rfl, fun _ => by decide⟩
  have hunknown : Filter.IsVariant ⟨.unknown "a?", .text "1", .compare .eq, false⟩
      ⟨.unknown "b", .real .zero, .compare .eq, false⟩ :=
    ⟨.inr ⟨_, _, rfl, rfl⟩, rfl, rfl, fun h => by cases h⟩
  have h := And.intro howner (And.intro hunknown trivial)
  exact ⟨h, sql_shows_no_operands.1 _ _ h⟩

end TagSearch

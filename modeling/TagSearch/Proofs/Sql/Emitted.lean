import TagSearch.Proofs.Predicate.TreeTruth
import TagSearch.Proofs.Sql.Reader

/-!
# The SQL of conditions

`Parses text params n p` says that a text is the phrase `p` of level `n`, wherever it stands.  Phrases
are put together as their texts are: by an operator (`Parses.joined`), in parentheses
(`Parses.closed`), by a test for null (`Parses.present`).

The text of a condition need not be read as that condition, since operators of one level group from
the left; but it is read as one of the same truth.  `IsReadable n c` says so of a condition, and
`isReadable_ofTree` proves it of the condition of every filter tree.
-/

namespace TagSearch

namespace Sql

/-! ## Phrases -/

/-- A text is a phrase of a level, in front of anything that does not continue a word. -/
def Parses (text : String) (params : List Value) (n : Nat) (p : Phrase) : Prop :=
  ∃ ls, Lexes text.toList params ls ∧ Derives n ls p

/-- The text in front of an expression in parentheses. -/
def Call.sql : Call → String
  | group => "("
  | length => "length("
  | lower => "LOWER("
  | date => "DATE("
  | replace => "replace("
  | cast => "CAST("

/-- The text behind an expression in parentheses. -/
def Ending.sql : Ending → String
  | plain => ")"
  | commas => ", ',', '')"
  | real => " AS REAL)"
  | text => " AS TEXT)"

theorem Call.opens_sql (call : Call) : Opens call.sql.toList call.lexemes := by
  apply opens_of_readPart
  cases call <;> rfl

theorem Ending.opens_sql (ending : Ending) : Opens ending.sql.toList ending.lexemes := by
  apply opens_of_readPart
  cases ending <;> rfl

theorem Ending.sealed_sql (ending : Ending) : Sealed ending.sql.toList := by
  cases ending <;> rfl

theorem Opens.lexes_nil {a : List Char} {ls : List Lexeme} (h : Opens a ls) : Lexes a [] ls :=
  fun rest more _ => h rest more

namespace Parses

variable {text before behind : String} {params first second : List Value} {n : Nat}
  {p q r : Phrase}

theorem of_le {m : Nat} (hmn : m ≤ n) (h : Parses text params n p) : Parses text params m p := by
  obtain ⟨ls, hl, hd⟩ := h
  exact ⟨ls, hl, hd.of_le hmn⟩

theorem reads {c : Condition Value} (h : Parses text params n (.condition c)) :
    Reads text params c := by
  obtain ⟨ls, hl, hd⟩ := h
  exact ⟨ls, hl.lex_eq, hd.of_le (Nat.zero_le n)⟩

theorem joined (k : Connective) (hp : Parses before first k.level p)
    (hq : Parses behind second (k.level + 1) q) (h : k.join? p q = some r) :
    Parses (before ++ (" " ++ k.sql ++ " ") ++ behind) (first ++ second) k.level r := by
  obtain ⟨lp, hlp, hdp⟩ := hp
  obtain ⟨lq, hlq, hdq⟩ := hq
  have hseal : Sealed ((" " ++ k.sql ++ " ").toList ++ behind.toList) := by
    simp [Sealed, isWordChar]
  refine ⟨lp ++ k.lexemes ++ lq, ?_, .joined hdp hdq h⟩
  rw [String.toList_append, String.toList_append, List.append_assoc, List.append_assoc]
  exact hlp.append hseal (k.opens_sql.lexes hlq)

theorem closed (call : Call) (ending : Ending) (hp : Parses text params 0 p)
    (h : close? call ending p = some q) :
    Parses (call.sql ++ text ++ ending.sql) params 6 q := by
  obtain ⟨ls, hl, hd⟩ := hp
  refine ⟨call.lexemes ++ ls ++ ending.lexemes, ?_, .closed hd h⟩
  have hinside := hl.append ending.sealed_sql ending.opens_sql.lexes_nil
  rw [String.toList_append, String.toList_append, List.append_assoc, List.append_assoc]
  rw [← List.append_nil params]
  exact call.opens_sql.lexes hinside

theorem present {s : Scalar Value} (hs : Parses text params 2 (.value s)) :
    Parses (text ++ " IS NOT NULL") params 2 (.condition (.present s)) := by
  obtain ⟨ls, hl, hd⟩ := hs
  have hread : readPart (.word []) " IS NOT NULL".toList =
      some ([.keyword .is, .keyword .not], .word "NULL".toList) := by rfl
  have htest : Lexes " IS NOT NULL".toList [] isNotNull := lexes_of_readPart hread
  refine ⟨ls ++ isNotNull, ?_, .present hd⟩
  rw [String.toList_append, ← List.append_nil params]
  exact hl.append rfl htest

end Parses

/-! ## Expressions -/

/-- The text of an expression is that expression at a level. -/
def IsScalar (n : Nat) (s : Scalar Value) : Prop := Parses s.sql s.parameters n (.value s)

theorem isScalar_column (c : Column) : IsScalar 6 (.column c) := by
  have hread : readPart (.word []) c.name.toList = some ([], .word c.name.toList) := by
    cases c <;> rfl
  have hword : endWord c.name.toList = [.column c] := by
    cases c <;> rfl
  refine ⟨[.column c], ?_, .atom rfl⟩
  have hlexes := lexes_of_readPart hread
  rwa [hword] at hlexes

theorem isScalar_parameter (v : Value) : IsScalar 6 (.parameter v) := by
  refine ⟨[.parameter v], ?_, .atom rfl⟩
  intro rest more _
  have hstep : step? (.word []) '?' (v :: more) = some ([.parameter v], .word [], more) := by rfl
  rw [Scalar.sql]
  show lexFrom (.word []) ('?' :: rest) (v :: more) = _
  rw [lexFrom, hstep]
  rfl

theorem isScalar_one : IsScalar 6 (.number 1) := by
  have hread : readPart (.word []) (Text.natText 1).toList = some ([], .word ['1']) := by rfl
  exact ⟨[.number 1], lexes_of_readPart hread, .atom rfl⟩

theorem sql_of_close? {call : Call} {ending : Ending} {s t : Scalar Value}
    (h : close? call ending (.value s) = some (.value t)) :
    t.sql = call.sql ++ s.sql ++ ending.sql ∧ t.parameters = s.parameters := by
  cases call <;> cases ending <;> cases h <;> exact ⟨by rw [Scalar.sql, Call.sql, Ending.sql], rfl⟩

theorem sql_of_join? {k : Connective} {r s t : Scalar Value}
    (h : k.join? (.value s) (.value t) = some (.value r)) :
    r.sql = s.sql ++ (" " ++ k.sql ++ " ") ++ t.sql ∧
      r.parameters = s.parameters ++ t.parameters := by
  cases k <;> cases h <;> exact ⟨by rw [Scalar.sql]; rfl, rfl⟩

namespace IsScalar

variable {n : Nat} {r s t : Scalar Value}

theorem of_le {m : Nat} (hmn : m ≤ n) (h : IsScalar n s) : IsScalar m s := Parses.of_le hmn h

theorem closed (call : Call) (ending : Ending) (hs : IsScalar n s)
    (h : close? call ending (.value s) = some (.value t)) : IsScalar 6 t := by
  obtain ⟨hsql, hparams⟩ := sql_of_close? h
  unfold IsScalar
  rw [hsql, hparams]
  exact Parses.closed call ending (hs.of_le (Nat.zero_le n)) h

theorem joined (k : Connective) (hs : IsScalar k.level s) (ht : IsScalar (k.level + 1) t)
    (h : k.join? (.value s) (.value t) = some (.value r)) : IsScalar k.level r := by
  obtain ⟨hsql, hparams⟩ := sql_of_join? h
  unfold IsScalar
  rw [hsql, hparams]
  exact Parses.joined k hs ht h

theorem asText (hs : IsScalar n s) : IsScalar 6 (.asText s) := hs.closed .cast .text rfl

theorem lower (hs : IsScalar n s) : IsScalar 6 (.lower s) := hs.closed .lower .plain rfl

theorem day (hs : IsScalar n s) : IsScalar 6 (.day s) := hs.closed .date .plain rfl

end IsScalar

theorem isScalar_tagCount : IsScalar 6 Scalar.tagCount := by
  have htags := isScalar_column .tags
  have hall : IsScalar 6 (.length (.column .tags)) := htags.closed .length .plain rfl
  have hbare : IsScalar 6 (.withoutCommas (.column .tags)) := htags.closed .replace .commas rfl
  have hrest : IsScalar 6 (.length (.withoutCommas (.column .tags))) :=
    hbare.closed .length .plain rfl
  have hcommas : IsScalar 4 (.sub (.length (.column .tags))
      (.length (.withoutCommas (.column .tags)))) :=
    (hall.of_le (by decide)).joined .minus (hrest.of_le (by decide)) rfl
  have hsum := hcommas.joined .plus (isScalar_one.of_le (by decide)) rfl
  exact hsum.closed .group .plain rfl

theorem isScalar_aspectRatio : IsScalar 6 Scalar.aspectRatio := by
  have hwidth := (isScalar_column .width).closed .cast .real rfl
  have hheight := (isScalar_column .height).closed .cast .real rfl
  have hratio := (hwidth.of_le (by decide)).joined .slash hheight rfl
  exact hratio.closed .group .plain rfl

/-! ## Conditions -/

/-- The text of a condition is at a level a condition of the same truth. -/
def IsReadable (n : Nat) (c : Condition Value) : Prop :=
  ∃ d, Parses c.sql c.parameters n (.condition d) ∧
    ∀ today row, d.truth today row = c.truth today row

theorem sql_of_join?_condition {k : Connective} {s t : Scalar Value} {c : Condition Value}
    (h : k.join? (.value s) (.value t) = some (.condition c)) :
    c.sql = s.sql ++ (" " ++ k.sql ++ " ") ++ t.sql ∧
      c.parameters = s.parameters ++ t.parameters := by
  cases k <;> cases h <;>
    exact ⟨by rw [Condition.sql, Connective.sql]; simp only [String.append_assoc], rfl⟩

namespace IsReadable

variable {n : Nat} {c : Condition Value} {s t : Scalar Value}

theorem of_le {m : Nat} (hmn : m ≤ n) (h : IsReadable n c) : IsReadable m c := by
  obtain ⟨d, hp, ht⟩ := h
  exact ⟨d, hp.of_le hmn, ht⟩

theorem of_join? (k : Connective) (hs : IsScalar k.level s) (ht : IsScalar (k.level + 1) t)
    (h : k.join? (.value s) (.value t) = some (.condition c)) : IsReadable k.level c := by
  obtain ⟨hsql, hparams⟩ := sql_of_join?_condition h
  have hp := Parses.joined k hs ht h
  rw [← hsql, ← hparams] at hp
  exact ⟨c, hp, fun _ _ => rfl⟩

theorem compare (comparison : Comparison) (hs : IsScalar 6 s) (ht : IsScalar 6 t) :
    IsReadable 2 (.compare comparison s t) := by
  have hlevel : 2 ≤ (Connective.compare comparison).level ∧
      (Connective.compare comparison).level + 1 ≤ 6 := by
    cases comparison <;> decide
  have h := of_join? (.compare comparison) (hs.of_le (by omega)) (ht.of_le hlevel.2) rfl
  exact h.of_le hlevel.1

theorem like (negated : Bool) (hs : IsScalar 6 s) (ht : IsScalar 6 t) :
    IsReadable 2 (.like negated s t) := by
  have hs2 : IsScalar 2 s := hs.of_le (by decide)
  have ht3 : IsScalar 3 t := ht.of_le (by decide)
  exact of_join? (.like negated) hs2 ht3 rfl

theorem present (hs : IsScalar 6 s) : IsReadable 2 (.present s) := by
  refine ⟨.present s, ?_, fun _ _ => rfl⟩
  rw [Condition.sql, Condition.parameters]
  exact Parses.present (hs.of_le (by decide))

theorem group (h : IsReadable n c) : IsReadable 6 (.group c) := by
  obtain ⟨d, hp, ht⟩ := h
  refine ⟨.group d, ?_, ht⟩
  rw [Condition.sql, Condition.parameters]
  exact Parses.closed .group .plain (hp.of_le (Nat.zero_le n)) rfl

theorem always : IsReadable 2 .always := by
  -- No spaces stand around this equals sign, so `Parses.joined` does not apply.
  have hone : Derives 6 [.number 1] (.value (.number 1)) := .atom rfl
  have hd : Derives 2 [.number 1, .comparison .eq, .number 1]
      (.condition (.compare .eq (.number 1) (.number 1))) :=
    .joined (k := .compare .eq) (hone.of_le (by decide)) (hone.of_le (by decide)) rfl
  have hread : readPart (.word []) "1=1".toList =
      some ([.number 1, .comparison .eq], .word ['1']) := by rfl
  refine ⟨_, ⟨_, lexes_of_readPart hread, hd⟩, ?_⟩
  intro today row
  show Condition.compareCells .eq (.integer 1) (.integer 1) = .holds
  decide +kernel

/-- Conditions behind a first one with an operator in front of each, which groups them from the
left. -/
theorem chain (k : Connective) (pair : Condition Value → Condition Value → Condition Value)
    (op : Truth → Truth → Truth)
    (hjoin : ∀ a b, k.join? (.condition a) (.condition b) = some (.condition (pair a b)))
    (hpair : ∀ today row a b, (pair a b).truth today row =
      op (a.truth today row) (b.truth today row)) (cs : List (Condition Value))
    (hcs : ∀ c ∈ cs, IsReadable (k.level + 1) c) {text : String} {params : List Value}
    {d : Condition Value} (hd : Parses text params k.level (.condition d)) :
    ∃ e, Parses ((" " ++ k.sql ++ " ").intercalate (text :: Condition.sqls cs))
        (params ++ Condition.parametersOf cs) k.level (.condition e) ∧
      ∀ today row, e.truth today row =
        (cs.map fun c => c.truth today row).foldl op (d.truth today row) := by
  -- What has been read so far is the left operand of the next operator.
  induction cs generalizing text params d with
  | nil =>
    refine ⟨d, ?_, fun _ _ => rfl⟩
    simpa [Condition.sqls, Condition.parametersOf] using hd
  | cons c cs ih =>
    obtain ⟨c', hc, htruth⟩ := hcs c (by simp)
    have hjoined := Parses.joined k hd hc (hjoin d c')
    obtain ⟨e, he, hall⟩ := ih (fun b hb => hcs b (by simp [hb])) hjoined
    refine ⟨e, ?_, ?_⟩
    · rw [String.intercalate_cons_append] at he
      simpa [Condition.sqls, Condition.parametersOf] using he
    · intro today row
      rw [hall, hpair, htruth]
      rfl

theorem all {c : Condition Value} {cs : List (Condition Value)}
    (h : ∀ b ∈ c :: cs, IsReadable 2 b) : IsReadable 1 (.all (c :: cs)) := by
  obtain ⟨d, hd, hfirst⟩ := h c (by simp)
  obtain ⟨e, he, htruth⟩ := chain .and (fun a b => .all [a, b]) Truth.and (fun _ _ => rfl)
    (fun _ _ _ _ => by simp [Condition.truth, Condition.truthOfAll]) cs
    (fun b hb => h b (by simp [hb])) (hd.of_le (by decide))
  refine ⟨e, ?_, ?_⟩
  · rw [Condition.sql, Condition.parameters, Condition.sqls, Condition.parametersOf]
    exact he
  · intro today row
    rw [htruth, hfirst, Truth.foldl_and, Condition.truth, Condition.truthOfAll,
      Condition.truthOfAll_eq_foldr]

theorem any {c : Condition Value} {cs : List (Condition Value)}
    (h : ∀ b ∈ c :: cs, IsReadable 1 b) : IsReadable 0 (.any (c :: cs)) := by
  obtain ⟨d, hd, hfirst⟩ := h c (by simp)
  obtain ⟨e, he, htruth⟩ := chain .or (fun a b => .any [a, b]) Truth.or (fun _ _ => rfl)
    (fun _ _ _ _ => by simp [Condition.truth, Condition.truthOfAny]) cs
    (fun b hb => h b (by simp [hb])) (hd.of_le (by decide))
  refine ⟨e, ?_, ?_⟩
  · rw [Condition.sql, Condition.parameters, Condition.sqls, Condition.parametersOf]
    exact he
  · intro today row
    rw [htruth, hfirst, Truth.foldl_or, Condition.truth, Condition.truthOfAny,
      Condition.truthOfAny_eq_foldr]

end IsReadable

/-! ## Filter trees -/

theorem isReadable_likeText (f : Filter) {s : Scalar Value} (hs : IsScalar 6 s) :
    IsReadable 2 (f.likeText s) := .like f.negated hs.asText (isScalar_parameter _)

theorem isReadable_onNumber (f : Filter) {s : Scalar Value} (hs : IsScalar 6 s) :
    IsReadable 2 (f.onNumber s) := by
  unfold Filter.onNumber
  split
  · exact isReadable_likeText f hs
  · exact .compare _ hs (isScalar_parameter _)

theorem isReadable_onText (f : Filter) (c : Column) : IsReadable 2 (f.onText c) := by
  unfold Filter.onText
  dsimp only
  split
  · exact .like f.negated (isScalar_column c) (isScalar_parameter _)
  · exact .compare _ (isScalar_column c).lower (isScalar_parameter _).lower

theorem isReadable_onDate (f : Filter) (c : Column) : IsReadable 2 (f.onDate c) := by
  unfold Filter.onDate
  split
  · exact isReadable_likeText f (isScalar_column c)
  · exact .compare _ (isScalar_column c).day (isScalar_parameter _).day

theorem isReadable_onDuration (f : Filter) : IsReadable 2 f.onDuration := by
  have hcolumn := isScalar_column .duration
  unfold Filter.onDuration
  split
  · exact isReadable_likeText f hcolumn
  · next o _ =>
    have hall : IsReadable 1 (.all [.present (.column .duration),
        .compare (o.negatedIf f.negated) (.column .duration) (.parameter f.value)]) := by
      apply IsReadable.all
      intro b hb
      simp only [List.mem_cons, List.not_mem_nil, or_false] at hb
      rcases hb with rfl | rfl
      · exact .present hcolumn
      · exact .compare _ hcolumn (isScalar_parameter _)
    exact hall.group.of_le (by decide)

/-- The condition of a leaf binds at least as tightly as a comparison. -/
theorem isReadable_ofFilter (f : Filter) : IsReadable 2 (.ofFilter f) := by
  have hnumber (c : Column) := isReadable_onNumber f (isScalar_column c)
  have htext := isReadable_onText f
  have hdate := isReadable_onDate f
  unfold Condition.ofFilter
  split
  · exact .like f.negated (isScalar_column .tags) (isScalar_parameter _)
  · exact hnumber .postId
  · exact hnumber .score
  · exact hnumber .width
  · exact hnumber .height
  · exact hnumber .fileSize
  · exact isReadable_onNumber f isScalar_tagCount
  · exact isReadable_onNumber f isScalar_aspectRatio
  · exact isReadable_onDuration f
  · exact htext .owner
  · exact htext .title
  · exact htext .rating
  · exact htext .fileType
  · exact hdate .createdAt
  · exact hdate .downloadedAt
  · exact .always
  · exact .always

theorem isReadable_joined {join : List (Condition Value) → Condition Value}
    (hjoin : ∀ c cs, (∀ b ∈ c :: cs, IsReadable 2 b) → IsReadable 0 (join (c :: cs)))
    {cs : List (Condition Value)} (hcs : ∀ c ∈ cs, IsReadable 0 c) :
    IsReadable 0 (.joined join cs) := by
  cases cs with
  | nil => exact IsReadable.always.of_le (by decide)
  | cons c cs =>
    apply hjoin
    intro b hb
    obtain ⟨a, ha, rfl⟩ := List.mem_map.1 (List.map_cons ▸ hb)
    exact (hcs a ha).group.of_le (by decide)

mutual

/-- The condition of a tree is read with the same truth. -/
theorem isReadable_ofTree : (t : Tree Filter) → IsReadable 0 (.ofTree t)
  | .leaf f => by
    rw [Condition.ofTree]
    exact (isReadable_ofFilter f).of_le (by decide)
  | .and parts => by
    rw [Condition.ofTree]
    refine isReadable_joined ?_ (isReadable_ofTrees parts)
    intro c cs h
    exact (IsReadable.all h).of_le (by decide)
  | .or parts => by
    rw [Condition.ofTree]
    refine isReadable_joined ?_ (isReadable_ofTrees parts)
    intro c cs h
    exact IsReadable.any fun b hb => (h b hb).of_le (by decide)

theorem isReadable_ofTrees : (ts : List (Tree Filter)) →
    ∀ c ∈ Condition.ofTrees ts, IsReadable 0 c
  | [] => fun c hc => by simp [Condition.ofTrees] at hc
  | t :: ts => fun c hc => by
    rw [Condition.ofTrees, List.mem_cons] at hc
    rcases hc with rfl | hc
    · exact isReadable_ofTree t
    · exact isReadable_ofTrees ts c hc

end

theorem isReadable_withStatus {c : Condition Value} (h : IsReadable 0 c) (status : String) :
    IsReadable 1 (c.withStatus status) := by
  apply IsReadable.all
  intro b hb
  simp only [List.mem_cons, List.not_mem_nil, or_false] at hb
  rcases hb with rfl | rfl
  · exact h.group.of_le (by decide)
  · exact .compare .eq (isScalar_column .status) (isScalar_parameter _)

end Sql

end TagSearch

import TagSearch.Query.Tree
import TagSearch.Text.Folding

/-!
# Matching tags

A query can demand that a post carries a certain number of the tags it asks for.  A tag of a post is
one of them if it fits the whole pattern: `*` stands for any run of characters but line feeds, and the
other characters are compared by simple case folding.
-/

namespace TagSearch

open Text

/-- What remains of a text when a run without line feeds is taken off its front. -/
def afterRun : List Char → List (List Char)
  | [] => [[]]
  | c :: cs => (c :: cs) :: if c == '\n' then [] else afterRun cs

/-- The whole tag fits the pattern.  Of several `*` in a row only the last looks for its run. -/
def tagFits : List Char → List Char → Bool
  | [], tag => tag.isEmpty
  | p :: pattern, tag =>
    if p == '*' then
      if pattern.head? == some '*' then tagFits pattern tag
      else (afterRun tag).any (tagFits pattern)
    else
      match tag with
      | [] => false
      | c :: rest => fold p == fold c && tagFits pattern rest

theorem mem_afterRun {s t : List Char} : s ∈ afterRun t ↔ ∃ run, run ++ s = t ∧ '\n' ∉ run := by
  induction t generalizing s with
  | nil =>
    rw [afterRun, List.mem_singleton]
    constructor
    · rintro rfl
      exact ⟨[], rfl, by simp⟩
    · rintro ⟨run, h, -⟩
      exact (List.append_eq_nil_iff.1 h).2
  | cons c t ih =>
    rw [afterRun, List.mem_cons]
    constructor
    · rintro (rfl | h)
      · exact ⟨[], rfl, by simp⟩
      · by_cases hc : c = '\n'
        · simp [hc] at h
        · obtain ⟨run, rfl, hr⟩ := ih.1 (by simpa [hc] using h)
          exact ⟨c :: run, rfl, by simp [Ne.symm hc, hr]⟩
    · rintro ⟨_ | ⟨d, run⟩, h, hr⟩
      · exact .inl h
      · obtain ⟨rfl, htail⟩ := List.cons.inj h
        rw [List.mem_cons, not_or] at hr
        exact .inr (by simpa [Ne.symm hr.1] using ih.2 ⟨run, htail, hr.2⟩)

/-- A `*` takes any run without line feeds, whatever follows it. -/
theorem tagFits_star (pattern tag : List Char) :
    tagFits ('*' :: pattern) tag = true ↔
      ∃ run rest, run ++ rest = tag ∧ '\n' ∉ run ∧ tagFits pattern rest = true := by
  induction pattern generalizing tag with
  | nil =>
    rw [show tagFits ['*'] tag = (afterRun tag).any List.isEmpty by rfl, List.any_eq_true]
    constructor
    · rintro ⟨rest, hmem, he⟩
      obtain ⟨run, h, hn⟩ := mem_afterRun.1 hmem
      exact ⟨run, rest, h, hn, he⟩
    · rintro ⟨run, rest, h, hn, he⟩
      exact ⟨rest, mem_afterRun.2 ⟨run, h, hn⟩, he⟩
  | cons p pattern ih =>
    by_cases hp : p = '*'
    · subst hp
      rw [show tagFits ('*' :: '*' :: pattern) tag = tagFits ('*' :: pattern) tag by simp [tagFits]]
      constructor
      · exact fun h => ⟨[], tag, rfl, by simp, h⟩
      · rintro ⟨run, rest, rfl, hn, h⟩
        obtain ⟨run', rest', rfl, hn', h'⟩ := (ih rest).1 h
        exact (ih _).2 ⟨run ++ run', rest', by simp, by simp [hn, hn'], h'⟩
    · rw [show tagFits ('*' :: p :: pattern) tag = (afterRun tag).any (tagFits (p :: pattern)) by
        simp [tagFits, hp]]
      simp only [List.any_eq_true, mem_afterRun]
      exact ⟨fun ⟨rest, ⟨run, h, hn⟩, hf⟩ => ⟨run, rest, h, hn, hf⟩,
        fun ⟨run, rest, h, hn, hf⟩ => ⟨rest, ⟨run, h, hn⟩, hf⟩⟩

/-- What a query demands of the tags of a post. -/
structure TagDemand where
  /-- The tags that the query asks for. -/
  patterns : List String
  /-- The comparisons that the number of matching tags must meet. -/
  requirements : List MatchRequirement

namespace TagDemand

/-- The demand of a tree, if it makes one. -/
def ofTree? (tree : Tree Filter) : Option TagDemand :=
  match tree.matchRequirements with
  | [] => none
  | requirements => some ⟨tree.positiveTags, requirements⟩

/-- How many of the query's tags are among the tags of a post. -/
def count (d : TagDemand) (tags : List String) : Nat :=
  d.patterns.countP fun pattern => tags.any fun tag => tagFits pattern.toList tag.toList

/-- The tags of a post meet the demand. -/
def isMet (d : TagDemand) (tags : List String) : Bool :=
  d.requirements.all fun r => r.isSatisfied (d.count tags)

end TagDemand

end TagSearch

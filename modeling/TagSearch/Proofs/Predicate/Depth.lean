import TagSearch.Predicate.Size
import TagSearch.Predicate.Translation

/-!
# How deep conditions are

What is joined from left to right gets deeper with each part.  So a conjunction of filters is deeper than
it has filters (`Condition.length_lt_depth_conjunction`), and a status only adds to that.
-/

namespace TagSearch

theorem add_length_le_foldl {k depth : Nat} (h : k ≤ depth) (ds : List Nat) :
    k + ds.length ≤ ds.foldl (fun joined d => max joined d + 1) depth := by
  induction ds generalizing k depth with
  | nil => exact h
  | cons d ds ih =>
    have hstep : k + 1 ≤ max depth d + 1 := by omega
    have := ih hstep
    rw [List.length_cons, List.foldl_cons]
    omega

theorem length_lt_joinedDepth {ds : List Nat} (h : ∀ d ∈ ds, 2 ≤ d) (hne : ds ≠ []) :
    ds.length < joinedDepth ds := by
  cases ds with
  | nil => exact absurd rfl hne
  | cons d ds =>
    have := add_length_le_foldl (h d List.mem_cons_self) ds
    rw [List.length_cons, joinedDepth]
    omega

theorem Scalar.depth_pos {α : Type} (s : Scalar α) : 0 < s.depth := by
  induction s with
  | group s ih => exact ih
  | _ => simp [depth]

namespace Condition

theorem depths_eq_map {α : Type} (cs : List (Condition α)) : depths cs = cs.map depth := by
  induction cs with
  | nil => rfl
  | cons c cs ih => rw [depths, ih, List.map_cons]

theorem two_le_depth_compare {α : Type} (comparison : Comparison) (s t : Scalar α) :
    2 ≤ (compare comparison s t).depth := by
  have := s.depth_pos
  rw [depth]
  omega

theorem two_le_depth_like {α : Type} (negated : Bool) (s t : Scalar α) :
    2 ≤ (like negated s t).depth := by
  have := s.depth_pos
  rw [depth]
  split <;> omega

theorem two_le_depth_onText (f : Filter) (c : Column) : 2 ≤ (f.onText c).depth := by
  unfold Filter.onText
  dsimp only
  split
  · exact two_le_depth_like ..
  · exact two_le_depth_compare ..

theorem two_le_depth_onNumber (f : Filter) (s : Scalar Value) : 2 ≤ (f.onNumber s).depth := by
  unfold Filter.onNumber
  split
  · exact two_le_depth_like ..
  · exact two_le_depth_compare ..

theorem two_le_depth_onDate (f : Filter) (c : Column) : 2 ≤ (f.onDate c).depth := by
  unfold Filter.onDate
  split
  · exact two_le_depth_like ..
  · exact two_le_depth_compare ..

theorem two_le_depth_onDuration (f : Filter) : 2 ≤ f.onDuration.depth := by
  unfold Filter.onDuration
  split
  · exact two_le_depth_like ..
  · next o _ =>
    have := two_le_depth_compare (o.negatedIf f.negated) (.column .duration) (.parameter f.value)
    simp only [depth, depths, joinedDepth, List.foldl_cons, List.foldl_nil]
    omega

theorem two_le_depth_ofFilter (f : Filter) : 2 ≤ (ofFilter f).depth := by
  unfold ofFilter
  cases f.field with
  | tag => exact two_le_depth_like ..
  | duration => exact two_le_depth_onDuration f
  | owner | title | rating | fileType => exact two_le_depth_onText f _
  | createdAt | downloadedAt => exact two_le_depth_onDate f _
  | matchingTags | unknown => exact Nat.le_refl 2
  | postId | score | width | height | fileSize | tagCount | aspectRatio =>
    exact two_le_depth_onNumber f _

theorem ofTrees_leaves (fs : List Filter) : ofTrees (fs.map .leaf) = fs.map ofFilter := by
  induction fs with
  | nil => rfl
  | cons f fs ih => rw [List.map_cons, ofTrees, ofTree, ih, List.map_cons]

/-- A conjunction of filters is deeper than they are many. -/
theorem length_lt_depth_conjunction {fs : List Filter} (hne : fs ≠ []) :
    fs.length < (ofTree (.collapse (fs.map .leaf))).depth := by
  match fs with
  | [f] =>
    show 1 < (ofTree (.leaf f)).depth
    rw [ofTree]
    exact two_le_depth_ofFilter f
  | f :: g :: fs =>
    have hgroup : depth ∘ Condition.group = @depth Value := funext fun c => by
      rw [Function.comp, depth]
    have hdepth : (ofTree (.collapse ((f :: g :: fs).map .leaf))).depth =
        joinedDepth ((f :: g :: fs).map fun f => (ofFilter f).depth) := by
      show (joined .all (ofTrees ((f :: g :: fs).map .leaf))).depth = _
      rw [ofTrees_leaves]
      show (all (((f :: g :: fs).map ofFilter).map .group)).depth = _
      rw [depth, depths_eq_map, List.map_map, hgroup, List.map_map]
      rfl
    rw [hdepth]
    have := @length_lt_joinedDepth ((f :: g :: fs).map fun f => (ofFilter f).depth)
      (fun d hd => by
        obtain ⟨f, -, rfl⟩ := List.mem_map.1 hd
        exact two_le_depth_ofFilter f) (by simp)
    rwa [List.length_map] at this

end Condition

theorem Translation.depth_le_depth_restrict (c : Condition Value) (status : Option String) :
    c.depth ≤ (restrict c status).depth := by
  unfold restrict
  split
  · next s _ =>
    have hdepth : (c.withStatus s).depth = max c.depth (Condition.hasStatus s).depth + 1 := by
      simp only [Condition.withStatus, Condition.depth, Condition.depths, joinedDepth,
        List.foldl_cons, List.foldl_nil]
    omega
  · exact Nat.le_refl _

end TagSearch

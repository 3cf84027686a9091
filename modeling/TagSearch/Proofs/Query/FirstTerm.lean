import TagSearch.Proofs.Query.Leaves
import TagSearch.Proofs.Query.Rendering
import TagSearch.Proofs.Query.Resemblance
import TagSearch.Proofs.Query.Words

/-!
# A term in front of a query

A term that is put in front of a query changes nothing behind it, however the query's parentheses,
separators and values stand.

1. A scan looks back at most to the white space before it (`Scan.tokens_behind`), so the query's tokens
   follow the term (`Token.ofQuery_append`).
2. Unless a separator stands first among them, the term is a part of its own, in front of the parts that
   the query has (`parseTokens_term`).
-/

namespace TagSearch

open Text

namespace Scan

/-! ## Looking back -/

/-- The scan as it is behind some other text and a space. -/
def behind (more : List Char) (s : Scan) : Scan := { s with past := s.past ++ ' ' :: more }

end Scan

namespace Item

theorem closeAll_append (base level outer : List Item) (levels : List (List Item)) :
    closeAll level (levels ++ [outer ++ base]) =
      base.reverse ++ closeAll level (levels ++ [outer]) := by
  induction levels generalizing level with
  | nil => simp [closeAll]
  | cons next levels ih => exact ih _

theorem nest_append (base : List Item) (ts : List Token) :
    (∀ level, nest (level ++ base) [] ts = base.reverse ++ nest level [] ts) ∧
      ∀ level outer levels, nest level (levels ++ [outer ++ base]) ts =
        base.reverse ++ nest level (levels ++ [outer]) ts := by
  induction ts with
  | nil =>
    refine ⟨fun level => ?_, fun level outer levels => closeAll_append base level outer levels⟩
    rw [nest, nest, closeAll, closeAll, List.reverse_append]
  | cons t ts ih =>
    obtain ⟨hlevel, hlevels⟩ := ih
    cases t with
    | term text => exact ⟨fun level => hlevel (_ :: level), fun level => hlevels (_ :: level)⟩
    | separator => exact ⟨fun level => hlevel (_ :: level), fun level => hlevels (_ :: level)⟩
    | groupStart =>
      exact ⟨fun level => hlevels [] level [],
        fun level outer levels => hlevels [] outer (level :: levels)⟩
    | groupEnd =>
      refine ⟨fun level => List.reverse_append, fun level outer levels => ?_⟩
      cases levels with
      | nil => exact hlevel (_ :: outer)
      | cons next levels => exact hlevels _ outer levels

theorem nest_singleton (item : Item) (ts : List Token) :
    nest [item] [] ts = item :: ofTokens ts := (nest_append [item] ts).1 []

end Item

/-! ## Trees behind a term -/

theorem Tree.mapM_collapse {α β ε : Type} (f : α → Except ε β) (parts : List (Tree α)) :
    (collapse parts).mapM f = (mapList f parts).map collapse := by
  match parts with
  | [] => rfl
  | [t] =>
    rw [collapse, mapList, mapList]
    cases t.mapM f <;> rfl
  | t :: u :: ts =>
    show (and (t :: u :: ts)).mapM f = _
    rw [mapM, mapList, mapList]
    cases t.mapM f with
    | error e => rfl
    | ok t =>
      cases u.mapM f with
      | error e => rfl
      | ok u => cases mapList f ts <;> rfl

end TagSearch

import TagSearch.Proofs.Query.FirstTerm
import TagSearch.Proofs.Query.OpenGroups

/-!
# A group is one operand

What a group means where it stands depends on the tree of its content alone.  Items are read alike
(`Item.ReadAlike`) if they are the same but for groups whose contents have the same tree or the same
error; and levels of such items have the same parts or the same error
(`Item.mapList_parts_congr`), which makes the groups that they form read alike in their turn
(`Item.nest_congr`).

`parseTokens_group_congr`: contents with balanced parentheses that mean the same by themselves mean the
same as groups among any other tokens.
-/

namespace TagSearch

namespace Tree

variable {α β ε : Type} {f : α → Except ε β}

theorem mapList_cons_congr {t u : Tree α} {ts us : List (Tree α)} (hfirst : t.mapM f = u.mapM f)
    (hrest : mapList f ts = mapList f us) : mapList f (t :: ts) = mapList f (u :: us) := by
  rw [mapList, mapList, hfirst, hrest]

theorem mapM_or_congr {ts us : List (Tree α)} (h : mapList f ts = mapList f us) :
    (Tree.or ts).mapM f = (Tree.or us).mapM f := by
  rw [mapM, mapM, h]

theorem mapM_collapse_congr {ts us : List (Tree α)} (h : mapList f ts = mapList f us) :
    (collapse ts).mapM f = (collapse us).mapM f := by
  rw [mapM_collapse, mapM_collapse, h]

theorem mapList_append_congr {ts us ts' us' : List (Tree α)} (hfront : mapList f ts = mapList f us)
    (hback : mapList f ts' = mapList f us') : mapList f (ts ++ ts') = mapList f (us ++ us') := by
  have happend (vs vs' : List (Tree α)) : mapList f (vs ++ vs') =
      (mapList f vs).bind fun ws => (mapList f vs').map (ws ++ ·) := by
    induction vs with
    | nil =>
      rw [List.nil_append, mapList]
      cases mapList f vs' <;> rfl
    | cons v vs ih =>
      rw [List.cons_append, mapList, mapList, ih]
      cases v.mapM f with
      | error e => rfl
      | ok w =>
        cases mapList f vs with
        | error e => rfl
        | ok ws => cases mapList f vs' <;> rfl
  rw [happend, happend, hfront, hback]

end Tree

namespace Item

variable {β ε : Type} {f : String → Except ε β}

/-- Two items are the same, or groups whose contents have the same tree or the same error. -/
inductive ReadAlike (f : String → Except ε β) : Item → Item → Prop
  | term (text : String) : ReadAlike f (.term text) (.term text)
  | separator : ReadAlike f .separator .separator
  | group {xs ys : List Item}
      (same : (Tree.collapse (parts xs)).mapM f = (Tree.collapse (parts ys)).mapM f) :
      ReadAlike f (.group xs) (.group ys)

theorem ReadAlike.refl (x : Item) : ReadAlike f x x := by
  cases x with
  | term text => exact .term text
  | separator => exact .separator
  | group items => exact .group rfl

theorem startsWithSeparator_congr {xs ys : List Item} (h : List.Forall₂ (ReadAlike f) xs ys) :
    startsWithSeparator xs = startsWithSeparator ys := by
  cases h with
  | nil => rfl
  | cons hfirst _ => cases hfirst <;> rfl

/-- Levels of items that are read alike have the same parts or the same error, and they go on alike
from runs of alternatives that do. -/
theorem mapList_parts_congr {xs ys : List Item} (h : List.Forall₂ (ReadAlike f) xs ys) :
    Tree.mapList f (parts xs) = Tree.mapList f (parts ys) ∧
      ∀ run run', Tree.mapList f run.reverse = Tree.mapList f run'.reverse →
        Tree.mapList f (alternatives run xs) = Tree.mapList f (alternatives run' ys) := by
  have extend {run run' : List (Tree String)} {t u : Tree String} (htree : t.mapM f = u.mapM f)
      (hrun : Tree.mapList f run.reverse = Tree.mapList f run'.reverse) :
      Tree.mapList f (t :: run).reverse = Tree.mapList f (u :: run').reverse := by
    rw [List.reverse_cons, List.reverse_cons]
    exact Tree.mapList_append_congr hrun (Tree.mapList_cons_congr htree rfl)
  induction h with
  | nil =>
    refine ⟨rfl, fun run run' hrun => ?_⟩
    rw [alternatives, alternatives]
    exact Tree.mapList_cons_congr (Tree.mapM_or_congr hrun) rfl
  | cons hfirst hrest ih =>
    obtain ⟨hparts, hruns⟩ := ih
    have hnext := startsWithSeparator_congr hrest
    cases hfirst with
    | separator =>
      simp only [parts, alternatives]
      exact ⟨hparts, hruns⟩
    | group same =>
      simp only [parts, alternatives]
      exact ⟨Tree.mapList_cons_congr same hparts, fun run run' hrun => hruns _ _ (extend same hrun)⟩
    | term text =>
      simp only [parts, alternatives, hnext]
      split
      · exact ⟨hruns _ _ rfl, fun run run' hrun => hruns _ _ (extend rfl hrun)⟩
      · exact ⟨Tree.mapList_cons_congr rfl hparts, fun run run' hrun =>
          Tree.mapList_cons_congr (Tree.mapM_or_congr (extend rfl hrun)) hparts⟩

theorem ReadAlike.of_items {xs ys : List Item} (h : List.Forall₂ (ReadAlike f) xs ys) :
    ReadAlike f (.group xs) (.group ys) :=
  .group (Tree.mapM_collapse_congr (mapList_parts_congr h).1)

section

variable {level level' : List Item} {levels levels' : List (List Item)}

theorem closeAll_congr (hlevel : List.Forall₂ (ReadAlike f) level level')
    (hlevels : List.Forall₂ (List.Forall₂ (ReadAlike f)) levels levels') :
    List.Forall₂ (ReadAlike f) (closeAll level levels) (closeAll level' levels') := by
  induction hlevels generalizing level level' with
  | nil => exact List.rel_reverse hlevel
  | cons houter _ ih => exact ih (.cons (.of_items (List.rel_reverse hlevel)) houter)

/-- The same tokens behind levels of items that are read alike give items that are read alike. -/
theorem nest_congr (hlevel : List.Forall₂ (ReadAlike f) level level')
    (hlevels : List.Forall₂ (List.Forall₂ (ReadAlike f)) levels levels') (ts : List Token) :
    List.Forall₂ (ReadAlike f) (nest level levels ts) (nest level' levels' ts) := by
  induction ts generalizing level level' levels levels' with
  | nil => exact closeAll_congr hlevel hlevels
  | cons t ts ih =>
    cases t with
    | term text => exact ih (.cons (.term text) hlevel) hlevels
    | separator => exact ih (.cons .separator hlevel) hlevels
    | groupStart => exact ih .nil (.cons hlevel hlevels)
    | groupEnd =>
      cases hlevels with
      | nil => exact List.rel_reverse hlevel
      | cons houter hlevels =>
        exact ih (.cons (.of_items (List.rel_reverse hlevel)) houter) hlevels

end

/-- Where parentheses balance between its start and its end, a group is one item. -/
theorem nest_group_of_balanced {us : List Token} (h : Token.depthAfter 0 us = some 0)
    (level : List Item) (levels : List (List Item)) (rest : List Token) :
    nest level levels (.groupStart :: (us ++ .groupEnd :: rest)) =
      nest (.group (ofTokens us) :: level) levels rest := by
  have hempty : Token.depthAfter ([] : List (List Item)).length us = some 0 := h
  obtain ⟨content, opened, hopened, hnest⟩ := exists_nest_append [] hempty
  obtain rfl := List.eq_nil_of_length_eq_zero hopened
  have hcontent : ofTokens us = content.reverse := by
    simpa [ofTokens, nest, closeAll] using hnest [] []
  have hgroup := hnest (level :: levels) (.groupEnd :: rest)
  rw [nest, hcontent]
  exact hgroup

/-- Groups of balanced contents that are read alike may stand for each other among any tokens. -/
theorem nest_group_congr {us vs : List Token} (hus : Token.depthAfter 0 us = some 0)
    (hvs : Token.depthAfter 0 vs = some 0)
    (h : ReadAlike f (.group (ofTokens us)) (.group (ofTokens vs))) (before after : List Token)
    (level : List Item) (levels : List (List Item)) :
    List.Forall₂ (ReadAlike f) (nest level levels (before ++ .groupStart :: (us ++ .groupEnd :: after)))
      (nest level levels (before ++ .groupStart :: (vs ++ .groupEnd :: after))) := by
  have hsame (items : List Item) : List.Forall₂ (ReadAlike f) items items :=
    List.forall₂_same.2 fun x _ => .refl x
  induction before generalizing level levels with
  | nil =>
    rw [List.nil_append, List.nil_append, nest_group_of_balanced hus, nest_group_of_balanced hvs]
    exact nest_congr (.cons h (hsame level)) (List.forall₂_same.2 fun items _ => hsame items) after
  | cons t before ih =>
    cases t with
    | term text => exact ih _ levels
    | separator => exact ih _ levels
    | groupStart => exact ih [] (level :: levels)
    | groupEnd =>
      cases levels with
      | nil => exact hsame _
      | cons outer levels => exact ih _ levels

end Item

/-- Contents with balanced parentheses that have the same tree, or the same error, by themselves may
stand for each other as a group among any tokens. -/
theorem parseTokens_group_congr {us vs : List Token} (hus : Token.LeavesOpen 0 us)
    (hvs : Token.LeavesOpen 0 vs) (h : parseTokens us = parseTokens vs) (before after : List Token) :
    parseTokens (before ++ .groupStart :: (us ++ .groupEnd :: after)) =
      parseTokens (before ++ .groupStart :: (vs ++ .groupEnd :: after)) := by
  have hdepth {ts : List Token} (hts : Token.LeavesOpen 0 ts) :
      Token.depthAfter 0 (joinTimes ts) = some 0 := by
    rw [Token.depthAfter_joinTimes, Token.leavesOpen_iff.1 hts]
  have hjoin (ts : List Token) :
      joinTimes (before ++ .groupStart :: (ts ++ .groupEnd :: after)) =
        joinTimes before ++ .groupStart :: (joinTimes ts ++ .groupEnd :: joinTimes after) := by
    rw [joinTimes_append rfl, joinTimes_cons rfl, joinTimes_append rfl, joinTimes_cons rfl]
  have hitems := Item.nest_group_congr (hdepth hus) (hdepth hvs) (Item.ReadAlike.group h)
    (joinTimes before) (joinTimes after) [] []
  unfold parseTokens Tree.ofTokens
  rw [hjoin, hjoin]
  exact Tree.mapM_collapse_congr (Item.mapList_parts_congr hitems).1

/-- A time of day behind the start of a group is not joined with the date in front of it; and contents
that fail alike fail alike in a run of alternatives. -/
theorem parseTokens_group_congr_time :
    Token.LeavesOpen 0 [.term "22:13", .separator] ∧
      Token.LeavesOpen 0 [.groupStart, .term "22:13", .separator, .groupEnd, .separator] ∧
      parseTokens [.term "22:13", .separator] =
        parseTokens [.groupStart, .term "22:13", .separator, .groupEnd, .separator] ∧
      parseTokens ([.term "cat", .separator, .term "uploaded:2023-11-14"] ++
          .groupStart :: ([.term "22:13", .separator] ++ .groupEnd :: [.separator, .term "dog"])) =
        parseTokens ([.term "cat", .separator, .term "uploaded:2023-11-14"] ++
          .groupStart :: ([.groupStart, .term "22:13", .separator, .groupEnd, .separator] ++
            .groupEnd :: [.separator, .term "dog"])) := by
  have hshort : Token.LeavesOpen 0 [.term "22:13", .separator] := Token.leavesOpen_iff.2 rfl
  have hlong : Token.LeavesOpen 0 [.groupStart, .term "22:13", .separator, .groupEnd, .separator] :=
    Token.leavesOpen_iff.2 rfl
  have hsame : parseTokens [.term "22:13", .separator] =
      parseTokens [.groupStart, .term "22:13", .separator, .groupEnd, .separator] := by
    simp [parseTokens, Tree.ofTokens, joinTimes, Item.ofTokens, Item.nest, Item.closeAll, Item.parts,
      Item.alternatives, Item.startsWithSeparator, Tree.collapse]
  exact ⟨hshort, hlong, hsame, parseTokens_group_congr hshort hlong hsame _ _⟩

end TagSearch

import Mathlib.Data.List.Forall2
import TagSearch.Proofs.Query.Scan
import TagSearch.Query.Parse

/-!
# The leaves of a parsed query

No term of a query is lost, invented or moved on the way to its tree, whatever the parentheses and
separators around it.  Each step keeps the texts of the terms in order: `texts_nest` for the nesting
of items, `leavesOf_parts` for the runs of alternatives and `leaves_mapM` for the reading of the
operands.  Nesting keeps them because a scan never ends a group that has not started.

`parseQuery_keeps_terms` says what follows: the first text that is no filter is the error of the query,
and without one the leaves are the filters of the texts.
-/

namespace TagSearch

/-! ## Tokens -/

namespace Token

/-- The texts of the terms. -/
def texts : List Token → List String
  | [] => []
  | .term text :: rest => text :: texts rest
  | _ :: rest => texts rest

theorem texts_append (ts us : List Token) : texts (ts ++ us) = texts ts ++ texts us := by
  induction ts with
  | nil => rfl
  | cons t ts ih => cases t <;> simp [texts, ih]

/-- The texts of the terms from left to right, each joined with the term directly behind it where
that is its time of day. -/
def joinedTexts : List Token → List String
  | [] => []
  | .term date :: .term time :: rest =>
    if continuesWithTime date time then (date ++ " " ++ time) :: joinedTexts rest
    else date :: joinedTexts (.term time :: rest)
  | .term text :: rest => text :: joinedTexts rest
  | _ :: rest => joinedTexts rest

theorem texts_joinTimes (ts : List Token) : texts (joinTimes ts) = joinedTexts ts := by
  fun_induction joinTimes ts with
  | case1 date time rest h ih => simp [texts, joinedTexts, h, ih]
  | case2 date time rest h ih => simp [texts, joinedTexts, h, ih]
  | case3 token rest hne ih =>
    cases token with
    | term text =>
      cases rest with
      | nil => rfl
      | cons next rest =>
        cases next with
        | term time => exact (hne text time rest rfl rfl).elim
        | _ => simp only [texts, joinedTexts, ih]
    | _ => simp only [texts, joinedTexts, ih]
  | case4 => rfl

theorem depthAfter_joinTimes (depth : Nat) (ts : List Token) :
    depthAfter depth (joinTimes ts) = depthAfter depth ts := by
  fun_induction joinTimes ts generalizing depth with
  | case1 date time rest h ih => exact ih depth
  | case2 date time rest h ih => exact ih depth
  | case3 token rest hne ih =>
    cases token with
    | groupEnd => simp only [depthAfter, ih]
    | _ => exact ih _
  | case4 => rfl

end Token

/-! ## Items -/

namespace Item

/-- The texts of the terms of items, groups included. -/
def texts : List Item → List String
  | [] => []
  | .term text :: rest => text :: texts rest
  | .separator :: rest => texts rest
  | .group items :: rest => texts items ++ texts rest

theorem texts_append (xs ys : List Item) : texts (xs ++ ys) = texts xs ++ texts ys := by
  induction xs with
  | nil => simp [texts]
  | cons x xs ih => cases x <;> simp [texts, ih]

theorem texts_closeAll (level : List Item) (levels : List (List Item)) :
    texts (closeAll level levels) =
      (levels.reverse.flatMap fun outer => texts outer.reverse) ++ texts level.reverse := by
  induction levels generalizing level with
  | nil => rfl
  | cons outer levels ih =>
    rw [closeAll, ih]
    simp [texts_append, texts]

/-- Nesting keeps the texts in order as long as no group ends that is not open. -/
theorem texts_nest {ts : List Token} {level : List Item} {levels : List (List Item)} {depth : Nat}
    (h : Token.depthAfter levels.length ts = some depth) :
    texts (nest level levels ts) = texts (closeAll level levels) ++ Token.texts ts := by
  induction ts generalizing level levels with
  | nil => simp [nest, Token.texts]
  | cons t ts ih =>
    cases t with
    | term text =>
      rw [nest, ih h, texts_closeAll, texts_closeAll]
      simp [texts_append, texts, Token.texts]
    | separator =>
      rw [nest, ih h, texts_closeAll, texts_closeAll]
      simp [texts_append, texts, Token.texts]
    | groupStart =>
      rw [nest, ih h, texts_closeAll, texts_closeAll]
      simp [texts, Token.texts]
    | groupEnd =>
      cases levels with
      | nil => simp [Token.depthAfter] at h
      | cons outer levels =>
        have hrest : Token.depthAfter levels.length ts = some depth := by
          simpa [Token.depthAfter] using h
        rw [nest, ih hrest, closeAll]
        rfl

theorem texts_ofTokens {ts : List Token} {depth : Nat} (h : Token.depthAfter 0 ts = some depth) :
    texts (ofTokens ts) = Token.texts ts := by
  have hnest : texts (nest [] [] ts) = texts (closeAll [] []) ++ Token.texts ts := texts_nest h
  rw [ofTokens, hnest]
  simp [closeAll, texts]

/-- Neither a run of alternatives nor a collapsed level loses a leaf. -/
theorem leavesOf_parts_and_alternatives :
    (∀ items, Tree.leavesOf (parts items) = texts items) ∧
      ∀ run items, Tree.leavesOf (alternatives run items) =
        Tree.leavesOf run.reverse ++ texts items := by
  apply parts.mutual_induct
    (fun items => Tree.leavesOf (parts items) = texts items)
    (fun run items => Tree.leavesOf (alternatives run items) =
      Tree.leavesOf run.reverse ++ texts items)
  case case1 => rw [parts, Tree.leavesOf, texts]
  case case2 =>
    intro rest ih
    rw [parts, ih, texts]
  case case3 =>
    intro items rest ihItems ihRest
    rw [parts, Tree.leavesOf, Tree.leaves_collapse, ihItems, ihRest, texts]
  case case4 =>
    intro text rest h ih
    rw [parts, if_pos h, ih, texts]
    simp [Tree.leavesOf, Tree.leaves]
  case case5 =>
    intro text rest h ih
    rw [parts, if_neg h, Tree.leavesOf, ih, Tree.leaves, texts]
    rfl
  case case6 =>
    intro run
    simp [alternatives, Tree.leavesOf, Tree.leaves, texts]
  case case7 =>
    intro run rest ih
    rw [alternatives, ih, texts]
  case case8 =>
    intro run items rest ihItems ihRest
    rw [alternatives, ihRest, List.reverse_cons, Tree.leavesOf_append, texts]
    simp [Tree.leavesOf, ihItems]
  case case9 =>
    intro run text rest h ih
    rw [alternatives, if_pos h, ih, List.reverse_cons, Tree.leavesOf_append, texts]
    simp [Tree.leavesOf, Tree.leaves]
  case case10 =>
    intro run text rest h ih
    rw [alternatives, if_neg h, Tree.leavesOf, ih, List.reverse_cons, Tree.leaves,
      Tree.leavesOf_append, texts]
    simp [Tree.leavesOf, Tree.leaves]

theorem leavesOf_parts (items : List Item) : Tree.leavesOf (parts items) = texts items :=
  leavesOf_parts_and_alternatives.1 items

end Item

/-! ## Operands -/

namespace Tree

variable {α β ε : Type}

theorem leaves_ofTokens {ts : List Token} {depth : Nat} (h : Token.depthAfter 0 ts = some depth) :
    (Tree.ofTokens ts).leaves = Token.joinedTexts ts := by
  have hjoined : Token.depthAfter 0 (joinTimes ts) = some depth := by
    rw [Token.depthAfter_joinTimes, h]
  rw [Tree.ofTokens, leaves_collapse, Item.leavesOf_parts, Item.texts_ofTokens hjoined,
    Token.texts_joinTimes]

mutual

/-- Replacing the leaves of a tree is replacing them in the list of its leaves. -/
theorem leaves_mapM (f : α → Except ε β) :
    (t : Tree α) → (t.mapM f).map leaves = t.leaves.mapM f
  | .leaf a => by
    rw [mapM, leaves, List.mapM_cons, List.mapM_nil]
    cases f a <;> rfl
  | .and parts => by
    rw [mapM, leaves, ← leavesOf_mapList f parts]
    cases mapList f parts with
    | error e => rfl
    | ok ts => simp [Except.map, leaves]
  | .or parts => by
    rw [mapM, leaves, ← leavesOf_mapList f parts]
    cases mapList f parts with
    | error e => rfl
    | ok ts => simp [Except.map, leaves]

theorem leavesOf_mapList (f : α → Except ε β) :
    (ts : List (Tree α)) → (mapList f ts).map leavesOf = (leavesOf ts).mapM f
  | [] => by
    rw [mapList, leavesOf]
    simp [Except.map, leavesOf, pure, Except.pure]
  | t :: ts => by
    rw [mapList, leavesOf, List.mapM_append, ← leaves_mapM f t, ← leavesOf_mapList f ts]
    cases t.mapM f with
    | error e => rfl
    | ok u =>
      cases mapList f ts with
      | error e => rfl
      | ok us => simp [Except.map, leavesOf, bind, Except.bind, pure, Except.pure]

end

end Tree

theorem mapM_eq_ok_iff {α β ε : Type} {f : α → Except ε β} {xs : List α} {ys : List β} :
    xs.mapM f = .ok ys ↔ List.Forall₂ (fun x y => f x = .ok y) xs ys := by
  induction xs generalizing ys with
  | nil => cases ys <;> simp [pure, Except.pure]
  | cons x xs ih =>
    rw [List.mapM_cons]
    cases hx : f x with
    | error e => cases ys <;> simp [bind, Except.bind, hx]
    | ok y =>
      cases hxs : xs.mapM f with
      | error e =>
        rw [hxs] at ih
        cases ys <;> simp [bind, Except.bind, ← ih]
      | ok zs =>
        rw [hxs] at ih
        cases ys <;> simp [bind, Except.bind, pure, Except.pure, ← ih, hx]

/-- The error of a list is that of the first element that cannot be read. -/
theorem mapM_eq_error_iff {α β ε : Type} {f : α → Except ε β} {xs : List α} {e : ε} :
    xs.mapM f = .error e ↔
      ∃ front x back, xs = front ++ x :: back ∧ (∀ a ∈ front, ∃ b, f a = .ok b) ∧ f x = .error e := by
  induction xs with
  | nil => simp [pure, Except.pure]
  | cons x xs ih =>
    rw [List.mapM_cons]
    constructor
    · intro h
      cases hx : f x with
      | error d =>
        rw [hx] at h
        obtain rfl : d = e := by simpa [bind, Except.bind] using h
        exact ⟨[], x, xs, rfl, by simp, hx⟩
      | ok y =>
        have hrest : xs.mapM f = .error e := by
          cases hxs : xs.mapM f with
          | error d => simpa [hx, hxs, bind, Except.bind] using h
          | ok zs => simp [hx, hxs, bind, Except.bind, pure, Except.pure] at h
        obtain ⟨front, a, back, rfl, hfront, ha⟩ := ih.1 hrest
        refine ⟨x :: front, a, back, rfl, fun b hb => ?_, ha⟩
        rcases List.mem_cons.1 hb with rfl | hb
        · exact ⟨y, hx⟩
        · exact hfront b hb
    · rintro ⟨front, a, back, hsplit, hfront, ha⟩
      cases front with
      | nil =>
        obtain ⟨rfl, rfl⟩ := List.cons.inj hsplit
        rw [ha]
        rfl
      | cons b front =>
        obtain ⟨rfl, rfl⟩ := List.cons.inj hsplit
        obtain ⟨y, hy⟩ := hfront x List.mem_cons_self
        rw [hy, ih.2 ⟨front, a, back, rfl, fun c hc => hfront c (List.mem_cons_of_mem _ hc), ha⟩]
        rfl

/-- Reading a query is reading the texts of its terms in order. -/
theorem map_leaves_parseQuery (query : String) :
    (parseQuery query).map Tree.leaves =
      (Token.joinedTexts (Token.ofQuery query)).mapM Filter.ofTerm := by
  obtain ⟨depth, hdepth⟩ := Scan.start.depthAfter_tokens query.toList
  rw [parseQuery, parseTokens, Tree.leaves_mapM, Token.ofQuery, Tree.leaves_ofTokens hdepth]

/-- The first text of a query that is no filter is the error of the query; if there is none, the query
has a tree, and its leaves are the filters of the texts in order. -/
theorem parseQuery_keeps_terms (query : String) :
    (∀ e, parseQuery query = .error e ↔
      ∃ front text back, Token.joinedTexts (Token.ofQuery query) = front ++ text :: back ∧
        (∀ t ∈ front, ∃ f, Filter.ofTerm t = .ok f) ∧ Filter.ofTerm text = .error e) ∧
    ∀ filters, (∃ tree, parseQuery query = .ok tree ∧ tree.leaves = filters) ↔
      List.Forall₂ (fun text f => Filter.ofTerm text = .ok f)
        (Token.joinedTexts (Token.ofQuery query)) filters := by
  have key := map_leaves_parseQuery query
  refine ⟨fun e => ?_, fun filters => ?_⟩
  · rw [← mapM_eq_error_iff, ← key]
    cases parseQuery query <;> simp [Except.map]
  · rw [← mapM_eq_ok_iff, ← key]
    cases parseQuery query <;> simp [Except.map]

end TagSearch

import TagSearch.Proofs.Query.Leaves
import TagSearch.Proofs.Query.Terms

/-!
# Normal forms of trees

A parsed tree has no conjunction of a single part, and its alternatives start with a leaf.  Every tree
of this form whose leaves are filters of terms is the tree of some tokens: its leaves as terms, its
conjunctions and alternatives as groups (`Tree.tokens`).

Three steps lead from tokens to a tree, and each is undone by the writing: no time of day is joined to
a date (`joinTimes_eq_self`), the groups become nested items again (`Tree.nests_tokens`), and the items
of a level become the parts they were written from (`Item.parts_flatten`).  `Tree.ofTokens_tokens` puts
them together, and `parseTokens_normal_form` says what follows for filters.
-/

namespace TagSearch

namespace Tree

variable {α β ε : Type}

/-! ## Trees in normal form -/

mutual

/-- No conjunction has a single part, and alternatives start with a leaf. -/
def IsNormal : Tree α → Prop
  | .leaf _ => True
  | .and parts => parts.length ≠ 1 ∧ AreNormal parts
  | .or parts => (∃ a rest, parts = .leaf a :: rest) ∧ AreNormal parts

/-- Several trees are in normal form. -/
def AreNormal : List (Tree α) → Prop
  | [] => True
  | t :: ts => t.IsNormal ∧ AreNormal ts

end

mutual

/-- Replaces the leaves. -/
def map (f : α → β) : Tree α → Tree β
  | .leaf a => .leaf (f a)
  | .and parts => .and (mapEach f parts)
  | .or parts => .or (mapEach f parts)

/-- Replaces the leaves of several trees. -/
def mapEach (f : α → β) : List (Tree α) → List (Tree β)
  | [] => []
  | t :: ts => t.map f :: mapEach f ts

end

/-- Alternatives with separators between them; a lone one has a separator behind it. -/
def separated {γ : Type} (separator : γ) : List (List γ) → List γ
  | [] => []
  | first :: others => first ++ separator :: [separator].intercalate others

mutual

/-- The tokens of a tree: a term for a leaf, and a group for a conjunction or for alternatives. -/
def tokens : Tree String → List Token
  | .leaf text => [.term text]
  | .and parts => .groupStart :: ((tokensOfEach parts).flatten ++ [.groupEnd])
  | .or parts => .groupStart :: (separated .separator (tokensOfEach parts) ++ [.groupEnd])

/-- The tokens of several trees, each by itself. -/
def tokensOfEach : List (Tree String) → List (List Token)
  | [] => []
  | t :: ts => t.tokens :: tokensOfEach ts

end

mutual

/-- The items of a tree, those of its tokens. -/
def items : Tree String → List Item
  | .leaf text => [.term text]
  | .and parts => [.group (itemsOfEach parts).flatten]
  | .or parts => [.group (separated .separator (itemsOfEach parts))]

/-- The items of several trees, each by itself. -/
def itemsOfEach : List (Tree String) → List (List Item)
  | [] => []
  | t :: ts => t.items :: itemsOfEach ts

end

/-! ## Every parsed tree is in normal form -/

theorem areNormal_append (ts us : List (Tree α)) :
    AreNormal (ts ++ us) ↔ AreNormal ts ∧ AreNormal us := by
  induction ts with
  | nil => simp [AreNormal]
  | cons t ts ih => simp [AreNormal, ih, and_assoc]

theorem areNormal_reverse (ts : List (Tree α)) : AreNormal ts.reverse ↔ AreNormal ts := by
  induction ts with
  | nil => rfl
  | cons t ts ih =>
    rw [List.reverse_cons, areNormal_append, ih]
    simp [AreNormal, and_comm]

theorem isNormal_collapse {parts : List (Tree α)} (h : AreNormal parts) :
    (collapse parts).IsNormal := by
  match parts with
  | [] => exact ⟨Nat.zero_ne_one, h⟩
  | [t] => exact h.1
  | t :: u :: ts => exact ⟨by simp, h⟩

theorem collapse_eq_and {parts : List (Tree α)} (h : parts.length ≠ 1) :
    collapse parts = .and parts := by
  match parts with
  | [] => rfl
  | [t] => exact absurd rfl h
  | t :: u :: ts => rfl

end Tree

namespace Item

/-- The parts of a level are in normal form, and a run that starts with a leaf becomes alternatives
that do. -/
theorem areNormal_parts_and_alternatives :
    (∀ items, Tree.AreNormal (parts items)) ∧
      ∀ run items, (∃ a rest, run.reverse = .leaf a :: rest) → Tree.AreNormal run →
        Tree.AreNormal (alternatives run items) := by
  -- What joins a run does not change what it starts with.
  have extend {run : List (Tree String)} (t : Tree String)
      (h : ∃ a rest, run.reverse = .leaf a :: rest) :
      ∃ a rest, (t :: run).reverse = .leaf a :: rest := by
    obtain ⟨a, rest, h⟩ := h
    exact ⟨a, rest ++ [t], by rw [List.reverse_cons, h, List.cons_append]⟩
  apply parts.mutual_induct
    (fun items => Tree.AreNormal (parts items))
    (fun run items => (∃ a rest, run.reverse = .leaf a :: rest) → Tree.AreNormal run →
      Tree.AreNormal (alternatives run items))
  case case1 =>
    rw [parts]
    exact trivial
  case case2 =>
    intro rest ih
    rwa [parts]
  case case3 =>
    intro items rest ihItems ihRest
    rw [parts]
    exact ⟨Tree.isNormal_collapse ihItems, ihRest⟩
  case case4 =>
    intro text rest h ih
    rw [parts, if_pos h]
    exact ih ⟨text, [], rfl⟩ ⟨trivial, trivial⟩
  case case5 =>
    intro text rest h ih
    rw [parts, if_neg h]
    exact ⟨trivial, ih⟩
  case case6 =>
    intro run hstart hrun
    rw [alternatives]
    exact ⟨⟨hstart, (Tree.areNormal_reverse run).2 hrun⟩, trivial⟩
  case case7 =>
    intro run rest ih hstart hrun
    rw [alternatives]
    exact ih hstart hrun
  case case8 =>
    intro run items rest ihItems ihRest hstart hrun
    rw [alternatives]
    exact ihRest (extend _ hstart) ⟨Tree.isNormal_collapse ihItems, hrun⟩
  case case9 =>
    intro run text rest h ih hstart hrun
    rw [alternatives, if_pos h]
    exact ih (extend _ hstart) ⟨trivial, hrun⟩
  case case10 =>
    intro run text rest h ih hstart hrun
    rw [alternatives, if_neg h]
    exact ⟨⟨extend _ hstart, (Tree.areNormal_reverse _).2 ⟨trivial, hrun⟩⟩, ih⟩

end Item

namespace Tree

variable {α β ε : Type}

theorem isNormal_ofTokens (ts : List Token) : (Tree.ofTokens ts).IsNormal :=
  isNormal_collapse (Item.areNormal_parts_and_alternatives.1 _)

/-! ## Replacing leaves -/

section

variable {f : α → Except ε β}

theorem mapM_leaf_eq_ok {a : α} {u : Tree β} :
    (leaf a).mapM f = .ok u ↔ ∃ b, f a = .ok b ∧ u = .leaf b := by
  rw [mapM]
  cases f a <;> simp [Except.map, eq_comm]

theorem mapM_and_eq_ok {parts : List (Tree α)} {u : Tree β} :
    (Tree.and parts).mapM f = .ok u ↔ ∃ us, mapList f parts = .ok us ∧ u = .and us := by
  rw [mapM]
  cases mapList f parts <;> simp [Except.map, eq_comm]

theorem mapM_or_eq_ok {parts : List (Tree α)} {u : Tree β} :
    (Tree.or parts).mapM f = .ok u ↔ ∃ us, mapList f parts = .ok us ∧ u = .or us := by
  rw [mapM]
  cases mapList f parts <;> simp [Except.map, eq_comm]

theorem mapList_nil_eq_ok {us : List (Tree β)} : mapList f [] = .ok us ↔ us = [] := by
  rw [mapList]
  simp [eq_comm]

theorem mapList_cons_eq_ok {t : Tree α} {ts : List (Tree α)} {us : List (Tree β)} :
    mapList f (t :: ts) = .ok us ↔
      ∃ v vs, t.mapM f = .ok v ∧ mapList f ts = .ok vs ∧ us = v :: vs := by
  rw [mapList]
  cases t.mapM f with
  | error e => simp [bind, Except.bind]
  | ok v => cases mapList f ts <;> simp [bind, Except.bind, pure, Except.pure, eq_comm]

theorem length_of_mapList {ts : List (Tree α)} {us : List (Tree β)} (h : mapList f ts = .ok us) :
    ts.length = us.length := by
  induction ts generalizing us with
  | nil =>
    obtain rfl := mapList_nil_eq_ok.1 h
    rfl
  | cons t ts ih =>
    obtain ⟨v, vs, -, hvs, rfl⟩ := mapList_cons_eq_ok.1 h
    rw [List.length_cons, List.length_cons, ih hvs]

theorem startsWithLeaf_of_mapList {ts : List (Tree α)} {us : List (Tree β)}
    (h : mapList f ts = .ok us) :
    (∃ a rest, ts = .leaf a :: rest) ↔ ∃ b rest, us = .leaf b :: rest := by
  cases ts with
  | nil =>
    obtain rfl := mapList_nil_eq_ok.1 h
    simp
  | cons t ts =>
    obtain ⟨v, vs, hv, -, rfl⟩ := mapList_cons_eq_ok.1 h
    cases t with
    | leaf a =>
      obtain ⟨b, -, rfl⟩ := mapM_leaf_eq_ok.1 hv
      simp
    | and parts =>
      obtain ⟨us, -, rfl⟩ := mapM_and_eq_ok.1 hv
      simp
    | or parts =>
      obtain ⟨us, -, rfl⟩ := mapM_or_eq_ok.1 hv
      simp

mutual

theorem isNormal_of_mapM :
    (t : Tree α) → {u : Tree β} → t.mapM f = .ok u → (t.IsNormal ↔ u.IsNormal)
  | .leaf a, u, h => by
    obtain ⟨b, -, rfl⟩ := mapM_leaf_eq_ok.1 h
    exact Iff.rfl
  | .and parts, u, h => by
    obtain ⟨us, hus, rfl⟩ := mapM_and_eq_ok.1 h
    rw [IsNormal, IsNormal, areNormal_of_mapList parts hus, length_of_mapList hus]
  | .or parts, u, h => by
    obtain ⟨us, hus, rfl⟩ := mapM_or_eq_ok.1 h
    rw [IsNormal, IsNormal, areNormal_of_mapList parts hus, startsWithLeaf_of_mapList hus]

theorem areNormal_of_mapList :
    (ts : List (Tree α)) → {us : List (Tree β)} → mapList f ts = .ok us →
      (AreNormal ts ↔ AreNormal us)
  | [], us, h => by
    obtain rfl := mapList_nil_eq_ok.1 h
    exact Iff.rfl
  | t :: ts, us, h => by
    obtain ⟨v, vs, hv, hvs, rfl⟩ := mapList_cons_eq_ok.1 h
    rw [AreNormal, AreNormal, isNormal_of_mapM t hv, areNormal_of_mapList ts hvs]

end

mutual

theorem mapM_eq_map {g : α → β} :
    (t : Tree α) → (∀ a ∈ t.leaves, f a = .ok (g a)) → t.mapM f = .ok (t.map g)
  | .leaf a, h => by
    rw [mapM, h a (by simp [leaves])]
    rfl
  | .and parts, h => by
    rw [mapM, mapList_eq_mapEach parts h]
    rfl
  | .or parts, h => by
    rw [mapM, mapList_eq_mapEach parts h]
    rfl

theorem mapList_eq_mapEach {g : α → β} :
    (ts : List (Tree α)) → (∀ a ∈ leavesOf ts, f a = .ok (g a)) →
      mapList f ts = .ok (mapEach g ts)
  | [], _ => rfl
  | t :: ts, h => by
    rw [leavesOf] at h
    rw [mapList, mapM_eq_map t fun a ha => h a (List.mem_append_left _ ha),
      mapList_eq_mapEach ts fun a ha => h a (List.mem_append_right _ ha)]
    rfl

end

mutual

theorem exists_mapM_eq {p : α → Prop} :
    (u : Tree β) → (∀ b ∈ u.leaves, ∃ a, p a ∧ f a = .ok b) →
      ∃ t : Tree α, t.mapM f = .ok u ∧ ∀ a ∈ t.leaves, p a
  | .leaf b, h => by
    obtain ⟨a, ha, hb⟩ := h b (by simp [leaves])
    exact ⟨.leaf a, mapM_leaf_eq_ok.2 ⟨b, hb, rfl⟩, by simpa [leaves] using ha⟩
  | .and parts, h => by
    obtain ⟨ts, hts, hp⟩ := exists_mapList_eq parts h
    exact ⟨.and ts, mapM_and_eq_ok.2 ⟨parts, hts, rfl⟩, hp⟩
  | .or parts, h => by
    obtain ⟨ts, hts, hp⟩ := exists_mapList_eq parts h
    exact ⟨.or ts, mapM_or_eq_ok.2 ⟨parts, hts, rfl⟩, hp⟩

theorem exists_mapList_eq {p : α → Prop} :
    (us : List (Tree β)) → (∀ b ∈ leavesOf us, ∃ a, p a ∧ f a = .ok b) →
      ∃ ts, mapList f ts = .ok us ∧ ∀ a ∈ leavesOf ts, p a
  | [], _ => ⟨[], rfl, by simp [leavesOf]⟩
  | u :: us, h => by
    rw [leavesOf] at h
    obtain ⟨t, ht, hpt⟩ := exists_mapM_eq u fun b hb => h b (List.mem_append_left _ hb)
    obtain ⟨ts, hts, hpts⟩ := exists_mapList_eq us fun b hb => h b (List.mem_append_right _ hb)
    refine ⟨t :: ts, mapList_cons_eq_ok.2 ⟨u, us, ht, hts, rfl⟩, fun a ha => ?_⟩
    rw [leavesOf, List.mem_append] at ha
    exact ha.elim (hpt a) (hpts a)

end

end

end Tree

/-! ## Tokens become the items they were written from -/

theorem looksLikeTimeOfDay_of_continuesWithTime {term time : String}
    (h : continuesWithTime term time = true) : looksLikeTimeOfDay time.toList = true := by
  unfold continuesWithTime at h
  split at h
  · cases h
  · simp only [Bool.and_eq_true] at h
    exact h.2

/-- Without a time of day nothing is joined. -/
theorem joinTimes_eq_self {ts : List Token}
    (h : ∀ text ∈ Token.texts ts, looksLikeTimeOfDay text.toList = false) : joinTimes ts = ts := by
  fun_induction joinTimes ts with
  | case1 date time rest hjoin ih =>
    have htime := h time (by simp [Token.texts])
    rw [looksLikeTimeOfDay_of_continuesWithTime hjoin] at htime
    cases htime
  | case2 date time rest hjoin ih =>
    rw [ih fun text ht => h text (List.mem_cons_of_mem _ ht)]
  | case3 token rest hne ih =>
    rw [ih fun text ht => h text (by cases token <;> simp [Token.texts, ht])]
  | case4 => rfl

namespace Item

/-- Wherever the tokens stand, they add items to the level that is being read. -/
def Nests (ts : List Token) (items : List Item) : Prop :=
  ∀ level levels rest, nest level levels (ts ++ rest) = nest (items.reverse ++ level) levels rest

theorem Nests.nil : Nests [] [] := fun _ _ _ => rfl

theorem Nests.term (text : String) : Nests [.term text] [.term text] := fun _ _ _ => rfl

theorem Nests.separator : Nests [.separator] [.separator] := fun _ _ _ => rfl

theorem Nests.append {ts us : List Token} {xs ys : List Item} (hx : Nests ts xs)
    (hy : Nests us ys) : Nests (ts ++ us) (xs ++ ys) := by
  intro level levels rest
  rw [List.append_assoc, hx, hy, List.reverse_append, List.append_assoc]

theorem Nests.group {ts : List Token} {items : List Item} (h : Nests ts items) :
    Nests (.groupStart :: (ts ++ [.groupEnd])) [.group items] := by
  intro level levels rest
  rw [List.cons_append, List.append_assoc, nest, h]
  simp [nest]

theorem Nests.flatten {tss : List (List Token)} {iss : List (List Item)}
    (h : List.Forall₂ Nests tss iss) : Nests tss.flatten iss.flatten := by
  induction h with
  | nil => exact .nil
  | cons hfirst _ ih => exact hfirst.append ih

theorem Nests.intercalate {tss : List (List Token)} {iss : List (List Item)}
    (h : List.Forall₂ Nests tss iss) :
    Nests ([.separator].intercalate tss) ([.separator].intercalate iss) := by
  induction h with
  | nil => exact .nil
  | cons hfirst hrest ih =>
    cases hrest with
    | nil => simpa using hfirst
    | cons hsecond hrest =>
      rw [List.intercalate_cons_cons, List.intercalate_cons_cons]
      exact (hfirst.append .separator).append ih

theorem Nests.separated {tss : List (List Token)} {iss : List (List Item)}
    (h : List.Forall₂ Nests tss iss) :
    Nests (Tree.separated .separator tss) (Tree.separated .separator iss) := by
  cases h with
  | nil => exact .nil
  | cons hfirst hrest => exact hfirst.append (Nests.separator.append (.intercalate hrest))

theorem Nests.ofTokens {ts : List Token} {items : List Item} (h : Nests ts items) :
    ofTokens ts = items := by
  have hnest := h [] [] []
  rw [List.append_nil, List.append_nil] at hnest
  rw [Item.ofTokens, hnest, nest, closeAll, List.reverse_reverse]

end Item

namespace Tree

mutual

theorem nests_tokens : (t : Tree String) → Item.Nests t.tokens t.items
  | .leaf text => .term text
  | .and parts => (Item.Nests.flatten (nests_tokensOfEach parts)).group
  | .or parts => (Item.Nests.separated (nests_tokensOfEach parts)).group

theorem nests_tokensOfEach :
    (ts : List (Tree String)) → List.Forall₂ Item.Nests (tokensOfEach ts) (itemsOfEach ts)
  | [] => .nil
  | t :: ts => .cons (nests_tokens t) (nests_tokensOfEach ts)

end

end Tree

/-! ## Items become the parts they were written from -/

namespace Item

/-- The items of one tree: a term for a leaf, and a group whose parts make up any other. -/
inductive IsOf : Tree String → List Item → Prop
  | term (text : String) : IsOf (.leaf text) [.term text]
  | group {t : Tree String} {items : List Item} (h : .collapse (parts items) = t) :
    IsOf t [.group items]

theorem startsWithSeparator_flatten {ts : List (Tree String)} {iss : List (List Item)}
    (h : List.Forall₂ IsOf ts iss) : startsWithSeparator iss.flatten = false := by
  cases h with
  | nil => rfl
  | cons hfirst _ => cases hfirst <;> rfl

theorem parts_flatten {ts : List (Tree String)} {iss : List (List Item)}
    (h : List.Forall₂ IsOf ts iss) : parts iss.flatten = ts := by
  induction h with
  | nil => rw [List.flatten_nil, parts]
  | cons hfirst hrest ih =>
    cases hfirst with
    | term text =>
      have hnext := startsWithSeparator_flatten hrest
      rw [List.flatten_cons, List.singleton_append, parts, if_neg (by simp [hnext]), ih]
    | group hparts => rw [List.flatten_cons, List.singleton_append, parts, hparts, ih]

theorem startsWithSeparator_separator (rest : List Item) :
    startsWithSeparator (.separator :: rest) = true := rfl

theorem IsOf.alternatives_separator {t : Tree String} {items : List Item} (h : IsOf t items)
    (run : List (Tree String)) (rest : List Item) :
    alternatives run (items ++ .separator :: rest) = alternatives (t :: run) rest := by
  cases h with
  | term text =>
    rw [List.singleton_append, alternatives, if_pos (startsWithSeparator_separator rest),
      alternatives]
  | group hparts =>
    rw [List.singleton_append, alternatives, alternatives, hparts]

theorem IsOf.alternatives_last {t : Tree String} {items : List Item} (h : IsOf t items)
    (run : List (Tree String)) : alternatives run items = [.or (t :: run).reverse] := by
  cases h with
  | term text => rw [alternatives, if_neg (by simp [startsWithSeparator]), parts]
  | group hparts => rw [alternatives, hparts, alternatives]

theorem alternatives_intercalate {ts : List (Tree String)} {iss : List (List Item)}
    (h : List.Forall₂ IsOf ts iss) (run : List (Tree String)) :
    alternatives run ([.separator].intercalate iss) = [.or (run.reverse ++ ts)] := by
  induction h generalizing run with
  | nil => rw [List.append_nil, List.intercalate_nil, alternatives]
  | @cons t items ts iss hfirst hrest ih =>
    cases hrest with
    | nil =>
      rw [List.intercalate_singleton, hfirst.alternatives_last, List.reverse_cons]
    | cons hsecond hrest =>
      rw [List.intercalate_cons_cons, List.append_assoc, List.singleton_append,
        hfirst.alternatives_separator, ih, List.reverse_cons, List.append_assoc]
      rfl

end Item

namespace Tree

mutual

theorem isOf_items : (t : Tree String) → t.IsNormal → Item.IsOf t t.items
  | .leaf text, _ => .term text
  | .and parts, h => by
    refine .group ?_
    rw [Item.parts_flatten (isOf_itemsOfEach parts h.2), collapse_eq_and h.1]
  | .or [], h => by
    obtain ⟨a, rest, hstart⟩ := h.1
    cases hstart
  | .or (.leaf text :: rest), h => by
    refine .group ?_
    have hrest := Item.alternatives_intercalate (isOf_itemsOfEach rest h.2.2) [.leaf text]
    show collapse (Item.parts
      (.term text :: .separator :: [Item.separator].intercalate (itemsOfEach rest))) = _
    rw [Item.parts, if_pos (Item.startsWithSeparator_separator _), Item.alternatives, hrest]
    rfl
  | .or (.and _ :: _), h => by
    obtain ⟨a, rest, hstart⟩ := h.1
    cases hstart
  | .or (.or _ :: _), h => by
    obtain ⟨a, rest, hstart⟩ := h.1
    cases hstart

theorem isOf_itemsOfEach :
    (ts : List (Tree String)) → AreNormal ts → List.Forall₂ Item.IsOf ts (itemsOfEach ts)
  | [], _ => .nil
  | t :: ts, h => .cons (isOf_items t h.1) (isOf_itemsOfEach ts h.2)

end

/-! ## Trees and their tokens -/

theorem texts_separated (tss : List (List Token)) :
    Token.texts (separated .separator tss) = Token.texts tss.flatten := by
  have hbetween : ∀ tss : List (List Token),
      Token.texts ([.separator].intercalate tss) = Token.texts tss.flatten := by
    intro tss
    induction tss with
    | nil => rfl
    | cons ts tss ih =>
      cases tss with
      | nil => simp
      | cons us tss =>
        rw [List.intercalate_cons_cons, List.append_assoc, Token.texts_append, List.singleton_append,
          List.flatten_cons, Token.texts_append, ← ih]
        simp only [Token.texts]
  cases tss with
  | nil => rfl
  | cons ts tss =>
    rw [separated, Token.texts_append, List.flatten_cons, Token.texts_append, ← hbetween]
    simp only [Token.texts]

mutual

theorem texts_tokens : (t : Tree String) → Token.texts t.tokens = t.leaves
  | .leaf _ => rfl
  | .and parts => by
    simp only [tokens, Token.texts, Token.texts_append, texts_tokensOfEach parts, leaves,
      List.append_nil]
  | .or parts => by
    simp only [tokens, Token.texts, Token.texts_append, texts_separated, texts_tokensOfEach parts,
      leaves, List.append_nil]

theorem texts_tokensOfEach :
    (ts : List (Tree String)) → Token.texts (tokensOfEach ts).flatten = leavesOf ts
  | [] => rfl
  | t :: ts => by
    rw [tokensOfEach, List.flatten_cons, Token.texts_append, texts_tokens t, texts_tokensOfEach ts,
      leavesOf]

end

/-- A tree in normal form is the tree of its own tokens. -/
theorem ofTokens_tokens {t : Tree String} (h : t.IsNormal)
    (htimes : ∀ text ∈ t.leaves, looksLikeTimeOfDay text.toList = false) :
    Tree.ofTokens t.tokens = t := by
  have hparts := Item.parts_flatten (.cons (isOf_items t h) .nil)
  rw [List.flatten_singleton] at hparts
  have hjoin : joinTimes t.tokens = t.tokens := joinTimes_eq_self (by rwa [texts_tokens])
  rw [Tree.ofTokens, hjoin, (nests_tokens t).ofTokens, hparts]
  rfl

end Tree

/-! ## Filters -/

theorem startsWithDigit_of_looksLikeTimeOfDay {cs : List Char}
    (h : looksLikeTimeOfDay cs = true) : ∃ d rest, cs = d :: rest ∧ d.isDigit = true := by
  have hsplit : Text.dropEndWhile isGlyphChar cs ++ _ = cs := List.rdropWhile_append_rtakeWhile
  -- The hour is the first part of the text in front of its glyphs.
  have hour : ∀ first more, (Text.dropEndWhile isGlyphChar cs).splitOn ':' = first :: more →
      first ≠ [] ∧ first.all Char.isDigit = true := by
    intro first more hparts
    have hfirst : looksLikeTimeOfDay.isHour first = true := by
      unfold looksLikeTimeOfDay at h
      rw [hparts] at h
      split at h
      all_goals simp_all
    refine ⟨?_, ?_⟩
    · rintro rfl
      cases hfirst
    · unfold looksLikeTimeOfDay.isHour at hfirst
      exact (Bool.and_eq_true_iff.1 hfirst).2
  generalize Text.dropEndWhile isGlyphChar cs = front at hsplit hour
  cases front with
  | nil => exact absurd rfl (hour [] [] rfl).1
  | cons d front =>
    refine ⟨d, _, hsplit.symm, ?_⟩
    rw [List.splitOn, List.splitOnP_cons_eq_if_modifyHead] at hour
    split at hour
    · exact absurd rfl (hour [] _ rfl).1
    · cases hrest : List.splitOnP (fun c => c == ':') front with
      | nil => exact absurd hrest (List.splitOnP_ne_nil _ _)
      | cons first more =>
        rw [hrest] at hour
        have := (hour (d :: first) more rfl).2
        rw [List.all_cons, Bool.and_eq_true] at this
        exact this.1

namespace Filter

/-- A filter of a time of day is a tag, so every filter has a term that is no time of day. -/
theorem exists_ofTerm {text : String} {f : Filter} (h : ofTerm text = .ok f) :
    ∃ other : String, looksLikeTimeOfDay other.toList = false ∧ ofTerm other = .ok f := by
  by_cases htime : looksLikeTimeOfDay text.toList = true
  · obtain ⟨d, rest, htext, hd⟩ := startsWithDigit_of_looksLikeTimeOfDay htime
    refine ⟨"tag:" ++ text, ?_, ?_⟩
    · rw [← Bool.not_eq_true]
      intro hother
      obtain ⟨d', rest', hsplit, hd'⟩ := startsWithDigit_of_looksLikeTimeOfDay hother
      rw [String.toList_append] at hsplit
      obtain rfl : 't' = d' := (List.cons.inj hsplit).1
      cases hd'
    · rw [ofTerm_tag (by simp [htext]), ← h, ofTerm_of_digit htext hd]
  · exact ⟨text, by simpa using htime, h⟩

end Filter

/-- The leaves of a tree of filters are the filters of the terms from which it was read. -/
theorem Tree.exists_ofTerm_of_mapM {t : Tree String} {u : Tree Filter}
    (h : t.mapM Filter.ofTerm = .ok u) : ∀ f ∈ u.leaves, ∃ text, Filter.ofTerm text = .ok f := by
  have hleaves := Tree.leaves_mapM Filter.ofTerm t
  rw [h] at hleaves
  have hread := mapM_eq_ok_iff.1 hleaves.symm
  generalize t.leaves = texts, u.leaves = filters at hread
  induction hread with
  | nil => simp
  | cons hfirst _ ih =>
    intro f hf
    rcases List.mem_cons.1 hf with rfl | hf
    · exact ⟨_, hfirst⟩
    · exact ih f hf

/-- The filter trees of tokens are exactly the trees in normal form whose leaves are filters of terms;
and a tree of terms in normal form, none of them a time of day, is read back from its tokens, each
term as its filter. -/
theorem parseTokens_normal_form :
    (∀ u : Tree Filter, (∃ ts, parseTokens ts = .ok u) ↔
      u.IsNormal ∧ ∀ f ∈ u.leaves, ∃ text, Filter.ofTerm text = .ok f) ∧
    ∀ (t : Tree String) (filter : String → Filter), t.IsNormal →
      (∀ text ∈ t.leaves,
        Filter.ofTerm text = .ok (filter text) ∧ looksLikeTimeOfDay text.toList = false) →
      parseTokens t.tokens = .ok (t.map filter) := by
  have hread {t : Tree String} (ht : t.IsNormal)
      (htimes : ∀ text ∈ t.leaves, looksLikeTimeOfDay text.toList = false) :
      parseTokens t.tokens = t.mapM Filter.ofTerm := by
    rw [parseTokens, Tree.ofTokens_tokens ht htimes]
  refine ⟨fun u => ⟨?_, ?_⟩, ?_⟩
  · rintro ⟨ts, h⟩
    exact ⟨(Tree.isNormal_of_mapM _ h).1 (Tree.isNormal_ofTokens ts),
      Tree.exists_ofTerm_of_mapM h⟩
  · rintro ⟨hnormal, hleaves⟩
    obtain ⟨t, ht, htimes⟩ := Tree.exists_mapM_eq
      (p := fun text : String => looksLikeTimeOfDay text.toList = false) u fun f hf => by
        obtain ⟨text, htext⟩ := hleaves f hf
        exact Filter.exists_ofTerm htext
    exact ⟨t.tokens, (hread ((Tree.isNormal_of_mapM t ht).2 hnormal) htimes).trans ht⟩
  · intro t filter ht hleaves
    rw [hread ht fun text htext => (hleaves text htext).2]
    exact Tree.mapM_eq_map t fun text htext => (hleaves text htext).1

/-- Alternatives whose second is a conjunction with a lone alternative inside, and whose last is an
empty conjunction. -/
def nestedAlternatives : Tree String :=
  .or [.leaf "cat", .and [.leaf "dog", .or [.leaf "fox"]], .and []]

theorem parseTokens_nestedAlternatives :
    nestedAlternatives.IsNormal ∧
      (∀ text ∈ nestedAlternatives.leaves, Filter.ofTerm text = .ok (.tag text false) ∧
        looksLikeTimeOfDay text.toList = false) ∧
      parseTokens nestedAlternatives.tokens = .ok (nestedAlternatives.map (.tag · false)) := by
  have hnormal : nestedAlternatives.IsNormal := by
    simp [nestedAlternatives, Tree.IsNormal, Tree.AreNormal]
  have hleaves : ∀ text ∈ nestedAlternatives.leaves,
      Filter.ofTerm text = .ok (.tag text false) ∧ looksLikeTimeOfDay text.toList = false := by
    intro text htext
    obtain rfl | rfl | rfl : text = "cat" ∨ text = "dog" ∨ text = "fox" := by
      simpa [nestedAlternatives, Tree.leaves, Tree.leavesOf] using htext
    all_goals exact ⟨by decide +kernel, by decide +kernel⟩
  exact ⟨hnormal, hleaves, parseTokens_normal_form.2 nestedAlternatives _ hnormal hleaves⟩

end TagSearch

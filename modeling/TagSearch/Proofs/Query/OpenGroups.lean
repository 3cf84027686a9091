import TagSearch.Proofs.Query.Conservation

/-!
# Groups that are left open

Parentheses need not match.  A group that is not closed ends with the tokens, so the ends that are
missing may be written or not; and an end that closes no group ends the reading, whatever stands behind
it.

Reading tokens in front of others is a run of a machine whose state is the items of the open levels.
The run touches none but the levels that the tokens open themselves (`Item.exists_nest_append`), so
where no group ends that has not started, the state behind the tokens says all about them.

`parseTokens_unbalanced` says what follows for filter trees.
-/

namespace TagSearch

namespace Token

/-- No group ends that has not started, and `k` groups are left open. -/
structure LeavesOpen (k : Nat) (ts : List Token) : Prop where
  started : ∀ front, front <+: ts → front.count .groupEnd ≤ front.count .groupStart
  left : ts.count .groupStart = ts.count .groupEnd + k

theorem exists_depthAfter {ts : List Token} {depth : Nat}
    (h : ∀ front, front <+: ts → front.count .groupEnd ≤ depth + front.count .groupStart) :
    ∃ k, depthAfter depth ts = some k := by
  induction ts generalizing depth with
  | nil => exact ⟨depth, rfl⟩
  | cons t ts ih =>
    have htail (front : List Token) (hfront : front <+: ts) :=
      h (t :: front) (List.cons_prefix_cons.2 ⟨rfl, hfront⟩)
    cases t with
    | groupStart =>
      refine ih fun front hfront => ?_
      have := htail front hfront
      simp at this
      omega
    | groupEnd =>
      have hone := h [.groupEnd] ⟨ts, rfl⟩
      simp at hone
      rw [depthAfter, if_neg (Nat.ne_of_gt hone)]
      refine ih fun front hfront => ?_
      have := htail front hfront
      simp at this
      omega
    | separator =>
      refine ih fun front hfront => ?_
      simpa using htail front hfront
    | term text =>
      refine ih fun front hfront => ?_
      simpa using htail front hfront

theorem leavesOpen_iff {k : Nat} {ts : List Token} :
    LeavesOpen k ts ↔ depthAfter 0 ts = some k := by
  constructor
  · intro h
    obtain ⟨depth, hdepth⟩ : ∃ depth, depthAfter 0 ts = some depth :=
      exists_depthAfter fun front hfront => by simpa using h.started front hfront
    have hcount := count_of_depthAfter hdepth
    have hleft := h.left
    obtain rfl : depth = k := by omega
    exact hdepth
  · intro h
    refine ⟨?_, ?_⟩
    · rintro front ⟨back, rfl⟩
      rw [depthAfter_append] at h
      obtain ⟨depth, hfront, -⟩ := Option.bind_eq_some_iff.1 h
      have hcount := count_of_depthAfter hfront
      omega
    · have hcount := count_of_depthAfter h
      omega

end Token

/-! ## Times of day in front of a mark -/

theorem joinTimes_append {t : Token} (h : t.isMark = true) (ts us : List Token) :
    joinTimes (ts ++ t :: us) = joinTimes ts ++ joinTimes (t :: us) := by
  fun_induction joinTimes ts with
  | case1 date time rest hjoin ih =>
    rw [List.cons_append, List.cons_append, joinTimes, if_pos hjoin, ih]
    rfl
  | case2 date time rest hjoin ih =>
    rw [List.cons_append, List.cons_append, joinTimes, if_neg hjoin, ← List.cons_append, ih]
    rfl
  | case3 token rest hne ih =>
    rw [List.cons_append, joinTimes, ih]
    · rfl
    · intro date time rest' hdate htime
      cases rest with
      | nil =>
        obtain ⟨rfl, -⟩ := List.cons.inj htime
        cases h
      | cons next rest =>
        obtain ⟨rfl, -⟩ := List.cons.inj htime
        exact hne date time rest hdate rfl
  | case4 => rfl

theorem joinTimes_cons {t : Token} (h : t.isMark = true) (ts : List Token) :
    joinTimes (t :: ts) = t :: joinTimes ts := by
  cases t with
  | term text => cases h
  | _ => rw [joinTimes]; simp

theorem joinTimes_append_groupEnds (ts : List Token) (j : Nat) :
    joinTimes (ts ++ List.replicate j .groupEnd) = joinTimes ts ++ List.replicate j .groupEnd := by
  have hends : joinTimes (List.replicate j .groupEnd) = List.replicate j .groupEnd := by
    induction j with
    | zero => rfl
    | succ j ih => rw [List.replicate_succ, joinTimes_cons rfl, ih]
  cases j with
  | zero => simp
  | succ j =>
    rw [List.replicate_succ] at hends ⊢
    rw [joinTimes_append rfl, hends]

/-! ## Items behind tokens -/

namespace Item

/-- Tokens in which no group ends that has not started turn the levels that are open into others, and
touch no level below. -/
theorem exists_nest_append {ts : List Token} {k : Nat} (level : List Item)
    {opened : List (List Item)} (h : Token.depthAfter opened.length ts = some k) :
    ∃ level' opened', opened'.length = k ∧ ∀ levels rest,
      nest level (opened ++ levels) (ts ++ rest) = nest level' (opened' ++ levels) rest := by
  induction ts generalizing level opened with
  | nil => exact ⟨level, opened, Option.some.inj h, fun _ _ => rfl⟩
  | cons t ts ih =>
    cases t with
    | term text => exact ih (.term text :: level) h
    | separator => exact ih (.separator :: level) h
    | groupStart =>
      have hinner : Token.depthAfter (level :: opened).length ts = some k := h
      exact ih [] hinner
    | groupEnd =>
      cases opened with
      | nil => cases h
      | cons outer opened => exact ih (.group level.reverse :: outer) h

/-- Ends of groups close the groups that are open, as the end of the tokens does. -/
theorem nest_groupEnds {j : Nat} {levels : List (List Item)} (h : j ≤ levels.length)
    (level : List Item) : nest level levels (List.replicate j .groupEnd) = closeAll level levels := by
  induction j generalizing level levels with
  | zero => rfl
  | succ j ih =>
    cases levels with
    | nil => cases h
    | cons outer levels =>
      rw [List.replicate_succ, nest, closeAll]
      exact ih (Nat.le_of_succ_le_succ h) _

end Item

/-- Tokens that leave groups open mean the same with any number of the missing ends behind them; if they
leave none open, a further end makes everything behind it count for nothing. -/
theorem parseTokens_unbalanced {k : Nat} {ts : List Token} (h : Token.LeavesOpen k ts) :
    (∀ j ≤ k, parseTokens (ts ++ List.replicate j .groupEnd) = parseTokens ts) ∧
      (k = 0 → ∀ rest, parseTokens (ts ++ .groupEnd :: rest) = parseTokens ts) := by
  have hdepth : Token.depthAfter ([] : List (List Item)).length (joinTimes ts) = some k := by
    rw [List.length_nil, Token.depthAfter_joinTimes, Token.leavesOpen_iff.1 h]
  obtain ⟨level, opened, rfl, hnest⟩ := Item.exists_nest_append [] hdepth
  have hitems (rest : List Token) :
      Item.ofTokens (joinTimes ts ++ rest) = Item.nest level opened rest := by
    simpa [Item.ofTokens] using hnest [] rest
  have hend : Item.ofTokens (joinTimes ts) = Item.closeAll level opened := by
    have := hitems []
    rwa [List.append_nil] at this
  refine ⟨fun j hj => ?_, fun hclosed rest => ?_⟩
  · rw [parseTokens, parseTokens, Tree.ofTokens, Tree.ofTokens, joinTimes_append_groupEnds, hitems,
      Item.nest_groupEnds hj, hend]
  · obtain rfl := List.eq_nil_of_length_eq_zero hclosed
    rw [parseTokens, parseTokens, Tree.ofTokens, Tree.ofTokens, joinTimes_append rfl,
      joinTimes_cons rfl, hitems, hend]
    rfl

/-- Two groups are left open within a run of alternatives; and a date at the end is not joined with the
time of day behind the end that closes nothing. -/
theorem parseTokens_unbalanced_run :
    Token.LeavesOpen 2 [.term "a", .separator, .groupStart, .term "b", .groupStart, .separator] ∧
      parseTokens ([.term "a", .separator, .groupStart, .term "b", .groupStart, .separator] ++
          List.replicate 1 .groupEnd) =
        parseTokens [.term "a", .separator, .groupStart, .term "b", .groupStart, .separator] ∧
      Token.LeavesOpen 0 [.groupStart, .groupEnd, .term "uploaded:2023-11-14"] ∧
      parseTokens ([.groupStart, .groupEnd, .term "uploaded:2023-11-14"] ++
          .groupEnd :: [.term "22:13", .term "score:x"]) =
        parseTokens [.groupStart, .groupEnd, .term "uploaded:2023-11-14"] := by
  have htwo : Token.LeavesOpen 2
      [.term "a", .separator, .groupStart, .term "b", .groupStart, .separator] :=
    Token.leavesOpen_iff.2 rfl
  have hnone : Token.LeavesOpen 0 [.groupStart, .groupEnd, .term "uploaded:2023-11-14"] :=
    Token.leavesOpen_iff.2 rfl
  exact ⟨htwo, (parseTokens_unbalanced htwo).1 1 (by decide), hnone,
    (parseTokens_unbalanced hnone).2 rfl _⟩

end TagSearch

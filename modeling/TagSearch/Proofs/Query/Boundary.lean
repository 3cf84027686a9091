import TagSearch.Proofs.Query.Resemblance

/-!
# A space outside groups

A space outside groups divides a query: what stands on either side of it gives the tokens that it gives
as a query of its own.

1. Ahead, a scan sees whether a word character comes next and, at a space inside a group, whether a
   structural character comes behind the spaces.  In front of a space outside groups neither depends on
   what stands behind that space (`run_of_space`): where only spaces come before it, no group is open.
2. Behind, a scan sees the pending text, whether a value is being read, and the characters that a
   parenthesis looks back on.  The space ends the value and one looks back at most to it; of the pending
   text white space alone may be left.  So the scan behind the space resembles the one at the start of a
   query (`tokens_space`).

`Token.ofQuery_append_space` puts the two together.
-/

namespace TagSearch

open Text

namespace Scan

/-! ## Looking ahead -/

section

variable (s : Scan) {c : Char} {r r' : List Char}

theorem closeParenthesis_congr (hword : r.head?.any isWordChar = r'.head?.any isWordChar) :
    s.closeParenthesis r = s.closeParenthesis r' := by
  unfold closeParenthesis
  rw [hword]

theorem space_congr
    (hmark : 0 < s.depth → (r.dropWhile (· == ' ')).head?.any isStructural =
      (r'.dropWhile (· == ' ')).head?.any isStructural) :
    s.space r = s.space r' := by
  unfold space
  split
  · rfl
  · next hd => rw [hmark (Nat.pos_of_ne_zero hd)]

theorem step_congr (hword : r.head?.any isWordChar = r'.head?.any isWordChar)
    (hmark : c = ' ' → 0 < s.depth → (r.dropWhile (· == ' ')).head?.any isStructural =
      (r'.dropWhile (· == ' ')).head?.any isStructural) :
    s.step c r = s.step c r' := by
  have hread : s.read c r = s.read c r' := by
    have hdepth : (if c == ' ' && s.depth == 0 then { s with inValue := false } else s).depth =
        s.depth := by split <;> rfl
    unfold read
    dsimp only
    generalize (if c == ' ' && s.depth == 0 then { s with inValue := false } else s) = t
      at hdepth ⊢
    rw [closeParenthesis_congr t hword]
    by_cases hc : c = ' '
    · rw [space_congr t (by rw [hdepth]; exact hmark hc)]
    · simp [hc]
  unfold step
  rw [hread]

end

theorem depth_run_of_spaces (s : Scan) {cs : List Char} (h : ∀ c ∈ cs, c = ' ') (rest : List Char) :
    (s.run rest cs).2.depth = s.depth := by
  induction cs generalizing s with
  | nil => rfl
  | cons c cs ih =>
    have hstep : (s.step c (cs ++ rest)).2.depth = s.depth := by
      have hread := s.reading c (cs ++ rest)
      rw [h c List.mem_cons_self] at hread ⊢
      generalize (s.step ' ' (cs ++ rest)).1 = ts, (s.step ' ' (cs ++ rest)).2 = s' at hread ⊢
      cases hread with
      | keep => rfl
      | blank => rfl
      | space => rfl
      | separator => rfl
      | start mark => cases mark
      | startInside mark => cases mark
      | finish mark => cases mark
    rw [run, ih _ fun d hd => h d (List.mem_cons_of_mem _ hd), hstep]

/-- A text that leaves no group open is read in front of a space as it is at the end of a query. -/
theorem run_of_space (s : Scan) {cs : List Char} (h : (s.run [] cs).2.depth = 0)
    (more : List Char) : s.run (' ' :: more) cs = s.run [] cs := by
  induction cs generalizing s with
  | nil => rfl
  | cons c cs ih =>
    have hstep : s.step c (cs ++ ' ' :: more) = s.step c (cs ++ []) := by
      rw [List.append_nil]
      refine s.step_congr ?_ fun hc hinside => ?_
      · cases cs <;> rfl
      · -- The group that is open ends before the text does, so not only spaces follow.
        have hother : ¬(cs.dropWhile (· == ' ')).isEmpty = true := by
          rw [List.isEmpty_iff, List.dropWhile_eq_nil_iff]
          intro hspaces
          have hdepth : (s.run [] (c :: cs)).2.depth = s.depth :=
            s.depth_run_of_spaces (by simpa [hc] using hspaces) []
          omega
        rw [List.dropWhile_append, if_neg hother]
        cases hrest : cs.dropWhile (· == ' ') with
        | nil => simp [hrest] at hother
        | cons d ds => rfl
    have hrest : ((s.step c (cs ++ [])).2.run [] cs).2.depth = 0 := h
    simp only [run, hstep, ih _ hrest]

/-! ## Both sides of the space -/

/-- Behind a space outside groups the tokens are those of the rest as a query of its own. -/
theorem tokens_space {s : Scan} (h : s.depth = 0) (cs : List Char) :
    s.tokens (' ' :: cs) = s.flush.1 ++ start.tokens cs := by
  have hread : s.read ' ' cs = (s.flush.1, { s.flush.2 with inValue := false }) := by
    rw [← flush_inValue]
    simp [read, space, h]
  have hstep : s.step ' ' cs = (s.flush.1, ⟨s.flush.2.pending, 0, false, ' ' :: s.past⟩) := by
    unfold step
    rw [hread]
    simp [h]
  have hlike : Resembles ⟨s.flush.2.pending, 0, false, ' ' :: s.past⟩ start :=
    { pending := ⟨_, trim_eq_nil_iff.1 s.trim_pending_flush, (List.append_nil _).symm⟩
      depth := rfl
      inValue := rfl
      past := fun xs => by
        rw [endsInField_append_space, show start.past = [] from rfl, List.append_nil] }
  rw [tokens, hstep]
  exact congrArg (s.flush.1 ++ ·) (hlike.tokens_eq cs)

end Scan

namespace Token

/-- If no group is open in front of a space, the tokens are those of the text in front of the space and
then those of the text behind it. -/
theorem ofQuery_append_space {a b : String}
    (h : (ofQuery a).count .groupStart = (ofQuery a).count .groupEnd) :
    ofQuery (a ++ " " ++ b) = ofQuery a ++ ofQuery b := by
  have hdepth : (Scan.start.run [] a.toList).2.depth = 0 := by
    have hcount := count_of_depthAfter (Scan.start.depthAfter_tokens_eq a.toList)
    have hstart : Scan.start.depth = 0 := rfl
    unfold ofQuery at h
    omega
  have htext : (a ++ " " ++ b).toList = a.toList ++ ' ' :: b.toList := by simp
  calc ofQuery (a ++ " " ++ b)
      = (Scan.start.run (' ' :: b.toList) a.toList).1 ++
          (Scan.start.run (' ' :: b.toList) a.toList).2.tokens (' ' :: b.toList) := by
        rw [ofQuery, htext, Scan.tokens_append]
    _ = (Scan.start.run [] a.toList).1 ++
          ((Scan.start.run [] a.toList).2.flush.1 ++ Scan.start.tokens b.toList) := by
        rw [Scan.run_of_space _ hdepth, Scan.tokens_space hdepth]
    _ = ofQuery a ++ ofQuery b := by
        rw [← List.append_assoc, ← Scan.tokens_eq_run]
        rfl

/-- The group ends although a tab is left pending behind it, and the colon behind the space begins no
value. -/
theorem ofQuery_append_space_tab :
    (ofQuery "x (a | b)\t").count .groupStart = (ofQuery "x (a | b)\t").count .groupEnd ∧
      ofQuery ("x (a | b)\t" ++ " " ++ ":c (d ) e") = ofQuery "x (a | b)\t" ++ ofQuery ":c (d ) e" :=
  ⟨by decide +kernel, ofQuery_append_space (by decide +kernel)⟩

end Token

end TagSearch

import TagSearch.Proofs.Query.Grouping
import TagSearch.Proofs.Query.OpenGroups
import TagSearch.Proofs.Text.Joined

/-!
# Well-formed tokens

What is known of the tokens of a query, whatever the query: no group ends that has not started, and the
text of a term is not empty, has no white space at either end and holds no separator that would have ended
it (`IsProperTerm`).

A term may be read at one depth and end at another, so what carries this is a fact of the scan and not of
its tokens (`Scan.IsClean`): the pending text holds no separator that ends terms at the present depth.
The first group starts behind an ended term, so that a `~` or `,` from outside groups is never pending
inside one; deeper groups start and end among text that holds neither (`Reading.isClean`).

`Token.ofQuery_isWellFormed` puts this together with the depth of the scan, which is the number of open
groups at every point.
-/

namespace TagSearch

open Text

namespace Token

/-- The text of a term: it is not empty, begins and ends without white space, and holds no separator. -/
structure IsProperTerm (inGroup : Prop) (cs : List Char) : Prop where
  nonempty : cs ≠ []
  first : cs.head?.any isWhite = false
  last : cs.getLast?.any isWhite = false
  bar : '|' ∉ cs
  separators : inGroup → '~' ∉ cs ∧ ',' ∉ cs

/-- No group ends that has not started, and every term is a proper one where it stands. -/
structure IsWellFormed (ts : List Token) : Prop where
  started : ∀ front, front <+: ts → front.count .groupEnd ≤ front.count .groupStart
  terms : ∀ front text, front ++ [.term text] <+: ts →
    IsProperTerm (front.count .groupEnd < front.count .groupStart) text.toList

end Token

namespace Scan

/-- The pending text holds no separator that ends terms at the depth of the scan. -/
structure IsClean (s : Scan) : Prop where
  bar : '|' ∉ s.pending
  separators : 0 < s.depth → '~' ∉ s.pending ∧ ',' ∉ s.pending

theorem IsClean.of_trim {s : Scan} (h : trim s.pending = []) : s.IsClean where
  bar := not_mem_of_trim h (by decide)
  separators _ := ⟨not_mem_of_trim h (by decide), not_mem_of_trim h (by decide)⟩

theorem IsClean.isProperTerm {s : Scan} (hs : s.IsClean) (hne : trim s.pending ≠ []) :
    Token.IsProperTerm (0 < s.depth) (trim s.pending) where
  nonempty := hne
  first := any_head?_trim _
  last := any_getLast?_trim _
  bar h := hs.bar (mem_of_mem_trim h)
  separators hd :=
    ⟨fun h => (hs.separators hd).1 (mem_of_mem_trim h), fun h => (hs.separators hd).2 (mem_of_mem_trim h)⟩

/-! ## One character -/

section

variable {s s' : Scan} {c : Char} {rest : List Char} {ts : List Token}

/-- A clean scan stays clean. -/
theorem Reading.isClean (h : Reading s c rest ts s') (hs : s.IsClean) : s'.IsClean := by
  cases h with
  | keep bar group =>
    refine ⟨?_, fun hd => ⟨?_, ?_⟩⟩
    · simp [hs.bar, bar.symm]
    · have hc : '~' ≠ c := fun hc => Nat.ne_of_gt hd (group (.inl hc.symm))
      simp [(hs.separators hd).1, hc]
    · have hc : ',' ≠ c := fun hc => Nat.ne_of_gt hd (group (.inr hc.symm))
      simp [(hs.separators hd).2, hc]
  | blank => exact ⟨hs.bar, hs.separators⟩
  | space => exact .of_trim s.trim_pending_flush
  | separator => exact .of_trim s.trim_pending_flush
  | start => exact .of_trim s.trim_pending_flush
  | startInside _ _ inside => exact ⟨hs.bar, fun _ => hs.separators inside⟩
  | finish => exact .of_trim s.trim_pending_flush

theorem IsClean.terms_flush (hs : s.IsClean) {marks : List Token} (hmarks : ∀ t ∈ marks, t.isMark = true)
    {front : List Token} {text : String} (h : front ++ [.term text] <+: s.flush.1 ++ marks) :
    front = [] ∧ Token.IsProperTerm (0 < s.depth) text.toList := by
  have hnone {front : List Token} (h : front ++ [.term text] <+: marks) : False := by
    cases hmarks _ (h.subset (List.mem_append_right front List.mem_cons_self))
  rcases s.flush_eq with ⟨hflush, -⟩ | ⟨hflush, hne⟩ <;> rw [hflush] at h
  · exact (hnone h).elim
  · cases front with
    | nil =>
      obtain ⟨hterm, -⟩ := List.cons_prefix_cons.1 h
      cases hterm
      exact ⟨rfl, by simpa using hs.isProperTerm hne⟩
    | cons t front => exact (hnone (List.cons_prefix_cons.1 h).2).elim

/-- A step ends at most one term, and with it at first. -/
theorem Reading.terms (h : Reading s c rest ts s') (hs : s.IsClean) {front : List Token}
    {text : String} (hterm : front ++ [.term text] <+: ts) :
    front = [] ∧ Token.IsProperTerm (0 < s.depth) text.toList := by
  have hflush {t : Token} (ht : t.isMark = true) (hterm : front ++ [.term text] <+: s.flush.1 ++ [t]) :=
    hs.terms_flush (fun u hu => List.mem_singleton.1 hu ▸ ht) hterm
  cases h with
  | keep => simp at hterm
  | blank => simp at hterm
  | space =>
    rw [← List.append_nil s.flush.1] at hterm
    exact hs.terms_flush (by simp) hterm
  | separator => exact hflush rfl hterm
  | start => exact hflush rfl hterm
  | startInside => cases front <;> simp [List.cons_prefix_cons] at hterm
  | finish => exact hflush rfl hterm

theorem Reading.inside_of_groupEnd (h : Reading s c rest ts s') (hend : .groupEnd ∈ ts) :
    0 < s.depth := by
  have hflush : .groupEnd ∉ s.flush.1 := fun hmem =>
    absurd (List.any_eq_true.2 ⟨_, hmem, rfl⟩) (by rw [any_isMark_flush]; decide)
  cases h with
  | finish _ _ inside => exact inside
  | _ => simp [hflush] at hend

end

/-! ## Many characters -/

/-- The beginning of two lists behind each other ends in the first or goes on into the second. -/
theorem prefix_append_cases {α : Type} {front xs ys : List α} {x : α} (h : front ++ [x] <+: xs ++ ys) :
    front ++ [x] <+: xs ∨ ∃ more, front = xs ++ more ∧ more ++ [x] <+: ys := by
  rcases List.prefix_or_prefix_of_prefix h (List.prefix_append xs ys) with hxs | hxs
  · exact .inl hxs
  · rcases List.prefix_concat_iff.1 hxs with rfl | ⟨more, rfl⟩
    · exact .inl (List.prefix_refl _)
    · rw [List.append_assoc, List.prefix_append_right_inj] at h
      exact .inr ⟨more, rfl, h⟩

/-- The terms of a clean scan are proper where they stand. -/
theorem IsClean.terms_tokens {s : Scan} (hs : s.IsClean) (cs : List Char) {front : List Token}
    {text : String} (h : front ++ [.term text] <+: s.tokens cs) :
    ∃ depth, Token.depthAfter s.depth front = some depth ∧
      Token.IsProperTerm (0 < depth) text.toList := by
  induction cs generalizing s front with
  | nil =>
    rw [tokens, ← List.append_nil s.flush.1] at h
    obtain ⟨rfl, hproper⟩ := hs.terms_flush (by simp) h
    exact ⟨s.depth, rfl, hproper⟩
  | cons c cs ih =>
    have hreading := s.reading c cs
    have htokens : s.tokens (c :: cs) = (s.step c cs).1 ++ (s.step c cs).2.tokens cs := rfl
    rw [htokens] at h
    rcases prefix_append_cases h with hfound | ⟨more, rfl, hmore⟩
    · obtain ⟨rfl, hproper⟩ := hreading.terms hs hfound
      exact ⟨s.depth, rfl, hproper⟩
    · obtain ⟨depth, hdepth, hproper⟩ := ih (hreading.isClean hs) hmore
      refine ⟨depth, ?_, hproper⟩
      rwa [Token.depthAfter_append, hreading.depthAfter]

/-- At every point of a query the depth is the number of groups that the tokens found so far start and do
not end, and where a group ends the depth is not zero. -/
structure CountsGroups (query : String) : Prop where
  tokens : ∀ before after, query.toList = before ++ after →
    (start.run after before).1 <+: Token.ofQuery query
  depth : ∀ before after, query.toList = before ++ after →
    (start.run after before).2.depth + (start.run after before).1.count .groupEnd =
      (start.run after before).1.count .groupStart
  inside : ∀ before c after, query.toList = before ++ c :: after → .groupEnd ∈ found before c after →
    0 < (start.run (c :: after) before).2.depth

theorem countsGroups (query : String) : CountsGroups query where
  tokens before after h := by
    rw [Token.ofQuery, h, tokens_append]
    exact List.prefix_append _ _
  depth before after _ := by
    have hcount := Token.count_of_depthAfter (start.depthAfter_run after before)
    rw [hcount]
    exact Nat.zero_add _
  inside _ c after _ hend := (reading _ c after).inside_of_groupEnd hend

end Scan

/-- The tokens of every query are well-formed, and the depth of its scan is at every point the number of
open groups, so that it never falls below zero. -/
theorem Token.ofQuery_isWellFormed (query : String) :
    IsWellFormed (ofQuery query) ∧ Scan.CountsGroups query := by
  have hdepth := Scan.start.depthAfter_tokens_eq query.toList
  refine ⟨⟨(leavesOpen_iff.2 hdepth).started, fun front text hterm => ?_⟩, Scan.countsGroups query⟩
  have hclean : Scan.start.IsClean := .of_trim rfl
  obtain ⟨depth, hfront, hproper⟩ := hclean.terms_tokens query.toList hterm
  have hcount := count_of_depthAfter hfront
  have hgroup : 0 < depth ↔ front.count .groupEnd < front.count .groupStart := by
    have hstart : Scan.start.depth = 0 := rfl
    omega
  rwa [hgroup] at hproper

end TagSearch

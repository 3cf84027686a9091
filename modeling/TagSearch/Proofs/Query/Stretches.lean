import Mathlib.Data.List.DropRight
import TagSearch.Proofs.Query.Conservation

/-!
# Terms that go on across the start of a group

Tokens are cut out of a query in the order of its text: a mark becomes a token of its own, and a term is
read from one stretch of the text, from its first character to its last.  Separators, ends of groups and
starts of groups outside groups end the term in front of them, so none of them stands in the stretch of a
term.  The start of a group within another one ends no term: the term goes on behind it, and comes behind
it among the tokens.

`Token.terms_go_on_within_groups`: nothing else can stand between the characters of a term, and this does
exactly in the queries in which a group starts within another one while text is pending.
`Token.term_straddles_group` is the shortest kind of such a query.
-/

namespace TagSearch

open Text

/-- A marked text is cut into tokens in its order, `depth` groups being open in front of it.  Between
terms, white space is passed over.  No mark stands in the stretch of a term, unless terms go on `across`
starts of groups within groups; those come before the term. -/
inductive IsCutInto (across : Prop) : Nat → List (Char × Bool) → List Token → Prop where
  | nil {depth : Nat} : IsCutInto across depth [] []
  | white {depth : Nat} {c : Char} {xs : List (Char × Bool)} {ts : List Token}
      (white : isWhite c = true) (rest : IsCutInto across depth xs ts) :
      IsCutInto across depth ((c, false) :: xs) ts
  | mark {depth depth' : Nat} {c : Char} {t : Token} {xs : List (Char × Bool)} {ts : List Token}
      (read : t.IsReadFrom c) (groups : Token.depthAfter depth [t] = some depth')
      (rest : IsCutInto across depth' xs ts) : IsCutInto across depth ((c, true) :: xs) (t :: ts)
  | term {depth : Nat} {stretch xs : List (Char × Bool)} {ts : List Token}
      (text : trim (unmarkedOf stretch) ≠ [])
      (starts : ∀ x ∈ stretch, x.2 = true → across ∧ x.1 = '(' ∧ 0 < depth)
      (rest : IsCutInto across (depth + (marksOf stretch).length) xs ts) :
      IsCutInto across depth (stretch ++ xs)
        (List.replicate (marksOf stretch).length .groupStart ++
          .term (String.ofList (trim (unmarkedOf stretch))) :: ts)

namespace Scan

/-- A group starts within another one while the text of a term is pending. -/
def StartsWithin (s : Scan) (rest : List Char) : Prop :=
  .groupStart ∈ (s.step '(' rest).1 ∧ 0 < s.depth ∧ trim s.pending ≠ []

/-- The pending text is read from a stretch in front of which `depth` groups are open; white space in
front of the text belongs to no stretch. -/
structure IsPendingFrom (across : Prop) (depth : Nat) (s : Scan) (stretch : List (Char × Bool)) :
    Prop where
  blank : trim s.pending = [] → stretch = []
  text : unmarkedOf stretch = s.pending.dropWhile isWhite
  groups : s.depth = depth + (marksOf stretch).length
  starts : ∀ x ∈ stretch, x.2 = true → across ∧ x.1 = '(' ∧ 0 < depth

theorem trim_dropWhile (cs : List Char) : trim (cs.dropWhile isWhite) = trim cs := by
  rw [trim, stripEnds, List.dropWhile_idempotent]
  rfl

section

variable {across : Prop} {depth : Nat} {s : Scan} {stretch xs : List (Char × Bool)} {ts : List Token}

theorem isPendingFrom_nil (h : trim s.pending = []) : IsPendingFrom across s.depth s [] where
  blank _ := rfl
  text := (List.dropWhile_eq_nil_iff.2 (trim_eq_nil_iff.1 h)).symm
  groups := rfl
  starts := by simp

theorem IsPendingFrom.flush (h : IsPendingFrom across depth s stretch)
    (rest : IsCutInto across s.depth xs ts) :
    IsCutInto across depth (stretch ++ xs)
      (List.replicate (marksOf stretch).length .groupStart ++ (s.flush.1 ++ ts)) := by
  rcases s.flush_eq with ⟨hflush, ht⟩ | ⟨hflush, ht⟩ <;> rw [hflush]
  · obtain rfl := h.blank ht
    have hdepth : s.depth = depth := h.groups
    rwa [hdepth] at rest
  · have htext : trim (unmarkedOf stretch) = trim s.pending := by rw [h.text, trim_dropWhile]
    have hcut := IsCutInto.term (htext ▸ ht) h.starts (h.groups ▸ rest)
    rwa [htext] at hcut

theorem IsPendingFrom.keep (h : IsPendingFrom across depth s stretch) {s' : Scan} {c : Char}
    (hpending : s'.pending = s.pending ++ [c]) (hdepth : s'.depth = s.depth)
    (hne : trim s'.pending ≠ []) : IsPendingFrom across depth s' (stretch ++ [(c, false)]) where
  blank hblank := absurd hblank hne
  text := by
    have hc : unmarkedOf [(c, false)] = [c] := rfl
    rw [unmarkedOf_append, h.text, hc, hpending, List.dropWhile_append]
    split
    · next hempty =>
      -- Only white space is pending, so the character is the first of the text.
      rw [List.isEmpty_iff] at hempty
      rw [hempty, List.nil_append, List.dropWhile_cons_of_neg]
      intro hwhite
      apply hne
      rw [hpending, trim_eq_nil_iff]
      intro d hd
      rcases List.mem_append.1 hd with hd | hd
      · exact List.dropWhile_eq_nil_iff.1 hempty d hd
      · rwa [List.mem_singleton.1 hd]
    · rfl
  groups := by
    rw [hdepth, h.groups, marksOf_append, List.length_append]
    rfl
  starts x hx hmark := by
    rcases List.mem_append.1 hx with hx | hx
    · exact h.starts x hx hmark
    · rw [List.mem_singleton.1 hx] at hmark
      cases hmark

theorem IsPendingFrom.goOn (h : IsPendingFrom across depth s stretch) {s' : Scan}
    (hpending : s'.pending = s.pending) (hdepth : s'.depth = s.depth + 1) (hinside : 0 < s.depth)
    (hne : trim s.pending ≠ []) (hacross : across) :
    IsPendingFrom across depth s' (stretch ++ [('(', true)]) where
  blank hblank := absurd (hpending ▸ hblank) hne
  text := by
    have hmark : unmarkedOf [('(', true)] = [] := rfl
    rw [unmarkedOf_append, h.text, hmark, List.append_nil, hpending]
  groups := by
    rw [hdepth, h.groups, marksOf_append, List.length_append]
    rfl
  starts x hx hmark := by
    rcases List.mem_append.1 hx with hx | hx
    · exact h.starts x hx hmark
    · obtain rfl := List.mem_singleton.1 hx
      refine ⟨hacross, rfl, ?_⟩
      by_contra hzero
      -- Without a group in front of the stretch there is a mark in it, and there was a group after all.
      have hlength : 0 < (marksOf stretch).length := by
        have := h.groups
        omega
      obtain ⟨d, hd⟩ := List.exists_mem_of_length_pos hlength
      obtain ⟨y, hy, -⟩ := List.mem_map.1 hd
      obtain ⟨hy, hymark⟩ := List.mem_filter.1 hy
      exact hzero (h.starts y hy hymark).2.2

theorem IsPendingFrom.mark (h : IsPendingFrom across depth s stretch) {c : Char} {t : Token}
    {depth' : Nat} (read : t.IsReadFrom c) (groups : Token.depthAfter s.depth [t] = some depth')
    (rest : IsCutInto across depth' xs ts) :
    IsCutInto across depth (stretch ++ (c, (s.flush.1 ++ [t]).any Token.isMark) :: xs)
      (List.replicate (marksOf stretch).length .groupStart ++ ((s.flush.1 ++ [t]) ++ ts)) := by
  have hmark : (s.flush.1 ++ [t]).any Token.isMark = true := by
    rw [List.any_append, any_isMark_flush]
    simp [read.isMark]
  rw [hmark, List.append_assoc]
  exact h.flush (.mark read groups rest)

/-- Reading one character: if the tokens behind it are cut out of the text from whatever stretch is
pending there, the tokens from it on are cut out of the text from the stretch that is pending in front of
it. -/
theorem IsPendingFrom.reading (h : IsPendingFrom across depth s stretch) {s' : Scan} {c : Char}
    {r : List Char} {us : List Token} (hread : Reading s c r us s')
    (hacross : c = '(' → .groupStart ∈ us → 0 < s.depth → trim s.pending ≠ [] → across)
    (rest : ∀ {depth stretch}, IsPendingFrom across depth s' stretch →
      IsCutInto across depth (stretch ++ xs)
        (List.replicate (marksOf stretch).length .groupStart ++ ts)) :
    IsCutInto across depth (stretch ++ (c, us.any Token.isMark) :: xs)
      (List.replicate (marksOf stretch).length .groupStart ++ (us ++ ts)) := by
  have hspace : isWhite ' ' = true := by decide
  cases hread with
  | keep =>
    by_cases hblank : trim (s.pending ++ [c]) = []
    · have hwhite := trim_eq_nil_iff.1 hblank
      have hpending : trim s.pending = [] :=
        trim_eq_nil_iff.2 fun d hd => hwhite d (List.mem_append_left _ hd)
      obtain rfl := h.blank hpending
      obtain rfl : s.depth = depth := h.groups
      exact .white (hwhite c (List.mem_append_right _ List.mem_cons_self)) (rest (isPendingFrom_nil hblank))
    · have hcut := rest (h.keep rfl rfl hblank)
      rwa [List.append_assoc, marksOf_append, List.length_append] at hcut
  | blank space _ empty =>
    obtain rfl := h.blank empty
    obtain rfl : s.depth = depth := h.groups
    exact .white (space ▸ hspace) (rest (isPendingFrom_nil empty))
  | space space =>
    rw [any_isMark_flush]
    exact h.flush (.white (space ▸ hspace) (rest (isPendingFrom_nil s.trim_pending_flush)))
  | separator mark =>
    exact h.mark (mark.imp_right And.left) rfl (rest (isPendingFrom_nil s.trim_pending_flush))
  | start mark => exact h.mark mark rfl (rest (isPendingFrom_nil s.trim_pending_flush))
  | startInside mark _ inside =>
    by_cases hblank : trim s.pending = []
    · obtain rfl := h.blank hblank
      obtain rfl : s.depth = depth := h.groups
      exact .mark mark rfl (rest (isPendingFrom_nil hblank))
    · have hcut := rest (h.goOn rfl rfl inside hblank
        (hacross mark List.mem_cons_self inside hblank))
      have hmark : marksOf [('(', true)] = ['('] := rfl
      rw [List.append_assoc, marksOf_append, hmark, List.length_append, List.length_singleton,
        List.replicate_succ', List.append_assoc] at hcut
      rw [show c = '(' from mark]
      exact hcut
  | finish mark _ inside =>
    refine h.mark mark ?_ (rest (isPendingFrom_nil s.trim_pending_flush))
    rw [Token.depthAfter, if_neg (Nat.ne_of_gt inside)]
    rfl

end

/-- The tokens behind a point of a query are cut out of the text from the stretch that is pending
there, if terms go on across the starts of groups within groups wherever text is pending in front of
one. -/
theorem isCutInto_tokens {across : Prop} (s : Scan) (cs : List Char) {depth : Nat}
    {stretch : List (Char × Bool)} (h : IsPendingFrom across depth s stretch)
    (hacross : ∀ front back, cs = front ++ '(' :: back →
      (s.run ('(' :: back) front).2.StartsWithin back → across) :
    IsCutInto across depth (stretch ++ s.marking [] cs)
      (List.replicate (marksOf stretch).length .groupStart ++ s.tokens cs) := by
  induction cs generalizing s depth stretch with
  | nil =>
    have hcut := h.flush IsCutInto.nil
    rwa [List.append_nil s.flush.1] at hcut
  | cons c cs ih =>
    rw [marking, List.append_nil]
    refine h.reading (s.reading c cs) ?_ fun hpending => ih _ hpending ?_
    · rintro rfl hstart hinside hpending
      exact hacross [] cs rfl ⟨hstart, hinside, hpending⟩
    · rintro front back rfl
      exact hacross (c :: front) back rfl

end Scan

/-! ## Terms that do not go on -/

theorem exists_append_of_unmarked {stretch xs front back : List (Char × Bool)} {c : Char}
    (h : ∀ x ∈ stretch, x.2 ≠ true) (heq : stretch ++ xs = front ++ (c, true) :: back) :
    ∃ front', front = stretch ++ front' ∧ xs = front' ++ (c, true) :: back := by
  induction stretch generalizing front with
  | nil => exact ⟨front, rfl, heq⟩
  | cons x stretch ih =>
    obtain ⟨hx, hstretch⟩ := List.forall_mem_cons.1 h
    cases front with
    | nil =>
      obtain ⟨rfl, -⟩ := List.cons.inj heq
      exact absurd rfl hx
    | cons y front =>
      obtain ⟨rfl, htail⟩ := List.cons.inj heq
      obtain ⟨front', rfl, hxs⟩ := ih hstretch htail
      exact ⟨front', rfl, hxs⟩

/-- If no term goes on across a mark, the text that stands in front of a mark is that of the terms in
front of it. -/
theorem IsCutInto.text_before {depth : Nat} {xs front back : List (Char × Bool)}
    {ts before after : List Token} {c : Char} {t : Token} (h : IsCutInto False depth xs ts)
    (hxs : xs = front ++ (c, true) :: back) (hts : ts = before ++ t :: after) (ht : t.isMark = true)
    (hcount : (before.filter Token.isMark).length = (marksOf front).length) :
    solid (unmarkedOf front) = solid (Token.termText before) := by
  induction h generalizing front before with
  | nil => simp at hxs
  | @white depth d xs ts white rest ih =>
    cases front with
    | nil => simp at hxs
    | cons x front =>
      obtain ⟨rfl, hback⟩ := List.cons.inj hxs
      have hsolid : solid [d] = [] := solid_eq_nil (by simpa using white)
      have hunmarked : unmarkedOf ((d, false) :: front) = [d] ++ unmarkedOf front := rfl
      rw [hunmarked, solid_append, hsolid, List.nil_append]
      exact ih hback hts hcount
  | @mark depth depth' d u xs ts read groups rest ih =>
    have hu : u.isMark = true := read.isMark
    cases front with
    | nil =>
      -- The mark is the first one of the text, so its token is the first one too.
      cases before with
      | nil => rfl
      | cons b before =>
        obtain ⟨rfl, -⟩ := List.cons.inj hts
        rw [List.filter_cons_of_pos hu] at hcount
        cases hcount
    | cons x front =>
      obtain ⟨rfl, hback⟩ := List.cons.inj hxs
      cases before with
      | nil => cases hcount
      | cons b before =>
        obtain ⟨rfl, hafter⟩ := List.cons.inj hts
        rw [List.filter_cons_of_pos hu] at hcount
        have hcount : (before.filter Token.isMark).length = (marksOf front).length :=
          Nat.succ.inj hcount
        have hunmarked : unmarkedOf ((d, true) :: front) = unmarkedOf front := rfl
        rw [hunmarked, Token.termText_cons_of_isMark hu]
        exact ih hback hafter hcount
  | @term depth stretch xs ts text starts rest ih =>
    have hunmarked : ∀ x ∈ stretch, x.2 ≠ true := fun x hx hmark => (starts x hx hmark).1
    have hmarks : marksOf stretch = [] := by
      rw [marksOf, List.filter_eq_nil_iff.2 hunmarked]
      rfl
    obtain ⟨front, rfl, hback⟩ := exists_append_of_unmarked hunmarked hxs
    rw [hmarks] at hts
    rw [marksOf_append, hmarks, List.nil_append] at hcount
    cases before with
    | nil =>
      obtain ⟨rfl, -⟩ := List.cons.inj hts
      cases ht
    | cons b before =>
      obtain ⟨rfl, hafter⟩ := List.cons.inj hts
      rw [Token.termText_term, String.toList_ofList, unmarkedOf_append, solid_append, solid_append,
        solid_trim, ih hback hafter hcount]

theorem Scan.StartsWithin.step_eq {s : Scan} {rest : List Char} (h : s.StartsWithin rest) :
    (s.step '(' rest).1 = [.groupStart] := by
  obtain ⟨hstart, hinside, -⟩ := h
  have hread := s.reading '(' rest
  generalize (s.step '(' rest).1 = ts at hstart hread ⊢
  generalize (s.step '(' rest).2 = s' at hread
  cases hread with
  | keep => cases hstart
  | blank space => cases space
  | space space => cases space
  | separator mark => simp at mark
  | start _ _ outside => exact absurd outside (Nat.ne_of_gt hinside)
  | startInside => rfl
  | finish mark => cases mark

namespace Token

/-- Somewhere in a query a group starts within another one while the text of a term is pending. -/
def HasStartWithinTerm (query : String) : Prop :=
  ∃ before after, query.toList = before ++ '(' :: after ∧
    (Scan.start.run ('(' :: after) before).2.StartsWithin after

/-- The text that is pending in front of such a start is in no term in front of it. -/
theorem not_isCutInto_of_hasStartWithinTerm {query : String} (h : HasStartWithinTerm query) :
    ¬IsCutInto False 0 (markingOf query) (ofQuery query) := by
  intro hcut
  obtain ⟨before, after, hquery, hwithin⟩ := h
  have hmarking : markingOf query = Scan.start.marking ('(' :: after) before ++ ('(', true) ::
      ((Scan.start.run ('(' :: after) before).2.step '(' after).2.marking [] after := by
    rw [markingOf, hquery, Scan.marking_append]
    simp only [Scan.marking, List.append_nil, hwithin.step_eq]
    rfl
  have htokens : ofQuery query = (Scan.start.run ('(' :: after) before).1 ++ .groupStart ::
      ((Scan.start.run ('(' :: after) before).2.step '(' after).2.tokens after := by
    rw [ofQuery, hquery, Scan.tokens_append]
    simp only [Scan.tokens, hwithin.step_eq]
    rfl
  have hmarks := (Scan.start.marks_run ('(' :: after) before).length_eq
  have hbefore := hcut.text_before hmarking htokens rfl hmarks
  have htext := Scan.start.text_run ('(' :: after) before
  rw [show Scan.start.pending = [] from rfl, hbefore] at htext
  have hpending : solid (Scan.start.run ('(' :: after) before).2.pending = [] :=
    List.self_eq_append_right.1 htext
  exact hwithin.2.2 (trim_eq_nil_of_solid hpending)

/-- The tokens of a query are cut out of it in its order.  Every term is the text of one stretch, in
which nothing is read as a mark but starts of groups within groups; and not even those are, unless the
query has one in front of which text is pending. -/
theorem terms_go_on_within_groups (query : String) :
    IsCutInto True 0 (markingOf query) (ofQuery query) ∧
      (IsCutInto False 0 (markingOf query) (ofQuery query) ↔ ¬HasStartWithinTerm query) := by
  have hstart {across : Prop} : Scan.IsPendingFrom across Scan.start.depth Scan.start [] :=
    Scan.isPendingFrom_nil rfl
  refine ⟨Scan.isCutInto_tokens Scan.start query.toList hstart fun _ _ _ _ => trivial, ?_, ?_⟩
  · intro hcut hwithin
    exact not_isCutInto_of_hasStartWithinTerm hwithin hcut
  · intro hnone
    refine Scan.isCutInto_tokens Scan.start query.toList hstart fun front back hquery hwithin => ?_
    exact hnone ⟨front, back, hquery, hwithin⟩

/-- In `(a!(b))` the second parenthesis starts a group, and the term in front of it goes on behind it. -/
theorem term_straddles_group :
    ofQuery "(a!(b))" = [.groupStart, .groupStart, .term "a!b", .groupEnd, .groupEnd] ∧
      ¬IsCutInto False 0 (markingOf "(a!(b))") (ofQuery "(a!(b))") := by
  have hmarking : markingOf "(a!(b))" = [('(', true), ('a', false), ('!', false), ('(', true),
      ('b', false), (')', true), (')', true)] := by
    decide +kernel
  have htokens : ofQuery "(a!(b))" =
      [.groupStart, .groupStart, .term "a!b", .groupEnd, .groupEnd] := by
    decide +kernel
  refine ⟨htokens, fun hcut => ?_⟩
  rw [hmarking, htokens] at hcut
  -- In front of the second mark stands `a!`, and no term.
  have htext := @IsCutInto.text_before _ _ [('(', true), ('a', false), ('!', false)] _ _ [.groupStart]
    _ _ _ hcut rfl rfl rfl rfl
  exact absurd htext (by decide +kernel)

end Token

end TagSearch

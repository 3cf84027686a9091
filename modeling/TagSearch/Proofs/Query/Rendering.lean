import Mathlib.Data.List.Infix
import TagSearch.Proofs.Query.Scan
import TagSearch.Proofs.Text.Joined

/-!
# Tokens are read back

Tokens are written with single spaces between them.  `IsReadableFrom` says which of them can be told
from their text: no group ends that has not started, inside a group no term stands beside another, and
each term is a text that a scan takes whole (`IsTermText`), its own parentheses glued to words.

`ofQuery_render`: such tokens are read back from their text.  What a scan looks back on when it meets a
parenthesis between spaces is a space, so the parenthesis marks a group (`step_groupStart`,
`step_groupEnd`); a parenthesis within a term stands behind a word or closes one that does
(`run_term`).
-/

namespace TagSearch

open Text

namespace Token

/-- A token as it is written. -/
def spelling : Token → String
  | .groupStart => "("
  | .groupEnd => ")"
  | .separator => "|"
  | .term text => text

/-- The tokens as they are written, with single spaces between them. -/
def render (ts : List Token) : String := " ".intercalate (ts.map spelling)

/-- The text of a term: it has no white space and no separator, an opening parenthesis in it is glued
to a word, and a closing one has its opening one before it. -/
structure IsTermText (inGroup : Prop) (cs : List Char) : Prop where
  nonempty : cs ≠ []
  unbroken : ∀ c ∈ cs, isWhite c = false ∧ c ≠ '|' ∧ c ≠ '~' ∧ c ≠ ','
  noValue : inGroup → ':' ∉ cs
  glued : ∀ front, front ++ ['('] <+: cs → Scan.endsInWord front = true
  closed : ∀ front, front <+: cs → front.count ')' ≤ front.count '('

instance (inGroup : Prop) [Decidable inGroup] (cs : List Char) : Decidable (IsTermText inGroup cs) :=
  -- The characters of the text are checked, not all characters there are.
  have := List.decidableBAll (fun c => isWhite c = false ∧ c ≠ '|' ∧ c ≠ '~' ∧ c ≠ ',') cs
  decidable_of_iff
    (cs ≠ [] ∧ (∀ c ∈ cs, isWhite c = false ∧ c ≠ '|' ∧ c ≠ '~' ∧ c ≠ ',') ∧ (inGroup → ':' ∉ cs) ∧
      (∀ front ∈ cs.inits, front ++ ['('] <+: cs → Scan.endsInWord front = true) ∧
      ∀ front ∈ cs.inits, front.count ')' ≤ front.count '(')
    ⟨fun ⟨h₁, h₂, h₃, h₄, h₅⟩ => ⟨h₁, h₂, h₃,
        fun front h => h₄ front ((List.mem_inits _ _).2 ((List.prefix_append _ _).trans h)) h,
        fun front h => h₅ front ((List.mem_inits _ _).2 h)⟩,
      fun h => ⟨h.nonempty, h.unbroken, h.noValue, fun front _ => h.glued front,
        fun front hf => h.closed front ((List.mem_inits _ _).1 hf)⟩⟩

/-- The tokens can be told from their text where `depth` groups are open. -/
structure IsReadableFrom (depth : Nat) (ts : List Token) : Prop where
  balanced : ∀ front, front <+: ts → front.count .groupEnd ≤ depth + front.count .groupStart
  apart : ∀ front s t, front ++ [.term s, .term t] <+: ts →
    ¬front.count .groupEnd < depth + front.count .groupStart
  terms : ∀ front s, front ++ [.term s] <+: ts →
    IsTermText (front.count .groupEnd < depth + front.count .groupStart) s.toList

/-- A term stands first. -/
def startsWithTerm : List Token → Bool
  | .term _ :: _ => true
  | _ => false

theorem IsReadableFrom.pos_of_groupEnd {depth : Nat} {ts : List Token}
    (h : IsReadableFrom depth (.groupEnd :: ts)) : 0 < depth := by
  have hone := h.balanced [.groupEnd] ⟨ts, rfl⟩
  have hend : [groupEnd].count .groupEnd = 1 := rfl
  have hstart : [groupEnd].count .groupStart = 0 := rfl
  omega

theorem isReadableFrom_cons {t : Token} {ts : List Token} {depth k : Nat}
    (hd : depth + [t].count .groupStart = k + [t].count .groupEnd) :
    IsReadableFrom depth (t :: ts) ↔
      (∀ s, t = .term s →
        IsTermText (0 < depth) s.toList ∧ (0 < depth → startsWithTerm ts = false)) ∧
      IsReadableFrom k ts := by
  have hcount (x : Token) (front : List Token) :
      (t :: front).count x = [t].count x + front.count x := by
    rw [← List.count_append]
    rfl
  have hopen (front : List Token) :
      (t :: front).count .groupEnd < depth + (t :: front).count .groupStart ↔
        front.count .groupEnd < k + front.count .groupStart := by
    have hends := hcount .groupEnd front
    have hstarts := hcount .groupStart front
    omega
  constructor
  · intro h
    refine ⟨fun s hs => ⟨?_, fun hpos => ?_⟩, ⟨fun front hf => ?_, fun front s u hf => ?_,
      fun front s hf => ?_⟩⟩
    · have := h.terms [] s (by rw [hs]; exact ⟨ts, rfl⟩)
      simpa using this
    · cases ts with
      | nil => rfl
      | cons u ts =>
        cases u with
        | term u =>
          have := h.apart [] s u (by rw [hs]; exact ⟨ts, rfl⟩)
          exact absurd hpos (by simpa using this)
        | _ => rfl
    · have := h.balanced (t :: front) (List.cons_prefix_cons.2 ⟨rfl, hf⟩)
      have hends := hcount .groupEnd front
      have hstarts := hcount .groupStart front
      omega
    · rw [← hopen]
      exact h.apart (t :: front) s u (List.cons_prefix_cons.2 ⟨rfl, hf⟩)
    · have := h.terms (t :: front) s (List.cons_prefix_cons.2 ⟨rfl, hf⟩)
      rwa [hopen] at this
  · rintro ⟨hfirst, hrest⟩
    refine ⟨fun front hf => ?_, fun front s u hf => ?_, fun front s hf => ?_⟩
    · obtain rfl | ⟨front, rfl, hfront⟩ := List.prefix_cons_iff.1 hf
      · exact Nat.zero_le _
      · have := hrest.balanced front hfront
        have hends := hcount .groupEnd front
        have hstarts := hcount .groupStart front
        omega
    · cases front with
      | nil =>
        obtain ⟨hs, hu⟩ := List.cons_prefix_cons.1 hf
        obtain ⟨ts, rfl⟩ := hu
        intro hpos
        have := (hfirst s hs.symm).2 (by simpa using hpos)
        simp [startsWithTerm] at this
      | cons v front =>
        obtain ⟨rfl, hfront⟩ := List.cons_prefix_cons.1 hf
        rw [hopen]
        exact hrest.apart front s u hfront
    · cases front with
      | nil =>
        have := (hfirst s (List.cons_prefix_cons.1 hf).1.symm).1
        simpa using this
      | cons v front =>
        obtain ⟨rfl, hfront⟩ := List.cons_prefix_cons.1 hf
        rw [hopen]
        exact hrest.terms front s hfront

instance decidableIsReadableFrom :
    (depth : Nat) → (ts : List Token) → Decidable (IsReadableFrom depth ts)
  | _, [] => .isTrue ⟨by simp, by simp, by simp⟩
  | depth, .groupStart :: ts =>
    have := decidableIsReadableFrom (depth + 1) ts
    decidable_of_iff (IsReadableFrom (depth + 1) ts) (by
      rw [isReadableFrom_cons (k := depth + 1) rfl]
      simp)
  | depth, .groupEnd :: ts =>
    have := decidableIsReadableFrom (depth - 1) ts
    decidable_of_iff (0 < depth ∧ IsReadableFrom (depth - 1) ts) (by
      constructor
      · rintro ⟨hd, h⟩
        rw [isReadableFrom_cons (show depth + 0 = depth - 1 + 1 by omega)]
        exact ⟨by simp, h⟩
      · intro h
        have hd := h.pos_of_groupEnd
        rw [isReadableFrom_cons (show depth + 0 = depth - 1 + 1 by omega)] at h
        exact ⟨hd, h.2⟩)
  | depth, .separator :: ts =>
    have := decidableIsReadableFrom depth ts
    decidable_of_iff (IsReadableFrom depth ts) (by
      rw [isReadableFrom_cons (k := depth) rfl]
      simp)
  | depth, .term text :: ts =>
    have := decidableIsReadableFrom depth ts
    decidable_of_iff ((IsTermText (0 < depth) text.toList ∧ (0 < depth → startsWithTerm ts = false)) ∧
      IsReadableFrom depth ts) (by
        rw [isReadableFrom_cons (k := depth) rfl]
        simp)

end Token

namespace Scan

/-- A scan behind a space or at the start of a query, no value being read. -/
def fresh (depth : Nat) (past : List Char) : Scan := ⟨[], depth, false, past⟩

section

variable {depth : Nat} {past rest : List Char}

theorem endsInField_of_space (hp : past.head?.all (· == ' ') = true) :
    endsInField past = false ∧ endsInField (')' :: past) = false := by
  cases past with
  | nil => exact ⟨rfl, rfl⟩
  | cons c past =>
    obtain rfl : c = ' ' := by simpa using hp
    exact ⟨rfl, rfl⟩

theorem step_groupStart (hp : past.head?.all (· == ' ') = true) :
    (fresh depth past).step '(' rest = ([.groupStart], fresh (depth + 1) ('(' :: past)) := by
  have hread : (fresh depth past).read '(' rest = (fresh depth past).openParenthesis := by
    simp [read]
  have hopen : (fresh depth past).openParenthesis =
      ([.groupStart], { fresh depth past with depth := depth + 1 }) := by
    unfold openParenthesis
    rw [if_neg (by simp [fresh, endsInWord, (endsInField_of_space hp).1])]
    by_cases hd : depth = 0
    · subst hd
      rfl
    · rw [if_neg (show ¬(fresh depth past).depth = 0 from hd)]
      rfl
  unfold step
  rw [hread, hopen]
  rfl

theorem step_groupEnd (hp : past.head?.all (· == ' ') = true)
    (hr : rest.head?.all (· == ' ') = true) (hd : 0 < depth) :
    (fresh depth past).step ')' rest = ([.groupEnd], fresh (depth - 1) (')' :: past)) := by
  have hread : (fresh depth past).read ')' rest = (fresh depth past).closeParenthesis rest := by
    simp [read]
  have hclose : (fresh depth past).closeParenthesis rest =
      ([.groupEnd], { fresh depth past with depth := depth - 1 }) := by
    have hnext : rest.head?.any isWordChar = false := by
      cases rest with
      | nil => rfl
      | cons c rest =>
        obtain rfl : c = ' ' := by simpa using hr
        rfl
    unfold closeParenthesis
    rw [if_neg (by
      simp [fresh, hasOpenParenthesis, (endsInField_of_space hp).2, hnext, Nat.ne_of_gt hd])]
    rfl
  unfold step
  rw [hread, hclose]
  rfl

theorem step_separator :
    (fresh depth past).step '|' rest = ([.separator], fresh depth ('|' :: past)) := by
  have hread : (fresh depth past).read '|' rest = (fresh depth past).flushThen .separator := by
    simp [read]
  unfold step
  rw [hread]
  rfl

theorem step_space :
    (fresh depth past).step ' ' rest = ([], fresh depth (' ' :: past)) := by
  by_cases hd : depth = 0
  · subst hd
    rfl
  · have hread : (fresh depth past).read ' ' rest = (fresh depth past).space rest := by
      simp [read, fresh, hd]
    have hspace : (fresh depth past).space rest = ([], fresh depth past) := by
      unfold space
      rw [if_neg (show ¬(fresh depth past).depth = 0 from hd)]
      rfl
    unfold step
    rw [hread, hspace]
    rfl

/-! ### Terms -/

theorem step_eq_append {s : Scan} {c : Char} (hwhite : isWhite c = false) (hbar : c ≠ '|')
    (hmark : 0 < s.depth → c ≠ '~' ∧ c ≠ ',') (hopen : c = '(' → s.keepsOpening = true)
    (hclose : c = ')' → s.keepsClosing rest = true) :
    s.step c rest = ([], ⟨s.pending ++ [c], s.depth, s.valueAfter c, c :: s.past⟩) := by
  have hspace : c ≠ ' ' := by
    rintro rfl
    exact absurd hwhite (by decide)
  have hr := s.reading c rest
  generalize s.step c rest = found at hr ⊢
  obtain ⟨ts, s'⟩ := found
  cases hr with
  | keep => rfl
  | blank space => exact absurd space hspace
  | space space => exact absurd space hspace
  | separator mark =>
    obtain hc | ⟨hc | hc, hd⟩ := mark
    · exact absurd hc hbar
    · exact absurd hc (hmark hd).1
    · exact absurd hc (hmark hd).2
  | start mark free => exact absurd (hopen mark) (by simp [free])
  | startInside mark free => exact absurd (hopen mark) (by simp [free])
  | finish mark free => exact absurd (hclose mark) (by simp [free])

end

/-- Reading the text of a term only takes it in.  Inside a group no value begins. -/
theorem run_term {depth : Nat} {cs : List Char} (h : Token.IsTermText (0 < depth) cs)
    (past rest : List Char) :
    ∃ v, (fresh depth past).run rest cs = ([], ⟨cs, depth, v, cs.reverse ++ past⟩) ∧
      (0 < depth → v = false) := by
  -- The induction goes through the characters that are still to be read.
  have key : ∀ back front v, cs = front ++ back → (0 < depth → v = false) →
      ∃ v', (⟨front, depth, v, front.reverse ++ past⟩ : Scan).run rest back =
          ([], ⟨cs, depth, v', cs.reverse ++ past⟩) ∧ (0 < depth → v' = false) := by
    intro back
    induction back with
    | nil =>
      intro front v hcs hv
      rw [List.append_nil] at hcs
      exact ⟨v, by rw [hcs]; rfl, hv⟩
    | cons c back ih =>
      intro front v hcs hv
      have hc := h.unbroken c (by simp [hcs])
      have hstep : (⟨front, depth, v, front.reverse ++ past⟩ : Scan).step c (back ++ rest) =
          ([], ⟨front ++ [c], depth,
            (⟨front, depth, v, front.reverse ++ past⟩ : Scan).valueAfter c,
            (front ++ [c]).reverse ++ past⟩) := by
        rw [List.reverse_append]
        refine step_eq_append hc.1 hc.2.1 (fun _ => hc.2.2) ?_ ?_
        · rintro rfl
          have := h.glued front ⟨back, by simp [hcs]⟩
          simp [keepsOpening, this]
        · rintro rfl
          have := h.closed (front ++ [')']) ⟨back, by simp [hcs]⟩
          have hparen : hasOpenParenthesis front = true := by
            simp [hasOpenParenthesis, List.count_append] at this ⊢
            omega
          simp [keepsClosing, hparen]
      obtain ⟨v', hrun, hv'⟩ := ih (front ++ [c])
        ((⟨front, depth, v, front.reverse ++ past⟩ : Scan).valueAfter c) (by simp [hcs]) (by
          intro hd
          have hcolon : c ≠ ':' := by
            rintro rfl
            exact h.noValue hd (by simp [hcs])
          simp [valueAfter, hcolon, hv hd])
      refine ⟨v', ?_, hv'⟩
      rw [run, hstep]
      simp only [hrun, List.nil_append]
  exact key cs [] false rfl (fun _ => rfl)

theorem flush_of_term {s : Scan} (hne : s.pending ≠ []) (h : ∀ c ∈ s.pending, isWhite c = false) :
    s.flush = ([.term (String.ofList s.pending)], { s with pending := [] }) := by
  obtain ⟨-, ht⟩ | ⟨hf, -⟩ := s.flush_eq
  · rw [trim_eq_self h] at ht
    exact absurd ht hne
  · rw [hf, trim_eq_self h]

/-- A space behind a term ends it, inside a group if a mark follows. -/
theorem step_space_of_term {depth : Nat} {cs past rest : List Char} {v : Bool}
    (h : Token.IsTermText (0 < depth) cs) (hv : 0 < depth → v = false)
    (hr : 0 < depth → rest.head?.any isStructural = true) :
    (⟨cs, depth, v, past⟩ : Scan).step ' ' rest =
      ([.term (String.ofList cs)], fresh depth (' ' :: past)) := by
  have hwhite : ∀ c ∈ cs, isWhite c = false := fun c hc => (h.unbroken c hc).1
  have hends : (⟨cs, depth, v, past⟩ : Scan).endsAtSpace rest = true := by
    obtain rfl | hd := Nat.eq_zero_or_pos depth
    · rfl
    · have hmark := hr hd
      cases rest with
      | nil => simp at hmark
      | cons c rest =>
        have hc : c ≠ ' ' := by
          rintro rfl
          cases hmark
        rw [endsAtSpace, List.dropWhile_cons_of_neg (by simpa using hc), hmark, Bool.or_true]
  have hvalue : (⟨cs, depth, v, past⟩ : Scan).valueAfter ' ' = false := by
    obtain rfl | hd := Nat.eq_zero_or_pos depth
    · rfl
    · simp [valueAfter, hv hd]
  have hflush := flush_of_term (s := ⟨cs, depth, v, past⟩) h.nonempty hwhite
  have hread := (⟨cs, depth, v, past⟩ : Scan).reading ' ' rest
  generalize (⟨cs, depth, v, past⟩ : Scan).step ' ' rest = found at hread ⊢
  obtain ⟨ts, s'⟩ := found
  cases hread with
  | keep _ _ space =>
    have := (space rfl).1
    rw [hends] at this
    cases this
  | blank _ _ empty =>
    rw [trim_eq_self hwhite] at empty
    exact absurd empty h.nonempty
  | space =>
    rw [hflush, hvalue]
    rfl
  | separator mark => simp at mark
  | start mark => cases mark
  | startInside mark => cases mark
  | finish mark => cases mark

theorem tokens_term {depth : Nat} {cs : List Char} (h : Token.IsTermText (0 < depth) cs)
    (past : List Char) : (fresh depth past).tokens cs = [.term (String.ofList cs)] := by
  obtain ⟨v, hrun, -⟩ := run_term h past []
  have hsplit := (fresh depth past).tokens_append cs []
  rw [List.append_nil] at hsplit
  rw [hsplit, hrun, tokens, flush_of_term h.nonempty fun c hc => (h.unbroken c hc).1]
  rfl

theorem tokens_term_space {depth : Nat} {cs rest : List Char}
    (h : Token.IsTermText (0 < depth) cs) (past : List Char)
    (hr : 0 < depth → rest.head?.any isStructural = true) :
    (fresh depth past).tokens (cs ++ ' ' :: rest) =
      .term (String.ofList cs) :: (fresh depth (' ' :: (cs.reverse ++ past))).tokens rest := by
  obtain ⟨v, hrun, hv⟩ := run_term h past (' ' :: rest)
  rw [tokens_append, hrun, tokens, step_space_of_term h hv hr]
  rfl

/-! ### Token lists -/

/-- The characters of tokens as they are written. -/
def written (ts : List Token) : List Char := [' '].intercalate (ts.map fun t => t.spelling.toList)

/-- The characters of tokens behind another one. -/
def writtenBehind : List Token → List Char
  | [] => []
  | ts => ' ' :: written ts

theorem written_cons (t : Token) (ts : List Token) :
    written (t :: ts) = t.spelling.toList ++ writtenBehind ts := by
  cases ts with
  | nil =>
    rw [writtenBehind, List.append_nil, written]
    simp
  | cons u ts =>
    unfold written writtenBehind
    rw [List.map_cons, List.map_cons, List.intercalate_cons_cons, List.append_assoc]
    rfl

theorem head?_writtenBehind (ts : List Token) : (writtenBehind ts).head?.all (· == ' ') = true := by
  cases ts <;> rfl

/-- Behind a mark the scan goes on behind a space, or it is at the end. -/
theorem tokens_writtenBehind {depth : Nat} {ts : List Token} (past : List Char)
    (h : (fresh depth (' ' :: past)).tokens (written ts) = ts) :
    (fresh depth past).tokens (writtenBehind ts) = ts := by
  cases ts with
  | nil => rfl
  | cons t ts =>
    rw [writtenBehind, tokens, step_space]
    · exact h
    · simp

theorem head?_written {t : Token} {ts : List Token} (h : Token.startsWithTerm (t :: ts) = false) :
    (written (t :: ts)).head?.any isStructural = true := by
  rw [written_cons]
  cases t with
  | term text => cases h
  | _ => rfl

theorem tokens_written {depth : Nat} {ts : List Token} (h : Token.IsReadableFrom depth ts)
    {past : List Char} (hp : past.head?.all (· == ' ') = true) :
    (fresh depth past).tokens (written ts) = ts := by
  induction ts generalizing depth past with
  | nil => rfl
  | cons t ts ih =>
    rw [written_cons]
    cases t with
    | groupStart =>
      have hts := ((Token.isReadableFrom_cons (k := depth + 1) (by rfl)).1 h).2
      show (fresh depth past).tokens ('(' :: writtenBehind ts) = _
      rw [tokens, step_groupStart hp]
      exact congrArg _ (tokens_writtenBehind _ (ih hts rfl))
    | groupEnd =>
      have hd := h.pos_of_groupEnd
      have hts := ((Token.isReadableFrom_cons (k := depth - 1)
        (show depth + 0 = depth - 1 + 1 by omega)).1 h).2
      show (fresh depth past).tokens (')' :: writtenBehind ts) = _
      rw [tokens, step_groupEnd hp (head?_writtenBehind ts) hd]
      exact congrArg _ (tokens_writtenBehind _ (ih hts rfl))
    | separator =>
      have hts := ((Token.isReadableFrom_cons (k := depth) (by rfl)).1 h).2
      show (fresh depth past).tokens ('|' :: writtenBehind ts) = _
      rw [tokens, step_separator]
      exact congrArg _ (tokens_writtenBehind _ (ih hts rfl))
    | term text =>
      obtain ⟨hfirst, hts⟩ := (Token.isReadableFrom_cons (k := depth) (by rfl)).1 h
      obtain ⟨htext, hnext⟩ := hfirst text rfl
      show (fresh depth past).tokens (text.toList ++ writtenBehind ts) = _
      cases ts with
      | nil =>
        rw [writtenBehind, List.append_nil, tokens_term htext, String.ofList_toList]
      | cons u ts =>
        rw [writtenBehind, tokens_term_space htext past fun hd => head?_written (hnext hd),
          ih hts rfl, String.ofList_toList]
        simp

end Scan

namespace Token

/-- Tokens that can be told from their text are read back from it: no group ends that has not started,
no two terms stand side by side inside a group, and the terms are texts that a scan takes whole. -/
theorem ofQuery_render {ts : List Token} (h : IsReadableFrom 0 ts) : ofQuery (render ts) = ts := by
  have hwritten : (render ts).toList = Scan.written ts := by
    rw [render, String.toList_intercalate, List.map_map]
    rfl
  rw [ofQuery, hwritten]
  exact Scan.tokens_written h rfl

/-- A value with a parenthesis outside groups, a qualified tag inside one, and a group left open. -/
theorem ofQuery_render_nested :
    IsReadableFrom 0 [.term "title:a(b)", .groupStart, .term "zelda_(character)", .separator,
        .groupStart, .groupStart, .term "x", .groupEnd, .term "y_", .separator] ∧
      ofQuery (render [.term "title:a(b)", .groupStart, .term "zelda_(character)", .separator,
        .groupStart, .groupStart, .term "x", .groupEnd, .term "y_", .separator]) =
        [.term "title:a(b)", .groupStart, .term "zelda_(character)", .separator,
        .groupStart, .groupStart, .term "x", .groupEnd, .term "y_", .separator] :=
  ⟨by decide +kernel, ofQuery_render (by decide +kernel)⟩

end Token

end TagSearch

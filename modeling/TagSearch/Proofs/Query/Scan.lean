import TagSearch.Proofs.Text.Trimmed
import TagSearch.Query.Token

/-!
# The steps of a scan

`Reading` lists once what reading a character can come to: the character is taken into the term being
read, it ends the term, or it is a mark and ends the term too.  Everything that a scan preserves is
told from this list.

`depthAfter_run`: the depth of a scan is the number of groups that its tokens leave open, and no group
ends that has not started.  `Reading.inValue` and `Reading.past` say what a step makes of the value
being read and of the characters that a parenthesis looks back on.
-/

namespace TagSearch

open Text

namespace Token

/-- How many groups are open behind some tokens, unless a group ends that has not started. -/
def depthAfter (depth : Nat) : List Token → Option Nat
  | [] => some depth
  | .groupStart :: ts => depthAfter (depth + 1) ts
  | .groupEnd :: ts => if depth = 0 then none else depthAfter (depth - 1) ts
  | .separator :: ts => depthAfter depth ts
  | .term _ :: ts => depthAfter depth ts

theorem depthAfter_append (depth : Nat) (ts us : List Token) :
    depthAfter depth (ts ++ us) = (depthAfter depth ts).bind fun d => depthAfter d us := by
  induction ts generalizing depth with
  | nil => rfl
  | cons t ts ih =>
    cases t with
    | groupEnd =>
      simp only [List.cons_append, depthAfter]
      split
      · rfl
      · exact ih _
    | _ => exact ih _

theorem count_of_depthAfter {ts : List Token} {m n : Nat} (h : depthAfter m ts = some n) :
    n + ts.count .groupEnd = m + ts.count .groupStart := by
  induction ts generalizing m with
  | nil => simpa [depthAfter] using h.symm
  | cons t ts ih =>
    cases t with
    | groupStart =>
      have := ih h
      simp only [List.count_cons_self, List.count_cons_of_ne (show groupStart ≠ groupEnd by decide)]
      omega
    | groupEnd =>
      simp only [depthAfter] at h
      split at h
      · cases h
      · have := ih h
        simp only [List.count_cons_self,
          List.count_cons_of_ne (show groupEnd ≠ groupStart by decide)]
        omega
    | separator =>
      have := ih h
      simpa [List.count_cons] using this
    | term text =>
      have := ih h
      simpa [List.count_cons] using this

end Token

namespace Scan

/-! ## One character -/

/-- Whether a value is being read behind a character. -/
def valueAfter (s : Scan) (c : Char) : Bool :=
  if c = ':' ∧ s.pending.getLast?.any isAlphanumeric = true then true
  else if c = ' ' ∧ s.depth = 0 then false
  else s.inValue

/-- An opening parenthesis is part of the term being read. -/
def keepsOpening (s : Scan) : Bool := s.inValue || endsInField s.past || endsInWord s.pending

/-- A closing parenthesis in front of a text is part of the term being read. -/
def keepsClosing (s : Scan) (rest : List Char) : Bool :=
  s.inValue || endsInField (')' :: s.past) || rest.head?.any isWordChar || s.depth = 0
    || hasOpenParenthesis s.pending

/-- A space in front of a text ends the term being read. -/
def endsAtSpace (s : Scan) (rest : List Char) : Bool :=
  s.depth = 0 || (rest.dropWhile (· == ' ')).head?.any isStructural

/-- What reading a character comes to: the tokens that it ends, and the state behind it. -/
inductive Reading (s : Scan) (c : Char) (r : List Char) : List Token → Scan → Prop
  /-- The character is part of the term being read. -/
  | keep (bar : c ≠ '|') (group : c = '~' ∨ c = ',' → s.depth = 0)
      (space : c = ' ' → s.endsAtSpace r = false ∧ trim s.pending ≠ [])
      (opening : c = '(' → s.keepsOpening = true)
      (closing : c = ')' → s.keepsClosing r = true) :
      Reading s c r [] ⟨s.pending ++ [c], s.depth, s.valueAfter c, c :: s.past⟩
  /-- A space inside a group in front of every term is passed over. -/
  | blank (space : c = ' ') (group : 0 < s.depth) (empty : trim s.pending = []) :
      Reading s c r [] ⟨s.pending, s.depth, s.valueAfter c, c :: s.past⟩
  /-- A space ends the term. -/
  | space (space : c = ' ') (ends : s.endsAtSpace r = true) :
      Reading s c r s.flush.1 ⟨s.flush.2.pending, s.depth, s.valueAfter c, c :: s.past⟩
  /-- A separator ends the term. -/
  | separator (mark : c = '|' ∨ (c = '~' ∨ c = ',') ∧ 0 < s.depth) :
      Reading s c r (s.flush.1 ++ [.separator])
        ⟨s.flush.2.pending, s.depth, s.inValue, c :: s.past⟩
  /-- A group starts outside groups. -/
  | start (mark : c = '(') (free : s.keepsOpening = false) (outside : s.depth = 0) :
      Reading s c r (s.flush.1 ++ [.groupStart])
        ⟨s.flush.2.pending, s.depth + 1, s.inValue, c :: s.past⟩
  /-- A group starts inside a group, and the term goes on. -/
  | startInside (mark : c = '(') (free : s.keepsOpening = false) (inside : 0 < s.depth) :
      Reading s c r [.groupStart] ⟨s.pending, s.depth + 1, s.inValue, c :: s.past⟩
  /-- A group ends. -/
  | finish (mark : c = ')') (free : s.keepsClosing r = false) (inside : 0 < s.depth) :
      Reading s c r (s.flush.1 ++ [.groupEnd])
        ⟨s.flush.2.pending, s.depth - 1, s.inValue, c :: s.past⟩

theorem flush_eq (s : Scan) :
    (s.flush = ([], s) ∧ trim s.pending = []) ∨
      (s.flush = ([.term (String.ofList (trim s.pending))], { s with pending := [] }) ∧
        trim s.pending ≠ []) := by
  unfold flush
  by_cases h : trim s.pending = []
  · left; simp [h]
  · right; simp [h]

@[simp] theorem depth_flush (s : Scan) : s.flush.2.depth = s.depth := by
  rcases s.flush_eq with ⟨h, -⟩ | ⟨h, -⟩ <;> rw [h]

@[simp] theorem inValue_flush (s : Scan) : s.flush.2.inValue = s.inValue := by
  rcases s.flush_eq with ⟨h, -⟩ | ⟨h, -⟩ <;> rw [h]

theorem trim_pending_flush (s : Scan) : trim s.flush.2.pending = [] := by
  rcases s.flush_eq with ⟨h, ht⟩ | ⟨h, -⟩ <;> rw [h]
  · exact ht
  · rfl

theorem flush_inValue (s : Scan) (v : Bool) :
    ({ s with inValue := v } : Scan).flush = (s.flush.1, { s.flush.2 with inValue := v }) := by
  unfold flush
  by_cases h : trim s.pending = [] <;> simp [h]

/-! ### Every step is a reading -/

theorem reading_colon (s : Scan) (rest : List Char)
    (h : s.pending.getLast?.any isAlphanumeric = true) :
    Reading s ':' rest (s.step ':' rest).1 (s.step ':' rest).2 := by
  have hstep : s.step ':' rest = ([], ⟨s.pending ++ [':'], s.depth, true, ':' :: s.past⟩) := by
    simp [step, read, append, h]
  have hv : s.valueAfter ':' = true := by simp [valueAfter, h]
  rw [hstep, ← hv]
  exact .keep (by decide) (by simp) (by simp) (by simp) (by simp)

theorem reading_opening (s : Scan) (rest : List Char) :
    Reading s '(' rest (s.step '(' rest).1 (s.step '(' rest).2 := by
  have hread : s.read '(' rest = s.openParenthesis := by simp [read]
  have hv : s.valueAfter '(' = s.inValue := by simp [valueAfter]
  unfold step
  rw [hread]
  unfold openParenthesis
  by_cases hk : s.keepsOpening = true
  · rw [if_pos (by rw [← hk]; rfl)]
    have : Reading s '(' rest [] ⟨s.pending ++ ['('], s.depth, s.valueAfter '(', '(' :: s.past⟩ :=
      .keep (by decide) (by simp) (by simp) (fun _ => hk) (by simp)
    rwa [hv] at this
  · rw [if_neg (by rw [← keepsOpening]; exact hk)]
    have hfree : s.keepsOpening = false := by simpa using hk
    by_cases hd : s.depth = 0
    · have := Reading.start (c := '(') (r := rest) rfl hfree hd
      simpa [flushThen, hd] using this
    · have := Reading.startInside (c := '(') (r := rest) rfl hfree (by omega)
      simpa [hd] using this

theorem reading_closing (s : Scan) (rest : List Char) :
    Reading s ')' rest (s.step ')' rest).1 (s.step ')' rest).2 := by
  have hread : s.read ')' rest = s.closeParenthesis rest := by simp [read]
  have hv : s.valueAfter ')' = s.inValue := by simp [valueAfter]
  unfold step
  rw [hread]
  unfold closeParenthesis
  by_cases hk : s.keepsClosing rest = true
  · rw [if_pos (by rw [← hk]; rfl)]
    have : Reading s ')' rest [] ⟨s.pending ++ [')'], s.depth, s.valueAfter ')', ')' :: s.past⟩ :=
      .keep (by decide) (by simp) (by simp) (by simp) (fun _ => hk)
    rwa [hv] at this
  · rw [if_neg (by rw [← keepsClosing]; exact hk)]
    have hfree : s.keepsClosing rest = false := by simpa using hk
    have hd : 0 < s.depth := by
      rw [Nat.pos_iff_ne_zero]
      intro hd
      simp [keepsClosing, hd] at hfree
    have := Reading.finish (c := ')') (r := rest) rfl hfree hd
    simpa [flushThen] using this

theorem reading_space (s : Scan) (rest : List Char) :
    Reading s ' ' rest (s.step ' ' rest).1 (s.step ' ' rest).2 := by
  by_cases hd : s.depth = 0
  · have hv : s.valueAfter ' ' = false := by simp [valueAfter, hd]
    have hread : s.read ' ' rest = (s.flush.1, { s.flush.2 with inValue := false }) := by
      rw [← flush_inValue]
      simp [read, space, hd]
    have := Reading.space (s := s) (c := ' ') (r := rest) rfl (by simp [endsAtSpace, hd])
    rw [hv] at this
    unfold step
    rw [hread]
    simpa using this
  · have hv : s.valueAfter ' ' = s.inValue := by simp [valueAfter, hd]
    have hread : s.read ' ' rest = s.space rest := by simp [read, hd]
    unfold step
    rw [hread]
    unfold space
    rw [if_neg hd]
    by_cases he : trim s.pending = []
    · have := Reading.blank (s := s) (c := ' ') (r := rest) rfl (by omega) he
      rw [hv] at this
      simpa [he] using this
    · rw [if_neg (by simpa using he)]
      by_cases hs : (rest.dropWhile (· == ' ')).head?.any isStructural = true
      · have := Reading.space (s := s) (c := ' ') (r := rest) rfl
          (by simp only [endsAtSpace, hs, Bool.or_true])
        rw [hv] at this
        rw [if_pos hs]
        simpa using this
      · have hends : s.endsAtSpace rest = false := by simp [endsAtSpace, hd, hs]
        have : Reading s ' ' rest [] ⟨s.pending ++ [' '], s.depth, s.valueAfter ' ', ' ' :: s.past⟩ :=
          .keep (by decide) (by simp) (fun _ => ⟨hends, he⟩) (by simp) (by simp)
        rw [hv] at this
        rw [if_neg hs]
        simpa [append] using this

/-- Every step is one of the readings. -/
theorem reading (s : Scan) (c : Char) (rest : List Char) :
    Reading s c rest (s.step c rest).1 (s.step c rest).2 := by
  by_cases hopen : c = '('
  · rw [hopen]; exact s.reading_opening rest
  by_cases hclose : c = ')'
  · rw [hclose]; exact s.reading_closing rest
  by_cases hspace : c = ' '
  · rw [hspace]; exact s.reading_space rest
  by_cases hcolon : c = ':' ∧ s.pending.getLast?.any isAlphanumeric = true
  · rw [hcolon.1]; exact s.reading_colon rest hcolon.2
  have hv : s.valueAfter c = s.inValue := by simp only [valueAfter, hcolon, hspace]; simp
  have hkept : ¬((c == ':' && s.pending.getLast?.any isAlphanumeric) = true) := by
    simpa using hcolon
  by_cases hmark : c = '|' ∨ (c = '~' ∨ c = ',') ∧ 0 < s.depth
  · have hread : s.read c rest = s.flushThen .separator := by
      unfold read
      rw [if_neg hkept]
      rcases hmark with h | ⟨h, hd⟩ <;> simp [*]
    have := Reading.separator (s := s) (r := rest) hmark
    unfold step
    rw [hread]
    simpa [flushThen] using this
  · have hbar : c ≠ '|' := fun h => hmark (.inl h)
    have hgroup : c = '~' ∨ c = ',' → s.depth = 0 := fun h =>
      Nat.eq_zero_of_not_pos fun hd => hmark (.inr ⟨h, hd⟩)
    have hread : s.read c rest = ([], s.append c) := by
      unfold read
      rw [if_neg hkept]
      by_cases h : c = '~' ∨ c = ','
      · simp [hopen, hclose, hspace, hbar, hgroup h]
      · simp [hopen, hclose, hspace, hbar, not_or.1 h]
    have : Reading s c rest [] ⟨s.pending ++ [c], s.depth, s.valueAfter c, c :: s.past⟩ :=
      .keep hbar hgroup (fun h => absurd h hspace) (fun h => absurd h hopen)
        (fun h => absurd h hclose)
    rw [hv] at this
    unfold step
    rw [hread]
    simpa [append] using this

/-! ## Many characters -/

/-- The tokens that reading some characters gives, and the state behind them; `rest` stands behind
the characters. -/
def run (s : Scan) (rest : List Char) : List Char → List Token × Scan
  | [] => ([], s)
  | c :: cs =>
    let (found, s) := s.step c (cs ++ rest)
    let (more, s) := s.run rest cs
    (found ++ more, s)

theorem run_append (s : Scan) (rest as bs : List Char) :
    s.run rest (as ++ bs) =
      ((s.run (bs ++ rest) as).1 ++ ((s.run (bs ++ rest) as).2.run rest bs).1,
        ((s.run (bs ++ rest) as).2.run rest bs).2) := by
  induction as generalizing s with
  | nil => rfl
  | cons a as ih =>
    simp only [List.cons_append, run, ih, List.append_assoc]

theorem run_concat (s : Scan) (rest cs : List Char) (c : Char) :
    s.run rest (cs ++ [c]) =
      ((s.run (c :: rest) cs).1 ++ ((s.run (c :: rest) cs).2.step c rest).1,
        ((s.run (c :: rest) cs).2.step c rest).2) := by
  rw [run_append]
  simp [run]

theorem tokens_append (s : Scan) (cs rest : List Char) :
    s.tokens (cs ++ rest) = (s.run rest cs).1 ++ (s.run rest cs).2.tokens rest := by
  induction cs generalizing s with
  | nil => rfl
  | cons c cs ih =>
    simp only [List.cons_append, tokens, run, ih, List.append_assoc]

/-! ## The depth of a scan -/

theorem depthAfter_flush (s : Scan) (depth : Nat) (ts : List Token) :
    Token.depthAfter depth (s.flush.1 ++ ts) = Token.depthAfter depth ts := by
  rcases s.flush_eq with ⟨h, -⟩ | ⟨h, -⟩ <;> rw [h] <;> rfl

theorem Reading.depthAfter {s s' : Scan} {c : Char} {rest : List Char} {ts : List Token}
    (h : Reading s c rest ts s') : Token.depthAfter s.depth ts = some s'.depth := by
  cases h with
  | keep => rfl
  | blank => rfl
  | space =>
    have := s.depthAfter_flush s.depth []
    rwa [List.append_nil] at this
  | separator => rw [depthAfter_flush]; rfl
  | start => rw [depthAfter_flush]; rfl
  | startInside => rfl
  | finish _ _ inside =>
    rw [depthAfter_flush, Token.depthAfter, if_neg (by omega)]
    rfl

theorem depthAfter_run (s : Scan) (rest cs : List Char) :
    Token.depthAfter s.depth (s.run rest cs).1 = some (s.run rest cs).2.depth := by
  induction cs generalizing s with
  | nil => rfl
  | cons c cs ih =>
    simp only [run, Token.depthAfter_append, (s.reading c (cs ++ rest)).depthAfter, Option.bind_some]
    exact ih _

theorem tokens_eq_run (s : Scan) (cs : List Char) :
    s.tokens cs = (s.run [] cs).1 ++ (s.run [] cs).2.flush.1 := by
  have hsplit := s.tokens_append cs []
  rwa [List.append_nil] at hsplit

/-- The tokens of a text leave as many groups open as the scan has open behind it. -/
theorem depthAfter_tokens_eq (s : Scan) (cs : List Char) :
    Token.depthAfter s.depth (s.tokens cs) = some (s.run [] cs).2.depth := by
  have hflush := (s.run [] cs).2.depthAfter_flush (s.run [] cs).2.depth []
  rw [List.append_nil] at hflush
  rw [tokens_eq_run, Token.depthAfter_append, depthAfter_run, Option.bind_some, hflush]
  rfl

theorem depthAfter_tokens (s : Scan) (cs : List Char) :
    ∃ depth, Token.depthAfter s.depth (s.tokens cs) = some depth :=
  ⟨_, s.depthAfter_tokens_eq cs⟩

/-! ## The last character -/

/-- The code points of white space, one by one. -/
def whitePoints : List Nat := [
  0x9, 0xa, 0xb, 0xc, 0xd, 0x20, 0x85, 0xa0, 0x1680, 0x2000, 0x2001, 0x2002, 0x2003, 0x2004, 0x2005,
  0x2006, 0x2007, 0x2008, 0x2009, 0x200a, 0x2028, 0x2029, 0x202f, 0x205f, 0x3000]

theorem mem_whitePoints {n : Nat} (h : whiteRanges.contains n = true) : n ∈ whitePoints := by
  simp [whiteRanges, Ranges.contains] at h
  simp only [whitePoints, List.mem_cons, List.not_mem_nil, or_false]
  omega

theorem eq_false_of_isWhite {p : Char → Bool}
    (hpoints : ∀ n ∈ whitePoints, p (Char.ofNat n) = false) {c : Char} (h : isWhite c = true) :
    p c = false := by
  have hc := hpoints _ (mem_whitePoints h)
  rwa [Char.ofNat_toNat] at hc

theorem isAlphanumeric_of_isWhite {c : Char} (h : isWhite c = true) : isAlphanumeric c = false :=
  eq_false_of_isWhite (by decide +kernel) h

/-- An alphanumeric character stands last in a text. -/
def endsAlphanumeric (cs : List Char) : Bool := cs.getLast?.any isAlphanumeric

theorem endsAlphanumeric_of_trim {cs : List Char} (h : trim cs = []) :
    endsAlphanumeric cs = false := by
  unfold endsAlphanumeric
  cases hl : cs.getLast? with
  | none => rfl
  | some c => exact isAlphanumeric_of_isWhite (trim_eq_nil_iff.1 h c (List.mem_of_getLast? hl))

theorem endsAlphanumeric_flush (s : Scan) : endsAlphanumeric s.flush.2.pending = false := by
  rcases s.flush_eq with ⟨h, ht⟩ | ⟨h, -⟩ <;> rw [h]
  · exact endsAlphanumeric_of_trim ht
  · rfl

/-- The term being read ends in an alphanumeric character exactly if the last character read is one. -/
def IsAligned (s : Scan) : Prop :=
  endsAlphanumeric s.pending = s.past.head?.any isAlphanumeric

theorem Reading.isAligned {s s' : Scan} {c : Char} {rest : List Char} {ts : List Token}
    (h : Reading s c rest ts s') : s'.IsAligned := by
  -- A character that is not taken into the term is a space or a mark, and none is alphanumeric.
  have hmarks : [' ', '|', '~', ',', '(', ')'].any isAlphanumeric = false := by decide +kernel
  have mark : ∀ d ∈ [' ', '|', '~', ',', '(', ')'], isAlphanumeric d = false := by
    intro d hd
    simpa using List.any_eq_false.1 hmarks d hd
  unfold IsAligned
  cases h with
  | keep => simp [endsAlphanumeric]
  | blank space _ empty => simp [endsAlphanumeric_of_trim empty, space, mark]
  | space space => simp [endsAlphanumeric_flush, space, mark]
  | separator h =>
    rcases h with rfl | ⟨rfl | rfl, -⟩ <;> simp [endsAlphanumeric_flush, mark]
  | start h => simp [endsAlphanumeric_flush, h, mark]
  | finish h => simp [endsAlphanumeric_flush, h, mark]
  | startInside h free =>
    have hword : endsInWord s.pending = false := by
      simp only [keepsOpening, Bool.or_eq_false_iff] at free
      exact free.2
    have : endsAlphanumeric s.pending = false := by
      unfold endsInWord at hword
      unfold endsAlphanumeric
      cases hl : s.pending.getLast? with
      | none => rfl
      | some d =>
        rw [hl] at hword
        simp only [Option.any_some, isWordChar, Bool.or_eq_false_iff] at hword
        exact hword.1
    simp [this, h, mark]

/-! ## Values -/

theorem Reading.inValue {s s' : Scan} {c : Char} {rest : List Char} {ts : List Token}
    (h : Reading s c rest ts s') : s'.inValue = s.valueAfter c := by
  cases h with
  | separator h =>
    rcases h with rfl | ⟨rfl | rfl, -⟩ <;> simp [valueAfter]
  | start h => simp [valueAfter, h]
  | finish h => simp [valueAfter, h]
  | startInside h => simp [valueAfter, h]
  | _ => rfl

theorem Reading.past {s s' : Scan} {c : Char} {rest : List Char} {ts : List Token}
    (h : Reading s c rest ts s') : s'.past = c :: s.past := by
  cases h <;> rfl

end Scan

end TagSearch

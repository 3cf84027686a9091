import TagSearch.Proofs.Text.Numerals

/-!
# Reading integers

`Denotes cs n`: a text is an optional sign and one or more decimal digits, which denote an integer of any
size.  An integer of the signed 64-bit range is read from its text (`readInt64_of_denotes`).  Reading ends
with the digit that leads out of the range, so an integer beyond the range is read from any text that
begins with one, whatever stands behind it (`readInt64_of_beyond`).  No other text is read as an integer
(`readInt64_cases`).
-/

namespace TagSearch.Text

/-- An integer that can be read. -/
def IsInt64 (n : Int) : Prop := int64Min ≤ n ∧ n ≤ int64Max

/-- The integer of a natural number with a sign. -/
def signed (negative : Bool) (n : Nat) : Int := if negative then -(n : Int) else n

/-- The texts of a sign; no text is a plus. -/
inductive IsSign : List Char → Bool → Prop
  | none : IsSign [] false
  | plus : IsSign ['+'] false
  | minus : IsSign ['-'] true

/-- The text is an optional sign and at least one digit, and denotes the integer. -/
inductive Denotes : List Char → Int → Prop
  | intro {sign ds : List Char} {negative : Bool} (hsign : IsSign sign negative) (hne : ds ≠ [])
      (hds : ∀ d ∈ ds, d.isDigit = true) : Denotes (sign ++ ds) (signed negative (digitsValue ds))

theorem Denotes.of_all {sign : List Char} (ds : List Char) {negative : Bool} {n : Int}
    (hsign : IsSign sign negative) (hne : ds ≠ []) (hdigits : ds.all Char.isDigit = true)
    (hvalue : signed negative (digitsValue ds) = n) : Denotes (sign ++ ds) n :=
  hvalue ▸ .intro hsign hne (List.all_eq_true.1 hdigits)

theorem Denotes.any_getLast? {cs : List Char} {n : Int} (h : Denotes cs n) :
    cs.getLast?.any Char.isDigit = true := by
  obtain @⟨sign, ds, negative, -, hne, hds⟩ := h
  rw [List.getLast?_append, List.getLast?_eq_some_getLast hne]
  exact hds _ (List.getLast_mem hne)

/-! ## Digits -/

/-- What further digits make of a number. -/
def digitsBehind (n : Nat) (ds : List Char) : Nat := ds.foldl (fun n d => 10 * n + digitValue d) n

theorem le_digitsBehind (n : Nat) (ds : List Char) : n ≤ digitsBehind n ds := by
  induction ds generalizing n with
  | nil => exact Nat.le_refl n
  | cons d ds ih =>
    have hrest : 10 * n + digitValue d ≤ digitsBehind n (d :: ds) := ih (10 * n + digitValue d)
    omega

theorem isInt64_clampInt64 (n : Int) : IsInt64 (clampInt64 n) := by
  unfold IsInt64 clampInt64 int64Min int64Max
  omega

theorem IsInt64.mono {negative : Bool} {m n : Nat} (h : IsInt64 (signed negative n)) (hle : m ≤ n) :
    IsInt64 (signed negative m) := by
  unfold IsInt64 signed int64Min int64Max at *
  cases negative with
  | true =>
    rw [if_pos rfl] at h ⊢
    omega
  | false =>
    rw [if_neg (by decide)] at h ⊢
    omega

theorem signed_neg_iff {negative : Bool} {n : Nat} (h : ¬IsInt64 (signed negative n)) :
    signed negative n < 0 ↔ negative = true := by
  unfold IsInt64 signed int64Min int64Max at h
  unfold signed
  cases negative with
  | true =>
    rw [if_pos rfl] at h ⊢
    exact iff_of_true (by omega) rfl
  | false =>
    rw [if_neg (by decide)] at h ⊢
    exact iff_of_false (by omega) (by decide)

section

variable {negative : Bool} {n : Nat}

theorem readDigits_cons {d : Char} (hd : d.isDigit = true)
    (h : IsInt64 (signed negative (10 * n + digitValue d))) (cs : List Char) :
    readDigits negative n (d :: cs) = readDigits negative (10 * n + digitValue d) cs := by
  rw [readDigits, if_neg (by simp [hd])]
  dsimp only
  cases negative with
  | true =>
    have hmin : int64Min ≤ -((10 * n + digitValue d : Nat) : Int) := h.1
    rw [if_pos rfl, if_neg (Int.not_lt.2 hmin)]
  | false =>
    have hmax : ((10 * n + digitValue d : Nat) : Int) ≤ int64Max := h.2
    rw [if_neg (by decide), if_neg (Int.not_lt.2 hmax)]

theorem readDigits_beyond {d : Char} (hd : d.isDigit = true)
    (h : ¬IsInt64 (signed negative (10 * n + digitValue d))) (cs : List Char) :
    readDigits negative n (d :: cs) = if negative then .below else .above := by
  rw [readDigits, if_neg (by simp [hd])]
  dsimp only
  unfold IsInt64 signed int64Min int64Max at h
  unfold int64Min int64Max
  cases negative with
  | true =>
    rw [if_pos rfl] at h
    rw [if_pos rfl, if_pos (by omega), if_pos rfl]
  | false =>
    rw [if_neg (by decide)] at h
    rw [if_neg (by decide), if_pos (by omega), if_neg (by decide)]

theorem readDigits_append {ds : List Char} (hds : ∀ d ∈ ds, d.isDigit = true)
    (h : IsInt64 (signed negative (digitsBehind n ds))) (cs : List Char) :
    readDigits negative n (ds ++ cs) = readDigits negative (digitsBehind n ds) cs := by
  induction ds generalizing n with
  | nil => rfl
  | cons d ds ih =>
    rw [List.forall_mem_cons] at hds
    have hnext : IsInt64 (signed negative (10 * n + digitValue d)) := h.mono (le_digitsBehind _ ds)
    rw [List.cons_append, readDigits_cons hds.1 hnext]
    exact ih hds.2 h

theorem readDigits_append_beyond {ds : List Char} (hds : ∀ d ∈ ds, d.isDigit = true)
    (hn : IsInt64 (signed negative n)) (h : ¬IsInt64 (signed negative (digitsBehind n ds)))
    (cs : List Char) : readDigits negative n (ds ++ cs) = if negative then .below else .above := by
  induction ds generalizing n with
  | nil => exact absurd hn h
  | cons d ds ih =>
    rw [List.forall_mem_cons] at hds
    by_cases hnext : IsInt64 (signed negative (10 * n + digitValue d))
    · rw [List.cons_append, readDigits_cons hds.1 hnext]
      exact ih hds.2 hnext h
    · exact readDigits_beyond hds.1 hnext (ds ++ cs)

/-- Behind the digits that are read the text ends, or it goes on with a digit that leads out of the range
or with no digit. -/
theorem exists_readable (hn : IsInt64 (signed negative n)) (cs : List Char) :
    ∃ ds rest, cs = ds ++ rest ∧ (∀ d ∈ ds, d.isDigit = true) ∧
      IsInt64 (signed negative (digitsBehind n ds)) ∧
      ∀ c more, rest = c :: more → c.isDigit = true →
        ¬IsInt64 (signed negative (digitsBehind n (ds ++ [c]))) := by
  induction cs generalizing n with
  | nil => exact ⟨[], [], rfl, by simp, hn, by simp⟩
  | cons c cs ih =>
    by_cases hc : c.isDigit = true ∧ IsInt64 (signed negative (10 * n + digitValue c))
    · obtain ⟨ds, rest, rfl, hds, hread, hrest⟩ := ih hc.2
      exact ⟨c :: ds, rest, rfl, List.forall_mem_cons.2 ⟨hc.1, hds⟩, hread, hrest⟩
    · refine ⟨[], c :: cs, rfl, by simp, hn, ?_⟩
      rintro d more ⟨⟩ hd hnext
      exact hc ⟨hd, hnext⟩

end

/-! ## Signs -/

theorem readInt64_append {sign cs : List Char} {negative : Bool} (hsign : IsSign sign negative)
    (hcs : cs ≠ []) (hfirst : sign = [] → cs.head? ≠ some '+' ∧ cs.head? ≠ some '-') :
    readInt64 (sign ++ cs) = readDigits negative 0 cs := by
  obtain ⟨c, cs, rfl⟩ := List.exists_cons_of_ne_nil hcs
  cases hsign with
  | none =>
    have h := hfirst rfl
    exact readInt64.eq_4 c cs (by simpa using h.1) (by simpa using h.2)
  | plus => rfl
  | minus => rfl

theorem exists_sign (cs : List Char) :
    ∃ sign negative rest, IsSign sign negative ∧ cs = sign ++ rest ∧
      (sign = [] → rest.head? ≠ some '+' ∧ rest.head? ≠ some '-') := by
  cases cs with
  | nil => exact ⟨[], false, [], .none, rfl, by simp⟩
  | cons c cs =>
    by_cases hplus : c = '+'
    · exact ⟨['+'], false, cs, .plus, by simp [hplus], by simp⟩
    by_cases hminus : c = '-'
    · exact ⟨['-'], true, cs, .minus, by simp [hminus], by simp⟩
    exact ⟨[], false, c :: cs, .none, rfl, fun _ => by simp [hplus, hminus]⟩

theorem head?_ne_of_isDigit {ds : List Char} (hds : ∀ d ∈ ds, d.isDigit = true) (cs : List Char)
    (hne : ds ≠ []) : (ds ++ cs).head? ≠ some '+' ∧ (ds ++ cs).head? ≠ some '-' := by
  obtain ⟨d, ds, rfl⟩ := List.exists_cons_of_ne_nil hne
  have hd := hds d List.mem_cons_self
  simp [ne_of_isDigit hd (show '+'.isDigit = false from rfl),
    ne_of_isDigit hd (show '-'.isDigit = false from rfl)]

theorem isInt64_zero (negative : Bool) : IsInt64 (signed negative 0) := by
  cases negative <;> exact ⟨by decide, by decide⟩

/-! ## Integers -/

/-- An integer of the range is read from its text. -/
theorem readInt64_of_denotes {cs : List Char} {n : Int} (h : Denotes cs n) (hn : IsInt64 n) :
    readInt64 cs = .value n := by
  obtain @⟨sign, ds, negative, hsign, hne, hds⟩ := h
  have hfirst := head?_ne_of_isDigit hds [] hne
  rw [List.append_nil] at hfirst
  have hread := readDigits_append (n := 0) hds hn []
  rw [List.append_nil] at hread
  rw [readInt64_append hsign hne fun _ => hfirst, hread]
  rfl

/-- An integer beyond the range is read from any text that begins with it. -/
theorem readInt64_of_beyond {front : List Char} {n : Int} (h : Denotes front n) (hn : ¬IsInt64 n)
    (rest : List Char) : readInt64 (front ++ rest) = if n < 0 then .below else .above := by
  obtain @⟨sign, ds, negative, hsign, hne, hds⟩ := h
  have hfirst := head?_ne_of_isDigit hds rest hne
  rw [List.append_assoc, readInt64_append hsign (by simp [hne]) fun _ => hfirst,
    readDigits_append_beyond hds (isInt64_zero negative) hn]
  simp only [signed_neg_iff hn]

/-- A text is an integer of the range, or begins with one beyond the range, or is not read. -/
theorem readInt64_cases (cs : List Char) :
    (∃ n, Denotes cs n ∧ IsInt64 n) ∨
      (∃ front n, front <+: cs ∧ Denotes front n ∧ ¬IsInt64 n) ∨ readInt64 cs = .malformed := by
  obtain ⟨sign, negative, cs, hsign, rfl, hfirst⟩ := exists_sign cs
  by_cases hcs : cs = []
  · refine .inr (.inr ?_)
    subst hcs
    cases hsign <;> rfl
  obtain ⟨ds, rest, rfl, hds, hread, hrest⟩ := exists_readable (isInt64_zero negative) cs
  cases rest with
  | nil =>
    rw [List.append_nil] at hcs ⊢
    exact .inl ⟨_, .intro hsign hcs hds, hread⟩
  | cons c more =>
    by_cases hc : c.isDigit = true
    · have hdigits : ∀ d ∈ ds ++ [c], d.isDigit = true := by
        rw [List.forall_mem_append]
        exact ⟨hds, by simpa using hc⟩
      refine .inr (.inl ⟨sign ++ (ds ++ [c]), _, ⟨more, by simp⟩, .intro hsign (by simp) hdigits, ?_⟩)
      exact hrest c more rfl hc
    · refine .inr (.inr ?_)
      rw [readInt64_append hsign hcs hfirst, readDigits_append hds hread, readDigits, if_pos (by simp [hc])]

theorem isInt64_of_int64? {cs : List Char} {n : Int} (h : int64? cs = some n) : IsInt64 n := by
  unfold int64? at h
  rcases readInt64_cases cs with ⟨m, hm, hrange⟩ | ⟨front, m, ⟨rest, rfl⟩, hm, hbeyond⟩ | hmalformed
  · rw [readInt64_of_denotes hm hrange] at h
    cases h
    exact hrange
  · rw [readInt64_of_beyond hm hbeyond rest] at h
    split at h
    · next m hread => split at hread <;> cases hread
    · cases h
  · rw [hmalformed] at h
    cases h

/-! ## The text of an integer -/

theorem denotes_intText (n : Int) : Denotes (intText n).toList n := by
  have hdigits := IsNumeral.toDigits 0 n.natAbs
  rw [List.replicate_zero, List.nil_append] at hdigits
  have hne := Nat.toDigits_ne_nil (n := n.natAbs) (b := 10)
  unfold intText natText
  split
  · next hneg =>
    have h := Denotes.intro .minus hne hdigits.isDigit
    have hvalue : signed true n.natAbs = n := by
      unfold signed
      rw [if_pos rfl]
      omega
    rw [hdigits.value_eq, hvalue] at h
    simpa using h
  · next hneg =>
    have h := Denotes.intro .none hne hdigits.isDigit
    have hvalue : signed false n.natAbs = n := by
      unfold signed
      rw [if_neg (by decide)]
      omega
    rw [hdigits.value_eq, hvalue] at h
    simpa using h

theorem eq_or_isDigit_of_mem_intText {n : Int} {c : Char} (hc : c ∈ (intText n).toList) :
    c = '-' ∨ c.isDigit = true := by
  have hdigits (m : Nat) (hc : c ∈ (natText m).toList) : c.isDigit = true := by
    rw [natText, String.toList_ofList] at hc
    exact (IsNumeral.toDigits 0 m).isDigit c hc
  unfold intText at hc
  split at hc
  · rw [String.toList_append] at hc
    exact (List.mem_append.1 hc).imp (by simp) (hdigits _)
  · exact .inr (hdigits _ hc)

theorem int64?_intText {n : Int} (hmin : int64Min ≤ n) (hmax : n ≤ int64Max) :
    int64? (intText n).toList = some n := by
  rw [int64?, readInt64_of_denotes (denotes_intText n) ⟨hmin, hmax⟩]

end TagSearch.Text

import TagSearch.Text.Numeral

/-!
# Runs of digits

`IsNumeral ds width n` says that `ds` are so many decimal digits, which denote `n`.  Every number below
the power of ten of a width has one numeral of that width (`IsNumeral.paddedDigits`, `IsNumeral.unique`),
and texts that begin with numerals of one width come in the order of the numbers (`IsNumeral.lt`).
-/

namespace TagSearch.Text

/-- So many digits that denote a number. -/
structure IsNumeral (ds : List Char) (width n : Nat) : Prop where
  length_eq : ds.length = width
  isDigit : ∀ d ∈ ds, d.isDigit = true
  value_eq : digitsValue ds = n

theorem IsNumeral.of_all {ds : List Char} {width n : Nat} (hlength : ds.length = width)
    (hdigits : ds.all Char.isDigit = true) (hvalue : digitsValue ds = n) : IsNumeral ds width n :=
  ⟨hlength, List.all_eq_true.1 hdigits, hvalue⟩

theorem digitsValue_eq_ofDigitChars (ds : List Char) : digitsValue ds = Nat.ofDigitChars 10 ds 0 := rfl

theorem powerOfTen_succ (n : Nat) : powerOfTen (n + 1) = 10 * powerOfTen n := Nat.mul_comm _ _

theorem digitsValue_cons (d : Char) (ds : List Char) :
    digitsValue (d :: ds) = digitValue d * powerOfTen ds.length + digitsValue ds := by
  rw [digitsValue_eq_ofDigitChars, Nat.ofDigitChars_cons, Nat.ofDigitChars_eq_ofDigitChars_zero,
    Nat.mul_zero, Nat.zero_add, Nat.mul_comm]
  rfl

theorem digitsValue_replicate_zero (k : Nat) (ds : List Char) :
    digitsValue (List.replicate k '0' ++ ds) = digitsValue ds := by
  rw [digitsValue_eq_ofDigitChars, Nat.ofDigitChars_append, Nat.ofDigitChars_replicate_zero,
    Nat.mul_zero]
  rfl

theorem paddedDigits_succ {width n : Nat} (hwidth : 0 < width) (h : powerOfTen width ≤ n) :
    paddedDigits (width + 1) n = paddedDigits width n := by
  have hlength : ¬(Nat.toDigits 10 n).length ≤ width := fun hle =>
    Nat.not_lt_of_le h ((Nat.length_toDigits_le_iff (by decide) hwidth).1 hle)
  have hwide : width + 1 - (Nat.toDigits 10 n).length = width - (Nat.toDigits 10 n).length := by omega
  unfold paddedDigits
  dsimp only
  rw [hwide]

theorem isDigit_iff {c : Char} : c.isDigit = true ↔ 48 ≤ c.toNat ∧ c.toNat ≤ 57 := by
  show (decide (c.val ≥ '0'.val) && decide (c.val ≤ '9'.val)) = true ↔ _
  rw [Bool.and_eq_true, decide_eq_true_iff, decide_eq_true_iff]
  exact Iff.rfl

theorem ne_of_isDigit {c d : Char} (hc : c.isDigit = true) (hd : d.isDigit = false) : c ≠ d := by
  rintro rfl
  rw [hc] at hd
  cases hd

theorem digitValue_lt_ten {d : Char} (h : d.isDigit = true) : digitValue d < 10 := by
  have hd := isDigit_iff.1 h
  show d.toNat - 48 < 10
  omega

theorem digitValue_lt_iff {d e : Char} (hd : d.isDigit = true) (he : e.isDigit = true) :
    digitValue d < digitValue e ↔ d < e := by
  have hd := isDigit_iff.1 hd
  have he := isDigit_iff.1 he
  show d.toNat - 48 < e.toNat - 48 ↔ d.toNat < e.toNat
  omega

theorem eq_of_digitValue_eq {d e : Char} (hd : d.isDigit = true) (he : e.isDigit = true)
    (h : digitValue d = digitValue e) : d = e := by
  have hd := isDigit_iff.1 hd
  have he := isDigit_iff.1 he
  have hnat : d.toNat - 48 = e.toNat - 48 := h
  apply Char.toNat_inj.1
  omega

theorem digitsValue_lt {ds : List Char} (h : ∀ d ∈ ds, d.isDigit = true) :
    digitsValue ds < powerOfTen ds.length := by
  induction ds with
  | nil => exact Nat.one_pos
  | cons d ds ih =>
    have hd := digitValue_lt_ten (h d List.mem_cons_self)
    have hds := ih fun e he => h e (List.mem_cons_of_mem d he)
    rw [digitsValue_cons, List.length_cons, powerOfTen_succ]
    calc digitValue d * powerOfTen ds.length + digitsValue ds
        < digitValue d * powerOfTen ds.length + powerOfTen ds.length := by omega
      _ = (digitValue d + 1) * powerOfTen ds.length := (Nat.succ_mul _ _).symm
      _ ≤ 10 * powerOfTen ds.length := Nat.mul_le_mul_right _ hd

theorem digitsValue_cons_lt {d e : Char} {ds es : List Char} (hds : ∀ c ∈ ds, c.isDigit = true)
    (hlength : ds.length = es.length) (h : digitValue d < digitValue e) :
    digitsValue (d :: ds) < digitsValue (e :: es) := by
  have hlt := digitsValue_lt hds
  rw [digitsValue_cons, digitsValue_cons, ← hlength]
  calc digitValue d * powerOfTen ds.length + digitsValue ds
      < digitValue d * powerOfTen ds.length + powerOfTen ds.length := by omega
    _ = (digitValue d + 1) * powerOfTen ds.length := (Nat.succ_mul _ _).symm
    _ ≤ digitValue e * powerOfTen ds.length := Nat.mul_le_mul_right _ h
    _ ≤ _ := Nat.le_add_right _ _

namespace IsNumeral

variable {ds es : List Char} {width m n : Nat}

theorem toDigits (k n : Nat) :
    IsNumeral (List.replicate k '0' ++ Nat.toDigits 10 n) (k + (Nat.toDigits 10 n).length) n := by
  refine ⟨by rw [List.length_append, List.length_replicate], fun d hd => ?_, ?_⟩
  · rcases List.mem_append.1 hd with hd | hd
    · rw [List.eq_of_mem_replicate hd]
      decide
    · exact Nat.isDigit_of_mem_toDigits (by decide) (by decide) hd
  · rw [digitsValue_replicate_zero]
    exact Nat.ofDigitChars_toDigits (by decide) (by decide)

/-- The padded digits of a number are its numeral, if the width is enough for it. -/
theorem paddedDigits (hwidth : 0 < width) (h : n < powerOfTen width) :
    IsNumeral (paddedDigits width n) width n := by
  have hlength : (Nat.toDigits 10 n).length ≤ width :=
    (Nat.length_toDigits_le_iff (by decide) hwidth).2 h
  have := toDigits (width - (Nat.toDigits 10 n).length) n
  rwa [Nat.sub_add_cancel hlength] at this

theorem lt_powerOfTen (h : IsNumeral ds width n) : n < powerOfTen width := by
  rw [← h.value_eq, ← h.length_eq]
  exact digitsValue_lt h.isDigit

/-- A number has one numeral of a width. -/
theorem unique (hd : IsNumeral ds width n) (he : IsNumeral es width n) : ds = es := by
  induction ds generalizing es width n with
  | nil =>
    have hlength : es.length = 0 := he.length_eq.trans hd.length_eq.symm
    exact (List.length_eq_zero_iff.1 hlength).symm
  | cons d ds ih =>
    cases es with
    | nil => cases he.length_eq.trans hd.length_eq.symm
    | cons e es =>
      have hdtail : ∀ c ∈ ds, c.isDigit = true := fun c hc => hd.isDigit c (List.mem_cons_of_mem d hc)
      have hetail : ∀ c ∈ es, c.isDigit = true := fun c hc => he.isDigit c (List.mem_cons_of_mem e hc)
      have hlength : ds.length = es.length := Nat.succ.inj (hd.length_eq.trans he.length_eq.symm)
      have hvalue : digitsValue (d :: ds) = digitsValue (e :: es) := hd.value_eq.trans he.value_eq.symm
      have hhead : digitValue d = digitValue e := by
        rcases Nat.lt_trichotomy (digitValue d) (digitValue e) with h | h | h
        · have := digitsValue_cons_lt hdtail hlength h
          omega
        · exact h
        · have := digitsValue_cons_lt hetail hlength.symm h
          omega
      have htail : digitsValue ds = digitsValue es := by
        rw [digitsValue_cons, digitsValue_cons, hlength, hhead] at hvalue
        exact Nat.add_left_cancel hvalue
      rw [eq_of_digitValue_eq (hd.isDigit d List.mem_cons_self) (he.isDigit e List.mem_cons_self) hhead,
        ih ⟨rfl, hdtail, htail⟩ ⟨hlength.symm, hetail, rfl⟩]

/-- Of two texts that begin with numerals of one width, that with the smaller number comes first. -/
theorem lt (hd : IsNumeral ds width m) (he : IsNumeral es width n) (h : m < n) (cs us : List Char) :
    ds ++ cs < es ++ us := by
  induction ds generalizing es width m n with
  | nil =>
    have hlength : es.length = 0 := he.length_eq.trans hd.length_eq.symm
    have hempty : es = [] := List.length_eq_zero_iff.1 hlength
    have hm : 0 = m := hd.value_eq
    have hn : digitsValue es = n := he.value_eq
    rw [hempty] at hn
    rw [← hm, ← hn] at h
    cases h
  | cons d ds ih =>
    cases es with
    | nil => cases he.length_eq.trans hd.length_eq.symm
    | cons e es =>
      have hdhead := hd.isDigit d List.mem_cons_self
      have hehead := he.isDigit e List.mem_cons_self
      have hdtail : ∀ c ∈ ds, c.isDigit = true := fun c hc => hd.isDigit c (List.mem_cons_of_mem d hc)
      have hetail : ∀ c ∈ es, c.isDigit = true := fun c hc => he.isDigit c (List.mem_cons_of_mem e hc)
      have hlength : ds.length = es.length := Nat.succ.inj (hd.length_eq.trans he.length_eq.symm)
      rw [← hd.value_eq, ← he.value_eq] at h
      rw [List.cons_append, List.cons_append, List.cons_lt_cons_iff]
      rcases Nat.lt_trichotomy (digitValue d) (digitValue e) with hlt | heq | hgt
      · exact .inl ((digitValue_lt_iff hdhead hehead).1 hlt)
      · rw [digitsValue_cons, digitsValue_cons, hlength, heq] at h
        exact .inr ⟨eq_of_digitValue_eq hdhead hehead heq,
          ih ⟨rfl, hdtail, rfl⟩ ⟨hlength.symm, hetail, rfl⟩ (Nat.lt_of_add_lt_add_left h)⟩
      · have := digitsValue_cons_lt hetail hlength.symm hgt
        omega

end IsNumeral

end TagSearch.Text

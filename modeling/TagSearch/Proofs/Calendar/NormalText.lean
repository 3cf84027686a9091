import TagSearch.Proofs.Calendar.Written
import TagSearch.Query.Operand

/-!
# The normal form of a date operand

`normalText?` is what a date operand comes to: the text of the moment that it names.  The moment exists
(`isReal_of_readMoment`), and reading its text gives it back (`readMoment_text`), so a normal form is its
own normal form (`normalText?_idempotent`).

The minus sign of a negative year counts as one of its four characters: years down to -999 have three
digits (`normalText?_short_year`).
-/

namespace TagSearch

open Text

namespace Calendar

/-! ## What an operand names -/

theorem isReal_of_ofSeconds? {n : Nat} {m : Moment} (h : Moment.ofSeconds? n = some m) :
    m.IsReal ∧ 1970 ≤ m.date.year ∧ m.date.year ≤ 9999 := by
  unfold Moment.ofSeconds? Moment.lastSecond at h
  split at h
  · cases h
    refine ⟨⟨Date.isValid_ofDayNumber _, ?_⟩, Date.year_ofDayNumber (Int.natCast_nonneg _) (by omega)⟩
    unfold Time.ofSeconds Time.IsReal
    dsimp only
    omega
  · cases h

theorem isReal_of_ofWritten? {cs : List Char} {m : Moment} (h : Moment.ofWritten? cs = some m) :
    m.IsReal ∧ m.date.year.natAbs ≤ 9999 := by
  obtain ⟨parts, -, fs, hread, rfl | rfl⟩ := Moment.exists_pattern_of_ofWritten? h
  · obtain ⟨-, hvalid, hyear, htime⟩ := of_readPattern? hread
    exact ⟨⟨hvalid, htime⟩, hyear⟩
  · obtain ⟨-, hvalid, hyear, -⟩ := of_readPattern? hread
    exact ⟨hvalid, hyear⟩

end Calendar

open Calendar

theorem readMoment_of_isWritten {m : Moment} (hm : m.IsReal) {width : Nat} (hpos : 0 < width)
    (hwidth : width ≤ 4) {cs : List Char} (h : m.IsWritten width cs) : readMoment cs = .ok m := by
  have hdigits : (!cs.isEmpty && cs.all Char.isDigit) = false := by
    have hall : cs.all Char.isDigit = false := List.all_eq_false.2 ⟨'-', Moment.hyphen_mem h, by decide⟩
    rw [hall, Bool.and_false]
  unfold readMoment
  rw [hdigits, if_neg Bool.false_ne_true, Moment.ofWritten?_of_isWritten hm hpos hwidth h]

theorem isReal_of_readMoment {cs : List Char} {m : Moment} (h : readMoment cs = .ok m) :
    m.IsReal ∧ m.date.year.natAbs ≤ 9999 := by
  unfold readMoment at h
  split at h
  · split at h
    · next found hfound =>
      cases h
      obtain ⟨hreal, hfirst, hlast⟩ := isReal_of_ofSeconds? hfound
      exact ⟨hreal, by omega⟩
    · cases h
  · split at h
    · next found hfound =>
      cases h
      exact isReal_of_ofWritten? hfound
    · cases h

/-- A moment that an operand names is read back from its text. -/
theorem readMoment_text {m : Moment} (hm : m.IsReal) (hyear : m.date.year.natAbs ≤ 9999) :
    readMoment m.text = .ok m := by
  refine readMoment_of_isWritten hm ?_ ?_ (Moment.isWritten_text hm hyear)
  · unfold Date.yearDigits
    split <;> omega
  · unfold Date.yearDigits
    split <;> omega

/-! ## The normal form -/

/-- The normal form of a date operand, or why it is refused. -/
def normalText? (cs : List Char) : Except ValueError (List Char) := (readMoment cs).map Moment.text

theorem Field.readOperand_date {field : Field} (h : field.kind? = some .date) (cs : List Char) :
    field.readOperand cs = compared (splitOperator cs).1
      ((normalText? (splitOperator cs).2).map fun text => .text (String.ofList text)) := by
  have hmap : (normalText? (splitOperator cs).2).map (fun text => Value.text (String.ofList text)) =
      (readMoment (splitOperator cs).2).map fun m => .text (String.ofList m.text) := by
    unfold normalText?
    cases readMoment (splitOperator cs).2 <;> rfl
  rw [hmap]
  cases field with
  | createdAt => rfl
  | downloadedAt => rfl
  | _ => cases h

theorem normalText?_eq_ok {cs text : List Char} (h : normalText? cs = .ok text) :
    ∃ m, readMoment cs = .ok m ∧ text = m.text := by
  unfold normalText? at h
  cases hm : readMoment cs with
  | error e =>
    rw [hm] at h
    cases h
  | ok m =>
    rw [hm] at h
    cases h
    exact ⟨m, rfl, rfl⟩

/-- A normal form is the normal form of itself.  It shows a date that exists, and the time of day if
there is one; the year has four digits, or three if it is negative and above -1000. -/
theorem normalText?_idempotent {cs text : List Char} (h : normalText? cs = .ok text) :
    normalText? text = .ok text ∧ ∃ m : Moment, m.IsReal ∧ m.IsWritten m.date.yearDigits text := by
  obtain ⟨m, hm, rfl⟩ := normalText?_eq_ok h
  obtain ⟨hreal, hyear⟩ := isReal_of_readMoment hm
  refine ⟨?_, m, hreal, Moment.isWritten_text hreal hyear⟩
  unfold normalText?
  rw [readMoment_text hreal hyear]
  rfl

/-- A leap second on the leap day of a negative year, month first. -/
theorem normalText?_idempotent_leap :
    normalText? "2-29--4 23:59:60".toList = .ok "-004-02-29 23:59:59".toList ∧
      normalText? "-004-02-29 23:59:59".toList = .ok "-004-02-29 23:59:59".toList ∧
      ∃ m : Moment, m.IsReal ∧ m.IsWritten m.date.yearDigits "-004-02-29 23:59:59".toList := by
  have h : normalText? "2-29--4 23:59:60".toList = .ok "-004-02-29 23:59:59".toList := by
    decide +kernel
  exact ⟨h, normalText?_idempotent h⟩

/-- The year before year 0 is written with three digits, so that its text is no date with a year of
four. -/
theorem normalText?_short_year :
    normalText? "-0001-01-01".toList = .ok "-001-01-01".toList ∧
      ∀ m : Moment, ¬m.IsWritten 4 "-001-01-01".toList := by
  refine ⟨by decide +kernel, fun m h => ?_⟩
  have hdate {d : Date} {cs rest : List Char} (h : d.IsWritten 4 cs)
      (heq : "-001-01-01".toList = cs ++ rest) : False := by
    obtain ⟨ys, ms, ds, hys, hms, hds, rfl⟩ := h
    split at heq
    · -- With the sign there would be eleven characters.
      have hlength := congrArg List.length heq
      simp [hys.length_eq, hms.length_eq, hds.length_eq] at hlength
      omega
    · -- Without the sign the text would begin with a digit.
      cases ys with
      | nil => cases hys.length_eq
      | cons y ys =>
        have hfirst := hys.isDigit y List.mem_cons_self
        obtain ⟨rfl, -⟩ := List.cons.inj heq
        cases hfirst
  cases m with
  | day d => exact hdate h (List.append_nil _).symm
  | instant d t =>
    obtain ⟨day, clock, hday, -, heq⟩ := h
    exact hdate hday heq

end TagSearch

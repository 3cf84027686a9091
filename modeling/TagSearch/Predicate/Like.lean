/-!
# Patterns of the database

In a pattern `%` stands for any run of characters and `_` for any one character; every other
character stands for itself, letter case counting only beyond ASCII.  Pattern and text are read up to
their first null character, and the two last code points of the first plane, which are no characters,
are read as the replacement character.
-/

namespace TagSearch

/-- A text and everything that remains when characters are taken off its front. -/
def suffixes : List Char → List (List Char)
  | [] => [[]]
  | c :: cs => (c :: cs) :: suffixes cs

/-- The form in which a character is compared. -/
def likeForm (c : Char) : Char :=
  if c == '\ufffe' || c == '\uffff' then '\ufffd' else c.toLower

/-- The whole text fits the pattern.  Of several `%` in a row only the last looks for its run. -/
def fitsLike : List Char → List Char → Bool
  | [], text => text.isEmpty
  | p :: pattern, text =>
    if p == '%' then
      if pattern.head? == some '%' then fitsLike pattern text
      else (suffixes text).any (fitsLike pattern)
    else
      match text with
      | [] => false
      | c :: rest => (p == '_' || likeForm p == likeForm c) && fitsLike pattern rest

/-- The characters before the first null character. -/
def untilNull (cs : List Char) : List Char := cs.takeWhile (· != '\x00')

/-- A text is like a pattern. -/
def isLike (text pattern : String) : Bool :=
  fitsLike (untilNull pattern.toList) (untilNull text.toList)

@[simp] theorem mem_suffixes {s t : List Char} : s ∈ suffixes t ↔ ∃ r, r ++ s = t := by
  induction t with
  | nil => simp [suffixes]
  | cons c t ih =>
    simp only [suffixes, List.mem_cons, ih]
    constructor
    · rintro (rfl | ⟨r, rfl⟩)
      · exact ⟨[], rfl⟩
      · exact ⟨c :: r, rfl⟩
    · rintro ⟨_ | ⟨d, r⟩, h⟩
      · exact .inl h
      · exact .inr ⟨r, (List.cons.inj h).2⟩

/-- A `%` takes any run, whatever follows it. -/
theorem fitsLike_percent (pattern text : List Char) :
    fitsLike ('%' :: pattern) text = true ↔
      ∃ run rest, run ++ rest = text ∧ fitsLike pattern rest = true := by
  induction pattern generalizing text with
  | nil => simp [fitsLike, and_comm]
  | cons p pattern ih =>
    by_cases hp : p = '%'
    · subst hp
      rw [show fitsLike ('%' :: '%' :: pattern) text = fitsLike ('%' :: pattern) text by
        simp [fitsLike]]
      constructor
      · exact fun h => ⟨[], text, rfl, h⟩
      · rintro ⟨run, rest, rfl, h⟩
        obtain ⟨run', rest', rfl, h'⟩ := (ih rest).1 h
        exact (ih _).2 ⟨run ++ run', rest', by simp, h'⟩
    · rw [show fitsLike ('%' :: p :: pattern) text = (suffixes text).any (fitsLike (p :: pattern)) by
        simp [fitsLike, hp]]
      simp only [List.any_eq_true, mem_suffixes]
      exact ⟨fun ⟨rest, ⟨run, h⟩, hf⟩ => ⟨run, rest, h, hf⟩,
        fun ⟨run, rest, h, hf⟩ => ⟨rest, ⟨run, h⟩, hf⟩⟩

end TagSearch

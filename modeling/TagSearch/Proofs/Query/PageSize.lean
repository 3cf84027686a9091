import TagSearch.Proofs.Query.Directives
import TagSearch.Proofs.Text.Integers

/-!
# Page sizes

A page size is an integer of any size, brought into the range of page sizes.  An integer beyond the signed
64-bit range is read as far as the digit that leads out of it, and what stands behind that digit is never
looked at (`readPerPage?_eq_some_iff`).

So a value is read as an integer, or left alone if it is none, exactly if it is an integer or does not
begin with one beyond the range (`isReadAsInteger_iff`).  With other characters behind such an integer the
directive sets a page size, although its value is no integer (`per_page_sets_no_integer`).
-/

namespace TagSearch

open Text

/-- An integer, brought into the range of page sizes. -/
def clampPerPage (n : Int) : Nat := (max 1 (min (maxPerPage : Int) n)).toNat

/-! ## Reading a value -/

section

variable {cs front : List Char} {n : Int}

theorem readPerPage?_of_isInt64 (h : Denotes cs n) (hn : IsInt64 n) :
    readPerPage? cs = some (clampPerPage n) := by
  unfold readPerPage? clampPerPage
  rw [readInt64_of_denotes h hn]
  dsimp only
  congr 1
  omega

theorem readPerPage?_of_beyond (h : Denotes front n) (hn : ¬IsInt64 n) (rest : List Char) :
    readPerPage? (front ++ rest) = some (clampPerPage n) := by
  unfold readPerPage? clampPerPage
  rw [readInt64_of_beyond h hn]
  unfold IsInt64 int64Min int64Max at hn
  have hmax : (maxPerPage : Int) = 200 := rfl
  rw [hmax]
  by_cases hneg : n < 0
  · have hleast : (max 1 (min 200 n)).toNat = 1 := by omega
    rw [if_pos hneg, hleast]
  · have hgreatest : (max 1 (min 200 n)).toNat = 200 := by omega
    rw [if_neg hneg, hgreatest]
    rfl

theorem readPerPage?_of_denotes (h : Denotes cs n) : readPerPage? cs = some (clampPerPage n) := by
  by_cases hn : IsInt64 n
  · exact readPerPage?_of_isInt64 h hn
  · have hread := readPerPage?_of_beyond h hn []
    rwa [List.append_nil] at hread

/-- A page size is read from an integer, and from what begins with one beyond the range. -/
theorem readPerPage?_eq_some_iff {size : Nat} :
    readPerPage? cs = some size ↔ ∃ n, size = clampPerPage n ∧
      (Denotes cs n ∨ ¬IsInt64 n ∧ ∃ front, front <+: cs ∧ Denotes front n) := by
  constructor
  · intro hread
    rcases readInt64_cases cs with ⟨n, h, -⟩ | ⟨front, n, ⟨rest, rfl⟩, h, hn⟩ | hmalformed
    · rw [readPerPage?_of_denotes h] at hread
      exact ⟨n, (Option.some.inj hread).symm, .inl h⟩
    · rw [readPerPage?_of_beyond h hn] at hread
      exact ⟨n, (Option.some.inj hread).symm, .inr ⟨hn, front, ⟨rest, rfl⟩, h⟩⟩
    · rw [readPerPage?, hmalformed] at hread
      cases hread
  · rintro ⟨n, rfl, h | ⟨hn, front, ⟨rest, rfl⟩, h⟩⟩
    · exact readPerPage?_of_denotes h
    · exact readPerPage?_of_beyond h hn rest

end

/-! ## The directive -/

theorem takeWord_perPageMark (d : Directives) (kept : List (List Char)) (value : List Char) :
    takeWord (d, kept) (perPageMark ++ value) =
      ({ d with perPage := (readPerPage? value).or d.perPage }, kept) := by
  have hletters : perPageMark.map Char.toLower = perPageMark := by decide
  have hmark : hasMark perPageMark (perPageMark ++ value) = true := by
    rw [hasMark, List.isPrefixOf_iff_prefix, List.map_append, hletters]
    exact List.prefix_append _ _
  have hsort : hasMark sortMark (perPageMark ++ value) = false := by
    rw [Bool.eq_false_iff]
    intro hsort
    rw [hasMark_perPage_of_sort hsort] at hmark
    cases hmark
  rw [takeWord_of_perPage hsort hmark, List.drop_left]

/-- The directive with this value sets the page size to the integer that the value denotes, clamped, and
leaves it as it was if the value denotes none. -/
structure IsReadAsInteger (value : List Char) : Prop where
  sets : ∀ n, Denotes value n → ∀ (d : Directives) (kept : List (List Char)),
    takeWord (d, kept) (perPageMark ++ value) = ({ d with perPage := some (clampPerPage n) }, kept)
  leaves : (¬∃ n, Denotes value n) → ∀ (d : Directives) (kept : List (List Char)),
    takeWord (d, kept) (perPageMark ++ value) = (d, kept)

/-- The value begins with an integer beyond the signed 64-bit range. -/
def BeginsBeyondRange (value : List Char) : Prop :=
  ∃ front n, front <+: value ∧ Denotes front n ∧ ¬IsInt64 n

/-- The value of a page-size directive is read as an integer of any size, or left alone if it is none,
exactly if it is an integer or does not begin with one beyond the signed 64-bit range.  If it does begin
with one, the directive sets the page size to that integer, clamped. -/
theorem isReadAsInteger_iff (value : List Char) :
    (IsReadAsInteger value ↔ (∃ n, Denotes value n) ∨ ¬BeginsBeyondRange value) ∧
      ∀ front n, front <+: value → Denotes front n → ¬IsInt64 n →
        ∀ (d : Directives) (kept : List (List Char)), takeWord (d, kept) (perPageMark ++ value) =
          ({ d with perPage := some (clampPerPage n) }, kept) := by
  have hbeyond : ∀ front n, front <+: value → Denotes front n → ¬IsInt64 n →
      ∀ (d : Directives) (kept : List (List Char)), takeWord (d, kept) (perPageMark ++ value) =
        ({ d with perPage := some (clampPerPage n) }, kept) := by
    rintro front n ⟨rest, rfl⟩ h hn d kept
    rw [takeWord_perPageMark, readPerPage?_of_beyond h hn]
    rfl
  refine ⟨⟨fun h => ?_, fun h => ⟨fun n hdenotes d kept => ?_, fun hnone d kept => ?_⟩⟩, hbeyond⟩
  · by_contra hcontra
    rw [not_or, not_not] at hcontra
    obtain ⟨hnone, front, n, hfront, hdenotes, hn⟩ := hcontra
    -- The page size is set where it should have stayed unset.
    have hset := hbeyond front n hfront hdenotes hn .none []
    rw [h.leaves hnone] at hset
    exact absurd (congrArg (fun state => state.1.perPage) hset) (by simp [Directives.none])
  · rw [takeWord_perPageMark, readPerPage?_of_denotes hdenotes]
    rfl
  · have hread : readPerPage? value = none := by
      rw [Option.eq_none_iff_forall_ne_some]
      intro size hsize
      obtain ⟨n, -, hdenotes | ⟨hn, front, hfront, hdenotes⟩⟩ := readPerPage?_eq_some_iff.1 hsize
      · exact hnone ⟨n, hdenotes⟩
      · exact (h.resolve_left hnone) ⟨front, n, hfront, hdenotes, hn⟩
    rw [takeWord_perPageMark, hread]
    rfl

/-- A long numeral that denotes a small integer, and a fraction that begins with an integer below the
range. -/
theorem isReadAsInteger_longNumeral :
    Denotes "+0000000000000000000000000000300".toList 300 ∧
      IsReadAsInteger "+0000000000000000000000000000300".toList ∧
      Denotes "-99999999999999999999".toList (-99999999999999999999) ∧
      takeWord (.none, []) "per-page:-99999999999999999999.5".toList =
        ({ Directives.none with perPage := some 1 }, []) := by
  have hlong : Denotes "+0000000000000000000000000000300".toList 300 :=
    .of_all "0000000000000000000000000000300".toList .plus (by decide) (by decide) (by decide)
  have hlow : Denotes "-99999999999999999999".toList (-99999999999999999999) :=
    .of_all "99999999999999999999".toList .minus (by decide) (by decide) (by decide)
  have hbelow : ¬IsInt64 (-99999999999999999999) := fun h => absurd h.1 (by decide)
  exact ⟨hlong, (isReadAsInteger_iff _).1.2 (.inl ⟨300, hlong⟩), hlow,
    (isReadAsInteger_iff "-99999999999999999999.5".toList).2 _ _ ⟨['.', '5'], by decide⟩ hlow hbelow
      .none []⟩

/-- A letter behind nineteen nines: the value is no integer, and the directive sets a page size. -/
theorem per_page_sets_no_integer :
    (¬∃ n, Denotes "9999999999999999999x".toList n) ∧
      splitDirectives "per-page:9999999999999999999x" =
        ("", { Directives.none with perPage := some 200 }) ∧
      ¬IsReadAsInteger "9999999999999999999x".toList := by
  have hnone : ¬∃ n, Denotes "9999999999999999999x".toList n := by
    rintro ⟨n, h⟩
    exact absurd h.any_getLast? (by decide)
  refine ⟨hnone, by decide +kernel, fun h => ?_⟩
  exact absurd (h.leaves hnone .none []) (by decide +kernel)

end TagSearch

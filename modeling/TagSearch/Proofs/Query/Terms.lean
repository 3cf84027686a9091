import Mathlib.Data.List.Infix
import TagSearch.Query.Term

/-!
# The filters of terms

A term behind an exclusion mark stands for the filter of the term, excluded (`Filter.ofTerm_mark`).  A
term that names a known field is read by that field, whatever the letter case of the name
(`Filter.ofTerm_named`).  So a tag may be written by itself or behind the name of its field.
-/

namespace TagSearch

/-! ## Exclusion marks -/

theorem splitExclusion_of_unmarked {cs : List Char} (h : ∀ mark ∈ exclusionMarks, ¬mark <+: cs) :
    splitExclusion cs = (false, cs) := by
  have hnone : exclusionMarks.findSome? (·.isPrefixOf? cs) = none := by
    rw [List.findSome?_eq_none_iff]
    intro mark hmark
    rw [Option.eq_none_iff_forall_ne_some]
    intro rest hrest
    exact h mark hmark ⟨rest, List.append_eq_of_isPrefixOf?_eq_some hrest⟩
  unfold splitExclusion
  rw [hnone]

theorem splitExclusion_mark {mark : List Char} (h : mark ∈ exclusionMarks) (cs : List Char) :
    splitExclusion (mark ++ cs) = (true, cs) := by
  have hsome : exclusionMarks.findSome? (·.isPrefixOf? (mark ++ cs)) = some cs := by
    simp only [exclusionMarks, List.map_cons, List.map_nil, List.mem_cons, List.not_mem_nil,
      or_false] at h
    rcases h with rfl | rfl | rfl | rfl | rfl | rfl
    all_goals simp [exclusionMarks, List.isPrefixOf?]
  unfold splitExclusion
  rw [hsome]

namespace Filter

/-- The filter with its condition excluded. -/
def excluded (f : Filter) : Filter := { f with negated := true }

/-- A term behind a mark is the excluded filter of the term, or fails as the term does. -/
theorem ofTerm_mark {mark : List Char} (hmark : mark ∈ exclusionMarks) {term : String}
    (hterm : ∀ mark ∈ exclusionMarks, ¬mark <+: term.toList) :
    ofTerm (String.ofList mark ++ term) = (ofTerm term).map excluded := by
  unfold ofTerm
  rw [String.toList_append, String.toList_ofList, splitExclusion_mark hmark,
    splitExclusion_of_unmarked hterm]
  dsimp only
  cases splitName? term.toList with
  | none => rfl
  | some parts =>
    obtain ⟨name, value⟩ := parts
    dsimp only
    cases (Field.ofName (String.ofList name)).readOperand value <;> rfl

theorem negated_of_ofTerm {term : String} {f : Filter}
    (hterm : ∀ mark ∈ exclusionMarks, ¬mark <+: term.toList) (h : ofTerm term = .ok f) :
    f.negated = false := by
  unfold ofTerm at h
  rw [splitExclusion_of_unmarked hterm] at h
  dsimp only at h
  split at h
  · cases h
    rfl
  · next name value _ =>
    cases hread : (Field.ofName (String.ofList name)).readOperand value with
    | error e =>
      rw [hread] at h
      cases h
    | ok read =>
      rw [hread] at h
      cases h
      rfl

end Filter

/-! ## Terms that name a field -/

theorem isNameChar_of_toLower {c : Char} (h : isNameChar c.toLower = true) : isNameChar c = true := by
  unfold Char.toLower at h
  split at h
  · next hupper =>
    have halpha : c.isAlpha = true := by
      show (decide (c.val ≥ 'A'.val ∧ c.val ≤ 'Z'.val) ||
        decide (c.val ≥ 'a'.val) && decide (c.val ≤ 'z'.val)) = true
      rw [decide_eq_true hupper, Bool.true_or]
    rw [isNameChar, halpha, Bool.true_or, Bool.true_or]
  · exact h

theorem splitName?_append {name value : List Char} (hne : name ≠ [])
    (hname : name.all isNameChar = true) (hvalue : value ≠ []) :
    splitName? (name ++ ':' :: value) = some (name, value) := by
  have hcolon : ∀ c ∈ name, (c != ':') = true := by
    intro c hc
    have hchar := List.all_eq_true.1 hname c hc
    rw [bne_iff_ne]
    rintro rfl
    cases hchar
  unfold splitName?
  rw [List.takeWhile_append_of_pos hcolon, List.dropWhile_append_of_pos hcolon]
  simp [hne, hvalue, hname]

theorem splitName?_eq_some_iff {cs name value : List Char} :
    splitName? cs = some (name, value) ↔
      cs = name ++ ':' :: value ∧ name ≠ [] ∧ name.all isNameChar = true ∧ value ≠ [] := by
  constructor
  · intro h
    unfold splitName? at h
    dsimp only at h
    split at h
    · next c rest hrest =>
      split at h
      · next hparts =>
        obtain ⟨rfl, rfl⟩ := Prod.mk.inj (Option.some.inj h)
        have hne : cs.dropWhile (· != ':') ≠ [] := by simp [hrest]
        have hhead := List.head_dropWhile_not (· != ':') hne
        simp only [hrest, List.head_cons, bne_eq_false_iff_eq] at hhead
        rw [Bool.and_eq_true, Bool.and_eq_true] at hparts
        obtain ⟨⟨hname, hchars⟩, hvalue⟩ := hparts
        refine ⟨?_, by simpa using hname, hchars, by simpa using hvalue⟩
        have hcs := List.takeWhile_append_dropWhile (p := (· != ':')) (l := cs)
        rw [hrest, hhead] at hcs
        exact hcs.symm
      · cases h
    · cases h
  · rintro ⟨rfl, hne, hname, hvalue⟩
    exact splitName?_append hne hname hvalue

namespace Field

theorem exists_mem_names {name : String} (h : ∀ other, ofName name ≠ .unknown other) :
    ∃ field, (String.ofList (name.toList.map Char.toLower), field) ∈ names := by
  cases hfound : names.lookup (String.ofList (name.toList.map Char.toLower)) with
  | none =>
    refine absurd ?_ (h (String.ofList (name.toList.map Char.toLower)))
    show (names.lookup (String.ofList (name.toList.map Char.toLower))).getD _ = _
    rw [hfound]
    rfl
  | some field =>
    obtain ⟨before, after, hnames, -⟩ := List.lookup_eq_some_iff.1 hfound
    exact ⟨field, by rw [hnames]; simp⟩

theorem names_unmarked : ∀ entry ∈ names, entry.1.toList ≠ [] ∧
    entry.1.toList.all isNameChar = true ∧ ∀ mark ∈ exclusionMarks,
      mark.map Char.toLower = mark ∧ ¬mark <+: entry.1.toList ++ [':'] ∧
        ¬entry.1.toList ++ [':'] <+: mark := by
  decide +kernel

end Field

section

variable {name : String} (hname : ∀ other, Field.ofName name ≠ .unknown other)

include hname

theorem splitExclusion_named (value : List Char) :
    splitExclusion (name.toList ++ ':' :: value) = (false, name.toList ++ ':' :: value) := by
  obtain ⟨field, hmem⟩ := Field.exists_mem_names hname
  obtain ⟨-, -, hmarks⟩ := Field.names_unmarked _ hmem
  rw [String.toList_ofList] at hmarks
  apply splitExclusion_of_unmarked
  intro mark hmark hprefix
  obtain ⟨hlower, hshort, hlong⟩ := hmarks mark hmark
  -- In lower case the mark and the name both stand first, so one begins with the other.
  have hfirst := hprefix.map Char.toLower
  rw [hlower, List.map_append, List.map_cons] at hfirst
  have hsecond : name.toList.map Char.toLower ++ [':'] <+:
      name.toList.map Char.toLower ++ ':'.toLower :: value.map Char.toLower :=
    ⟨value.map Char.toLower, by simp⟩
  exact (List.prefix_or_prefix_of_prefix hfirst hsecond).elim hshort hlong

theorem splitName?_named {value : List Char} (hvalue : value ≠ []) :
    splitName? (name.toList ++ ':' :: value) = some (name.toList, value) := by
  obtain ⟨field, hmem⟩ := Field.exists_mem_names hname
  obtain ⟨hne, hchars, -⟩ := Field.names_unmarked _ hmem
  rw [String.toList_ofList] at hne hchars
  rw [List.all_map] at hchars
  refine splitName?_append (by simpa using hne) (List.all_eq_true.2 fun c hc => ?_) hvalue
  exact isNameChar_of_toLower (List.all_eq_true.1 hchars c hc)

/-- A term that names a known field, in any letter case, is read by that field. -/
theorem Filter.ofTerm_named {value : String} (hvalue : value ≠ "") :
    ofTerm (name ++ ":" ++ value) = ((Field.ofName name).readOperand value.toList).map
      fun (operator, operand) => ⟨Field.ofName name, operand, operator, false⟩ := by
  have htext : (name ++ ":" ++ value).toList = name.toList ++ ':' :: value.toList := by simp
  have hsplit := splitName?_named hname (show value.toList ≠ [] by simpa using hvalue)
  unfold ofTerm
  rw [htext, splitExclusion_named hname]
  simp only [hsplit, String.ofList_toList]

end

/-! ## Tags -/

theorem splitExclusion_of_head {c : Char} {cs : List Char} (h : c ∉ ['-', '!', 'e', 'r', 'n']) :
    splitExclusion (c :: cs) = (false, c :: cs) := by
  have hheads : ∀ mark ∈ exclusionMarks,
      mark.head?.any (['-', '!', 'e', 'r', 'n'].contains ·) = true := by decide
  apply splitExclusion_of_unmarked
  intro mark hmark hprefix
  have hhead := hheads mark hmark
  cases mark with
  | nil => cases hhead
  | cons d rest =>
    obtain ⟨rfl, -⟩ := List.cons_prefix_cons.1 hprefix
    exact h (List.contains_iff_mem.1 hhead)

namespace Filter

theorem ofTerm_of_digit {text : String} {d : Char} {rest : List Char}
    (htext : text.toList = d :: rest) (hd : d.isDigit = true) :
    ofTerm text = .ok (.tag text false) := by
  have hmark : d ∉ ['-', '!', 'e', 'r', 'n'] := by
    intro hmem
    have hnone : ['-', '!', 'e', 'r', 'n'].all (fun c => !c.isDigit) = true := by decide
    have := List.all_eq_true.1 hnone d hmem
    simp [hd] at this
  have hname : splitName? (d :: rest) = none := by
    have hcolon : d ≠ ':' := by
      rintro rfl
      cases hd
    have hchar : isNameChar d = false := by
      have halpha : d.isAlpha = false := by
        show (decide (d.val ≥ 'A'.val ∧ d.val ≤ 'Z'.val) ||
          decide (d.val ≥ 'a'.val) && decide (d.val ≤ 'z'.val)) = false
        simp [Char.isDigit, UInt32.le_iff_toNat_le] at hd ⊢
        omega
      have hunderscore : d ≠ '_' := by
        rintro rfl
        cases hd
      have hhyphen : d ≠ '-' := by
        rintro rfl
        cases hd
      simp [isNameChar, halpha, hunderscore, hhyphen]
    have htake : (d :: rest).takeWhile (· != ':') = d :: rest.takeWhile (· != ':') :=
      List.takeWhile_cons_of_pos (by simpa using hcolon)
    unfold splitName?
    rw [htake]
    dsimp only
    rw [List.all_cons, hchar]
    split <;> simp
  unfold ofTerm
  rw [htext, splitExclusion_of_head hmark]
  simp only [hname]
  rw [← htext, String.ofList_toList]

theorem ofTerm_tag {text : String} (h : text.toList ≠ []) :
    ofTerm ("tag:" ++ text) = .ok (.tag text false) := by
  have hfield : Field.ofName "tag" = .tag := by decide +kernel
  have hname : ∀ other, Field.ofName "tag" ≠ .unknown other := by simp [hfield]
  calc ofTerm ("tag:" ++ text) = ofTerm ("tag" ++ ":" ++ text) := rfl
    _ = ((Field.ofName "tag").readOperand text.toList).map
          fun (operator, operand) => ⟨Field.ofName "tag", operand, operator, false⟩ :=
        ofTerm_named hname (by simpa using h)
    _ = .ok (.tag text false) := by
        simp only [hfield, Field.readOperand, String.ofList_toList]
        rfl

end Filter

end TagSearch

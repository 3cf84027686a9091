import TagSearch.Proofs.Calendar.NormalText
import TagSearch.Proofs.Query.Glyphs
import TagSearch.Proofs.Query.Leaves
import TagSearch.Proofs.Query.MatchingTags
import TagSearch.Proofs.Text.Integers

/-!
# Well-typed filters

A field is read with operators and operands of its own kind only.  `Field.Admits` lists them, with one
constructor for each way of reading an operand, and `Field.admits_of_readOperand` leads every field to its
constructor; `Field.Takes` says less, field by field.  The name of an unknown field has the characters of
a name but is no field's (`Field.IsUnknownName`).

So the filter of every term is well-typed (`Filter.isWellTyped_of_ofTerm`), and with it every leaf of a
parsed query.  A well-typed filter on the number of matching tags is a requirement or a pattern, so no
comparison is lost where the requirements of a tree are collected (`leaves_are_well_typed`).
-/

namespace TagSearch

open Text

/-! ## Operators and operands -/

theorem map_eq_ok_iff {α β ε : Type} {f : α → β} {x : Except ε α} {b : β} :
    x.map f = .ok b ↔ ∃ a, x = .ok a ∧ f a = b := by
  cases x <;> simp [Except.map]

theorem compared_eq_ok {comparison : Comparison} {value : Except ValueError Value}
    {operator : Operator} {v : Value} (h : compared comparison value = .ok (operator, v)) :
    operator = .compare comparison ∧ value = .ok v := by
  obtain ⟨w, rfl, hw⟩ := map_eq_ok_iff.1 h
  cases hw
  exact ⟨rfl, rfl⟩

theorem splitOperator_ne (cs : List Char) : (splitOperator cs).1 ≠ .ne := by
  have hglyphs : ∀ entry ∈ glyphs, entry.2 ≠ .ne ∧ entry.2.mirror ≠ .ne := by decide
  rcases splitOperator_cases cs with h | ⟨glyph, comparison, operand, hmem, -, ⟨-, h⟩ | ⟨-, h⟩⟩
  · simp [h]
  · rw [h]
    exact (hglyphs _ hmem).1
  · rw [h]
    exact (hglyphs _ hmem).2

theorem Double.isInt64_truncInt64 (x : Double) : IsInt64 x.truncInt64 := by
  cases x with
  | nan => exact ⟨by decide, by decide⟩
  | infinite negative => cases negative <;> exact ⟨by decide, by decide⟩
  | finite negative units => exact isInt64_clampInt64 _

theorem isInt64_of_readSize {cs : List Char} {n : Int} (h : readSize cs = .ok n) : IsInt64 n := by
  have hsize : ∃ x : Double, n = x.truncInt64 := by
    unfold readSize at h
    grind
  obtain ⟨x, rfl⟩ := hsize
  exact x.isInt64_truncInt64

theorem exists_of_readReal {refused : String → ValueError} {cs : List Char} {v : Value}
    (h : readReal refused cs = .ok v) : ∃ x, v = .real x := by
  unfold readReal at h
  split at h
  · next x _ => exact ⟨x, (Except.ok.inj h).symm⟩
  · cases h

theorem exists_of_readWhole {field : Field} {cs : List Char} {v : Value}
    (h : readWhole field cs = .ok v) : ∃ n, v = .integer n ∧ IsInt64 n := by
  unfold readWhole at h
  split at h
  · next n hn => exact ⟨n, (Except.ok.inj h).symm, isInt64_of_int64? hn⟩
  · cases h

theorem head?_fileTypeText (cs : List Char) :
    (fileTypeText cs).head? = some '.' ∨ (fileTypeText cs).head? = some '(' := by
  unfold fileTypeText
  split <;> simp

namespace Field

/-- A field of whole numbers that are read as they stand, without a unit. -/
def IsWhole (field : Field) : Prop :=
  field.kind? = some .numeric ∧ field ∉ [.fileSize, .duration, .aspectRatio]

/-- The operators and operands that a field is read with. -/
inductive Admits : Field → Operator → Value → Prop
  | size {c : Comparison} {n : Int} (hc : c ≠ .ne) (hn : IsInt64 n) :
      Admits .fileSize (.compare c) (.integer n)
  | real {field : Field} {c : Comparison} {x : Double}
      (hfield : field = .duration ∨ field = .aspectRatio) (hc : c ≠ .ne) :
      Admits field (.compare c) (.real x)
  | date {field : Field} {c : Comparison} {operand text : List Char}
      (hfield : field = .createdAt ∨ field = .downloadedAt) (hc : c ≠ .ne)
      (htext : normalText? operand = .ok text) :
      Admits field (.compare c) (.text (String.ofList text))
  | whole {field : Field} {c : Comparison} {n : Int} (hfield : field.IsWhole) (hc : c ≠ .ne)
      (hn : IsInt64 n) : Admits field (.compare c) (.integer n)
  | pattern {field : Field} {text : String} (hfield : field.IsWhole) (hstar : '*' ∈ text.toList) :
      Admits field .pattern (.text text)
  | fileType {text : String}
      (hfirst : text.toList.head? = some '.' ∨ text.toList.head? = some '(') :
      Admits .fileType (.compare .eq) (.text text)
  | text {field : Field} {text : String} (hkind : field.kind? = none ∨ field.kind? = some .text)
      (htype : field ≠ .fileType) : Admits field (.compare .eq) (.text text)

/-- A field is read with what it admits. -/
theorem admits_of_readOperand {field : Field} {cs : List Char} {operator : Operator} {value : Value}
    (h : field.readOperand cs = .ok (operator, value)) : field.Admits operator value := by
  have hne := splitOperator_ne cs
  -- Fields of one kind read alike, so each way of reading is followed once.
  have hreal {field : Field} {refused : String → ValueError}
      (hfield : field = .duration ∨ field = .aspectRatio)
      (h : compared (splitOperator cs).1 (readReal refused (splitOperator cs).2) =
        .ok (operator, value)) : field.Admits operator value := by
    obtain ⟨rfl, hv⟩ := compared_eq_ok h
    obtain ⟨x, rfl⟩ := exists_of_readReal hv
    exact .real hfield hne
  have hdate {field : Field} (hkind : field.kind? = some .date)
      (hfield : field = .createdAt ∨ field = .downloadedAt)
      (h : field.readOperand cs = .ok (operator, value)) : field.Admits operator value := by
    rw [readOperand_date hkind] at h
    obtain ⟨rfl, hv⟩ := compared_eq_ok h
    obtain ⟨text, htext, rfl⟩ := map_eq_ok_iff.1 hv
    exact .date hfield hne htext
  have hwhole {field : Field} (hfield : field.IsWhole)
      (h : (if (splitOperator cs).2.contains '*' then
        .ok (.pattern, .text (String.ofList (splitOperator cs).2))
        else compared (splitOperator cs).1 (readWhole field (splitOperator cs).2)) =
          .ok (operator, value)) : field.Admits operator value := by
    split at h
    · next hstar =>
      cases h
      exact .pattern hfield (by simpa using hstar)
    · obtain ⟨rfl, hv⟩ := compared_eq_ok h
      obtain ⟨n, rfl, hn⟩ := exists_of_readWhole hv
      exact .whole hfield hne hn
  have htext {field : Field} {cs : List Char} (hkind : field.kind? = none ∨ field.kind? = some .text)
      (htype : field ≠ .fileType)
      (h : Except.ok (.compare .eq, .text (String.ofList cs)) =
        (.ok (operator, value) : Except ValueError _)) : field.Admits operator value := by
    cases h
    exact .text hkind htype
  cases field with
  | fileSize =>
    obtain ⟨rfl, hv⟩ := compared_eq_ok h
    obtain ⟨n, hn, rfl⟩ := map_eq_ok_iff.1 hv
    exact .size hne (isInt64_of_readSize hn)
  | duration => exact hreal (.inl rfl) h
  | aspectRatio => exact hreal (.inr rfl) h
  | createdAt => exact hdate rfl (.inl rfl) h
  | downloadedAt => exact hdate rfl (.inr rfl) h
  | postId | score | width | height | tagCount | matchingTags => exact hwhole ⟨rfl, by decide⟩ h
  | fileType =>
    cases h
    exact .fileType (by simpa using head?_fileTypeText cs)
  | tag | unknown => exact htext (.inl rfl) Field.noConfusion h
  | owner | title | rating => exact htext (.inr rfl) Field.noConfusion h

/-- The kinds of operators and operands that a field is read with. -/
def Takes (field : Field) (operator : Operator) (value : Value) : Prop :=
  match field with
  | .duration | .aspectRatio => ∃ o x, operator = .compare o ∧ value = .real x
  | .createdAt | .downloadedAt => ∃ o text, operator = .compare o ∧ value = .text text
  | .fileSize => ∃ o n, operator = .compare o ∧ value = .integer n
  | .postId | .score | .width | .height | .tagCount | .matchingTags =>
    (∃ o n, operator = .compare o ∧ value = .integer n) ∨
      ∃ text, operator = .pattern ∧ value = .text text
  | .tag | .owner | .title | .rating | .fileType | .unknown _ =>
    ∃ text, operator = .compare .eq ∧ value = .text text

namespace Admits

variable {field : Field} {operator : Operator} {value : Value}

theorem operator_ne (h : field.Admits operator value) : operator ≠ .compare .ne := by
  cases h with
  | size hc | real _ hc | date _ hc | whole _ hc => simpa using hc
  | pattern | fileType | text => decide

theorem takes (h : field.Admits operator value) : field.Takes operator value := by
  cases h with
  | size => exact ⟨_, _, rfl, rfl⟩
  | real hfield => rcases hfield with rfl | rfl <;> exact ⟨_, _, rfl, rfl⟩
  | date hfield => rcases hfield with rfl | rfl <;> exact ⟨_, _, rfl, rfl⟩
  | whole hfield => cases field <;> simp [IsWhole, kind?, Takes] at hfield ⊢
  | pattern hfield => cases field <;> simp [IsWhole, kind?, Takes] at hfield ⊢
  | fileType => exact ⟨_, rfl, rfl⟩
  | text hkind => cases field <;> simp [kind?, Takes] at hkind ⊢

end Admits

/-! ## Names of unknown fields -/

/-- A name in small letters that a field could have, but none has. -/
structure IsUnknownName (name : String) : Prop where
  nonempty : name ≠ ""
  chars : ∀ c ∈ name.toList, ('a' ≤ c ∧ c ≤ 'z') ∨ c = '_' ∨ c = '-'
  unlisted : ∀ entry ∈ names, entry.1 ≠ name

theorem toLower_of_isNameChar {c : Char} (h : isNameChar c = true) :
    ('a' ≤ c.toLower ∧ c.toLower ≤ 'z') ∨ c.toLower = '_' ∨ c.toLower = '-' := by
  rw [isNameChar, Bool.or_eq_true, Bool.or_eq_true, beq_iff_eq, beq_iff_eq] at h
  rcases h with (halpha | rfl) | rfl
  · refine .inl ?_
    change (decide ('A'.val ≤ c.val ∧ c.val ≤ 'Z'.val) ||
      decide ('a'.val ≤ c.val) && decide (c.val ≤ 'z'.val)) = true at halpha
    simp only [Bool.or_eq_true, Bool.and_eq_true, decide_eq_true_eq, Char.le_def,
      UInt32.le_iff_toNat_le] at halpha ⊢
    unfold Char.toLower
    split
    · next hupper =>
      -- A capital letter stands 32 before the small one.
      simp [UInt32.le_iff_toNat_le] at hupper ⊢
      omega
    · next hupper =>
      simp only [ge_iff_le, UInt32.le_iff_toNat_le] at hupper
      omega
  · exact .inr (.inl (by decide))
  · exact .inr (.inr (by decide))

theorem names_known : ∀ entry ∈ names, entry.2 = .tag ∨ entry.2.kind? ≠ none := by
  decide +kernel

theorem isUnknownName_of_ofName {name : List Char} {other : String} (hne : name ≠ [])
    (hchars : name.all isNameChar = true) (h : ofName (String.ofList name) = .unknown other) :
    IsUnknownName other := by
  unfold ofName at h
  rw [String.toList_ofList] at h
  dsimp only at h
  cases hfound : names.lookup (String.ofList (name.map Char.toLower)) with
  | some field =>
    rw [hfound, Option.getD_some] at h
    obtain ⟨before, after, hnames, -⟩ := List.lookup_eq_some_iff.1 hfound
    have hmem : (String.ofList (name.map Char.toLower), field) ∈ names := by simp [hnames]
    subst h
    rcases names_known _ hmem with htag | hkind
    · cases htag
    · exact absurd rfl hkind
  | none =>
    rw [hfound, Option.getD_none] at h
    cases h
    refine ⟨by simpa using hne, fun c hc => ?_, fun entry hentry heq => ?_⟩
    · rw [String.toList_ofList, List.mem_map] at hc
      obtain ⟨d, hd, rfl⟩ := hc
      exact toLower_of_isNameChar (List.all_eq_true.1 hchars d hd)
    · have hother := List.lookup_eq_none_iff.1 hfound entry hentry
      rw [heq] at hother
      simp at hother

end Field

/-! ## Filters -/

/-- The field admits the operator and the operand, and if it is unknown, its name is no field's. -/
structure Filter.IsWellTyped (f : Filter) : Prop where
  admits : f.field.Admits f.operator f.value
  name : ∀ name, f.field = .unknown name → Field.IsUnknownName name

theorem Filter.isWellTyped_of_ofTerm {term : String} {f : Filter} (h : ofTerm term = .ok f) :
    f.IsWellTyped := by
  unfold ofTerm at h
  dsimp only at h
  split at h
  · cases h
    exact ⟨.text (.inl rfl) Field.noConfusion, fun _ => Field.noConfusion⟩
  · next name value hsplit =>
    obtain ⟨-, hne, hchars, -⟩ := splitName?_eq_some_iff.1 hsplit
    generalize hfield : Field.ofName (String.ofList name) = field at h
    obtain ⟨⟨operator, operand⟩, hread, rfl⟩ := map_eq_ok_iff.1 h
    refine ⟨Field.admits_of_readOperand hread, ?_⟩
    rintro other rfl
    exact Field.isUnknownName_of_ofName hne hchars hfield

theorem Filter.takes_of_ofTerm {term : String} {f : Filter} (h : ofTerm term = .ok f) :
    f.field.Takes f.operator f.value :=
  (isWellTyped_of_ofTerm h).admits.takes

/-! ## Leaves -/

theorem exists_of_mem_mapM {α β ε : Type} {f : α → Except ε β} {xs : List α} {ys : List β}
    (h : xs.mapM f = .ok ys) : ∀ y ∈ ys, ∃ x, f x = .ok y := by
  have hall := mapM_eq_ok_iff.1 h
  induction hall with
  | nil => simp
  | @cons x y xs ys hx hxs ih =>
    rw [List.forall_mem_cons]
    exact ⟨⟨x, hx⟩, ih (mapM_eq_ok_iff.2 hxs)⟩

theorem isWellTyped_of_mem_leaves {query : String} {tree : Tree Filter}
    (h : parseQuery query = .ok tree) : ∀ f ∈ tree.leaves, f.IsWellTyped := by
  intro f hf
  have hread := map_leaves_parseQuery query
  rw [h] at hread
  obtain ⟨term, hterm⟩ := exists_of_mem_mapM hread.symm f hf
  exact Filter.isWellTyped_of_ofTerm hterm

/-- The filter that a requirement is read off. -/
def MatchRequirement.filter (r : MatchRequirement) : Filter :=
  ⟨.matchingTags, .integer r.threshold, .compare r.comparison, r.negated⟩

theorem Filter.IsWellTyped.map_matchRequirement? {f : Filter} (h : f.IsWellTyped) :
    f.matchRequirement?.map MatchRequirement.filter =
      Option.guard (fun f => f.field = .matchingTags ∧ f.operator ≠ .pattern) f := by
  by_cases hfield : f.field = .matchingTags
  · obtain ⟨field, value, operator, negated⟩ := f
    dsimp only at hfield
    subst hfield
    cases h.admits with
    | whole => rfl
    | pattern => rfl
    | real hfield => simp at hfield
    | date hfield => simp at hfield
    | text hkind => simp [Field.kind?] at hkind
  · have hnone : f.matchRequirement? = none := by
      rw [Option.eq_none_iff_forall_ne_some]
      rintro r hr
      rw [Filter.matchRequirement?_eq_some_iff.1 hr] at hfield
      exact hfield rfl
    simp [hnone, Option.guard, hfield]

/-- Every leaf of a parsed query is well-typed, and none compares by inequality.  The leaves on the
number of matching tags, the patterns left out, are one by one and in order the requirements of the
tree. -/
theorem leaves_are_well_typed {query : String} {tree : Tree Filter}
    (h : parseQuery query = .ok tree) :
    (∀ f ∈ tree.leaves, f.IsWellTyped ∧ f.operator ≠ .compare .ne) ∧
      tree.leaves.filter (fun f => f.field = .matchingTags ∧ f.operator ≠ .pattern) =
        tree.matchRequirements.map MatchRequirement.filter := by
  have hleaves := isWellTyped_of_mem_leaves h
  refine ⟨fun f hf => ⟨hleaves f hf, (hleaves f hf).admits.operator_ne⟩, ?_⟩
  rw [Tree.matchRequirements, List.map_filterMap,
    List.filterMap_congr fun f hf => (hleaves f hf).map_matchRequirement?, List.filterMap_eq_filter]

/-- A query with leaves of every shape, one of them a date with its time of day. -/
def shapesQuery : String :=
  "size:>1kb | ratio:1.5 uploaded:2023-11-14 8:05> matches:>1 -matches:*1 !matches:4< " ++
    "ext:png foo_X:a cat"

/-- The leaves of the query. -/
def shapesLeaves : List Filter := [
  ⟨.fileSize, .integer 1024, .compare .gt, false⟩,
  ⟨.aspectRatio, .real (.ofRatio false 3 2), .compare .eq, false⟩,
  ⟨.createdAt, .text "2023-11-14 08:05:00", .compare .lt, false⟩,
  ⟨.matchingTags, .integer 1, .compare .gt, false⟩,
  ⟨.matchingTags, .text "*1", .pattern, true⟩,
  ⟨.matchingTags, .integer 4, .compare .gt, true⟩,
  ⟨.fileType, .text ".png", .compare .eq, false⟩,
  ⟨.unknown "foo_x", .text "a", .compare .eq, false⟩,
  .tag "cat" false]

/-- Of the three leaves on the number of matching tags one is a pattern, and the others are the
requirements. -/
theorem leaves_are_well_typed_shapes :
    ∃ tree, parseQuery shapesQuery = .ok tree ∧ tree.leaves = shapesLeaves ∧
      (∀ f ∈ shapesLeaves, f.IsWellTyped ∧ f.operator ≠ .compare .ne) ∧
      tree.matchRequirements = [⟨.gt, 1, false⟩, ⟨.gt, 4, true⟩] ∧
      shapesLeaves.filter (fun f => f.field = .matchingTags ∧ f.operator ≠ .pattern) =
        tree.matchRequirements.map MatchRequirement.filter := by
  have hread : (parseQuery shapesQuery).map Tree.leaves = .ok shapesLeaves := by
    rw [map_leaves_parseQuery]
    decide +kernel
  obtain ⟨tree, htree, hleaves⟩ := map_eq_ok_iff.1 hread
  have hrequirements : tree.matchRequirements = [⟨.gt, 1, false⟩, ⟨.gt, 4, true⟩] := by
    rw [Tree.matchRequirements, hleaves]
    decide +kernel
  obtain ⟨htyped, hfilters⟩ := leaves_are_well_typed htree
  rw [hleaves] at htyped hfilters
  exact ⟨tree, htree, hleaves, htyped, hrequirements, hfilters⟩

end TagSearch

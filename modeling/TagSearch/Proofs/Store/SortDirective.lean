import Mathlib.Data.List.Forall2
import TagSearch.Proofs.Query.Scan
import TagSearch.Proofs.Query.Terms
import TagSearch.Proofs.Store.Ordering
import TagSearch.Proofs.Text.Joined
import TagSearch.Query.Directive

/-!
# Sort directives of known names

The value of a sort directive is a list of names, with the mark of a direction at one end of it and
quotation marks around both.  It is taken apart from outside to inside:

1. Quotation marks stand at the ends only, and all of them are taken off (`stripEnds_append`).
2. A mark is found where it stands, and no other mark is (`splitDirection_of_isMarked`): no mark ends
   another one, and no name ends in a mark or is the end of one (`aliases_unmarked`).
3. The names are cut at the separator between them (`splitOn_names`), and for each of them, whatever its
   letter case, the canonical name of its key is written (`NamesKey.canonicalName_eq`).

So the keys and the direction of a directive are read from it (`readSort_eq`).  An order is told by
canonical names (`sortKeys_names`), so every name of the directive becomes one term of the order
(`sort_directive_orders`).
-/

namespace TagSearch

open Text

/-! ## Marks of a direction -/

/-- The marks in front of the names. -/
def leadingMarks : List (List Char × Direction) := [(['>'], .descending), (['<'], .ascending)]

/-- The marks behind the names. -/
def trailingMarks : List (List Char × Direction) :=
  [(">", .ascending), ("<", .descending), ("-desc", .descending), ("_desc", .descending),
    ("-descending", .descending), ("_descending", .descending), ("-asc", .ascending),
    ("_asc", .ascending), ("-ascending", .ascending), ("_ascending", .ascending)].map
      fun (mark, direction) => (mark.toList, direction)

/-- A text with a mark of a direction at one end, or without one. -/
inductive IsMarked (cs : List Char) : List Char → Option Direction → Prop
  | unmarked : IsMarked cs cs none
  | leading {mark : List Char × Direction} (h : mark ∈ leadingMarks) :
      IsMarked cs (mark.1 ++ cs) (some mark.2)
  | trailing {mark : List Char × Direction} (h : mark ∈ trailingMarks) :
      IsMarked cs (cs ++ mark.1) (some mark.2)

/-- No mark stands at either end of the text. -/
structure IsUnmarked (cs : List Char) : Prop where
  leading : ∀ mark ∈ leadingMarks, ¬mark.1 <+: cs
  trailing : ∀ mark ∈ trailingMarks, ¬mark.1 <:+ cs

theorem mem_directionMarks {cs : List Char} {tried : Option (List Char) × Direction} :
    tried ∈ directionMarks cs ↔
      (∃ mark ∈ leadingMarks, tried = (mark.1.isPrefixOf? cs, mark.2)) ∨
        ∃ mark ∈ trailingMarks, tried = (mark.1.isSuffixOf? cs, mark.2) := by
  have htrailing : trailingMarks = (['>'], .ascending) :: (['<'], .descending) :: directionEndings := rfl
  have htried : directionMarks cs =
      [(['>'].isSuffixOf? cs, .ascending), (['>'].isPrefixOf? cs, .descending),
        (['<'].isSuffixOf? cs, .descending), (['<'].isPrefixOf? cs, .ascending)] ++
      directionEndings.map fun mark => (mark.1.isSuffixOf? cs, mark.2) := rfl
  have hendings : tried ∈ directionEndings.map (fun mark => (mark.1.isSuffixOf? cs, mark.2)) ↔
      ∃ mark ∈ directionEndings, tried = (mark.1.isSuffixOf? cs, mark.2) := by
    rw [List.mem_map]
    exact exists_congr fun mark => and_congr_right fun _ => eq_comm
  rw [htried, htrailing, leadingMarks, List.mem_append, hendings]
  simp only [List.mem_cons, List.not_mem_nil, or_false, exists_eq_or_imp, exists_eq_left]
  tauto

theorem leadingMarks_apart : ∀ mark ∈ leadingMarks, ∀ other ∈ leadingMarks,
    mark.1.length = 1 ∧ (mark.1 = other.1 → mark = other) := by decide

/-- No mark ends another one, and none begins with a mark but is longer. -/
theorem trailingMarks_apart : ∀ mark ∈ trailingMarks,
    (∀ other ∈ trailingMarks, mark.1 <:+ other.1 → mark = other) ∧
      ∀ other ∈ leadingMarks, other.1 <+: mark.1 → other.1 = mark.1 := by decide +kernel

section

variable {cs keys text : List Char} {direction : Option Direction} {mark : List Char × Direction}

theorem IsMarked.of_leading (h : IsMarked cs text direction) (hne : cs ≠ []) (hcs : IsUnmarked cs)
    (hmark : mark ∈ leadingMarks) (hkeys : mark.1 ++ keys = text) :
    keys = cs ∧ direction = some mark.2 := by
  cases h with
  | unmarked => exact absurd ⟨keys, hkeys⟩ (hcs.leading mark hmark)
  | @leading other hother =>
    have hlength : mark.1.length = other.1.length :=
      (leadingMarks_apart mark hmark other hother).1.trans
        (leadingMarks_apart other hother other hother).1.symm
    obtain ⟨hsame, hrest⟩ := List.append_inj hkeys hlength
    obtain rfl := (leadingMarks_apart mark hmark other hother).2 hsame
    exact ⟨hrest, rfl⟩
  | @trailing other hother =>
    have hone := (leadingMarks_apart mark hmark mark hmark).1
    have hlength : mark.1.length ≤ cs.length := by
      rw [hone]
      exact List.length_pos_iff.2 hne
    have hprefix : mark.1 <+: cs :=
      List.prefix_of_prefix_length_le ⟨keys, hkeys⟩ (List.prefix_append cs other.1) hlength
    exact absurd hprefix (hcs.leading mark hmark)

theorem IsMarked.of_trailing (h : IsMarked cs text direction) (hne : cs ≠ []) (hcs : IsUnmarked cs)
    (hmark : mark ∈ trailingMarks) (hkeys : keys ++ mark.1 = text) :
    keys = cs ∧ direction = some mark.2 := by
  cases h with
  | unmarked => exact absurd ⟨keys, hkeys⟩ (hcs.trailing mark hmark)
  | @leading other hother =>
    have hsuffix : mark.1 <:+ other.1 ++ cs := ⟨keys, hkeys⟩
    obtain ⟨glyph, hglyph⟩ := List.length_eq_one_iff.1 (leadingMarks_apart other hother other hother).1
    rw [hglyph, List.singleton_append, List.suffix_cons_iff] at hsuffix
    rcases hsuffix with hwhole | hsuffix
    · -- The mark would be the other one together with the text.
      have hprefix : other.1 <+: mark.1 := ⟨cs, by rw [hwhole, hglyph, List.singleton_append]⟩
      have hsame := (trailingMarks_apart mark hmark).2 other hother hprefix
      rw [← hsame, hglyph, List.cons.injEq] at hwhole
      exact absurd hwhole.2.symm hne
    · exact absurd hsuffix (hcs.trailing mark hmark)
  | @trailing other hother =>
    have hsame : mark = other := by
      rcases List.suffix_or_suffix_of_suffix ⟨keys, hkeys⟩ (List.suffix_append cs other.1) with h | h
      · exact (trailingMarks_apart mark hmark).1 other hother h
      · exact ((trailingMarks_apart other hother).1 mark hmark h).symm
    subst hsame
    exact ⟨List.append_cancel_right hkeys, rfl⟩

/-- A mark at one end of a text is taken off, and nothing else is. -/
theorem splitDirection_of_isMarked (h : IsMarked cs text direction) (hne : cs ≠ [])
    (hcs : IsUnmarked cs) : splitDirection text = (cs, direction) := by
  -- Whatever mark is found, it is the one that stands there.
  have hfound : ∀ tried ∈ directionMarks text, ∀ keys, tried.1 = some keys →
      keys = cs ∧ direction = some tried.2 := by
    intro tried htried keys hkeys
    rcases mem_directionMarks.1 htried with ⟨mark, hmark, rfl⟩ | ⟨mark, hmark, rfl⟩
    · exact h.of_leading hne hcs hmark (List.isPrefixOf?_eq_some_iff_append_eq.1 hkeys)
    · exact h.of_trailing hne hcs hmark (List.isSuffixOf?_eq_some_iff_append_eq.1 hkeys)
  have hsome : ∀ d, direction = some d → ∃ tried ∈ directionMarks text, tried.1 = some cs := by
    rintro d rfl
    cases h with
    | @leading mark hmark =>
      exact ⟨_, mem_directionMarks.2 (.inl ⟨mark, hmark, rfl⟩),
        List.isPrefixOf?_eq_some_iff_append_eq.2 rfl⟩
    | @trailing mark hmark =>
      exact ⟨_, mem_directionMarks.2 (.inr ⟨mark, hmark, rfl⟩),
        List.isSuffixOf?_eq_some_iff_append_eq.2 rfl⟩
  unfold splitDirection
  split
  · next keys d hfirst =>
    obtain ⟨tried, htried, hmap⟩ := List.exists_of_findSome?_eq_some hfirst
    obtain ⟨found, hkeys, hpair⟩ := Option.map_eq_some_iff.1 hmap
    cases hpair
    obtain ⟨rfl, rfl⟩ := hfound tried htried _ hkeys
    rfl
  · next hnone =>
    rw [List.findSome?_eq_none_iff] at hnone
    cases direction with
    | none =>
      cases h
      rfl
    | some d =>
      obtain ⟨tried, htried, hkeys⟩ := hsome d rfl
      have := hnone tried htried
      simp [hkeys] at this

end

/-! ## Names of keys -/

theorem toNat_of_isNameChar {c : Char} (h : isNameChar c = true) : c.toNat < 128 := by
  have hletter : ((decide (c.val ≥ 'A'.val ∧ c.val ≤ 'Z'.val) ||
      decide (c.val ≥ 'a'.val) && decide (c.val ≤ 'z'.val)) || c == '_' || c == '-') = true := h
  simp only [Bool.or_eq_true, Bool.and_eq_true, decide_eq_true_eq, beq_iff_eq] at hletter
  rcases hletter with ((⟨-, hupper⟩ | ⟨-, hlower⟩) | rfl) | rfl
  · exact Nat.lt_of_le_of_lt (UInt32.le_iff_toNat_le.1 hupper) (by decide)
  · exact Nat.lt_of_le_of_lt (UInt32.le_iff_toNat_le.1 hlower) (by decide)
  · decide
  · decide

theorem isWhite_of_isNameChar {c : Char} (h : isNameChar c = true) : isWhite c = false := by
  rw [Bool.eq_false_iff]
  intro hwhite
  have hchar := Scan.eq_false_of_isWhite (p := isNameChar) (by decide +kernel) hwhite
  rw [h] at hchar
  cases hchar

theorem ne_of_isNameChar {c d : Char} (hc : isNameChar c = true) (hd : isNameChar d = false) :
    c ≠ d := by
  rintro rfl
  rw [hc] at hd
  cases hd

/-- Lower case of ASCII letters does not depend on the text around them. -/
theorem lowercase_of_toNat_lt {cs : List Char} (h : ∀ c ∈ cs, c.toNat < 128) :
    lowercase cs = cs.map Char.toLower := by
  have hshift : ∀ n < 128, CaseShift.apply lowercaseShifts (Char.ofNat n) = (Char.ofNat n).toLower := by
    decide +kernel
  have hfrom : ∀ before, lowercaseFrom before cs = cs.map Char.toLower := by
    induction cs with
    | nil => exact fun _ => rfl
    | cons c cs ih =>
      intro before
      have hc := h c List.mem_cons_self
      have hdotted : c ≠ 'İ' := by
        rintro rfl
        exact absurd hc (by decide)
      have hsigma : c ≠ 'Σ' := by
        rintro rfl
        exact absurd hc (by decide)
      have hat : lowercaseAt before c cs = [c.toLower] := by
        have := hshift c.toNat hc
        rw [Char.ofNat_toNat] at this
        simp only [lowercaseAt, beq_iff_eq, hdotted, hsigma, if_false, this]
      rw [lowercaseFrom, hat, ih fun d hd => h d (List.mem_cons_of_mem _ hd)]
      rfl
  exact hfrom []

/-- A name that a sort directive may use for the key, in any letter case of ASCII. -/
def NamesKey (name : List Char) (key : SortKey) : Prop :=
  SortKey.ofAlias? (String.ofList (name.map Char.toLower)) = some key

instance (name : List Char) (key : SortKey) : Decidable (NamesKey name key) :=
  inferInstanceAs (Decidable (_ = _))

/-- Names are not empty and consist of letters, underscores and hyphens.  None of them ends in a mark of
a direction, and none is the end of one. -/
theorem aliases_unmarked : ∀ entry ∈ SortKey.aliases,
    entry.1.toList ≠ [] ∧ entry.1.toList.all isNameChar = true ∧
      ∀ mark ∈ trailingMarks, ¬mark.1 <:+ entry.1.toList ∧ ¬entry.1.toList <:+ mark.1 := by
  decide +kernel

theorem trailingMarks_lower : ∀ mark ∈ trailingMarks, mark.1.map Char.toLower = mark.1 := by
  decide +kernel

theorem leadingMarks_glyph : ∀ mark ∈ leadingMarks,
    ';' ∉ mark.1 ∧ ',' ∉ mark.1 ∧ mark.1.any isNameChar = false := by decide

namespace NamesKey

variable {name : List Char} {key : SortKey}

theorem exists_alias (h : NamesKey name key) :
    ∃ entry ∈ SortKey.aliases, entry.1.toList = name.map Char.toLower := by
  obtain ⟨before, after, haliases, -⟩ := List.lookup_eq_some_iff.1 h
  refine ⟨(String.ofList (name.map Char.toLower), key), ?_, String.toList_ofList⟩
  rw [haliases]
  exact List.mem_append_right _ List.mem_cons_self

theorem ne_nil (h : NamesKey name key) : name ≠ [] := by
  obtain ⟨entry, hentry, hname⟩ := h.exists_alias
  rintro rfl
  exact (aliases_unmarked entry hentry).1 hname

theorem isNameChar (h : NamesKey name key) : ∀ c ∈ name, isNameChar c = true := by
  obtain ⟨entry, hentry, hname⟩ := h.exists_alias
  intro c hc
  refine isNameChar_of_toLower (List.all_eq_true.1 (aliases_unmarked entry hentry).2.1 _ ?_)
  rw [hname]
  exact List.mem_map_of_mem hc

theorem apart (h : NamesKey name key) {mark : List Char × Direction} (hmark : mark ∈ trailingMarks) :
    ¬mark.1 <:+ name ∧ ¬name <:+ mark.1 := by
  -- Marks are in lower case, so an end of the name is one of its alias too.
  obtain ⟨entry, hentry, hname⟩ := h.exists_alias
  obtain ⟨hends, hended⟩ := (aliases_unmarked entry hentry).2.2 mark hmark
  rw [hname, ← trailingMarks_lower mark hmark] at hends hended
  exact ⟨fun hsuffix => hends (hsuffix.map _), fun hsuffix => hended (hsuffix.map _)⟩

theorem normalName_eq (h : NamesKey name key) : normalName name = name.map Char.toLower := by
  obtain ⟨entry, hentry, hname⟩ := h.exists_alias
  have hlower : lowercase name = name.map Char.toLower :=
    lowercase_of_toNat_lt fun c hc => toNat_of_isNameChar (h.isNameChar c hc)
  rw [normalName, hlower, ← hname]
  refine (List.map_congr_left fun c hc => ?_).trans (List.map_id _)
  have hchar := List.all_eq_true.1 (aliases_unmarked entry hentry).2.1 c hc
  have hspace := ne_of_isNameChar hchar (d := ' ') rfl
  rw [if_neg (by simpa using hspace), id_eq]

/-- Of each name the canonical name of its key is left. -/
theorem canonicalName_eq (h : NamesKey name key) (otherwise : List Char) :
    canonicalName (normalName name) otherwise = key.name.toList := by
  have hkey : SortKey.ofAlias? (String.ofList (normalName name)) = some key := by
    rw [h.normalName_eq]
    exact h
  rw [canonicalName, hkey]

end NamesKey

/-! ## Lists of names -/

section

variable {names : List (List Char)} {keys : List SortKey} {separator : Char}

theorem canonicalNames_eq (hnames : List.Forall₂ NamesKey names keys) :
    ((names.map trim).map fun part => canonicalName (normalName part) part) =
      keys.map fun key => key.name.toList := by
  induction hnames with
  | nil => rfl
  | cons hname _ ih =>
    have htrim := trim_eq_self fun c hc => isWhite_of_isNameChar (hname.isNameChar c hc)
    rw [List.map_cons, List.map_cons, List.map_cons, ih, htrim, hname.canonicalName_eq]

theorem exists_key_of_mem (hnames : List.Forall₂ NamesKey names keys) {name : List Char}
    (hname : name ∈ names) : ∃ key, NamesKey name key := by
  induction hnames with
  | nil => cases hname
  | cons hkey _ ih =>
    rcases List.mem_cons.1 hname with rfl | hrest
    · exact ⟨_, hkey⟩
    · exact ih hrest

theorem eq_or_isNameChar_of_mem (hnames : List.Forall₂ NamesKey names keys) {c : Char}
    (hc : c ∈ [separator].intercalate names) : c = separator ∨ isNameChar c = true := by
  rcases mem_of_mem_intercalate hc with hseparator | ⟨name, hname, hc⟩
  · exact .inl (List.mem_singleton.1 hseparator)
  · obtain ⟨key, hkey⟩ := exists_key_of_mem hnames hname
    exact .inr (hkey.isNameChar c hc)

theorem exists_suffix (separator : Char) (hnames : List.Forall₂ NamesKey names keys)
    (hne : names ≠ []) :
    ∃ name key, NamesKey name key ∧ name <:+ [separator].intercalate names := by
  obtain ⟨key, hkey⟩ := exists_key_of_mem hnames (List.getLast_mem hne)
  exact ⟨_, key, hkey, suffix_intercalate (List.getLast?_eq_getLast_of_ne_nil hne)⟩

theorem intercalate_ne_nil (separator : Char) (hnames : List.Forall₂ NamesKey names keys)
    (hne : names ≠ []) : [separator].intercalate names ≠ [] := by
  obtain ⟨name, key, hkey, hsuffix⟩ := exists_suffix separator hnames hne
  intro hnil
  rw [hnil] at hsuffix
  exact hkey.ne_nil (List.suffix_nil.1 hsuffix)

theorem isUnmarked_intercalate (hnames : List.Forall₂ NamesKey names keys) (hne : names ≠ [])
    (hseparator : separator = ';' ∨ separator = ',') :
    IsUnmarked ([separator].intercalate names) where
  leading := by
    intro mark hmark hstarts
    obtain ⟨glyph, hglyph⟩ := List.length_eq_one_iff.1 (leadingMarks_apart mark hmark mark hmark).1
    obtain ⟨hsemicolon, hcomma, hchar⟩ := leadingMarks_glyph mark hmark
    rw [hglyph] at hstarts hsemicolon hcomma hchar
    rcases eq_or_isNameChar_of_mem hnames (hstarts.subset List.mem_cons_self) with rfl | h
    · rcases hseparator with rfl | rfl
      · exact hsemicolon List.mem_cons_self
      · exact hcomma List.mem_cons_self
    · exact List.any_eq_false.1 hchar glyph List.mem_cons_self h
  trailing := by
    intro mark hmark hends
    obtain ⟨name, key, hkey, hsuffix⟩ := exists_suffix separator hnames hne
    obtain ⟨hname, hended⟩ := hkey.apart hmark
    exact (List.suffix_or_suffix_of_suffix hends hsuffix).elim hname hended

theorem marks_unquoted : ∀ mark ∈ leadingMarks ++ trailingMarks, mark.1.any isQuote = false := by
  decide +kernel

theorem isQuote_of_isNameChar {c : Char} (h : isNameChar c = true) : isQuote c = false := by
  have hdouble := ne_of_isNameChar h (d := '"') rfl
  have hsingle := ne_of_isNameChar h (d := '\x27') rfl
  rw [isQuote, beq_false_of_ne hdouble, beq_false_of_ne hsingle, Bool.or_false]

theorem isQuote_of_mem (hnames : List.Forall₂ NamesKey names keys)
    (hseparator : separator = ';' ∨ separator = ',') {text : List Char} {direction : Option Direction}
    (hmarked : IsMarked ([separator].intercalate names) text direction) {c : Char} (hc : c ∈ text) :
    isQuote c = false := by
  have hmark {mark : List Char × Direction} (h : mark ∈ leadingMarks ++ trailingMarks)
      (hc : c ∈ mark.1) : isQuote c = false :=
    eq_false_of_ne_true (List.any_eq_false.1 (marks_unquoted mark h) c hc)
  have hlist : ∀ d ∈ [separator].intercalate names, isQuote d = false := by
    intro d hd
    rcases eq_or_isNameChar_of_mem hnames hd with rfl | h
    · rcases hseparator with rfl | rfl <;> rfl
    · exact isQuote_of_isNameChar h
  cases hmarked with
  | unmarked => exact hlist c hc
  | leading h =>
    rcases List.mem_append.1 hc with hc | hc
    · exact hmark (List.mem_append_left _ h) hc
    · exact hlist c hc
  | trailing h =>
    rcases List.mem_append.1 hc with hc | hc
    · exact hlist c hc
    · exact hmark (List.mem_append_right _ h) hc

theorem contains_intercalate (separator : Char) (hnames : List.Forall₂ NamesKey names keys)
    {c : Char} (hc : isNameChar c = false) :
    ([separator].intercalate names).contains c = decide (c = separator ∧ 2 ≤ names.length) := by
  rw [Bool.eq_iff_iff, List.contains_iff_mem, decide_eq_true_iff]
  constructor
  · intro hmem
    rcases eq_or_isNameChar_of_mem hnames hmem with rfl | hchar
    · refine ⟨rfl, ?_⟩
      by_contra hshort
      match names, hnames with
      | [], _ => cases hmem
      | [name], .cons hname _ =>
        rw [List.intercalate_singleton] at hmem
        exact ne_of_isNameChar (hname.isNameChar c hmem) hc rfl
      | _ :: _ :: _, _ => exact hshort (by simp)
    · rw [hc] at hchar
      cases hchar
  · rintro ⟨rfl, hlong⟩
    match names, hlong with
    | first :: second :: names, _ =>
      rw [List.intercalate_cons_cons]
      simp

/-- The names of a list are cut at the separator. -/
theorem splitOn_names (hnames : List.Forall₂ NamesKey names keys) (hne : names ≠ [])
    (hseparator : isNameChar separator = false) :
    ([separator].intercalate names).splitOn separator = names := by
  refine List.splitOn_intercalate separator (fun name hname hmem => ?_) hne
  obtain ⟨key, hkey⟩ := exists_key_of_mem hnames hname
  exact ne_of_isNameChar (hkey.isNameChar separator hmem) hseparator rfl

/-- The keys of the names and the marked direction are read from a sort directive. -/
theorem readSort_eq (hnames : List.Forall₂ NamesKey names keys) (hne : names ≠ [])
    (hseparator : separator = ';' ∨ separator = ',') {text opening closing : List Char}
    {direction : Option Direction}
    (hmarked : IsMarked ([separator].intercalate names) text direction)
    (hopening : ∀ c ∈ opening, isQuote c = true) (hclosing : ∀ c ∈ closing, isQuote c = true) :
    readSort (opening ++ text ++ closing) =
      (some (",".intercalate (keys.map SortKey.name)), direction) := by
  have hnil := intercalate_ne_nil separator hnames hne
  have htext : text ≠ [] := by
    cases hmarked <;> simp [hnil]
  have hstrip := stripEnds_append hopening hclosing
    (fun c hc => isQuote_of_mem hnames hseparator hmarked hc) htext
  have hsplit := splitDirection_of_isMarked hmarked hnil (isUnmarked_intercalate hnames hne hseparator)
  have hsemicolon := contains_intercalate separator hnames (c := ';') rfl
  have hcomma := contains_intercalate separator hnames (c := ',') rfl
  simp only [readSort, hstrip, hsplit, hsemicolon, hcomma]
  -- Only a list of two names or more has a separator; a single name is looked up as it is.
  by_cases hlong : 2 ≤ names.length
  · have hchosen : (if decide (';' = separator ∧ 2 ≤ names.length) = true then ';' else ',') =
        separator := by
      rcases hseparator with rfl | rfl <;> simp [hlong]
    have hchar : isNameChar separator = false := by
      rcases hseparator with rfl | rfl <;> rfl
    have hany : (decide (';' = separator ∧ 2 ≤ names.length) ||
        decide (',' = separator ∧ 2 ≤ names.length)) = true := by
      rcases hseparator with rfl | rfl <;> simp [hlong]
    rw [if_pos hany, hchosen, splitOn_names hnames hne hchar, canonicalNames_eq hnames,
      ← toList_intercalate_names, String.ofList_toList]
  · match names, hnames with
    | [], _ => exact absurd rfl hne
    | [name], .cons hname .nil =>
      have hlower : (normalName name).isEmpty = false := by
        rw [hname.normalName_eq]
        simpa using hname.ne_nil
      simp [hname.canonicalName_eq, hlower]
    | _ :: _ :: _, _ => exact absurd (by simp) hlong

end

/-! ## The order -/

theorem orderTerm_eq (direction : Direction) (key : SortKey) :
    orderTerm direction key =
      if key = .random then "RANDOM()" else key.sql ++ " " ++ direction.sql := by
  cases key <;> rfl

/-- **Directives of known names.**  The names of a sort directive, in any letter case, with either
separator between them, any quotation marks around them and any mark of a direction, or none, at one end,
are read as their keys in the same order, and every one of them is a term of the order of matches. -/
theorem sort_directive_orders {names : List (List Char)} {keys : List SortKey}
    (hnames : List.Forall₂ NamesKey names keys) (hne : names ≠ []) {separator : Char}
    (hseparator : separator = ';' ∨ separator = ',') {text opening closing : List Char}
    {direction : Option Direction}
    (hmarked : IsMarked ([separator].intercalate names) text direction)
    (hopening : ∀ c ∈ opening, isQuote c = true) (hclosing : ∀ c ∈ closing, isQuote c = true) :
    readSort (opening ++ text ++ closing) =
        (some (",".intercalate (keys.map SortKey.name)), direction) ∧
      ∀ d, orderClause (",".intercalate (keys.map SortKey.name)) d =
        ", ".intercalate (keys.map fun key =>
          if key = .random then "RANDOM()" else key.sql ++ " " ++ d.sql) := by
  have hkeys : keys ≠ [] := by
    rintro rfl
    exact hne (List.forall₂_nil_right_iff.1 hnames)
  refine ⟨readSort_eq hnames hne hseparator hmarked hopening hclosing, fun d => ?_⟩
  rw [orderClause, sortKeys_names hkeys]
  exact congrArg _ (List.map_congr_left fun key _ => orderTerm_eq d key)

/-- The names of three keys. -/
def sortNames : List (List Char) := ["Size", "download-date", "RANDOM"].map String.toList

theorem sort_directive_orders_sortNames :
    List.Forall₂ NamesKey sortNames [.fileSize, .downloadedAt, .random] ∧
      IsMarked ([';'].intercalate sortNames) ">Size;download-date;RANDOM".toList (some .descending) ∧
      readSort "\">Size;download-date;RANDOM\"".toList =
        (some "file_size,downloaded_at,random", some .descending) ∧
      orderClause "file_size,downloaded_at,random" .descending =
        "file_size DESC, downloaded_at DESC, RANDOM()" := by
  have hnames : List.Forall₂ NamesKey sortNames [.fileSize, .downloadedAt, .random] :=
    .cons (by decide) (.cons (by decide) (.cons (by decide) .nil))
  have hmarked : IsMarked ([';'].intercalate sortNames) ">Size;download-date;RANDOM".toList
      (some .descending) := .leading (show (['>'], .descending) ∈ leadingMarks by decide)
  have hquotes : ∀ c ∈ ['"'], isQuote c = true := List.forall_mem_singleton.2 rfl
  obtain ⟨hread, horder⟩ :=
    sort_directive_orders hnames (by decide) (.inl rfl) hmarked hquotes hquotes
  exact ⟨hnames, hmarked, hread, (horder .descending).trans (by decide)⟩

end TagSearch

import Mathlib.Data.List.TakeWhile
import TagSearch.Proofs.Query.Leaves

/-!
# Scanning conserves the text of a query

Every character of a query that is not white space is read once: as a mark, which becomes a token of its
own, or as a part of a term.  The scan keeps characters of a term back until the term ends, so what it
conserves at any point is the text of the terms that have ended together with the pending text
(`Reading.text`, `text_run`).

`Token.ofQuery_conserves_text`: without white space a query is the text of its terms and the characters
of its marks, interleaved.
-/

namespace TagSearch

open Text

/-! ## Interleaved texts -/

/-- The third list is made of the first two, each of them in its order. -/
inductive Interleaves {α : Type} : List α → List α → List α → Prop where
  | nil : Interleaves [] [] []
  | left {x : α} {xs ys zs : List α} (h : Interleaves xs ys zs) : Interleaves (x :: xs) ys (x :: zs)
  | right {y : α} {xs ys zs : List α} (h : Interleaves xs ys zs) : Interleaves xs (y :: ys) (y :: zs)

theorem Interleaves.filter {α : Type} {xs ys zs : List α} (h : Interleaves xs ys zs) (p : α → Bool) :
    Interleaves (xs.filter p) (ys.filter p) (zs.filter p) := by
  induction h with
  | nil => exact .nil
  | left _ ih =>
    rw [List.filter_cons, List.filter_cons]
    split
    · exact ih.left
    · exact ih
  | right _ ih =>
    rw [List.filter_cons, List.filter_cons]
    split
    · exact ih.right
    · exact ih

/-- The characters that are no white space. -/
def solid (cs : List Char) : List Char := cs.filter fun c => !isWhite c

@[simp] theorem solid_append (as bs : List Char) : solid (as ++ bs) = solid as ++ solid bs :=
  List.filter_append ..

theorem solid_eq_nil {cs : List Char} (h : ∀ c ∈ cs, isWhite c = true) : solid cs = [] := by
  unfold solid
  rw [List.filter_eq_nil_iff]
  intro c hc
  simp [h c hc]

theorem solid_dropWhile (cs : List Char) : solid (cs.dropWhile isWhite) = solid cs := by
  have hsplit := List.takeWhile_append_dropWhile (p := isWhite) (l := cs)
  have htaken : solid (cs.takeWhile isWhite) = [] :=
    solid_eq_nil fun c hc => List.mem_takeWhile_imp hc
  rw [← List.nil_append (solid (cs.dropWhile isWhite)), ← htaken, ← solid_append, hsplit]

@[simp] theorem solid_trim (cs : List Char) : solid (trim cs) = solid cs := by
  have hreverse (ds : List Char) : solid ds.reverse = (solid ds).reverse := List.filter_reverse ..
  rw [trim, stripEnds, dropEndWhile, hreverse, solid_dropWhile, hreverse, List.reverse_reverse,
    solid_dropWhile]

theorem trim_eq_nil_of_solid {cs : List Char} (h : solid cs = []) : trim cs = [] := by
  rw [trim_eq_nil_iff]
  intro c hc
  have hwhite := List.filter_eq_nil_iff.1 h c hc
  simpa using hwhite

/-! ## Marks -/

namespace Token

/-- The token is a mark and no term. -/
def isMark : Token → Bool
  | .term _ => false
  | _ => true

/-- The characters that are read as a mark; no character is read as a term. -/
def IsReadFrom : Token → Char → Prop
  | .groupStart, c => c = '('
  | .groupEnd, c => c = ')'
  | .separator, c => c = '|' ∨ c = '~' ∨ c = ','
  | .term _, _ => False

theorem IsReadFrom.isWhite {t : Token} {c : Char} (h : t.IsReadFrom c) : isWhite c = false := by
  cases t with
  | groupStart => rw [show c = '(' from h]; decide
  | groupEnd => rw [show c = ')' from h]; decide
  | separator => rcases h with rfl | rfl | rfl <;> decide
  | term text => cases h

theorem IsReadFrom.isMark {t : Token} {c : Char} (h : t.IsReadFrom c) : t.isMark = true := by
  cases t with
  | term text => cases h
  | _ => rfl

theorem solid_of_isReadFrom {ts : List Token} {cs : List Char}
    (h : List.Forall₂ IsReadFrom ts cs) : solid cs = cs := by
  induction h with
  | nil => rfl
  | cons hc _ ih =>
    unfold solid at ih ⊢
    rw [List.filter_cons_of_pos (by simp [hc.isWhite]), ih]

/-- The texts of the terms one behind the other. -/
def termText (ts : List Token) : List Char := (texts ts).flatMap String.toList

@[simp] theorem termText_append (ts us : List Token) :
    termText (ts ++ us) = termText ts ++ termText us := by
  rw [termText, texts_append, List.flatMap_append]
  rfl

theorem termText_term (text : String) (ts : List Token) :
    termText (.term text :: ts) = text.toList ++ termText ts :=
  List.flatMap_cons

theorem termText_cons_of_isMark {t : Token} (h : t.isMark = true) (ts : List Token) :
    termText (t :: ts) = termText ts := by
  cases t with
  | term text => cases h
  | _ => rfl

end Token

/-- The characters of a text that are marked as read as marks. -/
def marksOf (xs : List (Char × Bool)) : List Char := (xs.filter (·.2)).map (·.1)

/-- The characters of a text that are not. -/
def unmarkedOf (xs : List (Char × Bool)) : List Char := (xs.filter (!·.2)).map (·.1)

@[simp] theorem marksOf_append (xs ys : List (Char × Bool)) :
    marksOf (xs ++ ys) = marksOf xs ++ marksOf ys := by
  rw [marksOf, List.filter_append, List.map_append]
  rfl

@[simp] theorem unmarkedOf_append (xs ys : List (Char × Bool)) :
    unmarkedOf (xs ++ ys) = unmarkedOf xs ++ unmarkedOf ys := by
  rw [unmarkedOf, List.filter_append, List.map_append]
  rfl

theorem interleaves_marksOf (xs : List (Char × Bool)) :
    Interleaves (unmarkedOf xs) (marksOf xs) (xs.map Prod.fst) := by
  induction xs with
  | nil => exact .nil
  | cons x xs ih =>
    obtain ⟨c, mark⟩ := x
    cases mark with
    | false => exact ih.left
    | true => exact ih.right

namespace Scan

/-- The characters of a text, each with whether it is read as a mark; `rest` stands behind them. -/
def marking (s : Scan) (rest : List Char) : List Char → List (Char × Bool)
  | [] => []
  | c :: cs =>
    let (found, s) := s.step c (cs ++ rest)
    (c, found.any Token.isMark) :: s.marking rest cs

theorem map_fst_marking (s : Scan) (rest cs : List Char) :
    (s.marking rest cs).map Prod.fst = cs := by
  induction cs generalizing s with
  | nil => rfl
  | cons c cs ih => rw [marking, List.map_cons, ih]

theorem marking_append (s : Scan) (rest as bs : List Char) :
    s.marking rest (as ++ bs) =
      s.marking (bs ++ rest) as ++ (s.run (bs ++ rest) as).2.marking rest bs := by
  induction as generalizing s with
  | nil => rfl
  | cons a as ih =>
    simp only [List.cons_append, marking, run, ih, List.append_assoc]

/-! ## One character -/

section

variable (s : Scan)

theorem filter_isMark_flush : s.flush.1.filter Token.isMark = [] := by
  rcases s.flush_eq with ⟨h, -⟩ | ⟨h, -⟩ <;> rw [h] <;> rfl

@[simp] theorem any_isMark_flush : s.flush.1.any Token.isMark = false := by
  rcases s.flush_eq with ⟨h, -⟩ | ⟨h, -⟩ <;> rw [h] <;> rfl

theorem solid_flush :
    solid (Token.termText s.flush.1) ++ solid s.flush.2.pending = solid s.pending := by
  rcases s.flush_eq with ⟨h, ht⟩ | ⟨h, -⟩ <;> rw [h]
  · rfl
  · have htext : Token.termText [.term (String.ofList (trim s.pending))] = trim s.pending := by
      simp [Token.termText, Token.texts]
    rw [htext, solid_trim]
    exact List.append_nil _

theorem solid_pending_flush : solid s.flush.2.pending = [] := by
  rw [← solid_trim, trim_pending_flush]
  rfl

end

section

variable {s s' : Scan} {c : Char} {rest : List Char} {ts : List Token}

theorem Reading.marks (h : Reading s c rest ts s') :
    List.Forall₂ Token.IsReadFrom (ts.filter Token.isMark) (marksOf [(c, ts.any Token.isMark)]) := by
  have hmark {t : Token} (ht : t.isMark = true) (hc : t.IsReadFrom c) :
      List.Forall₂ Token.IsReadFrom ((s.flush.1 ++ [t]).filter Token.isMark)
        (marksOf [(c, (s.flush.1 ++ [t]).any Token.isMark)]) := by
    rw [List.filter_append, filter_isMark_flush, List.any_append, any_isMark_flush]
    simpa [ht, marksOf] using hc
  cases h with
  | keep => exact .nil
  | blank => exact .nil
  | space =>
    rw [filter_isMark_flush, any_isMark_flush]
    exact .nil
  | separator mark => exact hmark rfl (mark.imp_right And.left)
  | start mark => exact hmark rfl mark
  | startInside mark => exact .cons mark .nil
  | finish mark => exact hmark rfl mark

/-- The text of the terms that have ended and the pending text are conserved, and a character that is
read as no mark comes behind them. -/
theorem Reading.text (h : Reading s c rest ts s') :
    solid s.pending ++ solid (unmarkedOf [(c, ts.any Token.isMark)]) =
      solid (Token.termText ts) ++ solid s'.pending := by
  have hspace : solid [' '] = [] := by decide
  have hmark {t : Token} (ht : t.isMark = true) :
      solid s.pending ++ solid (unmarkedOf [(c, (s.flush.1 ++ [t]).any Token.isMark)]) =
        solid (Token.termText (s.flush.1 ++ [t])) ++ solid s.flush.2.pending := by
    have hnone : Token.termText [t] = [] := Token.termText_cons_of_isMark ht []
    rw [List.any_append, any_isMark_flush, Token.termText_append, hnone, List.append_nil, solid_flush]
    simp [ht, unmarkedOf, solid]
  cases h with
  | keep => simp [unmarkedOf, Token.termText, Token.texts, solid]
  | blank space =>
    rw [space]
    show solid s.pending ++ solid [' '] = solid s.pending
    rw [hspace, List.append_nil]
  | space space =>
    rw [space, any_isMark_flush, solid_flush]
    show solid s.pending ++ solid [' '] = solid s.pending
    rw [hspace, List.append_nil]
  | separator => exact hmark rfl
  | start => exact hmark rfl
  | startInside => simp [unmarkedOf, Token.termText, Token.texts, Token.isMark, solid]
  | finish => exact hmark rfl

end

/-! ## Many characters -/

theorem marks_run (s : Scan) (rest cs : List Char) :
    List.Forall₂ Token.IsReadFrom ((s.run rest cs).1.filter Token.isMark)
      (marksOf (s.marking rest cs)) := by
  induction cs generalizing s with
  | nil => exact .nil
  | cons c cs ih =>
    simp only [run, marking]
    rw [List.filter_append, ← List.singleton_append, marksOf_append]
    exact List.rel_append (s.reading c (cs ++ rest)).marks (ih _)

theorem text_run (s : Scan) (rest cs : List Char) :
    solid s.pending ++ solid (unmarkedOf (s.marking rest cs)) =
      solid (Token.termText (s.run rest cs).1) ++ solid (s.run rest cs).2.pending := by
  induction cs generalizing s with
  | nil => exact List.append_nil _
  | cons c cs ih =>
    have hstep := (s.reading c (cs ++ rest)).text
    simp only [run, marking]
    rw [← List.singleton_append, unmarkedOf_append, Token.termText_append, solid_append, solid_append,
      ← List.append_assoc, hstep, List.append_assoc, List.append_assoc, ih]

end Scan

namespace Token

/-- The characters of a query, each with whether it is read as a mark. -/
def markingOf (query : String) : List (Char × Bool) := Scan.start.marking [] query.toList

theorem ofQuery_eq (query : String) :
    ofQuery query = (Scan.start.run [] query.toList).1 ++
      (Scan.start.run [] query.toList).2.flush.1 := by
  have := Scan.start.tokens_append query.toList []
  rwa [List.append_nil] at this

/-- The characters of a query that are no white space are the text of its terms and the characters that
are read as its marks, interleaved: a separator is read from any of its three characters, and what is
read as a mark is in no term. -/
theorem ofQuery_conserves_text (query : String) :
    Interleaves (solid (termText (ofQuery query))) (marksOf (markingOf query)) (solid query.toList) ∧
      List.Forall₂ IsReadFrom ((ofQuery query).filter isMark) (marksOf (markingOf query)) ∧
      solid (termText (ofQuery query)) = solid (unmarkedOf (markingOf query)) := by
  have hmarks : List.Forall₂ IsReadFrom ((ofQuery query).filter isMark)
      (marksOf (markingOf query)) := by
    rw [ofQuery_eq, List.filter_append, Scan.filter_isMark_flush, List.append_nil]
    exact Scan.start.marks_run [] query.toList
  have htext : solid (termText (ofQuery query)) = solid (unmarkedOf (markingOf query)) := by
    have hend := (Scan.start.run [] query.toList).2.solid_flush
    rw [Scan.solid_pending_flush, List.append_nil] at hend
    rw [ofQuery_eq, termText_append, solid_append, hend, ← Scan.text_run]
    rfl
  have hinterleaves := (interleaves_marksOf (markingOf query)).filter fun c => !isWhite c
  refine ⟨?_, hmarks, htext⟩
  rw [htext, ← solid_of_isReadFrom hmarks]
  rwa [markingOf, Scan.map_fst_marking] at hinterleaves

end Token

end TagSearch

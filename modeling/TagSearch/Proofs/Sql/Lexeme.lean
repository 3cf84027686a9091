import TagSearch.Predicate.Condition

/-!
# Lexemes of SQL

A text of SQL is read from the left: a run of letters, digits and underscores is a word or a number,
letter case not counting in words; a text stands between apostrophes, with two of them for one; and
each question mark takes the next parameter.

Texts are put together from parts.  `Lexes` says what a part gives wherever it stands in front of
something that does not continue a word, and `Opens` says it of a part that ends in no word, so that
anything may stand behind it.  A part without parameters is read once and for all by `readPart`.
-/

namespace TagSearch.Sql

/-- A word with a meaning of its own. -/
inductive Keyword where
  | and
  | or
  | not
  | like
  | is
  | null
  | cast
  | as
  | real
  | text
  | length
  | lower
  | date
  | replace
deriving DecidableEq

/-- A lexeme.  A question mark stands for the parameter that it has taken. -/
inductive Lexeme where
  | keyword (k : Keyword)
  | column (c : Column)
  /-- Any other word, in lower case. -/
  | name (s : String)
  | number (n : Nat)
  | text (s : String)
  | parameter (v : Value)
  | opening
  | closing
  | comma
  | comparison (c : Comparison)
  | plus
  | minus
  | slash
deriving DecidableEq

/-- The words that are keywords. -/
def keywords : List (String × Keyword) := [
  ("and", .and), ("or", .or), ("not", .not), ("like", .like), ("is", .is), ("null", .null),
  ("cast", .cast), ("as", .as), ("real", .real), ("text", .text), ("length", .length),
  ("lower", .lower), ("date", .date), ("replace", .replace)]

/-- The columns of the table of posts. -/
def columns : List Column := [
  .postId, .status, .title, .owner, .score, .rating, .width, .height, .fileType, .tags, .dateFolder,
  .timestamp, .filePath, .downloadedAt, .createdAt, .fileSize, .duration]

/-- The lexeme of a word in lower case. -/
def wordLexeme (word : String) : Lexeme :=
  match keywords.lookup word, columns.find? (·.name == word) with
  | some k, _ => .keyword k
  | none, some c => .column c
  | none, none => .name word

/-- A character of a word or a number. -/
def isWordChar (c : Char) : Bool := c.isAlphanum || c == '_'

/-- What a run of word characters is; no characters are no lexeme. -/
def endWord (cs : List Char) : List Lexeme :=
  if cs.isEmpty then []
  else if cs.all Char.isDigit then [.number (Text.digitsValue cs)]
  else [wordLexeme (String.ofList (cs.map Char.toLower))]

/-- What a reader is in the middle of. -/
inductive Mode where
  /-- A word, or nothing if the word is empty. -/
  | word (cs : List Char)
  /-- A text between apostrophes. -/
  | text (cs : List Char)
  /-- An apostrophe behind a text, which ends the text unless another one follows. -/
  | apostrophe (cs : List Char)
  /-- A sign that goes together with an equals sign behind it. -/
  | sign (c : Char)

namespace Mode

/-- The lexemes of what is being read, if it may end here. -/
def finish : Mode → Option (List Lexeme)
  | word cs => some (endWord cs)
  | text _ => none
  | apostrophe cs => some [.text (String.ofList cs)]
  | sign '<' => some [.comparison .lt]
  | sign '>' => some [.comparison .gt]
  | sign _ => none

/-- The comparison of a sign and an equals sign. -/
def withEquals : Char → Comparison
  | '<' => .le
  | '>' => .ge
  | _ => .ne

/-- What a character makes of what is being read, if it continues it. -/
def continue? : Mode → Char → Option (List Lexeme × Mode)
  | word cs, c => if isWordChar c then some ([], word (cs ++ [c])) else none
  | text cs, c => some ([], if c = '\x27' then apostrophe cs else text (cs ++ [c]))
  | apostrophe cs, c => if c = '\x27' then some ([], text (cs ++ [c])) else none
  | sign d, c => if c = '=' then some ([.comparison (withEquals d)], word []) else none

end Mode

/-- The lexeme that a character is by itself. -/
def signLexeme? : Char → Option Lexeme
  | '(' => some .opening
  | ')' => some .closing
  | ',' => some .comma
  | '=' => some (.comparison .eq)
  | '+' => some .plus
  | '-' => some .minus
  | '/' => some .slash
  | _ => none

/-- What a character begins, and the parameters that remain. -/
def begin? (c : Char) (params : List Value) : Option (List Lexeme × Mode × List Value) :=
  if isWordChar c then some ([], .word [c], params)
  else if Text.isAsciiBlank c then some ([], .word [], params)
  else if c = '\x27' then some ([], .text [], params)
  else if c = '<' ∨ c = '>' ∨ c = '!' then some ([], .sign c, params)
  else if c = '?' then
    match params with
    | [] => none
    | v :: params => some ([.parameter v], .word [], params)
  else
    match signLexeme? c with
    | some sign => some ([sign], .word [], params)
    | none => none

/-- The lexemes that a character ends or is, what is being read behind it, and the parameters that
remain. -/
def step? (m : Mode) (c : Char) (params : List Value) :
    Option (List Lexeme × Mode × List Value) :=
  match m.continue? c with
  | some (ls, m) => some (ls, m, params)
  | none =>
    match m.finish, begin? c params with
    | some before, some (ls, m, params) => some (before ++ ls, m, params)
    | _, _ => none

/-- The lexemes of a text behind what is being read; every parameter must be taken. -/
def lexFrom (m : Mode) : List Char → List Value → Option (List Lexeme)
  | [], params => if params.isEmpty then m.finish else none
  | c :: rest, params =>
    match step? m c params with
    | some (ls, m, params) => (lexFrom m rest params).map (ls ++ ·)
    | none => none

/-- The lexemes of a text whose question marks take the parameters from left to right. -/
def lex (cs : List Char) (params : List Value) : Option (List Lexeme) :=
  lexFrom (.word []) cs params

/-! ## Parts of a text -/

/-- What stands here does not continue a word. -/
def Sealed (cs : List Char) : Prop := cs.head?.all (fun c => !isWordChar c) = true

/-- A part gives its lexemes in front of anything. -/
def Opens (cs : List Char) (ls : List Lexeme) : Prop :=
  ∀ rest params, lex (cs ++ rest) params = (lex rest params).map (ls ++ ·)

/-- A part takes its parameters and gives its lexemes in front of anything that does not continue a
word. -/
def Lexes (cs : List Char) (params : List Value) (ls : List Lexeme) : Prop :=
  ∀ rest more, Sealed rest → lex (cs ++ rest) (params ++ more) = (lex rest more).map (ls ++ ·)

theorem Sealed.append {cs rest : List Char} (hc : Sealed cs) (hr : Sealed rest) :
    Sealed (cs ++ rest) := by
  cases cs with
  | nil => exact hr
  | cons c cs => exact hc

theorem lexFrom_word {word rest : List Char} {params : List Value} (h : Sealed rest) :
    lexFrom (.word word) rest params = (lex rest params).map (endWord word ++ ·) := by
  cases rest with
  | nil =>
    unfold lex lexFrom
    cases params <;> simp [Mode.finish, endWord]
  | cons c rest =>
    -- What ends the word begins whatever it would begin behind nothing.
    have hc : isWordChar c = false := by simpa [Sealed] using h
    unfold lex lexFrom step?
    simp only [Mode.continue?, hc, Bool.false_eq_true, if_false, Mode.finish]
    cases begin? c params with
    | none => rfl
    | some found =>
      simp only [Option.map_map]
      congr 1
      funext ls
      simp [endWord]

theorem Opens.lexes {a b : List Char} {params : List Value} {la lb : List Lexeme} (ha : Opens a la)
    (hb : Lexes b params lb) : Lexes (a ++ b) params (la ++ lb) := by
  intro rest more hrest
  rw [List.append_assoc, ha, hb rest more hrest, Option.map_map]
  congr 1
  funext ls
  simp

theorem Lexes.append {a b : List Char} {pa pb : List Value} {la lb : List Lexeme}
    (ha : Lexes a pa la) (hs : Sealed b) (hb : Lexes b pb lb) :
    Lexes (a ++ b) (pa ++ pb) (la ++ lb) := by
  intro rest more hrest
  rw [List.append_assoc, List.append_assoc, ha _ _ (hs.append hrest), hb rest more hrest,
    Option.map_map]
  congr 1
  funext ls
  simp

theorem Lexes.lex_eq {cs : List Char} {params : List Value} {ls : List Lexeme}
    (h : Lexes cs params ls) : lex cs params = some ls := by
  have := h [] [] rfl
  simpa [lex, lexFrom, Mode.finish, endWord] using this

/-! ## Parts without parameters -/

/-- The lexemes of a part without parameters and what is being read at its end. -/
def readPart (m : Mode) : List Char → Option (List Lexeme × Mode)
  | [] => some ([], m)
  | c :: rest =>
    match step? m c [] with
    | some (ls, m, _) => (readPart m rest).map fun (more, m) => (ls ++ more, m)
    | none => none

theorem begin?_of_nil {c : Char} {ls : List Lexeme} {m : Mode} {left : List Value}
    (h : begin? c [] = some (ls, m, left)) (params : List Value) :
    begin? c params = some (ls, m, params) := by
  unfold begin? at h ⊢
  repeat' split at h
  all_goals simp_all

theorem step?_of_nil {m m' : Mode} {c : Char} {ls : List Lexeme} {left : List Value}
    (h : step? m c [] = some (ls, m', left)) (params : List Value) :
    step? m c params = some (ls, m', params) := by
  unfold step? at h ⊢
  cases hc : m.continue? c with
  | some found =>
    simp only [hc] at h ⊢
    cases h
    rfl
  | none =>
    simp only [hc] at h ⊢
    cases hf : m.finish with
    | none => simp [hf] at h
    | some before =>
      cases hb : begin? c [] with
      | none => simp [hf, hb] at h
      | some found =>
        obtain ⟨begun, mode, rest⟩ := found
        simp only [hf, hb, Option.some.injEq, Prod.mk.injEq] at h
        obtain ⟨rfl, rfl, -⟩ := h
        simp only [begin?_of_nil hb params]

/-- A part is read in the same way whatever stands behind it. -/
theorem lexFrom_readPart {part : List Char} {m m' : Mode} {ls : List Lexeme}
    (h : readPart m part = some (ls, m')) (rest : List Char) (params : List Value) :
    lexFrom m (part ++ rest) params = (lexFrom m' rest params).map (ls ++ ·) := by
  induction part generalizing m ls with
  | nil =>
    obtain ⟨rfl, rfl⟩ : ls = [] ∧ m = m' := by simpa [readPart, eq_comm] using h
    simp
  | cons c part ih =>
    cases hs : step? m c [] with
    | none => simp [readPart, hs] at h
    | some found =>
      obtain ⟨first, next, left⟩ := found
      simp only [readPart, hs, Option.map_eq_some_iff] at h
      obtain ⟨⟨more, mode⟩, hp, h⟩ := h
      obtain ⟨rfl, rfl⟩ := Prod.mk.inj h
      rw [List.cons_append, lexFrom]
      simp only [step?_of_nil hs params]
      rw [ih hp, Option.map_map]
      congr 1
      funext ls
      simp

theorem opens_of_readPart {part : List Char} {ls : List Lexeme}
    (h : readPart (.word []) part = some (ls, .word [])) : Opens part ls :=
  fun rest params => lexFrom_readPart h rest params

theorem lexes_of_readPart {part word : List Char} {ls : List Lexeme}
    (h : readPart (.word []) part = some (ls, .word word)) : Lexes part [] (ls ++ endWord word) := by
  intro rest more hrest
  unfold lex
  rw [lexFrom_readPart h, List.nil_append, lexFrom_word hrest, Option.map_map]
  congr 1
  funext more
  simp

end TagSearch.Sql

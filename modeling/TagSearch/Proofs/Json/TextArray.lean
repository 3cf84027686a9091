import TagSearch.Table.Row

/-!
# Arrays of texts are read back

Every array of texts that is written in JSON is read back as the same texts
(`decodeTexts?_encodeTexts`), and so are the tags of a row (`decodeTags?_encodeTags`).  A character is
read back from its escape (`literal_encodeChar`), a text from its literal (`literal_encode`), and the
array from its lexemes.
-/

namespace TagSearch.Json

/-- The piece as which a written character is read: a control character without a letter is a code
unit. -/
def pieceOf (c : Char) : Piece :=
  if c.toNat < 32 ∧ ¬(c = '\x08' ∨ c = '\x0c' ∨ c = '\n' ∨ c = '\r' ∨ c = '\t') then .unit c.toNat
  else .char c

theorem codeUnit?_control : ∀ n < 32,
    codeUnit? '0' '0' (hexDigit (n / 16)) (hexDigit (n % 16)) = some n := by decide

theorem literal_plain {c : Char} (hquote : c ≠ '"') (hslash : c ≠ '\\') (hc : ¬c.toNat < 32)
    (pieces : List Piece) (rest : List Char) :
    literal pieces (c :: rest) = literal (.char c :: pieces) rest := by
  rw [literal.eq_def pieces (c :: rest)]
  split <;> grind

theorem literal_letter {c letter : Char} (hu : letter ≠ 'u')
    (h : escapeLetters.lookup letter = some c) (pieces : List Piece) (rest : List Char) :
    literal pieces ('\\' :: letter :: rest) = literal (.char c :: pieces) rest := by
  rw [literal.eq_def pieces ('\\' :: letter :: rest)]
  split <;> grind

theorem literal_unit {a b c d : Char} {n : Nat} (h : codeUnit? a b c d = some n)
    (pieces : List Piece) (rest : List Char) :
    literal pieces ('\\' :: 'u' :: a :: b :: c :: d :: rest) = literal (.unit n :: pieces) rest := by
  rw [literal.eq_def pieces ('\\' :: 'u' :: a :: b :: c :: d :: rest)]
  split <;> grind

/-- A written character is read as its piece. -/
theorem literal_encodeChar (c : Char) (pieces : List Piece) (rest : List Char) :
    literal pieces (encodeChar c ++ rest) = literal (pieceOf c :: pieces) rest := by
  by_cases hquote : c = '"'
  · subst hquote
    exact literal_letter (by decide) rfl pieces rest
  by_cases hslash : c = '\\'
  · subst hslash
    exact literal_letter (by decide) rfl pieces rest
  by_cases hletter : c = '\x08' ∨ c = '\x0c' ∨ c = '\n' ∨ c = '\r' ∨ c = '\t'
  · rcases hletter with rfl | rfl | rfl | rfl | rfl
    all_goals exact literal_letter (by decide) rfl pieces rest
  · have hplain : encodeChar c = if c.toNat < 32 then
        ['\\', 'u', '0', '0', hexDigit (c.toNat / 16), hexDigit (c.toNat % 16)] else [c] := by
      simp only [not_or] at hletter
      simp [encodeChar, hquote, hslash, hletter]
    rw [hplain]
    unfold pieceOf
    by_cases hc : c.toNat < 32
    · rw [if_pos hc, if_pos ⟨hc, hletter⟩]
      exact literal_unit (codeUnit?_control _ hc) pieces rest
    · rw [if_neg hc, if_neg (fun h => hc h.1)]
      exact literal_plain hquote hslash hc pieces rest

theorem joinPieces_unit {n : Nat} (h : n < 32) (pieces : List Piece) :
    joinPieces (.unit n :: pieces) = (joinPieces pieces).map (Char.ofNat n :: ·) := by
  have hhigh : isHighSurrogate n = false := by
    simp [isHighSurrogate]
    omega
  have hlow : isLowSurrogate n = false := by
    simp [isLowSurrogate]
    omega
  cases pieces with
  | nil => simp [joinPieces, hhigh, hlow]
  | cons piece pieces => cases piece <;> simp [joinPieces, hhigh, hlow]

theorem joinPieces_map_pieceOf (cs : List Char) : joinPieces (cs.map pieceOf) = some cs := by
  induction cs with
  | nil => rfl
  | cons c cs ih =>
    rw [List.map_cons, pieceOf]
    split
    · next h =>
      rw [joinPieces_unit h.1, ih, Option.map_some, Char.ofNat_toNat]
    · rw [joinPieces, ih, Option.map_some]

/-- A text is read back from its literal. -/
theorem literal_encode (cs : List Char) (pieces : List Piece) (rest : List Char) :
    literal pieces (cs.flatMap encodeChar ++ rest) =
      literal ((cs.map pieceOf).reverse ++ pieces) rest := by
  induction cs generalizing pieces with
  | nil => rfl
  | cons c cs ih =>
    rw [List.flatMap_cons, List.append_assoc, literal_encodeChar, ih, List.map_cons,
      List.reverse_cons, List.append_assoc]
    rfl

theorem lexemes_encodeLiteral (cs rest : List Char) :
    lexemes (encodeLiteral cs ++ rest) = (lexemes rest).map (.text cs :: ·) := by
  have hliteral : lexemes (encodeLiteral cs ++ rest) =
      literal [] (cs.flatMap encodeChar ++ '"' :: rest) := by
    rw [encodeLiteral, List.cons_append, List.append_assoc, lexemes]
    rfl
  have hpieces : ((cs.map pieceOf).reverse ++ []).reverse = cs.map pieceOf := by simp
  rw [hliteral, literal_encode, literal, hpieces, joinPieces_map_pieceOf]

/-- The lexemes of literals with commas between them, behind a first one. -/
def moreLexemes : List (List Char) → List Lexeme
  | [] => [.closeBracket]
  | text :: texts => .comma :: .text text :: moreLexemes texts

theorem lexemes_comma (rest : List Char) :
    lexemes (',' :: rest) = (lexemes rest).map (.comma :: ·) := by
  rw [lexemes]
  rfl

theorem lexemes_literals (text : List Char) (texts : List (List Char)) :
    lexemes ([','].intercalate ((text :: texts).map encodeLiteral) ++ [']']) =
      some (.text text :: moreLexemes texts) := by
  induction texts generalizing text with
  | nil =>
    have hsingle : [','].intercalate ([text].map encodeLiteral) = encodeLiteral text := by simp
    rw [hsingle, lexemes_encodeLiteral]
    rfl
  | cons next texts ih =>
    have hcons : [','].intercalate ((text :: next :: texts).map encodeLiteral) =
        encodeLiteral text ++ ',' :: [','].intercalate ((next :: texts).map encodeLiteral) := by
      simp [List.intercalate_cons_cons]
    rw [hcons, List.append_assoc, lexemes_encodeLiteral, List.cons_append, lexemes_comma, ih next]
    rfl

theorem moreTexts_moreLexemes (texts : List (List Char)) :
    moreTexts (moreLexemes texts) = some texts := by
  induction texts with
  | nil => rfl
  | cons text texts ih => rw [moreLexemes, moreTexts, ih, Option.map_some]

/-- An array of texts is read back. -/
theorem decodeTexts?_encodeTexts (texts : List (List Char)) :
    decodeTexts? (encodeTexts texts) = some texts := by
  have hopen (cs : List Char) :
      lexemes ('[' :: cs) = (lexemes cs).map (.openBracket :: ·) := by
    rw [lexemes]
    rfl
  unfold decodeTexts? encodeTexts
  cases texts with
  | nil => rfl
  | cons text texts =>
    rw [hopen, lexemes_literals, Option.map_some, Option.bind_some, arrayOfLexemes,
      moreTexts_moreLexemes, Option.map_some]

end TagSearch.Json

namespace TagSearch

/-- The tags of a post are read back. -/
theorem decodeTags?_encodeTags (tags : List String) : decodeTags? (encodeTags tags) = some tags := by
  have hne : (encodeTags tags).isEmpty = false := by
    simp [encodeTags, Json.encodeTexts]
  have htags : (tags.map String.toList).map String.ofList = tags := by
    rw [List.map_map]
    simp [Function.comp_def]
  rw [decodeTags?, hne]
  unfold encodeTags
  rw [String.toList_ofList, Json.decodeTexts?_encodeTexts]
  exact congrArg some htags

end TagSearch

import TagSearch.Proofs.Sql.Lexeme

/-!
# The grammar of expressions in SQL

`Derives n ls p` says that the lexemes `ls` are an expression of level `n` and that it is the phrase
`p`.  The levels follow the binding of the operators, from OR to what binds most tightly:

0. OR
1. AND
2. `=`, `!=`, LIKE, NOT LIKE and IS NOT NULL
3. `<`, `<=`, `>` and `>=`
4. `+` and `-`
5. `/`
6. columns, numbers, parameters, and whatever has parentheses around it

An operator takes an expression of its own level on its left and one of a higher level on its right,
so operators of one level group from the left.  A phrase is a value or a condition, and an operator
joins only phrases that it has a meaning for.
-/

namespace TagSearch.Sql

/-- What an expression is. -/
inductive Phrase where
  | value (s : Scalar Value)
  | condition (c : Condition Value)

/-- An operator between two expressions. -/
inductive Connective where
  | or
  | and
  | compare (c : Comparison)
  | like (negated : Bool)
  | plus
  | minus
  | slash

namespace Connective

/-- The level of an expression with the operator. -/
def level : Connective → Nat
  | or => 0
  | and => 1
  | compare .eq | compare .ne | like _ => 2
  | compare _ => 3
  | plus | minus => 4
  | slash => 5

/-- The lexemes of the operator. -/
def lexemes : Connective → List Lexeme
  | or => [.keyword .or]
  | and => [.keyword .and]
  | compare c => [.comparison c]
  | like false => [.keyword .like]
  | like true => [.keyword .not, .keyword .like]
  | plus => [.plus]
  | minus => [.minus]
  | slash => [.slash]

/-- The spelling of the operator. -/
def sql : Connective → String
  | or => "OR"
  | and => "AND"
  | compare c => c.sql
  | like negated => Condition.likeSql negated
  | plus => "+"
  | minus => "-"
  | slash => "/"

/-- The phrase of the operator between two phrases. -/
def join? : Connective → Phrase → Phrase → Option Phrase
  | or, .condition a, .condition b => some (.condition (.any [a, b]))
  | and, .condition a, .condition b => some (.condition (.all [a, b]))
  | compare c, .value s, .value t => some (.condition (.compare c s t))
  | like negated, .value s, .value t => some (.condition (.like negated s t))
  | plus, .value s, .value t => some (.value (.add s t))
  | minus, .value s, .value t => some (.value (.sub s t))
  | slash, .value s, .value t => some (.value (.div s t))
  | _, _, _ => none

theorem opens_sql (k : Connective) : Opens (" " ++ k.sql ++ " ").toList k.lexemes := by
  apply opens_of_readPart
  cases k with
  | compare c => cases c <;> rfl
  | like negated => cases negated <;> rfl
  | _ => rfl

end Connective

/-- What an opening parenthesis belongs to. -/
inductive Call where
  | group
  | length
  | lower
  | date
  | replace
  | cast

/-- What stands in front of an expression in parentheses, up to the opening one. -/
def Call.lexemes : Call → List Lexeme
  | group => [.opening]
  | length => [.keyword .length, .opening]
  | lower => [.keyword .lower, .opening]
  | date => [.keyword .date, .opening]
  | replace => [.keyword .replace, .opening]
  | cast => [.keyword .cast, .opening]

/-- What follows an expression in parentheses, up to the closing one. -/
inductive Ending where
  | plain
  /-- Each comma is replaced by nothing. -/
  | commas
  | real
  | text

/-- The lexemes of an ending. -/
def Ending.lexemes : Ending → List Lexeme
  | plain => [.closing]
  | commas => [.comma, .text ",", .comma, .text "", .closing]
  | real => [.keyword .as, .keyword .real, .closing]
  | text => [.keyword .as, .keyword .text, .closing]

/-- The phrase of a phrase in parentheses. -/
def close? : Call → Ending → Phrase → Option Phrase
  | .group, .plain, .value s => some (.value (.group s))
  | .group, .plain, .condition c => some (.condition (.group c))
  | .length, .plain, .value s => some (.value (.length s))
  | .lower, .plain, .value s => some (.value (.lower s))
  | .date, .plain, .value s => some (.value (.day s))
  | .replace, .commas, .value s => some (.value (.withoutCommas s))
  | .cast, .real, .value s => some (.value (.asReal s))
  | .cast, .text, .value s => some (.value (.asText s))
  | _, _, _ => none

/-- What follows an expression that must not be null. -/
def isNotNull : List Lexeme := [.keyword .is, .keyword .not, .keyword .null]

/-- The value that a lexeme is by itself. -/
def Lexeme.atom? : Lexeme → Option (Scalar Value)
  | column c => some (.column c)
  | number n => some (.number n)
  | parameter v => some (.parameter v)
  | _ => none

/-- Lexemes are an expression of a level, which is a phrase. -/
inductive Derives : Nat → List Lexeme → Phrase → Prop where
  | atom {l : Lexeme} {s : Scalar Value} (h : l.atom? = some s) : Derives 6 [l] (.value s)
  | closed {call : Call} {ending : Ending} {ls : List Lexeme} {p q : Phrase}
      (inside : Derives 0 ls p) (h : close? call ending p = some q) :
      Derives 6 (call.lexemes ++ ls ++ ending.lexemes) q
  | joined {k : Connective} {before behind : List Lexeme} {p q r : Phrase}
      (left : Derives k.level before p) (right : Derives (k.level + 1) behind q)
      (h : k.join? p q = some r) : Derives k.level (before ++ k.lexemes ++ behind) r
  | present {ls : List Lexeme} {s : Scalar Value} (h : Derives 2 ls (.value s)) :
      Derives 2 (ls ++ isNotNull) (.condition (.present s))
  | rise {n : Nat} {ls : List Lexeme} {p : Phrase} (h : Derives (n + 1) ls p) : Derives n ls p

theorem Derives.of_le {m n : Nat} {ls : List Lexeme} {p : Phrase} (hmn : m ≤ n)
    (h : Derives n ls p) : Derives m ls p := by
  obtain ⟨d, rfl⟩ := Nat.exists_eq_add_of_le hmn
  clear hmn
  induction d with
  | zero => exact h
  | succ d ih => exact ih (.rise h)

/-- A text, whose question marks take the parameters from left to right, is a condition. -/
def Reads (text : String) (params : List Value) (c : Condition Value) : Prop :=
  ∃ ls, lex text.toList params = some ls ∧ Derives 0 ls (.condition c)

end TagSearch.Sql

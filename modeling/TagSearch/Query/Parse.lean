import TagSearch.Query.Term
import TagSearch.Query.Token
import TagSearch.Query.Tree

/-!
# From tokens to a tree

Terms that stand side by side are all demanded.  A separator behind a term starts a run of
alternatives, which lasts up to a term without a separator behind it; a group joins a run but neither
starts nor ends one.  Parentheses need not match: a group that is not closed ends with the query, and
a group end outside groups ends the query itself.

Three steps lead from tokens to a tree: a date and its time of day become one term, the tokens between
group marks become nested items, and each level of items becomes a conjunction.
-/

namespace TagSearch

/-- Joins each date with the time of day behind it, from left to right. -/
def joinTimes : List Token → List Token
  | .term date :: .term time :: rest =>
    if continuesWithTime date time then .term (date ++ " " ++ time) :: joinTimes rest
    else .term date :: joinTimes (.term time :: rest)
  | token :: rest => token :: joinTimes rest
  | [] => []

/-- What stands between two parentheses, or outside all of them. -/
inductive Item where
  | term (text : String)
  | separator
  | group (items : List Item)

namespace Item

/-- Closes the open groups.  Each level holds its items last first, the innermost level first. -/
def closeAll (level : List Item) : List (List Item) → List Item
  | [] => level.reverse
  | outer :: levels => closeAll (.group level.reverse :: outer) levels

/-- The items of the tokens, behind the items of the open levels. -/
def nest (level : List Item) (levels : List (List Item)) : List Token → List Item
  | [] => closeAll level levels
  | .term text :: rest => nest (.term text :: level) levels rest
  | .separator :: rest => nest (.separator :: level) levels rest
  | .groupStart :: rest => nest [] (level :: levels) rest
  | .groupEnd :: rest =>
    match levels with
    | [] => level.reverse
    | outer :: levels => nest (.group level.reverse :: outer) levels rest

/-- The items of a token list; an end of a group outside groups ends the reading. -/
def ofTokens (tokens : List Token) : List Item := nest [] [] tokens

/-- A separator stands first. -/
def startsWithSeparator : List Item → Bool
  | .separator :: _ => true
  | _ => false

mutual

/-- The parts of one level. -/
def parts : List Item → List (Tree String)
  | [] => []
  | .separator :: rest => parts rest
  | .group items :: rest => .collapse (parts items) :: parts rest
  | .term text :: rest =>
    if startsWithSeparator rest then alternatives [.leaf text] rest
    else .leaf text :: parts rest

/-- The parts of one level within a run, whose alternatives so far are given last first. -/
def alternatives (run : List (Tree String)) : List Item → List (Tree String)
  | [] => [.or run.reverse]
  | .separator :: rest => alternatives run rest
  | .group items :: rest => alternatives (.collapse (parts items) :: run) rest
  | .term text :: rest =>
    if startsWithSeparator rest then alternatives (.leaf text :: run) rest
    else .or (.leaf text :: run).reverse :: parts rest

end

end Item

/-- The tree of a token list over the texts of its terms. -/
def Tree.ofTokens (tokens : List Token) : Tree String :=
  .collapse (Item.parts (Item.ofTokens (joinTimes tokens)))

/-- The filter tree of a token list. -/
def parseTokens (tokens : List Token) : Except ValueError (Tree Filter) :=
  (Tree.ofTokens tokens).mapM Filter.ofTerm

/-- The filter tree of a query from which the directives have been removed. -/
def parseQuery (query : String) : Except ValueError (Tree Filter) :=
  parseTokens (Token.ofQuery query)

end TagSearch

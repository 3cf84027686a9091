import TagSearch.Predicate.OfQuery
import TagSearch.Query.Directive
import TagSearch.Query.Parse

/-!
# Translations

A query is translated into the condition its matches satisfy and the directives for showing them.  A
query with an operand that cannot be read is rejected; `Translation.ofQuery` then answers with the
translation of the empty query and says why.
-/

namespace TagSearch

/-- Why a query was rejected. -/
structure Rejection where
  /-- The whole query, directives included. -/
  query : String
  /-- The error of the first term that cannot be read. -/
  error : ValueError
deriving DecidableEq

/-- What is said about a rejected query. -/
def Rejection.message (r : Rejection) : String :=
  "failed to translate " ++ Text.quoted r.query ++ ": " ++ r.error.message

/-- What a query asks for. -/
structure Translation where
  /-- The condition that every match satisfies. -/
  condition : Condition Value
  directives : Directives
  /-- The filter tree, for what the condition cannot express. -/
  tree : Tree Filter
  /-- The rejection, if this is the translation of a query that was rejected. -/
  rejection : Option Rejection

namespace Translation

/-- The condition in SQL. -/
def sql (t : Translation) : String := t.condition.sql

/-- The parameters of the condition in reading order. -/
def parameters (t : Translation) : List Value := t.condition.parameters

/-- The query was rejected. -/
def fellBack (t : Translation) : Bool := t.rejection.isSome

/-- The status that a request restricts to; the empty text restricts to none. -/
def restriction (status : Option String) : Option String := status.filter (· ≠ "")

/-- The translation of the empty query. -/
def ofStatus (status : Option String) : Translation where
  condition :=
    match restriction status with
    | some s => .hasStatus s
    | none => .always
  directives := .none
  tree := .matchAll
  rejection := none

/-- A condition restricted to a status, if there is one. -/
def restrict (c : Condition Value) (status : Option String) : Condition Value :=
  match restriction status with
  | some s => c.withStatus s
  | none => c

/-- The translation of a query, or its rejection. -/
def ofQuery? (query : String) (status : Option String) : Except Rejection Translation :=
  if (Text.trim query.toList).isEmpty then .ok (ofStatus status)
  else
    let (clean, directives) := splitDirectives query
    match parseQuery clean with
    | .error e => .error ⟨query, e⟩
    | .ok tree => .ok ⟨restrict (.ofTree tree) status, directives, tree, none⟩

/-- The translation of a query; a rejected query is translated as the empty one. -/
def ofQuery (query : String) (status : Option String) : Translation :=
  match ofQuery? query status with
  | .ok t => t
  | .error r => { ofStatus status with rejection := some r }

end Translation

end TagSearch

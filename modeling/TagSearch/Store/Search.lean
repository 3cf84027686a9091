import TagSearch.Predicate.Translation
import TagSearch.Query.TagPattern
import TagSearch.Store.Engine

/-!
# Listing and searching

A listing sorts by one of six keys and takes no query.  A search sorts the rows that are found for
the condition of its query and cuts a page out of them.  If the query makes a demand on the number of
matching tags, every row is read as a post and checked before the cut, so pages and totals count only
the posts that meet it; otherwise the database is asked twice, for the number of rows and for the rows
of the page, and goes its own way each time.
-/

namespace TagSearch

/-- A part of a list: what follows the first `offset` elements, at most `limit` of it. -/
def page {α : Type} (limit offset : Nat) (xs : List α) : List α := (xs.drop offset).take limit

/-- A part of a list, or all of it. -/
def cut {α : Type} (part : Option (Nat × Nat)) (xs : List α) : List α :=
  match part with
  | some (limit, offset) => page limit offset xs
  | none => xs

/-- Reads rows as posts; the first that cannot be read ends it. -/
def readRows (rows : List Row) : Except DecodeError (List Post) := rows.mapM Row.toPost

/-- The key of a listing; any other name sorts by timestamp. -/
def listingKey (name : String) : SortKey :=
  match SortKey.ofName? name with
  | some .score => .score
  | some .postId => .postId
  | some .owner => .owner
  | some .width => .width
  | some .height => .height
  | _ => .timestamp

/-- The posts of a page of the archive, or of its posts with a status. -/
def Store.list (s : Store) (status : Option Status) (limit offset : Nat) (sortBy : String)
    (direction : Direction) : Except DecodeError (List Post) :=
  readRows (page limit offset (sortRows [listingKey sortBy] direction (s.withStatus status)))

/-- What is searched for and how it is to be shown. -/
structure SearchRequest where
  /-- The query; its directives go before the rest of the request. -/
  query : String
  status : Option Status
  /-- How many posts a page has. -/
  limit : Nat
  /-- How many matches come before the page. -/
  offset : Nat
  /-- Names of sort keys with commas between them. -/
  sortBy : String
  direction : Direction
  today : Calendar.Date

/-- How many posts a page has if nothing else is said. -/
def defaultLimit : Nat := 50

/-- The request for the first page of a query on a given day, the latest post first. -/
def SearchRequest.ofQuery (today : Calendar.Date) (query : String) : SearchRequest where
  query := query
  status := none
  limit := defaultLimit
  offset := 0
  sortBy := SortKey.timestamp.name
  direction := .descending
  today := today

/-- A page of matches. -/
structure SearchPage where
  posts : List Post
  /-- How many matches there are on all pages. -/
  total : Nat
  /-- The page size that was used. -/
  limit : Nat
  offset : Nat
  /-- The query was rejected, and only the status counted. -/
  fellBack : Bool

/-- Why a search comes to no page. -/
inductive SearchError where
  /-- The pattern of a tag cannot be built. -/
  | pattern (name : String)
  /-- The database refuses to count the rows. -/
  | count
  /-- The database refuses to load the rows. -/
  | load
  /-- A row cannot be read as a post. -/
  | decode (e : DecodeError)

/-- What is said about a search that fails. -/
def SearchError.message : SearchError → String
  | .pattern name => "Build tag pattern for " ++ Text.quoted name ++ " failed."
  | .count => "Count search results failed."
  | .load => "Load search results failed."
  | .decode e => e.message

/-- The first tag of a demand whose pattern cannot be built. -/
def Engine.unbuilt? (db : Engine) (demand : TagDemand) : Option String :=
  demand.patterns.find? fun name => !db.builds name

namespace SearchRequest

variable (request : SearchRequest)

-- A directive of the query goes before what the request says.

/-- The translation of the request's query; a rejected query is translated as the empty one. -/
def translation : Translation :=
  Translation.ofQuery request.query (request.status.map Status.name)

def keys : List SortKey :=
  sortKeys (request.translation.directives.sortBy.getD request.sortBy)

def order : Direction := request.translation.directives.direction.getD request.direction

def pageSize : Nat := request.translation.directives.perPage.getD request.limit

/-- What the query demands of the tags of a post. -/
def demand? : Option TagDemand := TagDemand.ofTree? request.translation.tree

/-- What the database is asked about the rows that satisfy the condition of the query. -/
def statement (output : Output) : Statement :=
  ⟨request.translation.condition, request.today, output⟩

/-- The statement that counts the rows. -/
def counting : Statement := request.statement .count

/-- The statement that loads the rows, or some of them. -/
def loading (part : Option (Nat × Nat)) : Statement :=
  request.statement (.rows request.keys request.order part)

end SearchRequest

namespace Store

variable (s : Store) (db : Engine)

/-- How many rows the database counts for a request. -/
def total (request : SearchRequest) : Except SearchError Nat :=
  if db.answers s request.counting then .ok (s.select db request.counting).length
  else .error .count

/-- The rows that the database loads for a request, or of which it loads some, sorted. -/
def selected (request : SearchRequest) (part : Option (Nat × Nat)) : List Row :=
  sortRows request.keys request.order (s.select db (request.loading part))

/-- The posts that the database loads for a request. -/
def load (request : SearchRequest) (part : Option (Nat × Nat)) : Except SearchError (List Post) :=
  if db.answers s (request.loading part) then
    (readRows (cut part (s.selected db request part))).mapError .decode
  else .error .load

/-- The page that a request asks for. -/
def search (request : SearchRequest) : Except SearchError SearchPage :=
  let limit := request.pageSize
  let offset := request.offset
  match request.demand? with
  | none => do
    let total ← s.total db request
    let posts ← s.load db request (some (limit, offset))
    return ⟨posts, total, limit, offset, request.translation.fellBack⟩
  | some demand =>
    match db.unbuilt? demand with
    | some name => .error (.pattern name)
    | none => do
      let posts ← s.load db request none
      let matching := posts.filter fun p => demand.isMet p.tags
      return ⟨page limit offset matching, matching.length, limit, offset,
        request.translation.fellBack⟩

end Store

end TagSearch

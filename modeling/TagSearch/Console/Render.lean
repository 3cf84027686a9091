import TagSearch.Json.Document
import TagSearch.Store.Search

/-!
# What is printed

A translation and a page of matches each have a plain form, for reading, and a form in JSON.
-/

namespace TagSearch.Console

open Json

/-- The name of a direction in JSON. -/
def directionName : Direction → String
  | .ascending => "Asc"
  | .descending => "Desc"

/-- An operand in JSON. -/
def valueDocument : Value → Document
  | .text s => .text s
  | .integer n => .integer n
  | .real x => .real x

/-- The directives of a query in JSON. -/
def directivesDocument (d : Directives) : Document :=
  .object [
    ("per_page", .ofOption (fun n => .integer (n : Nat)) d.perPage),
    ("sort_by", .ofOption .text d.sortBy),
    ("sort_order", .ofOption (fun o => .text (directionName o)) d.direction)]

/-- A translation in JSON. -/
def translationDocument (t : Translation) : Document :=
  .object [
    ("fallback", .ofOption (fun r => .text r.message) t.rejection),
    ("metadata", directivesDocument t.directives),
    ("params", .array (t.parameters.map valueDocument)),
    ("sql", .text t.sql)]

/-- A post in JSON. -/
def postDocument (p : Post) : Document :=
  .object [
    ("post_id", .integer p.postId),
    ("status", .text p.status.name),
    ("title", .text p.title),
    ("owner", .text p.owner),
    ("score", .integer p.score),
    ("rating", .text p.rating),
    ("width", .integer p.width),
    ("height", .integer p.height),
    ("file_type", .text p.fileType),
    ("tags", .array (p.tags.map .text)),
    ("date_folder", .text p.dateFolder),
    ("timestamp", .real p.timestamp),
    ("file_path", .text p.filePath),
    ("downloaded_at", .text p.downloadedAt),
    ("created_at", .text p.createdAt),
    ("file_size", .integer p.fileSize),
    ("duration", .ofOption .real p.duration)]

/-- A page of matches in JSON. -/
def pageDocument (page : SearchPage) : Document :=
  .object [
    ("posts", .array (page.posts.map postDocument)),
    ("total", .integer page.total),
    ("limit", .integer page.limit),
    ("offset", .integer page.offset),
    ("fell_back", .bool page.fellBack)]

/-- An operand in plain form, with the type it has. -/
def valueText : Value → String
  | .text s => "Text(" ++ Text.quoted s ++ ")"
  | .integer n => "Integer(" ++ Text.intText n ++ ")"
  | .real x => "Real(" ++ Layout.marked.write x ++ ")"

/-- The lines of a translation. -/
def translationLines (t : Translation) : List String :=
  ["sql:      " ++ t.sql,
    "params:   [" ++ ", ".intercalate (t.parameters.map valueText) ++ "]"]
  ++ (t.directives.sortBy.map fun keys =>
      "sort:     " ++ keys ++ " " ++ (t.directives.direction.map Direction.sql).getD "-").toList
  ++ (t.directives.perPage.map fun n => "per-page: " ++ Text.natText n).toList
  ++ (t.rejection.map fun r => "fallback: " ++ r.message).toList

/-- The line of a post, with its place among all matches. -/
def postLine (place : Nat) (p : Post) : String :=
  "[" ++ Text.natText place ++ "] #" ++ Text.intText p.postId ++ " score=" ++ Text.intText p.score ++
    " " ++ Text.intText p.width ++ "x" ++ Text.intText p.height ++ " " ++ " ".intercalate p.tags

/-- The lines of posts that follow each other among the matches. -/
def postLines (place : Nat) : List Post → List String
  | [] => []
  | p :: ps => postLine place p :: postLines (place + 1) ps

/-- The lines of a page of matches. -/
def pageLines (page : SearchPage) : List String :=
  (if page.fellBack then ["(query ignored, showing status filter only)"] else [])
  ++ postLines page.offset page.posts
  ++ [Text.natText page.posts.length ++ " of " ++ Text.natText page.total ++ " matches"]

/-- Lines as text, each ended by a line feed. -/
def unlines (lines : List String) : String := String.join (lines.map (· ++ "\n"))

/-- A translation as it is printed. -/
def renderTranslation (json : Bool) (t : Translation) : String :=
  unlines (if json then [(translationDocument t).write] else translationLines t)

/-- A page as it is printed. -/
def renderPage (json : Bool) (page : SearchPage) : String :=
  unlines (if json then [(pageDocument page).write] else pageLines page)

end TagSearch.Console

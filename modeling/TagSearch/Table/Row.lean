import TagSearch.Json.TextArray
import TagSearch.Post.Basic
import TagSearch.Table.Cell

/-!
# Rows

The table of posts has seventeen columns.  A row holds the status of a post as its name and the tags
as an array in JSON, so a row written by other means may hold texts that are neither; reading such a
row as a post fails.
-/

namespace TagSearch

/-- A column of the table of posts. -/
inductive Column where
  | postId
  | status
  | title
  | owner
  | score
  | rating
  | width
  | height
  | fileType
  | tags
  | dateFolder
  | timestamp
  | filePath
  | downloadedAt
  | createdAt
  | fileSize
  | duration
deriving DecidableEq

/-- The name of a column. -/
def Column.name : Column → String
  | .postId => "post_id"
  | .status => "status"
  | .title => "title"
  | .owner => "owner"
  | .score => "score"
  | .rating => "rating"
  | .width => "width"
  | .height => "height"
  | .fileType => "file_type"
  | .tags => "tags"
  | .dateFolder => "date_folder"
  | .timestamp => "timestamp"
  | .filePath => "file_path"
  | .downloadedAt => "downloaded_at"
  | .createdAt => "created_at"
  | .fileSize => "file_size"
  | .duration => "duration"

/-- A post as the table holds it. -/
structure Row where
  postId : Int
  status : String
  title : String
  owner : String
  score : Int
  rating : String
  width : Int
  height : Int
  fileType : String
  /-- The tags as an array of texts. -/
  tags : String
  dateFolder : String
  timestamp : Double
  filePath : String
  downloadedAt : String
  createdAt : String
  fileSize : Int
  duration : Option Double
deriving DecidableEq

/-- Why a row cannot be read as a post. -/
inductive DecodeError where
  /-- The status has no such name. -/
  | status (postId : Int)
  /-- The tags are no array of texts. -/
  | tags (postId : Int)
deriving DecidableEq

/-- What is said about a row that cannot be read. -/
def DecodeError.message : DecodeError → String
  | .status postId => "Decode status of post " ++ Text.intText postId ++ " failed."
  | .tags postId => "Decode tags of post " ++ Text.intText postId ++ " failed."

/-- The text of a tag list. -/
def encodeTags (tags : List String) : String :=
  String.ofList (Json.encodeTexts (tags.map String.toList))

/-- The tag list of a text; the empty text is the empty list. -/
def decodeTags? (text : String) : Option (List String) :=
  if text.isEmpty then some []
  else (Json.decodeTexts? text.toList).map fun tags => tags.map String.ofList

/-- What a real column keeps: zero has no sign there. -/
def Double.unsignedZero (x : Double) : Double := if x.isZero then .zero else x

namespace Row

/-- The row of a post. -/
def ofPost (p : Post) : Row where
  postId := p.postId
  status := p.status.name
  title := p.title
  owner := p.owner
  score := p.score
  rating := p.rating
  width := p.width
  height := p.height
  fileType := p.fileType
  tags := encodeTags p.tags
  dateFolder := p.dateFolder
  timestamp := p.timestamp
  filePath := p.filePath
  downloadedAt := p.downloadedAt
  createdAt := p.createdAt
  fileSize := p.fileSize
  duration := p.duration

/-- The post of a row. -/
def toPost (r : Row) : Except DecodeError Post :=
  match Status.ofName? r.status with
  | none => .error (.status r.postId)
  | some status =>
    match decodeTags? r.tags with
    | none => .error (.tags r.postId)
    | some tags => .ok {
        postId := r.postId
        status := status
        title := r.title
        owner := r.owner
        score := r.score
        rating := r.rating
        width := r.width
        height := r.height
        fileType := r.fileType
        tags := tags
        dateFolder := r.dateFolder
        timestamp := r.timestamp
        filePath := r.filePath
        downloadedAt := r.downloadedAt
        createdAt := r.createdAt
        fileSize := r.fileSize
        duration := r.duration }

/-- A row of which only the number, the status and the tags are given, the other columns holding
their defaults. -/
def ofTexts (postId : Int) (status tags : String) : Row :=
  { ofPost (.ofTags postId []) with status := status, tags := tags }

/-- What the table keeps of a row: no sign of zero, no duration that is not a number, and zero for a
timestamp that is not one. -/
def stored (r : Row) : Row :=
  { r with
    timestamp := if r.timestamp = .nan then .zero else r.timestamp.unsignedZero
    duration := (r.duration.filter (· ≠ .nan)).map Double.unsignedZero }

/-- The cell of a row in a column. -/
def cell (r : Row) : Column → Cell
  | .postId => .integer r.postId
  | .status => .text r.status
  | .title => .text r.title
  | .owner => .text r.owner
  | .score => .integer r.score
  | .rating => .text r.rating
  | .width => .integer r.width
  | .height => .integer r.height
  | .fileType => .text r.fileType
  | .tags => .text r.tags
  | .dateFolder => .text r.dateFolder
  | .timestamp => .ofReal r.timestamp
  | .filePath => .text r.filePath
  | .downloadedAt => .text r.downloadedAt
  | .createdAt => .text r.createdAt
  | .fileSize => .integer r.fileSize
  | .duration =>
    match r.duration with
    | some x => .ofReal x
    | none => .null

end Row

end TagSearch

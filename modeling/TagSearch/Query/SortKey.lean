/-!
# Sort keys

Posts are sorted by thirteen keys.  Each has one canonical name and several that a directive may use.
-/

namespace TagSearch

/-- The direction of a sort. -/
inductive Direction where
  | ascending
  | descending
deriving DecidableEq

/-- The direction in SQL. -/
def Direction.sql : Direction → String
  | .ascending => "ASC"
  | .descending => "DESC"

/-- What posts are sorted by. -/
inductive SortKey where
  | timestamp
  | score
  | postId
  | owner
  | width
  | height
  | rating
  | fileSize
  | duration
  | createdAt
  | downloadedAt
  | tagCount
  /-- No order in particular. -/
  | random
deriving DecidableEq

namespace SortKey

/-- The canonical name. -/
def name : SortKey → String
  | .timestamp => "timestamp"
  | .score => "score"
  | .postId => "post_id"
  | .owner => "owner"
  | .width => "width"
  | .height => "height"
  | .rating => "rating"
  | .fileSize => "file_size"
  | .duration => "duration"
  | .createdAt => "created_at"
  | .downloadedAt => "downloaded_at"
  | .tagCount => "tag_count"
  | .random => "random"

/-- All keys. -/
def all : List SortKey := [
  .timestamp, .score, .postId, .owner, .width, .height, .rating, .fileSize, .duration, .createdAt,
  .downloadedAt, .tagCount, .random]

/-- The key with a canonical name. -/
def ofName? (name : String) : Option SortKey := all.find? fun key => key.name == name

/-- The names that a directive may use, in lower case with hyphens for spaces. -/
def aliases : List (String × SortKey) := [
  ("download", .downloadedAt), ("download-date", .downloadedAt), ("download_date", .downloadedAt),
  ("downloaded", .downloadedAt),
  ("upload", .createdAt), ("upload-date", .createdAt), ("upload_date", .createdAt),
  ("uploaded", .createdAt), ("created", .createdAt),
  ("id", .postId), ("post-id", .postId), ("post_id", .postId),
  ("tags", .tagCount), ("tag-count", .tagCount), ("tag_count", .tagCount), ("tagcount", .tagCount),
  ("file-size", .fileSize), ("filesize", .fileSize), ("file_size", .fileSize), ("size", .fileSize),
  ("score", .score),
  ("width", .width),
  ("height", .height),
  ("owner", .owner), ("user", .owner), ("creator", .owner),
  ("rating", .rating),
  ("duration", .duration), ("time", .duration), ("length", .duration),
  ("timestamp", .timestamp),
  ("random", .random)]

/-- The key that a directive's name stands for. -/
def ofAlias? (name : String) : Option SortKey := aliases.lookup name

@[simp] theorem ofName?_name (key : SortKey) : ofName? key.name = some key := by
  cases key <;> rfl

end SortKey

end TagSearch

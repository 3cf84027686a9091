/-!
# Fields

A filter names a field of a post by one of its names, in any letter case.  Sixteen fields are known;
a filter on any other name is kept under that name and constrains nothing.
-/

namespace TagSearch

/-- What a filter is about. -/
inductive Field where
  /-- Membership in the tag list. -/
  | tag
  | postId
  | score
  | width
  | height
  | tagCount
  /-- Bytes on disk. -/
  | fileSize
  /-- Seconds; only videos have a duration. -/
  | duration
  /-- How many of the query's own tags a post carries. -/
  | matchingTags
  /-- Width over height. -/
  | aspectRatio
  | owner
  | title
  | rating
  | fileType
  | createdAt
  | downloadedAt
  /-- A name that no field has, in lower case. -/
  | unknown (name : String)
deriving DecidableEq

namespace Field

/-- What the values of a field are. -/
inductive Kind where
  | numeric
  | text
  | date
deriving DecidableEq

/-- The names of the known fields, in lower case. -/
def names : List (String × Field) := [
  ("tag", .tag),
  ("id", .postId), ("post_id", .postId),
  ("score", .score),
  ("width", .width),
  ("height", .height),
  ("tag-count", .tagCount), ("tagcount", .tagCount), ("tags", .tagCount), ("tag_count", .tagCount),
  ("size", .fileSize), ("filesize", .fileSize), ("file-size", .fileSize), ("file_size", .fileSize),
  ("duration", .duration),
  ("matching-tags", .matchingTags), ("matchingtags", .matchingTags), ("matches", .matchingTags),
  ("matching_tags", .matchingTags),
  ("aspect-ratio", .aspectRatio), ("aspectratio", .aspectRatio), ("ratio", .aspectRatio),
  ("aspect_ratio", .aspectRatio),
  ("user", .owner), ("creator", .owner), ("author", .owner), ("owner", .owner),
  ("title", .title),
  ("rating", .rating),
  ("type", .fileType), ("ext", .fileType), ("extension", .fileType), ("filetype", .fileType),
  ("file_type", .fileType),
  ("date-created", .createdAt), ("datecreated", .createdAt), ("upload-date", .createdAt),
  ("uploaded", .createdAt), ("created_at", .createdAt),
  ("date-downloaded", .downloadedAt), ("datedownloaded", .downloadedAt),
  ("download-date", .downloadedAt), ("downloaded", .downloadedAt),
  ("downloaded_at", .downloadedAt)]

/-- The field with a name, ASCII letter case not counting. -/
def ofName (name : String) : Field :=
  let lower := String.ofList (name.toList.map Char.toLower)
  (names.lookup lower).getD (.unknown lower)

/-- The column of the field, or the name of the computed value. -/
def column : Field → String
  | .tag => "tags"
  | .postId => "post_id"
  | .score => "score"
  | .width => "width"
  | .height => "height"
  | .tagCount => "tag_count"
  | .fileSize => "file_size"
  | .duration => "duration"
  | .matchingTags => "matching_tags"
  | .aspectRatio => "aspect_ratio"
  | .owner => "owner"
  | .title => "title"
  | .rating => "rating"
  | .fileType => "file_type"
  | .createdAt => "created_at"
  | .downloadedAt => "downloaded_at"
  | .unknown name => name

/-- The kind of the field's values; tags and unknown fields have none. -/
def kind? : Field → Option Kind
  | .postId | .score | .width | .height | .tagCount | .fileSize | .duration | .matchingTags
  | .aspectRatio => some .numeric
  | .owner | .title | .rating | .fileType => some .text
  | .createdAt | .downloadedAt => some .date
  | .tag | .unknown _ => none

end Field

end TagSearch

import TagSearch.Double.Basic
import TagSearch.Post.Status

/-!
# Posts

A post of the archive, as those who search it see it.
-/

namespace TagSearch

/-- A post with everything the archive knows about it. -/
structure Post where
  postId : Int
  /-- Whether the post has been decided on. -/
  status : Status
  title : String
  owner : String
  score : Int
  rating : String
  width : Int
  height : Int
  /-- The ending of the file's name, with its point. -/
  fileType : String
  tags : List String
  /-- The folder of the day under which the file is kept. -/
  dateFolder : String
  /-- Seconds since 1970 when the post was first seen. -/
  timestamp : Double
  filePath : String
  downloadedAt : String
  createdAt : String
  /-- Bytes on disk. -/
  fileSize : Int
  /-- Seconds; only videos have a duration. -/
  duration : Option Double
deriving DecidableEq

/-- A pending post of which only the number and the tags are known. -/
def Post.ofTags (postId : Int) (tags : List String) : Post where
  postId := postId
  status := .pending
  title := ""
  owner := ""
  score := 0
  rating := ""
  width := 0
  height := 0
  fileType := ""
  tags := tags
  dateFolder := ""
  timestamp := .zero
  filePath := ""
  downloadedAt := ""
  createdAt := ""
  fileSize := 0
  duration := none

end TagSearch

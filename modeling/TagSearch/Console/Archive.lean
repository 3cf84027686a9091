import TagSearch.Store.Basic
import TagSearch.Double.Reading

/-!
# The archive as text

An archive is kept as lines, one for each row, and a line is an array of the texts of the row's
columns.  A missing duration is the empty text.
-/

namespace TagSearch.Console

/-- The texts of the columns of a row. -/
def rowTexts (r : Row) : List String := [
  Text.intText r.postId, r.status, r.title, r.owner, Text.intText r.score, r.rating,
  Text.intText r.width, Text.intText r.height, r.fileType, r.tags, r.dateFolder,
  Layout.plain.write r.timestamp, r.filePath, r.downloadedAt, r.createdAt,
  Text.intText r.fileSize, (r.duration.map Layout.plain.write).getD ""]

/-- The row with the given texts in its columns. -/
def rowOfTexts? : List String → Option Row
  | [postId, status, title, owner, score, rating, width, height, fileType, tags, dateFolder,
      timestamp, filePath, downloadedAt, createdAt, fileSize, duration] => do
    let postId ← Text.int64? postId.toList
    let score ← Text.int64? score.toList
    let width ← Text.int64? width.toList
    let height ← Text.int64? height.toList
    let timestamp ← Double.ofText? timestamp.toList
    let fileSize ← Text.int64? fileSize.toList
    let duration ←
      if duration.isEmpty then pure none else (Double.ofText? duration.toList).map some
    return ⟨postId, status, title, owner, score, rating, width, height, fileType, tags, dateFolder,
      timestamp, filePath, downloadedAt, createdAt, fileSize, duration⟩
  | _ => none

/-- The line of a row. -/
def rowLine (r : Row) : String := encodeTags (rowTexts r)

/-- The row of a line. -/
def rowOfLine? (line : String) : Option Row := (decodeTags? line).bind rowOfTexts?

/-- The lines of an archive. -/
def archiveLines (s : Store) : List String := s.rows.map rowLine

/-- The archive of lines; a line that is no row makes them unreadable. -/
def archiveOfLines? (lines : List String) : Option Store :=
  (lines.mapM rowOfLine?).map fun rows => rows.foldl Store.putRow .empty

end TagSearch.Console

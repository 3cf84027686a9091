import TagSearch.Table.Row

/-!
# The archive

The archive holds at most one row for each number of a post.  Putting a post replaces the whole row of
its number, and a change of status touches the status alone, and the folder if one is given.
-/

namespace TagSearch

/-- The rows of the archive. -/
structure Store where
  /-- The rows, in no order that an answer depends on. -/
  rows : List Row

namespace Store

/-- The archive after something was done to the post with some number. -/
structure Changed extends Store where
  /-- There was such a post. -/
  found : Bool

/-- The archive without posts. -/
def empty : Store := ⟨[]⟩

/-- Puts a row in the place of any row with its number. -/
def putRow (s : Store) (r : Row) : Store :=
  ⟨s.rows.filter (·.postId ≠ r.postId) ++ [r.stored]⟩

/-- Puts a post in the place of any row with its number. -/
def put (s : Store) (p : Post) : Store := s.putRow (.ofPost p)

/-- How many rows have this number. -/
def affected (s : Store) (postId : Int) : Nat := s.rows.countP (·.postId = postId)

/-- The archive without a post. -/
def remove (s : Store) (postId : Int) : Changed where
  rows := s.rows.filter (·.postId ≠ postId)
  found := 0 < s.affected postId

/-- Gives a post a status, and a folder unless the folder's name is empty or missing. -/
def setStatus (s : Store) (postId : Int) (status : Status) (folder : Option String) : Changed where
  rows := s.rows.map fun r =>
    if r.postId = postId then
      { r with
        status := status.name
        dateFolder := (folder.filter (· ≠ "")).getD r.dateFolder }
    else r
  found := 0 < s.affected postId

/-- The rows with a status, or all rows. -/
def withStatus (s : Store) (status : Option Status) : List Row :=
  match status with
  | some status => s.rows.filter (·.status = status.name)
  | none => s.rows

/-- How many posts have a status, or how many posts there are. -/
def count (s : Store) (status : Option Status) : Nat := (s.withStatus status).length

/-- The archive has no posts. -/
def isEmpty (s : Store) : Bool := s.count none == 0

end Store

end TagSearch

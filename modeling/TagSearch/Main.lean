import TagSearch.Console.Archive
import TagSearch.Console.Clock
import TagSearch.Console.Session

/-!
# The program

Reads queries from standard input and prints the answers.  An archive that does not exist yet is
created empty.
-/

open TagSearch Console

/-- The archive in a file. -/
def openArchive (path : String) : IO (Option Store) := do
  try
    let file ← IO.FS.Handle.mk path .append
    file.flush
    return archiveOfLines? (lines (← IO.FS.readFile path))
  catch _ => return none

/-- The lines of a stream, each read when it is asked for. -/
structure LineStream where
  stream : IO.FS.Stream

/-- Goes through the lines until the stream ends or no more are asked for. -/
partial def LineStream.loop {β : Type} (input : LineStream) (b : β)
    (f : String → β → IO (ForInStep β)) : IO β := do
  let line ← input.stream.getLine
  if line.isEmpty then return b
  match ← f line b with
  | .done b => return b
  | .yield b => input.loop b f

instance : ForIn IO LineStream String where
  forIn := LineStream.loop

/-- The host of the program: its standard streams, the clock and the files. -/
def console : IO (Host IO) := do
  let output ← IO.getStdout
  return {
    today := today
    openArchive := openArchive
    write := fun text => do
      output.putStr text
      output.flush
    complain := fun text => IO.eprintln text }

/-- Runs the program on the arguments of its command line. -/
def main (args : List String) : IO UInt32 := do
  let exitCode ← session (← console) args (LineStream.mk (← IO.getStdin))
  return exitCode.toUInt32

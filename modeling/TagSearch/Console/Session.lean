import TagSearch.Console.Options
import TagSearch.Console.Render

/-!
# A session

The program prompts for a line, answers it and prompts again, until the input ends or `/bye` is read.
With an archive the answer is the first page of matches, without one the translation; a search that
comes to no page is answered with nothing.

A session needs a host, for all that the program does not do itself.
-/

namespace TagSearch.Console

/-- What is printed before a line is read. -/
def prompt : String := "> "

/-- What follows on a line. -/
inductive Reply where
  /-- This is printed, and the session goes on. -/
  | output (text : String)
  | stop

/-- The answer to a query that is asked on a given day. -/
def answer (today : Calendar.Date) (o : Options) (store : Option Store) (query : String) : String :=
  match store with
  | none => renderTranslation o.json (.ofQuery query (o.status.map Status.name))
  | some s =>
    let request := { SearchRequest.ofQuery today query with status := o.status, limit := o.limit }
    match s.search .usual request with
    | .ok page => renderPage o.json page
    | .error _ => ""

/-- What follows on a line; white space around a query does not count. -/
def reply (today : Calendar.Date) (o : Options) (store : Option Store) (line : String) : Reply :=
  let query := String.ofList (Text.trim line.toList)
  if query.isEmpty then .output ""
  else if query = "/bye" then .stop
  else .output (answer today o store query)

/-- What a session is held in: a clock, a place for archives, and something to print on. -/
structure Host (m : Type → Type) where
  today : m Calendar.Date
  /-- The archive at a place, if it can be opened. -/
  openArchive : String → m (Option Store)
  write : String → m Unit
  /-- Says why there is no session. -/
  complain : String → m Unit

section

variable {m : Type → Type} {ρ : Type} [Monad m] [ForIn m ρ String]

/-- Prompts, answers a line and prompts again, until there are no more lines or one of them ends the
session. -/
def converse (host : Host m) (o : Options) (store : Option Store) (lines : ρ) : m Unit := do
  host.write prompt
  for line in lines do
    match reply (← host.today) o store line with
    | .stop => return
    | .output text =>
      host.write text
      host.write prompt

/-- The exit code when the archive cannot be opened. -/
def cannotOpen : Nat := 1

/-- The exit code when the command line cannot be read. -/
def badUsage : Nat := 2

/-- Runs the program on the arguments of its command line and the lines of its input, and gives its exit
code. -/
def session (host : Host m) (args : List String) (lines : ρ) : m Nat := do
  match Command.ofArguments args with
  | .refused =>
    host.complain "The command line cannot be read; see --help."
    return badUsage
  | .help =>
    host.write helpText
    return 0
  | .run o =>
    match o.archive with
    | none =>
      converse host o none lines
      return 0
    | some place =>
      match ← host.openArchive place with
      | some store =>
        converse host o (some store) lines
        return 0
      | none =>
        host.complain "The archive cannot be opened."
        return cannotOpen

end

/-- The lines of a text; a line feed at the end starts no line. -/
def lines (input : String) : List String :=
  let parts := input.toList.splitOn '\n'
  let parts := if parts.getLast? = some [] then parts.dropLast else parts
  parts.map String.ofList

/-- How a run of the program ends. -/
structure Outcome where
  exitCode : Nat
  output : String

/-- A run on a given day, arguments and input, where `openArchive` finds the archive at a place. -/
def run (today : Calendar.Date) (openArchive : String → Option Store) (args : List String)
    (input : String) : Outcome :=
  let host : Host (StateM String) := {
    today := pure today
    openArchive := fun place => pure (openArchive place)
    write := fun text => modify (· ++ text)
    complain := fun _ => pure () }
  let (exitCode, output) := (session host args (lines input)).run ""
  ⟨exitCode, output⟩

end TagSearch.Console

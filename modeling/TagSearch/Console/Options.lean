import TagSearch.Post.Status
import TagSearch.Store.Search

/-!
# Options of the command line

Options are read from left to right.  `--db`, `--status` and `--limit` take a value, as the next
argument or behind an equals sign, and every option may stand once.  The first argument that asks for
help or cannot be read decides, whatever follows it.
-/

namespace TagSearch.Console

/-- How the program is run. -/
structure Options where
  /-- The archive to search; without it queries are only translated. -/
  archive : Option String
  status : Option Status
  /-- How many posts a page has; a directive goes before it. -/
  limit : Nat
  /-- Answers are written as JSON. -/
  json : Bool

/-- What a command line asks for. -/
inductive Command where
  | run (options : Options)
  | help
  /-- Nothing, because the command line cannot be read. -/
  | refused

/-- The options read so far. -/
structure Given where
  archive : Option String
  status : Option Status
  limit : Option Nat
  json : Bool

/-- No option yet. -/
def Given.none : Given := ⟨.none, .none, .none, false⟩

/-- The options, with the default page size unless one is given. -/
def Given.toOptions (g : Given) : Options :=
  ⟨g.archive, g.status, g.limit.getD defaultLimit, g.json⟩

/-- The greatest page size that can be asked for. -/
def limitBound : Nat := 4294967295

/-- The page size of a numeral. -/
def readLimit? (value : String) : Option Nat :=
  match Text.int64? value.toList with
  | some n => if 0 ≤ n ∧ n ≤ limitBound then some n.toNat else none
  | none => none

/-- Sets an option that takes a value; it must not have one yet. -/
def Given.set? (g : Given) (name value : String) : Option Given :=
  if name = "db" then
    if g.archive.isSome || value.isEmpty then none else some { g with archive := some value }
  else if name = "status" then
    if g.status.isSome then none
    else (Status.ofName? value).map fun s => { g with status := some s }
  else if name = "limit" then
    if g.limit.isSome then none
    else (readLimit? value).map fun n => { g with limit := some n }
  else none

/-- The options that take a value. -/
def valued : List String := ["db", "status", "limit"]

/-- An argument that is an option and no value. -/
def looksLikeOption (arg : String) : Bool :=
  match arg.toList with
  | '-' :: _ :: _ => true
  | _ => false

/-- What an argument is by itself. -/
inductive Argument where
  /-- An option whose value is the next argument. -/
  | awaiting (name : String)
  /-- An option with its value. -/
  | assigned (name value : String)
  | json
  | help
  /-- The mark behind which there are no options. -/
  | endMark
  | unknown

/-- Recognises an argument. -/
def Argument.ofText (arg : String) : Argument :=
  match arg.toList with
  | ['-', '-'] => .endMark
  | '-' :: '-' :: body =>
    let name := String.ofList (body.takeWhile (· != '='))
    match body.dropWhile (· != '=') with
    | _ :: value => if valued.contains name then .assigned name (String.ofList value) else .unknown
    | [] =>
      if valued.contains name then .awaiting name
      else if name = "json" then .json
      else if name = "help" then .help
      else .unknown
  | '-' :: 'h' :: _ => .help
  | _ => .unknown

/-- Reads arguments behind the options read so far. -/
def readArguments (g : Given) : List String → Command
  | [] => .run g.toOptions
  | arg :: rest =>
    match Argument.ofText arg with
    | .help => .help
    | .unknown => .refused
    | .endMark => if rest.isEmpty then .run g.toOptions else .refused
    | .json => if g.json then .refused else readArguments { g with json := true } rest
    | .assigned name value =>
      match g.set? name value with
      | some g => readArguments g rest
      | none => .refused
    | .awaiting name =>
      match rest with
      | [] => .refused
      | value :: rest =>
        if looksLikeOption value then .refused
        else
          match g.set? name value with
          | some g => readArguments g rest
          | none => .refused

/-- What a command line asks for. -/
def Command.ofArguments (args : List String) : Command := readArguments .none args

/-- How the program is used. -/
def helpText : String :=
  "Usage: lsq [OPTIONS]\n\nOptions:\n" ++
  "      --db <DB>          Post cache database. Without it queries are only translated\n" ++
  "      --status <STATUS>  Restrict to `pending` or `saved` posts\n" ++
  "      --limit <LIMIT>    [default: 50]\n" ++
  "      --json             Print JSON instead of plain lines\n" ++
  "  -h, --help             Print help\n"

end TagSearch.Console

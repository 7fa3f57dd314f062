import FacetSearch.CommandLine.Arguments

/-!
# Commands

The commands with their arguments, and how they are written on the command line.
-/

namespace FacetSearch

/-- What the program is asked to do. -/
inductive Command where
  | search (index query : String) (ids : Option String)
  | cover (index : String) (properties : List String) (query : String)
  | count (index query : String)
  | suggest (index text field locale : String) (limit : UInt64)
  | get (index id : String)
  | exists (index : String)
  | drop (index : String)
  | reindex (index : String) (input : Option String) (idField : String) (parent : Option String)
deriving DecidableEq

/-- The options of the whole program. -/
structure ProgramOptions where
  config : Option String
  logLevel : Option String
  logFormat : Option String
deriving DecidableEq

namespace CommandLine

/-- The version of the program, as it is shown. -/
def versionText : String := "docsearch 0.3.2"

/-- How the program is used. -/
def usageText : String :=
  "Usage: docsearch [OPTIONS] <COMMAND>\n\n" ++
  "Commands: search, cover, count, suggest, get, exists, drop, reindex"

/-- An option whose value may be any text. -/
def anyText (name : String) (short : Option Char) : OptionRule := ⟨name, short, false, fun _ ↦ true⟩

/-- An option whose value is a path. -/
def path (name : String) (short : Option Char) : OptionRule :=
  ⟨name, short, false, fun value ↦ !value.isEmpty⟩

/-- The number that digits stand for, which may follow a plus sign. -/
def countOf (text : String) : Option UInt64 :=
  let digits := match text.toList with
    | '+' :: digits => digits
    | digits => digits
  let number := digits.foldl (fun n c ↦ 10 * n + (c.toNat - 48)) 0
  if digits.isEmpty || !digits.all Char.isDigit || UInt64.size ≤ number then none
  else some (UInt64.ofNat number)

/-- An option whose value is a number. -/
def number (name : String) : OptionRule := ⟨name, none, false, fun value ↦ (countOf value).isSome⟩

/-- What stands before the command. -/
def programGrammar : Grammar :=
  ⟨[path "config" (some 'c'), anyText "log-level" none, anyText "log-format" none], none, true⟩

/-- Reads the arguments of a command. -/
def readWith (options : List OptionRule) (most : Nat) (arguments : List String) :
    Except Stop Scan :=
  Grammar.scan ⟨options, some most, false⟩ .empty none arguments

def readSearch (arguments : List String) : Except Stop Command := do
  let scan ← readWith [anyText "ids" none] 2 arguments
  match scan.positionals with
  | index :: rest => return .search index (rest.head?.getD "") (scan.value? "ids")
  | [] => .error .misuse

def readCover (arguments : List String) : Except Stop Command := do
  let scan ← readWith
    [⟨"agg", some 'a', true, fun _ ↦ true⟩, anyText "query" (some 'q')] 1 arguments
  match scan.positionals with
  | [index] => return .cover index (scan.values "agg") ((scan.value? "query").getD "")
  | _ => .error .misuse

def readCount (arguments : List String) : Except Stop Command := do
  let scan ← readWith [] 2 arguments
  match scan.positionals with
  | index :: rest => return .count index (rest.head?.getD "")
  | [] => .error .misuse

/-- The field of suggestions unless another one is given. -/
def suggestedField : String := "name.\x7blocale\x7d.analyzed"

def readSuggest (arguments : List String) : Except Stop Command := do
  let scan ← readWith [anyText "field" (some 'f'), anyText "locale" (some 'l'), number "limit"] 2
    arguments
  match scan.positionals with
  | [index, text] =>
    let field := (scan.value? "field").getD suggestedField
    let locale := (scan.value? "locale").getD "en"
    return .suggest index text field locale (((scan.value? "limit").bind countOf).getD 10)
  | _ => .error .misuse

def readGet (arguments : List String) : Except Stop Command := do
  match (← readWith [] 2 arguments).positionals with
  | [index, id] => return .get index id
  | _ => .error .misuse

/-- Reads the arguments of a command that takes an index and nothing else. -/
def readIndex (command : String → Command) (arguments : List String) : Except Stop Command := do
  match (← readWith [] 1 arguments).positionals with
  | [index] => return command index
  | _ => .error .misuse

def readReindex (arguments : List String) : Except Stop Command := do
  let scan ← readWith [path "input" (some 'i'), anyText "id-field" none, anyText "parent" none] 1
    arguments
  match scan.positionals with
  | [index] =>
    let idField := (scan.value? "id-field").getD "id"
    return .reindex index (scan.value? "input") idField (scan.value? "parent")
  | _ => .error .misuse

/-- The names of the commands. -/
def commandNames : List String :=
  ["search", "cover", "count", "suggest", "get", "exists", "drop", "reindex", "help"]

/-- Why no command is run when help is asked for on the commands of the given names, of which there
may be one. -/
def readHelp : List String → Stop
  | [] => .help
  | [name] => if commandNames.contains name then .help else .misuse
  | _ => .misuse

/-- Reads the arguments of the command of that name. -/
def readCommand (name : String) (arguments : List String) : Except Stop Command :=
  match name with
  | "search" => readSearch arguments
  | "cover" => readCover arguments
  | "count" => readCount arguments
  | "suggest" => readSuggest arguments
  | "get" => readGet arguments
  | "exists" => readIndex .exists arguments
  | "drop" => readIndex .drop arguments
  | "reindex" => readReindex arguments
  | "help" => .error (readHelp arguments)
  | _ => .error .misuse

/-- Reads a command line. -/
def read (arguments : List String) : Except Stop (ProgramOptions × Command) := do
  let scan ← programGrammar.scan .empty none arguments
  match scan.rest with
  | name :: rest =>
    let command ← readCommand name rest
    return (⟨scan.value? "config", scan.value? "log-level", scan.value? "log-format"⟩, command)
  | [] => .error .misuse

end CommandLine

end FacetSearch

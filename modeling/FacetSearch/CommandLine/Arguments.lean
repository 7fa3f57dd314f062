/-!
# Arguments

A command line has options for the whole program, the name of a command, and then the command's own
options and positional arguments in any order. The value of an option follows it, after an equals
sign or as the next argument; an argument that begins with a dash is no value. After two dashes all
arguments are positional. Arguments are taken from left to right, so that a question for help or for
the version counts if nothing before it is wrong.
-/

namespace FacetSearch.CommandLine

/-- Why no command is run. -/
inductive Stop where
  | misuse
  | help
  | version
deriving DecidableEq

/-- An option that takes a value. -/
structure OptionRule where
  name : String
  short : Option Char
  repeatable : Bool
  admits : String → Bool

/-- What arguments are understood. -/
structure Grammar where
  options : List OptionRule
  /-- The greatest number of positional arguments; without one, the first of them ends the
  options. -/
  most : Option Nat
  /-- Whether the version may be asked for. -/
  versioned : Bool

/-- What has been read. -/
structure Scan where
  /-- The options with their values, in order. -/
  options : List (String × String)
  positionals : List String
  /-- The arguments that have been left. -/
  rest : List String
deriving DecidableEq

/-- The kinds of arguments. -/
inductive Kind where
  | plain
  /-- Two dashes. -/
  | escape
  | long (name : String) (value : Option String)
  | short (letter : Char) (attached : List Char)

/-- The value behind an equals sign. -/
def valueAfterEquals : List Char → Option String
  | '=' :: value => some (String.ofList value)
  | _ => none

/-- What an argument looks like. -/
def kindOf (argument : String) : Kind :=
  match argument.toList with
  | ['-', '-'] => .escape
  | '-' :: '-' :: text =>
    .long (String.ofList (text.takeWhile (· ≠ '='))) (valueAfterEquals (text.dropWhile (· ≠ '=')))
  | '-' :: letter :: attached => .short letter attached
  | _ => .plain

namespace Scan

def empty : Scan := ⟨[], [], []⟩

/-- The scan with the value of an option. -/
def give (scan : Scan) (rule : OptionRule) (value : String) : Except Stop Scan :=
  if !rule.admits value || (!rule.repeatable && scan.options.any (·.1 == rule.name)) then
    .error .misuse
  else .ok { scan with options := scan.options ++ [(rule.name, value)] }

/-- The scan with further positional arguments. -/
def place (scan : Scan) (most : Option Nat) (arguments : List String) : Except Stop Scan :=
  if most.getD 0 < scan.positionals.length + arguments.length then .error .misuse
  else .ok { scan with positionals := scan.positionals ++ arguments }

/-- The values of an option. -/
def values (scan : Scan) (name : String) : List String :=
  (scan.options.filter (·.1 == name)).map Prod.snd

def value? (scan : Scan) (name : String) : Option String := (scan.values name).head?

end Scan

namespace Grammar

/-- What an option without a rule asks for. -/
def question (grammar : Grammar) (help version : Bool) : Stop :=
  if help then .help else if grammar.versioned && version then .version else .misuse

/-- The value attached to a short option; without one, the next argument is the value. -/
def attachedValue : List Char → Option String
  | [] => none
  | '=' :: value => some (String.ofList value)
  | value => some (String.ofList value)

/-- Reads arguments; `pending` is the option whose value comes next. -/
def scan (grammar : Grammar) (done : Scan) (pending : Option OptionRule) :
    List String → Except Stop Scan
  | [] => if pending.isSome then .error .misuse else .ok done
  | argument :: rest =>
    match pending, kindOf argument with
    | some rule, .plain => do scan grammar (← done.give rule argument) none rest
    | some _, _ => .error .misuse
    | none, .plain =>
      if grammar.most.isNone then .ok { done with rest := argument :: rest }
      else do scan grammar (← done.place grammar.most [argument]) none rest
    | none, .escape => done.place grammar.most rest
    | none, .long name value? =>
      match grammar.options.find? (·.name == name), value? with
      | some rule, some value => do scan grammar (← done.give rule value) none rest
      | some rule, none => scan grammar done (some rule) rest
      | none, some _ => .error .misuse
      | none, none => .error (grammar.question (name == "help") (name == "version"))
    | none, .short letter attached =>
      match grammar.options.find? (·.short == some letter), attachedValue attached with
      | some rule, some value => do scan grammar (← done.give rule value) none rest
      | some rule, none => scan grammar done (some rule) rest
      | none, _ => .error (grammar.question (letter == 'h') (letter == 'V'))

end Grammar

end FacetSearch.CommandLine

import FacetSearch.CommandLine.Command
import FacetSearch.Document.Lines
import FacetSearch.Http.Client
import FacetSearch.ResultsText
import FacetSearch.Service
import FacetSearch.Settings.File

/-!
# Running commands

A command is a program that calls the engine and ends with a report: what is printed, and how the
command came out. A command that fails may have printed something before.
-/

namespace FacetSearch

/-- Why a command failed. -/
inductive Failure where
  | plain (error : Error)
  /-- What failed, and why. -/
  | within (what : String) (cause : Error)
  | documentNotFound (index id : String)
  | line (fault : LineFault)
  /-- There is no input. -/
  | input (fault : FileFault)
deriving DecidableEq

/-- What is said about input that cannot be read. -/
def FileFault.message : FileFault → String
  | absent => "No such file or directory (os error 2)"
  | notDirectory => "Not a directory (os error 20)"
  | nameTooLong => "File name too long (os error 36)"
  | unreadable => "Failed to read line"

namespace Failure

/-- The first line of what is said about a failure. -/
def message : Failure → String
  | plain error => error.message
  | within what _ => what
  | documentNotFound index id => s!"Document '{id}' not found in {index}"
  | line fault => fault.message
  | input fault => fault.message

/-- The error behind a failure that says more than it. -/
def cause? : Failure → Option Error
  | within _ cause => some cause
  | _ => none

end Failure

/-- What is printed. -/
inductive Output where
  | line (text : String)
  /-- How long the command took. -/
  | elapsed
deriving DecidableEq

/-- How a command came out. -/
inductive Exit where
  | success
  /-- The answer is no. -/
  | negative
  | failed (failure : Failure)
deriving DecidableEq

structure Report where
  output : List Output
  exit : Exit
deriving DecidableEq

namespace Report

/-- The report of success with one text. -/
def ofText (text : String) : Report := ⟨[.line text], .success⟩

def ofFailure (failure : Failure) : Report := ⟨[], .failed failure⟩

end Report

namespace Command

/-- The report of a program whose errors are put into a context. -/
def reporting {α : Type} (what : String) (program : Program α) (report : α → Report) :
    Program Report := do
  match ← program.attempt with
  | .ok value => return report value
  | .error cause => return .ofFailure (.within what cause)

/-- The report of a program whose errors speak for themselves. -/
def reportingPlainly {α : Type} (program : Program α) (report : α → Report) :
    Program Report := do
  match ← program.attempt with
  | .ok value => return report value
  | .error error => return .ofFailure (.plain error)

/-- The filter for identifiers with commas between them. -/
def idFilter (ids : String) : IdFilter :=
  .plain idField (.ofList ((Text.trimmedPieces ',' ids).filter fun id ↦ !id.isEmpty))

/-- A property as it is written: a key, and the value after the first equals sign, if any. -/
def propertyOf (text : String) : String × String :=
  let cs := text.toList
  (Text.trimmed (String.ofList (cs.takeWhile (· ≠ '='))),
    Text.trimmed (String.ofList ((cs.dropWhile (· ≠ '=')).drop 1)))

/-- The properties that are written in arguments. -/
def propertiesOf (texts : List String) : Properties := .ofList (texts.map propertyOf)

def shown (results : SearchResults) : Report := .ofText results.toJson.pretty

/-- The report of a count, which is a number unless values were counted. -/
def shownCount (results : SearchResults) : Report :=
  if results.aggregations.isEmpty then .ofText (toString results.total) else shown results

/-- The report of documents that were indexed anew. -/
def shownReindexing (index : String) (count : Nat) (outcome : Except Error BulkSummary) : Report :=
  let start : Output := .line s!"Reindexing {count} document(s) into '{index}'"
  match outcome with
  | .ok summary =>
    ⟨[start, .line "Reindex completed:", .line s!"  Documents: {summary.succeeded}", .elapsed],
      .success⟩
  | .error cause => ⟨[start], .failed (.within s!"Reindex of {index} failed" cause)⟩

/-- Reads the documents of the input and indexes them anew. -/
def reindexing (service : Service) (index idField : String) (parent : Option String) :
    FileContent → Program Report
  | .error fault => return .ofFailure (.input fault)
  | .ok text => match Document.ofText idField text with
    | .error fault => return .ofFailure (.line fault)
    | .ok documents => do
      let outcome ← (service.manager.reindexAll index documents parent).attempt
      return shownReindexing index documents.length outcome

/-- Runs a command; `input` is what the input of a command that has one holds. -/
def execute (service : Service) (input : FileContent) : Command → Program Report
  | search index query ids =>
    reporting s!"Search on {index} failed"
      (service.searcher.find index query (ids.map idFilter)) shown
  | cover index properties query =>
    reporting s!"Coverage on {index} failed"
      (service.searcher.cover index (service.searcher.compiler.compile query)
        (propertiesOf properties) none) shown
  | count index query =>
    reporting s!"Count on {index} failed" (service.searcher.count index query none) shownCount
  | suggest index text field locale limit =>
    reporting s!"Suggest on {index} failed" (Searcher.suggest index limit locale text field)
      fun suggestions ↦ ⟨suggestions.map .line, .success⟩
  | get index id =>
    reportingPlainly (Searcher.documentById index id) fun
      | some document => .ofText document.toJson.pretty
      | none => .ofFailure (.documentNotFound index id)
  | .exists index =>
    reportingPlainly (IndexManager.hasIndex index) fun found ↦
      ⟨[.line (toString found)], if found then .success else .negative⟩
  | drop index =>
    reportingPlainly (IndexManager.dropIndex index) fun _ ↦ .ofText s!"Dropped index '{index}'"
  | reindex index _ idField parent => reindexing service index idField parent input

/-- The index that a command concerns. -/
def index : Command → String
  | search index _ _ | cover index _ _ | count index _ | suggest index _ _ _ _ | get index _
  | .exists index | drop index | reindex index _ _ _ => index

end Command

namespace CommandLine

/-- The settings in a file, or the default ones with the text that is to be written to it. -/
def settingsOf (home path : String) (content : FileContent) :
    Except Failure (Settings × Option String) :=
  match Settings.loadOrCreate home path content with
  | .ok settings => .ok settings
  | .error cause => .error (.within s!"Failed to load config from {path}" cause)

/-- The client that the settings describe. -/
def clientOf (settings : Settings) : Except Failure Http.Client :=
  match Http.Client.ofSettings settings.engine with
  | .ok client => .ok client
  | .error error => .error (.plain error)

/-- Runs a command with settings; `files` are the mapping files. -/
def run {m : Type → Type} [Monad m] (settings : Settings) (files : String → FileContent)
    (input : FileContent) (exchange : Http.Request → m (Option Http.Answer)) (command : Command) :
    m Report :=
  match clientOf settings with
  | .error failure => return .ofFailure failure
  | .ok client => do
    let service := Service.ofSettings settings files [] .standard
    match ← (command.execute service input).perform (client.perform exchange) with
    | .ok report => return report
    | .error error => return .ofFailure (.plain error)

end CommandLine

end FacetSearch

import FacetSearch.Document.Indexer
import FacetSearch.Json.Reader

/-!
# Documents in lines

Every line of a text that is not blank is a JSON value with a member that identifies it, a string
that is not empty or a number. The first line that is not like that makes the text as a whole
unusable. Lines are counted from one, blank ones included.
-/

namespace FacetSearch

/-- What is wrong with a line. -/
inductive LineFault where
  | unreadable (number : Nat) (line : String)
  | withoutId (number : Nat) (idField : String)
deriving DecidableEq

namespace LineFault

/-- The greatest number of characters of a line that are shown. -/
def shownLength : Nat := 100

def message : LineFault → String
  | unreadable number line =>
    s!"Line {number}: failed to parse JSON: " ++ String.ofList (line.toList.take shownLength)
  | withoutId number idField => s!"Line {number}: missing '{idField}' member"

end LineFault

namespace Document

/-- The line without a carriage return at its end. -/
def dropReturn (line : List Char) : List Char :=
  if line.getLast? = some '\r' then line.dropLast else line

/-- The pieces between line breaks as lines; the last one is a line unless it is empty, and only it
has no line break after it. -/
def linesOf : List (List Char) → List (List Char)
  | [] => []
  | [last] => if last.isEmpty then [] else [last]
  | line :: rest => dropReturn line :: linesOf rest

/-- The lines of a text. -/
def lines (text : String) : List String :=
  (linesOf (Text.pieces '\n' text.toList)).map String.ofList

/-- The identifier that a member gives to a value. -/
def memberId (idField : String) (body : Json) : Option String :=
  match body.member? idField with
  | some (.str "") => none
  | some (.str s) => some s
  | some (.num n) => some (Json.num n).compact
  | _ => none

/-- The document in a line. -/
def ofLine (idField : String) (number : Nat) (line : String) : Except LineFault Document :=
  match Json.read line with
  | none => .error (.unreadable number line)
  | some body => match memberId idField body with
    | none => .error (.withoutId number idField)
    | some id => .ok ⟨id, body⟩

/-- The documents in lines of which the first has the given number. -/
def ofLinesFrom (idField : String) (number : Nat) : List String → Except LineFault (List Document)
  | [] => .ok []
  | line :: rest =>
    if (Text.trim line.toList).isEmpty then ofLinesFrom idField (number + 1) rest
    else do
      let document ← ofLine idField number line
      let others ← ofLinesFrom idField (number + 1) rest
      return document :: others

/-- The documents in the lines of a text. -/
def ofText (idField text : String) : Except LineFault (List Document) :=
  ofLinesFrom idField 1 (lines text)

end Document

end FacetSearch

import FacetSearch.StringMap

/-!
# Tables of a TOML document

A document is built from its key-value pairs and from its blocks, each a header with the pairs
below it. A table is defined once: a header may name a table that other headers only passed
through, and a dotted key may add to tables that dotted keys made, but no table is closed and opened
again.
-/

namespace FacetSearch

/-- How a table came into being. -/
inductive TableOrigin where
  /-- It is named by a header, or is the document itself. -/
  | header
  /-- A longer header passes through it. -/
  | passed
  /-- A dotted key passes through it. -/
  | dotted
  /-- It is written between braces. -/
  | inline
deriving DecidableEq

/-- A value of a TOML document. -/
inductive Toml where
  | string (s : String)
  | integer (i : Int)
  | float (text : String)
  | boolean (b : Bool)
  | dateTime (text : String)
  | array (elements : List Toml)
  /-- The tables of repeated headers between double brackets, the last one last. -/
  | tables (elements : List Toml)
  | table (origin : TableOrigin) (entries : List (String × Toml))

instance : Inhabited Toml := ⟨.boolean false⟩

namespace Toml

/-- A key-value pair; the key has the segments of its path and a last one. -/
structure Pair where
  path : List String
  key : String
  value : Toml

/-- A header with the pairs below it. -/
structure Block where
  path : List String
  key : String
  /-- The header stands between double brackets. -/
  repeated : Bool
  pairs : List Pair

/-- A dotted key may pass through a table of this origin; `last` says whether it ends there. -/
def admitsDotted (origin : TableOrigin) (last : Bool) : Bool :=
  origin == .dotted || (origin == .passed && !last)

/-- The entries with a pair added at the end of a path. -/
def addPair (key : String) (value : Toml) :
    (path : List String) → List (String × Toml) → Option (List (String × Toml))
  | [], entries =>
    if Entries.contains entries key then none else some (Entries.insert entries key value)
  | segment :: path, entries =>
    match Entries.get? entries segment with
    | none => (addPair key value path []).map fun added ↦
        Entries.insert entries segment (table .dotted added)
    | some (table origin inner) =>
      if admitsDotted origin path.isEmpty then
        (addPair key value path inner).map fun added ↦
          Entries.insert entries segment (table origin added)
      else none
    | some (tables elements) => match path.isEmpty, elements.getLast? with
      | false, some (table origin inner) => (addPair key value path inner).map fun added ↦
          Entries.insert entries segment (tables (elements.dropLast ++ [table origin added]))
      | _, _ => none
    | some _ => none

/-- The entries with pairs added in order. -/
def addPairs (entries : List (String × Toml)) : List Pair → Option (List (String × Toml))
  | [] => some entries
  | pair :: rest => do addPairs (← addPair pair.key pair.value pair.path entries) rest

/-- The entries with the table of a header, whose pairs are added to it. -/
def addHeader (block : Block) (entries : List (String × Toml)) :
    Option (List (String × Toml)) :=
  match block.repeated, Entries.get? entries block.key with
  | true, none => (addPairs [] block.pairs).map fun added ↦
      Entries.insert entries block.key (tables [table .header added])
  | true, some (tables elements) => (addPairs [] block.pairs).map fun added ↦
      Entries.insert entries block.key (tables (elements ++ [table .header added]))
  | true, some _ => none
  | false, none => (addPairs [] block.pairs).map fun added ↦
      Entries.insert entries block.key (table .header added)
  | false, some (table .passed inner) => (addPairs inner block.pairs).map fun added ↦
      Entries.insert entries block.key (table .header added)
  | false, some _ => none

/-- The entries with the table of a header added at the end of a path. -/
def addBlock (block : Block) :
    (path : List String) → List (String × Toml) → Option (List (String × Toml))
  | [], entries => addHeader block entries
  | segment :: path, entries =>
    match Entries.get? entries segment with
    | none => (addBlock block path []).map fun added ↦
        Entries.insert entries segment (table .passed added)
    | some (table .inline _) => none
    | some (table origin inner) => (addBlock block path inner).map fun added ↦
        Entries.insert entries segment (table origin added)
    | some (tables elements) => match elements.getLast? with
      | some (table origin inner) => (addBlock block path inner).map fun added ↦
          Entries.insert entries segment (tables (elements.dropLast ++ [table origin added]))
      | _ => none
    | some _ => none

/-- The entries with blocks added in order. -/
def addBlocks (entries : List (String × Toml)) : List Block → Option (List (String × Toml))
  | [] => some entries
  | block :: rest => do addBlocks (← addBlock block block.path entries) rest

/-- The entries of the document with the given pairs and blocks. -/
def document (pairs : List Pair) (blocks : List Block) : Option (List (String × Toml)) := do
  addBlocks (← addPairs [] pairs) blocks

end Toml

end FacetSearch

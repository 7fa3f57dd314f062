import FacetSearch.Json.Basic

/-!
# Queries

The part of the engine's query language that requests are built from, and the parts of a search
request around a query: sorting, the projection of the document source, and the tracking of totals.
-/

namespace FacetSearch

/-- A query in the engine's own text syntax. -/
structure TextQuery where
  query : String
  defaultField : Option String
  fields : Option (List String)
  defaultOperator : Option String
deriving DecidableEq

/-- A condition on documents. -/
inductive Query where
  | matchAll (boost : Option Binary32)
  /-- Every named field holds exactly the value. -/
  | term (values : StringMap Json)
  /-- Every named field holds a string that starts with the value. -/
  | startsWith (values : StringMap String)
  | bool (must should mustNot filter : List Query)
  /-- The field is present. -/
  | hasField (field : String)
  | text (query : TextQuery)
  /-- The document's own identifier is listed. -/
  | ids (values : List String)

namespace Query

instance : Inhabited Query := ⟨matchAll none⟩

/-- The query that every document matches. -/
def all : Query := matchAll none

/-- One field holds exactly a value. -/
def termIs (field : String) (value : Json) : Query := term (.singleton field value)

/-- One field starts with a string. -/
def fieldStartsWith (field start : String) : Query := startsWith (.singleton field start)

def ofText (query : String) : Query := text ⟨query, none, none, none⟩

/-- At least one of the queries matches. -/
def anyOf (queries : List Query) : Query := bool [] queries [] []

/-- All of the queries match. -/
def allOf (queries : List Query) : Query := bool queries [] [] []

/-- Both queries match. -/
def and (a b : Query) : Query := allOf [a, b]

end Query

/-- The direction of a sort. -/
inductive SortDirection where
  | ascending
  | descending
deriving DecidableEq

namespace SortDirection

def name : SortDirection → String
  | ascending => "asc"
  | descending => "desc"

def ofName? (name : String) : Option SortDirection :=
  if name = "asc" then some ascending else if name = "desc" then some descending else none

end SortDirection

/-- A sort by a field in the engine's default direction, or by fields with directions. -/
inductive SortClause where
  | field (name : String)
  | directed (fields : StringMap SortDirection)
deriving DecidableEq

namespace SortClause

def orderedBy (field : String) (direction : SortDirection) : SortClause :=
  directed (.singleton field direction)

/-- The best score first. -/
def bestScore : SortClause := orderedBy "_score" .descending

end SortClause

/-- Which members of the document source a search returns. -/
inductive SourceFilter where
  | all (returned : Bool)
  | fields (names : List String)
  | patterns (includes excludes : Option (List String))
deriving DecidableEq

/-- Whether, or up to which number, the hits of a search are counted. -/
inductive TotalHits where
  | counted (exactly : Bool)
  | upTo (count : UInt64)
deriving DecidableEq

end FacetSearch

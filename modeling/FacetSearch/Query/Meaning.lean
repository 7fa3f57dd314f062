import FacetSearch.Query.Basic

/-!
# The meaning of queries

`Query.matches` says which documents a query matches. A document is seen as the values of its
fields, its own identifier being the value of the field `id`. The meaning of text queries is the
engine's affair and a parameter here. Of a boolean query all `must` and `filter` clauses match and
no `mustNot` clause does; where there are neither `must` nor `filter` clauses, one of the `should`
clauses matches, if there are any.
-/

namespace FacetSearch

/-- A document as the engine sees it: the values of its fields. -/
abbrev FieldValues := String → Option Json

/-- The field of the document's own identifier. -/
def idField : String := "id"

/-- The string that a field holds, if it holds one. -/
def FieldValues.string? (values : FieldValues) (field : String) : Option String :=
  (values field).bind Json.str?

namespace Query

variable (meaning : TextQuery → FieldValues → Bool) (values : FieldValues)

mutual

/-- The document matches the query. -/
def «matches» : Query → Bool
  | matchAll _ => true
  | term wanted => wanted.entries.all fun (field, value) ↦ values field == some value
  | startsWith wanted => wanted.entries.all fun (field, start) ↦
    (values.string? field).any fun s ↦ start.toList.isPrefixOf s.toList
  | bool must should mustNot filter =>
    matchesAll must && matchesAll filter && !matchesAny mustNot &&
      (!must.isEmpty || !filter.isEmpty || should.isEmpty || matchesAny should)
  | hasField field => (values field).isSome
  | text query => meaning query values
  | ids listed => (values.string? idField).any listed.contains

/-- The document matches every query of a list. -/
def matchesAll : List Query → Bool
  | [] => true
  | query :: rest => «matches» query && matchesAll rest

/-- The document matches some query of a list. -/
def matchesAny : List Query → Bool
  | [] => false
  | query :: rest => «matches» query || matchesAny rest

end

end Query

end FacetSearch

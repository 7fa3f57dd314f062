import FacetSearch.Aggregation.Codec
import FacetSearch.Response.Codec
import FacetSearch.Error

/-!
# Calls of the engine

What can be asked of a search engine, with the kind of reply to each call. A bulk call is a list of
actions; its body has one line with the action and, when a document is indexed, one line with the
document. No line holds a line break, since strings escape it.
-/

namespace FacetSearch

/-- One action of a bulk call. -/
inductive BulkAction where
  | index (id : String) (routing : Option String) (document : Json)
  | delete (id : String) (routing : Option String)
deriving DecidableEq

namespace BulkAction

def id : BulkAction → String
  | index id _ _ => id
  | delete id _ => id

def routing : BulkAction → Option String
  | index _ routing _ => routing
  | delete _ routing => routing

def verb : BulkAction → String
  | index .. => "index"
  | delete .. => "delete"

/-- The object that names the action and what it acts on. -/
def header (index : String) (action : BulkAction) : Json :=
  .obj [(action.verb, .record [("_index", some (.str index)), ("_id", some (.str action.id)),
    ("routing", action.routing.map .str)])]

/-- The lines of an action. -/
def lines (index : String) (action : BulkAction) : List String :=
  (action.header index).compact :: match action with
    | .index _ _ document => [document.compact]
    | .delete .. => []

end BulkAction

/-- The body of a bulk call, each line with its line break. -/
def bulkBody (index : String) (actions : List BulkAction) : String :=
  String.join ((actions.flatMap (BulkAction.lines index)).map (· ++ "\n"))

/-- A call of the engine. -/
inductive Call where
  | indexExists (index : String)
  | createIndex (index : String) (body : Json)
  | deleteIndex (index : String)
  | putMapping (index : String) (mapping : Json)
  | getMapping (index : String)
  | search (index : String) (request : SearchRequest)
  | count (index : String) (query : Query)
  | indexDocument (index id : String) (document : Json) (routing : Option String)
  | bulk (index : String) (actions : List BulkAction)
  | deleteDocument (index id : String)
  | deleteByQuery (index : String) (query : Query)

namespace Call

/-- The kind of reply to a call. -/
abbrev Reply : Call → Type
  | indexExists _ => Bool
  | createIndex .. | deleteIndex _ | putMapping .. | indexDocument .. | deleteDocument .. => Unit
  | getMapping _ => Json
  | search .. => SearchResponse
  | count .. | deleteByQuery .. => UInt64
  | bulk .. => BulkResponse

/-- The index that a call concerns. -/
def index : Call → String
  | indexExists index | createIndex index _ | deleteIndex index | putMapping index _
  | getMapping index | search index _ | count index _ | indexDocument index _ _ _
  | bulk index _ | deleteDocument index _ | deleteByQuery index _ => index

def name : Call → String
  | indexExists _ => "index_exists"
  | createIndex .. => "create_index"
  | deleteIndex _ => "delete_index"
  | putMapping .. => "put_mapping"
  | getMapping _ => "get_mapping"
  | search .. => "search"
  | count .. => "count"
  | indexDocument .. => "index_document"
  | bulk .. => "bulk"
  | deleteDocument .. => "delete_document"
  | deleteByQuery .. => "delete_by_query"

/-- A call that writes documents. -/
def writesDocuments : Call → Bool
  | indexDocument .. | bulk .. => true
  | _ => false

/-- A call that creates, deletes or writes anything. -/
def changes : Call → Bool
  | createIndex .. | deleteIndex _ | putMapping .. | indexDocument .. | bulk ..
  | deleteDocument .. | deleteByQuery .. => true
  | indexExists _ | getMapping _ | search .. | count .. => false

end Call

end FacetSearch

import FacetSearch.Document.BulkSummary
import FacetSearch.Index.Manager
import FacetSearch.Query.Meaning

/-!
# Writing documents

Documents are written to an index that is created first if it is absent. A batch is written in one
bulk call and is refused as a whole if a document has no identifier. Reindexing deletes the index
and builds it anew from the given documents.
-/

namespace FacetSearch

/-- A document with the identifier under which it is stored. The body is what it was serialised to;
that this can fail is left out. -/
structure Document where
  id : String
  body : Json
deriving DecidableEq

namespace Document

/-- The text of the member `id` of a value, blank unless it is a string or a number. -/
def idOf (body : Json) : String :=
  match body.member? idField with
  | some (.str s) => s
  | some (.num n) => (Json.num n).compact
  | _ => ""

def ofJson (body : Json) : Document := ⟨idOf body, body⟩

end Document

namespace IndexManager

/-- Writes one document, routed to its parent if there is one. -/
def index (manager : IndexManager) (index : String) (document : Document)
    (parent : Option String) : Program Unit := do
  if document.id.isEmpty then Program.fail (.documentWithoutId index)
  else
    let _ ← manager.ensureIndex index
    Program.request (.indexDocument index document.id document.body parent)

/-- The actions that index documents, each of which must have an identifier. -/
def indexActions (index : String) (parent : Option String) :
    List Document → Except Error (List BulkAction)
  | [] => .ok []
  | document :: rest =>
    if document.id.isEmpty then .error (.documentWithoutId index)
    else (indexActions index parent rest).map (.index document.id parent document.body :: ·)

/-- Writes a batch of documents; the index is created even for an empty one. -/
def indexAll (manager : IndexManager) (index : String) (documents : List Document)
    (parent : Option String) : Program BulkSummary := do
  let actions ← (indexActions index parent documents : Except Error _)
  let _ ← manager.ensureIndex index
  if actions.isEmpty then return .empty
  let response ← Program.request (.bulk index actions)
  ((BulkSummary.ofResponse response).check index : Except Error BulkSummary)

/-- Deletes the index and builds it anew from the documents. -/
def reindexAll (manager : IndexManager) (index : String) (documents : List Document)
    (parent : Option String) : Program BulkSummary := do
  if ← hasIndex index then dropIndex index
  if documents.isEmpty then
    let _ ← manager.ensureIndex index
    return .empty
  manager.indexAll index documents parent

def delete (manager : IndexManager) (index id : String) : Program Unit := do
  let _ ← manager.ensureIndex index
  Program.request (.deleteDocument index id)

/-- Deletes documents in one bulk call; for no documents nothing is called. -/
def deleteAll (manager : IndexManager) (index : String) (documents : List Document) :
    Program BulkSummary := do
  if documents.isEmpty then return .empty
  let _ ← manager.ensureIndex index
  let actions := documents.map fun document ↦ BulkAction.delete document.id none
  let response ← Program.request (.bulk index actions)
  ((BulkSummary.ofResponse response).check index : Except Error BulkSummary)

/-- Deletes the documents whose field has a value, and says how many they were; in an absent index
there are none. -/
def deleteByTerm (index field value : String) : Program UInt64 := do
  if ← hasIndex index then Program.request (.deleteByQuery index (.termIs field (.str value)))
  else return 0

end IndexManager

end FacetSearch

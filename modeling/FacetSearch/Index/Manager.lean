import FacetSearch.Engine.Program
import FacetSearch.Index.Settings

/-!
# The life of an index

An index is created when it is first needed. Right after its creation the listeners run in order;
if one fails, the index is deleted again and the failure is reported. Existing indices are left as
they are. An absent index is deleted without complaint.
-/

namespace FacetSearch

/-- What is done with a new index of a given name. -/
abbrev Listener := String → Program Unit

structure IndexManager where
  settings : IndexSettings
  listeners : List Listener

namespace IndexManager

def hasIndex (index : String) : Program Bool := .request (.indexExists index)

/-- Runs the listeners in order; the first that fails ends the life of the index. -/
def configure (index : String) : List Listener → Program Unit
  | [] => return ()
  | listener :: rest => do
    match ← (listener index).attempt with
    | .ok () => configure index rest
    | .error cause =>
      let _ ← (Program.request (.deleteIndex index)).attempt
      Program.fail (.setupFailed index cause)

/-- Creates an index if it is absent and says whether it did. -/
def ensureIndex (manager : IndexManager) (index : String) : Program Bool := do
  if ← hasIndex index then return false
  let body ← (manager.settings.createBody : Except Error Json)
  Program.request (.createIndex index body)
  configure index manager.listeners
  return true

/-- Deletes an index unless it is absent. -/
def dropIndex (index : String) : Program Unit := do
  match ← (Program.request (.deleteIndex index)).attempt with
  | .ok () | .error (.indexNotFound _) => return ()
  | .error e => Program.fail e

/-- The mapping of an index, which is `none` when the index is absent. -/
def fieldMapping (index : String) : Program (Option Json) := do
  if ← hasIndex index then
    let mapping ← Program.request (.getMapping index)
    return some mapping
  else return none

end IndexManager

end FacetSearch

import FacetSearch.Engine.Program

/-!
# An engine in memory

A faithful document store: the documents of each index under their identifiers, and the mappings
of the indices. Answers can be prepared: a search response, a bulk response for one bulk call, the
outcome of bulk actions on given documents, and faults of the next calls of a name. Without
prepared answers every call does what it says, and a search finds nothing.
-/

namespace FacetSearch

/-- What can go wrong with a call, whatever its index. -/
inductive Fault where
  | indexNotFound
  | misconfigured (reason : String)
  | backend (status : UInt16) (reason : String)
deriving DecidableEq

/-- The error of a fault in a call that concerns an index. -/
def Fault.error (index : String) : Fault → Error
  | indexNotFound => .indexNotFound index
  | misconfigured reason => .misconfigured reason
  | backend status reason => .backend status index reason

structure Memory where
  indices : StringMap (StringMap Json)
  mappings : StringMap Json
  searchAnswer : Option Json
  bulkAnswer : Option Json
  /-- The outcomes prepared for bulk actions, by identifier. -/
  outcomes : StringMap Json
  /-- The faults prepared for calls of a name, in the order in which they occur. -/
  faults : List (String × Fault)

namespace Memory

def empty : Memory := ⟨∅, ∅, none, none, ∅, []⟩

instance : Inhabited Memory := ⟨empty⟩

def withIndices (memory : Memory) (indices : StringMap (StringMap Json)) : Memory :=
  { memory with indices := indices }

def withMappings (memory : Memory) (mappings : StringMap Json) : Memory :=
  { memory with mappings := mappings }

/-- The first fault prepared for a call of that name, and the others. -/
def takeFault (name : String) :
    List (String × Fault) → Option (Fault × List (String × Fault))
  | [] => none
  | (n, fault) :: rest =>
    if n = name then some (fault, rest)
    else (takeFault name rest).map fun (found, others) ↦ (found, (n, fault) :: others)

/-- An outcome under the name of its action. -/
def item (action : BulkAction) (outcome : Json) : Json := .obj [(action.verb, outcome)]

/-- An outcome with a status. -/
def outcome (id : String) (status : Nat) : Json :=
  .record [("_id", some (.str id)), ("status", some (.nat status))]

/-- A prepared outcome with the identifier put in. -/
def withId (id : String) : Json → Json
  | .obj members => .obj (Entries.insert members "_id" (.str id))
  | other => other

/-- Applies an action to the documents of an index and gives its outcome. -/
def apply (outcomes : StringMap Json) (documents : StringMap Json) (action : BulkAction) :
    StringMap Json × Json :=
  match outcomes.get? action.id, action with
  | some prepared, _ => (documents, item action (withId action.id prepared))
  | none, .index id _ document => (documents.insert id document, item action (outcome id 201))
  | none, .delete id _ =>
    (documents.erase id, item action (outcome id (if documents.contains id then 200 else 404)))

/-- Applies actions in order and gives their outcomes. -/
def applyAll (outcomes : StringMap Json) (documents : StringMap Json) :
    List BulkAction → StringMap Json × List Json
  | [] => (documents, [])
  | action :: rest =>
    let (documents, first) := apply outcomes documents action
    let (documents, others) := applyAll outcomes documents rest
    (documents, first :: others)

/-- An outcome that reports an error. -/
def reportsError : Json → Bool
  | .obj [(_, outcome)] => (outcome.member? "error").isSome
  | _ => false

/-- The bulk response with the given outcomes. -/
def bulkResponse (items : List Json) : Json :=
  .record [("took", some (.nat 1)), ("errors", some (.bool (items.any reportsError))),
    ("items", some (.arr items))]

def decodeOr {α : Type} (value? : Option α) : Except Error α :=
  match value? with
  | some value => .ok value
  | none => .error .json

/-- Every entry of a term query equals the document's member. -/
def holdsAll (wanted : StringMap Json) (document : Json) : Bool :=
  wanted.entries.all fun (field, value) ↦ document.member? field == some value

/-- The documents that a term query leaves, and the number of the others. -/
def deleteMatching (wanted : StringMap Json) (documents : StringMap Json) :
    StringMap Json × UInt64 :=
  let kept : StringMap Json :=
    ⟨documents.entries.filter fun entry ↦ !holdsAll wanted entry.2,
      List.Pairwise.filter _ documents.ascending⟩
  (kept, (documents.size - kept.size).toUInt64)

/-- The reply of the store, faults aside, when the index is there with the given documents. -/
def replyWithin (memory : Memory) (documents : StringMap Json) :
    (call : Call) → Except Error call.Reply × Memory
  | .indexExists _ => (.ok true, memory)
  | .createIndex index _ =>
    (.error (.backend 400 index "resource_already_exists_exception"), memory)
  | .deleteIndex index =>
    (.ok (), (memory.withIndices (memory.indices.erase index)).withMappings
      (memory.mappings.erase index))
  | .putMapping index mapping =>
    (.ok (), memory.withMappings (memory.mappings.insert index mapping))
  | .getMapping index => (.ok ((memory.mappings.get? index).getD (.obj [])), memory)
  | .search .. => match memory.searchAnswer with
    | some body => (decodeOr (body.decode SearchResponse.decode), memory)
    | none => (.ok .empty, memory)
  | .count .. => (.ok documents.size.toUInt64, memory)
  | .indexDocument index id document _ =>
    (.ok (), memory.withIndices (memory.indices.insert index (documents.insert id document)))
  | .bulk index actions => match memory.bulkAnswer with
    | some body => (decodeOr (body.decode BulkResponse.decode), { memory with bulkAnswer := none })
    | none =>
      let (documents, items) := applyAll memory.outcomes documents actions
      (decodeOr ((bulkResponse items).decode BulkResponse.decode),
        memory.withIndices (memory.indices.insert index documents))
  | .deleteDocument index id =>
    (.ok (), memory.withIndices (memory.indices.insert index (documents.erase id)))
  | .deleteByQuery index query => match query with
    | .term wanted =>
      let (documents, count) := deleteMatching wanted documents
      (.ok count, memory.withIndices (memory.indices.insert index documents))
    | _ => (.ok 0, memory)

/-- The reply of the store, faults aside, when the index is absent. -/
def replyWithout (memory : Memory) : (call : Call) → Except Error call.Reply × Memory
  | .indexExists _ => (.ok false, memory)
  | .createIndex index _ => (.ok (), memory.withIndices (memory.indices.insert index ∅))
  | call => (.error (.indexNotFound call.index), memory)

/-- The reply of the store, faults aside. -/
def faultless (call : Call) (memory : Memory) : Except Error call.Reply × Memory :=
  match memory.indices.get? call.index with
  | some documents => memory.replyWithin documents call
  | none => memory.replyWithout call

/-- The reply to a call, which is the error of the first fault prepared for it, if there is one. -/
def reply (call : Call) (memory : Memory) : Except Error call.Reply × Memory :=
  match takeFault call.name memory.faults with
  | some (fault, others) => (.error (fault.error call.index), { memory with faults := others })
  | none => faultless call memory

def engine : Engine Memory := ⟨reply⟩

end Memory

end FacetSearch

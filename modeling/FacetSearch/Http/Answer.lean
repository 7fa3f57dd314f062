import FacetSearch.Engine.Call
import FacetSearch.Text.Utf8

/-!
# Answers

What an answer means for a call. Its body arrives in parts, and one beyond the limit is an error
whatever the status. Any other status than success is an error too: an index is absent if the body
says so, and else the engine's own reason is reported, or the body itself if it gives none. Whether
an index exists is told by the status alone, and a document that is gone already may be deleted
again.
-/

namespace FacetSearch.Http

/-- A body as it arrives. -/
structure Body where
  /-- The length that is known before the first part arrives. -/
  announced : Option Nat
  parts : List (List UInt8)
  exact : ∀ length ∈ announced, length = parts.flatten.length
deriving DecidableEq

structure Answer where
  status : UInt16
  body : Body
deriving DecidableEq

namespace Body

def octets (body : Body) : List UInt8 := body.parts.flatten

def empty : Body := ⟨none, [], nofun⟩

/-- The octets that were read and those of the parts that follow, unless they grow beyond the
limit. -/
def gather (limit : Nat) (before : List UInt8) : List (List UInt8) → Option (List UInt8)
  | [] => some before
  | part :: rest =>
    if limit < before.length + part.length then none else gather limit (before ++ part) rest

/-- The octets of the body, unless it is known to be beyond the limit or grows beyond it. -/
def read (limit : UInt64) (index : String) (body : Body) : Except Error (List UInt8) :=
  if body.announced.any (limit.toNat < ·) then .error (.responseTooLarge index limit)
  else match gather limit.toNat [] body.parts with
    | some octets => .ok octets
    | none => .error (.responseTooLarge index limit)

end Body

/-- The text of octets for a reader of JSON. Octets that form no character make the string in which
they stand unreadable, like a lone surrogate, and are malformed elsewhere, like its escape. -/
def jsonText : List Utf8.Unit → List Char
  | [] => []
  | some '\\' :: some c :: rest => '\\' :: c :: jsonText rest
  | some '\\' :: none :: rest => '\\' :: ' ' :: jsonText rest
  | some c :: rest => c :: jsonText rest
  | none :: rest => "\\uD800\\uD800".toList ++ jsonText rest

/-- Decodes the octets of a JSON text. -/
def decodeOctets {α : Type} (decoder : RawJson → Option α) (octets : List UInt8) : Option α :=
  Json.decodeText decoder (String.ofList (jsonText (Utf8.units octets)))

/-- The type of the error that an absent index is reported with. -/
def indexNotFoundType : String := "index_not_found_exception"

namespace Answer

def isSuccess (answer : Answer) : Bool := 200 ≤ answer.status && answer.status < 300

/-- The error that an answer without success reports in the octets of its body. -/
def failure (index : String) (answer : Answer) (octets : List UInt8) : Error :=
  match decodeOctets ErrorResponse.decode octets with
  | some response =>
    if response.errorType = some indexNotFoundType then .indexNotFound index
    else .backend answer.status index response.reason
  | none => .backend answer.status index (String.ofList (Utf8.decodeLossy octets))

/-- The value in the body of an answer with success. -/
def value {α : Type} (limit : UInt64) (index : String) (decoder : RawJson → Option α)
    (answer : Answer) : Except Error α := do
  let octets ← answer.body.read limit index
  if answer.isSuccess then match decodeOctets decoder octets with
    | some value => .ok value
    | none => .error .json
  else .error (answer.failure index octets)

/-- Whether an index exists, going by the status. -/
def existence (index : String) (answer : Answer) : Except Error Bool :=
  if answer.isSuccess then .ok true
  else if answer.status = 404 then .ok false
  else .error (.backend answer.status index "index existence check failed")

/-- The outcome of the deletion of a document. -/
def deletion (limit : UInt64) (index : String) (answer : Answer) : Except Error Unit := do
  let octets ← answer.body.read limit index
  if answer.isSuccess then return ()
  match answer.failure index octets with
  | .backend 404 .. => return ()
  | error => .error error

/-- The mapping of an index in a body that has the mappings of indices under their names. An index
that goes by another name is the first one. -/
def mappingOf (index : String) (body : Json) : Json :=
  let first := (body.members?.bind List.head?).map Prod.snd
  (((body.member? index <|> first).bind fun found ↦ found.member? "mappings")).getD (.obj [])

/-- The reply that an answer gives to a call. -/
def reply (limit : UInt64) (answer : Answer) : (call : Call) → Except Error call.Reply
  | .indexExists index => answer.existence index
  | .createIndex index _ | .deleteIndex index | .putMapping index _
  | .indexDocument index _ _ _ => (answer.value limit index RawJson.toJson?).map fun _ ↦ ()
  | .getMapping index => (answer.value limit index RawJson.toJson?).map (mappingOf index)
  | .search index _ => answer.value limit index SearchResponse.decode
  | .count index _ => answer.value limit index decodeCount
  | .bulk index _ => answer.value limit index BulkResponse.decode
  | .deleteDocument index _ => answer.deletion limit index
  | .deleteByQuery index _ =>
    (answer.value limit index DeletionResponse.decode).map DeletionResponse.deleted

end Answer

end FacetSearch.Http

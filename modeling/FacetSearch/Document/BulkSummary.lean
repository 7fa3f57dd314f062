import FacetSearch.Engine.Call

/-!
# Summaries of bulk calls

An action failed if its outcome reports an error or a status from 300 on, except that 404 means a
document that was gone already. Outcomes without a result count neither way.
-/

namespace FacetSearch

/-- An action that failed. -/
structure BulkFailure where
  id : String
  status : UInt16
  reason : String
deriving DecidableEq

structure BulkSummary where
  total : Nat
  succeeded : Nat
  failures : List BulkFailure
deriving DecidableEq

namespace BulkResult

def failed (result : BulkResult) : Bool :=
  result.error.isSome || (300 ≤ result.status && result.status ≠ 404)

def reason (result : BulkResult) : String :=
  match result.error with
  | some error => error.text
  | none => s!"status {result.status}"

def failure (result : BulkResult) : BulkFailure :=
  ⟨result.id.getD "", result.status, result.reason⟩

end BulkResult

namespace BulkSummary

/-- The summary of no actions. -/
def empty : BulkSummary := ⟨0, 0, []⟩

def ofResponse (response : BulkResponse) : BulkSummary :=
  let results := response.items.filterMap BulkItem.result?
  ⟨response.items.length, (results.filter fun result ↦ !result.failed).length,
    (results.filter BulkResult.failed).map BulkResult.failure⟩

def hasFailures (summary : BulkSummary) : Bool := !summary.failures.isEmpty

/-- The summary, unless an action failed. -/
def check (summary : BulkSummary) (index : String) : Except Error BulkSummary :=
  if summary.hasFailures then .error (.bulk index summary.failures.length summary.total)
  else .ok summary

end BulkSummary

end FacetSearch

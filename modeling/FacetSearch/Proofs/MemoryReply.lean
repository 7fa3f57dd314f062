import FacetSearch.Engine.Memory
import FacetSearch.Proofs.StringMapLookup

/-!
# What the store in memory replies

What a call does to the indices of the store: reading calls leave them alone, creation and deletion
change the one index that they are about, and writes only replace the documents of an index that is
there.
-/

namespace FacetSearch

namespace Memory

/-- Which indices are there after a call that meets no fault. -/
def containsAfter (memory : Memory) (other : String) : Call → Bool
  | .createIndex index _ => memory.indices.contains other || index == other
  | .deleteIndex index => memory.indices.contains other && index != other
  | _ => memory.indices.contains other

theorem contains_replyWithin {memory : Memory} {documents : StringMap Json} {call : Call}
    (hindex : memory.indices.get? call.index = some documents) (other : String) :
    (memory.replyWithin documents call).2.indices.contains other =
      memory.containsAfter other call := by
  have hcontains : memory.indices.contains call.index := by
    rw [StringMap.contains_eq, hindex]
    rfl
  have hrefill (documents : StringMap Json) :
      (memory.indices.insert call.index documents).contains other =
        memory.indices.contains other :=
    StringMap.contains_insert_of_contains hcontains documents other
  cases call with
  | indexExists _ | putMapping _ _ | getMapping _ | count _ _ => rfl
  | createIndex index body =>
    by_cases h : index = other
    · subst h
      have hpresent : memory.indices.contains index = true := hcontains
      simp [replyWithin, containsAfter, hpresent]
    · simp [replyWithin, containsAfter, h]
  | deleteIndex index => exact StringMap.contains_erase _ _ _
  | search index request => cases h : memory.searchAnswer <;> simp [replyWithin, containsAfter, h]
  | indexDocument index id document routing => exact hrefill _
  | bulk index actions =>
    cases h : memory.bulkAnswer with
    | some body => simp [replyWithin, containsAfter, h]
    | none =>
      simp only [replyWithin, h]
      exact hrefill _
  | deleteDocument index id => exact hrefill _
  | deleteByQuery index query =>
    cases query with
    | term wanted => exact hrefill _
    | matchAll _ | startsWith _ | bool _ _ _ _ | hasField _ | text _ | ids _ => rfl

theorem contains_replyWithout {memory : Memory} {call : Call}
    (hindex : memory.indices.get? call.index = none) (other : String) :
    (memory.replyWithout call).2.indices.contains other = memory.containsAfter other call := by
  cases call with
  | createIndex index body => exact StringMap.contains_insert _ _ _ _
  | deleteIndex index =>
    by_cases h : index = other
    · subst h
      have habsent : memory.indices.contains index = false := by
        rw [StringMap.contains_eq]
        exact congrArg Option.isSome hindex
      simp [replyWithout, containsAfter, habsent]
    · simp [replyWithout, containsAfter, h]
  | indexExists _ | putMapping _ _ | getMapping _ | search _ _ | count _ _
  | indexDocument _ _ _ _ | bulk _ _ | deleteDocument _ _ | deleteByQuery _ _ => rfl

theorem contains_faultless (call : Call) (memory : Memory) (other : String) :
    (faultless call memory).2.indices.contains other = memory.containsAfter other call := by
  unfold faultless
  split
  · next hindex => exact contains_replyWithin hindex other
  · next hindex => exact contains_replyWithout hindex other

/-- A call meets a fault, which leaves the indices alone, or it does what it says. -/
theorem reply_cases (call : Call) (memory : Memory) :
    (∃ error, (reply call memory).1 = .error error ∧
      (reply call memory).2.indices = memory.indices) ∨
    reply call memory = faultless call memory := by
  unfold reply
  split
  · next fault others _ => exact .inl ⟨fault.error call.index, rfl, rfl⟩
  · exact .inr rfl

theorem result_indexExists {memory : Memory} {index : String} {found : Bool}
    (hfound : (reply (.indexExists index) memory).1 = .ok found) :
    found = memory.indices.contains index := by
  rcases reply_cases (.indexExists index) memory with ⟨error, herror, -⟩ | heq
  · rw [herror] at hfound
    cases hfound
  · rw [heq, faultless] at hfound
    rw [StringMap.contains_eq]
    cases hindex : memory.indices.get? index with
    | some documents =>
      simp only [Call.index, hindex] at hfound
      exact (Except.ok.inj hfound).symm
    | none =>
      simp only [Call.index, hindex] at hfound
      exact (Except.ok.inj hfound).symm

/-- A call that creates or deletes no index changes nothing about which indices are there. -/
theorem contains_reply {call : Call} {memory : Memory} {other : String}
    (hkept : memory.containsAfter other call = memory.indices.contains other) :
    (reply call memory).2.indices.contains other = memory.indices.contains other := by
  rcases reply_cases call memory with ⟨error, -, hsame⟩ | heq
  · rw [hsame]
  · rw [heq, contains_faultless, hkept]

/-- Reading calls leave the indices of the store and their documents alone. -/
theorem indices_reply_of_reads (call : Call) (memory : Memory) (hcall : call.changes = false) :
    (engine.reply call memory).2.indices = memory.indices := by
  change (reply call memory).2.indices = memory.indices
  unfold reply
  split
  · rfl
  · unfold faultless
    split
    · cases call with
      | indexExists _ | getMapping _ | count _ _ => rfl
      | search index request => cases h : memory.searchAnswer <;> simp [replyWithin, h]
      | createIndex _ _ | deleteIndex _ | putMapping _ _ | indexDocument _ _ _ _ | bulk _ _
      | deleteDocument _ _ | deleteByQuery _ _ => cases hcall
    · cases call with
      | indexExists _ | getMapping _ | count _ _ | search _ _ => rfl
      | createIndex _ _ | deleteIndex _ | putMapping _ _ | indexDocument _ _ _ _ | bulk _ _
      | deleteDocument _ _ | deleteByQuery _ _ => cases hcall

end Memory

end FacetSearch

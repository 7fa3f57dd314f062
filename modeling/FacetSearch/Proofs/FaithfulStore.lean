import FacetSearch.Proofs.BulkAcknowledgement

/-!
# Programs over a faithful store

A store with no prepared answers does what it is told. `Program.Takes` says of a program how it
changes the indices of every such store, and goes through sequences, so the effect of a program is
put together from those of its calls. In particular a bulk call stores the last document of each
identifier and answers with one success for each document.
-/

namespace FacetSearch

/-- The documents of each index under their identifiers. -/
abbrev Indices := StringMap (StringMap Json)

namespace Memory

/-- No answer is prepared: every call does what it says. Searches do not matter here. -/
structure Faithful (memory : Memory) : Prop where
  faults : memory.faults = []
  bulkAnswer : memory.bulkAnswer = none
  outcomes : memory.outcomes = ∅

theorem faithful_empty : empty.Faithful := ⟨rfl, rfl, rfl⟩

namespace Faithful

variable {memory : Memory}

theorem withIndices (hfaithful : memory.Faithful) (indices : Indices) :
    (memory.withIndices indices).Faithful :=
  ⟨hfaithful.faults, hfaithful.bulkAnswer, hfaithful.outcomes⟩

theorem withMappings (hfaithful : memory.Faithful) (mappings : StringMap Json) :
    (memory.withMappings mappings).Faithful :=
  ⟨hfaithful.faults, hfaithful.bulkAnswer, hfaithful.outcomes⟩

theorem reply_eq (hfaithful : memory.Faithful) (call : Call) :
    Memory.reply call memory = faultless call memory := by
  rw [Memory.reply, hfaithful.faults]
  rfl

/-- A call takes nothing prepared from a store that has nothing prepared. -/
theorem reply (hfaithful : memory.Faithful) (call : Call) :
    (Memory.reply call memory).2.Faithful := by
  rw [hfaithful.reply_eq, faultless]
  split
  · cases call with
    | indexExists _ | createIndex _ _ | getMapping _ | count _ _ => exact hfaithful
    | deleteIndex index => exact (hfaithful.withIndices _).withMappings _
    | putMapping index mapping => exact hfaithful.withMappings _
    | search index request =>
      cases hanswer : memory.searchAnswer <;> simpa [replyWithin, hanswer] using hfaithful
    | indexDocument _ _ _ _ | deleteDocument _ _ => exact hfaithful.withIndices _
    | bulk index actions =>
      simp only [replyWithin, hfaithful.bulkAnswer]
      exact hfaithful.withIndices _
    | deleteByQuery index query =>
      cases query with
      | term wanted => exact hfaithful.withIndices _
      | matchAll _ | startsWith _ | bool _ _ _ _ | hasField _ | text _ | ids _ => exact hfaithful
  · cases call with
    | createIndex index body => exact hfaithful.withIndices _
    | indexExists _ | deleteIndex _ | putMapping _ _ | getMapping _ | search _ _ | count _ _
    | indexDocument _ _ _ _ | bulk _ _ | deleteDocument _ _ | deleteByQuery _ _ => exact hfaithful

theorem run {α : Type} (hfaithful : memory.Faithful) (program : Program α) :
    (program.run engine memory).state.Faithful := by
  induction program generalizing memory with
  | done result => exact hfaithful
  | ask call next ih => exact ih _ (hfaithful.reply call)

end Faithful

end Memory

/-! ## The effect of a program -/

namespace Program

variable {α β : Type}

/-- Over every faithful store with the indices `before`, the program succeeds with `value` and leaves
the indices `after`. -/
def Takes (program : Program α) (before : Indices) (value : α) (after : Indices) : Prop :=
  ∀ memory : Memory, memory.Faithful → memory.indices = before →
    (program.run Memory.engine memory).result = .ok value ∧
      (program.run Memory.engine memory).state.indices = after

variable {indices : Indices} {index : String}

theorem takes_done (value : α) (indices : Indices) : (done (.ok value)).Takes indices value indices :=
  fun _ _ hindices ↦ ⟨rfl, hindices⟩

theorem Takes.bind {program : Program α} {f : α → Program β} {before middle after : Indices} {a : α}
    {b : β} (hfirst : program.Takes before a middle) (hrest : (f a).Takes middle b after) :
    (program.bind f).Takes before b after := by
  intro memory hfaithful hbefore
  obtain ⟨hresult, hmiddle⟩ := hfirst memory hfaithful hbefore
  rw [run_bind, Run.followedBy_ok hresult]
  exact hrest _ (hfaithful.run program) hmiddle

theorem Takes.attempt {program : Program α} {before after : Indices} {value : α}
    (htakes : program.Takes before value after) :
    program.attempt.Takes before (.ok value) after := by
  intro memory hfaithful hbefore
  obtain ⟨hresult, hafter⟩ := htakes memory hfaithful hbefore
  rw [run_attempt]
  exact ⟨congrArg Except.ok hresult, hafter⟩

/-- A call about an index that is there has the effect that the store says, faults aside. -/
theorem takes_within {call : Call} {documents : StringMap Json}
    (hindex : indices.get? call.index = some documents) {value : call.Reply} {after : Indices}
    (hreply : ∀ memory : Memory, memory.Faithful → memory.indices = indices →
      (memory.replyWithin documents call).1 = .ok value ∧
        (memory.replyWithin documents call).2.indices = after) :
    (request call).Takes indices value after := by
  intro memory hfaithful hindices
  rw [run_request]
  change (Memory.reply call memory).1 = _ ∧ (Memory.reply call memory).2.indices = _
  rw [hfaithful.reply_eq, Memory.faultless, hindices, hindex]
  exact hreply memory hfaithful hindices

/-- So has a call about an index that is absent. -/
theorem takes_without {call : Call} (hindex : indices.get? call.index = none)
    {value : call.Reply} {after : Indices}
    (hreply : ∀ memory : Memory, memory.indices = indices →
      (memory.replyWithout call).1 = .ok value ∧ (memory.replyWithout call).2.indices = after) :
    (request call).Takes indices value after := by
  intro memory hfaithful hindices
  rw [run_request]
  change (Memory.reply call memory).1 = _ ∧ (Memory.reply call memory).2.indices = _
  rw [hfaithful.reply_eq, Memory.faultless, hindices, hindex]
  exact hreply memory hindices

theorem takes_indexExists (index : String) (indices : Indices) :
    (request (.indexExists index)).Takes indices (indices.contains index) indices := by
  rw [StringMap.contains_eq]
  cases hindex : indices.get? index with
  | some documents =>
    apply takes_within hindex
    intro memory _ hindices
    exact ⟨rfl, hindices⟩
  | none =>
    apply takes_without hindex
    intro memory hindices
    exact ⟨rfl, hindices⟩

theorem takes_createIndex (habsent : indices.get? index = none) (body : Json) :
    (request (.createIndex index body)).Takes indices () (indices.insert index ∅) := by
  apply takes_without habsent
  intro memory hindices
  rw [← hindices]
  exact ⟨rfl, rfl⟩

theorem takes_deleteIndex {documents : StringMap Json} (hpresent : indices.get? index = some documents) :
    (request (.deleteIndex index)).Takes indices () (indices.erase index) := by
  apply takes_within hpresent
  intro memory _ hindices
  rw [← hindices]
  exact ⟨rfl, rfl⟩

theorem takes_putMapping {documents : StringMap Json} (hpresent : indices.get? index = some documents)
    (mapping : Json) : (request (.putMapping index mapping)).Takes indices () indices := by
  apply takes_within hpresent
  intro memory _ hindices
  exact ⟨rfl, hindices⟩

end Program

/-! ## Bulk calls -/

/-- The documents that are left when all are stored in order. -/
def Document.stored (documents : List Document) : StringMap Json :=
  .ofList (documents.map fun document ↦ (document.id, document.body))

/-- The last document with an identifier is the one that is stored. -/
theorem Document.get?_stored (documents : List Document) (id : String) :
    (Document.stored documents).get? id =
      ((documents.filter fun document ↦ document.id = id).getLast?).map Document.body := by
  rw [Document.stored, StringMap.get?_ofList, List.filter_map, List.getLast?_map, Option.map_map]
  rfl

namespace Memory

/-- The outcome of a document that was stored. -/
def storedOutcome (document : Document) : BulkItem :=
  ⟨some ⟨none, some document.id, none, 201, none⟩, none, none, none⟩

theorem outcome_eq (id : String) (status : Nat) :
    outcome id status = .obj [("_id", .str id), ("status", .nat status)] := by
  have horder : ¬"status" < "_id" := by decide
  have hne : "status" ≠ "_id" := by decide
  simp only [outcome, Json.record, Json.ofMembers, List.filterMap_cons, List.filterMap_nil,
    Option.map_some, Entries.sorted, List.foldl_cons, List.foldl_nil, Entries.insert, horder, hne,
    if_false]

theorem bulkResponse_eq (items : List Json) :
    bulkResponse items = .obj [("errors", .bool (items.any reportsError)), ("items", .arr items),
      ("took", .nat 1)] := by
  have herrors : "errors" < "took" := by decide
  have horder : ¬"items" < "errors" := by decide
  have hne : "items" ≠ "errors" := by decide
  have hitems : "items" < "took" := by decide
  simp only [bulkResponse, Json.record, Json.ofMembers, List.filterMap_cons, List.filterMap_nil,
    Option.map_some, Entries.sorted, List.foldl_cons, List.foldl_nil, Entries.insert, herrors,
    horder, hne, hitems, if_true, if_false]

/-- The item with which the store answers the writing of a document. -/
def storedItem (parent : Option String) (document : Document) : Json :=
  item (.index document.id parent document.body) (outcome document.id 201)

theorem reportsError_storedItem (parent : Option String) (document : Document) :
    reportsError (storedItem parent document) = false := by
  rw [storedItem, outcome_eq]
  rfl

theorem decode_storedItem (parent : Option String) (document : Document) :
    BulkItem.decode (RawJson.ofJson (storedItem parent document)) = some (storedOutcome document) := by
  rw [storedItem, outcome_eq]
  rfl

theorem decode_storedItems (parent : Option String) (documents : List Document) :
    (RawJson.ofJsonElements (documents.map (storedItem parent))).mapM BulkItem.decode =
      some (documents.map storedOutcome) := by
  induction documents with
  | nil => rfl
  | cons document rest ih =>
    simp only [List.map_cons, RawJson.ofJsonElements, List.mapM_cons, decode_storedItem, ih]
    rfl

theorem decode_bulkResponse (parent : Option String) (documents : List Document) :
    (bulkResponse (documents.map (storedItem parent))).decode BulkResponse.decode =
      some ⟨1, false, documents.map storedOutcome⟩ := by
  have herrors : (documents.map (storedItem parent)).any reportsError = false := by
    simp [reportsError_storedItem]
  rw [bulkResponse_eq, herrors]
  change ((RawJson.ofJsonElements (documents.map (storedItem parent))).mapM BulkItem.decode).bind
    (fun items ↦ some (⟨1, false, items⟩ : BulkResponse)) = _
  rw [decode_storedItems]
  rfl

/-- Storing documents in order replaces each by those with its identifier that follow. -/
theorem applyAll_documentActions (parent : Option String) (documents : List Document)
    (done : StringMap Json) :
    applyAll ∅ done (IndexManager.documentActions parent documents) =
      (documents.foldl (fun done document ↦ done.insert document.id document.body) done,
        documents.map (storedItem parent)) := by
  induction documents generalizing done with
  | nil => rfl
  | cons document rest ih =>
    have hrest := ih (done.insert document.id document.body)
    simp only [IndexManager.documentActions] at hrest
    simp only [IndexManager.documentActions, List.map_cons, applyAll]
    rw [show apply ∅ done (.index document.id parent document.body) =
      (done.insert document.id document.body, storedItem parent document) from rfl, hrest]
    rfl

theorem applyAll_empty (parent : Option String) (documents : List Document) :
    applyAll ∅ ∅ (IndexManager.documentActions parent documents) =
      (Document.stored documents, documents.map (storedItem parent)) := by
  rw [applyAll_documentActions, Document.stored, ← StringMap.foldl_insert_empty, List.foldl_map]

/-- The answer of the store acknowledges every document. -/
theorem check_storedOutcomes (documents : List Document) (index : String) :
    (BulkSummary.ofResponse ⟨1, false, documents.map storedOutcome⟩).check index =
      .ok ⟨documents.length, documents.length, []⟩ := by
  have hresults : (documents.map storedOutcome).filterMap BulkItem.result? =
      documents.map fun document ↦ ⟨none, some document.id, none, 201, none⟩ := by
    rw [List.filterMap_map, ← List.filterMap_eq_map]
    rfl
  have hfailures : (BulkSummary.ofResponse ⟨1, false, documents.map storedOutcome⟩).failures = [] := by
    rw [BulkSummary.failures_ofResponse_eq_nil_iff]
    intro item hitem result hresult
    obtain ⟨document, -, rfl⟩ := List.mem_map.mp hitem
    cases hresult
    rfl
  have hsucceeded := BulkSummary.succeeded_of_failures_eq_nil hfailures
  rw [hresults, List.length_map] at hsucceeded
  rw [BulkSummary.check_eq_ok_iff]
  refine ⟨hfailures, ?_⟩
  rw [← hfailures]
  nth_rewrite 2 [← hsucceeded]
  simp [BulkSummary.ofResponse]

end Memory

/-- Writing documents to an index that is empty leaves the last of each identifier in it. -/
theorem Program.takes_writeActions {indices : Indices} {index : String}
    (hindex : indices.get? index = some ∅) (parent : Option String) (documents : List Document) :
    (IndexManager.writeActions index (IndexManager.documentActions parent documents)).Takes indices
      ⟨documents.length, documents.length, []⟩ (indices.insert index (Document.stored documents)) := by
  cases documents with
  | nil =>
    have hsame : indices.insert index (Document.stored []) = indices :=
      StringMap.insert_of_get?_eq_some hindex
    rw [hsame]
    exact takes_done _ indices
  | cons document rest =>
    have hbulk : (request (.bulk index (IndexManager.documentActions parent (document :: rest)))).Takes
        indices ⟨1, false, (document :: rest).map Memory.storedOutcome⟩
        (indices.insert index (Document.stored (document :: rest))) := by
      apply takes_within hindex
      intro memory hfaithful hindices
      simp only [Memory.replyWithin, hfaithful.bulkAnswer, hfaithful.outcomes, Memory.applyAll_empty,
        Memory.decode_bulkResponse]
      rw [← hindices]
      exact ⟨rfl, rfl⟩
    refine hbulk.bind ?_
    rw [Memory.check_storedOutcomes]
    exact takes_done _ _

end FacetSearch

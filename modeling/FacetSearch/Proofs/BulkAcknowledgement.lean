import FacetSearch.Proofs.FaultyBatch

/-!
# What a successful batch says about its documents

A batch succeeds when no outcome in the engine's answer reports an error or a status from 300 on,
404 aside. This is less than an acknowledgement of every document: the answer may have fewer items
than the batch has documents, or items under no known action, and an outcome of status 404 passes
for a success although nothing was written. `acknowledged_iff` says that these are the only gaps.
-/

namespace FacetSearch

/-- The document of the action was written: no error is reported and the status is one of success. -/
def BulkResult.Written (result : BulkResult) : Prop := result.error = none ∧ result.status < 300

namespace BulkResponse

/-- There are as many items as documents, and each of them says that its document was written. -/
structure Acknowledges (response : BulkResponse) (documents : Nat) : Prop where
  length_eq : response.items.length = documents
  written : ∀ item ∈ response.items, ∃ result, item.result? = some result ∧ result.Written

/-- There are as many items as documents, each with an outcome whose status is not 404. -/
structure Accounts (response : BulkResponse) (documents : Nat) : Prop where
  length_eq : response.items.length = documents
  found : ∀ item ∈ response.items, ∃ result, item.result? = some result ∧ result.status ≠ 404

end BulkResponse

/-! ## Outcomes and summaries -/

namespace BulkResult

/-- An action that did not fail was written, unless its status is 404. -/
theorem written_iff {result : BulkResult} (hfailed : result.failed = false) :
    result.Written ↔ result.status ≠ 404 := by
  simp only [failed, Bool.or_eq_false_iff, Bool.and_eq_false_iff, decide_eq_false_iff_not,
    Option.isSome_eq_false_iff, Option.isNone_iff_eq_none, not_not] at hfailed
  obtain ⟨herror, hstatus⟩ := hfailed
  rw [Written, and_iff_right herror]
  constructor
  · intro hbelow heq
    rw [heq] at hbelow
    exact absurd hbelow (by decide)
  · intro hother
    have hlow : ¬300 ≤ result.status := hstatus.resolve_right hother
    exact UInt16.not_le.mp hlow

end BulkResult

namespace BulkSummary

theorem failures_ofResponse_eq_nil_iff (response : BulkResponse) :
    (ofResponse response).failures = [] ↔
      ∀ item ∈ response.items, ∀ result, item.result? = some result → result.failed = false := by
  simp only [ofResponse, List.map_eq_nil_iff, List.filter_eq_nil_iff, List.mem_filterMap,
    Bool.not_eq_true]
  constructor
  · intro h item hitem result hresult
    exact h result ⟨item, hitem, hresult⟩
  · rintro h result ⟨item, hitem, hresult⟩
    exact h item hitem result hresult

theorem check_eq_ok_iff {summary checked : BulkSummary} {index : String} :
    summary.check index = .ok checked ↔ summary.failures = [] ∧ checked = summary := by
  unfold check hasFailures
  cases summary.failures with
  | nil => simp [eq_comm]
  | cons failure rest => simp

/-- Without failures, as many actions have succeeded as there are items with an outcome. -/
theorem succeeded_of_failures_eq_nil {response : BulkResponse}
    (hfailures : (ofResponse response).failures = []) :
    (ofResponse response).succeeded = (response.items.filterMap BulkItem.result?).length := by
  rw [failures_ofResponse_eq_nil_iff] at hfailures
  have hall : ∀ result ∈ response.items.filterMap BulkItem.result?, (!result.failed) = true := by
    intro result hresult
    obtain ⟨item, hitem, heq⟩ := List.mem_filterMap.mp hresult
    rw [hfailures item hitem result heq]
    rfl
  change (List.filter _ _).length = _
  rw [List.filter_eq_self.mpr hall]

/-- A summary without failures counts every document exactly if each has an outcome. -/
theorem counts_iff {response : BulkResponse} (hfailures : (ofResponse response).failures = [])
    (documents : Nat) :
    (ofResponse response).total = documents ∧ (ofResponse response).succeeded = documents ↔
      response.items.length = documents ∧ ∀ item ∈ response.items, (item.result?).isSome := by
  rw [succeeded_of_failures_eq_nil hfailures]
  change response.items.length = documents ∧ _ ↔ _
  apply and_congr_right
  rintro rfl
  exact List.filterMap_length_eq_length

end BulkSummary

/-! ## Batches -/

namespace IndexManager

variable {σ : Type} {engine : Engine σ}

/-- The actions that index documents. -/
def documentActions (parent : Option String) (documents : List Document) : List BulkAction :=
  documents.map fun document ↦ .index document.id parent document.body

/-- Writes documents to an index that is there; for none nothing is called. -/
def writeActions (index : String) (actions : List BulkAction) : Program BulkSummary :=
  if actions.isEmpty then .done (.ok .empty)
  else (Program.request (.bulk index actions)).bind fun response ↦
    .done ((BulkSummary.ofResponse response).check index)

theorem indexActions_of_ids (index : String) (parent : Option String) {documents : List Document}
    (hids : ∀ document ∈ documents, document.id.isEmpty = false) :
    indexActions index parent documents = .ok (documentActions parent documents) := by
  induction documents with
  | nil => rfl
  | cons document rest ih =>
    have hid := hids document List.mem_cons_self
    have hrest := ih fun other hother ↦ hids other (List.mem_cons_of_mem _ hother)
    simp [indexActions, documentActions, hid, hrest, Except.map]

/-- A batch in which every document has an identifier is written once the index is there. -/
theorem indexAll_of_ids (manager : IndexManager) (index : String) {documents : List Document}
    (parent : Option String) (hids : ∀ document ∈ documents, document.id.isEmpty = false) :
    manager.indexAll index documents parent =
      (manager.ensureIndex index).bind fun _ ↦
        writeActions index (documentActions parent documents) := by
  rw [indexAll, indexActions_of_ids index parent hids]
  simp only [Program.bind_eq, Program.liftM_except, Program.done_ok_bind, Program.pure_eq]
  rfl

/-- Writing documents succeeds exactly if the engine answers and no outcome in its answer failed. -/
theorem writeActions_eq_ok_iff {index : String} {actions : List BulkAction} (hsome : actions ≠ [])
    {state : σ} {summary : BulkSummary} :
    ((writeActions index actions).run engine state).result = .ok summary ↔
      ∃ response, (engine.reply (.bulk index actions) state).1 = .ok response ∧
        (BulkSummary.ofResponse response).failures = [] ∧
        summary = BulkSummary.ofResponse response := by
  have hfalse : ¬actions.isEmpty := by simpa using hsome
  rw [writeActions, if_neg hfalse, Program.result_bind_eq_ok_iff, Program.run_request]
  simp only [Program.run_done, BulkSummary.check_eq_ok_iff]

/-- A batch of documents succeeds exactly if each has an identifier, the index is there or was
created, and no outcome in the engine's answer to the one bulk call failed. -/
theorem indexAll_eq_ok_iff {manager : IndexManager} {index : String} {documents : List Document}
    {parent : Option String} (hsome : documents ≠ []) {state : σ} {summary : BulkSummary} :
    ((manager.indexAll index documents parent).run engine state).result = .ok summary ↔
      (∀ document ∈ documents, document.id.isEmpty = false) ∧
      (∃ created, ((manager.ensureIndex index).run engine state).result = .ok created) ∧
      ∃ response, (engine.reply (.bulk index (documentActions parent documents))
          ((manager.ensureIndex index).run engine state).state).1 = .ok response ∧
        (BulkSummary.ofResponse response).failures = [] ∧
        summary = BulkSummary.ofResponse response := by
  have hactions : documentActions parent documents ≠ [] := by simpa [documentActions] using hsome
  by_cases hids : ∀ document ∈ documents, document.id.isEmpty = false
  · rw [indexAll_of_ids manager index parent hids, Program.result_bind_eq_ok_iff, and_iff_right hids]
    simp only [writeActions_eq_ok_iff hactions, exists_and_right]
  · have hfaulty : ∃ document ∈ documents, document.id.isEmpty := by simpa using hids
    rw [indexAll_faulty manager index parent hfaulty, Program.run_fail]
    constructor
    · rintro ⟨⟩
    · exact fun h ↦ absurd h.1 hids

/-- When a batch of documents succeeds, its summary counts the items of the engine's answer. All
documents are counted as written, and were acknowledged as such, exactly if the answer has an item
with an outcome for each of them and none of the outcomes has the status 404. -/
theorem acknowledged_iff (engine : Engine σ) (manager : IndexManager) (index : String)
    (documents : List Document) (hsome : documents ≠ []) (parent : Option String) (state : σ)
    (summary : BulkSummary)
    (hok : ((manager.indexAll index documents parent).run engine state).result = .ok summary) :
    ∃ response, (engine.reply (.bulk index (documentActions parent documents))
        ((manager.ensureIndex index).run engine state).state).1 = .ok response ∧
      summary = ⟨response.items.length, (response.items.filterMap BulkItem.result?).length, []⟩ ∧
      (summary.total = documents.length ∧ summary.succeeded = documents.length ∧
          response.Acknowledges documents.length ↔
        response.Accounts documents.length) := by
  obtain ⟨-, -, response, hreply, hfailures, rfl⟩ := (indexAll_eq_ok_iff hsome).mp hok
  have hcounts := BulkSummary.counts_iff hfailures documents.length
  have hwritten := (BulkSummary.failures_ofResponse_eq_nil_iff response).mp hfailures
  refine ⟨response, hreply, ?_, ?_⟩
  · rw [← BulkSummary.succeeded_of_failures_eq_nil hfailures, ← hfailures]
    rfl
  · constructor
    · rintro ⟨-, -, hacknowledged⟩
      refine ⟨hacknowledged.length_eq, ?_⟩
      intro item hitem
      obtain ⟨result, hresult, hgood⟩ := hacknowledged.written item hitem
      exact ⟨result, hresult, (BulkResult.written_iff (hwritten item hitem result hresult)).mp hgood⟩
    · intro haccounts
      have hsomes : ∀ item ∈ response.items, (item.result?).isSome := by
        intro item hitem
        obtain ⟨result, hresult, -⟩ := haccounts.found item hitem
        exact Option.isSome_of_eq_some hresult
      obtain ⟨htotal, hsucceeded⟩ := hcounts.mpr ⟨haccounts.length_eq, hsomes⟩
      refine ⟨htotal, hsucceeded, haccounts.length_eq, ?_⟩
      intro item hitem
      obtain ⟨result, hresult, hfound⟩ := haccounts.found item hitem
      exact ⟨result, hresult, (BulkResult.written_iff (hwritten item hitem result hresult)).mpr hfound⟩

/-- A manager without listeners. -/
def bare : IndexManager := ⟨⟨1, 0, "", none⟩, []⟩

def twoDocuments : List Document := [⟨"s1", .null⟩, ⟨"s2", .null⟩]

theorem acknowledged_iff_of_stored :
    twoDocuments ≠ [] ∧
    ∃ summary, ((bare.indexAll "studies" twoDocuments none).run Memory.engine .empty).result =
        .ok summary ∧
      ∃ response, (Memory.engine.reply (.bulk "studies" (documentActions none twoDocuments))
          ((bare.ensureIndex "studies").run Memory.engine .empty).state).1 = .ok response ∧
        summary = ⟨response.items.length, (response.items.filterMap BulkItem.result?).length, []⟩ ∧
        (summary.total = 2 ∧ summary.succeeded = 2 ∧ response.Acknowledges 2 ↔
          response.Accounts 2) :=
  have hsome : twoDocuments ≠ [] := by simp [twoDocuments]
  ⟨hsome, ⟨2, 2, []⟩, rfl,
    acknowledged_iff Memory.engine bare "studies" twoDocuments hsome none .empty ⟨2, 2, []⟩ rfl⟩

/-- A store that answers the next bulk call with one item, of status 404. -/
def answeringNotFound : Memory :=
  { Memory.empty with bulkAnswer := some (.obj [("items", .arr
      [.obj [("index", .obj [("_id", .str "s1"), ("status", .nat 404)])]])]) }

/-- A document whose write was answered with the status 404 counts as written. -/
theorem notFound_counts_as_written :
    ∃ run response, run = (bare.indexAll "studies" [⟨"s1", .null⟩] none).run Memory.engine
        answeringNotFound ∧
      run.result = .ok ⟨1, 1, []⟩ ∧
      (Memory.engine.reply (.bulk "studies" (documentActions none [⟨"s1", .null⟩]))
        ((bare.ensureIndex "studies").run Memory.engine answeringNotFound).state).1 =
          .ok response ∧
      ¬response.Acknowledges 1 ∧ run.state.indices.get? "studies" = some ∅ := by
  refine ⟨_, ⟨0, false, [⟨some ⟨none, some "s1", none, 404, none⟩, none, none, none⟩]⟩, rfl, rfl, rfl,
    ?_, rfl⟩
  intro hacknowledged
  obtain ⟨result, hresult, -, hstatus⟩ := hacknowledged.written _ List.mem_cons_self
  cases hresult
  exact absurd hstatus (by decide)

end IndexManager

end FacetSearch

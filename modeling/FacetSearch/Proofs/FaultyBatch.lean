import FacetSearch.Document.Indexer
import FacetSearch.Proofs.MemoryReply
import FacetSearch.Proofs.ProgramRun

/-!
# Batches with a document that has no identifier

Writing such a batch is refused before any call. Reindexing it is refused as well, but only after
the index has been deleted: the batch leaves everything as it was exactly if the index is absent,
or if the check for it already fails with a configuration error.
-/

namespace FacetSearch

/-- The run was refused for a configuration error and has changed nothing, neither by a call nor in
what the engine holds. -/
structure Run.Refused {σ α β : Type} (content : σ → β) (state : σ) (run : Run σ α) : Prop where
  configuration : ∃ error, run.result = .error error ∧ error.kind = .configuration
  readOnly : run.ReadOnly
  content_eq : content run.state = content state

namespace IndexManager

variable {σ α β : Type} {engine : Engine σ} {state : σ}

theorem indexActions_faulty {index : String} {parent : Option String} {documents : List Document}
    (hfaulty : ∃ document ∈ documents, document.id.isEmpty) :
    indexActions index parent documents = .error (.documentWithoutId index) := by
  induction documents with
  | nil => simp at hfaulty
  | cons document rest ih =>
    by_cases hid : document.id.isEmpty
    · simp [indexActions, hid]
    · have hrest : ∃ document ∈ rest, document.id.isEmpty := by
        obtain ⟨faulty, hmem, hblank⟩ := hfaulty
        rcases List.mem_cons.mp hmem with rfl | hmem
        · exact absurd hblank hid
        · exact ⟨faulty, hmem, hblank⟩
      simp [indexActions, hid, ih hrest, Except.map]

theorem index_faulty (manager : IndexManager) (index : String) {document : Document}
    (parent : Option String) (hid : document.id.isEmpty) :
    manager.index index document parent = Program.fail (.documentWithoutId index) := by
  simp [IndexManager.index, hid]

theorem indexAll_faulty (manager : IndexManager) (index : String) {documents : List Document}
    (parent : Option String) (hfaulty : ∃ document ∈ documents, document.id.isEmpty) :
    manager.indexAll index documents parent = Program.fail (.documentWithoutId index) := by
  rw [indexAll, indexActions_faulty hfaulty]
  rfl

/-- Reindexing deletes the index, if it is there, before it looks at the documents. -/
theorem reindexAll_faulty (manager : IndexManager) (index : String) {documents : List Document}
    (parent : Option String) (hfaulty : ∃ document ∈ documents, document.id.isEmpty) :
    manager.reindexAll index documents parent = (hasIndex index).bind fun found ↦
      if found then (dropIndex index).bind fun _ ↦ .fail (.documentWithoutId index)
      else .fail (.documentWithoutId index) := by
  have hsome : documents.isEmpty = false := by
    obtain ⟨document, hmem, -⟩ := hfaulty
    exact List.isEmpty_eq_false_iff.mpr (List.ne_nil_of_mem hmem)
  rw [reindexAll]
  simp only [hsome, Program.bind_eq, indexAll_faulty manager index parent hfaulty]
  rfl

/-- A run that fails with a configuration error and only reads is refused. -/
theorem refused_of_readOnly {content : σ → β}
    (hreads : ∀ call state, call.changes = false →
      content (engine.reply call state).2 = content state)
    {program : Program α} {error : Error}
    (hresult : (program.run engine state).result = .error error)
    (hkind : error.kind = .configuration) (hcalls : (program.run engine state).ReadOnly) :
    (program.run engine state).Refused content state :=
  ⟨⟨error, hresult, hkind⟩, hcalls, Program.content_run hreads program state hcalls⟩

/-- The deletion of an index is a call of the run, however it is answered. -/
theorem deleteIndex_mem_calls (index : String) (rest : Program α) (state : σ) :
    .deleteIndex index ∈ (((dropIndex index).bind fun _ ↦ rest).run engine state).calls := by
  have hdrop : ∃ next, dropIndex index = .ask (.deleteIndex index) next := ⟨_, rfl⟩
  obtain ⟨next, hnext⟩ := hdrop
  rw [hnext, Program.ask_bind]
  exact List.mem_cons_self

section Reindexing

variable (manager : IndexManager) {index : String} {documents : List Document}
  (parent : Option String) (hfaulty : ∃ document ∈ documents, document.id.isEmpty)

include hfaulty

theorem run_reindexAll_of_check_error {error : Error}
    (hcheck : (engine.reply (.indexExists index) state).1 = .error error) :
    (manager.reindexAll index documents parent).run engine state =
      ⟨.error error, [.indexExists index], (engine.reply (.indexExists index) state).2⟩ := by
  rw [reindexAll_faulty manager index parent hfaulty, Program.run_bind, hasIndex,
    Program.run_request]
  exact Run.followedBy_error hcheck _

theorem run_reindexAll_of_absent
    (hcheck : (engine.reply (.indexExists index) state).1 = .ok false) :
    (manager.reindexAll index documents parent).run engine state =
      ⟨.error (.documentWithoutId index), [.indexExists index],
        (engine.reply (.indexExists index) state).2⟩ := by
  rw [reindexAll_faulty manager index parent hfaulty, Program.run_bind, hasIndex,
    Program.run_request, Run.followedBy_ok hcheck]
  rfl

theorem deleteIndex_mem_of_present
    (hcheck : (engine.reply (.indexExists index) state).1 = .ok true) :
    .deleteIndex index ∈ ((manager.reindexAll index documents parent).run engine state).calls := by
  rw [reindexAll_faulty manager index parent hfaulty, Program.run_bind, hasIndex,
    Program.run_request, Run.followedBy_ok hcheck]
  exact List.mem_append_right _ (deleteIndex_mem_calls index _ _)

theorem refused_reindexAll_iff {content : σ → β}
    (hreads : ∀ call state, call.changes = false →
      content (engine.reply call state).2 = content state) :
    ((manager.reindexAll index documents parent).run engine state).Refused content state ↔
      (engine.reply (.indexExists index) state).1 = .ok false ∨
        ∃ error, (engine.reply (.indexExists index) state).1 = .error error ∧
          error.kind = .configuration := by
  have honly : ∀ call ∈ [Call.indexExists index], call.changes = false := by simp [Call.changes]
  cases hcheck : (engine.reply (.indexExists index) state).1 with
  | error error =>
    have hrun := run_reindexAll_of_check_error manager parent hfaulty hcheck
    constructor
    · intro hrefused
      obtain ⟨other, hother, hkind⟩ := hrefused.configuration
      rw [hrun] at hother
      cases hother
      exact .inr ⟨error, rfl, hkind⟩
    · rintro (habsent | ⟨other, hother, hkind⟩)
      · cases habsent
      · cases hother
        refine refused_of_readOnly hreads (congrArg Run.result hrun) hkind ?_
        rw [hrun]
        exact honly
  | ok found =>
    cases found with
    | true =>
      have hdelete := deleteIndex_mem_of_present manager parent hfaulty hcheck
      constructor
      · intro hrefused
        have hread : Call.changes (.deleteIndex index) = false := hrefused.readOnly _ hdelete
        cases hread
      · rintro (habsent | ⟨other, hother, -⟩)
        · cases habsent
        · cases hother
    | false =>
      have hrun := run_reindexAll_of_absent manager parent hfaulty hcheck
      refine ⟨fun _ ↦ .inl rfl, fun _ ↦ ?_⟩
      refine refused_of_readOnly hreads (congrArg Run.result hrun) rfl ?_
      rw [hrun]
      exact honly

end Reindexing

/-- A document without identifier, alone or in a batch, is refused before anything changes, except
that reindexing first deletes the index: reindexing changes nothing exactly if the check for the
index finds it absent or fails with a configuration error. -/
theorem faulty_batch_refused_iff {content : σ → β}
    (hreads : ∀ call state, call.changes = false →
      content (engine.reply call state).2 = content state)
    (manager : IndexManager) (index : String) (documents : List Document) (parent : Option String)
    (hfaulty : ∃ document ∈ documents, document.id.isEmpty) (state : σ) :
    (∀ document ∈ documents, document.id.isEmpty →
      ((manager.index index document parent).run engine state).Refused content state) ∧
    ((manager.indexAll index documents parent).run engine state).Refused content state ∧
    (((manager.reindexAll index documents parent).run engine state).Refused content state ↔
      (engine.reply (.indexExists index) state).1 = .ok false ∨
        ∃ error, (engine.reply (.indexExists index) state).1 = .error error ∧
          error.kind = .configuration) := by
  have hnone : ∀ call ∈ ([] : List Call), call.changes = false := by simp
  refine ⟨fun document _ hid ↦ ?_, ?_, refused_reindexAll_iff manager parent hfaulty hreads⟩
  · rw [index_faulty manager index parent hid]
    exact refused_of_readOnly hreads rfl rfl hnone
  · rw [indexAll_faulty manager index parent hfaulty]
    exact refused_of_readOnly hreads rfl rfl hnone

/-- A store in which the index `studies` holds one document. -/
def stocked : Memory :=
  Memory.empty.withIndices (.singleton "studies" (.singleton "s1" (.obj [])))

theorem faulty_batch_refused_iff_of_stocked :
    (∀ call memory, call.changes = false →
      (Memory.engine.reply call memory).2.indices = memory.indices) ∧
    (∃ document ∈ [Document.mk "s2" .null, ⟨"", .null⟩], document.id.isEmpty) ∧
    ((((IndexManager.mk .default []).reindexAll "studies" [⟨"s2", .null⟩, ⟨"", .null⟩] none).run
        Memory.engine stocked).Refused Memory.indices stocked ↔
      (Memory.engine.reply (.indexExists "studies") stocked).1 = .ok false ∨
        ∃ error, (Memory.engine.reply (.indexExists "studies") stocked).1 = .error error ∧
          error.kind = .configuration) :=
  have hfaulty : ∃ document ∈ [Document.mk "s2" .null, ⟨"", .null⟩], document.id.isEmpty :=
    ⟨⟨"", .null⟩, by simp, rfl⟩
  ⟨Memory.indices_reply_of_reads, hfaulty,
    (faulty_batch_refused_iff Memory.indices_reply_of_reads (.mk .default []) "studies" _ none
      hfaulty stocked).2.2⟩

/-- Reindexing with a faulty batch is refused, but the documents of the index are gone. -/
theorem reindexAll_loses_documents :
    ∃ run, run = ((IndexManager.mk .default []).reindexAll "studies" [⟨"", .null⟩] none).run
        Memory.engine stocked ∧
      run.result = .error (.documentWithoutId "studies") ∧
      run.calls.map Call.name = ["index_exists", "delete_index"] ∧
      stocked.indices.keys = ["studies"] ∧ run.state.indices.keys = [] :=
  ⟨_, rfl, rfl, by decide, by decide, by decide⟩

end IndexManager

end FacetSearch

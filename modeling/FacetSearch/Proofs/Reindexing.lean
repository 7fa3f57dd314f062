import FacetSearch.Proofs.FaithfulStore

/-!
# Reindexing replaces the content of an index

Over a faithful store, with listeners that leave indices and documents alone, reindexing succeeds
and leaves exactly the last of the given documents for each identifier, whatever the index held
before and whether or not it was there. All other indices are untouched.
-/

namespace FacetSearch

/-- The listener succeeds on the index, new and empty among the others, and leaves all indices and
their documents as they are. -/
def Listener.Quiet (listener : Listener) (index : String) (indices : Indices) : Prop :=
  (listener index).Takes (indices.insert index ∅) () (indices.insert index ∅)

namespace IndexManager

open Program (takes_done)

variable {manager : IndexManager} {index : String} {indices : Indices}

theorem takes_dropIndex (index : String) (indices : Indices)
    (hpresent : indices.contains index) :
    (dropIndex index).Takes indices () (indices.erase index) := by
  obtain ⟨documents, hdocuments⟩ := StringMap.contains_eq_true_iff.mp hpresent
  exact (Program.takes_deleteIndex hdocuments).attempt.bind (takes_done () _)

/-- Listeners that succeed and change nothing are run without a trace. -/
theorem takes_configure {listeners : List Listener}
    (hquiet : ∀ listener ∈ listeners, listener.Quiet index indices) :
    (configure index listeners).Takes (indices.insert index ∅) () (indices.insert index ∅) := by
  induction listeners with
  | nil => exact takes_done () _
  | cons listener rest ih =>
    have hfirst : (listener index).Takes (indices.insert index ∅) () (indices.insert index ∅) :=
      hquiet listener List.mem_cons_self
    have hrest := ih fun other hother ↦ hquiet other (List.mem_cons_of_mem _ hother)
    exact hfirst.attempt.bind hrest

theorem takes_ensureIndex {body : Json} (hbody : manager.settings.createBody = .ok body)
    (hquiet : ∀ listener ∈ manager.listeners, listener.Quiet index indices)
    (habsent : indices.get? index = none) :
    (manager.ensureIndex index).Takes indices true (indices.insert index ∅) := by
  have hfound : indices.contains index = false := StringMap.contains_eq_false_iff.mpr habsent
  have hchecked := Program.takes_indexExists index indices
  rw [hfound] at hchecked
  refine hchecked.bind ?_
  simp only [hbody, Program.bind_eq, Program.liftM_except, Program.done_ok_bind, Program.pure_eq,
    Bool.false_eq_true, if_false]
  refine (Program.takes_createIndex habsent body).bind ?_
  exact (takes_configure hquiet).bind (takes_done true _)

/-- Reindexing documents that all have an identifier: the index goes, comes back and is filled. -/
theorem reindexAll_of_ids (manager : IndexManager) (index : String) {documents : List Document}
    (parent : Option String) (hids : ∀ document ∈ documents, document.id.isEmpty = false) :
    manager.reindexAll index documents parent =
      (hasIndex index).bind fun found ↦
        (if found then dropIndex index else .done (.ok ())).bind fun _ ↦
          (manager.ensureIndex index).bind fun _ ↦
            writeActions index (documentActions parent documents) := by
  unfold reindexAll
  simp only [Program.bind_eq, Program.pure_eq, indexAll_of_ids manager index parent hids]
  congr 1
  funext found
  cases found <;> cases documents <;> rfl

/-- Reindexing leaves the documents in the index, in place of all that was there. -/
theorem takes_reindexAll {body : Json} (hbody : manager.settings.createBody = .ok body)
    (hquiet : ∀ listener ∈ manager.listeners, listener.Quiet index indices)
    {documents : List Document} (hids : ∀ document ∈ documents, document.id.isEmpty = false)
    (parent : Option String) :
    (manager.reindexAll index documents parent).Takes indices
      ⟨documents.length, documents.length, []⟩
      (indices.insert index (Document.stored documents)) := by
  rw [reindexAll_of_ids manager index parent hids]
  refine (Program.takes_indexExists index indices).bind ?_
  have hdropped : (if indices.contains index then dropIndex index
      else Program.done (.ok ())).Takes indices () (indices.erase index) := by
    split
    · next hpresent => exact takes_dropIndex index indices hpresent
    · next habsent =>
      have hnone : indices.get? index = none :=
        StringMap.contains_eq_false_iff.mp (Bool.eq_false_of_not_eq_true habsent)
      rw [StringMap.erase_of_get?_eq_none hnone]
      exact takes_done () indices
  -- The listeners meet the index among the others, as they would have without the deletion.
  have hlisteners : ∀ listener ∈ manager.listeners, listener.Quiet index (indices.erase index) := by
    intro listener hlistener
    rw [Listener.Quiet, StringMap.insert_erase]
    exact hquiet listener hlistener
  have habsent : (indices.erase index).get? index = none := by simp
  have hensured := takes_ensureIndex hbody hlisteners habsent
  have hempty : ((indices.erase index).insert index (∅ : StringMap Json)).get? index = some ∅ := by
    simp
  have hwritten := Program.takes_writeActions hempty parent documents
  rw [StringMap.insert_insert, StringMap.insert_erase indices index (Document.stored documents)]
    at hwritten
  exact hdropped.bind (hensured.bind hwritten)

end IndexManager

/-- The run succeeded for all documents; the index then holds the last document of each identifier
and nothing else, and every other index is as before. -/
structure Run.Replaces (index : String) (documents : List Document) (before : Memory)
    (run : Run Memory BulkSummary) : Prop where
  result_eq : run.result = .ok ⟨documents.length, documents.length, []⟩
  stored : ∃ stored, run.state.indices.get? index = some stored ∧ ∀ id, stored.get? id =
    ((documents.filter fun document ↦ document.id = id).getLast?).map Document.body
  others : ∀ other, other ≠ index → run.state.indices.get? other = before.indices.get? other

namespace IndexManager

variable {manager : IndexManager} {index : String}

/-- Reindexing replaces the content of an index exactly. It makes no difference what the index held
before or whether it was there, and reindexing once more changes nothing. -/
theorem reindexAll_replaces {body : Json} (hbody : manager.settings.createBody = .ok body)
    {documents : List Document} (hids : ∀ document ∈ documents, document.id.isEmpty = false)
    (parent : Option String) {store : Memory} (hfaithful : store.Faithful)
    (hquiet : ∀ listener ∈ manager.listeners, listener.Quiet index store.indices) :
    let reindexed (before : Memory) :=
      (manager.reindexAll index documents parent).run Memory.engine before
    (reindexed store).Replaces index documents store ∧
    (∀ other : Memory, other.Faithful → other.indices.erase index = store.indices.erase index →
      (reindexed other).result = (reindexed store).result ∧
        (reindexed other).state.indices = (reindexed store).state.indices) ∧
    (reindexed (reindexed store).state).result = (reindexed store).result ∧
      (reindexed (reindexed store).state).state.indices = (reindexed store).state.indices := by
  intro reindexed
  have htakes := takes_reindexAll hbody hquiet hids parent
  obtain ⟨hresult, hindices⟩ := htakes store hfaithful rfl
  have hagain : ∀ other : Memory, other.Faithful →
      other.indices.erase index = store.indices.erase index →
      (reindexed other).result = (reindexed store).result ∧
        (reindexed other).state.indices = (reindexed store).state.indices := by
    intro other hother hsame
    have hlisteners : ∀ listener ∈ manager.listeners, listener.Quiet index other.indices := by
      intro listener hlistener
      rw [Listener.Quiet, StringMap.insert_eq_of_erase_eq hsame]
      exact hquiet listener hlistener
    obtain ⟨hresult', hindices'⟩ := takes_reindexAll hbody hlisteners hids parent other hother rfl
    refine ⟨hresult'.trans hresult.symm, ?_⟩
    exact (hindices'.trans (StringMap.insert_eq_of_erase_eq hsame _)).trans hindices.symm
  refine ⟨⟨hresult, ⟨Document.stored documents, ?_, Document.get?_stored documents⟩, ?_⟩, hagain, ?_⟩
  · rw [hindices]
    simp
  · intro other hother
    rw [hindices, StringMap.get?_insert, if_neg (Ne.symm hother)]
  · refine hagain _ (hfaithful.run _) ?_
    rw [hindices]
    apply StringMap.ext_get?
    intro name
    rw [StringMap.get?_erase, StringMap.get?_erase, StringMap.get?_insert]
    split <;> rfl

/-- A manager whose listener gives every new index a mapping. -/
def mapping : IndexManager := ⟨⟨1, 0, "", none⟩, [fun index ↦ .request (.putMapping index (.obj []))]⟩

theorem quiet_mapping (index : String) (indices : Indices) :
    ∀ listener ∈ mapping.listeners, listener.Quiet index indices := by
  intro listener hlistener
  rw [List.mem_singleton.mp hlistener]
  have hpresent : (indices.insert index (∅ : StringMap Json)).get? index = some ∅ := by simp
  exact Program.takes_putMapping hpresent (.obj [])

/-- Two documents, of which the first is given twice. -/
def revised : List Document := [⟨"s1", .null⟩, ⟨"s2", .null⟩, ⟨"s1", .bool true⟩]

theorem reindexAll_replaces_stocked :
    ∃ body, mapping.settings.createBody = .ok body ∧
      (∀ document ∈ revised, document.id.isEmpty = false) ∧ stocked.Faithful ∧
      (∀ listener ∈ mapping.listeners, listener.Quiet "studies" stocked.indices) ∧
      ((mapping.reindexAll "studies" revised (some "n1")).run Memory.engine stocked).Replaces
        "studies" revised stocked :=
  have hbody : mapping.settings.createBody = .ok (.obj [("settings", .obj
      [("number_of_replicas", .nat 0), ("number_of_shards", .nat 1)])]) := by decide
  have hids : ∀ document ∈ revised, document.id.isEmpty = false := by decide
  have hfaithful : stocked.Faithful := Memory.faithful_empty.withIndices _
  ⟨_, hbody, hids, hfaithful, quiet_mapping _ _,
    (reindexAll_replaces hbody hids (some "n1") hfaithful (quiet_mapping _ _)).1⟩

end IndexManager

end FacetSearch

import FacetSearch.Proofs.Trail

/-!
# Engines that create and delete what they are told to

A steady engine answers every check, creates and deletes indices as it is told to, and leaves all
indices alone but the one that a call concerns. Its other calls may fail in any way. The store in
memory is steady as long as no fault is prepared for a check, a creation or a deletion.
-/

namespace FacetSearch

variable {σ β γ : Type}

/-- A call that creates or deletes an index. -/
def Call.setsPresence : Call → Bool
  | .createIndex .. | .deleteIndex _ => true
  | _ => false

namespace TruthfulEngine

/-- The calls about the presence of indices succeed and do what they say. What an index holds is
changed only by calls that concern it. -/
structure Steady (engine : TruthfulEngine σ) (content : σ → String → γ) : Prop where
  check_eq (index : String) (state : σ) :
    (engine.reply (.indexExists index) state).1 = .ok (engine.present state index)
  create_eq (index : String) (body : Json) (state : σ) : engine.present state index = false →
    (engine.reply (.createIndex index body) state).1 = .ok ()
  delete_eq (index : String) (state : σ) : engine.present state index →
    (engine.reply (.deleteIndex index) state).1 = .ok ()
  delete_absent_eq (index : String) (state : σ) : engine.present state index = false →
    (engine.reply (.deleteIndex index) state).1 = .error (.indexNotFound index)
  absent_of_deleted (index : String) (state : σ) :
    engine.present (engine.reply (.deleteIndex index) state).2 index = false
  content_eq (call : Call) (state : σ) (other : String) : call.index ≠ other →
    content (engine.reply call state).2 other = content state other

variable (engine : TruthfulEngine σ)

/-- An index neither appears nor vanishes by a call that does not create or delete it. -/
theorem present_reply {call : Call} {index : String}
    (hcreate : ∀ body, call ≠ .createIndex index body) (hdelete : call ≠ .deleteIndex index)
    (state : σ) : engine.present (engine.reply call state).2 index = engine.present state index := by
  cases hbefore : engine.present state index with
  | false =>
    by_contra hafter
    obtain ⟨body, hcall⟩ := engine.created_of_appears hbefore (Bool.eq_true_of_not_eq_false hafter)
    exact hcreate body hcall
  | true =>
    by_contra hafter
    exact hdelete (engine.deleted_of_vanishes hbefore (Bool.eq_false_of_not_eq_true hafter))

theorem present_reply_of_ne (call : Call) {other : String} (hother : call.index ≠ other)
    (state : σ) : engine.present (engine.reply call state).2 other = engine.present state other := by
  apply engine.present_reply
  · rintro body rfl
    exact hother rfl
  · rintro rfl
    exact hother rfl

theorem present_reply_of_keeps {call : Call} (hkeeps : call.setsPresence = false) (state : σ) :
    engine.present (engine.reply call state).2 = engine.present state := by
  funext index
  apply engine.present_reply
  · rintro body rfl
    cases hkeeps
  · rintro rfl
    cases hkeeps

theorem present_create {index : String} {body : Json} {state : σ}
    (hcreated : (engine.reply (.createIndex index body) state).1 = .ok ()) :
    engine.present (engine.reply (.createIndex index body) state).2 =
      Function.update (engine.present state) index true := by
  funext other
  by_cases hother : index = other
  · subst hother
    rw [Function.update_self]
    exact engine.present_of_created hcreated
  · rw [Function.update_of_ne (Ne.symm hother)]
    exact engine.present_reply_of_ne (.createIndex index body) hother state

variable {engine} in
theorem Steady.present_delete {content : σ → String → γ} (hsteady : engine.Steady content)
    (index : String) (state : σ) :
    engine.present (engine.reply (.deleteIndex index) state).2 =
      Function.update (engine.present state) index false := by
  funext other
  by_cases hother : index = other
  · subst hother
    rw [Function.update_self]
    exact hsteady.absent_of_deleted index state
  · rw [Function.update_of_ne (Ne.symm hother)]
    exact engine.present_reply_of_ne (.deleteIndex index) hother state

/-- The engine from those of its states that have a property which no call takes away. -/
def within (engine : TruthfulEngine σ) (holds : σ → Prop)
    (hkept : ∀ call state, holds state → holds (engine.reply call state).2) :
    TruthfulEngine { state // holds state } where
  reply call state := ((engine.reply call state.1).1, ⟨_, hkept call state.1 state.2⟩)
  present state := engine.present state.1
  found_eq := engine.found_eq
  present_of_created := engine.present_of_created
  created_of_appears := engine.created_of_appears
  deleted_of_vanishes := engine.deleted_of_vanishes

end TruthfulEngine

/-! ## The store in memory -/

namespace Memory

/-- The calls about the presence of an index. -/
def presenceCalls : List String := ["index_exists", "create_index", "delete_index"]

/-- No fault is prepared for a call about the presence of an index. -/
def Dependable (memory : Memory) : Prop :=
  ∀ entry ∈ memory.faults, entry.1 ∉ presenceCalls

theorem takeFault_eq_none {name : String} {faults : List (String × Fault)}
    (hnone : ∀ entry ∈ faults, entry.1 ≠ name) : takeFault name faults = none := by
  induction faults with
  | nil => rfl
  | cons entry rest ih =>
    have hrest := ih fun other hother ↦ hnone other (List.mem_cons_of_mem _ hother)
    simp [takeFault, hnone entry List.mem_cons_self, hrest]

theorem mem_of_takeFault {name : String} {faults others : List (String × Fault)} {fault : Fault}
    (htaken : takeFault name faults = some (fault, others)) :
    ∀ entry ∈ others, entry ∈ faults := by
  induction faults generalizing others with
  | nil => cases htaken
  | cons first rest ih =>
    rw [takeFault] at htaken
    split at htaken
    · cases htaken
      exact fun entry ↦ List.mem_cons_of_mem _
    · obtain ⟨⟨found, kept⟩, hkept, heq⟩ := Option.map_eq_some_iff.mp htaken
      cases heq
      intro entry hentry
      rcases List.mem_cons.mp hentry with rfl | hmem
      · exact List.mem_cons_self
      · exact List.mem_cons_of_mem _ (ih hkept entry hmem)

theorem faults_faultless (call : Call) (memory : Memory) :
    (faultless call memory).2.faults = memory.faults := by
  unfold faultless
  split
  · cases call with
    | search index request => cases h : memory.searchAnswer <;> simp [replyWithin, h]
    | bulk index actions =>
      cases h : memory.bulkAnswer <;> simp [replyWithin, h, withIndices]
    | deleteByQuery index query => cases query <;> rfl
    | indexExists _ | createIndex _ _ | deleteIndex _ | putMapping _ _ | getMapping _ | count _ _
    | indexDocument _ _ _ _ | deleteDocument _ _ => rfl
  · cases call <;> rfl

theorem Dependable.reply {memory : Memory} (hdependable : memory.Dependable) (call : Call) :
    (Memory.reply call memory).2.Dependable := by
  unfold Memory.reply
  split
  · next fault others htaken =>
    exact fun entry hentry ↦ hdependable entry (mem_of_takeFault htaken entry hentry)
  · rw [Dependable, faults_faultless]
    exact hdependable

theorem Dependable.reply_eq {memory : Memory} (hdependable : memory.Dependable) {call : Call}
    (hcall : call.name ∈ presenceCalls) :
    Memory.reply call memory = faultless call memory := by
  have hnone : takeFault call.name memory.faults = none :=
    takeFault_eq_none fun entry hentry hname ↦ hdependable entry hentry (hname ▸ hcall)
  rw [Memory.reply, hnone]

/-- A call leaves the documents of all other indices alone. -/
theorem get?_indices_reply_of_ne {call : Call} {other : String} (hother : call.index ≠ other)
    (memory : Memory) :
    (reply call memory).2.indices.get? other = memory.indices.get? other := by
  have hinsert (documents : StringMap Json) :
      (memory.indices.insert call.index documents).get? other = memory.indices.get? other := by
    rw [StringMap.get?_insert, if_neg hother]
  have herase : (memory.indices.erase call.index).get? other = memory.indices.get? other := by
    rw [StringMap.get?_erase, if_neg hother]
  rcases reply_cases call memory with ⟨error, -, hsame⟩ | heq
  · rw [hsame]
  · rw [heq, faultless]
    split
    · cases call with
      | indexExists _ | createIndex _ _ | putMapping _ _ | getMapping _ | count _ _ => rfl
      | deleteIndex index => exact herase
      | search index request => cases h : memory.searchAnswer <;> simp [replyWithin, h]
      | indexDocument _ _ _ _ | deleteDocument _ _ => exact hinsert _
      | bulk index actions =>
        cases h : memory.bulkAnswer with
        | some body => simp [replyWithin, h]
        | none =>
          simp only [replyWithin, h]
          exact hinsert _
      | deleteByQuery index query =>
        cases query with
        | term wanted => exact hinsert _
        | matchAll _ | startsWith _ | bool _ _ _ _ | hasField _ | text _ | ids _ => rfl
    · cases call with
      | createIndex index body => exact hinsert _
      | indexExists _ | deleteIndex _ | putMapping _ _ | getMapping _ | search _ _ | count _ _
      | indexDocument _ _ _ _ | bulk _ _ | deleteDocument _ _ | deleteByQuery _ _ => rfl

/-- The store from its dependable states. -/
def dependable : TruthfulEngine { memory : Memory // memory.Dependable } :=
  truthful.within Dependable fun call _ hdependable ↦ hdependable.reply call

/-- The documents of an index, if it is there. -/
def documents (memory : Memory) (index : String) : Option (StringMap Json) :=
  memory.indices.get? index

theorem steady_dependable : dependable.Steady fun state index ↦ state.1.documents index where
  check_eq index state := by
    change (reply (.indexExists index) state.1).1 = .ok (state.1.indices.contains index)
    rw [state.2.reply_eq (by simp [Call.name, presenceCalls]), faultless, StringMap.contains_eq]
    cases hindex : state.1.indices.get? index <;> simp only [Call.index, hindex] <;> rfl
  create_eq index body state habsent := by
    have hindex : state.1.indices.get? index = none := StringMap.contains_eq_false_iff.mp habsent
    change (reply (.createIndex index body) state.1).1 = .ok ()
    rw [state.2.reply_eq (by simp [Call.name, presenceCalls]), faultless]
    simp only [Call.index, hindex]
    rfl
  delete_eq index state hpresent := by
    obtain ⟨documents, hindex⟩ := StringMap.contains_eq_true_iff.mp hpresent
    change (reply (.deleteIndex index) state.1).1 = .ok ()
    rw [state.2.reply_eq (by simp [Call.name, presenceCalls]), faultless]
    simp only [Call.index, hindex]
    rfl
  delete_absent_eq index state habsent := by
    have hindex : state.1.indices.get? index = none := StringMap.contains_eq_false_iff.mp habsent
    change (reply (.deleteIndex index) state.1).1 = .error (.indexNotFound index)
    rw [state.2.reply_eq (by simp [Call.name, presenceCalls]), faultless]
    simp only [Call.index, hindex]
    rfl
  absent_of_deleted index state := by
    change (reply (.deleteIndex index) state.1).2.indices.contains index = false
    rw [state.2.reply_eq (by simp [Call.name, presenceCalls]), contains_faultless]
    simp [containsAfter]
  content_eq call state other hother := get?_indices_reply_of_ne hother state.1

end Memory

end FacetSearch

import FacetSearch.Proofs.SteadyEngine
import FacetSearch.Proofs.TrailEvents

/-!
# Ensuring and dropping an index

Over a steady engine, with listeners that create and delete no index, the manager ends in one of a
few ways. Ensuring an index finds it and does nothing else, or creates it and runs every listener
once and in order, or takes it back after the first listener that fails. Dropping an index always
succeeds. Only the one index appears or vanishes.
-/

namespace FacetSearch

variable {σ γ : Type}

/-- The listener creates and deletes no index, whatever it finds. -/
def Listener.KeepsIndices (engine : Engine σ) (listener : Listener) : Prop :=
  ∀ index state, ∀ call ∈ ((listener index).run engine state).calls, call.setsPresence = false

/-- Which indices are present is the same after a listener that creates and deletes none. -/
theorem Listener.KeepsIndices.present_follow {engine : TruthfulEngine σ} {listener : Listener}
    (hkeeps : listener.KeepsIndices engine.toEngine) (index : String) (world : World σ) :
    ((listener index).follow engine world).world.present engine = world.present engine := by
  have hrun := Program.run_follow engine (listener index) world
  have hstate : ((listener index).follow engine world).world.state =
      ((listener index).run engine.toEngine world.state).state := congrArg Run.state hrun
  change engine.present ((listener index).follow engine world).world.state = _
  rw [hstate]
  apply Program.view_run
  intro call hcall before
  exact engine.present_reply_of_keeps (hkeeps index world.state call hcall) before

/-! ## The setup of a new index -/

/-- How the setup of a new index went: all listeners succeeded, or one failed, those after it were
not run, and the index was deleted again. -/
inductive Configured (engine : TruthfulEngine σ) (index : String) (listeners : List Listener)
    (before : World σ) (trail : Trail σ Unit) : Prop
  | complete (hresult : trail.result = .ok ()) (hown : trail.ownEvents = successes index listeners)
      (hpresent : trail.world.present engine = before.present engine)
  | broken {done rest : List Listener} {listener : Listener} {cause : Error}
      (hlisteners : listeners = done ++ listener :: rest)
      (hresult : trail.result = .error (.setupFailed index cause))
      (hown : trail.ownEvents = successes index done ++
        [.notified listener index (.error cause), .asked .manager (.deleteIndex index)])
      (hpresent : trail.world.present engine =
        Function.update (before.present engine) index false)

section Setup

open IndexManager

variable {engine : TruthfulEngine σ} {index : String} {listener : Listener} {rest : List Listener}
  {world : World σ}

theorem follow_configureScript_ok
    (houtcome : ((listener index).follow engine world).result = .ok ()) :
    let visit := (listener index).follow engine world
    (configureScript index (listener :: rest)).follow engine world =
      visit.visited listener index ((configureScript index rest).follow engine
        (visit.world.afterListener listener index (.ok ()))) := by
  simp only [configureScript, Script.follow, Trail.visited, houtcome]

/-- After a listener that fails the index is deleted, with whatever answer. -/
theorem follow_configureScript_error {cause : Error}
    (houtcome : ((listener index).follow engine world).result = .error cause) :
    let visit := (listener index).follow engine world
    let failed := visit.world.afterListener listener index (.error cause)
    let deleted := failed.afterCall engine .manager (.deleteIndex index)
    (configureScript index (listener :: rest)).follow engine world =
      visit.visited listener index
        ((Trail.mk (.error (.setupFailed index cause)) [] deleted).called (.deleteIndex index)
          failed) := by
  simp only [configureScript, Script.follow, Trail.visited, houtcome]
  rfl

end Setup

section Steady

open IndexManager

variable {engine : TruthfulEngine σ} {content : σ → String → γ} (hsteady : engine.Steady content)
include hsteady

theorem configured_configureScript (index : String) {listeners : List Listener}
    (hlisteners : ∀ listener ∈ listeners, listener.KeepsIndices engine.toEngine)
    (world : World σ) :
    Configured engine index listeners world
      ((configureScript index listeners).follow engine world) := by
  induction listeners generalizing world with
  | nil => exact .complete rfl rfl rfl
  | cons listener rest ih =>
    have hvisit := (hlisteners listener List.mem_cons_self).present_follow index world
    have hsilent := Program.ownEvents_follow engine (listener index) world
    cases houtcome : ((listener index).follow engine world).result with
    | ok value =>
      have hrest := ih (fun other hother ↦ hlisteners other (List.mem_cons_of_mem _ hother))
        (((listener index).follow engine world).world.afterListener listener index (.ok ()))
      rw [follow_configureScript_ok houtcome]
      cases hrest with
      | complete hresult hown hpresent =>
        refine .complete hresult ?_ (hpresent.trans hvisit)
        rw [Trail.ownEvents_visited hsilent, houtcome, hown]
        rfl
      | @broken done rest' failing cause hlist hresult hown hpresent =>
        have hlist' : listener :: rest = (listener :: done) ++ failing :: rest' :=
          congrArg (listener :: ·) hlist
        refine .broken hlist' hresult ?_ ?_
        · rw [Trail.ownEvents_visited hsilent, houtcome, hown]
          rfl
        · rw [← hvisit]
          exact hpresent
    | error cause =>
      rw [follow_configureScript_error houtcome]
      refine .broken (List.nil_append (listener :: rest)).symm rfl ?_ ?_
      · rw [Trail.ownEvents_visited hsilent, houtcome]
        rfl
      · rw [← hvisit]
        exact hsteady.present_delete index _

end Steady

/-! ## Ensuring -/

/-- How ensuring an index went: it was there, or it was created and set up, or its setup failed and it
was taken back. -/
inductive Ensured (engine : TruthfulEngine σ) (listeners : List Listener) (index : String)
    (body : Json) (before : World σ) (trail : Trail σ Bool) : Prop
  | found (hbefore : before.present engine index) (hresult : trail.result = .ok false)
      (hevents : trail.events = [.asked .manager (.indexExists index)])
      (hafter : trail.world.present engine = before.present engine)
  | created (hbefore : before.present engine index = false) (hresult : trail.result = .ok true)
      (hown : trail.ownEvents = .asked .manager (.indexExists index) ::
        .asked .manager (.createIndex index body) :: successes index listeners)
      (hafter : trail.world.present engine = Function.update (before.present engine) index true)
  | takenBack {done rest : List Listener} {listener : Listener} {cause : Error}
      (hbefore : before.present engine index = false)
      (hlisteners : listeners = done ++ listener :: rest)
      (hresult : trail.result = .error (.setupFailed index cause))
      (hown : trail.ownEvents = .asked .manager (.indexExists index) ::
        .asked .manager (.createIndex index body) :: (successes index done ++
          [.notified listener index (.error cause), .asked .manager (.deleteIndex index)]))
      (hafter : trail.world.present engine = before.present engine)

section Steady

open IndexManager

variable {engine : TruthfulEngine σ} {content : σ → String → γ} (hsteady : engine.Steady content)
include hsteady

theorem follow_ensureScript_found (manager : IndexManager) {index : String} {world : World σ}
    (hpresent : world.present engine index) :
    (manager.ensureScript index).follow engine world =
      (Trail.mk (.ok false) [] (world.afterCall engine .manager (.indexExists index))).called
        (.indexExists index) world := by
  have hchecked : (engine.reply (.indexExists index) world.state).1 = .ok true := by
    rw [hsteady.check_eq]
    exact congrArg Except.ok hpresent
  exact Script.follow_request_bind hchecked _

theorem follow_ensureScript_absent (manager : IndexManager) {index : String} {body : Json}
    (hbody : manager.settings.createBody = .ok body) {world : World σ}
    (habsent : world.present engine index = false) :
    let checked := world.afterCall engine .manager (.indexExists index)
    let created := checked.afterCall engine .manager (.createIndex index body)
    let setup := (configureScript index manager.listeners).follow engine created
    (manager.ensureScript index).follow engine world =
      ((setup.map fun _ ↦ true).called (.createIndex index body) checked).called
        (.indexExists index) world := by
  intro checked created setup
  have hchecked : (engine.reply (.indexExists index) world.state).1 = .ok false := by
    rw [hsteady.check_eq]
    exact congrArg Except.ok habsent
  have hstill : engine.present checked.state index = false := by
    rw [World.afterCall_state, engine.present_reply_of_keeps rfl]
    exact habsent
  have hcreated : (engine.reply (.createIndex index body) checked.state).1 = .ok () :=
    hsteady.create_eq index body checked.state hstill
  simp only [ensureScript, hbody, Script.bind_eq, Script.pure_eq, Script.liftM_program,
    Script.liftM_except]
  rw [hasIndex, Script.follow_request_bind hchecked, if_neg Bool.false_ne_true]
  congr 1
  calc
    _ = (((configureScript index manager.listeners).bind fun _ ↦ .done (.ok true)).follow engine
          created).called (.createIndex index body) checked := Script.follow_request_bind hcreated _
    _ = (setup.map fun _ ↦ true).called (.createIndex index body) checked := by
      rw [Script.follow_bind_done]

theorem present_created {index : String} (body : Json) {world : World σ}
    (habsent : world.present engine index = false) :
    ((world.afterCall engine .manager (.indexExists index)).afterCall engine .manager
      (.createIndex index body)).present engine =
        Function.update (world.present engine) index true := by
  have hchecked : (world.afterCall engine .manager (.indexExists index)).present engine =
      world.present engine := engine.present_reply_of_keeps rfl world.state
  rw [← hchecked] at habsent ⊢
  exact engine.present_create (hsteady.create_eq index body _ habsent)

theorem ensured_ensureScript (manager : IndexManager) {body : Json}
    (hbody : manager.settings.createBody = .ok body)
    (hlisteners : ∀ listener ∈ manager.listeners, listener.KeepsIndices engine.toEngine)
    (index : String) (world : World σ) :
    Ensured engine manager.listeners index body world
      ((manager.ensureScript index).follow engine world) := by
  cases hbefore : world.present engine index with
  | true =>
    rw [follow_ensureScript_found hsteady manager hbefore]
    exact .found hbefore rfl rfl (engine.present_reply_of_keeps rfl world.state)
  | false =>
    have hpresent := present_created hsteady body hbefore
    have hsetup := configured_configureScript hsteady index hlisteners
      ((world.afterCall engine .manager (.indexExists index)).afterCall engine .manager
        (.createIndex index body))
    rw [follow_ensureScript_absent hsteady manager hbody hbefore]
    cases hsetup with
    | complete hresult hown hafter =>
      refine .created hbefore (congrArg (Except.map _) hresult) ?_ (hafter.trans hpresent)
      rw [Trail.ownEvents_called, Trail.ownEvents_called, Trail.ownEvents_map, hown]
    | broken hlist hresult hown hafter =>
      refine .takenBack hbefore hlist (congrArg (Except.map _) hresult) ?_ ?_
      · rw [Trail.ownEvents_called, Trail.ownEvents_called, Trail.ownEvents_map, hown]
      · calc
          _ = Function.update (Function.update (world.present engine) index true) index false := by
            rw [← hpresent]
            exact hafter
          _ = world.present engine := by
            rw [Function.update_idem, ← hbefore, Function.update_eq_self]

end Steady

namespace Ensured

variable {engine : TruthfulEngine σ} {listeners : List Listener} {index : String} {body : Json}
  {before : World σ} {trail : Trail σ Bool}

theorem result_eq_false_iff (hensured : Ensured engine listeners index body before trail) :
    trail.result = .ok false ↔ before.present engine index := by
  cases hensured with
  | found hbefore hresult => simp [hbefore, hresult]
  | created hbefore hresult => simp [hbefore, hresult]
  | takenBack hbefore _ hresult => simp [hbefore, hresult]

theorem result_eq_true_iff (hensured : Ensured engine listeners index body before trail) :
    trail.result = .ok true ↔ before.present engine index = false ∧
      trail.outcomes = listeners.map fun listener ↦ (listener, .ok ()) := by
  cases hensured with
  | found hbefore hresult => simp [hbefore, hresult]
  | created hbefore hresult hown =>
    have houtcomes : trail.outcomes = listeners.map fun listener ↦ (listener, .ok ()) :=
      (Trail.outcomes_of_ownEvents hown).trans (outcomes_successes index listeners)
    simp [hbefore, hresult, houtcomes]
  | @takenBack done rest listener cause hbefore hlisteners hresult hown =>
    -- The failure is among the outcomes, so they are not all successes.
    have hfailed : (listener, .error cause) ∈ trail.outcomes :=
      Trail.mem_outcomes index (by simp [hown])
    have hne : trail.outcomes ≠ listeners.map fun listener ↦ (listener, .ok ()) := by
      intro hall
      rw [hall] at hfailed
      obtain ⟨other, -, heq⟩ := List.mem_map.mp hfailed
      cases heq
    simp [hresult, hne]

theorem result_eq_error_iff (hensured : Ensured engine listeners index body before trail) :
    (∃ error, trail.result = .error error ∧ error.kind = .configuration) ↔
      before.present engine index = false ∧ ∃ outcome ∈ trail.outcomes, outcome.2 ≠ .ok () := by
  cases hensured with
  | found hbefore hresult => simp [hbefore, hresult]
  | created hbefore hresult hown =>
    have houtcomes : trail.outcomes = listeners.map fun listener ↦ (listener, .ok ()) :=
      (Trail.outcomes_of_ownEvents hown).trans (outcomes_successes index listeners)
    simp [hresult, houtcomes]
  | @takenBack done rest listener cause hbefore hlisteners hresult hown =>
    have hfailed : (listener, .error cause) ∈ trail.outcomes :=
      Trail.mem_outcomes index (by simp [hown])
    refine iff_of_true ⟨_, hresult, rfl⟩ ⟨hbefore, _, hfailed, ?_⟩
    rintro ⟨⟩

/-- All that the manager itself does concerns the index. -/
theorem index_eq (hensured : Ensured engine listeners index body before trail) {event : Event}
    (hevent : event ∈ trail.ownEvents) : event.index = index := by
  have hsuccesses (done : List Listener) : ∀ event ∈ successes index done, event.index = index :=
    List.forall_mem_map.mpr fun _ _ ↦ rfl
  cases hensured with
  | found _ _ hevents _ =>
    have hown : trail.ownEvents = [.asked .manager (.indexExists index)] := by
      rw [Trail.ownEvents, hevents]
      rfl
    rw [hown] at hevent
    rw [List.mem_singleton.mp hevent]
    rfl
  | created _ _ hown _ =>
    rw [hown] at hevent
    rcases hevent with _ | ⟨_, _ | ⟨_, hmem⟩⟩
    · rfl
    · rfl
    · exact hsuccesses listeners event hmem
  | @takenBack done _ _ _ _ _ _ hown _ =>
    rw [hown] at hevent
    rcases hevent with _ | ⟨_, _ | ⟨_, hmem⟩⟩
    · rfl
    · rfl
    · rcases List.mem_append.mp hmem with hdone | hlast
      · exact hsuccesses done event hdone
      · rcases hlast with _ | ⟨_, _ | ⟨_, ⟨⟩⟩⟩ <;> rfl

end Ensured

/-! ## Dropping -/

/-- How dropping an index went. -/
structure Dropped (engine : TruthfulEngine σ) (index : String) (before : World σ)
    (trail : Trail σ Unit) : Prop where
  result_eq : trail.result = .ok ()
  events_eq : trail.events = [.asked .manager (.deleteIndex index)]
  after_eq : trail.world.present engine = Function.update (before.present engine) index false

open IndexManager in
theorem dropped_dropIndex {engine : TruthfulEngine σ} {content : σ → String → γ}
    (hsteady : engine.Steady content) (index : String) (world : World σ) :
    Dropped engine index world ((Script.own (dropIndex index)).follow engine world) := by
  have htrail : (Script.own (dropIndex index)).follow engine world = ⟨.ok (),
      [(.asked .manager (.deleteIndex index), world)],
      world.afterCall engine .manager (.deleteIndex index)⟩ := by
    simp only [dropIndex, Program.bind_eq, Program.request, Program.attempt, Program.ask_bind,
      Script.own, Script.follow]
    cases hbefore : engine.present world.state index with
    | true =>
      rw [hsteady.delete_eq index world.state hbefore]
      rfl
    | false =>
      rw [hsteady.delete_absent_eq index world.state hbefore]
      rfl
  rw [htrail]
  exact ⟨rfl, rfl, hsteady.present_delete index world.state⟩

end FacetSearch

import FacetSearch.Proofs.Trail

/-!
# The events of a trail

Of the events of a trail those are the manager's own that are not calls of a listener: its calls and
the listeners that it runs, with their outcomes. The trail of a script is put together from those of
its parts, and so are its own events.
-/

namespace FacetSearch

variable {σ α β : Type}

namespace Event

/-- A call of the manager, or its running of a listener. -/
def isOwn : Event → Bool
  | asked .manager _ | notified .. => true
  | asked .listener _ => false

/-- The index that an event concerns. -/
def index : Event → String
  | asked _ call => call.index
  | notified _ index _ => index

/-- The listener that was run, with its outcome. -/
def outcome? : Event → Option (Listener × Except Error Unit)
  | asked .. => none
  | notified listener _ outcome => some (listener, outcome)

end Event

namespace Trail

def events (trail : Trail σ α) : List Event := trail.steps.map Prod.fst

def ownEvents (trail : Trail σ α) : List Event := trail.events.filter Event.isOwn

/-- The listeners that were run and their outcomes, in order. -/
def outcomes (trail : Trail σ α) : List (Listener × Except Error Unit) :=
  trail.ownEvents.filterMap Event.outcome?

theorem mem_ownEvents {trail : Trail σ α} {call : Call} :
    .asked .manager call ∈ trail.ownEvents ↔ .asked .manager call ∈ trail.events := by
  simp [ownEvents, Event.isOwn]

theorem mem_calls {trail : Trail σ α} {call : Call} :
    call ∈ trail.calls ↔ ∃ author, .asked author call ∈ trail.events := by
  simp only [calls, events, List.mem_filterMap, List.mem_map]
  constructor
  · rintro ⟨⟨event, world⟩, hstep, hcall⟩
    cases event with
    | asked author other =>
      cases hcall
      exact ⟨author, _, hstep, rfl⟩
    | notified listener index outcome => cases hcall
  · rintro ⟨author, step, hstep, hevent⟩
    refine ⟨step, hstep, ?_⟩
    rw [hevent]
    rfl

theorem mem_outcomes {trail : Trail σ α} {listener : Listener} (index : String)
    {outcome : Except Error Unit} (hnotified : .notified listener index outcome ∈ trail.ownEvents) :
    (listener, outcome) ∈ trail.outcomes :=
  List.mem_filterMap.mpr ⟨_, hnotified, rfl⟩

/-- Calls have no outcomes of listeners. -/
theorem outcomes_of_ownEvents {trail : Trail σ α} {first second : Call} {rest : List Event}
    (hown : trail.ownEvents = .asked .manager first :: .asked .manager second :: rest) :
    trail.outcomes = rest.filterMap Event.outcome? := by
  rw [outcomes, hown]
  rfl

/-- The trail with another result. -/
def map (f : α → β) (trail : Trail σ α) : Trail σ β :=
  ⟨trail.result.map f, trail.steps, trail.world⟩

/-- A call of the manager in a world and the trail that goes on after it. -/
def called (call : Call) (world : World σ) (rest : Trail σ α) : Trail σ α :=
  ⟨rest.result, (.asked .manager call, world) :: rest.steps, rest.world⟩

/-- The visit of a listener to an index and the trail that goes on after it. -/
def visited (visit : Trail σ Unit) (listener : Listener) (index : String) (rest : Trail σ α) :
    Trail σ α :=
  ⟨rest.result, visit.steps ++ (.notified listener index visit.result, visit.world) :: rest.steps,
    rest.world⟩

@[simp] theorem ownEvents_map (f : α → β) (trail : Trail σ α) :
    (trail.map f).ownEvents = trail.ownEvents := rfl

@[simp] theorem ownEvents_called (call : Call) (world : World σ) (rest : Trail σ α) :
    (rest.called call world).ownEvents = .asked .manager call :: rest.ownEvents := rfl

/-- Of a visit only the fact and its outcome are the manager's doing. -/
theorem ownEvents_visited {visit : Trail σ Unit} (hvisit : visit.ownEvents = [])
    (listener : Listener) (index : String) (rest : Trail σ α) :
    (visit.visited listener index rest).ownEvents =
      .notified listener index visit.result :: rest.ownEvents := by
  simp only [ownEvents, events] at hvisit ⊢
  simp only [visited, List.map_append, List.map_cons, List.filter_append, List.filter_cons,
    Event.isOwn, if_true, hvisit, List.nil_append]

end Trail

/-- The events of listeners that succeed on an index one after the other. -/
def successes (index : String) (listeners : List Listener) : List Event :=
  listeners.map fun listener ↦ .notified listener index (.ok ())

theorem outcomes_successes (index : String) (listeners : List Listener) :
    (successes index listeners).filterMap Event.outcome? =
      listeners.map fun listener ↦ (listener, .ok ()) := by
  rw [successes, List.filterMap_map, ← List.filterMap_eq_map]
  rfl

variable (engine : TruthfulEngine σ)

theorem Program.ownEvents_follow (program : Program α) (world : World σ) :
    (program.follow engine world).ownEvents = [] := by
  induction program generalizing world with
  | done result => rfl
  | ask call next ih => exact ih _ _

namespace Script

variable {engine} {world : World σ}

/-- After a call that succeeds the script goes on with the reply. -/
theorem follow_request_bind {call : Call} {value : call.Reply}
    (hreply : (engine.reply call world.state).1 = .ok value) (f : call.Reply → Script α) :
    ((own (.request call)).bind f).follow engine world =
      ((f value).follow engine (world.afterCall engine .manager call)).called call world := by
  have hrequest : ((own (.request call)).follow engine world).result = .ok value := hreply
  rw [follow_bind, Trail.followedBy_ok hrequest]
  rfl

theorem follow_bind_done (script : Script α) (b : β) :
    (script.bind fun _ ↦ .done (.ok b)).follow engine world =
      (script.follow engine world).map fun _ ↦ b := by
  rw [follow_bind, Trail.map]
  cases hresult : (script.follow engine world).result with
  | ok value => simp [Trail.followedBy_ok hresult, follow, Except.map]
  | error error => simp [Trail.followedBy_error hresult, Except.map]

end Script

end FacetSearch

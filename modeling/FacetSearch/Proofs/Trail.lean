import FacetSearch.Proofs.MemoryReply
import FacetSearch.Proofs.Script

/-!
# Trails of scripts

A trail is a run that is watched: every step is kept together with the world in which it was taken,
and a world knows of each index where its present incarnation comes from and which listeners have
succeeded or failed on it. The trail of a script makes the calls of its program, gets the same
result and leaves the engine in the same state.

Engines are watched that tell the truth about which indices are present. A call that fails may have
done its work or not.
-/

namespace FacetSearch

variable {σ α β : Type}

/-- An engine whose answers about the presence of indices can be trusted. -/
structure TruthfulEngine (σ : Type) extends Engine σ where
  present : σ → String → Bool
  /-- A check that gets an answer gets the right one. -/
  found_eq {index : String} {state : σ} {found : Bool} :
    (reply (.indexExists index) state).1 = .ok found → found = present state index
  present_of_created {index : String} {body : Json} {state : σ} :
    (reply (.createIndex index body) state).1 = .ok () →
      present (reply (.createIndex index body) state).2 index
  /-- An index appears by its creation only. -/
  created_of_appears {call : Call} {state : σ} {index : String} :
    present state index = false → present (reply call state).2 index →
      ∃ body, call = .createIndex index body
  /-- An index vanishes by its deletion only. -/
  deleted_of_vanishes {call : Call} {state : σ} {index : String} :
    present state index → present (reply call state).2 index = false → call = .deleteIndex index

namespace Memory

/-- The store tells the truth about its indices, whatever faults are prepared. -/
def truthful : TruthfulEngine Memory where
  toEngine := engine
  present memory index := memory.indices.contains index
  found_eq := result_indexExists
  present_of_created {index body memory} hcreated := by
    change (reply (.createIndex index body) memory).2.indices.contains index
    rcases reply_cases (.createIndex index body) memory with ⟨error, herror, -⟩ | heq
    · have hfailed : (reply (.createIndex index body) memory).1 = .ok () := hcreated
      rw [herror] at hfailed
      cases hfailed
    · rw [heq, contains_faultless]
      simp [containsAfter]
  created_of_appears {call memory index} habsent hpresent := by
    by_contra hother
    have hkept : memory.containsAfter index call = memory.indices.contains index := by
      cases call with
      | createIndex created body =>
        have hne : created ≠ index := fun heq ↦ hother ⟨body, heq ▸ rfl⟩
        simp [containsAfter, hne]
      | deleteIndex deleted => simp [containsAfter, habsent]
      | _ => rfl
    have hsame : (reply call memory).2.indices.contains index = true := hpresent
    rw [contains_reply hkept, habsent] at hsame
    cases hsame
  deleted_of_vanishes {call memory index} hpresent habsent := by
    by_contra hother
    have hkept : memory.containsAfter index call = memory.indices.contains index := by
      cases call with
      | createIndex created body => simp [containsAfter, hpresent]
      | deleteIndex deleted =>
        have hne : deleted ≠ index := fun heq ↦ hother (heq ▸ rfl)
        simp [containsAfter, hne]
      | _ => rfl
    have hsame : (reply call memory).2.indices.contains index = false := habsent
    rw [contains_reply hkept, hpresent] at hsame
    cases hsame

end Memory

/-- Who makes a call. -/
inductive Author where
  | manager
  | listener

/-- Where the present incarnation of an index comes from. -/
inductive Origin where
  /-- It was there from the start. -/
  | start
  /-- The manager's call created it, whether or not the call was answered with success. -/
  | manager (acknowledged : Bool)
  /-- A call of a listener made the index appear or vanish. -/
  | listener
deriving DecidableEq

/-- What is known of an index since it appeared. -/
structure Incarnation where
  origin : Origin
  /-- The listeners that have succeeded on it, in order. -/
  succeeded : List Listener
  /-- A listener has failed on it. -/
  failed : Bool

namespace Incarnation

def fresh (origin : Origin) : Incarnation := ⟨origin, [], false⟩

/-- What is known after a call, from whether the index was present before and after it. -/
def afterCall (old : Incarnation) (author : Author) (acknowledged before after : Bool) :
    Incarnation :=
  match author with
  | .manager => if !before && after then fresh (.manager acknowledged) else old
  | .listener => if before == after then old else fresh .listener

/-- What is known after a listener. A success counts for the incarnation that it was run for, which
is the one that the manager created. -/
def afterListener (old : Incarnation) (listener : Listener) : Except Error Unit → Incarnation
  | .ok () => match old.origin with
    | .manager _ => { old with succeeded := old.succeeded ++ [listener] }
    | .start | .listener => old
  | .error _ => { old with failed := true }

end Incarnation

/-- The state of an engine with what is known of its indices. -/
structure World (σ : Type) where
  state : σ
  incarnation : String → Incarnation

/-- One step of a script. -/
inductive Event where
  | asked (author : Author) (call : Call)
  | notified (listener : Listener) (index : String) (outcome : Except Error Unit)

def Event.call? : Event → Option Call
  | asked _ call => some call
  | notified .. => none

/-- A run with its steps, each with the world in which it was taken. -/
structure Trail (σ α : Type) where
  result : Except Error α
  steps : List (Event × World σ)
  world : World σ

def Trail.calls (trail : Trail σ α) : List Call := trail.steps.filterMap fun step ↦ step.1.call?

namespace World

/-- The world of a state in which nothing has happened yet. -/
def start (state : σ) : World σ := ⟨state, fun _ ↦ .fresh .start⟩

variable (engine : TruthfulEngine σ)

def present (world : World σ) (index : String) : Bool := engine.present world.state index

/-- The world after a call. -/
def afterCall (author : Author) (call : Call) (world : World σ) : World σ where
  state := (engine.reply call world.state).2
  incarnation index := (world.incarnation index).afterCall author
    (engine.reply call world.state).1.isOk (world.present engine index)
    (engine.present (engine.reply call world.state).2 index)

def afterListener (world : World σ) (listener : Listener) (index : String)
    (outcome : Except Error Unit) : World σ where
  state := world.state
  incarnation other :=
    if other = index then (world.incarnation other).afterListener listener outcome
    else world.incarnation other

@[simp] theorem afterCall_state (author : Author) (call : Call) (world : World σ) :
    (world.afterCall engine author call).state = (engine.reply call world.state).2 := rfl

@[simp] theorem afterListener_state (world : World σ) (listener : Listener) (index : String)
    (outcome : Except Error Unit) :
    (world.afterListener listener index outcome).state = world.state := rfl

end World

section Follow

variable (engine : TruthfulEngine σ)

/-- The trail of the calls of a listener. -/
def Program.follow : Program α → World σ → Trail σ α
  | .done result, world => ⟨result, [], world⟩
  | .ask call next, world =>
    let rest := (next (engine.reply call world.state).1).follow
      (world.afterCall engine .listener call)
    ⟨rest.result, (.asked .listener call, world) :: rest.steps, rest.world⟩

def Script.follow : Script α → World σ → Trail σ α
  | .done result, world => ⟨result, [], world⟩
  | .ask call next, world =>
    let rest := (next (engine.reply call world.state).1).follow
      (world.afterCall engine .manager call)
    ⟨rest.result, (.asked .manager call, world) :: rest.steps, rest.world⟩
  | .notify listener index next, world =>
    let visit := (listener index).follow engine world
    let rest := (next visit.result).follow (visit.world.afterListener listener index visit.result)
    ⟨rest.result, visit.steps ++ (.notified listener index visit.result, visit.world) :: rest.steps,
      rest.world⟩

end Follow

/-! ## Trails and runs -/

def Trail.run (trail : Trail σ α) : Run σ α := ⟨trail.result, trail.calls, trail.world.state⟩

variable (engine : TruthfulEngine σ)

@[simp] theorem Trail.run_cons (event : Event) (world : World σ) (rest : Trail σ α) :
    (Trail.mk rest.result ((event, world) :: rest.steps) rest.world).run =
      ⟨rest.run.result, event.call?.toList ++ rest.run.calls, rest.run.state⟩ := by
  cases event <;> rfl

theorem Program.run_follow (program : Program α) (world : World σ) :
    (program.follow engine world).run = program.run engine.toEngine world.state := by
  induction program generalizing world with
  | done result => rfl
  | ask call next ih =>
    rw [Program.follow, Trail.run_cons, ih, World.afterCall_state, Program.run_ask]
    rfl

/-- Watching a script changes nothing: its trail is the run of its program. -/
theorem Script.run_follow (script : Script α) (world : World σ) :
    (script.follow engine world).run = script.program.run engine.toEngine world.state := by
  induction script generalizing world with
  | done result => rfl
  | ask call next ih =>
    rw [Script.follow, Trail.run_cons, ih, World.afterCall_state, Script.program, Program.run_ask]
    rfl
  | notify listener index next ih =>
    have hvisit := Program.run_follow engine (listener index) world
    have hrest := ih ((listener index).follow engine world).result
      (((listener index).follow engine world).world.afterListener listener index
        ((listener index).follow engine world).result)
    rw [Script.program, Program.run_bind, Program.run_attempt, ← hvisit,
      Run.followedBy_ok rfl]
    rw [World.afterListener_state] at hrest
    change _ = Run.mk _ _ _
    simp only [Trail.run] at hrest ⊢
    rw [← hrest]
    simp [Script.follow, Trail.calls, Event.call?]

/-- A trail followed, unless it failed, by another that starts from its result and its world. -/
def Trail.followedBy (trail : Trail σ α) (next : α → World σ → Trail σ β) : Trail σ β :=
  match trail.result with
  | .ok a => ⟨(next a trail.world).result, trail.steps ++ (next a trail.world).steps,
      (next a trail.world).world⟩
  | .error error => ⟨.error error, trail.steps, trail.world⟩

theorem Trail.followedBy_ok {trail : Trail σ α} {a : α} (hresult : trail.result = .ok a)
    (next : α → World σ → Trail σ β) :
    trail.followedBy next = ⟨(next a trail.world).result,
      trail.steps ++ (next a trail.world).steps, (next a trail.world).world⟩ := by
  simp [followedBy, hresult]

theorem Trail.followedBy_error {trail : Trail σ α} {error : Error}
    (hresult : trail.result = .error error) (next : α → World σ → Trail σ β) :
    trail.followedBy next = ⟨.error error, trail.steps, trail.world⟩ := by
  simp [followedBy, hresult]

theorem Script.follow_bind (script : Script α) (f : α → Script β) (world : World σ) :
    (script.bind f).follow engine world =
      (script.follow engine world).followedBy fun a world ↦ (f a).follow engine world := by
  induction script generalizing world with
  | done result => cases result <;> rfl
  | ask call next ih =>
    simp only [bind, follow, ih]
    generalize (next (engine.reply call world.state).1).follow engine
      (world.afterCall engine .manager call) = rest
    cases hresult : rest.result with
    | ok a => simp [Trail.followedBy, hresult]
    | error error => simp [Trail.followedBy, hresult]
  | notify listener index next ih =>
    simp only [bind, follow, ih]
    generalize (next _).follow engine _ = rest
    cases hresult : rest.result with
    | ok a => simp [Trail.followedBy, hresult]
    | error error => simp [Trail.followedBy, hresult]

/-! ## What the steps and the end of a trail meet -/

/-- Every step of the trail is as demanded, and so is its end. -/
structure Trail.Meets (trail : Trail σ α) (step : Event → World σ → Prop)
    (post : Except Error α → World σ → Prop) : Prop where
  steps : ∀ entry ∈ trail.steps, step entry.1 entry.2
  post : post trail.result trail.world

theorem Trail.Meets.mono {trail : Trail σ α} {step : Event → World σ → Prop}
    {post weaker : Except Error α → World σ → Prop} (h : trail.Meets step post)
    (himp : ∀ result world, post result world → weaker result world) : trail.Meets step weaker :=
  ⟨h.steps, himp _ _ h.post⟩

namespace Script

variable {engine} {step : Event → World σ → Prop} {post : Except Error α → World σ → Prop}
  {world : World σ}

theorem meets_done {result : Except Error α} (hpost : post result world) :
    ((done result).follow engine world).Meets step post where
  steps := by
    intro entry hentry
    simp [follow] at hentry
  post := hpost

theorem meets_ask_iff {call : Call} {next : Except Error call.Reply → Script α} :
    ((ask call next).follow engine world).Meets step post ↔
      step (.asked .manager call) world ∧
      ((next (engine.reply call world.state).1).follow engine
        (world.afterCall engine .manager call)).Meets step post := by
  constructor
  · intro h
    have hsteps := h.steps
    simp only [follow, List.mem_cons, forall_eq_or_imp] at hsteps
    exact ⟨hsteps.1, hsteps.2, h.post⟩
  · rintro ⟨hstep, hnext⟩
    refine ⟨?_, hnext.post⟩
    simp only [follow, List.mem_cons, forall_eq_or_imp]
    exact ⟨hstep, hnext.steps⟩

theorem meets_notify_iff {listener : Listener} {index : String}
    {next : Except Error Unit → Script α} :
    ((notify listener index next).follow engine world).Meets step post ↔
      ((listener index).follow engine world).Meets step fun outcome world ↦
        step (.notified listener index outcome) world ∧
        ((next outcome).follow engine (world.afterListener listener index outcome)).Meets step
          post := by
  constructor
  · intro h
    have hsteps := h.steps
    simp only [follow, List.mem_append, List.mem_cons] at hsteps
    refine ⟨fun entry hentry ↦ hsteps entry (.inl hentry), hsteps _ (.inr (.inl rfl)), ?_⟩
    exact ⟨fun entry hentry ↦ hsteps entry (.inr (.inr hentry)), h.post⟩
  · rintro ⟨hvisit, hnotified, hnext⟩
    refine ⟨?_, hnext.post⟩
    simp only [follow, List.mem_append, List.mem_cons]
    rintro entry (hentry | rfl | hentry)
    · exact hvisit entry hentry
    · exact hnotified
    · exact hnext.steps entry hentry

/-- A sequence meets what its second part meets from where the first part ends. -/
theorem meets_bind {post : Except Error β → World σ → Prop} {script : Script α}
    {f : α → Script β}
    (h : (script.follow engine world).Meets step fun result world ↦
      match result with
      | .ok a => ((f a).follow engine world).Meets step post
      | .error error => post (.error error) world) :
    ((script.bind f).follow engine world).Meets step post := by
  induction script generalizing world with
  | done result =>
    cases result with
    | ok a => exact h.post
    | error error => exact meets_done h.post
  | ask call next ih =>
    obtain ⟨hstep, hnext⟩ := meets_ask_iff.mp h
    exact meets_ask_iff.mpr ⟨hstep, ih _ hnext⟩
  | notify listener index next ih =>
    have hvisit := meets_notify_iff.mp h
    exact meets_notify_iff.mpr (hvisit.mono fun _ _ hnext ↦ ⟨hnext.1, ih _ hnext.2⟩)

theorem meets_attempt {post : Except Error (Except Error α) → World σ → Prop} {script : Script α}
    (h : (script.follow engine world).Meets step fun result world ↦ post (.ok result) world) :
    (script.attempt.follow engine world).Meets step post := by
  induction script generalizing world with
  | done result => exact meets_done h.post
  | ask call next ih =>
    obtain ⟨hstep, hnext⟩ := meets_ask_iff.mp h
    exact meets_ask_iff.mpr ⟨hstep, ih _ hnext⟩
  | notify listener index next ih =>
    have hvisit := meets_notify_iff.mp h
    exact meets_notify_iff.mpr (hvisit.mono fun _ _ hnext ↦ ⟨hnext.1, ih _ hnext.2⟩)

/-- What holds at the end of the first part of a sequence is all that the second part needs. -/
theorem meets_seq {post : Except Error β → World σ → Prop} {script : Script α} {f : α → Script β}
    {between : Except Error α → World σ → Prop}
    (hfirst : (script.follow engine world).Meets step between)
    (hok : ∀ a world, between (.ok a) world → ((f a).follow engine world).Meets step post)
    (herror : ∀ error world, between (.error error) world → post (.error error) world) :
    ((script.bind f).follow engine world).Meets step post := by
  refine meets_bind (hfirst.mono fun result world hbetween ↦ ?_)
  cases result with
  | ok a => exact hok a world hbetween
  | error error => exact herror error world hbetween

theorem meets_discard {kept : World σ → Prop} {script : Script α}
    (h : (script.follow engine world).Meets step fun _ world ↦ kept world) :
    ((do let _ ← script : Script Unit).follow engine world).Meets step fun _ world ↦
      kept world :=
  meets_seq h (fun _ _ hkept ↦ meets_done hkept) fun _ _ hkept ↦ hkept

theorem meets_request {call : Call} {post : Except Error call.Reply → World σ → Prop}
    (hstep : step (.asked .manager call) world)
    (hpost : post (engine.reply call world.state).1 (world.afterCall engine .manager call)) :
    ((own (.request call)).follow engine world).Meets step post :=
  meets_ask_iff.mpr ⟨hstep, meets_done hpost⟩

end Script

end FacetSearch

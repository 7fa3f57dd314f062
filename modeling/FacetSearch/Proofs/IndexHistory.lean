import FacetSearch.Proofs.IndexTurn

/-!
# The history of indices

The manager takes turns: it ensures or drops indices, one after the other, with listeners that may
behave differently each time they are run. `history_lawful` says what every turn of a history is
like, and that an index is created twice only if it was dropped in between.
-/

namespace FacetSearch

variable {σ γ : Type}

/-! ## Turns -/

/-- A turn of the manager on an index. The listeners come with the turn, so that one and the same may
succeed in one turn and fail in another. -/
inductive Turn where
  | ensure (listeners : List Listener) (index : String)
  | drop (index : String)

namespace Turn

abbrev Reply : Turn → Type
  | ensure .. => Bool
  | drop _ => Unit

def index : Turn → String
  | ensure _ index | drop index => index

def listeners : Turn → List Listener
  | ensure listeners _ => listeners
  | drop _ => []

def program (settings : IndexSettings) : (turn : Turn) → Program turn.Reply
  | ensure listeners index => IndexManager.ensureIndex ⟨settings, listeners⟩ index
  | drop index => IndexManager.dropIndex index

def script (settings : IndexSettings) : (turn : Turn) → Script turn.Reply
  | ensure listeners index => IndexManager.ensureScript ⟨settings, listeners⟩ index
  | drop index => .own (IndexManager.dropIndex index)

/-- The listeners of the turn create and delete no index. -/
def KeepsIndices (engine : Engine σ) (turn : Turn) : Prop :=
  ∀ listener ∈ turn.listeners, listener.KeepsIndices engine

theorem program_script (settings : IndexSettings) (turn : Turn) :
    (turn.script settings).program = turn.program settings := by
  cases turn with
  | ensure listeners index => exact IndexManager.program_ensureScript ⟨settings, listeners⟩ index
  | drop index => exact Script.program_own (IndexManager.dropIndex index)

end Turn

/-- A turn that was taken, with its trail from the world in which it began. -/
structure Deed (σ : Type) where
  turn : Turn
  before : World σ
  trail : Trail σ turn.Reply

/-- Takes turns one after the other. -/
def history (engine : TruthfulEngine σ) (settings : IndexSettings) :
    List Turn → World σ → List (Deed σ)
  | [], _ => []
  | turn :: rest, world =>
    let deed : Deed σ := ⟨turn, world, (turn.script settings).follow engine world⟩
    deed :: history engine settings rest deed.trail.world

namespace Deed

/-- What the answer to a turn tells. -/
def Tells (engine : TruthfulEngine σ) : Deed σ → Prop
  | ⟨.ensure listeners index, before, trail⟩ =>
    (trail.result = .ok false ↔ before.present engine index) ∧
    (trail.result = .ok true ↔ before.present engine index = false ∧
      trail.outcomes = listeners.map fun listener ↦ (listener, .ok ())) ∧
    ((∃ error, trail.result = .error error ∧ error.kind = .configuration) ↔
      before.present engine index = false ∧ ∃ outcome ∈ trail.outcomes, outcome.2 ≠ .ok ())
  | ⟨.drop _, _, trail⟩ => trail.result = .ok ()

/-- The turn went in one of the ways in which it may go. -/
def Went (engine : TruthfulEngine σ) (body : Json) : Deed σ → Prop
  | ⟨.ensure listeners index, before, trail⟩ => Ensured engine listeners index body before trail
  | ⟨.drop index, before, trail⟩ => Dropped engine index before trail

/-- The turn created the index. -/
def Creates (index : String) : Deed σ → Prop
  | ⟨.ensure _ ensured, _, trail⟩ => ensured = index ∧ trail.result = .ok true
  | ⟨.drop _, _, _⟩ => False

/-- The turn dropped the index with success. -/
def Drops (index : String) : Deed σ → Prop
  | ⟨.drop dropped, _, trail⟩ => dropped = index ∧ trail.result = .ok ()
  | ⟨.ensure _ _, _, _⟩ => False

variable {engine : TruthfulEngine σ} {body : Json} {deed : Deed σ}

theorem Went.tells (hwent : deed.Went engine body) : deed.Tells engine := by
  obtain ⟨turn, before, trail⟩ := deed
  cases turn with
  | ensure listeners index =>
    have hensured : Ensured engine listeners index body before trail := hwent
    exact ⟨hensured.result_eq_false_iff, hensured.result_eq_true_iff, hensured.result_eq_error_iff⟩
  | drop index => exact Dropped.result_eq hwent

theorem Went.present_of_creates (hwent : deed.Went engine body) {index : String}
    (hcreates : deed.Creates index) :
    deed.before.present engine index = false ∧ deed.trail.world.present engine index := by
  obtain ⟨turn, before, trail⟩ := deed
  cases turn with
  | drop dropped => exact hcreates.elim
  | ensure listeners ensured =>
    obtain ⟨rfl, hresult⟩ := hcreates
    cases hwent with
    | found _ hfound => simp [hfound] at hresult
    | created hbefore _ _ hafter => exact ⟨hbefore, by simp [hafter]⟩
    | takenBack _ _ hfailed => simp [hfailed] at hresult

/-- An index that is there stays there until it is dropped. -/
theorem Went.present_of_not_drops (hwent : deed.Went engine body) {index : String}
    (hpresent : deed.before.present engine index) (hkept : ¬deed.Drops index) :
    deed.trail.world.present engine index := by
  obtain ⟨turn, before, trail⟩ := deed
  cases turn with
  | drop dropped =>
    have hother : index ≠ dropped := fun heq ↦ hkept ⟨heq.symm, hwent.result_eq⟩
    simpa [hwent.after_eq, hother] using hpresent
  | ensure listeners ensured =>
    cases hwent with
    | found _ _ _ hafter | takenBack _ _ _ _ hafter => simpa [hafter] using hpresent
    | created _ _ _ hafter =>
      rw [hafter, Function.update_apply]
      split
      · rfl
      · exact hpresent

/-- Every call of the manager in a turn concerns the index of the turn. -/
theorem Went.index_eq (hwent : deed.Went engine body) {call : Call}
    (hcall : .asked .manager call ∈ deed.trail.events) : call.index = deed.turn.index := by
  obtain ⟨turn, before, trail⟩ := deed
  cases turn with
  | ensure listeners index => exact Ensured.index_eq hwent (Trail.mem_ownEvents.mpr hcall)
  | drop index =>
    rw [hwent.events_eq] at hcall
    cases List.mem_singleton.mp hcall
    rfl

/-- Nothing but a listener can touch what another index holds. -/
theorem Went.content_eq {content : σ → String → γ} (hsteady : engine.Steady content)
    (hwent : deed.Went engine body) {program : Program deed.turn.Reply}
    (hrun : deed.trail.run = program.run engine.toEngine deed.before.state) {other : String}
    (hother : deed.turn.index ≠ other)
    (hlisteners : ∀ call, .asked .listener call ∈ deed.trail.events → call.index ≠ other) :
    content deed.trail.world.state other = content deed.before.state other := by
  have hcalls : ∀ call ∈ (program.run engine.toEngine deed.before.state).calls,
      call.index ≠ other := by
    intro call hcall
    rw [← hrun] at hcall
    obtain ⟨author, hevent⟩ := Trail.mem_calls.mp hcall
    cases author with
    | manager =>
      rw [hwent.index_eq hevent]
      exact hother
    | listener => exact hlisteners call hevent
  have hstate : deed.trail.world.state =
      (program.run engine.toEngine deed.before.state).state := congrArg Run.state hrun
  rw [hstate]
  exact Program.view_run (content · other) program deed.before.state fun call hcall state ↦
    hsteady.content_eq call state other (hcalls call hcall)

end Deed

/-! ## Histories -/

/-- What every turn of a history is like. -/
structure Deed.Lawful (engine : TruthfulEngine σ) (content : σ → String → γ)
    (settings : IndexSettings) (body : Json) (deed : Deed σ) : Prop where
  /-- The trail is the run of the turn's program. -/
  run_eq : deed.trail.run =
    (deed.turn.program settings).run engine.toEngine deed.before.state
  tells : deed.Tells engine
  went : deed.Went engine body
  /-- What other indices hold is as before, unless a listener has written to them. -/
  content_eq : ∀ other, deed.turn.index ≠ other →
    (∀ call, .asked .listener call ∈ deed.trail.events → call.index ≠ other) →
    content deed.trail.world.state other = content deed.before.state other

section History

variable {engine : TruthfulEngine σ} {content : σ → String → γ} (hsteady : engine.Steady content)
  {settings : IndexSettings} {body : Json} (hbody : settings.createBody = .ok body)

include hsteady hbody

theorem went_follow {turn : Turn} (hkeeps : turn.KeepsIndices engine.toEngine) (world : World σ) :
    (Deed.mk turn world ((turn.script settings).follow engine world)).Went engine body := by
  cases turn with
  | ensure listeners index =>
    exact ensured_ensureScript hsteady ⟨settings, listeners⟩ hbody hkeeps index world
  | drop index => exact dropped_dropIndex hsteady index world

/-- Each turn of a history is lawful, wherever the history begins. -/
theorem lawful_of_mem_history {turns : List Turn}
    (hkeeps : ∀ turn ∈ turns, turn.KeepsIndices engine.toEngine) (world : World σ) :
    ∀ deed ∈ history engine settings turns world, deed.Lawful engine content settings body := by
  induction turns generalizing world with
  | nil => exact fun deed hdeed ↦ absurd hdeed List.not_mem_nil
  | cons turn rest ih =>
    have hwent := went_follow hsteady hbody (hkeeps turn List.mem_cons_self) world
    have hrun : ((turn.script settings).follow engine world).run =
        (turn.program settings).run engine.toEngine world.state := by
      rw [Script.run_follow, Turn.program_script]
    intro deed hdeed
    rcases List.mem_cons.mp hdeed with rfl | hmem
    · exact ⟨hrun, hwent.tells, hwent, fun other hother ↦ hwent.content_eq hsteady hrun hother⟩
    · exact ih (fun other hother ↦ hkeeps other (List.mem_cons_of_mem _ hother)) _ deed hmem

/-- An index that is there is created again only after it was dropped. -/
theorem drops_of_creates {turns : List Turn}
    (hkeeps : ∀ turn ∈ turns, turn.KeepsIndices engine.toEngine) {world : World σ}
    {index : String} (hpresent : world.present engine index) {between later : List (Deed σ)}
    {deed : Deed σ} (hhistory : history engine settings turns world = between ++ deed :: later)
    (hcreates : deed.Creates index) : ∃ drop ∈ between, drop.Drops index := by
  induction turns generalizing world between with
  | nil => simp [history] at hhistory
  | cons turn rest ih =>
    have hwent := went_follow hsteady hbody (hkeeps turn List.mem_cons_self) world
    cases between with
    | nil =>
      obtain ⟨rfl, -⟩ := List.cons.inj hhistory
      have habsent := (hwent.present_of_creates hcreates).1
      rw [hpresent] at habsent
      cases habsent
    | cons first between =>
      obtain ⟨rfl, hrest⟩ := List.cons.inj hhistory
      by_cases hdrops : (Deed.mk turn world ((turn.script settings).follow engine world)).Drops index
      · exact ⟨_, List.mem_cons_self, hdrops⟩
      · obtain ⟨drop, hdrop, hdropped⟩ :=
          ih (fun other hother ↦ hkeeps other (List.mem_cons_of_mem _ hother))
            (hwent.present_of_not_drops hpresent hdrops) hrest
        exact ⟨drop, List.mem_cons_of_mem _ hdrop, hdropped⟩

/-- Between two creations of an index it was dropped. -/
theorem drops_between {turns : List Turn}
    (hkeeps : ∀ turn ∈ turns, turn.KeepsIndices engine.toEngine) {world : World σ}
    {index : String} {earlier between later : List (Deed σ)} {first second : Deed σ}
    (hhistory : history engine settings turns world =
      earlier ++ first :: (between ++ second :: later))
    (hfirst : first.Creates index) (hsecond : second.Creates index) :
    ∃ drop ∈ between, drop.Drops index := by
  induction turns generalizing world earlier with
  | nil => simp [history] at hhistory
  | cons turn rest ih =>
    have hrest := fun other hother ↦ hkeeps other (List.mem_cons_of_mem turn hother)
    cases earlier with
    | nil =>
      obtain ⟨rfl, hbetween⟩ := List.cons.inj hhistory
      have hwent := went_follow hsteady hbody (hkeeps turn List.mem_cons_self) world
      exact drops_of_creates hsteady hbody hrest (hwent.present_of_creates hfirst).2 hbetween
        hsecond
    | cons deed earlier => exact ih hrest (List.cons.inj hhistory).2

end History

/-- Whatever turns the manager takes, with listeners that succeed or fail at each of them: every
answer tells whether the index was there and whether all its listeners succeeded, no turn leaves
anything half done or touches another index, and an index is created twice only if it was dropped in
between. -/
theorem history_lawful {engine : TruthfulEngine σ} {content : σ → String → γ}
    (hsteady : engine.Steady content) {settings : IndexSettings} {body : Json}
    (hbody : settings.createBody = .ok body) {turns : List Turn}
    (hkeeps : ∀ turn ∈ turns, turn.KeepsIndices engine.toEngine) (state : σ) :
    (∀ deed ∈ history engine settings turns (.start state),
      deed.Lawful engine content settings body) ∧
    ∀ index earlier first between second later,
      history engine settings turns (.start state) =
        earlier ++ first :: (between ++ second :: later) →
      first.Creates index → second.Creates index → ∃ drop ∈ between, drop.Drops index := by
  constructor
  · exact lawful_of_mem_history hsteady hbody hkeeps (.start state)
  · intro index earlier first between second later hhistory hfirst hsecond
    exact drops_between hsteady hbody hkeeps hhistory hfirst hsecond

/-- A listener that gives a new index a mapping. -/
def mapIndex : Listener := fun index ↦ .request (.putMapping index (.obj []))

/-- A store that refuses the next mapping. -/
def mappingRefused : { memory : Memory // memory.Dependable } :=
  ⟨{ Memory.empty with faults := [("put_mapping", .backend 500 "busy")] },
    by simp [Memory.Dependable, Memory.presenceCalls]⟩

/-- The first creation fails; the index is created by the second turn, found by the third, dropped
and created again. -/
def recreate : List Turn :=
  [.ensure [mapIndex] "studies", .ensure [mapIndex] "studies", .ensure [mapIndex] "studies",
    .drop "studies", .ensure [mapIndex] "studies"]

theorem history_lawful_recreate :
    ∃ body earlier first between second later,
      IndexSettings.createBody ⟨1, 0, "", none⟩ = .ok body ∧
      (∀ turn ∈ recreate, turn.KeepsIndices Memory.dependable.toEngine) ∧
      history Memory.dependable ⟨1, 0, "", none⟩ recreate (.start mappingRefused) =
        earlier ++ first :: (between ++ second :: later) ∧
      first.Creates "studies" ∧ second.Creates "studies" ∧
      (∃ drop ∈ between, drop.Drops "studies") ∧
      ∀ deed ∈ earlier, deed.Lawful Memory.dependable (fun state ↦ state.1.documents)
        ⟨1, 0, "", none⟩ body := by
  have hbody : IndexSettings.createBody ⟨1, 0, "", none⟩ = .ok (.obj [("settings", .obj
      [("number_of_replicas", .nat 0), ("number_of_shards", .nat 1)])]) := by decide
  have hlistener : mapIndex.KeepsIndices Memory.dependable.toEngine := by
    intro index state call hcall
    rw [List.mem_singleton.mp hcall]
    rfl
  have hensure (index : String) :
      (Turn.ensure [mapIndex] index).KeepsIndices Memory.dependable.toEngine := by
    intro listener hmem
    rw [List.mem_singleton.mp hmem]
    exact hlistener
  have hdrop : (Turn.drop "studies").KeepsIndices Memory.dependable.toEngine :=
    fun listener hmem ↦ absurd hmem List.not_mem_nil
  have hkeeps : ∀ turn ∈ recreate, turn.KeepsIndices Memory.dependable.toEngine := by
    intro turn hturn
    simp only [recreate, List.mem_cons, List.not_mem_nil, or_false] at hturn
    rcases hturn with rfl | rfl | rfl | rfl | rfl
    · exact hensure "studies"
    · exact hensure "studies"
    · exact hensure "studies"
    · exact hdrop
    · exact hensure "studies"
  obtain ⟨hlawful, hdrops⟩ :=
    history_lawful Memory.steady_dependable hbody hkeeps mappingRefused
  have hhistory : history Memory.dependable ⟨1, 0, "", none⟩ recreate (.start mappingRefused) =
      [_] ++ _ :: ([_, _] ++ _ :: []) := rfl
  refine ⟨_, _, _, _, _, _, hbody, hkeeps, hhistory, ⟨rfl, rfl⟩, ⟨rfl, rfl⟩, ?_, ?_⟩
  · exact hdrops "studies" _ _ _ _ _ hhistory ⟨rfl, rfl⟩ ⟨rfl, rfl⟩
  · intro deed hdeed
    refine hlawful deed ?_
    rw [hhistory]
    exact List.mem_append_left _ hdeed

end FacetSearch

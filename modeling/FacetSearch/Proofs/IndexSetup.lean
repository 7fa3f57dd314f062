import FacetSearch.Proofs.Trail

/-!
# Writing to indices that were never set up

An index that was there from the start counts as set up, and so does one on which all listeners have
succeeded. The manager writes documents to other indices as well, but only to those whose setup was
botched: a listener failed on the index and the deletion that should have followed left it in place,
or the call that created it reported a failure, or a listener made it appear or vanish by a call of
its own. `documents_meet_setup_iff` says that nothing else can go wrong in any session.
-/

namespace FacetSearch

variable {σ : Type}

namespace Incarnation

variable (listeners : List Listener)

/-- The index was there from the start, or every listener has succeeded on it. -/
def SetUp (incarnation : Incarnation) : Prop :=
  incarnation.origin = .start ∨ incarnation.succeeded = listeners

/-- A listener interfered with the index or failed on it, or there are listeners that were never
run because the creation of the index reported a failure. -/
def Botched (incarnation : Incarnation) : Prop :=
  incarnation.origin = .listener ∨ incarnation.failed ∨
    (incarnation.origin = .manager false ∧ listeners ≠ [])

/-- An incarnation is set up exactly if it is not botched. -/
def Settled (incarnation : Incarnation) : Prop :=
  incarnation.SetUp listeners ↔ ¬incarnation.Botched listeners

variable {listeners}

theorem settled_start : (fresh .start).Settled listeners := by
  simp [Settled, SetUp, Botched, fresh]

theorem settled_unacknowledged : (fresh (.manager false)).Settled listeners := by
  simp [Settled, SetUp, Botched, fresh, eq_comm]

theorem settled_listener (hlisteners : listeners ≠ []) : (fresh .listener).Settled listeners := by
  simp [Settled, SetUp, Botched, fresh, Ne.symm hlisteners]

theorem settled_complete : (Incarnation.mk (.manager true) listeners false).Settled listeners := by
  simp [Settled, SetUp, Botched]

/-- Where a listener has failed, not all have succeeded. -/
theorem settled_failed {incarnation : Incarnation} (hfailed : incarnation.failed)
    (horigin : incarnation.origin ≠ .start) (hmissing : incarnation.succeeded ≠ listeners) :
    incarnation.Settled listeners := by
  simp [Settled, SetUp, Botched, hfailed, horigin, hmissing]

end Incarnation

namespace World

variable (engine : TruthfulEngine σ) (listeners : List Listener)

/-- Every present index is settled. -/
def Sound (world : World σ) : Prop :=
  ∀ index, world.present engine index → (world.incarnation index).Settled listeners

/-- The index is present, unless a listener has interfered with it. -/
def Ready (index : String) (world : World σ) : Prop :=
  world.present engine index ∨ (world.incarnation index).origin = .listener

/-- The manager has created the index, some listeners have succeeded on it and none has failed,
unless a listener has interfered with it. All other indices are settled. -/
structure SettingUp (index : String) (done : List Listener) (world : World σ) : Prop where
  others : ∀ other, other ≠ index → world.present engine other →
    (world.incarnation other).Settled listeners
  own : (world.present engine index ∧
      world.incarnation index = ⟨.manager true, done, false⟩) ∨
    (listeners ≠ [] ∧ world.incarnation index = .fresh .listener)

variable {engine listeners} {world : World σ}

theorem sound_start (state : σ) : (start state).Sound engine listeners :=
  fun _ _ ↦ Incarnation.settled_start

theorem present_afterCall (author : Author) (call : Call) (index : String) :
    (world.afterCall engine author call).present engine index =
      engine.present (engine.reply call world.state).2 index := rfl

/-- After a call of the manager a present index is as it was, or the call has created it. -/
theorem manager_afterCall {call : Call} {index : String}
    (hpresent : (world.afterCall engine .manager call).present engine index) :
    (world.present engine index ∧
      (world.afterCall engine .manager call).incarnation index = world.incarnation index) ∨
    (world.present engine index = false ∧ (∃ body, call = .createIndex index body) ∧
      (world.afterCall engine .manager call).incarnation index =
        .fresh (.manager (engine.reply call world.state).1.isOk)) := by
  rw [present_afterCall] at hpresent
  cases hbefore : world.present engine index with
  | true => exact .inl ⟨rfl, by simp [afterCall, Incarnation.afterCall, hbefore]⟩
  | false =>
    refine .inr ⟨rfl, engine.created_of_appears hbefore hpresent, ?_⟩
    simp [afterCall, Incarnation.afterCall, hbefore, hpresent]

/-- A call of the manager keeps all settled, unless it creates an index and reports success. -/
theorem Sound.afterCall (hsound : world.Sound engine listeners) {call : Call}
    (hcreation : ∀ index body, call = .createIndex index body →
      (engine.reply call world.state).1.isOk = false) :
    (world.afterCall engine .manager call).Sound engine listeners := by
  intro index hpresent
  rcases manager_afterCall hpresent with ⟨hbefore, hsame⟩ | ⟨-, ⟨body, hcall⟩, hfresh⟩
  · rw [hsame]
    exact hsound index hbefore
  · rw [hfresh, hcreation index body hcall]
    exact Incarnation.settled_unacknowledged

/-- A listener leaves an index alone or interferes with it. -/
theorem listener_follow (program : Program Unit) (world : World σ) (index : String) :
    (((program.follow engine world).world.present engine index = world.present engine index) ∧
      (program.follow engine world).world.incarnation index = world.incarnation index) ∨
    (program.follow engine world).world.incarnation index = .fresh .listener := by
  induction program generalizing world with
  | done result => exact .inl ⟨rfl, rfl⟩
  | ask call next ih =>
    have hrest := ih (engine.reply call world.state).1 (world.afterCall engine .listener call)
    by_cases hsame : world.present engine index =
        engine.present (engine.reply call world.state).2 index
    · have hcall : (world.afterCall engine .listener call).incarnation index =
          world.incarnation index := by
        simp [World.afterCall, Incarnation.afterCall, hsame]
      rw [present_afterCall, ← hsame, hcall] at hrest
      exact hrest
    · have hcall : (world.afterCall engine .listener call).incarnation index =
          .fresh .listener := by
        simp [World.afterCall, Incarnation.afterCall, hsame]
      rw [hcall] at hrest
      exact .inr (hrest.elim And.right id)

theorem SettingUp.follow {index : String} {done : List Listener}
    (hsetting : world.SettingUp engine listeners index done) (hlisteners : listeners ≠ [])
    (program : Program Unit) :
    (program.follow engine world).world.SettingUp engine listeners index done where
  others other hother hpresent := by
    rcases listener_follow program world other with ⟨hsame, hincarnation⟩ | hfresh
    · rw [hincarnation]
      exact hsetting.others other hother (hsame ▸ hpresent)
    · rw [hfresh]
      exact Incarnation.settled_listener hlisteners
  own := by
    rcases listener_follow program world index with ⟨hsame, hincarnation⟩ | hfresh
    · rw [hsame, hincarnation]
      exact hsetting.own
    · exact .inr ⟨hlisteners, hfresh⟩

theorem afterListener_of_ne {index other : String} (hother : other ≠ index) (listener : Listener)
    (outcome : Except Error Unit) :
    (world.afterListener listener index outcome).incarnation other = world.incarnation other := by
  simp [afterListener, hother]

theorem SettingUp.afterSuccess {index : String} {done : List Listener}
    (hsetting : world.SettingUp engine listeners index done) (listener : Listener) :
    (world.afterListener listener index (.ok ())).SettingUp engine listeners index
      (done ++ [listener]) where
  others other hother hpresent := by
    rw [afterListener_of_ne hother]
    exact hsetting.others other hother hpresent
  own := by
    rcases hsetting.own with ⟨hpresent, hown⟩ | ⟨hlisteners, hown⟩
    · exact .inl ⟨hpresent, by simp [afterListener, Incarnation.afterListener, hown]⟩
    · refine .inr ⟨hlisteners, ?_⟩
      simp [afterListener, Incarnation.afterListener, hown, Incarnation.fresh]

/-- When a listener fails the index is settled, as botched. -/
theorem SettingUp.afterFailure {index : String} {done : List Listener}
    (hsetting : world.SettingUp engine listeners index done) (listener : Listener)
    (cause : Error) (hdone : done ≠ listeners) :
    (world.afterListener listener index (.error cause)).Sound engine listeners := by
  intro other hpresent
  by_cases hother : other = index
  · subst hother
    rcases hsetting.own with ⟨-, hown⟩ | ⟨hlisteners, hown⟩
    · apply Incarnation.settled_failed <;>
        simp [afterListener, Incarnation.afterListener, hown, hdone]
    · apply Incarnation.settled_failed <;>
        simp [afterListener, Incarnation.afterListener, hown, Incarnation.fresh,
          Ne.symm hlisteners]
  · rw [afterListener_of_ne hother]
    exact hsetting.others other hother hpresent

/-- When all listeners have succeeded the index is settled and ready. -/
theorem SettingUp.complete {index : String}
    (hsetting : world.SettingUp engine listeners index listeners) :
    world.Sound engine listeners ∧ world.Ready engine index := by
  constructor
  · intro other hpresent
    by_cases hother : other = index
    · subst hother
      rcases hsetting.own with ⟨-, hown⟩ | ⟨hlisteners, hown⟩
      · rw [hown]
        exact Incarnation.settled_complete
      · rw [hown]
        exact Incarnation.settled_listener hlisteners
    · exact hsetting.others other hother hpresent
  · rcases hsetting.own with ⟨hpresent, -⟩ | ⟨-, hown⟩
    · exact .inl hpresent
    · exact .inr (by rw [hown]; rfl)

/-- A creation that reports success begins the setup of an index that was absent. -/
theorem Sound.settingUp (hsound : world.Sound engine listeners) {index : String} {body : Json}
    (habsent : world.present engine index = false)
    (hcreated : (engine.reply (.createIndex index body) world.state).1 = .ok ()) :
    (world.afterCall engine .manager (.createIndex index body)).SettingUp engine listeners index
      [] where
  others other hother hpresent := by
    rcases manager_afterCall hpresent with ⟨hbefore, hsame⟩ | ⟨-, ⟨_, hcall⟩, -⟩
    · rw [hsame]
      exact hsound other hbefore
    · cases hcall
      exact absurd rfl hother
  own := by
    have hpresent : (world.afterCall engine .manager (.createIndex index body)).present engine
        index := engine.present_of_created hcreated
    rcases manager_afterCall hpresent with ⟨hbefore, -⟩ | ⟨-, -, hfresh⟩
    · rw [habsent] at hbefore
      cases hbefore
    · refine .inl ⟨hpresent, ?_⟩
      rw [hfresh, hcreated]
      rfl

/-- A check for an index does not change which indices are present. -/
theorem present_afterCheck (checked index : String) :
    (world.afterCall engine .manager (.indexExists checked)).present engine index =
      world.present engine index := by
  rw [present_afterCall]
  cases hbefore : world.present engine index with
  | true =>
    by_contra hafter
    have hcall := engine.deleted_of_vanishes hbefore (by simpa using hafter)
    cases hcall
  | false =>
    by_contra hafter
    obtain ⟨body, hcall⟩ := engine.created_of_appears hbefore (by simpa using hafter)
    cases hcall

end World

/-! ## Steps of the manager -/

/-- If a step is a document write of the manager, the index written to is present and set up exactly
if its setup was not botched. -/
def WritesSetUp (engine : TruthfulEngine σ) (listeners : List Listener) (event : Event)
    (world : World σ) : Prop :=
  ∀ call, event = .asked .manager call → call.writesDocuments →
    (world.present engine call.index ∧ (world.incarnation call.index).SetUp listeners ↔
      ¬(world.incarnation call.index).Botched listeners)

section Steps

variable {engine : TruthfulEngine σ} {listeners : List Listener} {world : World σ}

theorem writesSetUp_of_ready {call : Call} (hsound : world.Sound engine listeners)
    (hready : world.Ready engine call.index) :
    WritesSetUp engine listeners (.asked .manager call) world := by
  rintro _ ⟨⟩ -
  by_cases hpresent : world.present engine call.index
  · have hsettled : _ ↔ _ := hsound call.index hpresent
    rw [← hsettled]
    exact and_iff_right hpresent
  · -- An index that is ready without being there was deleted by a listener.
    have hbotched : (world.incarnation call.index).Botched listeners :=
      .inl (hready.resolve_left hpresent)
    exact iff_of_false (fun h ↦ hpresent h.1) (not_not_intro hbotched)

theorem writesSetUp_of_reads {call : Call} (hcall : call.writesDocuments = false) :
    WritesSetUp engine listeners (.asked .manager call) world := by
  rintro _ ⟨⟩ hwrites
  rw [hcall] at hwrites
  cases hwrites

theorem writesSetUp_of_listener (program : Program Unit) (world : World σ) :
    ∀ entry ∈ (program.follow engine world).steps,
      WritesSetUp engine listeners entry.1 entry.2 := by
  induction program generalizing world with
  | done result =>
    intro entry hentry
    simp [Program.follow] at hentry
  | ask call next ih =>
    intro entry hentry
    rcases List.mem_cons.mp hentry with rfl | hentry
    · rintro _ ⟨⟩
    · exact ih _ _ entry hentry

open IndexManager

/-- A request of the manager that creates nothing keeps all settled. -/
theorem request_meets {call : Call} (hsound : world.Sound engine listeners)
    (hstep : WritesSetUp engine listeners (.asked .manager call) world)
    (hcall : ∀ index body, call ≠ .createIndex index body) :
    ((Script.own (.request call)).follow engine world).Meets (WritesSetUp engine listeners)
      fun _ world ↦ world.Sound engine listeners :=
  Script.meets_request hstep (hsound.afterCall fun index body h ↦ absurd h (hcall index body))

theorem configureScript_meets {index : String} {done rest : List Listener}
    (hlisteners : listeners = done ++ rest)
    (hsetting : world.SettingUp engine listeners index done) :
    ((configureScript index rest).follow engine world).Meets (WritesSetUp engine listeners)
      fun result world ↦ world.Sound engine listeners ∧
        (result.isOk → world.Ready engine index) := by
  -- The listeners that were run so far are those that the incarnation records as succeeded.
  induction rest generalizing done world with
  | nil =>
    rw [List.append_nil] at hlisteners
    subst hlisteners
    obtain ⟨hsound, hready⟩ := hsetting.complete
    exact Script.meets_done ⟨hsound, fun _ ↦ hready⟩
  | cons listener rest ih =>
    have hsome : listeners ≠ [] := by simp [hlisteners]
    have hvisit := hsetting.follow hsome (listener index)
    refine Script.meets_notify_iff.mpr ⟨writesSetUp_of_listener _ _, ?_, ?_⟩
    · rintro _ ⟨⟩
    · cases houtcome : ((listener index).follow engine world).result with
      | ok =>
        have hrest : listeners = (done ++ [listener]) ++ rest := by simp [hlisteners]
        exact ih hrest (hvisit.afterSuccess listener)
      | error cause =>
        have hdone : done ≠ listeners := by simp [hlisteners]
        have hsound := hvisit.afterFailure listener cause hdone
        -- The index is settled before it is deleted, so the answer to the deletion does not matter.
        refine Script.meets_bind (Script.meets_ask_iff.mpr
          ⟨writesSetUp_of_reads rfl, Script.meets_done ?_⟩)
        refine Script.meets_done ⟨hsound.afterCall ?_, ?_⟩
        · rintro _ _ ⟨⟩
        · rintro ⟨⟩

theorem ensureScript_meets {manager : IndexManager}
    (hsound : world.Sound engine manager.listeners) (index : String) :
    ((manager.ensureScript index).follow engine world).Meets
      (WritesSetUp engine manager.listeners) fun result world ↦
        world.Sound engine manager.listeners ∧ (result.isOk → world.Ready engine index) := by
  have hchecked : (world.afterCall engine .manager (.indexExists index)).Sound engine
      manager.listeners := hsound.afterCall (by rintro _ _ ⟨⟩)
  refine Script.meets_bind (Script.meets_request (writesSetUp_of_reads rfl) ?_)
  cases hfound : (engine.reply (.indexExists index) world.state).1 with
  | error error => exact ⟨hchecked, by rintro ⟨⟩⟩
  | ok found =>
    have hpresent : world.present engine index = found := (engine.found_eq hfound).symm
    cases found with
    | true =>
      refine Script.meets_done ⟨hchecked, fun _ ↦ .inl ?_⟩
      rw [World.present_afterCheck, hpresent]
    | false =>
      have habsent : (world.afterCall engine .manager (.indexExists index)).present engine index =
          false := by rw [World.present_afterCheck, hpresent]
      refine Script.meets_bind ?_
      rw [Script.liftM_except]
      refine Script.meets_done ?_
      cases manager.settings.createBody with
      | error error => exact ⟨hchecked, by rintro ⟨⟩⟩
      | ok body =>
        refine Script.meets_bind (Script.meets_request (writesSetUp_of_reads rfl) ?_)
        cases hcreated : (engine.reply (.createIndex index body)
            (world.afterCall engine .manager (.indexExists index)).state).1 with
        | error error =>
          refine ⟨hchecked.afterCall fun _ _ _ ↦ by rw [hcreated]; rfl, by rintro ⟨⟩⟩
        | ok =>
          have hsetting := hchecked.settingUp habsent hcreated
          refine Script.meets_seq (configureScript_meets (List.nil_append _).symm hsetting) ?_ ?_
          · exact fun _ _ h ↦ Script.meets_done ⟨h.1, fun _ ↦ h.2 rfl⟩
          · exact fun _ _ h ↦ ⟨h.1, by rintro ⟨⟩⟩

theorem onIndex_meets {α : Type} {manager : IndexManager} {program : Program α} {index : String}
    (hsound : world.Sound engine manager.listeners)
    (hprogram : ∀ world : World σ, world.Sound engine manager.listeners →
      world.Ready engine index → ((Script.own program).follow engine world).Meets
        (WritesSetUp engine manager.listeners) fun _ world ↦
          world.Sound engine manager.listeners) :
    ((manager.onIndex index program).follow engine world).Meets
      (WritesSetUp engine manager.listeners) fun _ world ↦
        world.Sound engine manager.listeners := by
  refine Script.meets_seq (ensureScript_meets hsound index) ?_ ?_
  · intro _ world hensured
    obtain ⟨hsound, hready⟩ := hensured
    exact hprogram world hsound (hready rfl)
  · intro _ _ hensured
    exact hensured.1

theorem dropIndex_meets (hsound : world.Sound engine listeners) (index : String) :
    ((Script.own (dropIndex index)).follow engine world).Meets (WritesSetUp engine listeners)
      fun _ world ↦ world.Sound engine listeners := by
  have hdropped : (world.afterCall engine .manager (.deleteIndex index)).Sound engine listeners :=
    hsound.afterCall (by rintro _ _ ⟨⟩)
  refine Script.meets_ask_iff.mpr ⟨writesSetUp_of_reads rfl, ?_⟩
  cases (engine.reply (.deleteIndex index) world.state).1 with
  | ok => exact Script.meets_done hdropped
  | error error => cases error <;> exact Script.meets_done hdropped

theorem indexAllScript_meets {manager : IndexManager}
    (hsound : world.Sound engine manager.listeners) (index : String) (documents : List Document)
    (parent : Option String) :
    ((manager.indexAllScript index documents parent).follow engine world).Meets
      (WritesSetUp engine manager.listeners) fun _ world ↦
        world.Sound engine manager.listeners := by
  refine Script.meets_bind ?_
  rw [Script.liftM_except]
  refine Script.meets_done ?_
  cases indexActions index parent documents with
  | error error => exact hsound
  | ok actions =>
    refine onIndex_meets hsound fun ready hsound hready ↦ ?_
    cases actions with
    | nil => exact Script.meets_done hsound
    | cons action rest =>
      have hwritten : (ready.afterCall engine .manager (.bulk index (action :: rest))).Sound engine
          manager.listeners := hsound.afterCall (by rintro _ _ ⟨⟩)
      refine Script.meets_ask_iff.mpr ⟨writesSetUp_of_ready hsound hready, ?_⟩
      cases (engine.reply (.bulk index (action :: rest)) ready.state).1 <;>
        exact Script.meets_done hwritten

theorem reindexAllScript_meets {manager : IndexManager}
    (hsound : world.Sound engine manager.listeners) (index : String) (documents : List Document)
    (parent : Option String) :
    ((manager.reindexAllScript index documents parent).follow engine world).Meets
      (WritesSetUp engine manager.listeners) fun _ world ↦
        world.Sound engine manager.listeners := by
  -- Nothing is known of the index after it was dropped, since the deletion may have failed.
  have hfill (world : World σ) (hsound : world.Sound engine manager.listeners) :
      ((if documents.isEmpty then do
          let _ ← manager.ensureScript index
          return .empty
        else manager.indexAllScript index documents parent : Script BulkSummary).follow engine
          world).Meets (WritesSetUp engine manager.listeners) fun _ world ↦
            world.Sound engine manager.listeners := by
    split
    · exact Script.meets_seq (ensureScript_meets hsound index)
        (fun _ _ h ↦ Script.meets_done h.1) fun _ _ h ↦ h.1
    · exact indexAllScript_meets hsound index documents parent
  have hchecked : (world.afterCall engine .manager (.indexExists index)).Sound engine
      manager.listeners := hsound.afterCall (by rintro _ _ ⟨⟩)
  refine Script.meets_bind (Script.meets_request (writesSetUp_of_reads rfl) ?_)
  cases (engine.reply (.indexExists index) world.state).1 with
  | error error => exact hchecked
  | ok found =>
    cases found with
    | false => exact hfill _ hchecked
    | true =>
      exact Script.meets_seq (dropIndex_meets hchecked index)
        (fun _ world hdropped ↦ hfill world hdropped) fun _ _ hdropped ↦ hdropped

theorem operation_meets {manager : IndexManager} (hsound : world.Sound engine manager.listeners)
    (operation : Operation) :
    ((operation.script manager).follow engine world).Meets (WritesSetUp engine manager.listeners)
      fun _ world ↦ world.Sound engine manager.listeners := by
  cases operation with
  | ensure index =>
    exact Script.meets_discard ((ensureScript_meets hsound index).mono fun _ _ h ↦ h.1)
  | drop index => exact dropIndex_meets hsound index
  | indexOne index document parent =>
    rw [Operation.script]
    split
    · exact Script.meets_done hsound
    · exact onIndex_meets hsound fun _ hsound hready ↦
        request_meets hsound (writesSetUp_of_ready hsound hready) (by rintro _ _ ⟨⟩)
  | indexAll index documents parent =>
    exact Script.meets_discard (indexAllScript_meets hsound index documents parent)
  | reindexAll index documents parent =>
    exact Script.meets_discard (reindexAllScript_meets hsound index documents parent)
  | delete index id =>
    exact onIndex_meets hsound fun _ hsound _ ↦
      request_meets hsound (writesSetUp_of_reads rfl) (by rintro _ _ ⟨⟩)

theorem session_meets {manager : IndexManager} (hsound : world.Sound engine manager.listeners)
    (operations : List Operation) :
    ((manager.sessionScript operations).follow engine world).Meets
      (WritesSetUp engine manager.listeners) fun _ world ↦
        world.Sound engine manager.listeners := by
  induction operations generalizing world with
  | nil => exact Script.meets_done hsound
  | cons operation rest ih =>
    refine Script.meets_bind (Script.meets_attempt ((operation_meets hsound operation).mono
      fun _ _ hsound ↦ ?_))
    exact ih hsound

end Steps

/-! ## Sessions -/

/-- Whatever calls fail, and whatever the listeners do: when a session writes documents to an index,
the index is present and set up exactly if its setup was not botched. The trail is the run of the
session. -/
theorem documents_meet_setup_iff (engine : TruthfulEngine σ) (manager : IndexManager)
    (operations : List Operation) (state : σ) :
    ((manager.sessionScript operations).follow engine (.start state)).run =
      (manager.session operations).run engine.toEngine state ∧
    ∀ call world, (.asked .manager call, world) ∈
        ((manager.sessionScript operations).follow engine (.start state)).steps →
      call.writesDocuments →
      (world.present engine call.index ∧
          (world.incarnation call.index).SetUp manager.listeners ↔
        ¬(world.incarnation call.index).Botched manager.listeners) := by
  constructor
  · rw [Script.run_follow, manager.program_sessionScript]
    rfl
  · intro call world hstep hwrites
    have hsound : (World.start state).Sound engine manager.listeners := World.sound_start state
    exact (session_meets hsound operations).steps _ hstep call rfl hwrites

/-- A manager with one listener. -/
def managerWith (listener : Listener) : IndexManager := ⟨⟨1, 0, "", none⟩, [listener]⟩

def writeTwice : List Operation :=
  [.indexOne "studies" ⟨"s1", .null⟩ none, .indexOne "studies" ⟨"s2", .null⟩ none]

def mapped : IndexManager := managerWith fun index ↦ .request (.putMapping index (.obj []))

theorem documents_meet_setup_iff_of_mapped :
    ∃ call world, (.asked .manager call, world) ∈
        ((mapped.sessionScript writeTwice).follow Memory.truthful (.start .empty)).steps ∧
      call.writesDocuments ∧
      (world.present Memory.truthful call.index ∧
          (world.incarnation call.index).SetUp mapped.listeners ↔
        ¬(world.incarnation call.index).Botched mapped.listeners) := by
  have hall := (documents_meet_setup_iff Memory.truthful mapped writeTwice .empty).2
  have hmem : (Event.asked .manager (.indexDocument "studies" "s2" .null none), _) ∈
      ((mapped.sessionScript writeTwice).follow Memory.truthful (.start .empty)).steps :=
    .tail _ (.tail _ (.tail _ (.tail _ (.tail _ (.tail _ (.head _))))))
  exact ⟨_, _, hmem, rfl, hall _ _ hmem rfl⟩

/-- The listener of this manager always fails. -/
def failing : IndexManager := managerWith fun _ ↦ .fail (.misconfigured "no mapping")

/-- A store that refuses the next deletion of an index. -/
def refusing : Memory := { Memory.empty with faults := [("delete_index", .backend 500 "busy")] }

/-- An index whose setup failed and was not taken back gets documents at the next write. -/
theorem document_written_without_setup :
    ∃ call world, (.asked .manager call, world) ∈
        ((failing.sessionScript writeTwice).follow Memory.truthful (.start refusing)).steps ∧
      call.writesDocuments ∧ world.present Memory.truthful call.index ∧
      ¬(world.incarnation call.index).SetUp failing.listeners := by
  have hmem : (Event.asked .manager (.indexDocument "studies" "s2" .null none), _) ∈
      ((failing.sessionScript writeTwice).follow Memory.truthful (.start refusing)).steps :=
    .tail _ (.tail _ (.tail _ (.tail _ (.tail _ (.head _)))))
  refine ⟨_, _, hmem, rfl, rfl, ?_⟩
  rintro (horigin | hsucceeded)
  · cases horigin
  · cases hsucceeded

end FacetSearch

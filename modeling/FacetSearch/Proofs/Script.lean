import FacetSearch.Document.Indexer
import FacetSearch.Proofs.ProgramRun

/-!
# Scripts of the index manager

In a program of the manager the calls of its listeners cannot be told from its own. A script is the
same program with every run of a listener as a step of its own, so that what happens to an index can
be told by who caused it. `Operation.program_script` says that nothing else has changed.
-/

namespace FacetSearch

variable {α β γ : Type}

/-- A program whose runs of listeners stand apart from its own calls. -/
inductive Script (α : Type) : Type where
  | done (result : Except Error α)
  | ask (call : Call) (next : Except Error call.Reply → Script α)
  /-- Runs a listener for an index and goes on with its outcome. -/
  | notify (listener : Listener) (index : String) (next : Except Error Unit → Script α)

namespace Script

def bind (script : Script α) (f : α → Script β) : Script β :=
  match script with
  | done (.ok a) => f a
  | done (.error error) => done (.error error)
  | ask call next => ask call fun reply ↦ (next reply).bind f
  | notify listener index next => notify listener index fun outcome ↦ (next outcome).bind f

instance : Monad Script where
  pure a := done (.ok a)
  bind := Script.bind

/-- A program without listeners. -/
def own : Program α → Script α
  | .done result => done result
  | .ask call next => ask call fun reply ↦ own (next reply)

instance : MonadLift Program Script := ⟨own⟩

def attempt (script : Script α) : Script (Except Error α) :=
  match script with
  | done result => done (.ok result)
  | ask call next => ask call fun reply ↦ (next reply).attempt
  | notify listener index next => notify listener index fun outcome ↦ (next outcome).attempt

/-- The program of a script, in which listeners make their calls like any other part. -/
def program : Script α → Program α
  | done result => .done result
  | ask call next => .ask call fun reply ↦ (next reply).program
  | notify listener index next => (listener index).attempt.bind fun outcome ↦ (next outcome).program

@[simp] theorem pure_eq (a : α) : (pure a : Script α) = done (.ok a) := rfl

@[simp] theorem bind_eq (script : Script α) (f : α → Script β) :
    script >>= f = script.bind f := rfl

@[simp] theorem liftM_program (program : Program α) : (liftM program : Script α) = own program :=
  rfl

@[simp] theorem liftM_except (result : Except Error α) : (liftM result : Script α) = done result :=
  rfl

@[simp] theorem program_done (result : Except Error α) :
    (done result).program = Program.done result := rfl

@[simp] theorem program_own (program : Program α) : (own program).program = program := by
  induction program with
  | done result => rfl
  | ask call next ih =>
    simp only [own, Script.program]
    congr 1
    funext reply
    exact ih reply

@[simp] theorem program_bind (script : Script α) (f : α → Script β) :
    (script.bind f).program = script.program.bind fun a ↦ (f a).program := by
  induction script with
  | done result => cases result <;> rfl
  | ask call next ih =>
    simp only [bind, program, Program.ask_bind, ih]
  | notify listener index next ih =>
    simp only [bind, program, Program.bind_assoc, ih]

@[simp] theorem program_attempt (script : Script α) :
    script.attempt.program = script.program.attempt := by
  induction script with
  | done result => rfl
  | ask call next ih => simp only [attempt, program, Program.attempt, ih]
  | notify listener index next ih =>
    simp only [attempt, program, Program.attempt_attempt_bind, ih]

end Script

/-! ## The manager -/

namespace IndexManager

open Script

variable (manager : IndexManager)

/-- Runs the listeners in order and deletes the index again after the first that fails. -/
def configureScript (index : String) : List Listener → Script Unit
  | [] => return ()
  | listener :: rest => notify listener index fun
    | .ok () => configureScript index rest
    | .error cause => do
      let _ ← (Program.request (.deleteIndex index)).attempt
      (Program.fail (.setupFailed index cause) : Program Unit)

def ensureScript (index : String) : Script Bool := do
  if ← hasIndex index then return false
  let body ← (manager.settings.createBody : Except Error Json)
  Program.request (.createIndex index body)
  configureScript index manager.listeners
  return true

/-- Goes on with a program once the index is there. -/
def onIndex (index : String) (program : Program α) : Script α := do
  let _ ← manager.ensureScript index
  program

def indexAllScript (index : String) (documents : List Document) (parent : Option String) :
    Script BulkSummary := do
  let actions ← (indexActions index parent documents : Except Error _)
  manager.onIndex index do
    if actions.isEmpty then return .empty
    let response ← Program.request (.bulk index actions)
    ((BulkSummary.ofResponse response).check index : Except Error BulkSummary)

def reindexAllScript (index : String) (documents : List Document) (parent : Option String) :
    Script BulkSummary := do
  if ← hasIndex index then dropIndex index
  if documents.isEmpty then
    let _ ← manager.ensureScript index
    return .empty
  manager.indexAllScript index documents parent

theorem program_configureScript (index : String) (listeners : List Listener) :
    (configureScript index listeners).program = configure index listeners := by
  induction listeners with
  | nil => rfl
  | cons listener rest ih =>
    simp only [configureScript, configure, program, Program.bind_eq]
    congr 1
    funext outcome
    cases outcome with
    | ok value => exact ih
    | error cause => rfl

@[simp] theorem program_ensureScript (index : String) :
    (manager.ensureScript index).program = manager.ensureIndex index := by
  unfold ensureScript ensureIndex
  simp only [bind_eq, pure_eq, Program.bind_eq, Program.pure_eq, program_bind, liftM_program,
    liftM_except, program_own, Program.liftM_except]
  congr 1
  funext found
  cases found with
  | true => rfl
  | false =>
    simp only [Bool.false_eq_true, if_false, program_bind, program_done, program_own,
      program_configureScript]

theorem program_onIndex (index : String) (program : Program α) :
    (manager.onIndex index program).program = (manager.ensureIndex index).bind fun _ ↦ program := by
  simp [onIndex]

theorem program_indexAllScript (index : String) (documents : List Document)
    (parent : Option String) : (manager.indexAllScript index documents parent).program =
      manager.indexAll index documents parent := by
  simp [indexAllScript, indexAll, program_onIndex]

theorem program_reindexAllScript (index : String) (documents : List Document)
    (parent : Option String) : (manager.reindexAllScript index documents parent).program =
      manager.reindexAll index documents parent := by
  unfold reindexAllScript reindexAll
  simp only [bind_eq, pure_eq, Program.bind_eq, Program.pure_eq, program_bind, liftM_program,
    program_own]
  congr 1
  funext found
  cases found <;> cases documents.isEmpty <;> simp [program_indexAllScript]

end IndexManager

/-! ## Sessions -/

/-- What a caller can ask of the manager in order to create, fill, empty and delete indices. -/
inductive Operation where
  | ensure (index : String)
  | drop (index : String)
  | indexOne (index : String) (document : Document) (parent : Option String)
  | indexAll (index : String) (documents : List Document) (parent : Option String)
  | reindexAll (index : String) (documents : List Document) (parent : Option String)
  | delete (index id : String)

namespace Operation

variable (manager : IndexManager)

def program : Operation → Program Unit
  | ensure index => do let _ ← manager.ensureIndex index
  | drop index => IndexManager.dropIndex index
  | indexOne index document parent => manager.index index document parent
  | indexAll index documents parent => do let _ ← manager.indexAll index documents parent
  | reindexAll index documents parent => do let _ ← manager.reindexAll index documents parent
  | delete index id => manager.delete index id

def script : Operation → Script Unit
  | ensure index => do let _ ← manager.ensureScript index
  | drop index => Script.own (IndexManager.dropIndex index)
  | indexOne index document parent =>
    if document.id.isEmpty then Script.own (.fail (.documentWithoutId index))
    else manager.onIndex index (.request (.indexDocument index document.id document.body parent))
  | indexAll index documents parent => do let _ ← manager.indexAllScript index documents parent
  | reindexAll index documents parent => do let _ ← manager.reindexAllScript index documents parent
  | delete index id => manager.onIndex index (.request (.deleteDocument index id))

@[simp] theorem program_script (operation : Operation) :
    (operation.script manager).program = operation.program manager := by
  cases operation with
  | ensure index => simp [script, program]
  | drop index => simp [script, program]
  | indexOne index document parent =>
    by_cases hid : document.id.isEmpty
    · simp [script, program, IndexManager.index, hid]
    · simp [script, program, IndexManager.index, hid, IndexManager.program_onIndex]
  | indexAll index documents parent =>
    simp [script, program, IndexManager.program_indexAllScript]
  | reindexAll index documents parent =>
    simp [script, program, IndexManager.program_reindexAllScript]
  | delete index id =>
    simp [script, program, IndexManager.delete, IndexManager.program_onIndex]

end Operation

namespace IndexManager

variable (manager : IndexManager)

/-- Carries out operations in order, whether or not one before has failed. -/
def session : List Operation → Program Unit
  | [] => return ()
  | operation :: rest => do
    let _ ← (operation.program manager).attempt
    session rest

def sessionScript : List Operation → Script Unit
  | [] => return ()
  | operation :: rest => do
    let _ ← (operation.script manager).attempt
    sessionScript rest

theorem program_sessionScript (operations : List Operation) :
    (manager.sessionScript operations).program = manager.session operations := by
  induction operations with
  | nil => rfl
  | cons operation rest ih => simp [sessionScript, session, ih]

end IndexManager

end FacetSearch

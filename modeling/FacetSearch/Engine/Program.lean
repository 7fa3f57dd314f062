import FacetSearch.Engine.Call

/-!
# Programs that call the engine

A program ends with a result or an error, or makes a call and goes on with the reply to it. An
`Engine` replies to calls from a state. Running a program against an engine gives its result, the
calls it made, in order, and the state in which the engine is left.
-/

namespace FacetSearch

/-- A computation that may call the engine. -/
inductive Program (α : Type) : Type where
  | done (result : Except Error α)
  | ask (call : Call) (next : Except Error call.Reply → Program α)

namespace Program

variable {α β : Type}

def bind (program : Program α) (f : α → Program β) : Program β :=
  match program with
  | done (.ok a) => f a
  | done (.error e) => done (.error e)
  | ask call next => ask call fun reply ↦ (next reply).bind f

instance : Monad Program where
  pure a := done (.ok a)
  bind := Program.bind

instance : MonadLift (Except Error) Program where
  monadLift result := done result

/-- Fails with an error. -/
def fail (error : Error) : Program α := done (.error error)

/-- Makes a call; an error in reply is the program's error. -/
def request (call : Call) : Program call.Reply := ask call done

/-- The outcome of a program, whether it fails or not. -/
def attempt (program : Program α) : Program (Except Error α) :=
  match program with
  | done result => done (.ok result)
  | ask call next => ask call fun reply ↦ (next reply).attempt

end Program

/-- Something that replies to calls from a state. -/
structure Engine (σ : Type) where
  reply : (call : Call) → σ → Except Error call.Reply × σ

/-- What a run of a program leaves. -/
structure Run (σ α : Type) where
  result : Except Error α
  calls : List Call
  state : σ

/-- Runs a program against an engine in a state. -/
def Program.run {σ α : Type} (program : Program α) (engine : Engine σ) (state : σ) : Run σ α :=
  match program with
  | done result => ⟨result, [], state⟩
  | ask call next =>
    let (reply, state) := engine.reply call state
    let rest := (next reply).run engine state
    ⟨rest.result, call :: rest.calls, rest.state⟩

/-- Runs a program where calls are answered one after the other. -/
def Program.perform {m : Type → Type} [Monad m] {α : Type}
    (reply : (call : Call) → m (Except Error call.Reply)) :
    Program α → m (Except Error α)
  | done result => return result
  | ask call next => do
    let answer ← reply call
    (next answer).perform reply

end FacetSearch

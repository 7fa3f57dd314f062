import FacetSearch.Engine.Program
import Mathlib.Tactic

/-!
# Runs of programs

Programs form a monad, and a run goes through it: the run of a sequence is the run of its first part
followed by the run of the rest, unless the first part fails. A run without changing calls leaves
everything as it was that only such calls change.
-/

namespace FacetSearch

variable {σ α β γ : Type}

namespace Program

@[simp] theorem pure_eq (a : α) : (pure a : Program α) = done (.ok a) := rfl

@[simp] theorem bind_eq (program : Program α) (f : α → Program β) :
    program >>= f = program.bind f := rfl

@[simp] theorem liftM_except (result : Except Error α) :
    (liftM result : Program α) = done result := rfl

@[simp] theorem done_ok_bind (a : α) (f : α → Program β) : (done (.ok a)).bind f = f a := rfl

@[simp] theorem done_error_bind (error : Error) (f : α → Program β) :
    (done (.error error)).bind f = done (.error error) := rfl

@[simp] theorem fail_bind (error : Error) (f : α → Program β) :
    (fail error).bind f = fail error := rfl

@[simp] theorem ask_bind (call : Call) (next : Except Error call.Reply → Program α)
    (f : α → Program β) : (ask call next).bind f = ask call fun reply ↦ (next reply).bind f := rfl

theorem bind_assoc (program : Program α) (f : α → Program β) (g : β → Program γ) :
    (program.bind f).bind g = program.bind fun a ↦ (f a).bind g := by
  induction program with
  | done result => cases result <;> rfl
  | ask call next ih =>
    simp only [ask_bind]
    congr 1
    funext reply
    exact ih reply

/-- An attempt does not fail, so an attempt of what follows it need not look at it. -/
theorem attempt_attempt_bind (program : Program α) (f : Except Error α → Program β) :
    (program.attempt.bind f).attempt = program.attempt.bind fun result ↦ (f result).attempt := by
  induction program with
  | done result => rfl
  | ask call next ih => simp only [attempt, ask_bind, ih]

end Program

/-! ## The run of a sequence -/

namespace Run

/-- A run followed, unless it failed, by another that starts from its result and its state. -/
def followedBy (run : Run σ α) (next : α → σ → Run σ β) : Run σ β :=
  match run.result with
  | .ok a => ⟨(next a run.state).result, run.calls ++ (next a run.state).calls,
      (next a run.state).state⟩
  | .error error => ⟨.error error, run.calls, run.state⟩

/-- Nothing was created, deleted or written. -/
def ReadOnly (run : Run σ α) : Prop := ∀ call ∈ run.calls, call.changes = false

theorem followedBy_ok {run : Run σ α} {a : α} (hresult : run.result = .ok a)
    (next : α → σ → Run σ β) :
    run.followedBy next = ⟨(next a run.state).result, run.calls ++ (next a run.state).calls,
      (next a run.state).state⟩ := by
  simp [followedBy, hresult]

theorem followedBy_error {run : Run σ α} {error : Error} (hresult : run.result = .error error)
    (next : α → σ → Run σ β) :
    run.followedBy next = ⟨.error error, run.calls, run.state⟩ := by
  simp [followedBy, hresult]

end Run

namespace Program

variable (engine : Engine σ)

@[simp] theorem run_done (result : Except Error α) (state : σ) :
    (done result).run engine state = ⟨result, [], state⟩ := rfl

@[simp] theorem run_fail (error : Error) (state : σ) :
    (fail error : Program α).run engine state = ⟨.error error, [], state⟩ := rfl

@[simp] theorem run_request (call : Call) (state : σ) :
    (request call).run engine state =
      ⟨(engine.reply call state).1, [call], (engine.reply call state).2⟩ := rfl

theorem run_ask (call : Call) (next : Except Error call.Reply → Program α) (state : σ) :
    (ask call next).run engine state =
      let rest := (next (engine.reply call state).1).run engine (engine.reply call state).2
      ⟨rest.result, call :: rest.calls, rest.state⟩ := rfl

theorem run_bind (program : Program α) (f : α → Program β) (state : σ) :
    (program.bind f).run engine state =
      (program.run engine state).followedBy fun a state ↦ (f a).run engine state := by
  induction program generalizing state with
  | done result => cases result <;> rfl
  | ask call next ih =>
    simp only [ask_bind, run, ih]
    generalize (next (engine.reply call state).1).run engine (engine.reply call state).2 = rest
    cases hresult : rest.result with
    | ok a => simp [Run.followedBy, hresult]
    | error error => simp [Run.followedBy, hresult]

/-- A sequence succeeds exactly if both its parts do. -/
theorem result_bind_eq_ok_iff {program : Program α} {f : α → Program β} {state : σ} {b : β} :
    ((program.bind f).run engine state).result = .ok b ↔
      ∃ a, (program.run engine state).result = .ok a ∧
        ((f a).run engine (program.run engine state).state).result = .ok b := by
  rw [run_bind]
  cases hresult : (program.run engine state).result with
  | ok a => simp [Run.followedBy_ok hresult]
  | error error => simp [Run.followedBy_error hresult]

/-- The run of an attempt never fails and reports how the attempted program ended. -/
@[simp] theorem run_attempt (program : Program α) (state : σ) :
    program.attempt.run engine state =
      ⟨.ok (program.run engine state).result, (program.run engine state).calls,
        (program.run engine state).state⟩ := by
  induction program generalizing state with
  | done result => rfl
  | ask call next ih => simp only [attempt, run, ih]

end Program

/-! ## Runs that only read -/

namespace Program

variable {engine : Engine σ}

/-- What no call of a run changes is the same after the run. -/
theorem view_run (view : σ → β) (program : Program α) (state : σ)
    (hkept : ∀ call ∈ (program.run engine state).calls, ∀ before,
      view (engine.reply call before).2 = view before) :
    view (program.run engine state).state = view state := by
  induction program generalizing state with
  | done result => rfl
  | ask call next ih =>
    have hcall := hkept call List.mem_cons_self state
    have hrest : view ((next (engine.reply call state).1).run engine
        (engine.reply call state).2).state = view (engine.reply call state).2 :=
      ih _ _ fun other hother ↦ hkept other (List.mem_cons_of_mem _ hother)
    exact hrest.trans hcall

/-- What only changing calls can change is the same after a run that makes none. -/
theorem content_run {content : σ → β}
    (hreads : ∀ call state, call.changes = false →
      content (engine.reply call state).2 = content state)
    (program : Program α) (state : σ) (hrun : (program.run engine state).ReadOnly) :
    content (program.run engine state).state = content state :=
  view_run content program state fun call hcall before ↦ hreads call before (hrun call hcall)

end Program

end FacetSearch

import FileWindow.Proofs.Coupling
import FileWindow.Proofs.Meeting

/-!
# Rows of actions, step by step

A row of actions is carried out one after the other.  What it comes to is put together from its
first step and what comes of the rest.

Main results:

- Theorems Action.bind_of_ok and Action.bind_of_error: an action by its first part.
- Theorems Action.exists_of_bind, Action.exists_of_call and Action.eq_of_accept: what led to an
  answer.
- Theorems Action.runAll_cons_of_ok and Action.runAll_cons_of_error: a row by its first step.
- Theorem Action.left_runAll_cons: what a row leaves behind.
- Theorem Action.Keeps.runAll: what each step keeps, a row keeps.
-/

namespace FileWindow.Action

variable {ε ρ σ α ω : Type} {perform : ω → Action ε ρ σ α} {operation : ω} {row : List ω}
  {frame between after : Frame ρ σ} {outcome : Except ε α} {outcomes : List (Except ε α)}
  {stop : Stop ε}

/-- Behind a part that answers, an action goes on with its answer. -/
theorem bind_of_ok {β : Type} {action : Action ε ρ σ α} {value : α}
    (h : action frame = .ok value after) (next : α → Action ε ρ σ β) :
    (action >>= next) frame = next value after := by
  simp only [Bind.bind, EStateM.bind, h]

/-- Behind a part that stops there is no other. -/
theorem bind_of_error {β : Type} {action : Action ε ρ σ α}
    (h : action frame = .error stop after) (next : α → Action ε ρ σ β) :
    (action >>= next) frame = .error stop after := by
  simp only [Bind.bind, EStateM.bind, h]

/-- An action on one of two books is put together from its parts. -/
theorem onFirst_bind {ρ' β : Type} (action : Action ε ρ σ α) (next : α → Action ε ρ σ β) :
    (onFirst (action >>= next) : Action ε (ρ × ρ') σ β) =
      onFirst action >>= fun value => onFirst (next value) := by
  funext frame
  simp only [onFirst, Bind.bind, EStateM.bind]
  cases action { frame with book := frame.book.1 } with
  | ok value after => rfl
  | error stop after => rfl

/-- What answers did so by its first part and by what comes behind. -/
theorem exists_of_bind {β : Type} {action : Action ε ρ σ α} {next : α → Action ε ρ σ β} {answer : β}
    (h : (action >>= next) frame = .ok answer after) :
    ∃ value between, action frame = .ok value between ∧ next value between = .ok answer after := by
  cases hfirst : action frame with
  | ok value between =>
    rw [bind_of_ok hfirst] at h
    exact ⟨value, between, rfl, h⟩
  | error stop between =>
    rw [bind_of_error hfirst] at h
    cases h

/-- A call within an action that answers is answered by the device. -/
theorem exists_of_call {request : Call σ α} {name : String} {trying : Attempt} {value : α}
    (h : call name trying request frame = .ok value after) :
    ∃ world, request frame.world = .ok value world ∧ after = { frame with world } := by
  cases hrequest : request frame.world with
  | ok value' world =>
    rw [call_of_ok _ _ hrequest] at h
    cases h
    exact ⟨world, rfl, rfl⟩
  | error fault world =>
    rw [call_of_error _ _ hrequest] at h
    cases h

/-- A check that is passed has its result, and changes nothing. -/
theorem eq_of_accept {name : String} {check : Except Refusal α} {value : α}
    (h : accept name check frame = .ok value after) : check = .ok value ∧ after = frame := by
  cases check with
  | ok value' =>
    cases h
    exact ⟨rfl, rfl⟩
  | error reason => cases h

/-- An operation that answers has its answer for an outcome. -/
theorem runAll_cons_of_ok
    (hstep : (observe (perform operation) : Action ε ρ σ (Except ε α)) frame = .ok outcome between)
    (hrow : runAll perform row between = .ok outcomes after) :
    runAll perform (operation :: row) frame = .ok (outcome :: outcomes) after := by
  rw [runAll_cons]
  simp only [Bind.bind, EStateM.bind, hstep, hrow]
  rfl

/-- Behind a step that halts there is no other. -/
theorem runAll_cons_of_error
    (hstep : (observe (perform operation) : Action ε ρ σ (Except ε α)) frame =
      .error stop between) :
    runAll perform (operation :: row) frame = .error stop between := by
  rw [runAll_cons]
  simp only [Bind.bind, EStateM.bind, hstep]

/-- A row leaves behind what the steps behind its first leave. -/
theorem left_runAll_cons
    (hstep : (observe (perform operation) : Action ε ρ σ (Except ε α)) frame =
      .ok outcome between) :
    left (runAll perform (operation :: row) frame) = left (runAll perform row between) := by
  rw [runAll_cons]
  simp only [Bind.bind, EStateM.bind, hstep]
  cases runAll perform row between <;> rfl

/-- What each step keeps, a row keeps. -/
theorem Keeps.runAll {holds : Frame ρ σ → Prop} (h : ∀ operation, Keeps holds (perform operation))
    (row : List ω) : Keeps holds (Action.runAll perform row) := by
  induction row with
  | nil => exact .pure []
  | cons operation row ih =>
    rw [runAll_cons]
    refine (h operation).observe.bind fun outcome => ?_
    exact ih.bind fun outcomes => .pure _

end FileWindow.Action

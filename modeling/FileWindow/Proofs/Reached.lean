import FileWindow.Input.Operation
import FileWindow.Output.Operation
import FileWindow.Proofs.Rows

/-!
# Frames that are reached

What has to hold of a resource at all times is shown of every frame that it can come to: where it
starts, behind each operation that answered or failed, and wherever the world behind the device was
changed by others in between.

Main definitions:

- Definition Action.Reached: the frames that are reached by operations.
- Definitions Output.Starts and Input.Starts: where resources on a device begin.
- Definitions Output.Reached and Input.Reached: the frames that they come to.

Main results:

- Theorem Action.Reached.holds: what starts out so and is kept by each step holds of all of them.
- Theorem Action.Reached.runAll: a row of operations leads from one of them to another.
-/

namespace FileWindow

variable {σ : Type}

namespace Action

variable {ε ρ α ω : Type} {perform : ω → Action ε ρ σ α} {allowed : ω → Prop} {sort : σ → Prop}
  {starts : Frame ρ σ → Prop} {frame after : Frame ρ σ}

/-- The frames that a resource comes to from where it starts.  Each operation answers or fails; one
that halts leads nowhere.  Between two of them the world may become any other of its sort. -/
inductive Reached (perform : ω → Action ε ρ σ α) (allowed : ω → Prop) (sort : σ → Prop)
    (starts : Frame ρ σ → Prop) : Frame ρ σ → Prop
  | started {frame : Frame ρ σ} (h : starts frame) : Reached perform allowed sort starts frame
  | performed {frame after : Frame ρ σ} {operation : ω} {outcome : Except ε α}
      (h : Reached perform allowed sort starts frame) (hallowed : allowed operation)
      (hstep : (observe (perform operation) : Action ε ρ σ (Except ε α)) frame =
        .ok outcome after) : Reached perform allowed sort starts after
  | disturbed {frame : Frame ρ σ} (h : Reached perform allowed sort starts frame) {world : σ}
      (hworld : sort world) : Reached perform allowed sort starts { frame with world }

namespace Reached

/-- What holds at the start, and is kept by each operation and by each change of the world, holds of
every frame that is reached. -/
theorem holds {holds : Frame ρ σ → Prop} (h : Reached perform allowed sort starts frame)
    (hstarts : ∀ frame, starts frame → holds frame)
    (hperform : ∀ operation, allowed operation → ∀ frame outcome after, holds frame →
      (observe (perform operation) : Action ε ρ σ (Except ε α)) frame = .ok outcome after →
        holds after)
    (hworld : ∀ frame world, holds frame → sort world → holds { frame with world }) :
    holds frame := by
  induction h with
  | started h => exact hstarts _ h
  | performed _ hallowed hstep ih => exact hperform _ hallowed _ _ _ ih hstep
  | disturbed _ hsort ih => exact hworld _ _ ih hsort

/-- A row of operations leads from one frame that is reached to another. -/
theorem runAll (h : Reached perform allowed sort starts frame) {row : List ω}
    (hallowed : ∀ operation ∈ row, allowed operation) {outcomes : List (Except ε α)}
    (hrun : Action.runAll perform row frame = .ok outcomes after) :
    Reached perform allowed sort starts after := by
  induction row generalizing frame outcomes with
  | nil =>
    cases hrun
    exact h
  | cons operation row ih =>
    obtain ⟨hfirst, hrest⟩ := List.forall_mem_cons.mp hallowed
    cases hstep : (observe (perform operation) : Action ε ρ σ (Except ε α)) frame with
    | error stop between =>
      rw [runAll_cons_of_error hstep] at hrun
      cases hrun
    | ok outcome between =>
      cases hrow : Action.runAll perform row between with
      | error stop last =>
        rw [runAll_cons] at hrun
        simp only [Bind.bind, EStateM.bind, hstep, hrow] at hrun
        cases hrun
      | ok rest last =>
        rw [runAll_cons_of_ok hstep hrow] at hrun
        cases hrun
        exact ih (h.performed hfirst hstep) hrest hrow

end Reached

end Action

/-! ## Resources on a device -/

/-- Where an output begins: closed, or on a device to which it was attached just now. -/
def Output.Starts (device : Device σ) (sort : σ → Prop) (frame : Frame Output σ) : Prop :=
  (frame.book = .closed ∧ sort frame.world) ∨
    ∃ (name : String) (before after : Frame Unit σ), sort before.world ∧
      attach device name before = .ok frame.book after ∧ frame.world = after.world

/-- Where an input begins: closed, or on a device to which it was attached just now. -/
def Input.Starts (device : Device σ) (sort : σ → Prop) (frame : Frame Input σ) : Prop :=
  (frame.book = .closed ∧ sort frame.world) ∨
    ∃ (name : String) (before after : Frame Unit σ), sort before.world ∧
      attach device name before = .ok frame.book after ∧ frame.world = after.world

/-- The frames that an output on a device comes to by any operations. -/
abbrev Output.Reached (device : Device σ) (allowed : Operation → Prop) (sort : σ → Prop) :
    Frame Output σ → Prop :=
  Action.Reached (perform device) allowed sort (Starts device sort)

/-- The frames that an input on a device comes to by any operations. -/
abbrev Input.Reached (device : Device σ) (allowed : Operation → Prop) (sort : σ → Prop) :
    Frame Input σ → Prop :=
  Action.Reached (perform device) allowed sort (Starts device sort)

end FileWindow

import FileWindow.Proofs.Coupling
import FileWindow.Transfer.Growth

/-!
# Actions that come to an end

Loops are given a number of rounds, and one that uses them up stalls.  This file shows that the
rounds that they are given are enough.  A source may be interrupted some more times and may answer
some more times before it is at its end; each round of a loop uses up one of the two.  Actions
without loops come to an end anyhow.

Main definitions:

- Definition Action.Ended: a result that is an answer, a failure, or an overflow where counters are.
- Definition Transfer.Paced: a source with bounds on its interruptions and its answers.

Main results:

- Theorems Transfer.fill_ended and Transfer.collect_ended: reading from a paced source ends.
- Theorem Transfer.drain_ended: writing to a sink that is not interrupted ends.
-/

namespace FileWindow

variable {ε ε' ρ σ α β : Type} {overflows : Prop}

/-! ## Ends -/

namespace Action

/-- The action answered, failed, or left the range of counters if that can be; it did not
stall. -/
def Ended (overflows : Prop) : EStateM.Result (Stop ε) (Frame ρ σ) α → Prop
  | .ok _ _ => True
  | .error (.failed _) _ => True
  | .error .overflow _ => overflows
  | .error .stalled _ => False

/-- Whether an action left the range of counters. -/
def isOverflow : EStateM.Result (Stop ε) (Frame ρ σ) α → Bool
  | .error .overflow _ => true
  | _ => false

/-- Whether an action answered. -/
def isAnswer : EStateM.Result (Stop ε) (Frame ρ σ) α → Bool
  | .ok _ _ => true
  | .error _ _ => false

theorem exists_of_isAnswer {result : EStateM.Result (Stop ε) (Frame ρ σ) α}
    (h : isAnswer result = true) : ∃ value after, result = .ok value after := by
  cases result with
  | ok value after => exact ⟨value, after, rfl⟩
  | error stop after => cases h

namespace Ended

variable {action : Action ε ρ σ α} {frame : Frame ρ σ}

/-- An action ends if its first part does, and what comes behind the answer of that. -/
theorem bind {next : α → Action ε ρ σ β} (h : Ended overflows (action frame))
    (hnext : ∀ value after, action frame = .ok value after → Ended overflows (next value after)) :
    Ended overflows ((action >>= next) frame) := by
  simp only [Bind.bind, EStateM.bind]
  cases hresult : action frame with
  | ok value after => exact hnext value after hresult
  | error stop after =>
    rw [hresult] at h
    cases stop <;> exact h

theorem map {make : α → β} (h : Ended overflows (action frame)) :
    Ended overflows ((make <$> action) frame) := by
  simp only [Functor.map, EStateM.map]
  cases hresult : action frame with
  | ok value after => trivial
  | error stop after =>
    rw [hresult] at h
    cases stop <;> exact h

theorem mapError {tell : ε → ε'} (h : Ended overflows (action frame)) :
    Ended overflows (action.mapError tell frame) := by
  simp only [Action.mapError]
  cases hresult : action frame with
  | ok value after => trivial
  | error stop after =>
    rw [hresult] at h
    cases stop <;> exact h

theorem observe (h : Ended overflows (action frame)) :
    Ended overflows ((Action.observe action : Action ε' ρ σ (Except ε α)) frame) := by
  simp only [Action.observe]
  cases hresult : action frame with
  | ok value after => trivial
  | error stop after =>
    rw [hresult] at h
    cases stop <;> exact h

/-- A call of a device answers or fails. -/
theorem call (name : String) (trying : Attempt) (request : Call σ α) (frame : Frame ρ σ) :
    Ended overflows (Action.call name trying request frame) := by
  cases hresult : request frame.world with
  | ok value world =>
    rw [call_of_ok name trying hresult]
    trivial
  | error fault world =>
    rw [call_of_error name trying hresult]
    trivial

theorem accept (name : String) (check : Except Refusal α) (frame : Frame ρ σ) :
    Ended overflows (Action.accept name check frame) := by
  cases check <;> trivial

theorem ofExcept (result : Except ε α) (frame : Frame ρ σ) :
    Ended overflows (Action.ofExcept result frame) := by
  cases result <;> trivial

/-- An action that ends without an overflow ends where counters cannot overflow. -/
theorem of_not_isOverflow {result : EStateM.Result (Stop ε) (Frame ρ σ) α}
    (h : Ended overflows result) (hcounts : isOverflow result = false) : Ended False result := by
  cases result with
  | ok value after => trivial
  | error stop after =>
    cases stop with
    | failed error => trivial
    | overflow => cases hcounts
    | stalled => exact h.elim

/-- Where an action that cannot fail or overflow ends, one that goes with it answers as well. -/
theorem answered_of_paired {ρ' τ β : Type} {frames : Frame ρ σ → Frame ρ' τ → Prop}
    {answers : α → β → Frame ρ σ → Frame ρ' τ → Prop}
    {result : EStateM.Result (Stop ε) (Frame ρ σ) α}
    {result' : EStateM.Result (Stop ε') (Frame ρ' τ) β} (h : Ended False result)
    (hpaired : Paired (fun _ _ => False) frames answers result result') :
    ∃ x y f g, result = .ok x f ∧ result' = .ok y g ∧ answers x y f g := by
  cases hpaired with
  | answered hanswers => exact ⟨_, _, _, _, rfl, rfl, hanswers⟩
  | failed he hframes => exact he.elim
  | overflowed hframes => exact h.elim
  | stalled hframes => exact h.elim

/-- A row of actions ends if each of them does. -/
theorem runAll {ω : Type} {perform : ω → Action ε ρ σ α}
    (h : ∀ operation frame, Ended overflows (perform operation frame)) (row : List ω)
    (frame : Frame ρ σ) : Ended overflows (Action.runAll perform row frame) := by
  induction row generalizing frame with
  | nil => trivial
  | cons operation row ih =>
    rw [runAll_cons]
    exact (observe (h operation frame)).bind fun _ _ _ => (ih _).bind fun _ _ _ => trivial

end Ended

end Action

/-! ## Loops -/

namespace Transfer

open FileWindow.Action (Ended)

/-- What a source gives that may be interrupted and may answer so many more times. -/
inductive Pace (Ready : Nat → Nat → Frame ρ σ → Prop) (interruptions answers : Nat) :
    EStateM.Result (Stop Fault) (Frame ρ σ) Bytes → Prop
  /-- It is at its end. -/
  | finished {frame : Frame ρ σ} : Pace Ready interruptions answers (.ok [] frame)
  /-- It answers, and may do so once less from now on. -/
  | answered {bytes : Bytes} {frame : Frame ρ σ} {left : Nat} (hbytes : bytes ≠ [])
      (hleft : answers = left + 1) (h : Ready interruptions left frame) :
      Pace Ready interruptions answers (.ok bytes frame)
  /-- It is interrupted, and may be so once less from now on. -/
  | interrupted {fault : Fault} {frame : Frame ρ σ} {left : Nat}
      (hfault : fault.isInterruption = true) (hleft : interruptions = left + 1)
      (h : Ready left answers frame) :
      Pace Ready interruptions answers (.error (.failed fault) frame)
  /-- It fails for good. -/
  | failed {fault : Fault} {frame : Frame ρ σ} (hfault : fault.isInterruption = false) :
      Pace Ready interruptions answers (.error (.failed fault) frame)

/-- A source that keeps a pace: from frames that are ready for so many interruptions and answers
it goes on to frames that are ready for one less. -/
def Paced (source : Nat → Action Fault ρ σ Bytes) (Ready : Nat → Nat → Frame ρ σ → Prop) : Prop :=
  ∀ length interruptions answers frame, 0 < length → Ready interruptions answers frame →
    Pace Ready interruptions answers (source length frame)

variable {source : Nat → Action Fault ρ σ Bytes} {Ready : Nat → Nat → Frame ρ σ → Prop}

/-- Reading until so many bytes are there ends: each round brings a byte, uses up an interruption,
or is the last. -/
theorem fill_ended (hpaced : Paced source Ready) {rounds missing interruptions answers : Nat}
    {frame : Frame ρ σ} (hready : Ready interruptions answers frame)
    (hrounds : missing + interruptions < rounds) :
    Ended overflows (fill source rounds missing frame) := by
  induction rounds generalizing missing interruptions answers frame with
  | zero => omega
  | succ rounds ih =>
    cases missing with
    | zero => trivial
    | succ missing =>
      have hpace := hpaced (missing + 1) interruptions answers frame (by omega) hready
      simp only [fill, Bind.bind, EStateM.bind, Action.observe]
      generalize source (missing + 1) frame = result at hpace
      cases hpace with
      | finished => trivial
      | @answered bytes after left hbytes hleft h =>
        cases bytes with
        | nil => exact absurd rfl hbytes
        | cons byte rest =>
          refine Ended.bind (ih h ?_) fun _ _ _ => trivial
          simp only [List.length_cons]
          omega
      | interrupted hfault hleft h =>
        simp only [hfault, if_true]
        exact ih h (by omega)
      | failed hfault =>
        simp only [hfault, Bool.false_eq_true, if_false]
        trivial

/-- Making an interrupted read again ends. -/
theorem persist_ended (hpaced : Paced source Ready) {length rounds interruptions answers : Nat}
    {frame : Frame ρ σ} (hlength : 0 < length) (hready : Ready interruptions answers frame)
    (hrounds : interruptions < rounds) :
    Ended overflows (persist source length rounds frame) := by
  induction rounds generalizing interruptions frame with
  | zero => omega
  | succ rounds ih =>
    have hpace := hpaced length interruptions answers frame hlength hready
    simp only [persist, Bind.bind, EStateM.bind, Action.observe]
    generalize source length frame = result at hpace
    cases hpace with
    | finished => trivial
    | answered hbytes hleft h => trivial
    | interrupted hfault hleft h =>
      simp only [hfault, if_true]
      exact ih h (by omega)
    | failed hfault =>
      simp only [hfault, Bool.false_eq_true, if_false]
      trivial

/-- After a read that was made again and brought some bytes, the source may answer once less. -/
theorem persist_ready (hpaced : Paced source Ready) {length rounds interruptions answers : Nat}
    {frame after : Frame ρ σ} {bytes : Bytes} (hlength : 0 < length)
    (hready : Ready interruptions answers frame)
    (hresult : persist source length rounds frame = .ok bytes after) (hbytes : bytes ≠ []) :
    ∃ fewer left, fewer ≤ interruptions ∧ answers = left + 1 ∧ Ready fewer left after := by
  induction rounds generalizing interruptions frame with
  | zero => cases hresult
  | succ rounds ih =>
    have hpace := hpaced length interruptions answers frame hlength hready
    simp only [persist, Bind.bind, EStateM.bind, Action.observe] at hresult
    generalize source length frame = result at hpace hresult
    cases hpace with
    | finished =>
      cases hresult
      exact absurd rfl hbytes
    | answered _ hleft h =>
      cases hresult
      exact ⟨_, _, Nat.le_refl _, hleft, h⟩
    | interrupted hfault hleft h =>
      simp only [hfault, if_true] at hresult
      rcases ih h hresult with ⟨fewer, left, hfewer, hanswers, hafter⟩
      exact ⟨fewer, left, by omega, hanswers, hafter⟩
    | failed hfault =>
      simp only [hfault, Bool.false_eq_true, if_false] at hresult
      cases hresult

/-- Reading into a growing buffer ends: each round but the last uses up an answer. -/
theorem collectInto_ended (hpaced : Paced source Ready)
    {patience rounds interruptions answers : Nat} {growth : Growth} {frame : Frame ρ σ}
    (hready : Ready interruptions answers frame) (hpatience : interruptions < patience)
    (hrounds : answers < rounds) (hceiling : 0 < growth.ceiling) :
    Ended overflows (collectInto source patience rounds growth frame) := by
  induction rounds generalizing interruptions answers growth frame with
  | zero => omega
  | succ rounds ih =>
    have hrequest := Growth.request_pos hceiling
    refine Ended.bind (persist_ended hpaced hrequest hready hpatience) ?_
    intro bytes after hresult
    cases bytes with
    | nil => trivial
    | cons byte rest =>
      obtain ⟨fewer, left, hfewer, hanswers, hafter⟩ :=
        persist_ready hpaced hrequest hready hresult (by simp)
      refine Ended.bind (ih hafter (by omega) (by omega) ?_) fun _ _ _ => trivial
      exact Growth.ceiling_advance_pos hceiling _ _

/-- Reading all that a source has ends. -/
theorem collect_ended (hpaced : Paced source Ready) {patience rounds interruptions answers : Nat}
    {frame : Frame ρ σ} (hready : Ready interruptions answers frame)
    (hpatience : interruptions < patience) (hrounds : answers < rounds) :
    Ended overflows (collect source patience rounds frame) := by
  have hprobe : 0 < Growth.probe := by decide
  refine Ended.bind (persist_ended hpaced hprobe hready hpatience) ?_
  intro bytes after hresult
  cases bytes with
  | nil => trivial
  | cons byte rest =>
    obtain ⟨fewer, left, hfewer, hanswers, hafter⟩ :=
      persist_ready hpaced hprobe hready hresult (by simp)
    refine Ended.bind (collectInto_ended hpaced hafter (by omega) (by omega) ?_)
      fun _ _ _ => trivial
    simp [Growth.afterProbe, Growth.firstCeiling]

/-- Writing until all bytes are accepted ends where the sink is not interrupted: each round is
rid of a byte, or is the last. -/
theorem drain_ended {sink : Bytes → Action Fault ρ σ Nat} {rounds : Nat} {bytes : Bytes}
    {frame : Frame ρ σ} (hended : ∀ bytes frame, Ended overflows (sink bytes frame))
    (hcalm : ∀ bytes frame fault after,
      sink bytes frame = .error (.failed fault) after → fault.isInterruption = false)
    (hrounds : bytes.length < rounds) : Ended overflows (drain sink rounds bytes frame) := by
  induction rounds generalizing bytes frame with
  | zero => omega
  | succ rounds ih =>
    cases bytes with
    | nil => trivial
    | cons byte rest =>
      have hend := hended (byte :: rest) frame
      have hquiet := hcalm (byte :: rest) frame
      simp only [drain, Bind.bind, EStateM.bind, Action.observe]
      cases hresult : sink (byte :: rest) frame with
      | ok accepted after =>
        cases accepted with
        | zero => trivial
        | succ accepted =>
          refine ih ?_
          simp only [List.length_drop, List.length_cons] at hrounds ⊢
          omega
      | error stop after =>
        rw [hresult] at hend
        cases stop with
        | failed fault =>
          simp only [hquiet fault after hresult, Bool.false_eq_true, if_false]
          trivial
        | overflow => exact hend
        | stalled => exact hend.elim

end Transfer

end FileWindow

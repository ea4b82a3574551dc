import FileWindow.Outcome
import FileWindow.Proofs.Alike

/-!
# What actions come to

An action answers, fails or halts, and leaves a frame behind in every case.  This file says what it
means that a result is as it should be, for each of the three, and how that is put together from
the parts of an action.  Nothing is assumed of the device: what is asked of a call is only to what
worlds it leads, whether it answers or fails.

Main definitions:

- Definition Call.Leads: a call that leads from worlds of one sort to worlds of another.
- Definition Action.Meets: a result whose answers, failures and halts are as they should be.
- Definition Action.Keeps: an action that keeps something of every frame.
- Definition Action.Holding: frames with a given book and a world of some sort.
- Definition Device.Keeps: a device that keeps its worlds of a sort until it is released.

Main results:

- Theorem Action.Meets.bind: an action is as it should be if its parts are.
- Theorems Transfer.fill_keeps, collect_keeps, drain_keeps and pump_keeps: loops keep what a round
  keeps.
-/

namespace FileWindow

variable {ε ε' ρ ρ' σ α β : Type}

/-! ## Calls -/

/-- A call leads from worlds of one sort to worlds of another, whether it answers or fails. -/
def Call.Leads (before after : σ → Prop) (call : Call σ α) : Prop :=
  ∀ world, before world →
    match call world with
    | .ok _ world => after world
    | .error _ world => after world

/-- A device keeps its worlds of a sort: every call but the release leads back to them. -/
structure Device.Keeps (holds : σ → Prop) (device : Device σ) : Prop where
  seek : ∀ target, Call.Leads holds holds (device.seek target)
  size : Call.Leads holds holds device.size
  read : ∀ length, Call.Leads holds holds (device.read length)
  write : ∀ bytes, Call.Leads holds holds (device.write bytes)
  flush : Call.Leads holds holds device.flush

namespace Call.Leads

variable {before after : σ → Prop} {call : Call σ α}

theorem of_ok (h : Call.Leads before after call) {world world' : σ} {value : α}
    (hbefore : before world) (hcall : call world = .ok value world') : after world' := by
  have hleads := h world hbefore
  rw [hcall] at hleads
  exact hleads

theorem of_error (h : Call.Leads before after call) {world world' : σ} {fault : Fault}
    (hbefore : before world) (hcall : call world = .error fault world') : after world' := by
  have hleads := h world hbefore
  rw [hcall] at hleads
  exact hleads

/-- Any call leads to worlds of which nothing is asked. -/
theorem trivially (call : Call σ α) : Call.Leads before (fun _ => True) call := by
  intro world _
  cases call world <;> trivial

end Call.Leads

namespace Device

variable {holds : σ → Prop} {device : Device σ}

/-- Nothing is all that any device keeps for certain. -/
theorem keeps_trivially (device : Device σ) : device.Keeps fun _ => True where
  seek _ := .trivially _
  size := .trivially _
  read _ := .trivially _
  write _ := .trivially _
  flush := .trivially _

/-- A read that is made again keeps what a read keeps. -/
theorem Keeps.readRetrying (h : device.Keeps holds) (length retries : Nat) :
    Call.Leads holds holds (device.readRetrying length retries) := by
  induction retries with
  | zero => exact h.read length
  | succ retries ih =>
    intro world hworld
    have hread := h.read length world hworld
    simp only [Device.readRetrying]
    cases hresult : device.read length world with
    | ok bytes after =>
      rw [hresult] at hread
      exact hread
    | error fault after =>
      rw [hresult] at hread
      by_cases hfault : fault.isInterruption = true
      · simp only [hfault, if_true]
        exact ih after hread
      · simp only [hfault, Bool.false_eq_true, if_false]
        exact hread

theorem Keeps.readPatiently (h : device.Keeps holds) (length : Nat) :
    Call.Leads holds holds (device.readPatiently length) :=
  fun world hworld => h.readRetrying length (device.retries world) world hworld

end Device

/-! ## Results -/

namespace Action

/-- The result is as it should be: an answer of some sort, a failure of some sort, or a halt of some
sort, where a counter left its range or a loop ran out of rounds. -/
def Meets (answers : α → Frame ρ σ → Prop) (fails : ε → Frame ρ σ → Prop)
    (halts : Frame ρ σ → Prop) : EStateM.Result (Stop ε) (Frame ρ σ) α → Prop
  | .ok value after => answers value after
  | .error (.failed error) after => fails error after
  | .error .overflow after => halts after
  | .error .stalled after => halts after

/-- The frame that is left behind. -/
def left : EStateM.Result (Stop ε) (Frame ρ σ) α → Frame ρ σ
  | .ok _ after => after
  | .error _ after => after

/-- What an action with a given outcome leaves behind. -/
@[simp]
theorem left_ofExcept (outcome : Except ε α) (frame : Frame ρ σ) :
    left (ofExcept outcome frame) = frame := by
  cases outcome <;> rfl

/-- An outcome that was looked at is as it should be: an answer of some sort, or a failure of some
sort. -/
def ByOutcome (answers : α → Frame ρ σ → Prop) (fails : ε → Frame ρ σ → Prop) :
    Except ε α → Frame ρ σ → Prop
  | .ok value => answers value
  | .error error => fails error

namespace Meets

variable {answers first : α → Frame ρ σ → Prop} {fails : ε → Frame ρ σ → Prop}
  {halts : Frame ρ σ → Prop} {action : Action ε ρ σ α} {frame : Frame ρ σ}

/-- More answers, failures and halts may be as they should be. -/
theorem imp {answers' : α → Frame ρ σ → Prop} {fails' : ε → Frame ρ σ → Prop}
    {halts' : Frame ρ σ → Prop} {result : EStateM.Result (Stop ε) (Frame ρ σ) α}
    (h : Meets answers fails halts result)
    (hanswers : ∀ value after, answers value after → answers' value after)
    (hfails : ∀ error after, fails error after → fails' error after)
    (hhalts : ∀ after, halts after → halts' after) : Meets answers' fails' halts' result := by
  cases result with
  | ok value after => exact hanswers _ _ h
  | error stop after =>
    cases stop with
    | failed error => exact hfails _ _ h
    | overflow => exact hhalts _ h
    | stalled => exact hhalts _ h

/-- An answer is what the result should be where it answers. -/
theorem of_ok {value : α} {after : Frame ρ σ} (h : Meets answers fails halts (action frame))
    (hresult : action frame = .ok value after) : answers value after := by
  rw [hresult] at h
  exact h

/-- An action that does not halt answers or fails. -/
theorem ok_or_failed (h : Meets answers fails (fun _ => False) (action frame)) :
    (∃ value after, action frame = .ok value after ∧ answers value after) ∨
      ∃ error after, action frame = .error (.failed error) after ∧ fails error after := by
  cases hresult : action frame with
  | ok value after =>
    rw [hresult] at h
    exact .inl ⟨value, after, rfl, h⟩
  | error stop after =>
    rw [hresult] at h
    cases stop with
    | failed error => exact .inr ⟨error, after, rfl, h⟩
    | overflow => exact h.elim
    | stalled => exact h.elim

/-- The result of an action is as it should be if that of its first part is, and that of what comes
behind. -/
theorem bind {next : α → Action ε ρ σ β} {answers : β → Frame ρ σ → Prop}
    (h : Meets first fails halts (action frame))
    (hnext : ∀ value after, first value after → Meets answers fails halts (next value after)) :
    Meets answers fails halts ((action >>= next) frame) := by
  simp only [Bind.bind, EStateM.bind]
  cases hresult : action frame with
  | ok value after =>
    rw [hresult] at h
    exact hnext value after h
  | error stop after =>
    rw [hresult] at h
    cases stop <;> exact h

theorem map {make : α → β} {answers : β → Frame ρ σ → Prop}
    (h : Meets (fun value => answers (make value)) fails halts (action frame)) :
    Meets answers fails halts ((make <$> action) frame) := by
  simp only [Functor.map, EStateM.map]
  cases hresult : action frame with
  | ok value after =>
    rw [hresult] at h
    exact h
  | error stop after =>
    rw [hresult] at h
    cases stop <;> exact h

theorem mapError {tell : ε → ε'} {fails : ε' → Frame ρ σ → Prop}
    (h : Meets answers (fun error => fails (tell error)) halts (action frame)) :
    Meets answers fails halts (action.mapError tell frame) := by
  simp only [Action.mapError]
  cases hresult : action frame with
  | ok value after =>
    rw [hresult] at h
    exact h
  | error stop after =>
    rw [hresult] at h
    cases stop <;> exact h

/-- Where all failures are of one sort, another account of them is of that sort as well. -/
theorem mapError_any {tell : ε → ε'} {sort : Frame ρ σ → Prop}
    (h : Meets answers (fun _ => sort) halts (action frame)) :
    Meets answers (fun _ => sort) halts (action.mapError tell frame) :=
  h.mapError

/-- An operation comes to what its action comes to. -/
theorem native {action : Action FileError ρ σ α} {value : α → Value}
    {answers : Value → Frame ρ σ → Prop} {sort : Frame ρ σ → Prop}
    (h : Meets (fun answer => answers (value answer)) (fun _ => sort) halts (action frame)) :
    Meets answers (fun _ => sort) halts (Action.native value action frame) :=
  h.mapError_any.map

theorem foreign {action : Action Fault ρ σ α} {value : α → Value}
    {answers : Value → Frame ρ σ → Prop} {sort : Frame ρ σ → Prop}
    (h : Meets (fun answer => answers (value answer)) (fun _ => sort) halts (action frame)) :
    Meets answers (fun _ => sort) halts (Action.foreign value action frame) :=
  h.mapError_any.map

/-- A failure that is looked at is an answer. -/
theorem observe {answers : Except ε α → Frame ρ σ → Prop} {fails : ε' → Frame ρ σ → Prop}
    (h : Meets (fun value => answers (.ok value)) (fun error => answers (.error error)) halts
      (action frame)) :
    Meets answers fails halts
      ((Action.observe action : Action ε' ρ σ (Except ε α)) frame) := by
  simp only [Action.observe]
  cases hresult : action frame with
  | ok value after =>
    rw [hresult] at h
    exact h
  | error stop after =>
    rw [hresult] at h
    cases stop <;> exact h

/-- What is looked at is as the result should be. -/
theorem observed {fails' : ε' → Frame ρ σ → Prop} (h : Meets answers fails halts (action frame)) :
    Meets (ByOutcome answers fails) fails' halts
      ((Action.observe action : Action ε' ρ σ (Except ε α)) frame) :=
  observe h

/-- An outcome is what the result should be. -/
theorem byOutcome {outcome : Except ε α} {after : Frame ρ σ}
    (h : Meets answers fails halts (action frame))
    (houtcome : (Action.observe action : Action ε ρ σ (Except ε α)) frame = .ok outcome after) :
    ByOutcome answers fails outcome after := by
  have hobserved : Meets (ByOutcome answers fails) fails halts
      ((Action.observe action : Action ε ρ σ (Except ε α)) frame) := h.observed
  exact hobserved.of_ok houtcome

/-- Where answers and failures are of the same sort, what is looked at is of that sort. -/
theorem observe_both {sort : Frame ρ σ → Prop} {fails : ε' → Frame ρ σ → Prop}
    (h : Meets (fun _ => sort) (fun _ => sort) halts (action frame)) :
    Meets (fun _ => sort) fails halts
      ((Action.observe action : Action ε' ρ σ (Except ε α)) frame) :=
  h.observe

/-- A call within an action comes to what the call leads to. -/
theorem call {before after : σ → Prop} {request : Call σ α} {frame : Frame ρ σ}
    (h : Call.Leads before after request) (name : String) (trying : Attempt)
    (hworld : before frame.world) :
    Meets (fun _ f => f.book = frame.book ∧ after f.world)
      (fun _ f => f.book = frame.book ∧ after f.world) halts
      (Action.call name trying request frame) := by
  cases hresult : request frame.world with
  | ok value world =>
    rw [call_of_ok name trying hresult]
    exact ⟨rfl, h.of_ok hworld hresult⟩
  | error fault world =>
    rw [call_of_error name trying hresult]
    exact ⟨rfl, h.of_error hworld hresult⟩

/-- What is left behind is of a sort if it is so whatever becomes of the action. -/
theorem left {sort : Frame ρ σ → Prop} {result : EStateM.Result (Stop ε) (Frame ρ σ) α}
    (h : Meets (fun _ => sort) (fun _ => sort) sort result) : sort (Action.left result) := by
  cases result with
  | ok value after => exact h
  | error stop after => cases stop <;> exact h

end Meets

/-! ## What is kept -/

/-- The action keeps something of every frame, whatever comes of it. -/
def Keeps (holds : Frame ρ σ → Prop) (action : Action ε ρ σ α) : Prop :=
  ∀ frame, holds frame → Meets (fun _ => holds) (fun _ => holds) holds (action frame)

/-- The book is a given one, and the world is of some sort. -/
def Holding (holds : σ → Prop) (book : ρ) (frame : Frame ρ σ) : Prop :=
  frame.book = book ∧ holds frame.world

namespace Keeps

variable {holds : Frame ρ σ → Prop} {action : Action ε ρ σ α}

theorem pure (value : α) : Keeps holds (Pure.pure value : Action ε ρ σ α) :=
  fun _ hframe => hframe

theorem fail (error : ε) : Keeps holds (Action.fail error : Action ε ρ σ α) :=
  fun _ hframe => hframe

theorem stalled : Keeps holds (Action.stalled : Action ε ρ σ α) :=
  fun _ hframe => hframe

theorem bind {next : α → Action ε ρ σ β} (h : Keeps holds action)
    (hnext : ∀ value, Keeps holds (next value)) : Keeps holds (action >>= next) :=
  fun frame hframe => (h frame hframe).bind fun value after hafter => hnext value after hafter

theorem map {make : α → β} (h : Keeps holds action) : Keeps holds (make <$> action) :=
  fun frame hframe => (h frame hframe).map

theorem mapError {tell : ε → ε'} (h : Keeps holds action) : Keeps holds (action.mapError tell) :=
  fun frame hframe => (h frame hframe).mapError

theorem observe (h : Keeps holds action) :
    Keeps holds (Action.observe action : Action ε' ρ σ (Except ε α)) :=
  fun frame hframe => (h frame hframe).observe

/-- A check changes nothing. -/
theorem accept (name : String) (check : Except Refusal α) {holds : Frame ρ σ → Prop} :
    Keeps holds (Action.accept name check : Action FileError ρ σ α) := by
  cases check with
  | ok value => exact .pure value
  | error reason => exact .fail _

/-- A call that keeps the world of a sort keeps the book as well. -/
theorem call {holds : σ → Prop} {request : Call σ α} (h : Call.Leads holds holds request)
    (name : String) (trying : Attempt) (book : ρ) :
    Keeps (Holding holds book) (Action.call name trying request : Action FileError ρ σ α) := by
  intro frame hframe
  refine (Meets.call h name trying hframe.2).imp ?_ ?_ (fun _ hafter => hafter)
  · exact fun _ _ hafter => ⟨hafter.1.trans hframe.1, hafter.2⟩
  · exact fun _ _ hafter => ⟨hafter.1.trans hframe.1, hafter.2⟩

/-- An action on one of two books keeps what it keeps beside the other. -/
theorem onFirst {holds : Frame (ρ × ρ') σ → Prop} {action : Action ε ρ σ α}
    (h : ∀ second, Keeps
      (fun inner => holds ⟨(inner.book, second), inner.world, inner.journal⟩) action) :
    Keeps holds (Action.onFirst action) := by
  intro frame hframe
  have hinner := h frame.book.2 ⟨frame.book.1, frame.world, frame.journal⟩ hframe
  simp only [Action.onFirst]
  generalize action ⟨frame.book.1, frame.world, frame.journal⟩ = result at hinner
  cases result with
  | ok value after => exact hinner
  | error stop after => cases stop <;> exact hinner

theorem onSecond {holds : Frame (ρ × ρ') σ → Prop} {action : Action ε ρ' σ α}
    (h : ∀ first, Keeps
      (fun inner => holds ⟨(first, inner.book), inner.world, inner.journal⟩) action) :
    Keeps holds (Action.onSecond action) := by
  intro frame hframe
  have hinner := h frame.book.1 ⟨frame.book.2, frame.world, frame.journal⟩ hframe
  simp only [Action.onSecond]
  generalize action ⟨frame.book.2, frame.world, frame.journal⟩ = result at hinner
  cases result with
  | ok value after => exact hinner
  | error stop after => cases stop <;> exact hinner

/-- What an action keeps, it leaves behind. -/
theorem left (h : Keeps holds action) {frame : Frame ρ σ} (hframe : holds frame) :
    holds (Action.left (action frame)) :=
  (h frame hframe).left

/-- What an action leaves behind in every case, it keeps. -/
theorem of_left (h : ∀ frame, holds frame → holds (Action.left (action frame))) :
    Keeps holds action := by
  intro frame hframe
  have hleft := h frame hframe
  cases hresult : action frame with
  | ok value after =>
    rw [hresult] at hleft
    exact hleft
  | error stop after =>
    rw [hresult] at hleft
    cases stop <;> exact hleft

/-- A report changes the journal alone. -/
theorem report {holds : σ → Prop} (event : Event) (book : ρ) :
    Keeps (Holding holds book) (Action.report event : Action ε ρ σ Unit) :=
  fun _ hframe => hframe

end Keeps

end Action

/-! ## Loops -/

namespace Transfer

open FileWindow.Action (Keeps)

variable {holds : Frame ρ σ → Prop} {source : Nat → Action Fault ρ σ Bytes}
  {sink : Bytes → Action Fault ρ σ Nat}

/-- Reading until so many bytes are there keeps what one read keeps. -/
theorem fill_keeps (h : ∀ length, Keeps holds (source length)) (rounds missing : Nat) :
    Keeps holds (fill source rounds missing) := by
  induction rounds generalizing missing with
  | zero =>
    cases missing with
    | zero => exact .pure []
    | succ missing => exact .stalled
  | succ rounds ih =>
    cases missing with
    | zero => exact .pure []
    | succ missing =>
      refine (h (missing + 1)).observe.bind fun outcome => ?_
      match outcome with
      | .ok [] => exact .fail _
      | .ok (byte :: rest) => exact (ih _).bind fun _ => .pure _
      | .error fault =>
        by_cases hfault : fault.isInterruption = true
        · simp only [hfault, if_true]
          exact ih _
        · simp only [hfault, Bool.false_eq_true, if_false]
          exact .fail _

theorem persist_keeps {length : Nat} (h : Keeps holds (source length)) (rounds : Nat) :
    Keeps holds (persist source length rounds) := by
  induction rounds with
  | zero => exact .stalled
  | succ rounds ih =>
    refine h.observe.bind fun outcome => ?_
    match outcome with
    | .ok bytes => exact .pure bytes
    | .error fault =>
      by_cases hfault : fault.isInterruption = true
      · simp only [hfault, if_true]
        exact ih
      · simp only [hfault, Bool.false_eq_true, if_false]
        exact .fail _

theorem collectInto_keeps (h : ∀ length, Keeps holds (source length)) (patience rounds : Nat)
    (growth : Growth) : Keeps holds (collectInto source patience rounds growth) := by
  induction rounds generalizing growth with
  | zero => exact .stalled
  | succ rounds ih =>
    refine (persist_keeps (h _) patience).bind fun bytes => ?_
    match bytes with
    | [] => exact .pure []
    | byte :: rest => exact (ih _).bind fun _ => .pure _

/-- Reading all that there is keeps what one read keeps. -/
theorem collect_keeps (h : ∀ length, Keeps holds (source length)) (patience rounds : Nat) :
    Keeps holds (collect source patience rounds) := by
  refine (persist_keeps (h _) patience).bind fun bytes => ?_
  match bytes with
  | [] => exact .pure []
  | byte :: rest => exact (collectInto_keeps h patience rounds _).bind fun _ => .pure _

/-- Reading and writing by turns keeps what both keep. -/
theorem pump_keeps {again : ε → Bool} {source : Nat → Action ε ρ σ Bytes}
    {sink : Bytes → Action ε ρ σ Unit} {chunk : Nat} (hsource : Keeps holds (source chunk))
    (hsink : ∀ bytes, Keeps holds (sink bytes)) (rounds moved : Nat) :
    Keeps holds (pump again source sink chunk rounds moved) := by
  induction rounds generalizing moved with
  | zero => exact .stalled
  | succ rounds ih =>
    refine hsource.observe.bind fun outcome => ?_
    match outcome with
    | .ok [] => exact .pure moved
    | .ok (byte :: rest) => exact (hsink _).bind fun _ => ih _
    | .error error =>
      by_cases hagain : again error = true
      · simp only [hagain, if_true]
        exact ih _
      · simp only [hagain, Bool.false_eq_true, if_false]
        exact .fail _

/-- Writing all bytes keeps what one write keeps. -/
theorem drain_keeps (h : ∀ bytes, Keeps holds (sink bytes)) (rounds : Nat) (bytes : Bytes) :
    Keeps holds (drain sink rounds bytes) := by
  induction rounds generalizing bytes with
  | zero =>
    match bytes with
    | [] => exact .pure ()
    | _ :: _ => exact .stalled
  | succ rounds ih =>
    match bytes with
    | [] => exact .pure ()
    | byte :: rest =>
      refine (h (byte :: rest)).observe.bind fun outcome => ?_
      match outcome with
      | .ok 0 => exact .fail _
      | .ok (accepted + 1) => exact ih _
      | .error fault =>
        by_cases hfault : fault.isInterruption = true
        · simp only [hfault, if_true]
          exact ih _
        · simp only [hfault, Bool.false_eq_true, if_false]
          exact .fail _

end Transfer

end FileWindow

import FileWindow.Proofs.Completion
import FileWindow.Proofs.Meeting
import FileWindow.Proofs.Twins

/-!
# Closed resources

Once closed, a resource stays closed: whatever is asked of it, its device is not called, nothing is
put on record, and the book stays as it is.  What it answers is the same every time.

Main definitions:

- Definition Action.Idle: an action that leaves its frame alone.
- Definitions Input.Operation.closes and Output.Operation.closes: the operations that close.
- Definitions Input.Operation.WhenClosed and Output.Operation.WhenClosed: what a closed resource
  answers.

Main results:

- Theorems Input.perform_idle and Output.perform_idle: a closed resource leaves its frame alone, and
  answers so.
-/

namespace FileWindow

variable {ε ρ σ α : Type}

/-! ## Actions that change nothing -/

/-- The operation was refused on behalf of a resource that has no name. -/
def RefusedUnnamed (outcome : Except Problem Value) : Prop :=
  ∃ context, outcome = .error (.error (.failed "" context none))

/-- The operation was refused so, and the refusal came through the adapter. -/
def PassedUnnamed (outcome : Except Problem Value) : Prop :=
  ∃ context, outcome = .error (.fault (.carried (.failed "" context none)))

/-- What a seek in the terms of streams comes to on a closed resource. -/
def SoughtWhenClosed (target : RawSeek) (outcome : Except Problem Value) : Prop :=
  match target.asSeek with
  | some _ => PassedUnnamed outcome
  | none => outcome = .error (.fault (.worded .invalidInput "seek offset too large"))

namespace Action

/-- The action leaves its frame alone: it changes neither book nor world nor journal, and what it
answers, or how it fails, is of some sort. -/
def Idle (sort : Except ε α → Prop) (frame : Frame ρ σ) (action : Action ε ρ σ α) : Prop :=
  ∃ outcome, (observe action : Action ε ρ σ (Except ε α)) frame = .ok outcome frame ∧ sort outcome

/-- An idle action leaves the frame behind that it found. -/
theorem Idle.left {sort : Except ε α → Prop} {frame : Frame ρ σ} {action : Action ε ρ σ α}
    (h : Idle sort frame action) : Action.left (action frame) = frame := by
  obtain ⟨outcome, hidle, -⟩ := h
  simp only [observe] at hidle
  cases hresult : action frame with
  | ok value after =>
    rw [hresult] at hidle
    cases hidle
    rfl
  | error stop after =>
    rw [hresult] at hidle
    cases stop with
    | failed error =>
      cases hidle
      rfl
    | overflow | stalled => cases hidle

/-- The action refuses on behalf of no name. -/
def Refuses (frame : Frame ρ σ) (action : Action FileError ρ σ α) : Prop :=
  ∃ reason, action frame = .error (.failed (.refused "" reason)) frame

/-- The action passes such a refusal on. -/
def Passes (frame : Frame ρ σ) (action : Action Fault ρ σ α) : Prop :=
  ∃ reason, action frame = .error (.failed (.carried (.refused "" reason))) frame

variable {frame : Frame ρ σ}

theorem Refuses.native {action : Action FileError ρ σ α} (h : Refuses frame action)
    (value : α → Value) : Idle RefusedUnnamed frame (Action.native value action) := by
  rcases h with ⟨reason, haction⟩
  refine ⟨.error (.error (.refused "" reason)), ?_, _, rfl⟩
  simp only [observe, Action.native, Functor.map, EStateM.map, mapError, haction, Stop.map]

theorem Refuses.passing {action : Action FileError ρ σ α} (h : Refuses frame action) :
    Passes frame (Adapter.passing action) := by
  rcases h with ⟨reason, haction⟩
  exact ⟨reason, by simp only [Adapter.passing, mapError, haction, Stop.map]⟩

theorem Passes.foreign {action : Action Fault ρ σ α} (h : Passes frame action)
    (value : α → Value) : Idle PassedUnnamed frame (Action.foreign value action) := by
  rcases h with ⟨reason, haction⟩
  refine ⟨.error (.fault (.carried (.refused "" reason))), ?_, _, rfl⟩
  simp only [observe, Action.foreign, Functor.map, EStateM.map, mapError, haction, Stop.map]

/-- Nothing comes behind what was refused and passed on. -/
theorem Passes.bind {β : Type} {action : Action Fault ρ σ α} (h : Passes frame action)
    (next : α → Action Fault ρ σ β) : Passes frame (action >>= next) := by
  rcases h with ⟨reason, haction⟩
  exact ⟨reason, by simp only [Bind.bind, EStateM.bind, haction]⟩

end Action

/-! ## The adapter -/

open FileWindow.Action (Idle Passes Refuses)

/-- Where seeks are refused, so are those through the adapter. -/
theorem Adapter.seek_idle {move : Int → Whence → Action FileError ρ σ Nat} {frame : Frame ρ σ}
    (h : ∀ distance whence, Refuses frame (move distance whence)) (target : RawSeek) :
    Idle (SoughtWhenClosed target) frame (Action.foreign .number (seek move target)) := by
  rw [seek_eq]
  unfold SoughtWhenClosed
  cases target.asSeek with
  | none => exact ⟨_, rfl, rfl⟩
  | some pair => exact (h pair.1 pair.2).passing.foreign _

namespace Transfer

variable {frame : Frame ρ σ} {source : Nat → Action Fault ρ σ Bytes}
  {sink : Bytes → Action Fault ρ σ Nat}

/-- A refusal is no interruption, so a loop does not go on behind it. -/
theorem fill_passes (h : ∀ length, Passes frame (source length)) (rounds missing : Nat) :
    Passes frame (fill source (rounds + 1) (missing + 1)) := by
  rcases h (missing + 1) with ⟨reason, hsource⟩
  refine ⟨reason, ?_⟩
  simp only [fill, Bind.bind, EStateM.bind, Action.observe_of_failed hsource]
  rfl

theorem collect_passes (h : ∀ length, Passes frame (source length)) (patience rounds : Nat) :
    Passes frame (collect source (patience + 1) rounds) := by
  rcases h Growth.probe with ⟨reason, hsource⟩
  refine Passes.bind ⟨reason, ?_⟩ _
  simp only [persist, Bind.bind, EStateM.bind, Action.observe_of_failed hsource]
  rfl

theorem drain_passes (h : ∀ bytes, Passes frame (sink bytes)) (rounds : Nat) (byte : UInt8)
    (rest : Bytes) : Passes frame (drain sink (rounds + 1) (byte :: rest)) := by
  rcases h (byte :: rest) with ⟨reason, hsink⟩
  refine ⟨reason, ?_⟩
  simp only [drain, Bind.bind, EStateM.bind, Action.observe_of_failed hsink]
  rfl

end Transfer

/-! ## Inputs -/

namespace Input

/-- The operation closes the input, whatever else becomes of it. -/
def Operation.closes : Operation → Bool
  | .readThenClose _ | .close | .closeAfter _ => true
  | _ => false

/-- What a closed input answers. -/
def Operation.WhenClosed : Operation → Except Problem Value → Prop
  | .size, outcome => outcome = .ok (.number 0)
  | .close, outcome => outcome = .ok .nothing
  | .closeAfter result, outcome => outcome = (result.map .number).mapError .error
  | .streamSeek target, outcome => SoughtWhenClosed target outcome
  | .streamReadExactly 0, outcome => outcome = .ok (.bytes [])
  | .streamPosition, outcome | .streamRewind, outcome | .streamRead _, outcome
  | .streamReadExactly _, outcome | .streamReadToEnd, outcome => PassedUnnamed outcome
  | _, outcome => RefusedUnnamed outcome

variable (device : Device σ) {frame : Frame Input σ}

theorem read_refuses (hbook : frame.book = .closed) (length room : Nat) :
    Refuses frame (read device length room) := by
  rcases frame with ⟨book, world, journal⟩
  obtain rfl : book = .closed := hbook
  rw [read_eq]
  split
  · exact ⟨_, rfl⟩
  · exact ⟨_, rfl⟩

theorem readExactly_refuses (hbook : frame.book = .closed) (length room : Nat) :
    Refuses frame (readExactly device length room) := by
  rcases read_refuses device hbook length room with ⟨reason, hread⟩
  exact ⟨reason, by simp only [readExactly, Bind.bind, EStateM.bind, hread]⟩

/-- A closed input leaves its frame alone: its device is not called. -/
theorem perform_idle (hbook : frame.book = .closed) (operation : Operation) :
    Idle operation.WhenClosed frame (perform device operation) := by
  have hsource : ∀ length, Passes frame (Adapter.read device length) :=
    fun length => (read_refuses device hbook _ _).passing
  have hread := read_refuses device hbook
  have hexactly := readExactly_refuses device hbook
  rcases frame with ⟨book, world, journal⟩
  obtain rfl : book = .closed := hbook
  cases operation with
  | seek | tell | setExtent | unsetExtent =>
    refine Refuses.native ?_ _
    exact ⟨_, rfl⟩
  | size | close => exact ⟨_, rfl, rfl⟩
  | read length room => exact (hread length room).native _
  | readExactly length room => exact (hexactly length room).native _
  | readThenClose length =>
    rcases hexactly length length with ⟨reason, hread⟩
    refine Refuses.native ?_ _
    refine ⟨reason, ?_⟩
    simp only [Bind.bind, EStateM.bind, Action.observe_of_failed hread]
    rfl
  | closeAfter result => cases result <;> exact ⟨_, rfl, rfl⟩
  | streamSeek target =>
    refine Adapter.seek_idle ?_ target
    exact fun _ _ => ⟨_, rfl⟩
  | streamPosition | streamRewind =>
    refine Passes.foreign ?_ _
    exact ⟨_, rfl⟩
  | streamRead length => exact (hsource length).foreign _
  | streamReadExactly length =>
    cases length with
    | zero => exact ⟨_, rfl, rfl⟩
    | succ missing =>
      have hfill : Passes ⟨.closed, world, journal⟩ (Adapter.readExactly device (missing + 1)) :=
        Transfer.fill_passes hsource (missing + 1 + device.patience world) missing
      exact hfill.foreign _
  | streamReadToEnd =>
    have hcollect : Passes ⟨.closed, world, journal⟩ (Adapter.readToEnd device) :=
      Transfer.collect_passes hsource (0 + device.patience world + 1)
        (0 + device.patience world + 2)
    exact hcollect.foreign _

end Input

/-! ## Outputs -/

namespace Output

/-- The operation closes the output, whatever else becomes of it. -/
def Operation.closes : Operation → Bool
  | .writeThenClose .. | .close | .closeAfter _ => true
  | _ => false

/-- What a closed output answers. -/
def Operation.WhenClosed : Operation → Except Problem Value → Prop
  | .size, outcome => outcome = .ok (.number 0)
  | .flush, outcome | .close, outcome | .streamFlush, outcome => outcome = .ok .nothing
  | .closeAfter result, outcome => outcome = (result.map .number).mapError .error
  | .streamSeek target, outcome => SoughtWhenClosed target outcome
  | .streamWriteAll [], outcome => outcome = .ok .nothing
  | .streamPosition, outcome | .streamRewind, outcome | .streamWrite _, outcome
  | .streamWriteAll _, outcome => PassedUnnamed outcome
  | _, outcome => RefusedUnnamed outcome

/-- A closed output leaves its frame alone: its device is not called. -/
theorem perform_idle (device : Device σ) {frame : Frame Output σ} (hbook : frame.book = .closed)
    (operation : Operation) : Idle operation.WhenClosed frame (perform device operation) := by
  rcases frame with ⟨book, world, journal⟩
  obtain rfl : book = .closed := hbook
  have hsink : ∀ bytes, Passes ⟨.closed, world, journal⟩ (Adapter.write device bytes) :=
    fun bytes => ⟨_, rfl⟩
  cases operation with
  | seek | tell | setExtent | unsetExtent | write | overwrite | writeThenClose =>
    refine Refuses.native ?_ _
    exact ⟨_, rfl⟩
  | size | close | flush | streamFlush => exact ⟨_, rfl, rfl⟩
  | closeAfter result => cases result <;> exact ⟨_, rfl, rfl⟩
  | streamSeek target =>
    refine Adapter.seek_idle ?_ target
    exact fun _ _ => ⟨_, rfl⟩
  | streamPosition | streamRewind =>
    refine Passes.foreign ?_ _
    exact ⟨_, rfl⟩
  | streamWrite bytes => exact (hsink bytes).foreign _
  | streamWriteAll bytes =>
    cases bytes with
    | nil => exact ⟨_, rfl, rfl⟩
    | cons byte rest =>
      have hdrain : Passes ⟨.closed, world, journal⟩ (Adapter.writeAll device (byte :: rest)) :=
        Transfer.drain_passes hsink ((byte :: rest).length + device.patience world) byte rest
      exact hdrain.foreign _

end Output

end FileWindow

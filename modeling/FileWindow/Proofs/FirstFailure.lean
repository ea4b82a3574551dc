import FileWindow.Input.Operation
import FileWindow.Output.Operation
import FileWindow.Proofs.Recording

/-!
# The first failure wins

Work that is followed by closing can fail three times over: the work itself, the flush that goes
before a release, and the release.  This file says what becomes of all three.  The first failure is
the one passed on; a later one neither takes its place nor keeps the calls behind it from being
made.  Nothing is assumed of the device.

Main definitions:

- Definitions Call.told and Call.left: what a call comes to, and the world it leaves.
- Definition Teardown.firstFailure: the first failure of some work and of closing behind it.
- Definition Ending: what comes of closing a resource.
- Definitions Input.ending and Output.ending: what the calls of a device make of it.

Main results:

- Theorems Input.close_eq and Output.close_eq: closing comes to the ending of the resource.
- Theorems Input.closeAfter_eq and Output.closeAfter_eq: behind some work the first failure is
  passed on.
- Theorems Input.drop_eq and Output.drop_eq: dropping never fails, and what it puts on record.
- Theorems Input.record_ending and Output.record_ending: no call is left out.
-/

namespace FileWindow

variable {ε ε' ρ σ α : Type}

/-! ## Calls -/

/-- What a call that only has to succeed comes to, told on behalf of the named resource. -/
def Call.told (name : String) (trying : Attempt) (call : Call σ Unit) (world : σ) :
    Except FileError Unit :=
  match call world with
  | .ok () _ => .ok ()
  | .error fault _ => .error (.ofFault name trying fault)

/-- The world that a call leaves behind, whether it answers or fails. -/
def Call.left (call : Call σ α) (world : σ) : σ :=
  match call world with
  | .ok _ after => after
  | .error _ after => after

/-- A call fails on behalf of the resource that it is told of. -/
theorem Call.name_of_told {resource : String} {trying : Attempt} {call : Call σ Unit} {world : σ}
    {error : FileError} (h : call.told resource trying world = .error error) :
    error.name = some resource := by
  unfold Call.told at h
  split at h
  · cases h
  · cases h
    rfl

/-- A call that is put on record leaves the world that it leaves anyway, and its mark. -/
theorem Call.left_recorded (number : Nat) (kind : RawCall) (call : Call σ α)
    (recorded : Recorded σ) :
    Call.left (call.recorded number kind) recorded =
      { recorded with world := Call.left call recorded.world }.mark number (.called kind) := by
  simp only [Call.left, Call.recorded]
  cases call recorded.world <;> rfl

namespace Action

variable {action : Action ε ρ σ α} {frame after : Frame ρ σ}

/-- A call within an action comes to what the call comes to. -/
theorem call_eq_ofExcept (name : String) (trying : Attempt) (request : Call σ Unit)
    (frame : Frame ρ σ) :
    call name trying request frame =
      ofExcept (request.told name trying frame.world)
        { frame with world := request.left frame.world } := by
  cases hrequest : request frame.world with
  | ok value world =>
    rw [call_of_ok name trying hrequest, Call.told, Call.left, hrequest]
    rfl
  | error fault world =>
    rw [call_of_error name trying hrequest, Call.told, Call.left, hrequest]
    rfl

/-- What comes behind an action that is looked at goes on with its outcome. -/
theorem observe_bind {β : Type} {outcome : Except ε α} (h : action frame = ofExcept outcome after)
    (next : Except ε α → Action ε' ρ σ β) :
    (observe action >>= next) frame = next outcome after := by
  simp only [Bind.bind, EStateM.bind, observe, h]
  cases outcome <;> rfl

/-- An operation comes to what its action comes to. -/
theorem native_eq_ofExcept {action : Action FileError ρ σ α} {outcome : Except FileError α}
    (value : α → Value) (h : action frame = ofExcept outcome after) :
    native value action frame = ofExcept ((outcome.map value).mapError .error) after := by
  cases outcome with
  | ok answer => exact native_of_ok value h
  | error error =>
    simp only [native, mapError, Functor.map, EStateM.map, h]
    rfl

end Action

/-! ## Endings -/

/-- What comes of closing a resource: how it went, the world it leaves, and what is put on record on
the way. -/
structure Ending (σ α : Type) where
  outcome : Except FileError α
  world : σ
  record : Journal

namespace Teardown

/-- The first failure of some work and of the closing behind it. -/
def firstFailure : Except FileError α → Except FileError Unit → Except FileError α
  | .error first, _ => .error first
  | .ok _, .error error => .error error
  | .ok value, .ok () => .ok value

/-- What is put on record about a failure to close that comes behind another. -/
def suppressed : Except FileError α → Except FileError Unit → Journal
  | .error first, .error closeError => [.closeSuppressed closeError first]
  | _, _ => []

/-- What is put on record about the closing of a resource of a name that is dropped. -/
def unheard (name : String) (unwinding : Bool) : Except FileError Unit → Journal
  | .ok () => []
  | .error error =>
    [if unwinding then .closeFailedUnwinding name error else .closeFailedOnDrop name error]

end Teardown

open Teardown (firstFailure suppressed unheard)

namespace Ending

/-- The result of an action that comes to an ending, with the book of a closed resource. -/
def result (ending : Ending σ α) (closed : ρ) (journal : Journal) :
    EStateM.Result (Stop FileError) (Frame ρ σ) α :=
  Action.ofExcept ending.outcome ⟨closed, ending.world, ending.record ++ journal⟩

/-- What comes of closing behind some work. -/
def behind (closing : Ending σ Unit) (work : Except FileError α) : Ending σ α where
  outcome := firstFailure work closing.outcome
  world := closing.world
  record := suppressed work closing.outcome ++ closing.record

end Ending

/-- What comes of closing an input: an open one is released. -/
def Input.ending (device : Device σ) : Input → σ → Ending σ Unit
  | .closed, world => ⟨.ok (), world, []⟩
  | .opened reader, world =>
    { outcome := Call.told reader.window.name .close device.close world
      world := Call.left device.close world
      record := [.closing reader.window.name] }

/-- What comes of closing an output: an open one is flushed and then released, in the world that the
flush left, whatever came of the flush. -/
def Output.ending (device : Device σ) : Output → σ → Ending σ Unit
  | .closed, world => ⟨.ok (), world, []⟩
  | .opened writer, world =>
    let flushed := Call.left device.flush world
    { outcome := firstFailure (Call.told writer.window.name .flush device.flush world)
        (Call.told writer.window.name .close device.close flushed)
      world := Call.left device.close flushed
      record := [.closing writer.window.name] }

/-! ## Closing -/

namespace Teardown

variable {close : Action FileError ρ σ Unit} {closed : ρ} {closing : Ending σ Unit}
  {frame : Frame ρ σ}

/-- Closing behind some work passes the first failure on.  A failure to close that comes behind
another goes on record. -/
theorem closeAfter_eq (h : close frame = closing.result closed frame.journal)
    (work : Except FileError α) :
    closeAfter close work frame = (closing.behind work).result closed frame.journal := by
  cases work with
  | ok value =>
    simp only [closeAfter, Bind.bind, EStateM.bind, h, Ending.result, Ending.behind]
    cases closing.outcome <;> rfl
  | error first =>
    refine (Action.observe_bind h _).trans ?_
    simp only [Ending.result, Ending.behind]
    cases closing.outcome <;> rfl

/-- Closing that nobody hears of puts a failure on record and does not fail itself. -/
theorem reportOnDrop_bind (h : close frame = closing.result closed frame.journal) (name : String)
    (unwinding : Bool) :
    (Action.observe close >>= reportOnDrop name unwinding : Action ε ρ σ Unit) frame =
      .ok () ⟨closed, closing.world,
        unheard name unwinding closing.outcome ++ closing.record ++ frame.journal⟩ := by
  refine (Action.observe_bind h _).trans ?_
  cases closing.outcome <;> rfl

end Teardown

namespace Input

variable (device : Device σ) (frame : Frame Input σ)

/-- Closing an input comes to its ending. -/
theorem close_eq :
    close device frame = (ending device frame.book frame.world).result .closed frame.journal := by
  rcases frame with ⟨_ | reader, world, journal⟩
  · rfl
  · exact Action.call_eq_ofExcept reader.window.name .close device.close
      ⟨closed, world, .closing reader.window.name :: journal⟩

theorem closeAfter_eq (work : Except FileError α) :
    closeAfter device work frame =
      ((ending device frame.book frame.world).behind work).result .closed frame.journal :=
  Teardown.closeAfter_eq (close_eq device frame) work

/-- An exact read that is followed by closing comes to the first failure of the two. -/
theorem readThenClose_eq {length : Nat} {frame worked : Frame Input σ}
    {work : Except FileError Bytes}
    (h : readExactly device length length frame = Action.ofExcept work worked) :
    perform device (.readThenClose length) frame =
      let ending := (ending device worked.book worked.world).behind work
      Action.ofExcept ((ending.outcome.map .amount).mapError .error)
        ⟨.closed, ending.world, ending.record ++ worked.journal⟩ :=
  Action.native_eq_ofExcept .amount
    ((Action.observe_bind h _).trans (closeAfter_eq device worked work))

/-- A dropped input is closed, and the journal alone hears of a failure. -/
theorem drop_eq (unwinding : Bool) :
    (drop device unwinding : Action ε Input σ Unit) frame =
      .ok () ⟨.closed, (ending device frame.book frame.world).world,
        unheard frame.book.name unwinding (ending device frame.book frame.world).outcome ++
          (ending device frame.book frame.world).record ++ frame.journal⟩ := by
  have hclose := close_eq device frame
  rcases frame with ⟨_ | reader, world, journal⟩
  · rfl
  · exact Teardown.reportOnDrop_bind hclose reader.window.name unwinding

/-- Closing an open input goes as its release goes. -/
theorem outcome_ending (reader : Reader) (world : σ) :
    (ending device (.opened reader) world).outcome =
      match device.close world with
      | .ok () _ => .ok ()
      | .error fault _ => .error (.ofFault reader.window.name .close fault) :=
  rfl

/-- A failure to close an input names it. -/
theorem name_of_ending {input : Input} {world : σ} {error : FileError}
    (h : (ending device input world).outcome = .error error) : error.name = some input.name := by
  cases input with
  | closed => cases h
  | opened reader => exact Call.name_of_told h

/-- The device of an open input that is closed is called once: it is released. -/
theorem record_ending (number : Nat) (reader : Reader) (recorded : Recorded σ) :
    (ending (device.recorded number) (.opened reader) recorded).world.record number =
      .called .close :: recorded.record number := by
  simp only [ending, Device.recorded, Call.left_recorded, Recorded.record_mark_self]

end Input

namespace Output

variable (device : Device σ) (frame : Frame Output σ)

/-- Closing an output comes to its ending: the release is made even where the flush failed. -/
theorem close_eq :
    close device frame = (ending device frame.book frame.world).result .closed frame.journal := by
  rcases frame with ⟨_ | writer, world, journal⟩
  · rfl
  · have hflush := Action.call_eq_ofExcept writer.window.name .flush device.flush
      ⟨opened writer, world, journal⟩
    have hrelease := Action.call_eq_ofExcept writer.window.name .close device.close
      ⟨closed, Call.left device.flush world, .closing writer.window.name :: journal⟩
    rw [close, Action.book_bind]
    refine (Action.observe_bind hflush _).trans ?_
    rw [Action.setBook_bind]
    refine (Action.observe_bind hrelease _).trans ?_
    -- whatever the two calls come to, the first failure is what is left of them
    simp only [ending, Ending.result]
    cases Call.told writer.window.name .flush device.flush world with
    | error first => rfl
    | ok value =>
      cases Call.told writer.window.name .close device.close (Call.left device.flush world) <;> rfl

theorem closeAfter_eq (work : Except FileError α) :
    closeAfter device work frame =
      ((ending device frame.book frame.world).behind work).result .closed frame.journal :=
  Teardown.closeAfter_eq (close_eq device frame) work

/-- A write that is followed by closing comes to the first failure of the two. -/
theorem writeThenClose_eq {buffer : Bytes} {length : Nat} {frame worked : Frame Output σ}
    {work : Except FileError Unit}
    (h : write device buffer length frame = Action.ofExcept work worked) :
    perform device (.writeThenClose buffer length) frame =
      let ending := (ending device worked.book worked.world).behind work
      Action.ofExcept ((ending.outcome.map .done).mapError .error)
        ⟨.closed, ending.world, ending.record ++ worked.journal⟩ :=
  Action.native_eq_ofExcept .done
    ((Action.observe_bind h _).trans (closeAfter_eq device worked work))

/-- A dropped output is closed, and the journal alone hears of a failure. -/
theorem drop_eq (unwinding : Bool) :
    (drop device unwinding : Action ε Output σ Unit) frame =
      .ok () ⟨.closed, (ending device frame.book frame.world).world,
        unheard frame.book.name unwinding (ending device frame.book frame.world).outcome ++
          (ending device frame.book frame.world).record ++ frame.journal⟩ := by
  have hclose := close_eq device frame
  rcases frame with ⟨_ | writer, world, journal⟩
  · rfl
  · exact Teardown.reportOnDrop_bind hclose writer.window.name unwinding

/-- Closing an open output goes as its flush goes, and where that succeeds as its release goes. -/
theorem outcome_ending (writer : Writer) (world : σ) :
    (ending device (.opened writer) world).outcome =
      match device.flush world with
      | .error fault _ => .error (.ofFault writer.window.name .flush fault)
      | .ok () flushed =>
        match device.close flushed with
        | .error fault _ => .error (.ofFault writer.window.name .close fault)
        | .ok () _ => .ok () := by
  simp only [ending, Call.told, Call.left]
  cases device.flush world with
  | error fault flushed => rfl
  | ok value flushed => cases hclose : device.close flushed <;> simp only [hclose, firstFailure]

/-- A failure to flush or to release an output names it. -/
theorem name_of_ending {output : Output} {world : σ} {error : FileError}
    (h : (ending device output world).outcome = .error error) : error.name = some output.name := by
  cases output with
  | closed => cases h
  | opened writer =>
    simp only [ending] at h
    cases hflush : Call.told writer.window.name .flush device.flush world with
    | error first =>
      rw [hflush] at h
      cases h
      exact Call.name_of_told hflush
    | ok value =>
      rw [hflush] at h
      cases hclose : Call.told writer.window.name .close device.close
          (Call.left device.flush world) with
      | error first =>
        rw [hclose] at h
        cases h
        exact Call.name_of_told hclose
      | ok value =>
        rw [hclose] at h
        cases h

/-- The device of an open output that is closed is called twice: it is flushed and then released,
whatever comes of either. -/
theorem record_ending (number : Nat) (writer : Writer) (recorded : Recorded σ) :
    (ending (device.recorded number) (.opened writer) recorded).world.record number =
      .called .close :: .called .flush :: recorded.record number := by
  simp only [ending, Device.recorded, Call.left_recorded, Recorded.record_mark_self]

end Output

end FileWindow

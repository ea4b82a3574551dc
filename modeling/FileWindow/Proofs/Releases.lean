import FileWindow.Proofs.Household
import FileWindow.Stream

/-!
# Every device is released once

Whatever a client does with its resources, and whatever their devices answer, each device that was
bound is in the end released once or handed back once, and not called behind that.  A resource that
was closed stays closed.

Main results:

- Theorem Household.accord_run: after a whole life records and resources are in accord.
- Theorems Input.closed_of_closing and Output.closed_of_closing: an operation that is to close a
  resource leaves it closed.
- Theorem released_once_and_closed_for_good: every bound device is released once, and a closed
  resource calls its device no more.
-/

namespace FileWindow

variable {σ : Type}

open FileWindow.Action (Holding Idle Meets)

/-! ## Whole lives -/

namespace Household

variable (devices : Nat → Device σ)

theorem accord_empty (world : σ) : (empty world).InAccord := fun _ => rfl

/-- Steps, one after the other, keep records and resources in accord. -/
theorem accord_steps {home : Household σ} (h : home.InAccord) (steps : List (Step σ)) :
    (steps.foldl (step devices) home).InAccord := by
  induction steps generalizing home with
  | nil => exact h
  | cons next steps ih => exact ih (accord_step devices h next)

/-- After a whole life records and resources are in accord. -/
theorem accord_run (world : σ) (steps : List (Step σ)) : (run devices world steps).InAccord := by
  have hsteps := accord_steps devices (accord_empty world) steps
  exact List.foldlRecOn _ _ hsteps fun home h number _ => accord_drop devices h false

/-- In the end a device that was bound has been let go of. -/
theorem released_of_bound {world : σ} {steps : List (Step σ)} {number : Nat} {output : Bool}
    (hbound : .bound output ∈ (run devices world steps).world.record number) :
    Released output ((run devices world steps).world.record number) := by
  have haccord := accord_run devices world steps number
  cases hresource : (run devices world steps).resources[number]? with
  | none =>
    rw [hresource] at haccord
    simp only at haccord
    rw [haccord] at hbound
    cases hbound
  | some resource =>
    obtain rfl := eq_gone_of_dropAll devices hresource
    rw [hresource] at haccord
    rcases haccord with hunbound | ⟨holder, hreleased⟩
    · exact absurd hbound hunbound.bound_not_mem
    · rwa [hreleased.eq_of_bound_mem hbound]

end Household

/-! ## Closed resources -/

/-- An operation that is to close an input leaves it closed, as soon as it returns. -/
theorem Input.closed_of_closing (device : Device σ) {operation : Operation}
    (hcloses : operation.closes = true) {frame after : Frame Input σ}
    {outcome : Except Problem Value}
    (h : (Action.observe (perform device operation) :
      Action Problem Input σ (Except Problem Value)) frame = .ok outcome after) :
    after.book = .closed := by
  cases hbook : frame.book with
  | closed =>
    obtain ⟨outcome', hidle, -⟩ := perform_idle device hbook operation
    rw [hidle] at h
    cases h
    exact hbook
  | opened reader =>
    have hclosing := closing_meets device.keeps_trivially (.trivially _) hcloses
      (⟨hbook, trivial⟩ : Holding (fun _ => True) (.opened reader) frame)
    have hclosed := Meets.byOutcome hclosing h
    cases outcome <;> exact hclosed.1

/-- An operation that is to close an output leaves it closed, as soon as it returns. -/
theorem Output.closed_of_closing (device : Device σ) {operation : Operation}
    (hcloses : operation.closes = true) {frame after : Frame Output σ}
    {outcome : Except Problem Value}
    (h : (Action.observe (perform device operation) :
      Action Problem Output σ (Except Problem Value)) frame = .ok outcome after) :
    after.book = .closed := by
  cases hbook : frame.book with
  | closed =>
    obtain ⟨outcome', hidle, -⟩ := perform_idle device hbook operation
    rw [hidle] at h
    cases h
    exact hbook
  | opened writer =>
    have hclosing := closing_meets device.keeps_trivially (.trivially _) (.trivially _) hcloses
      (⟨hbook, trivial⟩ : Holding (fun _ => True) (.opened writer) frame)
    have hclosed := Meets.byOutcome hclosing h
    cases outcome <;> exact hclosed.1

/-- Whatever a client does, and whatever the devices answer, a device that was bound is released
once or handed back once, and is not called behind that.  An open output that is given up hands its
device back if it answers, and releases it if it fails, each behind a flush.  An operation that is to
close a resource leaves it closed, whether it answers or fails.  A closed resource leaves its frame
alone, so its device is not called, and answers the same every time. -/
theorem released_once_and_closed_for_good (devices : Nat → Device σ) :
    (∀ world steps number output,
      .bound output ∈ (Household.run devices world steps).world.record number →
        Released output ((Household.run devices world steps).world.record number)) ∧
    (∀ (home : Household σ) number writer,
      home.resources[number]? = some (.output (.opened writer)) →
        (∃ after,
          Output.detach (Household.device devices number) (home.frame (.opened writer)) =
            .ok () after ∧
          (home.giveBack devices number).world.record number =
            .returned :: .called .flush :: home.world.record number) ∨
        ∃ error after,
          Output.detach (Household.device devices number) (home.frame (.opened writer)) =
            .error (.failed error) after ∧
          (home.giveBack devices number).world.record number =
            .called .close :: .called .flush :: .called .flush :: home.world.record number) ∧
    (∀ number operation (frame : Frame Input σ) outcome after,
      Input.Operation.closes operation = true →
      (Action.observe (Input.perform (devices number) operation) :
        Action Problem Input σ (Except Problem Value)) frame = .ok outcome after →
        after.book.isOpen = false ∧ after.book.name = "" ∧ after.book.extent = ⟨0, 0⟩ ∧
          after.book.openingSize = 0) ∧
    (∀ number operation (frame : Frame Output σ) outcome after,
      Output.Operation.closes operation = true →
      (Action.observe (Output.perform (devices number) operation) :
        Action Problem Output σ (Except Problem Value)) frame = .ok outcome after →
        after.book.isOpen = false ∧ after.book.name = "" ∧ after.book.extent = ⟨0, 0⟩ ∧
          after.book.written = 0) ∧
    (∀ number operation (frame : Frame Input (Recorded σ)), frame.book.isOpen = false →
      Idle operation.WhenClosed frame (Input.perform ((devices number).recorded number) operation)) ∧
    ∀ number operation (frame : Frame Output (Recorded σ)), frame.book.isOpen = false →
      Idle operation.WhenClosed frame
        (Output.perform ((devices number).recorded number) operation) := by
  refine ⟨?_, ?_, ?_, ?_, ?_, ?_⟩
  · exact fun world steps number output => Household.released_of_bound devices
  · exact fun home number writer => Household.record_giveBack devices
  · intro number operation frame outcome after hcloses h
    rw [Input.closed_of_closing _ hcloses h]
    exact ⟨rfl, rfl, rfl, rfl⟩
  · intro number operation frame outcome after hcloses h
    rw [Output.closed_of_closing _ hcloses h]
    exact ⟨rfl, rfl, rfl, rfl⟩
  · exact fun number operation frame hclosed =>
      Input.perform_idle _ (Household.input_eq_closed hclosed) operation
  · exact fun number operation frame hclosed =>
      Output.perform_idle _ (Household.output_eq_closed hclosed) operation

/-- An input is copied to an output and closed twice; the output fails to flush when it is given up,
and is dropped, and another one is given up and answers its device.  A write that fails is followed
by a close, and a closed resource is asked for its size. -/
theorem released_once_and_closed_for_good_of_copy :
    (∃ home : Household Stream,
      home = Household.run (fun _ => Stream.device)
        { Stream.plain [1, 2, 3] 0 with flushPlan := [.fails (.plain .storageFull)] }
        [.attachInput "source", .attachOutput "target", .attachOutput "spare",
          .useInput 0 .unsetExtent, .copy 0 1 none, .useInput 0 .close, .giveBack 1, .giveBack 2,
          .useInput 0 .close] ∧
      Released false (home.world.record 0) ∧ Released true (home.world.record 1) ∧
      Released true (home.world.record 2) ∧ .called .close ∈ home.world.record 1 ∧
      .returned ∈ home.world.record 2) ∧
    (∃ home : Household Stream,
      home.resources[0]? = some (.output (.opened ⟨⟨"spare", ⟨0, 0⟩⟩, 0⟩)) ∧
      (home.giveBack (fun _ => Stream.device) 0).world.record 0 =
        [.returned, .called .flush, .bound true]) ∧
    (∃ outcome after,
      (Action.observe (Input.perform Stream.device (.readThenClose 4)) :
        Action Problem Input Stream (Except Problem Value))
          ⟨.opened ⟨⟨"data", ⟨0, 3⟩⟩, 3⟩, .plain [1, 2, 3] 0, []⟩ = .ok outcome after ∧
      after.book.isOpen = false ∧ after.book.name = "" ∧ after.book.extent = ⟨0, 0⟩ ∧
        after.book.openingSize = 0) ∧
    (∃ outcome after,
      (Action.observe (Output.perform Stream.device (.writeThenClose [7] 2)) :
        Action Problem Output Stream (Except Problem Value))
          ⟨.opened ⟨⟨"data", ⟨0, 3⟩⟩, 0⟩, .plain [1, 2, 3] 0, []⟩ = .ok outcome after ∧
      after.book.isOpen = false ∧ after.book.name = "" ∧ after.book.extent = ⟨0, 0⟩ ∧
        after.book.written = 0) ∧
    Idle (Input.Operation.WhenClosed .size) ⟨.closed, ⟨.plain [1] 0, fun _ => []⟩, []⟩
      (Input.perform (Stream.device.recorded 0) .size) ∧
    Idle (Output.Operation.WhenClosed .size) ⟨.closed, ⟨.plain [1] 0, fun _ => []⟩, []⟩
      (Output.perform (Stream.device.recorded 0) .size) := by
  obtain ⟨hreleased, hgiven, hinput, houtput, hidleInput, hidleOutput⟩ :=
    released_once_and_closed_for_good fun _ => Stream.device
  refine ⟨⟨_, rfl, ?_, ?_, ?_, ?_, ?_⟩, ?_, ?_, ?_, ?_, ?_⟩
  · exact hreleased _ _ 0 false (by decide +kernel)
  · exact hreleased _ _ 1 true (by decide +kernel)
  · exact hreleased _ _ 2 true (by decide +kernel)
  · decide +kernel
  · decide +kernel
  · let home : Household Stream :=
      ⟨[.output (.opened ⟨⟨"spare", ⟨0, 0⟩⟩, 0⟩)], ⟨.plain [] 0, fun _ => [.bound true]⟩, []⟩
    rcases hgiven home 0 ⟨⟨"spare", ⟨0, 0⟩⟩, 0⟩ rfl with ⟨_, _, hrecord⟩ | ⟨_, _, hfails, _⟩
    · exact ⟨home, rfl, hrecord⟩
    · cases hfails
  · obtain ⟨outcome, after, hread⟩ : ∃ outcome after,
        (Action.observe (Input.perform Stream.device (.readThenClose 4)) :
          Action Problem Input Stream (Except Problem Value))
            ⟨.opened ⟨⟨"data", ⟨0, 3⟩⟩, 3⟩, .plain [1, 2, 3] 0, []⟩ = .ok outcome after :=
      Action.exists_of_isAnswer (by decide +kernel)
    exact ⟨outcome, after, hread, hinput 0 (.readThenClose 4) _ _ _ rfl hread⟩
  · obtain ⟨outcome, after, hwrite⟩ : ∃ outcome after,
        (Action.observe (Output.perform Stream.device (.writeThenClose [7] 2)) :
          Action Problem Output Stream (Except Problem Value))
            ⟨.opened ⟨⟨"data", ⟨0, 3⟩⟩, 0⟩, .plain [1, 2, 3] 0, []⟩ = .ok outcome after :=
      Action.exists_of_isAnswer (by decide +kernel)
    exact ⟨outcome, after, hwrite, houtput 0 (.writeThenClose [7] 2) _ _ _ rfl hwrite⟩
  · exact hidleInput 0 .size _ rfl
  · exact hidleOutput 0 .size _ rfl

end FileWindow

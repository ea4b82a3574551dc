import FileWindow.Proofs.InputLedger
import FileWindow.Proofs.OutputLedger
import FileWindow.Stream

/-!
# The books of open resources

From the moment a device is bound, what an output or an input knows of itself is the sum of its
history, whatever the device does.

Main results:

- Theorem books_eq_fold_of_history: the books after any run are the fold of its history.
-/

namespace FileWindow

open FileWindow.Action (History)

variable {ρ σ : Type}

/-- The books after any run on a freshly bound resource are the fold of its history, whatever the
device does.  An output begins with the size that the device told, or with nothing, and with nothing
counted; an input begins with the size that the device told, and keeps its name and that size as long
as it is open. -/
theorem books_eq_fold_of_history (device : Device σ) (name : String) (frame : Frame ρ σ) :
    (∀ output bound operations outcomes after,
      Output.attach device name frame = .ok output bound →
      Output.run device operations ⟨output, bound.world, bound.journal⟩ = .ok outcomes after →
        ∃ deeds,
          History (Output.perform device) (Output.Operation.Did device) operations
            ⟨output, bound.world, bound.journal⟩ outcomes deeds after ∧
          after.book = deeds.foldl Output.settle
            (.opened ⟨⟨name, ⟨0, (device.measured frame.world).getD 0⟩⟩, 0⟩)) ∧
    ∀ input bound operations outcomes after,
      Input.attach device name frame = .ok input bound →
      Input.run device operations ⟨input, bound.world, bound.journal⟩ = .ok outcomes after →
        ∃ size deeds,
          device.measured frame.world = some size ∧
          History (Input.perform device) (Input.Operation.Did device) operations
            ⟨input, bound.world, bound.journal⟩ outcomes deeds after ∧
          after.book = deeds.foldl Input.settle (.opened ⟨⟨name, ⟨0, size⟩⟩, size⟩) ∧
          (after.book = .closed ∨
            ∃ extent, after.book = .opened ⟨⟨name, extent⟩, size⟩) := by
  constructor
  · intro output bound operations outcomes after hattach hrun
    have hworld : (fun _ => True) frame.world := trivial
    obtain ⟨rfl, -⟩ := (Output.attach_meets (.trivially _) name hworld).of_ok hattach
    exact History.of_run Output.Within Output.within_settle
      (fun operation _ _ _ => Output.settle_of_perform device operation) (Nat.zero_le _) hrun
  · intro input bound operations outcomes after hattach hrun
    have hworld : (fun _ => True) frame.world := trivial
    obtain ⟨size, hsize, rfl, -⟩ :=
      (Input.attach_meets (.trivially _) name hworld).of_ok hattach
    obtain ⟨deeds, hhistory, hbook⟩ := History.of_run (fun _ => True) (fun _ _ _ => trivial)
      (fun operation _ _ _ _ => Input.settle_of_perform device operation) trivial hrun
    refine ⟨size, deeds, hsize, hhistory, hbook, ?_⟩
    rw [hbook]
    exact Input.foldl_settle_opened deeds name _ size

/-- Bytes written over the end of a stream, a seek that the stream fails, and an extent set to the
rest; and a stream read through an extent until it is closed. -/
theorem books_eq_fold_of_history_of_three_bytes :
    (∃ outcomes after deeds,
      Output.run Stream.device [.write [7, 8] 2, .seek 9 .start, .seek 5 .start, .setExtent 1 .rest]
          ⟨.opened ⟨⟨"data", ⟨0, 3⟩⟩, 0⟩,
            { Stream.plain [1, 2, 3] 2 with seekPlan := [.fails (.plain .permissionDenied)] },
            [.opened "data" 3]⟩ =
        .ok outcomes after ∧
      History (Output.perform Stream.device) (Output.Operation.Did Stream.device)
        [.write [7, 8] 2, .seek 9 .start, .seek 5 .start, .setExtent 1 .rest]
        ⟨.opened ⟨⟨"data", ⟨0, 3⟩⟩, 0⟩,
          { Stream.plain [1, 2, 3] 2 with seekPlan := [.fails (.plain .permissionDenied)] },
          [.opened "data" 3]⟩ outcomes deeds after ∧
      after.book = deeds.foldl Output.settle (.opened ⟨⟨"data", ⟨0, 3⟩⟩, 0⟩)) ∧
    ∃ outcomes after deeds,
      Input.run Stream.device [.setExtent 1 (.bytes 1), .read 4 4, .close, .tell]
          ⟨.opened ⟨⟨"data", ⟨0, 3⟩⟩, 3⟩, .plain [1, 2, 3] 2, [.opened "data" 3]⟩ =
        .ok outcomes after ∧
      History (Input.perform Stream.device) (Input.Operation.Did Stream.device)
        [.setExtent 1 (.bytes 1), .read 4 4, .close, .tell]
        ⟨.opened ⟨⟨"data", ⟨0, 3⟩⟩, 3⟩, .plain [1, 2, 3] 2, [.opened "data" 3]⟩ outcomes deeds
        after ∧
      after.book = deeds.foldl Input.settle (.opened ⟨⟨"data", ⟨0, 3⟩⟩, 3⟩) := by
  constructor
  · obtain ⟨outcomes, after, hrun⟩ : ∃ outcomes after, Output.run Stream.device
        [.write [7, 8] 2, .seek 9 .start, .seek 5 .start, .setExtent 1 .rest]
        ⟨.opened ⟨⟨"data", ⟨0, 3⟩⟩, 0⟩,
          { Stream.plain [1, 2, 3] 2 with seekPlan := [.fails (.plain .permissionDenied)] },
          [.opened "data" 3]⟩ = .ok outcomes after :=
      Action.exists_of_isAnswer (by decide +kernel)
    obtain ⟨deeds, htold⟩ := (books_eq_fold_of_history Stream.device "data"
      ⟨(), { Stream.plain [1, 2, 3] 2 with
        seekPlan := [.asUsual, .asUsual, .asUsual, .fails (.plain .permissionDenied)] }, []⟩).1
      _ _ _ _ _ rfl hrun
    exact ⟨outcomes, after, deeds, hrun, htold⟩
  · obtain ⟨outcomes, after, hrun⟩ : ∃ outcomes after, Input.run Stream.device
        [.setExtent 1 (.bytes 1), .read 4 4, .close, .tell]
        ⟨.opened ⟨⟨"data", ⟨0, 3⟩⟩, 3⟩, .plain [1, 2, 3] 2, [.opened "data" 3]⟩ =
          .ok outcomes after :=
      Action.exists_of_isAnswer (by decide +kernel)
    obtain ⟨size, deeds, hsize, hhistory, hbook, -⟩ := (books_eq_fold_of_history Stream.device
      "data" ⟨(), .plain [1, 2, 3] 2, []⟩).2 _ _ _ _ _ rfl hrun
    obtain rfl : 3 = size := Option.some.inj hsize
    exact ⟨outcomes, after, deeds, hrun, hhistory, hbook⟩

end FileWindow

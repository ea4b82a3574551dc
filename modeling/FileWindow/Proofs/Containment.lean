import FileWindow.Proofs.OutputLedger
import FileWindow.Proofs.Reached
import FileWindow.Stream

/-!
# The count stays within the extent

The count of an output and the length of its extent are changed by several operations, some of which
change only one of them.  They never come apart: whatever the device does, and however operations
fail, the count of an output is within its extent.  So a seek from the end goes no further than the
end of the extent as it was, and overwriting can take back what it counted.  Where a device lands
elsewhere than it was sent to, the answer is where it landed.

Main definitions:

- Definition Output.SeeksEndWithin: where seeks from the end go and what they answer.
- Definition Output.TakesBack: what overwriting leaves of what its write has counted.
- Definition Output.Contained: an output whose count is within its extent, with what follows.

Main results:

- Theorem Window.exists_of_seek: what led to the answer of a seek.
- Theorem Output.Reached.within: the count is within the extent in every frame that is reached.
- Theorem Output.count_within_extent: so both follow from it wherever operations lead.
- Theorem Output.seek_end_lands_beyond: a device may land beyond the end all the same.
-/

namespace FileWindow

variable {ρ σ : Type} {device : Device σ}

/-! ## What led to an answer -/

/-- A seek that answers was let through, and it answers the position of the place where the device
landed. -/
theorem Window.exists_of_seek {window : Window} {distance : Int} {whence : Whence}
    {limit : Option Nat} {frame after : Frame ρ σ} {position : Nat}
    (h : window.seek device distance whence limit frame = .ok position after) :
    ∃ cursor asked raw, window.cursorFor device distance whence frame = .ok cursor asked ∧
      window.extent.destination distance whence cursor limit = .ok raw ∧
      device.seek (.start raw) asked.world = .ok (window.extent.offset + position) after.world ∧
      after.book = asked.book := by
  rw [seek_eq] at h
  obtain ⟨cursor, asked, hcursor, haccepts⟩ := Action.exists_of_bind h
  obtain ⟨raw, accepted, haccept, hmoves⟩ := Action.exists_of_bind haccepts
  obtain ⟨hdestination, rfl⟩ := Action.eq_of_accept haccept
  obtain ⟨landed, moved, hmove, htells⟩ := Action.exists_of_bind hmoves
  obtain ⟨world, hseek, rfl⟩ := Action.exists_of_call hmove
  obtain ⟨hlogical, rfl⟩ := Action.eq_of_accept htells
  rw [Extent.logical_eq_ok_iff.mp hlogical] at hseek
  exact ⟨cursor, accepted, raw, hcursor, hdestination, hseek, rfl⟩

namespace Output

variable {frame after : Frame Output σ}

/-- What answers as an open output did so with the books of one. -/
theorem exists_of_writer {α : Type} {operation : OpenOperation}
    {next : Writer → Action FileError Output σ α} {answer : α}
    (h : (Output.writer operation >>= next) frame = .ok answer after) :
    ∃ writer, frame.book = .opened writer ∧ next writer frame = .ok answer after := by
  cases hbook : frame.book with
  | closed =>
    rcases frame with ⟨book, world, journal⟩
    obtain rfl : book = .closed := hbook
    cases h
  | opened writer =>
    rw [writer_bind_of_opened _ hbook] at h
    exact ⟨writer, rfl, h⟩

/-- An output that answers a seek keeps the books that the seek calls for. -/
theorem exists_of_seek {distance : Int} {whence : Whence} {position : Nat}
    (h : seek device distance whence frame = .ok position after) :
    ∃ writer between, frame.book = .opened writer ∧
      (writer.aim distance whence).window.seek device distance whence none frame =
        .ok position between ∧
      after = { between with book := .opened (writer.aim distance whence) } := by
  obtain ⟨writer, hbook, hopened⟩ := exists_of_writer h
  obtain ⟨value, between, hseek, hkeeps⟩ := Action.exists_of_bind hopened
  cases hkeeps
  exact ⟨writer, between, hbook, hseek, rfl⟩

/-! ## What follows from the count -/

/-- A seek from the end that answers was sent no further than the end of the extent as it was, and
answers where the device landed: within that extent, if it landed where it was sent. -/
def SeeksEndWithin (device : Device σ) (frame : Frame Output σ) : Prop :=
  ∀ distance position after, seek device distance .finish frame = .ok position after →
    ∃ raw landed, device.seek (.start raw) frame.world = .ok landed after.world ∧
      raw ≤ frame.book.extent.offset + frame.book.extent.length ∧
      landed = frame.book.extent.offset + position ∧
      (landed = raw → position ≤ frame.book.extent.length)

/-- Overwriting that answers takes its bytes off the count that its write had come to, which holds
as many at least, and puts the length of the extent back: the books are what they were. -/
def TakesBack (device : Device σ) (frame : Frame Output σ) : Prop :=
  ∀ buffer length after, overwrite device buffer length frame = .ok () after →
    ∃ between, write device buffer length frame = .ok () between ∧
      length ≤ between.book.written ∧
      after.book.written = between.book.written - length ∧
      after.book.extent = { between.book.extent with length := frame.book.extent.length } ∧
      after.book = frame.book

/-- The count is within the extent, and so are the places where seeks from the end are sent to;
overwriting leaves both as they were. -/
structure Contained (device : Device σ) (frame : Frame Output σ) : Prop where
  within : frame.book.written ≤ frame.book.extent.length
  seeksEnd : SeeksEndWithin device frame
  takesBack : TakesBack device frame

/-- The count is within the extent, whether or not the output is open. -/
theorem Within.le {output : Output} (h : output.Within) :
    output.written ≤ output.extent.length := by
  cases output with
  | closed => exact Nat.le_refl 0
  | opened writer => exact h

/-- From within the extent a seek from the end stays within it. -/
theorem Within.seeksEnd (h : frame.book.Within) : SeeksEndWithin device frame := by
  intro distance position after hseek
  obtain ⟨writer, between, hbook, hsought, rfl⟩ := exists_of_seek hseek
  rw [hbook] at h ⊢
  obtain ⟨cursor, asked, raw, hcursor, hdestination, hmove, -⟩ := Window.exists_of_seek hsought
  -- The raw cursor is not asked for: it does not count for a seek from the end.
  cases hcursor
  obtain ⟨-, hback, -, hraw, -, -⟩ := Extent.destination_eq_ok_iff.mp hdestination
  have hdistance := hback rfl
  simp only [Writer.aim, Writer.withLength, Extent.goal] at hraw hmove
  have hwithin : writer.written ≤ writer.window.extent.length := h
  refine ⟨raw, writer.window.extent.offset + position, hmove, ?_, rfl, fun hlanded => ?_⟩
  · show raw ≤ writer.window.extent.offset + writer.window.extent.length
    omega
  · show position ≤ writer.window.extent.length
    omega

/-- A write that answers has counted its bytes. -/
theorem written_of_write {buffer : Bytes} {length : Nat}
    (h : write device buffer length frame = .ok () after) :
    after.book.written = frame.book.written + length ∧
      after.book.extent.offset = frame.book.extent.offset := by
  obtain ⟨writer, hbook, -⟩ := exists_of_writer h
  have hafter := (write_meets device.keeps_trivially buffer length ⟨hbook, trivial⟩).of_ok h
  rw [hafter.1, hbook]
  rcases Nat.eq_zero_or_pos length with rfl | hlength
  · exact ⟨rfl, rfl⟩
  · rw [writer.counting_of_pos hlength]
    exact ⟨rfl, rfl⟩

/-- What overwriting takes back is what its write has counted. -/
theorem takesBack (device : Device σ) (frame : Frame Output σ) : TakesBack device frame := by
  intro buffer length after h
  rw [overwrite, Action.book_bind] at h
  split at h
  · cases h
  obtain ⟨_, between, hwrite, hkeeps⟩ := Action.exists_of_bind h
  cases hkeeps
  obtain ⟨hwritten, hoffset⟩ := written_of_write hwrite
  refine ⟨between, hwrite, by omega, ?_, ?_, rfl⟩
  · show frame.book.written = between.book.written - length
    omega
  · show frame.book.extent = ⟨between.book.extent.offset, frame.book.extent.length⟩
    rw [hoffset]

/-! ## Every frame that is reached -/

/-- An output begins with its count within its extent. -/
theorem Starts.within {sort : σ → Prop} (h : Starts device sort frame) : frame.book.Within := by
  rcases h with ⟨hbook, -⟩ | ⟨name, before, after, -, hattach, -⟩
  · rw [hbook]
    trivial
  · have hworld : (fun _ => True) before.world := trivial
    obtain ⟨hbook, -⟩ := (attach_meets (.trivially _) name hworld).of_ok hattach
    rw [hbook]
    exact Nat.zero_le _

/-- The count is within the extent in every frame that an output comes to. -/
theorem Reached.within {allowed : Operation → Prop} {sort : σ → Prop}
    (h : Reached device allowed sort frame) : frame.book.Within := by
  apply Action.Reached.holds h (fun _ hstarts => hstarts.within) _ fun _ _ hwithin _ => hwithin
  intro operation _ frame outcome after hwithin hstep
  obtain ⟨deeds, -, hbook⟩ := settle_of_perform device operation hwithin hstep
  rw [hbook]
  exact List.foldlRecOn deeds settle hwithin fun book h deed _ => within_settle book deed h

/-- Whatever its device does, and whatever becomes of its operations, the count of an output is
within its extent.  So seeks from the end are sent no further than the end of the extent as it was,
and overwriting takes back what its write has counted. -/
theorem count_within_extent (device : Device σ) {frame : Frame Output σ}
    (h : Reached device (fun _ => True) (fun _ => True) frame) : Contained device frame where
  within := (Reached.within h).le
  seeksEnd := (Reached.within h).seeksEnd
  takesBack := takesBack device frame

/-- Two bytes are counted, a seek to the third position fails, and a byte is written over. -/
theorem count_within_extent_of_three_bytes :
    ∃ before after : Frame Output Stream,
      before = ⟨.opened ⟨⟨"out", ⟨0, 3⟩⟩, 0⟩,
        { Stream.plain [1, 2, 3] 0 with seekPlan := [.fails (.plain .permissionDenied)] }, []⟩ ∧
      run Stream.device [.write [7, 8] 2, .seek 3 .start, .overwrite [9] 1] before =
        .ok [.ok .nothing, .error (.error (.broken "out" .seek (Errno.nearest .permissionDenied))),
          .ok .nothing] after ∧
      after.book = .opened ⟨⟨"out", ⟨0, 3⟩⟩, 2⟩ ∧
      Contained Stream.device after := by
  obtain ⟨before, hbefore⟩ : ∃ before : Frame Output Stream,
      before = ⟨.opened ⟨⟨"out", ⟨0, 3⟩⟩, 0⟩,
        { Stream.plain [1, 2, 3] 0 with seekPlan := [.fails (.plain .permissionDenied)] }, []⟩ :=
    ⟨_, rfl⟩
  have hrun : run Stream.device [.write [7, 8] 2, .seek 3 .start, .overwrite [9] 1] before =
      .ok [.ok .nothing, .error (.error (.broken "out" .seek (Errno.nearest .permissionDenied))),
          .ok .nothing]
        ⟨.opened ⟨⟨"out", ⟨0, 3⟩⟩, 2⟩, .plain [7, 8, 9] 3,
          [.didWrite "out" 1 3, .didWrite "out" 2 2]⟩ := by
    rw [hbefore]
    rfl
  have hstarts : Starts Stream.device (fun _ => True) before := by
    rw [hbefore]
    exact .inr ⟨"out", ⟨(), { Stream.plain [1, 2, 3] 0 with
      seekPlan := [.asUsual, .asUsual, .asUsual, .fails (.plain .permissionDenied)] }, []⟩, _,
      trivial, rfl, rfl⟩
  have hreached : Reached Stream.device (fun _ => True) (fun _ => True) before := .started hstarts
  exact ⟨before, _, hbefore, hrun, rfl,
    count_within_extent Stream.device (hreached.runAll (fun _ _ => trivial) hrun)⟩

/-- Three bytes, and a device that lands at the hundredth position wherever it is sent to: that is
the answer to a seek from the end, though the extent ended at the third. -/
theorem seek_end_lands_beyond :
    attach Stream.device "out"
        ⟨(), { Stream.plain [1, 2, 3] 0 with
          seekPlan := [.asUsual, .asUsual, .asUsual, .number 100] }, []⟩ =
      .ok (.opened ⟨⟨"out", ⟨0, 3⟩⟩, 0⟩)
        ⟨(), { Stream.plain [1, 2, 3] 0 with seekPlan := [.number 100] }, [.opened "out" 3]⟩ ∧
    seek Stream.device 0 .finish
        ⟨.opened ⟨⟨"out", ⟨0, 3⟩⟩, 0⟩,
          { Stream.plain [1, 2, 3] 0 with seekPlan := [.number 100] }, [.opened "out" 3]⟩ =
      .ok 100
        ⟨.opened ⟨⟨"out", ⟨0, 0⟩⟩, 0⟩, .plain [1, 2, 3] 100,
          [.sought "out" 0 .finish 100, .opened "out" 3]⟩ ∧
    (Output.opened ⟨⟨"out", ⟨0, 3⟩⟩, 0⟩).extent.length < 100 :=
  ⟨rfl, rfl, by decide⟩

end Output

end FileWindow

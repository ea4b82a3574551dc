import FileWindow.Proofs.Containment
import FileWindow.Proofs.Words

/-!
# Outputs within words

Whatever a device tells in words, the operations of an output leave its extent and its count words
and answer nothing but words, as long as they do not halt.  A write adds its length to the count
without a check, and where the sum is no word it halts.  No other operation does so, but for those
that write.

Main definitions:

- Definition Output.Fits: an output that is made of words.
- Definition Output.Operation.Fits: operations that ask for nothing but words.
- Definition Output.Operation.amount: the most that an operation counts.

Main results:

- Theorem Output.isOverflow_write_iff: the writes that leave the range.
- Theorem Output.drain_inWords: writes that are made again until all bytes are taken.
- Theorem Output.perform_inWords: an operation on an output stays within words, but for its count.
-/

namespace FileWindow

variable {σ : Type} {device : Device σ} {holds : σ → Prop} {overflows : Prop}

open FileWindow.Action (Fitting InWords isOverflow)

namespace Output

/-- What the output knows of itself is made of words. -/
def Fits : Output → Prop
  | .closed => True
  | .opened writer => writer.window.extent.Fits ∧ writer.written < positionLimit

/-- What is asked for is made of words. -/
def Operation.Fits : Operation → Prop
  | .setExtent offset length => offset < positionLimit ∧ length.Fits
  | .closeAfter (.ok number) => number < positionLimit
  | _ => True

/-- The most that an operation counts. -/
def Operation.amount : Operation → Nat
  | .write _ length | .overwrite _ length | .writeThenClose _ length => length
  | .streamWrite bytes => min bytes.length maxTransfer
  | .streamWriteAll bytes => bytes.length
  | _ => 0

/-- The count of an output made of words is one. -/
theorem Fits.written_lt {output : Output} (h : output.Fits) : output.written < positionLimit := by
  cases output with
  | closed => exact positionLimit_pos
  | opened writer => exact h.2

/-- The books for a seek of a plausible distance are made of words. -/
theorem Fits.aim {writer : Writer} (h : (opened writer).Fits) {distance : Int}
    (hdistance : distance.natAbs ≤ maxTransfer) (whence : Whence) :
    (opened (writer.aim distance whence)).Fits := by
  have hlimit := maxTransfer_lt_positionLimit
  have hwritten : writer.written < positionLimit := h.2
  cases whence with
  | current => exact h
  | finish => exact ⟨⟨h.1.offset, hwritten⟩, hwritten⟩
  | start =>
    have hcount : max writer.written distance.toNat < positionLimit := by omega
    exact ⟨⟨h.1.offset, hcount⟩, hcount⟩

/-- The books after a write are made of words if the count is one. -/
theorem Fits.count {writer : Writer} (h : (opened writer).Fits) {length : Nat}
    (hlength : writer.written + length < positionLimit) :
    (opened (writer.count length)).Fits := by
  have hextent := h.1.length
  exact ⟨⟨h.1.offset, Nat.max_lt.mpr ⟨hextent, hlength⟩⟩, hlength⟩

variable {frame after : Frame Output σ}

/-- An operation that asks for an open output stays within words if it does so with one. -/
theorem writer_inWords {α : Type} {told : α → Prop} (operation : OpenOperation)
    {next : Writer → Action FileError Output σ α} (hframe : Fitting Fits holds frame)
    (hnext : ∀ writer, frame.book = .opened writer → (opened writer).Fits →
      InWords told (Fitting Fits holds) overflows (next writer frame)) :
    InWords told (Fitting Fits holds) overflows ((writer operation >>= next) frame) := by
  cases hbook : frame.book with
  | closed =>
    rcases frame with ⟨book, world, journal⟩
    obtain rfl : book = .closed := hbook
    exact hframe
  | opened writer =>
    rw [writer_bind_of_opened _ hbook]
    exact hnext writer hbook (hbook ▸ hframe.1)

theorem seek_inWords (hdevice : device.TellsWords holds) (distance : Int) (whence : Whence)
    (hframe : Fitting Fits holds frame) :
    InWords (· < positionLimit) (Fitting Fits holds) overflows
      (seek device distance whence frame) :=
  writer_inWords _ hframe fun writer _ hwriter =>
    (Window.seek_inWords hdevice (writer.aim distance whence).window distance whence none
      hframe).bind fun _ _ _ htold hafter => ⟨htold.1, hwriter.aim htold.2 whence, hafter.2⟩

theorem tell_inWords (hdevice : device.TellsWords holds) (hframe : Fitting Fits holds frame) :
    InWords (· < positionLimit) (Fitting Fits holds) overflows (tell device frame) :=
  writer_inWords _ hframe fun writer _ _ => Window.tell_inWords hdevice writer.window hframe

theorem size_inWords (hdevice : device.TellsWords holds) (hframe : Fitting Fits holds frame) :
    InWords (· < positionLimit) (Fitting Fits holds) overflows (size device frame) := by
  rcases frame with ⟨book, world, journal⟩
  cases book with
  | closed => exact ⟨positionLimit_pos, hframe⟩
  | opened writer =>
    have hwritten : writer.written < positionLimit := hframe.1.2
    rw [size, Action.book_bind]
    dsimp only
    split
    · exact ⟨hwritten, hframe⟩
    · refine (Window.rawSize_inWords hdevice writer.window hframe).bind
        fun measured _ _ hmeasured hafter => ⟨?_, hafter⟩
      cases measured with
      | none => exact hwritten
      | some size => exact hmeasured size rfl

theorem setExtent_inWords (hdevice : device.TellsWords holds) {offset : Nat}
    {length : ExtentLength} (hoffset : offset < positionLimit) (hlength : length.Fits)
    (hframe : Fitting Fits holds frame) :
    InWords (fun _ => True) (Fitting Fits holds) overflows
      (setExtent device offset length frame) :=
  writer_inWords _ hframe fun writer _ _ =>
    (Window.narrow_inWords hdevice writer.window hoffset hlength hframe).bind
      fun _ _ _ hwindow hafter =>
        ⟨trivial, ⟨hwindow, Nat.zero_lt_of_lt hoffset⟩, hafter.2⟩

/-- The extent that is unset counts what the device tells for its end. -/
theorem unsetExtent_inWords (hdevice : device.TellsWords holds)
    (hframe : Fitting Fits holds frame) :
    InWords (· < positionLimit) (Fitting Fits holds) overflows (unsetExtent device frame) :=
  writer_inWords _ hframe fun writer _ _ =>
    (Window.widen_inWords hdevice writer.window hframe).bind
      fun _ _ _ hwindow hafter => ⟨hwindow.length, ⟨hwindow, hwindow.length⟩, hafter.2⟩

/-- A write stays within words but for the count, which it leaves the range with where the sum is
no word. -/
theorem write_inWords (hdevice : device.TellsWords holds) (buffer : Bytes) (length : Nat)
    (hframe : Fitting Fits holds frame) :
    InWords (fun _ => True) (Fitting Fits holds) (positionLimit ≤ frame.book.written + length)
      (write device buffer length frame) := by
  refine writer_inWords _ hframe fun writer hbook hwriter => ?_
  split
  · exact ⟨trivial, hframe⟩
  split
  · exact hframe
  have hwrite : InWords (fun _ => True) (Fitting Fits holds)
      (positionLimit ≤ frame.book.written + length)
      (writer.window.write device (buffer.take length) frame) :=
    .call (hdevice.write _) _ _ (fun _ _ _ => trivial) hframe
  refine hwrite.bind fun _ between _ _ hbetween => ?_
  by_cases hcount : writer.written + length < positionLimit
  · rw [if_pos hcount]
    exact ⟨trivial, hwriter.count hcount, hbetween.2⟩
  · rw [if_neg hcount, hbook]
    exact Nat.not_lt.mp hcount

/-- A write leaves the range iff the device takes its bytes and the sum is no word. -/
theorem isOverflow_write_iff {buffer : Bytes} {length : Nat} :
    isOverflow (write device buffer length frame) = true ↔
      ∃ writer world, frame.book = .opened writer ∧ 0 < length ∧ length ≤ maxTransfer ∧
        length ≤ buffer.length ∧ device.write (buffer.take length) frame.world = .ok () world ∧
        positionLimit ≤ writer.written + length := by
  rcases frame with ⟨book, world, journal⟩
  cases book with
  | closed =>
    constructor
    · intro h
      cases h
    · rintro ⟨writer, -, hbook, -⟩
      cases hbook
  | opened writer =>
    rw [write_opened]
    by_cases hnone : length = 0
    · rw [if_pos hnone]
      constructor
      · intro h
        cases h
      · rintro ⟨-, -, -, hpos, -⟩
        omega
    rw [if_neg hnone]
    by_cases hrefused : (!validLength length || decide (length > buffer.length)) = true
    · rw [if_pos hrefused]
      constructor
      · intro h
        cases h
      · rintro ⟨-, -, -, -, hvalid, hroom, -⟩
        exact absurd ⟨hvalid, hroom⟩ (lengthRefused_iff.mp hrefused)
    rw [if_neg hrefused]
    have haccepted := Decidable.not_not.mp (mt lengthRefused_iff.mpr hrefused)
    cases hwrite : device.write (buffer.take length) world with
    | error fault between =>
      constructor
      · intro h
        cases h
      · rintro ⟨_, _, _, _, _, _, htaken, _⟩
        cases htaken
    | ok value between =>
      dsimp only
      by_cases hcount : writer.written + length < positionLimit
      · rw [if_pos hcount]
        constructor
        · intro h
          cases h
        · rintro ⟨writer', -, hbook, -, -, -, -, hsum⟩
          cases hbook
          omega
      · rw [if_neg hcount]
        exact iff_of_true rfl ⟨writer, between, rfl, Nat.pos_of_ne_zero hnone, haccepted.1,
          haccepted.2, rfl, Nat.not_lt.mp hcount⟩

/-- A write that fails leaves the books alone. -/
theorem book_of_write_failed {buffer : Bytes} {length : Nat} {error : FileError}
    (h : write device buffer length frame = .error (.failed error) after) :
    after.book = frame.book := by
  cases hbook : frame.book with
  | closed =>
    rcases frame with ⟨book, world, journal⟩
    obtain rfl : book = .closed := hbook
    cases h
    rfl
  | opened writer =>
    have hmeets := write_meets device.keeps_trivially buffer length ⟨hbook, trivial⟩
    rw [h] at hmeets
    exact hmeets.1

/-- What the adapter writes is counted where it is accepted, and nothing is where it fails. -/
theorem written_of_sink (device : Device σ) (bytes : Bytes) (frame : Frame Output σ) :
    (∀ accepted after, Adapter.write device bytes frame = .ok accepted after →
      accepted = min bytes.length maxTransfer ∧
        after.book.written = frame.book.written + accepted) ∧
      ∀ fault after, Adapter.write device bytes frame = .error (.failed fault) after →
        after.book = frame.book := by
  simp only [Adapter.write, Adapter.passing, Action.mapError, Bind.bind, EStateM.bind]
  cases hwrite : write device bytes (min bytes.length maxTransfer) frame with
  | ok value between =>
    refine ⟨fun accepted after h => ?_, fun fault after h => by cases h⟩
    cases h
    exact ⟨rfl, (written_of_write hwrite).1⟩
  | error stop between =>
    refine ⟨fun accepted after h => (by cases h), fun fault after h => ?_⟩
    cases stop with
    | failed error =>
      cases h
      exact book_of_write_failed hwrite
    | overflow | stalled => cases h

theorem sink_inWords (hdevice : device.TellsWords holds) (bytes : Bytes)
    (hframe : Fitting Fits holds frame) :
    InWords (· < positionLimit) (Fitting Fits holds)
      (positionLimit ≤ frame.book.written + min bytes.length maxTransfer)
      (Adapter.write device bytes frame) := by
  have hlimit := maxTransfer_lt_positionLimit
  exact (write_inWords hdevice bytes _ hframe).mapError.bind fun _ _ _ _ hafter =>
    ⟨by omega, hafter⟩

/-- Writing all of some bytes leaves the range only where their sum with the count is no word. -/
theorem drain_inWords (hdevice : device.TellsWords holds) (rounds : Nat) (bytes : Bytes)
    (hframe : Fitting Fits holds frame) :
    InWords (fun _ => True) (Fitting Fits holds)
      (positionLimit ≤ frame.book.written + bytes.length)
      (Transfer.drain (Adapter.write device) rounds bytes frame) := by
  induction rounds generalizing bytes frame with
  | zero =>
    cases bytes with
    | nil => exact ⟨trivial, hframe⟩
    | cons => trivial
  | succ rounds ih =>
    cases bytes with
    | nil => exact ⟨trivial, hframe⟩
    | cons byte rest =>
      have hsink := sink_inWords hdevice (byte :: rest) hframe
      obtain ⟨haccepts, hfails⟩ := written_of_sink device (byte :: rest) frame
      cases hresult : Adapter.write device (byte :: rest) frame with
      | ok accepted between =>
        rw [hresult] at hsink
        obtain ⟨haccepted, hwritten⟩ := haccepts accepted between hresult
        simp only [Transfer.drain, Bind.bind, EStateM.bind, Action.observe_of_ok hresult]
        cases accepted with
        | zero => exact hsink.2
        | succ more =>
          -- What was accepted is counted now: with what is left it comes to the same sum.
          have hlength := List.length_drop (i := more + 1) (l := byte :: rest)
          refine (ih ((byte :: rest).drop (more + 1)) hsink.2).imp (fun _ h => h) fun h => ?_
          omega
      | error stop between =>
        rw [hresult] at hsink
        cases stop with
        | failed fault =>
          simp only [Transfer.drain, Bind.bind, EStateM.bind, Action.observe_of_failed hresult]
          by_cases hfault : fault.isInterruption = true
          · -- An interrupted write has counted nothing, and is made again from the same count.
            simp only [hfault, if_true]
            rw [← hfails fault between hresult]
            exact ih (byte :: rest) hsink
          · simp only [hfault, Bool.false_eq_true, if_false]
            exact hsink
        | overflow =>
          simp only [Transfer.drain, Bind.bind, EStateM.bind, Action.observe, hresult]
          exact Nat.le_trans hsink (Nat.add_le_add_left (Nat.min_le_left _ _) _)
        | stalled =>
          simp only [Transfer.drain, Bind.bind, EStateM.bind, Action.observe, hresult]
          trivial

theorem flush_inWords (hdevice : device.TellsWords holds) (hframe : Fitting Fits holds frame) :
    InWords (fun _ => True) (Fitting Fits holds) overflows (flush device frame) := by
  rcases frame with ⟨book, world, journal⟩
  cases book with
  | closed => exact ⟨trivial, hframe⟩
  | opened writer => exact InWords.call hdevice.flush _ _ (fun _ _ _ => trivial) hframe

theorem close_inWords (hdevice : device.TellsWords holds) (hframe : Fitting Fits holds frame) :
    InWords (fun _ => True) (Fitting Fits holds) overflows (close device frame) := by
  rcases frame with ⟨book, world, journal⟩
  cases book with
  | closed => exact ⟨trivial, hframe⟩
  | opened writer =>
    have hflush : InWords (fun _ => True) (Fitting Fits holds) overflows
        (writer.window.flush device ⟨.opened writer, world, journal⟩) :=
      .call hdevice.flush _ _ (fun _ _ _ => trivial) hframe
    rw [close, Action.book_bind]
    refine hflush.observe.bind fun flushed between _ _ hbetween => ?_
    rw [Action.setBook_bind]
    have hclosed : Fitting Fits holds
        (⟨.closed, between.world, .closing writer.window.name :: between.journal⟩ :
          Frame Output σ) := ⟨trivial, hbetween.2⟩
    have hrelease : InWords (fun _ => True) (Fitting Fits holds) overflows
        (writer.window.release device { between with book := .closed }) :=
      InWords.call hdevice.close writer.window.name .close (fun _ _ _ => trivial) hclosed
    refine hrelease.observe.bind fun released last _ _ hlast => ?_
    exact (InWords.ofExcept (fun _ _ => trivial) hlast).bind fun _ _ _ _ hafter =>
      .ofExcept (fun _ _ => trivial) hafter

/-- An operation on an output stays within words, but for its count. -/
theorem perform_inWords (hdevice : device.TellsWords holds) {operation : Operation}
    (hfits : operation.Fits) (hframe : Fitting Fits holds frame) :
    InWords Value.Fits (Fitting Fits holds)
      (positionLimit ≤ frame.book.written + operation.amount)
      (perform device operation frame) := by
  have htarget : ∀ target, InWords (· < positionLimit) (Fitting Fits holds)
      (positionLimit ≤ frame.book.written + 0) (Adapter.seek (seek device) target frame) :=
    Adapter.seek_inWords (fun distance whence => seek_inWords hdevice distance whence hframe) hframe
  cases operation with
  | seek distance whence => exact (seek_inWords hdevice distance whence hframe).native
  | tell => exact (tell_inWords hdevice hframe).native
  | size => exact (size_inWords hdevice hframe).native
  | setExtent offset length =>
    exact (setExtent_inWords hdevice hfits.1 hfits.2 hframe).native
  | unsetExtent => exact (unsetExtent_inWords hdevice hframe).native
  | write buffer length => exact (write_inWords hdevice buffer length hframe).native
  | overwrite buffer length =>
    refine InWords.native ?_
    rw [overwrite, Action.book_bind]
    split
    · exact hframe
    · exact (write_inWords hdevice buffer length hframe).bind fun _ _ _ _ hafter =>
        ⟨trivial, hframe.1, hafter.2⟩
  | writeThenClose buffer length =>
    refine InWords.native ((write_inWords hdevice buffer length hframe).observe.bind ?_)
    intro outcome after _ _ hafter
    exact Teardown.closeAfter_inWords (fun _ _ h => h) (close_inWords hdevice hafter)
      fun _ _ => trivial
  | flush => exact (flush_inWords hdevice hframe).native
  | close => exact (close_inWords hdevice hframe).native
  | closeAfter result =>
    refine InWords.native
      (Teardown.closeAfter_inWords (fun _ _ h => h) (close_inWords hdevice hframe) ?_)
    rintro number rfl
    exact hfits
  | streamSeek target => exact (htarget target).foreign
  | streamPosition => exact (htarget (.current 0)).foreign
  | streamRewind =>
    exact InWords.foreign ((htarget (.start 0)).bind fun _ _ _ _ hafter => ⟨trivial, hafter⟩)
  | streamWrite bytes => exact (sink_inWords hdevice bytes hframe).foreign
  | streamWriteAll bytes => exact (drain_inWords hdevice _ bytes hframe).foreign
  | streamFlush => exact (flush_inWords hdevice hframe).mapError.foreign

end Output

end FileWindow

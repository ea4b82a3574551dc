import FileWindow.Input.Operation
import FileWindow.Output.Operation
import FileWindow.Proofs.Ending
import FileWindow.Proofs.Seek

/-!
# Operations that come to an end

Every operation on an input answers or fails, and every operation on an output does so or leaves
the range of its counter.  Only the operations through the adapter loop.  For those the device has
to keep a pace: each interruption that it answers with is one less to come, and so is each read
that brings bytes of the extent.

Main definitions:

- Definition Device.Paced: a device that keeps a pace while an extent of it is read.
- Definition Device.Steady: a device whose pace the loops over an extent allow for.

Main results:

- Theorem Input.read_opened: what a read of an open input comes to.
- Theorem Input.perform_ended: every operation on an input ends.
- Theorem Output.perform_ended: every operation on an output ends.
-/

namespace FileWindow

variable {ρ σ : Type} {overflows : Prop}

open FileWindow.Action (Ended)

/-! ## Devices -/

/-- A device that keeps a pace while an extent of it is read: ready for so many interruptions and
so many answers, it is ready for one less after each of them. -/
structure Device.Paced (device : Device σ) (extent : Extent) (Ready : Nat → Nat → σ → Prop) :
    Prop where
  /-- Asking for the cursor may be interrupted. -/
  interrupted : ∀ {interruptions answers world fault after},
    Ready interruptions answers world → device.position world = .error fault after →
      fault.isInterruption = true → ∃ left, interruptions = left + 1 ∧ Ready left answers after
  /-- A read within the extent may bring bytes. -/
  answered : ∀ {interruptions answers world raw between wanted bytes after},
    Ready interruptions answers world → device.position world = .ok raw between →
      extent.offset ≤ raw → 0 < wanted → wanted ≤ extent.length - (raw - extent.offset) →
        device.readPatiently wanted between = .ok bytes after → bytes ≠ [] →
          ∃ left, answers = left + 1 ∧ Ready interruptions left after
  /-- A read is not interrupted in the end. -/
  calm : ∀ {wanted world fault after},
    device.readPatiently wanted world = .error fault after → fault.isInterruption = false

/-- Read from a world on, the device keeps a pace for which the rounds of every loop over the
extent are enough. -/
def Device.Steady (device : Device σ) (extent : Extent) (world : σ) : Prop :=
  ∃ Ready, device.Paced extent Ready ∧
    Ready (device.patience world) (extent.length + device.patience world) world

/-! ## Windows -/

namespace Window

/-- The position within the extent is that of the raw cursor. -/
theorem tell_apply (device : Device σ) (window : Window) (frame : Frame ρ σ) :
    window.tell device frame =
      match device.position frame.world with
      | .ok raw world => window.logical raw { frame with world }
      | .error fault world =>
        .error (.failed (.ofFault window.name .tell fault)) { frame with world } := by
  simp only [tell, Bind.bind, EStateM.bind]
  cases hposition : device.position frame.world with
  | ok raw world => rw [Action.call_of_ok _ _ hposition]
  | error fault world => rw [Action.call_of_error _ _ hposition]

/-- A raw position in or behind the extent has a logical one. -/
theorem logical_of_le {window : Window} {raw : Nat} (h : window.extent.offset ≤ raw) :
    (window.logical raw : Action FileError ρ σ Nat) = pure (raw - window.extent.offset) := by
  simp [logical, Extent.logical, h]

/-- A raw position before the extent is refused. -/
theorem logical_of_lt {window : Window} {raw : Nat} (h : raw < window.extent.offset) :
    (window.logical raw : Action FileError ρ σ Nat) =
      Action.refuse window.name .positionBeforeExtent := by
  simp [logical, Extent.logical, Nat.not_le.mpr h]

theorem tell_ended (device : Device σ) (window : Window) (frame : Frame ρ σ) :
    Ended overflows (window.tell device frame) :=
  Ended.bind (.call _ _ _ _) fun _ _ _ => .accept _ _ _

theorem seek_ended (device : Device σ) (window : Window) (distance : Int) (whence : Whence)
    (limit : Option Nat) (frame : Frame ρ σ) :
    Ended overflows (window.seek device distance whence limit frame) := by
  rw [seek_eq]
  have hcursor : Ended overflows (window.cursorFor device distance whence frame) := by
    unfold cursorFor
    split
    · exact .call _ _ _ _
    · trivial
  refine hcursor.bind fun _ _ _ => Ended.bind (.accept _ _ _) fun _ _ _ => ?_
  exact Ended.bind (.call _ _ _ _) fun _ _ _ => .accept _ _ _

theorem narrow_ended (device : Device σ) (window : Window) (offset : Nat) (length : ExtentLength)
    (frame : Frame ρ σ) : Ended overflows (window.narrow device offset length frame) := by
  refine Ended.bind ?_ fun _ _ _ => trivial
  cases length with
  | bytes length => trivial
  | rest =>
    refine Ended.bind (Ended.bind (.call _ _ _ _) fun size _ _ => ?_) fun _ _ _ => .accept _ _ _
    cases size <;> trivial

theorem widen_ended (device : Device σ) (window : Window) (frame : Frame ρ σ) :
    Ended overflows (window.widen device frame) :=
  Ended.bind (.call _ _ _ _) fun _ _ _ => trivial

theorem release_ended (device : Device σ) (window : Window) (frame : Frame ρ σ) :
    Ended overflows (window.release device frame) :=
  .call _ _ _ _

end Window

/-! ## Inputs -/

namespace Input

/-- An open input is at hand for every operation that asks for one. -/
theorem reader_bind {α : Type} (operation : OpenOperation) (reader : Reader) (world : σ)
    (journal : Journal) (next : Reader → Action FileError Input σ α) :
    (Input.reader operation >>= next) ⟨.opened reader, world, journal⟩ =
      next reader ⟨.opened reader, world, journal⟩ :=
  rfl

/-- An operation that asks for an open input ends if it does so with one. -/
theorem reader_ended {α : Type} (operation : OpenOperation) {frame : Frame Input σ}
    {next : Reader → Action FileError Input σ α}
    (h : ∀ reader, Ended overflows (next reader frame)) :
    Ended overflows ((Input.reader operation >>= next) frame) := by
  rcases frame with ⟨book, world, journal⟩
  cases book with
  | closed => trivial
  | opened reader => exact h reader

/-- A read of an open input asks for the cursor, and then for as many bytes as the extent has from
there on, if that is any. -/
theorem read_opened (device : Device σ) (length room : Nat) (reader : Reader) (world : σ)
    (journal : Journal) :
    read device length room ⟨.opened reader, world, journal⟩ =
      if !validLength length || length > room then
        .error (.failed (.refused reader.window.name .readLength))
          ⟨.opened reader, world, journal⟩
      else
        match device.position world with
        | .error fault world =>
          .error (.failed (.ofFault reader.window.name .tell fault))
            ⟨.opened reader, world, journal⟩
        | .ok raw world =>
          if raw < reader.window.extent.offset then
            .error (.failed (.refused reader.window.name .positionBeforeExtent))
              ⟨.opened reader, world, journal⟩
          else
            let position := raw - reader.window.extent.offset
            let wanted := min length (reader.window.extent.length - position)
            if wanted = 0 then .ok [] ⟨.opened reader, world, journal⟩
            else
              match device.readPatiently wanted world with
              | .ok bytes world =>
                .ok bytes ⟨.opened reader, world,
                  .didRead reader.window.name bytes.length length position :: journal⟩
              | .error fault world =>
                .error (.failed (.ofFault reader.window.name .read fault))
                  ⟨.opened reader, world, journal⟩ := by
  by_cases hlength : (!validLength length || decide (length > room)) = true
  · simp only [read_eq, hlength, if_true]
    rfl
  · simp only [read_eq, hlength, Bool.false_eq_true, if_false, reader_bind]
    simp only [Bind.bind, EStateM.bind, Window.tell_apply]
    cases hposition : device.position world with
    | error fault world => rfl
    | ok raw world =>
      by_cases hraw : raw < reader.window.extent.offset
      · simp [Window.logical_of_lt hraw, hraw, Action.refuse, Action.fail]
      · have hle : reader.window.extent.offset ≤ raw := by omega
        simp only [Window.logical_of_le hle, hraw, if_false, pure, EStateM.pure]
        split
        · rfl
        · simp only [Window.read, EStateM.bind]
          cases hread : device.readPatiently
              (min length (reader.window.extent.length - (raw - reader.window.extent.offset)))
              world with
          | ok bytes world => rw [Action.call_of_ok _ _ hread]; rfl
          | error fault world => rw [Action.call_of_error _ _ hread]

/-- Reads through the adapter keep the pace of the device. -/
theorem read_paced {device : Device σ} {reader : Reader} {Ready : Nat → Nat → σ → Prop}
    (h : device.Paced reader.window.extent Ready) :
    Transfer.Paced (Adapter.read device) fun interruptions answers frame =>
      frame.book = .opened reader ∧ Ready interruptions answers frame.world := by
  intro length interruptions answers frame _ hframe
  rcases frame with ⟨book, world, journal⟩
  rcases hframe with ⟨hbook, hready⟩
  obtain rfl : book = .opened reader := hbook
  simp only [Adapter.read, Adapter.passing, Action.mapError, read_opened]
  by_cases hlength :
      (!validLength (min length maxTransfer) || decide (min length maxTransfer > length)) = true
  · simp only [hlength, if_true]
    exact .failed (Fault.isInterruption_carried_refused _ _)
  simp only [hlength, Bool.false_eq_true, if_false]
  cases hposition : device.position world with
  | error fault after =>
    by_cases hfault : fault.isInterruption = true
    · rcases h.interrupted hready hposition hfault with ⟨left, hleft, hafter⟩
      exact .interrupted (by simpa using hfault) hleft ⟨rfl, hafter⟩
    · exact .failed (by simpa using hfault)
  | ok raw between =>
    by_cases hraw : raw < reader.window.extent.offset
    · simp only [hraw, if_true]
      exact .failed (Fault.isInterruption_carried_refused _ _)
    simp only [hraw, if_false]
    generalize hwanted : min (min length maxTransfer)
      (reader.window.extent.length - (raw - reader.window.extent.offset)) = wanted
    by_cases hnone : wanted = 0
    · simp only [hnone, if_true]
      exact .finished
    simp only [hnone, if_false]
    cases hread : device.readPatiently wanted between with
    | error fault after => exact .failed (by simpa using h.calm hread)
    | ok bytes after =>
      cases bytes with
      | nil => exact .finished
      | cons byte rest =>
        obtain ⟨left, hleft, hafter⟩ :=
          h.answered hready hposition (by omega) (by omega) (by omega) hread (by simp)
        exact .answered (by simp) hleft ⟨rfl, hafter⟩

/-- A closed input refuses to be read. -/
theorem read_paced_closed (device : Device σ) :
    Transfer.Paced (Adapter.read device) fun _ _ frame => frame.book = .closed := by
  intro length interruptions answers frame _ hbook
  rcases frame with ⟨book, world, journal⟩
  obtain rfl : book = .closed := hbook
  have hrefused : ∃ name reason,
      read device (min length maxTransfer) length ⟨.closed, world, journal⟩ =
        .error (.failed (.refused name reason)) ⟨.closed, world, journal⟩ := by
    rw [read_eq]
    split
    · exact ⟨_, _, rfl⟩
    · exact ⟨_, _, rfl⟩
  rcases hrefused with ⟨name, reason, hread⟩
  simp only [Adapter.read, Adapter.passing, Action.mapError, hread]
  exact .failed (Fault.isInterruption_carried_refused name reason)

/-- The device keeps a pace for the extent of the input, if that is open. -/
def Steady (device : Device σ) (frame : Frame Input σ) : Prop :=
  ∀ reader, frame.book = .opened reader → device.Steady reader.window.extent frame.world

/-- A steady input is a source that keeps a pace for which the rounds of the loops are enough. -/
theorem Steady.paced {device : Device σ} {frame : Frame Input σ} (h : Steady device frame) :
    ∃ Ready, Transfer.Paced (Adapter.read device) Ready ∧
      Ready (device.patience frame.world)
        (frame.book.extent.length + device.patience frame.world) frame := by
  cases hbook : frame.book with
  | closed => exact ⟨_, read_paced_closed device, hbook⟩
  | opened reader =>
    rcases h reader hbook with ⟨Ready, hpaced, hready⟩
    exact ⟨_, read_paced hpaced, hbook, hready⟩

theorem seek_ended (device : Device σ) (distance : Int) (whence : Whence)
    (frame : Frame Input σ) : Ended overflows (seek device distance whence frame) :=
  reader_ended _ fun _ => Window.seek_ended _ _ _ _ _ _

theorem tell_ended (device : Device σ) (frame : Frame Input σ) :
    Ended overflows (tell device frame) :=
  reader_ended _ fun _ => Window.tell_ended _ _ _

theorem setExtent_ended (device : Device σ) (offset : Nat) (length : ExtentLength)
    (frame : Frame Input σ) : Ended overflows (setExtent device offset length frame) :=
  reader_ended _ fun _ => (Window.narrow_ended _ _ _ _ _).bind fun _ _ _ => trivial

theorem unsetExtent_ended (device : Device σ) (frame : Frame Input σ) :
    Ended overflows (unsetExtent device frame) :=
  reader_ended _ fun _ => (Window.widen_ended _ _ _).bind fun _ _ _ => trivial

theorem read_ended (device : Device σ) (length room : Nat) (frame : Frame Input σ) :
    Ended overflows (read device length room frame) := by
  rcases frame with ⟨book, world, journal⟩
  cases book with
  | closed =>
    rw [read_eq]
    split <;> trivial
  | opened reader =>
    rw [read_opened]
    split
    · trivial
    split
    · trivial
    split
    · trivial
    dsimp only
    split
    · trivial
    split <;> trivial

theorem readExactly_ended (device : Device σ) (length room : Nat) (frame : Frame Input σ) :
    Ended overflows (readExactly device length room frame) := by
  refine Ended.bind (read_ended _ _ _ _) fun bytes after _ => ?_
  split
  · trivial
  · trivial

theorem close_ended (device : Device σ) (frame : Frame Input σ) :
    Ended overflows (close device frame) := by
  rcases frame with ⟨book, world, journal⟩
  cases book with
  | closed => trivial
  | opened reader => exact Window.release_ended _ _ _

end Input

/-- Reading exactly so many bytes is given a round for each, and for each interruption. -/
theorem Adapter.readExactly_apply (device : Device σ) (length : Nat) (frame : Frame Input σ) :
    Adapter.readExactly device length frame =
      Transfer.fill (Adapter.read device) (length + device.patience frame.world + 1) length frame :=
  rfl

/-- Reading to the end is given more rounds than the extent has bytes. -/
theorem Adapter.readToEnd_apply (device : Device σ) (frame : Frame Input σ) :
    Adapter.readToEnd device frame =
      Transfer.collect (Adapter.read device)
        (frame.book.extent.length + device.patience frame.world + 2)
        (frame.book.extent.length + device.patience frame.world + 2) frame :=
  rfl

/-- Closing once the result of some work is known ends if closing does. -/
theorem Teardown.closeAfter_ended {α : Type} {close : Action FileError ρ σ Unit}
    {frame : Frame ρ σ} (h : Ended overflows (close frame)) (result : Except FileError α) :
    Ended overflows (Teardown.closeAfter close result frame) := by
  cases result with
  | ok value => exact h.bind fun _ _ _ => trivial
  | error first =>
    refine h.observe.bind fun outcome after _ => ?_
    cases outcome <;> trivial

/-- A seek through the adapter ends if the seek of the resource does. -/
theorem Adapter.seek_ended {move : Int → Whence → Action FileError ρ σ Nat} {frame : Frame ρ σ}
    (h : ∀ distance whence, Ended overflows (move distance whence frame)) (target : RawSeek) :
    Ended overflows (Adapter.seek move target frame) := by
  cases target with
  | start position =>
    simp only [Adapter.seek]
    split
    · exact (h _ _).mapError
    · trivial
  | current distance => exact (h _ _).mapError
  | finish distance => exact (h _ _).mapError

namespace Input

/-- Reading exactly so many bytes from a steady input ends. -/
theorem Steady.readExactly_ended {device : Device σ} {frame : Frame Input σ}
    (h : Steady device frame) {length : Nat} :
    Ended overflows (Adapter.readExactly device length frame) := by
  rcases h.paced with ⟨Ready, hpaced, hready⟩
  rw [Adapter.readExactly_apply]
  exact Transfer.fill_ended hpaced hready (by omega)

/-- So does reading it to its end. -/
theorem Steady.readToEnd_ended {device : Device σ} {frame : Frame Input σ}
    (h : Steady device frame) : Ended overflows (Adapter.readToEnd device frame) := by
  rcases h.paced with ⟨Ready, hpaced, hready⟩
  rw [Adapter.readToEnd_apply]
  exact Transfer.collect_ended hpaced hready (by omega) (by omega)

/-- Every operation on an input answers or fails; no loop runs out of rounds, and no counter
overflows. -/
theorem perform_ended {device : Device σ} {frame : Frame Input σ} (h : Steady device frame)
    (operation : Operation) : Ended overflows (perform device operation frame) := by
  have hseek : ∀ distance whence, Ended overflows (seek device distance whence frame) :=
    fun distance whence => seek_ended device distance whence frame
  cases operation with
  | seek distance whence => exact (hseek distance whence).mapError.map
  | tell => exact (tell_ended _ _).mapError.map
  | size => trivial
  | setExtent offset length => exact (setExtent_ended _ _ _ _).mapError.map
  | unsetExtent => exact (unsetExtent_ended _ _).mapError.map
  | read length room => exact (read_ended _ _ _ _).mapError.map
  | readExactly length room => exact (readExactly_ended _ _ _ _).mapError.map
  | readThenClose length =>
    refine Ended.map (Ended.mapError ?_)
    exact (readExactly_ended _ _ _ _).observe.bind fun result after _ =>
      Teardown.closeAfter_ended (close_ended _ _) result
  | close => exact (close_ended _ _).mapError.map
  | closeAfter result => exact (Teardown.closeAfter_ended (close_ended _ _) result).mapError.map
  | streamSeek target => exact (Adapter.seek_ended hseek target).mapError.map
  | streamPosition => exact (Adapter.seek_ended hseek _).mapError.map
  | streamRewind =>
    exact Ended.map (Ended.mapError ((Adapter.seek_ended hseek _).bind fun _ _ _ => trivial))
  | streamRead length => exact (read_ended _ _ _ _).mapError.mapError.map
  | streamReadExactly length => exact h.readExactly_ended.mapError.map
  | streamReadToEnd => exact h.readToEnd_ended.mapError.map

end Input

/-! ## Outputs -/

/-- Writing all of some bytes is given a round for each, and for each interruption. -/
theorem Adapter.writeAll_apply (device : Device σ) (bytes : Bytes) (frame : Frame Output σ) :
    Adapter.writeAll device bytes frame =
      Transfer.drain (Adapter.write device) (bytes.length + device.patience frame.world + 1) bytes
        frame :=
  rfl

namespace Output

/-- An open output is at hand for every operation that asks for one. -/
theorem writer_bind {α : Type} (operation : OpenOperation) (writer : Writer) (world : σ)
    (journal : Journal) (next : Writer → Action FileError Output σ α) :
    (Output.writer operation >>= next) ⟨.opened writer, world, journal⟩ =
      next writer ⟨.opened writer, world, journal⟩ :=
  rfl

/-- An operation that asks for an open output ends if it does so with one. -/
theorem writer_ended {α : Type} (operation : OpenOperation) {frame : Frame Output σ}
    {next : Writer → Action FileError Output σ α}
    (h : ∀ writer, Ended overflows (next writer frame)) :
    Ended overflows ((Output.writer operation >>= next) frame) := by
  rcases frame with ⟨book, world, journal⟩
  cases book with
  | closed => trivial
  | opened writer => exact h writer

/-- A write to an open output passes its bytes on, if there are any and their number is plausible,
and counts them as far as there are numbers. -/
theorem write_opened (device : Device σ) (buffer : Bytes) (length : Nat) (writer : Writer)
    (world : σ) (journal : Journal) :
    write device buffer length ⟨.opened writer, world, journal⟩ =
      if length = 0 then .ok () ⟨.opened writer, world, journal⟩
      else if !validLength length || length > buffer.length then
        .error (.failed (.refused writer.window.name .writeLength))
          ⟨.opened writer, world, journal⟩
      else
        match device.write (buffer.take length) world with
        | .error fault world =>
          .error (.failed (.ofFault writer.window.name .write fault))
            ⟨.opened writer, world, journal⟩
        | .ok () world =>
          if writer.written + length < positionLimit then
            .ok () ⟨.opened (writer.count length), world,
              .didWrite writer.window.name length (writer.written + length) :: journal⟩
          else .error .overflow ⟨.opened writer, world, journal⟩ := by
  rw [write, writer_bind]
  split
  · rfl
  · split
    · rfl
    · simp only [Window.write, Bind.bind, EStateM.bind]
      cases hwrite : device.write (buffer.take length) world with
      | ok value world =>
        rw [Action.call_of_ok _ _ hwrite]
        simp only
        split <;> rfl
      | error fault world => rw [Action.call_of_error _ _ hwrite]

/-- A write fails as the device does, or because it was refused. -/
theorem write_calm {device : Device σ}
    (hcalm : ∀ bytes world fault after,
      device.write bytes world = .error fault after → fault.isInterruption = false)
    {buffer : Bytes} {length : Nat} {frame after : Frame Output σ} {error : FileError}
    (h : write device buffer length frame = .error (.failed error) after) :
    (Fault.carried error).isInterruption = false := by
  rcases frame with ⟨book, world, journal⟩
  cases book with
  | closed =>
    cases h
    exact Fault.isInterruption_carried_refused _ _
  | opened writer =>
    rw [write_opened] at h
    split at h
    · cases h
    split at h
    · cases h
      exact Fault.isInterruption_carried_refused _ _
    cases hwrite : device.write (buffer.take length) world with
    | ok value between =>
      simp only [hwrite] at h
      split at h <;> cases h
    | error fault between =>
      simp only [hwrite] at h
      cases h
      simpa using hcalm _ _ _ _ hwrite

theorem seek_ended (device : Device σ) (distance : Int) (whence : Whence)
    (frame : Frame Output σ) : Ended overflows (seek device distance whence frame) :=
  writer_ended _ fun _ => (Window.seek_ended _ _ _ _ _ _).bind fun _ _ _ => trivial

theorem tell_ended (device : Device σ) (frame : Frame Output σ) :
    Ended overflows (tell device frame) :=
  writer_ended _ fun _ => Window.tell_ended _ _ _

theorem size_ended (device : Device σ) (frame : Frame Output σ) :
    Ended overflows (size device frame) := by
  rcases frame with ⟨book, world, journal⟩
  cases book with
  | closed => trivial
  | opened writer =>
    rw [size, Action.book_bind]
    simp only
    split
    · trivial
    · exact Ended.bind (.call _ _ _ _) fun _ _ _ => trivial

theorem setExtent_ended (device : Device σ) (offset : Nat) (length : ExtentLength)
    (frame : Frame Output σ) : Ended overflows (setExtent device offset length frame) :=
  writer_ended _ fun _ => (Window.narrow_ended _ _ _ _ _).bind fun _ _ _ => trivial

theorem unsetExtent_ended (device : Device σ) (frame : Frame Output σ) :
    Ended overflows (unsetExtent device frame) :=
  writer_ended _ fun _ => (Window.widen_ended _ _ _).bind fun _ _ _ => trivial

theorem write_ended (device : Device σ) (buffer : Bytes) (length : Nat)
    (frame : Frame Output σ) : Ended True (write device buffer length frame) := by
  rcases frame with ⟨book, world, journal⟩
  cases book with
  | closed => trivial
  | opened writer =>
    rw [write_opened]
    split
    · trivial
    split
    · trivial
    split
    · trivial
    · split <;> trivial

theorem flush_ended (device : Device σ) (frame : Frame Output σ) :
    Ended overflows (flush device frame) := by
  rcases frame with ⟨book, world, journal⟩
  cases book with
  | closed => trivial
  | opened writer => exact .call _ _ _ _

theorem close_ended (device : Device σ) (frame : Frame Output σ) :
    Ended overflows (close device frame) := by
  rcases frame with ⟨book, world, journal⟩
  cases book with
  | closed => trivial
  | opened writer =>
    rw [close, Action.book_bind]
    refine Ended.bind (Ended.observe (.call _ _ _ _)) fun flushed _ _ => ?_
    rw [Action.setBook_bind]
    refine Ended.bind (Ended.observe (Window.release_ended _ _ _)) fun released _ _ => ?_
    exact (Ended.ofExcept _ _).bind fun _ _ _ => .ofExcept _ _

/-- Writing all bytes through the adapter ends where the device answers or fails for good. -/
theorem writeAll_ended {device : Device σ}
    (hcalm : ∀ bytes world fault after,
      device.write bytes world = .error fault after → fault.isInterruption = false)
    (bytes : Bytes) (frame : Frame Output σ) :
    Ended True (Adapter.writeAll device bytes frame) := by
  have hwrite : ∀ bytes frame, Ended True (Adapter.write device bytes frame) :=
    fun bytes frame => (write_ended device _ _ frame).mapError.bind fun _ _ _ => trivial
  rw [Adapter.writeAll_apply]
  refine Transfer.drain_ended hwrite ?_ (by omega)
  intro bytes frame fault after hfailed
  simp only [Adapter.write, Adapter.passing, Action.mapError, Bind.bind, EStateM.bind] at hfailed
  cases hresult : write device bytes (min bytes.length maxTransfer) frame with
  | ok value between =>
    simp only [hresult] at hfailed
    cases hfailed
  | error stop between =>
    simp only [hresult] at hfailed
    cases stop with
    | failed error =>
      cases hfailed
      exact write_calm hcalm hresult
    | overflow => cases hfailed
    | stalled => cases hfailed

/-- Every operation on an output answers, fails, or leaves the range of the count; no loop runs out
of rounds. -/
theorem perform_ended {device : Device σ}
    (hcalm : ∀ bytes world fault after,
      device.write bytes world = .error fault after → fault.isInterruption = false)
    (operation : Operation) (frame : Frame Output σ) :
    Ended True (perform device operation frame) := by
  have hseek : ∀ distance whence, Ended True (seek device distance whence frame) :=
    fun distance whence => seek_ended device distance whence frame
  cases operation with
  | seek distance whence => exact (hseek distance whence).mapError.map
  | tell => exact (tell_ended _ _).mapError.map
  | size => exact (size_ended _ _).mapError.map
  | setExtent offset length => exact (setExtent_ended _ _ _ _).mapError.map
  | unsetExtent => exact (unsetExtent_ended _ _).mapError.map
  | write buffer length => exact (write_ended _ _ _ _).mapError.map
  | overwrite buffer length =>
    refine Ended.map (Ended.mapError ?_)
    refine Ended.bind (by trivial) fun before after _ => ?_
    split
    · trivial
    · exact (write_ended _ _ _ _).bind fun _ _ _ => trivial
  | writeThenClose buffer length =>
    refine Ended.map (Ended.mapError ?_)
    exact (write_ended _ _ _ _).observe.bind fun result after _ =>
      Teardown.closeAfter_ended (close_ended _ _) result
  | flush => exact (flush_ended _ _).mapError.map
  | close => exact (close_ended _ _).mapError.map
  | closeAfter result => exact (Teardown.closeAfter_ended (close_ended _ _) result).mapError.map
  | streamSeek target => exact (Adapter.seek_ended hseek target).mapError.map
  | streamPosition => exact (Adapter.seek_ended hseek _).mapError.map
  | streamRewind =>
    exact Ended.map (Ended.mapError ((Adapter.seek_ended hseek _).bind fun _ _ _ => trivial))
  | streamWrite bytes =>
    refine Ended.map (Ended.mapError ?_)
    exact (write_ended _ _ _ _).mapError.bind fun _ _ _ => trivial
  | streamWriteAll bytes => exact (writeAll_ended hcalm bytes frame).mapError.map
  | streamFlush => exact (flush_ended _ _).mapError.mapError.map

end Output

end FileWindow

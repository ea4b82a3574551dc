import FileWindow.Proofs.Completion
import FileWindow.Proofs.Meeting

/-!
# What operations do to the books

Whatever a device does, an operation on an open resource leaves the book as it was or as its answer
says.  This file gives one law for each operation: the book that goes with an answer, and that a
failure leaves the book alone.  Beside the book each law carries along whatever the device keeps of
its world, up to the release.

Main definitions:

- Definition Device.measured: the size that a device tells in a world.
- Definition ExtentLength.resolve: the length that a new extent gets from it.
- Definition Writer.counting: the writer after some bytes were counted, if there are any.

Main results:

- Theorem Writer.counting_counting: bytes may be counted in one go.
- Theorems Window.narrow_meets and Window.widen_meets: the window that is to take the place.
- Theorems Output.seek_meets, write_meets, setExtent_meets and unsetExtent_meets: the operations that
  change the books of an output.
- Theorems Input.setExtent_meets and unsetExtent_meets: those that change an input.
- Theorems Input.close_meets and Output.close_meets: a close leaves a closed resource, whatever comes
  of it.
-/

namespace FileWindow

variable {ε ρ σ : Type} {holds : σ → Prop} {device : Device σ}

open FileWindow.Action (Holding Keeps Meets)

/-! ## Measuring -/

/-- The size that a device tells in a world, if it tells any. -/
def Device.measured (device : Device σ) (world : σ) : Option Nat :=
  match device.size world with
  | .ok size _ => size
  | .error _ _ => none

/-- The length that a new extent gets at an offset, where the device tells some size.  Behind an
offset that is past the end there is no rest. -/
def ExtentLength.resolve (offset : Nat) (measured : Option Nat) : ExtentLength → Option Nat
  | bytes length => some length
  | rest => measured.bind fun size => if offset ≤ size then some (size - offset) else none

/-- An extent that takes the rest ends where the device told the end. -/
theorem ExtentLength.resolve_rest_eq_some_iff {offset length : Nat} {measured : Option Nat} :
    rest.resolve offset measured = some length ↔ measured = some (offset + length) := by
  cases measured with
  | none => simp [resolve]
  | some size =>
    simp only [resolve, Option.bind_some, Option.ite_none_right_eq_some, Option.some_inj]
    omega

/-! ## Windows -/

namespace Window

theorem tell_keeps (hdevice : device.Keeps holds) (window : Window) (book : ρ) :
    Keeps (Holding holds book) (window.tell device) :=
  (Keeps.call (hdevice.seek _) _ _ book).bind fun _ => .accept _ _

theorem seek_keeps (hdevice : device.Keeps holds) (window : Window) (distance : Int)
    (whence : Whence) (limit : Option Nat) (book : ρ) :
    Keeps (Holding holds book) (window.seek device distance whence limit) := by
  have hcursor : Keeps (Holding holds book) (window.cursorFor device distance whence) := by
    unfold cursorFor
    split
    · exact .call (hdevice.seek _) _ _ book
    · exact .pure 0
  rw [seek_eq]
  refine hcursor.bind fun _ => (Keeps.accept _ _).bind fun _ => ?_
  exact (Keeps.call (hdevice.seek _) _ _ book).bind fun _ =>
    (Keeps.report _ book).bind fun _ => .accept _ _

/-- A window is narrowed to the length asked for, or to the rest of what the device tells. -/
theorem narrow_meets (hdevice : device.Keeps holds) (window : Window) (offset : Nat)
    (length : ExtentLength) {book : ρ} {frame : Frame ρ σ} (hframe : Holding holds book frame) :
    Meets
      (fun narrowed after =>
        ∃ rest, length.resolve offset (device.measured frame.world) = some rest ∧
          narrowed = { window with extent := ⟨offset, rest⟩ } ∧ Holding holds book after)
      (fun _ => Holding holds book) (Holding holds book)
      (window.narrow device offset length frame) := by
  have hlength : Meets
      (fun rest after => length.resolve offset (device.measured frame.world) = some rest ∧
        Holding holds book after)
      (fun _ => Holding holds book) (Holding holds book)
      (window.lengthAt device offset length frame) := by
    cases length with
    | bytes length => exact ⟨rfl, hframe⟩
    | rest =>
      have hsize := hdevice.size frame.world hframe.2
      simp only [lengthAt, requiredSize, rawSize, Bind.bind, EStateM.bind]
      cases hresult : device.size frame.world with
      | error fault world =>
        rw [hresult] at hsize
        rw [Action.call_of_error _ _ hresult]
        exact ⟨hframe.1, hsize⟩
      | ok size world =>
        rw [hresult] at hsize
        rw [Action.call_of_ok _ _ hresult]
        cases size with
        | none => exact ⟨hframe.1, hsize⟩
        | some size =>
          simp only [pure, EStateM.pure]
          cases hrest : Extent.rest offset size with
          | error reason => exact ⟨hframe.1, hsize⟩
          | ok rest =>
            have hend := Extent.rest_eq_ok_iff.mp hrest
            have hmeasured : device.measured frame.world = some (offset + rest) := by
              rw [Device.measured, hresult, hend]
            exact ⟨ExtentLength.resolve_rest_eq_some_iff.mpr hmeasured, hframe.1, hsize⟩
  exact hlength.bind fun rest after hafter => ⟨rest, hafter.1, rfl, hafter.2⟩

/-- A window is widened to the whole of what the device says there is. -/
theorem widen_meets (hdevice : device.Keeps holds) (window : Window) {book : ρ}
    {frame : Frame ρ σ} (hframe : Holding holds book frame) :
    Meets
      (fun widened after => (∃ size, widened = { window with extent := .whole size }) ∧
        Holding holds book after)
      (fun _ => Holding holds book) (Holding holds book) (window.widen device frame) :=
  Meets.bind (Keeps.call (hdevice.seek (.finish 0)) window.name .seek book frame hframe)
    fun size _ hafter => ⟨⟨size, rfl⟩, hafter⟩

end Window

/-! ## Teardown -/

namespace Teardown

/-- What follows on closing is as closing should be. -/
theorem closeAfter_meets {α : Type} {close : Action FileError ρ σ Unit}
    {frame : Frame ρ σ} {ended : Frame ρ σ → Prop} {halts : Frame ρ σ → Prop}
    (hjournal : ∀ event frame, ended frame →
      ended { frame with journal := event :: frame.journal })
    (hclose : Meets (fun _ => ended) (fun _ => ended) halts (close frame))
    (result : Except FileError α) :
    Meets (fun _ => ended) (fun _ => ended) halts (Teardown.closeAfter close result frame) := by
  cases result with
  | ok value => exact hclose.bind fun _ _ hafter => hafter
  | error first =>
    refine Meets.bind (Meets.observe_both hclose) ?_
    intro outcome after hafter
    cases outcome with
    | ok value => exact hafter
    | error closeError => exact hjournal _ _ hafter

/-- A failure to close is put on record, and nothing else comes of it. -/
theorem reportOnDrop_meets {ended : Frame ρ σ → Prop} {fails : ε → Frame ρ σ → Prop}
    {halts : Frame ρ σ → Prop}
    (hjournal : ∀ event frame, ended frame →
      ended { frame with journal := event :: frame.journal })
    (name : String) (unwinding : Bool) (result : Except FileError Unit) {frame : Frame ρ σ}
    (hframe : ended frame) :
    Meets (fun _ => ended) fails halts (reportOnDrop name unwinding result frame) := by
  cases result with
  | ok value => exact hframe
  | error error => exact hjournal _ _ hframe

end Teardown

/-! ## Inputs -/

namespace Input

/-- An input that was opened shows the whole of what the device told. -/
theorem attach_meets (hmeasure : Call.Leads holds holds device.size) (name : String)
    {frame : Frame ρ σ} (hworld : holds frame.world) :
    Meets
      (fun input after =>
        ∃ size, device.measured frame.world = some size ∧
          input = .opened ⟨⟨name, ⟨0, size⟩⟩, size⟩ ∧ Holding holds frame.book after)
      (fun _ => Holding holds frame.book) (fun _ => False) (attach device name frame) := by
  have hsize := hmeasure frame.world hworld
  simp only [attach, Device.measured, Bind.bind, EStateM.bind]
  cases hresult : device.size frame.world with
  | error fault world =>
    rw [hresult] at hsize
    rw [Action.call_of_error _ _ hresult]
    exact ⟨rfl, hsize⟩
  | ok size world =>
    rw [hresult] at hsize
    rw [Action.call_of_ok _ _ hresult]
    cases size with
    | none => exact ⟨rfl, hsize⟩
    | some size => exact ⟨size, rfl, rfl, rfl, hsize⟩

/-- An open input is at hand for every operation that asks for one. -/
theorem reader_bind_of_opened {α : Type} (operation : OpenOperation) {reader : Reader}
    {frame : Frame Input σ} (hbook : frame.book = .opened reader)
    (next : Reader → Action FileError Input σ α) :
    (Input.reader operation >>= next) frame = next reader frame := by
  rcases frame with ⟨book, world, journal⟩
  obtain rfl : book = .opened reader := hbook
  rfl

variable {reader : Reader}

theorem seek_keeps (hdevice : device.Keeps holds) (distance : Int) (whence : Whence) :
    Keeps (Holding holds (.opened reader)) (seek device distance whence) := by
  intro frame hframe
  rw [seek, reader_bind_of_opened _ hframe.1]
  exact Window.seek_keeps hdevice _ _ _ _ _ frame hframe

theorem tell_keeps (hdevice : device.Keeps holds) :
    Keeps (Holding holds (.opened reader)) (tell device) := by
  intro frame hframe
  rw [tell, reader_bind_of_opened _ hframe.1]
  exact Window.tell_keeps hdevice _ _ frame hframe

/-- Setting the extent leaves the input with that extent, unless it fails. -/
theorem setExtent_meets (hdevice : device.Keeps holds) (offset : Nat) (length : ExtentLength)
    {frame : Frame Input σ} (hframe : Holding holds (.opened reader) frame) :
    Meets
      (fun _ after => ∃ rest, length.resolve offset (device.measured frame.world) = some rest ∧
        Holding holds (.opened { reader with window.extent := ⟨offset, rest⟩ }) after)
      (fun _ => Holding holds (.opened reader)) (Holding holds (.opened reader))
      (setExtent device offset length frame) := by
  rw [setExtent, reader_bind_of_opened _ hframe.1]
  refine (Window.narrow_meets hdevice reader.window offset length hframe).bind ?_
  rintro window after ⟨rest, hrest, rfl, -, hworld⟩
  exact ⟨rest, hrest, rfl, hworld⟩

/-- Unsetting the extent leaves the input with the whole of the size that is answered, unless it
fails. -/
theorem unsetExtent_meets (hdevice : device.Keeps holds) {frame : Frame Input σ}
    (hframe : Holding holds (.opened reader) frame) :
    Meets (fun size => Holding holds (.opened { reader with window.extent := .whole size }))
      (fun _ => Holding holds (.opened reader)) (Holding holds (.opened reader))
      (unsetExtent device frame) := by
  rw [unsetExtent, reader_bind_of_opened _ hframe.1]
  refine (Window.widen_meets hdevice reader.window hframe).bind ?_
  rintro window after ⟨⟨size, rfl⟩, -, hworld⟩
  exact ⟨rfl, hworld⟩

theorem read_keeps (hdevice : device.Keeps holds) (length room : Nat) :
    Keeps (Holding holds (.opened reader)) (read device length room) := by
  intro frame hframe
  rw [read_eq]
  split
  · exact hframe
  · rw [reader_bind_of_opened _ hframe.1]
    refine Meets.bind (Window.tell_keeps hdevice reader.window _ frame hframe) ?_
    intro position after hafter
    by_cases hwanted : min length (reader.window.extent.length - position) = 0
    · rw [if_pos hwanted]
      exact hafter
    · rw [if_neg hwanted]
      have hread : Keeps (Holding holds (opened reader)) (reader.window.read device
          (min length (reader.window.extent.length - position))) :=
        .call (hdevice.readPatiently _) _ _ _
      exact (hread after hafter).bind fun _ _ hafter => hafter

theorem readExactly_keeps (hdevice : device.Keeps holds) (length room : Nat) :
    Keeps (Holding holds (.opened reader)) (readExactly device length room) := by
  refine (read_keeps hdevice length room).bind fun bytes frame hframe => ?_
  split
  · exact hframe
  · exact hframe

/-- The adapter reads without touching the book. -/
theorem source_keeps (hdevice : device.Keeps holds) (length : Nat) :
    Keeps (Holding holds (.opened reader)) (Adapter.read device length) :=
  (read_keeps hdevice _ _).mapError

/-- A close leaves a closed input, and what the release of the device leads to. -/
theorem close_meets {released : σ → Prop} (hclose : Call.Leads holds released device.close)
    {frame : Frame Input σ} (hframe : Holding holds (.opened reader) frame) :
    Meets (fun _ => Holding released .closed) (fun _ => Holding released .closed)
      (fun _ => False) (close device frame) := by
  rcases frame with ⟨book, world, journal⟩
  obtain rfl : book = .opened reader := hframe.1
  have hreleased : Meets (fun _ => Holding released closed) (fun _ => Holding released closed)
      (fun _ => False)
      (Action.call reader.window.name .close device.close
        ⟨closed, world, .closing reader.window.name :: journal⟩) :=
    Meets.call hclose _ _ hframe.2
  exact hreleased

/-- To drop an open input is to close it. -/
theorem left_drop {released : σ → Prop} (hclose : Call.Leads holds released device.close)
    (unwinding : Bool) {frame : Frame Input σ} (hframe : Holding holds (.opened reader) frame) :
    Holding released .closed
      (Action.left ((drop device unwinding : Action ε Input σ Unit) frame)) := by
  have hclosed : Meets (fun _ => Holding released .closed) (fun _ => Holding released .closed)
      (Holding released .closed) (close device frame) :=
    (close_meets hclose hframe).imp (fun _ _ h => h) (fun _ _ h => h) fun _ h => h.elim
  rcases frame with ⟨book, world, journal⟩
  obtain rfl : book = .opened reader := hframe.1
  refine Meets.left ?_
  rw [drop, Action.book_bind]
  exact (Meets.observe_both hclosed).bind fun outcome _ hafter =>
    Teardown.reportOnDrop_meets (fun _ _ h => h) reader.window.name unwinding outcome hafter

end Input

/-! ## Outputs -/

/-- The writer after so many bytes were counted, if there are any. -/
def Writer.counting (writer : Writer) (length : Nat) : Writer :=
  if length = 0 then writer else writer.count length

theorem Writer.counting_of_pos (writer : Writer) {length : Nat} (h : 0 < length) :
    writer.counting length = writer.count length :=
  if_neg (Nat.ne_of_gt h)

/-- Bytes may be counted in one go. -/
theorem Writer.counting_counting (writer : Writer) (first second : Nat) :
    (writer.counting first).counting second = writer.counting (first + second) := by
  rcases Nat.eq_zero_or_pos first with rfl | hfirst
  · rw [Nat.zero_add]
    rfl
  rcases Nat.eq_zero_or_pos second with rfl | hsecond
  · rfl
  rw [counting_of_pos _ hfirst, counting_of_pos _ hsecond, counting_of_pos _ (by omega)]
  simp only [count, withLength, Writer.mk.injEq, Window.mk.injEq, Extent.mk.injEq, true_and]
  omega

namespace Output

/-- An output that was opened shows the whole of what the device told, or nothing where it told no
size. -/
theorem attach_meets (hmeasure : Call.Leads holds holds device.size) (name : String)
    {frame : Frame ρ σ} (hworld : holds frame.world) :
    Meets
      (fun output after =>
        output = .opened ⟨⟨name, ⟨0, (device.measured frame.world).getD 0⟩⟩, 0⟩ ∧
          Holding holds frame.book after)
      (fun _ => Holding holds frame.book) (fun _ => False) (attach device name frame) := by
  have hsize := hmeasure frame.world hworld
  simp only [attach, Device.measured, Bind.bind, EStateM.bind]
  cases hresult : device.size frame.world with
  | error fault world =>
    rw [hresult] at hsize
    rw [Action.call_of_error _ _ hresult]
    exact ⟨rfl, hsize⟩
  | ok size world =>
    rw [hresult] at hsize
    rw [Action.call_of_ok _ _ hresult]
    exact ⟨rfl, rfl, hsize⟩

/-- An open output is at hand for every operation that asks for one. -/
theorem writer_bind_of_opened {α : Type} (operation : OpenOperation) {writer : Writer}
    {frame : Frame Output σ} (hbook : frame.book = .opened writer)
    (next : Writer → Action FileError Output σ α) :
    (Output.writer operation >>= next) frame = next writer frame := by
  rcases frame with ⟨book, world, journal⟩
  obtain rfl : book = .opened writer := hbook
  rfl

variable {writer : Writer}

/-- A seek keeps the books that it calls for if it answers, and the old ones otherwise. -/
theorem seek_meets (hdevice : device.Keeps holds) (distance : Int) (whence : Whence)
    {frame : Frame Output σ} (hframe : Holding holds (.opened writer) frame) :
    Meets (fun _ => Holding holds (.opened (writer.aim distance whence)))
      (fun _ => Holding holds (.opened writer)) (Holding holds (.opened writer))
      (seek device distance whence frame) := by
  rw [seek, writer_bind_of_opened _ hframe.1]
  refine Meets.bind (Window.seek_keeps hdevice (writer.aim distance whence).window distance whence
    none _ frame hframe) ?_
  exact fun _ _ hafter => ⟨rfl, hafter.2⟩

theorem tell_keeps (hdevice : device.Keeps holds) :
    Keeps (Holding holds (.opened writer)) (tell device) := by
  intro frame hframe
  rw [tell, writer_bind_of_opened _ hframe.1]
  exact Window.tell_keeps hdevice _ _ frame hframe

theorem size_keeps (hdevice : device.Keeps holds) :
    Keeps (Holding holds (.opened writer)) (size device) := by
  intro frame hframe
  rcases frame with ⟨book, world, journal⟩
  obtain rfl : book = .opened writer := hframe.1
  rw [size, Action.book_bind]
  dsimp only
  split
  · exact hframe
  · exact Meets.bind (Keeps.call hdevice.size writer.window.name .querySize _ _ hframe)
      fun _ _ hafter => hafter

/-- Setting the extent starts the count anew, unless it fails. -/
theorem setExtent_meets (hdevice : device.Keeps holds) (offset : Nat) (length : ExtentLength)
    {frame : Frame Output σ} (hframe : Holding holds (.opened writer) frame) :
    Meets
      (fun _ after => ∃ rest, length.resolve offset (device.measured frame.world) = some rest ∧
        Holding holds (.opened ⟨{ writer.window with extent := ⟨offset, rest⟩ }, 0⟩) after)
      (fun _ => Holding holds (.opened writer)) (Holding holds (.opened writer))
      (setExtent device offset length frame) := by
  rw [setExtent, writer_bind_of_opened _ hframe.1]
  refine (Window.narrow_meets hdevice writer.window offset length hframe).bind ?_
  rintro window after ⟨rest, hrest, rfl, -, hworld⟩
  exact ⟨rest, hrest, rfl, hworld⟩

/-- Unsetting the extent counts the whole of the size that is answered, unless it fails. -/
theorem unsetExtent_meets (hdevice : device.Keeps holds) {frame : Frame Output σ}
    (hframe : Holding holds (.opened writer) frame) :
    Meets
      (fun size =>
        Holding holds (.opened ⟨{ writer.window with extent := .whole size }, size⟩))
      (fun _ => Holding holds (.opened writer)) (Holding holds (.opened writer))
      (unsetExtent device frame) := by
  rw [unsetExtent, writer_bind_of_opened _ hframe.1]
  refine (Window.widen_meets hdevice writer.window hframe).bind ?_
  rintro window after ⟨⟨size, rfl⟩, -, hworld⟩
  exact ⟨rfl, hworld⟩

/-- A write counts its bytes if it answers, and a write of none counts nothing. -/
theorem write_meets (hdevice : device.Keeps holds) (buffer : Bytes) (length : Nat)
    {frame : Frame Output σ} (hframe : Holding holds (.opened writer) frame) :
    Meets (fun _ => Holding holds (.opened (writer.counting length)))
      (fun _ => Holding holds (.opened writer)) (Holding holds (.opened writer))
      (write device buffer length frame) := by
  rcases frame with ⟨book, world, journal⟩
  obtain rfl : book = .opened writer := hframe.1
  have hwrite := hdevice.write (buffer.take length) world hframe.2
  rw [write_opened]
  by_cases hnone : length = 0
  · rw [if_pos hnone, hnone]
    exact hframe
  have hcounting := writer.counting_of_pos (Nat.pos_of_ne_zero hnone)
  rw [if_neg hnone, hcounting]
  split
  · exact hframe
  cases hresult : device.write (buffer.take length) world with
  | error fault after =>
    rw [hresult] at hwrite
    exact ⟨rfl, hwrite⟩
  | ok value after =>
    rw [hresult] at hwrite
    dsimp only
    split
    · exact ⟨rfl, hwrite⟩
    · exact ⟨rfl, hwrite⟩

/-- Overwriting takes back what it counted. -/
theorem overwrite_keeps (hdevice : device.Keeps holds) (buffer : Bytes) (length : Nat) :
    Keeps (Holding holds (.opened writer)) (overwrite device buffer length) := by
  intro frame hframe
  rw [overwrite, Action.book_bind]
  split
  · exact hframe
  · exact (write_meets hdevice buffer length hframe).bind fun _ after hafter =>
      ⟨hframe.1, hafter.2⟩

theorem flush_keeps (hdevice : device.Keeps holds) :
    Keeps (Holding holds (.opened writer)) (flush device) := by
  intro frame hframe
  rcases frame with ⟨book, world, journal⟩
  obtain rfl : book = .opened writer := hframe.1
  exact Keeps.call hdevice.flush writer.window.name .flush _ _ hframe

/-- A close leaves a closed output, and what a flush and a release of the device lead to. -/
theorem close_meets {flushed released : σ → Prop}
    (hflush : Call.Leads holds flushed device.flush)
    (hclose : Call.Leads flushed released device.close) {frame : Frame Output σ}
    (hframe : Holding holds (.opened writer) frame) :
    Meets (fun _ => Holding released .closed) (fun _ => Holding released .closed)
      (fun _ => False) (close device frame) := by
  rcases frame with ⟨book, world, journal⟩
  obtain rfl : book = .opened writer := hframe.1
  have hends : ∀ (result : Except FileError Unit) (after : Frame Output σ),
      Holding released .closed after →
        Meets (fun _ => Holding released .closed) (fun _ => Holding released .closed)
          (fun _ => False) (Action.ofExcept result after) := by
    intro result after hafter
    cases result <;> exact hafter
  have hflushed : Meets (fun _ => Holding flushed (opened writer))
      (fun _ => Holding flushed (opened writer)) (fun _ => False)
      (writer.window.flush device ⟨opened writer, world, journal⟩) :=
    Meets.call hflush _ _ hframe.2
  rw [close, Action.book_bind]
  refine Meets.bind (Action.Meets.observe_both hflushed) ?_
  rintro outcome ⟨book, world, journal⟩ ⟨-, hworld⟩
  rw [Action.setBook_bind]
  have hreleased : Meets (fun _ => Holding released closed)
      (fun _ => Holding released closed) (fun _ => False)
      (writer.window.release device ⟨closed, world, journal⟩) := by
    have hcall : Meets (fun _ => Holding released closed) (fun _ => Holding released closed)
        (fun _ => False)
        (Action.call writer.window.name .close device.close
          ⟨closed, world, .closing writer.window.name :: journal⟩) :=
      Meets.call hclose _ _ hworld
    exact hcall
  refine Meets.bind (Action.Meets.observe_both hreleased) ?_
  intro outcome' after hafter
  exact Meets.bind (hends outcome after hafter) fun _ _ hafter => hends outcome' _ hafter

/-- To drop an open output is to close it. -/
theorem left_drop {flushed released : σ → Prop}
    (hflush : Call.Leads holds flushed device.flush)
    (hclose : Call.Leads flushed released device.close) (unwinding : Bool) {frame : Frame Output σ}
    (hframe : Holding holds (.opened writer) frame) :
    Holding released .closed
      (Action.left ((drop device unwinding : Action ε Output σ Unit) frame)) := by
  have hclosed : Meets (fun _ => Holding released .closed) (fun _ => Holding released .closed)
      (Holding released .closed) (close device frame) :=
    (close_meets hflush hclose hframe).imp (fun _ _ h => h) (fun _ _ h => h) fun _ h => h.elim
  rcases frame with ⟨book, world, journal⟩
  obtain rfl : book = .opened writer := hframe.1
  refine Meets.left ?_
  rw [drop, Action.book_bind]
  exact (Meets.observe_both hclosed).bind fun outcome _ hafter =>
    Teardown.reportOnDrop_meets (fun _ _ h => h) writer.window.name unwinding outcome hafter

/-- An output that lets go of its device is closed, and one that fails to do so stays open. -/
theorem detach_meets {flushed : σ → Prop} (hflush : Call.Leads holds flushed device.flush)
    {frame : Frame Output σ} (hframe : Holding holds (.opened writer) frame) :
    Meets (fun _ => Holding flushed .closed) (fun _ => Holding flushed (.opened writer))
      (fun _ => False) (detach device frame) := by
  have hflushed : Meets (fun _ => Holding flushed (opened writer))
      (fun _ => Holding flushed (opened writer)) (fun _ => False)
      (writer.window.flush device frame) :=
    (Meets.call hflush _ _ hframe.2).imp (fun _ _ h => ⟨h.1.trans hframe.1, h.2⟩)
      (fun _ _ h => ⟨h.1.trans hframe.1, h.2⟩) fun _ h => h
  rw [detach, writer_bind_of_opened _ hframe.1]
  exact hflushed.bind fun _ _ hafter => ⟨rfl, hafter.2⟩

/-- A closed output has no device to let go of. -/
theorem detach_of_closed (device : Device σ) (world : σ) (journal : Journal) :
    ∃ error, detach device ⟨.closed, world, journal⟩ =
      .error (.failed error) ⟨.closed, world, journal⟩ :=
  ⟨_, rfl⟩

/-- Whoever gets the device of an output leaves a closed output behind. -/
theorem closed_of_detach {frame after : Frame Output σ} (h : detach device frame = .ok () after) :
    after.book = .closed := by
  rcases frame with ⟨book, world, journal⟩
  cases book with
  | closed =>
    obtain ⟨error, hrefused⟩ := detach_of_closed device world journal
    rw [hrefused] at h
    cases h
  | opened writer =>
    have hframe : Holding (fun _ => True) (.opened writer) ⟨Output.opened writer, world, journal⟩ :=
      ⟨rfl, trivial⟩
    exact (Meets.of_ok (detach_meets (.trivially _) hframe) h).1

end Output

end FileWindow

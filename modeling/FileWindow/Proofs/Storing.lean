import FileWindow.Input.Operation
import FileWindow.Proofs.Bookkeeping
import FileWindow.Proofs.FileStream
import FileWindow.Proofs.FirstFailure
import FileWindow.Proofs.Rows
import Mathlib.Algebra.GroupWithZero.Nat

/-!
# Storing and fetching through a window

Bytes are written through a window in chunks, one write after the other, and read through a window
in reads of any lengths.  On a device that does with its data what is expected of it, the chunks
end up where the window begins, one behind the other, and the reads bring one piece after the other
of what is in the window.  How the bytes are cut on the one side has nothing to do with how they
are cut on the other.

Main definitions:

- Definition Device.Places, Device.Fetches, Device.Stores: devices that do what is expected of them.
- Definition Output.storing, Input.fetching: what is asked of an output, and of an input.
- Definition Output.Behind, Input.Ahead: how far storing and fetching have come.
- Definition Bytes.pieces: what reads of some lengths bring.

Main results:

- Theorem Output.run_storing: the data and the count after chunks were written through a window.
- Theorem Input.run_fetching: what reads through a window bring, until the window is exhausted.
-/

namespace FileWindow

variable {ρ σ : Type}

/-! ## Devices -/

/-- A device that tells and takes positions in its data, as far as a file has positions.  The worlds
of the device are told by a cursor and by data. -/
structure Device.Places (device : Device σ) (shows : Nat → Bytes → σ → Prop) : Prop where
  position : ∀ {cursor data world}, shows cursor data world →
    cursor < FileSystem.filePositionLimit →
      ∃ after, device.position world = .ok cursor after ∧ shows cursor data after
  seek : ∀ {cursor data world raw}, shows cursor data world → raw < FileSystem.filePositionLimit →
    ∃ after, device.seek (.start raw) world = .ok raw after ∧ shows raw data after

/-- A device that brings what it is asked for, as far as there are data. -/
structure Device.Fetches (device : Device σ) (shows : Nat → Bytes → σ → Prop) : Prop
    extends device.Places shows where
  read : ∀ {cursor data world}, shows cursor data world → ∀ length,
    ∃ after, device.readPatiently length world = .ok ((data.drop cursor).take length) after ∧
      shows (cursor + ((data.drop cursor).take length).length) data after

/-- A device that lays what it is given over its data, and leaves the data behind when it is
released. -/
structure Device.Stores (device : Device σ) (shows left : Nat → Bytes → σ → Prop) : Prop
    extends device.Places shows where
  write : ∀ {cursor data world}, shows cursor data world → ∀ bytes,
    ∃ after, device.write bytes world = .ok () after ∧
      shows (cursor + bytes.length) (Bytes.overlay data cursor bytes) after
  flush : ∀ {cursor data world}, shows cursor data world →
    ∃ after, device.flush world = .ok () after ∧ shows cursor data after
  close : ∀ {cursor data world}, shows cursor data world →
    ∃ after, device.close world = .ok () after ∧ left cursor data after

/-- A seek to the start of a window lands there. -/
theorem Window.seek_start {device : Device σ} (window : Window) (frame : Frame ρ σ) {world : σ}
    (limit : Option Nat) (hoffset : window.extent.offset < positionLimit)
    (hseek : device.seek (.start window.extent.offset) frame.world =
      .ok window.extent.offset world) :
    window.seek device 0 .start limit frame =
      .ok 0 ⟨frame.book, world, .sought window.name 0 .start window.extent.offset ::
        frame.journal⟩ := by
  have hdestination : window.extent.destination 0 .start 0 limit = .ok window.extent.offset := by
    refine Extent.destination_eq_ok_iff.mpr ⟨rfl, nofun, Int.le_refl 0, ?_, hoffset, ?_⟩
    · exact (Int.add_zero _).symm
    · exact fun bound _ => Int.natCast_nonneg bound
  have hcursor : window.cursorFor device 0 .start frame = .ok 0 frame := rfl
  rw [seek_of_destination_ok hcursor hdestination hseek, Nat.sub_self]

/-! ## Storing -/

namespace Output

/-- What is asked of an output that is to hold some chunks from an offset on. -/
def storing (offset : Nat) (chunks : List Bytes) : List Operation :=
  .setExtent offset (.bytes 0) :: .seek 0 .start ::
    chunks.map fun chunk => .write chunk chunk.length

variable {device : Device σ} {shows left : Nat → Bytes → σ → Prop}

/-- An output that stands behind what was written through its window, and counted it. -/
structure Behind (shows : Nat → Bytes → σ → Prop) (name : String) (offset written : Nat)
    (data : Bytes) (frame : Frame Output σ) : Prop where
  book : frame.book = .opened ⟨⟨name, ⟨offset, written⟩⟩, written⟩
  world : shows (offset + written) data frame.world

/-- One more chunk is written behind the others. -/
theorem perform_write_behind (hstores : device.Stores shows left) {name : String}
    {offset written : Nat} {data chunk : Bytes} {frame : Frame Output σ}
    (h : Behind shows name offset written data frame) (hlength : chunk.length ≤ maxTransfer)
    (hcount : written + chunk.length < positionLimit) :
    ∃ after, perform device (.write chunk chunk.length) frame = .ok .nothing after ∧
      Behind shows name offset (written + chunk.length)
        (Bytes.overlay data (offset + written) chunk) after := by
  rcases frame with ⟨book, world, journal⟩
  obtain rfl : book = _ := h.book
  have hresult := write_opened device chunk chunk.length ⟨⟨name, ⟨offset, written⟩⟩, written⟩ world
    journal
  by_cases hnone : chunk = []
  · subst hnone
    exact ⟨_, Action.native_of_ok .done hresult, h⟩
  obtain ⟨after, hwrite, hafter⟩ := hstores.write h.world chunk
  have hvalid : (!validLength chunk.length || decide (chunk.length > chunk.length)) = false := by
    simp [validLength, hlength]
  rw [if_neg (mt List.length_eq_zero_iff.mp hnone), hvalid, if_neg Bool.false_ne_true,
    List.take_length, hwrite] at hresult
  dsimp only at hresult
  rw [if_pos hcount] at hresult
  refine ⟨_, Action.native_of_ok .done hresult, ?_, ?_⟩
  · simp only [Writer.count, Writer.withLength, Nat.max_eq_right (Nat.le_add_right _ _)]
  · rw [← Nat.add_assoc]
    exact hafter

/-- Chunks are written one behind the other, as if they were one. -/
theorem run_writes_behind (hstores : device.Stores shows left) {name : String}
    {offset written : Nat} {data : Bytes} {chunks : List Bytes} {frame : Frame Output σ}
    (h : Behind shows name offset written data frame)
    (hchunks : ∀ chunk ∈ chunks, chunk.length ≤ maxTransfer)
    (hcount : written + chunks.flatten.length < positionLimit) :
    ∃ after, Action.runAll (perform device)
        (chunks.map fun chunk => .write chunk chunk.length) frame =
          .ok (chunks.map fun _ => .ok .nothing) after ∧
      Behind shows name offset (written + chunks.flatten.length)
        (Bytes.overlay data (offset + written) chunks.flatten) after := by
  induction chunks generalizing written data frame with
  | nil => exact ⟨frame, rfl, h⟩
  | cons chunk chunks ih =>
    obtain ⟨hlength, hrest⟩ := List.forall_mem_cons.mp hchunks
    rw [List.flatten_cons, List.length_append] at hcount
    obtain ⟨between, hperform, hbetween⟩ :=
      perform_write_behind hstores h hlength (by omega)
    obtain ⟨after, hrun, hafter⟩ := ih hbetween hrest (by omega)
    refine ⟨after, Action.runAll_cons_of_ok (Action.observe_of_ok hperform) hrun, ?_⟩
    rw [← Nat.add_assoc, Bytes.overlay_overlay, Nat.add_assoc] at hafter
    rw [List.flatten_cons, List.length_append]
    exact hafter

/-- A seek to the start of an extent that was just set leaves the books as they are. -/
theorem seek_narrowed {offset : Nat} {world moved : σ} (name : String) (journal : Journal)
    (hoffset : offset < positionLimit)
    (hseek : device.seek (.start offset) world = .ok offset moved) :
    seek device 0 .start ⟨.opened ⟨⟨name, ⟨offset, 0⟩⟩, 0⟩, world, journal⟩ =
      .ok 0 ⟨.opened ⟨⟨name, ⟨offset, 0⟩⟩, 0⟩, moved, .sought name 0 .start offset :: journal⟩ := by
  have haim : (Writer.mk ⟨name, ⟨offset, 0⟩⟩ 0).aim 0 .start = ⟨⟨name, ⟨offset, 0⟩⟩, 0⟩ := rfl
  have hmove := Window.seek_start ⟨name, ⟨offset, 0⟩⟩
    ⟨opened ⟨⟨name, ⟨offset, 0⟩⟩, 0⟩, world, journal⟩ none hoffset hseek
  rw [seek, writer_bind]
  simp only [Bind.bind, EStateM.bind, haim, hmove]
  rfl

/-- Whatever extent an output has, the chunks are stored where they are to be, and their bytes are
counted. -/
theorem run_storing (hstores : device.Stores shows left) {offset cursor : Nat} {data : Bytes}
    {chunks : List Bytes} {writer : Writer} {frame : Frame Output σ}
    (hbook : frame.book = .opened writer) (hworld : shows cursor data frame.world)
    (hoffset : offset < FileSystem.filePositionLimit)
    (hchunks : ∀ chunk ∈ chunks, chunk.length ≤ maxTransfer)
    (hcount : chunks.flatten.length < positionLimit) :
    ∃ after, run device (storing offset chunks) frame =
        .ok (.ok .nothing :: .ok (.number 0) :: chunks.map fun _ => .ok .nothing) after ∧
      Behind shows writer.window.name offset chunks.flatten.length
        (Bytes.overlay data offset chunks.flatten) after := by
  rcases frame with ⟨book, world, journal⟩
  obtain rfl : book = .opened writer := hbook
  obtain ⟨moved, hseek, hmoved⟩ := hstores.seek hworld hoffset
  have hnarrowed : perform device (.setExtent offset (.bytes 0)) ⟨opened writer, world, journal⟩ =
      .ok .nothing ⟨opened ⟨⟨writer.window.name, ⟨offset, 0⟩⟩, 0⟩, world,
        .extentSet writer.window.name ⟨offset, 0⟩ :: journal⟩ := rfl
  have hsought := Action.native_of_ok .number (seek_narrowed writer.window.name
    (.extentSet writer.window.name ⟨offset, 0⟩ :: journal) (Stream.lt_positionLimit_of_lt hoffset)
    hseek)
  have hbehind : Behind shows writer.window.name offset 0 data
      ⟨opened ⟨⟨writer.window.name, ⟨offset, 0⟩⟩, 0⟩, moved,
        .sought writer.window.name 0 .start offset ::
          .extentSet writer.window.name ⟨offset, 0⟩ :: journal⟩ := ⟨rfl, hmoved⟩
  obtain ⟨after, hrun, hafter⟩ := run_writes_behind hstores hbehind hchunks (by omega)
  rw [Nat.zero_add] at hafter
  exact ⟨after, Action.runAll_cons_of_ok (Action.observe_of_ok hnarrowed)
    (Action.runAll_cons_of_ok (Action.observe_of_ok hsought) hrun), hafter⟩

/-- A close leaves what was stored behind. -/
theorem perform_close_behind (hstores : device.Stores shows left) {name : String}
    {offset written : Nat} {data : Bytes} {frame : Frame Output σ}
    (h : Behind shows name offset written data frame) :
    ∃ closed, perform device .close frame = .ok .nothing closed ∧ closed.book = .closed ∧
      left (offset + written) data closed.world := by
  obtain ⟨flushed, hflush, hflushed⟩ := hstores.flush h.world
  obtain ⟨released, hclose, hreleased⟩ := hstores.close hflushed
  have hclosed : close device frame =
      .ok () ⟨.closed, released, .closing name :: frame.journal⟩ := by
    rw [close_eq, h.book]
    simp only [ending, Call.told, Call.left, hflush, hclose]
    rfl
  exact ⟨_, Action.native_of_ok .done hclosed, rfl, hreleased⟩

end Output

/-! ## Fetching -/

namespace Bytes

/-- What reads of some lengths bring, one after the other, of some bytes. -/
def pieces : List Nat → Bytes → List Bytes
  | [], _ => []
  | length :: lengths, bytes => bytes.take length :: pieces lengths (bytes.drop length)

/-- Together the pieces are what the bytes begin with. -/
theorem flatten_pieces (lengths : List Nat) (bytes : Bytes) :
    (pieces lengths bytes).flatten = bytes.take lengths.sum := by
  induction lengths generalizing bytes with
  | nil => rfl
  | cons length lengths ih =>
    rw [pieces, List.flatten_cons, ih, List.sum_cons, List.take_add]

end Bytes

namespace Input

/-- What is asked of an input that is to bring so many bytes from an offset on.  Each read is told
by its length and by the room for it. -/
def fetching (offset length : Nat) (reads : List (Nat × Nat)) : List Operation :=
  .setExtent offset (.bytes length) :: .seek 0 .start ::
    reads.map fun read => .read read.1 read.2

variable {device : Device σ} {shows : Nat → Bytes → σ → Prop}

/-- An input that has some bytes of its window still ahead. -/
structure Ahead (shows : Nat → Bytes → σ → Prop) (reader : Reader) (data rest : Bytes)
    (frame : Frame Input σ) : Prop where
  book : frame.book = .opened reader
  world : ∃ taken, taken ≤ reader.window.extent.length ∧
    shows (reader.window.extent.offset + taken) data frame.world ∧
    rest = (data.drop (reader.window.extent.offset + taken)).take
      (reader.window.extent.length - taken)

/-- Behind a piece of what was ahead, the rest of it is ahead. -/
theorem Ahead.of_taken {reader : Reader} {data rest : Bytes} {taken length : Nat}
    {frame : Frame Input σ} (hbook : frame.book = .opened reader)
    (htaken : taken ≤ reader.window.extent.length)
    (hrest : rest = (data.drop (reader.window.extent.offset + taken)).take
      (reader.window.extent.length - taken))
    (hworld : shows (reader.window.extent.offset + taken + (rest.take length).length) data
      frame.world) :
    Ahead shows reader data (rest.drop length) frame := by
  have hpiece : (rest.take length).length ≤ reader.window.extent.length - taken := by
    rw [hrest, List.length_take, List.length_take]
    omega
  have hdrop : rest.drop length = rest.drop (rest.take length).length := by
    rw [List.length_take]
    rcases Nat.le_total length rest.length with hle | hle
    · rw [Nat.min_eq_left hle]
    · rw [Nat.min_eq_right hle, List.drop_length, List.drop_eq_nil_of_le hle]
  refine ⟨hbook, taken + (rest.take length).length, by omega, ?_, ?_⟩
  · rw [← Nat.add_assoc]
    exact hworld
  · rw [hdrop, ← Nat.add_assoc, ← List.drop_drop, Nat.sub_add_eq, ← List.drop_take, ← hrest]

/-- A read takes its length from what is ahead, or all of it. -/
theorem perform_read_ahead (hfetches : device.Fetches shows) {reader : Reader} {data rest : Bytes}
    {frame : Frame Input σ} (h : Ahead shows reader data rest frame)
    (hlimit : reader.window.extent.offset + reader.window.extent.length <
      FileSystem.filePositionLimit)
    {length room : Nat} (hlength : length ≤ maxTransfer) (hroom : length ≤ room) :
    ∃ after, perform device (.read length room) frame = .ok (.counted (rest.take length)) after ∧
      Ahead shows reader data (rest.drop length) after := by
  rcases frame with ⟨book, world, journal⟩
  obtain rfl : book = _ := h.book
  obtain ⟨taken, htaken, hworld, hrest⟩ := h.world
  obtain ⟨told, hposition, htold⟩ := hfetches.position hworld (by omega)
  have hvalid : (!validLength length || decide (length > room)) = false := by
    simp [validLength, hlength, hroom]
  have hpiece : rest.take length = (data.drop (reader.window.extent.offset + taken)).take
      (min length (reader.window.extent.length - taken)) := by
    rw [hrest, List.take_take]
  have hresult := read_opened device length room reader world journal
  rw [hvalid, if_neg Bool.false_ne_true, hposition] at hresult
  dsimp only at hresult
  rw [if_neg (by omega), Nat.add_sub_cancel_left] at hresult
  by_cases hnone : min length (reader.window.extent.length - taken) = 0
  · have hempty : rest.take length = [] := by rw [hpiece, hnone, List.take_zero]
    rw [if_pos hnone, ← hempty] at hresult
    refine ⟨_, Action.native_of_ok .counted hresult, .of_taken rfl htaken hrest ?_⟩
    rw [hempty]
    exact htold
  · obtain ⟨after, hread, hafter⟩ :=
      hfetches.read htold (min length (reader.window.extent.length - taken))
    rw [← hpiece] at hread hafter
    rw [if_neg hnone, hread] at hresult
    exact ⟨_, Action.native_of_ok .counted hresult, .of_taken rfl htaken hrest hafter⟩

/-- Reads take one piece after the other from what is ahead. -/
theorem run_reads_ahead (hfetches : device.Fetches shows) {reader : Reader} {data rest : Bytes}
    {frame : Frame Input σ} (h : Ahead shows reader data rest frame)
    (hlimit : reader.window.extent.offset + reader.window.extent.length <
      FileSystem.filePositionLimit)
    {reads : List (Nat × Nat)} (hreads : ∀ read ∈ reads, read.1 ≤ maxTransfer ∧ read.1 ≤ read.2) :
    ∃ after, Action.runAll (perform device) (reads.map fun read => .read read.1 read.2) frame =
        .ok ((Bytes.pieces (reads.map Prod.fst) rest).map fun piece => .ok (.counted piece)) after ∧
      Ahead shows reader data (rest.drop (reads.map Prod.fst).sum) after := by
  induction reads generalizing rest frame with
  | nil => exact ⟨frame, rfl, h⟩
  | cons read reads ih =>
    obtain ⟨⟨hlength, hroom⟩, hrest⟩ := List.forall_mem_cons.mp hreads
    obtain ⟨between, hperform, hbetween⟩ := perform_read_ahead hfetches h hlimit hlength hroom
    obtain ⟨after, hrun, hafter⟩ := ih hbetween hrest
    refine ⟨after, Action.runAll_cons_of_ok (Action.observe_of_ok hperform) hrun, ?_⟩
    rw [List.map_cons, List.sum_cons, ← List.drop_drop]
    exact hafter

/-- Whatever extent an input has, reads behind a seek to the start of a new one bring what is in it,
one piece after the other. -/
theorem run_fetching (hfetches : device.Fetches shows) {offset length cursor : Nat} {data : Bytes}
    {reads : List (Nat × Nat)} {reader : Reader} {frame : Frame Input σ}
    (hbook : frame.book = .opened reader) (hworld : shows cursor data frame.world)
    (hlimit : offset + length < FileSystem.filePositionLimit)
    (hreads : ∀ read ∈ reads, read.1 ≤ maxTransfer ∧ read.1 ≤ read.2) :
    ∃ after, run device (fetching offset length reads) frame =
        .ok (.ok .nothing :: .ok (.number 0) ::
          (Bytes.pieces (reads.map Prod.fst) ((data.drop offset).take length)).map
            fun piece => .ok (.counted piece)) after ∧
      Ahead shows { reader with window.extent := ⟨offset, length⟩ } data
        (((data.drop offset).take length).drop (reads.map Prod.fst).sum) after := by
  rcases frame with ⟨book, world, journal⟩
  obtain rfl : book = .opened reader := hbook
  obtain ⟨moved, hseek, hmoved⟩ := hfetches.seek hworld (by omega : offset < _)
  have hnarrowed : perform device (.setExtent offset (.bytes length))
      ⟨opened reader, world, journal⟩ =
      .ok .nothing ⟨opened { reader with window.extent := ⟨offset, length⟩ }, world,
        .extentSet reader.window.name ⟨offset, length⟩ :: journal⟩ := rfl
  have hsought := Action.native_of_ok .number (Window.seek_start
    ⟨reader.window.name, ⟨offset, length⟩⟩
    ⟨opened { reader with window.extent := ⟨offset, length⟩ }, world,
      .extentSet reader.window.name ⟨offset, length⟩ :: journal⟩ (some length)
    (Stream.lt_positionLimit_of_lt (by omega : offset < _)) hseek)
  have hahead : Ahead shows { reader with window.extent := ⟨offset, length⟩ } data
      ((data.drop offset).take length)
      ⟨opened { reader with window.extent := ⟨offset, length⟩ }, moved,
        .sought reader.window.name 0 .start offset ::
          .extentSet reader.window.name ⟨offset, length⟩ :: journal⟩ :=
    ⟨rfl, 0, Nat.zero_le _, hmoved, rfl⟩
  obtain ⟨after, hrun, hafter⟩ := run_reads_ahead hfetches hahead hlimit hreads
  exact ⟨after, Action.runAll_cons_of_ok (Action.observe_of_ok hnarrowed)
    (Action.runAll_cons_of_ok (Action.observe_of_ok hsought) hrun), hafter⟩

end Input

end FileWindow

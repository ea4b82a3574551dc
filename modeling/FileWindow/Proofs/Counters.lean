import FileWindow.Proofs.InputWords
import FileWindow.Proofs.OutputWords
import FileWindow.Proofs.Position

/-!
# What leaves the range of words

A device may tell any position that a word holds.  Whatever it tells, positions, lengths and counts
stay words: the sums and differences of seeks, reads and extents are exact, or they are refused.
There is one exception.  A write adds its length to the count without a check, and where the sum is
no word it halts, behind bytes that were written already.  An extent that was unset counts the
position that the device told for its end, so a single byte is enough.

Main definitions:

- Definitions SeeksExactly and TakesRestExactly: seeks and extents that are computed without loss.
- Definitions Input.StaysInRange and Output.StaysInRange: what stays within words, and what leaves
  them.
- Definition Stream.PlansWords: a stream that tells any word.

Main results:

- Theorems Window.exact_of_seek and Window.exists_of_narrow_rest: windows compute without loss.
- Theorems Input.Reached.fitting and Output.Reached.fitting: what is reached is made of words.
- Theorem only_counts_leave_range: counts leave the range, and nothing else does.
- Theorem Output.write_leaves_range: a byte that does so.
-/

namespace FileWindow

variable {ρ σ : Type} {device : Device σ} {holds : σ → Prop}

open FileWindow.Action (Fitting isOverflow)

/-! ## What is computed without loss -/

/-- A seek that answers was sent to the sum of the offset and its goal, which is a word, and answers
how far behind the offset the device landed. -/
def SeeksExactly (device : Device σ) (extent : ρ → Extent)
    (move : Int → Whence → Action FileError ρ σ Nat) (frame : Frame ρ σ) : Prop :=
  ∀ distance whence position after, move distance whence frame = .ok position after →
    ∃ (cursor raw : Nat) (asked : σ),
      (whence = .current → device.position frame.world = .ok cursor asked) ∧
      (whence ≠ .current → asked = frame.world) ∧
      (raw : Int) = (extent after.book).offset + (extent after.book).goal distance whence cursor ∧
      raw < positionLimit ∧
      device.seek (.start raw) asked = .ok ((extent after.book).offset + position) after.world

/-- An extent that is set to the rest ends where the device told that the raw data end. -/
def TakesRestExactly (device : Device σ) (extent : ρ → Extent)
    (set : Nat → ExtentLength → Action FileError ρ σ Unit) (frame : Frame ρ σ) : Prop :=
  ∀ offset after, set offset .rest frame = .ok () after →
    ∃ size world, device.size frame.world = .ok (some size) world ∧
      (extent after.book).offset = offset ∧ offset + (extent after.book).length = size

namespace Window

variable {frame after : Frame ρ σ}

/-- A seek within a window is computed without loss. -/
theorem exact_of_seek {window : Window} {distance : Int} {whence : Whence} {limit : Option Nat}
    {position : Nat} (h : window.seek device distance whence limit frame = .ok position after) :
    ∃ (cursor raw : Nat) (asked : σ),
      (whence = .current → device.position frame.world = .ok cursor asked) ∧
      (whence ≠ .current → asked = frame.world) ∧
      (raw : Int) = window.extent.offset + window.extent.goal distance whence cursor ∧
      raw < positionLimit ∧
      device.seek (.start raw) asked = .ok (window.extent.offset + position) after.world := by
  obtain ⟨cursor, asked, raw, hcursor, hdestination, hseek, -⟩ := exists_of_seek h
  obtain ⟨hdistance, hlimit, hraw⟩ := Extent.destination_lt hdestination
  have hlikely : plausibleDistance distance = true := decide_eq_true hdistance
  refine ⟨cursor, raw, asked.world, fun hwhence => ?_, fun hwhence => ?_, hraw, hlimit, hseek⟩
  · rw [cursorFor, if_pos ⟨hwhence, hlikely⟩] at hcursor
    obtain ⟨world, hposition, rfl⟩ := Action.exists_of_call hcursor
    exact hposition
  · rw [cursorFor, if_neg fun h => hwhence h.1] at hcursor
    cases hcursor
    rfl

/-- A window that is narrowed to the rest ends where the device told that the raw data end. -/
theorem exists_of_narrow_rest {window narrowed : Window} {offset : Nat}
    (h : window.narrow device offset .rest frame = .ok narrowed after) :
    ∃ size world, device.size frame.world = .ok (some size) world ∧
      narrowed.extent.offset = offset ∧ offset + narrowed.extent.length = size := by
  obtain ⟨rest, between, hlength, hreported⟩ := Action.exists_of_bind h
  obtain ⟨size, measured, hrequired, haccept⟩ := Action.exists_of_bind hlength
  obtain ⟨told, asked, hsize, hknown⟩ := Action.exists_of_bind hrequired
  obtain ⟨world, hmeasured, -⟩ := Action.exists_of_call hsize
  obtain ⟨hrest, -⟩ := Action.eq_of_accept haccept
  cases hreported
  cases told with
  | none => cases hknown
  | some total =>
    cases hknown
    exact ⟨_, world, hmeasured, rfl, Extent.rest_eq_ok_iff.mp hrest⟩

end Window

/-! ## Inputs -/

namespace Input

variable {frame after : Frame Input σ}

/-- An input that answers an operation that asks for an open one is open. -/
theorem exists_of_reader {α : Type} {operation : OpenOperation}
    {next : Reader → Action FileError Input σ α} {answer : α}
    (h : (Input.reader operation >>= next) frame = .ok answer after) :
    ∃ reader, frame.book = .opened reader ∧ next reader frame = .ok answer after := by
  cases hbook : frame.book with
  | closed =>
    rcases frame with ⟨book, world, journal⟩
    obtain rfl : book = .closed := hbook
    cases h
  | opened reader =>
    rw [reader_bind_of_opened _ hbook] at h
    exact ⟨reader, rfl, h⟩

/-- The seeks of an input are computed without loss. -/
theorem seeksExactly (device : Device σ) (frame : Frame Input σ) :
    SeeksExactly device extent (seek device) frame := by
  intro distance whence position after h
  obtain ⟨reader, hbook, hseek⟩ := exists_of_reader h
  obtain ⟨hafter, -⟩ :=
    (seek_keeps device.keeps_trivially distance whence frame ⟨hbook, trivial⟩).of_ok h
  rw [hafter]
  exact Window.exact_of_seek hseek

/-- So are its extents. -/
theorem takesRestExactly (device : Device σ) (frame : Frame Input σ) :
    TakesRestExactly device extent (setExtent device) frame := by
  intro offset after h
  obtain ⟨reader, -, hset⟩ := exists_of_reader h
  obtain ⟨window, between, hnarrow, hkeeps⟩ := Action.exists_of_bind hset
  cases hkeeps
  exact Window.exists_of_narrow_rest hnarrow

/-- Everything that an input comes to stays within words, and nothing overflows. -/
structure StaysInRange (device : Device σ) (frame : Frame Input σ) : Prop where
  fits : frame.book.Fits
  answers : ∀ operation, operation.Fits → ∀ value after,
    perform device operation frame = .ok value after → value.Fits
  seeks : SeeksExactly device extent (seek device) frame
  rests : TakesRestExactly device extent (setExtent device) frame
  overflows : ∀ operation, operation.Fits → isOverflow (perform device operation frame) = false

/-- An input begins within words, and stays there. -/
theorem Reached.fitting (hdevice : device.TellsWords holds)
    (h : Reached device Operation.Fits holds frame) : Fitting Fits holds frame := by
  apply Action.Reached.holds h
  · rintro frame (⟨hbook, hworld⟩ | ⟨name, before, after, hbefore, hattach, hworld⟩)
    · exact ⟨hbook ▸ trivial, hworld⟩
    · obtain ⟨size, hmeasured, hbook, -, hafter⟩ :=
        (attach_meets hdevice.size name hbefore).of_ok hattach
      have hsize := hdevice.measured_lt hbefore hmeasured
      exact ⟨hbook ▸ ⟨⟨Nat.zero_lt_of_lt hsize, hsize⟩, hsize⟩, hworld ▸ hafter⟩
  · intro operation hoperation frame outcome after hframe hstep
    exact ((perform_inWords hdevice hoperation hframe).observe.of_ok hstep).2
  · exact fun frame world hframe hworld => ⟨hframe.1, hworld⟩

theorem Reached.staysInRange (hdevice : device.TellsWords holds)
    (h : Reached device Operation.Fits holds frame) : StaysInRange device frame where
  fits := (Reached.fitting hdevice h).1
  answers operation hoperation value after hanswer :=
    ((perform_inWords hdevice hoperation (Reached.fitting hdevice h)).of_ok hanswer).1
  seeks := seeksExactly device frame
  rests := takesRestExactly device frame
  overflows operation hoperation := by
    have hwords := perform_inWords hdevice hoperation (Reached.fitting hdevice h)
    exact Bool.eq_false_iff.mpr fun hoverflow => hwords.of_isOverflow hoverflow

end Input

/-! ## Outputs -/

namespace Output

variable {frame : Frame Output σ}

/-- The seeks of an output are computed without loss. -/
theorem seeksExactly (device : Device σ) (frame : Frame Output σ) :
    SeeksExactly device extent (seek device) frame := by
  intro distance whence position after h
  obtain ⟨writer, between, -, hseek, rfl⟩ := exists_of_seek h
  have hexact := Window.exact_of_seek hseek
  exact hexact

/-- So are its extents. -/
theorem takesRestExactly (device : Device σ) (frame : Frame Output σ) :
    TakesRestExactly device extent (setExtent device) frame := by
  intro offset after h
  obtain ⟨writer, -, hset⟩ := exists_of_writer h
  obtain ⟨window, between, hnarrow, hkeeps⟩ := Action.exists_of_bind hset
  cases hkeeps
  exact Window.exists_of_narrow_rest hnarrow

/-- Everything that an output comes to stays within words but for its count, which leaves them
exactly where a write that the device takes is added to it and the sum is no word. -/
structure StaysInRange (device : Device σ) (frame : Frame Output σ) : Prop where
  fits : frame.book.Fits
  answers : ∀ operation, operation.Fits → ∀ value after,
    perform device operation frame = .ok value after → value.Fits
  seeks : SeeksExactly device extent (seek device) frame
  rests : TakesRestExactly device extent (setExtent device) frame
  counts : ∀ buffer length after, write device buffer length frame = .ok () after →
    after.book.written = frame.book.written + length ∧ after.book.written < positionLimit
  takesBack : TakesBack device frame
  overflows : ∀ operation, operation.Fits → isOverflow (perform device operation frame) = true →
    0 < operation.amount ∧ positionLimit ≤ frame.book.written + operation.amount
  writes : ∀ buffer length, isOverflow (write device buffer length frame) = true ↔
    ∃ writer world, frame.book = .opened writer ∧ 0 < length ∧ length ≤ maxTransfer ∧
      length ≤ buffer.length ∧ device.write (buffer.take length) frame.world = .ok () world ∧
      positionLimit ≤ writer.written + length

/-- An output begins within words, and stays there as long as it does not halt. -/
theorem Reached.fitting (hdevice : device.TellsWords holds)
    (h : Reached device Operation.Fits holds frame) : Fitting Fits holds frame := by
  apply Action.Reached.holds h
  · rintro frame (⟨hbook, hworld⟩ | ⟨name, before, after, hbefore, hattach, hworld⟩)
    · exact ⟨hbook ▸ trivial, hworld⟩
    · obtain ⟨hbook, -, hafter⟩ := (attach_meets hdevice.size name hbefore).of_ok hattach
      have hsize : (device.measured before.world).getD 0 < positionLimit := by
        cases hmeasured : device.measured before.world with
        | none => exact positionLimit_pos
        | some size => exact hdevice.measured_lt hbefore hmeasured
      have hzero := Nat.zero_lt_of_lt hsize
      exact ⟨hbook ▸ ⟨⟨hzero, hsize⟩, hzero⟩, hworld ▸ hafter⟩
  · intro operation hoperation frame outcome after hframe hstep
    exact ((perform_inWords hdevice hoperation hframe).observe.of_ok hstep).2
  · exact fun frame world hframe hworld => ⟨hframe.1, hworld⟩

theorem Reached.staysInRange (hdevice : device.TellsWords holds)
    (h : Reached device Operation.Fits holds frame) : StaysInRange device frame where
  fits := (Reached.fitting hdevice h).1
  answers operation hoperation value after hanswer :=
    ((perform_inWords hdevice hoperation (Reached.fitting hdevice h)).of_ok hanswer).1
  seeks := seeksExactly device frame
  rests := takesRestExactly device frame
  counts buffer length after hwrite := by
    have hafter :=
      ((write_inWords hdevice buffer length (Reached.fitting hdevice h)).of_ok hwrite).2
    exact ⟨(written_of_write hwrite).1, hafter.1.written_lt⟩
  takesBack := takesBack device frame
  overflows operation hoperation hoverflow := by
    have hframe := Reached.fitting hdevice h
    have hcount := (perform_inWords hdevice hoperation hframe).of_isOverflow hoverflow
    have hwritten := hframe.1.written_lt
    exact ⟨by omega, hcount⟩
  writes _ _ := isOverflow_write_iff

end Output

/-! ## Streams that tell any word -/

namespace Stream

/-- The plan for seeks puts the cursor nowhere but where a word tells. -/
def PlansWords (stream : Stream) : Prop :=
  ∀ position, Reply.number position ∈ stream.seekPlan → position < positionLimit

/-- A stream tells nothing but words, if its plan does. -/
theorem device_tellsWords : Stream.device.TellsWords PlansWords := by
  have hkeeps : Stream.device.Keeps PlansWords :=
    device_keeps_seekPlan (fun plan => ∀ position, Reply.number position ∈ plan →
      position < positionLimit) fun plan hplan position hposition =>
        hplan position (List.mem_of_mem_tail hposition)
  have hseek : ∀ {target stream landed after}, PlansWords stream →
      seek target stream = .ok landed after → landed < positionLimit := by
    intro target stream landed after hplan h
    unfold seek at h
    split at h
    · exact (eq_target_of_move h).2
    next reply seekPlan hseekPlan =>
      cases reply with
      | asUsual => exact (eq_target_of_move h).2
      | number position =>
        cases h
        exact hplan _ (hseekPlan ▸ List.mem_cons_self)
      | fails fault => cases h
  refine ⟨hkeeps, fun _ h => h, hseek, ?_⟩
  intro stream total after hplan h
  simp only [Stream.device, size] at h
  cases hsaved : seek (.current 0) stream with
  | error fault told =>
    rw [hsaved] at h
    cases h
  | ok saved told =>
    simp only [hsaved] at h
    have htold := (hkeeps.seek (.current 0)).of_ok hplan hsaved
    cases hend : seek (.finish 0) told with
    | error fault ended =>
      rw [hend] at h
      cases h
    | ok length ended =>
      simp only [hend] at h
      split at h
      · cases h
      · cases h
        exact hseek htold hend

end Stream

/-! ## All that leaves the range -/

/-- Whatever words its device tells, and whatever becomes of its operations, a resource stays within
words, but for the count of an output. -/
theorem only_counts_leave_range (hdevice : device.TellsWords holds) :
    (∀ frame, Input.Reached device Input.Operation.Fits holds frame →
      Input.StaysInRange device frame) ∧
    ∀ frame, Output.Reached device Output.Operation.Fits holds frame →
      Output.StaysInRange device frame :=
  ⟨fun _ => Input.Reached.staysInRange hdevice, fun _ => Output.Reached.staysInRange hdevice⟩

/-- A stream that tells the last of all words for its end.  Its output counts up to there, and goes
back to the start. -/
theorem only_counts_leave_range_of_three_bytes :
    ∃ (stream : Stream) (input : Frame Input Stream) (before after : Frame Output Stream),
      stream = { Stream.plain [1, 2, 3] 0 with
        seekPlan := [.asUsual, .asUsual, .asUsual, .number 0xffffffffffffffff] } ∧
      Input.attach Stream.device "in" ⟨(), stream, []⟩ =
        .ok input.book ⟨(), input.world, input.journal⟩ ∧
      Output.attach Stream.device "out" ⟨(), stream, []⟩ =
        .ok before.book ⟨(), before.world, before.journal⟩ ∧
      Output.run Stream.device [.unsetExtent, .seek 0 .start] before =
        .ok [.ok (.number 0xffffffffffffffff), .ok (.number 0)] after ∧
      Input.StaysInRange Stream.device input ∧ Output.StaysInRange Stream.device after := by
  obtain ⟨stream, hstream⟩ : ∃ stream : Stream, stream = { Stream.plain [1, 2, 3] 0 with
      seekPlan := [.asUsual, .asUsual, .asUsual, .number 0xffffffffffffffff] } := ⟨_, rfl⟩
  have hwords : stream.PlansWords := by
    rw [hstream]
    intro position hposition
    simp only [List.mem_cons, reduceCtorEq, Reply.number.injEq, List.not_mem_nil, false_or,
      or_false] at hposition
    rw [hposition]
    decide
  have hinput : Input.attach Stream.device "in" ⟨(), stream, []⟩ =
      .ok (.opened ⟨⟨"in", ⟨0, 3⟩⟩, 3⟩) ⟨(),
        { Stream.plain [1, 2, 3] 0 with seekPlan := [.number 0xffffffffffffffff] },
        [.opened "in" 3]⟩ := by
    rw [hstream]
    rfl
  have houtput : Output.attach Stream.device "out" ⟨(), stream, []⟩ =
      .ok (.opened ⟨⟨"out", ⟨0, 3⟩⟩, 0⟩) ⟨(),
        { Stream.plain [1, 2, 3] 0 with seekPlan := [.number 0xffffffffffffffff] },
        [.opened "out" 3]⟩ := by
    rw [hstream]
    rfl
  have hrun : Output.run Stream.device [.unsetExtent, .seek 0 .start]
      ⟨.opened ⟨⟨"out", ⟨0, 3⟩⟩, 0⟩,
        { Stream.plain [1, 2, 3] 0 with seekPlan := [.number 0xffffffffffffffff] },
        [.opened "out" 3]⟩ =
      .ok [.ok (.number 0xffffffffffffffff), .ok (.number 0)]
        ⟨.opened ⟨⟨"out", ⟨0, 0xffffffffffffffff⟩⟩, 0xffffffffffffffff⟩, .plain [1, 2, 3] 0,
          [.sought "out" 0 .start 0, .extentUnset "out" 0xffffffffffffffff,
            .opened "out" 3]⟩ := rfl
  have hrange := only_counts_leave_range Stream.device_tellsWords
  refine ⟨stream, ⟨_, _, _⟩, ⟨_, _, _⟩, _, hstream, hinput, houtput, hrun, ?_, ?_⟩
  · exact hrange.1 _ (.started (.inr ⟨"in", _, _, hwords, hinput, rfl⟩))
  · apply hrange.2
    refine Action.Reached.runAll (.started (.inr ⟨"out", _, _, hwords, houtput, rfl⟩)) ?_ hrun
    simp [Output.Operation.Fits]

/-- The same output has counted as many bytes as a word tells, and one more is written. -/
theorem Output.write_leaves_range :
    attach Stream.device "out"
        ⟨(), { Stream.plain [1, 2, 3] 0 with
          seekPlan := [.asUsual, .asUsual, .asUsual, .number 0xffffffffffffffff] }, []⟩ =
      .ok (.opened ⟨⟨"out", ⟨0, 3⟩⟩, 0⟩) ⟨(),
        { Stream.plain [1, 2, 3] 0 with seekPlan := [.number 0xffffffffffffffff] },
        [.opened "out" 3]⟩ ∧
    run Stream.device [.unsetExtent, .seek 0 .start]
        ⟨.opened ⟨⟨"out", ⟨0, 3⟩⟩, 0⟩,
          { Stream.plain [1, 2, 3] 0 with seekPlan := [.number 0xffffffffffffffff] },
          [.opened "out" 3]⟩ =
      .ok [.ok (.number 0xffffffffffffffff), .ok (.number 0)]
        ⟨.opened ⟨⟨"out", ⟨0, 0xffffffffffffffff⟩⟩, 0xffffffffffffffff⟩, .plain [1, 2, 3] 0,
          [.sought "out" 0 .start 0, .extentUnset "out" 0xffffffffffffffff, .opened "out" 3]⟩ ∧
    write Stream.device [9] 1
        ⟨.opened ⟨⟨"out", ⟨0, 0xffffffffffffffff⟩⟩, 0xffffffffffffffff⟩, .plain [1, 2, 3] 0,
          [.sought "out" 0 .start 0, .extentUnset "out" 0xffffffffffffffff, .opened "out" 3]⟩ =
      .error .overflow
        ⟨.opened ⟨⟨"out", ⟨0, 0xffffffffffffffff⟩⟩, 0xffffffffffffffff⟩, .plain [9, 2, 3] 1,
          [.sought "out" 0 .start 0, .extentUnset "out" 0xffffffffffffffff, .opened "out" 3]⟩ :=
  ⟨rfl, rfl, rfl⟩

end FileWindow

import FileWindow.Proofs.OverData

/-!
# Measuring

The raw data are measured in several ways.  A file looks its size up, a stream goes to its end and
back, and to unset the extent is to go to the end and stay there.  All of them come to the length of
the data as they are at the time, whatever the extent is and wherever the cursor stands, be it past
the end; and only the last one moves the cursor.  Nor does the extent that is set or unset depend on
the one before: of a row of such calls the last that answers counts.

Main definitions:

- Definition Device.Measures: a device that can be measured in all these ways.
- Definitions Input.MeasuresAlike and Output.MeasuresAlike: the ways to measure agree.
- Definition Action.LastCounts: a row of which the last call that answers counts.

Main results:

- Theorems Window.narrow_rest and Window.widen_measured: the windows that come of a measure.
- Theorems Stream.device_measures and FileSystem.device_measures: streams whose seeks follow no
  plan, and open regular files.
- Theorem Action.lastCounts_of_foreseen: where what a call comes to is decided beforehand, the last
  counts.
- Theorem measures_agree: all of this, for inputs and outputs on streams and on files.
-/

namespace FileWindow

variable {ε ρ σ α ω : Type}

/-! ## Devices that can be measured -/

/-- A device over data of some length: it tells that length and stays as it is, it goes to the end
and tells the length there, and it tells where its cursor stands. -/
structure Device.Measures (device : Device σ) (shows : Nat → Bytes → σ → Prop) : Prop where
  size : ∀ {cursor data world}, shows cursor data world →
    device.size world = .ok (some data.length) world
  finish : ∀ {cursor data world}, shows cursor data world →
    ∃ after, device.seek (.finish 0) world = .ok data.length after ∧ shows data.length data after
  position : ∀ {cursor data world}, shows cursor data world →
    device.position world = .ok cursor world
  isStandardOutput : device.isStandardOutput = false

namespace Stream

/-- A stream that can be positioned, whose seeks follow no plan, with a cursor and data. -/
structure Shows (cursor : Nat) (data : Bytes) (stream : Stream) : Prop where
  seekable : stream.seekable = true
  seekPlan : stream.seekPlan = []
  cursor_eq : stream.cursor = cursor
  data_eq : stream.data = data
  cursor_lt : cursor < positionLimit
  length_lt : data.length < positionLimit

/-- Such a stream is measured by going to its end and back. -/
theorem device_measures : Stream.device.Measures Shows where
  size := by
    rintro cursor data stream h
    obtain ⟨hseekable, hseeks, rfl, rfl, hcursor, hlength⟩ := h
    have hsaved : seek (.current 0) stream = .ok stream.cursor stream :=
      seek_of_seekable hseekable hseeks (Int.add_zero _) hcursor
    have hend : seek (.finish 0) stream =
        .ok stream.data.length { stream with cursor := stream.data.length } :=
      seek_of_seekable hseekable hseeks (Int.add_zero _) hlength
    have hback : seek (.start stream.cursor) { stream with cursor := stream.data.length } =
        .ok stream.cursor stream :=
      @seek_of_seekable { stream with cursor := stream.data.length } hseekable hseeks _ _ rfl
        hcursor
    simp only [Stream.device, size, hsaved, hend, hback]
  finish := by
    rintro cursor data stream h
    obtain ⟨hseekable, hseeks, rfl, rfl, hcursor, hlength⟩ := h
    exact ⟨_, seek_of_seekable hseekable hseeks (Int.add_zero _) hlength,
      ⟨hseekable, hseeks, rfl, rfl, hlength, hlength⟩⟩
  position := by
    rintro cursor data stream h
    obtain ⟨hseekable, hseeks, rfl, rfl, hcursor, hlength⟩ := h
    exact seek_of_seekable hseekable hseeks (Int.add_zero _) hcursor
  isStandardOutput := rfl

end Stream

namespace FileSystem

/-- An open regular file whose cursor and data are within the positions that files have. -/
structure ShowsWithin (handle : Nat) (readable writable : Bool) (cursor : Nat) (data : Bytes)
    (files : FileSystem) : Prop where
  shows : files.Shows handle readable writable cursor data
  cursor_lt : cursor < filePositionLimit
  length_lt : data.length < filePositionLimit

/-- An open regular file is measured by looking its size up. -/
theorem device_measures (handle : Nat) (readable writable : Bool) :
    (FileSystem.device handle).Measures (ShowsWithin handle readable writable) where
  size h := h.shows.size
  finish := by
    rintro cursor data files ⟨hshows, -, hlength⟩
    obtain ⟨after, hseek, hafter⟩ := hshows.seek (.finish 0) (Int.add_zero _) hlength
    exact ⟨after, hseek, hafter, hlength, hlength⟩
  position := by
    rintro cursor data files ⟨hshows, hcursor, -⟩
    obtain ⟨after, hseek, -⟩ := hshows.seek (.current 0) (Int.add_zero _) hcursor
    obtain hposition | ⟨fault, hposition⟩ := Shows.position_told hshows
    · exact hposition
    · cases hseek.symm.trans hposition
  isStandardOutput := rfl

end FileSystem

/-! ## Windows -/

namespace Window

variable {device : Device σ} {shows : Nat → Bytes → σ → Prop} {cursor : Nat} {data : Bytes}
  {book : ρ} {world : σ} {journal : Journal}

/-- The size that a window requires is the length of the data. -/
theorem requiredSize_measured (h : device.Measures shows) (hworld : shows cursor data world)
    (window : Window) :
    window.requiredSize device ⟨book, world, journal⟩ =
      .ok data.length ⟨book, world, journal⟩ := by
  have hsize : window.rawSize device (⟨book, world, journal⟩ : Frame ρ σ) =
      .ok (some data.length) ⟨book, world, journal⟩ :=
    Action.call_of_ok window.name .querySize (h.size hworld)
  exact Action.bind_of_ok hsize _

/-- A window that is narrowed to the rest ends where the data end. -/
theorem narrow_rest (h : device.Measures shows) (hworld : shows cursor data world)
    (window : Window) {offset length : Nat} (hlength : offset + length = data.length) :
    window.narrow device offset .rest ⟨book, world, journal⟩ =
      .ok ⟨window.name, ⟨offset, length⟩⟩
        ⟨book, world, .extentSet window.name ⟨offset, length⟩ :: journal⟩ := by
  have hrest : window.lengthAt device offset .rest (⟨book, world, journal⟩ : Frame ρ σ) =
      .ok length ⟨book, world, journal⟩ := by
    refine (Action.bind_of_ok (requiredSize_measured h hworld window) _).trans ?_
    rw [Extent.rest_eq_ok_iff.mpr hlength]
    rfl
  exact Action.bind_of_ok hrest _

/-- There is no rest behind the end of the data. -/
theorem narrow_rest_refused (h : device.Measures shows) (hworld : shows cursor data world)
    (window : Window) {offset : Nat} (hoffset : data.length < offset) :
    window.narrow device offset .rest ⟨book, world, journal⟩ =
      .error (.failed (.refused window.name .extentPastEnd)) ⟨book, world, journal⟩ := by
  have hrest : window.lengthAt device offset .rest (⟨book, world, journal⟩ : Frame ρ σ) =
      .error (.failed (.refused window.name .extentPastEnd)) ⟨book, world, journal⟩ := by
    refine (Action.bind_of_ok (requiredSize_measured h hworld window) _).trans ?_
    rw [Extent.rest, if_neg (Nat.not_le.mpr hoffset)]
    rfl
  exact Action.bind_of_error hrest _

/-- A window that is widened shows all of the data, and the cursor is left at their end. -/
theorem widen_measured (h : device.Measures shows) (hworld : shows cursor data world)
    (window : Window) (book : ρ) (journal : Journal) :
    ∃ after, shows data.length data after ∧
      window.widen device ⟨book, world, journal⟩ = .ok ⟨window.name, .whole data.length⟩
        ⟨book, after, .extentUnset window.name data.length :: journal⟩ := by
  obtain ⟨after, hseek, hafter⟩ := h.finish hworld
  have hcall : Action.call window.name .seek (device.seek (.finish 0))
      (⟨book, world, journal⟩ : Frame ρ σ) = .ok data.length ⟨book, after, journal⟩ :=
    Action.call_of_ok _ _ hseek
  exact ⟨after, hafter, Action.bind_of_ok hcall _⟩

/-- Where the whole of the data is shown, the position that is told is that of the cursor. -/
theorem tell_measured (h : device.Measures shows) (hworld : shows cursor data world)
    (name : String) (length : Nat) :
    tell device ⟨name, .whole length⟩ ⟨book, world, journal⟩ =
      .ok cursor ⟨book, world, journal⟩ := by
  rw [tell_apply, h.position hworld]
  rfl

end Window

/-! ## Resources -/

namespace Output

/-- All ways to measure this open output come to the length of the data.  Its size is asked for, and
everything stays as it is.  To set the extent to the rest leaves the world as it is, and is refused
iff the rest would begin behind the end.  To unset the extent leaves the cursor at the end, which is
told from then on for the position as for the size. -/
structure MeasuresAlike (device : Device σ) (shows : Nat → Bytes → σ → Prop) (data : Bytes)
    (writer : Writer) (world : σ) (journal : Journal) : Prop where
  size : size device ⟨.opened writer, world, journal⟩ =
    .ok data.length ⟨.opened writer, world, journal⟩
  rest : ∀ offset length, offset + length = data.length →
    setExtent device offset .rest ⟨.opened writer, world, journal⟩ =
      .ok () ⟨.opened ⟨⟨writer.window.name, ⟨offset, length⟩⟩, 0⟩, world,
        .extentSet writer.window.name ⟨offset, length⟩ :: journal⟩
  refused : ∀ offset, data.length < offset →
    setExtent device offset .rest ⟨.opened writer, world, journal⟩ =
      .error (.failed (.refused writer.window.name .extentPastEnd))
        ⟨.opened writer, world, journal⟩
  unset : ∃ reached : Frame Output σ,
    unsetExtent device ⟨.opened writer, world, journal⟩ = .ok data.length reached ∧
      reached.book = .opened ⟨⟨writer.window.name, ⟨0, data.length⟩⟩, data.length⟩ ∧
      shows data.length data reached.world ∧
      tell device reached = .ok data.length reached ∧
      Output.size device reached = .ok data.length reached

variable {device : Device σ} {shows : Nat → Bytes → σ → Prop} {cursor : Nat} {data : Bytes}

theorem size_measured (h : device.Measures shows) {world : σ} (hworld : shows cursor data world)
    (writer : Writer) (journal : Journal) :
    size device ⟨.opened writer, world, journal⟩ =
      .ok data.length ⟨.opened writer, world, journal⟩ := by
  have hsize : writer.window.rawSize device (⟨.opened writer, world, journal⟩ : Frame Output σ) =
      .ok (some data.length) ⟨.opened writer, world, journal⟩ :=
    Action.call_of_ok writer.window.name .querySize (h.size hworld)
  rw [size, Action.book_bind]
  simp only [h.isStandardOutput, Bool.false_eq_true, if_false]
  exact Action.bind_of_ok hsize _

/-- An output on a device that can be measured is measured alike. -/
theorem measuresAlike (h : device.Measures shows) {world : σ} (hworld : shows cursor data world)
    (writer : Writer) (journal : Journal) :
    MeasuresAlike device shows data writer world journal where
  size := size_measured h hworld writer journal
  rest offset length hlength := by
    rw [setExtent, writer_bind]
    exact Action.bind_of_ok (Window.narrow_rest h hworld writer.window hlength) _
  refused offset hoffset := by
    rw [setExtent, writer_bind]
    exact Action.bind_of_error (Window.narrow_rest_refused h hworld writer.window hoffset) _
  unset := by
    obtain ⟨after, hafter, hwiden⟩ :=
      Window.widen_measured h hworld writer.window (opened writer) journal
    refine ⟨⟨_, after, .extentUnset writer.window.name data.length :: journal⟩, ?_, rfl, hafter,
      ?_, size_measured h hafter _ _⟩
    · rw [unsetExtent, writer_bind]
      exact Action.bind_of_ok hwiden _
    · rw [tell, writer_bind]
      exact Window.tell_measured h hafter _ _

end Output

namespace Input

/-- All ways to measure this open input come to the length of the data.  To set the extent to the
rest leaves the world as it is, and is refused iff the rest would begin behind the end.  To unset
the extent leaves the cursor at the end, which is told from then on for the position as for the
size. -/
structure MeasuresAlike (device : Device σ) (shows : Nat → Bytes → σ → Prop) (data : Bytes)
    (reader : Reader) (world : σ) (journal : Journal) : Prop where
  rest : ∀ offset length, offset + length = data.length →
    setExtent device offset .rest ⟨.opened reader, world, journal⟩ =
      .ok () ⟨.opened ⟨⟨reader.window.name, ⟨offset, length⟩⟩, reader.openingSize⟩, world,
        .extentSet reader.window.name ⟨offset, length⟩ :: journal⟩
  refused : ∀ offset, data.length < offset →
    setExtent device offset .rest ⟨.opened reader, world, journal⟩ =
      .error (.failed (.refused reader.window.name .extentPastEnd))
        ⟨.opened reader, world, journal⟩
  unset : ∃ reached : Frame Input σ,
    unsetExtent device ⟨.opened reader, world, journal⟩ = .ok data.length reached ∧
      reached.book = .opened ⟨⟨reader.window.name, ⟨0, data.length⟩⟩, reader.openingSize⟩ ∧
      shows data.length data reached.world ∧
      tell device reached = .ok data.length reached ∧ size reached = .ok data.length reached

variable {device : Device σ} {shows : Nat → Bytes → σ → Prop} {cursor : Nat} {data : Bytes}

/-- An input on a device that can be measured is measured alike. -/
theorem measuresAlike (h : device.Measures shows) {world : σ} (hworld : shows cursor data world)
    (reader : Reader) (journal : Journal) :
    MeasuresAlike device shows data reader world journal where
  rest offset length hlength := by
    rw [setExtent, reader_bind]
    exact Action.bind_of_ok (Window.narrow_rest h hworld reader.window hlength) _
  refused offset hoffset := by
    rw [setExtent, reader_bind]
    exact Action.bind_of_error (Window.narrow_rest_refused h hworld reader.window hoffset) _
  unset := by
    obtain ⟨after, hafter, hwiden⟩ :=
      Window.widen_measured h hworld reader.window (opened reader) journal
    refine ⟨⟨_, after, .extentUnset reader.window.name data.length :: journal⟩, ?_, rfl, hafter,
      ?_, rfl⟩
    · rw [unsetExtent, reader_bind]
      exact Action.bind_of_ok hwiden _
    · rw [tell, reader_bind]
      exact Window.tell_measured h hafter _ _

end Input

/-! ## Rows of settings -/

namespace Action

variable {β : Type} {perform : ω → Action ε ρ σ α} {ready : Frame ρ σ → Prop} {part : ρ → β}
  {operation : ω}

/-- What a call makes of a part of the book is decided beforehand: it answers and makes the same of
it wherever it is made, or it fails and leaves it alone. -/
inductive Foreseen (perform : ω → Action ε ρ σ α) (ready : Frame ρ σ → Prop) (part : ρ → β)
    (operation : ω) : Prop
  | answers (made : β)
    (h : ∀ frame, ready frame → ∃ value after,
      perform operation frame = .ok value after ∧ ready after ∧ part after.book = made)
  | fails
    (h : ∀ frame, ready frame → ∃ error after,
      perform operation frame = .error (.failed error) after ∧ ready after ∧
        part after.book = part frame.book)

/-- None of the calls of a row answered, and the part is what it was. -/
structure NoneCounts (part : ρ → β) (outcomes : List (Except ε α)) (frame after : Frame ρ σ) :
    Prop where
  failed : ∀ outcome ∈ outcomes, ∃ error, outcome = .error error
  same : part after.book = part frame.book

/-- The calls of a row behind a last one have failed, that one answered, and alone it would make of
the part, wherever it is made, what the row has made of it. -/
structure OneCounts (perform : ω → Action ε ρ σ α) (ready : Frame ρ σ → Prop) (part : ρ → β)
    (row : List ω) (outcomes : List (Except ε α)) (after : Frame ρ σ) (earlier later : List ω)
    (last : ω) (before behind : List (Except ε α)) (value : α) : Prop where
  row_eq : row = earlier ++ last :: later
  outcomes_eq : outcomes = before ++ .ok value :: behind
  length_eq : before.length = earlier.length
  failed : ∀ outcome ∈ behind, ∃ error, outcome = .error error
  alone : ∀ frame, ready frame → ∃ value done,
    perform last frame = .ok value done ∧ part done.book = part after.book

/-- Of a row of calls the last one that answers counts, if there is any. -/
def LastCounts (perform : ω → Action ε ρ σ α) (ready : Frame ρ σ → Prop) (part : ρ → β)
    (row : List ω) (frame : Frame ρ σ) : Prop :=
  ∃ outcomes after, runAll perform row frame = .ok outcomes after ∧ ready after ∧
    (NoneCounts part outcomes frame after ∨
      ∃ earlier later last before behind value,
        OneCounts perform ready part row outcomes after earlier later last before behind value)

/-- A call that counted within a row counts behind another call as well. -/
theorem OneCounts.cons {row earlier later : List ω} {last : ω}
    {outcomes before behind : List (Except ε α)} {value : α} {after : Frame ρ σ}
    (h : OneCounts perform ready part row outcomes after earlier later last before behind value)
    (operation : ω) (outcome : Except ε α) :
    OneCounts perform ready part (operation :: row) (outcome :: outcomes) after
      (operation :: earlier) later last (outcome :: before) behind value where
  row_eq := by rw [h.row_eq, List.cons_append]
  outcomes_eq := by rw [h.outcomes_eq, List.cons_append]
  length_eq := by rw [List.length_cons, List.length_cons, h.length_eq]
  failed := h.failed
  alone := h.alone

/-- Where it is decided beforehand what each call makes of the part, the last that answers
counts. -/
theorem lastCounts_of_foreseen {row : List ω}
    (hforeseen : ∀ operation ∈ row, Foreseen perform ready part operation) {frame : Frame ρ σ}
    (hframe : ready frame) : LastCounts perform ready part row frame := by
  -- By induction on the row: a call that answers counts unless one behind it does.
  induction row generalizing frame with
  | nil => exact ⟨[], frame, rfl, hframe, .inl ⟨fun _ h => (nomatch h), rfl⟩⟩
  | cons operation row ih =>
    obtain ⟨hfirst, hrest⟩ := List.forall_mem_cons.mp hforeseen
    cases hfirst with
    | answers made hmade =>
      obtain ⟨value, between, hstep, hbetween, hpart⟩ := hmade frame hframe
      obtain ⟨outcomes, after, hrow, hafter, hcounts⟩ := ih hrest hbetween
      refine ⟨_, after, runAll_cons_of_ok (observe_of_ok hstep) hrow, hafter, .inr ?_⟩
      obtain hnone | ⟨earlier, later, last, before, behind, answer, hone⟩ := hcounts
      · refine ⟨[], row, operation, [], outcomes, value, rfl, rfl, rfl, hnone.failed, ?_⟩
        intro alone halone
        obtain ⟨answer, done, hdone, -, hsame⟩ := hmade alone halone
        exact ⟨answer, done, hdone, by rw [hsame, hnone.same, hpart]⟩
      · exact ⟨_, _, _, _, _, _, hone.cons operation _⟩
    | fails hfails =>
      obtain ⟨error, between, hstep, hbetween, hpart⟩ := hfails frame hframe
      obtain ⟨outcomes, after, hrow, hafter, hcounts⟩ := ih hrest hbetween
      refine ⟨_, after, runAll_cons_of_ok (observe_of_failed hstep) hrow, hafter, ?_⟩
      obtain hnone | ⟨earlier, later, last, before, behind, answer, hone⟩ := hcounts
      · refine .inl ⟨List.forall_mem_cons.mpr ⟨⟨error, rfl⟩, hnone.failed⟩, ?_⟩
        rw [hnone.same, hpart]
      · exact .inr ⟨_, _, _, _, _, _, hone.cons operation _⟩

end Action

open FileWindow.Action (Foreseen LastCounts)

namespace Output

/-- The operation sets the extent or unsets it. -/
def Operation.MovesExtent : Operation → Prop
  | .setExtent .. | .unsetExtent => True
  | _ => False

/-- The output is open, on a world that shows the data. -/
def OpenOver (shows : Nat → Bytes → σ → Prop) (data : Bytes) (frame : Frame Output σ) : Prop :=
  ∃ writer cursor, frame.book = .opened writer ∧ shows cursor data frame.world

variable {device : Device σ} {shows : Nat → Bytes → σ → Prop} {data : Bytes}

/-- What extent an operation sets is decided by the data, and not by the extent before. -/
theorem foreseen_of_movesExtent (h : device.Measures shows) (data : Bytes) {operation : Operation}
    (hmoves : operation.MovesExtent) :
    Foreseen (perform device) (OpenOver shows data) extent operation := by
  cases operation with
  | setExtent offset length =>
    cases length with
    | bytes length =>
      refine .answers ⟨offset, length⟩ ?_
      rintro ⟨-, world, journal⟩ ⟨writer, cursor, rfl, hworld⟩
      exact ⟨.nothing, _, rfl, ⟨_, cursor, rfl, hworld⟩, rfl⟩
    | rest =>
      rcases Nat.lt_or_ge data.length offset with hoffset | hoffset
      · refine .fails ?_
        rintro ⟨-, world, journal⟩ ⟨writer, cursor, rfl, hworld⟩
        have hset := (measuresAlike h hworld writer journal).refused offset hoffset
        exact ⟨_, _, Action.native_of_failed _ hset, ⟨writer, cursor, rfl, hworld⟩, rfl⟩
      · obtain ⟨length, hlength⟩ := Nat.exists_eq_add_of_le hoffset
        refine .answers ⟨offset, length⟩ ?_
        rintro ⟨-, world, journal⟩ ⟨writer, cursor, rfl, hworld⟩
        have hset := (measuresAlike h hworld writer journal).rest offset length hlength.symm
        exact ⟨_, _, Action.native_of_ok _ hset, ⟨_, cursor, rfl, hworld⟩, rfl⟩
  | unsetExtent =>
    refine .answers (.whole data.length) ?_
    rintro ⟨-, world, journal⟩ ⟨writer, cursor, rfl, hworld⟩
    obtain ⟨reached, hunset, hbook, hreached, -⟩ := (measuresAlike h hworld writer journal).unset
    refine ⟨_, reached, Action.native_of_ok _ hunset, ⟨_, _, hbook, hreached⟩, ?_⟩
    rw [hbook]
    rfl
  | _ => exact hmoves.elim

end Output

namespace Input

/-- The operation sets the extent or unsets it. -/
def Operation.MovesExtent : Operation → Prop
  | .setExtent .. | .unsetExtent => True
  | _ => False

/-- The input is open, on a world that shows the data. -/
def OpenOver (shows : Nat → Bytes → σ → Prop) (data : Bytes) (frame : Frame Input σ) : Prop :=
  ∃ reader cursor, frame.book = .opened reader ∧ shows cursor data frame.world

variable {device : Device σ} {shows : Nat → Bytes → σ → Prop} {data : Bytes}

/-- What extent an operation sets is decided by the data, and not by the extent before. -/
theorem foreseen_of_movesExtent (h : device.Measures shows) (data : Bytes) {operation : Operation}
    (hmoves : operation.MovesExtent) :
    Foreseen (perform device) (OpenOver shows data) extent operation := by
  cases operation with
  | setExtent offset length =>
    cases length with
    | bytes length =>
      refine .answers ⟨offset, length⟩ ?_
      rintro ⟨-, world, journal⟩ ⟨reader, cursor, rfl, hworld⟩
      exact ⟨.nothing, _, rfl, ⟨_, cursor, rfl, hworld⟩, rfl⟩
    | rest =>
      rcases Nat.lt_or_ge data.length offset with hoffset | hoffset
      · refine .fails ?_
        rintro ⟨-, world, journal⟩ ⟨reader, cursor, rfl, hworld⟩
        have hset := (measuresAlike h hworld reader journal).refused offset hoffset
        exact ⟨_, _, Action.native_of_failed _ hset, ⟨reader, cursor, rfl, hworld⟩, rfl⟩
      · obtain ⟨length, hlength⟩ := Nat.exists_eq_add_of_le hoffset
        refine .answers ⟨offset, length⟩ ?_
        rintro ⟨-, world, journal⟩ ⟨reader, cursor, rfl, hworld⟩
        have hset := (measuresAlike h hworld reader journal).rest offset length hlength.symm
        exact ⟨_, _, Action.native_of_ok _ hset, ⟨_, cursor, rfl, hworld⟩, rfl⟩
  | unsetExtent =>
    refine .answers (.whole data.length) ?_
    rintro ⟨-, world, journal⟩ ⟨reader, cursor, rfl, hworld⟩
    obtain ⟨reached, hunset, hbook, hreached, -⟩ := (measuresAlike h hworld reader journal).unset
    refine ⟨_, reached, Action.native_of_ok _ hunset, ⟨_, _, hbook, hreached⟩, ?_⟩
    rw [hbook]
    rfl
  | _ => exact hmoves.elim

end Input

/-! ## Streams and files -/

/-- On this world every open output and every open input is measured alike, whatever extent it has
and whatever it counts; and of a row of settings of the extent the last that answers counts. -/
structure MeasuresAlike (device : Device σ) (shows : Nat → Bytes → σ → Prop) (data : Bytes)
    (world : σ) : Prop where
  output : ∀ writer journal, Output.MeasuresAlike device shows data writer world journal
  input : ∀ reader journal, Input.MeasuresAlike device shows data reader world journal
  lastOfOutput : ∀ writer journal (row : List Output.Operation),
    (∀ operation ∈ row, operation.MovesExtent) →
      LastCounts (Output.perform device) (Output.OpenOver shows data) Output.extent row
        ⟨.opened writer, world, journal⟩
  lastOfInput : ∀ reader journal (row : List Input.Operation),
    (∀ operation ∈ row, operation.MovesExtent) →
      LastCounts (Input.perform device) (Input.OpenOver shows data) Input.extent row
        ⟨.opened reader, world, journal⟩

/-- So it is on a device that can be measured. -/
theorem Device.Measures.measuresAlike {device : Device σ} {shows : Nat → Bytes → σ → Prop}
    (h : device.Measures shows) {cursor : Nat} {data : Bytes} {world : σ}
    (hworld : shows cursor data world) : MeasuresAlike device shows data world where
  output writer journal := Output.measuresAlike h hworld writer journal
  input reader journal := Input.measuresAlike h hworld reader journal
  lastOfOutput writer _ _ hrow :=
    Action.lastCounts_of_foreseen
      (fun operation hoperation =>
        Output.foreseen_of_movesExtent h data (hrow operation hoperation))
      ⟨writer, cursor, rfl, hworld⟩
  lastOfInput reader _ _ hrow :=
    Action.lastCounts_of_foreseen
      (fun operation hoperation => Input.foreseen_of_movesExtent h data (hrow operation hoperation))
      ⟨reader, cursor, rfl, hworld⟩

/-- On a stream whose seeks follow no plan and on an open regular file, all ways to measure agree
with the data as they are, wherever the cursor stands. -/
theorem measures_agree (cursor : Nat) (data : Bytes) :
    (∀ stream : Stream, Stream.Shows cursor data stream →
      MeasuresAlike Stream.device Stream.Shows data stream) ∧
    ∀ (files : FileSystem) (handle : Nat) (readable writable : Bool),
      FileSystem.ShowsWithin handle readable writable cursor data files →
        MeasuresAlike (FileSystem.device handle)
          (FileSystem.ShowsWithin handle readable writable) data files :=
  ⟨fun _ hstream => Stream.device_measures.measuresAlike hstream,
    fun _ handle readable writable hfiles =>
      (FileSystem.device_measures handle readable writable).measuresAlike hfiles⟩

/-- Three bytes of a stream are cut to two while the cursor stands behind the third, and the cursor
of a file stands two positions behind its end. -/
theorem measures_agree_past_end :
    MeasuresAlike Stream.device Stream.Shows [1, 2] ((Stream.plain [1, 2, 3] 3).resize 2) ∧
      ∃ files : FileSystem,
        files = { FileSystem.withThreeBytes with opened := [⟨7, 5, true, true, true⟩] } ∧
        FileSystem.ShowsWithin 0 true true 5 [1, 2, 3] files ∧
        MeasuresAlike (FileSystem.device 0) (FileSystem.ShowsWithin 0 true true) [1, 2, 3]
          files := by
  have hstream : Stream.Shows 3 [1, 2] ((Stream.plain [1, 2, 3] 3).resize 2) :=
    ⟨rfl, rfl, rfl, rfl, by decide, by decide⟩
  have hfiles : FileSystem.ShowsWithin 0 true true 5 [1, 2, 3]
      { FileSystem.withThreeBytes with opened := [⟨7, 5, true, true, true⟩] } :=
    ⟨⟨7, 0o644, .ofBytes [1, 2, 3], rfl, rfl, rfl⟩, by decide, by decide⟩
  exact ⟨(measures_agree 3 [1, 2]).1 _ hstream, _, rfl, hfiles,
    (measures_agree 5 [1, 2, 3]).2 _ 0 true true hfiles⟩

end FileWindow

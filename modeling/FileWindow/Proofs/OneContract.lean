import FileWindow.Proofs.InputWhole
import FileWindow.Proofs.Opening
import FileWindow.Proofs.OutputWhole
import FileWindow.Proofs.StreamPace

/-!
# One contract

A resource on a file and a resource on a stream with the same data cannot be told apart.  Whatever
is asked of the two, they answer the same or fail with the same error, know the same of themselves,
and leave the same data behind, until they are closed and from then on.  It is enough that the
cursor of the stream stays where files have positions: then every seek that the stream lets through
leads to where the file can go.

Main definitions:

- Definition Stream.Near: the cursor of a stream is far from the last position of a file.
- Definition Agree: results on a stream and on an open file with the same answers, books and data.

Main results:

- Theorem Window.seek_plain: a seek that is let through leaves the cursor where it leads.
- Theorems Input.agree_run, Output.agree_run: runs of resources on the same data agree.
- Theorem openPath_agrees_with_stream: so do those of what is opened on a file and on a stream.
-/

namespace FileWindow

open FileWindow.Action (Ended Paired Same)

variable {ρ : Type}

/-! ## Seeks that are let through -/

/-- Two to the power of forty, far before the last position of a file. -/
def Stream.nearLimit : Nat := 0x10000000000

/-- The cursor is far from the last position of a file. -/
def Stream.Near (frame : Frame ρ Stream) : Prop :=
  frame.world.cursor < nearLimit

instance : DecidablePred (Stream.Near : Frame ρ Stream → Prop) :=
  fun _ => inferInstanceAs (Decidable (_ < _))

/-- Where no plan interferes, a seek that is let through leaves the cursor where it leads. -/
theorem Window.seek_plain {window : Window} {distance : Int} {whence : Whence}
    {limit : Option Nat} {data : Bytes} {cursor raw : Nat} (book : ρ) (journal : Journal)
    (hcursor : cursor < positionLimit)
    (h : Stream.device.Reaches 0 window.extent distance whence limit (.plain data cursor) raw) :
    ∃ position after,
      window.seek Stream.device distance whence limit ⟨book, .plain data cursor, journal⟩ =
        .ok position ⟨book, .plain data raw, after⟩ := by
  rcases h with ⟨near, hnear, hraw⟩
  rcases Extent.destination_eq_ok_iff.mp hraw with ⟨hlikely, -, hgoal, htarget, hlimit, -⟩
  have hasked : window.cursorFor Stream.device distance whence ⟨book, .plain data cursor, journal⟩ =
      .ok (if whence = .current then cursor else 0) ⟨book, .plain data cursor, journal⟩ := by
    unfold cursorFor
    by_cases hcurrent : whence = .current
    · rw [if_pos ⟨hcurrent, hlikely⟩, if_pos hcurrent]
      exact Action.call_of_ok _ _ (Stream.position_plain data hcursor)
    · rw [if_neg fun hask => hcurrent hask.1, if_neg hcurrent]
      rfl
  have hdestination : window.extent.destination distance whence
      (if whence = .current then cursor else 0) limit = .ok raw := by
    rw [← hraw]
    refine Extent.destination_congr limit fun hcurrent _ => ?_
    rcases hnear hcurrent with ⟨after, hposition⟩
    rw [Stream.position_plain data hcursor, Nat.zero_add] at hposition
    rw [if_pos hcurrent]
    injection hposition
  have hmove : ∀ journal, Action.call window.name .seek (Stream.device.seek (.start raw))
      (⟨book, .plain data cursor, journal⟩ : Frame ρ Stream) =
        .ok raw ⟨book, .plain data raw, journal⟩ :=
    fun journal => Action.call_of_ok _ _ (Stream.device_seek_plain data cursor hlimit)
  rw [seek_eq]
  simp only [Bind.bind, EStateM.bind, hasked, hdestination, Action.accept_ok, Pure.pure,
    EStateM.pure, hmove, Action.report_apply,
    logical_of_le (show window.extent.offset ≤ raw by omega)]
  exact ⟨_, _, rfl⟩

namespace Adapter

variable {σ : Type} {move : Int → Whence → Action FileError ρ σ Nat} {target : RawSeek}
  {distance : Int} {whence : Whence} {frame after : Frame ρ σ} {position : Nat}

/-- A seek of a resource that is let through is let through by way of the adapter. -/
theorem seek_of_ok (htarget : target.asSeek = some (distance, whence))
    (h : move distance whence frame = .ok position after) :
    seek move target frame = .ok position after := by
  rw [seek_eq, htarget]
  simp only [passing, Action.mapError, h]

/-- So is going back to the start. -/
theorem rewind_of_ok (h : move 0 .start frame = .ok position after) :
    rewind move frame = .ok () after := by
  have hseek : seek move (.start 0) frame = .ok position after :=
    seek_of_ok (by decide) h
  simp only [rewind, Bind.bind, EStateM.bind, hseek]
  rfl

end Adapter

/-! ## Runs -/

/-- Results on a stream and on an open file agree: both answer the same, or both leave the range of
counters if that is possible; the books are the same, and so are the data. -/
inductive Agree {α : Type} (overflows : Prop) (handle : Nat) :
    EStateM.Result (Stop Problem) (Frame ρ Stream) α →
      EStateM.Result (Stop Problem) (Frame ρ FileSystem) α → Prop
  | answered {answer : α} {book : ρ} {stream : Stream} {files : FileSystem}
      {journal journal' : Journal} (h : files.dataBehind? handle = some stream.data) :
      Agree overflows handle (.ok answer ⟨book, stream, journal⟩)
        (.ok answer ⟨book, files, journal'⟩)
  | overflowed {book : ρ} {stream : Stream} {files : FileSystem} {journal journal' : Journal}
      (hoverflows : overflows) (h : files.dataBehind? handle = some stream.data) :
      Agree overflows handle (.error .overflow ⟨book, stream, journal⟩)
        (.error .overflow ⟨book, files, journal'⟩)

/-- Where each step does the same on a stream and on an open file, runs agree. -/
theorem agree_runAll {ω : Type} {overflows : Prop} {handle : Nat}
    {Linked : Stream → FileSystem → Prop} {isOpen : ρ → Bool}
    {perform : ω → Action Problem ρ Stream Value}
    {perform' : ω → Action Problem ρ FileSystem Value}
    (hended : ∀ operation frame, Ended overflows (perform operation frame))
    (hstep : ∀ operation f g, Alongside Linked (Stream.SameData handle) isOpen f g →
      Stream.Near f → (∀ outcome after,
        (Action.observe (perform operation) : Action Problem ρ Stream _) f = .ok outcome after →
          Stream.Near after) →
      Paired (fun (_ _ : Problem) => False) (Alongside Linked (Stream.SameData handle) isOpen)
        (Same (Alongside Linked (Stream.SameData handle) isOpen))
        (Action.observe (perform operation) f) (Action.observe (perform' operation) g))
    {operations : List ω} {f : Frame ρ Stream} {g : Frame ρ FileSystem}
    (hlevel : Alongside Linked (Stream.SameData handle) isOpen f g)
    (hnear : Action.Throughout perform Stream.Near operations f) :
    Agree overflows handle (Action.runAll perform operations f)
      (Action.runAll perform' operations g) := by
  have hpaired : Paired (fun (_ _ : Problem) => False)
      (Alongside Linked (Stream.SameData handle) isOpen)
      (fun outcomes outcomes' f g => outcomes.map id = outcomes'.map id ∧
        Alongside Linked (Stream.SameData handle) isOpen f g)
      (Action.runAll perform operations f) (Action.runAll perform' operations g) :=
    Action.runAll_of_step (fun operation _ f g => hstep operation f g) hlevel hnear
  have hend := Ended.runAll hended operations f
  generalize Action.runAll perform operations f = result,
    Action.runAll perform' operations g = result' at hpaired hend
  cases hpaired with
  | @answered outcomes outcomes' f g h =>
    rcases f with ⟨book, stream, journal⟩
    rcases h with ⟨hsame, hbook, hworlds, -⟩
    rw [List.map_id, List.map_id] at hsame
    dsimp only at hbook hworlds
    subst hsame hbook
    exact .answered hworlds.dataBehind?_eq
  | failed he hframes => exact he.elim
  | @overflowed f g h =>
    rcases f with ⟨book, stream, journal⟩
    rcases h with ⟨hbook, hworlds, -⟩
    dsimp only at hbook hworlds
    subst hbook
    exact .overflowed hend hworlds.dataBehind?_eq
  | stalled hframes => exact hend.elim

/-! ## Inputs -/

namespace Input

/-- An operation whose seek is let through leaves behind what the seek leaves. -/
theorem perform_of_seek {σ : Type} {device : Device σ} {operation : Operation} {distance : Int}
    {whence : Whence} {frame after : Frame Input σ} {position : Nat}
    (hseeks : operation.seeks = some (distance, whence))
    (h : seek device distance whence frame = .ok position after) :
    ∃ value, perform device operation frame = .ok value after := by
  cases operation with
  | seek distance' whence' =>
    cases hseeks
    exact ⟨_, Action.native_of_ok _ h⟩
  | streamSeek target => exact ⟨_, Action.foreign_of_ok _ (Adapter.seek_of_ok hseeks h)⟩
  | streamPosition => exact ⟨_, Action.foreign_of_ok _ (Adapter.seek_of_ok hseeks h)⟩
  | streamRewind =>
    cases hseeks
    exact ⟨_, Action.foreign_of_ok _ (Adapter.rewind_of_ok h)⟩
  | tell | size | setExtent | unsetExtent | read | readExactly | readThenClose | close | closeAfter
  | streamRead | streamReadExactly | streamReadToEnd => cases hseeks

/-- Inputs on a stream and on an open file with the same data are level. -/
theorem level_of_shows {files : FileSystem} {handle : Nat} {data : Bytes} (input : Input)
    (journal journal' : Journal) (hshows : files.Shows handle true false 0 data)
    (hdata : data.length < FileSystem.filePositionLimit) :
    Level (Stream.fileBond handle true false) (Stream.SameData handle)
      ⟨input, .plain data 0, journal⟩ ⟨input, files, journal'⟩ :=
  ⟨rfl, ⟨data, 0, rfl, hshows.dataBehind?_eq⟩, fun _ => ⟨0, data, rfl, hshows, by decide, hdata⟩⟩

/-- Level inputs are ready for an operation after which the cursor of the stream is near. -/
theorem ready_of_near {handle : Nat} {operation : Operation} {f : Frame Input Stream}
    {g : Frame Input FileSystem}
    (h : Level (Stream.fileBond handle true false) (Stream.SameData handle) f g)
    (hnear : ∀ outcome after,
      (Action.observe (perform Stream.device operation) : Action Problem Input Stream _) f =
        .ok outcome after → Stream.Near after) :
    LevelFor (Stream.fileBond handle true false) (Stream.SameData handle) Stream.device
      operation.seeks f g := by
  rcases f with ⟨book, stream, journal⟩
  refine ⟨h, fun reader hbook distance whence hseeks raw hreaches => ?_⟩
  dsimp only at hbook hreaches
  subst hbook
  rcases h.2.2 rfl with ⟨cursor, data, hstream, -, hcursor, -⟩
  dsimp only at hstream
  subst hstream
  obtain ⟨position, after, hseek⟩ := Window.seek_plain (.opened reader : Input) journal
    (Stream.lt_positionLimit_of_lt hcursor) hreaches
  have hmoved : seek Stream.device distance whence ⟨.opened reader, .plain data cursor, journal⟩ =
      .ok position ⟨.opened reader, .plain data raw, after⟩ := by
    rw [seek, reader_bind, hseek]
  rcases perform_of_seek hseeks hmoved with ⟨value, hperform⟩
  exact Nat.lt_trans (hnear _ _ (Action.observe_of_ok hperform)) (by decide)

/-- Runs of level inputs agree, and no counter leaves its range. -/
theorem agree_run {handle : Nat} {operations : List Operation} {f : Frame Input Stream}
    {g : Frame Input FileSystem}
    (h : Level (Stream.fileBond handle true false) (Stream.SameData handle) f g)
    (hnear : Action.Throughout (perform Stream.device) Stream.Near operations f) :
    Agree False handle (run Stream.device operations f)
      (run (FileSystem.device handle) operations g) := by
  refine agree_runAll (fun operation frame => ?_) (fun operation f g hlevel _ hafter => ?_) h hnear
  · exact perform_ended (fun _ _ => Stream.device_steady _ _) operation
  · exact (perform_level Stream.fileBond_reads Stream.fileBond_whole operation).observe_same rfl _ _
      (ready_of_near hlevel hafter)

end Input

/-! ## Outputs -/

namespace Output

/-- An operation whose seek is let through leaves behind what the seek leaves. -/
theorem perform_of_seek {σ : Type} {device : Device σ} {operation : Operation} {distance : Int}
    {whence : Whence} {frame after : Frame Output σ} {position : Nat}
    (hseeks : operation.seeks = some (distance, whence))
    (h : seek device distance whence frame = .ok position after) :
    ∃ value, perform device operation frame = .ok value after := by
  cases operation with
  | seek distance' whence' =>
    cases hseeks
    exact ⟨_, Action.native_of_ok _ h⟩
  | streamSeek target => exact ⟨_, Action.foreign_of_ok _ (Adapter.seek_of_ok hseeks h)⟩
  | streamPosition => exact ⟨_, Action.foreign_of_ok _ (Adapter.seek_of_ok hseeks h)⟩
  | streamRewind =>
    cases hseeks
    exact ⟨_, Action.foreign_of_ok _ (Adapter.rewind_of_ok h)⟩
  | tell | size | setExtent | unsetExtent | write | overwrite | writeThenClose | flush | close
  | closeAfter | streamWrite | streamWriteAll | streamFlush => cases hseeks

/-- Outputs on a stream and on an open file with the same data are level. -/
theorem level_of_shows {files : FileSystem} {handle : Nat} {readable : Bool} {data : Bytes}
    (output : Output) (journal journal' : Journal)
    (hshows : files.Shows handle readable true 0 data)
    (hdata : data.length < FileSystem.filePositionLimit) :
    Level (Stream.fileBond handle readable true) (Stream.SameData handle)
      ⟨output, .plain data 0, journal⟩ ⟨output, files, journal'⟩ :=
  ⟨rfl, ⟨data, 0, rfl, hshows.dataBehind?_eq⟩, fun _ => ⟨data, 0, rfl, hshows, .inl hdata⟩⟩

/-- Level outputs are ready for an operation before and after which the cursor of the stream is
near: then the data end where the file has positions, or were already left behind. -/
theorem ready_of_near {handle : Nat} {readable : Bool} {operation : Operation}
    {f : Frame Output Stream} {g : Frame Output FileSystem}
    (h : Level (Stream.fileBond handle readable true) (Stream.SameData handle) f g)
    (hbefore : Stream.Near f)
    (hafter : ∀ outcome after,
      (Action.observe (perform Stream.device operation) : Action Problem Output Stream _) f =
        .ok outcome after → Stream.Near after) :
    LevelFor (Stream.fileBond handle readable true) (Stream.SameData handle) Stream.device
      operation.seeks f g := by
  rcases f with ⟨book, stream, journal⟩
  refine ⟨h, fun writer hbook => ?_⟩
  dsimp only at hbook
  subst hbook
  rcases h.2.2 rfl with ⟨data, cursor, hstream, hshows, hdata⟩
  dsimp only at hstream hshows
  subst hstream
  have hcursor : cursor < FileSystem.filePositionLimit := Nat.lt_trans hbefore (by decide)
  refine ⟨⟨cursor, data, rfl, hshows, hcursor, by omega⟩, ?_⟩
  intro distance whence hseeks raw hreaches
  obtain ⟨position, after, hseek⟩ := Window.seek_plain (.opened writer : Output) journal
    (Stream.lt_positionLimit_of_lt hcursor) hreaches
  have hmoved : seek Stream.device distance whence ⟨.opened writer, .plain data cursor, journal⟩ =
      .ok position ⟨.opened (writer.aim distance whence), .plain data raw, after⟩ := by
    rw [seek, writer_bind]
    simp only [Bind.bind, EStateM.bind, hseek]
    rfl
  rcases perform_of_seek hseeks hmoved with ⟨value, hperform⟩
  exact Nat.lt_trans (hafter _ _ (Action.observe_of_ok hperform)) (by decide)

/-- Runs of level outputs agree, or both counts leave their range at once. -/
theorem agree_run {handle : Nat} {readable : Bool} {operations : List Operation}
    {f : Frame Output Stream} {g : Frame Output FileSystem}
    (h : Level (Stream.fileBond handle readable true) (Stream.SameData handle) f g)
    (hnear : Action.Throughout (perform Stream.device) Stream.Near operations f) :
    Agree True handle (run Stream.device operations f)
      (run (FileSystem.device handle) operations g) := by
  refine agree_runAll (fun operation frame => ?_)
    (fun operation f g hlevel hbefore hafter => ?_) h hnear
  · exact perform_ended Stream.write_calm operation frame
  · exact (perform_level Stream.fileBond_writes Stream.fileBond_whole operation).observe_same rfl
      _ _ (ready_of_near hlevel hbefore hafter)

end Output

/-! ## Opened resources -/

/-- An output is always opened for writing. -/
@[simp]
theorem OpenOptions.write_output (mode : OutputMode) (permissions : Option Nat) :
    (output mode permissions).write = true := by
  cases mode <;> rfl

/-- Files and streams implement one contract.  A regular file that can be opened for reading, or
for output in one of the ways, is opened as the resource that a stream with the same data is opened
as: with the data the file had before, or without data where the file is emptied or made.  From
there on the two cannot be told apart.  Whatever they are asked for, each operation has the same
outcome in both, both know the same of themselves, and the file holds the data of the stream; inputs
answer or fail in every step, and outputs do so unless both counts leave their range at once.  The
data have to be such as a file can hold, and the stream has to keep its cursor near.  Since the
beginning of a row is a row, that holds after every step. -/
theorem openPath_agrees_with_stream (files : FileSystem) (path : String) (data : Bytes) (book : ρ)
    (journal journal' : Journal) (hdata : data.length < FileSystem.filePositionLimit) :
    (∀ opened, files.opening .reading path = .ok opened →
      opened.dataBehind? files.opened.length = some data →
        opened.nodes = files.nodes ∧ ∃ input after after',
          Input.openPath path ⟨book, files, journal⟩ =
            .ok (input, files.opened.length) ⟨book, opened, after⟩ ∧
          Input.attach Stream.device path ⟨book, .plain data 0, journal'⟩ =
            .ok input ⟨book, .plain data 0, after'⟩ ∧
          ∀ operations,
            Action.Throughout (Input.perform Stream.device) Stream.Near operations
              ⟨input, .plain data 0, after'⟩ →
            Agree False files.opened.length
              (Input.run Stream.device operations ⟨input, .plain data 0, after'⟩)
              (Input.run (FileSystem.device files.opened.length) operations
                ⟨input, opened, after⟩)) ∧
    ∀ mode permissions opened, files.opening (.output mode permissions) path = .ok opened →
      opened.dataBehind? files.opened.length = some data →
        (if mode = .update then opened.nodes = files.nodes else data = []) ∧
        ∃ output after after',
          Output.openPath path mode permissions ⟨book, files, journal⟩ =
            .ok (output, files.opened.length) ⟨book, opened, after⟩ ∧
          Output.attach Stream.device path ⟨book, .plain data 0, journal'⟩ =
            .ok output ⟨book, .plain data 0, after'⟩ ∧
          ∀ operations,
            Action.Throughout (Output.perform Stream.device) Stream.Near operations
              ⟨output, .plain data 0, after'⟩ →
            Agree True files.opened.length
              (Output.run Stream.device operations ⟨output, .plain data 0, after'⟩)
              (Output.run (FileSystem.device files.opened.length) operations
                ⟨output, opened, after⟩) := by
  have hsize : Stream.device.size (.plain data 0) = .ok (some data.length) (.plain data 0) :=
    Stream.size_plain data (by decide) (Stream.lt_positionLimit_of_lt hdata)
  constructor
  · intro opened hopening hbehind
    have hopens := FileSystem.opens_of_opening hopening
    refine ⟨hopens.nodes_eq rfl rfl, _, _, _,
      Input.openPath_of_opening book journal hopening hbehind, Input.attach_of_size path hsize,
      fun operations hnear => ?_⟩
    exact Input.agree_run (Input.level_of_shows _ _ _ (hopens.shows hbehind) hdata) hnear
  · intro mode permissions opened hopening hbehind
    have hopens := FileSystem.opens_of_opening hopening
    have hshows := hopens.shows hbehind
    rw [OpenOptions.write_output] at hshows
    refine ⟨?_, _, _, _, Output.openPath_of_opening book journal hopening hbehind,
      Output.attach_of_size path hsize, fun operations hnear => ?_⟩
    · cases mode with
      | update => exact hopens.nodes_eq rfl rfl
      | truncate => exact hopens.data_eq_nil (.inl rfl) hbehind
      | createNew => exact hopens.data_eq_nil (.inr ⟨rfl, rfl⟩) hbehind
    · exact Output.agree_run (Output.level_of_shows _ _ _ hshows hdata) hnear

/-- A result with an answer is that answer; this lets results be compared by running. -/
theorem eq_ok_of_toOption {ε α : Type} {result : Except ε α} {answer : α}
    (h : result.toOption = some answer) : result = .ok answer := by
  cases result with
  | ok value => exact congrArg Except.ok (Option.some.inj h)
  | error reason => cases h

/-- A file system with a file of three bytes. -/
def FileSystem.withThreeBytes : FileSystem :=
  fresh.create workplace "data" (.file 0o644 (.ofBytes [1, 2, 3]))

/-- The file of three bytes is read up to its end and past its closing, and it is opened for an
update, measured, written behind a gap, and closed. -/
theorem openPath_agrees_with_stream_of_three_bytes :
    ([1, 2, 3] : Bytes).length < FileSystem.filePositionLimit ∧
    (∃ opened input after after',
      FileSystem.withThreeBytes.opening .reading "data" = .ok opened ∧
      opened.dataBehind? 0 = some [1, 2, 3] ∧
      Input.openPath "data" ⟨(), FileSystem.withThreeBytes, []⟩ =
        .ok (input, 0) ⟨(), opened, after⟩ ∧
      Agree False 0
        (Input.run Stream.device
          [.read 2 2, .setExtent 1 .rest, .seek (-1) .finish, .streamReadToEnd, .unsetExtent,
            .size, .close, .tell]
          ⟨input, .plain [1, 2, 3] 0, after'⟩)
        (Input.run (FileSystem.device 0)
          [.read 2 2, .setExtent 1 .rest, .seek (-1) .finish, .streamReadToEnd, .unsetExtent,
            .size, .close, .tell]
          ⟨input, opened, after⟩)) ∧
    ∃ opened output after after',
      FileSystem.withThreeBytes.opening (.output .update none) "data" = .ok opened ∧
      opened.dataBehind? 0 = some [1, 2, 3] ∧
      Output.openPath "data" .update none ⟨(), FileSystem.withThreeBytes, []⟩ =
        .ok (output, 0) ⟨(), opened, after⟩ ∧
      Agree True 0
        (Output.run Stream.device
          [.size, .seek 5 .start, .write [9] 1, .setExtent 1 .rest, .streamRewind,
            .overwrite [7, 8] 2, .tell, .close, .flush]
          ⟨output, .plain [1, 2, 3] 0, after'⟩)
        (Output.run (FileSystem.device 0)
          [.size, .seek 5 .start, .write [9] 1, .setExtent 1 .rest, .streamRewind,
            .overwrite [7, 8] 2, .tell, .close, .flush]
          ⟨output, opened, after⟩) := by
  have hagrees := openPath_agrees_with_stream FileSystem.withThreeBytes "data" [1, 2, 3] () [] []
    (by decide)
  refine ⟨by decide, ?_, ?_⟩
  · have hopening : FileSystem.withThreeBytes.opening .reading "data" =
        .ok { FileSystem.withThreeBytes with opened := [⟨7, 0, true, false, true⟩] } :=
      eq_ok_of_toOption (by decide +kernel)
    obtain ⟨-, input, after, after', hopen, hattach, hruns⟩ :=
      hagrees.1 _ hopening (by decide +kernel)
    have hinput : Input.attach Stream.device "data" ⟨(), .plain [1, 2, 3] 0, []⟩ =
        .ok (.opened ⟨⟨"data", .whole 3⟩, 3⟩) ⟨(), .plain [1, 2, 3] 0, [.opened "data" 3]⟩ := rfl
    cases hinput.symm.trans hattach
    exact ⟨_, _, _, _, hopening, by decide +kernel, hopen, hruns _ (by decide +kernel)⟩
  · have hopening : FileSystem.withThreeBytes.opening (.output .update none) "data" =
        .ok { FileSystem.withThreeBytes with opened := [⟨7, 0, true, true, true⟩] } :=
      eq_ok_of_toOption (by decide +kernel)
    obtain ⟨-, output, after, after', hopen, hattach, hruns⟩ :=
      hagrees.2 _ _ _ hopening (by decide +kernel)
    have houtput : Output.attach Stream.device "data" ⟨(), .plain [1, 2, 3] 0, []⟩ =
        .ok (.opened ⟨⟨"data", .whole 3⟩, 0⟩) ⟨(), .plain [1, 2, 3] 0, [.opened "data" 3]⟩ := rfl
    cases houtput.symm.trans hattach
    exact ⟨_, _, _, _, hopening, by decide +kernel, hopen, hruns _ (by decide +kernel)⟩

end FileWindow

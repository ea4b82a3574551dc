import FileWindow.Proofs.Laying

/-!
# Seeking to the end of an output

The end of an output is where its count ends, and not where its data end.  A write counts its bytes
and a seek from the start counts up to its target, but a seek from the current position counts
nothing.  So where such a seek went past the count, the next write leaves data behind the end: a
seek to the end lands among bytes that were written before, and another write goes over them.

Main definitions:

- Definition Action.EachStep: what holds of every step of a row.
- Definition Output.OnWhole: an output that shows its data from the start.
- Definition Output.CountCovers: a count that reaches to the end of the data.
- Definitions Output.BeginsWithinCount and Output.StaysWithinCount: writes that begin within the
  count, and seeks that lead there.

Main results:

- Theorem Window.seek_lands: where a seek lands on a device over data.
- Theorem Output.perform_advances: what one operation does to the cursor, the data and the count.
- Theorem Output.covers_throughout_iff: the count covers the data iff each write began within it.
- Theorem Output.end_is_past_data_iff: outputs on empty streams and emptied files.
-/

namespace FileWindow

variable {ε ρ σ α ω : Type} {device : Device σ} {shows : Nat → Bytes → σ → Prop}

open FileWindow.Action (Meets Throughout)

/-- A write at the end of the data or behind it keeps them. -/
theorem Bytes.prefix_overlay {data : Bytes} {position : Nat} (hend : data.length ≤ position)
    (written : Bytes) : data <+: overlay data position written := by
  by_cases hwritten : written = []
  · have hsame : overlay data position written = data := by rw [hwritten, overlay_nil]
    exact ⟨[], by rw [List.append_nil, hsame]⟩
  · rw [overlay_of_ne_nil _ _ hwritten, resize, List.take_of_length_le hend, List.append_assoc,
      List.append_assoc]
    exact List.prefix_append _ _

/-! ## Conditions on steps -/

namespace Action

/-- Every step of a row that does not halt is of some sort, told by its operation and by the frame
that it begins with. -/
def EachStep (perform : ω → Action ε ρ σ α) (begins : ω → Frame ρ σ → Prop) :
    List ω → Frame ρ σ → Prop
  | [], _ => True
  | operation :: row, frame =>
    ∀ outcome after,
      (observe (perform operation) : Action ε ρ σ (Except ε α)) frame = .ok outcome after →
        begins operation frame ∧ EachStep perform begins row after

variable {perform : ω → Action ε ρ σ α} {begins : ω → Frame ρ σ → Prop}

/-- What holds of some operations in every frame holds of each step of them. -/
theorem EachStep.of_forall {row : List ω} (h : ∀ operation ∈ row, ∀ frame, begins operation frame)
    (frame : Frame ρ σ) : EachStep perform begins row frame := by
  induction row generalizing frame with
  | nil => trivial
  | cons operation row ih =>
    intro outcome after _
    obtain ⟨hoperation, hrow⟩ := List.forall_mem_cons.mp h
    exact ⟨hoperation frame, ih hrow after⟩

end Action

open FileWindow.Action (EachStep)

/-! ## Seeking and telling on a device over data -/

namespace Window

variable {frame : Frame ρ σ} {cursor : Nat} {data : Bytes}

/-- Asking for the cursor leaves everything as it is. -/
theorem cursorFor_stays (h : device.OverData shows) (window : Window) (distance : Int)
    (whence : Whence) (hworld : shows cursor data frame.world) :
    Meets
      (fun told after => after = frame ∧
        (whence = .current → plausibleDistance distance = true → told = cursor))
      (fun _ after => after.book = frame.book ∧ after.world = frame.world) (fun _ => False)
      (window.cursorFor device distance whence frame) := by
  unfold cursorFor
  by_cases hasked : whence = .current ∧ plausibleDistance distance = true
  · rw [if_pos hasked]
    obtain hposition | ⟨fault, hposition⟩ := h.position hworld
    · rw [Action.call_of_ok _ _ hposition]
      exact ⟨rfl, fun _ _ => rfl⟩
    · rw [Action.call_of_error _ _ hposition]
      exact ⟨rfl, rfl⟩
  · rw [if_neg hasked]
    exact ⟨rfl, fun hcurrent hlikely => absurd ⟨hcurrent, hlikely⟩ hasked⟩

/-- A seek lands where it was to go, as far into the data as the extent begins, or leaves everything
as it is but the journal. -/
theorem seek_lands (h : device.OverData shows) (window : Window) (distance : Int)
    (whence : Whence) (limit : Option Nat) (hworld : shows cursor data frame.world) :
    Meets
      (fun position after => after.book = frame.book ∧
        shows (window.extent.offset + position) data after.world ∧
        (position : Int) = window.extent.goal distance whence cursor ∧
        (whence = .finish → distance ≤ 0))
      (fun _ after => after.book = frame.book ∧ after.world = frame.world) (fun _ => False)
      (window.seek device distance whence limit frame) := by
  rw [seek_eq]
  refine Meets.bind (cursorFor_stays h window distance whence hworld) ?_
  rintro told _ ⟨rfl, htold⟩
  rw [Extent.destination_congr limit htold]
  cases hdestination : window.extent.destination distance whence cursor limit with
  | error reason => exact ⟨rfl, rfl⟩
  | ok raw =>
    obtain ⟨-, hback, hgoal, hraw, -, -⟩ := Extent.destination_eq_ok_iff.mp hdestination
    have hoffset : window.extent.offset ≤ raw := by omega
    rw [Action.accept_ok, pure_bind]
    obtain ⟨landed, after, hseek, hafter, hlanded⟩ | ⟨fault, hseek⟩ := h.seek hworld (.start raw)
    · obtain rfl : landed = raw := Int.ofNat_inj.mp hlanded
      rw [Action.bind_of_ok (Action.call_of_ok _ _ hseek),
        Action.bind_of_ok (Action.report_apply _ _), logical_of_le hoffset]
      refine ⟨rfl, ?_, by omega, hback⟩
      rw [Nat.add_sub_cancel' hoffset]
      exact hafter
    · rw [Action.bind_of_error (Action.call_of_error _ _ hseek)]
      exact ⟨rfl, rfl⟩

/-- Telling the position leaves everything as it is. -/
theorem tell_stays (h : device.OverData shows) (window : Window)
    (hworld : shows cursor data frame.world) :
    Meets (fun _ after => after = frame) (fun _ after => after = frame) (fun _ => False)
      (window.tell device frame) := by
  rw [tell_apply]
  obtain hposition | ⟨fault, hposition⟩ := h.position hworld
  · rw [hposition]
    simp only [logical]
    cases window.extent.logical cursor with
    | ok position => exact rfl
    | error reason => exact rfl
  · rw [hposition]
    exact rfl

end Window

/-! ## One operation -/

namespace Output

/-- The operations that write, seek, or ask. -/
def Operation.writesOrSeeks : Operation → Bool
  | .write .. | .seek .. | .tell | .size | .flush => true
  | _ => false

/-- An open output whose extent begins where its data begin. -/
structure OnWhole (shows : Nat → Bytes → σ → Prop) (writer : Writer) (cursor : Nat) (data : Bytes)
    (frame : Frame Output σ) : Prop where
  book : frame.book = .opened writer
  offset : writer.window.extent.offset = 0
  world : shows cursor data frame.world

/-- What an operation leaves: its bytes laid at the cursor and counted.  Nothing else changes the
data, nothing takes from the count, and a cursor within the count stays there unless a seek from the
current position leads past it. -/
def Advances (shows : Nat → Bytes → σ → Prop) (writer : Writer) (cursor : Nat) (data : Bytes)
    (operation : Operation) (after : Frame Output σ) : Prop :=
  ∃ writer' cursor',
    OnWhole shows writer' cursor' (Bytes.overlay data cursor operation.laid) after ∧
    writer.written ≤ writer'.written ∧
    (operation.laid ≠ [] → writer'.written = writer.written + operation.laid.length) ∧
    (cursor ≤ writer.written →
      (∀ distance, operation = .seek distance .current → cursor + distance ≤ writer.written) →
        cursor' ≤ writer'.written)

variable {writer : Writer} {cursor : Nat} {data : Bytes} {frame after : Frame Output σ}

/-- An operation that has no bytes to lay down and leaves book and world alone. -/
theorem OnWhole.advances (h : OnWhole shows writer cursor data frame) {operation : Operation}
    (hlaid : operation.laid = []) (hbook : after.book = frame.book)
    (hworld : after.world = frame.world) :
    Advances shows writer cursor data operation after := by
  refine ⟨writer, cursor, ⟨hbook.trans h.book, h.offset, ?_⟩, Nat.le_refl _,
    fun hsome => absurd hlaid hsome, fun hwithin _ => hwithin⟩
  rw [hlaid, Bytes.overlay_nil, hworld]
  exact h.world

/-- A seek that answers keeps the books that it calls for and puts the cursor where it was to go;
one that fails leaves books and world alone. -/
theorem seek_lands (h : device.OverData shows) (hframe : OnWhole shows writer cursor data frame)
    (distance : Int) (whence : Whence) :
    Meets
      (fun position after => OnWhole shows (writer.aim distance whence) position data after ∧
        (position : Int) = (writer.aim distance whence).window.extent.goal distance whence cursor ∧
        (whence = .finish → distance ≤ 0))
      (fun _ after => after.book = frame.book ∧ after.world = frame.world) (fun _ => False)
      (seek device distance whence frame) := by
  have hoffset : (writer.aim distance whence).window.extent.offset = 0 := by
    cases whence <;> exact hframe.offset
  rw [seek, writer_bind_of_opened _ hframe.book]
  refine Meets.bind (Window.seek_lands h (writer.aim distance whence).window distance whence none
    hframe.world) ?_
  rintro position after ⟨-, hworld, hposition, hback⟩
  rw [hoffset, Nat.zero_add] at hworld
  exact ⟨⟨rfl, hoffset, hworld⟩, hposition, hback⟩

/-- A seek counts up to its target if it goes there from the start, and lays nothing down. -/
theorem seek_advances (h : device.OverData shows) (hframe : OnWhole shows writer cursor data frame)
    (distance : Int) (whence : Whence) :
    Meets (fun _ => Advances shows writer cursor data (.seek distance whence))
      (fun _ => Advances shows writer cursor data (.seek distance whence)) (fun _ => False)
      (seek device distance whence frame) := by
  refine (seek_lands h hframe distance whence).imp ?_ ?_ fun _ hfalse => hfalse
  · rintro position after ⟨hafter, hposition, hback⟩
    refine ⟨writer.aim distance whence, position, hafter, ?_, nofun, fun hwithin hcurrent => ?_⟩
    · cases whence with
      | start => exact Nat.le_max_left _ _
      | current | finish => exact Nat.le_refl _
    · cases whence with
      | start =>
        have hwritten : (writer.aim distance .start).written =
            max writer.written distance.toNat := rfl
        have htarget : (position : Int) = distance := hposition
        omega
      | current =>
        have hwritten : (writer.aim distance .current).written = writer.written := rfl
        have htarget : (position : Int) =
            cursor - (writer.window.extent.offset : Int) + distance := hposition
        have hnear := hcurrent distance rfl
        have hwhole := hframe.offset
        omega
      | finish =>
        have hwritten : (writer.aim distance .finish).written = writer.written := rfl
        have htarget : (position : Int) = writer.written + distance := hposition
        have hbehind := hback rfl
        omega
  · exact fun _ after hafter => hframe.advances rfl hafter.1 hafter.2

/-- A write lays its bytes down and counts them, or is refused for their number. -/
theorem write_advances (h : device.OverData shows) (hframe : OnWhole shows writer cursor data frame)
    (buffer : Bytes) (length : Nat) :
    Meets (fun _ => Advances shows writer cursor data (.write buffer length))
      (fun _ => Advances shows writer cursor data (.write buffer length)) (fun _ => True)
      (write device buffer length frame) := by
  rcases frame with ⟨book, world, journal⟩
  obtain rfl : book = .opened writer := hframe.book
  rw [write_opened]
  by_cases hlength : length = 0
  · rw [if_pos hlength]
    have hlaid : (Operation.write buffer length).laid = [] := by
      rw [Operation.laid, hlength, List.take_zero, ite_self]
    exact hframe.advances hlaid rfl rfl
  rw [if_neg hlength]
  by_cases haccepted : length ≤ maxTransfer ∧ length ≤ buffer.length
  · have hvalid : ¬(!validLength length || decide (length > buffer.length)) = true :=
      fun hrefused => lengthRefused_iff.mp hrefused haccepted
    have hlaid : (Operation.write buffer length).laid = buffer.take length := if_pos haccepted
    have hcount : (buffer.take length).length = length := List.length_take_of_le haccepted.2
    obtain ⟨after, hwrite, hafter⟩ := h.write hframe.world (buffer.take length)
    rw [if_neg hvalid, hwrite]
    dsimp only
    by_cases hlimit : writer.written + length < positionLimit
    · rw [if_pos hlimit]
      have hwritten : (writer.count length).written = writer.written + length := rfl
      refine ⟨writer.count length, cursor + length, ⟨rfl, hframe.offset, ?_⟩, ?_, ?_, ?_⟩
      · rw [hlaid]
        rw [hcount] at hafter
        exact hafter
      · omega
      · rw [hlaid, hcount]
        exact fun _ => hwritten
      · intro hwithin _
        omega
    · rw [if_neg hlimit]
      trivial
  · rw [if_pos (lengthRefused_iff.mpr haccepted)]
    exact hframe.advances (if_neg haccepted) rfl rfl

/-- An operation that writes, seeks or asks advances the output, whatever comes of it. -/
theorem perform_advances (h : device.OverData shows)
    (hframe : OnWhole shows writer cursor data frame) {operation : Operation}
    (hoperation : operation.writesOrSeeks = true) :
    Meets (fun _ => Advances shows writer cursor data operation)
      (fun _ => Advances shows writer cursor data operation) (fun _ => True)
      (perform device operation frame) := by
  cases operation with
  | seek distance whence =>
    apply Meets.native
    exact (seek_advances h hframe distance whence).imp (fun _ _ hafter => hafter)
      (fun _ _ hafter => hafter) fun _ _ => trivial
  | write buffer length =>
    apply Meets.native
    exact write_advances h hframe buffer length
  | tell =>
    apply Meets.native
    rw [tell, writer_bind_of_opened _ hframe.book]
    refine (Window.tell_stays h writer.window hframe.world).imp ?_ ?_ fun _ _ => trivial
    · rintro _ _ rfl
      exact hframe.advances rfl rfl rfl
    · rintro _ _ rfl
      exact hframe.advances rfl rfl rfl
  | size =>
    apply Meets.native
    obtain ⟨size, hsize⟩ := h.size hframe.world
    rcases frame with ⟨book, world, journal⟩
    obtain rfl : book = .opened writer := hframe.book
    rw [Output.size, Action.book_bind]
    simp only [h.isStandardOutput, Bool.false_eq_true, if_false]
    rw [Window.rawSize, Action.bind_of_ok (Action.call_of_ok _ _ hsize)]
    exact hframe.advances rfl rfl rfl
  | flush =>
    apply Meets.native
    have hflush := h.flush hframe.world
    rcases frame with ⟨book, world, journal⟩
    obtain rfl : book = .opened writer := hframe.book
    rw [flush, Action.book_bind]
    simp only [Window.flush]
    rw [Action.call_of_ok _ _ hflush]
    exact hframe.advances rfl rfl rfl
  | _ => cases hoperation

/-! ## Whole runs -/

/-- The count reaches to the end of the data, or beyond. -/
def CountCovers (shows : Nat → Bytes → σ → Prop) (frame : Frame Output σ) : Prop :=
  ∃ cursor data, shows cursor data frame.world ∧ data.length ≤ frame.book.written

/-- If the operation is to lay bytes down, it begins within the count. -/
def BeginsWithinCount (shows : Nat → Bytes → σ → Prop) (operation : Operation)
    (frame : Frame Output σ) : Prop :=
  operation.laid ≠ [] →
    ∃ cursor data, shows cursor data frame.world ∧ cursor ≤ frame.book.written

/-- If the operation is a seek from the current position, it does not go past the count. -/
def StaysWithinCount (shows : Nat → Bytes → σ → Prop) (operation : Operation)
    (frame : Frame Output σ) : Prop :=
  ∀ distance, operation = .seek distance .current →
    ∃ cursor data, shows cursor data frame.world ∧ cursor + distance ≤ frame.book.written

/-- A seek to the end that answers lands where the count ends.  That is at the end of the data or
behind it iff the count covers the data, and then a write changes nothing that is there. -/
def EndsAtCount (device : Device σ) (shows : Nat → Bytes → σ → Prop) (frame : Frame Output σ) :
    Prop :=
  ∀ position after, seek device 0 .finish frame = .ok position after →
    ∃ cursor data, shows cursor data frame.world ∧ shows position data after.world ∧
      position = frame.book.written ∧ (data.length ≤ position ↔ CountCovers shows frame) ∧
      (data.length ≤ position → ∀ bytes, data <+: Bytes.overlay data position bytes)

namespace OnWhole

theorem countCovers_iff (h : device.OverData shows)
    (hframe : OnWhole shows writer cursor data frame) :
    CountCovers shows frame ↔ data.length ≤ writer.written := by
  have hwritten : frame.book.written = writer.written := by rw [hframe.book]; rfl
  constructor
  · rintro ⟨cursor', data', hworld, hcovers⟩
    obtain ⟨rfl, rfl⟩ := h.unique hframe.world hworld
    omega
  · intro hcovers
    exact ⟨cursor, data, hframe.world, by omega⟩

theorem beginsWithinCount_iff (h : device.OverData shows)
    (hframe : OnWhole shows writer cursor data frame) (operation : Operation) :
    BeginsWithinCount shows operation frame ↔ (operation.laid ≠ [] → cursor ≤ writer.written) := by
  have hwritten : frame.book.written = writer.written := by rw [hframe.book]; rfl
  constructor
  · intro hbegins hlaid
    obtain ⟨cursor', data', hworld, hwithin⟩ := hbegins hlaid
    obtain ⟨rfl, rfl⟩ := h.unique hframe.world hworld
    omega
  · intro hbegins hlaid
    have hwithin := hbegins hlaid
    exact ⟨cursor, data, hframe.world, by omega⟩

/-- A seek to the end lands where the count ends. -/
theorem endsAtCount (h : device.OverData shows) (hframe : OnWhole shows writer cursor data frame) :
    EndsAtCount device shows frame := by
  intro position after hseek
  obtain ⟨hafter, hposition, -⟩ := (seek_lands h hframe 0 .finish).of_ok hseek
  have htarget : (position : Int) = writer.written + 0 := hposition
  obtain rfl : position = writer.written := by omega
  have hwritten : frame.book.written = writer.written := by rw [hframe.book]; rfl
  refine ⟨cursor, data, hframe.world, hafter.world, hwritten.symm,
    (hframe.countCovers_iff h).symm, fun hcovers bytes => ?_⟩
  exact Bytes.prefix_overlay hcovers bytes

end OnWhole

/-- Laying bytes over data that the count covers leaves data that the count covers iff the bytes
began within the count. -/
theorem length_overlay_le_iff {bytes : Bytes} {written written' : Nat}
    (hcovers : data.length ≤ written) (hgrows : written ≤ written')
    (hcounts : bytes ≠ [] → written' = written + bytes.length) :
    (Bytes.overlay data cursor bytes).length ≤ written' ↔ (bytes ≠ [] → cursor ≤ written) := by
  by_cases hbytes : bytes = []
  · rw [hbytes, Bytes.overlay_nil]
    exact ⟨fun _ hsome => absurd rfl hsome, fun _ => by omega⟩
  · have hwritten := hcounts hbytes
    have hpos := List.length_pos_iff.mpr hbytes
    rw [Bytes.length_overlay _ _ hbytes]
    constructor
    · intro hend _
      omega
    · intro hbegins
      have hwithin := hbegins hbytes
      omega

/-- What an operation leaves is told by how it advances the output. -/
theorem advances_of_observe (h : device.OverData shows)
    (hframe : OnWhole shows writer cursor data frame) {operation : Operation}
    (hoperation : operation.writesOrSeeks = true) {outcome : Except Problem Value}
    (hstep : (Action.observe (perform device operation) :
      Action Problem Output σ (Except Problem Value)) frame = .ok outcome after) :
    Advances shows writer cursor data operation after := by
  have hadvances := (perform_advances h hframe hoperation).byOutcome hstep
  cases outcome with
  | ok value => exact hadvances
  | error problem => exact hadvances

/-- Where every frame of an output on the whole of its data is of some sort, a run of writes and
seeks comes through no others. -/
theorem throughout_of_onWhole (h : device.OverData shows) {holds : Frame Output σ → Prop}
    (hholds : ∀ {writer cursor data frame}, OnWhole shows writer cursor data frame → holds frame)
    {operations : List Operation}
    (hoperations : ∀ operation ∈ operations, operation.writesOrSeeks = true)
    (hframe : OnWhole shows writer cursor data frame) :
    Throughout (perform device) holds operations frame := by
  induction operations generalizing writer cursor data frame with
  | nil => exact hholds hframe
  | cons operation operations ih =>
    obtain ⟨hoperation, hrest⟩ := List.forall_mem_cons.mp hoperations
    refine ⟨hholds hframe, fun outcome after hstep => ?_⟩
    obtain ⟨writer', cursor', hafter, -⟩ := advances_of_observe h hframe hoperation hstep
    exact ih hrest hafter

/-- Where the count covers the data, it covers them throughout a run iff every write of the run
begins within the count. -/
theorem covers_throughout_iff (h : device.OverData shows) {operations : List Operation}
    (hoperations : ∀ operation ∈ operations, operation.writesOrSeeks = true)
    (hframe : OnWhole shows writer cursor data frame) (hcovers : data.length ≤ writer.written) :
    Throughout (perform device) (CountCovers shows) operations frame ↔
      EachStep (perform device) (BeginsWithinCount shows) operations frame := by
  induction operations generalizing writer cursor data frame with
  | nil =>
    constructor
    · exact fun _ => trivial
    · exact fun _ => (hframe.countCovers_iff h).mpr hcovers
  | cons operation operations ih =>
    obtain ⟨hoperation, hrest⟩ := List.forall_mem_cons.mp hoperations
    constructor
    · rintro ⟨-, hthrough⟩ outcome after hstep
      obtain ⟨writer', cursor', hafter, hgrows, hcounts, -⟩ :=
        advances_of_observe h hframe hoperation hstep
      have hcovers' := (hafter.countCovers_iff h).mp (hthrough outcome after hstep).first
      have hbegins := (length_overlay_le_iff hcovers hgrows hcounts).mp hcovers'
      exact ⟨(hframe.beginsWithinCount_iff h operation).mpr hbegins,
        (ih hrest hafter hcovers').mp (hthrough outcome after hstep)⟩
    · intro heach
      refine ⟨(hframe.countCovers_iff h).mpr hcovers, fun outcome after hstep => ?_⟩
      obtain ⟨writer', cursor', hafter, hgrows, hcounts, -⟩ :=
        advances_of_observe h hframe hoperation hstep
      obtain ⟨hbegins, hlater⟩ := heach outcome after hstep
      have hcovers' := (length_overlay_le_iff hcovers hgrows hcounts).mpr
        ((hframe.beginsWithinCount_iff h operation).mp hbegins)
      exact (ih hrest hafter hcovers').mpr hlater

/-- Where the cursor is within the count, every write of a run begins within it, unless a seek from
the current position goes past the count. -/
theorem begins_of_stays (h : device.OverData shows) {operations : List Operation}
    (hoperations : ∀ operation ∈ operations, operation.writesOrSeeks = true)
    (hframe : OnWhole shows writer cursor data frame) (hwithin : cursor ≤ writer.written)
    (hstays : EachStep (perform device) (StaysWithinCount shows) operations frame) :
    EachStep (perform device) (BeginsWithinCount shows) operations frame := by
  induction operations generalizing writer cursor data frame with
  | nil => trivial
  | cons operation operations ih =>
    obtain ⟨hoperation, hrest⟩ := List.forall_mem_cons.mp hoperations
    intro outcome after hstep
    obtain ⟨hstay, hlater⟩ := hstays outcome after hstep
    obtain ⟨writer', cursor', hafter, -, -, hcursor⟩ :=
      advances_of_observe h hframe hoperation hstep
    refine ⟨(hframe.beginsWithinCount_iff h operation).mpr fun _ => hwithin,
      ih hrest hafter (hcursor hwithin fun distance hseek => ?_) hlater⟩
    obtain ⟨cursor'', data'', hworld, hnear⟩ := hstay distance hseek
    obtain ⟨rfl, rfl⟩ := h.unique hframe.world hworld
    have hwritten : frame.book.written = writer.written := by rw [hframe.book]; rfl
    omega

/-! ## Freshly opened outputs -/

/-- What holds of a run of an output that was just opened without data, at some cursor. -/
structure EndLaw (device : Device σ) (shows : Nat → Bytes → σ → Prop) (cursor : Nat)
    (operations : List Operation) (frame : Frame Output σ) : Prop where
  /-- The count covers the data throughout iff each write begins within the count. -/
  covers_iff : Throughout (perform device) (CountCovers shows) operations frame ↔
    EachStep (perform device) (BeginsWithinCount shows) operations frame
  /-- From the start of the data on, only a seek from the current position can break this. -/
  covers_of_stays : cursor = 0 →
    EachStep (perform device) (StaysWithinCount shows) operations frame →
      Throughout (perform device) (CountCovers shows) operations frame
  /-- Whenever a seek to the end answers, it lands where the count ends. -/
  endsAtCount : Throughout (perform device) (EndsAtCount device shows) operations frame

/-- The law holds of any output on the whole of a device without data. -/
theorem OnWhole.endLaw (h : device.OverData shows) {operations : List Operation}
    (hoperations : ∀ operation ∈ operations, operation.writesOrSeeks = true)
    (hframe : OnWhole shows writer cursor [] frame) :
    EndLaw device shows cursor operations frame where
  covers_iff := covers_throughout_iff h hoperations hframe (Nat.zero_le _)
  covers_of_stays := by
    rintro rfl hstays
    apply (covers_throughout_iff h hoperations hframe (Nat.zero_le _)).mpr
    exact begins_of_stays h hoperations hframe (Nat.zero_le _) hstays
  endsAtCount := throughout_of_onWhole h (fun hframe => hframe.endsAtCount h) hoperations hframe

/-- An output on a device over data shows the data from the start. -/
theorem attach_onWhole (h : device.OverData shows) {world : σ} (hworld : shows cursor data world)
    (name : String) (book : ρ) (journal : Journal) :
    ∃ output writer after,
      attach device name ⟨book, world, journal⟩ = .ok output ⟨book, world, after⟩ ∧
      OnWhole shows writer cursor data ⟨output, world, after⟩ := by
  obtain ⟨size, hsize⟩ := h.size hworld
  refine ⟨.opened ⟨⟨name, .whole (size.getD 0)⟩, 0⟩, ⟨⟨name, .whole (size.getD 0)⟩, 0⟩,
    .opened name (size.getD 0) :: journal, ?_, rfl, rfl, hworld⟩
  rw [attach, Action.bind_of_ok (Action.call_of_ok _ _ hsize)]
  rfl

/-- Seeks to the end of an output that was opened on an empty stream, or on a file that was emptied:
they land where the count ends, and that is past all data throughout a run of writes and seeks iff
every write of the run begins within the count. -/
theorem end_is_past_data_iff (name : String) (book : ρ) (journal : Journal)
    (operations : List Operation)
    (hoperations : ∀ operation ∈ operations, operation.writesOrSeeks = true) :
    (∀ cursor, ∃ output after,
      attach Stream.device name ⟨book, .plain [] cursor, journal⟩ =
        .ok output ⟨book, .plain [] cursor, after⟩ ∧
      EndLaw Stream.device Stream.IsPlain cursor operations ⟨output, .plain [] cursor, after⟩) ∧
    ∀ files permissions opened data,
      FileSystem.opening files (.output .truncate permissions) name = .ok opened →
      opened.dataBehind? files.opened.length = some data →
        ∃ output after,
          openPath name .truncate permissions ⟨book, files, journal⟩ =
            .ok (output, files.opened.length) ⟨book, opened, after⟩ ∧
          EndLaw (FileSystem.device files.opened.length)
            (fun cursor data files' => files'.Shows files.opened.length false true cursor data) 0
            operations ⟨output, opened, after⟩ := by
  constructor
  · intro cursor
    obtain ⟨output, writer, after, hattach, hwhole⟩ :=
      attach_onWhole Stream.device_overData (rfl : Stream.IsPlain cursor [] (.plain [] cursor)) name
        book journal
    exact ⟨output, after, hattach, hwhole.endLaw Stream.device_overData hoperations⟩
  · intro files permissions opened data hopening hdata
    have hopens := FileSystem.opens_of_opening hopening
    obtain rfl : data = [] := hopens.data_eq_nil (.inl rfl) hdata
    have hwhole : OnWhole
        (fun cursor data files' => files'.Shows files.opened.length false true cursor data)
        ⟨⟨name, .whole 0⟩, 0⟩ 0 []
        ⟨.opened ⟨⟨name, .whole 0⟩, 0⟩, opened, .opened name 0 :: journal⟩ :=
      ⟨rfl, rfl, hopens.shows hdata⟩
    exact ⟨_, _, openPath_of_opening book journal hopening hdata,
      hwhole.endLaw (FileSystem.device_overData _ _) hoperations⟩

/-- Two bytes, one of them written over by way of the end, and a seek beyond the data: the end stays
past the data. -/
theorem end_is_past_data_iff_of_two_bytes :
    (∀ operation ∈ [.write [1, 2] 2, .seek (-1) .finish, .write [3] 1, .seek 4 .start],
        Operation.writesOrSeeks operation = true) ∧
      Throughout (perform Stream.device) (CountCovers Stream.IsPlain)
        [.write [1, 2] 2, .seek (-1) .finish, .write [3] 1, .seek 4 .start]
        ⟨.opened ⟨⟨"out", ⟨0, 0⟩⟩, 0⟩, .plain [] 0, [.opened "out" 0]⟩ := by
  have hoperations : ∀ operation ∈ [.write [1, 2] 2, .seek (-1) .finish, .write [3] 1,
      .seek 4 .start], Operation.writesOrSeeks operation = true := by decide
  obtain ⟨output, after, hattach, hlaw⟩ :=
    (end_is_past_data_iff "out" () [] _ hoperations).1 0
  have hopened : attach Stream.device "out" ⟨(), .plain [] 0, []⟩ =
      .ok (.opened ⟨⟨"out", ⟨0, 0⟩⟩, 0⟩) ⟨(), .plain [] 0, [.opened "out" 0]⟩ := rfl
  cases hopened.symm.trans hattach
  refine ⟨hoperations, hlaw.covers_of_stays rfl (EachStep.of_forall (fun operation hmem => ?_) _)⟩
  intro frame distance hseek
  rw [hseek] at hmem
  simp at hmem

/-- A seek from the current position goes two bytes past the count, three bytes are written there,
and the end is where the second of them is: the next write goes over the third. -/
theorem end_is_within_data :
    attach Stream.device "out" ⟨(), .plain [] 0, []⟩ =
        .ok (.opened ⟨⟨"out", ⟨0, 0⟩⟩, 0⟩) ⟨(), .plain [] 0, [.opened "out" 0]⟩ ∧
      run Stream.device [.seek 2 .current, .write [1, 2, 3] 3, .seek 0 .finish, .write [9] 1]
          ⟨.opened ⟨⟨"out", ⟨0, 0⟩⟩, 0⟩, .plain [] 0, [.opened "out" 0]⟩ =
        .ok [.ok (.number 2), .ok .nothing, .ok (.number 3), .ok .nothing]
          ⟨.opened ⟨⟨"out", ⟨0, 4⟩⟩, 4⟩, .plain [0, 0, 1, 9, 3] 4,
            [.didWrite "out" 1 4, .sought "out" 0 .finish 3, .didWrite "out" 3 3,
              .sought "out" 2 .current 2, .opened "out" 0]⟩ := by
  have hforward : perform Stream.device (.seek 2 .current)
      ⟨.opened ⟨⟨"out", ⟨0, 0⟩⟩, 0⟩, .plain [] 0, [.opened "out" 0]⟩ =
        .ok (.number 2) ⟨.opened ⟨⟨"out", ⟨0, 0⟩⟩, 0⟩, .plain [] 2,
          [.sought "out" 2 .current 2, .opened "out" 0]⟩ := rfl
  have hbeyond : perform Stream.device (.write [1, 2, 3] 3)
      ⟨.opened ⟨⟨"out", ⟨0, 0⟩⟩, 0⟩, .plain [] 2,
        [.sought "out" 2 .current 2, .opened "out" 0]⟩ =
        .ok .nothing ⟨.opened ⟨⟨"out", ⟨0, 3⟩⟩, 3⟩, .plain [0, 0, 1, 2, 3] 5,
          [.didWrite "out" 3 3, .sought "out" 2 .current 2, .opened "out" 0]⟩ := rfl
  have hend : perform Stream.device (.seek 0 .finish)
      ⟨.opened ⟨⟨"out", ⟨0, 3⟩⟩, 3⟩, .plain [0, 0, 1, 2, 3] 5,
        [.didWrite "out" 3 3, .sought "out" 2 .current 2, .opened "out" 0]⟩ =
        .ok (.number 3) ⟨.opened ⟨⟨"out", ⟨0, 3⟩⟩, 3⟩, .plain [0, 0, 1, 2, 3] 3,
          [.sought "out" 0 .finish 3, .didWrite "out" 3 3, .sought "out" 2 .current 2,
            .opened "out" 0]⟩ := rfl
  refine ⟨rfl, ?_⟩
  exact Action.runAll_cons_of_ok (Action.observe_of_ok hforward)
    (Action.runAll_cons_of_ok (Action.observe_of_ok hbeyond)
      (Action.runAll_cons_of_ok (Action.observe_of_ok hend) rfl))

end Output

end FileWindow

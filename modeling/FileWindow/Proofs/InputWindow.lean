import FileWindow.Proofs.InputTwins
import FileWindow.Proofs.StreamPace

/-!
# The window of an input

What an input does depends on the bytes in its window alone.  This is said in two ways.  Where no
plan interferes, an input on a part of some data cannot be told from an input on a file that holds
just that part.  And whatever plans a stream follows, wherever its cursor is put, two streams whose
bytes differ only outside of the window answer an input the same: no byte around the window ever
shows.

Main definitions:

- Definition Stream.partBond: a stream over some data, and a stream over a part of them.
- Definition Stream.LikeWithin: streams that follow the same plans and agree within an extent.

Main results:

- Theorem Input.run_window_eq_run_part: an input on a part of some data is an input on a file of
  its own.
- Theorem Input.run_eq_of_likeWithin: bytes outside of the window are never seen.
-/

namespace FileWindow

open FileWindow.Action (Joined)

/-! ## A part of some data -/

namespace Stream

/-- A stream over some data and one over the part of them that an extent shows; their cursors are
in that part, or at its end. -/
def partBond (data : Bytes) (extent : Extent) : Bond Stream Stream where
  shift := extent.offset
  At cursor stream stream' :=
    cursor ≤ extent.length ∧ stream = plain data (extent.offset + cursor) ∧
      stream' = plain ((data.drop extent.offset).take extent.length) cursor
  Linked stream stream' := ∃ cursor, cursor ≤ extent.length ∧
    stream = plain data (extent.offset + cursor) ∧
      stream' = plain ((data.drop extent.offset).take extent.length) cursor
  Fits raw := raw ≤ extent.length

/-- A read that stays within a part brings what it would bring from the part alone. -/
theorem take_drop_part (data : Bytes) {offset length cursor wanted : Nat}
    (h : wanted ≤ length - cursor) :
    (data.drop (offset + cursor)).take wanted =
      (((data.drop offset).take length).drop cursor).take wanted := by
  rw [List.drop_take, List.take_take, List.drop_drop, Nat.min_eq_left h]

/-- The two streams are twins: within the part they read the same bytes. -/
theorem partBond_reads {data : Bytes} {extent : Extent}
    (hextent : extent.offset + extent.length < positionLimit) :
    (partBond data extent).Reads (.whole extent.length) device device where
  linked := fun h => h
  patience := by
    intro stream stream' hworlds
    rcases hworlds with ⟨cursor, -, rfl, rfl⟩
    rfl
  position := by
    intro stream stream' hworlds
    rcases hworlds with ⟨cursor, hcursor, rfl, rfl⟩
    rw [position_plain _ (by omega), position_plain _ (by omega)]
    exact .answered ⟨rfl, hcursor, rfl, rfl⟩
  seek := by
    intro raw stream stream' hworlds hfits
    rcases hworlds with ⟨cursor, hcursor, rfl, rfl⟩
    have hraw : raw ≤ extent.length := hfits
    have hfar : extent.offset + raw < positionLimit := by omega
    have hnear : raw < positionLimit := by omega
    have hmove : device.seek (.start ((partBond data extent).shift + raw))
        (plain data (extent.offset + cursor)) = _ := seek_start_plain data _ hfar
    rw [hmove, device_seek_plain _ _ hnear]
    exact .answered ⟨rfl, hraw, rfl, rfl⟩
  lt_positionLimit := by
    intro raw hfits
    have hraw : raw ≤ extent.length := hfits
    simp only [partBond]
    omega
  read := by
    intro cursor wanted stream stream' hworlds _ hwanted
    rcases hworlds with ⟨hcursor, rfl, rfl⟩
    have hwithin : wanted ≤ extent.length - cursor := hwanted
    rw [readPatiently_plain, readPatiently_plain, take_drop_part data hwithin]
    refine .answered ⟨rfl, cursor + _, ?_, by rw [Nat.add_assoc], rfl⟩
    simp only [List.length_take, List.length_drop]
    omega

end Stream

namespace Input

/-- An input on a part of some data is an input on a file of its own, where a signed word can count
the data.  Whatever is read and sought in the one and in the other, as windows and as streams, every
step answers the same or fails alike but for the words, both extents stay as they are, and the
cursor of the one is as far into the part as that of the other is into its file.  Since the
beginning of a row is a row, that holds after every step. -/
theorem run_window_eq_run_part (data : Bytes) (extent : Extent) (name : String)
    (openingSize openingSize' position : Nat) (journal journal' : Journal)
    (operations : List Operation) (hdata : data.length < Adapter.offsetLimit)
    (hextent : extent.offset + extent.length ≤ data.length) (hposition : position ≤ extent.length)
    (hlocal : ∀ operation ∈ operations, operation.isLocal = true) :
    ∃ outcomes outcomes' cursor after after',
      run Stream.device operations ⟨.opened ⟨⟨name, extent⟩, openingSize⟩,
          .plain data (extent.offset + position), journal⟩ =
        .ok outcomes ⟨.opened ⟨⟨name, extent⟩, openingSize⟩,
          .plain data (extent.offset + cursor), after⟩ ∧
      run Stream.device operations ⟨.opened ⟨⟨name, .whole extent.length⟩, openingSize'⟩,
          .plain ((data.drop extent.offset).take extent.length) position, journal'⟩ =
        .ok outcomes' ⟨.opened ⟨⟨name, .whole extent.length⟩, openingSize'⟩,
          .plain ((data.drop extent.offset).take extent.length) cursor, after'⟩ ∧
      outcomes.map (seenAs Problem.wordless) = outcomes'.map (seenAs Problem.wordless) := by
  have hlimit : extent.offset + extent.length < positionLimit := by
    have : Adapter.offsetLimit < positionLimit := by decide
    omega
  have hstep : InStep (Stream.partBond data extent) ⟨⟨name, extent⟩, openingSize⟩
      ⟨⟨name, .whole extent.length⟩, openingSize'⟩
      ⟨.opened ⟨⟨name, extent⟩, openingSize⟩, .plain data (extent.offset + position), journal⟩
      ⟨.opened ⟨⟨name, .whole extent.length⟩, openingSize'⟩,
        .plain ((data.drop extent.offset).take extent.length) position, journal'⟩ :=
    ⟨⟨rfl, rfl, rfl⟩, position, hposition, rfl, rfl⟩
  have hfits : ∀ distance whence world raw,
      Stream.device.Reaches extent.offset (.whole extent.length) distance whence
        (some extent.length) world raw → raw ≤ extent.length := by
    intro distance whence world raw hreaches
    rcases hreaches with ⟨cursor, -, hraw⟩
    rcases Extent.destination_eq_ok_iff.mp hraw with ⟨-, -, -, hgoal, -, hbound⟩
    have hlength := hbound extent.length rfl
    simp only [Extent.whole] at hgoal hlength
    omega
  obtain ⟨outcomes, outcomes', f, g, hrun, hrun', hsame, htwins, hsettled⟩ :=
    run_of_twins (fun _ _ h => h.1) (Stream.partBond_reads hlimit) hfits Stream.device_steady hlocal
      hstep
  rcases f with ⟨book, world, after⟩
  rcases g with ⟨book', world', after'⟩
  rcases htwins with ⟨hbook, hbook', -⟩
  rcases hsettled with ⟨cursor, -, hworld, hworld'⟩
  dsimp only at hbook hbook' hworld hworld'
  subst hbook hbook' hworld hworld'
  exact ⟨outcomes, outcomes', cursor, after, after', hrun, hrun', hsame⟩

/-- A seek back to before the part, which the larger file would have room for, is refused in both;
the rest of the row finds both cursors where they were. -/
theorem run_window_eq_run_part_of_nine_bytes :
    ([1, 2, 3, 4, 5, 6, 7, 8, 9] : Bytes).length < Adapter.offsetLimit ∧
    ∃ outcomes outcomes' cursor after after',
      run Stream.device
          [.seek (-3) .current, .read 2 2, .streamReadToEnd, .seek 6 .start, .tell,
            .readExactly 1 1]
          ⟨.opened ⟨⟨"data", ⟨3, 5⟩⟩, 9⟩, .plain [1, 2, 3, 4, 5, 6, 7, 8, 9] (3 + 1), []⟩ =
        .ok outcomes ⟨.opened ⟨⟨"data", ⟨3, 5⟩⟩, 9⟩,
          .plain [1, 2, 3, 4, 5, 6, 7, 8, 9] (3 + cursor), after⟩ ∧
      run Stream.device
          [.seek (-3) .current, .read 2 2, .streamReadToEnd, .seek 6 .start, .tell,
            .readExactly 1 1]
          ⟨.opened ⟨⟨"data", .whole 5⟩, 5⟩, .plain [4, 5, 6, 7, 8] 1, []⟩ =
        .ok outcomes' ⟨.opened ⟨⟨"data", .whole 5⟩, 5⟩, .plain [4, 5, 6, 7, 8] cursor, after'⟩ ∧
      outcomes.map (seenAs Problem.wordless) = outcomes'.map (seenAs Problem.wordless) :=
  ⟨by decide, run_window_eq_run_part [1, 2, 3, 4, 5, 6, 7, 8, 9] ⟨3, 5⟩ "data" 9 5 1 [] [] _
    (by decide) (by decide) (by decide) (by decide)⟩

end Input

/-! ## Bytes outside of the window -/

namespace Stream

/-- Streams that follow the same plans for reads and seeks from the same cursor, and whose data are
equally long and agree within an extent. -/
structure LikeWithin (extent : Extent) (stream stream' : Stream) : Prop where
  cursor : stream.cursor = stream'.cursor
  seekable : stream.seekable = stream'.seekable
  readPlan : stream.readPlan = stream'.readPlan
  seekPlan : stream.seekPlan = stream'.seekPlan
  length : stream.data.length = stream'.data.length
  agree : ∀ index, extent.offset ≤ index → index < extent.offset + extent.length →
    stream.data[index]? = stream'.data[index]?

namespace LikeWithin

variable {extent : Extent} {stream stream' : Stream}

/-- What is read within the extent is the same. -/
theorem take_drop_eq (h : LikeWithin extent stream stream') {cursor wanted : Nat}
    (hcursor : extent.offset ≤ cursor)
    (hwanted : wanted ≤ extent.length - (cursor - extent.offset)) :
    (stream.data.drop cursor).take wanted = (stream'.data.drop cursor).take wanted := by
  apply List.ext_getElem?
  intro index
  rw [List.getElem?_take, List.getElem?_take]
  split
  · rw [List.getElem?_drop, List.getElem?_drop]
    exact h.agree _ (by omega) (by omega)
  · rfl

/-- Moves lead to the same positions: they look at the length of the data, not at the data. -/
theorem move (h : LikeWithin extent stream stream') (target : RawSeek) :
    Call.Paired (LikeWithin extent)
      (fun raw raw' left left' => raw = raw' ∧ LikeWithin extent left left' ∧ left.cursor = raw')
      (stream.move target) (stream'.move target) := by
  have htarget : stream.target target = stream'.target target := by
    cases target <;> simp [Stream.target, h.cursor, h.length]
  simp only [Stream.move, htarget, ← h.seekable]
  split
  · exact .failed h
  split
  · exact .failed h
  · exact .answered ⟨rfl, ⟨rfl, rfl, h.readPlan, h.seekPlan, h.length, h.agree⟩, rfl⟩

/-- So do seeks, whatever the plan says. -/
theorem seek (h : LikeWithin extent stream stream') (target : RawSeek) :
    Call.Paired (LikeWithin extent)
      (fun raw raw' left left' => raw = raw' ∧ LikeWithin extent left left' ∧ left.cursor = raw')
      (Stream.seek target stream) (Stream.seek target stream') := by
  simp only [Stream.seek, h.seekPlan]
  cases stream'.seekPlan with
  | nil => exact h.move target
  | cons reply rest =>
    have hrest : LikeWithin extent { stream with seekPlan := rest }
        { stream' with seekPlan := rest } :=
      ⟨h.cursor, h.seekable, h.readPlan, rfl, h.length, h.agree⟩
    cases reply with
    | asUsual => exact hrest.move target
    | number landed =>
      exact .answered ⟨rfl, ⟨rfl, h.seekable, h.readPlan, rfl, h.length, h.agree⟩, rfl⟩
    | fails fault => exact .failed hrest

/-- Taking bytes within the extent takes the same. -/
theorem take (h : LikeWithin extent stream stream') {wanted : Nat}
    (hcursor : extent.offset ≤ stream.cursor)
    (hwanted : wanted ≤ extent.length - (stream.cursor - extent.offset)) :
    Call.Paired
      (fun left left' => LikeWithin extent left left' ∧ left.cursor = stream.cursor)
      (fun bytes bytes' left left' => bytes = bytes' ∧ LikeWithin extent left left')
      (Stream.take stream wanted) (Stream.take stream' wanted) := by
  have hbytes := h.take_drop_eq hcursor hwanted
  simp only [Stream.take, ← h.cursor, hbytes]
  exact .answered ⟨rfl, rfl, h.seekable, h.readPlan, h.seekPlan, h.length, h.agree⟩

/-- One read within the extent brings the same bytes, or leaves the cursors where they were. -/
theorem read (h : LikeWithin extent stream stream') {wanted : Nat}
    (hcursor : extent.offset ≤ stream.cursor)
    (hwanted : wanted ≤ extent.length - (stream.cursor - extent.offset)) :
    Call.Paired
      (fun left left' => LikeWithin extent left left' ∧ left.cursor = stream.cursor)
      (fun bytes bytes' left left' => bytes = bytes' ∧ LikeWithin extent left left')
      (Stream.read wanted stream) (Stream.read wanted stream') := by
  simp only [Stream.read, h.readPlan]
  cases stream'.readPlan with
  | nil => exact h.take hcursor hwanted
  | cons reply rest =>
    have hrest : LikeWithin extent { stream with readPlan := rest }
        { stream' with readPlan := rest } :=
      ⟨h.cursor, h.seekable, rfl, h.seekPlan, h.length, h.agree⟩
    cases reply with
    | asUsual => exact hrest.take hcursor hwanted
    | number most => exact hrest.take hcursor (Nat.le_trans (Nat.min_le_left _ _) hwanted)
    | fails fault => exact .failed ⟨hrest, rfl⟩

/-- So does a read that is made again while it is interrupted: an interruption does not move the
cursor out of the extent. -/
theorem readRetrying (h : LikeWithin extent stream stream') {wanted : Nat}
    (hcursor : extent.offset ≤ stream.cursor)
    (hwanted : wanted ≤ extent.length - (stream.cursor - extent.offset)) (retries : Nat) :
    Call.Paired (LikeWithin extent)
      (fun bytes bytes' left left' => bytes = bytes' ∧ LikeWithin extent left left')
      (device.readRetrying wanted retries stream) (device.readRetrying wanted retries stream') := by
  induction retries generalizing stream stream' with
  | zero =>
    have hread := h.read hcursor hwanted
    simp only [Device.readRetrying, device]
    generalize Stream.read wanted stream = result, Stream.read wanted stream' = result' at hread
    cases hread with
    | answered hanswers => exact .answered hanswers
    | failed hleft => exact .failed hleft.1
  | succ retries ih =>
    have hread := h.read hcursor hwanted
    have hdevice : ∀ stream, device.read wanted stream = Stream.read wanted stream := fun _ => rfl
    simp only [Device.readRetrying, hdevice]
    generalize Stream.read wanted stream = result, Stream.read wanted stream' = result' at hread
    cases hread with
    | answered hanswers => exact .answered hanswers
    | failed hleft =>
      simp only
      split
      · exact ih hleft.1 (by rw [hleft.2]; exact hcursor) (by rw [hleft.2]; exact hwanted)
      · exact .failed hleft.1

end LikeWithin

/-- Two streams that are alike within an extent. -/
def veilBond (extent : Extent) : Bond Stream Stream where
  shift := 0
  At cursor stream stream' := LikeWithin extent stream stream' ∧ stream.cursor = cursor
  Linked := LikeWithin extent
  Fits raw := raw < positionLimit

/-- Seeks of streams that are alike end with both cursors where the answer says. -/
theorem LikeWithin.seek_abreast {extent : Extent} {stream stream' : Stream}
    (h : LikeWithin extent stream stream') (target : RawSeek) :
    Call.Paired (veilBond extent).Settled (veilBond extent).Abreast (device.seek target stream)
      (device.seek target stream') := by
  have hseek := h.seek target
  have hdevice : ∀ stream, device.seek target stream = Stream.seek target stream := fun _ => rfl
  rw [hdevice, hdevice]
  generalize Stream.seek target stream = result, Stream.seek target stream' = result' at hseek
  cases hseek with
  | answered hanswers =>
    rcases hanswers with ⟨rfl, hleft, hcursor⟩
    exact .answered ⟨(Nat.zero_add _).symm, hleft, hcursor⟩
  | failed hleft => exact .failed ⟨_, hleft, rfl⟩

/-- They are twins: what their data are outside of the extent does not matter. -/
theorem veilBond_reads (extent : Extent) : (veilBond extent).Reads extent device device where
  linked := fun ⟨_, h, _⟩ => h
  patience := by
    intro stream stream' h
    simp only [device, h.seekPlan]
  position := fun ⟨_, h, _⟩ => h.seek_abreast (.current 0)
  seek := by
    intro raw stream stream' hworlds _
    rcases hworlds with ⟨cursor, h, -⟩
    have hshift : (veilBond extent).shift + raw = raw := Nat.zero_add raw
    rw [hshift]
    exact h.seek_abreast (.start raw)
  lt_positionLimit := by
    intro raw hfits
    rw [veilBond, Nat.zero_add]
    exact hfits
  read := by
    intro cursor wanted stream stream' hworlds hcursor hwanted
    rcases hworlds with ⟨h, rfl⟩
    have hretries : device.retries stream' = device.retries stream := by
      simp only [device, h.readPlan]
    have hread := h.readRetrying hcursor hwanted (device.retries stream)
    simp only [Device.readPatiently, hretries]
    generalize device.readRetrying wanted (device.retries stream) stream = result,
      device.readRetrying wanted (device.retries stream) stream' = result' at hread
    cases hread with
    | answered hanswers => exact .answered ⟨hanswers.1, _, hanswers.2, rfl⟩
    | failed hleft => exact .failed ⟨_, hleft, rfl⟩

end Stream

namespace Input

/-- No byte outside of its window ever influences what an input does.  Two streams that follow the
same plans, with data that are equally long and agree within the window, answer two open inputs of
one name, extent and size at opening the same in every step, wherever the window lies and wherever
the cursor stands or is put. -/
theorem run_eq_of_likeWithin (name : String) (extent : Extent) (openingSize : Nat)
    {stream stream' : Stream} (journal journal' : Journal) {operations : List Operation}
    (hlike : stream.LikeWithin extent stream')
    (hlocal : ∀ operation ∈ operations, operation.isLocal = true) :
    ∃ outcomes left left' after after',
      run Stream.device operations ⟨.opened ⟨⟨name, extent⟩, openingSize⟩, stream, journal⟩ =
        .ok outcomes ⟨.opened ⟨⟨name, extent⟩, openingSize⟩, left, after⟩ ∧
      run Stream.device operations ⟨.opened ⟨⟨name, extent⟩, openingSize⟩, stream', journal'⟩ =
        .ok outcomes ⟨.opened ⟨⟨name, extent⟩, openingSize⟩, left', after'⟩ ∧
      left.LikeWithin extent left' := by
  have hfits : ∀ distance whence world raw,
      Stream.device.Reaches 0 extent distance whence (some extent.length) world raw →
        raw < positionLimit := by
    intro distance whence world raw hreaches
    rcases hreaches with ⟨cursor, -, hraw⟩
    exact (Extent.destination_eq_ok_iff.mp hraw).2.2.2.2.1
  have hview : ∀ e e', Alike Problem.wordless 0 e e' → id e = id e' := fun _ _ h => h.2 rfl
  have hwindow : (⟨name, extent⟩ : Window) = Window.shiftBy ⟨name, extent⟩ 0 :=
    (Window.shiftBy_zero _).symm
  have hstep : InStep (Stream.veilBond extent) ⟨⟨name, extent⟩, openingSize⟩
      ⟨⟨name, extent⟩, openingSize⟩
      ⟨.opened ⟨⟨name, extent⟩, openingSize⟩, stream, journal⟩
      ⟨.opened ⟨⟨name, extent⟩, openingSize⟩, stream', journal'⟩ :=
    ⟨⟨rfl, rfl, hwindow⟩, _, hlike, rfl⟩
  obtain ⟨outcomes, outcomes', f, g, hrun, hrun', hsame, htwins, hsettled⟩ :=
    run_of_twins hview (Stream.veilBond_reads extent) hfits Stream.device_steady hlocal hstep
  rcases f with ⟨book, left, after⟩
  rcases g with ⟨book', left', after'⟩
  rcases htwins with ⟨hbook, hbook', -⟩
  rcases hsettled with ⟨cursor, hleft, -⟩
  rw [seenAs_id, List.map_id, List.map_id] at hsame
  dsimp only at hbook hbook' hleft
  subst hsame hbook hbook'
  exact ⟨outcomes, left, left', after, after', hrun, hrun', hleft⟩

/-- Reads that are cut short and interrupted, and a seek that is put behind the window, show
nothing of the bytes in which the two streams differ. -/
theorem run_eq_of_likeWithin_of_scripted :
    ∃ outcomes left left' after after',
      run Stream.device [.streamReadExactly 2, .seek 1 .start, .tell, .read 4 4, .streamReadToEnd]
          ⟨.opened ⟨⟨"data", ⟨2, 2⟩⟩, 6⟩,
            { Stream.plain [1, 1, 7, 8, 1, 1] 2 with
              readPlan := [.number 1, .fails (.plain .interrupted)]
              seekPlan := [.asUsual, .asUsual, .number 5] }, []⟩ =
        .ok outcomes ⟨.opened ⟨⟨"data", ⟨2, 2⟩⟩, 6⟩, left, after⟩ ∧
      run Stream.device [.streamReadExactly 2, .seek 1 .start, .tell, .read 4 4, .streamReadToEnd]
          ⟨.opened ⟨⟨"data", ⟨2, 2⟩⟩, 6⟩,
            { Stream.plain [9, 9, 7, 8, 9, 9] 2 with
              readPlan := [.number 1, .fails (.plain .interrupted)]
              seekPlan := [.asUsual, .asUsual, .number 5] }, []⟩ =
        .ok outcomes ⟨.opened ⟨⟨"data", ⟨2, 2⟩⟩, 6⟩, left', after'⟩ ∧
      left.LikeWithin ⟨2, 2⟩ left' := by
  have hlike : Stream.LikeWithin ⟨2, 2⟩
      { Stream.plain [1, 1, 7, 8, 1, 1] 2 with
        readPlan := [.number 1, .fails (.plain .interrupted)]
        seekPlan := [.asUsual, .asUsual, .number 5] }
      { Stream.plain [9, 9, 7, 8, 9, 9] 2 with
        readPlan := [.number 1, .fails (.plain .interrupted)]
        seekPlan := [.asUsual, .asUsual, .number 5] } := by
    refine ⟨rfl, rfl, rfl, rfl, rfl, fun index hfrom hto => ?_⟩
    have hindex : index = 2 ∨ index = 3 := by
      simp only at hfrom hto
      omega
    rcases hindex with rfl | rfl <;> rfl
  exact run_eq_of_likeWithin "data" ⟨2, 2⟩ 6 [] [] hlike (by decide)

end Input

end FileWindow

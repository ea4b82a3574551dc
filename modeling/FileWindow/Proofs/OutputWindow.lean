import FileWindow.Proofs.OutputTwins
import FileWindow.Proofs.StreamPace

/-!
# The window of an output

An output that begins some bytes into its data does what an output does on a file that holds just
the data from there on.  The file grows as the data do, gaps are filled alike, and the bytes before
the window stay as they are.  Seeks, writes and overwriting may come in any order, as long as there
are positions for where they lead.

Main definitions:

- Definition Stream.remainderBond: a stream with some bytes in front, and the same without them.
- Definition Output.InRange: positions and counts that leave room for one more operation.

Main results:

- Theorem Bytes.overlay_append: writing behind the front leaves the front.
- Theorem Output.run_window_eq_run_remainder: an output on the remainder of some data is an output
  on a file of its own.
-/

namespace FileWindow

open FileWindow.Action (Ended)

/-! ## Writing behind a front -/

/-- Bytes laid over data behind a front are laid over what stands behind it. -/
theorem Bytes.overlay_append (front rest : Bytes) (position : Nat) (written : Bytes) :
    overlay (front ++ rest) (front.length + position) written =
      front ++ overlay rest position written := by
  by_cases hwritten : written = []
  · simp [hwritten]
  · have hgap : front.length + position - (front ++ rest).length = position - rest.length := by
      simp only [List.length_append]
      omega
    rw [overlay_of_ne_nil _ _ hwritten, overlay_of_ne_nil _ _ hwritten, resize, resize, hgap,
      List.take_length_add_append, Nat.add_assoc, List.drop_length_add_append]
    simp only [List.append_assoc]

namespace Stream

/-- A stream with some bytes in front, and the same stream without them. -/
def remainderBond (front : Bytes) : Bond Stream Stream where
  shift := front.length
  At cursor stream stream' := ∃ rest, stream = plain (front ++ rest) (front.length + cursor) ∧
    stream' = plain rest cursor ∧ front.length + cursor < positionLimit
  Linked stream stream' := ∃ rest cursor, stream = plain (front ++ rest) (front.length + cursor) ∧
    stream' = plain rest cursor
  Fits raw := front.length + raw < positionLimit

/-- The two streams are twins: what is written to the one behind the front is written to the
other. -/
theorem remainderBond_writes (front : Bytes) :
    (remainderBond front).Writes device device where
  linked := fun ⟨cursor, rest, h, h', _⟩ => ⟨rest, cursor, h, h'⟩
  patience := by
    intro stream stream' hworlds
    rcases hworlds with ⟨rest, cursor, rfl, rfl⟩
    rfl
  position := by
    intro stream stream' hworlds
    rcases hworlds with ⟨cursor, rest, rfl, rfl, hlimit⟩
    rw [position_plain _ hlimit, position_plain _ (by omega)]
    exact .answered ⟨rfl, rest, rfl, rfl, hlimit⟩
  seek := by
    intro raw stream stream' hworlds hfits
    rcases hworlds with ⟨cursor, rest, rfl, rfl, -⟩
    have hlimit : front.length + raw < positionLimit := hfits
    have hmove : device.seek (.start ((remainderBond front).shift + raw))
        (plain (front ++ rest) (front.length + cursor)) = _ := device_seek_plain _ _ hlimit
    rw [hmove, device_seek_plain _ _ (by omega)]
    exact .answered ⟨rfl, rest, rfl, rfl, hlimit⟩
  lt_positionLimit := fun hfits => hfits
  write := by
    intro stream stream' hworlds bytes
    rcases hworlds with ⟨rest, cursor, rfl, rfl⟩
    rw [device_write_plain, device_write_plain, Bytes.overlay_append, Nat.add_assoc]
    exact .answered ⟨_, _, rfl, rfl⟩
  flush := by
    intro stream stream' hworlds
    rcases hworlds with ⟨rest, cursor, rfl, rfl⟩
    exact .answered ⟨rest, cursor, rfl, rfl⟩
  isStandardOutput := rfl

end Stream

namespace Output

/-! ## The remainder of some data -/

/-- The raw cursor and the count are below the first position that no signed word holds. -/
def InRange (frame : Frame Output Stream) : Prop :=
  frame.world.cursor < Adapter.offsetLimit ∧ frame.book.written < Adapter.offsetLimit

instance : DecidablePred InRange :=
  fun _ => inferInstanceAs (Decidable (_ ∧ _))

/-- Where cursor and count are in range there is a position wherever a seek may lead. -/
theorem InRange.fits {front rest : Bytes} {cursor raw : Nat} {writer : Writer} {distance : Int}
    {whence : Whence} (hoffset : writer.window.extent.offset = 0)
    (hcursor : front.length + cursor < Adapter.offsetLimit)
    (hwritten : writer.written < Adapter.offsetLimit)
    (h : Stream.device.Reaches front.length (writer.aim distance whence).window.extent distance
      whence none (.plain (front ++ rest) (front.length + cursor)) raw) :
    front.length + raw < positionLimit := by
  rcases h with ⟨near, hnear, hraw⟩
  rcases Extent.destination_eq_ok_iff.mp hraw with ⟨hlikely, hback, -, hgoal, -, -⟩
  have hdistance : distance.natAbs ≤ maxTransfer := by
    simpa [plausibleDistance, validLength] using hlikely
  have hlimit : positionLimit = Adapter.offsetLimit + Adapter.offsetLimit := by decide
  have hmost : maxTransfer < Adapter.offsetLimit := by decide
  cases whence with
  | start =>
    simp only [Writer.aim, Writer.withLength, Extent.goal] at hgoal
    omega
  | finish =>
    simp only [Writer.aim, Writer.withLength, Extent.goal] at hgoal
    have := hback rfl
    omega
  | current =>
    rcases hnear rfl with ⟨after, hposition⟩
    rw [Stream.position_plain _ (by omega)] at hposition
    injection hposition with hcursor
    simp only [Writer.aim, Extent.goal] at hgoal
    omega

/-- Outputs in step are ready for every operation where the first is in range. -/
theorem InStep.ready {front : Bytes} {name : String} {f g : Frame Output Stream}
    (h : InStep (Stream.remainderBond front) name 0 f g) (hrange : InRange f)
    (seek : Option (Int × Whence)) :
    InStepFor (Stream.remainderBond front) Stream.device name 0 seek f g := by
  rcases f with ⟨book, world, journal⟩
  rcases h with ⟨⟨writer, hstands, hbook, hbook'⟩, rest, cursor, hworld, hworld'⟩
  dsimp only at hbook hworld
  subst hbook hworld
  rcases hrange with ⟨hcursor, hwritten⟩
  have hlimit : front.length + cursor < positionLimit :=
    Nat.lt_trans hcursor (by decide)
  refine ⟨writer, hstands, ⟨rfl, hbook'⟩, ⟨cursor, rest, rfl, hworld', hlimit⟩, ?_⟩
  intro distance whence _ raw hreaches
  exact InRange.fits hstands.offset_eq hcursor hwritten hreaches

/-- An output behind the front of some data is an output on a file of its own.  As long as raw
positions and counts stay in range, whatever is written, overwritten and sought in the one and in
the other, as windows and as streams, every step answers the same or fails alike but for the words;
both outputs keep the same count and an extent of the same length, the one an offset further on,
and so are the cursors; and the data of the one are the front followed by the data of the other.
Since the beginning of a row is a row, that holds after every step. -/
theorem run_window_eq_run_remainder (data : Bytes) (offset length : Nat) (name : String)
    (written position : Nat) (journal journal' : Journal) (operations : List Operation)
    (hoffset : offset ≤ data.length)
    (hlocal : ∀ operation ∈ operations, operation.isLocal = true)
    (hrange : Action.Throughout (perform Stream.device) InRange operations
      ⟨.opened ⟨⟨name, ⟨offset, length⟩⟩, written⟩, .plain data (offset + position), journal⟩)
    (hcounts : Action.isOverflow (run Stream.device operations
      ⟨.opened ⟨⟨name, ⟨offset, length⟩⟩, written⟩, .plain data (offset + position), journal⟩) =
        false) :
    ∃ outcomes outcomes' length' written' rest cursor after after',
      run Stream.device operations
          ⟨.opened ⟨⟨name, ⟨offset, length⟩⟩, written⟩, .plain data (offset + position), journal⟩ =
        .ok outcomes ⟨.opened ⟨⟨name, ⟨offset, length'⟩⟩, written'⟩,
          .plain (data.take offset ++ rest) (offset + cursor), after⟩ ∧
      run Stream.device operations
          ⟨.opened ⟨⟨name, ⟨0, length⟩⟩, written⟩, .plain (data.drop offset) position, journal'⟩ =
        .ok outcomes' ⟨.opened ⟨⟨name, ⟨0, length'⟩⟩, written'⟩, .plain rest cursor, after'⟩ ∧
      outcomes.map (seenAs Problem.wordless) = outcomes'.map (seenAs Problem.wordless) := by
  have hfront : (data.take offset).length = offset := by simp [hoffset]
  have hstep : InStep (Stream.remainderBond (data.take offset)) name 0
      ⟨.opened ⟨⟨name, ⟨offset, length⟩⟩, written⟩, .plain data (offset + position), journal⟩
      ⟨.opened ⟨⟨name, ⟨0, length⟩⟩, written⟩, .plain (data.drop offset) position, journal'⟩ := by
    refine ⟨⟨⟨⟨name, ⟨0, length⟩⟩, written⟩, ⟨rfl, rfl⟩, ?_, rfl⟩, data.drop offset, position, ?_,
      rfl⟩
    · simp only [Stream.remainderBond, hfront]
      rfl
    · rw [hfront, List.take_append_drop]
  have hended : Ended True (run Stream.device operations
      ⟨.opened ⟨⟨name, ⟨offset, length⟩⟩, written⟩, .plain data (offset + position), journal⟩) :=
    .runAll (fun operation frame => perform_ended Stream.write_calm operation frame) operations _
  obtain ⟨outcomes, outcomes', f, g, hrun, hrun', hsame, htwins, hlinked⟩ :=
    run_of_twins (fun _ _ h => h.1) (Stream.remainderBond_writes (data.take offset))
      (fun f g seek h hinRange => h.ready hinRange seek) hlocal hstep hrange
      (hended.of_not_isOverflow hcounts)
  rcases f with ⟨book, world, after⟩
  rcases g with ⟨book', world', after'⟩
  rcases htwins with ⟨⟨⟨place, ⟨start, length'⟩⟩, written'⟩, ⟨hplace, hstart⟩, hbook, hbook'⟩
  rcases hlinked with ⟨rest, cursor, hworld, hworld'⟩
  dsimp only at hplace hstart hbook hbook' hworld hworld'
  subst hplace hstart hbook hbook' hworld hworld'
  refine ⟨outcomes, outcomes', length', written', rest, cursor, after, after', ?_, hrun', hsame⟩
  rw [hrun, hfront]
  simp only [Writer.shiftBy, Window.shiftBy, Extent.shiftBy, Stream.remainderBond, hfront]
  rfl

/-- A gap behind the end, a seek back to before the window that is refused, and bytes written over
others; the front stays. -/
theorem run_window_eq_run_remainder_of_gap :
    ∃ outcomes outcomes' length' written' rest cursor after after',
      run Stream.device
          [.seek 4 .start, .write [7, 8] 2, .seek (-7) .current, .seek (-1) .finish,
            .overwrite [9] 1, .streamWriteAll [5, 6], .tell]
          ⟨.opened ⟨⟨"data", ⟨2, 3⟩⟩, 0⟩, .plain [1, 2, 3, 4, 5] (2 + 1), []⟩ =
        .ok outcomes ⟨.opened ⟨⟨"data", ⟨2, length'⟩⟩, written'⟩,
          .plain ([1, 2] ++ rest) (2 + cursor), after⟩ ∧
      run Stream.device
          [.seek 4 .start, .write [7, 8] 2, .seek (-7) .current, .seek (-1) .finish,
            .overwrite [9] 1, .streamWriteAll [5, 6], .tell]
          ⟨.opened ⟨⟨"data", ⟨0, 3⟩⟩, 0⟩, .plain [3, 4, 5] 1, []⟩ =
        .ok outcomes' ⟨.opened ⟨⟨"data", ⟨0, length'⟩⟩, written'⟩, .plain rest cursor, after'⟩ ∧
      outcomes.map (seenAs Problem.wordless) = outcomes'.map (seenAs Problem.wordless) :=
  run_window_eq_run_remainder [1, 2, 3, 4, 5] 2 3 "data" 0 1 [] [] _ (by decide) (by decide)
    (by decide +kernel) (by decide +kernel)

end Output

end FileWindow

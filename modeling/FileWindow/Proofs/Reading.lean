import FileWindow.Proofs.Copying
import FileWindow.Proofs.Laying
import FileWindow.Proofs.Rows

/-!
# What reads take

A read of an input over a stream that no plan interferes with takes what the caller asks for, as far
as the extent and the data go on behind the raw cursor.  The cursor moves behind what was taken, so
reads in a row take one piece behind the other, and together they take what one read of all their
lengths would have taken: how the caller cuts the lengths does not matter.

Main definitions:

- Definition Input.TakesWhatIsLeft: what reads come to, from where the cursor of an input stands.

Main results:

- Theorem Input.readTo_eq: a read that stores its bytes stores what the read that answers them does.
- Theorem Input.read_plain: what one read takes, and where it leaves the cursor.
- Theorem Input.run_reads_plain: what reads in a row take.
- Theorem Input.reads_take_what_is_left: all of it, refused reads and exact reads included.
-/

namespace FileWindow

variable {σ μ : Type}

/-- Bytes at the front of a buffer replace as many of it, and leave the others. -/
@[simp]
theorem Bytes.overlay_zero (buffer bytes : Bytes) :
    overlay buffer 0 bytes = bytes ++ buffer.drop bytes.length := by
  by_cases hbytes : bytes = []
  · simp [hbytes]
  · simp [overlay_of_ne_nil buffer 0 hbytes, resize]

/-! ## What is left -/

namespace Reader

variable {reader : Reader} {data : Bytes} {cursor taken : Nat}

/-- How many bytes there are for an input behind a raw cursor, within its extent and within the data
of the stream. -/
def left (reader : Reader) (data : Bytes) (cursor : Nat) : Nat :=
  (Stream.plain data cursor).leftWithin reader.window.extent

theorem left_eq (reader : Reader) (data : Bytes) (cursor : Nat) :
    reader.left data cursor =
      min (reader.window.extent.length - (cursor - reader.window.extent.offset))
        (data.length - cursor) :=
  rfl

/-- Behind some bytes, so many less are left. -/
theorem left_add (hoffset : reader.window.extent.offset ≤ cursor) :
    reader.left data (cursor + taken) = reader.left data cursor - taken := by
  simp only [left_eq]
  omega

/-- Taking some of what is left leads to no position that there is not. -/
theorem add_lt_of_le_left (hcursor : cursor < positionLimit) (hdata : data.length < positionLimit)
    (htaken : taken ≤ reader.left data cursor) : cursor + taken < positionLimit := by
  simp only [left_eq] at htaken
  omega

end Reader

namespace Input

/-! ## Reads into a buffer -/

variable {device : Device σ} {length : Nat} {buffer bytes : Bytes} {input input' : Input}
  {world world' : σ} {journal journal' : Journal}

/-- A read stores the bytes that the read without a memory answers, if storing none changes
nothing. -/
theorem readTo_eq {store : μ → Bytes → μ} (hstore : ∀ memory, store memory [] = memory)
    (device : Device σ) (length room : Nat) :
    readTo store device length room = (do
      let bytes ← Action.onFirst (read device length room)
      let books ← Action.book
      Action.setBook (books.1, store books.2 bytes)
      return bytes.length) := by
  rw [read_eq]
  unfold readTo
  split
  · rfl
  rw [Action.onFirst_bind, bind_assoc]
  congr 1
  funext reader
  rw [Action.onFirst_bind, bind_assoc]
  congr 1
  funext position
  dsimp only
  split
  · funext frame
    have hkept : (frame.book.1, store frame.book.2 []) = frame.book := by rw [hstore]
    change _ = EStateM.Result.ok 0 { frame with book := (frame.book.1, store frame.book.2 []) }
    rw [hkept]
    rfl
  rw [Action.onFirst_bind, bind_assoc]
  rfl

/-- A read into a buffer lays the bytes over its front that the read with as much room answers. -/
theorem readInto_apply (frame : Frame (Input × Bytes) σ) :
    readInto device length frame =
      (do
        let bytes ← Action.onFirst (read device length frame.book.2.length)
        let books ← Action.book
        Action.setBook (books.1, Bytes.overlay books.2 0 bytes)
        return bytes.length : Action FileError (Input × Bytes) σ Nat) frame := by
  rw [readInto, Action.book_bind, readTo_eq fun memory => Bytes.overlay_nil memory 0]

/-- The bytes that a read answers are left at the front of the buffer. -/
theorem readInto_of_ok
    (h : read device length buffer.length ⟨input, world, journal⟩ =
      .ok bytes ⟨input', world', journal'⟩) :
    readInto device length ⟨(input, buffer), world, journal⟩ =
      .ok bytes.length ⟨(input', bytes ++ buffer.drop bytes.length), world', journal'⟩ := by
  have hread : Action.onFirst (read device length buffer.length)
      ⟨(input, buffer), world, journal⟩ = .ok bytes ⟨(input', buffer), world', journal'⟩ := by
    simp only [Action.onFirst, h]
  rw [readInto_apply, Action.bind_of_ok hread, Action.book_bind, Action.setBook_bind,
    Bytes.overlay_zero]
  rfl

/-- A read that stops leaves the buffer as it is. -/
theorem readInto_of_error {stop : Stop FileError}
    (h : read device length buffer.length ⟨input, world, journal⟩ =
      .error stop ⟨input', world', journal'⟩) :
    readInto device length ⟨(input, buffer), world, journal⟩ =
      .error stop ⟨(input', buffer), world', journal'⟩ := by
  have hread : Action.onFirst (read device length buffer.length)
      ⟨(input, buffer), world, journal⟩ = .error stop ⟨(input', buffer), world', journal'⟩ := by
    simp only [Action.onFirst, h]
  rw [readInto_apply, Action.bind_of_error hread]

/-! ## One read -/

variable {reader : Reader} {data : Bytes} {cursor room : Nat}

/-- A read of too many bytes, of more than there is room for, or from before the extent fails and
moves nothing. -/
theorem read_plain_refused
    (h : ¬(length ≤ maxTransfer ∧ length ≤ room ∧ reader.window.extent.offset ≤ cursor))
    (journal : Journal) :
    ∃ error, read Stream.device length room ⟨.opened reader, .plain data cursor, journal⟩ =
      .error (.failed error) ⟨.opened reader, .plain data cursor, journal⟩ := by
  by_cases hlength : length ≤ maxTransfer ∧ length ≤ room
  · have hbefore : cursor < reader.window.extent.offset := by omega
    exact read_fails_before_extent Stream.device_overData rfl hbefore length room journal
  · rw [read_opened, if_pos (lengthRefused_iff.mpr hlength)]
    exact ⟨_, rfl⟩

/-- Any other read takes its length of the data behind the cursor, or what is left if that is less,
and leaves the cursor behind it. -/
theorem read_plain (reader : Reader) (data : Bytes) (hcursor : cursor < positionLimit)
    (hoffset : reader.window.extent.offset ≤ cursor) (hlength : length ≤ maxTransfer)
    (hroom : length ≤ room) (journal : Journal) :
    ∃ entries, read Stream.device length room ⟨.opened reader, .plain data cursor, journal⟩ =
      .ok ((data.drop cursor).take (min length (reader.left data cursor)))
        ⟨.opened reader, .plain data (cursor + min length (reader.left data cursor)), entries⟩ := by
  have haccepted : ¬(!validLength length || decide (length > room)) = true :=
    fun hrefused => lengthRefused_iff.mp hrefused ⟨hlength, hroom⟩
  rw [read_opened, if_neg haccepted, Stream.position_plain data hcursor, Reader.left_eq,
    ← Nat.min_assoc]
  dsimp only
  rw [if_neg (Nat.not_lt.mpr hoffset)]
  generalize min length (reader.window.extent.length - (cursor - reader.window.extent.offset)) =
    wanted
  by_cases hnone : wanted = 0
  · simp [hnone]
  · -- The data bound what is taken even where the extent does not.
    have htaken : (data.drop cursor).take wanted =
        (data.drop cursor).take (min wanted (data.length - cursor)) := by
      rw [List.take_eq_take_min, List.length_drop]
    have hcount : ((data.drop cursor).take (min wanted (data.length - cursor))).length =
        min wanted (data.length - cursor) := by
      simp
    rw [if_neg hnone, Stream.readPatiently_plain, htaken, hcount]
    exact ⟨_, rfl⟩

/-- A read that has to be exact answers what it took if that is all it was to take, and is at the
end of the input otherwise. -/
theorem readExactly_of_read {frame after : Frame Input σ}
    (hread : read device length room frame = .ok bytes after) :
    readExactly device length room frame =
      if bytes.length = length then .ok bytes after
      else .error (.failed (.endOfInput after.book.name)) after := by
  rw [readExactly, Action.bind_of_ok hread]
  by_cases hexact : bytes.length = length
  · rw [if_pos hexact, if_pos hexact]
    rfl
  · rw [if_neg hexact, if_neg hexact]
    rfl

/-! ## Reads in a row -/

/-- Reads in a row take one piece behind the other, and together what is left, up to the sum of
their lengths. -/
theorem run_reads_plain (hcursor : cursor < positionLimit) (hdata : data.length < positionLimit)
    (hoffset : reader.window.extent.offset ≤ cursor) {reads : List (Nat × Nat)}
    (hreads : ∀ read ∈ reads, read.1 ≤ maxTransfer ∧ read.1 ≤ read.2) (journal : Journal) :
    ∃ (parts : List Bytes) (entries : Journal),
      Action.runAll (perform Stream.device) (reads.map fun read => .read read.1 read.2)
          ⟨.opened reader, .plain data cursor, journal⟩ =
        .ok (parts.map fun part => .ok (.counted part))
          ⟨.opened reader,
            .plain data (cursor + min (reads.map Prod.fst).sum (reader.left data cursor)),
            entries⟩ ∧
      parts.flatten =
        (data.drop cursor).take (min (reads.map Prod.fst).sum (reader.left data cursor)) := by
  induction reads generalizing cursor journal with
  | nil => exact ⟨[], journal, by simp [Action.runAll, pure, EStateM.pure], by simp⟩
  | cons read reads ih =>
    obtain ⟨⟨hlength, hroom⟩, hrest⟩ := List.forall_mem_cons.mp hreads
    obtain ⟨between, hread⟩ :=
      read_plain reader data hcursor hoffset hlength hroom journal
    have hnext : cursor + min read.1 (reader.left data cursor) < positionLimit :=
      Reader.add_lt_of_le_left hcursor hdata (Nat.min_le_right _ _)
    obtain ⟨parts, entries, hrun, hparts⟩ := ih hnext (by omega) hrest between
    rw [Reader.left_add hoffset] at hrun hparts
    have hsum : min (read.1 + (reads.map Prod.fst).sum) (reader.left data cursor) =
        min read.1 (reader.left data cursor) + min (reads.map Prod.fst).sum
          (reader.left data cursor - min read.1 (reader.left data cursor)) := by
      omega
    refine ⟨(data.drop cursor).take (min read.1 (reader.left data cursor)) :: parts, entries,
      ?_, ?_⟩
    · rw [List.map_cons, List.map_cons, List.map_cons, List.sum_cons, hsum, ← Nat.add_assoc]
      exact Action.runAll_cons_of_ok
        (Action.observe_of_ok (Action.native_of_ok .counted hread)) hrun
    · rw [List.flatten_cons, hparts, List.map_cons, List.sum_cons, hsum, List.take_add,
        List.drop_drop]

/-! ## All that reads do -/

/-- What reads come to from where the cursor of an input stands: the refused ones, those into a
buffer, those that have to be exact, and those in a row. -/
structure TakesWhatIsLeft (reader : Reader) (data : Bytes) (cursor : Nat) (journal : Journal) :
    Prop where
  refused : ∀ (length : Nat) (buffer : Bytes),
    ¬(length ≤ maxTransfer ∧ length ≤ buffer.length ∧ reader.window.extent.offset ≤ cursor) →
      ∃ error,
        readInto Stream.device length
            ⟨(.opened reader, buffer), .plain data cursor, journal⟩ =
          .error (.failed error) ⟨(.opened reader, buffer), .plain data cursor, journal⟩ ∧
        readExactly Stream.device length buffer.length
            ⟨.opened reader, .plain data cursor, journal⟩ =
          .error (.failed error) ⟨.opened reader, .plain data cursor, journal⟩
  taken : ∀ (length : Nat) (buffer : Bytes), length ≤ maxTransfer → length ≤ buffer.length →
    reader.window.extent.offset ≤ cursor →
      let count := min length (reader.left data cursor)
      ∃ entries,
        readInto Stream.device length
            ⟨(.opened reader, buffer), .plain data cursor, journal⟩ =
          .ok count
            ⟨(.opened reader, (data.drop cursor).take count ++ buffer.drop count),
              .plain data (cursor + count), entries⟩ ∧
        readExactly Stream.device length buffer.length
            ⟨.opened reader, .plain data cursor, journal⟩ =
          if count = length then
            .ok ((data.drop cursor).take count)
              ⟨.opened reader, .plain data (cursor + count), entries⟩
          else
            .error (.failed (.endOfInput reader.window.name))
              ⟨.opened reader, .plain data (cursor + count), entries⟩
  inARow : ∀ (total : Nat) (reads : List (Nat × Nat)),
    (∀ read ∈ reads, read.1 ≤ maxTransfer ∧ read.1 ≤ read.2) →
    (reads.map Prod.fst).sum = total → reader.window.extent.offset ≤ cursor →
      ∃ (parts : List Bytes) (entries : Journal),
        run Stream.device (reads.map fun read => .read read.1 read.2)
            ⟨.opened reader, .plain data cursor, journal⟩ =
          .ok (parts.map fun part => .ok (.counted part))
            ⟨.opened reader, .plain data (cursor + min total (reader.left data cursor)),
              entries⟩ ∧
        parts.flatten = (data.drop cursor).take (min total (reader.left data cursor))

/-- An input over a stream that no plan interferes with takes what is left.  A read that is refused
changes nothing.  Any other takes as many bytes as it is asked for, or as are left within the extent
and within the data, to the front of the buffer, and moves the cursor behind them; one that has to
be exact fails at the end of the input where that is less.  What reads in a row take depends on the
sum of their lengths alone. -/
theorem reads_take_what_is_left (reader : Reader) (data : Bytes) (cursor : Nat) (journal : Journal)
    (hcursor : cursor < positionLimit) (hdata : data.length < positionLimit) :
    TakesWhatIsLeft reader data cursor journal where
  refused length buffer h := by
    obtain ⟨error, hread⟩ := read_plain_refused h journal
    exact ⟨error, readInto_of_error hread, Action.bind_of_error hread _⟩
  taken length buffer hlength hroom hoffset := by
    obtain ⟨entries, hread⟩ := read_plain reader data hcursor hoffset hlength hroom journal
    have hcount : ((data.drop cursor).take (min length (reader.left data cursor))).length =
        min length (reader.left data cursor) := by
      rw [List.length_take, List.length_drop, Reader.left_eq]
      omega
    have hinto := readInto_of_ok hread
    have hexactly := readExactly_of_read hread
    rw [hcount] at hinto hexactly
    exact ⟨entries, hinto, hexactly⟩
  inARow total reads hreads hsum hoffset := by
    subst hsum
    exact run_reads_plain hcursor hdata hoffset hreads journal

/-- Seven bytes, of which the extent shows those from the third on and two that are not there.  Five
bytes are left, so a read of two and one of nine take them all. -/
theorem reads_take_what_is_left_of_seven_bytes :
    TakesWhatIsLeft ⟨⟨"in", ⟨2, 7⟩⟩, 7⟩ [1, 2, 3, 4, 5, 6, 7] 2 [] ∧
      ∃ (parts : List Bytes) (entries : Journal),
        run Stream.device [.read 2 2, .read 9 9]
            ⟨.opened ⟨⟨"in", ⟨2, 7⟩⟩, 7⟩, .plain [1, 2, 3, 4, 5, 6, 7] 2, []⟩ =
          .ok (parts.map fun part => .ok (.counted part))
            ⟨.opened ⟨⟨"in", ⟨2, 7⟩⟩, 7⟩, .plain [1, 2, 3, 4, 5, 6, 7] 7, entries⟩ ∧
        parts.flatten = [3, 4, 5, 6, 7] := by
  have htakes := reads_take_what_is_left ⟨⟨"in", ⟨2, 7⟩⟩, 7⟩ [1, 2, 3, 4, 5, 6, 7] 2 [] (by decide)
    (by decide)
  exact ⟨htakes, htakes.inARow 11 [(2, 2), (9, 9)] (by decide) rfl (by decide)⟩

end Input

end FileWindow

import FileWindow.Adapter
import FileWindow.Proofs.Completion
import FileWindow.Proofs.Rows
import FileWindow.Proofs.StreamCalls

/-!
# Writes and what was taken of them

The plan of a stream may cut a write short, interrupt it, make it accept nothing or make it fail, as
often as it likes, and the capacity may be too small.  Whatever happens, the stream has taken a
prefix of the bytes once the write is over, each byte once and at its place.  The write answers iff
that is all of them, and only then an output counts them.  Overwriting and writing through the
adapter do the same to the stream.

Main definitions:

- Definition Stream.taking: a stream that took some bytes.
- Definition Output.WritesPrefix: what the three ways to write some bytes come to.

Main results:

- Theorem Output.write_counts_or_fails: a write answers iff the stream takes all of its bytes.
- Theorems Adapter.writeAll_of_ok and Adapter.writeAll_of_error: one write is all that it takes to
  write all bytes.
- Theorem Output.write_takes_prefix: writing, overwriting and writing through the adapter.
-/

namespace FileWindow

variable {ρ σ : Type}

namespace Stream

/-- The stream after it took so many of some bytes at its cursor, with this left of its plan for
writes. -/
def taking (stream : Stream) (bytes : Bytes) (taken : Nat) (writePlan : List Reply) : Stream :=
  { stream with
    data := Bytes.overlay stream.data stream.cursor (bytes.take taken)
    cursor := stream.cursor + taken
    writePlan }

/-- Bytes that were put were taken. -/
theorem put_take (stream : Stream) {bytes : Bytes} {taken : Nat} (htaken : taken ≤ bytes.length)
    (writePlan : List Reply) :
    { stream.put (bytes.take taken) with writePlan } = stream.taking bytes taken writePlan := by
  simp [put, taking, Nat.min_eq_left htaken]

end Stream

/-! ## Overwriting, and writing through the adapter -/

variable {device : Device σ} {buffer : Bytes} {length : Nat} {frame after : Frame Output σ}

namespace Output

/-- Of a longer buffer only the bytes that are to be written count. -/
theorem write_buffer_take (writer : Writer) (world : σ) (journal : Journal)
    (hbuffer : length ≤ buffer.length) :
    write device (buffer.take length) length ⟨.opened writer, world, journal⟩ =
      write device buffer length ⟨.opened writer, world, journal⟩ := by
  have htaken : (buffer.take length).length = length := List.length_take_of_le hbuffer
  have hfits : (decide (length > buffer.length)) = false := by
    simpa using hbuffer
  simp only [write_opened, List.take_take, Nat.min_self, htaken, hfits, Nat.lt_irrefl, gt_iff_lt,
    decide_false]

/-- Overwriting answers where a write does, and takes back what was counted. -/
theorem overwrite_of_ok (hdevice : device.isStandardOutput = false)
    (h : write device buffer length frame = .ok () after) :
    overwrite device buffer length frame = .ok () { after with book := frame.book } := by
  rw [overwrite, Action.book_bind, hdevice, Bool.and_false, if_neg Bool.false_ne_true,
    Action.bind_of_ok h]
  rfl

/-- Overwriting stops where a write does. -/
theorem overwrite_of_error {stop : Stop FileError} (hdevice : device.isStandardOutput = false)
    (h : write device buffer length frame = .error stop after) :
    overwrite device buffer length frame = .error stop after := by
  rw [overwrite, Action.book_bind, hdevice, Bool.and_false, if_neg Bool.false_ne_true,
    Action.bind_of_error h]

end Output

namespace Transfer

variable {sink : Bytes → Action Fault ρ σ Nat} {bytes : Bytes} {frame after : Frame ρ σ}

/-- A loop of writes is over with the first one, if that accepts everything. -/
theorem drain_of_ok (hbytes : bytes ≠ []) (h : sink bytes frame = .ok bytes.length after)
    (rounds : Nat) : drain sink (rounds + 1) bytes frame = .ok () after := by
  obtain ⟨byte, rest, rfl⟩ := List.exists_cons_of_ne_nil hbytes
  rw [List.length_cons] at h
  rw [drain, Action.bind_of_ok (Action.observe_of_ok h)]
  simp only [List.drop_succ_cons, List.drop_length]
  cases rounds <;> rfl

/-- It is over as well if the first one fails and was not interrupted. -/
theorem drain_of_failed {fault : Fault} (hbytes : bytes ≠ [])
    (hfinal : fault.isInterruption = false) (h : sink bytes frame = .error (.failed fault) after)
    (rounds : Nat) : drain sink (rounds + 1) bytes frame = .error (.failed fault) after := by
  obtain ⟨byte, rest, rfl⟩ := List.exists_cons_of_ne_nil hbytes
  rw [drain, Action.bind_of_ok (Action.observe_of_failed h)]
  simp only [hfinal, Bool.false_eq_true, if_false]
  rfl

end Transfer

namespace Adapter

variable {bytes : Bytes}

/-- A write of all of some bytes that are not too many is one write of them. -/
theorem writeAll_of_ok (hbytes : bytes ≠ []) (hlimit : bytes.length ≤ maxTransfer)
    (h : Output.write device bytes bytes.length frame = .ok () after) :
    writeAll device bytes frame = .ok () after := by
  have hsink : write device bytes frame = .ok bytes.length after := by
    have hpassing : passing (Output.write device bytes bytes.length) frame = .ok () after := by
      simp only [passing, Action.mapError, h]
    rw [write, Nat.min_eq_left hlimit, Action.bind_of_ok hpassing]
    rfl
  rw [writeAll_apply]
  exact Transfer.drain_of_ok hbytes hsink _

/-- If that fails, and was not interrupted, so does the write of all of them. -/
theorem writeAll_of_error {error : FileError} (hbytes : bytes ≠ [])
    (hlimit : bytes.length ≤ maxTransfer)
    (hfinal : (Fault.carried error).isInterruption = false)
    (h : Output.write device bytes bytes.length frame = .error (.failed error) after) :
    writeAll device bytes frame = .error (.failed (.carried error)) after := by
  have hsink : write device bytes frame = .error (.failed (.carried error)) after := by
    have hpassing : passing (Output.write device bytes bytes.length) frame =
        .error (.failed (.carried error)) after := by
      simp only [passing, Action.mapError, h, Stop.map]
    rw [write, Nat.min_eq_left hlimit, Action.bind_of_error hpassing]
  rw [writeAll_apply]
  exact Transfer.drain_of_failed hbytes hfinal hsink _

end Adapter

/-! ## What a write comes to -/

namespace Output

/-- A write of some bytes answers and counts them where the stream takes them all.  Where it takes
less the write fails, not by an interruption, and counts nothing. -/
theorem write_counts_or_fails (writer : Writer) (stream : Stream) (journal : Journal)
    (hpos : 0 < length) (hlimit : length ≤ maxTransfer) (hbuffer : length ≤ buffer.length)
    (hcount : writer.written + length < positionLimit) :
    ∃ taken writePlan, writePlan <:+ stream.writePlan ∧
      ((taken = length ∧ ∃ entries,
          write Stream.device buffer length ⟨.opened writer, stream, journal⟩ =
            .ok () ⟨.opened (writer.count length), stream.taking buffer taken writePlan, entries⟩) ∨
        (taken < length ∧ ∃ fault, fault.isInterruption = false ∧
          write Stream.device buffer length ⟨.opened writer, stream, journal⟩ =
            .error (.failed (.ofFault writer.window.name .write fault))
              ⟨.opened writer, stream.taking buffer taken writePlan, journal⟩)) := by
  have haccepted : ¬(!validLength length || decide (length > buffer.length)) = true :=
    fun hrefused => lengthRefused_iff.mp hrefused ⟨hlimit, hbuffer⟩
  have htook := stream.writeBy_tookPrefix stream.writePlan (buffer.take length)
  have hraw : Stream.device.write (buffer.take length) stream =
      Stream.writeBy stream.writePlan (buffer.take length) stream := rfl
  rw [write_opened, if_neg (Nat.pos_iff_ne_zero.mp hpos), if_neg haccepted, hraw]
  cases hresult : Stream.writeBy stream.writePlan (buffer.take length) stream with
  | ok value world =>
    rw [hresult] at htook
    obtain ⟨writePlan, hplan, rfl⟩ := htook
    refine ⟨length, writePlan, hplan, .inl ⟨rfl, ?_⟩⟩
    dsimp only
    rw [if_pos hcount, stream.put_take hbuffer]
    exact ⟨_, rfl⟩
  | error fault world =>
    rw [hresult] at htook
    obtain ⟨hfinal, -, taken, writePlan, htaken, hplan, rfl⟩ := htook
    rw [List.length_take_of_le hbuffer] at htaken
    refine ⟨taken, writePlan, hplan, .inr ⟨htaken, fault, hfinal, ?_⟩⟩
    rw [List.take_take, Nat.min_eq_left (Nat.le_of_lt htaken), stream.put_take (by omega)]

/-- What writing some bytes of a buffer comes to, and overwriting them, and writing them through the
adapter, where the stream takes so many of them and follows its plan as far as it has to.  If that
is all of them, each of the three answers, and the bytes are counted unless they were overwritten.
Otherwise each fails, for the same reason, and nothing is counted. -/
def WritesPrefix (writer : Writer) (stream : Stream) (journal : Journal) (buffer : Bytes)
    (length taken : Nat) (writePlan : List Reply) : Prop :=
  let start : Frame Output Stream := ⟨.opened writer, stream, journal⟩
  let world := stream.taking buffer taken writePlan
  let counted : Writer :=
    ⟨⟨writer.window.name, ⟨writer.window.extent.offset,
      max writer.window.extent.length (writer.written + length)⟩⟩, writer.written + length⟩
  if taken = length then
    ∃ entries,
      write Stream.device buffer length start = .ok () ⟨.opened counted, world, entries⟩ ∧
      overwrite Stream.device buffer length start = .ok () ⟨.opened writer, world, entries⟩ ∧
      Adapter.writeAll Stream.device (buffer.take length) start =
        .ok () ⟨.opened counted, world, entries⟩
  else
    ∃ error,
      write Stream.device buffer length start =
        .error (.failed error) ⟨.opened writer, world, journal⟩ ∧
      overwrite Stream.device buffer length start =
        .error (.failed error) ⟨.opened writer, world, journal⟩ ∧
      Adapter.writeAll Stream.device (buffer.take length) start =
        .error (.failed (.carried error)) ⟨.opened writer, world, journal⟩

/-- Whatever the plan and the capacity of a stream are, a write of an output over it takes a prefix
of the bytes, each of them once, and so does overwriting, and writing through the adapter.  It
answers iff it takes all of them, and only then they are counted. -/
theorem write_takes_prefix (writer : Writer) (stream : Stream) (journal : Journal) (buffer : Bytes)
    (length : Nat) (hpos : 0 < length) (hlimit : length ≤ maxTransfer)
    (hbuffer : length ≤ buffer.length) (hcount : writer.written + length < positionLimit) :
    ∃ taken writePlan, taken ≤ length ∧ writePlan <:+ stream.writePlan ∧
      WritesPrefix writer stream journal buffer length taken writePlan := by
  have htakenLength : (buffer.take length).length = length := List.length_take_of_le hbuffer
  have hsome : buffer.take length ≠ [] := by
    rw [← List.length_pos_iff, htakenLength]
    exact hpos
  have hwhole : write Stream.device (buffer.take length) (buffer.take length).length
      ⟨.opened writer, stream, journal⟩ =
        write Stream.device buffer length ⟨.opened writer, stream, journal⟩ := by
    rw [htakenLength, write_buffer_take writer stream journal hbuffer]
  obtain ⟨taken, writePlan, hplan, hcases⟩ :=
    write_counts_or_fails writer stream journal hpos hlimit hbuffer hcount
  refine ⟨taken, writePlan, ?_, hplan, ?_⟩
  · obtain ⟨hall, -⟩ | ⟨hless, -⟩ := hcases <;> omega
  obtain ⟨hall, entries, hwrite⟩ | ⟨hless, fault, hfinal, hwrite⟩ := hcases
  · rw [WritesPrefix, if_pos hall]
    exact ⟨entries, hwrite, overwrite_of_ok rfl hwrite,
      Adapter.writeAll_of_ok hsome (by omega) (hwhole.trans hwrite)⟩
  · have hcarried : (Fault.carried (.ofFault writer.window.name .write fault)).isInterruption =
        false := by
      rw [Fault.isInterruption_carried_ofFault, hfinal]
    rw [WritesPrefix, if_neg (Nat.ne_of_lt hless)]
    exact ⟨_, hwrite, overwrite_of_error rfl hwrite,
      Adapter.writeAll_of_error hsome (by omega) hcarried (hwhole.trans hwrite)⟩

end Output

/-- A stream of three bytes with room for eight, its cursor at the sixth.  Its plan for writes lets
the first call take two bytes and interrupts the second. -/
def Stream.roomForEight : Stream :=
  { Stream.plain [1, 2, 3] 5 with
    capacity := some 8
    writePlan := [.number 2, .fails (.plain .interrupted), .asUsual] }

/-- Of four bytes three are taken, behind a gap of zeros: the first call takes two, the second is
interrupted, the third takes what fits, and the fourth takes nothing. -/
theorem Output.write_takes_prefix_of_four_bytes :
    (0 < 4 ∧ 4 ≤ maxTransfer ∧ 4 ≤ [7, 8, 9, 10].length ∧ 6 + 4 < positionLimit) ∧
      (∃ taken writePlan, taken ≤ 4 ∧ writePlan <:+ Stream.roomForEight.writePlan ∧
        WritesPrefix ⟨⟨"out", ⟨0, 3⟩⟩, 6⟩ .roomForEight [] [7, 8, 9, 10] 4 taken writePlan) ∧
      write Stream.device [7, 8, 9, 10] 4 ⟨.opened ⟨⟨"out", ⟨0, 3⟩⟩, 6⟩, .roomForEight, []⟩ =
        .error (.failed (.ofFault "out" .write (.plain .writeZero)))
          ⟨.opened ⟨⟨"out", ⟨0, 3⟩⟩, 6⟩,
            { Stream.plain [1, 2, 3, 0, 0, 7, 8, 9] 8 with capacity := some 8 }, []⟩ :=
  ⟨by decide,
    write_takes_prefix ⟨⟨"out", ⟨0, 3⟩⟩, 6⟩ .roomForEight [] [7, 8, 9, 10] 4 (by decide) (by decide)
      (by decide) (by decide),
    rfl⟩

end FileWindow

import FileWindow.Proofs.OverData

/-!
# Where writes land

A read asks the device where it stands, and fails before the extent.  A write does not ask: it lays
its bytes over the raw data at the cursor, wherever that is, and setting the extent leaves the
cursor where it was.  So the raw data before an extent are safe from a write only as long as the
cursor stands in the extent or behind it; a write that begins before the extent succeeds, and
changes what is there.

Main definitions:

- Definition Output.Operation.laid: the bytes that an operation is to lay down.
- Definition Output.Lays: a result of laying bytes over the data at the cursor.
- Definition Output.GuardsFront: a result that left the data before an offset alone.
- Definition LandsAtCursor: writes land at the cursor after any run, where reads before the extent
  fail.

Main results:

- Theorem Output.perform_lays: an operation lays its bytes at the cursor, and does not fail.
- Theorem Output.Lays.guardsFront_iff: the data before an offset are safe iff the cursor is not
  before it.
- Theorem writes_land_at_cursor: after any run, on plain streams and on open regular files.
-/

namespace FileWindow

variable {ε σ α β : Type} {device : Device σ} {shows : Nat → Bytes → σ → Prop}

open FileWindow.Action (Keeps Meets Standing)

/-! ## Laying bytes over data -/

/-- What lies before the position of a write stays. -/
theorem Bytes.getElem?_overlay_of_lt {data : Bytes} {index position : Nat} (written : Bytes)
    {byte : UInt8} (hindex : index < position) (hbyte : data[index]? = some byte) :
    (overlay data position written)[index]? = some byte := by
  by_cases hwritten : written = []
  · rw [hwritten, overlay_nil]
    exact hbyte
  · obtain ⟨hlength, -⟩ := List.getElem?_eq_some_iff.mp hbyte
    have htaken : index < (data.take position).length := by
      rw [List.length_take]
      omega
    rw [overlay_of_ne_nil _ _ hwritten, resize, List.append_assoc, List.append_assoc,
      List.getElem?_append_left htaken, List.getElem?_take_of_lt hindex]
    exact hbyte

namespace Output

/-- The bytes that an operation is to lay down; none where its length is refused. -/
def Operation.laid : Operation → Bytes
  | .write buffer length | .overwrite buffer length =>
    if length ≤ maxTransfer ∧ length ≤ buffer.length then buffer.take length else []
  | .streamWrite bytes => bytes.take maxTransfer
  | .streamWriteAll bytes => bytes
  | _ => []

/-- The output is open, and bytes were laid over the data at a cursor, which is behind them now. -/
structure Laid (shows : Nat → Bytes → σ → Prop) (cursor : Nat) (data bytes : Bytes)
    (after : Frame Output σ) : Prop where
  book : ∃ writer, after.book = .opened writer
  world : shows (cursor + bytes.length) (Bytes.overlay data cursor bytes) after.world

/-- What laying bytes over the data at the cursor comes to.  It never fails, and only where the
count leaves its range it ends with some of the bytes. -/
def Lays (shows : Nat → Bytes → σ → Prop) (cursor : Nat) (data bytes : Bytes) :
    EStateM.Result (Stop ε) (Frame Output σ) α → Prop :=
  Meets (fun _ => Laid shows cursor data bytes) (fun _ _ => False)
    fun after => ∃ part, part ≠ [] ∧ part <+: bytes ∧ Laid shows cursor data part after

/-- The data before an offset are as they were, and where the cursor was before the offset, the
operation failed and left cursor and data alone. -/
def GuardsFront (shows : Nat → Bytes → σ → Prop) (offset cursor : Nat) (data : Bytes)
    (result : EStateM.Result (Stop ε) (Frame Output σ) α) : Prop :=
  (∃ cursor' data', shows cursor' data' (Action.left result).world ∧
    ∀ index < offset, ∀ byte, data[index]? = some byte → data'[index]? = some byte) ∧
  (cursor < offset → (∃ error after, result = .error (.failed error) after) ∧
    shows cursor data (Action.left result).world)

namespace Lays

variable {cursor : Nat} {data bytes : Bytes} {result : EStateM.Result (Stop ε) (Frame Output σ) α}

/-- Bytes laid behind others are laid with them. -/
theorem behind {first second : Bytes} (hbytes : first ++ second = bytes)
    (h : Lays shows (cursor + first.length) (Bytes.overlay data cursor first) second result) :
    Lays shows cursor data bytes result := by
  subst hbytes
  have hlaid : ∀ {part : Bytes} {after : Frame Output σ},
      Laid shows (cursor + first.length) (Bytes.overlay data cursor first) part after →
        Laid shows cursor data (first ++ part) after := by
    rintro part after ⟨hbook, hworld⟩
    refine ⟨hbook, ?_⟩
    rw [Bytes.overlay_overlay, Nat.add_assoc, ← List.length_append] at hworld
    exact hworld
  refine h.imp (fun _ _ => hlaid) (fun _ _ hfalse => hfalse) ?_
  rintro after ⟨part, hpart, hprefix, hafter⟩
  exact ⟨first ++ part, by simp [hpart], (List.prefix_append_right_inj first).mpr hprefix,
    hlaid hafter⟩

/-- Whatever becomes of it, some bytes were laid. -/
theorem exists_laid (h : Lays shows cursor data bytes result) :
    ∃ part, Laid shows cursor data part (Action.left result) := by
  have hsome : Meets (fun _ after => ∃ part, Laid shows cursor data part after)
      (fun _ after => ∃ part, Laid shows cursor data part after)
      (fun after => ∃ part, Laid shows cursor data part after) result := by
    refine h.imp (fun _ _ hafter => ⟨bytes, hafter⟩) (fun _ _ hfalse => hfalse.elim) ?_
    rintro after ⟨part, -, -, hafter⟩
    exact ⟨part, hafter⟩
  exact hsome.left

/-- The data before an offset are safe where bytes are laid at the offset or behind it, and nowhere
else. -/
theorem guardsFront_iff (h : Lays shows cursor data bytes result) (offset : Nat) :
    GuardsFront shows offset cursor data result ↔ offset ≤ cursor := by
  constructor
  · rintro ⟨-, hfails⟩
    by_contra hbefore
    obtain ⟨⟨error, after, rfl⟩, -⟩ := hfails (Nat.not_le.mp hbefore)
    exact h
  · intro hoffset
    obtain ⟨part, -, hworld⟩ := h.exists_laid
    refine ⟨⟨_, _, hworld, fun index hindex byte hbyte => ?_⟩, fun hbefore => ?_⟩
    · exact Bytes.getElem?_overlay_of_lt part (Nat.lt_of_lt_of_le hindex hoffset) hbyte
    · exact absurd hoffset (Nat.not_le.mpr hbefore)

end Lays

/-! ## Writing -/

variable {writer : Writer} {world : σ} {journal : Journal} {cursor : Nat} {data : Bytes}

/-- A write of some bytes, of which there are enough and not too many, lays them down. -/
theorem write_lays (h : device.OverData shows) (hworld : shows cursor data world) {buffer : Bytes}
    {length : Nat} (hlength : length ≠ 0) (hlimit : length ≤ maxTransfer)
    (hbuffer : length ≤ buffer.length) :
    Lays shows cursor data (buffer.take length)
      (write device buffer length ⟨.opened writer, world, journal⟩) := by
  have haccepted : ¬(!validLength length || decide (length > buffer.length)) = true :=
    fun hrefused => lengthRefused_iff.mp hrefused ⟨hlimit, hbuffer⟩
  have hpart : buffer.take length ≠ [] := by
    rw [← List.length_pos_iff, List.length_take]
    omega
  obtain ⟨after, hwrite, hafter⟩ := h.write hworld (buffer.take length)
  rw [write_opened, if_neg hlength, if_neg haccepted, hwrite]
  dsimp only
  by_cases hcount : writer.written + length < positionLimit
  · rw [if_pos hcount]
    exact ⟨⟨_, rfl⟩, hafter⟩
  · rw [if_neg hcount]
    exact ⟨_, hpart, List.prefix_rfl, ⟨_, rfl⟩, hafter⟩

/-- Taking back what was counted leaves the bytes where they are. -/
theorem overwrite_lays (h : device.OverData shows) (hworld : shows cursor data world)
    {buffer : Bytes} {length : Nat} (hlength : length ≠ 0) (hlimit : length ≤ maxTransfer)
    (hbuffer : length ≤ buffer.length) :
    Lays shows cursor data (buffer.take length)
      (overwrite device buffer length ⟨.opened writer, world, journal⟩) := by
  rw [overwrite, Action.book_bind, h.isStandardOutput, Bool.and_false,
    if_neg Bool.false_ne_true]
  refine Meets.bind (write_lays h hworld hlength hlimit hbuffer) ?_
  intro _ after hafter
  exact ⟨⟨writer, rfl⟩, hafter.world⟩

/-- One write through the adapter lays down as many bytes as a write may have. -/
theorem adapterWrite_lays (h : device.OverData shows) (hworld : shows cursor data world)
    {bytes : Bytes} (hbytes : bytes ≠ []) :
    Meets
      (fun accepted after => accepted = min bytes.length maxTransfer ∧
        Laid shows cursor data (bytes.take accepted) after)
      (fun _ _ => False)
      (fun after => ∃ part, part ≠ [] ∧ part <+: bytes.take maxTransfer ∧
        Laid shows cursor data part after)
      (Adapter.write device bytes ⟨.opened writer, world, journal⟩) := by
  have hpos : 0 < bytes.length := List.length_pos_iff.mpr hbytes
  have hmax : 0 < maxTransfer := by decide
  have hwrite : Lays shows cursor data (bytes.take (min bytes.length maxTransfer))
      (Adapter.passing (write device bytes (min bytes.length maxTransfer))
        ⟨.opened writer, world, journal⟩) := by
    apply Meets.mapError
    exact write_lays h hworld (by omega) (by omega) (by omega)
  have htake : bytes.take maxTransfer = bytes.take (min bytes.length maxTransfer) := by
    rw [List.take_eq_take_min, Nat.min_comm]
  rw [htake]
  exact Meets.bind hwrite fun _ after hafter => ⟨rfl, hafter⟩

/-- Writing all of some bytes lays them down, one part behind the other. -/
theorem drain_lays (h : device.OverData shows) {rounds : Nat} {bytes : Bytes}
    (hrounds : bytes.length ≤ rounds) (hbytes : bytes ≠ [])
    (hworld : shows cursor data world) :
    Lays shows cursor data bytes
      (Transfer.drain (Adapter.write device) rounds bytes ⟨.opened writer, world, journal⟩) := by
  induction rounds generalizing bytes writer world journal cursor data with
  | zero => exact absurd (List.eq_nil_of_length_eq_zero (Nat.le_zero.mp hrounds)) hbytes
  | succ rounds ih =>
    match bytes, hbytes with
    | byte :: rest, hbytes =>
      have hmax : 0 < maxTransfer := by decide
      have hpos : 0 < (byte :: rest).length := Nat.succ_pos _
      have hfirst : Meets
          (fun accepted after => accepted = min (byte :: rest).length maxTransfer ∧
            Laid shows cursor data ((byte :: rest).take accepted) after)
          (fun _ _ => False)
          (fun after => ∃ part, part ≠ [] ∧ part <+: byte :: rest ∧
            Laid shows cursor data part after)
          (Adapter.write device (byte :: rest) ⟨.opened writer, world, journal⟩) := by
        refine (adapterWrite_lays h hworld hbytes).imp (fun _ _ h => h) (fun _ _ h => h) ?_
        rintro after ⟨part, hpart, hprefix, hafter⟩
        exact ⟨part, hpart, hprefix.trans (List.take_prefix _ _), hafter⟩
      refine hfirst.observed.bind fun outcome after hafter => ?_
      match outcome, hafter with
      | .ok 0, ⟨haccepted, _⟩ => omega
      | .ok (accepted + 1), ⟨haccepted, ⟨writer', hbook⟩, hworld'⟩ =>
        rcases after with ⟨book, world', journal'⟩
        obtain rfl : book = .opened writer' := hbook
        have hlater : Lays shows cursor data (byte :: rest)
            (Transfer.drain (Adapter.write device) rounds ((byte :: rest).drop (accepted + 1))
              ⟨opened writer', world', journal'⟩) := by
          by_cases hrest : (byte :: rest).drop (accepted + 1) = []
          · -- Everything was laid in one go, and the loop ends.
            have hall : (byte :: rest).take (accepted + 1) = byte :: rest :=
              List.take_of_length_le (List.drop_eq_nil_iff.mp hrest)
            rw [hall] at hworld'
            rw [hrest]
            cases rounds <;> exact ⟨⟨_, rfl⟩, hworld'⟩
          · have hleft : ((byte :: rest).drop (accepted + 1)).length ≤ rounds := by
              rw [List.length_drop]
              omega
            exact Lays.behind (List.take_append_drop (accepted + 1) (byte :: rest))
              (ih hleft hrest hworld')
        exact hlater

/-- Whatever an operation is to lay down, it lays at the cursor, and it does not fail. -/
theorem perform_lays (h : device.OverData shows) (hworld : shows cursor data world)
    {operation : Operation} (hlaid : operation.laid ≠ []) :
    Lays shows cursor data operation.laid
      (perform device operation ⟨.opened writer, world, journal⟩) := by
  have hwhole : ∀ {buffer : Bytes} {length : Nat},
      (if length ≤ maxTransfer ∧ length ≤ buffer.length then buffer.take length else []) ≠ [] →
        length ≠ 0 ∧ length ≤ maxTransfer ∧ length ≤ buffer.length := by
    intro buffer length hpart
    by_cases haccepted : length ≤ maxTransfer ∧ length ≤ buffer.length
    · refine ⟨?_, haccepted⟩
      rintro rfl
      simp at hpart
    · rw [if_neg haccepted] at hpart
      exact absurd rfl hpart
  cases operation with
  | write buffer length =>
    obtain ⟨hlength, haccepted⟩ := hwhole hlaid
    rw [Operation.laid, if_pos haccepted]
    apply Meets.native
    exact write_lays h hworld hlength haccepted.1 haccepted.2
  | overwrite buffer length =>
    obtain ⟨hlength, haccepted⟩ := hwhole hlaid
    rw [Operation.laid, if_pos haccepted]
    apply Meets.native
    exact overwrite_lays h hworld hlength haccepted.1 haccepted.2
  | streamWrite bytes =>
    have hbytes : bytes ≠ [] := by
      rintro rfl
      exact hlaid rfl
    apply Meets.foreign
    refine (adapterWrite_lays h hworld hbytes).imp ?_ (fun _ _ h => h) fun _ h => h
    rintro accepted after ⟨rfl, hafter⟩
    rw [Operation.laid, List.take_eq_take_min, Nat.min_comm]
    exact hafter
  | streamWriteAll bytes =>
    apply Meets.foreign
    rw [Adapter.writeAll_apply]
    have hrounds : bytes.length ≤ bytes.length + device.patience world + 1 := by omega
    exact drain_lays h hrounds hlaid hworld
  | _ => exact absurd rfl hlaid

end Output

/-! ## Reading before the extent -/

/-- A read that begins before the extent fails, and moves nothing. -/
theorem Input.read_fails_before_extent (h : device.OverData shows) {reader : Reader} {world : σ}
    {cursor : Nat} {data : Bytes} (hworld : shows cursor data world)
    (hbefore : cursor < reader.window.extent.offset) (length room : Nat) (journal : Journal) :
    ∃ error, Input.read device length room ⟨.opened reader, world, journal⟩ =
      .error (.failed error) ⟨.opened reader, world, journal⟩ := by
  rw [Input.read_opened]
  by_cases hrefused : (!validLength length || decide (length > room)) = true
  · rw [if_pos hrefused]
    exact ⟨_, rfl⟩
  rw [if_neg hrefused]
  obtain hposition | ⟨fault, hposition⟩ := h.position hworld
  · rw [hposition]
    dsimp only
    rw [if_pos hbefore]
    exact ⟨_, rfl⟩
  · rw [hposition]
    exact ⟨_, rfl⟩

/-! ## Whole runs -/

/-- After any run of an output on this world, as long as the output is open, there are a cursor and
data; every operation that has bytes to lay down lays them at the cursor and does not fail, so the
data before the extent are safe from it iff the cursor is not before the extent; and an input whose
extent begins behind the cursor fails to read there. -/
def LandsAtCursor (device : Device σ) (shows : Nat → Bytes → σ → Prop) (world : σ) : Prop :=
  ∀ (output : Output) (journal : Journal) (operations : List Output.Operation) (writer : Writer),
    let reached := Action.left (Output.run device operations ⟨output, world, journal⟩)
    reached.book = .opened writer →
      ∃ cursor data, shows cursor data reached.world ∧
        (∀ operation : Output.Operation, operation.laid ≠ [] →
          Output.Lays shows cursor data operation.laid (Output.perform device operation reached) ∧
          (Output.GuardsFront shows writer.window.extent.offset cursor data
              (Output.perform device operation reached) ↔
            writer.window.extent.offset ≤ cursor)) ∧
        ∀ (reader : Reader) (length room : Nat) (entries : Journal),
          cursor < reader.window.extent.offset →
            ∃ error, Input.read device length room ⟨.opened reader, reached.world, entries⟩ =
              .error (.failed error) ⟨.opened reader, reached.world, entries⟩

/-- Writes on a device over data land at the cursor, after any run. -/
theorem Device.OverData.landsAtCursor (h : device.OverData shows) {world : σ} {cursor : Nat}
    {data : Bytes} (hworld : shows cursor data world) : LandsAtCursor device shows world := by
  intro output journal operations writer reached hbook
  have hstarting : Standing Output.isOpen (fun world => ∃ cursor data, shows cursor data world)
      (fun _ => True) (⟨output, world, journal⟩ : Frame Output σ) := by
    unfold Standing
    split
    · exact ⟨cursor, data, hworld⟩
    · trivial
  have hreached : Standing Output.isOpen (fun world => ∃ cursor data, shows cursor data world)
      (fun _ => True) reached :=
    (Keeps.runAll (Output.perform_keeps h.keeps h.keeps.flush (.trivially _)) operations).left
      hstarting
  rcases hafter : reached with ⟨book, world', journal'⟩
  rw [hafter] at hbook hreached
  obtain rfl : book = .opened writer := hbook
  obtain ⟨cursor', data', hworld'⟩ := hreached
  refine ⟨cursor', data', hworld', fun operation hlaid => ?_,
    fun reader length room entries hbefore => ?_⟩
  · have hlays : Output.Lays shows cursor' data' operation.laid
        (Output.perform device operation ⟨.opened writer, world', journal'⟩) :=
      Output.perform_lays h hworld' hlaid
    exact ⟨hlays, hlays.guardsFront_iff _⟩
  · exact Input.read_fails_before_extent h hworld' hbefore length room entries

/-- On a plain stream and on an open regular file a write lands at the cursor, whatever the extent
is, and changes what is before the extent where the cursor is there. -/
theorem writes_land_at_cursor (data : Bytes) (cursor : Nat) :
    LandsAtCursor Stream.device Stream.IsPlain (.plain data cursor) ∧
      ∀ (files : FileSystem) (handle : Nat) (readable : Bool),
        files.Shows handle readable true cursor data →
          LandsAtCursor (FileSystem.device handle)
            (fun cursor data files => files.Shows handle readable true cursor data) files :=
  ⟨Stream.device_overData.landsAtCursor rfl,
    fun _ handle readable hfiles =>
      (FileSystem.device_overData handle readable).landsAtCursor hfiles⟩

/-- The file of three bytes, opened for an update. -/
def FileSystem.updatingThreeBytes : FileSystem :=
  { FileSystem.withThreeBytes with opened := [⟨7, 0, true, true, true⟩] }

/-- The extent of the file is set to its last byte while the cursor stands at its first, and a write
changes the first. -/
theorem writes_land_at_cursor_of_three_bytes :
    FileSystem.updatingThreeBytes.Shows 0 true true 0 [1, 2, 3] ∧
      ∃ reached,
        Action.left (Output.run (FileSystem.device 0) [.setExtent 2 (.bytes 1)]
          ⟨.opened ⟨⟨"data", ⟨0, 3⟩⟩, 0⟩, FileSystem.updatingThreeBytes, []⟩) = reached ∧
        Output.Lays (fun cursor data files => files.Shows 0 true true cursor data) 0 [1, 2, 3] [9]
          (Output.perform (FileSystem.device 0) (.write [9] 1) reached) ∧
        ¬Output.GuardsFront (fun cursor data files => files.Shows 0 true true cursor data) 2 0
          [1, 2, 3] (Output.perform (FileSystem.device 0) (.write [9] 1) reached) := by
  have hfiles : FileSystem.updatingThreeBytes.Shows 0 true true 0 [1, 2, 3] :=
    ⟨7, 0o644, .ofBytes [1, 2, 3], rfl, rfl, rfl⟩
  have hreached : Action.left (Output.run (FileSystem.device 0) [.setExtent 2 (.bytes 1)]
      ⟨.opened ⟨⟨"data", ⟨0, 3⟩⟩, 0⟩, FileSystem.updatingThreeBytes, []⟩) =
        ⟨.opened ⟨⟨"data", ⟨2, 1⟩⟩, 0⟩, FileSystem.updatingThreeBytes,
          [.extentSet "data" ⟨2, 1⟩]⟩ := rfl
  have hlands := (writes_land_at_cursor [1, 2, 3] 0).2 .updatingThreeBytes 0 true hfiles
    (.opened ⟨⟨"data", ⟨0, 3⟩⟩, 0⟩) [] [.setExtent 2 (.bytes 1)] ⟨⟨"data", ⟨2, 1⟩⟩, 0⟩
  simp only [hreached] at hlands
  obtain ⟨cursor, data, hshows, hlays, -⟩ := hlands trivial
  obtain ⟨rfl, rfl⟩ := (FileSystem.device_overData 0 true).unique hfiles hshows
  obtain ⟨hlaid, hguards⟩ := hlays (.write [9] 1) (by decide)
  exact ⟨hfiles, _, hreached, hlaid, fun hguarded => absurd (hguards.mp hguarded) (by decide)⟩

/-- The same three bytes in a stream.  The write answers, and the first byte, two positions before
the extent, is changed. -/
theorem write_changes_front :
    Output.attach Stream.device "out" ⟨(), .plain [1, 2, 3] 0, []⟩ =
        .ok (.opened ⟨⟨"out", ⟨0, 3⟩⟩, 0⟩) ⟨(), .plain [1, 2, 3] 0, [.opened "out" 3]⟩ ∧
      Output.run Stream.device [.setExtent 2 (.bytes 1), .write [9] 1]
          ⟨.opened ⟨⟨"out", ⟨0, 3⟩⟩, 0⟩, .plain [1, 2, 3] 0, [.opened "out" 3]⟩ =
        .ok [.ok .nothing, .ok .nothing]
          ⟨.opened ⟨⟨"out", ⟨2, 1⟩⟩, 1⟩, .plain [9, 2, 3] 1,
            [.didWrite "out" 1 1, .extentSet "out" ⟨2, 1⟩, .opened "out" 3]⟩ :=
  ⟨rfl, rfl⟩

end FileWindow

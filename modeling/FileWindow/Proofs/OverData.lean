import FileWindow.Proofs.FileStream
import FileWindow.Proofs.Position
import FileWindow.Proofs.RoundTrip

/-!
# Devices over data

A plain stream and an open regular file are the same kind of device: there are data and a cursor,
seeks put the cursor anywhere below some limit, and a write lays its bytes over the data at the
cursor, wherever that is.  This file says so once for both, for cursors and data of any size, so
that what is proved of such devices holds of streams and of files.

Main definitions:

- Definition Device.OverData: a device over data with a cursor.

Main results:

- Theorem Device.OverData.keeps: there are always data and a cursor.
- Theorems Stream.device_overData and FileSystem.device_overData: plain streams and open regular
  files.
-/

namespace FileWindow

variable {σ : Type} {device : Device σ} {shows : Nat → Bytes → σ → Prop}

open FileSystem (seekTarget)

/-- A device over data: a cursor that is told and put somewhere, or that is too far for it, and
writes that lay their bytes over the data at the cursor.  What fails changes nothing.  The worlds of
the device are told by a cursor and by data, each by one. -/
structure Device.OverData (device : Device σ) (shows : Nat → Bytes → σ → Prop) : Prop where
  unique : ∀ {cursor cursor' data data' world}, shows cursor data world →
    shows cursor' data' world → cursor = cursor' ∧ data = data'
  position : ∀ {cursor data world}, shows cursor data world →
    device.position world = .ok cursor world ∨ ∃ fault, device.position world = .error fault world
  seek : ∀ {cursor data world}, shows cursor data world → ∀ target,
    (∃ landed after, device.seek target world = .ok landed after ∧ shows landed data after ∧
        (landed : Int) = seekTarget cursor data.length target) ∨
      ∃ fault, device.seek target world = .error fault world
  size : ∀ {cursor data world}, shows cursor data world →
    ∃ size, device.size world = .ok size world
  read : ∀ length, Call.Leads (fun world => ∃ cursor data, shows cursor data world)
    (fun world => ∃ cursor data, shows cursor data world) (device.read length)
  write : ∀ {cursor data world}, shows cursor data world → ∀ bytes,
    ∃ after, device.write bytes world = .ok () after ∧
      shows (cursor + bytes.length) (Bytes.overlay data cursor bytes) after
  flush : ∀ {cursor data world}, shows cursor data world → device.flush world = .ok () world
  isStandardOutput : device.isStandardOutput = false

/-- Until it is released, such a device has data and a cursor. -/
theorem Device.OverData.keeps (h : device.OverData shows) :
    device.Keeps fun world => ∃ cursor data, shows cursor data world where
  seek target := by
    rintro world ⟨cursor, data, hworld⟩
    obtain ⟨landed, after, hseek, hafter, -⟩ | ⟨fault, hseek⟩ := h.seek hworld target
    · rw [hseek]
      exact ⟨landed, data, hafter⟩
    · rw [hseek]
      exact ⟨cursor, data, hworld⟩
  size := by
    rintro world ⟨cursor, data, hworld⟩
    obtain ⟨size, hsize⟩ := h.size hworld
    rw [hsize]
    exact ⟨cursor, data, hworld⟩
  read := h.read
  write bytes := by
    rintro world ⟨cursor, data, hworld⟩
    obtain ⟨after, hwrite, hafter⟩ := h.write hworld bytes
    rw [hwrite]
    exact ⟨_, _, hafter⟩
  flush := by
    rintro world ⟨cursor, data, hworld⟩
    rw [h.flush hworld]
    exact ⟨cursor, data, hworld⟩

/-! ## Plain streams -/

/-- A seek that goes nowhere asks for the place of the cursor. -/
theorem FileSystem.seekTarget_nowhere (cursor length : Nat) :
    seekTarget cursor length (.current 0) = cursor :=
  Int.add_zero _

namespace Stream

/-- A seek of a plain stream lands where it was sent, or fails and leaves the stream. -/
theorem seek_plain (data : Bytes) (cursor : Nat) (target : RawSeek) :
    (∃ landed, Stream.device.seek target (plain data cursor) = .ok landed (plain data landed) ∧
        (landed : Int) = seekTarget cursor data.length target ∧ landed < positionLimit) ∨
      ∃ fault,
        Stream.device.seek target (plain data cursor) = .error fault (plain data cursor) := by
  have hseek : Stream.device.seek target (plain data cursor) =
      (plain data cursor).move target := rfl
  have htarget : (plain data cursor).target target = seekTarget cursor data.length target := by
    cases target <;> rfl
  cases hmove : (plain data cursor).move target with
  | ok landed after =>
    obtain ⟨hlanded, hlimit⟩ := eq_target_of_move hmove
    obtain rfl := move_of_ok hmove
    exact .inl ⟨landed, hseek.trans hmove, hlanded.trans htarget, hlimit⟩
  | error fault after =>
    obtain ⟨rfl, -⟩ := move_of_error hmove
    exact .inr ⟨fault, hseek.trans hmove⟩

/-- A plain stream is measured without a trace, if it can be measured at all. -/
theorem exists_size_plain (data : Bytes) (cursor : Nat) :
    ∃ size, Stream.device.size (plain data cursor) = .ok size (plain data cursor) := by
  have hnowhere := FileSystem.seekTarget_nowhere cursor data.length
  obtain ⟨saved, hsaved, htold, hlimit⟩ | ⟨fault, hsaved⟩ := seek_plain data cursor (.current 0)
  · obtain rfl : saved = cursor := by omega
    have hsaved : seek (.current 0) (plain data saved) = .ok saved (plain data saved) := hsaved
    obtain ⟨length, hend, -⟩ | ⟨fault, hend⟩ := seek_plain data saved (.finish 0)
    · have hend : seek (.finish 0) (plain data saved) = .ok length (plain data length) := hend
      refine ⟨some length, ?_⟩
      simp only [Stream.device, size, hsaved, hend, seek_start_plain data length hlimit]
    · have hend : seek (.finish 0) (plain data saved) = .error fault (plain data saved) := hend
      refine ⟨none, ?_⟩
      simp only [Stream.device, size, hsaved, hend]
  · have hsaved : seek (.current 0) (plain data cursor) = .error fault (plain data cursor) := hsaved
    refine ⟨none, ?_⟩
    simp only [Stream.device, size, hsaved]

/-- A plain stream is a device over its data. -/
theorem device_overData : Stream.device.OverData IsPlain where
  unique := by
    rintro cursor cursor' data data' _ rfl hplain
    cases hplain
    exact ⟨rfl, rfl⟩
  position := by
    rintro cursor data _ rfl
    obtain ⟨landed, hseek, hlanded, -⟩ | hfault := seek_plain data cursor (.current 0)
    · have hnowhere := FileSystem.seekTarget_nowhere cursor data.length
      obtain rfl : landed = cursor := by omega
      exact .inl hseek
    · exact .inr hfault
  seek := by
    rintro cursor data _ rfl target
    obtain ⟨landed, hseek, hlanded, -⟩ | hfault := seek_plain data cursor target
    · exact .inl ⟨landed, _, hseek, rfl, hlanded⟩
    · exact .inr hfault
  size := by
    rintro cursor data _ rfl
    exact exists_size_plain data cursor
  read := by
    rintro length _ ⟨cursor, data, rfl⟩
    exact ⟨_, data, rfl⟩
  write := by
    rintro cursor data _ rfl bytes
    exact ⟨_, device_write_plain data cursor bytes, rfl⟩
  flush := by
    rintro cursor data _ rfl
    rfl
  isStandardOutput := rfl

end Stream

/-! ## Open regular files -/

namespace FileSystem

variable {files : FileSystem} {handle cursor : Nat} {readable writable : Bool} {data : Bytes}

/-- A seek of an open regular file lands where it was sent, or fails and leaves the file. -/
theorem Shows.seek_lands (h : files.Shows handle readable writable cursor data)
    (target : RawSeek) :
    (∃ landed after, (FileSystem.device handle).seek target files = .ok landed after ∧
        after.Shows handle readable writable landed data ∧
        (landed : Int) = seekTarget cursor data.length target) ∨
      ∃ fault, (FileSystem.device handle).seek target files = .error fault files := by
  by_cases hbounds : 0 ≤ seekTarget cursor data.length target ∧
      seekTarget cursor data.length target < filePositionLimit
  · obtain ⟨landed, hlanded⟩ := Int.eq_ofNat_of_zero_le hbounds.1
    obtain ⟨after, hseek, hafter⟩ := h.seek target hlanded (by omega)
    exact .inl ⟨landed, after, hseek, hafter, hlanded.symm⟩
  · obtain ⟨id, mode, contents, hopened, hnode, rfl⟩ := h
    rw [Contents.length_toBytes] at hbounds
    have hrefused : seekTarget cursor contents.size target < 0 ∨
        filePositionLimit ≤ seekTarget cursor contents.size target := by omega
    refine .inr ⟨.system Errno.invalidArgument, ?_⟩
    simp only [FileSystem.device, seekFile, withOpened_eq hopened hnode, Node.contents?,
      Option.getD_some]
    exact if_pos hrefused

/-- An open regular file tells its cursor, or fails, and stays as it is. -/
theorem Shows.position_told (h : files.Shows handle readable writable cursor data) :
    (FileSystem.device handle).position files = .ok cursor files ∨
      ∃ fault, (FileSystem.device handle).position files = .error fault files := by
  have hnowhere := seekTarget_nowhere cursor data.length
  cases device_rests files handle with
  | lost hposition => exact .inr ⟨_, hposition⟩
  | @placed raw hraw hposition hback =>
    obtain ⟨landed, after, hseek, -, hlanded⟩ | ⟨fault, hseek⟩ := h.seek_lands (.current 0)
    · cases hposition.symm.trans hseek
      obtain rfl : raw = cursor := by omega
      exact .inl hposition
    · exact .inr ⟨fault, hseek⟩

/-- An open regular file that may be written is a device over its data. -/
theorem device_overData (handle : Nat) (readable : Bool) :
    (FileSystem.device handle).OverData
      fun cursor data files => files.Shows handle readable true cursor data where
  unique := by
    rintro cursor cursor' data data' files ⟨id, mode, contents, hopened, hnode, rfl⟩
      ⟨id', mode', contents', hopened', hnode', rfl⟩
    cases hopened.symm.trans hopened'
    cases hnode.symm.trans hnode'
    exact ⟨rfl, rfl⟩
  position h := h.position_told
  seek h target := h.seek_lands target
  size h := ⟨_, h.size⟩
  read := by
    rintro length files ⟨cursor, data, h⟩
    cases readable with
    | true =>
      obtain ⟨after, hread, hafter⟩ := h.read length
      have hread : (FileSystem.device handle).read length files = _ := hread
      rw [hread]
      exact ⟨_, data, hafter⟩
    | false =>
      have hrefused : (FileSystem.device handle).read length files =
          .error (.system Errno.badDescriptor) files := by
        obtain ⟨id, mode, contents, hopened, hnode, -⟩ := h
        simp only [FileSystem.device, readFile, Shows.withOpened_eq hopened hnode]
        rfl
      rw [hrefused]
      exact ⟨cursor, data, h⟩
  write h bytes := h.write bytes
  flush _ := rfl
  isStandardOutput := rfl

end FileSystem

end FileWindow

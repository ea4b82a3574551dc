import FileWindow.FileSystem.OpenFile
import FileWindow.Proofs.WholeTwins
import FileWindow.Stream

/-!
# A file and a stream

An open regular file and a stream in memory with the same bytes and the same cursor are alike
altogether.  They measure their size in different ways, the file by looking it up and the stream by
seeking to its end and back, and only the file is closed by its release.  As devices they cannot be
told apart, as long as positions fit in a signed word.

Main definitions:

- Definition FileSystem.Shows: an open file on a regular file, with a cursor and data.
- Definition FileSystem.dataBehind?: the data of the file behind an open file, closed or not.
- Definition Stream.fileBond: a stream and an open file with the same cursor and data.

Main results:

- Theorems FileSystem.Shows.seek, FileSystem.Shows.read and FileSystem.Shows.write: what the calls
  of an open file do to its cursor and its data.
- Theorems Stream.fileBond_reads, Stream.fileBond_writes and Stream.fileBond_whole: the stream and
  the file are twins, altogether.
-/

namespace FileWindow

/-! ## Open files -/

namespace FileSystem

/-- The data of the regular file behind an open file, whether its descriptor is still open or
not. -/
def dataBehind? (files : FileSystem) (handle : Nat) : Option Bytes := do
  let file ← files.opened[handle]?
  let node ← files.node? file.node
  let contents ← node.contents?
  return contents.toBytes

/-- An open file on a regular file: what may be done with it, where its cursor stands, and what
data the file has. -/
def Shows (files : FileSystem) (handle : Nat) (readable writable : Bool) (cursor : Nat)
    (data : Bytes) : Prop :=
  ∃ id mode contents, files.opened[handle]? = some ⟨id, cursor, readable, writable, true⟩ ∧
    files.node? id = some (.file mode contents) ∧ contents.toBytes = data

/-- An open file put in its place is found there. -/
theorem getElem?_opened_setOpened {files : FileSystem} {handle : Nat} {file before : OpenFile}
    (h : files.opened[handle]? = some before) :
    (files.setOpened handle file).opened[handle]? = some file := by
  rcases List.getElem?_eq_some_iff.mp h with ⟨hlt, -⟩
  simp [setOpened, hlt]

/-- A node that is there can be changed. -/
theorem node?_setNode_of_node? {files : FileSystem} {id : NodeId} {node before : Node}
    (h : files.node? id = some before) : (files.setNode id node).node? id = some node := by
  rcases List.getElem?_eq_some_iff.mp h with ⟨hlt, -⟩
  exact node?_setNode_self hlt node

namespace Shows

variable {files : FileSystem} {handle cursor : Nat} {readable writable : Bool} {data : Bytes}

/-- What an open file shows is the data behind it. -/
theorem dataBehind?_eq (h : files.Shows handle readable writable cursor data) :
    files.dataBehind? handle = some data := by
  rcases h with ⟨id, mode, contents, hopened, hnode, hdata⟩
  simp [dataBehind?, hopened, hnode, Node.contents?, hdata]

/-- An open file whose descriptor was not closed is live. -/
theorem live?_eq {id : NodeId}
    (hopened : files.opened[handle]? = some ⟨id, cursor, readable, writable, true⟩) :
    files.live? handle = some ⟨id, cursor, readable, writable, true⟩ := by
  rw [live?, hopened]
  rfl

/-- A call on an open file finds the file and its node. -/
theorem withOpened_eq {α : Type}
    {use : FileSystem → OpenFile → Node → EStateM.Result Fault FileSystem α} {id mode : Nat}
    {contents : Contents}
    (hopened : files.opened[handle]? = some ⟨id, cursor, readable, writable, true⟩)
    (hnode : files.node? id = some (.file mode contents)) :
    withOpened handle use files =
      use files ⟨id, cursor, readable, writable, true⟩ (.file mode contents) := by
  simp only [withOpened, live?_eq hopened, hnode]

/-- A seek to a position that fits in a signed word lands there. -/
theorem seek (h : files.Shows handle readable writable cursor data) (target : RawSeek)
    {position : Nat} (htarget : seekTarget cursor data.length target = position)
    (hlimit : position < filePositionLimit) :
    ∃ after, (device handle).seek target files = .ok position after ∧
      after.Shows handle readable writable position data := by
  rcases h with ⟨id, mode, contents, hopened, hnode, rfl⟩
  have hposition : seekTarget cursor contents.size target = position := by
    rw [← htarget, Contents.length_toBytes]
  refine ⟨files.setOpened handle ⟨id, position, readable, writable, true⟩, ?_, id, mode, contents,
    getElem?_opened_setOpened hopened, hnode, rfl⟩
  simp only [device, seekFile, withOpened_eq hopened hnode, Node.contents?, Option.getD_some,
    hposition]
  rw [if_neg (by omega)]
  rfl

/-- The size is looked up. -/
theorem size (h : files.Shows handle readable writable cursor data) :
    (device handle).size files = .ok (some data.length) files := by
  rcases h with ⟨id, mode, contents, hopened, hnode, rfl⟩
  simp [device, sizeFile, withOpened_eq hopened hnode, Node.contents?]

/-- A read takes the bytes from the cursor on, and is never interrupted. -/
theorem read (h : files.Shows handle true writable cursor data) (length : Nat) :
    ∃ after, (device handle).readPatiently length files =
        .ok ((data.drop cursor).take length) after ∧
      after.Shows handle true writable (cursor + ((data.drop cursor).take length).length) data := by
  rcases h with ⟨id, mode, contents, hopened, hnode, rfl⟩
  refine ⟨files.setOpened handle
    ⟨id, cursor + ((contents.toBytes.drop cursor).take length).length, true, writable, true⟩, ?_,
    id, mode, contents, getElem?_opened_setOpened hopened, hnode, rfl⟩
  simp [Device.readPatiently, device, Device.readRetrying, readFile, withOpened_eq hopened hnode,
    Contents.slice_eq]

/-- A write lays the bytes over the data at the cursor. -/
theorem write (h : files.Shows handle readable true cursor data) (bytes : Bytes) :
    ∃ after, (device handle).write bytes files = .ok () after ∧
      after.Shows handle readable true (cursor + bytes.length)
        (Bytes.overlay data cursor bytes) := by
  cases bytes with
  | nil => exact ⟨files, rfl, h⟩
  | cons byte rest =>
    rcases h with ⟨id, mode, contents, hopened, hnode, rfl⟩
    refine ⟨(files.setNode id (.file (plainMode mode)
        (contents.overlay cursor (byte :: rest)))).setOpened handle
          ⟨id, cursor + (byte :: rest).length, readable, true, true⟩, ?_,
      id, plainMode mode, contents.overlay cursor (byte :: rest),
      getElem?_opened_setOpened hopened, node?_setNode_of_node? hnode, by simp⟩
    simp [device, writeFile, withOpened_eq hopened hnode]

/-- Closing leaves the file with its data. -/
theorem close (h : files.Shows handle readable writable cursor data) :
    ∃ after, (device handle).close files = .ok () after ∧
      after.dataBehind? handle = some data := by
  rcases h with ⟨id, mode, contents, hopened, hnode, hdata⟩
  have hsettle : (files.setOpened handle ⟨id, cursor, readable, writable, false⟩).node? id =
      some (.file mode contents) := hnode
  refine ⟨files.setOpened handle ⟨id, cursor, readable, writable, false⟩, ?_, ?_⟩
  · simp [device, closeFile, closeDescriptor, live?_eq hopened, settle, hsettle]
  · simp [dataBehind?, getElem?_opened_setOpened hopened, hsettle, Node.contents?, hdata]

end Shows

end FileSystem

/-! ## Streams -/

namespace Stream

/-- A stream and an open file with the same cursor and the same data. -/
def fileBond (handle : Nat) (readable writable : Bool) : Bond Stream FileSystem where
  shift := 0
  At cursor stream files := ∃ data, stream = plain data cursor ∧
    files.Shows handle readable writable cursor data ∧ cursor < FileSystem.filePositionLimit ∧
      data.length < FileSystem.filePositionLimit
  Linked stream files := ∃ data cursor, stream = plain data cursor ∧
    files.Shows handle readable writable cursor data ∧
      (data.length < FileSystem.filePositionLimit ∨ data.length ≤ cursor)
  Fits raw := raw < FileSystem.filePositionLimit

/-- A stream, and an open file, closed or not, on a file with the same data. -/
def SameData (handle : Nat) (stream : Stream) (files : FileSystem) : Prop :=
  ∃ data cursor, stream = plain data cursor ∧ files.dataBehind? handle = some data

/-- The data of the stream are behind the open file. -/
theorem SameData.dataBehind?_eq {handle : Nat} {stream : Stream} {files : FileSystem}
    (h : SameData handle stream files) : files.dataBehind? handle = some stream.data := by
  rcases h with ⟨data, cursor, rfl, hdata⟩
  exact hdata

variable {handle : Nat} {readable writable : Bool}

/-- Positions that fit in a signed word are positions. -/
theorem lt_positionLimit_of_lt {position : Nat} (h : position < FileSystem.filePositionLimit) :
    position < positionLimit :=
  Nat.lt_trans h (by decide)

/-- The stream and the file tell positions alike, and move alike. -/
theorem fileBond_positions :
    (fileBond handle readable writable).Positions device (FileSystem.device handle) where
  linked := by
    intro stream files hworlds
    rcases hworlds with ⟨cursor, data, rfl, hshows, -, hdata⟩
    exact ⟨data, cursor, rfl, hshows, .inl hdata⟩
  patience := by
    intro stream files hworlds
    rcases hworlds with ⟨data, cursor, rfl, -, -⟩
    rfl
  position := by
    intro stream files hworlds
    rcases hworlds with ⟨cursor, data, rfl, hshows, hcursor, hdata⟩
    obtain ⟨after, hseek, hafter⟩ := hshows.seek (.current 0)
      (by simp [FileSystem.seekTarget]) hcursor
    rw [position_plain _ (lt_positionLimit_of_lt hcursor), Device.position, hseek]
    exact .answered ⟨(Nat.zero_add _).symm, data, rfl, hafter, hcursor, hdata⟩
  seek := by
    intro raw stream files hworlds hraw
    rcases hworlds with ⟨cursor, data, rfl, hshows, hcursor, hdata⟩
    rcases hshows.seek (.start raw) rfl hraw with ⟨after, hseek, hafter⟩
    have hshift : (fileBond handle readable writable).shift + raw = raw := Nat.zero_add raw
    rw [hshift, device_seek_plain _ _ (lt_positionLimit_of_lt hraw), hseek]
    exact .answered ⟨(Nat.zero_add _).symm, data, rfl, hafter, hraw, hdata⟩
  lt_positionLimit := by
    intro raw hraw
    rw [fileBond, Nat.zero_add]
    exact lt_positionLimit_of_lt hraw

/-- A file that may be read is read as the stream is. -/
theorem fileBond_reads (extent : Extent) :
    (fileBond handle true writable).Reads extent device (FileSystem.device handle) where
  toPositions := fileBond_positions
  read := by
    intro cursor length stream files hworlds _ _
    rcases hworlds with ⟨data, rfl, hshows, hcursor, hdata⟩
    rcases hshows.read length with ⟨after, hread, hafter⟩
    rw [readPatiently_plain, hread]
    refine .answered ⟨rfl, _, data, rfl, hafter, ?_, hdata⟩
    simp only [List.length_take, List.length_drop]
    omega

/-- A file that may be written is written as the stream is. -/
theorem fileBond_writes :
    (fileBond handle readable true).Writes device (FileSystem.device handle) where
  toPositions := fileBond_positions
  write := by
    intro stream files hworlds bytes
    rcases hworlds with ⟨data, cursor, rfl, hshows, hdata⟩
    rcases hshows.write bytes with ⟨after, hwrite, hafter⟩
    rw [device_write_plain, hwrite]
    refine .answered ⟨_, _, rfl, hafter, ?_⟩
    by_cases hbytes : bytes = []
    · simpa [hbytes] using hdata
    · rw [Bytes.length_overlay _ _ hbytes]
      omega
  flush := by
    intro stream files hworlds
    rcases hworlds with ⟨data, cursor, rfl, hshows, hdata⟩
    exact .answered ⟨data, cursor, rfl, hshows, hdata⟩
  isStandardOutput := rfl

/-- The stream and the file are measured and released alike. -/
theorem fileBond_whole :
    (fileBond handle readable writable).Whole (SameData handle) device
      (FileSystem.device handle) where
  toPositions := fileBond_positions
  shift_eq := rfl
  released := by
    intro stream files hworlds
    rcases hworlds with ⟨data, cursor, rfl, hshows, -⟩
    exact ⟨data, cursor, rfl, hshows.dataBehind?_eq⟩
  patience_released := by
    intro stream files hworlds
    rcases hworlds with ⟨data, cursor, rfl, -⟩
    rfl
  size := by
    intro stream files hworlds
    rcases hworlds with ⟨cursor, data, rfl, hshows, hcursor, hdata⟩
    rw [size_plain _ (lt_positionLimit_of_lt hcursor) (lt_positionLimit_of_lt hdata), hshows.size]
    exact .answered ⟨rfl, cursor, data, rfl, hshows, hcursor, hdata⟩
  finish := by
    intro stream files hworlds
    rcases hworlds with ⟨cursor, data, rfl, hshows, hcursor, hdata⟩
    obtain ⟨after, hseek, hafter⟩ := hshows.seek (.finish 0)
      (by simp [FileSystem.seekTarget]) hdata
    rw [seek_finish_plain _ _ (lt_positionLimit_of_lt hdata), hseek]
    exact .answered ⟨rfl, data.length, data, rfl, hafter, hdata, hdata⟩
  close := by
    intro stream files hworlds
    rcases hworlds with ⟨data, cursor, rfl, hshows, -⟩
    rcases hshows.close with ⟨after, hclose, hafter⟩
    rw [hclose]
    exact .answered ⟨data, cursor, rfl, hafter⟩

end Stream

end FileWindow

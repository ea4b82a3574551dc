import FileWindow.Copy
import FileWindow.Proofs.OverData
import FileWindow.Proofs.Prefixes
import FileWindow.Proofs.Pumping

/-!
# Copies use up their extent

A copy out of a file may write into that very file, before the place that is read or behind it, and
each write may make the file longer.  The copy ends all the same.  What bounds it is not the data
but the extent: its length was fixed before the copy began, each read begins where the cursor
stands, and nothing that is written moves that cursor back.  So there are never more bytes to come
than the extent had left at the start.

Main definitions:

- Definition FileSystem.LeftWithin: an open file with no more than so many bytes of an extent left.
- Definition FileSystem.MovesOn: a change of the files that takes no cursor back.
- Definition Copy.UsesUp: a copy that ends within what an extent has left.

Main results:

- Theorems FileSystem.device_position_uninterrupted, device_readPatiently_uninterrupted and
  device_write_uninterrupted: no call of an open file is interrupted.
- Theorem FileSystem.device_write_leavesOn: no write takes a cursor back.
- Theorem Input.read_leaves_less: a read leaves as much less as it brings.
- Theorem Input.regular_of_attach: an input can only be opened on a regular file.
- Theorem Copy.ends_within_extent: copies between any two open files.
-/

namespace FileWindow

variable {ε ρ σ α : Type}

open FileWindow.Action (Ended Holding Keeps Meets isAnswer)

/-! ## Calls that are not interrupted -/

/-- A call that may fail, but is never interrupted. -/
def Call.Uninterrupted (call : Call σ α) : Prop :=
  ∀ world fault after, call world = .error fault after → fault.isInterruption = false

namespace FileSystem

/-- A call on an open file is not interrupted if its use of the node is not. -/
theorem withOpened_uninterrupted {handle : Nat}
    {use : FileSystem → OpenFile → Node → EStateM.Result Fault FileSystem α}
    (huse : ∀ files file node fault after, use files file node = .error fault after →
      fault.isInterruption = false) : Call.Uninterrupted (withOpened handle use) := by
  intro files fault after h
  unfold withOpened at h
  split at h
  · cases h
    rfl
  · split at h
    · cases h
      rfl
    · exact huse _ _ _ _ _ h

/-- An open file is asked for its cursor without an interruption. -/
theorem device_position_uninterrupted (handle : Nat) :
    Call.Uninterrupted (device handle).position := by
  refine withOpened_uninterrupted fun files file node fault after h => ?_
  cases node with
  | fifo mode pending =>
    cases h
    rfl
  | special kind => cases h
  | file | directory | link =>
    simp only at h
    split at h
    · cases h
      rfl
    · cases h

/-- An open file is read without an interruption. -/
theorem device_readPatiently_uninterrupted (handle length : Nat) :
    Call.Uninterrupted ((device handle).readPatiently length) := by
  have hread : Call.Uninterrupted (readFile handle length) := by
    refine withOpened_uninterrupted fun files file node fault after h => ?_
    simp only at h
    split at h
    · cases h
      rfl
    · split at h <;> cases h
      rfl
  exact hread

/-- An open file is written without an interruption. -/
theorem device_write_uninterrupted (handle : Nat) (bytes : Bytes) :
    Call.Uninterrupted ((device handle).write bytes) := by
  cases bytes with
  | nil => exact fun files fault after h => by cases h
  | cons byte rest =>
    refine withOpened_uninterrupted fun files file node fault after h => ?_
    simp only at h
    split at h
    · cases h
      rfl
    · split at h
      · cases h
      · split at h <;> cases h
        rfl
      · cases h
        rfl
      · cases h

end FileSystem

/-! ## What is left of an extent -/

namespace FileSystem

variable {files after : FileSystem} {handle left : Nat} {extent : Extent}

/-- An open file on a regular file, its cursor not before an extent and with no more than so many
bytes of it to come.  One whose descriptor was closed has nothing to come. -/
def LeftWithin (files : FileSystem) (handle : Nat) (extent : Extent) (left : Nat) : Prop :=
  ∀ file, files.live? handle = some file →
    extent.offset ≤ file.cursor ∧ extent.length - (file.cursor - extent.offset) ≤ left ∧
      ∃ mode contents, files.node? file.node = some (.file mode contents)

/-- Whatever became of the files, no cursor was taken back, and regular files are regular files. -/
structure MovesOn (files after : FileSystem) : Prop where
  live : ∀ handle file, after.live? handle = some file →
    ∃ before, files.live? handle = some before ∧ file.node = before.node ∧
      before.cursor ≤ file.cursor
  regular : ∀ id mode contents, files.node? id = some (.file mode contents) →
    ∃ mode contents, after.node? id = some (.file mode contents)

namespace MovesOn

/-- Nothing moves where nothing happens. -/
theorem refl (files : FileSystem) : MovesOn files files where
  live _ file h := ⟨file, h, rfl, Nat.le_refl _⟩
  regular _ mode contents h := ⟨mode, contents, h⟩

theorem trans {between : FileSystem} (h : MovesOn files between) (h' : MovesOn between after) :
    MovesOn files after where
  live handle file hlive := by
    obtain ⟨middle, hmiddle, hnode, hcursor⟩ := h'.live handle file hlive
    obtain ⟨before, hbefore, hnode', hcursor'⟩ := h.live handle middle hmiddle
    exact ⟨before, hbefore, hnode.trans hnode', Nat.le_trans hcursor' hcursor⟩
  regular id mode contents hregular := by
    obtain ⟨mode, contents, hmiddle⟩ := h.regular id mode contents hregular
    exact h'.regular id mode contents hmiddle

/-- A cursor may be moved on. -/
theorem setOpened {file moved : OpenFile} (hfile : files.live? handle = some file)
    (hnode : moved.node = file.node) (hlive : moved.live = true)
    (hcursor : file.cursor ≤ moved.cursor) : MovesOn files (files.setOpened handle moved) where
  live other found hfound := by
    obtain ⟨hlt, -⟩ := List.getElem?_eq_some_iff.mp (Option.filter_eq_some_iff.mp hfile).1
    by_cases hother : other = handle
    · subst hother
      have hmoved : (files.setOpened other moved).live? other = some moved := by
        simp [live?, FileSystem.setOpened, hlt, hlive]
      cases hmoved.symm.trans hfound
      exact ⟨file, hfile, hnode, hcursor⟩
    · have hsame : (files.setOpened handle moved).live? other = files.live? other := by
        simp [live?, FileSystem.setOpened, Ne.symm hother]
      exact ⟨found, hsame.symm.trans hfound, rfl, Nat.le_refl _⟩
  regular _ mode contents h := ⟨mode, contents, h⟩

/-- A node may be changed to one of its sort. -/
theorem setNode {id : NodeId} {node before : Node} (hbefore : files.node? id = some before)
    (hsort : ∀ mode contents, before = .file mode contents →
      ∃ mode contents, node = .file mode contents) : MovesOn files (files.setNode id node) where
  live _ file h := ⟨file, h, rfl, Nat.le_refl _⟩
  regular other mode contents h := by
    by_cases hother : id = other
    · subst hother
      obtain ⟨mode, contents, rfl⟩ := hsort _ _ (Option.some_inj.mp (hbefore.symm.trans h))
      exact ⟨mode, contents, node?_setNode_of_node? hbefore⟩
    · exact ⟨mode, contents, (node?_setNode_ne hother node).trans h⟩

end MovesOn

/-- Where no cursor was taken back there is not more left. -/
theorem LeftWithin.of_movesOn (h : files.LeftWithin handle extent left)
    (hmoves : MovesOn files after) : after.LeftWithin handle extent left := by
  intro file hlive
  obtain ⟨before, hbefore, hnode, hcursor⟩ := hmoves.live handle file hlive
  obtain ⟨hoffset, hleft, mode, contents, hregular⟩ := h before hbefore
  refine ⟨by omega, by omega, ?_⟩
  rw [hnode]
  exact hmoves.regular _ _ _ hregular

/-- Whether a call answers or fails, it leaves files in which no cursor was taken back. -/
def LeavesOn (files : FileSystem) : EStateM.Result Fault FileSystem α → Prop
  | .ok _ after | .error _ after => MovesOn files after

/-- A call on an open file moves on if its use of the file and of the node does. -/
theorem withOpened_leavesOn {use : FileSystem → OpenFile → Node → EStateM.Result Fault FileSystem α}
    (huse : ∀ file node, files.live? handle = some file → files.node? file.node = some node →
      LeavesOn files (use files file node)) :
    LeavesOn files (withOpened handle use files) := by
  unfold withOpened
  split
  · exact MovesOn.refl files
  · rename_i file hlive
    split
    · exact MovesOn.refl files
    · rename_i node hnode
      exact huse file node hlive hnode

/-- A write to an open file takes no cursor back, neither its own nor that of another. -/
theorem device_write_leavesOn (files : FileSystem) (handle : Nat) (bytes : Bytes) :
    LeavesOn files ((device handle).write bytes files) := by
  cases bytes with
  | nil => exact MovesOn.refl files
  | cons byte rest =>
    simp only [device, writeFile]
    refine withOpened_leavesOn fun file node hlive hnode => ?_
    split
    · exact MovesOn.refl files
    split
    · have hwritten : ∀ mode contents,
          MovesOn files (files.setNode file.node (.file mode contents)) :=
        fun mode contents => .setNode hnode fun _ _ _ => ⟨mode, contents, rfl⟩
      exact (hwritten _ _).trans (.setOpened hlive rfl (Option.filter_eq_some_iff.mp hlive).2
        (Nat.le_add_right _ _))
    · split
      · refine MovesOn.setNode hnode ?_
        rintro _ _ ⟨⟩
      · exact MovesOn.refl files
    · exact MovesOn.refl files
    · exact MovesOn.refl files

/-- So as much of an extent is left as before. -/
theorem device_write_leads (handle other : Nat) (bytes : Bytes) (extent : Extent) (left : Nat) :
    Call.Leads (fun files => files.LeftWithin handle extent left)
      (fun files => files.LeftWithin handle extent left) ((device other).write bytes) := by
  intro files h
  have hleaves := device_write_leavesOn files other bytes
  cases hwrite : (device other).write bytes files with
  | ok value after =>
    rw [hwrite] at hleaves
    exact h.of_movesOn hleaves
  | error fault after =>
    rw [hwrite] at hleaves
    exact h.of_movesOn hleaves

/-- An open file on a regular file shows its data. -/
theorem shows_of_live? {file : OpenFile} {mode : Nat} {contents : Contents}
    (hlive : files.live? handle = some file)
    (hnode : files.node? file.node = some (.file mode contents)) :
    files.Shows handle file.readable file.writable file.cursor contents.toBytes := by
  obtain ⟨hopened, hopen⟩ := Option.filter_eq_some_iff.mp hlive
  refine ⟨file.node, mode, contents, ?_, hnode, rfl⟩
  rw [hopened, ← hopen]

/-- What an open file has left of an extent is counted from its cursor. -/
theorem Shows.leftWithin {readable writable : Bool} {cursor : Nat} {data : Bytes}
    (h : files.Shows handle readable writable cursor data) (hoffset : extent.offset ≤ cursor)
    (hleft : extent.length - (cursor - extent.offset) ≤ left) :
    files.LeftWithin handle extent left := by
  obtain ⟨id, mode, contents, hopened, hnode, -⟩ := h
  intro file hlive
  cases (Shows.live?_eq hopened).symm.trans hlive
  exact ⟨hoffset, hleft, mode, contents, hnode⟩

/-- An open file tells its own cursor, or none, and stays as it is. -/
theorem LeftWithin.position (h : files.LeftWithin handle extent left) :
    (∃ file, files.live? handle = some file ∧
      (device handle).position files = .ok file.cursor files) ∨
    ∃ fault, (device handle).position files = .error fault files := by
  cases hlive : files.live? handle with
  | none =>
    refine .inr ⟨.system Errno.badDescriptor, ?_⟩
    simp only [Device.position, device, seekFile, withOpened, hlive]
  | some file =>
    obtain ⟨-, -, mode, contents, hnode⟩ := h file hlive
    rcases (shows_of_live? hlive hnode).position_told with htold | hlost
    · exact .inl ⟨file, rfl, htold⟩
    · exact .inr hlost

/-- A read of what is left of an extent leaves as much less as it brings; one that fails leaves the
files as they are. -/
theorem LeftWithin.read (h : files.LeftWithin handle extent left) {file : OpenFile}
    (hlive : files.live? handle = some file) {wanted : Nat}
    (hwanted : wanted ≤ extent.length - (file.cursor - extent.offset)) :
    (∃ bytes after, (device handle).readPatiently wanted files = .ok bytes after ∧
      bytes.length ≤ left ∧ after.LeftWithin handle extent (left - bytes.length)) ∨
    ∃ fault, (device handle).readPatiently wanted files = .error fault files := by
  obtain ⟨hoffset, hleft, mode, contents, hnode⟩ := h file hlive
  have hshows := shows_of_live? hlive hnode
  cases hreadable : file.readable with
  | true =>
    rw [hreadable] at hshows
    obtain ⟨after, hread, hafter⟩ := hshows.read wanted
    have hlength : ((contents.toBytes.drop file.cursor).take wanted).length ≤ wanted :=
      List.length_take_le _ _
    refine .inl ⟨_, after, hread, by omega, hafter.leftWithin (by omega) (by omega)⟩
  | false =>
    refine .inr ⟨.system Errno.badDescriptor, ?_⟩
    have hrefused : (device handle).read wanted files =
        .error (.system Errno.badDescriptor) files := by
      simp only [device, readFile, withOpened, hlive, hnode, hreadable]
      rfl
    exact hrefused

end FileSystem

/-! ## One round -/

namespace Input

variable {reader : Reader} {handle left : Nat}

/-- A read of an open input brings no more than there is left of its extent and leaves as much less
as it brings; one that fails was not interrupted. -/
theorem read_leaves_less (length room : Nat) {frame : Frame Input FileSystem}
    (hframe : Holding (fun files => files.LeftWithin handle reader.window.extent left)
      (.opened reader) frame) :
    Meets
      (fun bytes after => bytes.length ≤ left ∧
        Holding (fun files => files.LeftWithin handle reader.window.extent (left - bytes.length))
          (.opened reader) after)
      (fun error after => (Fault.carried error).isInterruption = false ∧
        Holding (fun files => files.LeftWithin handle reader.window.extent left)
          (.opened reader) after)
      (fun _ => False)
      (read (FileSystem.device handle) length room frame) := by
  rcases frame with ⟨book, files, journal⟩
  obtain ⟨rfl, h⟩ := hframe
  have h : files.LeftWithin handle reader.window.extent left := h
  rw [read_opened]
  split
  · exact ⟨Fault.isInterruption_carried_refused _ _, rfl, h⟩
  rcases h.position with ⟨file, hlive, hposition⟩ | ⟨fault, hposition⟩
  · rw [hposition]
    dsimp only
    split
    · exact ⟨Fault.isInterruption_carried_refused _ _, rfl, h⟩
    split
    · exact ⟨Nat.zero_le _, rfl, h⟩
    rcases h.read hlive (Nat.min_le_right _ _) with ⟨bytes, after, hread, hle, hafter⟩ |
      ⟨fault, hread⟩
    · rw [hread]
      exact ⟨hle, rfl, hafter⟩
    · rw [hread]
      refine ⟨?_, rfl, h⟩
      rw [Fault.isInterruption_carried_ofFault]
      exact FileSystem.device_readPatiently_uninterrupted _ _ _ _ _ hread
  · rw [hposition]
    refine ⟨?_, rfl, h⟩
    rw [Fault.isInterruption_carried_ofFault]
    exact FileSystem.device_position_uninterrupted _ _ _ _ hposition

/-- An input can only be opened on what can be measured, which is a regular file. -/
theorem regular_of_attach {ρ : Type} {name : String} {input : Input}
    {frame after : Frame ρ FileSystem}
    (h : attach (FileSystem.device handle) name frame = .ok input after) :
    ∃ file mode contents, frame.world.live? handle = some file ∧
      frame.world.node? file.node = some (.file mode contents) := by
  obtain ⟨measured, between, hcall, hnext⟩ := Action.exists_of_bind h
  obtain ⟨world, hsize, -⟩ := Action.exists_of_call hcall
  cases measured with
  | none => cases hnext
  | some size =>
    simp only [FileSystem.device, FileSystem.sizeFile, FileSystem.withOpened] at hsize
    split at hsize
    · cases hsize
    rename_i file hlive
    split at hsize
    · cases hsize
    rename_i node hnode
    cases node with
    | file mode contents => exact ⟨file, mode, contents, hlive, hnode⟩
    | directory | fifo | link | special => cases hsize

end Input

section Writing

variable {device : Device σ} {holds : σ → Prop}
  (hwrite : ∀ bytes, Call.Leads holds holds (device.write bytes))

include hwrite

/-- A write keeps of the world what the device keeps of it when it is written to. -/
theorem Output.write_keeps_world (buffer : Bytes) (length : Nat) :
    Keeps (fun frame => holds frame.world) (Output.write device buffer length) := by
  rintro ⟨book, world, journal⟩ hworld
  cases book with
  | closed => exact hworld
  | opened writer =>
    have hleads := hwrite (buffer.take length) world hworld
    rw [Output.write_opened]
    split
    · exact hworld
    split
    · exact hworld
    cases hresult : device.write (buffer.take length) world with
    | error fault after =>
      rw [hresult] at hleads
      exact hleads
    | ok value after =>
      rw [hresult] at hleads
      dsimp only
      split <;> exact hleads

/-- So does writing all of some bytes through the adapter. -/
theorem Adapter.writeAll_keeps_world (bytes : Bytes) :
    Keeps (fun frame => holds frame.world) (Adapter.writeAll device bytes) := by
  have hsink : ∀ bytes, Keeps (fun frame : Frame Output σ => holds frame.world)
      (Adapter.write device bytes) :=
    fun bytes => (Output.write_keeps_world hwrite bytes _).mapError.bind fun _ => .pure _
  exact fun frame hworld => Transfer.drain_keeps hsink _ bytes frame hworld

end Writing

/-! ## All rounds -/

namespace Copy

variable {reader : Reader} {handle other left : Nat}

/-- An input that is open with no more than so much of its extent left, beside any output. -/
def Remaining (reader : Reader) (handle left : Nat)
    (frame : Frame (Input × Output) FileSystem) : Prop :=
  frame.book.1 = .opened reader ∧ frame.world.LeftWithin handle reader.window.extent left

/-- A copy that ends within what an extent has left: its loop goes to an end of its own, with no
more reads that bring bytes than so many, and no more bytes brought.  The input is as it was, and
what the copy answers is what its reads brought. -/
def UsesUp (again : ε → Bool) (reads : Nat → Action ε Input σ Bytes)
    (writes : Bytes → Action ε Output σ Unit) (chunk left : Nat) (input : Input)
    (copy : CopyAction ε σ Nat) (frame : Frame (Input × Output) σ) : Prop :=
  ∃ count sizes,
    Transfer.Pumps again (fun length => Action.onFirst (reads length))
      (fun bytes => Action.onSecond (writes bytes)) chunk 0 frame count sizes (copy frame) ∧
    sizes.length ≤ left ∧ sizes.sum ≤ left ∧ count ≤ left + 1 ∧
    Ended True (copy frame) ∧ (Action.left (copy frame)).book.1 = input ∧
    ∀ total after, copy frame = .ok total after → total = sizes.sum

/-- A loop with more rounds than its extent has bytes left uses up no more than that. -/
theorem usesUp_of_draining {again : ε → Bool} {reads : Nat → Action ε Input FileSystem Bytes}
    {writes : Bytes → Action ε Output FileSystem Unit} {chunk : Nat}
    (h : Transfer.Draining again (fun length => Action.onFirst (reads length))
      (fun bytes => Action.onSecond (writes bytes)) chunk (Remaining reader handle))
    {frame : Frame (Input × Output) FileSystem} (hframe : Remaining reader handle left frame)
    {copy : CopyAction ε FileSystem Nat} {rounds : Nat} (hrounds : left < rounds)
    (hcopy : copy frame =
      Transfer.pump again (fun length => Action.onFirst (reads length))
        (fun bytes => Action.onSecond (writes bytes)) chunk rounds 0 frame) :
    UsesUp again reads writes chunk left (.opened reader) copy frame := by
  obtain ⟨count, sizes, result, hpumps, hsum, hcount, hended, least, hleast⟩ :=
    h.exists_pumps hframe 0
  have hlength := hpumps.length_le_sum
  obtain rfl : copy frame = result := hcopy.trans (hpumps.pump_eq (by omega))
  refine ⟨count, sizes, hpumps, by omega, hsum, hcount, hended, hleast.1, ?_⟩
  intro total after htotal
  rw [htotal] at hpumps
  rw [hpumps.total_eq, Nat.zero_add]

/-- The input of the two keeps to its extent. -/
theorem Remaining.first {frame : Frame (Input × Output) FileSystem}
    (h : Remaining reader handle left frame) :
    Holding (fun files => files.LeftWithin handle reader.window.extent left) (.opened reader)
      ⟨frame.book.1, frame.world, frame.journal⟩ :=
  h

/-- Reading by the operations of the resources, with no read made again. -/
theorem inChunks_draining (chunk : Nat) :
    Transfer.Draining (fun _ => false)
      (fun length => Action.onFirst (Input.read (FileSystem.device handle) length length))
      (fun bytes => Action.onSecond (Output.write (FileSystem.device other) bytes bytes.length))
      chunk (Remaining reader handle) where
  read rest frame hframe := by
    refine .onFirst ((Input.read_leaves_less chunk chunk hframe.first).imp ?_ ?_ fun _ h => h)
    · exact fun _ _ h => h
    · exact fun _ _ h => ⟨rfl, h.2⟩
  write rest bytes := by
    refine .onSecond fun input => ?_
    rintro frame ⟨hbook, hworld⟩
    exact (Output.write_keeps_world (fun bytes => FileSystem.device_write_leads handle other bytes
      reader.window.extent rest) bytes bytes.length frame hworld).imp
      (fun _ _ h => ⟨hbook, h⟩) (fun _ _ h => ⟨hbook, h⟩) fun _ h => ⟨hbook, h⟩
  ended bytes frame := .onSecond (Output.write_ended _ _ _ _)

/-- Reading through adapters, where an interrupted read would be made again. -/
theorem adapted_draining :
    Transfer.Draining Fault.isInterruption
      (fun length => Action.onFirst (Adapter.read (FileSystem.device handle) length))
      (fun bytes => Action.onSecond (Adapter.writeAll (FileSystem.device other) bytes))
      adaptedChunk (Remaining reader handle) where
  read rest frame hframe := by
    refine .onFirst (.mapError ((Input.read_leaves_less _ _ hframe.first).imp ?_ ?_ fun _ h => h))
    · exact fun _ _ h => h
    · exact fun _ _ h => h
  write rest bytes := by
    refine .onSecond fun input => ?_
    rintro frame ⟨hbook, hworld⟩
    exact (Adapter.writeAll_keeps_world (fun bytes => FileSystem.device_write_leads handle other
      bytes reader.window.extent rest) bytes frame hworld).imp
      (fun _ _ h => ⟨hbook, h⟩) (fun _ _ h => ⟨hbook, h⟩) fun _ h => ⟨hbook, h⟩
  ended bytes frame := .onSecond (Output.writeAll_ended
    (fun bytes => FileSystem.device_write_uninterrupted other bytes) bytes _)

end Copy

/-! ## Two open files side by side -/

namespace FileSystem.Shows

variable {files : FileSystem} {handle other cursor cursor' : Nat}
  {readable writable readable' writable' : Bool} {data data' : Bytes}

/-- An open file whose cursor fits in a signed word tells it. -/
theorem position (h : files.Shows handle readable writable cursor data)
    (hcursor : cursor < filePositionLimit) :
    (device handle).position files = .ok cursor files := by
  obtain ⟨after, hseek, -⟩ := h.seek (.current 0) (seekTarget_nowhere cursor data.length) hcursor
  rcases h.position_told with htold | ⟨fault, hlost⟩
  · exact htold
  · cases hlost.symm.trans hseek

/-- What happens to the cursor of one open file is nothing to another. -/
theorem setOpened_ne (h : files.Shows other readable writable cursor data) (hne : handle ≠ other)
    (file : OpenFile) :
    (files.setOpened handle file).Shows other readable writable cursor data := by
  obtain ⟨id, mode, contents, hopened, hnode, hdata⟩ := h
  refine ⟨id, mode, contents, ?_, hnode, hdata⟩
  rw [setOpened, List.getElem?_set_ne hne]
  exact hopened

/-- Whatever is written to a file, an open file shows a regular file. -/
theorem setNode (h : files.Shows other readable writable cursor data) {id : NodeId} {before : Node}
    (hbefore : files.node? id = some before) (mode : Nat) (contents : Contents) :
    ∃ data, (files.setNode id (.file mode contents)).Shows other readable writable cursor data := by
  obtain ⟨shown, shownMode, shownContents, hopened, hnode, -⟩ := h
  by_cases hsame : id = shown
  · subst hsame
    exact ⟨_, id, mode, contents, hopened, node?_setNode_of_node? hbefore, rfl⟩
  · exact ⟨_, shown, shownMode, shownContents, hopened, (node?_setNode_ne hsame _).trans hnode, rfl⟩

/-- A read of one open file moves its cursor and is nothing to another. -/
theorem read_beside (h : files.Shows handle true writable cursor data)
    (hother : files.Shows other readable' writable' cursor' data') (hne : handle ≠ other)
    (length : Nat) :
    ∃ after, (device handle).readPatiently length files =
        .ok ((data.drop cursor).take length) after ∧
      after.Shows handle true writable (cursor + ((data.drop cursor).take length).length) data ∧
      after.Shows other readable' writable' cursor' data' := by
  obtain ⟨id, mode, contents, hopened, hnode, rfl⟩ := h
  refine ⟨files.setOpened handle
    ⟨id, cursor + ((contents.toBytes.drop cursor).take length).length, true, writable, true⟩, ?_,
    ⟨id, mode, contents, getElem?_opened_setOpened hopened, hnode, rfl⟩,
    hother.setOpened_ne hne _⟩
  simp [Device.readPatiently, device, Device.readRetrying, readFile, withOpened_eq hopened hnode,
    Contents.slice_eq]

/-- A write to one open file may change the data of another, but neither its cursor nor what may be
done with it. -/
theorem write_beside (h : files.Shows handle readable true cursor data)
    (hother : files.Shows other readable' writable' cursor' data') (hne : handle ≠ other)
    (bytes : Bytes) :
    ∃ after data'', (device handle).write bytes files = .ok () after ∧
      after.Shows handle readable true (cursor + bytes.length)
        (Bytes.overlay data cursor bytes) ∧
      after.Shows other readable' writable' cursor' data'' := by
  obtain ⟨after, hwrite, hafter⟩ := h.write bytes
  cases bytes with
  | nil =>
    cases hwrite
    exact ⟨_, data', rfl, hafter, hother⟩
  | cons byte rest =>
    obtain ⟨id, mode, contents, hopened, hnode, rfl⟩ := h
    obtain ⟨data'', hshown⟩ := hother.setNode hnode (plainMode mode)
      (contents.overlay cursor (byte :: rest))
    refine ⟨after, data'', hwrite, hafter, ?_⟩
    simp only [device, writeFile, withOpened_eq hopened hnode] at hwrite
    cases hwrite
    exact hshown.setOpened_ne hne _

end FileSystem.Shows

namespace Copy

variable {reader : Reader} {handle other left : Nat}

/-- A copy between two open files that can go on: the one may be read and the other written, so many
bytes were read and not yet written, and neither positions nor the count leave their range. -/
def Able (reader : Reader) (handle other pending : Nat)
    (frame : Frame (Input × Output) FileSystem) : Prop :=
  ∃ writer writable cursor data readable cursor' data',
    frame.book = (.opened reader, .opened writer) ∧
    frame.world.Shows handle true writable cursor data ∧
    frame.world.Shows other readable true cursor' data' ∧
    reader.window.extent.offset ≤ cursor ∧ cursor < FileSystem.filePositionLimit ∧
    writer.written + pending +
      (reader.window.extent.length - (cursor - reader.window.extent.offset)) < positionLimit

/-- A read of the one answers, and there is less left to count. -/
theorem Able.read (hne : handle ≠ other)
    (hlimit : reader.window.extent.offset + reader.window.extent.length <
      FileSystem.filePositionLimit)
    {reads : Nat → Action ε Input FileSystem Bytes} {chunk : Nat} (hvalid : chunk ≤ maxTransfer)
    (hreads : ∀ frame bytes after,
      Input.read (FileSystem.device handle) chunk chunk frame = .ok bytes after →
        reads chunk frame = .ok bytes after)
    {frame : Frame (Input × Output) FileSystem} (h : Able reader handle other 0 frame) :
    ∃ bytes between, Action.onFirst (reads chunk) frame = .ok bytes between ∧
      bytes.length ≤ maxTransfer ∧ Able reader handle other bytes.length between := by
  rcases frame with ⟨book, files, journal⟩
  obtain ⟨writer, writable, cursor, data, readable, cursor', data', hbook, hshows, hother, hoffset,
    hcursor, hcount⟩ := h
  obtain rfl : book = (.opened reader, .opened writer) := hbook
  have haccepted : ¬(!validLength chunk || decide (chunk > chunk)) = true := by
    simp [validLength, hvalid]
  have hread := Input.read_opened (FileSystem.device handle) chunk chunk reader files journal
  rw [if_neg haccepted, hshows.position hcursor] at hread
  dsimp only at hread
  rw [if_neg (Nat.not_lt.mpr hoffset)] at hread
  generalize hwanted : min chunk
    (reader.window.extent.length - (cursor - reader.window.extent.offset)) = wanted at hread
  by_cases hnone : wanted = 0
  · rw [if_pos hnone] at hread
    refine ⟨[], ⟨(.opened reader, .opened writer), files, journal⟩, ?_, Nat.zero_le _, writer,
      writable, cursor, data, readable, cursor', data', rfl, hshows, hother, hoffset, hcursor,
      hcount⟩
    simp only [Action.onFirst, hreads _ _ _ hread]
  · obtain ⟨after, hpatient, hafter, hbeside⟩ := hshows.read_beside hother hne wanted
    rw [if_neg hnone, hpatient] at hread
    have htaken : ((data.drop cursor).take wanted).length ≤ wanted := List.length_take_le _ _
    refine ⟨(data.drop cursor).take wanted,
      ⟨(.opened reader, .opened writer), after,
        .didRead reader.window.name ((data.drop cursor).take wanted).length chunk
          (cursor - reader.window.extent.offset) :: journal⟩,
      ?_, by omega, writer, writable, _, data, readable, cursor', data', rfl, hafter, hbeside,
      by omega, by omega, by omega⟩
    simp only [Action.onFirst, hreads _ _ _ hread]

/-- A write of what was read answers. -/
theorem Able.write (hne : handle ≠ other)
    {writes : Bytes → Action ε Output FileSystem Unit} {bytes : Bytes} (hbytes : bytes ≠ [])
    (hvalid : bytes.length ≤ maxTransfer)
    (hwrites : ∀ frame after,
      Output.write (FileSystem.device other) bytes bytes.length frame = .ok () after →
        writes bytes frame = .ok () after)
    {frame : Frame (Input × Output) FileSystem} (h : Able reader handle other bytes.length frame) :
    ∃ after, Action.onSecond (writes bytes) frame = .ok () after ∧
      Able reader handle other 0 after := by
  rcases frame with ⟨book, files, journal⟩
  obtain ⟨writer, writable, cursor, data, readable, cursor', data', hbook, hshows, hother, hoffset,
    hcursor, hcount⟩ := h
  obtain rfl : book = (.opened reader, .opened writer) := hbook
  obtain ⟨after, data'', hdevice, hafter, hbeside⟩ :=
    hother.write_beside hshows (Ne.symm hne) bytes
  have hlength : bytes.length ≠ 0 := fun hnone => hbytes (List.eq_nil_of_length_eq_zero hnone)
  have haccepted : ¬(!validLength bytes.length || decide (bytes.length > bytes.length)) = true := by
    simp [validLength, hvalid]
  have hcounted : writer.written + bytes.length < positionLimit := by omega
  have hwrite := Output.write_opened (FileSystem.device other) bytes bytes.length writer files
    journal
  rw [if_neg hlength, if_neg haccepted, List.take_length, hdevice] at hwrite
  dsimp only at hwrite
  rw [if_pos hcounted] at hwrite
  refine ⟨⟨(.opened reader, .opened (writer.count bytes.length)), after,
      .didWrite writer.window.name bytes.length (writer.written + bytes.length) :: journal⟩,
    ?_, writer.count bytes.length, writable, cursor, data'', readable, _, _, rfl, hbeside, hafter,
    hoffset, hcursor, hcount⟩
  simp only [Action.onSecond, hwrites _ _ hwrite]

/-- A copy that can go on, and ends, ends with an answer. -/
theorem UsesUp.answers (hne : handle ≠ other)
    (hlimit : reader.window.extent.offset + reader.window.extent.length <
      FileSystem.filePositionLimit)
    {again : ε → Bool} {reads : Nat → Action ε Input FileSystem Bytes}
    {writes : Bytes → Action ε Output FileSystem Unit} {chunk : Nat} (hvalid : chunk ≤ maxTransfer)
    (hreads : ∀ frame bytes after,
      Input.read (FileSystem.device handle) chunk chunk frame = .ok bytes after →
        reads chunk frame = .ok bytes after)
    (hwrites : ∀ bytes frame after, bytes ≠ [] → bytes.length ≤ maxTransfer →
      Output.write (FileSystem.device other) bytes bytes.length frame = .ok () after →
        writes bytes frame = .ok () after)
    {input : Input} {copy : CopyAction ε FileSystem Nat}
    {frame : Frame (Input × Output) FileSystem}
    (h : UsesUp again reads writes chunk left input copy frame)
    (hframe : Able reader handle other 0 frame) : isAnswer (copy frame) = true := by
  obtain ⟨count, sizes, hpumps, -⟩ := h
  have hwrite : ∀ bytes between, bytes ≠ [] →
      (bytes.length ≤ maxTransfer ∧ Able reader handle other bytes.length between) →
        ∃ after, Action.onSecond (writes bytes) between = .ok () after ∧
          Able reader handle other 0 after :=
    fun bytes between hbytes hholding =>
      hholding.2.write hne hbytes hholding.1 fun frame after =>
        hwrites bytes frame after hbytes hholding.1
  exact hpumps.answers (fun frame hable => hable.read hne hlimit hvalid hreads) hwrite hframe

/-- A copy out of an open file ends, whatever the other file is: another one, or the same one by
another descriptor or by the very same, so that each write may overwrite what is still to be read
or make the file longer.  No more reads bring bytes, and no more bytes are copied, than the extent
has left behind the cursor; so there are none where the cursor is at the end of the extent or
behind it.  This is so for chunks of every size and through adapters, and the input keeps its extent
and its size at opening.  Where the one descriptor is not the other, both serve, and all positions
and counts fit, the copy answers. -/
theorem ends_within_extent (reader : Reader) (output : Output) {files : FileSystem}
    {handle left mode : Nat} (other : Nat) {file : OpenFile} {contents : Contents}
    (hopened : files.opened[handle]? = some file)
    (hregular : files.node? file.node = some (.file mode contents))
    (hoffset : reader.window.extent.offset ≤ file.cursor)
    (hleft : left = reader.window.extent.length - (file.cursor - reader.window.extent.offset))
    (journal : Journal) :
    (∀ chunk, UsesUp (fun _ => false)
      (fun length => Input.read (FileSystem.device handle) length length)
      (fun bytes => Output.write (FileSystem.device other) bytes bytes.length) chunk left
      (.opened reader) (inChunks (FileSystem.device handle) (FileSystem.device other) chunk)
      ⟨(.opened reader, output), files, journal⟩) ∧
    UsesUp Fault.isInterruption (Adapter.read (FileSystem.device handle))
      (Adapter.writeAll (FileSystem.device other)) adaptedChunk left
      (.opened reader) (adapted (FileSystem.device handle) (FileSystem.device other))
      ⟨(.opened reader, output), files, journal⟩ ∧
    (handle ≠ other →
      reader.window.extent.offset + reader.window.extent.length < FileSystem.filePositionLimit →
      Able reader handle other 0 ⟨(.opened reader, output), files, journal⟩ →
      (∀ chunk, chunk ≤ maxTransfer →
        isAnswer (inChunks (FileSystem.device handle) (FileSystem.device other) chunk
          ⟨(.opened reader, output), files, journal⟩) = true) ∧
      isAnswer (adapted (FileSystem.device handle) (FileSystem.device other)
        ⟨(.opened reader, output), files, journal⟩) = true) := by
  have hremaining : Remaining reader handle left ⟨(.opened reader, output), files, journal⟩ := by
    refine ⟨rfl, fun found hlive => ?_⟩
    cases hopened.symm.trans (Option.filter_eq_some_iff.mp hlive).1
    exact ⟨hoffset, Nat.le_of_eq hleft.symm, mode, contents, hregular⟩
  have hchunks : ∀ chunk, UsesUp (fun _ => false)
      (fun length => Input.read (FileSystem.device handle) length length)
      (fun bytes => Output.write (FileSystem.device other) bytes bytes.length) chunk left
      (.opened reader) (inChunks (FileSystem.device handle) (FileSystem.device other) chunk)
      ⟨(.opened reader, output), files, journal⟩ :=
    fun chunk => usesUp_of_draining (inChunks_draining chunk) hremaining
      (show left < reader.window.extent.length + 0 + 2 by omega) rfl
  have hadapted : UsesUp Fault.isInterruption (Adapter.read (FileSystem.device handle))
      (Adapter.writeAll (FileSystem.device other)) adaptedChunk left
      (.opened reader) (adapted (FileSystem.device handle) (FileSystem.device other))
      ⟨(.opened reader, output), files, journal⟩ :=
    usesUp_of_draining adapted_draining hremaining
      (show left < reader.window.extent.length + 0 + 2 by omega) rfl
  refine ⟨hchunks, hadapted, fun hne hlimit hable => ⟨fun chunk hvalid => ?_, ?_⟩⟩
  · refine (hchunks chunk).answers hne hlimit hvalid ?_ ?_ hable
    · exact fun frame bytes after hread => hread
    · exact fun bytes frame after hbytes hvalid hwrite => hwrite
  · refine hadapted.answers hne hlimit (by decide) ?_ ?_ hable
    · intro frame bytes after hread
      have hmin : min adaptedChunk maxTransfer = adaptedChunk := by decide
      simp only [Adapter.read, Adapter.passing, Action.mapError, hmin, hread]
    · exact fun bytes frame after hbytes hvalid hwrite =>
        Adapter.writeAll_of_ok hbytes hvalid hwrite

/-- Three bytes are left of an extent of four, and the output stands on the last of them in the very
same file.  That one is overwritten before it is read, and the file grows by two bytes that are
never read. -/
theorem ends_within_extent_of_four_bytes :
    ∃ files : FileSystem,
      files = { FileSystem.fresh with
        nodes := FileSystem.fresh.nodes ++ [.file 0o644 (.ofBytes [1, 2, 3, 4])]
        opened := [⟨7, 1, true, false, true⟩, ⟨7, 3, false, true, true⟩] } ∧
      (∀ chunk, UsesUp (fun _ => false)
        (fun length => Input.read (FileSystem.device 0) length length)
        (fun bytes => Output.write (FileSystem.device 1) bytes bytes.length) chunk 3
        (.opened ⟨⟨"data", ⟨0, 4⟩⟩, 4⟩) (inChunks (FileSystem.device 0) (FileSystem.device 1) chunk)
        ⟨(.opened ⟨⟨"data", ⟨0, 4⟩⟩, 4⟩, .opened ⟨⟨"data", ⟨0, 4⟩⟩, 0⟩), files, []⟩) ∧
      (∀ chunk, chunk ≤ maxTransfer →
        isAnswer (inChunks (FileSystem.device 0) (FileSystem.device 1) chunk
          ⟨(.opened ⟨⟨"data", ⟨0, 4⟩⟩, 4⟩, .opened ⟨⟨"data", ⟨0, 4⟩⟩, 0⟩), files, []⟩) = true) ∧
      FileSystem.dataBehind? (Action.left
        (inChunks (FileSystem.device 0) (FileSystem.device 1) 2
          ⟨(.opened ⟨⟨"data", ⟨0, 4⟩⟩, 4⟩, .opened ⟨⟨"data", ⟨0, 4⟩⟩, 0⟩), files, []⟩)).world 0 =
        some [1, 2, 3, 2, 3, 2] := by
  obtain ⟨files, hfiles⟩ : ∃ files : FileSystem,
      files = { FileSystem.fresh with
        nodes := FileSystem.fresh.nodes ++ [.file 0o644 (.ofBytes [1, 2, 3, 4])]
        opened := [⟨7, 1, true, false, true⟩, ⟨7, 3, false, true, true⟩] } := ⟨_, rfl⟩
  have hopened : files.opened[0]? = some ⟨7, 1, true, false, true⟩ := by
    rw [hfiles]
    rfl
  have hregular : files.node? 7 = some (.file 0o644 (.ofBytes [1, 2, 3, 4])) := by
    rw [hfiles]
    rfl
  obtain ⟨hchunks, -, hanswers⟩ := ends_within_extent ⟨⟨"data", ⟨0, 4⟩⟩, 4⟩
    (.opened ⟨⟨"data", ⟨0, 4⟩⟩, 0⟩) 1 hopened hregular (by decide) rfl []
  have hable : Able ⟨⟨"data", ⟨0, 4⟩⟩, 4⟩ 0 1 0
      ⟨(.opened ⟨⟨"data", ⟨0, 4⟩⟩, 4⟩, .opened ⟨⟨"data", ⟨0, 4⟩⟩, 0⟩), files, []⟩ := by
    refine ⟨⟨⟨"data", ⟨0, 4⟩⟩, 0⟩, false, 1, [1, 2, 3, 4], false, 3, [1, 2, 3, 4], rfl,
      ⟨7, 0o644, .ofBytes [1, 2, 3, 4], hopened, hregular, rfl⟩,
      ⟨7, 0o644, .ofBytes [1, 2, 3, 4], ?_, hregular, rfl⟩, by decide, by decide, by decide⟩
    rw [hfiles]
    rfl
  refine ⟨files, hfiles, hchunks, (hanswers (by decide) (by decide) hable).1, ?_⟩
  rw [hfiles]
  decide +kernel

end Copy

end FileWindow

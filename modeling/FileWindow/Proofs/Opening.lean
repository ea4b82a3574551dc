import FileWindow.FileResource
import FileWindow.Proofs.FileStream

/-!
# What opening leaves

Opening a path appends one open file to those there are, with its cursor at the start.  A file that
was there keeps its data where nothing else is asked for, and is empty where it is truncated or
made.  An input or an output on the open file then shows the whole of it, as does one on anything
else that can be measured.

Main definitions:

- Definition FileSystem.Opens: one more file is open, on what was there or on what has no data.

Main results:

- Theorem FileSystem.opens_of_opening: that is what opening a path comes to.
- Theorem FileSystem.Opens.shows: the open file shows its data from the start.
- Theorems FileSystem.Opens.nodes_eq, FileSystem.Opens.data_eq_nil: which files keep their data.
- Theorems Input.openPath_of_opening, Output.openPath_of_opening: what a path is opened as.
-/

namespace FileWindow

namespace FileSystem

/-! ## Changes of nodes -/

/-- Changing the entries of a directory opens nothing. -/
@[simp]
theorem opened_addEntry (files : FileSystem) (directory : NodeId) (name : String) (id : NodeId) :
    (files.addEntry directory name id).opened = files.opened := by
  unfold addEntry updateEntries
  split <;> rfl

/-- Nor does emptying a file. -/
@[simp]
theorem opened_emptyFile (files : FileSystem) (id : NodeId) :
    (files.emptyFile id).opened = files.opened := by
  unfold emptyFile
  split <;> rfl

/-- Changing the entries of a directory changes no file. -/
theorem contents_of_addEntry {files : FileSystem} {directory : NodeId} {name : String}
    {id other : NodeId} {mode : Nat} {contents : Contents}
    (h : files.node? other = some (.file mode contents)) :
    (files.addEntry directory name id).node? other = some (.file mode contents) := by
  unfold addEntry updateEntries
  split
  · rename_i mode' entries hdirectory
    by_cases hsame : directory = other
    · subst hsame
      rw [h] at hdirectory
      cases hdirectory
    · rw [node?_setNode_ne hsame, h]
  · exact h

/-- An emptied file has no data. -/
theorem contents_of_emptyFile {files : FileSystem} {id : NodeId} {mode : Nat} {contents : Contents}
    (h : (files.emptyFile id).node? id = some (.file mode contents)) : contents = [] := by
  unfold emptyFile at h
  split at h
  · rename_i mode' before hnode
    rw [node?_setNode_of_node? hnode] at h
    cases h
    rfl
  · rename_i hother
    exact absurd h (hother mode contents)

/-! ## Opening -/

/-- Two checks made one after the other, each if it is called for, let a result through as it is. -/
theorem eq_of_checks {asked asked' : Bool} {check check' : Except Fault Unit}
    {result opened : FileSystem} (h : (do
      if asked then check
      if asked' then check'
      return result) = Except.ok opened) : opened = result := by
  cases asked <;> cases asked' <;> cases check <;> cases check' <;> cases h <;> rfl

/-- What is there is opened as it is, or emptied if that is asked for. -/
theorem openPresent_eq_ok {files opened : FileSystem} {options : OpenOptions} {id : NodeId}
    (h : files.openPresent options id = .ok opened) :
    opened = (if options.truncate then files.emptyFile id else files).openNode options id := by
  unfold openPresent at h
  split at h
  · cases h
  · exact eq_of_checks h

/-- What is opened where a file may be made: what is there, unless that is refused, or a new file
without data. -/
theorem openMaking_eq_ok {files opened : FileSystem} {options : OpenOptions} {place : Place}
    (h : files.openMaking options place = .ok opened) :
    (options.exclusive = false ∧ ∃ id, files.openPresent options id = .ok opened) ∨
      ∃ base : FileSystem, opened = base.openNode options files.nextId ∧
        base.opened = files.opened ∧ ∃ mode, base.node? files.nextId = some (.file mode []) := by
  cases place with
  | standing chain last => cases h
  | named chain name slash =>
    simp only [openMaking] at h
    split at h
    · cases h
    simp only [bind, Except.bind] at h
    cases hfind : files.find chain.innermost name with
    | error fault =>
      simp only [hfind] at h
      cases h
    | ok found =>
      simp only [hfind] at h
      cases found with
      | some id =>
        simp only at h
        split at h
        · cases h
        · rename_i hexclusive
          exact .inl ⟨by simpa using hexclusive, id, h⟩
      | none =>
        simp only at h
        split at h
        · cases h
        · cases h
          have hmade : (files.makeNode (.file (grantedPermissions options.permissions) [])).node?
              files.nextId = some (.file (grantedPermissions options.permissions) []) := by
            simp [makeNode, node?, nextId]
          exact .inr ⟨_, rfl, opened_addEntry _ _ _ _, _, contents_of_addEntry hmade⟩

/-- One more file is open, on some node.  Either the nodes are as they were, because nothing was to
be made or emptied, or the node has no data. -/
def Opens (files opened : FileSystem) (options : OpenOptions) : Prop :=
  ∃ (base : FileSystem) (id : NodeId), opened = base.openNode options id ∧
    base.opened = files.opened ∧
    ((base = files ∧ options.truncate = false ∧
        (options.create = true → options.exclusive = false)) ∨
      ((options.create = true ∨ options.truncate = true) ∧
        ∀ mode contents, base.node? id = some (.file mode contents) → contents = []))

/-- That is what opening what is there comes to. -/
theorem opens_of_openPresent {files opened : FileSystem} {options : OpenOptions} {id : NodeId}
    (h : files.openPresent options id = .ok opened)
    (hexclusive : options.create = true → options.exclusive = false) :
    files.Opens opened options := by
  have hopened := openPresent_eq_ok h
  cases htruncate : options.truncate with
  | false =>
    rw [htruncate] at hopened
    exact ⟨files, id, hopened, rfl, .inl ⟨rfl, htruncate, hexclusive⟩⟩
  | true =>
    rw [htruncate] at hopened
    exact ⟨files.emptyFile id, id, hopened, opened_emptyFile files id,
      .inr ⟨.inr htruncate, fun mode contents => contents_of_emptyFile⟩⟩

/-- That is what opening a path comes to. -/
theorem opens_of_opening {files opened : FileSystem} {options : OpenOptions} {path : String}
    (h : files.opening options path = .ok opened) : files.Opens opened options := by
  unfold opening at h
  split at h
  · rename_i hcreate
    simp only [bind, Except.bind] at h
    split at h
    · cases h
    · rcases openMaking_eq_ok h with ⟨hexclusive, id, hopen⟩ | ⟨base, hopened, hbase, mode, hnode⟩
      · exact opens_of_openPresent hopen fun _ => hexclusive
      · refine ⟨base, files.nextId, hopened, hbase, .inr ⟨.inl hcreate, ?_⟩⟩
        intro mode' contents hfile
        rw [hnode] at hfile
        cases hfile
        rfl
  · rename_i hcreate
    simp only [bind, Except.bind] at h
    split at h
    · cases h
    · exact opens_of_openPresent h fun hyes => absurd hyes hcreate

namespace Opens

variable {files opened : FileSystem} {options : OpenOptions}

/-- If it is on a regular file, the open file shows its data from the start. -/
theorem shows (h : files.Opens opened options) {data : Bytes}
    (hdata : opened.dataBehind? files.opened.length = some data) :
    opened.Shows files.opened.length options.read options.write 0 data := by
  rcases h with ⟨base, id, rfl, hbase, -⟩
  have hopened : (base.openNode options id).opened[files.opened.length]? =
      some ⟨id, 0, options.read, options.write, true⟩ := by
    simp [openNode, hbase]
  simp only [dataBehind?, hopened, Option.bind_eq_bind, Option.bind_some] at hdata
  cases hnode : (base.openNode options id).node? id with
  | none => simp [hnode] at hdata
  | some node =>
    cases node with
    | file mode contents =>
      simp [hnode, Node.contents?] at hdata
      exact ⟨id, mode, contents, hopened, hnode, hdata⟩
    | directory | fifo | link | special => simp [hnode, Node.contents?] at hdata

/-- Where nothing is made or emptied every node is as it was. -/
theorem nodes_eq (h : files.Opens opened options) (hcreate : options.create = false)
    (htruncate : options.truncate = false) : opened.nodes = files.nodes := by
  rcases h with ⟨base, id, rfl, -, ⟨rfl, -, -⟩ | ⟨hmade, -⟩⟩
  · rfl
  · simp [hcreate, htruncate] at hmade

/-- What is emptied, or made because it may not be there, has no data. -/
theorem data_eq_nil (h : files.Opens opened options)
    (hempty : options.truncate = true ∨ options.create = true ∧ options.exclusive = true)
    {data : Bytes} (hdata : opened.dataBehind? files.opened.length = some data) : data = [] := by
  rcases h.shows hdata with ⟨id, mode, contents, hopened, hnode, rfl⟩
  rcases h with ⟨base, id', rfl, hbase, ⟨-, htruncate, hexclusive⟩ | ⟨-, hnone⟩⟩
  · rcases hempty with hyes | ⟨hcreate, hyes⟩
    · rw [htruncate] at hyes
      cases hyes
    · rw [hexclusive hcreate] at hyes
      cases hyes
  · have hid : id' = id := by simpa [openNode, hbase] using hopened
    rw [hnone mode contents (by rw [hid]; exact hnode)]
    rfl

end Opens

end FileSystem

/-! ## Opening resources -/

section Resources

variable {ρ σ : Type} {device : Device σ} {frame : Frame ρ σ} {size : Nat} {world : σ}

/-- An input on a device that can be measured shows the whole of it. -/
theorem Input.attach_of_size (name : String)
    (h : device.size frame.world = .ok (some size) world) :
    Input.attach device name frame = .ok (.opened ⟨⟨name, .whole size⟩, size⟩)
      ⟨frame.book, world, .opened name size :: frame.journal⟩ := by
  simp only [Input.attach, Bind.bind, EStateM.bind, Action.call_of_ok name .querySize h]
  rfl

/-- So does an output, which has counted nothing yet. -/
theorem Output.attach_of_size (name : String)
    (h : device.size frame.world = .ok (some size) world) :
    Output.attach device name frame = .ok (.opened ⟨⟨name, .whole size⟩, 0⟩)
      ⟨frame.book, world, .opened name size :: frame.journal⟩ := by
  simp only [Output.attach, Bind.bind, EStateM.bind, Action.call_of_ok name .querySize h]
  rfl

/-- An output on a device that cannot be measured shows nothing yet. -/
theorem Output.attach_of_unmeasured (name : String)
    (h : device.size frame.world = .ok none world) :
    Output.attach device name frame = .ok (.opened ⟨⟨name, .whole 0⟩, 0⟩)
      ⟨frame.book, world, .opened name 0 :: frame.journal⟩ := by
  simp only [Output.attach, Bind.bind, EStateM.bind, Action.call_of_ok name .querySize h]
  rfl

end Resources

section Paths

variable {ρ α : Type} {files opened : FileSystem} {options : OpenOptions} {path : String}
  {data : Bytes}

/-- A path that can be opened is opened, and the number of its open file answered. -/
theorem openNamed_of_opening (reportMissing : Bool) {frame : Frame ρ FileSystem}
    (h : frame.world.opening options path = .ok opened) :
    openNamed options path reportMissing frame =
      .ok frame.world.opened.length { frame with world := opened } := by
  simp only [openNamed, Action.attempt, FileSystem.openPath, h, Bind.bind, EStateM.bind]
  rfl

/-- What is attached is answered with the number of its open file. -/
theorem attachOpened_of_ok {attach : Action FileError ρ FileSystem α} (handle : Nat)
    {frame after : Frame ρ FileSystem} {book : α} (h : attach frame = .ok book after) :
    attachOpened handle attach frame = .ok (book, handle) after := by
  simp only [attachOpened, Bind.bind, EStateM.bind, Action.observe_of_ok h]
  rfl

/-- A regular file that can be opened for reading is an input on the whole of its data. -/
theorem Input.openPath_of_opening (book : ρ) (journal : Journal)
    (hopening : files.opening .reading path = .ok opened)
    (hdata : opened.dataBehind? files.opened.length = some data) :
    Input.openPath path ⟨book, files, journal⟩ =
      .ok (.opened ⟨⟨path, .whole data.length⟩, data.length⟩, files.opened.length)
        ⟨book, opened, .opened path data.length :: journal⟩ := by
  have hshows := (FileSystem.opens_of_opening hopening).shows hdata
  have hopened : openNamed .reading path true ⟨book, files, journal⟩ =
      .ok files.opened.length ⟨book, opened, journal⟩ := openNamed_of_opening true hopening
  simp only [Input.openPath, Bind.bind, EStateM.bind, hopened]
  exact attachOpened_of_ok _ (Input.attach_of_size path hshows.size)

/-- A regular file that can be opened for output is an output on the whole of its data. -/
theorem Output.openPath_of_opening (book : ρ) (journal : Journal) {mode : OutputMode}
    {permissions : Option Nat}
    (hopening : files.opening (.output mode permissions) path = .ok opened)
    (hdata : opened.dataBehind? files.opened.length = some data) :
    Output.openPath path mode permissions ⟨book, files, journal⟩ =
      .ok (.opened ⟨⟨path, .whole data.length⟩, 0⟩, files.opened.length)
        ⟨book, opened, .opened path data.length :: journal⟩ := by
  have hshows := (FileSystem.opens_of_opening hopening).shows hdata
  have hopened : openNamed (.output mode permissions) path false ⟨book, files, journal⟩ =
      .ok files.opened.length ⟨book, opened, journal⟩ := openNamed_of_opening false hopening
  simp only [Output.openPath, Bind.bind, EStateM.bind, hopened]
  exact attachOpened_of_ok _ (Output.attach_of_size path hshows.size)

end Paths

end FileWindow

import FileWindow.Proofs.Creating

/-!
# Files that are filled anew

An output that truncates finds a file that is there, and empties it, or a free name, and makes a
file of it.  Which of the two it is can be said before anything is opened, and is found out again
after other data were put in the file: only the last data count.  Where such an output cannot be
opened, it is never because something is in the way.

Main definitions:

- Definition FileSystem.fill: other data in a file, in place of what it held.
- Definition FileSystem.Present: a path leads to something that an output may empty.
- Definition FileSystem.Free: a path leads to a name at which an output may make a file.
- Definition FileSystem.addOpened: one more open file.
- Definition Node.Blank: what was just opened for an output.

Main results:

- Theorem FileSystem.fill_fill: of two fillings only the second one counts.
- Theorem FileSystem.present_or_free_of_opening: what an output that truncates can be opened on.
- Theorems FileSystem.Present.opening and FileSystem.Free.opening: what is left by opening it.
- Theorem FileSystem.Free.present_create: a file that was made is there.
- Theorem FileError.ofOpening_eq_broken: how a failure to open it is told.
- Theorem FileSystem.write_blank: what is written to what was just opened.
-/

namespace FileWindow

variable {α β : Type}

/-! ## Nothing in the way -/

/-- If a result fails, it is not because something is in the way. -/
def NeverTaken (result : Except Fault α) : Prop :=
  ∀ fault, result = .error fault → fault.kind ≠ .alreadyExists

namespace NeverTaken

variable {result result' : Except Fault α}

theorem ok (value : α) : NeverTaken (.ok value) := by
  rintro _ ⟨⟩

theorem error {fault : Fault} (h : fault.kind ≠ .alreadyExists) :
    NeverTaken (.error fault : Except Fault α) := by
  rintro _ ⟨⟩
  exact h

theorem bind {next : α → Except Fault β} (h : NeverTaken result)
    (hnext : ∀ value, NeverTaken (next value)) : NeverTaken (result >>= next) := by
  cases result with
  | ok value => exact hnext value
  | error fault => exact error (h fault rfl)

theorem ite {condition : Prop} [Decidable condition] (hthen : NeverTaken result)
    (helse : NeverTaken result') : NeverTaken (if condition then result else result') := by
  split
  · exact hthen
  · exact helse

end NeverTaken

/-- Opening an output that need not be there is told as a failure to open, whatever went wrong, as
long as nothing was in the way. -/
theorem FileError.ofOpening_eq_broken {fault : Fault} (h : fault.kind ≠ .alreadyExists)
    (name : String) : FileError.ofOpening name false fault = .broken name .opening fault.errno := by
  unfold FileError.ofOpening
  split
  · contradiction
  · rename_i hkind
    exact absurd hkind h
  · rfl

theorem Path.neverTaken_parse (text : String) : NeverTaken (Path.parse text) :=
  .bind (.ite (.error (by decide)) (.ok _)) fun _ =>
    .ite (.error (by decide)) (.ite (.error (by decide)) (.ok _))

namespace FileSystem

variable {files after : FileSystem}

theorem neverTaken_demand (access : Access) (id : NodeId) :
    NeverTaken (files.demand access id) :=
  .ite (.ok _) (.error (by decide))

theorem neverTaken_find (directory : NodeId) (name : String) :
    NeverTaken (files.find directory name) :=
  .ite (.error (by decide)) (.ok _)

theorem neverTaken_advance (follow slash : Bool) (chain : Chain) (names : List String) :
    NeverTaken (files.advance follow slash chain names) := by
  induction names generalizing chain with
  | nil => exact .ok _
  | cons name rest ih =>
    rw [advance]
    refine .ite (ih chain) ((neverTaken_demand _ _).bind fun _ => ?_)
    refine .ite (ih chain) (.ite (.ite (.ok _) (ih chain.up)) (.ite ?_ ?_))
    · cases files.linkAt chain.innermost name with
      | none => exact .ok _
      | some target => exact .ite (.ok _) (.ok _)
    · refine (neverTaken_find _ _).bind fun found => ?_
      cases found with
      | none => exact .error (by decide)
      | some id =>
        dsimp only
        split
        · exact ih (id :: chain)
        · exact .ok _
        · exact .error (by decide)

theorem neverTaken_walk (manner : Manner) (links : Nat) (chain : Chain) (names : List String)
    (slash : Bool) : NeverTaken (files.walk manner links chain names slash) := by
  induction links generalizing chain names slash with
  | zero =>
    rw [walk]
    refine (neverTaken_advance _ _ _ _).bind fun progress => ?_
    cases progress with
    | arrived place => exact .ok _
    | meets chain target rest => exact .error (by decide)
  | succ links ih =>
    rw [walk]
    refine (neverTaken_advance _ _ _ _).bind fun progress => ?_
    cases progress with
    | arrived place => exact .ok _
    | meets chain target rest => exact ih _ _ _

/-- What is there is opened for an output that truncates if it is no directory and may be
written. -/
theorem openPresent_truncate (files : FileSystem) (permissions : Option Nat) (id : NodeId) :
    files.openPresent (.output .truncate permissions) id =
      if (files.node? id).any Node.isDirectory = true then .error (.system Errno.isDirectory)
      else (files.demand .write id >>= fun _ =>
        .ok ((files.emptyFile id).openNode (.output .truncate permissions) id)) := by
  simp only [openPresent, OpenOptions.output, Bool.or_true, Bool.and_true, Bool.false_eq_true,
    if_false, if_true]
  rfl

/-- An output that may find its file there is never refused because it is there. -/
theorem neverTaken_opening_truncate (permissions : Option Nat) (path : String) :
    NeverTaken (files.opening (.output .truncate permissions) path) := by
  refine .bind (.bind (Path.neverTaken_parse path) fun _ => neverTaken_walk _ _ _ _ _)
    fun place => ?_
  cases place with
  | standing chain last =>
    have hkind : (Fault.system Errno.isDirectory).kind ≠ .alreadyExists := by decide
    exact .error hkind
  | named chain name slash =>
    refine .ite (.error (by decide)) ((neverTaken_find _ _).bind fun found => ?_)
    cases found with
    | none => exact (neverTaken_demand _ _).bind fun _ => .ok _
    | some id =>
      change NeverTaken (files.openPresent (.output .truncate permissions) id)
      rw [openPresent_truncate]
      exact .ite (.error (by decide)) ((neverTaken_demand _ _).bind fun _ => .ok _)

end FileSystem

/-! ## Filling -/

/-- The node with other data, where it has any. -/
def Node.filled (contents : Contents) : Node → Node
  | .file mode _ => .file (plainMode mode) contents
  | other => other

namespace Node

/-- Of two fillings only the second one counts. -/
@[simp]
theorem filled_filled (contents contents' : Contents) (node : Node) :
    (node.filled contents).filled contents' = node.filled contents' := by
  cases node with
  | file mode before => simp [filled, plainMode_plainMode]
  | directory | fifo | link | special => rfl

@[simp]
theorem outline_filled (contents : Contents) (node : Node) :
    (node.filled contents).outline = node.outline := by
  cases node with
  | file mode before => exact outline_file_plainMode mode contents before
  | directory | fifo | link | special => rfl

@[simp]
theorem isDirectory_filled (contents : Contents) (node : Node) :
    (node.filled contents).isDirectory = node.isDirectory := by
  cases node <;> rfl

end Node

namespace FileSystem

variable {files after : FileSystem}

/-- The file system with other data in a file. -/
def fill (files : FileSystem) (id : NodeId) (contents : Contents) : FileSystem :=
  { files with nodes := files.nodes.modify id (Node.filled contents) }

/-- File systems with the same nodes and the same open files are the same. -/
theorem eq_of_node? (h : ∀ id, files.node? id = after.node? id)
    (hopened : files.opened = after.opened) : files = after := by
  cases files
  cases after
  obtain rfl := hopened
  exact congrArg (FileSystem.mk · _) (List.ext_getElem? h)

theorem node?_fill (id other : NodeId) (contents : Contents) :
    (files.fill id contents).node? other =
      (files.node? other).map fun node => if id = other then node.filled contents else node :=
  List.getElem?_modify ..

@[simp]
theorem node?_fill_self (id : NodeId) (contents : Contents) :
    (files.fill id contents).node? id = (files.node? id).map (Node.filled contents) := by
  rw [node?_fill]
  simp

theorem node?_fill_ne {id other : NodeId} (h : id ≠ other) (contents : Contents) :
    (files.fill id contents).node? other = files.node? other := by
  rw [node?_fill]
  simp [h]

/-- Of two fillings only the second one counts. -/
@[simp]
theorem fill_fill (files : FileSystem) (id : NodeId) (contents contents' : Contents) :
    (files.fill id contents).fill id contents' = files.fill id contents' := by
  refine eq_of_node? (fun other => ?_) rfl
  by_cases h : id = other
  · subst h
    cases hnode : files.node? id <;> simp [hnode]
  · simp only [node?_fill_ne h]

/-- A file is filled by putting one with the same permission bits in its place. -/
theorem fill_eq_setNode {id : NodeId} {mode : Nat} {before : Contents}
    (h : files.node? id = some (.file mode before)) (contents : Contents) :
    files.fill id contents = files.setNode id (.file (plainMode mode) contents) := by
  refine eq_of_node? (fun other => ?_) rfl
  by_cases hother : id = other
  · subst hother
    rw [node?_fill_self, h, node?_setNode_of_node? h]
    rfl
  · rw [node?_fill_ne hother, node?_setNode_ne hother]

/-- What is filled with what it holds is as it was. -/
theorem fill_eq_self {id : NodeId} {node : Node} {contents : Contents}
    (h : files.node? id = some node) (hnode : node.filled contents = node) :
    files.fill id contents = files := by
  refine eq_of_node? (fun other => ?_) rfl
  by_cases hother : id = other
  · subst hother
    rw [node?_fill_self, h, Option.map_some, hnode]
  · rw [node?_fill_ne hother]

/-- Emptying a file is filling it with nothing. -/
theorem emptyFile_eq_fill (files : FileSystem) (id : NodeId) :
    files.emptyFile id = files.fill id [] := by
  unfold emptyFile
  split
  · rename_i mode before hnode
    rw [fill_eq_setNode hnode]
  · rename_i hother
    cases hnode : files.node? id with
    | none =>
      refine eq_of_node? (fun other => ?_) rfl
      by_cases h : id = other
      · subst h
        rw [node?_fill_self, hnode, Option.map_none]
      · rw [node?_fill_ne h]
    | some node =>
      refine (fill_eq_self hnode ?_).symm
      cases node with
      | file mode before => exact absurd hnode (hother mode before)
      | directory | fifo | link | special => rfl

/-- Walks see nothing of it when a file is filled. -/
theorem sameOutline_fill (files : FileSystem) (id : NodeId) (contents : Contents) :
    files.SameOutline (files.fill id contents) := by
  intro other
  by_cases h : id = other
  · subst h
    cases hnode : files.node? id <;> simp [hnode]
  · rw [node?_fill_ne h]

/-! ## What an output that truncates is opened on -/

/-- A path leads to something that an output may empty. -/
structure Present (files : FileSystem) (path : String) (id : NodeId) (node : Node) : Prop where
  place : ∃ chain name, files.locate .making path = .ok (.named chain name false) ∧
    files.find chain.innermost name = .ok (some id)
  node_eq : files.node? id = some node
  sort : node.isDirectory = false
  write : files.grants .write id = true

/-- A path leads to a free name in a directory in which an output may make a file. -/
structure Free (files : FileSystem) (path : String) (directory : NodeId) (name : String)
    (mode : Nat) (entries : List (String × NodeId)) : Prop where
  place : ∃ chain : Chain, chain.innermost = directory ∧
    files.locate .making path = .ok (.named chain name false)
  find : files.find directory name = .ok none
  node_eq : files.node? directory = some (.directory mode entries)
  write : files.grants .write directory = true

/-- The permission bits that a file gets which is made for an output. -/
def outputMode (permissions : Option Nat) : Nat :=
  grantedPermissions (permissions.getD OpenOptions.usualPermissions)

variable {permissions : Option Nat} {path : String} {opened : FileSystem}

/-- What grants anything is there. -/
theorem exists_of_grants {access : Access} {id : NodeId} (h : files.grants access id = true) :
    ∃ node, files.node? id = some node := by
  unfold grants at h
  cases hnode : files.node? id with
  | none =>
    rw [hnode] at h
    cases h
  | some node => exact ⟨node, rfl⟩

/-- What is there is opened if it is no directory and may be written, and is then empty. -/
theorem openPresent_truncate_eq_ok_iff {id : NodeId} :
    files.openPresent (.output .truncate permissions) id = .ok opened ↔
      (files.node? id).any Node.isDirectory = false ∧ files.grants .write id = true ∧
        opened = (files.fill id []).openNode (.output .truncate permissions) id := by
  rw [openPresent_truncate, emptyFile_eq_fill]
  by_cases hdirectory : (files.node? id).any Node.isDirectory = true
  · simp [hdirectory]
  · rw [if_neg hdirectory, bind_eq_ok_iff]
    constructor
    · rintro ⟨_, hdemand, hopened⟩
      cases hopened
      exact ⟨Bool.eq_false_iff.mpr hdirectory, demand_eq_ok_iff.mp hdemand, rfl⟩
    · rintro ⟨-, hwrite, rfl⟩
      exact ⟨(), demand_eq_ok_iff.mpr hwrite, rfl⟩

/-- What an output that truncates can be opened on is there, or has a name that is free. -/
theorem present_or_free_of_opening (hrooted : files.Rooted)
    (h : files.opening (.output .truncate permissions) path = .ok opened) :
    (∃ id node, files.Present path id node) ∨
      ∃ directory name mode entries, files.Free path directory name mode entries := by
  obtain ⟨place, hplace, h⟩ := bind_eq_ok_iff.mp h
  cases place with
  | standing chain last => cases h
  | named chain name slash =>
    cases slash with
    | true => cases h
    | false =>
      obtain ⟨found, hfind, h⟩ := bind_eq_ok_iff.mp h
      cases found with
      | some id =>
        obtain ⟨hdirectory, hwrite, -⟩ := openPresent_truncate_eq_ok_iff.mp h
        obtain ⟨node, hnode⟩ := exists_of_grants hwrite
        rw [hnode] at hdirectory
        exact .inl ⟨id, node, ⟨chain, name, hplace, hfind⟩, hnode, hdirectory, hwrite⟩
      | none =>
        obtain ⟨_, hdemand, -⟩ := bind_eq_ok_iff.mp h
        obtain ⟨mode, entries, hnode⟩ := (onDirectories_of_locate hrooted hplace).innermost hrooted
        exact .inr ⟨chain.innermost, name, mode, entries, ⟨chain, rfl, hplace⟩, hfind, hnode,
          demand_eq_ok_iff.mp hdemand⟩

namespace Present

variable {id : NodeId} {node node' : Node}

/-- The path leads there. -/
theorem lookup_eq (h : files.Present path id node) : files.lookup .through path = .ok id := by
  obtain ⟨chain, name, hplace, hfind⟩ := h.place
  rw [lookup_of_making hplace]
  exact bind_eq_ok_iff.mpr ⟨_, hfind, rfl⟩

/-- Links are followed, and directories are not written. -/
theorem sort_cases (h : files.Present path id node) :
    (∃ mode contents, node = .file mode contents) ∨ (∃ mode pending, node = .fifo mode pending) ∨
      ∃ kind, node = .special kind := by
  obtain ⟨chain, name, hplace, hfind⟩ := h.place
  obtain ⟨-, hlink⟩ := through_of_making hplace
  cases node with
  | file mode contents => exact .inl ⟨mode, contents, rfl⟩
  | fifo mode pending => exact .inr (.inl ⟨mode, pending, rfl⟩)
  | special kind => exact .inr (.inr ⟨kind, rfl⟩)
  | directory mode entries => cases h.sort
  | link target =>
    simp only [linkAt, hfind, h.node_eq] at hlink
    cases hlink

/-- It is opened, and has no data then. -/
theorem opening (h : files.Present path id node) :
    files.opening (.output .truncate permissions) path =
      .ok ((files.fill id []).openNode (.output .truncate permissions) id) := by
  obtain ⟨chain, name, hplace, hfind⟩ := h.place
  refine bind_eq_ok_iff.mpr ⟨_, hplace, bind_eq_ok_iff.mpr ⟨_, hfind, ?_⟩⟩
  refine openPresent_truncate_eq_ok_iff.mpr ⟨?_, h.write, rfl⟩
  rw [h.node_eq]
  exact h.sort

/-- What has taken its place is found in its place, if walks see no difference. -/
theorem of_sameOutline (h : files.Present path id node) (hsame : files.SameOutline after)
    (hnode : after.node? id = some node') (hsort : node'.isDirectory = false) :
    after.Present path id node' := by
  obtain ⟨chain, name, hplace, hfind⟩ := h.place
  refine ⟨⟨chain, name, ?_, ?_⟩, hnode, hsort, ?_⟩
  · rw [← hsame.locate_eq, hplace]
  · rw [← hsame.shape.find_eq, hfind]
  · rw [← hsame.grants_eq, h.write]

/-- It is found again when it was filled. -/
theorem fill (h : files.Present path id node) (contents : Contents) :
    (files.fill id contents).Present path id (node.filled contents) := by
  refine h.of_sameOutline (sameOutline_fill files id contents) ?_ ?_
  · rw [node?_fill_self, h.node_eq, Option.map_some]
  · rw [Node.isDirectory_filled, h.sort]

end Present

namespace Free

variable {directory : NodeId} {name : String} {mode : Nat} {entries : List (String × NodeId)}

/-- The name is not in the directory. -/
theorem lookup_entries (h : files.Free path directory name mode entries) :
    entries.lookup name = none := by
  have hfind := h.find
  unfold FileSystem.find entriesOf at hfind
  split at hfind
  · cases hfind
  · rw [h.node_eq] at hfind
    exact Except.ok.inj hfind

/-- So the path leads nowhere. -/
theorem lookup_eq (h : files.Free path directory name mode entries) :
    files.lookup .through path = .error (.system Errno.noEntry) := by
  obtain ⟨chain, rfl, hplace⟩ := h.place
  rw [lookup_of_making hplace]
  simp only [nodeAt, h.find]
  rfl

/-- A file is made, which has no data, and is opened. -/
theorem opening (h : files.Free path directory name mode entries) :
    files.opening (.output .truncate permissions) path =
      .ok ((files.create directory name (.file (outputMode permissions) [])).openNode
        (.output .truncate permissions) files.nextId) := by
  obtain ⟨chain, rfl, hplace⟩ := h.place
  refine bind_eq_ok_iff.mpr ⟨_, hplace, bind_eq_ok_iff.mpr ⟨_, h.find, ?_⟩⟩
  exact bind_eq_ok_iff.mpr ⟨(), demand_eq_ok_iff.mpr h.write, rfl⟩

/-- A file that was made there is there. -/
theorem present_create (h : files.Free path directory name mode entries) (hrooted : files.Rooted)
    {granted : Nat} (hwrite : granted &&& Access.write.ownerBit ≠ 0) (contents : Contents) :
    (files.create directory name (.file granted contents)).Present path files.nextId
      (.file granted contents) := by
  have hnode := node?_create_self h.node_eq h.lookup_entries (.file granted contents)
  obtain ⟨chain, rfl, hplace⟩ := h.place
  have hextends := extends_create h.node_eq h.lookup_entries granted contents
  refine ⟨⟨chain, name, (hextends.locate_answers _ _ _ hplace).1, ?_⟩, hnode, rfl, ?_⟩
  · rw [find_create_self h.node_eq h.lookup_entries, h.find]
    rfl
  · -- Every new node belongs to whoever works in the working directory.
    obtain ⟨_, _, hworkplace⟩ := hrooted.workplace
    have howns : owns files.nextId = true := by
      obtain ⟨hlt, -⟩ := List.getElem?_eq_some_iff.mp hworkplace
      exact decide_eq_true (Nat.le_of_lt hlt)
    rw [grants, hnode, howns]
    simpa [Node.mode] using hwrite

end Free

/-- A file that was made and filled is one that was made with its data. -/
theorem fill_create {directory : NodeId} {name : String} {mode : Nat}
    {entries : List (String × NodeId)} (hdirectory : files.node? directory =
      some (.directory mode entries)) (hfree : entries.lookup name = none) {granted : Nat}
    (hgranted : plainMode granted = granted) (before contents : Contents) :
    (files.create directory name (.file granted before)).fill files.nextId contents =
      files.create directory name (.file granted contents) := by
  refine eq_of_node? (fun other => ?_) ?_
  · by_cases hnew : files.nextId = other
    · subst hnew
      rw [node?_fill_self, node?_create_self hdirectory hfree, node?_create_self hdirectory hfree,
        Option.map_some, Node.filled, hgranted]
    rw [node?_fill_ne hnew]
    by_cases hother : other = directory
    · subst hother
      rw [node?_create_directory hdirectory hfree, node?_create_directory hdirectory hfree]
    · rw [node?_create_ne hdirectory hfree _ hother (Ne.symm hnew),
        node?_create_ne hdirectory hfree _ hother (Ne.symm hnew)]
  · rw [create_eq hdirectory hfree, create_eq hdirectory hfree]
    rfl

end FileSystem

/-! ## Files and devices -/

/-- What keeps nothing that waits to be read: a file, or a device. -/
inductive Node.Settled : Node → Prop
  | file (mode : Nat) (contents : Contents) : Settled (.file mode contents)
  | special (kind : SpecialFile) : Settled (.special kind)

/-- So it is with other data. -/
theorem Node.Settled.filled {node : Node} (h : node.Settled) (contents : Contents) :
    (node.filled contents).Settled := by
  cases h with
  | file mode before => exact .file _ _
  | special kind => exact .special kind

/-- What was just opened for an output: a file without data, or a device. -/
inductive Node.Blank : Node → Prop
  | file {mode : Nat} (hmode : plainMode mode = mode) : Blank (.file mode [])
  | special (kind : SpecialFile) : Blank (.special kind)

namespace Node.Blank

variable {node : Node}

theorem settled (h : node.Blank) : node.Settled := by
  cases h with
  | file hmode => exact .file _ _
  | special kind => exact .special kind

/-- There is nothing to empty. -/
theorem filled_nil (h : node.Blank) : node.filled [] = node := by
  cases h with
  | file hmode => rw [filled, hmode]
  | special kind => rfl

end Node.Blank

/-- What is emptied has no data. -/
theorem Node.Settled.blank {node : Node} (h : node.Settled) : (node.filled []).Blank := by
  cases h with
  | file mode before => exact .file (plainMode_plainMode mode)
  | special kind => exact .special kind

/-- Bytes laid on nothing are contents of their own. -/
theorem Contents.overlay_nil (data : Bytes) : Contents.overlay [] 0 data = .ofBytes data := by
  cases data <;> rfl

/-! ## One more open file -/

namespace FileSystem

variable {files : FileSystem} {file : OpenFile} {id : NodeId} {node : Node} {cursor : Nat}

/-- The file system with one more open file. -/
def addOpened (files : FileSystem) (file : OpenFile) : FileSystem :=
  { files with opened := files.opened ++ [file] }

@[simp]
theorem node?_addOpened (files : FileSystem) (file : OpenFile) (id : NodeId) :
    (files.addOpened file).node? id = files.node? id :=
  rfl

@[simp]
theorem setOpened_addOpened (files : FileSystem) (file file' : OpenFile) :
    (files.addOpened file).setOpened files.opened.length file' = files.addOpened file' := by
  simp [addOpened, setOpened]

/-- The open file is live until its descriptor is closed. -/
theorem live?_addOpened (files : FileSystem) (hlive : file.live = true) :
    (files.addOpened file).live? files.opened.length = some file := by
  simp [addOpened, live?, hlive]

/-- One more open file changes nothing about where paths lead. -/
theorem Present.addOpened {path : String} (h : files.Present path id node)
    (file : OpenFile) : (files.addOpened file).Present path id node :=
  h.of_sameOutline (fun _ => rfl) h.node_eq h.sort

/-- A call on the open file finds it and its node. -/
theorem withOpened_addOpened {α : Type} (hlive : file.live = true)
    (hnode : files.node? file.node = some node)
    (use : FileSystem → OpenFile → Node → EStateM.Result Fault FileSystem α) :
    withOpened files.opened.length use (files.addOpened file) =
      use (files.addOpened file) file node := by
  simp only [withOpened, live?_addOpened files hlive, node?_addOpened, hnode]

/-- The descriptor is closed whatever it was used for. -/
theorem close_addOpened {readable writable : Bool} (hnode : files.node? id = some node)
    (hsettled : node.Settled) :
    (device files.opened.length).close (files.addOpened ⟨id, cursor, readable, writable, true⟩) =
      .ok () (files.addOpened ⟨id, cursor, readable, writable, false⟩) := by
  have hsettle : (files.addOpened ⟨id, cursor, readable, writable, false⟩).settle id =
      files.addOpened ⟨id, cursor, readable, writable, false⟩ := by
    unfold settle
    rw [node?_addOpened, hnode]
    cases hsettled <;> rfl
  simp only [device, closeFile, closeDescriptor, live?_addOpened files, Option.isSome_some,
    if_true, setOpened_addOpened, hsettle]

/-- What is measured is what the node holds. -/
theorem size_addOpened (cursor : Nat) (hnode : files.node? id = some node) :
    (device files.opened.length).size (files.addOpened ⟨id, cursor, false, true, true⟩) =
      .ok (node.contents?.map Contents.size) (files.addOpened ⟨id, cursor, false, true, true⟩) := by
  simp only [device, sizeFile]
  rw [withOpened_addOpened rfl hnode]

/-- What is written to a file without data is all that it holds.  A device takes what is written to
it and keeps nothing, but for the one that takes nothing. -/
theorem write_blank (hnode : files.node? id = some node) (hblank : node.Blank) {data : Bytes}
    (hdata : data ≠ []) :
    ∃ cursor, (device files.opened.length).write data
        (files.addOpened ⟨id, 0, false, true, true⟩) =
      if node = .special .full then
        .error (.system Errno.noSpace)
          ((files.fill id (.ofBytes data)).addOpened ⟨id, cursor, false, true, true⟩)
      else .ok () ((files.fill id (.ofBytes data)).addOpened ⟨id, cursor, false, true, true⟩) := by
  cases data with
  | nil => contradiction
  | cons byte rest =>
    simp only [device, writeFile]
    rw [withOpened_addOpened rfl hnode]
    cases hblank with
    | @file mode hmode =>
      refine ⟨(byte :: rest).length, ?_⟩
      simp only [Bool.not_true, Bool.false_eq_true, if_false, Contents.overlay_nil, Nat.zero_add,
        fill_eq_setNode hnode, reduceCtorEq]
      exact congrArg _ (setOpened_addOpened (files.setNode id _) _ _)
    | special kind =>
      have hsame : files.fill id (.ofBytes (byte :: rest)) = files := fill_eq_self hnode rfl
      refine ⟨0, ?_⟩
      rw [hsame]
      cases kind <;> rfl

end FileSystem

end FileWindow

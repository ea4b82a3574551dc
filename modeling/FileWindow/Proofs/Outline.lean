import FileWindow.FileSystem.Entry
import FileWindow.Proofs.FileStream
import FileWindow.Proofs.Meeting
import FileWindow.Proofs.Opening

/-!
# Where a path leads does not depend on data

A walk looks at directories, at links, and at the permission bits of what it comes through.  It does
not look at the data of files, nor at the bits that a file loses when its data change.  What it may
see is the outline of a file system.  Open files are used without a change to the outline, so a path
leads where it did, whatever was read and written meanwhile.

Main definitions:

- Definition Node.outline: what a walk sees of a node.
- Definition Node.shape: what it sees of a node besides permission bits.
- Definition Node.target?, Node.onward: where a link leads, and how a walk goes on from a node.
- Definitions FileSystem.SameShape and FileSystem.SameOutline: file systems that are alike in the
  one and in the other.
- Definition FileSystem.Grounded: an open file on a given node, in a file system with a given
  outline.

Main results:

- Theorem FileSystem.SameOutline.lookup_eq: a path leads to the same node.
- Theorems FileSystem.device_keeps_grounded and FileSystem.close_leads_grounded: no call of an open
  file changes the outline.
-/

namespace FileWindow

/-! ## Outlines -/

/-- The permission bits that are asked for: to read, to write and to search. -/
def accessMask : Nat := 0o777

namespace Node

/-- What a walk sees of a node: directories and links as they are, of anything else the permission
bits. -/
def outline : Node → Node
  | .file mode _ => .file (mode &&& accessMask) []
  | .fifo mode _ => .fifo mode []
  | other => other

/-- What a walk sees of a node besides its permission bits: the entries of a directory, and where a
link leads. -/
def shape : Node → Node
  | .directory _ entries => .directory 0 entries
  | .link target => .link target
  | .file _ _ | .fifo _ _ | .special _ => .special .null

@[simp]
theorem shape_outline (node : Node) : node.outline.shape = node.shape := by
  cases node <;> rfl

@[simp]
theorem entries_shape (node : Node) : node.shape.entries = node.entries := by
  cases node <;> rfl

@[simp]
theorem shape_withMode (mode : Nat) (node : Node) : (node.withMode mode).shape = node.shape := by
  cases node <;> rfl

@[simp]
theorem isDirectory_shape (node : Node) : node.shape.isDirectory = node.isDirectory := by
  cases node <;> rfl

/-- Where a link leads. -/
def target? : Option Node → Option String
  | some (.link target) => some target
  | _ => none

@[simp]
theorem target?_shape (node : Node) : target? (some node.shape) = target? (some node) := by
  cases node <;> rfl

/-- How a walk goes on from what it finds: into a directory, along a link, or not at all. -/
def onward {α : Type} (into : α) (along : String → α) (ends : α) : Option Node → α
  | some (.directory _ _) => into
  | some (.link target) => along target
  | _ => ends

@[simp]
theorem onward_shape {α : Type} (into : α) (along : String → α) (ends : α) (node : Node) :
    onward into along ends (some node.shape) = onward into along ends (some node) := by
  cases node <;> rfl

/-- What is told of a node by a part of what it is, is told alike of nodes that are alike in it. -/
theorem view_eq {α : Type} {part : Node → Node} {first second : Option Node}
    (h : first.map part = second.map part) (view : Option Node → α)
    (hview : ∀ node, view (some (part node)) = view (some node)) : view first = view second := by
  have hmapped : ∀ node? : Option Node, view (node?.map part) = view node? := by
    intro node?
    cases node? with
    | none => rfl
    | some node => exact hview node
  rw [← hmapped, h, hmapped]

/-- The outline keeps every bit that may be asked for. -/
theorem mode_outline_and (node : Node) {bit : Nat} (hbit : accessMask &&& bit = bit) :
    node.outline.mode &&& bit = node.mode &&& bit := by
  cases node with
  | file mode contents =>
    show (mode &&& accessMask) &&& bit = mode &&& bit
    rw [Nat.and_assoc, hbit]
  | directory | fifo | link | special => rfl

/-- Other data leave the outline of a file as it is. -/
theorem outline_file_plainMode (mode : Nat) (contents contents' : Contents) :
    (file (plainMode mode) contents).outline = (file mode contents').outline := by
  have hmode : plainMode mode &&& accessMask = mode &&& accessMask := by
    unfold plainMode
    split <;> rw [Nat.and_assoc] <;> rfl
  simp only [outline, hmode]

end Node

namespace FileSystem

/-- Directories have the same entries in both file systems, and links lead to the same. -/
def SameShape (files files' : FileSystem) : Prop :=
  ∀ id, (files.node? id).map Node.shape = (files'.node? id).map Node.shape

namespace SameShape

variable {files files' : FileSystem}

theorem entriesOf_eq (h : SameShape files files') (id : NodeId) :
    files.entriesOf id = files'.entriesOf id :=
  Node.view_eq (h id) (fun node? => node?.elim [] Node.entries) Node.entries_shape

theorem find_eq (h : SameShape files files') (directory : NodeId) (name : String) :
    files.find directory name = files'.find directory name := by
  rw [find, find, h.entriesOf_eq]

theorem linkAt_eq (h : SameShape files files') (directory : NodeId) (name : String) :
    files.linkAt directory name = files'.linkAt directory name := by
  rw [linkAt, linkAt, h.find_eq]
  split
  · rename_i id _
    exact Node.view_eq (h id) Node.target? Node.target?_shape
  · rfl

theorem isDirectory_eq (h : SameShape files files') (id : NodeId) :
    (files.node? id).any Node.isDirectory = (files'.node? id).any Node.isDirectory :=
  Node.view_eq (h id) (fun node? => node?.any Node.isDirectory) Node.isDirectory_shape

/-- A walk goes on alike from what it finds. -/
theorem onward_eq {α : Type} (h : SameShape files files') (into : α) (along : String → α)
    (ends : α) (id : NodeId) :
    Node.onward into along ends (files.node? id) =
      Node.onward into along ends (files'.node? id) :=
  Node.view_eq (h id) _ (Node.onward_shape into along ends)

end SameShape

/-- Walks see the same in both file systems. -/
def SameOutline (files files' : FileSystem) : Prop :=
  ∀ id, (files.node? id).map Node.outline = (files'.node? id).map Node.outline

namespace SameOutline

variable {files files' : FileSystem}

theorem refl (files : FileSystem) : SameOutline files files :=
  fun _ => rfl

theorem trans {files'' : FileSystem} (h : SameOutline files files')
    (h' : SameOutline files' files'') : SameOutline files files'' :=
  fun id => (h id).trans (h' id)

/-- A node may be put in the place of one with the same outline. -/
theorem setNode {id : NodeId} {node before : Node} (hnode : files.node? id = some before)
    (h : node.outline = before.outline) : SameOutline files (files.setNode id node) := by
  intro other
  by_cases hother : id = other
  · subst hother
    rw [hnode, node?_setNode_of_node? hnode, Option.map_some, Option.map_some, h]
  · rw [node?_setNode_ne hother]

/-- What has the same outline has the same shape. -/
theorem shape (h : SameOutline files files') : SameShape files files' := fun id =>
  Node.view_eq (h id) (fun node? => node?.map Node.shape) fun node => by
    rw [Option.map_some, Option.map_some, Node.shape_outline]

theorem grants_eq (h : SameOutline files files') (access : Access) (id : NodeId) :
    files.grants access id = files'.grants access id := by
  have hbit : accessMask &&& (if owns id then access.ownerBit else access.strangerBit) =
      if owns id then access.ownerBit else access.strangerBit := by
    cases access <;> cases owns id <;> rfl
  refine Node.view_eq (h id) (fun node? => node?.any _) fun node => ?_
  rw [Option.any_some, Option.any_some, node.mode_outline_and hbit]

theorem demand_eq (h : SameOutline files files') (access : Access) (id : NodeId) :
    files.demand access id = files'.demand access id := by
  rw [demand, demand, h.grants_eq]

theorem advance_eq (h : SameOutline files files') (follow slash : Bool) (chain : Chain)
    (names : List String) :
    files.advance follow slash chain names = files'.advance follow slash chain names := by
  induction names generalizing chain with
  | nil => rfl
  | cons name rest ih =>
    simp only [advance, ih, h.demand_eq, h.shape.linkAt_eq, h.shape.find_eq]
    refine ite_congr rfl (fun _ => rfl) fun _ => bind_congr fun _ => ?_
    refine ite_congr rfl (fun _ => rfl) fun _ => ite_congr rfl (fun _ => rfl) fun _ => ?_
    refine ite_congr rfl (fun _ => rfl) fun _ => bind_congr fun found => ?_
    cases found with
    | none => rfl
    | some id => exact h.shape.onward_eq _ _ _ id

theorem walk_eq (h : SameOutline files files') (manner : Manner) (links : Nat) (chain : Chain)
    (names : List String) (slash : Bool) :
    files.walk manner links chain names slash = files'.walk manner links chain names slash := by
  induction links generalizing chain names slash with
  | zero =>
    rw [walk, walk, h.advance_eq]
  | succ links ih =>
    rw [walk, walk, h.advance_eq]
    simp only [ih]

theorem locate_eq (h : SameOutline files files') (manner : Manner) (text : String) :
    files.locate manner text = files'.locate manner text := by
  simp only [locate, h.walk_eq]

theorem nodeAt_eq (h : SameOutline files files') (place : Place) :
    files.nodeAt place = files'.nodeAt place := by
  cases place with
  | standing chain last => rfl
  | named chain name slash => simp only [nodeAt, h.shape.find_eq]

/-- A path leads to the same node. -/
theorem lookup_eq (h : SameOutline files files') (manner : Manner) (text : String) :
    files.lookup manner text = files'.lookup manner text := by
  simp only [lookup, h.locate_eq, h.nodeAt_eq]

end SameOutline

/-! ## Using an open file -/

/-- An open file, closed or not, on the node of a number, where walks see what they see in some file
system. -/
structure Grounded (base : FileSystem) (handle : Nat) (id : NodeId) (files : FileSystem) :
    Prop where
  outline : base.SameOutline files
  node : (files.opened[handle]?).map OpenFile.node = some id

namespace Grounded

variable {base files : FileSystem} {handle : Nat} {id : NodeId}

/-- An open file may be put in the place of one on the same node. -/
theorem setOpened (h : Grounded base handle id files) {file before : OpenFile}
    (hfile : files.live? handle = some before) (hnode : file.node = before.node) :
    Grounded base handle id (files.setOpened handle file) := by
  have hbefore : files.opened[handle]? = some before := (Option.filter_eq_some_iff.mp hfile).1
  refine ⟨h.outline, ?_⟩
  have hid := h.node
  rw [hbefore] at hid
  rw [getElem?_opened_setOpened hbefore, Option.map_some, hnode]
  exact hid

/-- A node may be put in the place of one with the same outline. -/
theorem setNode (h : Grounded base handle id files) {other : NodeId} {node before : Node}
    (hnode : files.node? other = some before) (houtline : node.outline = before.outline) :
    Grounded base handle id (files.setNode other node) :=
  ⟨h.outline.trans (.setNode hnode houtline), h.node⟩

/-- The file system that a result leaves behind is grounded. -/
def Leaves {α : Type} (base : FileSystem) (handle : Nat) (id : NodeId) :
    EStateM.Result Fault FileSystem α → Prop
  | .ok _ after | .error _ after => Grounded base handle id after

/-- A call on an open file keeps what its use of the file and of the node keeps. -/
theorem leads_withOpened {α : Type}
    {use : FileSystem → OpenFile → Node → EStateM.Result Fault FileSystem α}
    (huse : ∀ files file node, files.live? handle = some file → files.node? file.node = some node →
      Grounded base handle id files → Leaves base handle id (use files file node)) :
    Call.Leads (Grounded base handle id) (Grounded base handle id) (withOpened handle use) := by
  intro files hfiles
  have hleaves : Leaves base handle id (withOpened handle use files) := by
    unfold withOpened
    split
    · exact hfiles
    · rename_i file hfile
      split
      · exact hfiles
      · rename_i node hnode
        exact huse files file node hfile hnode hfiles
  cases hresult : withOpened handle use files with
  | ok value after =>
    rw [hresult] at hleaves
    exact hleaves
  | error fault after =>
    rw [hresult] at hleaves
    exact hleaves

end Grounded

open Grounded (Leaves leads_withOpened)

/-- No call of an open file changes what walks see, nor the node that it is on. -/
theorem device_keeps_grounded (base : FileSystem) (handle : Nat) (id : NodeId) :
    (device handle).Keeps (Grounded base handle id) where
  seek target := by
    refine leads_withOpened fun files file node hfile _ h => ?_
    split
    · exact h
    · exact h
    · dsimp only
      split
      · exact h
      · exact h.setOpened hfile rfl
  size := leads_withOpened fun _ _ _ _ _ h => h
  read length := by
    refine leads_withOpened fun files file node hfile hnode h => ?_
    split
    · exact h
    · split
      · exact h.setOpened hfile rfl
      · exact h.setNode hnode rfl
      all_goals exact h
  write bytes := by
    cases bytes with
    | nil => exact fun _ h => h
    | cons byte rest =>
      refine leads_withOpened fun files file node hfile hnode h => ?_
      split
      · exact h
      · dsimp only
        split
        · rename_i mode contents
          have hwritten := h.setNode hnode (Node.outline_file_plainMode mode
            (contents.overlay file.cursor (byte :: rest)) contents)
          exact hwritten.setOpened hfile rfl
        · split
          · exact h.setNode hnode rfl
          · exact h
        all_goals exact h
  flush := fun _ h => h

/-- Nor does closing it. -/
theorem close_leads_grounded (base : FileSystem) (handle : Nat) (id : NodeId) :
    Call.Leads (Grounded base handle id) (Grounded base handle id) (device handle).close := by
  have hsettle : ∀ (files : FileSystem) (other : NodeId), Grounded base handle id files →
      Grounded base handle id (files.settle other) := by
    intro files other h
    unfold settle
    split
    · rename_i hnode
      split
      · exact h
      · exact h.setNode hnode rfl
    · exact h
  have hclose : ∀ files : FileSystem, Grounded base handle id files →
      Grounded base handle id (files.closeDescriptor handle) := by
    intro files h
    unfold closeDescriptor
    split
    · exact h
    · rename_i file hfile
      exact hsettle _ _ (h.setOpened hfile rfl)
  intro files hfiles
  simp only [device, closeFile]
  split
  · rename_i hresult
    split at hresult
    · cases hresult
      exact hclose files hfiles
    · cases hresult
  · rename_i hresult
    split at hresult
    · cases hresult
    · cases hresult
      exact hfiles

/-! ## Opening again -/

/-- What can be opened for an update is there, and may be read. -/
theorem opening_update {files opened : FileSystem} {permissions : Option Nat} {path : String}
    (h : files.opening (.output .update permissions) path = .ok opened) :
    ∃ id, files.lookup .through path = .ok id ∧ files.demand .read id = .ok () ∧
      opened = files.openNode (.output .update permissions) id := by
  simp only [opening, OpenOptions.output, Bool.false_eq_true, if_false, bind, Except.bind] at h
  cases hlookup : files.lookup .through path with
  | error fault =>
    rw [hlookup] at h
    cases h
  | ok id =>
    rw [hlookup] at h
    dsimp only at h
    refine ⟨id, rfl, ?_, openPresent_eq_ok h⟩
    unfold openPresent at h
    split at h
    · cases h
    · cases hread : files.demand .read id with
      | ok value => rfl
      | error fault =>
        simp only [hread] at h
        cases h

/-- What is there and may be read can be opened for reading. -/
theorem opening_reading {files : FileSystem} {path : String} {id : NodeId}
    (hlookup : files.lookup .through path = .ok id) (hread : files.demand .read id = .ok ()) :
    files.opening .reading path = .ok (files.openNode .reading id) := by
  have hpresent : files.openPresent .reading id = .ok (files.openNode .reading id) := by
    simp only [openPresent, OpenOptions.reading, Bool.or_self, Bool.and_false, Bool.false_eq_true,
      if_false, if_true, hread]
    rfl
  simp only [opening, hlookup, bind, Except.bind]
  exact hpresent

/-- The contents of a file that may be read are its data. -/
theorem contents_eq_ok {files : FileSystem} {path : String} {id : NodeId} {mode : Nat}
    {contents : Contents} (hlookup : files.lookup .through path = .ok id)
    (hread : files.demand .read id = .ok ()) (hnode : files.node? id = some (.file mode contents)) :
    files.contents path = .ok contents.toBytes := by
  simp only [FileSystem.contents, hlookup, hread, hnode, bind, Except.bind]
  rfl

/-- A file that was just opened is grounded in the file system as it was. -/
theorem grounded_openNode (files : FileSystem) (options : OpenOptions) (id : NodeId) :
    Grounded files files.opened.length id (files.openNode options id) :=
  ⟨.refl files, by simp [openNode]⟩

/-- What is behind an open file is what its path leads to, and what is found when the path is opened
again. -/
theorem Grounded.reopen {base files : FileSystem} {handle : Nat} {id : NodeId} {path : String}
    {data : Bytes} (h : Grounded base handle id files)
    (hlookup : base.lookup .through path = .ok id) (hread : base.demand .read id = .ok ())
    (hdata : files.dataBehind? handle = some data) :
    files.contents path = .ok data ∧ ∃ opened, files.opening .reading path = .ok opened ∧
      opened.dataBehind? files.opened.length = some data := by
  rw [h.outline.lookup_eq] at hlookup
  rw [h.outline.demand_eq] at hread
  obtain ⟨file, hfile, hid⟩ := Option.map_eq_some_iff.mp h.node
  simp only [dataBehind?, hfile, hid, Option.bind_eq_bind, Option.bind_some] at hdata
  obtain ⟨node, hnode, hcontents⟩ := Option.bind_eq_some_iff.mp hdata
  cases node with
  | file mode contents =>
    obtain rfl : contents.toBytes = data := Option.some.inj hcontents
    refine ⟨contents_eq_ok hlookup hread hnode, _, opening_reading hlookup hread, ?_⟩
    have hreopened : (files.openNode .reading id).opened[files.opened.length]? =
        some ⟨id, 0, true, false, true⟩ := by simp [openNode, OpenOptions.reading]
    have hsame : (files.openNode .reading id).node? id = some (.file mode contents) := hnode
    simp only [dataBehind?, hreopened, hsame, Node.contents?, Option.bind_eq_bind, Option.bind_some]
    rfl
  | directory | fifo | link | special => cases hcontents

end FileSystem

end FileWindow

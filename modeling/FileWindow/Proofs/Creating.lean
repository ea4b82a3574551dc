import FileWindow.Proofs.Making

/-!
# New files

A node that is made gets the next number, and a directory gets an entry for it.  A name that was
free stands for the new file afterwards, every other name stands for what it stood for, and every
node but the directory is as it was.  So nothing that a walk finds is lost, and a path that led to
the free name leads to the new file.  No change that makes entries or permission bits takes a
directory away.

Main definitions:

- Definition FileSystem.KeepsDirectories: a change after which directories are directories.

Main results:

- Theorems FileSystem.node?_create_directory, node?_create_self and node?_create_ne: the nodes after
  a free name is given to a new node.
- Theorem FileSystem.extends_create: walks find what they found.
- Theorem FileSystem.Rooted.plantAll: walks can start in every tree that is made as it is described.
-/

namespace FileWindow.FileSystem

variable {files after : FileSystem}

/-! ## Giving a free name to a new node -/

/-- A node that is made reads back by its number. -/
@[simp] theorem node?_makeNode_self (files : FileSystem) (node : Node) :
    (files.makeNode node).node? files.nextId = some node := by
  simp [makeNode, node?, nextId]

/-- Every other number is that of the node it was of. -/
theorem node?_makeNode_ne {id : NodeId} (h : id ≠ files.nextId) (node : Node) :
    (files.makeNode node).node? id = files.node? id := by
  have h : id ≠ files.nodes.length := h
  rcases Nat.lt_or_gt_of_ne h with hlt | hgt
  · simp [makeNode, node?, List.getElem?_append_left hlt]
  · have hnone : files.nodes[id]? = none := List.getElem?_eq_none (Nat.le_of_lt hgt)
    have hbeyond : (files.nodes ++ [node])[id]? = none :=
      List.getElem?_eq_none (by rw [List.length_append, List.length_singleton]; omega)
    simp [makeNode, node?, hnone, hbeyond]

/-- A node that is there has a number below the next one. -/
theorem ne_nextId_of_node? {id : NodeId} {node : Node} (h : files.node? id = some node) :
    id ≠ files.nextId := by
  obtain ⟨hlt, -⟩ := List.getElem?_eq_some_iff.mp h
  exact Nat.ne_of_lt hlt

/-- The next number is that of no node yet. -/
theorem node?_nextId (files : FileSystem) : files.node? files.nextId = none :=
  List.getElem?_eq_none (Nat.le_refl _)

/-- Entries of which none has a name are all kept when that name is taken out. -/
theorem filter_ne_of_lookup {entries : List (String × NodeId)} {name : String}
    (h : entries.lookup name = none) : (entries.filter fun entry => entry.1 != name) = entries := by
  refine List.filter_eq_self.mpr fun entry hentry => ?_
  have hne : name ≠ entry.1 := by simpa using List.lookup_eq_none_iff.mp h entry hentry
  simpa using hne.symm

/-- Behind entries of which none has a name, that name is looked up in the one that comes last. -/
theorem lookup_append_single {entries : List (String × NodeId)} {name : String}
    (h : entries.lookup name = none) (id : NodeId) (found : String) :
    (entries ++ [(name, id)]).lookup found =
      if found = name then some id else entries.lookup found := by
  rw [List.lookup_append]
  split
  · rename_i hfound
    rw [hfound, h]
    simp
  · rename_i hfound
    have hnone : List.lookup found [(name, id)] = none :=
      List.lookup_eq_none_iff.mpr (by simpa using hfound)
    rw [hnone, Option.or_none]

/-- The link that a name stands for depends on what is found, and on where links lead. -/
theorem linkAt_congr {directory : NodeId} {name : String}
    (hfind : after.find directory name = files.find directory name)
    (htarget : ∀ id, Node.target? (after.node? id) = Node.target? (files.node? id)) :
    after.linkAt directory name = files.linkAt directory name := by
  rw [linkAt, linkAt, hfind]
  split
  · exact htarget _
  · rfl

/-- A name that does not stand for a link leads to none. -/
theorem linkAt_eq_none {directory : NodeId} {name : String}
    (h : ∀ id, files.find directory name = .ok (some id) →
      Node.target? (files.node? id) = none) : files.linkAt directory name = none := by
  unfold linkAt
  split
  · rename_i id hfind
    exact h id hfind
  · rfl

section Create

variable {directory mode : NodeId} {entries : List (String × NodeId)} {name : String}
  (hdirectory : files.node? directory = some (.directory mode entries))
  (hfree : entries.lookup name = none)

include hdirectory hfree

/-- A free name stands for nothing. -/
theorem linkAt_eq_none_of_free : files.linkAt directory name = none := by
  refine linkAt_eq_none fun id hfind => ?_
  obtain ⟨mode', entries', hnode, hlookup⟩ := directory_of_find hfind
  cases hdirectory.symm.trans hnode
  cases hfree.symm.trans hlookup

/-- A new node with a free name adds one entry to the directory. -/
theorem create_eq (node : Node) :
    files.create directory name node = (files.makeNode node).setNode directory
      (.directory mode (entries ++ [(name, files.nextId)])) := by
  have hmade := (node?_makeNode_ne (ne_nextId_of_node? hdirectory) node).trans hdirectory
  simp only [create, addEntry, updateEntries, hmade, filter_ne_of_lookup hfree]

/-- The directory has one more entry. -/
theorem node?_create_directory (node : Node) :
    (files.create directory name node).node? directory =
      some (.directory mode (entries ++ [(name, files.nextId)])) := by
  have hmade := (node?_makeNode_ne (ne_nextId_of_node? hdirectory) node).trans hdirectory
  rw [create_eq hdirectory hfree]
  exact node?_setNode_of_node? hmade

/-- The new node has the next number. -/
theorem node?_create_self (node : Node) :
    (files.create directory name node).node? files.nextId = some node := by
  rw [create_eq hdirectory hfree, node?_setNode_ne (ne_nextId_of_node? hdirectory),
    node?_makeNode_self]

/-- Every other node is as it was. -/
theorem node?_create_ne (node : Node) {id : NodeId} (hdir : id ≠ directory)
    (hnew : id ≠ files.nextId) : (files.create directory name node).node? id = files.node? id := by
  rw [create_eq hdirectory hfree, node?_setNode_ne hdir.symm, node?_makeNode_ne hnew]

/-- The directory has its entries and the new one; a file has none, and the others have what they
had. -/
theorem entriesOf_create (permissions : Nat) (contents : Contents) (other : NodeId) :
    (files.create directory name (.file permissions contents)).entriesOf other =
      if other = directory then entries ++ [(name, files.nextId)] else files.entriesOf other := by
  unfold entriesOf
  split
  · rename_i hother
    rw [hother, node?_create_directory hdirectory hfree]
    rfl
  rename_i hother
  by_cases hnew : other = files.nextId
  · rw [hnew, node?_create_self hdirectory hfree, node?_nextId]
    rfl
  · rw [node?_create_ne hdirectory hfree _ hother hnew]

/-- No link is made, and none leads elsewhere. -/
theorem target?_create (permissions : Nat) (contents : Contents) (other : NodeId) :
    Node.target? ((files.create directory name (.file permissions contents)).node? other) =
      Node.target? (files.node? other) := by
  by_cases hother : other = directory
  · rw [hother, node?_create_directory hdirectory hfree, hdirectory]
    rfl
  by_cases hnew : other = files.nextId
  · rw [hnew, node?_create_self hdirectory hfree, node?_nextId]
    rfl
  · rw [node?_create_ne hdirectory hfree _ hother hnew]

/-- The free name stands for the new file. -/
theorem find_create_self (permissions : Nat) (contents : Contents) :
    (files.create directory name (.file permissions contents)).find directory name =
      (files.find directory name).map fun _ => some files.nextId := by
  unfold find
  rw [entriesOf_create hdirectory hfree, if_pos rfl, lookup_append_single hfree,
    if_pos rfl]
  split <;> rfl

/-- Every other name stands for what it stood for. -/
theorem find_create_ne (permissions : Nat) (contents : Contents) {other : NodeId} {found : String}
    (h : ¬(other = directory ∧ found = name)) :
    (files.create directory name (.file permissions contents)).find other found =
      files.find other found := by
  unfold find
  rw [entriesOf_create hdirectory hfree]
  by_cases hother : other = directory
  · subst hother
    have hentries : files.entriesOf other = entries := by
      rw [entriesOf, hdirectory]
      rfl
    rw [if_pos rfl, lookup_append_single hfree, if_neg fun hfound => h ⟨rfl, hfound⟩,
      hentries]
  · rw [if_neg hother]

/-- No name is that of another link than before. -/
theorem linkAt_create (permissions : Nat) (contents : Contents) (other : NodeId) (found : String) :
    (files.create directory name (.file permissions contents)).linkAt other found =
      files.linkAt other found := by
  by_cases h : other = directory ∧ found = name
  · obtain ⟨rfl, rfl⟩ := h
    rw [linkAt_eq_none_of_free hdirectory hfree]
    refine linkAt_eq_none fun id hfind => ?_
    rw [find_create_self hdirectory hfree] at hfind
    cases hbefore : files.find other found with
    | error fault =>
      rw [hbefore] at hfind
      cases hfind
    | ok before =>
      rw [hbefore] at hfind
      cases hfind
      rw [node?_create_self hdirectory hfree]
      rfl
  · exact linkAt_congr (find_create_ne hdirectory hfree _ _ h)
      (target?_create hdirectory hfree _ _)

/-- Nothing is lost by giving a free name to a new file. -/
theorem extends_create (permissions : Nat) (contents : Contents) :
    files.Extends (files.create directory name (.file permissions contents)) where
  find other found id hfind := by
    rw [find_create_ne hdirectory hfree, hfind]
    rintro ⟨rfl, rfl⟩
    obtain ⟨mode', entries', hnode, hlookup⟩ := directory_of_find hfind
    cases hdirectory.symm.trans hnode
    cases hfree.symm.trans hlookup
  linkAt other found := linkAt_create hdirectory hfree permissions contents other found
  search id hsearch := by
    unfold grants at hsearch ⊢
    by_cases hdir : id = directory
    · rw [hdir, node?_create_directory hdirectory hfree]
      rw [hdir, hdirectory] at hsearch
      exact hsearch
    by_cases hnew : id = files.nextId
    · rw [hnew, node?_nextId] at hsearch
      cases hsearch
    · rw [node?_create_ne hdirectory hfree _ hdir hnew]
      exact hsearch
  directory id := by
    rintro ⟨mode', entries', hnode⟩
    by_cases hdir : id = directory
    · rw [hdir]
      exact ⟨_, _, node?_create_directory hdirectory hfree _⟩
    · refine ⟨mode', entries', ?_⟩
      rw [node?_create_ne hdirectory hfree _ hdir (ne_nextId_of_node? hnode), hnode]
  link id target hnode := by
    have hdir : id ≠ directory := by
      rintro rfl
      cases hdirectory.symm.trans hnode
    rw [node?_create_ne hdirectory hfree _ hdir (ne_nextId_of_node? hnode), hnode]

end Create

/-! ## Directories that stay -/

/-- Directories are directories afterwards. -/
def KeepsDirectories (files after : FileSystem) : Prop :=
  ∀ id, files.IsDirectory id → after.IsDirectory id

/-- Walks start where they started. -/
theorem Rooted.of_keepsDirectories (h : files.Rooted) (hkeeps : files.KeepsDirectories after) :
    after.Rooted :=
  ⟨hkeeps _ h.root, hkeeps _ h.surroundings, hkeeps _ h.workplace⟩

/-- Walks can start before anything is made. -/
theorem rooted_fresh : fresh.Rooted :=
  ⟨⟨_, _, rfl⟩, ⟨_, _, rfl⟩, ⟨_, _, rfl⟩⟩

namespace KeepsDirectories

theorem trans {between : FileSystem} (h : files.KeepsDirectories between)
    (h' : between.KeepsDirectories after) : files.KeepsDirectories after :=
  fun id hid => h' id (h id hid)

/-- A node may be changed if a directory stays one. -/
theorem setNode {id : NodeId} {node : Node}
    (hnode : files.IsDirectory id → ∃ mode entries, node = .directory mode entries) :
    files.KeepsDirectories (files.setNode id node) := by
  rintro other ⟨mode, entries, hother⟩
  by_cases hsame : id = other
  · subst hsame
    obtain ⟨mode', entries', rfl⟩ := hnode ⟨mode, entries, hother⟩
    exact ⟨mode', entries', node?_setNode_of_node? hother⟩
  · exact ⟨mode, entries, (node?_setNode_ne hsame node).trans hother⟩

/-- A node may be made and get any name. -/
theorem create (directory : NodeId) (name : String) (node : Node) :
    files.KeepsDirectories (files.create directory name node) := by
  have hmade : files.KeepsDirectories (files.makeNode node) := by
    rintro id ⟨mode, entries, hid⟩
    exact ⟨mode, entries, (node?_makeNode_ne (ne_nextId_of_node? hid) node).trans hid⟩
  refine hmade.trans ?_
  unfold FileSystem.create addEntry updateEntries
  split
  · exact setNode fun _ => ⟨_, _, rfl⟩
  · exact fun id hid => hid

end KeepsDirectories

/-- An entry that is made as it is described takes no directory away. -/
theorem keepsDirectories_of_plant {text : String} {node : Node}
    (h : files.plant text node = .ok after) : files.KeepsDirectories after := by
  obtain ⟨place, -, h⟩ := bind_eq_ok_iff.mp h
  cases place with
  | standing chain last => cases h
  | named chain name slash =>
    obtain ⟨found, -, h⟩ := bind_eq_ok_iff.mp h
    cases found with
    | none =>
      cases h
      exact .create _ _ _
    | some id =>
      dsimp only at h
      split at h
      · rename_i mode contents mode' contents' hnode hmasked
        cases h
        refine .setNode ?_
        rintro ⟨mode, entries, hdirectory⟩
        cases hdirectory.symm.trans hnode
      · cases h

/-- Nor do other permission bits. -/
theorem keepsDirectories_of_changeMode {text : String} {mode : Nat}
    (h : files.changeMode text mode = .ok after) : files.KeepsDirectories after := by
  obtain ⟨id, node, -, -, hnode, rfl⟩ := changeMode_eq_ok_iff.mp h
  refine .setNode ?_
  rintro ⟨mode', entries, hdirectory⟩
  cases hdirectory.symm.trans hnode
  exact ⟨_, _, rfl⟩

/-- Changes made one after the other leave walks where they start if each of them does. -/
theorem Rooted.foldlM {change : FileSystem → α → Except Fault FileSystem}
    (hchange : ∀ files entry after, change files entry = .ok after → files.KeepsDirectories after)
    {entries : List α} (hrooted : files.Rooted) (h : entries.foldlM change files = .ok after) :
    after.Rooted := by
  induction entries generalizing files with
  | nil =>
    cases h
    exact hrooted
  | cons entry rest ih =>
    rw [List.foldlM_cons] at h
    obtain ⟨between, hentry, h⟩ := bind_eq_ok_iff.mp h
    exact ih (hrooted.of_keepsDirectories (hchange _ _ _ hentry)) h

/-- Walks can start in every tree that is made as it is described. -/
theorem Rooted.plantAll {entries : List (String × Node)} (hrooted : files.Rooted)
    (h : files.plantAll entries = .ok after) : after.Rooted := by
  obtain ⟨planted, hplanted, h⟩ := bind_eq_ok_iff.mp h
  refine (hrooted.foldlM (fun _ _ _ => keepsDirectories_of_plant) hplanted).foldlM ?_ h
  rintro files entry after hmode
  split at hmode
  · exact keepsDirectories_of_changeMode hmode
  · cases hmode
    exact fun id hid => hid

end FileWindow.FileSystem

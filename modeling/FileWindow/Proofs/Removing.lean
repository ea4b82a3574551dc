import FileWindow.FileResource
import FileWindow.Proofs.Outline
import FileWindow.Proofs.Rows

/-!
# Removing files

A file that cannot be removed is made writable, and its removal is tried again.  What is made
writable is the node that the path leads to, links followed, be it a file, a directory, or what a
link names.  Its new bits do not let its owner search it, so whatever is found on a walk afterwards
was found before.  The second try never succeeds where the first one failed, and the new bits stay.

Main definitions:

- Definition AnswersAs: a result that answers only as another does.
- Definition FileSystem.Narrows: a file system in which less may be searched.
- Definition FileSystem.LosesEntry: the entry that a path ends in is gone, and nothing else.
- Definition FileSystem.TakesMode: what a path leads to has other bits, and nothing else.

Main results:

- Theorem FileSystem.remove_eq_ok_iff: what is removed, and from where.
- Theorem FileSystem.Narrows.remove_answers: what can still be removed could be removed before.
- Theorem FileTask.removes_entry_or_makes_writable: the two ways in which a removal can go.
-/

namespace FileWindow

variable {ε ρ α β : Type}

/-! ## Results that answer as others -/

/-- Two results in a row answer where the first one answers, and the next one on its answer. -/
theorem bind_eq_ok_iff {result : Except ε α} {next : α → Except ε β} {answer : β} :
    (result >>= next) = .ok answer ↔ ∃ value, result = .ok value ∧ next value = .ok answer := by
  constructor
  · intro h
    cases result with
    | error fault => cases h
    | ok value => exact ⟨value, rfl, h⟩
  · rintro ⟨value, rfl, h⟩
    exact h

/-- A result answers only as another does, and with answers of some sort. -/
def AnswersAs (sort : α → Prop) (result other : Except Fault α) : Prop :=
  ∀ value, result = .ok value → other = .ok value ∧ sort value

namespace AnswersAs

variable {sort : α → Prop} {result other : Except Fault α}

theorem ok {value : α} (h : sort value) : AnswersAs sort (.ok value) (.ok value) := by
  rintro _ ⟨⟩
  exact ⟨rfl, h⟩

theorem error (fault : Fault) (other : Except Fault α) : AnswersAs sort (.error fault) other := by
  rintro _ ⟨⟩

theorem refl (result : Except Fault α) : AnswersAs (fun _ => True) result result :=
  fun _ h => ⟨h, trivial⟩

theorem bind {sort' : β → Prop} {next next' : α → Except Fault β} (h : AnswersAs sort result other)
    (hnext : ∀ value, sort value → AnswersAs sort' (next value) (next' value)) :
    AnswersAs sort' (result >>= next) (other >>= next') := by
  intro answer hanswer
  obtain ⟨value, hresult, hanswer⟩ := bind_eq_ok_iff.mp hanswer
  obtain ⟨hother, hvalue⟩ := h value hresult
  obtain ⟨hanswer', hsort⟩ := hnext value hvalue answer hanswer
  exact ⟨bind_eq_ok_iff.mpr ⟨value, hother, hanswer'⟩, hsort⟩

theorem ite {condition : Prop} [Decidable condition] {result' other' : Except Fault α}
    (hthen : AnswersAs sort result other) (helse : AnswersAs sort result' other') :
    AnswersAs sort (if condition then result else result')
      (if condition then other else other') := by
  split
  · exact hthen
  · exact helse

end AnswersAs

/-! ## Walks through fewer directories -/

namespace FileSystem

/-- Directories and links are the same in another file system, and any node that may be searched
there is the same altogether. -/
structure Narrows (files narrowed : FileSystem) : Prop where
  shape : files.SameShape narrowed
  searched : ∀ id, narrowed.grants .search id = true → narrowed.node? id = files.node? id

/-- A place that names something does so in a directory that may be searched. -/
def SearchedAt (files : FileSystem) : Place → Prop
  | .standing _ _ => True
  | .named chain _ _ => files.grants .search chain.innermost = true

/-- The place at which a walk has arrived, if it has, is one in a directory that may be searched. -/
def SearchedOn (files : FileSystem) : Progress → Prop
  | .arrived place => files.SearchedAt place
  | .meets _ _ _ => True

namespace Narrows

variable {files narrowed : FileSystem}

/-- What may still be searched allows what it allowed before. -/
theorem grants_eq (h : Narrows files narrowed) {id : NodeId}
    (hsearch : narrowed.grants .search id = true) (access : Access) :
    narrowed.grants access id = files.grants access id := by
  rw [grants, grants, h.searched id hsearch]

theorem demand_answers (h : Narrows files narrowed) (id : NodeId) :
    AnswersAs (fun _ => narrowed.grants .search id = true) (narrowed.demand .search id)
      (files.demand .search id) := by
  intro value hdemand
  have hsearch := demand_eq_ok_iff.mp hdemand
  exact ⟨demand_eq_ok_iff.mpr (h.grants_eq hsearch .search ▸ hsearch), hsearch⟩

theorem advance_answers (h : Narrows files narrowed) (follow slash : Bool) (chain : Chain)
    (names : List String) :
    AnswersAs narrowed.SearchedOn (narrowed.advance follow slash chain names)
      (files.advance follow slash chain names) := by
  induction names generalizing chain with
  | nil => exact .ok trivial
  | cons name rest ih =>
    simp only [advance, h.shape.linkAt_eq, h.shape.find_eq]
    refine .ite (ih chain) ((h.demand_answers chain.innermost).bind fun _ hsearch => ?_)
    refine .ite (ih chain) (.ite (.ite (.ok trivial) (ih chain.up)) (.ite ?_ ?_))
    · -- the last name
      cases narrowed.linkAt chain.innermost name with
      | none => exact .ok hsearch
      | some target => exact .ite (.ok trivial) (.ok hsearch)
    · -- a name on the way
      refine (AnswersAs.refl _).bind fun found _ => ?_
      cases found with
      | none => exact .error _ _
      | some id =>
        have honward := h.shape.onward_eq (files.advance follow slash (id :: chain) rest)
          (fun target => .ok (.meets chain target rest)) (.error (.system Errno.notDirectory)) id
        change AnswersAs _ (Node.onward _ _ _ (narrowed.node? id))
          (Node.onward _ _ _ (files.node? id))
        rw [honward]
        unfold Node.onward
        split
        · exact ih (id :: chain)
        · exact .ok trivial
        · exact .error _ _

theorem walk_answers (h : Narrows files narrowed) (manner : Manner) (links : Nat) (chain : Chain)
    (names : List String) (slash : Bool) :
    AnswersAs narrowed.SearchedAt (narrowed.walk manner links chain names slash)
      (files.walk manner links chain names slash) := by
  induction links generalizing chain names slash with
  | zero =>
    rw [walk, walk]
    refine (h.advance_answers _ _ _ _).bind fun progress hprogress => ?_
    cases progress with
    | arrived place => exact .ok hprogress
    | meets chain target rest => exact .error _ _
  | succ links ih =>
    rw [walk, walk]
    refine (h.advance_answers _ _ _ _).bind fun progress hprogress => ?_
    cases progress with
    | arrived place => exact .ok hprogress
    | meets chain target rest => exact ih _ _ _

theorem locate_answers (h : Narrows files narrowed) (manner : Manner) (text : String) :
    AnswersAs narrowed.SearchedAt (narrowed.locate manner text) (files.locate manner text) :=
  (AnswersAs.refl _).bind fun _ _ => h.walk_answers _ _ _ _ _

end Narrows

/-! ## Removals -/

variable {files after : FileSystem} {path : String}

/-- What a name stands for is an entry of a directory. -/
theorem directory_of_find {directory id : NodeId} {name : String}
    (h : files.find directory name = .ok (some id)) :
    ∃ mode entries, files.node? directory = some (.directory mode entries) ∧
      entries.lookup name = some id := by
  unfold find at h
  split at h
  · cases h
  · have hlookup := Except.ok.inj h
    unfold entriesOf at hlookup
    cases hnode : files.node? directory with
    | none =>
      rw [hnode] at hlookup
      cases hlookup
    | some node =>
      rw [hnode] at hlookup
      cases node with
      | directory mode entries => exact ⟨mode, entries, rfl, hlookup⟩
      | file | fifo | link | special => cases hlookup

/-- A name is taken away where it stands for anything but a directory, no slash is behind it, and
its directory may be changed. -/
theorem removeAt_eq_ok_iff {place : Place} :
    files.removeAt place = .ok after ↔
      ∃ chain name id, place = .named chain name false ∧
        files.find chain.innermost name = .ok (some id) ∧
        (files.node? id).any Node.isDirectory = false ∧
        files.grants .write chain.innermost = true ∧
        after = files.removeEntry chain.innermost name := by
  constructor
  · intro h
    cases place with
    | standing chain last => cases h
    | named chain name slash =>
      obtain ⟨found, hfind, h⟩ := bind_eq_ok_iff.mp h
      cases found with
      | none => cases h
      | some id =>
        dsimp only at h
        by_cases hdirectory : (files.node? id).any Node.isDirectory = true
        · rw [if_pos hdirectory] at h
          cases h
        · rw [if_neg hdirectory] at h
          cases slash with
          | true => cases h
          | false =>
            obtain ⟨_, hwrite, h⟩ := bind_eq_ok_iff.mp h
            exact ⟨chain, name, id, rfl, hfind, Bool.eq_false_iff.mpr hdirectory,
              demand_eq_ok_iff.mp hwrite, (Except.ok.inj h).symm⟩
  · rintro ⟨chain, name, id, rfl, hfind, hdirectory, hwrite, rfl⟩
    simp only [removeAt, hfind, hdirectory, demand_eq_ok_iff.mpr hwrite, bind, Except.bind]
    rfl

/-- The entry that a path ends in, a link itself and not what it leads to, is taken away if it is
not a directory and its directory may be changed. -/
theorem remove_eq_ok_iff :
    files.remove path = .ok after ↔
      ∃ chain name id, files.locate .entry path = .ok (.named chain name false) ∧
        files.find chain.innermost name = .ok (some id) ∧
        (files.node? id).any Node.isDirectory = false ∧
        files.grants .write chain.innermost = true ∧
        after = files.removeEntry chain.innermost name := by
  constructor
  · intro h
    obtain ⟨place, hplace, h⟩ := bind_eq_ok_iff.mp h
    obtain ⟨chain, name, id, rfl, hremoved⟩ := removeAt_eq_ok_iff.mp h
    exact ⟨chain, name, id, hplace, hremoved⟩
  · rintro ⟨chain, name, id, hplace, hremoved⟩
    exact bind_eq_ok_iff.mpr
      ⟨_, hplace, removeAt_eq_ok_iff.mpr ⟨chain, name, id, rfl, hremoved⟩⟩

/-- What can still be removed where less can be searched could be removed before. -/
theorem Narrows.remove_answers {narrowed : FileSystem} (h : Narrows files narrowed)
    (hafter : narrowed.remove path = .ok after) : ∃ before, files.remove path = .ok before := by
  obtain ⟨chain, name, id, hplace, hfind, hdirectory, hwrite, -⟩ := remove_eq_ok_iff.mp hafter
  obtain ⟨hplace, hsearch⟩ := h.locate_answers _ _ _ hplace
  rw [← h.shape.find_eq] at hfind
  rw [← h.shape.isDirectory_eq] at hdirectory
  rw [h.grants_eq hsearch] at hwrite
  exact ⟨_, remove_eq_ok_iff.mpr ⟨chain, name, id, hplace, hfind, hdirectory, hwrite, rfl⟩⟩

/-- The entry that a path ends in is gone: a name in a directory, for anything but a directory.  The
directory has its other entries and its permission bits, and every other node, the one that had the
name included, is as it was. -/
def LosesEntry (path : String) (files after : FileSystem) : Prop :=
  ∃ chain name id mode entries,
    files.locate .entry path = .ok (.named chain name false) ∧
    files.node? chain.innermost = some (.directory mode entries) ∧
    entries.lookup name = some id ∧
    (files.node? id).any Node.isDirectory = false ∧
    after.node? chain.innermost =
      some (.directory mode (entries.filter fun entry => entry.1 != name)) ∧
    (∀ other, other ≠ chain.innermost → after.node? other = files.node? other) ∧
    after.opened = files.opened

/-- A removal takes away the entry that its path ends in, and nothing else. -/
theorem losesEntry_of_remove (h : files.remove path = .ok after) : LosesEntry path files after := by
  obtain ⟨chain, name, id, hplace, hfind, hdirectory, -, rfl⟩ := remove_eq_ok_iff.mp h
  obtain ⟨mode, entries, hnode, hlookup⟩ := directory_of_find hfind
  have hafter : files.removeEntry chain.innermost name = files.setNode chain.innermost
      (.directory mode (entries.filter fun entry => entry.1 != name)) := by
    rw [removeEntry, updateEntries, hnode]
  rw [hafter]
  refine ⟨chain, name, id, mode, entries, hplace, hnode, hlookup, hdirectory,
    node?_setNode_of_node? hnode, fun other hother => ?_, rfl⟩
  exact node?_setNode_ne (Ne.symm hother) _

/-! ## Changes of permission bits -/

/-- What a path leads to has been given permission bits, if its owner asks.  Every other node is as
it was, and so is what else there is to the node. -/
structure TakesMode (path : String) (mode : Nat) (files after : FileSystem) : Prop where
  changed : ∀ id, files.lookup .through path = .ok id → owns id = true →
    after.node? id = (files.node? id).map (Node.withMode mode)
  kept : ∀ id, ¬ (files.lookup .through path = .ok id ∧ owns id = true) →
    after.node? id = files.node? id
  opened : after.opened = files.opened

/-- The owner of what a path leads to may give it other permission bits. -/
theorem changeMode_eq_ok_iff {mode : Nat} :
    files.changeMode path mode = .ok after ↔
      ∃ id node, files.lookup .through path = .ok id ∧ owns id = true ∧
        files.node? id = some node ∧
        after = files.setNode id (node.withMode (mode &&& permissionMask)) := by
  constructor
  · intro h
    obtain ⟨id, hlookup, h⟩ := bind_eq_ok_iff.mp h
    cases howns : owns id with
    | false =>
      rw [howns] at h
      cases h
    | true =>
      rw [howns] at h
      cases hnode : files.node? id with
      | none =>
        rw [hnode] at h
        cases h
      | some node =>
        rw [hnode] at h
        exact ⟨id, node, hlookup, howns, hnode, (Except.ok.inj h).symm⟩
  · rintro ⟨id, node, hlookup, howns, hnode, rfl⟩
    refine bind_eq_ok_iff.mpr ⟨id, hlookup, ?_⟩
    rw [howns, hnode]
    rfl

theorem takesMode_of_ok {mode : Nat} (h : files.changeMode path mode = .ok after) :
    TakesMode path (mode &&& permissionMask) files after := by
  obtain ⟨id, node, hlookup, howns, hnode, rfl⟩ := changeMode_eq_ok_iff.mp h
  refine ⟨fun other hother _ => ?_, fun other hother => node?_setNode_ne ?_ _, rfl⟩
  · obtain rfl : id = other := Except.ok.inj (hlookup.symm.trans hother)
    rw [node?_setNode_of_node? hnode, hnode, Option.map_some]
  · rintro rfl
    exact hother ⟨hlookup, howns⟩

/-- A refused change leaves nothing that should have been changed. -/
theorem takesMode_of_error {mode : Nat} {fault : Fault}
    (h : files.changeMode path mode = .error fault) :
    TakesMode path (mode &&& permissionMask) files files := by
  refine ⟨fun id hlookup howns => ?_, fun _ _ => rfl, rfl⟩
  cases hnode : files.node? id with
  | none => rfl
  | some node =>
    have hok : files.changeMode path mode = .ok _ :=
      changeMode_eq_ok_iff.mpr ⟨id, node, hlookup, howns, hnode, rfl⟩
    rw [h] at hok
    cases hok

/-- A node either has no bits of its own, and keeps what it has, or it has the bits that it is
given. -/
theorem withMode_eq_or_mode_withMode (node : Node) (mode : Nat) :
    node.withMode mode = node ∨ (node.withMode mode).mode = mode := by
  cases node with
  | file | directory | fifo => exact .inr rfl
  | link | special => exact .inl rfl

/-- With bits that do not let its owner search a node, a file system is only narrower. -/
theorem narrows_of_changeMode {mode : Nat} (hmode : mode &&& Access.search.ownerBit = 0)
    (h : files.changeMode path mode = .ok after) : Narrows files after := by
  obtain ⟨id, node, -, howns, hnode, rfl⟩ := changeMode_eq_ok_iff.mp h
  constructor
  · intro other
    by_cases hother : id = other
    · subst hother
      rw [node?_setNode_of_node? hnode, hnode, Option.map_some, Option.map_some,
        Node.shape_withMode]
    · rw [node?_setNode_ne hother]
  · intro other hsearch
    by_cases hother : id = other
    · subst hother
      rw [node?_setNode_of_node? hnode, hnode]
      rcases withMode_eq_or_mode_withMode node (mode &&& permissionMask) with hsame | hset
      · rw [hsame]
      · rw [grants, node?_setNode_of_node? hnode, Option.any_some, hset, howns, if_pos rfl,
          Nat.and_assoc, Nat.and_comm permissionMask, ← Nat.and_assoc, hmode] at hsearch
        cases hsearch
    · exact node?_setNode_ne hother _

end FileSystem

/-! ## Removing in one go -/

namespace FileTask

open FileSystem (LosesEntry TakesMode narrows_of_changeMode)
open FileWindow.Action (bind_of_ok)

variable {frame after : Frame ρ FileSystem} {path : String}

/-- A change that is made is made within the task. -/
theorem succeeds_of_ok {change : FileSystem → Except Fault FileSystem} {files : FileSystem}
    (h : change frame.world = .ok files) :
    (succeeds change : Action ε ρ FileSystem Bool) frame =
      .ok true { frame with world := files } := by
  have hattempt : (Action.attempt (.update change) : Action ε ρ FileSystem (Except Fault Unit))
      frame = .ok (.ok ()) { frame with world := files } := by
    simp only [Action.attempt, Call.update, h]
  rw [succeeds, bind_of_ok hattempt]
  rfl

/-- A change that is refused changes nothing. -/
theorem succeeds_of_error {change : FileSystem → Except Fault FileSystem} {fault : Fault}
    (h : change frame.world = .error fault) :
    (succeeds change : Action ε ρ FileSystem Bool) frame = .ok false frame := by
  have hattempt : (Action.attempt (.update change) : Action ε ρ FileSystem (Except Fault Unit))
      frame = .ok (.error fault) frame := by
    simp only [Action.attempt, Call.update, h]
  rw [succeeds, bind_of_ok hattempt]
  rfl

theorem removeQuietly_of_ok {files : FileSystem} (h : frame.world.remove path = .ok files) :
    (removeQuietly path : Action ε ρ FileSystem Bool) frame =
      .ok true { frame with world := files } := by
  rw [removeQuietly, bind_of_ok (succeeds_of_ok h)]
  rfl

/-- What is left where a path cannot be removed: what it leads to is writable, if that may be. -/
def madeWritable (path : String) (files : FileSystem) : FileSystem :=
  match files.changeMode path writablePermissions with
  | .ok changed => changed
  | .error _ => files

theorem takesMode_madeWritable (path : String) (files : FileSystem) :
    TakesMode path writablePermissions files (madeWritable path files) := by
  unfold madeWritable
  split
  · rename_i changed hmode
    exact FileSystem.takesMode_of_ok hmode
  · rename_i refusal hmode
    exact FileSystem.takesMode_of_error hmode

/-- Where the first try fails, so does the second one, if there is one. -/
theorem removeQuietly_of_error {fault : Fault} (h : frame.world.remove path = .error fault) :
    (removeQuietly path : Action ε ρ FileSystem Bool) frame =
      .ok false ⟨frame.book, madeWritable path frame.world, .notRemoved path :: frame.journal⟩ := by
  rw [removeQuietly, bind_of_ok (succeeds_of_error h), if_neg Bool.false_ne_true, madeWritable]
  cases hmode : frame.world.changeMode path writablePermissions with
  | error refusal =>
    rw [bind_of_ok (succeeds_of_error hmode)]
    rfl
  | ok changed =>
    have hagain : ∃ refusal, changed.remove path = .error refusal := by
      cases hremove : changed.remove path with
      | error refusal => exact ⟨refusal, rfl⟩
      | ok gone =>
        obtain ⟨before, hbefore⟩ := (narrows_of_changeMode rfl hmode).remove_answers hremove
        rw [h] at hbefore
        cases hbefore
    obtain ⟨refusal, hrefusal⟩ := hagain
    rw [bind_of_ok (succeeds_of_ok hmode), if_pos rfl, bind_of_ok (succeeds_of_error hrefusal)]
    rfl

theorem remove_of_true
    (h : (removeQuietly path : Action FileError ρ FileSystem Bool) frame = .ok true after) :
    remove path frame = .ok () after := by
  rw [remove, bind_of_ok h]
  rfl

theorem remove_of_false
    (h : (removeQuietly path : Action FileError ρ FileSystem Bool) frame = .ok false after) :
    remove path frame =
      .error (.failed (.ofFault path .unlink (obstacle path after.world))) after := by
  rw [remove, bind_of_ok h]
  exact Action.call_of_error path .unlink rfl

/-- A removal goes one of two ways, and asking for it quietly goes the same way.  Where the entry
that the path ends in can be removed, it is, and nothing else changes.  Where it cannot be removed
the failure is told, and nothing has changed but for the permission bits of what the path leads to:
its owner has made it writable for all. -/
theorem removes_entry_or_makes_writable (path : String) (frame : Frame ρ FileSystem) :
    (∃ files, frame.world.remove path = .ok files ∧ LosesEntry path frame.world files ∧
      (removeQuietly path : Action ε ρ FileSystem Bool) frame =
        .ok true { frame with world := files } ∧
      remove path frame = .ok () { frame with world := files }) ∨
    (∃ refusal files, frame.world.remove path = .error refusal ∧
      TakesMode path writablePermissions frame.world files ∧
      (removeQuietly path : Action ε ρ FileSystem Bool) frame =
        .ok false ⟨frame.book, files, .notRemoved path :: frame.journal⟩ ∧
      remove path frame = .error (.failed (.ofFault path .unlink (obstacle path files)))
        ⟨frame.book, files, .notRemoved path :: frame.journal⟩) := by
  cases hremove : frame.world.remove path with
  | ok files =>
    exact .inl ⟨files, rfl, FileSystem.losesEntry_of_remove hremove, removeQuietly_of_ok hremove,
      remove_of_true (removeQuietly_of_ok hremove)⟩
  | error refusal =>
    have htold := remove_of_false (removeQuietly_of_error hremove)
    exact .inr ⟨refusal, madeWritable path frame.world, rfl,
      takesMode_madeWritable path frame.world, removeQuietly_of_error hremove, htold⟩

/-- A file system with a directory in which there is nothing. -/
def withDirectory : FileSystem :=
  FileSystem.fresh.create FileSystem.workplace "d" (.directory 0o755 [])

/-- A directory is not removed, and loses the bits by which it could be searched. -/
theorem directory_made_writable :
    remove "d" ⟨(), withDirectory, []⟩ =
        .error (.failed (.failed "d" "unlink error" (some Errno.accessDenied)))
          ⟨(), withDirectory.setNode 7 (.directory 0o666 []), [.notRemoved "d"]⟩ ∧
      withDirectory.node? 7 = some (.directory 0o755 []) ∧
      (withDirectory.setNode 7 (.directory 0o666 [])).node? 7 =
        some (.directory 0o666 []) := by
  have hrefused : (withDirectory.remove "d").toOption = none := by decide +kernel
  have hafter : madeWritable "d" withDirectory =
      withDirectory.setNode 7 (.directory 0o666 []) := by decide +kernel
  have hobstacle : obstacle "d" (withDirectory.setNode 7 (.directory 0o666 [])) =
      .system Errno.accessDenied := by decide +kernel
  refine ⟨?_, rfl, rfl⟩
  cases hremove : withDirectory.remove "d" with
  | ok gone =>
    rw [hremove] at hrefused
    cases hrefused
  | error refusal =>
    rw [remove_of_false (removeQuietly_of_error hremove), hafter, hobstacle]
    rfl

end FileTask

end FileWindow

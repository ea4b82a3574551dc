import FileWindow.Proofs.Removing

/-!
# Walks to a file that may be made

A file that may have to be made is looked for in a manner of its own: a slash behind its name is
kept apart and refuses it, and its name need not be there.  Where such a walk ends at a name without
a slash, the path leads to that very name, in a directory that is there.  A walk that came to its
end comes to it again where nothing that it found was lost.

Main definitions:

- Definition FileSystem.Rooted: the directories at which walks start are there.
- Definition FileSystem.Extends: a file system in which walks find what they found before.
- Definition Path.Padded: names with steps between them that lead nowhere.

Main results:

- Theorem FileSystem.onDirectories_of_locate: a walk comes through directories.
- Theorem FileSystem.Extends.locate_answers: a walk that came to its end comes to it again.
- Theorem FileSystem.through_of_making: a path leads to the name at which a file may be made.
-/

namespace FileWindow

variable {α β : Type}

namespace FileSystem

variable {files after : FileSystem}

/-! ## Directories on the way -/

/-- The node of a number is a directory. -/
def IsDirectory (files : FileSystem) (id : NodeId) : Prop :=
  ∃ mode entries, files.node? id = some (.directory mode entries)

/-- The directories at which walks start are there. -/
structure Rooted (files : FileSystem) : Prop where
  root : files.IsDirectory root
  surroundings : files.IsDirectory surroundings
  workplace : files.IsDirectory workplace

/-- All numbers of a chain are those of directories. -/
def OnDirectories (files : FileSystem) (chain : Chain) : Prop :=
  ∀ id ∈ chain, files.IsDirectory id

/-- The chain to which a walk has come without following a link. -/
def Progress.chain : Progress → Chain
  | .arrived place => place.way
  | .meets chain _ _ => chain

namespace OnDirectories

variable {chain : Chain}

theorem up (h : files.OnDirectories chain) : files.OnDirectories chain.up :=
  fun id hid => h id (List.mem_of_mem_tail hid)

/-- A walk stands in a directory. -/
theorem innermost (hrooted : files.Rooted) (h : files.OnDirectories chain) :
    files.IsDirectory chain.innermost := by
  cases chain with
  | nil => exact hrooted.root
  | cons id rest => exact h id (List.mem_cons_self ..)

/-- Without following a link a walk goes on from directory to directory. -/
theorem advance (h : files.OnDirectories chain) {follow slash : Bool} {names : List String}
    {progress : Progress} (hadvance : files.advance follow slash chain names = .ok progress) :
    files.OnDirectories (Progress.chain progress) := by
  induction names generalizing chain with
  | nil =>
    cases hadvance
    exact h
  | cons name rest ih =>
    unfold FileSystem.advance at hadvance
    split at hadvance
    · exact ih h hadvance
    obtain ⟨-, -, hadvance⟩ := bind_eq_ok_iff.mp hadvance
    split at hadvance
    · exact ih h hadvance
    split at hadvance
    · split at hadvance
      · cases hadvance
        exact h
      · exact ih h.up hadvance
    split at hadvance
    · -- The walk stays where it is, at its last name.
      split at hadvance
      · split at hadvance
        · cases hadvance
          exact h
        · cases hadvance
          exact h
      · cases hadvance
        exact h
    obtain ⟨found, -, hadvance⟩ := bind_eq_ok_iff.mp hadvance
    cases found with
    | none => cases hadvance
    | some id =>
      dsimp only at hadvance
      split at hadvance
      · rename_i mode entries hnode
        refine ih ?_ hadvance
        rintro other (_ | ⟨_, hother⟩)
        · exact ⟨mode, entries, hnode⟩
        · exact h other hother
      · cases hadvance
        exact h
      · cases hadvance

theorem start (h : files.OnDirectories chain) (path : Path) :
    files.OnDirectories (FileSystem.start chain path) := by
  unfold FileSystem.start
  split
  · rintro id ⟨⟩
  · exact h

/-- A walk goes on from directory to directory. -/
theorem walk (h : files.OnDirectories chain) {manner : Manner} {links : Nat} {names : List String}
    {slash : Bool} {place : Place}
    (hwalk : files.walk manner links chain names slash = .ok place) :
    files.OnDirectories place.way := by
  induction links generalizing chain names slash with
  | zero =>
    rw [FileSystem.walk] at hwalk
    obtain ⟨progress, hadvance, hwalk⟩ := bind_eq_ok_iff.mp hwalk
    have hchain := h.advance hadvance
    cases progress with
    | arrived place' =>
      cases hwalk
      exact hchain
    | meets chain target rest => cases hwalk
  | succ links ih =>
    rw [FileSystem.walk] at hwalk
    obtain ⟨progress, hadvance, hwalk⟩ := bind_eq_ok_iff.mp hwalk
    have hchain := h.advance hadvance
    cases progress with
    | arrived place' =>
      cases hwalk
      exact hchain
    | meets chain' target rest =>
      have hchain : files.OnDirectories chain' := hchain
      exact ih (hchain.start _) hwalk

end OnDirectories

/-- Wherever a path leads, the way there is through directories. -/
theorem onDirectories_of_locate (hrooted : files.Rooted) {manner : Manner} {text : String}
    {place : Place} (h : files.locate manner text = .ok place) :
    files.OnDirectories place.way := by
  obtain ⟨path, -, h⟩ := bind_eq_ok_iff.mp h
  have hstart : files.OnDirectories wayToWorkplace := by
    rintro id (_ | ⟨_, _ | ⟨_, ⟨⟩⟩⟩)
    · exact hrooted.workplace
    · exact hrooted.surroundings
  exact (hstart.start path).walk h

/-! ## Walks that find what they found before -/

/-- Every name that stood for a node stands for it still, what could be searched can be, directories
are directories, and links lead where they led. -/
structure Extends (files after : FileSystem) : Prop where
  find : ∀ directory name id, files.find directory name = .ok (some id) →
    after.find directory name = .ok (some id)
  linkAt : ∀ directory name, after.linkAt directory name = files.linkAt directory name
  search : ∀ id, files.grants .search id = true → after.grants .search id = true
  directory : ∀ id, files.IsDirectory id → after.IsDirectory id
  link : ∀ id target, files.node? id = some (.link target) →
    after.node? id = some (.link target)

namespace Extends

theorem demand_answers (h : files.Extends after) (id : NodeId) :
    AnswersAs (fun _ => True) (files.demand .search id) (after.demand .search id) := by
  intro value hdemand
  exact ⟨demand_eq_ok_iff.mpr (h.search id (demand_eq_ok_iff.mp hdemand)), trivial⟩

theorem advance_answers (h : files.Extends after) (follow slash : Bool) (chain : Chain)
    (names : List String) :
    AnswersAs (fun _ => True) (files.advance follow slash chain names)
      (after.advance follow slash chain names) := by
  induction names generalizing chain with
  | nil => exact .ok trivial
  | cons name rest ih =>
    simp only [advance, h.linkAt]
    refine .ite (ih chain) ((h.demand_answers chain.innermost).bind fun _ _ => ?_)
    refine .ite (ih chain) (.ite (.ite (.ok trivial) (ih chain.up)) (.ite ?_ ?_))
    · cases files.linkAt chain.innermost name with
      | none => exact .ok trivial
      | some target => exact .ite (.ok trivial) (.ok trivial)
    · -- A name on the way that was not there kept the walk from its end.
      intro progress hprogress
      obtain ⟨found, hfind, hprogress⟩ := bind_eq_ok_iff.mp hprogress
      cases found with
      | none => cases hprogress
      | some id =>
        rw [h.find _ _ _ hfind]
        dsimp only [bind, Except.bind] at hprogress ⊢
        split at hprogress
        · rename_i mode entries hnode
          obtain ⟨mode', entries', hnode'⟩ := h.directory id ⟨mode, entries, hnode⟩
          rw [hnode']
          exact ih (id :: chain) progress hprogress
        · rename_i target hnode
          rw [h.link id target hnode]
          exact ⟨hprogress, trivial⟩
        · cases hprogress

theorem walk_answers (h : files.Extends after) (manner : Manner) (links : Nat) (chain : Chain)
    (names : List String) (slash : Bool) :
    AnswersAs (fun _ => True) (files.walk manner links chain names slash)
      (after.walk manner links chain names slash) := by
  induction links generalizing chain names slash with
  | zero =>
    rw [walk, walk]
    refine (h.advance_answers _ _ _ _).bind fun progress _ => ?_
    cases progress with
    | arrived place => exact .ok trivial
    | meets chain target rest => exact .error _ _
  | succ links ih =>
    rw [walk, walk]
    refine (h.advance_answers _ _ _ _).bind fun progress _ => ?_
    cases progress with
    | arrived place => exact .ok trivial
    | meets chain target rest => exact ih _ _ _

/-- A walk that came to its end comes to it again. -/
theorem locate_answers (h : files.Extends after) (manner : Manner) (text : String) :
    AnswersAs (fun _ => True) (files.locate manner text) (after.locate manner text) :=
  (AnswersAs.refl _).bind fun _ _ => h.walk_answers _ _ _ _ _

end Extends

end FileSystem

/-! ## Steps that lead nowhere -/

/-- The same names with some steps between them that stay where they are, but none at the end. -/
inductive Path.Padded : List String → List String → Prop
  | nil : Padded [] []
  | cons (name : String) {names padded : List String} (h : Padded names padded) :
    Padded (name :: names) (name :: padded)
  | here {names padded : List String} (hpadded : padded ≠ []) (h : Padded names padded) :
    Padded names (Path.here :: padded)

namespace Path.Padded

variable {names padded rest padded' : List String}

theorem refl (names : List String) : Padded names names := by
  induction names with
  | nil => exact .nil
  | cons name rest ih => exact .cons name ih

/-- There is a last name in the one iff there is in the other. -/
theorem eq_nil_iff (h : Padded names padded) : names = [] ↔ padded = [] := by
  induction h with
  | nil => simp
  | cons name h ih => simp
  | here hpadded h ih => simp [ih, hpadded]

theorem isEmpty_eq (h : Padded names padded) : names.isEmpty = padded.isEmpty := by
  rw [Bool.eq_iff_iff, List.isEmpty_iff, List.isEmpty_iff, h.eq_nil_iff]

theorem append (names : List String) (h : Padded rest padded) :
    Padded (names ++ rest) (names ++ padded) := by
  induction names with
  | nil => exact h
  | cons name names ih => exact .cons name ih

/-- The slash at the end of a link stays behind where more names come. -/
theorem fullNames_append (path : Path) (h : Padded rest padded)
    (hslash : rest = [] → path.trailing = false) :
    Padded (path.names ++ rest) (path.fullNames ++ padded) := by
  unfold Path.fullNames
  split
  · rename_i htrailing
    have hpadded : padded ≠ [] := by
      rintro rfl
      have hfalse := hslash (h.eq_nil_iff.mpr rfl)
      rw [htrailing] at hfalse
      cases hfalse
    rw [List.append_assoc]
    exact append _ (.here hpadded h)
  · exact append _ h

end Path.Padded

namespace FileSystem

variable {files after : FileSystem}

/-- Two walks have come equally far, but for steps that lead nowhere among the names to come. -/
inductive Progress.Padded : Progress → Progress → Prop
  | arrived (place : Place) : Padded (.arrived place) (.arrived place)
  | meets (chain : Chain) (target : String) {rest padded : List String}
    (h : Path.Padded rest padded) : Padded (.meets chain target rest) (.meets chain target padded)

/-- A walk takes no notice of steps that lead nowhere. -/
theorem advance_padded {follow slash : Bool} {chain : Chain} {names padded : List String}
    (h : Path.Padded names padded) {progress : Progress}
    (hadvance : files.advance follow slash chain names = .ok progress) :
    ∃ progress', files.advance follow slash chain padded = .ok progress' ∧
      Progress.Padded progress progress' := by
  induction h generalizing chain with
  | nil =>
    cases hadvance
    exact ⟨_, rfl, .arrived _⟩
  | here hpadded h ih =>
    rw [advance, if_pos rfl]
    exact ih hadvance
  | @cons name names padded h ih =>
    unfold advance at hadvance ⊢
    rw [← h.isEmpty_eq]
    by_cases hhere : name = Path.here
    · rw [if_pos hhere] at hadvance ⊢
      exact ih hadvance
    rw [if_neg hhere] at hadvance ⊢
    obtain ⟨_, hdemand, hadvance⟩ := bind_eq_ok_iff.mp hadvance
    rw [hdemand]
    dsimp only [bind, Except.bind] at hadvance ⊢
    by_cases hself : name = Path.self
    · rw [if_pos hself] at hadvance ⊢
      exact ih hadvance
    rw [if_neg hself] at hadvance ⊢
    by_cases haround : name = Path.around
    · rw [if_pos haround] at hadvance ⊢
      by_cases hlast : names.isEmpty = true
      · rw [if_pos hlast] at hadvance ⊢
        cases hadvance
        exact ⟨_, rfl, .arrived _⟩
      · rw [if_neg hlast] at hadvance ⊢
        exact ih hadvance
    rw [if_neg haround] at hadvance ⊢
    by_cases hlast : names.isEmpty = true
    · rw [if_pos hlast] at hadvance ⊢
      refine ⟨progress, hadvance, ?_⟩
      cases progress with
      | arrived place => exact .arrived place
      | meets chain target rest => exact .meets chain target (.refl rest)
    rw [if_neg hlast] at hadvance ⊢
    split at hadvance
    · cases hadvance
    rename_i found hfind
    split at hadvance
    · cases hadvance
    rename_i id
    split at hadvance
    · exact ih hadvance
    · cases hadvance
      exact ⟨_, rfl, .meets _ _ h⟩
    · cases hadvance

/-! ## Where a path leads, and where a file may be made -/

/-- What a walk without links ends at, or meets with nothing behind it: a name at the end has the
slash that was asked for, and a link there is followed only without one. -/
def Progress.Ending (files : FileSystem) (slash : Bool) : Progress → Prop
  | .arrived (.standing _ _) => True
  | .arrived (.named chain name slash') =>
    slash' = slash ∧ (slash = false → files.linkAt chain.innermost name = none)
  | .meets _ _ rest => rest = [] → slash = false

/-- A link at the end is followed unless a slash is behind it. -/
theorem ending_of_advance {slash : Bool} {chain : Chain} {names : List String}
    {progress : Progress}
    (hadvance : files.advance true slash chain names = .ok progress) :
    Progress.Ending files slash progress := by
  induction names generalizing chain with
  | nil =>
    cases hadvance
    trivial
  | cons name rest ih =>
    unfold advance at hadvance
    split at hadvance
    · exact ih hadvance
    obtain ⟨-, -, hadvance⟩ := bind_eq_ok_iff.mp hadvance
    split at hadvance
    · exact ih hadvance
    split at hadvance
    · split at hadvance
      · cases hadvance
        trivial
      · exact ih hadvance
    split at hadvance
    · split at hadvance
      · split at hadvance
        · rename_i hslash
          cases hadvance
          exact fun _ => by simpa using hslash
        · rename_i hslash
          cases hadvance
          exact ⟨rfl, fun hnone => absurd hnone (by simpa using hslash)⟩
      · rename_i hlink
        cases hadvance
        exact ⟨rfl, fun _ => hlink⟩
    rename_i hmore
    obtain ⟨found, -, hadvance⟩ := bind_eq_ok_iff.mp hadvance
    cases found with
    | none => cases hadvance
    | some id =>
      dsimp only at hadvance
      split at hadvance
      · exact ih hadvance
      · cases hadvance
        exact fun hnone => absurd hnone (by simpa using hmore)
      · cases hadvance

/-- Where a file may be made without a slash behind its name, no slash was asked for on the way, and
the name is not that of a link. -/
theorem slash_of_making {links : Nat} {chain : Chain} {names : List String} {slash : Bool}
    {chain' : Chain} {name : String}
    (h : files.walk .making links chain names slash = .ok (.named chain' name false)) :
    slash = false ∧ files.linkAt chain'.innermost name = none := by
  induction links generalizing chain names slash with
  | zero =>
    rw [walk] at h
    obtain ⟨progress, hadvance, h⟩ := bind_eq_ok_iff.mp h
    have hending := ending_of_advance hadvance
    cases progress with
    | arrived place =>
      cases h
      exact ⟨hending.1.symm, hending.2 hending.1.symm⟩
    | meets chain target rest => cases h
  | succ links ih =>
    rw [walk] at h
    obtain ⟨progress, hadvance, h⟩ := bind_eq_ok_iff.mp h
    have hending := ending_of_advance hadvance
    cases progress with
    | arrived place =>
      cases h
      exact ⟨hending.1.symm, hending.2 hending.1.symm⟩
    | meets chain target rest =>
      obtain ⟨hslash, hlink⟩ := ih h
      refine ⟨?_, hlink⟩
      by_cases hrest : rest = []
      · exact hending hrest
      · simpa [hrest] using hslash

/-- A walk to a file that may be made is, but for the slash that was not asked for, the walk to what
the path leads to. -/
theorem walk_through_of_making {links : Nat} {chain : Chain} {names padded : List String}
    {slash : Bool} {chain' : Chain} {name : String} (hpadded : Path.Padded names padded)
    (h : files.walk .making links chain names slash = .ok (.named chain' name false)) :
    files.walk .through links chain padded false = .ok (.named chain' name false) := by
  induction links generalizing chain names padded slash with
  | zero =>
    obtain ⟨rfl, -⟩ := slash_of_making h
    rw [walk] at h ⊢
    obtain ⟨progress, hadvance, h⟩ := bind_eq_ok_iff.mp h
    obtain ⟨progress', hadvance', hequal⟩ := advance_padded hpadded hadvance
    refine bind_eq_ok_iff.mpr ⟨progress', hadvance', ?_⟩
    cases hequal with
    | arrived place => exact h
    | meets chain target hrest => cases h
  | succ links ih =>
    obtain ⟨rfl, -⟩ := slash_of_making h
    rw [walk] at h ⊢
    obtain ⟨progress, hadvance, h⟩ := bind_eq_ok_iff.mp h
    obtain ⟨progress', hadvance', hequal⟩ := advance_padded hpadded hadvance
    refine bind_eq_ok_iff.mpr ⟨progress', hadvance', ?_⟩
    cases hequal with
    | arrived place => exact h
    | @meets chain target rest padded hrest =>
      obtain ⟨hslash, -⟩ := slash_of_making h
      have hnames : Path.Padded ((Path.ofText target).names ++ rest)
          ((Path.ofText target).fullNames ++ padded) := by
        refine hrest.fullNames_append _ fun hnone => ?_
        subst hnone
        exact hslash
      have hwalk := ih hnames h
      dsimp only
      rwa [show (if padded.isEmpty = true then Manner.through.slash (Path.ofText target)
        else false) = false from ite_self _]

/-- Where a file may be made without a slash behind its name, the path leads to that name. -/
theorem through_of_making {text : String} {chain : Chain} {name : String}
    (h : files.locate .making text = .ok (.named chain name false)) :
    files.locate .through text = .ok (.named chain name false) ∧
      files.linkAt chain.innermost name = none := by
  obtain ⟨path, hpath, h⟩ := bind_eq_ok_iff.mp h
  obtain ⟨hslash, hlink⟩ := slash_of_making h
  have hslash : path.trailing = false := hslash
  refine ⟨bind_eq_ok_iff.mpr ⟨path, hpath, ?_⟩, hlink⟩
  have hnames : Manner.through.names path = path.names := by
    simp [Manner.names, Manner.through, Path.fullNames, hslash]
  rw [hnames]
  exact walk_through_of_making (.refl path.names) h

/-- So the path leads to what has the name, if anything has. -/
theorem lookup_of_making {text : String} {chain : Chain} {name : String}
    (h : files.locate .making text = .ok (.named chain name false)) :
    files.lookup .through text = files.nodeAt (.named chain name false) := by
  rw [lookup, (through_of_making h).1]
  rfl

end FileSystem

end FileWindow

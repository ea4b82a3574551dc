import FileWindow.FileSystem.Node

/-!
# Permissions

The permission bits of a node say who may read it, change it, and look names up in it.  Whoever
works in the working directory owns it and everything made since; the directories and devices
that were there before belong to the system.

Main definitions:

- Definition Access: what one may want to do with a node.
- Definition FileSystem.grants: whether the bits of a node allow an access.
- Definition FileSystem.demand: the check of an access.
- Definition plainMode: the bits that a file keeps when its data change.

Main results:

- Theorem FileSystem.demand_eq_ok_iff: the check passes exactly where the access is granted.
- Theorem plainMode_plainMode: a second change of the data takes no further bits away.
-/

namespace FileWindow

/-- What one may want to do with a node. -/
inductive Access
  /-- To read the data of a file, or the names in a directory. -/
  | read
  /-- To change the data of a file, or the names in a directory. -/
  | write
  /-- To look a name up in a directory. -/
  | search
  deriving DecidableEq, Repr

namespace Access

/-- The permission bit that allows an access to the owner of a node. -/
def ownerBit : Access → Nat
  | read => 0o400
  | write => 0o200
  | search => 0o100

/-- The permission bit that allows an access to those who have no part in a node. -/
def strangerBit : Access → Nat
  | read => 0o004
  | write => 0o002
  | search => 0o001

end Access

/-! ## Bits of a node -/

/-- The permission bits of a node.  A link is as open as can be, and so are the data of a
device. -/
def Node.mode : Node → Nat
  | .file mode _ => mode
  | .directory mode _ => mode
  | .fifo mode _ => mode
  | .link _ => 0o777
  | .special _ => 0o666

/-- The bit by which a program runs as the owner of its file. -/
def runAsOwner : Nat := 0o4000

/-- The bit by which a program runs as the group of its file. -/
def runAsGroup : Nat := 0o2000

/-- The bit that allows the group to run a file. -/
def groupRuns : Nat := 0o0010

/-- The permission bits that a file keeps when its data change: other data do not run as the
owner.  Nor do they run as the group, if the group may run the file at all. -/
def plainMode (mode : Nat) : Nat :=
  if mode &&& groupRuns = 0 then mode &&& (permissionMask ^^^ runAsOwner)
  else mode &&& (permissionMask ^^^ (runAsOwner ||| runAsGroup))

/-- A second change of the data takes no further bits away. -/
theorem plainMode_plainMode (mode : Nat) : plainMode (plainMode mode) = plainMode mode := by
  have keeps : ∀ kept, kept &&& groupRuns = groupRuns →
      (mode &&& kept) &&& groupRuns = mode &&& groupRuns := by
    intro kept h
    rw [Nat.and_assoc, h]
  have hOwner := keeps (permissionMask ^^^ runAsOwner) (by decide)
  have hBoth := keeps (permissionMask ^^^ (runAsOwner ||| runAsGroup)) (by decide)
  by_cases h : mode &&& groupRuns = 0
  · simp only [plainMode, h, hOwner, if_true, Nat.and_assoc, Nat.and_self]
  · simp only [plainMode, h, hBoth, if_false, Nat.and_assoc, Nat.and_self]

namespace FileSystem

/-! ## Who may do what -/

/-- Whether a node belongs to whoever works in the working directory. -/
def owns (id : NodeId) : Bool :=
  workplace ≤ id

/-- Whether the bits of a node allow an access. -/
def grants (files : FileSystem) (access : Access) (id : NodeId) : Bool :=
  (files.node? id).any fun node =>
    node.mode &&& (if owns id then access.ownerBit else access.strangerBit) != 0

/-- The check of an access. -/
def demand (files : FileSystem) (access : Access) (id : NodeId) : Except Fault Unit :=
  if files.grants access id then .ok () else .error (.system Errno.accessDenied)

/-- The check passes exactly where the access is granted. -/
theorem demand_eq_ok_iff {files : FileSystem} {access : Access} {id : NodeId} :
    files.demand access id = .ok () ↔ files.grants access id = true := by
  unfold demand
  split <;> simp_all

end FileSystem

end FileWindow

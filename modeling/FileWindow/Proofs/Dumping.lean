import FileWindow.Proofs.Completion
import FileWindow.Proofs.Filling
import FileWindow.Proofs.FirstFailure
import FileWindow.Proofs.OneContract
import FileWindow.Proofs.Rows

/-!
# Buffers written out as files

A buffer that is dumped takes the place of what the file held that its path leads to, or becomes a
new file where the name is free, which is then its owner's alone.  All else stays as it is, and the
open file is closed whatever happens.  A file that was there does not run as its owner any more, as
after any change of its data, and a device keeps nothing.  Since the last buffer alone counts,
nothing is left to see of an earlier one.

Main definitions:

- Definition FileTask.dumpOutcome: what dumping a buffer comes to.
- Definition FileTask.kept: the data that a buffer leaves in a file.
- Definition FileTask.Dumped: the tree behind it, compared with the tree before.
- Definition FileTask.EndsAlike: two tasks that come to the same and leave the same nodes.

Main results:

- Theorem FileTask.dump_eq: a buffer that is dumped on what was just opened.
- Theorem FileTask.dump_replaces: dumping replaces what a path leads to, and only the last buffer
  counts.
-/

namespace FileWindow

namespace FileTask

open FileSystem (fill_eq_self)

/-! ## What is written -/

/-- What dumping a buffer on a node comes to, once the node is opened.  A buffer above the bound on
transfers is refused, and only one device takes none. -/
def dumpOutcome (path : String) (data : Bytes) (node : Option Node) : Except FileError Unit :=
  if maxTransfer < data.length then .error (.refused path .writeLength)
  else if data ≠ [] ∧ node = some (.special .full) then .error (.broken path .write Errno.noSpace)
  else .ok ()

/-- What a buffer leaves in a file: all of it, or nothing where it is refused. -/
def kept (data : Bytes) : Bytes :=
  if maxTransfer < data.length then [] else data

section Written

variable {base : FileSystem} {id : NodeId} {node : Node} {path : String}

/-- A buffer written to a file that was just opened and is empty takes its place there.  A device
keeps nothing. -/
theorem write_addOpened (hnode : base.node? id = some node) (hblank : node.Blank) (path : String)
    (journal : Journal) (data : Bytes) :
    ∃ writer cursor record,
      Output.write (FileSystem.device base.opened.length) data data.length
          ⟨.opened ⟨⟨path, .whole 0⟩, 0⟩, base.addOpened ⟨id, 0, false, true, true⟩, journal⟩ =
        Action.ofExcept (dumpOutcome path data (some node))
          ⟨.opened writer, (base.fill id (.ofBytes (kept data))).addOpened
            ⟨id, cursor, false, true, true⟩, record ++ journal⟩ ∧
      writer.window.name = path := by
  have hsame : base.fill id (.ofBytes []) = base := fill_eq_self hnode hblank.filled_nil
  rw [Output.write_opened]
  -- A buffer that is too long or has no bytes does not come to the device.
  by_cases hlong : maxTransfer < data.length
  · have hlength : data.length ≠ 0 := by omega
    have hrefused : (!validLength data.length || decide (data.length > data.length)) = true :=
      lengthRefused_iff.mpr (by omega)
    rw [if_neg hlength, if_pos hrefused, dumpOutcome, if_pos hlong, kept, if_pos hlong, hsame]
    exact ⟨_, 0, [], rfl, rfl⟩
  rw [dumpOutcome, if_neg hlong, kept, if_neg hlong]
  by_cases hdata : data = []
  · subst hdata
    rw [hsame]
    exact ⟨_, 0, [], rfl, rfl⟩
  have hlength : data.length ≠ 0 := by simpa using hdata
  have hallowed : ¬(!validLength data.length || decide (data.length > data.length)) = true := by
    rw [lengthRefused_iff]
    omega
  have hcount : 0 + data.length < positionLimit := by
    have : maxTransfer < positionLimit := by decide
    omega
  obtain ⟨cursor, hwrite⟩ := FileSystem.write_blank hnode hblank hdata
  have hfull : (data ≠ [] ∧ some node = some (.special .full)) ↔ node = .special .full := by
    simp [hdata]
  rw [if_neg hlength, if_neg hallowed, List.take_length, hwrite]
  simp only [hfull]
  by_cases htakes : node = .special .full
  · simp only [if_pos htakes]
    exact ⟨_, cursor, [], rfl, rfl⟩
  · simp only [if_neg htakes, if_pos hcount]
    exact ⟨Writer.count ⟨⟨path, .whole 0⟩, 0⟩ data.length, cursor, [.didWrite ..], rfl, rfl⟩

/-- What was just opened and is empty is taken for an output that shows nothing yet. -/
theorem attach_addOpened {ρ : Type} (hnode : base.node? id = some node) (hblank : node.Blank)
    (path : String) (book : ρ) (journal : Journal) :
    Output.attach (FileSystem.device base.opened.length) path
        ⟨book, base.addOpened ⟨id, 0, false, true, true⟩, journal⟩ =
      .ok (.opened ⟨⟨path, .whole 0⟩, 0⟩)
        ⟨book, base.addOpened ⟨id, 0, false, true, true⟩, .opened path 0 :: journal⟩ := by
  have hsize := FileSystem.size_addOpened 0 hnode
  cases hblank with
  | file hmode => exact Output.attach_of_size path hsize
  | special kind => exact Output.attach_of_unmeasured path hsize

/-- A path that was opened and has no data is taken for an output that shows nothing yet. -/
theorem openPath_eq {ρ : Type} {files : FileSystem}
    (hopening : files.opening (.output .truncate (some dumpPermissions)) path =
      .ok (base.openNode (.output .truncate (some dumpPermissions)) id))
    (hopened : base.opened = files.opened) (hnode : base.node? id = some node)
    (hblank : node.Blank) (book : ρ) (journal : Journal) :
    Output.openPath path .truncate (some dumpPermissions) ⟨book, files, journal⟩ =
      .ok (.opened ⟨⟨path, .whole 0⟩, 0⟩, base.opened.length)
        ⟨book, base.addOpened ⟨id, 0, false, true, true⟩, .opened path 0 :: journal⟩ := by
  have hnamed : openNamed (.output .truncate (some dumpPermissions)) path false
        ⟨book, files, journal⟩ =
      .ok files.opened.length ⟨book, base.addOpened ⟨id, 0, false, true, true⟩, journal⟩ :=
    openNamed_of_opening false hopening
  rw [← hopened] at hnamed
  rw [Output.openPath, Action.bind_of_ok hnamed]
  exact attachOpened_of_ok _ (attach_addOpened hnode hblank path book journal)

/-- Closing behind some work on it succeeds, and what came of the work is passed on. -/
theorem closeAfter_addOpened {writer : Writer} (cursor : Nat) (hnode : base.node? id = some node)
    (hsettled : node.Settled) (hname : writer.window.name = path) (work : Except FileError Unit)
    (journal : Journal) :
    Output.closeAfter (FileSystem.device base.opened.length) work
        ⟨.opened writer, base.addOpened ⟨id, cursor, false, true, true⟩, journal⟩ =
      Action.ofExcept work ⟨.closed, base.addOpened ⟨id, cursor, false, true, false⟩,
        .closing path :: journal⟩ := by
  have hflush : ∀ files, (FileSystem.device base.opened.length).flush files = .ok () files :=
    fun _ => rfl
  have hclose : (FileSystem.device base.opened.length).close
        (base.addOpened ⟨id, cursor, false, true, true⟩) =
      .ok () (base.addOpened ⟨id, cursor, false, true, false⟩) :=
    FileSystem.close_addOpened hnode hsettled
  have hending : Output.ending (FileSystem.device base.opened.length) (.opened writer)
        (base.addOpened ⟨id, cursor, false, true, true⟩) =
      ⟨.ok (), base.addOpened ⟨id, cursor, false, true, false⟩, [.closing path]⟩ := by
    simp only [Output.ending, Call.told, Call.left, hflush, hclose, hname, Teardown.firstFailure]
  rw [Output.closeAfter_eq, hending]
  cases work with
  | ok value => rfl
  | error error => rfl

/-- A buffer that is dumped on what was just opened and is empty takes its place there, and the open
file is closed. -/
theorem dump_eq {files : FileSystem}
    (hopening : files.opening (.output .truncate (some dumpPermissions)) path =
      .ok (base.openNode (.output .truncate (some dumpPermissions)) id))
    (hopened : base.opened = files.opened) (hnode : base.node? id = some node)
    (hblank : node.Blank) (book : Output) (journal : Journal) (data : Bytes) :
    ∃ cursor record, dump path data ⟨book, files, journal⟩ =
      Action.ofExcept (dumpOutcome path data (some node))
        ⟨.closed, (base.fill id (.ofBytes (kept data))).addOpened ⟨id, cursor, false, true, false⟩,
          record ++ journal⟩ := by
  have hpath := openPath_eq hopening hopened hnode hblank book
    (.dumping path data.length :: journal)
  obtain ⟨writer, cursor, record, hwrite, hname⟩ := write_addOpened hnode hblank path
    (.opened path 0 :: .dumping path data.length :: journal) data
  have hfilled : (base.fill id (.ofBytes (kept data))).node? id =
      some (node.filled (.ofBytes (kept data))) := by
    rw [FileSystem.node?_fill_self, hnode, Option.map_some]
  have hclosed := closeAfter_addOpened cursor hfilled (hblank.settled.filled _) hname
    (dumpOutcome path data (some node))
    (record ++ .opened path 0 :: .dumping path data.length :: journal)
  refine ⟨cursor, .closing path :: record ++ [.opened path 0, .dumping path data.length], ?_⟩
  rw [dump, Action.bind_of_ok (Action.report_apply _ _), Action.bind_of_ok hpath]
  refine (Action.observe_bind hwrite _).trans (hclosed.trans ?_)
  simp

end Written

/-! ## What is left of a path -/

/-- A file that is dumped has no bits that it could lose. -/
theorem plainMode_dumpPermissions : plainMode dumpPermissions = dumpPermissions := by
  decide

/-- Whether a device takes nothing does not depend on data. -/
theorem dumpOutcome_filled (path : String) (data : Bytes) (contents : Contents) (node : Node) :
    dumpOutcome path data (some (node.filled contents)) = dumpOutcome path data (some node) := by
  have hfull : node.filled contents = .special .full ↔ node = .special .full := by
    cases node <;> simp [Node.filled]
  simp only [dumpOutcome, Option.some.injEq, hfull]

theorem dumpOutcome_file (path : String) (data : Bytes) (mode : Nat)
    (contents contents' : Contents) :
    dumpOutcome path data (some (.file mode contents)) =
      dumpOutcome path data (some (.file mode contents')) := by
  simp [dumpOutcome]

section Path

variable {files : FileSystem} {path name : String} {id directory : NodeId} {node : Node}
  {mode : Nat} {entries : List (String × NodeId)}

/-- A buffer that is dumped on what is there takes the place of its data. -/
theorem dump_of_present (h : files.Present path id node) (hsettled : node.Settled) (book : Output)
    (journal : Journal) (data : Bytes) :
    ∃ cursor record, dump path data ⟨book, files, journal⟩ =
      Action.ofExcept (dumpOutcome path data (some node))
        ⟨.closed, (files.fill id (.ofBytes (kept data))).addOpened ⟨id, cursor, false, true, false⟩,
          record ++ journal⟩ := by
  have hnode : (files.fill id []).node? id = some (node.filled []) := by
    rw [FileSystem.node?_fill_self, h.node_eq, Option.map_some]
  have hdump := dump_eq h.opening rfl hnode hsettled.blank book journal data
  rwa [dumpOutcome_filled, FileSystem.fill_fill] at hdump

/-- A buffer that is dumped on a free name becomes a file of its own. -/
theorem dump_of_free (h : files.Free path directory name mode entries) (book : Output)
    (journal : Journal) (data : Bytes) :
    ∃ cursor record, dump path data ⟨book, files, journal⟩ =
      Action.ofExcept (dumpOutcome path data (some (.file dumpPermissions [])))
        ⟨.closed, (files.create directory name
            (.file dumpPermissions (.ofBytes (kept data)))).addOpened
              ⟨files.nextId, cursor, false, true, false⟩,
          record ++ journal⟩ := by
  have hnode := FileSystem.node?_create_self h.node_eq h.lookup_entries
    (.file dumpPermissions [])
  have hopened : (files.create directory name (.file dumpPermissions [])).opened = files.opened :=
    FileSystem.opened_addEntry _ _ _ _
  have hopening : files.opening (.output .truncate (some dumpPermissions)) path =
      .ok ((files.create directory name (.file dumpPermissions [])).openNode
        (.output .truncate (some dumpPermissions)) files.nextId) := h.opening
  have hdump := dump_eq hopening hopened hnode (.file plainMode_dumpPermissions) book journal data
  rwa [FileSystem.fill_create h.node_eq h.lookup_entries plainMode_dumpPermissions] at hdump

/-- A path that cannot be opened is left alone, and named. -/
theorem dump_of_error {fault : Fault}
    (h : files.opening (.output .truncate (some dumpPermissions)) path = .error fault)
    (book : Output) (journal : Journal) (data : Bytes) :
    dump path data ⟨book, files, journal⟩ =
      .error (.failed (.broken path .opening fault.errno))
        ⟨book, files, .dumping path data.length :: journal⟩ := by
  have htold := FileError.ofOpening_eq_broken
    (FileSystem.neverTaken_opening_truncate _ _ fault h) path
  have hpath : Output.openPath path .truncate (some dumpPermissions)
        ⟨book, files, .dumping path data.length :: journal⟩ =
      .error (.failed (.ofOpening path false fault))
        ⟨book, files, .dumping path data.length :: journal⟩ := by
    simp only [Output.openPath, openNamed, Action.attempt, FileSystem.openPath, h, Bind.bind,
      EStateM.bind]
    rfl
  rw [dump, Action.bind_of_ok (Action.report_apply _ _), Action.bind_of_error hpath, htold]

/-- What can be opened for a buffer is something that keeps nothing waiting, or a free name. -/
theorem settled_or_free {opened : FileSystem} (hrooted : files.Rooted)
    (hfifo : ∀ id mode pending, files.lookup .through path = .ok id →
      files.node? id ≠ some (.fifo mode pending))
    (h : files.opening (.output .truncate (some dumpPermissions)) path = .ok opened) :
    (∃ id node, files.Present path id node ∧ node.Settled) ∨
      ∃ directory name mode entries, files.Free path directory name mode entries := by
  rcases FileSystem.present_or_free_of_opening hrooted h with ⟨id, node, hpresent⟩ | hfree
  · refine .inl ⟨id, node, hpresent, ?_⟩
    rcases hpresent.sort_cases with ⟨mode, contents, rfl⟩ | ⟨mode, pending, rfl⟩ | ⟨kind, rfl⟩
    · exact .file mode contents
    · exact absurd hpresent.node_eq (hfifo id mode pending hpresent.lookup_eq)
    · exact .special kind
  · exact .inr hfree

end Path

/-- The tree behind a buffer that was dumped, next to the tree before.  The path leads to a node
that holds the data, if it can hold any.  Every other node is as it was, but for the directory in
which a file was made. -/
inductive Dumped (path : String) (data : Bytes) (id : NodeId) (files after : FileSystem) : Prop
  /-- The data took the place of what a file held, and it does not run as its owner any more. -/
  | replaced (mode : Nat) (before contents : Contents)
    (found : files.lookup .through path = .ok id)
    (was : files.node? id = some (.file mode before))
    (leads : after.lookup .through path = .ok id)
    (holds : after.node? id = some (.file (plainMode mode) contents))
    (data_eq : contents.toBytes = data)
    (others : ∀ other, other ≠ id → after.node? other = files.node? other)
  /-- A file was made, its owner's alone, and a directory has one more entry. -/
  | made (directory : NodeId) (name : String) (mode : Nat) (entries : List (String × NodeId))
    (contents : Contents)
    (missing : files.lookup .through path = .error (.system Errno.noEntry))
    (new : files.node? id = none)
    (leads : after.lookup .through path = .ok id)
    (holds : after.node? id = some (.file dumpPermissions contents))
    (data_eq : contents.toBytes = data)
    (was : files.node? directory = some (.directory mode entries))
    (free : entries.lookup name = none)
    (entry : after.node? directory = some (.directory mode (entries ++ [(name, id)])))
    (others : ∀ other, other ≠ id → other ≠ directory → after.node? other = files.node? other)
  /-- A device keeps nothing. -/
  | device (kind : SpecialFile)
    (found : files.lookup .through path = .ok id)
    (was : files.node? id = some (.special kind))
    (leads : after.lookup .through path = .ok id)
    (others : ∀ other, after.node? other = files.node? other)

/-- Two tasks come to the same and leave the same nodes, whatever else they leave. -/
def EndsAlike {α : Type}
    (result result' : EStateM.Result (Stop FileError) (Frame Output FileSystem) α) : Prop :=
  ∃ outcome frame frame', result = Action.ofExcept outcome frame ∧
    result' = Action.ofExcept outcome frame' ∧ frame'.world.nodes = frame.world.nodes

section Trees

variable {files : FileSystem} {path name : String} {id directory : NodeId} {node : Node}
  {mode : Nat} {entries : List (String × NodeId)}

/-- A file that was made for a buffer is found where it was made. -/
theorem present_of_free (hrooted : files.Rooted) (h : files.Free path directory name mode entries)
    (contents : Contents) :
    (files.create directory name (.file dumpPermissions contents)).Present path files.nextId
      (.file dumpPermissions contents) :=
  h.present_create hrooted (by decide : dumpPermissions &&& Access.write.ownerBit ≠ 0) contents

/-- A node that is there is filled, or left alone. -/
theorem dumped_of_present (h : files.Present path id node) (hsettled : node.Settled) (data : Bytes)
    (file : OpenFile) :
    Dumped path data id files ((files.fill id (.ofBytes data)).addOpened file) := by
  have hafter := (h.fill (.ofBytes data)).addOpened file
  have hothers : ∀ other, other ≠ id →
      ((files.fill id (.ofBytes data)).addOpened file).node? other = files.node? other :=
    fun other hother => FileSystem.node?_fill_ne (Ne.symm hother) _
  cases hsettled with
  | file mode before =>
    exact .replaced mode before (.ofBytes data) h.lookup_eq h.node_eq hafter.lookup_eq
      hafter.node_eq (Contents.toBytes_ofBytes data) hothers
  | special kind =>
    refine .device kind h.lookup_eq h.node_eq hafter.lookup_eq fun other => ?_
    by_cases hother : other = id
    · subst hother
      exact hafter.node_eq.trans h.node_eq.symm
    · exact hothers other hother

/-- A free name is given to a file that is made. -/
theorem dumped_of_free (hrooted : files.Rooted)
    (h : files.Free path directory name mode entries) (data : Bytes) (file : OpenFile) :
    Dumped path data files.nextId files ((files.create directory name
      (.file dumpPermissions (.ofBytes data))).addOpened file) := by
  have hafter := (present_of_free hrooted h (.ofBytes data)).addOpened file
  exact .made directory name mode entries (.ofBytes data) h.lookup_eq (files.node?_nextId)
    hafter.lookup_eq hafter.node_eq (Contents.toBytes_ofBytes data) h.node_eq h.lookup_entries
    (FileSystem.node?_create_directory h.node_eq h.lookup_entries _)
    fun other hnew hother => FileSystem.node?_create_ne h.node_eq h.lookup_entries _ hother hnew

/-- A second buffer on what is there is all that is left, as if there had been no first one. -/
theorem endsAlike_of_present (h : files.Present path id node) (hsettled : node.Settled)
    (book : Output) (journal : Journal) (first second : Bytes) :
    EndsAlike (dump path second ⟨book, files, journal⟩)
      (dump path second (Action.left (dump path first ⟨book, files, journal⟩))) := by
  obtain ⟨_, _, honce⟩ := dump_of_present h hsettled book journal second
  obtain ⟨cursor, record, hfirst⟩ := dump_of_present h hsettled book journal first
  have hbetween := (h.fill (.ofBytes (kept first))).addOpened ⟨id, cursor, false, true, false⟩
  obtain ⟨_, _, hagain⟩ := dump_of_present hbetween (hsettled.filled _) .closed
    (record ++ journal) second
  rw [dumpOutcome_filled] at hagain
  have hnodes := congrArg FileSystem.nodes
    (files.fill_fill id (.ofBytes (kept first)) (.ofBytes (kept second)))
  rw [hfirst, Action.left_ofExcept]
  exact ⟨_, _, _, honce, hagain, hnodes⟩

/-- A second buffer on a free name finds the file that the first one became. -/
theorem endsAlike_of_free (hrooted : files.Rooted)
    (h : files.Free path directory name mode entries) (book : Output) (journal : Journal)
    (first second : Bytes) :
    EndsAlike (dump path second ⟨book, files, journal⟩)
      (dump path second (Action.left (dump path first ⟨book, files, journal⟩))) := by
  obtain ⟨_, _, honce⟩ := dump_of_free h book journal second
  obtain ⟨cursor, record, hfirst⟩ := dump_of_free h book journal first
  have hbetween := (present_of_free hrooted h (.ofBytes (kept first))).addOpened
    ⟨files.nextId, cursor, false, true, false⟩
  obtain ⟨_, _, hagain⟩ := dump_of_present hbetween (.file _ _) .closed (record ++ journal) second
  rw [dumpOutcome_file path second _ _ []] at hagain
  have hnodes := congrArg FileSystem.nodes (FileSystem.fill_create h.node_eq h.lookup_entries
    plainMode_dumpPermissions (.ofBytes (kept first)) (.ofBytes (kept second)))
  rw [hfirst, Action.left_ofExcept]
  exact ⟨_, _, _, honce, hagain, hnodes⟩

end Trees

/-! ## Dumping -/

/-- Dumping a buffer replaces what its path leads to, and nothing else.  Where the path cannot be
opened, that is told of the path, and no node has changed.  Otherwise the buffer has taken the place
of what a file held, or become a file that is its owner's alone, or gone to a device; nothing fails
but a buffer that is too long and a device that takes none; and the open file is closed.  Of two
buffers that are dumped one after the other only the second one counts. -/
theorem dump_replaces (files : FileSystem) (hrooted : files.Rooted) (path : String)
    (hfifo : ∀ id mode pending, files.lookup .through path = .ok id →
      files.node? id ≠ some (.fifo mode pending))
    (book : Output) (journal : Journal) :
    (∀ data,
      (∃ fault,
        files.opening (.output .truncate (some dumpPermissions)) path = .error fault ∧
        dump path data ⟨book, files, journal⟩ =
          .error (.failed (.broken path .opening fault.errno))
            ⟨book, files, .dumping path data.length :: journal⟩) ∨
      (∃ opened after id cursor record,
        files.opening (.output .truncate (some dumpPermissions)) path = .ok opened ∧
        dump path data ⟨book, files, journal⟩ =
          Action.ofExcept (dumpOutcome path data (after.node? id))
            ⟨.closed, after, record ++ journal⟩ ∧
        Dumped path (kept data) id files after ∧
        after.opened = files.opened ++ [⟨id, cursor, false, true, false⟩])) ∧
    ∀ first second, EndsAlike (dump path second ⟨book, files, journal⟩)
      (dump path second (Action.left (dump path first ⟨book, files, journal⟩))) := by
  cases hopening : files.opening (.output .truncate (some dumpPermissions)) path with
  | error fault =>
    have hdump := dump_of_error hopening
    refine ⟨fun data => .inl ⟨fault, rfl, hdump book journal data⟩, fun first second => ?_⟩
    rw [hdump book journal first, hdump book journal second]
    exact ⟨.error (.broken path .opening fault.errno), _, _, rfl, hdump book _ second, rfl⟩
  | ok opened =>
    rcases settled_or_free hrooted hfifo hopening with
      ⟨id, node, hpresent, hsettled⟩ | ⟨directory, name, mode, entries, hfree⟩
    · refine ⟨fun data => .inr ?_, endsAlike_of_present hpresent hsettled book journal⟩
      obtain ⟨cursor, record, hdump⟩ := dump_of_present hpresent hsettled book journal data
      refine ⟨opened, _, id, cursor, record, rfl, ?_,
        dumped_of_present hpresent hsettled (kept data) ⟨id, cursor, false, true, false⟩, rfl⟩
      have hnode := (hpresent.fill (.ofBytes (kept data))).node_eq
      rw [hdump, FileSystem.node?_addOpened, hnode, dumpOutcome_filled]
    · refine ⟨fun data => .inr ?_, endsAlike_of_free hrooted hfree book journal⟩
      obtain ⟨cursor, record, hdump⟩ := dump_of_free hfree book journal data
      refine ⟨opened, _, files.nextId, cursor, record, rfl, ?_,
        dumped_of_free hrooted hfree (kept data) ⟨files.nextId, cursor, false, true, false⟩, ?_⟩
      · have hnode := (present_of_free hrooted hfree (.ofBytes (kept data))).node_eq
        rw [hdump, FileSystem.node?_addOpened, hnode,
          dumpOutcome_file path data _ (.ofBytes (kept data)) []]
      · exact congrArg (· ++ _) (FileSystem.opened_addEntry _ _ _ _)

/-- A working directory with a file that runs as its owner, and a link that leads to no file yet. -/
def withRunner : FileSystem :=
  (FileSystem.fresh.create FileSystem.workplace "f" (.file 0o4755 (.ofBytes [1, 2]))).create
    FileSystem.workplace "l" (.link "n")

/-- A buffer that is dumped through the link becomes the file that the link names. -/
theorem dump_replaces_of_link :
    withRunner.Rooted ∧
    (∀ id mode pending, withRunner.lookup .through "l" = .ok id →
      withRunner.node? id ≠ some (.fifo mode pending)) ∧
    ∃ after id contents, dump "l" [9] ⟨.closed, withRunner, []⟩ = .ok () after ∧
      after.world.lookup .through "l" = .ok id ∧
      after.world.node? id = some (.file 0o600 contents) ∧ contents.toBytes = [9] := by
  have hrooted : withRunner.Rooted :=
    FileSystem.rooted_fresh.of_keepsDirectories (.trans (.create _ _ _) (.create _ _ _))
  have hmissing : (withRunner.lookup .through "l").toOption = none := by decide +kernel
  have hnowhere : ∀ id, withRunner.lookup .through "l" ≠ .ok id := by
    intro id hlookup
    rw [hlookup] at hmissing
    cases hmissing
  have hopens : (withRunner.opening (.output .truncate (some dumpPermissions)) "l").toOption ≠
      none := by decide +kernel
  have hfifo : ∀ id mode pending, withRunner.lookup .through "l" = .ok id →
      withRunner.node? id ≠ some (.fifo mode pending) :=
    fun id _ _ hlookup => absurd hlookup (hnowhere id)
  refine ⟨hrooted, hfifo, ?_⟩
  rcases (dump_replaces withRunner hrooted "l" hfifo .closed []).1 [9] with
    ⟨fault, hfault, -⟩ | ⟨opened, after, id, cursor, record, -, hdump, hdumped, hopened⟩
  · rw [hfault] at hopens
    contradiction
  · cases hdumped with
    | made directory name mode entries contents missing new leads holds data_eq =>
      have houtcome : dumpOutcome "l" [9] (after.node? id) = .ok () := by
        simp [holds, dumpOutcome, maxTransfer]
      rw [houtcome] at hdump
      exact ⟨_, id, contents, hdump, leads, holds, data_eq⟩
    | replaced mode before contents found => exact absurd found (hnowhere id)
    | device kind found => exact absurd found (hnowhere id)

/-- A file that runs as its owner does not do so any more once a buffer was dumped on it, and a
device that takes nothing fails although it was opened and the buffer is short. -/
theorem dump_takes_bit_and_device_fails :
    (∃ after, dump "f" [9] ⟨.closed, withRunner, []⟩ = .ok () after ∧
      withRunner.lookup .through "f" = .ok 7 ∧
      withRunner.node? 7 = some (.file 0o4755 (.ofBytes [1, 2])) ∧
      after.world.node? 7 = some (.file 0o0755 (.ofBytes [9]))) ∧
    ∃ opened after,
      withRunner.opening (.output .truncate (some dumpPermissions)) "/dev/full" = .ok opened ∧
      dump "/dev/full" [9] ⟨.closed, withRunner, []⟩ =
        .error (.failed (.broken "/dev/full" .write Errno.noSpace)) after := by
  have hfile : withRunner.Present "f" 7 (.file 0o4755 (.ofBytes [1, 2])) :=
    ⟨⟨FileSystem.wayToWorkplace, "f", eq_ok_of_toOption (by decide +kernel), rfl⟩, rfl, rfl, rfl⟩
  have hdevice : withRunner.Present "/dev/full" 4 (.special .full) :=
    ⟨⟨[FileSystem.devices], "full", eq_ok_of_toOption (by decide +kernel), rfl⟩, rfl, rfl, rfl⟩
  obtain ⟨cursor, record, hdump⟩ := dump_of_present hfile (.file _ _) .closed [] [9]
  obtain ⟨cursor', record', hdump'⟩ := dump_of_present hdevice (.special _) .closed [] [9]
  exact ⟨⟨_, hdump, hfile.lookup_eq, rfl, (hfile.fill _).node_eq⟩, _, _, hdevice.opening, hdump'⟩

end FileTask

end FileWindow

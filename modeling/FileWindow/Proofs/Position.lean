import FileWindow.FileSystem.OpenFile
import FileWindow.Proofs.InputLedger
import FileWindow.Proofs.OutputLedger
import FileWindow.Proofs.Rows
import FileWindow.Proofs.StreamCalls

/-!
# Asking for the position

There are two ways to ask a resource where it stands.  It tells its position, which is the raw one
less the offset of the extent, and through the adapter it is asked for a seek that goes nowhere,
which is checked as any seek is and moves the device to where it stands already.  On a device that
comes back to the position that it tells, the two answer alike, and neither changes anything but the
journal.  An input refuses the seek where its cursor stands past the end of its extent; there alone
the position is told and cannot be asked for.

Main definitions:

- Definition Device.Rests: a world in which a device comes back to the position that it tells.
- Definition AsksAlike: a position that is told and asked for alike.
- Definition PositionsAgree: all inputs and outputs on a device are asked alike, after any run.

Main results:

- Theorem Window.asksAlike: the seek that goes nowhere, in any window.
- Theorems Stream.device_rests and FileSystem.device_rests: streams without a plan for seeks, and
  all open files.
- Theorem Stream.device_keeps_seekPlan: what no call of a stream undoes.
- Theorem position_agrees_with_tell: the two ways, on streams and on files.
-/

namespace FileWindow

variable {ε ε' ρ σ α : Type} {device : Device σ}

/-! ## Devices -/

/-- In this world the device tells a position and comes back to it, or it tells none; in either case
the world stays as it is. -/
inductive Device.Rests (device : Device σ) (world : σ) : Prop
  | placed {raw : Nat} (hraw : raw < positionLimit)
    (hposition : device.position world = .ok raw world)
    (hseek : device.seek (.start raw) world = .ok raw world)
  | lost {fault : Fault} (hposition : device.position world = .error fault world)

/-! ## Two ways to ask -/

/-- Another account of a failure makes no answer of it. -/
theorem mapError_eq_ok_iff {tell : ε → ε'} {result : Except ε α} {value : α} :
    result.mapError tell = .ok value ↔ result = .ok value := by
  constructor
  · intro h
    cases result with
    | ok value' =>
      cases h
      rfl
    | error error => cases h
  · rintro rfl
    rfl

/-- The position that is asked for is the one that is told, where that is within a bound, and
neither way of asking changes anything but the journal. -/
def AsksAlike (bound : Nat → Prop) (tell : Action ε ρ σ Nat) (ask : Action ε' ρ σ Nat)
    (frame : Frame ρ σ) : Prop :=
  ∃ told asked journal,
    tell frame = Action.ofExcept told frame ∧
    ask frame = Action.ofExcept asked { frame with journal } ∧
    ∀ position, asked = .ok position ↔ told = .ok position ∧ bound position

namespace AsksAlike

variable {bound : Nat → Prop} {tell : Action ε ρ σ Nat} {frame : Frame ρ σ}

/-- Passing the failure of a seek on changes nothing of what it answers. -/
theorem passing {ask : Action FileError ρ σ Nat} (h : AsksAlike bound tell ask frame) :
    AsksAlike bound tell (Adapter.passing ask) frame := by
  obtain ⟨told, asked, journal, htell, hask, hanswers⟩ := h
  refine ⟨told, asked.mapError .carried, journal, htell, ?_, fun position => ?_⟩
  · rw [Adapter.passing, Action.mapError, hask]
    cases asked with
    | ok position => rfl
    | error error => rfl
  · rw [mapError_eq_ok_iff, hanswers]

/-- Another account of the bound is as good. -/
theorem of_iff {bound' : Nat → Prop} {ask : Action ε' ρ σ Nat}
    (h : AsksAlike bound tell ask frame) (hbound : ∀ position, bound position ↔ bound' position) :
    AsksAlike bound' tell ask frame := by
  obtain ⟨told, asked, journal, htell, hask, hanswers⟩ := h
  refine ⟨told, asked, journal, htell, hask, fun position => ?_⟩
  rw [hanswers, hbound]

end AsksAlike

/-- A seek that goes nowhere leads to where the raw cursor stands already, unless that is before the
extent or past the limit. -/
theorem Extent.destination_nowhere {extent : Extent} {cursor raw : Nat} {limit : Option Nat} :
    extent.destination 0 .current cursor limit = .ok raw ↔
      raw = cursor ∧ cursor < positionLimit ∧ extent.offset ≤ cursor ∧
        ∀ bound ∈ limit, cursor - extent.offset ≤ bound := by
  have hplausible : plausibleDistance 0 = true := rfl
  rw [destination_eq_ok_iff]
  simp only [goal, hplausible, true_and, reduceCtorEq, false_implies]
  constructor
  · rintro ⟨hgoal, hraw, hlimit, hbound⟩
    refine ⟨by omega, by omega, by omega, fun bound hmem => ?_⟩
    have hle := hbound bound hmem
    omega
  · rintro ⟨rfl, hlimit, hoffset, hbound⟩
    refine ⟨by omega, by omega, hlimit, fun bound hmem => ?_⟩
    have hle := hbound bound hmem
    omega

/-- In any window the seek that goes nowhere answers the position that is told, as far as the limit
lets it. -/
theorem Window.asksAlike (window : Window) {frame : Frame ρ σ} (hrests : device.Rests frame.world)
    (limit : Option Nat) :
    AsksAlike (fun position => ∀ bound ∈ limit, position ≤ bound) (window.tell device)
      (window.seek device 0 .current limit) frame := by
  have hcursor : (window.cursorFor device 0 .current : Action FileError ρ σ Nat) =
      Action.call window.name .tell device.position :=
    if_pos ⟨rfl, rfl⟩
  rcases frame with ⟨book, world, journal⟩
  cases hrests with
  | @lost fault hposition =>
    refine ⟨.error (.ofFault window.name .tell fault), .error (.ofFault window.name .tell fault),
      journal, ?_, ?_, fun position => by simp⟩
    · rw [tell_apply, hposition]
      rfl
    · rw [seek_eq, hcursor, Action.bind_of_error (Action.call_of_error _ _ hposition)]
      rfl
  | @placed raw hraw hposition hseek =>
    have htell : window.tell device ⟨book, world, journal⟩ =
        Action.ofExcept ((window.extent.logical raw).mapError (.refused window.name))
          ⟨book, world, journal⟩ := by
      rw [tell_apply, hposition]
      simp only [logical]
      cases window.extent.logical raw with
      | ok position => rfl
      | error reason => rfl
    have htold : window.cursorFor device 0 .current ⟨book, world, journal⟩ =
        .ok raw ⟨book, world, journal⟩ := by
      rw [hcursor]
      exact Action.call_of_ok _ _ hposition
    cases hdestination : window.extent.destination 0 .current raw limit with
    | error reason =>
      refine ⟨_, .error (.refused window.name reason), journal, htell, ?_, fun position => ?_⟩
      · exact seek_of_destination_error htold hdestination
      · simp only [reduceCtorEq, false_iff, mapError_eq_ok_iff, Extent.logical_eq_ok_iff]
        rintro ⟨hlogical, hbound⟩
        have hinside : raw - window.extent.offset = position := by omega
        have hok : window.extent.destination 0 .current raw limit = .ok raw := by
          refine Extent.destination_nowhere.mpr ⟨rfl, hraw, by omega, ?_⟩
          rwa [hinside]
        rw [hdestination] at hok
        cases hok
    | ok landed =>
      obtain ⟨rfl, -, hoffset, hbound⟩ := Extent.destination_nowhere.mp hdestination
      refine ⟨_, .ok (landed - window.extent.offset),
        .sought window.name 0 .current landed :: journal, htell, ?_, fun position => ?_⟩
      · exact seek_of_destination_ok htold hdestination hseek
      · simp only [mapError_eq_ok_iff, Extent.logical_eq_ok_iff, Except.ok.injEq]
        constructor
        · rintro rfl
          exact ⟨by omega, hbound⟩
        · rintro ⟨hlogical, -⟩
          omega

/-! ## Inputs and outputs -/

/-- An input answers the seek that goes nowhere as far as its extent goes. -/
theorem Input.asksAlike (frame : Frame Input σ) (hrests : device.Rests frame.world) :
    AsksAlike (· ≤ frame.book.extent.length) (tell device) (Adapter.position (seek device))
      frame := by
  rcases frame with ⟨book, world, journal⟩
  cases book with
  | closed => exact ⟨.error _, .error _, journal, rfl, rfl, fun position => by simp⟩
  | opened reader =>
    have hwindow := reader.window.asksAlike hrests (some reader.window.extent.length)
    exact hwindow.passing.of_iff fun position => by simp [extent]

/-- An output answers it wherever it tells a position. -/
theorem Output.asksAlike (frame : Frame Output σ) (hrests : device.Rests frame.world) :
    AsksAlike (fun _ => True) (tell device) (Adapter.position (seek device)) frame := by
  rcases frame with ⟨book, world, journal⟩
  cases book with
  | closed => exact ⟨.error _, .error _, journal, rfl, rfl, fun position => by simp⟩
  | opened writer =>
    obtain ⟨told, asked, journal', htell, hseek, hanswers⟩ :=
      writer.window.asksAlike hrests none
    have haim : writer.aim 0 .current = writer := rfl
    have hsought : seek device 0 .current ⟨opened writer, world, journal⟩ =
        Action.ofExcept asked ⟨opened writer, world, journal'⟩ := by
      rw [seek, writer_bind, haim]
      cases asked with
      | ok position =>
        rw [Action.bind_of_ok hseek]
        rfl
      | error error =>
        rw [Action.bind_of_error hseek]
        rfl
    refine AsksAlike.passing ⟨told, asked, journal', htell, hsought, fun position => ?_⟩
    rw [hanswers]
    simp

/-! ## Whole runs -/

/-- In worlds of this sort the device always rests, and no call leads out of them. -/
structure Device.AlwaysRests (device : Device σ) (holds : σ → Prop) : Prop
    extends device.Keeps holds where
  close : Call.Leads holds holds device.close
  rests : ∀ world, holds world → device.Rests world

/-- Whatever was asked of an input or an output on this world before, its position is asked for as
it is told, within the extent of an input. -/
def PositionsAgree (device : Device σ) (world : σ) : Prop :=
  (∀ (input : Input) (journal : Journal) (operations : List Input.Operation),
    let after := Action.left (Input.run device operations ⟨input, world, journal⟩)
    AsksAlike (· ≤ after.book.extent.length) (Input.tell device)
      (Adapter.position (Input.seek device)) after) ∧
  ∀ (output : Output) (journal : Journal) (operations : List Output.Operation),
    AsksAlike (fun _ => True) (Output.tell device) (Adapter.position (Output.seek device))
      (Action.left (Output.run device operations ⟨output, world, journal⟩))

/-- A device that always rests is asked as it tells, after any run. -/
theorem Device.AlwaysRests.positionsAgree {holds : σ → Prop} (h : device.AlwaysRests holds)
    {world : σ} (hworld : holds world) : PositionsAgree device world := by
  constructor
  · intro input journal operations
    apply Input.asksAlike
    apply h.rests
    apply Action.Standing.same_iff.mp
    apply (Action.Keeps.runAll (Input.perform_keeps h.toKeeps h.close) operations).left
    exact Action.Standing.same_iff.mpr hworld
  · intro output journal operations
    apply Output.asksAlike
    apply h.rests
    apply Action.Standing.same_iff.mp
    apply (Action.Keeps.runAll (Output.perform_keeps h.toKeeps h.toKeeps.flush h.close)
      operations).left
    exact Action.Standing.same_iff.mpr hworld

/-! ## Streams and files -/

namespace Stream

/-- A stream whose seeks follow no plan. -/
def SeeksFreely (stream : Stream) : Prop :=
  stream.seekPlan = []

variable {stream : Stream}

/-- A move that answers lands where it was sent. -/
theorem eq_target_of_move {target : RawSeek} {position : Nat} {after : Stream}
    (h : stream.move target = .ok position after) :
    (position : Int) = stream.target target ∧ position < positionLimit := by
  simp only [move] at h
  split at h
  · cases h
  · split at h
    · cases h
    · cases h
      omega

/-- A stream whose seeks follow no plan comes back to the position that it tells. -/
theorem device_rests (hplan : stream.SeeksFreely) : Stream.device.Rests stream := by
  have hseek : ∀ target, Stream.device.seek target stream = stream.move target := by
    intro target
    simp only [Stream.device, seek, show stream.seekPlan = [] from hplan]
  have hnowhere : stream.target (.current 0) = stream.cursor := Int.add_zero _
  cases hmove : stream.move (.current 0) with
  | error fault after =>
    obtain ⟨rfl, -⟩ := move_of_error hmove
    exact .lost ((hseek _).trans hmove)
  | ok position after =>
    obtain ⟨hposition, hlimit⟩ := eq_target_of_move hmove
    obtain rfl : position = stream.cursor := by omega
    obtain rfl : after = stream := move_of_ok hmove
    have hback : after.move (.start after.cursor) = after.move (.current 0) := by
      simp [move, target]
    exact .placed hlimit ((hseek _).trans hmove) ((hseek _).trans (hback.trans hmove))

/-- What holds of a plan for seeks, and of all that is left of it, no call of a stream undoes. -/
theorem device_keeps_seekPlan (holds : List Reply → Prop)
    (htail : ∀ plan, holds plan → holds plan.tail) :
    Stream.device.Keeps fun stream => holds stream.seekPlan := by
  have hseek : ∀ target, Call.Leads (fun stream : Stream => holds stream.seekPlan)
      (fun stream => holds stream.seekPlan) (seek target) := by
    intro target stream hplan
    cases hseek : seek target stream with
    | ok position after =>
      rw [seek_of_ok hseek]
      exact htail _ hplan
    | error fault after =>
      rw [(seek_of_error hseek).1]
      exact htail _ hplan
  refine ⟨hseek, ?_, ?_, ?_, ?_⟩
  · intro stream hplan
    simp only [Stream.device, size]
    cases hsaved : seek (.current 0) stream with
    | error fault told => exact (hseek _).of_error hplan hsaved
    | ok saved told =>
      have htold := (hseek _).of_ok hplan hsaved
      dsimp only
      cases hend : seek (.finish 0) told with
      | error fault ended => exact (hseek _).of_error htold hend
      | ok length ended =>
        have hended := (hseek _).of_ok htold hend
        dsimp only
        cases hback : seek (.start saved) ended with
        | error fault after => exact (hseek _).of_error hended hback
        | ok position after => exact (hseek _).of_ok hended hback
  · intro length stream hplan
    cases hread : Stream.device.read length stream with
    | ok bytes after =>
      rw [read_of_ok hread]
      exact hplan
    | error fault after =>
      rw [(read_of_error hread).2]
      exact hplan
  · intro bytes stream hplan
    have htook := stream.writeBy_tookPrefix stream.writePlan bytes
    simp only [Stream.device, writeAll]
    cases hresult : writeBy stream.writePlan bytes stream with
    | ok value after =>
      rw [hresult] at htook
      obtain ⟨writePlan, -, rfl⟩ := htook
      exact hplan
    | error fault after =>
      rw [hresult] at htook
      obtain ⟨-, -, taken, writePlan, -, -, rfl⟩ := htook
      exact hplan
  · intro stream hplan
    simp only [Stream.device, flush]
    cases stream.flushPlan with
    | nil => exact hplan
    | cons reply flushPlan => cases reply <;> exact hplan

/-- A stream whose seeks follow no plan always rests. -/
theorem device_alwaysRests : Stream.device.AlwaysRests SeeksFreely where
  toKeeps := device_keeps_seekPlan (· = []) fun _ => congrArg List.tail
  close _ hplan := hplan
  rests _ hplan := device_rests hplan

end Stream

namespace FileSystem

/-- An open file that is put in its own place changes nothing. -/
theorem setOpened_self {files : FileSystem} {handle : Nat} {file : OpenFile}
    (h : files.opened[handle]? = some file) : files.setOpened handle file = files := by
  obtain ⟨hlt, rfl⟩ := List.getElem?_eq_some_iff.mp h
  rw [setOpened, List.set_getElem_self]

variable {files : FileSystem} {handle : Nat}

/-- An open file that is sought by its cursor comes back to it. -/
theorem rests_of_seeks {file : OpenFile} (length : Nat)
    (hopened : files.opened[handle]? = some file)
    (hseek : ∀ target, (FileSystem.device handle).seek target files =
      let position := seekTarget file.cursor length target
      if position < 0 ∨ filePositionLimit ≤ position then
        .error (.system Errno.invalidArgument) files
      else .ok position.toNat (files.setOpened handle { file with cursor := position.toNat })) :
    (FileSystem.device handle).Rests files := by
  have hcurrent : seekTarget file.cursor length (.current 0) = file.cursor := Int.add_zero _
  have hstart : seekTarget file.cursor length (.start file.cursor) = file.cursor := rfl
  have hsame : files.setOpened handle { file with cursor := (file.cursor : Int).toNat } = files :=
    setOpened_self hopened
  by_cases hcursor : file.cursor < filePositionLimit
  · have hfits : ¬((file.cursor : Int) < 0 ∨ (filePositionLimit : Int) ≤ file.cursor) := by omega
    have hlimit : file.cursor < positionLimit := Nat.lt_trans hcursor (by decide)
    refine .placed hlimit ?_ ?_
    · rw [Device.position, hseek, hcurrent]
      simp only [if_neg hfits, hsame]
      rfl
    · rw [hseek, hstart]
      simp only [if_neg hfits, hsame]
      rfl
  · have hbeyond : (file.cursor : Int) < 0 ∨ (filePositionLimit : Int) ≤ file.cursor := by omega
    apply Device.Rests.lost
    rw [Device.position, hseek, hcurrent]
    simp only [if_pos hbeyond]
    rfl

/-- Any open file comes back to the position that it tells, and so does one that was closed. -/
theorem device_rests (files : FileSystem) (handle : Nat) :
    (FileSystem.device handle).Rests files := by
  cases hlive : files.live? handle with
  | none =>
    apply Device.Rests.lost
    simp only [Device.position, FileSystem.device, seekFile, withOpened, hlive]
    rfl
  | some file =>
    have hopened : files.opened[handle]? = some file := (Option.filter_eq_some_iff.mp hlive).1
    cases hnode : files.node? file.node with
    | none =>
      apply Device.Rests.lost
      simp only [Device.position, FileSystem.device, seekFile, withOpened, hlive, hnode]
      rfl
    | some node =>
      cases node with
      | fifo mode pending =>
        apply Device.Rests.lost
        simp only [Device.position, FileSystem.device, seekFile, withOpened, hlive, hnode]
        rfl
      | special kind =>
        have hlimit : 0 < positionLimit := by decide
        apply Device.Rests.placed hlimit
        · simp only [Device.position, FileSystem.device, seekFile, withOpened, hlive, hnode]
        · simp only [FileSystem.device, seekFile, withOpened, hlive, hnode]
      | file mode contents =>
        refine rests_of_seeks contents.size hopened fun target => ?_
        simp only [FileSystem.device, seekFile, withOpened, hlive, hnode]
        rfl
      | directory | link =>
        refine rests_of_seeks (Contents.size []) hopened fun target => ?_
        simp only [FileSystem.device, seekFile, withOpened, hlive, hnode]
        rfl

/-- Open files always rest. -/
theorem device_alwaysRests (handle : Nat) :
    (FileSystem.device handle).AlwaysRests fun _ => True where
  toKeeps := Device.keeps_trivially _
  close := .trivially _
  rests files _ := device_rests files handle

end FileSystem

/-- On a stream whose seeks follow no plan, and on any open file, the position that is asked for
through the adapter is the position that is told, whatever became of the extent, the cursor and the
books before; only an input that stands past the end of its extent tells a position that cannot be
asked for.  Asking changes nothing. -/
theorem position_agrees_with_tell :
    (∀ stream : Stream, stream.SeeksFreely → PositionsAgree Stream.device stream) ∧
      ∀ (files : FileSystem) (handle : Nat), PositionsAgree (FileSystem.device handle) files :=
  ⟨fun _ hplan => Stream.device_alwaysRests.positionsAgree hplan,
    fun _ handle => (FileSystem.device_alwaysRests handle).positionsAgree trivial⟩

/-- Three bytes with the cursor at their end.  An output whose extent is set to the second of them
tells that it stands behind it, and answers the same when it is asked to go nowhere. -/
theorem position_agrees_with_tell_of_three_bytes :
    (Stream.plain [1, 2, 3] 3).SeeksFreely ∧
      ∃ after journal,
        Action.left (Output.run Stream.device [.setExtent 1 (.bytes 1)]
          ⟨.opened ⟨⟨"out", ⟨0, 3⟩⟩, 0⟩, .plain [1, 2, 3] 3, []⟩) = after ∧
        Output.tell Stream.device after = .ok 2 after ∧
        Adapter.position (Output.seek Stream.device) after = .ok 2 { after with journal } := by
  obtain ⟨told, asked, journal, htell, hask, hanswers⟩ :=
    (position_agrees_with_tell.1 (.plain [1, 2, 3] 3) rfl).2 (.opened ⟨⟨"out", ⟨0, 3⟩⟩, 0⟩) []
      [.setExtent 1 (.bytes 1)]
  have htold : told = .ok 2 := by
    cases told with
    | ok position =>
      cases htell
      rfl
    | error error => cases htell
  obtain rfl : asked = .ok 2 := (hanswers 2).mpr ⟨htold, trivial⟩
  rw [htold] at htell
  exact ⟨rfl, _, journal, rfl, htell, hask⟩

/-- The same three bytes under an input whose extent is set to the first of them.  Its cursor stands
past the end of the extent, at a position that is told and cannot be asked for. -/
theorem position_told_and_refused_past_end :
    ∃ opened after,
      Input.attach Stream.device "in" ⟨(), .plain [1, 2, 3] 3, []⟩ =
        .ok (.opened ⟨⟨"in", ⟨0, 3⟩⟩, 3⟩) opened ∧
      Input.run Stream.device [.setExtent 0 (.bytes 1)]
          ⟨.opened ⟨⟨"in", ⟨0, 3⟩⟩, 3⟩, opened.world, opened.journal⟩ =
        .ok [.ok .nothing] after ∧
      Input.tell Stream.device after = .ok 3 after ∧
      Adapter.position (Input.seek Stream.device) after =
        .error (.failed (.carried (.refused "in" .seekBeyondExtent))) after :=
  ⟨_, _, rfl, rfl, rfl, rfl⟩

end FileWindow

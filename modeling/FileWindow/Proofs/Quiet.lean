import FileWindow.Console
import FileWindow.Copy
import FileWindow.FileResource
import FileWindow.Input.Operation
import FileWindow.Output.Operation
import FileWindow.Proofs.Meeting
import FileWindow.Proofs.Seek

/-!
# Quiet operations

A failure that nobody can be told of is put on record as an error.  Only drops come to that: every
operation that can tell its caller of a failure does so, and puts no error on record, whatever its
device answers.

Main definitions:

- Definition Journal.errors: the errors on record.
- Definition Action.Quiet: an action that puts no error on record.

Main results:

- Theorems Input.perform_quiet and Output.perform_quiet: whatever is asked of a resource.
- Theorems Copy.inChunks_quiet and Copy.adapted_quiet: copies.
- Theorems Input.openPath_quiet, Output.openPath_quiet and FileTask.dump_quiet: files.
-/

namespace FileWindow

variable {ε ε' ρ ρ' σ τ α β : Type}

/-! ## Errors on record -/

/-- Whether an event has the weight of an error. -/
def Event.isError (event : Event) : Bool :=
  event.level == .error

/-- The errors on record, the newest first. -/
def Journal.errors (journal : Journal) : Journal :=
  journal.filter Event.isError

theorem Journal.errors_append (newer older : Journal) :
    Journal.errors (newer ++ older) = newer.errors ++ older.errors :=
  List.filter_append ..

/-- An event that is no error goes unnoticed. -/
theorem Journal.errors_cons_of_eq_false {event : Event} (h : event.isError = false)
    (journal : Journal) : Journal.errors (event :: journal) = journal.errors :=
  List.filter_cons_of_neg (by simp [h])

namespace Action

/-- The action puts no error on record, whatever comes of it. -/
def Quiet (action : Action ε ρ σ α) : Prop :=
  ∀ errors, Keeps (fun frame => frame.journal.errors = errors) action

namespace Quiet

variable {action : Action ε ρ σ α}

/-- A quiet action leaves the errors that it finds. -/
theorem errors_left (h : Quiet action) (frame : Frame ρ σ) :
    (Action.left (action frame)).journal.errors = frame.journal.errors :=
  (h frame.journal.errors).left rfl

theorem pure (value : α) : Quiet (Pure.pure value : Action ε ρ σ α) :=
  fun _ => .pure value

theorem fail (error : ε) : Quiet (Action.fail error : Action ε ρ σ α) :=
  fun _ => .fail error

theorem overflow : Quiet (Action.overflow : Action ε ρ σ α) :=
  fun _ _ hframe => hframe

theorem book : Quiet (Action.book : Action ε ρ σ ρ) :=
  fun _ _ hframe => hframe

theorem setBook (book : ρ) : Quiet (Action.setBook book : Action ε ρ σ Unit) :=
  fun _ _ hframe => hframe

theorem patience (device : Device σ) : Quiet (Action.patience device : Action ε ρ σ Nat) :=
  fun _ _ hframe => hframe

theorem bind {next : α → Action ε ρ σ β} (h : Quiet action) (hnext : ∀ value, Quiet (next value)) :
    Quiet (action >>= next) :=
  fun errors => (h errors).bind fun value => hnext value errors

theorem map {make : α → β} (h : Quiet action) : Quiet (make <$> action) :=
  fun errors => (h errors).map

theorem mapError {tell : ε → ε'} (h : Quiet action) : Quiet (action.mapError tell) :=
  fun errors => (h errors).mapError

theorem observe (h : Quiet action) :
    Quiet (Action.observe action : Action ε' ρ σ (Except ε α)) :=
  fun errors => (h errors).observe

theorem native {action : Action FileError ρ σ α} {value : α → Value} (h : Quiet action) :
    Quiet (Action.native value action) :=
  h.mapError.map

theorem foreign {action : Action Fault ρ σ α} {value : α → Value} (h : Quiet action) :
    Quiet (Action.foreign value action) :=
  h.mapError.map

theorem ofExcept (result : Except ε α) : Quiet (Action.ofExcept result : Action ε ρ σ α) := by
  cases result with
  | ok value => exact .pure value
  | error error => exact .fail error

theorem accept (name : String) (check : Except Refusal α) :
    Quiet (Action.accept name check : Action FileError ρ σ α) :=
  fun _ => .accept name check

/-- A report is quiet unless it is of an error. -/
theorem report {event : Event} (h : event.isError = false) :
    Quiet (Action.report event : Action ε ρ σ Unit) :=
  fun _ _ hframe => (Journal.errors_cons_of_eq_false h _).trans hframe

theorem attempt (request : Call σ α) : Quiet (Action.attempt request : Action ε ρ σ _) := by
  intro errors frame hframe
  simp only [Action.attempt]
  cases request frame.world <;> exact hframe

/-- A call of a device is quiet: its fault is told. -/
theorem call (name : String) (trying : Attempt) (request : Call σ α) :
    Quiet (Action.call name trying request : Action FileError ρ σ α) := by
  refine (attempt request).bind fun outcome => ?_
  cases outcome with
  | ok value => exact .pure value
  | error fault => exact .fail _

theorem ite {condition : Prop} [Decidable condition] {first second : Action ε ρ σ α}
    (hfirst : Quiet first) (hsecond : Quiet second) :
    Quiet (if condition then first else second) := by
  split
  · exact hfirst
  · exact hsecond

theorem onFirst {action : Action ε ρ σ α} (h : Quiet action) :
    Quiet (Action.onFirst action : Action ε (ρ × ρ') σ α) :=
  fun errors => .onFirst fun _ => h errors

theorem onSecond {action : Action ε ρ' σ α} (h : Quiet action) :
    Quiet (Action.onSecond action : Action ε (ρ × ρ') σ α) :=
  fun errors => .onSecond fun _ => h errors

/-- An action on a part of a larger world is as quiet as it is. -/
theorem within {get : τ → σ} {put : σ → τ → τ} (h : Quiet action) :
    Quiet (action.within get put) := by
  intro errors frame hframe
  have hinner := h errors ⟨frame.book, get frame.world, frame.journal⟩ hframe
  simp only [Action.within]
  generalize action ⟨frame.book, get frame.world, frame.journal⟩ = result at hinner
  cases result with
  | ok value after => exact hinner
  | error stop after => cases stop <;> exact hinner

end Quiet

end Action

open FileWindow.Action (Quiet)

/-! ## Windows -/

namespace Window

variable (device : Device σ) (window : Window)

theorem attach_quiet (name : String) (length : Nat) :
    Quiet (attach name length : Action FileError ρ σ Window) :=
  Quiet.bind (.report rfl) fun _ => .pure _

theorem seek_quiet (distance : Int) (whence : Whence) (limit : Option Nat) :
    Quiet (window.seek device distance whence limit : Action FileError ρ σ Nat) := by
  have hcursor : Quiet (window.cursorFor device distance whence : Action FileError ρ σ Nat) :=
    .ite (.call _ _ _) (.pure 0)
  rw [seek_eq]
  exact hcursor.bind fun _ => Quiet.bind (.accept _ _) fun _ =>
    Quiet.bind (.call _ _ _) fun _ => Quiet.bind (.report rfl) fun _ => .accept _ _

theorem tell_quiet : Quiet (window.tell device : Action FileError ρ σ Nat) :=
  Quiet.bind (.call _ _ _) fun _ => .accept _ _

theorem narrow_quiet (offset : Nat) (length : ExtentLength) :
    Quiet (window.narrow device offset length : Action FileError ρ σ Window) := by
  refine Quiet.bind ?_ fun length => Quiet.bind (.report rfl) fun _ => .pure _
  cases length with
  | bytes length => exact .pure length
  | rest =>
    refine Quiet.bind (Quiet.bind (.call _ _ _) fun size => ?_) fun size => .accept _ _
    cases size with
    | none => exact .fail _
    | some size => exact .pure size

theorem widen_quiet : Quiet (window.widen device : Action FileError ρ σ Window) :=
  Quiet.bind (.call _ _ _) fun _ => Quiet.bind (.report rfl) fun _ => .pure _

theorem release_quiet : Quiet (window.release device : Action FileError ρ σ Unit) :=
  Quiet.bind (.report rfl) fun _ => .call _ _ _

end Window

/-- A failure to close that comes behind another is no error. -/
theorem Teardown.closeAfter_quiet {close : Action FileError ρ σ Unit} (h : Quiet close)
    (work : Except FileError α) : Quiet (closeAfter close work) := by
  cases work with
  | ok value => exact h.bind fun _ => .pure value
  | error first =>
    refine h.observe.bind fun outcome => ?_
    cases outcome with
    | ok value => exact .fail first
    | error closeError => exact Quiet.bind (.report rfl) fun _ => .fail first

/-! ## The adapter -/

namespace Adapter

theorem seek_quiet {move : Int → Whence → Action FileError ρ σ Nat}
    (h : ∀ distance whence, Quiet (move distance whence)) (target : RawSeek) :
    Quiet (seek move target) := by
  cases target with
  | start position => exact .ite (h _ _).mapError (.fail _)
  | current distance => exact (h _ _).mapError
  | finish distance => exact (h _ _).mapError

theorem rounds_quiet (device : Device σ) : Quiet (rounds device : Action ε Input σ Nat) :=
  Quiet.book.bind fun _ => (Quiet.patience device).bind fun _ => .pure _

end Adapter

/-! ## Inputs -/

namespace Input

variable (device : Device σ)

theorem attach_quiet (name : String) :
    Quiet (attach device name : Action FileError ρ σ Input) := by
  refine Quiet.bind (.call _ _ _) fun size => ?_
  cases size with
  | none => exact .fail _
  | some size => exact (Window.attach_quiet name size).bind fun _ => .pure _

theorem reader_quiet (operation : OpenOperation) :
    Quiet (reader operation : Action FileError Input σ Reader) := by
  refine Quiet.book.bind fun input => ?_
  cases input with
  | closed => exact .fail _
  | opened reader => exact .pure reader

theorem seek_quiet (distance : Int) (whence : Whence) : Quiet (seek device distance whence) :=
  (reader_quiet .seek).bind fun reader => Window.seek_quiet device reader.window _ _ _

theorem tell_quiet : Quiet (tell device) :=
  (reader_quiet .tell).bind fun reader => Window.tell_quiet device reader.window

theorem setExtent_quiet (offset : Nat) (length : ExtentLength) :
    Quiet (setExtent device offset length) :=
  (reader_quiet _).bind fun reader =>
    (Window.narrow_quiet device reader.window _ _).bind fun _ => .setBook _

theorem unsetExtent_quiet : Quiet (unsetExtent device) :=
  (reader_quiet _).bind fun reader =>
    (Window.widen_quiet device reader.window).bind fun _ =>
      Quiet.bind (.setBook _) fun _ => .pure _

theorem read_quiet (length room : Nat) : Quiet (read device length room) := by
  rw [read_eq]
  refine .ite (Quiet.book.bind fun _ => .fail _) ?_
  refine (reader_quiet .tell).bind fun reader =>
    (Window.tell_quiet device reader.window).bind fun position => ?_
  exact .ite (.pure []) <|
    Quiet.bind (.call _ _ _) fun _ => Quiet.bind (.report rfl) fun _ => .pure _

theorem readExactly_quiet (length room : Nat) : Quiet (readExactly device length room) :=
  (read_quiet device length room).bind fun _ => .ite (.pure _) (Quiet.book.bind fun _ => .fail _)

theorem close_quiet : Quiet (close device) := by
  refine Quiet.book.bind fun input => ?_
  cases input with
  | closed => exact .pure ()
  | opened reader =>
    exact Quiet.bind (.setBook _) fun _ => Window.release_quiet device reader.window

/-- Whatever is asked of an input, no error goes on record. -/
theorem perform_quiet (operation : Operation) : Quiet (perform device operation) := by
  have hseek := seek_quiet device
  have hclose := fun work => Teardown.closeAfter_quiet (α := Nat) (close_quiet device) work
  have hsource : ∀ length, Quiet (Adapter.read device length) :=
    fun length => (read_quiet device _ _).mapError
  cases operation with
  | seek distance whence => exact (hseek _ _).native
  | tell => exact (tell_quiet device).native
  | size => exact (Quiet.book.bind fun _ => .pure _).native
  | setExtent offset length => exact (setExtent_quiet device _ _).native
  | unsetExtent => exact (unsetExtent_quiet device).native
  | read length room => exact (read_quiet device _ _).native
  | readExactly length room => exact (readExactly_quiet device _ _).native
  | readThenClose length =>
    exact ((readExactly_quiet device _ _).observe.bind
      (Teardown.closeAfter_quiet (close_quiet device))).native
  | close => exact (close_quiet device).native
  | closeAfter result => exact (hclose result).native
  | streamSeek target => exact (Adapter.seek_quiet hseek target).foreign
  | streamPosition => exact (Adapter.seek_quiet hseek _).foreign
  | streamRewind => exact ((Adapter.seek_quiet hseek _).bind fun _ => .pure ()).foreign
  | streamRead length => exact (hsource length).foreign
  | streamReadExactly length =>
    exact (Quiet.bind (.patience device) fun _ errors =>
      Transfer.fill_keeps (fun length => hsource length errors) _ _).foreign
  | streamReadToEnd =>
    exact ((Adapter.rounds_quiet device).bind fun _ errors =>
      Transfer.collect_keeps (fun length => hsource length errors) _ _).foreign

end Input

/-! ## Outputs -/

namespace Output

variable (device : Device σ)

theorem attach_quiet (name : String) :
    Quiet (attach device name : Action FileError ρ σ Output) :=
  Quiet.bind (.call _ _ _) fun _ => (Window.attach_quiet name _).bind fun _ => .pure _

theorem writer_quiet (operation : OpenOperation) :
    Quiet (writer operation : Action FileError Output σ Writer) := by
  refine Quiet.book.bind fun output => ?_
  cases output with
  | closed => exact .fail _
  | opened writer => exact .pure writer

theorem seek_quiet (distance : Int) (whence : Whence) : Quiet (seek device distance whence) :=
  (writer_quiet .seek).bind fun writer =>
    (Window.seek_quiet device (writer.aim distance whence).window _ _ _).bind fun _ =>
      Quiet.bind (.setBook _) fun _ => .pure _

theorem tell_quiet : Quiet (tell device) :=
  (writer_quiet .tell).bind fun writer => Window.tell_quiet device writer.window

theorem size_quiet : Quiet (size device) := by
  refine Quiet.book.bind fun output => ?_
  cases output with
  | closed => exact .pure 0
  | opened writer => exact .ite (.pure _) (Quiet.bind (.call _ _ _) fun _ => .pure _)

theorem setExtent_quiet (offset : Nat) (length : ExtentLength) :
    Quiet (setExtent device offset length) :=
  (writer_quiet _).bind fun writer =>
    (Window.narrow_quiet device writer.window _ _).bind fun _ => .setBook _

theorem unsetExtent_quiet : Quiet (unsetExtent device) :=
  (writer_quiet _).bind fun writer =>
    (Window.widen_quiet device writer.window).bind fun _ =>
      Quiet.bind (.setBook _) fun _ => .pure _

theorem write_quiet (buffer : Bytes) (length : Nat) : Quiet (write device buffer length) := by
  refine (writer_quiet .write).bind fun writer => .ite (.pure ()) (.ite (.fail _) ?_)
  exact Quiet.bind (.call _ _ _) fun _ =>
    .ite (Quiet.bind (.setBook _) fun _ => .report rfl) .overflow

theorem overwrite_quiet (buffer : Bytes) (length : Nat) :
    Quiet (overwrite device buffer length) :=
  Quiet.book.bind fun _ =>
    .ite (.fail _) ((write_quiet device buffer length).bind fun _ => .setBook _)

theorem flush_quiet : Quiet (flush device) := by
  refine Quiet.book.bind fun output => ?_
  cases output with
  | closed => exact .pure ()
  | opened writer => exact .call _ _ _

theorem close_quiet : Quiet (close device) := by
  refine Quiet.book.bind fun output => ?_
  cases output with
  | closed => exact .pure ()
  | opened writer =>
    have hflush : Quiet (writer.window.flush device : Action FileError Output σ Unit) :=
      .call _ _ _
    exact hflush.observe.bind fun _ => Quiet.bind (.setBook _) fun _ =>
      (Window.release_quiet device writer.window).observe.bind fun _ =>
        Quiet.bind (.ofExcept _) fun _ => .ofExcept _

theorem detach_quiet : Quiet (detach device) :=
  (writer_quiet .intoStream).bind fun _ => Quiet.bind (.call _ _ _) fun _ => .setBook _

/-- The adapter writes quietly. -/
theorem sink_quiet (bytes : Bytes) : Quiet (Adapter.write device bytes) :=
  (write_quiet device _ _).mapError.bind fun _ => .pure _

theorem writeAll_quiet (bytes : Bytes) : Quiet (Adapter.writeAll device bytes) :=
  Quiet.bind (.patience device) fun _ errors =>
    Transfer.drain_keeps (fun bytes => sink_quiet device bytes errors) _ _

/-- Whatever is asked of an output, no error goes on record. -/
theorem perform_quiet (operation : Operation) : Quiet (perform device operation) := by
  have hseek := seek_quiet device
  have hclose := fun work => Teardown.closeAfter_quiet (α := Nat) (close_quiet device) work
  cases operation with
  | seek distance whence => exact (hseek _ _).native
  | tell => exact (tell_quiet device).native
  | size => exact (size_quiet device).native
  | setExtent offset length => exact (setExtent_quiet device _ _).native
  | unsetExtent => exact (unsetExtent_quiet device).native
  | write buffer length => exact (write_quiet device _ _).native
  | overwrite buffer length => exact (overwrite_quiet device _ _).native
  | writeThenClose buffer length =>
    exact ((write_quiet device _ _).observe.bind
      (Teardown.closeAfter_quiet (close_quiet device))).native
  | flush => exact (flush_quiet device).native
  | close => exact (close_quiet device).native
  | closeAfter result => exact (hclose result).native
  | streamSeek target => exact (Adapter.seek_quiet hseek target).foreign
  | streamPosition => exact (Adapter.seek_quiet hseek _).foreign
  | streamRewind => exact ((Adapter.seek_quiet hseek _).bind fun _ => .pure ()).foreign
  | streamWrite bytes => exact (sink_quiet device bytes).foreign
  | streamWriteAll bytes => exact (writeAll_quiet device bytes).foreign
  | streamFlush => exact (flush_quiet device).mapError.foreign

end Output

/-! ## Copies -/

namespace Copy

variable (source target : Device σ)

theorem inChunks_quiet (chunk : Nat) : Quiet (inChunks source target chunk) :=
  (Adapter.rounds_quiet source).onFirst.bind fun _ errors =>
    Transfer.pump_keeps ((Input.read_quiet source _ _).onFirst errors)
      (fun _ => (Output.write_quiet target _ _).onSecond errors) _ _

theorem adapted_quiet : Quiet (adapted source target) :=
  (Adapter.rounds_quiet source).onFirst.bind fun _ errors =>
    Transfer.pump_keeps ((Input.read_quiet source _ _).mapError.onFirst errors)
      (fun _ => (Output.writeAll_quiet target _).onSecond errors) _ _

end Copy

/-! ## Files -/

theorem openNamed_quiet (options : OpenOptions) (path : String) (reportMissing : Bool) :
    Quiet (openNamed options path reportMissing : Action FileError ρ FileSystem Nat) := by
  refine Quiet.bind (.attempt _) fun outcome => ?_
  cases outcome with
  | ok handle => exact .pure handle
  | error fault => exact .fail _

theorem attachOpened_quiet {attach : Action FileError ρ FileSystem α} (h : Quiet attach)
    (handle : Nat) : Quiet (attachOpened handle attach) := by
  refine h.observe.bind fun outcome => ?_
  cases outcome with
  | ok book => exact .pure _
  | error error => exact Quiet.bind (.attempt _) fun _ => .fail error

theorem Input.openPath_quiet (path : String) :
    Quiet (openPath path : Action FileError ρ FileSystem (Input × Nat)) :=
  (openNamed_quiet .reading path true).bind fun handle =>
    attachOpened_quiet (attach_quiet _ path) handle

theorem Output.openPath_quiet (path : String) (mode : OutputMode) (permissions : Option Nat) :
    Quiet (openPath path mode permissions : Action FileError ρ FileSystem (Output × Nat)) :=
  (openNamed_quiet (.output mode permissions) path false).bind fun handle =>
    attachOpened_quiet (attach_quiet _ path) handle

theorem Output.openStandard_quiet (force : Bool) :
    Quiet (openStandard force : Action FileError ρ Console (Option Output)) := by
  intro errors frame hframe
  simp only [openStandard]
  split
  · exact (Journal.errors_cons_of_eq_false rfl _).trans hframe
  · exact (attach_quiet Console.device standardOutputName).map errors frame hframe

namespace FileTask

theorem dump_quiet (path : String) (data : Bytes) : Quiet (dump path data) :=
  Quiet.bind (.report rfl) fun _ =>
    (Output.openPath_quiet path _ _).bind fun _ => Quiet.bind (.setBook _) fun _ =>
      (Output.write_quiet _ _ _).observe.bind
        (Teardown.closeAfter_quiet (Output.close_quiet _))

theorem succeeds_quiet (change : FileSystem → Except Fault FileSystem) :
    Quiet (succeeds change : Action ε ρ FileSystem Bool) := by
  refine Quiet.bind (.attempt _) fun outcome => ?_
  cases outcome with
  | ok value => exact .pure true
  | error fault => exact .pure false

theorem removeQuietly_quiet (path : String) :
    Quiet (removeQuietly path : Action ε ρ FileSystem Bool) := by
  have hreport : Quiet (do
      Action.report (.notRemoved path)
      return false : Action ε ρ FileSystem Bool) :=
    Quiet.bind (.report rfl) fun _ => .pure false
  refine (succeeds_quiet _).bind fun removed => .ite (.pure true) ?_
  refine (succeeds_quiet _).bind fun writable => .ite ?_ hreport
  exact (succeeds_quiet _).bind fun removed => .ite (.pure true) hreport

theorem remove_quiet (path : String) : Quiet (remove path : Action FileError ρ FileSystem Unit) :=
  (removeQuietly_quiet path).bind fun _ => .ite (.pure ()) (.call _ _ _)

end FileTask

end FileWindow

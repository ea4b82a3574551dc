import FileWindow.Proofs.Absorbing
import FileWindow.Proofs.Accounts
import FileWindow.Proofs.Attribution
import FileWindow.Proofs.OutputWindow
import FileWindow.Proofs.Rows
import FileWindow.Proofs.StreamCalls

/-!
# Outputs that cannot be measured

A pipe takes bytes behind those it took before, and cannot be positioned.  On a pipe an output knows
its size by counting alone.  What was counted and what the pipe took are two accounts: overwriting
and writes that fail put bytes into the pipe that are not counted, and setting the extent starts the
count anew.  Both accounts are told here, over any run.

Main definitions:

- Definition Stream.IsPipe, Stream.Took: a pipe, and one that took some bytes.
- Definition Output.Operation.payload, Output.Operation.Hands: what an operation hands to the pipe.
- Definition Output.Operation.counting, Output.tally: what the outcomes of operations count.
- Definition Output.Operation.needsPlace: the operations that a pipe cannot serve.
- Definition Output.OnPipe: an output that stands on a pipe.
- Definition Action.Declines: an action that fails and leaves its frame alone.

Main results:

- Theorem Stream.IsPipe.writeBy: a write to a pipe puts a prefix of its bytes behind the rest.
- Theorem Output.OnPipe.perform_piped: one operation, in both accounts.
- Theorem Output.OnPipe.run_piped: any run, in both accounts.
- Theorem Output.size_of_pipe: an output on a pipe tells as its size what it counted.
-/

namespace FileWindow

variable {ε ρ σ α β : Type}

/-! ## Pipes -/

namespace Stream

/-- A stream that cannot be positioned, and whose cursor is where its data end. -/
structure IsPipe (stream : Stream) : Prop where
  cursor : stream.cursor = stream.data.length
  seekable : stream.seekable = false
  seekPlan : stream.seekPlan = []

/-- A pipe that took some bytes has them behind those it had, and is a pipe still. -/
structure Took (stream : Stream) (bytes : Bytes) (after : Stream) : Prop where
  isPipe : after.IsPipe
  data : after.data = stream.data ++ bytes

/-- What was taken bit by bit was taken. -/
theorem Took.trans {stream between after : Stream} {first second : Bytes}
    (h : stream.Took first between) (h' : between.Took second after) :
    stream.Took (first ++ second) after :=
  ⟨h'.isPipe, by rw [h'.data, h.data, List.append_assoc]⟩

namespace IsPipe

variable {stream : Stream}

/-- A pipe that took nothing. -/
theorem took_nil (h : stream.IsPipe) : stream.Took [] stream :=
  ⟨h, (List.append_nil _).symm⟩

theorem seek (h : stream.IsPipe) (target : RawSeek) :
    device.seek target stream = .error (.plain .unsupported) stream := by
  simp [device, Stream.seek, h.seekPlan, move, h.seekable]

theorem size (h : stream.IsPipe) : device.size stream = .ok none stream := by
  have hseek : Stream.seek (.current 0) stream = .error (.plain .unsupported) stream :=
    h.seek (.current 0)
  simp only [device, Stream.size, hseek]

/-- Bytes put at the end of the data are put behind them. -/
theorem took_put (h : stream.IsPipe) (bytes : Bytes) : stream.Took bytes (stream.put bytes) := by
  have hdata : Bytes.overlay stream.data stream.cursor bytes = stream.data ++ bytes := by
    have hend := Bytes.overlay_append stream.data [] 0 bytes
    rw [List.append_nil, Nat.add_zero, ← h.cursor] at hend
    rw [hend]
    by_cases hbytes : bytes = []
    · rw [hbytes]
      rfl
    · rw [Bytes.overlay_of_ne_nil _ _ hbytes]
      simp [Bytes.resize]
  refine ⟨⟨?_, h.seekable, h.seekPlan⟩, hdata⟩
  show stream.cursor + bytes.length = (Bytes.overlay stream.data stream.cursor bytes).length
  rw [hdata, h.cursor, List.length_append]

/-- Another plan for writes makes no difference to what was taken. -/
theorem took_writePlan (h : stream.IsPipe) (writePlan : List Reply) :
    stream.Took [] { stream with writePlan } :=
  ⟨⟨h.cursor, h.seekable, h.seekPlan⟩, (List.append_nil _).symm⟩

end IsPipe

/-- What a pipe took of some bytes: all of them if the write answers, else some that they begin
with. -/
def TookOf (stream : Stream) (bytes : Bytes) : EStateM.Result Fault Stream Unit → Prop
  | .ok () after => stream.Took bytes after
  | .error _ after => ∃ taken, taken <+: bytes ∧ stream.Took taken after

/-- A pipe takes a prefix of what is written to it, whatever the plan says. -/
theorem IsPipe.writeBy {stream : Stream} (h : stream.IsPipe) (plan : List Reply) (bytes : Bytes) :
    stream.TookOf bytes (writeBy plan bytes stream) := by
  have hput : ∀ (taken : Bytes) (writePlan : List Reply),
      stream.Took taken { stream.put taken with writePlan } := by
    intro taken writePlan
    have htook := h.took_put taken
    exact ⟨(htook.isPipe.took_writePlan writePlan).isPipe, htook.data⟩
  have htook := stream.writeBy_tookPrefix plan bytes
  cases hresult : Stream.writeBy plan bytes stream with
  | ok value after =>
    rw [hresult] at htook
    obtain ⟨writePlan, -, rfl⟩ := htook
    exact hput bytes writePlan
  | error fault after =>
    rw [hresult] at htook
    obtain ⟨-, -, taken, writePlan, -, -, rfl⟩ := htook
    exact ⟨bytes.take taken, List.take_prefix _ _, hput _ writePlan⟩

theorem IsPipe.write {stream : Stream} (h : stream.IsPipe) (bytes : Bytes) :
    stream.TookOf bytes (device.write bytes stream) :=
  h.writeBy stream.writePlan bytes

/-- An empty pipe with its plans: it refuses every seek. -/
def emptyPipe (capacity : Option Nat) (readPlan writePlan flushPlan : List Reply) : Stream where
  data := []
  cursor := 0
  capacity := capacity
  seekable := false
  readPlan := readPlan
  writePlan := writePlan
  seekPlan := []
  flushPlan := flushPlan

theorem isPipe_emptyPipe (capacity : Option Nat) (readPlan writePlan flushPlan : List Reply) :
    (emptyPipe capacity readPlan writePlan flushPlan).IsPipe :=
  ⟨rfl, rfl, rfl⟩

/-- A flush hands nothing to a pipe. -/
theorem flush_leads (stream : Stream) :
    Call.Leads (fun before => stream.Took [] before) (fun after => stream.Took [] after)
      device.flush := by
  intro before hbefore
  have hplan : ∀ flushPlan, stream.Took [] { before with flushPlan } :=
    fun _ => ⟨⟨hbefore.isPipe.cursor, hbefore.isPipe.seekable, hbefore.isPipe.seekPlan⟩,
      hbefore.data⟩
  simp only [device, flush]
  split
  · rename_i hresult
    split at hresult
    · cases hresult
      exact hbefore
    · split at hresult
      · cases hresult
      · cases hresult
        exact hplan _
  · rename_i hresult
    split at hresult
    · cases hresult
    · split at hresult
      · cases hresult
        exact hplan _
      · cases hresult

end Stream

/-! ## Failing without a trace -/

namespace Action

/-- The action fails and leaves its frame alone. -/
def Declines (frame : Frame ρ σ) (action : Action ε ρ σ α) : Prop :=
  ∃ error, action frame = .error (.failed error) frame

namespace Declines

variable {frame : Frame ρ σ}

theorem fail (error : ε) : Declines frame (Action.fail error : Action ε ρ σ α) :=
  ⟨error, rfl⟩

/-- Nothing comes behind a failure. -/
theorem bind {action : Action ε ρ σ α} (h : Declines frame action) (next : α → Action ε ρ σ β) :
    Declines frame (action >>= next) := by
  rcases h with ⟨error, haction⟩
  exact ⟨error, by simp only [Bind.bind, EStateM.bind, haction]⟩

/-- What comes behind an answer that leaves the frame alone may fail as well. -/
theorem behind {action : Action ε ρ σ α} {next : α → Action ε ρ σ β} {value : α}
    (haction : action frame = .ok value frame) (h : Declines frame (next value)) :
    Declines frame (action >>= next) := by
  rcases h with ⟨error, hnext⟩
  exact ⟨error, by simp only [Bind.bind, EStateM.bind, haction, hnext]⟩

/-- A call fails without a trace if the device does. -/
theorem call {request : Call σ α} {fault : Fault}
    (h : request frame.world = .error fault frame.world) (name : String) (trying : Attempt) :
    Declines frame (Action.call name trying request : Action FileError ρ σ α) :=
  ⟨_, call_of_error name trying h⟩

/-- A check refuses, or goes on with the frame as it was. -/
theorem accept_bind {check : Except Refusal α} {next : α → Action FileError ρ σ β}
    (h : ∀ value, Declines frame (next value)) (name : String) :
    Declines frame (accept name check >>= next) := by
  cases check with
  | ok value => exact h value
  | error reason => exact ⟨_, rfl⟩

theorem native {action : Action FileError ρ σ α} (h : Declines frame action) (value : α → Value) :
    Declines frame (Action.native value action) := by
  rcases h with ⟨error, haction⟩
  exact ⟨.error error, by simp only [Action.native, Functor.map, EStateM.map, mapError, haction,
    Stop.map]⟩

/-- To fail without a trace is to leave the frame alone. -/
theorem idle {action : Action ε ρ σ α} (h : Declines frame action) :
    Idle (fun outcome => ∃ error, outcome = .error error) frame action := by
  rcases h with ⟨error, haction⟩
  exact ⟨.error error, observe_of_failed haction, error, rfl⟩

end Declines

end Action

open FileWindow.Action (Declines History Idle Meets)

/-- A seek of a pipe fails, be it by a check, on asking for the cursor, or on moving it. -/
theorem Window.seek_declines {frame : Frame ρ Stream} (h : frame.world.IsPipe) (window : Window)
    (distance : Int) (whence : Whence) (limit : Option Nat) :
    Declines frame (window.seek Stream.device distance whence limit) := by
  have hcheck : ∀ cursor, Declines frame (do
      let raw ← Action.accept window.name
        (window.extent.destination distance whence cursor limit)
      let landed ← Action.call window.name .seek (Stream.device.seek (.start raw))
      Action.report (.sought window.name distance whence landed)
      window.logical landed) :=
    fun _ => .accept_bind (fun raw => (Declines.call (h.seek (.start raw)) _ _).bind _) _
  rw [seek_eq, cursorFor]
  split
  · exact (Declines.call (h.seek (.current 0)) _ _).bind _
  · exact .behind rfl (hcheck 0)

/-! ## One operation -/

namespace Output

/-- The operation needs to know a place in the data, or where they end. -/
def Operation.needsPlace : Operation → Bool
  | .seek .. | .tell | .unsetExtent | .setExtent _ .rest => true
  | _ => false

/-- The bytes that an operation hands to the device. -/
def Operation.payload : Operation → Bytes
  | .write buffer length | .overwrite buffer length => buffer.take length
  | _ => []

/-- How many bytes an operation is to hand to the device. -/
def Operation.requested : Operation → Nat
  | .write _ length | .overwrite _ length => length
  | _ => 0

/-- The bytes that were taken of an operation, by what came of it: as many as asked for if it
answered, and some that its bytes begin with if it failed. -/
def Operation.Hands (operation : Operation) (_ : σ) : Except Problem Value → Bytes → Prop
  | .ok _, bytes => bytes = operation.payload ∧ bytes.length = operation.requested
  | .error _, bytes => bytes <+: operation.payload

/-- The count after an operation, by what came of it.  Writes that answered are counted, and an
extent that was set begins the count anew; nothing else counts. -/
def Operation.counting (written : Nat) : Operation × Except Problem Value → Nat
  | (.write _ length, .ok _) => written + length
  | (.setExtent .., .ok _) => 0
  | _ => written

/-- The count after some operations, by what came of each. -/
def tally (written : Nat) (operations : List Operation) (outcomes : List (Except Problem Value)) :
    Nat :=
  (operations.zip outcomes).foldl Operation.counting written

/-- An output stands on a pipe, and counted no more than the pipe has. -/
structure OnPipe (written : Nat) (frame : Frame Output Stream) : Prop where
  book : ∃ window, frame.book = .opened ⟨window, written⟩
  isPipe : frame.world.IsPipe
  written_le : written ≤ frame.world.data.length

namespace OnPipe

variable {written : Nat} {frame : Frame Output Stream}

/-- What needs a place fails on a pipe, and leaves everything as it was. -/
theorem declines (h : OnPipe written frame) {operation : Operation}
    (hplace : operation.needsPlace = true) : Declines frame (perform Stream.device operation) := by
  obtain ⟨window, hbook⟩ := h.book
  cases operation with
  | seek distance whence =>
    refine Declines.native ?_ _
    rw [Output.seek, Declines, writer_bind_of_opened _ hbook]
    exact (Window.seek_declines h.isPipe _ distance whence none).bind _
  | tell =>
    refine Declines.native ?_ _
    rw [Output.tell, Declines, writer_bind_of_opened _ hbook]
    exact (Declines.call (h.isPipe.seek (.current 0)) _ _).bind _
  | unsetExtent =>
    refine Declines.native ?_ _
    rw [Output.unsetExtent, Declines, writer_bind_of_opened _ hbook]
    exact ((Declines.call (h.isPipe.seek (.finish 0)) _ _).bind _).bind _
  | setExtent offset length =>
    cases length with
    | bytes length => cases hplace
    | rest =>
      have hsize : window.rawSize Stream.device frame = .ok none frame :=
        Action.call_of_ok _ _ h.isPipe.size
      refine Declines.native ?_ _
      rw [Output.setExtent, Declines, writer_bind_of_opened _ hbook]
      exact ((((Declines.fail _).behind hsize).bind _).bind _).bind _
  | _ => cases hplace

/-- The size of a pipe is what was counted. -/
theorem size (h : OnPipe written frame) :
    perform Stream.device .size frame = .ok (.number written) frame := by
  rcases frame with ⟨book, world, journal⟩
  obtain ⟨window, rfl⟩ := h.book
  have hsize : window.rawSize Stream.device ⟨opened ⟨window, written⟩, world, journal⟩ =
      .ok none ⟨opened ⟨window, written⟩, world, journal⟩ :=
    Action.call_of_ok _ _ h.isPipe.size
  have hanswer : Output.size Stream.device ⟨opened ⟨window, written⟩, world, journal⟩ =
      .ok written ⟨opened ⟨window, written⟩, world, journal⟩ := by
    rw [Output.size, Action.book_bind]
    show (window.rawSize Stream.device >>= fun measured => pure (measured.getD written) :
      Action FileError Output Stream Nat) _ = _
    simp only [Bind.bind, EStateM.bind, hsize]
    rfl
  exact Action.native_of_ok .number hanswer

/-- What came of an operation on a pipe: the pipe took what the operation handed to it, and the
output counted what the outcome tells. -/
def Served (written : Nat) (stream : Stream) (operation : Operation)
    (outcome : Except Problem Value) (after : Frame Output Stream) : Prop :=
  ∃ bytes, operation.Hands stream outcome bytes ∧ stream.Took bytes after.world ∧
    OnPipe (Operation.counting written (operation, outcome)) after

/-- A result is as a pipe serves the operation; a count leaves the range of positions only where the
data of the pipe do. -/
def Serves (written : Nat) (stream : Stream) (operation : Operation) :
    EStateM.Result (Stop Problem) (Frame Output Stream) Value → Prop :=
  Meets (fun value => Served written stream operation (.ok value))
    (fun problem => Served written stream operation (.error problem))
    (fun after => positionLimit ≤ after.world.data.length)

/-- An operation that hands over nothing and failed without a trace. -/
theorem serves_of_declines (h : OnPipe written frame) {operation : Operation}
    (hdeclines : Declines frame (perform Stream.device operation)) :
    Serves written frame.world operation (perform Stream.device operation frame) := by
  obtain ⟨problem, hresult⟩ := hdeclines
  rw [hresult]
  have hcount : Operation.counting written (operation, .error problem) = written := by
    cases operation <;> rfl
  refine ⟨[], List.nil_prefix, h.isPipe.took_nil, ?_⟩
  rw [hcount]
  exact h

/-- A write to an output on a pipe. -/
theorem write_meets (h : OnPipe written frame) (buffer : Bytes) (length : Nat) :
    Meets
      (fun _ after => frame.world.Took (buffer.take length) after.world ∧
        (buffer.take length).length = length ∧ OnPipe (written + length) after)
      (fun _ after => ∃ taken, taken <+: buffer.take length ∧ frame.world.Took taken after.world ∧
        OnPipe written after)
      (fun after => positionLimit ≤ after.world.data.length)
      (write Stream.device buffer length frame) := by
  rcases frame with ⟨book, world, journal⟩
  obtain ⟨window, rfl⟩ := h.book
  rw [write_opened]
  by_cases hnone : length = 0
  · subst hnone
    exact ⟨h.isPipe.took_nil, rfl, h⟩
  rw [if_neg hnone]
  split
  · exact ⟨[], List.nil_prefix, h.isPipe.took_nil, h⟩
  rename_i hlength
  have hfits : (buffer.take length).length = length := by
    simp only [Bool.or_eq_true, not_or, decide_eq_true_eq] at hlength
    rw [List.length_take]
    omega
  have hwrite := h.isPipe.write (buffer.take length)
  have hcount := h.written_le
  cases hresult : Stream.device.write (buffer.take length) world with
  | error fault after =>
    rw [hresult] at hwrite
    obtain ⟨taken, htaken, htook⟩ := hwrite
    refine ⟨taken, htaken, htook, ⟨window, rfl⟩, htook.isPipe, ?_⟩
    rw [htook.data, List.length_append]
    exact Nat.le_add_right_of_le hcount
  | ok value after =>
    rw [hresult] at hwrite
    have htook : world.Took (buffer.take length) after := hwrite
    have hgrown : written + length ≤ after.data.length := by
      rw [htook.data, List.length_append, hfits]
      exact Nat.add_le_add_right hcount length
    dsimp only
    split
    · exact ⟨htook, hfits, ⟨_, rfl⟩, htook.isPipe, hgrown⟩
    · rename_i hlimit
      exact Nat.le_trans (Nat.le_of_not_lt hlimit) hgrown

/-- Overwriting hands over its bytes as a write does, and is not counted. -/
theorem overwrite_meets (h : OnPipe written frame) (buffer : Bytes) (length : Nat) :
    Meets
      (fun _ after => frame.world.Took (buffer.take length) after.world ∧
        (buffer.take length).length = length ∧ OnPipe written after)
      (fun _ after => ∃ taken, taken <+: buffer.take length ∧ frame.world.Took taken after.world ∧
        OnPipe written after)
      (fun after => positionLimit ≤ after.world.data.length)
      (overwrite Stream.device buffer length frame) := by
  have hwrite := h.write_meets buffer length
  have hbook := h.book
  have hplace : ¬ (frame.book.isOpen && Stream.device.isStandardOutput) = true := by
    simp [Stream.device]
  rw [overwrite, Action.book_bind, if_neg hplace]
  refine Meets.bind hwrite ?_
  rintro _ after ⟨htook, hlength, hafter⟩
  exact ⟨htook, hlength, hbook, hafter.isPipe,
    Nat.le_trans (Nat.le_add_right _ _) hafter.written_le⟩

/-- Flushing hands over nothing, whatever comes of it. -/
theorem flush_meets (h : OnPipe written frame) :
    Meets (fun _ after => frame.world.Took [] after.world ∧ OnPipe written after)
      (fun _ after => frame.world.Took [] after.world ∧ OnPipe written after) (fun _ => False)
      (flush Stream.device frame) := by
  rcases frame with ⟨book, world, journal⟩
  obtain ⟨window, rfl⟩ := h.book
  have hstays : ∀ after : Frame Output Stream,
      after.book = opened ⟨window, written⟩ ∧ world.Took [] after.world →
        world.Took [] after.world ∧ OnPipe written after := by
    rintro after ⟨hbook, htook⟩
    refine ⟨htook, ⟨window, hbook⟩, htook.isPipe, ?_⟩
    rw [htook.data, List.append_nil]
    exact h.written_le
  have hflush : Meets
      (fun _ after => after.book = opened ⟨window, written⟩ ∧ world.Took [] after.world)
      (fun _ after => after.book = opened ⟨window, written⟩ ∧ world.Took [] after.world)
      (fun _ => False)
      (window.flush Stream.device ⟨opened ⟨window, written⟩, world, journal⟩) :=
    Meets.call (Stream.flush_leads world) _ _ h.isPipe.took_nil
  exact hflush.imp (fun _ => hstays) (fun _ => hstays) fun _ h => h

/-- Setting the extent to so many bytes asks nothing of the pipe, and begins the count anew. -/
theorem setExtent_meets (h : OnPipe written frame) (offset length : Nat) :
    Meets (fun _ after => frame.world.Took [] after.world ∧ OnPipe 0 after) (fun _ _ => False)
      (fun _ => False) (setExtent Stream.device offset (.bytes length) frame) := by
  obtain ⟨window, hbook⟩ := h.book
  rw [setExtent, writer_bind_of_opened _ hbook]
  exact ⟨h.isPipe.took_nil, ⟨_, rfl⟩, h.isPipe, Nat.zero_le _⟩

/-- One operation on a pipe: the pipe takes what it hands over, and the output counts what its
outcome tells. -/
theorem perform_piped (h : OnPipe written frame) {operation : Operation}
    (hdirect : operation.isDirect = true) (hstays : operation.closes = false) :
    Serves written frame.world operation (perform Stream.device operation frame) := by
  cases operation with
  | seek | tell | unsetExtent => exact h.serves_of_declines (h.declines rfl)
  | size =>
    rw [h.size]
    exact ⟨[], ⟨rfl, rfl⟩, h.isPipe.took_nil, h⟩
  | setExtent offset length =>
    cases length with
    | rest => exact h.serves_of_declines (h.declines rfl)
    | bytes length =>
      refine Meets.map (Meets.mapError ((h.setExtent_meets offset length).imp ?_ ?_ ?_))
      · rintro _ after ⟨htook, hafter⟩
        exact ⟨[], ⟨rfl, rfl⟩, htook, hafter⟩
      · exact fun _ _ hno => hno.elim
      · exact fun _ hno => hno.elim
  | write buffer length =>
    refine Meets.map (Meets.mapError ((h.write_meets buffer length).imp ?_ ?_ fun _ h => h))
    · rintro _ after ⟨htook, hlength, hafter⟩
      exact ⟨_, ⟨rfl, hlength⟩, htook, hafter⟩
    · exact fun _ after hafter => hafter
  | overwrite buffer length =>
    refine Meets.map (Meets.mapError ((h.overwrite_meets buffer length).imp ?_ ?_ fun _ h => h))
    · rintro _ after ⟨htook, hlength, hafter⟩
      exact ⟨_, ⟨rfl, hlength⟩, htook, hafter⟩
    · exact fun _ after hafter => hafter
  | flush =>
    refine Meets.map (Meets.mapError (h.flush_meets.imp ?_ ?_ fun _ hno => hno.elim))
    · rintro _ after ⟨htook, hafter⟩
      exact ⟨[], ⟨rfl, rfl⟩, htook, hafter⟩
    · rintro _ after ⟨htook, hafter⟩
      exact ⟨[], List.nil_prefix, htook, hafter⟩
  | close => cases hstays
  | _ => cases hdirect

/-- Any run on a pipe: the pipe takes what the operations hand over, one after the other, and the
output counts what their outcomes tell. -/
theorem run_piped {operations : List Operation} (h : OnPipe written frame)
    (hdirect : ∀ operation ∈ operations, operation.isDirect = true ∧ operation.closes = false)
    (hlength :
      (Action.left (run Stream.device operations frame)).world.data.length < positionLimit) :
    ∃ outcomes bytes after, run Stream.device operations frame = .ok outcomes after ∧
      History (perform Stream.device) Operation.Hands operations frame outcomes bytes after ∧
      frame.world.Took bytes after.world ∧ OnPipe (tally written operations outcomes) after := by
  induction operations generalizing written frame with
  | nil => exact ⟨[], [], frame, rfl, .nil _, h.isPipe.took_nil, h⟩
  | cons operation row ih =>
    obtain ⟨hfirst, hrow⟩ := List.forall_mem_cons.mp hdirect
    have hserves := h.perform_piped hfirst.1 hfirst.2
    have hobserved : Meets
        (Action.ByOutcome (fun value => Served written frame.world operation (.ok value))
          fun problem => Served written frame.world operation (.error problem))
        (fun (_ : Problem) _ => False) (fun after => positionLimit ≤ after.world.data.length)
        ((Action.observe (perform Stream.device operation) :
          Action Problem Output Stream (Except Problem Value)) frame) :=
      hserves.observed
    cases hstep : (Action.observe (perform Stream.device operation) :
        Action Problem Output Stream (Except Problem Value)) frame with
    | error stop between =>
      rw [run, ← Action.runAll, Action.runAll_cons_of_error hstep] at hlength
      rw [hstep] at hobserved
      cases stop with
      | failed problem => exact hobserved.elim
      | overflow | stalled => exact absurd hlength (Nat.not_lt.mpr hobserved)
    | ok outcome between =>
      have hserved : Served written frame.world operation outcome between := by
        have houtcome := hobserved.of_ok hstep
        cases outcome <;> exact houtcome
      obtain ⟨bytes, hhands, htook, hbetween⟩ := hserved
      rw [run, ← Action.runAll, Action.left_runAll_cons hstep] at hlength
      obtain ⟨outcomes, later, after, hrest, hhistory, htook', hafter⟩ :=
        ih hbetween hrow hlength
      exact ⟨outcome :: outcomes, bytes ++ later, after, Action.runAll_cons_of_ok hstep hrest,
        .cons hstep hhands hhistory, htook.trans htook', hafter⟩

end OnPipe

/-- On a pipe the size that an output tells is what it counted.  The pipe starts empty and refuses
every seek; its plans and its capacity may be anything.  Whatever is asked of the output, short of
closing it and of more bytes than there are positions: all that needs a place in the data fails and
changes nothing; the size is the count, which is that of the writes that answered since the extent
was last set; and the data of the pipe are what the operations handed to it, one after the other,
whole where they answered and in part where they failed. -/
theorem size_of_pipe (capacity : Option Nat) (readPlan writePlan flushPlan : List Reply)
    (name : String) (book : ρ) (journal : Journal) (operations : List Operation)
    (hdirect : ∀ operation ∈ operations, operation.isDirect = true ∧ operation.closes = false)
    (hlength : (Action.left (run Stream.device operations
      ⟨.opened ⟨⟨name, ⟨0, 0⟩⟩, 0⟩, .emptyPipe capacity readPlan writePlan flushPlan,
        .opened name 0 :: journal⟩)).world.data.length < positionLimit) :
    attach Stream.device name ⟨book, .emptyPipe capacity readPlan writePlan flushPlan, journal⟩ =
      .ok (.opened ⟨⟨name, ⟨0, 0⟩⟩, 0⟩)
        ⟨book, .emptyPipe capacity readPlan writePlan flushPlan, .opened name 0 :: journal⟩ ∧
    ∃ outcomes after,
      run Stream.device operations
        ⟨.opened ⟨⟨name, ⟨0, 0⟩⟩, 0⟩, .emptyPipe capacity readPlan writePlan flushPlan,
          .opened name 0 :: journal⟩ = .ok outcomes after ∧
      after.book.isOpen = true ∧
      after.book.written = tally 0 operations outcomes ∧
      perform Stream.device .size after = .ok (.number after.book.written) after ∧
      History (perform Stream.device) Operation.Hands operations
        ⟨.opened ⟨⟨name, ⟨0, 0⟩⟩, 0⟩, .emptyPipe capacity readPlan writePlan flushPlan,
          .opened name 0 :: journal⟩ outcomes after.world.data after ∧
      ∀ operation : Operation, operation.needsPlace = true →
        Idle (fun outcome => ∃ problem, outcome = .error problem) after
          (perform Stream.device operation) := by
  have hpipe := Stream.isPipe_emptyPipe capacity readPlan writePlan flushPlan
  refine ⟨?_, ?_⟩
  · have hsize : Action.call name .querySize Stream.device.size
        ⟨book, .emptyPipe capacity readPlan writePlan flushPlan, journal⟩ =
          .ok none ⟨book, .emptyPipe capacity readPlan writePlan flushPlan, journal⟩ :=
      Action.call_of_ok _ _ hpipe.size
    simp only [attach, Bind.bind, EStateM.bind, hsize]
    rfl
  · have hopened : OnPipe 0 ⟨.opened ⟨⟨name, ⟨0, 0⟩⟩, 0⟩,
        .emptyPipe capacity readPlan writePlan flushPlan, .opened name 0 :: journal⟩ :=
      ⟨⟨_, rfl⟩, hpipe, Nat.zero_le _⟩
    obtain ⟨outcomes, bytes, after, hrun, hhistory, htook, hafter⟩ :=
      hopened.run_piped hdirect hlength
    obtain ⟨window, hbook⟩ := hafter.book
    have hwritten : after.book.written = tally 0 operations outcomes := by
      rw [hbook]
      rfl
    have hdata : after.world.data = bytes := htook.data
    refine ⟨outcomes, after, hrun, by rw [hbook]; rfl, hwritten, ?_, ?_, ?_⟩
    · rw [hwritten]
      exact hafter.size
    · rw [hdata]
      exact hhistory
    · exact fun operation hplace => (hafter.declines hplace).idle

/-- A pipe with room for seven bytes.  A write is interrupted and then cut short, a seek is refused,
bytes are overwritten, the extent is set, and the last write does not fit: its first byte is taken
and nothing counted. -/
theorem size_of_pipe_of_seven_bytes :
    ∃ outcomes after,
      run Stream.device
        [.write [1, 2, 3] 2, .seek 0 .start, .overwrite [4] 1, .setExtent 5 (.bytes 9),
          .write [5, 6, 7] 3, .flush, .write [8, 9] 2]
        ⟨.opened ⟨⟨"pipe", ⟨0, 0⟩⟩, 0⟩,
          .emptyPipe (some 7) [] [.fails (.plain .interrupted), .number 1]
            [.fails (.plain .brokenPipe)],
          [.opened "pipe" 0]⟩ = .ok outcomes after ∧
      History (perform Stream.device) Operation.Hands
        [.write [1, 2, 3] 2, .seek 0 .start, .overwrite [4] 1, .setExtent 5 (.bytes 9),
          .write [5, 6, 7] 3, .flush, .write [8, 9] 2]
        ⟨.opened ⟨⟨"pipe", ⟨0, 0⟩⟩, 0⟩,
          .emptyPipe (some 7) [] [.fails (.plain .interrupted), .number 1]
            [.fails (.plain .brokenPipe)],
          [.opened "pipe" 0]⟩ outcomes after.world.data after ∧
      perform Stream.device .size after = .ok (.number after.book.written) after := by
  obtain ⟨-, outcomes, after, hrun, -, -, hsize, hhistory, -⟩ :=
    size_of_pipe (some 7) [] [.fails (.plain .interrupted), .number 1] [.fails (.plain .brokenPipe)]
      "pipe" () [] [.write [1, 2, 3] 2, .seek 0 .start, .overwrite [4] 1, .setExtent 5 (.bytes 9),
        .write [5, 6, 7] 3, .flush, .write [8, 9] 2] (by decide) (by decide +kernel)
  exact ⟨outcomes, after, hrun, hhistory, hsize⟩

end Output

end FileWindow

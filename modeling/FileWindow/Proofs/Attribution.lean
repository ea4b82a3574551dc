import FileWindow.Proofs.Bookkeeping
import FileWindow.Proofs.FirstFailure
import FileWindow.Proofs.StreamCalls
import FileWindow.Proofs.Tracing
import FileWindow.Proofs.Twins
import FileWindow.Stream

/-!
# Failures are attributed

Whatever a device answers, an operation on an open resource that fails tells of the resource and of
the cause.  The error number that an error carries is that of the failure which stopped the
operation, or of a size that was needed and unknown; an error that carries none was refused before
any call failed.  Through the adapter the error is passed on as it is.

Main definitions:

- Definition Action.Attributed: a result that tells of the resource and of the cause.
- Definitions Input.Operation.isDirect and Output.Operation.isDirect: operations of the resources.
- Definitions Input.Operation.isPassed and Output.Operation.isPassed: single operations through the
  adapter.

Main results:

- Theorems Input.perform_attributed and Output.perform_attributed: failures of a resource.
- Theorems Input.perform_passed and Output.perform_passed: failures through the adapter.
- Theorem failures_are_attributed: both, for every device.
-/

namespace FileWindow

variable {ε ρ σ α β : Type}

open FileWindow.Action (Attributes Holding Meets)

/-! ## Results -/

/-- A result that is attributed: a failure tells of the resource and of the cause, and behind an
answer there is none. -/
def Action.Attributed (name : String) (ended misused : Prop) (needed : Bool) :
    EStateM.Result (Stop FileError) (Frame ρ (Traced σ)) α → Prop :=
  Meets (fun _ after => after.world.trace.Clear needed)
    (fun error after => error.Reports name ended misused (after.world.trace.cause needed))
    (fun _ => True)

open FileWindow.Action (Attributed)

variable {name : String} {ended misused : Prop} {needed : Bool}

/-- An action that attributes its failures comes to an attributed result. -/
theorem Action.Attributes.attributed {book : ρ} {action : Action FileError ρ (Traced σ) α}
    (h : Attributes name ended misused needed book action) {frame : Frame ρ (Traced σ)}
    (hframe : Holding (fun traced => traced.trace.Clear needed) book frame) :
    Attributed name ended misused needed (action frame) :=
  (h frame hframe).imp (fun _ _ hafter => hafter.2) (fun _ _ hafter => hafter)
    fun _ hafter => hafter

/-- Keeping books behind an action attributes nothing else. -/
theorem Action.Attributes.attributed_bind {book : ρ} {action : Action FileError ρ (Traced σ) α}
    (h : Attributes name ended misused needed book action) {frame : Frame ρ (Traced σ)}
    (hframe : Holding (fun traced => traced.trace.Clear needed) book frame)
    {next : α → Action FileError ρ (Traced σ) β}
    (hnext : ∀ value after, Holding (fun traced => traced.trace.Clear needed) book after →
      Attributed name ended misused needed (next value after)) :
    Attributed name ended misused needed ((action >>= next) frame) :=
  (h frame hframe).bind hnext

/-- The problem is an error of the resource, and is attributed. -/
def Problem.Tells (name : String) (ended misused : Prop) (cause : Option Errno)
    (problem : Problem) : Prop :=
  ∃ error, problem = .error error ∧ error.Reports name ended misused cause

/-- The problem is a fault that carries an attributed error of the resource.  Its kind is that of
the error number, if there is one. -/
def Problem.Passes (name : String) (cause : Option Errno) (problem : Problem) : Prop :=
  ∃ fault error, problem = .fault fault ∧ fault.payload = some error ∧
    error.Reports name False False cause ∧ fault.kind = (cause.map Errno.kind).getD .other

/-- An error that is carried has the kind of its cause. -/
theorem FileError.Reports.kind {cause : Option Errno} {error : FileError}
    (h : error.Reports name False False cause) :
    error.kind = (cause.map Errno.kind).getD .other := by
  cases h with
  | endOfInput h => exact h.elim
  | misuse text h => exact h.elim
  | refused reason hcause =>
    rw [hcause]
    rfl
  | broken attempt code hcause =>
    rw [hcause]
    rfl

namespace Action.Attributed

variable {action : Action FileError ρ (Traced σ) α} {frame : Frame ρ (Traced σ)}

/-- An operation is attributed as its action is. -/
theorem native (h : Attributed name ended misused needed (action frame)) (value : α → Value) :
    Meets (fun _ after => after.world.trace.cause needed = none)
      (fun problem after => problem.Tells name ended misused (after.world.trace.cause needed))
      (fun _ => True) (Action.native value action frame) := by
  refine Meets.map (Meets.mapError (Meets.imp h ?_ ?_ fun _ h => h))
  · exact fun _ after hclear => hclear.cause
  · exact fun error after hreports => ⟨error, rfl, hreports⟩

/-- What is passed on is attributed as the action is. -/
theorem passing (h : Attributed name False False needed (action frame)) :
    Meets (fun _ after => after.world.trace.Clear needed)
      (fun fault after => ∃ error, fault.payload = some error ∧
        error.Reports name False False (after.world.trace.cause needed))
      (fun _ => True) (Adapter.passing action frame) :=
  Meets.mapError (Meets.imp h (fun _ _ h => h) (fun error _ h => ⟨error, rfl, h⟩) fun _ h => h)

end Action.Attributed

/-- What becomes of a fault that carries an attributed error, within an operation. -/
theorem Action.foreign_passes {action : Action Fault ρ (Traced σ) α} {frame : Frame ρ (Traced σ)}
    (h : Meets (fun _ after => after.world.trace.Clear needed)
      (fun fault after => ∃ error, fault.payload = some error ∧
        error.Reports name False False (after.world.trace.cause needed))
      (fun _ => True) (action frame)) (value : α → Value) :
    Meets (fun _ after => after.world.trace.cause needed = none)
      (fun problem after => problem.Passes name (after.world.trace.cause needed))
      (fun _ => True) (Action.foreign value action frame) := by
  refine Meets.map (Meets.mapError (Meets.imp h ?_ ?_ fun _ h => h))
  · exact fun _ after hclear => hclear.cause
  · rintro fault after ⟨error, hpayload, hreports⟩
    refine ⟨fault, error, rfl, hpayload, hreports, ?_⟩
    rw [← hreports.kind]
    cases fault with
    | carried carried =>
      cases hpayload
      rfl
    | system code => cases hpayload
    | plain kind => cases hpayload
    | worded kind text => cases hpayload

/-- A seek in the terms of streams passes on what the seek of the resource tells. -/
theorem Adapter.seek_passes {move : Int → Whence → Action FileError ρ (Traced σ) Nat}
    {frame : Frame ρ (Traced σ)} {target : RawSeek} (htarget : target.asSeek.isSome = true)
    (h : ∀ distance whence, Attributed name False False needed (move distance whence frame)) :
    Meets (fun _ after => after.world.trace.Clear needed)
      (fun fault after => ∃ error, fault.payload = some error ∧
        error.Reports name False False (after.world.trace.cause needed))
      (fun _ => True) (seek move target frame) := by
  rw [seek_eq]
  cases hseek : target.asSeek with
  | none =>
    rw [hseek] at htarget
    cases htarget
  | some pair => exact (h pair.1 pair.2).passing

/-- A seek that no signed distance holds is turned down, whoever is asked. -/
theorem Adapter.seek_of_too_large (move : Int → Whence → Action FileError ρ σ Nat)
    {target : RawSeek} (htarget : target.asSeek = none) (frame : Frame ρ σ) :
    Action.foreign .number (seek move target) frame =
      .error (.failed (.fault (.worded .invalidInput "seek offset too large"))) frame := by
  rw [seek_eq, htarget]
  rfl

/-! ## Inputs -/

namespace Input

variable (device : Device σ) {reader : Reader} {frame : Frame Input (Traced σ)}

theorem read_attributes (length room : Nat) :
    Attributes reader.window.name ended misused false (.opened reader)
      (read device.traced length room) := by
  intro frame hframe
  rcases frame with ⟨book, world, journal⟩
  obtain rfl : book = .opened reader := hframe.1
  rw [read_eq]
  split
  · exact .refused .readLength hframe.2.cause
  · rw [reader_bind_of_opened _ rfl]
    have htell : Attributes reader.window.name ended misused false (opened reader)
        (reader.window.tell device.traced) := Window.tell_attributes device reader.window
    refine (htell _ hframe).bind fun position after hafter => ?_
    by_cases hwanted : min length (reader.window.extent.length - position) = 0
    · rw [if_pos hwanted]
      exact hafter
    · rw [if_neg hwanted]
      have hread : Attributes reader.window.name ended misused false (opened reader)
          (reader.window.read device.traced
            (min length (reader.window.extent.length - position))) :=
        .call (device.blamed_readPatiently _) .read
      exact (hread after hafter).bind fun _ _ hafter => hafter

/-- An exact read may come to the end of the input. -/
theorem readExactly_attributes (hended : ended) (length room : Nat) :
    Attributes reader.window.name ended misused false (.opened reader)
      (readExactly device.traced length room) := by
  refine (read_attributes device length room).bind fun bytes frame hframe => ?_
  rcases frame with ⟨book, world, journal⟩
  obtain rfl : book = .opened reader := hframe.1
  split
  · exact hframe
  · exact .endOfInput hended hframe.2.cause

/-- What is asked of an input itself, but for closing behind some work. -/
def Operation.isDirect : Operation → Bool
  | .seek .. | .tell | .size | .setExtent .. | .unsetExtent | .read .. | .readExactly .. | .close =>
    true
  | _ => false

/-- Whether an operation reads exactly so many bytes, or fails at the end of the input. -/
def Operation.isExact : Operation → Bool
  | .readExactly .. => true
  | _ => false

/-- Whether an operation needs the size of the raw data. -/
def Operation.needsSize : Operation → Bool
  | .setExtent _ length => length.needsSize
  | _ => false

section

variable (hframe : Holding (fun traced => traced.trace.Clear needed) (.opened reader) frame)

include hframe

theorem seek_attributed (distance : Int) (whence : Whence) :
    Attributed reader.window.name ended misused needed
      (seek device.traced distance whence frame) := by
  rw [seek, reader_bind_of_opened _ hframe.1]
  exact (Window.seek_attributes device reader.window distance whence _).attributed hframe

theorem unsetExtent_attributed :
    Attributed reader.window.name ended misused needed (unsetExtent device.traced frame) := by
  rw [unsetExtent, reader_bind_of_opened _ hframe.1]
  exact (Window.widen_attributes device reader.window).attributed_bind hframe
    fun _ _ hafter => hafter.2

omit hframe in
theorem setExtent_attributed (offset : Nat) (length : ExtentLength)
    (hframe : Holding (fun traced => traced.trace.Clear length.needsSize) (.opened reader) frame) :
    Attributed reader.window.name ended misused length.needsSize
      (setExtent device.traced offset length frame) := by
  rw [setExtent, reader_bind_of_opened _ hframe.1]
  exact (Window.narrow_attributes device reader.window offset length).attributed_bind hframe
    fun _ _ hafter => hafter.2

theorem close_attributed :
    Attributed reader.window.name ended misused needed (close device.traced frame) := by
  rcases frame with ⟨book, world, journal⟩
  obtain rfl : book = .opened reader := hframe.1
  have hrelease : Attributes reader.window.name ended misused needed closed
      (reader.window.release device.traced) :=
    Attributes.bind (.report _) fun _ => .call device.blamed_close .close
  exact hrelease.attributed ⟨rfl, hframe.2⟩

end

/-- A single operation through the adapter; a seek to where no signed distance reaches is none. -/
def Operation.isPassed : Operation → Bool
  | .streamSeek target => target.asSeek.isSome
  | .streamPosition | .streamRewind | .streamRead _ => true
  | _ => false

variable (world : Traced σ) (journal : Journal)

/-- Whatever is asked of an open input, a failure is attributed. -/
theorem perform_attributed {operation : Operation} (hdirect : operation.isDirect = true)
    (hclear : world.trace.Clear operation.needsSize) :
    Meets (fun _ after => after.world.trace.cause operation.needsSize = none)
      (fun problem after => problem.Tells reader.window.name (operation.isExact = true) False
        (after.world.trace.cause operation.needsSize))
      (fun _ => True) (perform device.traced operation ⟨.opened reader, world, journal⟩) := by
  have hframe : Holding (fun traced => traced.trace.Clear operation.needsSize) (opened reader)
    ⟨opened reader, world, journal⟩ := ⟨rfl, hclear⟩
  cases operation with
  | seek distance whence => exact (seek_attributed device hframe distance whence).native _
  | tell =>
    have htell : Attributed reader.window.name (Operation.tell.isExact = true) False false
        (reader.window.tell device.traced ⟨opened reader, world, journal⟩) :=
      (Window.tell_attributes device reader.window).attributed hframe
    exact htell.native _
  | size => exact hclear.cause
  | setExtent offset length => exact (setExtent_attributed device offset length hframe).native _
  | unsetExtent => exact (unsetExtent_attributed device hframe).native _
  | read length room =>
    exact ((read_attributes device length room).attributed hframe).native _
  | readExactly length room =>
    exact ((readExactly_attributes device rfl length room).attributed hframe).native _
  | close => exact (close_attributed device hframe).native _
  | readThenClose | closeAfter | streamSeek | streamPosition | streamRewind | streamRead
  | streamReadExactly | streamReadToEnd => cases hdirect

/-- What is asked of an open input through the adapter is attributed as well. -/
theorem perform_passed {operation : Operation} (hpassed : operation.isPassed = true)
    (hclear : world.trace.Clear false) :
    Meets (fun _ after => after.world.trace.cause false = none)
      (fun problem after => problem.Passes reader.window.name (after.world.trace.cause false))
      (fun _ => True) (perform device.traced operation ⟨.opened reader, world, journal⟩) := by
  have hframe : Holding (fun traced => traced.trace.Clear false) (opened reader)
    ⟨opened reader, world, journal⟩ := ⟨rfl, hclear⟩
  have hseek : ∀ distance whence, Attributed reader.window.name False False false
      (seek device.traced distance whence _) := seek_attributed device hframe
  cases operation with
  | streamSeek target => exact Action.foreign_passes (Adapter.seek_passes hpassed hseek) _
  | streamPosition => exact Action.foreign_passes (Adapter.seek_passes rfl hseek) _
  | streamRewind =>
    refine Action.foreign_passes (Meets.bind (Adapter.seek_passes ?_ hseek) ?_) _
    · rfl
    · exact fun _ _ hafter => hafter
  | streamRead length =>
    exact Action.foreign_passes ((read_attributes device _ _).attributed hframe).passing _
  | seek | tell | size | setExtent | unsetExtent | read | readExactly | readThenClose | close
  | closeAfter | streamReadExactly | streamReadToEnd => cases hpassed

end Input

/-! ## Outputs -/

namespace Output

/-- What is asked of an output itself, but for closing behind some work. -/
def Operation.isDirect : Operation → Bool
  | .seek .. | .tell | .size | .setExtent .. | .unsetExtent | .write .. | .overwrite .. | .flush
  | .close => true
  | _ => false

/-- Whether an operation overwrites bytes in place, which standard output cannot do. -/
def Operation.isOverwrite : Operation → Bool
  | .overwrite .. => true
  | _ => false

/-- Whether an operation needs the size of the raw data. -/
def Operation.needsSize : Operation → Bool
  | .setExtent _ length => length.needsSize
  | _ => false

/-- A single operation through the adapter; a seek to where no signed distance reaches is none. -/
def Operation.isPassed : Operation → Bool
  | .streamSeek target => target.asSeek.isSome
  | .streamPosition | .streamRewind | .streamWrite _ | .streamFlush => true
  | _ => false

variable (device : Device σ) {writer : Writer} {frame : Frame Output (Traced σ)}

section

variable (hframe : Holding (fun traced => traced.trace.Clear needed) (.opened writer) frame)

include hframe

theorem seek_attributed (distance : Int) (whence : Whence) :
    Attributed writer.window.name ended misused needed
      (seek device.traced distance whence frame) := by
  have hname : (writer.aim distance whence).window.name = writer.window.name := by
    cases whence <;> rfl
  rw [seek, writer_bind_of_opened _ hframe.1, ← hname]
  exact (Window.seek_attributes device (writer.aim distance whence).window distance whence
    none).attributed_bind hframe fun _ _ hafter => hafter.2

theorem unsetExtent_attributed :
    Attributed writer.window.name ended misused needed (unsetExtent device.traced frame) := by
  rw [unsetExtent, writer_bind_of_opened _ hframe.1]
  exact (Window.widen_attributes device writer.window).attributed_bind hframe
    fun _ _ hafter => hafter.2

theorem write_attributed (buffer : Bytes) (length : Nat) :
    Attributed writer.window.name ended misused needed
      (write device.traced buffer length frame) := by
  rw [write, writer_bind_of_opened _ hframe.1]
  by_cases hnone : length = 0
  · rw [if_pos hnone]
    exact hframe.2
  rw [if_neg hnone]
  split
  · exact .refused .writeLength hframe.2.cause
  · have hwrite : Attributes writer.window.name ended misused needed (opened writer)
        (writer.window.write device.traced (buffer.take length)) :=
      .call (device.blamed_write _) .write
    refine hwrite.attributed_bind hframe fun _ after hafter => ?_
    split
    · exact hafter.2
    · trivial

/-- Overwriting is misuse of standard output alone. -/
theorem overwrite_attributed (buffer : Bytes) (length : Nat)
    (hmisused : device.isStandardOutput = true → misused) :
    Attributed writer.window.name ended misused needed
      (overwrite device.traced buffer length frame) := by
  have hwrite : Attributed writer.window.name ended misused needed _ :=
    write_attributed device hframe buffer length
  rw [overwrite, Action.book_bind]
  split
  case isTrue hstandard =>
    exact .misuse _ (hmisused (Bool.and_eq_true_iff.mp hstandard).2) hframe.2.cause
  case isFalse => exact Meets.bind hwrite fun _ _ hafter => hafter

theorem close_attributed :
    Attributed writer.window.name ended misused needed (close device.traced frame) := by
  rcases frame with ⟨book, world, journal⟩
  obtain rfl : book = .opened writer := hframe.1
  have hclear : world.trace.Clear needed := hframe.2
  rw [close_eq]
  -- the release comes behind the flush in any case, so a failed flush stays the cause
  cases hflush : device.flush world.world with
  | error fault flushed =>
    have hcause : ∀ went : Went, Trace.cause needed
        (world.trace ++ [⟨.flush, .failed fault⟩] ++ [⟨.close, went⟩]) = some fault.errno :=
      fun _ => hclear.cause_failed_concat .flush fault RawCall.noConfusion
    cases hclose : device.close flushed with
    | error later released =>
      simp only [ending, Call.told, Call.left, Device.traced, Call.traced, hflush, hclose]
      exact .broken .flush fault.errno (hcause (.failed later))
    | ok value released =>
      simp only [ending, Call.told, Call.left, Device.traced, Call.traced, hflush, hclose]
      exact .broken .flush fault.errno (hcause .answered)
  | ok value flushed =>
    have hflushed : Trace.Clear needed (world.trace ++ [⟨.flush, .answered⟩]) :=
      hclear.concat rfl fun _ => by decide
    cases hclose : device.close flushed with
    | error fault released =>
      simp only [ending, Call.told, Call.left, Device.traced, Call.traced, hflush, hclose]
      exact .broken .close fault.errno (hflushed.cause_failed .close fault)
    | ok value released =>
      simp only [ending, Call.told, Call.left, Device.traced, Call.traced, hflush, hclose]
      exact hflushed.concat rfl fun _ => by decide

/-- An output that is given up for its stream is flushed. -/
theorem detach_attributed :
    Attributed writer.window.name ended misused needed (detach device.traced frame) := by
  rw [detach, writer_bind_of_opened _ hframe.1]
  exact Action.Attributes.attributed_bind (Attributes.call device.blamed_flush .flush) hframe
    fun _ _ hafter => hafter.2

end

theorem setExtent_attributed (offset : Nat) (length : ExtentLength)
    (hframe : Holding (fun traced => traced.trace.Clear length.needsSize) (.opened writer) frame) :
    Attributed writer.window.name ended misused length.needsSize
      (setExtent device.traced offset length frame) := by
  rw [setExtent, writer_bind_of_opened _ hframe.1]
  exact (Window.narrow_attributes device writer.window offset length).attributed_bind hframe
    fun _ _ hafter => hafter.2

/-- A size that cannot be known is counted, so it is not needed. -/
theorem size_attributed
    (hframe : Holding (fun traced => traced.trace.Clear false) (.opened writer) frame) :
    Attributed writer.window.name ended misused false (size device.traced frame) := by
  rcases frame with ⟨book, world, journal⟩
  obtain rfl : book = .opened writer := hframe.1
  rw [size, Action.book_bind]
  dsimp only
  split
  · exact hframe.2
  · exact Action.Attributes.attributed_bind (Attributes.call device.blamed_size .querySize) hframe
      fun _ _ hafter => hafter.2

variable (world : Traced σ) (journal : Journal)

/-- Whatever is asked of an open output, a failure is attributed. -/
theorem perform_attributed {operation : Operation} (hdirect : operation.isDirect = true)
    (hclear : world.trace.Clear operation.needsSize) :
    Meets (fun _ after => after.world.trace.cause operation.needsSize = none)
      (fun problem after => problem.Tells writer.window.name False
        (operation.isOverwrite = true ∧ device.isStandardOutput = true)
        (after.world.trace.cause operation.needsSize))
      (fun _ => True) (perform device.traced operation ⟨.opened writer, world, journal⟩) := by
  have hframe : Holding (fun traced => traced.trace.Clear operation.needsSize) (opened writer)
    ⟨opened writer, world, journal⟩ := ⟨rfl, hclear⟩
  cases operation with
  | seek distance whence => exact (seek_attributed device hframe distance whence).native _
  | tell =>
    exact Action.Attributed.native
      ((Window.tell_attributes device writer.window).attributed hframe) _
  | size => exact (size_attributed device hframe).native _
  | setExtent offset length => exact (setExtent_attributed device offset length hframe).native _
  | unsetExtent => exact (unsetExtent_attributed device hframe).native _
  | write buffer length => exact (write_attributed device hframe buffer length).native _
  | overwrite buffer length =>
    exact (overwrite_attributed device hframe buffer length fun hstandard =>
      ⟨rfl, hstandard⟩).native _
  | flush =>
    exact Action.Attributed.native
      ((Attributes.call device.blamed_flush .flush).attributed hframe) _
  | close => exact (close_attributed device hframe).native _
  | writeThenClose | closeAfter | streamSeek | streamPosition | streamRewind | streamWrite
  | streamWriteAll | streamFlush => cases hdirect

/-- What is asked of an open output through the adapter is attributed as well. -/
theorem perform_passed {operation : Operation} (hpassed : operation.isPassed = true)
    (hclear : world.trace.Clear false) :
    Meets (fun _ after => after.world.trace.cause false = none)
      (fun problem after => problem.Passes writer.window.name (after.world.trace.cause false))
      (fun _ => True) (perform device.traced operation ⟨.opened writer, world, journal⟩) := by
  have hframe : Holding (fun traced => traced.trace.Clear false) (opened writer)
    ⟨opened writer, world, journal⟩ := ⟨rfl, hclear⟩
  have hseek : ∀ distance whence, Attributed writer.window.name False False false
      (seek device.traced distance whence _) := seek_attributed device hframe
  cases operation with
  | streamSeek target => exact Action.foreign_passes (Adapter.seek_passes hpassed hseek) _
  | streamPosition => exact Action.foreign_passes (Adapter.seek_passes rfl hseek) _
  | streamRewind =>
    refine Action.foreign_passes (Meets.bind (Adapter.seek_passes ?_ hseek) ?_) _
    · rfl
    · exact fun _ _ hafter => hafter
  | streamWrite bytes =>
    refine Action.foreign_passes (Meets.bind (Action.Attributed.passing ?_) ?_) _
    · exact write_attributed device hframe bytes _
    · exact fun _ _ hafter => hafter
  | streamFlush =>
    exact Action.foreign_passes (Action.Attributed.passing
      ((Attributes.call device.blamed_flush .flush).attributed hframe)) _
  | seek | tell | size | setExtent | unsetExtent | write | overwrite | writeThenClose | flush
  | close
  | closeAfter | streamWriteAll => cases hpassed

end Output

/-! ## Calls of a stream that are made of several -/

namespace Stream

/-- A stream fails to be measured only where it does not come back from its end. -/
theorem size_error {stream after : Stream} {fault : Fault}
    (h : device.size stream = .error fault after) :
    ∃ saved between, device.seek (.start saved) between = .error fault after := by
  simp only [device, size] at h ⊢
  cases hsaved : seek (.current 0) stream with
  | error fault before =>
    rw [hsaved] at h
    cases h
  | ok saved before =>
    rw [hsaved] at h
    cases hend : seek (.finish 0) before with
    | error fault between =>
      simp only [hend] at h
      cases h
    | ok length between =>
      simp only [hend] at h
      cases hback : seek (.start saved) between with
      | error fault final =>
        simp only [hback] at h
        cases h
        exact ⟨saved, between, hback⟩
      | ok position final =>
        simp only [hback] at h
        cases h

/-- The size of a stream is unknown only where the stream does not tell where it stands, or does not
go to its end. -/
theorem size_none {stream after : Stream} (h : device.size stream = .ok none after) :
    ∃ fault, device.seek (.current 0) stream = .error fault after ∨
      ∃ saved between, device.seek (.current 0) stream = .ok saved between ∧
        device.seek (.finish 0) between = .error fault after := by
  simp only [device, size] at h ⊢
  cases hsaved : seek (.current 0) stream with
  | error fault before =>
    rw [hsaved] at h
    cases h
    exact ⟨fault, .inl rfl⟩
  | ok saved before =>
    rw [hsaved] at h
    cases hend : seek (.finish 0) before with
    | error fault between =>
      simp only [hend] at h
      cases h
      exact ⟨fault, .inr ⟨saved, before, rfl, hend⟩⟩
    | ok length between =>
      simp only [hend] at h
      cases hback : seek (.start saved) between <;> simp only [hback] at h <;> cases h

/-- A write fails as one of its calls does, or because a call took nothing. -/
theorem writeBy_error {plan : List Reply} {bytes : Bytes} {stream after : Stream} {fault : Fault}
    (h : writeBy plan bytes stream = .error fault after) :
    fault = .plain .writeZero ∨ .fails fault ∈ plan := by
  have htook := stream.writeBy_tookPrefix plan bytes
  rw [h] at htook
  exact htook.2.1

end Stream

/-! ## Every failure -/

/-- Whatever the device answers, an operation on an open resource that fails tells of the resource
and of the cause; one that answers had no failure that was not made good.  Only an exact read comes
to the end of the input, only overwriting standard output is misuse, and any other failure either
was refused, without an error number, or carries the number of the failure that stopped it or of a
size that was needed and unknown.  Through the adapter the same error is carried by a fault of the
kind of its number; only a seek to where no signed distance reaches is turned down before the
resource is asked.  A stream is unknown in size where it does not tell its place or its end, and
fails to be measured where it does not come back; it fails to be written as one of the calls did, or
because one took nothing. -/
theorem failures_are_attributed (device : Device σ) (world : σ) (journal : Journal) :
    (∀ (reader : Reader) (operation : Input.Operation), operation.isDirect = true →
      Meets (fun _ after => after.world.trace.cause operation.needsSize = none)
        (fun problem after => problem.Tells reader.window.name (operation.isExact = true) False
          (after.world.trace.cause operation.needsSize))
        (fun _ => True)
        (Input.perform device.traced operation ⟨.opened reader, ⟨world, []⟩, journal⟩)) ∧
    (∀ (writer : Writer) (operation : Output.Operation), operation.isDirect = true →
      Meets (fun _ after => after.world.trace.cause operation.needsSize = none)
        (fun problem after => problem.Tells writer.window.name False
          (operation.isOverwrite = true ∧ device.isStandardOutput = true)
          (after.world.trace.cause operation.needsSize))
        (fun _ => True)
        (Output.perform device.traced operation ⟨.opened writer, ⟨world, []⟩, journal⟩)) ∧
    (∀ writer : Writer,
      Meets (fun _ after => after.world.trace.cause false = none)
        (fun error after => error.Reports writer.window.name False False
          (after.world.trace.cause false))
        (fun _ => True)
        (Output.detach device.traced ⟨.opened writer, ⟨world, []⟩, journal⟩)) ∧
    (∀ (reader : Reader) (operation : Input.Operation), operation.isPassed = true →
      Meets (fun _ after => after.world.trace.cause false = none)
        (fun problem after => problem.Passes reader.window.name (after.world.trace.cause false))
        (fun _ => True)
        (Input.perform device.traced operation ⟨.opened reader, ⟨world, []⟩, journal⟩)) ∧
    (∀ (writer : Writer) (operation : Output.Operation), operation.isPassed = true →
      Meets (fun _ after => after.world.trace.cause false = none)
        (fun problem after => problem.Passes writer.window.name (after.world.trace.cause false))
        (fun _ => True)
        (Output.perform device.traced operation ⟨.opened writer, ⟨world, []⟩, journal⟩)) ∧
    (∀ (target : RawSeek), target.asSeek = none →
      (∀ frame, Input.perform device (.streamSeek target) frame =
        .error (.failed (.fault (.worded .invalidInput "seek offset too large"))) frame) ∧
      ∀ frame, Output.perform device (.streamSeek target) frame =
        .error (.failed (.fault (.worded .invalidInput "seek offset too large"))) frame) ∧
    (∀ (stream after : Stream), Stream.device.size stream = .ok none after →
      ∃ fault, Stream.device.seek (.current 0) stream = .error fault after ∨
        ∃ saved between, Stream.device.seek (.current 0) stream = .ok saved between ∧
          Stream.device.seek (.finish 0) between = .error fault after) ∧
    (∀ (stream after : Stream) fault, Stream.device.size stream = .error fault after →
      ∃ saved between, Stream.device.seek (.start saved) between = .error fault after) ∧
    ∀ (stream after : Stream) bytes fault, Stream.device.write bytes stream = .error fault after →
      fault = .plain .writeZero ∨ .fails fault ∈ stream.writePlan := by
  refine ⟨?_, ?_, ?_, ?_, ?_, ?_, ?_, ?_, ?_⟩
  · exact fun reader operation hdirect =>
      Input.perform_attributed device _ journal hdirect (Trace.clear_nil _)
  · exact fun writer operation hdirect =>
      Output.perform_attributed device _ journal hdirect (Trace.clear_nil _)
  · intro writer
    exact (Output.detach_attributed device ⟨rfl, Trace.clear_nil false⟩).imp
      (fun _ _ hclear => hclear.cause) (fun _ _ hreports => hreports) fun _ h => h
  · exact fun reader operation hpassed =>
      Input.perform_passed device _ journal hpassed (Trace.clear_nil _)
  · exact fun writer operation hpassed =>
      Output.perform_passed device _ journal hpassed (Trace.clear_nil _)
  · intro target htarget
    exact ⟨Adapter.seek_of_too_large _ htarget, Adapter.seek_of_too_large _ htarget⟩
  · exact fun stream after => Stream.size_none
  · exact fun stream after fault => Stream.size_error
  · exact fun stream after bytes fault => Stream.writeBy_error

/-- A read is interrupted and then fails; a pipe is asked for the rest of its data; the position of
a stream that cannot be positioned is asked for through the adapter; a write through the adapter
finds no room.  A stream goes to its end but does not come back. -/
theorem failures_are_attributed_of_scripted :
    (∃ problem after,
      Input.perform Stream.device.traced (.readExactly 2 2)
        ⟨.opened ⟨⟨"data", ⟨0, 3⟩⟩, 3⟩,
          ⟨{ Stream.plain [1, 2, 3] 0 with
            readPlan := [.fails (.system Errno.interruptedCall),
              .fails (.system Errno.noSpace)] }, []⟩, []⟩ = .error (.failed problem) after ∧
      problem.Tells "data" (Input.Operation.isExact (.readExactly 2 2) = true) False
        (some Errno.noSpace)) ∧
    (∃ problem after,
      Output.perform Stream.device.traced (.setExtent 0 .rest)
        ⟨.opened ⟨⟨"pipe", ⟨0, 0⟩⟩, 0⟩, ⟨{ Stream.plain [] 0 with seekable := false }, []⟩, []⟩ =
          .error (.failed problem) after ∧
      problem.Tells "pipe" False
        (Output.Operation.isOverwrite (.setExtent 0 .rest) = true ∧
          Stream.device.isStandardOutput = true) (some Errno.illegalSeek)) ∧
    (∃ problem after,
      Input.perform Stream.device.traced .streamPosition
        ⟨.opened ⟨⟨"data", ⟨0, 3⟩⟩, 3⟩,
          ⟨{ Stream.plain [1, 2, 3] 0 with seekable := false }, []⟩, []⟩ =
          .error (.failed problem) after ∧
      problem.Passes "data" (some Errno.illegalSeek)) ∧
    (∃ problem after,
      Output.perform Stream.device.traced (.streamWrite [7, 8])
        ⟨.opened ⟨⟨"data", ⟨0, 0⟩⟩, 0⟩, ⟨{ Stream.plain [] 0 with capacity := some 1 }, []⟩, []⟩ =
          .error (.failed problem) after ∧
      problem.Passes "data" (some Errno.deviceFailure)) ∧
    (∃ fault after,
      Stream.device.size { Stream.plain [1] 0 with
        seekPlan := [.asUsual, .asUsual, .fails (.system Errno.deviceFailure)] } =
          .error fault after ∧
      ∃ saved between, Stream.device.seek (.start saved) between = .error fault after) := by
  obtain ⟨hinput, -, -, -, -, -, -, hsize, -⟩ := failures_are_attributed Stream.device
    { Stream.plain [1, 2, 3] 0 with
      readPlan := [.fails (.system Errno.interruptedCall), .fails (.system Errno.noSpace)] } []
  obtain ⟨-, houtput, -⟩ := failures_are_attributed Stream.device
    { Stream.plain [] 0 with seekable := false } []
  obtain ⟨-, -, -, hpassed, -⟩ := failures_are_attributed Stream.device
    { Stream.plain [1, 2, 3] 0 with seekable := false } []
  obtain ⟨-, -, -, -, hwritten, -⟩ := failures_are_attributed Stream.device
    { Stream.plain [] 0 with capacity := some 1 } []
  refine ⟨⟨_, _, rfl, ?_⟩, ⟨_, _, rfl, ?_⟩, ⟨_, _, rfl, ?_⟩, ⟨_, _, rfl, ?_⟩, ⟨_, _, rfl, ?_⟩⟩
  · exact hinput ⟨⟨"data", ⟨0, 3⟩⟩, 3⟩ (.readExactly 2 2) rfl
  · exact houtput ⟨⟨"pipe", ⟨0, 0⟩⟩, 0⟩ (.setExtent 0 .rest) rfl
  · exact hpassed ⟨⟨"data", ⟨0, 3⟩⟩, 3⟩ .streamPosition rfl
  · exact hwritten ⟨⟨"data", ⟨0, 0⟩⟩, 0⟩ (.streamWrite [7, 8]) rfl
  · exact hsize { Stream.plain [1] 0 with
      seekPlan := [.asUsual, .asUsual, .fails (.system Errno.deviceFailure)] } _ _ rfl

end FileWindow

import FileWindow.Proofs.Meeting
import FileWindow.Proofs.Recording
import FileWindow.Proofs.Seek

/-!
# Traces of calls

To say which failure an operation is to be blamed on, the calls that it makes of its device are
traced, each with how it went.  From the trace alone it can be told which failure stopped the
operation: the first one that was not made good by another attempt.

Main definitions:

- Definitions Traced and Device.traced: a world with the trace of its device.
- Definition Trace.stopping: the failure that stopped an operation.
- Definition Trace.cause: the error number of that failure, or of a size that is needed and unknown.
- Definition FileError.Reports: errors that name the resource and the cause.
- Definition Action.Attributes: an action whose failures are attributed.

Main results:

- Theorem Trace.stopping_concat: where nothing stopped an operation before, its latest call decides.
- Theorem Attributes.call: a call within an action is attributed.
- Theorem Attributes.read: so is a read that is made again while it is interrupted.
-/

namespace FileWindow

variable {ε ρ σ α β : Type}

/-! ## Traces -/

/-- How a call went. -/
inductive Went
  | answered
  /-- It answered that the size cannot be known. -/
  | unknown
  | failed (fault : Fault)
  deriving DecidableEq, Repr

/-- The fault of a call that failed. -/
def Went.fault : Went → Option Fault
  | failed fault => some fault
  | _ => none

/-- A call and how it went. -/
structure TracedCall where
  call : RawCall
  went : Went
  deriving DecidableEq, Repr

/-- The calls of a device, the oldest first. -/
abbrev Trace := List TracedCall

/-- A read that was interrupted, and the read that was then made in its place. -/
def TracedCall.isMadeAgainBy : TracedCall → TracedCall → Bool
  | ⟨.read, .failed fault⟩, ⟨.read, _⟩ => fault.isInterruption
  | _, _ => false

/-- Only a read is made in the place of another. -/
theorem TracedCall.isMadeAgainBy_eq_false (first : TracedCall) {latest : TracedCall}
    (h : latest.call ≠ .read) : first.isMadeAgainBy latest = false := by
  rcases first with ⟨call, went⟩
  rcases latest with ⟨next, _⟩
  cases next with
  | read => exact (h rfl).elim
  | _ => cases call <;> cases went <;> rfl

namespace Trace

/-- The failure that stopped an operation: the first one, but for that of a read that was made
again. -/
def stopping : Trace → Option Fault
  | [] => none
  | [latest] => latest.went.fault
  | first :: next :: rest =>
    if first.isMadeAgainBy next then stopping (next :: rest)
    else first.went.fault <|> stopping (next :: rest)

/-- The error number of the failure that stopped an operation, or else of a size that the operation
needs and that cannot be known. -/
def cause (needed : Bool) (trace : Trace) : Option Errno :=
  (trace.stopping.map Fault.errno).or
    (if needed ∧ ⟨.size, .unknown⟩ ∈ trace then some Errno.illegalSeek else none)

/-- Where nothing stopped an operation before, its latest call decides. -/
theorem stopping_concat {trace : Trace} (h : trace.stopping = none) (latest : TracedCall) :
    stopping (trace ++ [latest]) = latest.went.fault := by
  induction trace using stopping.induct with
  | case1 => rfl
  | case2 only =>
    have honly : only.went.fault = none := h
    show (if only.isMadeAgainBy latest then latest.went.fault
      else only.went.fault <|> latest.went.fault) = _
    rw [honly]
    split <;> rfl
  | case3 first next rest hagain ih =>
    rw [stopping, if_pos hagain] at h
    rw [List.cons_append, List.cons_append, stopping, if_pos hagain]
    exact ih h
  | case4 first next rest hagain ih =>
    rw [stopping, if_neg hagain] at h
    rw [List.cons_append, List.cons_append, stopping, if_neg hagain]
    cases hfirst : first.went.fault with
    | none =>
      rw [hfirst] at h
      exact ih h
    | some fault =>
      rw [hfirst] at h
      cases h

/-- A read that was interrupted does not count once it is made again. -/
theorem stopping_concat_again (trace : Trace) {fault : Fault} (hfault : fault.isInterruption = true)
    (went : Went) :
    stopping (trace ++ [⟨.read, .failed fault⟩, ⟨.read, went⟩]) =
      stopping (trace ++ [⟨.read, went⟩]) := by
  have hread : stopping [⟨.read, .failed fault⟩, ⟨.read, went⟩] = stopping [⟨.read, went⟩] :=
    if_pos hfault
  induction trace using stopping.induct with
  | case1 => exact hread
  | case2 only =>
    have hsame : only.isMadeAgainBy ⟨.read, .failed fault⟩ = only.isMadeAgainBy ⟨.read, went⟩ := by
      rcases only with ⟨call, last⟩
      cases call <;> cases last <;> rfl
    rw [List.cons_append, List.cons_append, List.nil_append, List.nil_append, stopping, hread,
      hsame]
    rfl
  | case3 first next rest hagain ih =>
    rw [List.cons_append, List.cons_append, List.cons_append, List.cons_append, stopping, stopping,
      if_pos hagain, if_pos hagain]
    exact ih
  | case4 first next rest hagain ih =>
    rw [List.cons_append, List.cons_append, List.cons_append, List.cons_append, stopping, stopping,
      if_neg hagain, if_neg hagain]
    exact congrArg (first.went.fault <|> ·) ih

/-- A failure that stopped an operation did so whatever was called behind it, unless it was a read
that is made again. -/
theorem stopping_concat_of_some {trace : Trace} {fault : Fault} (h : trace.stopping = some fault)
    {latest : TracedCall} (hlatest : latest.call ≠ .read) :
    stopping (trace ++ [latest]) = some fault := by
  induction trace using stopping.induct with
  | case1 => cases h
  | case2 only =>
    have hagain := only.isMadeAgainBy_eq_false hlatest
    have honly : only.went.fault = some fault := h
    rw [List.cons_append, List.nil_append, stopping, hagain, honly]
    rfl
  | case3 first next rest hagain ih =>
    rw [stopping, if_pos hagain] at h
    rw [List.cons_append, List.cons_append, stopping, if_pos hagain]
    exact ih h
  | case4 first next rest hagain ih =>
    rw [stopping, if_neg hagain] at h
    rw [List.cons_append, List.cons_append, stopping, if_neg hagain]
    cases hfirst : first.went.fault with
    | none =>
      rw [hfirst] at h
      exact ih h
    | some earlier =>
      rw [hfirst] at h
      exact h

/-- Nothing has stopped the operation, and no size is missing that it needs. -/
def Clear (needed : Bool) (trace : Trace) : Prop :=
  trace.stopping = none ∧ (needed = true → ⟨.size, .unknown⟩ ∉ trace)

theorem clear_nil (needed : Bool) : Clear needed [] :=
  ⟨rfl, fun _ => List.not_mem_nil⟩

variable {needed : Bool} {trace : Trace}

/-- Where nothing is missing and nothing has stopped it, there is no cause for an error number. -/
theorem Clear.cause (h : Clear needed trace) : trace.cause needed = none := by
  have hsize : ¬ (needed = true ∧ ⟨.size, .unknown⟩ ∈ trace) := fun hboth => h.2 hboth.1 hboth.2
  rw [Trace.cause, h.1, if_neg hsize]
  rfl

/-- A call that went well leaves it so. -/
theorem Clear.concat (h : Clear needed trace) {latest : TracedCall}
    (hwent : latest.went.fault = none) (hsize : needed = true → latest ≠ ⟨.size, .unknown⟩) :
    Clear needed (trace ++ [latest]) := by
  refine ⟨(stopping_concat h.1 latest).trans hwent, fun hneeded hmem => ?_⟩
  rcases List.mem_append.mp hmem with htrace | hlatest
  · exact h.2 hneeded htrace
  · exact hsize hneeded (List.mem_singleton.mp hlatest).symm

/-- A call that failed is the cause. -/
theorem Clear.cause_failed (h : Clear needed trace) (call : RawCall) (fault : Fault) :
    Trace.cause needed (trace ++ [⟨call, .failed fault⟩]) = some fault.errno := by
  rw [Trace.cause, stopping_concat h.1]
  rfl

/-- It stays the cause if something else is called than a read. -/
theorem Clear.cause_failed_concat (h : Clear needed trace) (call : RawCall) (fault : Fault)
    {latest : TracedCall} (hlatest : latest.call ≠ .read) :
    Trace.cause needed (trace ++ [⟨call, .failed fault⟩] ++ [latest]) = some fault.errno := by
  have hstopping : stopping (trace ++ [⟨call, .failed fault⟩]) = some fault :=
    stopping_concat h.1 ⟨call, .failed fault⟩
  rw [Trace.cause, stopping_concat_of_some hstopping hlatest]
  rfl

/-- A size that is needed and cannot be known is the cause. -/
theorem Clear.cause_unknown (h : Clear true trace) :
    Trace.cause true (trace ++ [⟨.size, .unknown⟩]) = some Errno.illegalSeek := by
  have hmem : (⟨.size, .unknown⟩ : TracedCall) ∈ trace ++ [⟨.size, .unknown⟩] :=
    List.mem_append_right trace List.mem_cons_self
  rw [Trace.cause, stopping_concat h.1, if_pos ⟨rfl, hmem⟩]
  rfl

end Trace

/-! ## Traced devices -/

/-- A world with the trace of its device. -/
structure Traced (σ : Type) where
  world : σ
  trace : Trace

/-- A call that is traced, whether it answers or fails. -/
def Call.traced (kind : RawCall) (went : α → Went) (call : Call σ α) : Call (Traced σ) α :=
  fun traced =>
    match call traced.world with
    | .ok value world => .ok value ⟨world, traced.trace ++ [⟨kind, went value⟩]⟩
    | .error fault world => .error fault ⟨world, traced.trace ++ [⟨kind, .failed fault⟩]⟩

/-- How a call went that measured a size, if it answered. -/
def Went.ofSize : Option Nat → Went
  | some _ => answered
  | none => unknown

/-- The device with its calls traced.  It does what the device does. -/
def Device.traced (device : Device σ) : Device (Traced σ) where
  seek target := (device.seek target).traced .seek fun _ => .answered
  size := device.size.traced .size Went.ofSize
  read length := (device.read length).traced .read fun _ => .answered
  write bytes := (device.write bytes).traced .write fun _ => .answered
  flush := device.flush.traced .flush fun _ => .answered
  close := device.close.traced .close fun _ => .answered
  isStandardOutput := device.isStandardOutput
  retries traced := device.retries traced.world
  patience traced := device.patience traced.world

/-! ## Calls that are to blame -/

/-- The call is made where nothing stopped the operation.  Where it answers, nothing has; where it
fails, it is the call that stopped it. -/
def Call.Blamed (needed : Bool) (call : Call (Traced σ) α) : Prop :=
  ∀ traced, traced.trace.Clear needed →
    match call traced with
    | .ok _ after => after.trace.Clear needed
    | .error fault after => after.trace.cause needed = some fault.errno

/-- A traced call is to blame if it fails, unless it is of a size that is needed. -/
theorem Call.blamed_traced {needed : Bool} {kind : RawCall} {went : α → Went} (call : Call σ α)
    (hwent : ∀ value, (went value).fault = none)
    (hsize : needed = true → kind ≠ .size) : Call.Blamed needed (call.traced kind went) := by
  intro traced hclear
  simp only [Call.traced]
  cases call traced.world with
  | ok value world =>
    refine hclear.concat (hwent value) fun hneeded hlatest => ?_
    exact hsize hneeded (congrArg TracedCall.call hlatest)
  | error fault world => exact hclear.cause_failed kind fault

namespace Device

variable (device : Device σ) {needed : Bool}

theorem blamed_seek (target : RawSeek) : Call.Blamed needed (device.traced.seek target) :=
  Call.blamed_traced (device.seek target) (fun _ => rfl) fun _ => by decide

theorem blamed_write (bytes : Bytes) : Call.Blamed needed (device.traced.write bytes) :=
  Call.blamed_traced (device.write bytes) (fun _ => rfl) fun _ => by decide

theorem blamed_flush : Call.Blamed needed device.traced.flush :=
  Call.blamed_traced device.flush (fun _ => rfl) fun _ => by decide

theorem blamed_close : Call.Blamed needed device.traced.close :=
  Call.blamed_traced device.close (fun _ => rfl) fun _ => by decide

/-- Where the size is not needed, it may be unknown. -/
theorem blamed_size : Call.Blamed false device.traced.size := by
  refine Call.blamed_traced device.size (fun size => ?_) fun hneeded => nomatch hneeded
  cases size <;> rfl

/-- A read is to blame if it fails for good: what went before it does not count. -/
theorem blamed_readRetrying (length retries : Nat) {traced : Traced σ}
    (hready : ∀ went, Trace.stopping (traced.trace ++ [⟨.read, went⟩]) = went.fault) :
    match device.traced.readRetrying length retries traced with
    | .ok _ after => after.trace.stopping = none
    | .error fault after => after.trace.stopping = some fault := by
  induction retries generalizing traced with
  | zero =>
    simp only [readRetrying, Device.traced, Call.traced]
    cases device.read length traced.world with
    | ok bytes world => exact hready .answered
    | error fault world => exact hready (.failed fault)
  | succ retries ih =>
    simp only [readRetrying]
    cases hread : device.read length traced.world with
    | ok bytes world =>
      have htraced : device.traced.read length traced =
          .ok bytes ⟨world, traced.trace ++ [⟨.read, .answered⟩]⟩ := by
        simp only [Device.traced, Call.traced, hread]
      rw [htraced]
      exact hready .answered
    | error fault world =>
      have htraced : device.traced.read length traced =
          .error fault ⟨world, traced.trace ++ [⟨.read, .failed fault⟩]⟩ := by
        simp only [Device.traced, Call.traced, hread]
      rw [htraced]
      by_cases hfault : fault.isInterruption = true
      · simp only [hfault, if_true]
        refine ih fun went => ?_
        rw [List.append_assoc]
        exact (Trace.stopping_concat_again _ hfault went).trans (hready went)
      · simp only [hfault, Bool.false_eq_true, if_false]
        exact hready (.failed fault)

theorem blamed_readPatiently (length : Nat) :
    Call.Blamed false (device.traced.readPatiently length) := by
  intro traced hclear
  have hread := device.blamed_readRetrying length (device.traced.retries traced)
    fun went => Trace.stopping_concat hclear.1 ⟨.read, went⟩
  simp only [readPatiently]
  cases hresult : device.traced.readRetrying length (device.traced.retries traced) traced with
  | ok bytes after =>
    rw [hresult] at hread
    exact ⟨hread, fun hneeded => nomatch hneeded⟩
  | error fault after =>
    rw [hresult] at hread
    simp only at hread ⊢
    rw [Trace.cause, hread]
    rfl

end Device

/-! ## Errors that are attributed -/

/-- What an error says of a named resource and of the cause of its failure.  The end of the input
and misuse are told of where they may be; a refusal has no error number, and a failed attempt has
that of its cause. -/
inductive FileError.Reports (name : String) (ended misused : Prop) (cause : Option Errno) :
    FileError → Prop
  | endOfInput (h : ended) (hcause : cause = none) :
    Reports name ended misused cause (.endOfInput name)
  | misuse (text : String) (h : misused) (hcause : cause = none) :
    Reports name ended misused cause (.misuse text)
  | refused (reason : Refusal) (hcause : cause = none) :
    Reports name ended misused cause (.refused name reason)
  | broken (attempt : Attempt) (code : Errno) (hcause : cause = some code) :
    Reports name ended misused cause (.broken name attempt code)

namespace Action

/-- The failures of an action on a traced device are attributed: wherever it fails, the error names
the resource and the cause, and where it answers, nothing has failed for good. -/
def Attributes (name : String) (ended misused : Prop) (needed : Bool) (book : ρ)
    (action : Action FileError ρ (Traced σ) α) : Prop :=
  ∀ frame, Holding (fun traced => traced.trace.Clear needed) book frame →
    Meets (fun _ => Holding (fun traced => traced.trace.Clear needed) book)
      (fun error after => error.Reports name ended misused (after.world.trace.cause needed))
      (fun _ => True) (action frame)

namespace Attributes

variable {name : String} {ended misused : Prop} {needed : Bool} {book : ρ}
  {action : Action FileError ρ (Traced σ) α}

theorem pure (value : α) :
    Attributes name ended misused needed book (Pure.pure value : Action FileError ρ (Traced σ) α) :=
  fun _ hframe => hframe

/-- A refusal has no cause but itself. -/
theorem refuse (reason : Refusal) :
    Attributes name ended misused needed book
      (Action.refuse name reason : Action FileError ρ (Traced σ) α) :=
  fun _ hframe => .refused reason hframe.2.cause

theorem accept (check : Except Refusal α) :
    Attributes name ended misused needed book
      (Action.accept name check : Action FileError ρ (Traced σ) α) := by
  cases check with
  | ok value => exact .pure value
  | error reason => exact .refuse reason

theorem report (event : Event) :
    Attributes name ended misused needed book
      (Action.report event : Action FileError ρ (Traced σ) Unit) :=
  fun _ hframe => hframe

theorem bind {next : α → Action FileError ρ (Traced σ) β}
    (h : Attributes name ended misused needed book action)
    (hnext : ∀ value, Attributes name ended misused needed book (next value)) :
    Attributes name ended misused needed book (action >>= next) :=
  fun frame hframe => (h frame hframe).bind fun value after hafter => hnext value after hafter

/-- A call that is to blame for its failure is blamed. -/
theorem call {request : Call (Traced σ) α} (h : Call.Blamed needed request) (trying : Attempt) :
    Attributes name ended misused needed book
      (Action.call name trying request : Action FileError ρ (Traced σ) α) := by
  intro frame hframe
  have hrequest := h frame.world hframe.2
  cases hresult : request frame.world with
  | ok value world =>
    rw [hresult] at hrequest
    rw [call_of_ok name trying hresult]
    exact ⟨hframe.1, hrequest⟩
  | error fault world =>
    rw [hresult] at hrequest
    rw [call_of_error name trying hresult]
    exact .broken trying fault.errno hrequest

end Attributes

end Action

/-! ## Windows -/

/-- Whether an extent can be set to a length only where the size of the raw data is known. -/
def ExtentLength.needsSize : ExtentLength → Bool
  | bytes _ => false
  | rest => true

namespace Window

open FileWindow.Action (Attributes)

variable (device : Device σ) (window : Window) {ended misused : Prop} {needed : Bool} {book : ρ}

theorem seek_attributes (distance : Int) (whence : Whence) (limit : Option Nat) :
    Attributes window.name ended misused needed book
      (window.seek device.traced distance whence limit) := by
  have hcursor : Attributes window.name ended misused needed book
      (window.cursorFor device.traced distance whence) := by
    unfold cursorFor
    split
    · exact .call (device.blamed_seek _) .tell
    · exact .pure 0
  rw [seek_eq]
  exact hcursor.bind fun _ => Attributes.bind (.accept _) fun _ =>
    Attributes.bind (.call (device.blamed_seek _) .seek) fun _ =>
      Attributes.bind (.report _) fun _ => .accept _

theorem tell_attributes :
    Attributes window.name ended misused needed book (window.tell device.traced) :=
  Attributes.bind (.call (device.blamed_seek _) .tell) fun _ => .accept _

theorem widen_attributes :
    Attributes window.name ended misused needed book (window.widen device.traced) :=
  Attributes.bind (.call (device.blamed_seek _) .seek) fun _ =>
    Attributes.bind (.report _) fun _ => .pure _

/-- A size that is needed is to blame if it cannot be had, be it that measuring fails or that the
size cannot be known. -/
theorem requiredSize_attributes :
    Attributes window.name ended misused true book
      (window.requiredSize device.traced : Action FileError ρ (Traced σ) Nat) := by
  intro frame hframe
  simp only [requiredSize, rawSize, Bind.bind, EStateM.bind]
  cases hsize : device.size frame.world.world with
  | error fault world =>
    have htraced : device.traced.size frame.world =
        .error fault ⟨world, frame.world.trace ++ [⟨.size, .failed fault⟩]⟩ := by
      simp only [Device.traced, Call.traced, hsize]
    rw [Action.call_of_error _ _ htraced]
    exact .broken .querySize fault.errno (hframe.2.cause_failed .size fault)
  | ok size world =>
    have htraced : device.traced.size frame.world =
        .ok size ⟨world, frame.world.trace ++ [⟨.size, .ofSize size⟩]⟩ := by
      simp only [Device.traced, Call.traced, hsize]
    rw [Action.call_of_ok _ _ htraced]
    cases size with
    | none => exact .broken .determineSize Errno.illegalSeek hframe.2.cause_unknown
    | some size => exact ⟨hframe.1, hframe.2.concat rfl fun _ => by simp [Went.ofSize]⟩

/-- The rest of the raw data needs their size. -/
theorem lengthAt_attributes (offset : Nat) (length : ExtentLength) :
    Attributes window.name ended misused length.needsSize book
      (window.lengthAt device.traced offset length) := by
  cases length with
  | bytes length => exact .pure length
  | rest => exact (requiredSize_attributes device window).bind fun _ => .accept _

theorem narrow_attributes (offset : Nat) (length : ExtentLength) :
    Attributes window.name ended misused length.needsSize book
      (window.narrow device.traced offset length) :=
  (lengthAt_attributes device window offset length).bind fun _ =>
    Attributes.bind (.report _) fun _ => .pure _

end Window

end FileWindow

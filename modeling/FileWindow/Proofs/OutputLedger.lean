import FileWindow.Proofs.Absorbing
import FileWindow.Proofs.Accounts

/-!
# The books of an output

An output counts what was written and keeps the length of its extent.  Both are the sum of what its
operations have done: writes, seeks, and settings of the extent.  An operation that failed has done
nothing, unless it was to close the output, or to write more than one write takes.

Main definitions:

- Definition Output.Deed, Output.settle: what changes the books of an output, and how.
- Definition Output.Operation.deeds: what an operation that answered has done.
- Definition Output.Operation.Residue: what one that failed has done all the same.
- Definition Output.Operation.Did: what an operation has done, by what came of it.

Main results:

- Theorem Output.perform_meets: an operation on an open output does what its result tells.
- Theorem Output.settle_of_perform: an operation on any output settles its books by what it did.
-/

namespace FileWindow

variable {ρ σ : Type} {holds flushed released : σ → Prop} {device : Device σ}

open FileWindow.Action (Accounted Holding Keeps Meets Standing Told)

namespace Output

/-- What changes the books of an output. -/
inductive Deed
  /-- So many bytes were written. -/
  | wrote (length : Nat)
  /-- A seek went to a position counted from the start. -/
  | soughtStart (target : Nat)
  /-- A seek went to a position counted from the end. -/
  | soughtEnd
  /-- The extent was set. -/
  | narrowed (extent : Extent)
  /-- The extent was unset, and the raw data had a size. -/
  | widened (size : Nat)
  | closed
  deriving DecidableEq, Repr

/-- The output after something was done to it. -/
def settle : Output → Deed → Output
  | .closed, _ => .closed
  | .opened _, .closed => .closed
  | .opened ⟨⟨name, ⟨offset, length⟩⟩, written⟩, .wrote count =>
    .opened ⟨⟨name, ⟨offset, max length (written + count)⟩⟩, written + count⟩
  | .opened ⟨⟨name, ⟨offset, _⟩⟩, written⟩, .soughtStart target =>
    .opened ⟨⟨name, ⟨offset, max written target⟩⟩, max written target⟩
  | .opened ⟨⟨name, ⟨offset, _⟩⟩, written⟩, .soughtEnd =>
    .opened ⟨⟨name, ⟨offset, written⟩⟩, written⟩
  | .opened ⟨⟨name, _⟩, _⟩, .narrowed extent => .opened ⟨⟨name, extent⟩, 0⟩
  | .opened ⟨⟨name, _⟩, _⟩, .widened size => .opened ⟨⟨name, ⟨0, size⟩⟩, size⟩

/-- What a seek that answered has done. -/
def Deed.ofSeek (distance : Int) : Whence → List Deed
  | .start => [.soughtStart distance.toNat]
  | .finish => [.soughtEnd]
  | .current => []

/-- What a seek in the terms of streams has done. -/
def Deed.ofTarget (target : RawSeek) : List Deed :=
  match target.asSeek with
  | some (distance, whence) => Deed.ofSeek distance whence
  | none => []

/-- What an operation that answered has done, where the device told a size before it.  There is none
where it may not have answered: an extent is set to the rest only if it does not begin past the end
that the device told. -/
def Operation.deeds (measured : Option Nat) : Operation → Value → Option (List Deed)
  | .seek distance whence, _ => some (Deed.ofSeek distance whence)
  | .setExtent offset length, _ =>
    (length.resolve offset measured).map fun rest => [.narrowed ⟨offset, rest⟩]
  | .unsetExtent, .number total => some [.widened total]
  | .write _ length, _ => some [.wrote length]
  | .writeThenClose .., _ | .close, _ | .closeAfter _, _ => some [.closed]
  | .streamSeek target, _ => some (Deed.ofTarget target)
  | .streamRewind, _ => some [.soughtStart 0]
  | .streamWrite bytes, _ => some [.wrote (min bytes.length maxTransfer)]
  | .streamWriteAll bytes, _ => some [.wrote bytes.length]
  | _, _ => some []

/-- What an operation that failed has done all the same: one that was to close the output has closed
it, and one that writes all of some bytes has written as many as it could in full writes. -/
def Operation.Residue : Operation → List Deed → Prop
  | .writeThenClose .., deeds | .close, deeds | .closeAfter _, deeds => deeds = [.closed]
  | .streamWriteAll bytes, deeds =>
    ∃ count, count * maxTransfer < bytes.length ∧ deeds = List.replicate count (.wrote maxTransfer)
  | _, deeds => deeds = []

/-- What an operation has done, by what came of it. -/
def Operation.Did (device : Device σ) (operation : Operation) (world : σ) :
    Except Problem Value → List Deed → Prop
  | .ok value, deeds => operation.deeds (device.measured world) value = some deeds
  | .error _, deeds => operation.Residue deeds

/-- The count is within the extent, if the output is open. -/
def Within : Output → Prop
  | .closed => True
  | .opened writer => writer.written ≤ writer.window.extent.length

theorem within_settle (output : Output) (deed : Deed) (h : output.Within) :
    (output.settle deed).Within := by
  cases output with
  | closed => trivial
  | opened writer =>
    cases deed with
    | narrowed extent => exact Nat.zero_le _
    | wrote count => exact Nat.le_max_right _ _
    | soughtStart | soughtEnd | widened => exact Nat.le_refl _
    | closed => trivial

/-- Nothing is done to a closed output. -/
theorem foldl_settle_closed (deeds : List Deed) : deeds.foldl settle .closed = .closed := by
  induction deeds with
  | nil => rfl
  | cons deed deeds ih => exact ih

end Output

/-- Within the extent, counting is what a write settles. -/
theorem Writer.counting_eq_settle {writer : Writer}
    (h : writer.written ≤ writer.window.extent.length) (length : Nat) :
    Output.opened (writer.counting length) = Output.settle (.opened writer) (.wrote length) := by
  rcases writer with ⟨⟨name, ⟨offset, extentLength⟩⟩, written⟩
  rcases Nat.eq_zero_or_pos length with rfl | hlength
  · have hmax : max extentLength written = extentLength := Nat.max_eq_left h
    simp only [counting, if_true, Output.settle, Nat.add_zero, hmax]
  · rw [counting_of_pos _ hlength]
    rfl

namespace Output

variable {writer : Writer}

/-! ### One operation -/

/-- The adapter writes as much as one write takes, and that much is counted. -/
theorem sink_meets (hdevice : device.Keeps holds) (bytes : Bytes) {frame : Frame Output σ}
    (hframe : Holding holds (.opened writer) frame) :
    Meets
      (fun accepted after => accepted = min bytes.length maxTransfer ∧
        Holding holds (.opened (writer.counting accepted)) after)
      (fun _ => Holding holds (.opened writer)) (Holding holds (.opened writer))
      (Adapter.write device bytes frame) :=
  Meets.bind (write_meets hdevice bytes _ hframe).mapError_any fun _ _ hafter => ⟨rfl, hafter⟩

/-- Writing all of some bytes counts them all if it answers.  Where it fails, or goes no further,
full writes were made before, and they are counted. -/
theorem drain_meets (hdevice : device.Keeps holds) (rounds : Nat) (bytes : Bytes)
    {writer : Writer} {frame : Frame Output σ} (hframe : Holding holds (.opened writer) frame) :
    Meets (fun _ => Holding holds (.opened (writer.counting bytes.length)))
      (fun _ after => ∃ count, count * maxTransfer < bytes.length ∧
        Holding holds (.opened (writer.counting (count * maxTransfer))) after)
      (fun after => ∃ writer', Holding holds (.opened writer') after)
      (Transfer.drain (Adapter.write device) rounds bytes frame) := by
  induction rounds generalizing bytes writer frame with
  | zero =>
    match bytes with
    | [] => exact hframe
    | _ :: _ => exact ⟨_, hframe⟩
  | succ rounds ih =>
    match bytes with
    | [] => exact hframe
    | byte :: rest =>
      have hsink := (sink_meets hdevice (byte :: rest) hframe).imp (fun _ _ h => h)
        (fun _ _ h => h) fun after hafter =>
          (⟨writer, hafter⟩ : ∃ writer', Holding holds (.opened writer') after)
      refine hsink.observed.bind fun outcome after hafter => ?_
      have hpos : 0 < (byte :: rest).length := Nat.succ_pos _
      have hmax : 0 < maxTransfer := by decide
      match outcome, hafter with
      | .ok 0, ⟨haccepted, _⟩ => omega
      | .ok (accepted + 1), ⟨haccepted, hcounted⟩ =>
        have hrest := ih ((byte :: rest).drop (accepted + 1)) hcounted
        have hlength := List.length_drop (i := accepted + 1) (l := byte :: rest)
        refine hrest.imp ?_ ?_ fun _ h => h
        · intro _ last hlast
          rw [Writer.counting_counting, hlength] at hlast
          rwa [Nat.add_sub_cancel' (by omega)] at hlast
        · rintro _ last ⟨count, hcount, hlast⟩
          rw [Writer.counting_counting] at hlast
          have hfull : accepted + 1 = maxTransfer := by omega
          have hnext : (count + 1) * maxTransfer = count * maxTransfer + maxTransfer :=
            Nat.succ_mul count maxTransfer
          refine ⟨count + 1, by omega, ?_⟩
          rwa [hfull, Nat.add_comm, ← hnext] at hlast
      | .error fault, hsame =>
        by_cases hfault : fault.isInterruption = true
        · simp only [hfault, if_true]
          exact ih _ hsame
        · simp only [hfault, Bool.false_eq_true, if_false]
          exact ⟨0, by omega, by rw [Nat.zero_mul]; exact hsame⟩

/-- What is the case once some deeds were done to an open output. -/
abbrev DeedsTold (holds released : σ → Prop) (writer : Writer) (deeds : List Deed)
    (after : Frame Output σ) : Prop :=
  Told isOpen settle Within holds released (.opened writer) deeds after

/-- A seek that answers settles the books by where it went. -/
theorem told_of_aim (distance : Int) (whence : Whence) {after : Frame Output σ}
    (hafter : Holding holds (.opened (writer.aim distance whence)) after) :
    DeedsTold holds released writer (Deed.ofSeek distance whence) after := by
  refine Told.of_open rfl hafter fun _ => ?_
  cases whence <;> rfl

/-- Full writes may be settled in one go. -/
theorem foldl_settle_replicate {writer : Writer} (hwithin : (Output.opened writer).Within)
    (length count : Nat) :
    (List.replicate count (.wrote length)).foldl settle (.opened writer) =
      .opened (writer.counting (count * length)) := by
  induction count generalizing writer with
  | zero =>
    rw [Nat.zero_mul]
    rfl
  | succ count ih =>
    have hstep := Writer.counting_eq_settle hwithin length
    have hwithin' := within_settle _ (.wrote length) hwithin
    rw [← hstep] at hwithin'
    rw [List.replicate_succ, List.foldl_cons, ← hstep, ih hwithin', Writer.counting_counting,
      Nat.succ_mul, Nat.add_comm]

/-- A closing operation leaves a closed output, whether it answers or fails; only a write before the
close may leave the range of the count. -/
theorem closing_meets (hdevice : device.Keeps holds)
    (hflush : Call.Leads holds flushed device.flush)
    (hclose : Call.Leads flushed released device.close) {operation : Operation}
    (hcloses : operation.closes = true) {frame : Frame Output σ}
    (hframe : Holding holds (.opened writer) frame) :
    Meets (fun _ => Holding released .closed) (fun _ => Holding released .closed)
      (Standing isOpen holds released) (perform device operation frame) := by
  have hclosing : ∀ {writer' : Writer} {frame' : Frame Output σ},
      Holding holds (.opened writer') frame' →
      Meets (fun _ => Holding released .closed) (fun _ => Holding released .closed)
        (Standing isOpen holds released) (close device frame') :=
    fun h => (close_meets hflush hclose h).imp (fun _ _ h => h) (fun _ _ h => h) fun _ h => h.elim
  cases operation with
  | writeThenClose buffer length =>
    have hopen : Meets (fun _ after => ∃ writer', Holding holds (.opened writer') after)
        (fun _ after => ∃ writer', Holding holds (.opened writer') after)
        (Standing isOpen holds released) (write device buffer length frame) :=
      (write_meets hdevice buffer length hframe).imp (fun _ _ h => ⟨_, h⟩) (fun _ _ h => ⟨_, h⟩)
        fun _ => Standing.of_open rfl
    refine Meets.native ((Meets.observe_both hopen).bind ?_)
    rintro outcome between ⟨writer', hbetween⟩
    exact Teardown.closeAfter_meets (fun _ _ h => h) (hclosing hbetween) outcome
  | close => exact Meets.native (hclosing hframe)
  | closeAfter result =>
    exact Meets.native (Teardown.closeAfter_meets (fun _ _ h => h) (hclosing hframe) result)
  | _ => cases hcloses

/-- An operation on an open output does what its result tells. -/
theorem perform_meets (hdevice : device.Keeps holds)
    (hflush : Call.Leads holds flushed device.flush)
    (hclose : Call.Leads flushed released device.close) (operation : Operation)
    {frame : Frame Output σ} (hframe : Holding holds (.opened writer) frame) :
    Accounted isOpen settle Within holds released (.opened writer)
      (operation.deeds (device.measured frame.world)) operation.Residue
      (perform device operation frame) := by
  have hkept : ∀ {α : Type} {action : Action FileError Output σ α},
      Keeps (Holding holds (.opened writer)) action →
      Meets (fun _ => DeedsTold holds released writer [])
        (fun _ => DeedsTold holds released writer []) (Standing isOpen holds released)
        (action frame) :=
    fun h => (h frame hframe).imp (fun _ _ => Told.of_kept rfl) (fun _ _ => Told.of_kept rfl)
      fun _ => Standing.of_open rfl
  have hseek : ∀ distance whence,
      Meets (fun _ => DeedsTold holds released writer (Deed.ofSeek distance whence))
        (fun _ => DeedsTold holds released writer []) (Standing isOpen holds released)
        (seek device distance whence frame) :=
    fun distance whence => (seek_meets hdevice distance whence hframe).imp
      (fun _ _ => told_of_aim distance whence) (fun _ _ => Told.of_kept rfl)
      (fun _ => Standing.of_open rfl)
  have htarget : ∀ target,
      Meets (fun _ => DeedsTold holds released writer (Deed.ofTarget target))
        (fun _ => DeedsTold holds released writer []) (Standing isOpen holds released)
        (Adapter.seek (seek device) target frame) := by
    intro target
    rw [Adapter.seek_eq, Deed.ofTarget]
    cases target.asSeek with
    | none => exact Told.of_kept rfl hframe
    | some pair => exact (hseek pair.1 pair.2).mapError_any
  cases operation with
  | seek distance whence => exact Accounted.native (fun _ => rfl) rfl (hseek distance whence)
  | tell => exact Accounted.native (fun _ => rfl) rfl (hkept (tell_keeps hdevice))
  | size => exact Accounted.native (fun _ => rfl) rfl (hkept (size_keeps hdevice))
  | setExtent offset length =>
    refine Meets.native ((setExtent_meets hdevice offset length hframe).imp ?_
      (fun _ _ hafter => ⟨[], rfl, Told.of_kept rfl hafter⟩) (fun _ => Standing.of_open rfl))
    rintro _ after ⟨rest, hrest, hafter⟩
    have hdeeds : (Operation.setExtent offset length).deeds (device.measured frame.world)
        (.done ()) = some [.narrowed ⟨offset, rest⟩] := by
      simp only [Operation.deeds, hrest, Option.map_some]
    exact ⟨_, hdeeds, Told.of_open rfl hafter fun _ => rfl⟩
  | unsetExtent =>
    exact Accounted.native (fun _ => rfl) rfl ((unsetExtent_meets hdevice hframe).imp
      (fun _ _ hafter => Told.of_open rfl hafter fun _ => rfl)
      (fun _ _ => Told.of_kept rfl) (fun _ => Standing.of_open rfl))
  | write buffer length =>
    have hwritten : Meets (fun _ => DeedsTold holds released writer [.wrote length])
        (fun _ => DeedsTold holds released writer []) (Standing isOpen holds released)
        (write device buffer length frame) :=
      (write_meets hdevice buffer length hframe).imp
        (fun _ _ hafter => Told.of_open rfl hafter fun hwithin =>
          Writer.counting_eq_settle hwithin length)
        (fun _ _ => Told.of_kept rfl) (fun _ => Standing.of_open rfl)
    exact Accounted.native (fun _ => rfl) rfl hwritten
  | overwrite buffer length =>
    exact Accounted.native (fun _ => rfl) rfl (hkept (overwrite_keeps hdevice buffer length))
  | flush => exact Accounted.native (fun _ => rfl) rfl (hkept (flush_keeps hdevice))
  | writeThenClose | close | closeAfter =>
    exact Accounted.closing (fun _ => rfl) rfl rfl rfl
      (closing_meets hdevice hflush hclose rfl hframe)
  | streamSeek target => exact Accounted.foreign (fun _ => rfl) rfl (htarget target)
  | streamPosition => exact Accounted.foreign (fun _ => rfl) rfl (htarget (.current 0))
  | streamRewind =>
    have hrewound : Meets (fun _ => DeedsTold holds released writer [.soughtStart 0])
        (fun _ => DeedsTold holds released writer []) (Standing isOpen holds released)
        ((Adapter.seek (seek device) (.start 0) >>= fun _ => pure ()) frame) :=
      (htarget (.start 0)).bind fun _ _ hafter => hafter
    exact Accounted.foreign (fun _ => rfl) rfl hrewound
  | streamWrite bytes =>
    refine Accounted.foreign (fun _ => rfl) rfl ((sink_meets hdevice bytes hframe).imp ?_
      (fun _ _ => Told.of_kept rfl) (fun _ => Standing.of_open rfl))
    rintro accepted after ⟨rfl, hafter⟩
    exact Told.of_open rfl hafter fun hwithin => Writer.counting_eq_settle hwithin _
  | streamWriteAll bytes =>
    have hdrain := drain_meets hdevice (bytes.length + device.patience frame.world + 1) bytes hframe
    refine Meets.foreign ((hdrain).imp ?_ ?_ ?_)
    · exact fun _ after hafter => ⟨_, rfl, Told.of_open rfl hafter fun hwithin =>
        Writer.counting_eq_settle hwithin _⟩
    · rintro _ after ⟨count, hcount, hafter⟩
      exact ⟨_, ⟨count, hcount, rfl⟩, Told.of_open rfl hafter fun hwithin =>
        (foldl_settle_replicate hwithin _ _).symm⟩
    · rintro after ⟨writer', hafter⟩
      exact Standing.of_open rfl hafter
  | streamFlush =>
    exact Accounted.foreign (fun _ => rfl) rfl (hkept (flush_keeps hdevice)).mapError_any

/-- What a closed output may answer is something done. -/
theorem Operation.exists_deeds {operation : Operation} {value : Value} (measured : Option Nat)
    (h : operation.WhenClosed (.ok value)) :
    ∃ deeds, operation.deeds measured value = some deeds := by
  cases operation with
  | setExtent | unsetExtent =>
    obtain ⟨_, h⟩ := h
    cases h
  | _ => exact ⟨_, rfl⟩

/-- What a closed output answers leaves nothing behind but that it is closed. -/
theorem Operation.exists_residue {operation : Operation} {problem : Problem}
    (h : operation.WhenClosed (.error problem)) : ∃ deeds, operation.Residue deeds := by
  cases operation with
  | writeThenClose | close | closeAfter => exact ⟨_, rfl⟩
  | streamWriteAll bytes =>
    cases bytes with
    | nil => cases h
    | cons byte rest => exact ⟨[], 0, by rw [Nat.zero_mul]; exact Nat.succ_pos _, rfl⟩
  | _ => exact ⟨[], rfl⟩

/-- An operation on any output settles its books by what it has done. -/
theorem settle_of_perform (device : Device σ) (operation : Operation) {frame after : Frame Output σ}
    {outcome : Except Problem Value} (hwithin : frame.book.Within)
    (hstep : (Action.observe (perform device operation) :
      Action Problem Output σ (Except Problem Value)) frame = .ok outcome after) :
    ∃ deeds, operation.Did device frame.world outcome deeds ∧
      after.book = deeds.foldl settle frame.book := by
  cases hbook : frame.book with
  | closed =>
    obtain ⟨outcome', hidle, hwhen⟩ := perform_idle device hbook operation
    obtain ⟨rfl, rfl⟩ : outcome' = outcome ∧ frame = after := by
      simpa [hidle] using hstep
    simp only [foldl_settle_closed, hbook, and_true]
    cases outcome' with
    | ok value => exact Operation.exists_deeds _ hwhen
    | error problem => exact Operation.exists_residue hwhen
  | opened writer =>
    rw [hbook] at hwithin
    have haccounted := perform_meets device.keeps_trivially (.trivially _) (.trivially _)
      operation ⟨hbook, trivial⟩
    have htold := Meets.byOutcome haccounted hstep
    cases outcome with
    | ok value =>
      obtain ⟨done, hdeeds, hdone⟩ := htold
      exact ⟨done, hdeeds, hdone.2 hwithin⟩
    | error problem =>
      obtain ⟨left, hresidue, hleft⟩ := htold
      exact ⟨left, hresidue, hleft.2 hwithin⟩

/-- What the device keeps of its worlds until it is released, any operation keeps as long as the
output is open. -/
theorem perform_keeps (hdevice : device.Keeps holds)
    (hflush : Call.Leads holds flushed device.flush)
    (hclose : Call.Leads flushed released device.close) (operation : Operation) :
    Keeps (Standing isOpen holds released) (perform device operation) := by
  refine .of_left fun frame hframe => ?_
  cases hbook : frame.book with
  | closed =>
    rw [(perform_idle device hbook operation).left]
    exact hframe
  | opened writer =>
    have hworld : holds frame.world := by
      rw [Standing, hbook] at hframe
      exact hframe
    refine Meets.left ((perform_meets hdevice hflush hclose operation ⟨hbook, hworld⟩).imp
      ?_ ?_ fun _ hafter => hafter)
    · rintro _ after ⟨done, -, htold⟩
      exact htold.1
    · rintro _ after ⟨left, -, htold⟩
      exact htold.1

end Output

end FileWindow

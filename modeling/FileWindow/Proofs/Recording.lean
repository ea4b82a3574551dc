import FileWindow.Proofs.Meeting
import Mathlib.Logic.Function.Basic

/-!
# Devices on record

To say how often a device is released, its calls are put on record.  The devices have numbers, and
the record of each tells, the latest first, what calls were made of it, when it became the device of
a resource, and when it was handed back.  A recorded device does what the device does.

Main definitions:

- Definition Recorded: a world with a record of each device.
- Definition Device.recorded: a device whose calls are put on record.
- Definitions Bound, Released and Unbound: records of devices that a resource stands on, that one
  has let go of, and that none ever had.
- Definition OnRecord: the worlds in which a device has a given record.

Main results:

- Theorems Unbound.bound and Bound.called: what binding and calls make of the record of a device.
- Theorem Released.eq_of_bound_mem: a device that was let go of was bound once.
-/

namespace FileWindow

variable {σ α : Type}

/-! ## Records -/

/-- The calls of a device. -/
inductive RawCall
  | seek | size | read | write | flush | close
  deriving DecidableEq, Repr

/-- What is put on record about a device. -/
inductive Mark
  /-- It became the device of a resource: of an output, or else of an input. -/
  | bound (output : Bool)
  /-- A call was made of it. -/
  | called (call : RawCall)
  /-- The resource handed it back. -/
  | returned
  deriving DecidableEq, Repr

/-- A world with a record of each device, the latest mark first. -/
structure Recorded (σ : Type) where
  world : σ
  record : Nat → List Mark

/-- Puts a mark on the record of a device. -/
def Recorded.mark (number : Nat) (mark : Mark) (recorded : Recorded σ) : Recorded σ :=
  { recorded with record := Function.update recorded.record number (mark :: recorded.record number) }

/-- A call that is put on record, whether it answers or fails. -/
def Call.recorded (number : Nat) (kind : RawCall) (call : Call σ α) : Call (Recorded σ) α :=
  fun recorded =>
    match call recorded.world with
    | .ok value world => .ok value ({ recorded with world }.mark number (.called kind))
    | .error fault world => .error fault ({ recorded with world }.mark number (.called kind))

/-- The device of a number, with its calls put on record. -/
def Device.recorded (number : Nat) (device : Device σ) : Device (Recorded σ) where
  seek target := (device.seek target).recorded number .seek
  size := device.size.recorded number .size
  read length := (device.read length).recorded number .read
  write bytes := (device.write bytes).recorded number .write
  flush := device.flush.recorded number .flush
  close := device.close.recorded number .close
  isStandardOutput := device.isStandardOutput
  retries recorded := device.retries recorded.world
  patience recorded := device.patience recorded.world

@[simp]
theorem Recorded.record_mark_self (number : Nat) (mark : Mark) (recorded : Recorded σ) :
    (recorded.mark number mark).record number = mark :: recorded.record number :=
  Function.update_self _ _ _

theorem Recorded.record_mark_of_ne {number other : Nat} (hne : other ≠ number) (mark : Mark)
    (recorded : Recorded σ) :
    (recorded.mark number mark).record other = recorded.record other :=
  Function.update_of_ne hne _ _

/-- A recorded call leads where its mark leads, if nothing else of the world counts. -/
theorem Call.Leads.recorded {before after : Recorded σ → Prop} (number : Nat) (kind : RawCall)
    (call : Call σ α)
    (h : ∀ recorded world, before recorded →
      after ({ recorded with world }.mark number (.called kind))) :
    Call.Leads before after (call.recorded number kind) := by
  intro recorded hbefore
  simp only [Call.recorded]
  cases call recorded.world with
  | ok value world => exact h recorded world hbefore
  | error fault world => exact h recorded world hbefore

/-- The record of a device is a given one. -/
def OnRecord (number : Nat) (record : List Mark) (recorded : Recorded σ) : Prop :=
  recorded.record number = record

/-- A recorded call puts itself on record, and nothing else. -/
theorem Call.Leads.onRecord (number : Nat) (kind : RawCall) (call : Call σ α) (record : List Mark) :
    Call.Leads (OnRecord number record) (OnRecord number (.called kind :: record))
      (call.recorded number kind) := by
  refine .recorded _ _ _ fun recorded world h => ?_
  rw [OnRecord, Recorded.record_mark_self]
  exact congrArg _ h

theorem Device.flush_onRecord (number : Nat) (device : Device σ) (record : List Mark) :
    Call.Leads (OnRecord number record) (OnRecord number (.called .flush :: record))
      (device.recorded number).flush :=
  .onRecord number .flush device.flush record

theorem Device.close_onRecord (number : Nat) (device : Device σ) (record : List Mark) :
    Call.Leads (OnRecord number record) (OnRecord number (.called .close :: record))
      (device.recorded number).close :=
  .onRecord number .close device.close record

/-! ## The fate of a device -/

/-- The record of a device that no resource ever had: it was called, but not released. -/
def Unbound (record : List Mark) : Prop :=
  ∃ calls : List RawCall, record = calls.map .called ∧ .close ∉ calls

/-- The record of a device that a resource stands on: it was bound once, and was called before and
since, but not released. -/
def Bound (output : Bool) (record : List Mark) : Prop :=
  ∃ calls earlier : List RawCall,
    record = calls.map .called ++ .bound output :: earlier.map .called ∧
      .close ∉ calls ∧ .close ∉ earlier

/-- The record of a device that a resource has let go of: it was bound once, and afterwards either
released or handed back, once, with no call behind that.  That of an output was flushed right before
that; only that of an output is handed back. -/
inductive Released : Bool → List Mark → Prop
  | closed {output : Bool} {record : List Mark} (hbound : Bound output record)
      (hflushed : output = true → record.head? = some (.called .flush)) :
      Released output (.called .close :: record)
  | returned {record : List Mark} (hbound : Bound true record)
      (hflushed : record.head? = some (.called .flush)) : Released true (.returned :: record)

theorem Unbound.called {record : List Mark} {call : RawCall} (h : Unbound record)
    (hcall : call ≠ .close) : Unbound (.called call :: record) := by
  obtain ⟨calls, rfl, hcalls⟩ := h
  refine ⟨call :: calls, rfl, ?_⟩
  simp only [List.mem_cons, not_or]
  exact ⟨hcall.symm, hcalls⟩

/-- Binding a device that no resource had makes it bound. -/
theorem Unbound.bound {record : List Mark} (h : Unbound record) (output : Bool) :
    Bound output (.bound output :: record) := by
  obtain ⟨earlier, rfl, hearlier⟩ := h
  exact ⟨[], earlier, rfl, List.not_mem_nil, hearlier⟩

/-- A bound device stays bound when it is called, but for the release. -/
theorem Bound.called {output : Bool} {record : List Mark} {call : RawCall} (h : Bound output record)
    (hcall : call ≠ .close) : Bound output (.called call :: record) := by
  obtain ⟨calls, earlier, rfl, hcalls, hearlier⟩ := h
  refine ⟨call :: calls, earlier, rfl, ?_, hearlier⟩
  simp only [List.mem_cons, not_or]
  exact ⟨hcall.symm, hcalls⟩

/-- Of a bound device it is known which resource has it. -/
theorem Bound.eq_of_bound_mem {output other : Bool} {record : List Mark} (h : Bound output record)
    (hmem : .bound other ∈ record) : other = output := by
  obtain ⟨calls, earlier, rfl, -, -⟩ := h
  simpa using hmem

/-- A device that was let go of was bound once. -/
theorem Released.eq_of_bound_mem {output other : Bool} {record : List Mark}
    (h : Released output record) (hmem : .bound other ∈ record) : other = output := by
  cases h with
  | closed hbound hflushed => exact hbound.eq_of_bound_mem (by simpa using hmem)
  | returned hbound hflushed => exact hbound.eq_of_bound_mem (by simpa using hmem)

/-- A device that no resource ever had is not on record as bound. -/
theorem Unbound.bound_not_mem {output : Bool} {record : List Mark} (h : Unbound record) :
    .bound output ∉ record := by
  obtain ⟨calls, rfl, -⟩ := h
  simp

end FileWindow

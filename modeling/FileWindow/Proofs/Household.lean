import FileWindow.Copy
import FileWindow.Proofs.InputLedger
import FileWindow.Proofs.OutputLedger
import FileWindow.Proofs.Recording

/-!
# Households

A household is what a client of this library has: inputs and outputs on devices of their own, made,
used, copied to each other, handed back and dropped in any order, with whatever the devices answer.
In the end everything that is still there is dropped.  The calls of the devices are on record.

Main definitions:

- Definition Household, Household.Step: resources on recorded devices, and what a client can do.
- Definition Household.step, Household.run: what a step does, and a whole life with its end.
- Definition Household.giveBack: an output is given up for its device, and what is left is dropped.
- Definition Household.Accord: each record tells what its resource says of itself.

Main results:

- Theorem Household.accord_step: a step keeps records and resources in accord.
- Theorem Household.record_giveBack: what is on record behind an output that is given up.
- Theorem Household.eq_gone_of_dropAll: in the end no resource is there.
-/

namespace FileWindow

variable {ρ σ : Type}

open FileWindow.Action (Accounted Holding Keeps Meets Standing)

/-! ## The machine -/

/-- A resource of a household, or the place of one that is no longer there. -/
inductive Resource
  | input (book : Input)
  | output (book : Output)
  | gone

/-- Resources by number, each on the device of its number, whose calls are on record. -/
structure Household (σ : Type) where
  resources : List Resource
  world : Recorded σ
  journal : Journal

namespace Household

/-- What a client can do.  A resource that a step makes has the next number; a step that asks a
resource for what it is not does nothing. -/
inductive Step (σ : Type)
  | attachInput (name : String)
  | attachOutput (name : String)
  /-- Makes a closed input. -/
  | newInput
  | newOutput
  | useInput (number : Nat) (operation : Input.Operation)
  | useOutput (number : Nat) (operation : Output.Operation)
  /-- Copies an input to an output, in chunks of a size or through adapters. -/
  | copy (source target : Nat) (chunk : Option Nat)
  /-- Gives an output up for its device. -/
  | giveBack (number : Nat)
  | drop (number : Nat) (unwinding : Bool)
  /-- Something else happens in the world. -/
  | disturb (change : σ → σ)

variable (devices : Nat → Device σ)

/-- The device of a number, with its calls put on record. -/
def device (number : Nat) : Device (Recorded σ) :=
  (devices number).recorded number

/-- What an action on a book sees of a household. -/
def frame (home : Household σ) (book : ρ) : Frame ρ (Recorded σ) :=
  ⟨book, home.world, home.journal⟩

/-- The household after an action on the resource of a number, which has become another. -/
def put (home : Household σ) (number : Nat) (resource : Resource) (after : Frame ρ (Recorded σ)) :
    Household σ :=
  ⟨home.resources.set number resource, after.world, after.journal⟩

/-- The household after an attempt to make a resource on the next device.  The device is bound if
there is one. -/
def add {α : Type} (home : Household σ) (output : Bool) (resource : α → Resource) :
    EStateM.Result (Stop FileError) (Frame Unit (Recorded σ)) α → Household σ
  | .ok book after =>
    ⟨home.resources ++ [resource book],
      after.world.mark home.resources.length (.bound output), after.journal⟩
  | .error _ after => ⟨home.resources ++ [.gone], after.world, after.journal⟩

/-- The household without a resource that is dropped. -/
def drop (home : Household σ) (number : Nat) (unwinding : Bool) : Household σ :=
  match home.resources[number]? with
  | some (.input book) =>
    home.put number .gone (Action.left
      ((Input.drop (device devices number) unwinding : Action Empty Input (Recorded σ) Unit)
        (home.frame book)))
  | some (.output book) =>
    home.put number .gone (Action.left
      ((Output.drop (device devices number) unwinding : Action Empty Output (Recorded σ) Unit)
        (home.frame book)))
  | some .gone | none => home

/-- The household without an output that is given up for its device.  Whether it answers or fails,
what is left of the output is dropped, which releases a device that it still has.  The client gets
the device where the output answers, had a device, and has it no longer. -/
def giveBack (home : Household σ) (number : Nat) : Household σ :=
  match home.resources[number]? with
  | some (.output book) =>
    match Output.detach (device devices number) (home.frame book) with
    | .ok () after =>
      let left := (home.put number (.output after.book) after).drop devices number false
      if book.isOpen && !after.book.isOpen then
        { left with world := left.world.mark number .returned }
      else left
    | .error _ after => (home.put number (.output after.book) after).drop devices number false
  | _ => home

/-- The action that copies between the devices of two numbers. -/
def copying (source target : Nat) : Option Nat → Action Problem (Input × Output) (Recorded σ) Value
  | some chunk =>
    .native .number (Copy.inChunks (device devices source) (device devices target) chunk)
  | none => .foreign .number (Copy.adapted (device devices source) (device devices target))

/-- What a step does.  Where its action goes no further, what that left behind stays. -/
def step (home : Household σ) : Step σ → Household σ
  | .attachInput name =>
    home.add false .input
      (Input.attach (device devices home.resources.length) name (home.frame ()))
  | .attachOutput name =>
    home.add true .output
      (Output.attach (device devices home.resources.length) name (home.frame ()))
  | .newInput => { home with resources := home.resources ++ [.input .closed] }
  | .newOutput => { home with resources := home.resources ++ [.output .closed] }
  | .useInput number operation =>
    match home.resources[number]? with
    | some (.input book) =>
      let after := Action.left
        (Input.perform (device devices number) operation (home.frame book))
      home.put number (.input after.book) after
    | _ => home
  | .useOutput number operation =>
    match home.resources[number]? with
    | some (.output book) =>
      let after := Action.left
        (Output.perform (device devices number) operation (home.frame book))
      home.put number (.output after.book) after
    | _ => home
  | .copy source target chunk =>
    match home.resources[source]?, home.resources[target]? with
    | some (.input input), some (.output output) =>
      let after := Action.left (copying devices source target chunk (home.frame (input, output)))
      (home.put source (.input after.book.1) after).put target (.output after.book.2) after
    | _, _ => home
  | .giveBack number => home.giveBack devices number
  | .drop number unwinding => home.drop devices number unwinding
  | .disturb change => { home with world.world := change home.world.world }

/-- The household with nothing in it. -/
def empty (world : σ) : Household σ := ⟨[], ⟨world, fun _ => []⟩, []⟩

/-- Drops all that is still there. -/
def dropAll (home : Household σ) : Household σ :=
  (List.range home.resources.length).foldl (fun home number => home.drop devices number false) home

/-- A whole life: the steps, and the end of what is left. -/
def run (world : σ) (steps : List (Step σ)) : Household σ :=
  (steps.foldl (step devices) (empty world)).dropAll devices

end Household

/-! ## Records in accord with resources -/

/-- Of which sort of resource the device is bound, if it is: of an output, or else of an input. -/
def Resource.holder : Resource → Option Bool
  | .input (.opened _) => some false
  | .output (.opened _) => some true
  | _ => none

/-- A record tells what a resource says of itself: that it stands on the device, or that it does so
no longer, or never did. -/
def Agrees (record : List Mark) (resource : Resource) : Prop :=
  match resource.holder with
  | some output => Bound output record
  | none => Unbound record ∨ ∃ output, Released output record

theorem Agrees.of_holder_eq {record : List Mark} {old new : Resource} (h : Agrees record old)
    (hholder : new.holder = old.holder) : Agrees record new := by
  rw [Agrees, hholder]
  exact h

theorem Agrees.of_bound {record : List Mark} {resource : Resource} {output : Bool}
    (hholder : resource.holder = some output) (h : Bound output record) :
    Agrees record resource := by
  rw [Agrees, hholder]
  exact h

theorem Agrees.bound {record : List Mark} {resource : Resource} {output : Bool}
    (h : Agrees record resource) (hholder : resource.holder = some output) :
    Bound output record := by
  rw [Agrees, hholder] at h
  exact h

theorem Agrees.of_free {record : List Mark} {resource : Resource} (hholder : resource.holder = none)
    (h : Unbound record ∨ ∃ output, Released output record) : Agrees record resource := by
  rw [Agrees, hholder]
  exact h

/-- Each record tells what the resource of its number says of itself; where there is none, nothing
is on record. -/
def Accord (resources : List Resource) (world : Recorded σ) : Prop :=
  ∀ number,
    match resources[number]? with
    | some resource => Agrees (world.record number) resource
    | none => world.record number = []

namespace Accord

variable {resources : List Resource} {world : Recorded σ} {number : Nat} {old new : Resource}

theorem agrees (h : Accord resources world) (hold : resources[number]? = some old) :
    Agrees (world.record number) old := by
  have hnumber := h number
  rw [hold] at hnumber
  exact hnumber

/-- Where a resource becomes another, and its device gets a mark that goes with it, the accord
remains. -/
theorem mark (h : Accord resources world) (hold : resources[number]? = some old) {mark : Mark}
    (hnew : Agrees (mark :: world.record number) new) :
    Accord (resources.set number new) (world.mark number mark) := by
  obtain ⟨hlength, -⟩ := List.getElem?_eq_some_iff.mp hold
  intro other
  by_cases hother : other = number
  · subst hother
    rw [List.getElem?_set, if_pos rfl, if_pos hlength, Recorded.record_mark_self]
    exact hnew
  · rw [List.getElem?_set, if_neg (Ne.symm hother), Recorded.record_mark_of_ne hother]
    exact h other

/-- So it does where the resource becomes one that has its device as much as before. -/
theorem set (h : Accord resources world) (hold : resources[number]? = some old)
    (hholder : new.holder = old.holder) : Accord (resources.set number new) world := by
  obtain ⟨hlength, -⟩ := List.getElem?_eq_some_iff.mp hold
  intro other
  by_cases hother : other = number
  · subst hother
    rw [List.getElem?_set, if_pos rfl, if_pos hlength]
    exact (h.agrees hold).of_holder_eq hholder
  · rw [List.getElem?_set, if_neg (Ne.symm hother)]
    exact h other

/-- Nothing changes where a resource is put in its own place. -/
theorem set_self (hold : resources[number]? = some old) : resources.set number old = resources := by
  obtain ⟨hlength, rfl⟩ := List.getElem?_eq_some_iff.mp hold
  exact List.set_getElem_self hlength

/-- A call of a device that is bound, but for the release, is in accord. -/
theorem called (h : Accord resources world) (hold : resources[number]? = some old) {output : Bool}
    (hholder : old.holder = some output) {call : RawCall} (hcall : call ≠ .close) :
    Accord resources (world.mark number (.called call)) := by
  have hagrees : Agrees (.called call :: world.record number) old :=
    .of_bound hholder (((h.agrees hold).bound hholder).called hcall)
  rw [← set_self hold]
  exact h.mark hold hagrees

/-- A new resource is in accord if the record of its number agrees. -/
theorem append (h : Accord resources world) (hnew : Agrees [] new) :
    Accord (resources ++ [new]) world := by
  have hnext := h resources.length
  rw [List.getElem?_eq_none (Nat.le_refl _)] at hnext
  intro other
  rw [List.getElem?_append]
  by_cases hlt : other < resources.length
  · rw [if_pos hlt]
    exact h other
  · rw [if_neg hlt]
    rcases Nat.eq_or_lt_of_le (Nat.le_of_not_lt hlt) with rfl | hgt
    · rw [Nat.sub_self]
      simp only [List.getElem?_cons_zero, hnext]
      exact hnew
    · have hother := h other
      rw [List.getElem?_eq_none (Nat.le_of_lt hgt)] at hother
      rw [List.getElem?_eq_none (by simp only [List.length_singleton]; omega)]
      exact hother

end Accord

/-! ## Calls -/

section Calls

variable {resources : List Resource} {number : Nat} {old : Resource} {output : Bool}

/-- A device that is bound stays so while it is called, but for the release. -/
theorem recorded_keeps (device : Device σ) (hold : resources[number]? = some old)
    (hholder : old.holder = some output) : (device.recorded number).Keeps (Accord resources) where
  seek _ := .recorded _ _ _ fun _ _ h => Accord.called h hold hholder (by decide)
  size := .recorded _ _ _ fun _ _ h => Accord.called h hold hholder (by decide)
  read _ := .recorded _ _ _ fun _ _ h => Accord.called h hold hholder (by decide)
  write _ := .recorded _ _ _ fun _ _ h => Accord.called h hold hholder (by decide)
  flush := .recorded _ _ _ fun _ _ h => Accord.called h hold hholder (by decide)

/-- Records and resources are in accord, and the last that an output's device was asked for is to
flush. -/
def Flushed (resources : List Resource) (number : Nat) (output : Bool) (world : Recorded σ) : Prop :=
  Accord resources world ∧
    (output = true → (world.record number).head? = some (.called .flush))

theorem flush_leads (device : Device σ) (hold : resources[number]? = some old)
    (hholder : old.holder = some output) :
    Call.Leads (Accord resources) (Flushed resources number output)
      (device.recorded number).flush := by
  refine .recorded _ _ _ fun world inner h => ⟨?_, fun _ => ?_⟩
  · exact Accord.called h hold hholder (by decide)
  · rw [Recorded.record_mark_self]
    rfl

/-- A release behind a flush leaves a resource that has its device no longer. -/
theorem close_leads (device : Device σ) (hold : resources[number]? = some old)
    (hholder : old.holder = some output) {new : Resource} (hnew : new.holder = none) :
    Call.Leads (Flushed resources number output) (Accord (resources.set number new))
      (device.recorded number).close := by
  refine .recorded _ _ _ fun world inner h => ?_
  refine Accord.mark h.1 hold (.of_free hnew (.inr ⟨output, .closed ?_ h.2⟩))
  exact (Accord.agrees h.1 hold).bound hholder

/-- The device of an input needs no flush before it is released. -/
theorem close_leads_of_input (device : Device σ) (hold : resources[number]? = some old)
    (hholder : old.holder = some false) {new : Resource} (hnew : new.holder = none) :
    Call.Leads (Accord resources) (Accord (resources.set number new))
      (device.recorded number).close :=
  fun world h => close_leads device hold hholder hnew world ⟨h, fun houtput => nomatch houtput⟩

/-- The next device is called, but no resource has it yet. -/
def Fresh (resources : List Resource) (world : Recorded σ) : Prop :=
  Accord (resources ++ [.gone]) world ∧ Unbound (world.record resources.length)

/-- The place behind the last resource. -/
theorem getElem?_length_append (resources : List Resource) (new : Resource) :
    (resources ++ [new])[resources.length]? = some new := by
  simp

theorem set_length_append (resources : List Resource) (old new : Resource) :
    (resources ++ [old]).set resources.length new = resources ++ [new] := by
  simp

theorem Accord.fresh {world : Recorded σ} (h : Accord resources world) : Fresh resources world := by
  have hnext := h resources.length
  rw [List.getElem?_eq_none (Nat.le_refl _)] at hnext
  have hunbound : Unbound [] := ⟨[], rfl, List.not_mem_nil⟩
  refine ⟨h.append (.of_free rfl (.inl hunbound)), ?_⟩
  simp only at hnext
  rwa [hnext]

/-- Measuring the next device makes no difference. -/
theorem size_leads (device : Device σ) :
    Call.Leads (Fresh resources) (Fresh resources) (device.recorded resources.length).size := by
  refine .recorded _ _ _ fun world inner h => ?_
  have hunbound : Unbound (.called .size :: world.record resources.length) :=
    h.2.called (by decide)
  have hagrees : Agrees (.called .size :: world.record resources.length) .gone :=
    .of_free rfl (.inl hunbound)
  have haccord := Accord.mark h.1 (getElem?_length_append resources .gone) hagrees
  rw [set_length_append] at haccord
  refine ⟨haccord, ?_⟩
  rw [Recorded.record_mark_self]
  exact hunbound

end Calls

/-! ## Copies -/

section Copies

variable {holds : σ → Prop} {device source target : Device σ} {input : Input} {isOpen : Bool}

/-- Reading leaves the book of an input as it is, and does not call the device of a closed one. -/
theorem Input.read_keeps_book (hdevice : input.isOpen = true → device.Keeps holds)
    (length room : Nat) : Keeps (Holding holds input) (Input.read device length room) := by
  cases input with
  | closed =>
    intro frame hframe
    obtain ⟨reason, hread⟩ := read_refuses device hframe.1 length room
    rw [hread]
    exact hframe
  | opened reader => exact read_keeps (hdevice rfl) length room

/-- Writing leaves an output open or closed, and does not call the device of a closed one. -/
theorem Output.write_keeps_open (hdevice : isOpen = true → device.Keeps holds) (buffer : Bytes)
    (length : Nat) :
    Keeps (fun frame => frame.book.isOpen = isOpen ∧ holds frame.world)
      (Output.write device buffer length) := by
  rintro ⟨book, world, journal⟩ ⟨hopen, hworld⟩
  cases book with
  | closed => exact ⟨hopen, hworld⟩
  | opened writer =>
    obtain rfl : true = isOpen := hopen
    have hframe : Holding holds (.opened writer) ⟨Output.opened writer, world, journal⟩ :=
      ⟨rfl, hworld⟩
    refine (write_meets (hdevice rfl) buffer length hframe).imp ?_ ?_ ?_
    · exact fun _ _ hafter => ⟨by rw [hafter.1]; rfl, hafter.2⟩
    · exact fun _ _ hafter => ⟨by rw [hafter.1]; rfl, hafter.2⟩
    · exact fun _ hafter => ⟨by rw [hafter.1]; rfl, hafter.2⟩

/-- The input is a given one, the output is open or closed, and the world is of some sort. -/
def SideBySide (input : Input) (isOpen : Bool) (holds : σ → Prop)
    (frame : Frame (Input × Output) σ) : Prop :=
  frame.book.1 = input ∧ frame.book.2.isOpen = isOpen ∧ holds frame.world

variable (hsource : input.isOpen = true → source.Keeps holds)
  (htarget : isOpen = true → target.Keeps holds)

include hsource htarget

/-- Copying in chunks leaves the input as it is, and the output open or closed. -/
theorem Copy.inChunks_keeps (chunk : Nat) :
    Keeps (SideBySide input isOpen holds) (Copy.inChunks source target chunk) := by
  have hrounds : Keeps (SideBySide input isOpen holds)
      (Action.onFirst (Adapter.rounds source) : Copy.CopyAction FileError σ Nat) :=
    .onFirst fun _ _ h => h
  refine hrounds.bind fun rounds => Transfer.pump_keeps (.onFirst fun second => ?_)
    (fun bytes => .onSecond fun first => ?_) rounds 0
  · rintro frame ⟨hbook, hopen, hworld⟩
    exact (Input.read_keeps_book hsource chunk chunk frame ⟨hbook, hworld⟩).imp
      (fun _ _ h => ⟨h.1, hopen, h.2⟩) (fun _ _ h => ⟨h.1, hopen, h.2⟩) fun _ h => ⟨h.1, hopen, h.2⟩
  · rintro frame ⟨hfirst, hopen, hworld⟩
    exact (Output.write_keeps_open htarget bytes _ frame ⟨hopen, hworld⟩).imp
      (fun _ _ h => ⟨hfirst, h⟩) (fun _ _ h => ⟨hfirst, h⟩) fun _ h => ⟨hfirst, h⟩

/-- So does copying through adapters. -/
theorem Copy.adapted_keeps :
    Keeps (SideBySide input isOpen holds) (Copy.adapted source target) := by
  have hrounds : Keeps (SideBySide input isOpen holds)
      (Action.onFirst (Adapter.rounds source) : Copy.CopyAction Fault σ Nat) :=
    .onFirst fun _ _ h => h
  refine hrounds.bind fun rounds => Transfer.pump_keeps (.onFirst fun second => ?_)
    (fun bytes => .onSecond fun first => ?_) rounds 0
  · rintro frame ⟨hbook, hopen, hworld⟩
    exact ((Input.read_keeps_book hsource _ _).mapError frame ⟨hbook, hworld⟩).imp
      (fun _ _ h => ⟨h.1, hopen, h.2⟩) (fun _ _ h => ⟨h.1, hopen, h.2⟩) fun _ h => ⟨h.1, hopen, h.2⟩
  · rintro frame ⟨hfirst, hopen, hworld⟩
    have hsink : ∀ bytes, Keeps (fun frame => frame.book.isOpen = isOpen ∧ holds frame.world)
        (Adapter.write target bytes) :=
      fun bytes => ((Output.write_keeps_open htarget bytes _).mapError).bind fun _ => .pure _
    exact (Transfer.drain_keeps hsink _ bytes frame ⟨hopen, hworld⟩).imp
      (fun _ _ h => ⟨hfirst, h⟩) (fun _ _ h => ⟨hfirst, h⟩) fun _ h => ⟨hfirst, h⟩

end Copies

/-! ## Steps -/

namespace Household

variable (devices : Nat → Device σ) {home : Household σ} {number : Nat}

/-- The records of a household are in accord with its resources. -/
def InAccord (home : Household σ) : Prop :=
  Accord home.resources home.world

/-- Binding the next device, or failing to, keeps the accord. -/
theorem accord_add {α : Type} {output : Bool} {resource : α → Resource}
    {result : EStateM.Result (Stop FileError) (Frame Unit (Recorded σ)) α}
    (h : Meets
      (fun book after =>
        (resource book).holder = some output ∧ Fresh home.resources after.world)
      (fun _ after => Fresh home.resources after.world)
      (fun after => Fresh home.resources after.world) result) :
    (home.add output resource result).InAccord := by
  cases result with
  | ok book after =>
    obtain ⟨hholder, haccord, hunbound⟩ := h
    have hmarked := haccord.mark (getElem?_length_append home.resources .gone)
      (Agrees.of_bound hholder (hunbound.bound output))
    rw [set_length_append] at hmarked
    exact hmarked
  | error stop after => cases stop <;> exact h.1

/-- What an action on a resource leaves behind is put in place. -/
theorem accord_put_of_standing {old : Resource} {isOpen : ρ → Bool} {resource : ρ → Resource}
    {closed : ρ} {after : Frame ρ (Recorded σ)} (hold : home.resources[number]? = some old)
    (hopen : ∀ book, isOpen book = true → (resource book).holder = old.holder)
    (hclosed : ∀ book, isOpen book = false → book = closed)
    (h : Standing isOpen (Accord home.resources)
      (Accord (home.resources.set number (resource closed))) after) :
    (home.put number (resource after.book) after).InAccord := by
  rw [Standing] at h
  by_cases hbook : isOpen after.book = true
  · rw [if_pos hbook] at h
    exact h.set hold (hopen _ hbook)
  · have hfalse := Bool.eq_false_iff.mpr hbook
    rw [if_neg hbook, ← hclosed _ hfalse] at h
    exact h

theorem input_holder {book : Input} (h : book.isOpen = true) :
    (Resource.input book).holder = some false := by
  cases book with
  | closed => cases h
  | opened reader => rfl

theorem output_holder {book : Output} (h : book.isOpen = true) :
    (Resource.output book).holder = some true := by
  cases book with
  | closed => cases h
  | opened writer => rfl

theorem output_holder_eq {book book' : Output} (h : book.isOpen = book'.isOpen) :
    (Resource.output book).holder = (Resource.output book').holder := by
  cases book <;> cases book' <;> first | rfl | cases h

theorem input_eq_closed {book : Input} (h : book.isOpen = false) : book = .closed := by
  cases book with
  | closed => rfl
  | opened reader => cases h

theorem output_eq_closed {book : Output} (h : book.isOpen = false) : book = .closed := by
  cases book with
  | closed => rfl
  | opened writer => cases h

/-- Using an input keeps the accord. -/
theorem accord_useInput (h : home.InAccord) (operation : Input.Operation) :
    (home.step devices (.useInput number operation)).InAccord := by
  simp only [step]
  split
  · rename_i book hold
    cases book with
    | closed =>
      have hbook : (home.frame Input.closed).book = .closed := rfl
      simp only [(Input.perform_idle (device devices number) hbook operation).left]
      exact Accord.set h hold rfl
    | opened reader =>
      have hframe : Holding (Accord home.resources) (.opened reader)
          (home.frame (Input.opened reader)) := ⟨rfl, h⟩
      have hclose : Call.Leads (Accord home.resources)
          (Accord (home.resources.set number (.input .closed))) (device devices number).close :=
        close_leads_of_input (devices number) hold rfl rfl
      have hperformed := Input.perform_meets (recorded_keeps (devices number) hold rfl) hclose
        operation hframe
      exact accord_put_of_standing hold (fun _ => input_holder) (fun _ => input_eq_closed)
        hperformed.standing
  · exact h

/-- Using an output keeps the accord. -/
theorem accord_useOutput (h : home.InAccord) (operation : Output.Operation) :
    (home.step devices (.useOutput number operation)).InAccord := by
  simp only [step]
  split
  · rename_i book hold
    cases book with
    | closed =>
      have hbook : (home.frame Output.closed).book = .closed := rfl
      simp only [(Output.perform_idle (device devices number) hbook operation).left]
      exact Accord.set h hold rfl
    | opened writer =>
      have hframe : Holding (Accord home.resources) (.opened writer)
          (home.frame (Output.opened writer)) := ⟨rfl, h⟩
      have hclose : Call.Leads (Flushed home.resources number true)
          (Accord (home.resources.set number (.output .closed))) (device devices number).close :=
        close_leads (devices number) hold rfl rfl
      have hperformed := Output.perform_meets (recorded_keeps (devices number) hold rfl)
        (flush_leads (devices number) hold rfl) hclose operation hframe
      exact accord_put_of_standing hold (fun _ => output_holder) (fun _ => output_eq_closed)
        hperformed.standing
  · exact h

/-- Dropping a resource keeps the accord. -/
theorem accord_drop (h : home.InAccord) (unwinding : Bool) :
    (home.drop devices number unwinding).InAccord := by
  simp only [drop]
  split
  · rename_i book hold
    cases book with
    | closed => exact Accord.set h hold rfl
    | opened reader =>
      have hframe : Holding (Accord home.resources) (.opened reader)
          (home.frame (Input.opened reader)) := ⟨rfl, h⟩
      have hclose : Call.Leads (Accord home.resources)
          (Accord (home.resources.set number .gone)) (device devices number).close :=
        close_leads_of_input (devices number) hold rfl rfl
      exact (Input.left_drop hclose unwinding hframe).2
  · rename_i book hold
    cases book with
    | closed => exact Accord.set h hold rfl
    | opened writer =>
      have hframe : Holding (Accord home.resources) (.opened writer)
          (home.frame (Output.opened writer)) := ⟨rfl, h⟩
      have hclose : Call.Leads (Flushed home.resources number true)
          (Accord (home.resources.set number .gone)) (device devices number).close :=
        close_leads (devices number) hold rfl rfl
      exact (Output.left_drop (flush_leads (devices number) hold rfl) hclose unwinding hframe).2
  · exact h
  · exact h

/-- To drop a closed output only empties its place. -/
theorem drop_put_of_closed {old : Resource} (hold : home.resources[number]? = some old)
    {after : Frame Output (Recorded σ)} (hclosed : after.book = .closed) (unwinding : Bool) :
    (home.put number (.output after.book) after).drop devices number unwinding =
      home.put number .gone after := by
  obtain ⟨hlength, -⟩ := List.getElem?_eq_some_iff.mp hold
  have hplace : (home.put number (.output .closed) after).resources[number]? =
      some (.output .closed) := by
    simp only [put, List.getElem?_set_self, hlength]
  rw [hclosed]
  simp only [drop, hplace]
  rw [put, put, put, List.set_set]
  rfl

/-- An output that answers its device is gone, and the client has the device. -/
theorem giveBack_of_ok {writer : Writer} {after : Frame Output (Recorded σ)}
    (hold : home.resources[number]? = some (.output (.opened writer)))
    (h : Output.detach (device devices number) (home.frame (.opened writer)) = .ok () after) :
    home.giveBack devices number =
      home.put number .gone { after with world := after.world.mark number .returned } := by
  have hclosed : after.book = .closed := Output.closed_of_detach h
  have hlost : ((Output.opened writer).isOpen && !after.book.isOpen) = true := by
    rw [hclosed]
    rfl
  simp only [giveBack, hold, h, hlost, if_true, drop_put_of_closed devices hold hclosed]
  rfl

/-- An output that does not answer its device is dropped. -/
theorem giveBack_of_error {book : Output} {stop : Stop FileError}
    {after : Frame Output (Recorded σ)} (hold : home.resources[number]? = some (.output book))
    (h : Output.detach (device devices number) (home.frame book) = .error stop after) :
    home.giveBack devices number =
      (home.put number (.output after.book) after).drop devices number false := by
  simp only [giveBack, hold, h]

/-- Giving an output up for its device keeps the accord. -/
theorem accord_giveBack (h : home.InAccord) : (home.giveBack devices number).InAccord := by
  cases hold : home.resources[number]? with
  | none =>
    simp only [giveBack, hold]
    exact h
  | some resource =>
    cases resource with
    | input | gone =>
      simp only [giveBack, hold]
      exact h
    | output book =>
      cases book with
      | closed =>
        obtain ⟨error, hrefused⟩ :=
          Output.detach_of_closed (device devices number) home.world home.journal
        rw [giveBack_of_error devices hold hrefused]
        have hput : (home.put number (.output .closed) (home.frame Output.closed)).InAccord :=
          Accord.set h hold rfl
        exact accord_drop devices hput false
      | opened writer =>
        have hframe : Holding (Accord home.resources) (.opened writer)
            (home.frame (Output.opened writer)) := ⟨rfl, h⟩
        have hdetached := Output.detach_meets (flush_leads (devices number) hold rfl) hframe
        rcases hdetached.ok_or_failed with
          ⟨_, after, hanswer, -, haccord, hflushed⟩ | ⟨error, after, hfails, hbook, haccord, -⟩
        · rw [giveBack_of_ok devices hold hanswer]
          have hreturned : Released true (.returned :: after.world.record number) :=
            .returned ((haccord.agrees hold).bound rfl) (hflushed rfl)
          exact haccord.mark hold (.of_free rfl (.inr ⟨true, hreturned⟩))
        · rw [giveBack_of_error devices hold hfails]
          have hput : (home.put number (.output after.book) after).InAccord :=
            haccord.set hold (by rw [hbook])
          exact accord_drop devices hput false

/-- To drop an open output flushes its device and releases it. -/
theorem record_drop {writer : Writer}
    (hold : home.resources[number]? = some (.output (.opened writer))) (unwinding : Bool) :
    (home.drop devices number unwinding).world.record number =
      .called .close :: .called .flush :: home.world.record number := by
  have hframe : Holding (OnRecord number (home.world.record number)) (.opened writer)
      (home.frame (Output.opened writer)) := ⟨rfl, rfl⟩
  have hdropped := Output.left_drop (ε := Empty) ((devices number).flush_onRecord number _)
    ((devices number).close_onRecord number _) unwinding hframe
  simp only [drop, hold]
  exact hdropped.2

/-- An open output that is given up flushes its device.  It then answers the device, which is not
called again, or it fails, and is dropped like any other. -/
theorem record_giveBack {writer : Writer}
    (hold : home.resources[number]? = some (.output (.opened writer))) :
    (∃ after,
      Output.detach (device devices number) (home.frame (.opened writer)) = .ok () after ∧
      (home.giveBack devices number).world.record number =
        .returned :: .called .flush :: home.world.record number) ∨
    ∃ error after,
      Output.detach (device devices number) (home.frame (.opened writer)) =
        .error (.failed error) after ∧
      (home.giveBack devices number).world.record number =
        .called .close :: .called .flush :: .called .flush :: home.world.record number := by
  have hframe : Holding (OnRecord number (home.world.record number)) (.opened writer)
      (home.frame (Output.opened writer)) := ⟨rfl, rfl⟩
  have hdetached := Output.detach_meets ((devices number).flush_onRecord number _) hframe
  rcases hdetached.ok_or_failed with
    ⟨_, after, hanswer, -, hrecord⟩ | ⟨error, after, hfails, hbook, hrecord⟩
  · refine .inl ⟨after, hanswer, ?_⟩
    rw [giveBack_of_ok devices hold hanswer, put, Recorded.record_mark_self]
    exact congrArg _ hrecord
  · refine .inr ⟨error, after, hfails, ?_⟩
    obtain ⟨hlength, -⟩ := List.getElem?_eq_some_iff.mp hold
    have hplace : (home.put number (.output after.book) after).resources[number]? =
        some (.output (.opened writer)) := by
      rw [hbook]
      simp only [put, List.getElem?_set_self, hlength]
    rw [giveBack_of_error devices hold hfails, record_drop devices hplace]
    exact congrArg _ (congrArg _ hrecord)

/-- Copying keeps the accord: no resource comes to have its device, or has it no longer. -/
theorem accord_copy (h : home.InAccord) (source target : Nat) (chunk : Option Nat) :
    (home.step devices (.copy source target chunk)).InAccord := by
  simp only [step]
  split
  · rename_i input output hsource htarget
    have hkeeps : Keeps (SideBySide input output.isOpen (Accord home.resources))
        (copying devices source target chunk) := by
      have hreading : input.isOpen = true →
          (device devices source).Keeps (Accord home.resources) :=
        fun hopen => recorded_keeps (devices source) hsource (input_holder hopen)
      have hwriting : output.isOpen = true →
          (device devices target).Keeps (Accord home.resources) :=
        fun hopen => recorded_keeps (devices target) htarget (output_holder hopen)
      cases chunk with
      | some chunk => exact (Copy.inChunks_keeps hreading hwriting chunk).mapError.map
      | none => exact (Copy.adapted_keeps hreading hwriting).mapError.map
    have hframe : SideBySide input output.isOpen (Accord home.resources)
        (home.frame (input, output)) := ⟨rfl, rfl, h⟩
    obtain ⟨hinput, hopen, haccord⟩ := hkeeps.left hframe
    generalize Action.left (copying devices source target chunk (home.frame (input, output))) =
      after at hinput hopen haccord
    -- The source is put back as it was, so the target is where it was before.
    have hfirst : (home.put source (.input after.book.1) after).resources = home.resources := by
      rw [hinput]
      exact Accord.set_self hsource
    have hset := haccord.set htarget (output_holder_eq hopen)
    rw [← hfirst] at hset
    exact hset
  · exact h

/-- A step keeps records and resources in accord. -/
theorem accord_step (h : home.InAccord) (next : Step σ) : (home.step devices next).InAccord := by
  have hunbound : Unbound [] := ⟨[], rfl, List.not_mem_nil⟩
  have hfresh : Fresh home.resources (home.frame ()).world := Accord.fresh h
  cases next with
  | attachInput name =>
    refine accord_add ((Input.attach_meets (size_leads _) name hfresh).imp ?_ ?_ ?_)
    · rintro book after ⟨size, -, rfl, hafter⟩
      exact ⟨rfl, hafter.2⟩
    · exact fun _ _ hafter => hafter.2
    · exact fun _ hafter => hafter.elim
  | attachOutput name =>
    refine accord_add ((Output.attach_meets (size_leads _) name hfresh).imp ?_ ?_ ?_)
    · rintro book after ⟨rfl, hafter⟩
      exact ⟨rfl, hafter.2⟩
    · exact fun _ _ hafter => hafter.2
    · exact fun _ hafter => hafter.elim
  | newInput => exact Accord.append h (.of_free rfl (.inl hunbound))
  | newOutput => exact Accord.append h (.of_free rfl (.inl hunbound))
  | useInput number operation => exact accord_useInput devices h operation
  | useOutput number operation => exact accord_useOutput devices h operation
  | copy source target chunk => exact accord_copy devices h source target chunk
  | giveBack number => exact accord_giveBack devices h
  | drop number unwinding => exact accord_drop devices h unwinding
  | disturb change => exact h

/-- Dropping a resource leaves its place empty. -/
theorem resources_drop (home : Household σ) (number : Nat) (unwinding : Bool) :
    (home.drop devices number unwinding).resources = home.resources.set number .gone := by
  simp only [drop]
  split
  · rfl
  · rfl
  · rename_i hgone
    exact (Accord.set_self hgone).symm
  · rename_i hnone
    exact (List.set_eq_of_length_le (List.getElem?_eq_none_iff.mp hnone)).symm

/-- In the end all places are empty. -/
theorem eq_gone_of_dropAll {resource : Resource}
    (h : (home.dropAll devices).resources[number]? = some resource) : resource = .gone := by
  have hdropped : ∀ count,
      let after := (List.range count).foldl (fun home number => home.drop devices number false) home
      after.resources.length = home.resources.length ∧
        ∀ number resource, number < count → after.resources[number]? = some resource →
          resource = .gone := by
    intro count
    induction count with
    | zero => exact ⟨rfl, fun _ _ hlt => absurd hlt (Nat.not_lt_zero _)⟩
    | succ count ih =>
      simp only [List.range_succ, List.foldl_append, List.foldl_cons, List.foldl_nil,
        resources_drop, List.length_set] at ih ⊢
      refine ⟨ih.1, fun number resource hlt hresource => ?_⟩
      rw [List.getElem?_set] at hresource
      by_cases hnumber : count = number
      · rw [if_pos hnumber] at hresource
        split at hresource
        · exact (Option.some.inj hresource).symm
        · cases hresource
      · rw [if_neg hnumber] at hresource
        exact ih.2 number resource (by omega) hresource
  obtain ⟨hlength, hgone⟩ := hdropped home.resources.length
  obtain ⟨hlt, -⟩ := List.getElem?_eq_some_iff.mp h
  exact hgone number resource (by rw [← hlength]; exact hlt) h

end Household

end FileWindow

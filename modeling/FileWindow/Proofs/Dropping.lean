import FileWindow.Proofs.Bookkeeping
import FileWindow.Proofs.FirstFailure
import FileWindow.Proofs.Quiet
import FileWindow.Session.Run

/-!
# Who hears of a failed teardown

A failure to tear a resource down is passed on where somebody can be told, and goes on record where
the resource is dropped.  In a session nothing else puts errors on record: not what is asked of a
resource, nor opening one, nor copying, nor a task on files.

Main definitions:

- Definition Session.GivesUp: the steps that drop a resource.
- Definition Session.Dropped: a session after a drop.

Main results:

- Theorem Session.dropSlot_errors: what a drop puts on record.
- Theorem Session.perform_errors: a step leaves the errors on record as they are, unless it drops a
  resource.
- Theorem Session.runSteps_errors: so do steps that drop none.
- Theorem teardown_tells_first_failure: the first failure of a teardown is told, and none goes
  unheard.
-/

namespace FileWindow

variable {ε ρ σ α β : Type}

open FileWindow.Action (Quiet)
open FileWindow.Teardown (firstFailure suppressed unheard)

/-! ## What drops put on record -/

/-- Whether an event tells of a teardown that failed while another failure was on its way. -/
def Event.tellsOfUnwinding : Event → Bool
  | closeFailedUnwinding .. => true
  | _ => false

/-- The events on record about teardowns that failed while another failure was on its way. -/
def Journal.unwindings (journal : Journal) : Journal :=
  journal.filter Event.tellsOfUnwinding

theorem Journal.unwindings_append (newer older : Journal) :
    Journal.unwindings (newer ++ older) = newer.unwindings ++ older.unwindings :=
  List.filter_append ..

/-- Such an event is a detail. -/
theorem Event.level_of_tellsOfUnwinding {event : Event} (h : event.tellsOfUnwinding = true) :
    event.level = .debug := by
  cases event with
  | closeFailedUnwinding name error => rfl
  | _ => cases h

namespace Teardown

/-- The errors that a drop puts on record: its failure, unless another is on its way. -/
def errorsOfDrop (name : String) (unwinding : Bool) : Except FileError Unit → Journal
  | .error error => if unwinding then [] else [.closeFailedOnDrop name error]
  | .ok () => []

/-- The details that a drop puts on record while another failure is on its way. -/
def unwindingsOfDrop (name : String) (unwinding : Bool) : Except FileError Unit → Journal
  | .error error => if unwinding then [.closeFailedUnwinding name error] else []
  | .ok () => []

/-- A drop puts its own failure on record, and no other, whatever goes on record besides that is no
error. -/
theorem errors_unheard {record : Journal} (hrecord : record.errors = []) (name : String)
    (unwinding : Bool) (closing : Except FileError Unit) (older : Journal) :
    Journal.errors (unheard name unwinding closing ++ record ++ older) =
      errorsOfDrop name unwinding closing ++ older.errors := by
  have hunheard :
      (unheard name unwinding closing).errors = errorsOfDrop name unwinding closing := by
    cases closing <;> cases unwinding <;> rfl
  rw [Journal.errors_append, Journal.errors_append, hrecord, hunheard, List.append_nil]

theorem unwindings_unheard {record : Journal} (hrecord : record.unwindings = []) (name : String)
    (unwinding : Bool) (closing : Except FileError Unit) (older : Journal) :
    Journal.unwindings (unheard name unwinding closing ++ record ++ older) =
      unwindingsOfDrop name unwinding closing ++ older.unwindings := by
  have hunheard :
      (unheard name unwinding closing).unwindings = unwindingsOfDrop name unwinding closing := by
    cases closing <;> cases unwinding <;> rfl
  rw [Journal.unwindings_append, Journal.unwindings_append, hrecord, hunheard, List.append_nil]

end Teardown

/-- Closing an input puts no failure on record. -/
theorem Input.record_ending_calm (device : Device σ) (input : Input) (world : σ) :
    (ending device input world).record.errors = [] ∧
      (ending device input world).record.unwindings = [] := by
  cases input <;> exact ⟨rfl, rfl⟩

theorem Output.record_ending_calm (device : Device σ) (output : Output) (world : σ) :
    (ending device output world).record.errors = [] ∧
      (ending device output world).record.unwindings = [] := by
  cases output <;> exact ⟨rfl, rfl⟩

/-! ## Sessions -/

namespace Session

/-- What a halted session would have come to counts for nothing; otherwise it is of some sort. -/
def Gives (holds : α → Prop) : Except Halt α → Prop
  | .ok value => holds value
  | .error _ => True

theorem Gives.bind {holds : α → Prop} {later : β → Prop} {result : Except Halt α}
    {next : α → Except Halt β} (h : Gives holds result)
    (hnext : ∀ value, holds value → Gives later (next value)) : Gives later (result >>= next) := by
  cases result with
  | ok value => exact hnext value h
  | error halt => trivial

theorem Gives.slot (session : Session) (name : String) :
    Gives (fun _ => True) (session.slot name) := by
  unfold Session.slot
  split
  · trivial
  · trivial

/-- The name under which a step opens a resource, if it opens one. -/
def Step.opens : Step → Option String
  | .openInput name _ | .openOutput name .. | .inputStream name .. | .outputStream name ..
  | .newInput name _ | .newOutput name _ | .standardOutput name _ | .bareStream name _
  | .bareFile name .. | .bareStandardOutput name => some name
  | _ => none

/-- The step drops a resource: it is asked to, or it failed to give an output up for its stream, or
it opened a resource under a name that another had. -/
inductive GivesUp (session : Session) : Step → Except Problem Value → Prop
  | drop (name : String) (unwinding : Bool) (answer : Except Problem Value) :
    GivesUp session (.drop name unwinding) answer
  | intoStream (name : String) (error : FileError) :
    GivesUp session (.intoStream name) (.error (.error error))
  | replaced {step : Step} {name : String} (hopens : step.opens = some name)
    (hold : (session.slots.lookup name).isSome) : GivesUp session step (.ok (.flag true))

/-- The name of the resource in a slot; a bare device has none. -/
def Slot.name : Slot → String
  | .input book _ => book.name
  | .output book _ => book.name
  | .bare _ => ""

/-- How closing the resource in a slot goes; a bare device is let go of without a word. -/
def Slot.closing (world : World) : Slot → Except FileError Unit
  | .input book backing => (Input.ending (World.device backing) book world).outcome
  | .output book backing => (Output.ending (World.device backing) book world).outcome
  | .bare _ => .ok ()

/-- The session is what the drop of a resource made of one with given errors on record. -/
def Dropped (errors : Journal) (after : Session) : Prop :=
  ∃ (before : Session) (slot : Slot) (unwinding : Bool),
    before.journal.errors = errors ∧ before.dropSlot unwinding slot = .ok after ∧
      after.journal.errors =
        Teardown.errorsOfDrop slot.name unwinding (slot.closing before.world) ++ errors

/-- How the errors on record may change by a step: not at all, or by a drop where the step drops a
resource. -/
def Told (session : Session) (step : Step) (stepped : Except Problem Value × Session) : Prop :=
  stepped.2.journal.errors = session.journal.errors ∨
    session.GivesUp step stepped.1 ∧ Dropped session.journal.errors stepped.2

/-- The step left the errors on record as they were. -/
def Quietly (session : Session) (stepped : Except Problem Value × Session) : Prop :=
  stepped.2.journal.errors = session.journal.errors

variable {session : Session}

/-- A step that left the errors as they were may be any step. -/
theorem Gives.told {stepped : Stepped} {step : Step} (h : Gives session.Quietly stepped) :
    Gives (session.Told step) stepped := by
  cases stepped with
  | ok value => exact .inl h
  | error halt => trivial

/-- A quiet action within a session leaves the errors and the resources. -/
theorem act_gives (session : Session) (book : ρ) {action : Action ε ρ World α}
    (h : Quiet action) :
    Gives (fun acted => acted.2.2.journal.errors = session.journal.errors ∧
      acted.2.2.slots = session.slots) (session.act book action) := by
  have hquiet := h.errors_left ⟨book, session.world, session.journal⟩
  unfold act
  split
  case h_1 value frame hresult =>
    rw [hresult] at hquiet
    exact ⟨hquiet, rfl⟩
  case h_2 error frame hresult =>
    rw [hresult] at hquiet
    exact ⟨hquiet, rfl⟩
  case h_3 => trivial
  case h_4 => trivial

/-- An action that answers answers within a session. -/
theorem act_of_ok (session : Session) {book : ρ} {action : Action ε ρ World α} {value : α}
    {frame : Frame ρ World} (h : action ⟨book, session.world, session.journal⟩ = .ok value frame) :
    session.act book action =
      .ok (.ok value, frame.book,
        { session with world := frame.world, journal := frame.journal }) := by
  rw [act, h]

/-- A drop gets through, and puts on record what closing came to. -/
theorem dropSlot_errors (session : Session) (unwinding : Bool) (slot : Slot) :
    ∃ after, session.dropSlot unwinding slot = .ok after ∧
      after.journal.errors =
        Teardown.errorsOfDrop slot.name unwinding (slot.closing session.world) ++
          session.journal.errors ∧
      after.journal.unwindings =
        Teardown.unwindingsOfDrop slot.name unwinding (slot.closing session.world) ++
          session.journal.unwindings := by
  cases slot with
  | input book backing =>
    obtain ⟨herrors, hunwindings⟩ :=
      Input.record_ending_calm (World.device backing) book session.world
    have hdrop := act_of_ok session (Input.drop_eq (ε := Empty) (World.device backing)
      ⟨book, session.world, session.journal⟩ unwinding)
    refine ⟨_, by rw [dropSlot, hdrop]; rfl, ?_, ?_⟩
    · exact Teardown.errors_unheard herrors _ _ _ _
    · exact Teardown.unwindings_unheard hunwindings _ _ _ _
  | output book backing =>
    obtain ⟨herrors, hunwindings⟩ :=
      Output.record_ending_calm (World.device backing) book session.world
    have hdrop := act_of_ok session (Output.drop_eq (ε := Empty) (World.device backing)
      ⟨book, session.world, session.journal⟩ unwinding)
    refine ⟨_, by rw [dropSlot, hdrop]; rfl, ?_, ?_⟩
    · exact Teardown.errors_unheard herrors _ _ _ _
    · exact Teardown.unwindings_unheard hunwindings _ _ _ _
  | bare backing =>
    refine ⟨session.closeDescriptor backing, rfl, ?_, ?_⟩
    · cases backing <;> rfl
    · cases backing <;> rfl

/-- A session that drops a resource is one that dropped it. -/
theorem dropSlot_dropped {errors : Journal} (herrors : session.journal.errors = errors)
    (unwinding : Bool) (slot : Slot) :
    ∃ after, session.dropSlot unwinding slot = .ok after ∧ Dropped errors after := by
  obtain ⟨after, hafter, htold, -⟩ := dropSlot_errors session unwinding slot
  rw [herrors] at htold
  exact ⟨after, hafter, session, slot, unwinding, herrors, hafter, htold⟩

/-! ## Steps that open a resource -/

/-- A resource that was opened is put in place; what had its name is dropped. -/
theorem placeOpened_gives {errors : Journal} (herrors : session.journal.errors = errors)
    (name : String) (result : Except Problem Slot) :
    Gives (fun stepped => stepped.2.journal.errors = errors ∨
      (stepped.1 = .ok (.flag true) ∧ (session.slots.lookup name).isSome) ∧
        Dropped errors stepped.2) (placeOpened name result session) := by
  cases result with
  | error problem => exact .inl herrors
  | ok slot =>
    have hplace : Gives (fun after => after.journal.errors = errors ∨
        (session.slots.lookup name).isSome ∧ Dropped errors after)
        (session.place name slot) := by
      unfold place
      cases hold : session.slots.lookup name with
      | none => exact .inl herrors
      | some old =>
        obtain ⟨after, hafter, hdropped⟩ :=
          dropSlot_dropped (show (session.setSlot name slot).journal.errors = errors from herrors)
            false old
        simp only [hafter]
        exact .inr ⟨rfl, hdropped⟩
    refine hplace.bind ?_
    rintro after (hquiet | ⟨hold, hdropped⟩)
    · exact .inl hquiet
    · exact .inr ⟨⟨rfl, hold⟩, hdropped⟩

/-- So it goes after a quiet attempt to open the resource. -/
theorem Gives.opened (session opening : Session) (step : Step)
    (herrors : opening.journal.errors = session.journal.errors)
    (hslots : opening.slots = session.slots) {name : String}
    (hopens : step.opens = some name) (result : Except Problem Slot) :
    Gives (session.Told step) (placeOpened name result opening) := by
  have hplaced := placeOpened_gives herrors name result
  cases hresult : placeOpened name result opening with
  | error halt => trivial
  | ok stepped =>
    rw [hresult] at hplaced
    rcases hplaced with hquiet | ⟨⟨hanswer, hold⟩, hdropped⟩
    · exact .inl hquiet
    · rw [hslots] at hold
      refine .inr ⟨?_, hdropped⟩
      rw [hanswer]
      exact .replaced hopens hold

/-- An action on files is as quiet within a session. -/
theorem onFiles_quiet {action : Action ε ρ FileSystem α} (h : Quiet action) :
    Quiet (onFiles action) :=
  h.within

theorem openInput_told (session : Session) (name path : String) :
    Gives (session.Told (.openInput name path)) (session.openInput name path) :=
  (act_gives session () (onFiles_quiet (Input.openPath_quiet path))).bind
    fun _ hacted => .opened session _ _ hacted.1 hacted.2 rfl _

theorem openOutput_told (session : Session) (name path : String) (mode : OutputMode)
    (permissions : Option Nat) :
    Gives (session.Told (.openOutput name path mode permissions))
      (session.openOutput name path mode permissions) :=
  (act_gives session () (onFiles_quiet (Output.openPath_quiet path mode permissions))).bind
    fun _ hacted => .opened session _ _ hacted.1 hacted.2 rfl _

theorem attachInput_told (session : Session) (name label : String) (stream : Stream) :
    Gives (session.Told (.inputStream name label stream)) (session.attachInput name label stream) :=
  (act_gives (session.addStream stream).2 () (Input.attach_quiet _ label)).bind
    fun _ hacted => .opened session _ _ hacted.1 hacted.2 rfl _

theorem attachOutput_told (session : Session) (name label : String) (stream : Stream) :
    Gives (session.Told (.outputStream name label stream))
      (session.attachOutput name label stream) :=
  (act_gives (session.addStream stream).2 () (Output.attach_quiet _ label)).bind
    fun _ hacted => .opened session _ _ hacted.1 hacted.2 rfl _

theorem openStandard_told (session : Session) (name : String) (force : Bool) :
    Gives (session.Told (.standardOutput name force)) (session.openStandard name force) := by
  refine (act_gives session () (Output.openStandard_quiet force).within).bind ?_
  rintro ⟨result, book, opening⟩ ⟨herrors, hslots⟩
  match result with
  | .error error => exact .inl herrors
  | .ok none => exact .inl herrors
  | .ok (some book) => exact .opened session _ _ herrors hslots rfl _

theorem openBareFile_told (session : Session) (name path : String) (write : Bool) :
    Gives (session.Told (.bareFile name path write)) (session.openBareFile name path write) := by
  unfold openBareFile
  split
  case h_1 handle world hopened =>
    exact .opened session (session.setWorld world) (.bareFile name path write) rfl rfl rfl _
  case h_2 => exact .inl rfl

/-! ## Steps that use a resource -/

theorem actInput_quietly (session : Session) (name : String) (book : Input) (backing : Backing)
    {action : Action Problem Input World Value} (h : Quiet action) :
    Gives session.Quietly (session.actInput name book backing action) :=
  (act_gives session book h).bind fun _ hacted => hacted.1

theorem actOutput_quietly (session : Session) (name : String) (book : Output) (backing : Backing)
    {action : Action Problem Output World Value} (h : Quiet action) :
    Gives session.Quietly (session.actOutput name book backing action) :=
  (act_gives session book h).bind fun _ hacted => hacted.1

theorem actFiles_quietly (session : Session) (value : α → Value)
    {action : Action FileError Output FileSystem α} (h : Quiet action) :
    Gives session.Quietly (session.actFiles value action) :=
  (act_gives session Output.closed (onFiles_quiet h).native).bind fun _ hacted => hacted.1

/-- A call on the world puts nothing on record. -/
theorem actCall_quietly (session : Session) (call : Call World Value) :
    Gives session.Quietly (session.actCall call) := by
  unfold actCall
  split
  · exact rfl
  · exact rfl

theorem use_quietly (session : Session) (name : String) (request : Request) :
    Gives session.Quietly (session.use name request) := by
  refine (Gives.slot session name).bind fun slot _ => ?_
  cases slot with
  | input book backing =>
    dsimp only
    match request.toInput with
    | none => trivial
    | some (.error error) => exact rfl
    | some (.ok operation) =>
      exact actInput_quietly session name book backing (Input.perform_quiet _ operation)
  | output book backing =>
    dsimp only
    match request.toOutput with
    | none => trivial
    | some (.error error) => exact rfl
    | some (.ok operation) =>
      exact actOutput_quietly session name book backing (Output.perform_quiet _ operation)
  | bare backing =>
    dsimp only
    match request.toDevice (World.device backing) with
    | none => trivial
    | some call => exact actCall_quietly session call

theorem duplicateAndRead_quiet (handle length : Nat) : Quiet (duplicateAndRead handle length) := by
  refine (Input.reader_quiet .duplicate).mapError.bind fun reader => ?_
  refine (Quiet.call _ _ _).mapError.bind fun _ => Quiet.bind (.attempt _) fun outcome => ?_
  cases outcome with
  | ok bytes => exact .pure _
  | error fault => exact .fail _

theorem duplicate_quietly (session : Session) (name : String) (length : Nat) :
    Gives session.Quietly (session.duplicate name length) := by
  refine (Gives.slot session name).bind fun slot _ => ?_
  match slot with
  | .input book (.file handle) =>
    exact actInput_quietly session name book _
      (onFiles_quiet (duplicateAndRead_quiet handle length))
  | .input book .nothing =>
    exact actInput_quietly session name book _ (Input.reader_quiet .duplicate).native
  | .input _ .console | .input _ (.stream _) | .output _ _ | .bare _ => trivial

theorem copy_quietly (session : Session) (source target : String) (chunk : Option Nat) :
    Gives session.Quietly (session.copy source target chunk) := by
  refine (Gives.slot session source).bind fun first _ => ?_
  refine (Gives.slot session target).bind fun second _ => ?_
  match first, second with
  | .input input reading, .output output writing =>
    refine (act_gives session (input, output) ?_).bind fun _ hacted => hacted.1
    cases chunk with
    | some chunk => exact (Copy.inChunks_quiet _ _ chunk).native
    | none => exact (Copy.adapted_quiet _ _).foreign
  | .input _ _, .input _ _ | .input _ _, .bare _ | .output _ _, _ | .bare _, _ => trivial

/-! ## Steps that give a resource up -/

/-- An output that lets go of its device leaves the errors, and is closed. -/
theorem act_detach_gives (session : Session) (book : Output) (device : Device World) :
    Gives (fun acted => acted.2.2.journal.errors = session.journal.errors ∧
      (acted.1 = .ok () → acted.2.1 = .closed)) (session.act book (Output.detach device)) := by
  have hacted := act_gives session book (Output.detach_quiet device)
  unfold act at hacted ⊢
  split
  case h_1 value frame hresult =>
    rw [hresult] at hacted
    exact ⟨hacted.1, fun _ => Output.closed_of_detach hresult⟩
  case h_2 error frame hresult =>
    rw [hresult] at hacted
    exact ⟨hacted.1, fun hanswer => nomatch hanswer⟩
  case h_3 => trivial
  case h_4 => trivial

/-- What is left of an output that was given up for its stream is closed, and to drop it does
nothing; where that fails, the drop goes on record. -/
theorem intoStream_told (session : Session) (name : String) :
    Gives (session.Told (.intoStream name)) (session.intoStream name) := by
  have hfailed : ∀ (detached : Session) (slot : Slot) (error : FileError),
      detached.journal.errors = session.journal.errors →
      Gives (session.Told (.intoStream name))
        (do let left ← detached.dropSlot false slot; return (.error (.error error), left)) := by
    intro detached slot error herrors
    obtain ⟨after, hafter, hdropped⟩ := dropSlot_dropped herrors false slot
    rw [hafter]
    exact .inr ⟨.intoStream name error, hdropped⟩
  refine (Gives.slot session name).bind fun slot _ => ?_
  match slot with
  | .input _ _ | .bare _ | .output _ (.file _) | .output _ .console => trivial
  | .output book (.stream index) =>
    refine (act_detach_gives session book _).bind ?_
    rintro ⟨result, book, detached⟩ ⟨herrors, hclosed⟩
    match result with
    | .ok () =>
      obtain rfl : book = .closed := hclosed rfl
      exact .inl herrors
    | .error error => exact hfailed (detached.eraseSlot name) _ error herrors
  | .output book .nothing =>
    refine (act_detach_gives session book _).bind ?_
    rintro ⟨result, book, detached⟩ ⟨herrors, hclosed⟩
    match result with
    | .ok () =>
      obtain rfl : book = .closed := hclosed rfl
      exact .inl herrors
    | .error error => exact hfailed (detached.eraseSlot name) _ error herrors

/-- A step leaves the errors on record as they are, unless it drops a resource. -/
theorem perform_errors (session : Session) (step : Step) :
    Gives (session.Told step) (session.perform step) := by
  cases step with
  | openInput name path => exact openInput_told session name path
  | openOutput name path mode permissions =>
    exact openOutput_told session name path mode permissions
  | inputStream name label stream => exact attachInput_told session name label stream
  | outputStream name label stream => exact attachOutput_told session name label stream
  | newInput name kind =>
    cases kind with
    | file =>
      exact .opened session session (.newInput name .file) rfl rfl rfl
        (.ok (.input .closed .nothing))
    | stream =>
      exact .opened session (session.addStream (.plain [] 0)).2 (.newInput name .stream) rfl rfl rfl
        (.ok (.input .closed (.stream session.world.streams.length)))
  | newOutput name kind =>
    exact .opened session session (.newOutput name kind) rfl rfl rfl
      (.ok (.output .closed .nothing))
  | standardOutput name force => exact openStandard_told session name force
  | bareStream name stream =>
    exact .opened session (session.addStream stream).2 (.bareStream name stream) rfl rfl rfl
      (.ok (.bare (.stream session.world.streams.length)))
  | bareFile name path write => exact openBareFile_told session name path write
  | bareStandardOutput name =>
    exact .opened session session (.bareStandardOutput name) rfl rfl rfl (.ok (.bare .console))
  | use name request => exact (use_quietly session name request).told
  | descriptor name =>
    refine (Gives.slot session name).bind fun slot _ => ?_
    cases slot <;> exact .inl rfl
  | duplicate name length => exact (duplicate_quietly session name length).told
  | streamData name =>
    refine (Gives.slot session name).bind fun slot _ => ?_
    match slot with
    | .output book (.stream index) =>
      dsimp only
      split
      · exact .inl rfl
      · exact .inl rfl
    | .output _ .nothing => exact .inl rfl
    | .output _ (.file _) | .output _ .console | .input _ _ | .bare _ => trivial
  | intoStream name => exact intoStream_told session name
  | intoInner name =>
    refine (Gives.slot session name).bind fun slot _ => ?_
    match slot with
    | .bare (.stream index) => exact .inl rfl
    | .bare (.file _) | .bare .console | .bare .nothing | .input _ _ | .output _ _ => trivial
  | releaseBare name =>
    refine (Gives.slot session name).bind fun slot _ => ?_
    cases slot with
    | bare backing =>
      have hcall : Gives session.Quietly ((session.eraseSlot name).actCall _) :=
        actCall_quietly (session.eraseSlot name) (.done <$> (World.device backing).close)
      exact hcall.told
    | input book backing => trivial
    | output book backing => trivial
  | copy source target chunk => exact (copy_quietly session source target chunk).told
  | drop name unwinding =>
    refine (Gives.slot session name).bind fun slot _ => ?_
    have herrors : (session.eraseSlot name).journal.errors = session.journal.errors := rfl
    obtain ⟨after, hafter, hdropped⟩ := dropSlot_dropped herrors unwinding slot
    simp only [hafter]
    exact .inr ⟨.drop name unwinding _, hdropped⟩
  | breakDescriptor name =>
    refine (Gives.slot session name).bind fun slot _ => ?_
    cases slot.backing with
    | file handle => exact .inl rfl
    | nothing => exact .inl rfl
    | stream index => trivial
    | console => trivial
  | resizeStream name length =>
    refine (Gives.slot session name).bind fun slot _ => ?_
    cases slot.backing with
    | stream index => exact .inl rfl
    | nothing => exact .inl rfl
    | file handle => trivial
    | console => trivial
  | resizeFile path length => exact (actCall_quietly session _).told
  | dump path data => exact (actFiles_quietly session _ (FileTask.dump_quiet path data)).told
  | changeMode path mode => exact (actFiles_quietly session _ (.call _ _ _)).told
  | rename source target => exact (actFiles_quietly session _ (.call _ _ _)).told
  | remove path => exact (actFiles_quietly session _ (FileTask.remove_quiet path)).told
  | removeQuietly path =>
    exact (actFiles_quietly session _ (FileTask.removeQuietly_quiet path)).told
  | contents path =>
    simp only [perform]
    cases session.world.files.contents path with
    | ok data => exact .inl rfl
    | error fault => exact .inl rfl

/-- Whether a step may come to drop a resource. -/
def Step.mayDrop : Step → Bool
  | .drop .. | .intoStream _ => true
  | step => step.opens.isSome

/-- A step that drops a resource is one that may. -/
theorem GivesUp.mayDrop {step : Step} {answer : Except Problem Value}
    (h : session.GivesUp step answer) : step.mayDrop = true := by
  cases h with
  | drop name unwinding answer => rfl
  | intoStream name error => rfl
  | replaced hopens hold =>
    unfold Step.mayDrop
    split
    · rfl
    · rfl
    · rw [hopens]
      rfl

/-- Steps that drop no resource, one after the other, leave the errors on record as they are. -/
theorem runSteps_errors (session : Session) {steps : List Step}
    (h : ∀ step ∈ steps, step.mayDrop = false) :
    Gives (fun ran => ran.2.journal.errors = session.journal.errors) (session.runSteps steps) := by
  induction steps generalizing session with
  | nil => exact rfl
  | cons step rest ih =>
    have hstep : Gives (fun stepped : Report × Session =>
        stepped.2.journal.errors = session.journal.errors) (session.step step) := by
      refine (perform_errors session step).bind ?_
      rintro ⟨answer, after⟩ (hquiet | ⟨hgives, -⟩)
      · exact hquiet
      · have hmay := hgives.mayDrop
        rw [h step List.mem_cons_self] at hmay
        cases hmay
    refine hstep.bind fun stepped hstepped => ?_
    have hrest := ih stepped.2 fun step hmem => h step (List.mem_cons_of_mem _ hmem)
    exact hrest.bind fun ran hran => hran.trans hstepped

end Session

/-! ## Teardown -/

/-- Behind some work the first failure of the work, the flush and the release is told, naming the
resource, and none of the calls is left out because of an earlier failure; so it is with a write or
an exact read that is followed by closing.  A drop never fails: it puts a failure on record as an
error, or as a detail while another failure is on its way, and nothing where there is none.  No
step of a session puts an error on record in any other way, and steps that drop nothing put none
there. -/
theorem teardown_tells_first_failure (device : Device σ) :
    (∀ (α : Type) (work : Except FileError α) (frame : Frame Output σ),
      Output.closeAfter device work frame =
        ((Output.ending device frame.book frame.world).behind work).result .closed frame.journal) ∧
    (∀ (α : Type) (work : Except FileError α) (frame : Frame Input σ),
      Input.closeAfter device work frame =
        ((Input.ending device frame.book frame.world).behind work).result .closed frame.journal) ∧
    (∀ buffer length (frame worked : Frame Output σ) work,
      Output.write device buffer length frame = Action.ofExcept work worked →
        Output.perform device (.writeThenClose buffer length) frame =
          let ending := (Output.ending device worked.book worked.world).behind work
          Action.ofExcept ((ending.outcome.map .done).mapError .error)
            ⟨.closed, ending.world, ending.record ++ worked.journal⟩) ∧
    (∀ length (frame worked : Frame Input σ) work,
      Input.readExactly device length length frame = Action.ofExcept work worked →
        Input.perform device (.readThenClose length) frame =
          let ending := (Input.ending device worked.book worked.world).behind work
          Action.ofExcept ((ending.outcome.map .amount).mapError .error)
            ⟨.closed, ending.world, ending.record ++ worked.journal⟩) ∧
    (∀ writer world,
      (Output.ending device (.opened writer) world).outcome =
        match device.flush world with
        | .error fault _ => .error (.ofFault writer.window.name .flush fault)
        | .ok () flushed =>
          match device.close flushed with
          | .error fault _ => .error (.ofFault writer.window.name .close fault)
          | .ok () _ => .ok ()) ∧
    (∀ reader world,
      (Input.ending device (.opened reader) world).outcome =
        match device.close world with
        | .error fault _ => .error (.ofFault reader.window.name .close fault)
        | .ok () _ => .ok ()) ∧
    (∀ output world error, (Output.ending device output world).outcome = .error error →
      error.name = some output.name) ∧
    (∀ input world error, (Input.ending device input world).outcome = .error error →
      error.name = some input.name) ∧
    (∀ number writer recorded,
      (Output.ending (device.recorded number) (.opened writer) recorded).world.record number =
        .called .close :: .called .flush :: recorded.record number) ∧
    (∀ number reader recorded,
      (Input.ending (device.recorded number) (.opened reader) recorded).world.record number =
        .called .close :: recorded.record number) ∧
    (∀ (ε : Type) unwinding (frame : Frame Output σ), ∃ after,
      (Output.drop device unwinding : Action ε Output σ Unit) frame = .ok () after ∧
      after.journal.errors = Teardown.errorsOfDrop frame.book.name unwinding
        (Output.ending device frame.book frame.world).outcome ++ frame.journal.errors ∧
      after.journal.unwindings = Teardown.unwindingsOfDrop frame.book.name unwinding
        (Output.ending device frame.book frame.world).outcome ++ frame.journal.unwindings) ∧
    (∀ (ε : Type) unwinding (frame : Frame Input σ), ∃ after,
      (Input.drop device unwinding : Action ε Input σ Unit) frame = .ok () after ∧
      after.journal.errors = Teardown.errorsOfDrop frame.book.name unwinding
        (Input.ending device frame.book frame.world).outcome ++ frame.journal.errors ∧
      after.journal.unwindings = Teardown.unwindingsOfDrop frame.book.name unwinding
        (Input.ending device frame.book frame.world).outcome ++ frame.journal.unwindings) ∧
    (∀ event : Event, event.tellsOfUnwinding = true → event.level = .debug) ∧
    (∀ (session : Session) step answer after, session.perform step = .ok (answer, after) →
      after.journal.errors = session.journal.errors ∨
        session.GivesUp step answer ∧ Session.Dropped session.journal.errors after) ∧
    ∀ (session : Session) steps reports after, (∀ step ∈ steps, step.mayDrop = false) →
      session.runSteps steps = .ok (reports, after) →
        after.journal.errors = session.journal.errors := by
  refine ⟨?_, ?_, ?_, ?_, ?_, ?_, ?_, ?_, ?_, ?_, ?_, ?_, ?_, ?_, ?_⟩
  · exact fun α work frame => Output.closeAfter_eq device frame work
  · exact fun α work frame => Input.closeAfter_eq device frame work
  · exact fun buffer length frame worked work => Output.writeThenClose_eq device
  · exact fun length frame worked work => Input.readThenClose_eq device
  · exact Output.outcome_ending device
  · intro reader world
    rw [Input.outcome_ending]
    cases device.close world <;> rfl
  · exact fun output world error => Output.name_of_ending device
  · exact fun input world error => Input.name_of_ending device
  · exact Output.record_ending device
  · exact Input.record_ending device
  · intro ε unwinding frame
    obtain ⟨herrors, hunwindings⟩ := Output.record_ending_calm device frame.book frame.world
    refine ⟨_, Output.drop_eq device frame unwinding, ?_, ?_⟩
    · exact Teardown.errors_unheard herrors _ _ _ _
    · exact Teardown.unwindings_unheard hunwindings _ _ _ _
  · intro ε unwinding frame
    obtain ⟨herrors, hunwindings⟩ := Input.record_ending_calm device frame.book frame.world
    refine ⟨_, Input.drop_eq device frame unwinding, ?_, ?_⟩
    · exact Teardown.errors_unheard herrors _ _ _ _
    · exact Teardown.unwindings_unheard hunwindings _ _ _ _
  · exact fun event => Event.level_of_tellsOfUnwinding
  · intro session step answer after hstep
    have htold := Session.perform_errors session step
    rw [hstep] at htold
    exact htold
  · intro session steps reports after hsteps hrun
    have hquiet := session.runSteps_errors hsteps
    rw [hrun] at hquiet
    exact hquiet

/-- A write to a stream that is full fails, and so does the flush behind it: the failure of the
write is told.  An exact read finds too little, and closing behind it succeeds.  An output that
fails to flush when it is given up is dropped, and fails to flush once more. -/
theorem teardown_tells_first_failure_of_full_stream :
    (∃ work worked, work = .error (.broken "data" .write Errno.deviceFailure) ∧
      let frame : Frame Output Stream := ⟨.opened ⟨⟨"data", ⟨0, 1⟩⟩, 0⟩,
        { Stream.plain [1] 1 with
          capacity := some 1, flushPlan := [.fails (.system Errno.noSpace)] }, []⟩
      Output.write Stream.device [7] 1 frame = Action.ofExcept work worked ∧
      Output.perform Stream.device (.writeThenClose [7] 1) frame =
        let ending := (Output.ending Stream.device worked.book worked.world).behind work
        Action.ofExcept ((ending.outcome.map .done).mapError .error)
          ⟨.closed, ending.world, ending.record ++ worked.journal⟩) ∧
    (∃ work worked, work = .error (.endOfInput "data") ∧
      let frame : Frame Input Stream := ⟨.opened ⟨⟨"data", ⟨0, 1⟩⟩, 1⟩, .plain [1] 0, []⟩
      Input.readExactly Stream.device 2 2 frame = Action.ofExcept work worked ∧
      Input.perform Stream.device (.readThenClose 2) frame =
        let ending := (Input.ending Stream.device worked.book worked.world).behind work
        Action.ofExcept ((ending.outcome.map .amount).mapError .error)
          ⟨.closed, ending.world, ending.record ++ worked.journal⟩) ∧
    ∃ (session : Session) (answer : Except Problem Value) (after : Session),
      session.perform (.intoStream "out") = .ok (answer, after) ∧
      (after.journal.errors = session.journal.errors ∨
        session.GivesUp (.intoStream "out") answer ∧
          Session.Dropped session.journal.errors after) := by
  obtain ⟨-, -, hwrite, hread, -, -, -, -, -, -, -, -, -, hstep, -⟩ :=
    teardown_tells_first_failure Stream.device
  refine ⟨⟨_, _, rfl, rfl, ?_⟩, ⟨_, _, rfl, rfl, ?_⟩, ?_⟩
  · exact hwrite [7] 1 _ _ _ rfl
  · exact hread 2 _ _ _ rfl
  · let failing : Stream :=
      { Stream.plain [] 0 with
        flushPlan := [.fails (.system Errno.noSpace), .fails (.system Errno.deviceFailure)] }
    refine ⟨⟨⟨.fresh, .fresh .file, [failing]⟩, [],
      [("out", .output (.opened ⟨⟨"data", ⟨0, 0⟩⟩, 0⟩) (.stream 0))]⟩, _, _, rfl, ?_⟩
    exact hstep _ (.intoStream "out") _ _ rfl

end FileWindow

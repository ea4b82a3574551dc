import FileWindow.Device
import FileWindow.Event

/-!
# Actions

An operation on a resource reads and changes three things: the book that the resource keeps about
itself, the world behind its device, and the journal.  An action does so and answers, or stops.
What an action changed before it stopped stays changed.

Main definitions:

- Definition Frame: book, world and journal.
- Definition Stop: why an action gives no answer.
- Definition Action: an action, by what it does to a frame.
- Definition Action.call: a call of a device within an action.
- Definition Action.observe: an action whose failure is looked at and not passed on.
- Definition Action.onFirst, Action.onSecond, Action.within: actions on a part of a frame.
- Definition Action.remembering: an action with a memory of its own.

Main results:

- Theorem Action.call_of_ok, Action.call_of_error: a call of a device changes the world alone, and
  its fault is told as an error of the resource.
- Theorem Action.observe_of_ok, Action.observe_of_failed: an observed action never fails.
- Theorem Action.accept_bind: checks may be accepted one after the other.
-/

namespace FileWindow

/-- What an action sees and changes: the book of the resource, the world behind its device, and
the journal. -/
structure Frame (ρ σ : Type) where
  book : ρ
  world : σ
  journal : Journal
  deriving Repr

/-- Why an action gives no answer. -/
inductive Stop (ε : Type)
  /-- The operation failed. -/
  | failed (error : ε)
  /-- A counter left the range of positions. -/
  | overflow
  /-- A loop used up the rounds that it had been given. -/
  | stalled
  deriving DecidableEq, Repr

/-- Another account of the same failure. -/
def Stop.map {ε ε' : Type} (f : ε → ε') : Stop ε → Stop ε'
  | failed error => failed (f error)
  | overflow => overflow
  | stalled => stalled

/-- An action: it changes a frame, and answers or stops. -/
abbrev Action (ε ρ σ α : Type) := EStateM (Stop ε) (Frame ρ σ) α

namespace Action

variable {ε ε' ρ ρ' σ α μ : Type}

/-! ## The parts of a frame -/

/-- The book as it stands. -/
def book : Action ε ρ σ ρ :=
  fun frame => .ok frame.book frame

/-- Puts another book in place. -/
def setBook (book : ρ) : Action ε ρ σ Unit :=
  fun frame => .ok () { frame with book }

/-- The patience of a device with the world as it stands. -/
def patience (device : Device σ) : Action ε ρ σ Nat :=
  fun frame => .ok (device.patience frame.world) frame

/-- Reports an event. -/
def report (event : Event) : Action ε ρ σ Unit :=
  fun frame => .ok () { frame with journal := event :: frame.journal }

/-- A call of a device; a fault of the device is answered, not passed on. -/
def attempt (call : Call σ α) : Action ε ρ σ (Except Fault α) :=
  fun frame =>
    match call frame.world with
    | .ok value world => .ok (.ok value) { frame with world }
    | .error fault world => .ok (.error fault) { frame with world }

@[simp]
theorem book_apply (frame : Frame ρ σ) :
    (book : Action ε ρ σ ρ) frame = .ok frame.book frame :=
  rfl

/-- An action that asks for the book goes on with the book as it stands. -/
theorem book_bind (next : ρ → Action ε ρ σ α) (frame : Frame ρ σ) :
    ((book : Action ε ρ σ ρ) >>= next) frame = next frame.book frame :=
  rfl

@[simp]
theorem setBook_apply (newBook : ρ) (frame : Frame ρ σ) :
    (setBook newBook : Action ε ρ σ Unit) frame = .ok () { frame with book := newBook } :=
  rfl

/-- What comes behind putting a book in place begins with that book. -/
theorem setBook_bind (newBook : ρ) (next : Unit → Action ε ρ σ α) (frame : Frame ρ σ) :
    ((setBook newBook : Action ε ρ σ Unit) >>= next) frame =
      next () { frame with book := newBook } :=
  rfl

@[simp]
theorem report_apply (event : Event) (frame : Frame ρ σ) :
    (report event : Action ε ρ σ Unit) frame =
      .ok () { frame with journal := event :: frame.journal } :=
  rfl

/-! ## Stopping -/

/-- Stops with a failure. -/
def fail (error : ε) : Action ε ρ σ α :=
  fun frame => .error (.failed error) frame

/-- Stops because a counter would leave its range. -/
def overflow : Action ε ρ σ α :=
  fun frame => .error .overflow frame

/-- Stops because a loop has no rounds left. -/
def stalled : Action ε ρ σ α :=
  fun frame => .error .stalled frame

/-- Gives the answer of a result, or fails as it does. -/
def ofExcept : Except ε α → Action ε ρ σ α
  | .ok value => pure value
  | .error error => fail error

/-- An action whose failure is answered, not passed on. -/
def observe (action : Action ε ρ σ α) : Action ε' ρ σ (Except ε α) :=
  fun frame =>
    match action frame with
    | .ok value frame => .ok (.ok value) frame
    | .error (.failed error) frame => .ok (.error error) frame
    | .error .overflow frame => .error .overflow frame
    | .error .stalled frame => .error .stalled frame

/-- An observed action answers what it answers unobserved. -/
theorem observe_of_ok {action : Action ε ρ σ α} {frame after : Frame ρ σ} {value : α}
    (h : action frame = .ok value after) :
    (observe action : Action ε' ρ σ (Except ε α)) frame = .ok (.ok value) after := by
  simp [observe, h]

/-- An observed action answers its failure. -/
theorem observe_of_failed {action : Action ε ρ σ α} {frame after : Frame ρ σ} {error : ε}
    (h : action frame = .error (.failed error) after) :
    (observe action : Action ε' ρ σ (Except ε α)) frame = .ok (.error error) after := by
  simp [observe, h]

/-- An action with another account of its failure. -/
def mapError (f : ε → ε') (action : Action ε ρ σ α) : Action ε' ρ σ α :=
  fun frame =>
    match action frame with
    | .ok value frame => .ok value frame
    | .error stop frame => .error (stop.map f) frame

/-- An action on one of two books. -/
def onFirst (action : Action ε ρ σ α) : Action ε (ρ × ρ') σ α :=
  fun frame =>
    match action { frame with book := frame.book.1 } with
    | .ok value inner => .ok value { inner with book := (inner.book, frame.book.2) }
    | .error stop inner => .error stop { inner with book := (inner.book, frame.book.2) }

/-- An action on the other of two books. -/
def onSecond (action : Action ε ρ' σ α) : Action ε (ρ × ρ') σ α :=
  fun frame =>
    match action { frame with book := frame.book.2 } with
    | .ok value inner => .ok value { inner with book := (frame.book.1, inner.book) }
    | .error stop inner => .error stop { inner with book := (frame.book.1, inner.book) }

/-- An action that has a memory beside the book, and answers what the memory holds in the end. -/
def remembering (memory : μ) (action : Action ε (ρ × μ) σ α) : Action ε ρ σ μ :=
  fun frame =>
    match action { frame with book := (frame.book, memory) } with
    | .ok _ inner => .ok inner.book.2 { inner with book := inner.book.1 }
    | .error stop inner => .error stop { inner with book := inner.book.1 }

/-- What comes before the memory is used needs none. -/
theorem remembering_onFirst_bind {β : Type} (memory : μ) (action : Action ε ρ σ α)
    (next : α → Action ε (ρ × μ) σ β) :
    remembering memory (onFirst action >>= next) =
      action >>= fun value => remembering memory (next value) := by
  funext frame
  simp only [remembering, onFirst, Bind.bind, EStateM.bind]
  cases action frame with
  | ok value after => rfl
  | error stop after => rfl

/-- An action on a part of a larger world. -/
def within {τ : Type} (get : τ → σ) (put : σ → τ → τ) (action : Action ε ρ σ α) :
    Action ε ρ τ α :=
  fun frame =>
    match action { book := frame.book, world := get frame.world, journal := frame.journal } with
    | .ok value inner =>
      .ok value { book := inner.book, world := put inner.world frame.world,
                  journal := inner.journal }
    | .error stop inner =>
      .error stop { book := inner.book, world := put inner.world frame.world,
                    journal := inner.journal }

/-! ## Failing as a named resource -/

/-- A call of a device on behalf of the named resource. -/
def call (name : String) (trying : Attempt) (request : Call σ α) : Action FileError ρ σ α := do
  match ← attempt request with
  | .ok value => pure value
  | .error fault => fail (.ofFault name trying fault)

/-- A call that answers is answered within the action. -/
theorem call_of_ok {request : Call σ α} {frame : Frame ρ σ} {value : α} {world : σ}
    (name : String) (trying : Attempt) (h : request frame.world = .ok value world) :
    call name trying request frame = .ok value { frame with world } := by
  simp [call, attempt, h, bind, EStateM.bind, pure, EStateM.pure]

/-- A call that fails stops the action, and the fault is told as an error of the resource. -/
theorem call_of_error {request : Call σ α} {frame : Frame ρ σ} {fault : Fault} {world : σ}
    (name : String) (trying : Attempt) (h : request frame.world = .error fault world) :
    call name trying request frame =
      .error (.failed (.ofFault name trying fault)) { frame with world } := by
  simp [call, attempt, fail, h, bind, EStateM.bind]

/-- Refuses an operation on the named resource. -/
def refuse (name : String) (reason : Refusal) : Action FileError ρ σ α :=
  fail (.refused name reason)

/-- Gives the answer of a check, or refuses on behalf of the named resource. -/
def accept (name : String) : Except Refusal α → Action FileError ρ σ α
  | .ok value => pure value
  | .error reason => refuse name reason

@[simp]
theorem accept_ok (name : String) (value : α) :
    (accept name (.ok value) : Action FileError ρ σ α) = pure value :=
  rfl

@[simp]
theorem accept_error (name : String) (reason : Refusal) :
    (accept name (.error reason) : Action FileError ρ σ α) = refuse name reason :=
  rfl

/-- A check that consists of two is accepted by accepting one and then the other. -/
theorem accept_bind {β : Type} (name : String) (check : Except Refusal α)
    (next : α → Except Refusal β) :
    (accept name (check >>= next) : Action FileError ρ σ β) =
      accept name check >>= fun value => accept name (next value) := by
  cases check <;> rfl

/-- Nothing comes behind a refusal. -/
@[simp]
theorem refuse_bind {β : Type} (name : String) (reason : Refusal)
    (next : α → Action FileError ρ σ β) :
    ((refuse name reason : Action FileError ρ σ α) >>= next) = refuse name reason :=
  rfl

end Action

end FileWindow

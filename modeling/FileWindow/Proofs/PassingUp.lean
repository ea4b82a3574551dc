import FileWindow.Adapter
import FileWindow.Stream

/-!
# Error numbers passed up through adapters

Through the adapter a resource serves as the device of another one, which tells of a failure below
it in its own name.  On the way the number of the failure is gone: what is passed on has a kind
alone, and the resource above keeps the number nearest to that kind.  So a number comes through
one level only if it is the nearest to its own kind, and then through any number of levels.

Main definitions:

- Definition FileError.passedOn: what a resource above tells of an error.
- Definition FileError.passedUp: what is told of an error some levels up.
- Definition Errno.classic: the numbers that are nearest to their own kind.
- Definition Adapter.asCall: an action on a resource as a call of the device of another one.
- Definition Stacked: what happens on top of a stack of resources.

Main results:

- Theorem Errno.nearest_kind_eq_self_iff: which numbers come through a level.
- Theorem Action.call_of_passing: a resource on an adapter tells of the error below it.
- Theorem Stacked.fails: the top of a stack tells of the error at its bottom, passed up.
- Theorem FileError.code_passedUp_iff: which numbers survive, and what becomes of the others.
-/

namespace FileWindow

variable {ρ σ τ α β : Type}

/-! ## Numbers and kinds -/

namespace Errno

/-- The numbers that are nearest to their own kind. -/
def classic : List Errno :=
  [noEntry, interruptedCall, deviceFailure, accessDenied, entryExists, invalidArgument]

/-- A number is found again from its kind alone iff it is one of the classic ones. -/
theorem nearest_kind_eq_self_iff (code : Errno) : nearest code.kind = code ↔ code ∈ classic := by
  unfold kind
  split
  -- Behind all numbers that have a kind of their own stands the device failure.
  case h_43 => simp_all [nearest, classic, noEntry, interruptedCall, deviceFailure, accessDenied,
      entryExists, invalidArgument, eq_comm]
  all_goals decide

/-- The number nearest to a kind settles: what becomes of it one level up stays. -/
theorem nearest_kind_nearest_kind (kind : FaultKind) :
    nearest (nearest (nearest kind).kind).kind = nearest (nearest kind).kind := by
  cases kind <;> rfl

/-- The number nearest to a kind comes through the next level, unless nothing of the kind is
supported. -/
theorem nearest_mem_classic {kind : FaultKind} (h : kind ≠ .unsupported) :
    nearest kind ∈ classic := by
  cases kind with
  | unsupported => exact absurd rfl h
  | _ => decide

end Errno

/-! ## One level -/

namespace FileError

/-- What a resource tells of an attempt whose device passed an error on. -/
def passedOn (error : FileError) (name : String) (trying : Attempt) : FileError :=
  ofFault name trying (.carried error)

/-- What is told of an error some levels up, by the names and the attempts from below. -/
def passedUp (error : FileError) (levels : List (String × Attempt)) : FileError :=
  levels.foldl (fun error level => error.passedOn level.1 level.2) error

/-- What is told of an error one level up has the number nearest to its kind. -/
@[simp] theorem code_passedOn (error : FileError) (name : String) (trying : Attempt) :
    (error.passedOn name trying).code = some (Errno.nearest error.kind) :=
  congrArg some (Fault.errno_carried error)

/-- What is told of an error one level up has the kind of the number it got. -/
@[simp] theorem kind_passedOn (error : FileError) (name : String) (trying : Attempt) :
    (error.passedOn name trying).kind = (Errno.nearest error.kind).kind :=
  rfl

/-- No level passes nothing on. -/
@[simp] theorem passedUp_nil (error : FileError) : error.passedUp [] = error :=
  rfl

/-- The highest level comes last. -/
theorem passedUp_concat (error : FileError) (levels : List (String × Attempt)) (name : String)
    (trying : Attempt) :
    error.passedUp (levels ++ [(name, trying)]) = (error.passedUp levels).passedOn name trying := by
  rw [passedUp, List.foldl_append]
  rfl

/-- The lowest level comes first. -/
@[simp] theorem passedUp_cons (error : FileError) (level : String × Attempt)
    (levels : List (String × Attempt)) :
    error.passedUp (level :: levels) = (error.passedOn level.1 level.2).passedUp levels :=
  rfl

/-- An error with a number is of the kind of its number, or tells of a file that is missing or in
the way. -/
theorem kind_of_code {error : FileError} {code : Errno} (hcode : error.code = some code) :
    error.kind = code.kind ∨ error.kind = .notFound ∨ error.kind = .alreadyExists := by
  cases error with
  | notFound name number => exact .inr (.inl rfl)
  | alreadyExists name number => exact .inr (.inr rfl)
  | failed name context number =>
    obtain rfl : number = some code := hcode
    exact .inl rfl
  | endOfInput name => cases hcode
  | misuse text => cases hcode

/-- An error with a number comes through a level with that number iff it is a classic one and the
error is of its kind. -/
theorem nearest_kind_eq_iff {error : FileError} {code : Errno} (hcode : error.code = some code) :
    Errno.nearest error.kind = code ↔ code ∈ Errno.classic ∧ code.kind = error.kind := by
  constructor
  · intro hnearest
    rcases kind_of_code hcode with hkind | hkind | hkind
    · rw [hkind] at hnearest
      exact ⟨(Errno.nearest_kind_eq_self_iff code).mp hnearest, hkind.symm⟩
    all_goals
      rw [hkind] at hnearest ⊢
      subst hnearest
      decide
  · rintro ⟨hclassic, hkind⟩
    rw [← hkind]
    exact (Errno.nearest_kind_eq_self_iff code).mpr hclassic

/-- What a number settles to is that number only if it came through the first level already. -/
theorem nearest_nearest_kind_eq_iff {error : FileError} {code : Errno}
    (hcode : error.code = some code) :
    Errno.nearest (Errno.nearest error.kind).kind = code ↔ Errno.nearest error.kind = code := by
  by_cases hkind : error.kind = .unsupported
  · -- The number of such an error is of this kind too, and the numbers it becomes are not.
    have hnumber : code.kind = .unsupported := by
      rcases kind_of_code hcode with h | h | h
      · exact h ▸ hkind
      all_goals rw [h] at hkind; cases hkind
    rw [hkind]
    constructor
    all_goals
      rintro rfl
      cases hnumber
  · rw [(Errno.nearest_kind_eq_self_iff _).mpr (Errno.nearest_mem_classic hkind)]

end FileError

/-! ## Resources on resources -/

/-- An action on a resource as a call of the device that the resource is behind the adapter.  The
world of this device is the frame of the resource.  A halt is nothing that the adapter passes on; the
call fails in some other way then. -/
def Adapter.asCall (halted : Fault) (action : Action FileError ρ σ α) : Call (Frame ρ σ) α :=
  fun frame =>
    match passing action frame with
    | .ok value after => .ok value after
    | .error (.failed fault) after => .error fault after
    | .error _ after => .error halted after

/-- What fails on a resource fails behind the adapter, with its error carried. -/
theorem Adapter.asCall_of_failed {action : Action FileError ρ σ α} {frame after : Frame ρ σ}
    {error : FileError} (h : action frame = .error (.failed error) after) (halted : Fault) :
    asCall halted action frame = .error (.carried error) after := by
  simp only [asCall, passing, Action.mapError, h, Stop.map]

/-- A resource that stands on another one behind the adapter tells of the error below it in its own
name. -/
theorem Action.call_of_passing {below : Action FileError ρ σ α} {frame after : Frame ρ σ}
    {error : FileError} (hbelow : below frame = .error (.failed error) after) (halted : Fault)
    (name : String) (trying : Attempt) (book : τ) (journal : Journal) :
    Action.call name trying (Adapter.asCall halted below) ⟨book, frame, journal⟩ =
      .error (.failed (error.passedOn name trying)) ⟨book, after, journal⟩ :=
  Action.call_of_error name trying (Adapter.asCall_of_failed hbelow halted)

/-- An action at the top of a stack of resources, and the frame that it finds.  At the bottom some
action is carried out; on each level above, told from below by its name and what it attempts, a
resource calls its device, which is the resource of the level below behind the adapter. -/
inductive Stacked (bottom : Action FileError ρ σ α) (frame : Frame ρ σ) :
    List (String × Attempt) → {ρ' σ' : Type} → Action FileError ρ' σ' α → Frame ρ' σ' → Prop
  | bottom : Stacked bottom frame [] bottom frame
  | level {levels : List (String × Attempt)} {ρ' σ' τ : Type} {below : Action FileError ρ' σ' α}
      {frame' : Frame ρ' σ'} (stack : Stacked bottom frame levels below frame') (halted : Fault)
      (name : String) (trying : Attempt) (book : τ) (journal : Journal) :
      Stacked bottom frame (levels ++ [(name, trying)])
        (Action.call name trying (Adapter.asCall halted below)) ⟨book, frame', journal⟩

/-- Where the bottom of a stack fails, the top tells of its error passed up through all levels. -/
theorem Stacked.fails {bottom : Action FileError ρ σ α} {frame after : Frame ρ σ}
    {levels : List (String × Attempt)} {ρ' σ' : Type} {top : Action FileError ρ' σ' α}
    {above : Frame ρ' σ'} (h : Stacked bottom frame levels top above) {error : FileError}
    (hbottom : bottom frame = .error (.failed error) after) :
    ∃ last, top above = .error (.failed (error.passedUp levels)) last := by
  induction h with
  | bottom => exact ⟨after, hbottom⟩
  | level stack halted name trying book journal ih =>
    obtain ⟨last, hbelow⟩ := ih
    rw [FileError.passedUp_concat]
    exact ⟨_, Action.call_of_passing hbelow halted name trying book journal⟩

/-! ## Any number of levels -/

namespace FileError

/-- One level up an error has the number nearest to its kind, and from the second level on the
one that this settles to. -/
theorem code_passedUp_cons (error : FileError) (level : String × Attempt)
    (levels : List (String × Attempt)) :
    (error.passedUp (level :: levels)).code =
      some (if levels = [] then Errno.nearest error.kind
        else Errno.nearest (Errno.nearest error.kind).kind) := by
  induction levels generalizing error level with
  | nil => rfl
  | cons next rest ih =>
    rw [passedUp_cons, ih, kind_passedOn, if_neg (List.cons_ne_nil next rest)]
    split
    · rfl
    · rw [Errno.nearest_kind_nearest_kind]

/-- A number survives being passed up iff it is a classic one, in an error of its own kind.  Every
other number becomes the one nearest to the kind of the error, and what this settles to higher
up.  What is passed up is what the top of a stack of resources tells whose bottom fails with the
error. -/
theorem code_passedUp_iff {error : FileError} {code : Errno} (hcode : error.code = some code)
    (levels : List (String × Attempt)) :
    ((error.passedUp levels).code = some code ↔
      levels = [] ∨ (code ∈ Errno.classic ∧ code.kind = error.kind)) ∧
    (∀ level rest, levels = level :: rest →
      (error.passedUp levels).code =
        some (if rest = [] then Errno.nearest error.kind
          else Errno.nearest (Errno.nearest error.kind).kind)) ∧
    ∀ (ρ σ ρ' σ' α : Type) (bottom : Action FileError ρ σ α) (frame after : Frame ρ σ)
      (top : Action FileError ρ' σ' α) (above : Frame ρ' σ'),
      Stacked bottom frame levels top above → bottom frame = .error (.failed error) after →
        ∃ last, top above = .error (.failed (error.passedUp levels)) last := by
  refine ⟨?_, ?_, ?_⟩
  · cases levels with
    | nil => simp [hcode]
    | cons level rest =>
      rw [code_passedUp_cons, Option.some_inj, ← nearest_kind_eq_iff hcode]
      split
      · simp
      · simp [nearest_nearest_kind_eq_iff hcode]
  · rintro level rest rfl
    exact code_passedUp_cons error level rest
  · exact fun ρ σ ρ' σ' α bottom frame after top above hstacked hbottom => hstacked.fails hbottom

/-- An argument that makes no sense is told as such on every level; that there is no room left is
told as a failure of the device.  So it is told by an output whose device flushes another output. -/
theorem code_passedUp_iff_of_write :
    ((broken "low" .write Errno.invalidArgument).passedUp
      [("middle", .write), ("up", .flush)]).code = some Errno.invalidArgument ∧
    ((broken "low" .write Errno.noSpace).passedUp [("up", .write)]).code =
      some Errno.deviceFailure ∧
    ∃ (device : Device (Frame Output Stream)) (above last : Frame Output (Frame Output Stream)),
      Output.flush device above =
        .error (.failed ((broken "low" .flush Errno.noSpace).passedUp [("up", .flush)])) last := by
  obtain ⟨hsurvives, -, -⟩ := code_passedUp_iff
    (code_broken "low" .write Errno.invalidArgument) [("middle", .write), ("up", .flush)]
  obtain ⟨-, hbecomes, -⟩ := code_passedUp_iff (code_broken "low" .write Errno.noSpace)
    [("up", .write)]
  obtain ⟨-, -, htold⟩ := code_passedUp_iff (code_broken "low" .flush Errno.noSpace)
    [("up", .flush)]
  refine ⟨hsurvives.mpr (.inr (by decide)), hbecomes _ _ rfl, ?_⟩
  let low : Frame Output Stream := ⟨.opened ⟨⟨"low", ⟨0, 0⟩⟩, 0⟩,
    { Stream.plain [] 0 with flushPlan := [.fails (.system Errno.noSpace)] }, []⟩
  let device : Device (Frame Output Stream) :=
    { Stream.device.within Frame.world (fun stream frame => { frame with world := stream }) with
      flush := Adapter.asCall (.plain .other) (Output.flush Stream.device) }
  have hstacked : Stacked (Output.flush Stream.device) low [("up", .flush)]
      (Action.call "up" .flush device.flush) ⟨Output.opened ⟨⟨"up", ⟨0, 0⟩⟩, 0⟩, low, []⟩ :=
    Stacked.level .bottom _ "up" .flush _ []
  obtain ⟨last, hlast⟩ := htold _ _ _ _ _ _ low _ _ _ hstacked rfl
  exact ⟨device, ⟨.opened ⟨⟨"up", ⟨0, 0⟩⟩, 0⟩, low, []⟩, last, hlast⟩

end FileError

/-- A write fails because nobody reads what is written; the resource above, whose stream passes
that error on as the adapter does, tells of a failure of the device. -/
theorem Output.write_loses_code :
    ∃ error told : FileError, ∃ below above,
      Adapter.write Stream.device [1]
        ⟨.opened ⟨⟨"low", ⟨0, 0⟩⟩, 0⟩,
          { Stream.plain [] 0 with writePlan := [.fails (.system Errno.brokenPipe)] }, []⟩ =
        .error (.failed (.carried error)) below ∧
      error.code = some Errno.brokenPipe ∧
      Output.write Stream.device [1] 1
        ⟨.opened ⟨⟨"up", ⟨0, 0⟩⟩, 0⟩,
          { Stream.plain [] 0 with writePlan := [.fails (.carried error)] }, []⟩ =
        .error (.failed told) above ∧
      told.code = some Errno.deviceFailure :=
  ⟨_, _, _, _, rfl, rfl, rfl, rfl⟩

end FileWindow

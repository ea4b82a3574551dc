import FileWindow.Outcome
import FileWindow.Proofs.Coupling
import FileWindow.Transfer.Growth

/-!
# Failures that are alike

Where the same operation is refused in a window and in a file of its own, the refusal may be
worded differently: what lies before the start of one lies before the start of the other only in
other words.  Everything else about the two failures is the same, so a loop that looks at a
failure, to see whether it is an interruption, goes the same way in both.

Main definitions:

- Definition FileError.wordless, Fault.wordless, Problem.wordless: failures without the words of a
  refusal or an attempt.
- Definition Alike: failures that are the same up to words, and the same where the windows are.
- Definition Action.Together: actions that go together, with alike failures.

Main results:

- Theorem Fault.isInterruption_wordless: whether a fault is an interruption is not in its words.
- Theorems Transfer.fill_coupled, Transfer.collect_coupled and Transfer.drain_coupled: loops over
  sources and sinks that go together do so as well.
-/

namespace FileWindow

variable {ε ρ ρ' σ τ : Type}

/-! ## Words -/

/-- The error without the words for what was refused or tried. -/
def FileError.wordless : FileError → FileError
  | failed name _ code => failed name "" code
  | other => other

/-- The fault without the words of an error that it carries. -/
def Fault.wordless : Fault → Fault
  | carried error => carried error.wordless
  | other => other

/-- The problem without the words of its error. -/
def Problem.wordless : Problem → Problem
  | .error failure => .error failure.wordless
  | .fault failure => .fault failure.wordless

/-- The kind of an error is not in its words. -/
@[simp]
theorem FileError.kind_wordless (error : FileError) : error.wordless.kind = error.kind := by
  cases error with
  | failed name context code => cases code <;> rfl
  | notFound | alreadyExists | endOfInput | misuse => rfl

/-- Whether a fault is an interruption is not in its words. -/
@[simp]
theorem Fault.isInterruption_wordless (fault : Fault) :
    fault.wordless.isInterruption = fault.isInterruption := by
  cases fault with
  | carried error => simp [wordless, isInterruption, kind]
  | system | plain | worded => rfl

/-- Two failures are the same up to words, and the same altogether where one window lies no
further on than the other. -/
def Alike (wordless : ε → ε) (shift : Nat) (e e' : ε) : Prop :=
  wordless e = wordless e' ∧ (shift = 0 → e = e')

namespace Alike

variable {shift : Nat}

/-- A failure is like itself. -/
theorem refl (wordless : ε → ε) (shift : Nat) (e : ε) : Alike wordless shift e e :=
  ⟨rfl, fun _ => rfl⟩

/-- Errors that are alike are alike when they are passed on. -/
theorem carried {e e' : FileError} (h : Alike FileError.wordless shift e e') :
    Alike Fault.wordless shift (.carried e) (.carried e') :=
  ⟨congrArg Fault.carried h.1, fun hshift => congrArg Fault.carried (h.2 hshift)⟩

theorem error {e e' : FileError} (h : Alike FileError.wordless shift e e') :
    Alike Problem.wordless shift (.error e) (.error e') :=
  ⟨congrArg Problem.error h.1, fun hshift => congrArg Problem.error (h.2 hshift)⟩

theorem fault {e e' : Fault} (h : Alike Fault.wordless shift e e') :
    Alike Problem.wordless shift (.fault e) (.fault e') :=
  ⟨congrArg Problem.fault h.1, fun hshift => congrArg Problem.fault (h.2 hshift)⟩

/-- Faults that are alike are both interruptions or both none. -/
theorem isInterruption_eq {e e' : Fault} (h : Alike Fault.wordless shift e e') :
    e.isInterruption = e'.isInterruption := by
  rw [← e.isInterruption_wordless, h.1, e'.isInterruption_wordless]

end Alike

/-- Two actions keep together: from frames that belong together they go to frames that do, with the
same answer or with failures that are alike. -/
abbrev Action.Together {α : Type} (wordless : ε → ε) (shift : Nat)
    (frames : Frame ρ σ → Frame ρ' τ → Prop) (first : Action ε ρ σ α) (second : Action ε ρ' τ α) :
    Prop :=
  Action.Coupled (Alike wordless shift) frames frames first second (Action.Same frames)

/-- The outcome of an operation with another account of its failure. -/
def seenAs {ω α : Type} (view : ε → ω) : Except ε α → Except ω α :=
  Except.mapError view

/-- An account that leaves failures as they are leaves outcomes as they are. -/
@[simp]
theorem seenAs_id {α : Type} : (seenAs id : Except ε α → Except ε α) = id := by
  funext outcome
  cases outcome <;> rfl

/-- Observed actions that go together look the same where alike failures do. -/
theorem Action.Observed.seenAs_eq {ω α : Type} {alike : ε → ε → Prop} {view : ε → ω}
    {frames : Frame ρ σ → Frame ρ' τ → Prop} {outcome outcome' : Except ε α} {f : Frame ρ σ}
    {g : Frame ρ' τ} (hview : ∀ e e', alike e e' → view e = view e')
    (h : Action.Observed alike frames (Action.Same frames) outcome outcome' f g) :
    seenAs view outcome = seenAs view outcome' ∧ frames f g := by
  cases h with
  | answered hsame => exact ⟨congrArg Except.ok hsame.1, hsame.2⟩
  | failed he hframes => exact ⟨congrArg Except.error (hview _ _ he), hframes⟩

namespace Action.Coupled

variable {α : Type} {shift : Nat} {frames before : Frame ρ σ → Frame ρ' τ → Prop}

/-- Where failures that are alike are the same, observed actions answer the same. -/
theorem observe_same {wordless : ε → ε} {η η' : Type} {alike : η → η' → Prop}
    {first : Action ε ρ σ α} {second : Action ε ρ' τ α} (hshift : shift = 0)
    (h : Coupled (Alike wordless shift) frames before first second (Same frames)) :
    Coupled alike frames before (Action.observe first) (Action.observe second) (Same frames) :=
  h.observe.answering fun x y f g hobserved => by
    cases hobserved with
    | answered hsame => exact ⟨congrArg Except.ok hsame.1, hsame.2⟩
    | failed he hframes => exact ⟨congrArg Except.error (he.2 hshift), hframes⟩

/-- Actions of windowed resources that go together do so as operations. -/
theorem native {first : Action FileError ρ σ α} {second : Action FileError ρ' τ α}
    (value : α → Value)
    (h : Coupled (Alike FileError.wordless shift) frames before first second (Same frames)) :
    Coupled (Alike Problem.wordless shift) frames before (Action.native value first)
      (Action.native value second) (Same frames) :=
  (h.mapError fun _ _ he => he.error).map fun _ _ _ _ hsame => ⟨congrArg value hsame.1, hsame.2⟩

/-- Actions that fail as devices do and go together do so as operations. -/
theorem foreign {first : Action Fault ρ σ α} {second : Action Fault ρ' τ α} (value : α → Value)
    (h : Coupled (Alike Fault.wordless shift) frames before first second (Same frames)) :
    Coupled (Alike Problem.wordless shift) frames before (Action.foreign value first)
      (Action.foreign value second) (Same frames) :=
  (h.mapError fun _ _ he => he.fault).map fun _ _ _ _ hsame => ⟨congrArg value hsame.1, hsame.2⟩

end Action.Coupled

/-! ## Loops -/

namespace Transfer

open FileWindow.Action (Together)

variable {shift : Nat} {frames : Frame ρ σ → Frame ρ' τ → Prop}
  {source : Nat → Action Fault ρ σ Bytes} {source' : Nat → Action Fault ρ' τ Bytes}
  {sink : Bytes → Action Fault ρ σ Nat} {sink' : Bytes → Action Fault ρ' τ Nat}

/-- Reading until so many bytes are there, from sources that go together. -/
theorem fill_coupled
    (hsource : ∀ length, Together Fault.wordless shift frames (source length) (source' length))
    (rounds missing : Nat) :
    Together Fault.wordless shift frames
      (fill source rounds missing) (fill source' rounds missing) := by
  induction rounds generalizing missing with
  | zero =>
    cases missing with
    | zero => exact .pure fun f g h => ⟨rfl, h⟩
    | succ missing => exact .stall fun f g h => h
  | succ rounds ih =>
    cases missing with
    | zero => exact .pure fun f g h => ⟨rfl, h⟩
    | succ missing =>
      refine (hsource (missing + 1)).observe.bind fun x y f g hobserved => ?_
      cases hobserved with
      | @answered bytes bytes' f g h =>
        rcases h with ⟨rfl, hframes⟩
        cases bytes with
        | nil => exact .failed (.refl _ _ _) hframes
        | cons byte rest =>
          exact (ih _).bind_same (fun _ => .pure fun _ _ h => ⟨rfl, h⟩) f g hframes
      | failed he hframes =>
        simp only [he.isInterruption_eq]
        split
        · exact ih _ _ _ hframes
        · exact .failed he hframes

/-- Making an interrupted read again, on sources that go together. -/
theorem persist_coupled {length : Nat}
    (hsource : Together Fault.wordless shift frames (source length) (source' length))
    (rounds : Nat) :
    Together Fault.wordless shift frames
      (persist source length rounds) (persist source' length rounds) := by
  induction rounds with
  | zero => exact .stall fun f g h => h
  | succ rounds ih =>
    refine hsource.observe.bind fun x y f g hobserved => ?_
    cases hobserved with
    | answered h => exact .answered h
    | failed he hframes =>
      simp only [he.isInterruption_eq]
      split
      · exact ih _ _ hframes
      · exact .failed he hframes

/-- Reading into a growing buffer, from sources that go together. -/
theorem collectInto_coupled
    (hsource : ∀ length, Together Fault.wordless shift frames (source length) (source' length))
    (patience rounds : Nat) (growth : Growth) :
    Together Fault.wordless shift frames
      (collectInto source patience rounds growth) (collectInto source' patience rounds growth) := by
  induction rounds generalizing growth with
  | zero => exact .stall fun f g h => h
  | succ rounds ih =>
    refine (persist_coupled (hsource _) patience).bind_same fun bytes => ?_
    cases bytes with
    | nil => exact .pure fun _ _ h => ⟨rfl, h⟩
    | cons byte rest => exact (ih _).bind_same fun _ => .pure fun _ _ h => ⟨rfl, h⟩

/-- Reading all that there is, from sources that go together. -/
theorem collect_coupled
    (hsource : ∀ length, Together Fault.wordless shift frames (source length) (source' length))
    (patience rounds : Nat) :
    Together Fault.wordless shift frames
      (collect source patience rounds) (collect source' patience rounds) := by
  refine (persist_coupled (hsource _) patience).bind_same fun bytes => ?_
  cases bytes with
  | nil => exact .pure fun _ _ h => ⟨rfl, h⟩
  | cons byte rest =>
    exact (collectInto_coupled hsource patience rounds _).bind_same fun _ =>
      .pure fun _ _ h => ⟨rfl, h⟩

/-- Writing all bytes, to sinks that go together. -/
theorem drain_coupled
    (hsink : ∀ bytes, Together Fault.wordless shift frames (sink bytes) (sink' bytes))
    (rounds : Nat) (bytes : Bytes) :
    Together Fault.wordless shift frames (drain sink rounds bytes) (drain sink' rounds bytes) := by
  induction rounds generalizing bytes with
  | zero =>
    cases bytes with
    | nil => exact .pure fun f g h => ⟨rfl, h⟩
    | cons byte rest => exact .stall fun f g h => h
  | succ rounds ih =>
    cases bytes with
    | nil => exact .pure fun f g h => ⟨rfl, h⟩
    | cons byte rest =>
      refine (hsink (byte :: rest)).observe.bind fun x y f g hobserved => ?_
      cases hobserved with
      | @answered accepted accepted' f g h =>
        rcases h with ⟨rfl, hframes⟩
        cases accepted with
        | zero => exact .failed (.refl _ _ _) hframes
        | succ accepted => exact ih _ f g hframes
      | failed he hframes =>
        simp only [he.isInterruption_eq]
        split
        · exact ih _ _ _ hframes
        · exact .failed he hframes

end Transfer

end FileWindow

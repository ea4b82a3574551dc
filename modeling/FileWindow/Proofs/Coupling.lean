import FileWindow.Outcome

/-!
# Two runs side by side

Many properties of resources compare two runs: on a window and on a file of its own, on one
device and on another, with one content outside the window and with another.  This file says what
it means that two actions go together: started in frames that belong together they end alike, in
frames that belong together.

Main definitions:

- Definition Call.Paired: two calls of devices that answer together or fail with one fault.
- Definition Action.Joined, Action.Both: frames whose books and worlds belong together, and given
  books.
- Definition Action.Paired: two results of actions that belong together.
- Definition Action.Coupled: two actions whose results belong together.
- Definition Action.runAll: a row of actions, each observed.
- Definition Action.Throughout: what holds of every frame that a row of actions comes through.

Main results:

- Theorem Action.Coupled.bind: actions that go together can be put one behind the other.
- Theorems Action.Coupled.starting, leaving, answering and failing: fewer frames before, and more
  after.
- Theorem Action.Coupled.call: calls that are paired give actions that go together.
- Theorem Action.Coupled.observe: failures that are looked at go together as well.
- Theorem Action.runAll_of_step: what each step keeps, a whole run keeps.
-/

namespace FileWindow

variable {ε ε' η η' ρ ρ' σ τ α α' β β' : Type}

/-! ## Calls -/

/-- Results of two calls that belong together: both answer, or both fail with the same fault. -/
inductive Call.Paired (worlds : σ → τ → Prop) (answers : α → β → σ → τ → Prop) :
    EStateM.Result Fault σ α → EStateM.Result Fault τ β → Prop
  | answered {x : α} {y : β} {w : σ} {v : τ} (h : answers x y w v) :
      Paired worlds answers (.ok x w) (.ok y v)
  | failed {fault : Fault} {w : σ} {v : τ} (h : worlds w v) :
      Paired worlds answers (.error fault w) (.error fault v)

/-! ## Actions -/

namespace Action

/-- Frames whose books and whose worlds belong together; the journals are left out. -/
def Joined (books : ρ → ρ' → Prop) (worlds : σ → τ → Prop) (f : Frame ρ σ) (g : Frame ρ' τ) :
    Prop :=
  books f.book g.book ∧ worlds f.world g.world

/-- The books are two given ones. -/
def Both (given : ρ) (given' : ρ') (book : ρ) (book' : ρ') : Prop :=
  book = given ∧ book' = given'

/-- Results of two actions that belong together: both answer, both fail alike, both leave the
range of counters, or both stall. -/
inductive Paired (alike : ε → ε' → Prop) (frames : Frame ρ σ → Frame ρ' τ → Prop)
    (answers : α → α' → Frame ρ σ → Frame ρ' τ → Prop) :
    EStateM.Result (Stop ε) (Frame ρ σ) α → EStateM.Result (Stop ε') (Frame ρ' τ) α' → Prop
  | answered {x : α} {y : α'} {f : Frame ρ σ} {g : Frame ρ' τ} (h : answers x y f g) :
      Paired alike frames answers (.ok x f) (.ok y g)
  | failed {e : ε} {e' : ε'} {f : Frame ρ σ} {g : Frame ρ' τ} (he : alike e e')
      (h : frames f g) : Paired alike frames answers (.error (.failed e) f) (.error (.failed e') g)
  | overflowed {f : Frame ρ σ} {g : Frame ρ' τ} (h : frames f g) :
      Paired alike frames answers (.error .overflow f) (.error .overflow g)
  | stalled {f : Frame ρ σ} {g : Frame ρ' τ} (h : frames f g) :
      Paired alike frames answers (.error .stalled f) (.error .stalled g)

/-- Results that belong together still do where more frames and more answers do. -/
theorem Paired.imp {alike : ε → ε' → Prop} {frames frames' : Frame ρ σ → Frame ρ' τ → Prop}
    {answers answers' : α → α' → Frame ρ σ → Frame ρ' τ → Prop}
    {result : EStateM.Result (Stop ε) (Frame ρ σ) α}
    {result' : EStateM.Result (Stop ε') (Frame ρ' τ) α'}
    (h : Paired alike frames answers result result') (hframes : ∀ f g, frames f g → frames' f g)
    (hanswers : ∀ x y f g, answers x y f g → answers' x y f g) :
    Paired alike frames' answers' result result' := by
  cases h with
  | answered hxy => exact .answered (hanswers _ _ _ _ hxy)
  | failed he hfg => exact .failed he (hframes _ _ hfg)
  | overflowed hfg => exact .overflowed (hframes _ _ hfg)
  | stalled hfg => exact .stalled (hframes _ _ hfg)

/-- Two actions go together if, started in frames that belong together, they end with results
that do. -/
def Coupled (alike : ε → ε' → Prop) (frames before : Frame ρ σ → Frame ρ' τ → Prop)
    (first : Action ε ρ σ α) (second : Action ε' ρ' τ α')
    (answers : α → α' → Frame ρ σ → Frame ρ' τ → Prop) : Prop :=
  ∀ f g, before f g → Paired alike frames answers (first f) (second g)

/-- The answers are equal and the frames belong together. -/
def Same (frames : Frame ρ σ → Frame ρ' τ → Prop) (x y : α) (f : Frame ρ σ) (g : Frame ρ' τ) :
    Prop :=
  x = y ∧ frames f g

/-- What two observed actions answer: both an answer, or both a failure of the same sort. -/
inductive Observed (alike : ε → ε' → Prop) (frames : Frame ρ σ → Frame ρ' τ → Prop)
    (answers : α → α' → Frame ρ σ → Frame ρ' τ → Prop) :
    Except ε α → Except ε' α' → Frame ρ σ → Frame ρ' τ → Prop
  | answered {x : α} {y : α'} {f : Frame ρ σ} {g : Frame ρ' τ} (h : answers x y f g) :
      Observed alike frames answers (.ok x) (.ok y) f g
  | failed {e : ε} {e' : ε'} {f : Frame ρ σ} {g : Frame ρ' τ} (he : alike e e')
      (h : frames f g) : Observed alike frames answers (.error e) (.error e') f g

namespace Coupled

variable {alike : ε → ε' → Prop} {frames before middle : Frame ρ σ → Frame ρ' τ → Prop}
  {answers : α → α' → Frame ρ σ → Frame ρ' τ → Prop}
  {others : β → β' → Frame ρ σ → Frame ρ' τ → Prop}
  {first : Action ε ρ σ α} {second : Action ε' ρ' τ α'}

/-! ## Rules -/

/-- Answers that belong together at once. -/
theorem pure {x : α} {y : α'} (h : ∀ f g, before f g → answers x y f g) :
    Coupled alike frames before (Pure.pure x) (Pure.pure y) answers := by
  intro f g hbefore
  exact .answered (h f g hbefore)

/-- Failures that belong together at once. -/
theorem fail {e : ε} {e' : ε'} (he : alike e e') (h : ∀ f g, before f g → frames f g) :
    Coupled alike frames before (Action.fail e : Action ε ρ σ α)
      (Action.fail e' : Action ε' ρ' τ α') answers := by
  intro f g hbefore
  exact .failed he (h f g hbefore)

/-- Stalls that belong together. -/
theorem stall (h : ∀ f g, before f g → frames f g) :
    Coupled alike frames before (Action.stalled : Action ε ρ σ α)
      (Action.stalled : Action ε' ρ' τ α') answers := by
  intro f g hbefore
  exact .stalled (h f g hbefore)

/-- Actions that go together go together from fewer frames. -/
theorem starting (h : Coupled alike frames middle first second answers)
    (hbefore : ∀ f g, before f g → middle f g) :
    Coupled alike frames before first second answers := by
  intro f g hfg
  exact h f g (hbefore f g hfg)

/-- Where they fail, more frames may belong together. -/
theorem leaving {frames' : Frame ρ σ → Frame ρ' τ → Prop}
    (h : Coupled alike frames before first second answers)
    (hframes : ∀ f g, frames f g → frames' f g) :
    Coupled alike frames' before first second answers := by
  intro f g hfg
  exact (h f g hfg).imp hframes fun _ _ _ _ hanswers => hanswers

/-- Where they answer, more answers may belong together. -/
theorem answering {answers' : α → α' → Frame ρ σ → Frame ρ' τ → Prop}
    (h : Coupled alike frames before first second answers)
    (hanswers : ∀ x y f g, answers x y f g → answers' x y f g) :
    Coupled alike frames before first second answers' := by
  intro f g hfg
  exact (h f g hfg).imp (fun _ _ hframes => hframes) hanswers

/-- Where they fail, more failures may be alike. -/
theorem failing {alike' : ε → ε' → Prop} (h : Coupled alike frames before first second answers)
    (halike : ∀ e e', alike e e' → alike' e e') :
    Coupled alike' frames before first second answers := by
  intro f g hfg
  have hresults := h f g hfg
  generalize first f = result, second g = result' at hresults
  cases hresults with
  | answered hanswers => exact .answered hanswers
  | failed he hframes => exact .failed (halike _ _ he) hframes
  | overflowed hframes => exact .overflowed hframes
  | stalled hframes => exact .stalled hframes

/-- Actions with equal answers go together from more frames to more frames. -/
theorem widening {first : Action ε ρ σ α} {second : Action ε' ρ' τ α}
    {frames' : Frame ρ σ → Frame ρ' τ → Prop}
    (h : Coupled alike frames before first second (Same frames))
    (hframes : ∀ f g, frames f g → frames' f g) :
    Coupled alike frames' before first second (Same frames') := by
  intro f g hfg
  exact (h f g hfg).imp hframes fun x y f g hsame => ⟨hsame.1, hframes f g hsame.2⟩

/-- Actions that go together one behind the other. -/
theorem bind {next : α → Action ε ρ σ β} {next' : α' → Action ε' ρ' τ β'}
    (h : Coupled alike frames before first second answers)
    (hnext : ∀ x y, Coupled alike frames (answers x y) (next x) (next' y) others) :
    Coupled alike frames before (first >>= next) (second >>= next') others := by
  intro f g hbefore
  have hfirst := h f g hbefore
  simp only [Bind.bind, EStateM.bind]
  generalize first f = result, second g = result' at hfirst
  cases hfirst with
  | answered hanswers => exact hnext _ _ _ _ hanswers
  | failed he hframes => exact .failed he hframes
  | overflowed hframes => exact .overflowed hframes
  | stalled hframes => exact .stalled hframes

/-- Actions with equal answers go together one behind the other if what comes behind each answer
does. -/
theorem bind_same {first : Action ε ρ σ α} {second : Action ε' ρ' τ α}
    {next : α → Action ε ρ σ β} {next' : α → Action ε' ρ' τ β'}
    (h : Coupled alike frames before first second (Same middle))
    (hnext : ∀ x, Coupled alike frames middle (next x) (next' x) others) :
    Coupled alike frames before (first >>= next) (second >>= next') others := by
  refine h.bind fun x y f g hsame => ?_
  rcases hsame with ⟨rfl, hmiddle⟩
  exact hnext x f g hmiddle

/-- Answers may be made into others that still belong together. -/
theorem map {make : α → β} {make' : α' → β'}
    (h : Coupled alike frames before first second answers)
    (hmake : ∀ x y f g, answers x y f g → others (make x) (make' y) f g) :
    Coupled alike frames before (make <$> first) (make' <$> second) others := by
  intro f g hbefore
  have hfirst := h f g hbefore
  simp only [Functor.map, EStateM.map]
  generalize first f = result, second g = result' at hfirst
  cases hfirst with
  | answered hanswers => exact .answered (hmake _ _ _ _ hanswers)
  | failed he hframes => exact .failed he hframes
  | overflowed hframes => exact .overflowed hframes
  | stalled hframes => exact .stalled hframes

/-- Failures may be told in other terms that still go together. -/
theorem mapError {tell : ε → η} {tell' : ε' → η'} {alike' : η → η' → Prop}
    (h : Coupled alike frames before first second answers)
    (htell : ∀ e e', alike e e' → alike' (tell e) (tell' e')) :
    Coupled alike' frames before (first.mapError tell) (second.mapError tell') answers := by
  intro f g hbefore
  have hfirst := h f g hbefore
  simp only [Action.mapError]
  generalize first f = result, second g = result' at hfirst
  cases hfirst with
  | answered hanswers => exact .answered hanswers
  | failed he hframes => exact .failed (htell _ _ he) hframes
  | overflowed hframes => exact .overflowed hframes
  | stalled hframes => exact .stalled hframes

/-- Failures that are looked at go together as answers. -/
theorem observe {alike' : η → η' → Prop}
    (h : Coupled alike frames before first second answers) :
    Coupled alike' frames before (Action.observe first) (Action.observe second)
      (Observed alike frames answers) := by
  intro f g hbefore
  have hfirst := h f g hbefore
  simp only [Action.observe]
  generalize first f = result, second g = result' at hfirst
  cases hfirst with
  | answered hanswers => exact .answered (.answered hanswers)
  | failed he hframes => exact .answered (.failed he hframes)
  | overflowed hframes => exact .overflowed hframes
  | stalled hframes => exact .stalled hframes

end Coupled

/-! ## Rules for frames whose books and worlds belong together -/

namespace Coupled

variable {books : ρ → ρ' → Prop} {worlds settled : σ → τ → Prop}

/-- Where the books are given, what is done from them on is all there is to see. -/
theorem of_both {alike : ε → ε' → Prop} {frames : Frame ρ σ → Frame ρ' τ → Prop}
    {answers : α → α' → Frame ρ σ → Frame ρ' τ → Prop} {given : ρ} {given' : ρ'}
    {first : Action ε ρ σ α} {second : Action ε' ρ' τ α'}
    (h : ∀ world world' journal journal', worlds world world' →
      Paired alike frames answers (first ⟨given, world, journal⟩)
        (second ⟨given', world', journal'⟩)) :
    Coupled alike frames (Joined (Both given given') worlds) first second answers := by
  intro f g hjoined
  rcases f with ⟨book, world, journal⟩
  rcases g with ⟨book', world', journal'⟩
  rcases hjoined with ⟨⟨hbook, hbook'⟩, hworlds⟩
  dsimp only at hbook hbook'
  subst hbook hbook'
  exact h world world' journal journal' hworlds

/-- Reports leave books and worlds as they are. -/
theorem report {alike : ε → ε' → Prop} {frames : Frame ρ σ → Frame ρ' τ → Prop}
    (event event' : Event) :
    Coupled alike frames (Joined books worlds) (Action.report event : Action ε ρ σ Unit)
      (Action.report event' : Action ε' ρ' τ Unit) (fun _ _ => Joined books worlds) := by
  intro f g hjoined
  exact .answered hjoined

/-- Paired calls on behalf of one name go together. -/
theorem call {alike : FileError → FileError → Prop} {answers : α → α' → σ → τ → Prop}
    {request : Call σ α} {request' : Call τ α'} (hrefl : ∀ e, alike e e)
    (h : ∀ w v, settled w v → Call.Paired worlds answers (request w) (request' v))
    (name : String) (trying : Attempt) :
    Coupled alike (Joined books worlds) (Joined books settled)
      (Action.call name trying request) (Action.call name trying request')
      (fun x y => Joined books (answers x y)) := by
  intro f g hjoined
  have hcalls := h f.world g.world hjoined.2
  simp only [Action.call, Action.attempt, Bind.bind, EStateM.bind]
  generalize request f.world = result, request' g.world = result' at hcalls
  cases hcalls with
  | answered hanswers => exact .answered ⟨hjoined.1, hanswers⟩
  | failed hworlds => exact .failed (hrefl _) ⟨hjoined.1, hworlds⟩

end Coupled

/-! ## Rows of actions -/

section Rows

variable {ω : Type} {perform : ω → Action ε ρ σ α} {perform' : ω → Action ε' ρ' τ α'}

/-- What a row of actions does, one after the other whatever becomes of each, and the outcome of
each. -/
def runAll (perform : ω → Action ε ρ σ α) (row : List ω) : Action ε ρ σ (List (Except ε α)) :=
  row.mapM fun operation => Action.observe (perform operation)

/-- Every frame that a row of actions comes through is of some sort, the first and the last
included. -/
def Throughout (perform : ω → Action ε ρ σ α) (holds : Frame ρ σ → Prop) :
    List ω → Frame ρ σ → Prop
  | [], frame => holds frame
  | operation :: row, frame =>
    holds frame ∧
      ∀ outcome after,
        (Action.observe (perform operation) : Action ε ρ σ (Except ε α)) frame =
          .ok outcome after → Throughout perform holds row after

/-- A run begins with the first of its row, and goes on from what that left behind. -/
theorem runAll_cons (perform : ω → Action ε ρ σ α) (operation : ω) (row : List ω) :
    runAll perform (operation :: row) = (do
      let outcome ← Action.observe (perform operation)
      let outcomes ← runAll perform row
      return outcome :: outcomes) := by
  simp [runAll, List.mapM_cons]

theorem Throughout.first {holds : Frame ρ σ → Prop} {row : List ω} {frame : Frame ρ σ}
    (h : Throughout perform holds row frame) : holds frame := by
  cases row with
  | nil => exact h
  | cons operation row => exact h.1

/-- Whether something holds throughout can be found out by running. -/
instance Throughout.decidable {holds : Frame ρ σ → Prop} [DecidablePred holds] :
    ∀ (row : List ω) (frame : Frame ρ σ), Decidable (Throughout perform holds row frame)
  | [], frame => inferInstanceAs (Decidable (holds frame))
  | operation :: row, frame =>
    match hresult :
        (Action.observe (perform operation) : Action ε ρ σ (Except ε α)) frame with
    | .ok outcome after =>
      have : Decidable (Throughout perform holds row after) := Throughout.decidable row after
      decidable_of_iff (holds frame ∧ Throughout perform holds row after) <| by
        simp [Throughout, hresult]
    | .error stop after => decidable_of_iff (holds frame) <| by simp [Throughout, hresult]

/-- What holds of every frame holds throughout every run. -/
theorem Throughout.of_forall {holds : Frame ρ σ → Prop} (h : ∀ frame, holds frame) (row : List ω)
    (frame : Frame ρ σ) : Throughout perform holds row frame := by
  induction row generalizing frame with
  | nil => exact h frame
  | cons operation row ih => exact ⟨h frame, fun _ after _ => ih after⟩

/-- What each step keeps, a whole run keeps: where two steps from frames that belong together
leave such frames and outcomes that look alike, two runs do so.  The steps may rely on what holds
throughout the first run. -/
theorem runAll_of_step {inv ends : Frame ρ σ → Frame ρ' τ → Prop} {holds : Frame ρ σ → Prop}
    {γ : Type} {view : Except ε α → γ} {view' : Except ε' α' → γ} {row : List ω}
    (hstep : ∀ operation ∈ row, ∀ f g, inv f g → holds f →
      (∀ outcome after,
        (Action.observe (perform operation) : Action ε ρ σ (Except ε α)) f = .ok outcome after →
          holds after) →
      Paired (fun (_ : ε) (_ : ε') => False) ends (fun x y f g => view x = view' y ∧ inv f g)
        (Action.observe (perform operation) f) (Action.observe (perform' operation) g))
    {f : Frame ρ σ} {g : Frame ρ' τ} (hinv : inv f g) (hthrough : Throughout perform holds row f) :
    Paired (fun (_ : ε) (_ : ε') => False) ends
      (fun xs ys f g => xs.map view = ys.map view' ∧ inv f g)
      (runAll perform row f) (runAll perform' row g) := by
  induction row generalizing f g with
  | nil => exact .answered ⟨rfl, hinv⟩
  | cons operation row ih =>
    rcases hthrough with ⟨hholds, hnext⟩
    have hfirst := hstep operation (by simp) f g hinv hholds
      fun outcome after hafter => (hnext outcome after hafter).first
    simp only [runAll_cons, Bind.bind, EStateM.bind]
    generalize hresult : (Action.observe (perform operation) : Action ε ρ σ (Except ε α)) f = r,
      (Action.observe (perform' operation) : Action ε' ρ' τ (Except ε' α')) g = r' at hfirst
    cases hfirst with
    | @answered x y f' g' h =>
      have hrest := ih (fun op hop => hstep op (by simp [hop])) h.2 (hnext x f' hresult)
      simp only
      generalize runAll perform row f' = s, runAll perform' row g' = s' at hrest
      cases hrest with
      | answered hanswers =>
        exact .answered ⟨by simp only [List.map_cons, h.1, hanswers.1], hanswers.2⟩
      | failed he hframes => exact he.elim
      | overflowed hframes => exact .overflowed hframes
      | stalled hframes => exact .stalled hframes
    | failed he hframes => exact he.elim
    | overflowed hframes => exact .overflowed hframes
    | stalled hframes => exact .stalled hframes

end Rows

end Action

end FileWindow

import FileWindow.Proofs.Bookkeeping

/-!
# Books as the sum of a history

What a resource knows of itself is what it knew when it was opened, and what its operations have
done since.  This file says what it means that a run is told by what its steps have done, and that
one step does what its result tells, for any kind of books: how deeds settle them is a parameter.

Main definitions:

- Definition Action.History: a run, told by what each of its steps has done.
- Definition Action.Standing: the world that goes with a resource that is open, or closed.
- Definition Action.Told, Action.Accounted: a step that did what its result tells.

Main results:

- Theorem Action.History.of_run: where each step settles the book, a run settles it by its history.
- Theorems Action.Accounted.native, foreign and closing: operations that did what they tell.
-/

namespace FileWindow

variable {ε ρ σ α δ ω : Type}

/-! ## Histories -/

namespace Action

/-- A run of operations, told by what each of them has done: of each it is known with what world it
began and what came of it. -/
inductive History (perform : ω → Action ε ρ σ α) (did : ω → σ → Except ε α → List δ → Prop) :
    List ω → Frame ρ σ → List (Except ε α) → List δ → Frame ρ σ → Prop
  | nil (frame : Frame ρ σ) : History perform did [] frame [] [] frame
  | cons {operation : ω} {row : List ω} {frame between after : Frame ρ σ} {outcome : Except ε α}
      {outcomes : List (Except ε α)} {deeds later : List δ}
      (step : (observe (perform operation) : Action ε ρ σ (Except ε α)) frame =
        .ok outcome between)
      (account : did operation frame.world outcome deeds)
      (rest : History perform did row between outcomes later after) :
      History perform did (operation :: row) frame (outcome :: outcomes) (deeds ++ later) after

/-- Where each step settles the book by what it has done, the book after a run is settled by all
that was done, one after the other. -/
theorem History.of_run {perform : ω → Action ε ρ σ α} {did : ω → σ → Except ε α → List δ → Prop}
    {settle : ρ → δ → ρ} (sound : ρ → Prop)
    (hsound : ∀ book deed, sound book → sound (settle book deed))
    (hstep : ∀ operation frame outcome after, sound frame.book →
      (observe (perform operation) : Action ε ρ σ (Except ε α)) frame = .ok outcome after →
        ∃ deeds, did operation frame.world outcome deeds ∧
          after.book = deeds.foldl settle frame.book)
    {row : List ω} {frame after : Frame ρ σ} {outcomes : List (Except ε α)}
    (hframe : sound frame.book) (hrun : runAll perform row frame = .ok outcomes after) :
    ∃ deeds, History perform did row frame outcomes deeds after ∧
      after.book = deeds.foldl settle frame.book := by
  induction row generalizing frame outcomes with
  | nil =>
    cases hrun
    exact ⟨[], .nil _, rfl⟩
  | cons operation row ih =>
    rw [runAll_cons] at hrun
    simp only [Bind.bind, EStateM.bind] at hrun
    cases hfirst : (observe (perform operation) : Action ε ρ σ (Except ε α)) frame with
    | error stop between =>
      rw [hfirst] at hrun
      cases hrun
    | ok outcome between =>
      rw [hfirst] at hrun
      obtain ⟨deeds, hdid, hbook⟩ := hstep operation frame outcome between hframe hfirst
      have hbetween : sound between.book := by
        rw [hbook]
        exact List.foldlRecOn deeds settle hframe fun book h deed _ => hsound book deed h
      cases hrest : runAll perform row between with
      | error stop last =>
        simp only [hrest] at hrun
        cases hrun
      | ok rest last =>
        simp only [hrest] at hrun
        cases hrun
        obtain ⟨later, hhistory, hlast⟩ := ih hbetween hrest
        exact ⟨deeds ++ later, .cons hfirst hdid hhistory, by
          rw [hlast, hbook, List.foldl_append]⟩

/-- An open resource is on a world of one sort, a closed one on a world of another. -/
def Standing (isOpen : ρ → Bool) (holds released : σ → Prop) (frame : Frame ρ σ) : Prop :=
  if isOpen frame.book then holds frame.world else released frame.world

/-! ## One step -/

section Accounts

variable {isOpen : ρ → Bool} {settle : ρ → δ → ρ} {sound : ρ → Prop} {holds released : σ → Prop}
  {book settled : ρ} {frame after : Frame ρ σ} {deeds : Value → Option (List δ)}
  {residue : List δ → Prop} {value : α → Value}

/-- What is the case once some deeds were done to a resource: it stands on the world it should, and
if its books were sound, they are settled. -/
def Told (isOpen : ρ → Bool) (settle : ρ → δ → ρ) (sound : ρ → Prop) (holds released : σ → Prop)
    (book : ρ) (done : List δ) (after : Frame ρ σ) : Prop :=
  Standing isOpen holds released after ∧ (sound book → after.book = done.foldl settle book)

/-- The result of an operation tells what was done: an answer tells its deeds, if it may be given at
all, and behind a failure is left what may be. -/
def Accounted (isOpen : ρ → Bool) (settle : ρ → δ → ρ) (sound : ρ → Prop) (holds released : σ → Prop)
    (book : ρ) (deeds : Value → Option (List δ)) (residue : List δ → Prop)
    (result : EStateM.Result (Stop Problem) (Frame ρ σ) Value) : Prop :=
  Meets
    (fun value after => ∃ done, deeds value = some done ∧
      Told isOpen settle sound holds released book done after)
    (fun _ after => ∃ left, residue left ∧ Told isOpen settle sound holds released book left after)
    (Standing isOpen holds released) result

theorem Standing.of_open (hopen : isOpen settled = true) (hafter : Holding holds settled after) :
    Standing isOpen holds released after := by
  rw [Standing, hafter.1, hopen, if_pos rfl]
  exact hafter.2

theorem Standing.of_closed (hclosed : isOpen settled = false)
    (hafter : Holding released settled after) : Standing isOpen holds released after := by
  rw [Standing, hafter.1, hclosed, if_neg Bool.false_ne_true]
  exact hafter.2

/-- Where the worlds of closed resources are of the same sort, every world is of that sort. -/
theorem Standing.same_iff : Standing isOpen holds holds after ↔ holds after.world := by
  rw [Standing, ite_self]

namespace Told

variable {done : List δ}

/-- A resource that is still open, with its books settled. -/
theorem of_open (hopen : isOpen settled = true) (hafter : Holding holds settled after)
    (hsettled : sound book → settled = done.foldl settle book) :
    Told isOpen settle sound holds released book done after :=
  ⟨.of_open hopen hafter, fun hsound => hafter.1.trans (hsettled hsound)⟩

/-- A resource that was closed. -/
theorem of_closed (hclosed : isOpen settled = false) (hafter : Holding released settled after)
    (hsettled : sound book → settled = done.foldl settle book) :
    Told isOpen settle sound holds released book done after :=
  ⟨.of_closed hclosed hafter, fun hsound => hafter.1.trans (hsettled hsound)⟩

/-- An open resource to which nothing was done. -/
theorem of_kept (hopen : isOpen book = true) (hafter : Holding holds book after) :
    Told isOpen settle sound holds released book [] after :=
  of_open hopen hafter fun _ => rfl

end Told

namespace Accounted

/-- Whatever comes of an operation, the resource stands on the world it should. -/
theorem standing {result : EStateM.Result (Stop Problem) (Frame ρ σ) Value}
    (h : Accounted isOpen settle sound holds released book deeds residue result) :
    Standing isOpen holds released (left result) :=
  Meets.left (h.imp (fun _ _ ⟨_, _, h⟩ => h.1) (fun _ _ ⟨_, _, h⟩ => h.1) fun _ h => h)

variable {done : α → List δ} (hdeeds : ∀ answer, deeds (value answer) = some (done answer))

include hdeeds in
/-- An operation that leaves nothing behind on failure. -/
theorem native {action : Action FileError ρ σ α} (hresidue : residue [])
    (h : Meets (fun answer => Told isOpen settle sound holds released book (done answer))
      (fun _ => Told isOpen settle sound holds released book []) (Standing isOpen holds released)
      (action frame)) :
    Accounted isOpen settle sound holds released book deeds residue
      (Action.native value action frame) :=
  Meets.native (h.imp (fun answer _ h => ⟨done answer, hdeeds answer, h⟩)
    (fun _ _ h => ⟨[], hresidue, h⟩) fun _ h => h)

include hdeeds in
theorem foreign {action : Action Fault ρ σ α} (hresidue : residue [])
    (h : Meets (fun answer => Told isOpen settle sound holds released book (done answer))
      (fun _ => Told isOpen settle sound holds released book []) (Standing isOpen holds released)
      (action frame)) :
    Accounted isOpen settle sound holds released book deeds residue
      (Action.foreign value action frame) :=
  Meets.foreign (h.imp (fun answer _ h => ⟨done answer, hdeeds answer, h⟩)
    (fun _ _ h => ⟨[], hresidue, h⟩) fun _ h => h)

/-- An operation that closes the resource, whether it answers or fails. -/
theorem closing {result : EStateM.Result (Stop Problem) (Frame ρ σ) Value} {left : List δ}
    (hdeeds : ∀ value, deeds value = some left) (hresidue : residue left)
    (hclosed : isOpen settled = false) (hsettled : left.foldl settle book = settled)
    (h : Meets (fun _ => Holding released settled) (fun _ => Holding released settled)
      (Standing isOpen holds released) result) :
    Accounted isOpen settle sound holds released book deeds residue result := by
  refine h.imp (fun value after hafter => ?_) (fun _ after hafter => ?_) fun _ h => h
  · exact ⟨left, hdeeds value, .of_closed hclosed hafter fun _ => hsettled.symm⟩
  · exact ⟨left, hresidue, .of_closed hclosed hafter fun _ => hsettled.symm⟩

end Accounted

end Accounts

end Action

end FileWindow

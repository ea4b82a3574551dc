import FileWindow.Proofs.Twins
import FileWindow.Teardown

/-!
# Devices that are alike altogether

Two devices may be twins not only within a window but altogether: they have the same size, end at
the same place, and can be released alike.  Then the windows may be moved and the resources may be
closed as well.  What is closed keeps no hold of its world, so of worlds that were released less is
asked than of those of twins.

Main definitions:

- Definition Bond.Whole: twins that are measured and released alike.
- Definition Alongside: frames with the same book, and with worlds that belong together as far
  as the book still has to do with them.

Main results:

- Theorems Window.narrow_coupled and Window.widen_coupled: the extent is moved alike.
- Theorem Window.release_coupled: the devices are released alike.
- Theorem Teardown.closeAfter_coupled: what follows on closing is alike as well.
-/

namespace FileWindow

variable {ρ ρ' σ τ : Type} {bond : Bond σ τ} {Released : σ → τ → Prop} {first : Device σ}
  {second : Device τ}

open FileWindow.Action (Both Coupled Joined Same Together)

namespace Bond

/-- Twins with nothing between them, which are measured and released alike; of worlds that were
released less is known. -/
structure Whole (bond : Bond σ τ) (Released : σ → τ → Prop) (first : Device σ)
    (second : Device τ) : Prop extends bond.Positions first second where
  shift_eq : bond.shift = 0
  released : ∀ {w v}, bond.Linked w v → Released w v
  patience_released : ∀ {w v}, Released w v → first.patience w = second.patience v
  size : ∀ {w v}, bond.Settled w v →
    Call.Paired bond.Settled (fun size size' w v => size = size' ∧ bond.Settled w v)
      (first.size w) (second.size v)
  finish : ∀ {w v}, bond.Settled w v →
    Call.Paired bond.Settled (fun size size' w v => size = size' ∧ bond.Settled w v)
      (first.seek (.finish 0) w) (second.seek (.finish 0) v)
  close : ∀ {w v}, bond.Linked w v →
    Call.Paired Released (fun _ _ => Released) (first.close w) (second.close v)

end Bond

/-- The books are the same, and the worlds belong together: in one way while the book is open, and
in another, after a release, from then on. -/
def Alongside (Linked Released : σ → τ → Prop) (isOpen : ρ → Bool) (f : Frame ρ σ)
    (g : Frame ρ τ) : Prop :=
  f.book = g.book ∧ Released f.world g.world ∧ (isOpen f.book = true → Linked f.world g.world)

namespace Alongside

variable {Linked : σ → τ → Prop} {isOpen : ρ → Bool} {book : ρ} {f : Frame ρ σ} {g : Frame ρ τ}

/-- Frames with one book and linked worlds are alongside. -/
theorem of_linked (hreleased : ∀ w v, Linked w v → Released w v)
    (h : Joined (Both book book) Linked f g) : Alongside Linked Released isOpen f g :=
  ⟨h.1.1.trans h.1.2.symm, hreleased _ _ h.2, fun _ => h.2⟩

/-- After a release frames with one closed book are alongside. -/
theorem of_released (hclosed : isOpen book = false) (h : Joined (Both book book) Released f g) :
    Alongside Linked Released isOpen f g :=
  ⟨h.1.1.trans h.1.2.symm, h.2, by simp [h.1.1, hclosed]⟩

end Alongside

/-! ## Windows -/

namespace Window

variable {books : ρ → ρ' → Prop}

/-- Twins are measured alike. -/
theorem rawSize_coupled (hwhole : bond.Whole Released first second) (window : Window) :
    Together FileError.wordless bond.shift (Joined books bond.Settled)
      (window.rawSize first) (window.rawSize second) :=
  (Coupled.call (Alike.refl _ _) (fun _ _ h => hwhole.size h) _ _).answering
    fun _ _ _ _ h => ⟨h.2.1, h.1, h.2.2⟩

theorem requiredSize_coupled (hwhole : bond.Whole Released first second) (window : Window) :
    Together FileError.wordless bond.shift (Joined books bond.Settled)
      (window.requiredSize first) (window.requiredSize second) := by
  refine (rawSize_coupled hwhole window).bind_same fun size f g hjoined => ?_
  cases size with
  | none => exact .failed (.refl _ _ _) hjoined
  | some size => exact .answered ⟨rfl, hjoined⟩

/-- The extent is set alike, also where it takes the rest of the data. -/
theorem narrow_coupled (hwhole : bond.Whole Released first second) (window : Window)
    (offset : Nat) (length : ExtentLength) :
    Together FileError.wordless bond.shift (Joined books bond.Settled)
      (window.narrow first offset length) (window.narrow second offset length) := by
  have hlength : Together FileError.wordless bond.shift (Joined books bond.Settled)
      (window.lengthAt first offset length) (window.lengthAt second offset length) := by
    cases length with
    | bytes length => exact .pure fun _ _ h => ⟨rfl, h⟩
    | rest =>
      refine (requiredSize_coupled hwhole window).bind_same fun size f g hjoined => ?_
      cases Extent.rest offset size with
      | error reason => exact .failed (.refl _ _ _) hjoined
      | ok length => exact .answered ⟨rfl, hjoined⟩
  exact hlength.bind_same fun length f g hjoined => .answered ⟨rfl, hjoined⟩

/-- The whole of the data is the same extent. -/
theorem widen_coupled (hwhole : bond.Whole Released first second) (window : Window) :
    Together FileError.wordless bond.shift (Joined books bond.Settled)
      (window.widen first) (window.widen second) := by
  refine (Coupled.call (Alike.refl _ _) (fun _ _ h => hwhole.finish h) _ _).bind ?_
  intro size size' f g hjoined
  rcases hjoined with ⟨hbooks, rfl, hsettled⟩
  exact .answered ⟨rfl, hbooks, hsettled⟩

/-- Twins are released alike. -/
theorem release_coupled (hwhole : bond.Whole Released first second) (window : Window) :
    Coupled (Alike FileError.wordless bond.shift) (Joined books Released)
      (Joined books bond.Linked) (window.release first) (window.release second)
      (fun _ _ => Joined books Released) :=
  (Coupled.report _ _).bind fun _ _ =>
    .call (Alike.refl _ _) (fun _ _ h => hwhole.close h) _ _

end Window

/-! ## Ending -/

/-- Closing once the result of some work is known does the same where closing does. -/
theorem Teardown.closeAfter_coupled {α : Type} {shift : Nat} {Linked : σ → τ → Prop}
    {isOpen : ρ → Bool} {before : Frame ρ σ → Frame ρ τ → Prop} {close : Action FileError ρ σ Unit}
    {close' : Action FileError ρ τ Unit}
    (hclose : Coupled (Alike FileError.wordless shift) (Alongside Linked Released isOpen) before
      close close' (Same (Alongside Linked Released isOpen))) (result : Except FileError α) :
    Coupled (Alike FileError.wordless shift) (Alongside Linked Released isOpen) before
      (Teardown.closeAfter close result) (Teardown.closeAfter close' result)
      (Same (Alongside Linked Released isOpen)) := by
  cases result with
  | ok value => exact hclose.bind_same fun _ => .pure fun _ _ h => ⟨rfl, h⟩
  | error reason =>
    refine hclose.observe.bind fun outcome outcome' f g h => ?_
    cases h with
    | answered hsame => exact .failed (.refl _ _ _) hsame.2
    | failed he hframes => exact .failed (.refl _ _ _) hframes

end FileWindow

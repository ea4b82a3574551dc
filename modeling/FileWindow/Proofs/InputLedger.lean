import FileWindow.Proofs.Absorbing
import FileWindow.Proofs.Accounts

/-!
# The books of an input

An input knows its name, its extent, and how large its device was when it was opened.  Only setting
and unsetting the extent changes any of it, until the input is closed.

Main definitions:

- Definition Input.Deed, Input.settle: what changes the books of an input, and how.
- Definition Input.Operation.deeds, Input.Operation.Residue: what an operation that answered has
  done, and what one that failed has done all the same.

Main results:

- Theorem Input.perform_meets: an operation on an open input does what its result tells.
- Theorem Input.settle_of_perform: an operation on any input settles its books by what it did.
- Theorem Input.foldl_settle_opened: as long as it is open, an input keeps its name and its size at
  opening.
-/

namespace FileWindow

variable {σ : Type} {holds released : σ → Prop} {device : Device σ}

open FileWindow.Action (Accounted Holding Keeps Meets Standing Told)

namespace Input

/-! ## Deeds -/

/-- What changes the books of an input. -/
inductive Deed
  /-- The extent was set or unset. -/
  | moved (extent : Extent)
  | closed
  deriving DecidableEq, Repr

/-- The input after something was done to it. -/
def settle : Input → Deed → Input
  | .closed, _ => .closed
  | .opened _, .closed => .closed
  | .opened ⟨⟨name, _⟩, openingSize⟩, .moved extent => .opened ⟨⟨name, extent⟩, openingSize⟩

/-- What an operation that answered has done, where the device told a size before it.  There is none
where it may not have answered: an extent is set to the rest only if it does not begin past the end
that the device told. -/
def Operation.deeds (measured : Option Nat) : Operation → Value → Option (List Deed)
  | .setExtent offset length, _ =>
    (length.resolve offset measured).map fun rest => [.moved ⟨offset, rest⟩]
  | .unsetExtent, .number total => some [.moved ⟨0, total⟩]
  | .readThenClose _, _ | .close, _ | .closeAfter _, _ => some [.closed]
  | _, _ => some []

/-- What an operation that failed has done all the same: one that was to close the input has closed
it. -/
def Operation.Residue : Operation → List Deed → Prop
  | .readThenClose _, deeds | .close, deeds | .closeAfter _, deeds => deeds = [.closed]
  | _, deeds => deeds = []

/-- What an operation has done, by what came of it. -/
def Operation.Did (device : Device σ) (operation : Operation) (world : σ) :
    Except Problem Value → List Deed → Prop
  | .ok value, deeds => operation.deeds (device.measured world) value = some deeds
  | .error _, deeds => operation.Residue deeds

/-- Nothing is done to a closed input. -/
theorem foldl_settle_closed (deeds : List Deed) : deeds.foldl settle .closed = .closed := by
  induction deeds with
  | nil => rfl
  | cons deed deeds ih => exact ih

/-- Whatever is done to an open input, it keeps its name and its size at opening until it is
closed. -/
theorem foldl_settle_opened (deeds : List Deed) (name : String) (extent : Extent)
    (openingSize : Nat) :
    deeds.foldl settle (.opened ⟨⟨name, extent⟩, openingSize⟩) = .closed ∨
      ∃ last, deeds.foldl settle (.opened ⟨⟨name, extent⟩, openingSize⟩) =
        .opened ⟨⟨name, last⟩, openingSize⟩ := by
  induction deeds generalizing extent with
  | nil => exact .inr ⟨extent, rfl⟩
  | cons deed deeds ih =>
    cases deed with
    | moved next => exact ih next
    | closed => exact .inl (foldl_settle_closed deeds)

/-! ## One operation -/

variable {reader : Reader}

/-- What is the case once some deeds were done to an open input. -/
abbrev DeedsTold (holds released : σ → Prop) (reader : Reader) (deeds : List Deed)
    (after : Frame Input σ) : Prop :=
  Told isOpen settle (fun _ => True) holds released (.opened reader) deeds after

/-- A closing operation leaves a closed input, whether it answers or fails. -/
theorem closing_meets (hdevice : device.Keeps holds)
    (hclose : Call.Leads holds released device.close) {operation : Operation}
    (hcloses : operation.closes = true) {frame : Frame Input σ}
    (hframe : Holding holds (.opened reader) frame) :
    Meets (fun _ => Holding released .closed) (fun _ => Holding released .closed)
      (Standing isOpen holds released) (perform device operation frame) := by
  have hclosing : ∀ {frame' : Frame Input σ}, Holding holds (.opened reader) frame' →
      Meets (fun _ => Holding released .closed) (fun _ => Holding released .closed)
        (Standing isOpen holds released) (close device frame') :=
    fun h => (close_meets hclose h).imp (fun _ _ h => h) (fun _ _ h => h) fun _ h => h.elim
  cases operation with
  | readThenClose length =>
    have hread : Meets (fun _ => Holding holds (.opened reader))
        (fun _ => Holding holds (.opened reader)) (Standing isOpen holds released)
        (readExactly device length length frame) :=
      (readExactly_keeps hdevice length length frame hframe).imp (fun _ _ h => h)
        (fun _ _ h => h) fun _ => Standing.of_open rfl
    refine Meets.native ((Meets.observe_both hread).bind ?_)
    intro outcome between hbetween
    exact Teardown.closeAfter_meets (fun _ _ h => h) (hclosing hbetween) outcome
  | close => exact Meets.native (hclosing hframe)
  | closeAfter result =>
    exact Meets.native (Teardown.closeAfter_meets (fun _ _ h => h) (hclosing hframe) result)
  | _ => cases hcloses

/-- An operation on an open input does what its result tells. -/
theorem perform_meets (hdevice : device.Keeps holds)
    (hclose : Call.Leads holds released device.close) (operation : Operation)
    {frame : Frame Input σ} (hframe : Holding holds (.opened reader) frame) :
    Accounted isOpen settle (fun _ => True) holds released (.opened reader)
      (operation.deeds (device.measured frame.world)) operation.Residue
      (perform device operation frame) := by
  have hkept : ∀ {ε α : Type} {action : Action ε Input σ α},
      Keeps (Holding holds (.opened reader)) action →
      Meets (fun _ => DeedsTold holds released reader [])
        (fun _ => DeedsTold holds released reader []) (Standing isOpen holds released)
        (action frame) :=
    fun h => (h frame hframe).imp (fun _ _ => Told.of_kept rfl) (fun _ _ => Told.of_kept rfl)
      fun _ => Standing.of_open rfl
  have htarget : ∀ target, Keeps (Holding holds (.opened reader))
      (Adapter.seek (seek device) target) := by
    intro target
    rw [Adapter.seek_eq]
    cases target.asSeek with
    | none => exact .fail _
    | some pair => exact (seek_keeps hdevice pair.1 pair.2).mapError
  have hsource : ∀ length, Keeps (Holding holds (.opened reader)) (Adapter.read device length) :=
    source_keeps hdevice
  cases operation with
  | seek distance whence =>
    exact Accounted.native (fun _ => rfl) rfl (hkept (seek_keeps hdevice distance whence))
  | tell => exact Accounted.native (fun _ => rfl) rfl (hkept (tell_keeps hdevice))
  | size => exact Accounted.native (fun _ => rfl) rfl (hkept fun _ h => h)
  | setExtent offset length =>
    refine Meets.native ((setExtent_meets hdevice offset length hframe).imp ?_
      (fun _ _ hafter => ⟨[], rfl, Told.of_kept rfl hafter⟩) (fun _ => Standing.of_open rfl))
    rintro _ after ⟨rest, hrest, hafter⟩
    have hdeeds : (Operation.setExtent offset length).deeds (device.measured frame.world)
        (.done ()) = some [.moved ⟨offset, rest⟩] := by
      simp only [Operation.deeds, hrest, Option.map_some]
    exact ⟨_, hdeeds, Told.of_open rfl hafter fun _ => rfl⟩
  | unsetExtent =>
    exact Accounted.native (fun _ => rfl) rfl ((unsetExtent_meets hdevice hframe).imp
      (fun _ _ hafter => Told.of_open rfl hafter fun _ => rfl)
      (fun _ _ => Told.of_kept rfl) (fun _ => Standing.of_open rfl))
  | read length room =>
    exact Accounted.native (fun _ => rfl) rfl (hkept (read_keeps hdevice length room))
  | readExactly length room =>
    exact Accounted.native (fun _ => rfl) rfl (hkept (readExactly_keeps hdevice length room))
  | readThenClose | close | closeAfter =>
    exact Accounted.closing (fun _ => rfl) rfl rfl rfl (closing_meets hdevice hclose rfl hframe)
  | streamSeek target => exact Accounted.foreign (fun _ => rfl) rfl (hkept (htarget target))
  | streamPosition => exact Accounted.foreign (fun _ => rfl) rfl (hkept (htarget (.current 0)))
  | streamRewind =>
    exact Accounted.foreign (fun _ => rfl) rfl (hkept ((htarget (.start 0)).bind fun _ => .pure ()))
  | streamRead length => exact Accounted.foreign (fun _ => rfl) rfl (hkept (hsource length))
  | streamReadExactly length =>
    refine Accounted.foreign (fun _ => rfl) rfl (hkept fun frame hframe => ?_)
    exact Transfer.fill_keeps hsource _ _ frame hframe
  | streamReadToEnd =>
    refine Accounted.foreign (fun _ => rfl) rfl (hkept fun frame hframe => ?_)
    exact Transfer.collect_keeps hsource _ _ frame hframe

/-- What a closed input may answer is something done. -/
theorem Operation.exists_deeds {operation : Operation} {value : Value} (measured : Option Nat)
    (h : operation.WhenClosed (.ok value)) :
    ∃ deeds, operation.deeds measured value = some deeds := by
  cases operation with
  | setExtent | unsetExtent =>
    obtain ⟨_, h⟩ := h
    cases h
  | _ => exact ⟨_, rfl⟩

/-- What a closed input answers leaves nothing behind but that it is closed. -/
theorem Operation.exists_residue (operation : Operation) : ∃ deeds, operation.Residue deeds := by
  cases operation <;> exact ⟨_, rfl⟩

/-- An operation on any input settles its books by what it has done. -/
theorem settle_of_perform (device : Device σ) (operation : Operation) {frame after : Frame Input σ}
    {outcome : Except Problem Value}
    (hstep : (Action.observe (perform device operation) :
      Action Problem Input σ (Except Problem Value)) frame = .ok outcome after) :
    ∃ deeds, operation.Did device frame.world outcome deeds ∧
      after.book = deeds.foldl settle frame.book := by
  cases hbook : frame.book with
  | closed =>
    obtain ⟨outcome', hidle, hwhen⟩ := perform_idle device hbook operation
    obtain ⟨rfl, rfl⟩ : outcome' = outcome ∧ frame = after := by
      simpa [hidle] using hstep
    simp only [foldl_settle_closed, hbook, and_true]
    cases outcome' with
    | ok value => exact Operation.exists_deeds _ hwhen
    | error problem => exact operation.exists_residue
  | opened reader =>
    have haccounted := perform_meets device.keeps_trivially (.trivially _) operation
      ⟨hbook, trivial⟩
    have htold := Meets.byOutcome haccounted hstep
    cases outcome with
    | ok value =>
      obtain ⟨done, hdeeds, hdone⟩ := htold
      exact ⟨done, hdeeds, hdone.2 trivial⟩
    | error problem =>
      obtain ⟨left, hresidue, hleft⟩ := htold
      exact ⟨left, hresidue, hleft.2 trivial⟩

/-- What the device keeps of its worlds until it is released, any operation keeps as long as the
input is open. -/
theorem perform_keeps (hdevice : device.Keeps holds)
    (hclose : Call.Leads holds released device.close) (operation : Operation) :
    Keeps (Standing isOpen holds released) (perform device operation) := by
  refine .of_left fun frame hframe => ?_
  cases hbook : frame.book with
  | closed =>
    rw [(perform_idle device hbook operation).left]
    exact hframe
  | opened reader =>
    have hworld : holds frame.world := by
      rw [Standing, hbook] at hframe
      exact hframe
    refine Meets.left ((perform_meets hdevice hclose operation ⟨hbook, hworld⟩).imp
      ?_ ?_ fun _ hafter => hafter)
    · rintro _ after ⟨done, -, htold⟩
      exact htold.1
    · rintro _ after ⟨left, -, htold⟩
      exact htold.1

end Input

end FileWindow

import FileWindow.Adapter
import FileWindow.Proofs.Alike
import FileWindow.Proofs.Seek

/-!
# Twin devices

Two devices are twins for a window if what one does there the other does some bytes further on.
Windows on twin devices, one as much further on as the other, cannot be told apart: they answer
the same positions, and refuse the same seeks.  What is asked of twins is little, so that a file
and a part of it, a file and a stream, and two streams that differ outside of the window are all
twins of each other.

Main definitions:

- Definition Bond: how the worlds of two devices hang together.
- Definition Bond.Positions, Bond.Reads, Bond.Writes: what twins do alike.
- Definition Device.Reaches: where a seek can lead that is let through.

Main results:

- Theorem Window.tell_coupled: windows on twins stand at the same position.
- Theorem Window.seek_coupled: a seek does the same in both.
-/

namespace FileWindow

variable {ρ ρ' σ τ : Type}

open FileWindow.Action (Coupled Joined Same)

/-! ## Bonds -/

/-- How the worlds of two devices hang together: how much further on the first is, when the cursor
of the second stands at a position and that of the first as much further on, when nothing but the
cursors need be looked at before they are used, and to what positions the second may go. -/
structure Bond (σ τ : Type) where
  shift : Nat
  At : Nat → σ → τ → Prop
  Linked : σ → τ → Prop
  Fits : Nat → Prop

namespace Bond

/-- The worlds hang together, wherever the cursors stand. -/
def Settled (bond : Bond σ τ) (world : σ) (world' : τ) : Prop :=
  ∃ cursor, bond.At cursor world world'

/-- Both answer positions, the first as much further on, and there the cursors stand. -/
def Abreast (bond : Bond σ τ) (raw raw' : Nat) (world : σ) (world' : τ) : Prop :=
  raw = bond.shift + raw' ∧ bond.At raw' world world'

/-- Twins have the same patience, tell positions alike, and move alike. -/
structure Positions (bond : Bond σ τ) (first : Device σ) (second : Device τ) : Prop where
  linked : ∀ {w v}, bond.Settled w v → bond.Linked w v
  patience : ∀ {w v}, bond.Linked w v → first.patience w = second.patience v
  position : ∀ {w v}, bond.Settled w v →
    Call.Paired bond.Settled bond.Abreast (first.position w) (second.position v)
  seek : ∀ {raw w v}, bond.Settled w v → bond.Fits raw →
    Call.Paired bond.Settled bond.Abreast (first.seek (.start (bond.shift + raw)) w)
      (second.seek (.start raw) v)
  lt_positionLimit : ∀ {raw}, bond.Fits raw → bond.shift + raw < positionLimit

/-- Twins read alike within an extent. -/
structure Reads (bond : Bond σ τ) (extent : Extent) (first : Device σ) (second : Device τ) : Prop
    extends bond.Positions first second where
  read : ∀ {cursor length w v}, bond.At cursor w v → extent.offset ≤ cursor →
    length ≤ extent.length - (cursor - extent.offset) →
      Call.Paired bond.Settled (fun bytes bytes' w v => bytes = bytes' ∧ bond.Settled w v)
        (first.readPatiently length w) (second.readPatiently length v)

/-- Twins write alike. -/
structure Writes (bond : Bond σ τ) (first : Device σ) (second : Device τ) : Prop
    extends bond.Positions first second where
  write : ∀ {w v}, bond.Linked w v → ∀ bytes,
    Call.Paired bond.Linked (fun _ _ => bond.Linked) (first.write bytes w) (second.write bytes v)
  flush : ∀ {w v}, bond.Linked w v →
    Call.Paired bond.Linked (fun _ _ => bond.Linked) (first.flush w) (second.flush v)
  isStandardOutput : first.isStandardOutput = second.isStandardOutput

end Bond

/-- Where a seek leads that is let through, in a window that lies some bytes before that of the
device.  The cursor counts only for a seek from the current position. -/
def Device.Reaches (device : Device σ) (shift : Nat) (extent : Extent) (distance : Int)
    (whence : Whence) (limit : Option Nat) (world : σ) (raw : Nat) : Prop :=
  ∃ cursor,
    (whence = .current → ∃ after, device.position world = .ok (shift + cursor) after) ∧
      extent.destination distance whence cursor limit = .ok raw

/-! ## Windows -/

namespace Window

variable {bond : Bond σ τ} {first : Device σ} {second : Device τ} {books : ρ → ρ' → Prop}

/-- Windows on twins stand at the same position. -/
theorem tell_coupled (htwins : bond.Positions first second) (window : Window) :
    Coupled (Alike FileError.wordless bond.shift) (Joined books bond.Settled)
      (Joined books bond.Settled) ((window.shiftBy bond.shift).tell first) (window.tell second)
      (fun x y => Joined books fun w v => x = y ∧ bond.At (window.extent.offset + y) w v) := by
  refine (Coupled.call (Alike.refl _ _) (fun w v h => htwins.position h) _ _).bind ?_
  intro raw raw' f g hjoined
  rcases hjoined with ⟨hbooks, rfl, hat⟩
  simp only [logical, extent_shiftBy, Extent.logical_shiftBy, name_shiftBy]
  cases hlogical : window.extent.logical raw' with
  | error reason => exact .failed (.refl _ _ _) ⟨hbooks, _, hat⟩
  | ok position =>
    obtain rfl := Extent.logical_eq_ok_iff.mp hlogical
    exact .answered ⟨hbooks, rfl, hat⟩

/-- A seek in windows on twins asks for the cursors and comes to the same. -/
theorem seek_coupled (htwins : bond.Positions first second) (window : Window) (distance : Int)
    (whence : Whence) (limit : Option Nat) :
    Coupled (Alike FileError.wordless bond.shift) (Joined books bond.Settled)
      (Joined books fun w v => bond.Settled w v ∧ ∀ raw,
        first.Reaches bond.shift window.extent distance whence limit w raw → bond.Fits raw)
      ((window.shiftBy bond.shift).seek first distance whence limit)
      (window.seek second distance whence limit) (Same (Joined books bond.Settled)) := by
  rw [seek_eq, seek_eq]
  -- The cursors are as far apart as the windows wherever the checks look at them.
  have hcursor : Coupled (Alike FileError.wordless bond.shift) (Joined books bond.Settled)
      (Joined books fun w v => bond.Settled w v ∧ ∀ raw,
        first.Reaches bond.shift window.extent distance whence limit w raw → bond.Fits raw)
      ((window.shiftBy bond.shift).cursorFor first distance whence)
      (window.cursorFor second distance whence)
      (fun ahead cursor => Joined books fun w v => bond.Settled w v ∧
        (whence = .current → plausibleDistance distance = true → ahead = bond.shift + cursor) ∧
        ∀ raw, window.extent.destination distance whence cursor limit = .ok raw →
          bond.Fits raw) := by
    unfold cursorFor
    by_cases hask : whence = .current ∧ plausibleDistance distance = true
    · simp only [hask, and_self, if_true, name_shiftBy]
      intro f g hjoined
      rcases hjoined with ⟨hbooks, hsettled, hfits⟩
      have hposition := htwins.position hsettled
      simp only [Action.call, Action.attempt, Bind.bind, EStateM.bind]
      generalize hfirst : first.position f.world = result,
        second.position g.world = result' at hposition
      cases hposition with
      | failed hworlds => exact .failed (.refl _ _ _) ⟨hbooks, hworlds⟩
      | answered h =>
        rcases h with ⟨rfl, hat⟩
        refine .answered ⟨hbooks, ⟨_, hat⟩, fun _ _ => rfl, fun raw hraw => hfits raw ?_⟩
        exact ⟨_, fun _ => ⟨_, hfirst⟩, hraw⟩
    · simp only [hask, if_false]
      refine .pure fun f g hjoined => ?_
      rcases hjoined with ⟨hbooks, hsettled, hfits⟩
      refine ⟨hbooks, hsettled, fun hcurrent hlikely => absurd ⟨hcurrent, hlikely⟩ hask, ?_⟩
      intro raw hraw
      refine hfits raw ⟨0, fun hcurrent => ?_, hraw⟩
      exact absurd ⟨hcurrent, (Extent.destination_eq_ok_iff.mp hraw).1⟩ hask
  refine hcursor.bind fun ahead cursor f g hjoined => ?_
  rcases hjoined with ⟨hbooks, hsettled, hahead, hfits⟩
  have halike := Extent.destination_alike hahead fun raw hraw =>
    htwins.lt_positionLimit (hfits raw hraw)
  simp only [name_shiftBy, extent_shiftBy]
  rcases halike with ⟨raw, hfar, hnear⟩ | ⟨reason, reason', hfar, hnear, hsame⟩
  · rw [hfar, hnear]
    have hmove : Coupled (Alike FileError.wordless bond.shift) (Joined books bond.Settled)
        (Joined books bond.Settled)
        (Action.call window.name .seek (first.seek (.start (bond.shift + raw))))
        (Action.call window.name .seek (second.seek (.start raw)))
        (fun x y => Joined books (bond.Abreast x y)) :=
      .call (Alike.refl _ _) (fun w v h => htwins.seek h (hfits raw hnear)) _ _
    refine hmove.bind ?_ f g ⟨hbooks, hsettled⟩
    intro landed landed' f g hjoined
    rcases hjoined with ⟨hbooks, rfl, hat⟩
    simp only [logical, extent_shiftBy, Extent.logical_shiftBy, name_shiftBy]
    cases window.extent.logical landed' with
    | error reason => exact .failed (.refl _ _ _) ⟨hbooks, _, hat⟩
    | ok position => exact .answered ⟨rfl, hbooks, _, hat⟩
  · rw [hfar, hnear]
    exact .failed ⟨rfl, fun hshift => by rw [hsame hshift]⟩ ⟨hbooks, hsettled⟩

end Window

/-! ## Seeks through the adapter -/

/-- The seek of a resource that a seek in the terms of streams is made of, if it is made of any. -/
def RawSeek.asSeek : RawSeek → Option (Int × Whence)
  | .start position => if position < Adapter.offsetLimit then some (position, .start) else none
  | .current distance => some (distance, .current)
  | .finish distance => some (distance, .finish)

namespace Adapter

/-- A seek in the terms of streams is a seek of the resource, or fails at once. -/
theorem seek_eq (move : Int → Whence → Action FileError ρ σ Nat) (target : RawSeek) :
    seek move target =
      match target.asSeek with
      | some (distance, whence) => passing (move distance whence)
      | none => Action.fail (.worded .invalidInput "seek offset too large") := by
  cases target with
  | start position =>
    simp only [seek, RawSeek.asSeek]
    split <;> rfl
  | current distance => rfl
  | finish distance => rfl

/-- Where the seeks of two resources go together, so do those through the adapter. -/
theorem seek_coupled {shift : Nat} {frames before : Frame ρ σ → Frame ρ' τ → Prop}
    {move : Int → Whence → Action FileError ρ σ Nat}
    {move' : Int → Whence → Action FileError ρ' τ Nat} (target : RawSeek)
    (hbefore : ∀ f g, before f g → frames f g)
    (hmove : ∀ distance whence, target.asSeek = some (distance, whence) →
      Coupled (Alike FileError.wordless shift) frames before (move distance whence)
        (move' distance whence) (Same frames)) :
    Coupled (Alike Fault.wordless shift) frames before (seek move target) (seek move' target)
      (Same frames) := by
  rw [seek_eq, seek_eq]
  cases hseek : target.asSeek with
  | none => exact .fail (.refl _ _ _) hbefore
  | some pair =>
    rcases pair with ⟨distance, whence⟩
    exact (hmove distance whence hseek).mapError fun _ _ h => h.carried

end Adapter

end FileWindow

import FileWindow.Window

/-!
# Where a seek leads

A seek checks everything before the device is moved.  This file puts the checks together: they are
a function of the extent, of the distance and its origin, and of where the raw cursor stands, and
what they let through is told by whole numbers.  A window that lies further into the raw data lets
the same seeks through, as long as there are positions for them.

Main definitions:

- Definition Extent.goal: the position within the extent that a seek asks for, as a whole number.
- Definition Extent.destination: the raw position that a seek leads to, or why it is refused.
- Definition Extent.shiftBy, Window.shiftBy: the same window further into the raw data.

Main results:

- Theorem Extent.destination_eq_ok_iff: the seeks that are let through, and where they lead.
- Theorem Extent.destination_shiftBy_eq_ok_iff: a window further on lets the same seeks through.
- Theorem Window.seek_eq: a seek asks for the cursor if it has to, checks, and moves.
- Theorems Window.seek_of_destination_ok and Window.seek_of_destination_error: what it comes to.
-/

namespace FileWindow

variable {ρ σ : Type}

/-! ## Checks -/

namespace Extent

/-- The position within the extent that a seek asks for; it may lie outside of the extent. -/
def goal (extent : Extent) (distance : Int) (whence : Whence) (cursor : Nat) : Int :=
  match whence with
  | .start => distance
  | .finish => extent.length + distance
  | .current => cursor - extent.offset + distance

/-- The raw position that a seek leads to where the raw cursor stands at a given place, or why it
is refused. -/
def destination (extent : Extent) (distance : Int) (whence : Whence) (cursor : Nat)
    (limit : Option Nat) : Except Refusal Nat := do
  let raw ← extent.rawTarget distance whence cursor
  let position ← extent.logical raw
  if limit.any fun bound => position > bound then .error .seekBeyondExtent
  else .ok raw

/-- The raw targets that there are: those of plausible distances, not before the extent unless
the raw cursor counts, and not beyond the last position. -/
theorem rawTarget_eq_ok_iff {extent : Extent} {distance : Int} {whence : Whence}
    {cursor raw : Nat} :
    extent.rawTarget distance whence cursor = .ok raw ↔
      plausibleDistance distance = true ∧ (whence = .finish → distance ≤ 0) ∧
        (whence ≠ .current → 0 ≤ extent.goal distance whence cursor) ∧
        (raw : Int) = extent.offset + extent.goal distance whence cursor ∧
        raw < positionLimit := by
  unfold rawTarget goal
  by_cases hlikely : plausibleDistance distance = true
  · simp only [hlikely, Bool.not_true, Bool.false_eq_true, if_false, true_and]
    cases whence with
    | start =>
      simp only [reduceCtorEq, ne_eq, not_false_eq_true, false_implies, true_implies, true_and]
      split
      · simp only [reduceCtorEq, false_iff]
        omega
      · rw [checkedSum_eq_ok_iff]
        omega
    | finish =>
      simp only [reduceCtorEq, ne_eq, not_false_eq_true, true_implies]
      split
      · simp only [reduceCtorEq, false_iff]
        omega
      split
      · simp only [reduceCtorEq, false_iff]
        omega
      · rw [checkedSum_eq_ok_iff]
        omega
    | current =>
      simp only [reduceCtorEq, ne_eq, not_true_eq_false, false_implies, true_and]
      split
      · simp only [Except.ok.injEq]
        omega
      · simp only [reduceCtorEq, false_iff]
        omega
  · simp [hlikely]

/-- A seek is let through if its distance is plausible, if it goes back where it goes from the
end, and if its goal is a position, not beyond the limit.  It then leads to the goal. -/
theorem destination_eq_ok_iff {extent : Extent} {distance : Int} {whence : Whence}
    {cursor raw : Nat} {limit : Option Nat} :
    extent.destination distance whence cursor limit = .ok raw ↔
      plausibleDistance distance = true ∧ (whence = .finish → distance ≤ 0) ∧
        0 ≤ extent.goal distance whence cursor ∧
        (raw : Int) = extent.offset + extent.goal distance whence cursor ∧
        raw < positionLimit ∧
        ∀ bound ∈ limit, extent.goal distance whence cursor ≤ bound := by
  unfold destination
  cases htarget : extent.rawTarget distance whence cursor with
  | error reason =>
    simp only [bind, Except.bind, reduceCtorEq, false_iff]
    rintro ⟨hlikely, hback, hgoal, hraw, hlimit, -⟩
    have hok := rawTarget_eq_ok_iff.mpr ⟨hlikely, hback, fun _ => hgoal, hraw, hlimit⟩
    simp [htarget] at hok
  | ok target =>
    rcases rawTarget_eq_ok_iff.mp htarget with ⟨hlikely, hback, -, htarget, hlimit⟩
    simp only [bind, Except.bind]
    cases hlogical : extent.logical target with
    | error reason =>
      have hbefore : ¬ extent.offset ≤ target := by
        intro hle
        simp [logical, hle] at hlogical
      simp only [reduceCtorEq, false_iff]
      omega
    | ok position =>
      have hposition := logical_eq_ok_iff.mp hlogical
      have hgoal : (position : Int) = extent.goal distance whence cursor := by omega
      have hbeyond : (limit.any fun bound => position > bound) = true ↔
          ¬ ∀ bound ∈ limit, extent.goal distance whence cursor ≤ bound := by
        cases limit <;> simp [← hgoal]
      dsimp only
      by_cases hbound : (limit.any fun bound => position > bound) = true
      · rw [if_pos hbound]
        simp only [reduceCtorEq, false_iff]
        rintro ⟨-, -, -, -, -, hall⟩
        exact hbeyond.mp hbound hall
      · rw [if_neg hbound]
        have hall := Decidable.of_not_not (mt hbeyond.mpr hbound)
        simp only [Except.ok.injEq]
        constructor
        · rintro rfl
          exact ⟨hlikely, hback, by omega, htarget, hlimit, hall⟩
        · rintro ⟨-, -, -, hraw, -, -⟩
          omega

/-- The same extent further into the raw data. -/
def shiftBy (extent : Extent) (shift : Nat) : Extent :=
  { extent with offset := shift + extent.offset }

@[simp]
theorem offset_shiftBy (extent : Extent) (shift : Nat) :
    (extent.shiftBy shift).offset = shift + extent.offset :=
  rfl

@[simp]
theorem length_shiftBy (extent : Extent) (shift : Nat) :
    (extent.shiftBy shift).length = extent.length :=
  rfl

@[simp]
theorem shiftBy_zero (extent : Extent) : extent.shiftBy 0 = extent := by
  simp [shiftBy]

/-- The goal of a seek is the same in a window further on, where the cursor is as far on. -/
theorem goal_shiftBy {extent : Extent} {distance : Int} {whence : Whence} {shift cursor : Nat}
    {ahead : Nat} (hahead : whence = .current → ahead = shift + cursor) :
    (extent.shiftBy shift).goal distance whence ahead = extent.goal distance whence cursor := by
  cases whence with
  | start => rfl
  | finish => rfl
  | current =>
    rw [hahead rfl]
    simp only [goal, offset_shiftBy]
    omega

/-- A window further on lets the same seeks through, as far as there are positions for them. -/
theorem destination_shiftBy_eq_ok_iff {extent : Extent} {distance : Int} {whence : Whence}
    {shift cursor ahead raw : Nat} {limit : Option Nat}
    (hahead : whence = .current → ahead = shift + cursor) :
    (extent.shiftBy shift).destination distance whence ahead limit = .ok raw ↔
      ∃ near, raw = shift + near ∧ raw < positionLimit ∧
        extent.destination distance whence cursor limit = .ok near := by
  simp only [destination_eq_ok_iff, goal_shiftBy hahead, offset_shiftBy]
  constructor
  · rintro ⟨hlikely, hback, hgoal, hraw, hlimit, hbound⟩
    exact ⟨raw - shift, by omega, hlimit, hlikely, hback, hgoal, by omega, by omega, hbound⟩
  · rintro ⟨near, rfl, hlimit, hlikely, hback, hgoal, hraw, -, hbound⟩
    exact ⟨hlikely, hback, hgoal, by omega, hlimit, hbound⟩

/-- The cursor counts only for a plausible seek from the current position. -/
theorem destination_congr {extent : Extent} {distance : Int} {whence : Whence}
    {cursor cursor' : Nat} (limit : Option Nat)
    (h : whence = .current → plausibleDistance distance = true → cursor = cursor') :
    extent.destination distance whence cursor limit =
      extent.destination distance whence cursor' limit := by
  have htarget : extent.rawTarget distance whence cursor =
      extent.rawTarget distance whence cursor' := by
    unfold rawTarget
    by_cases hlikely : plausibleDistance distance = true
    · cases whence with
      | start => rfl
      | finish => rfl
      | current => rw [h rfl hlikely]
    · simp [hlikely]
  rw [destination, destination, htarget]

/-- Seeks in a window further on are let through or refused alike, where there are positions for
them; only the reasons for a refusal may differ. -/
theorem destination_alike {extent : Extent} {distance : Int} {whence : Whence}
    {shift cursor ahead : Nat} {limit : Option Nat}
    (hahead : whence = .current → plausibleDistance distance = true → ahead = shift + cursor)
    (hroom : ∀ raw, extent.destination distance whence cursor limit = .ok raw →
      shift + raw < positionLimit) :
    (∃ raw, (extent.shiftBy shift).destination distance whence ahead limit = .ok (shift + raw) ∧
        extent.destination distance whence cursor limit = .ok raw) ∨
      ∃ reason reason', (extent.shiftBy shift).destination distance whence ahead limit =
          .error reason ∧
        extent.destination distance whence cursor limit = .error reason' ∧
        (shift = 0 → reason = reason') := by
  have hmoved : (extent.shiftBy shift).destination distance whence ahead limit =
      (extent.shiftBy shift).destination distance whence (shift + cursor) limit :=
    destination_congr limit hahead
  rw [hmoved]
  cases hnear : extent.destination distance whence cursor limit with
  | ok raw =>
    have hfar := (destination_shiftBy_eq_ok_iff fun _ => rfl).mpr
      ⟨raw, rfl, hroom raw hnear, hnear⟩
    exact .inl ⟨raw, hfar, rfl⟩
  | error reason' =>
    cases hfar : (extent.shiftBy shift).destination distance whence (shift + cursor) limit with
    | ok raw =>
      rcases (destination_shiftBy_eq_ok_iff fun _ => rfl).mp hfar with ⟨near, -, -, hok⟩
      rw [hnear] at hok
      cases hok
    | error reason =>
      refine .inr ⟨reason, reason', rfl, rfl, fun hshift => ?_⟩
      subst hshift
      rw [shiftBy_zero, Nat.zero_add, hnear] at hfar
      cases hfar
      rfl

/-- The position within a window further on of a raw position as far on is the same. -/
@[simp]
theorem logical_shiftBy (extent : Extent) (shift raw : Nat) :
    (extent.shiftBy shift).logical (shift + raw) = extent.logical raw := by
  simp only [logical, offset_shiftBy, Nat.add_le_add_iff_left, Nat.add_sub_add_left]

end Extent

/-! ## Moving -/

namespace Window

/-- The same window further into the raw data. -/
def shiftBy (window : Window) (shift : Nat) : Window :=
  { window with extent := window.extent.shiftBy shift }

@[simp]
theorem name_shiftBy (window : Window) (shift : Nat) :
    (window.shiftBy shift).name = window.name :=
  rfl

@[simp]
theorem extent_shiftBy (window : Window) (shift : Nat) :
    (window.shiftBy shift).extent = window.extent.shiftBy shift :=
  rfl

@[simp]
theorem shiftBy_zero (window : Window) : window.shiftBy 0 = window := by
  simp [shiftBy]

/-- The raw cursor, where a seek has to know it; its checks ignore it otherwise. -/
def cursorFor (device : Device σ) (window : Window) (distance : Int) (whence : Whence) :
    Action FileError ρ σ Nat :=
  if whence = .current ∧ plausibleDistance distance then
    Action.call window.name .tell device.position
  else pure 0

/-- A seek asks for the cursor if it has to, checks, moves, and tells where it landed. -/
theorem seek_eq (device : Device σ) (window : Window) (distance : Int) (whence : Whence)
    (limit : Option Nat) :
    (window.seek device distance whence limit : Action FileError ρ σ Nat) = (do
      let cursor ← window.cursorFor device distance whence
      let raw ← Action.accept window.name
        (window.extent.destination distance whence cursor limit)
      let landed ← Action.call window.name .seek (device.seek (.start raw))
      Action.report (.sought window.name distance whence landed)
      window.logical landed) := by
  have hchecks : ∀ (cursor : Nat) (next : Nat → Action FileError ρ σ Nat),
      (do
        let raw ← Action.accept window.name (window.extent.rawTarget distance whence cursor)
        let position ← window.logical raw
        if limit.any fun bound => position > bound then do
          Action.refuse window.name .seekBeyondExtent
          next raw
        else next raw) =
      (do
        let raw ← Action.accept window.name
          (window.extent.destination distance whence cursor limit)
        next raw) := by
    intro cursor next
    simp only [Extent.destination, Action.accept_bind, bind_assoc]
    congr
    funext raw
    congr
    funext position
    split <;> simp
  unfold seek cursorFor
  split <;> simp only [hchecks]

variable {device : Device σ} {window : Window} {distance : Int} {whence : Whence}
  {limit : Option Nat} {frame asked : Frame ρ σ} {cursor : Nat}

/-- A seek that is let through moves the device to where it leads, and answers the position of that
place within the extent. -/
theorem seek_of_destination_ok {raw : Nat} {moved : σ}
    (hcursor : window.cursorFor device distance whence frame = .ok cursor asked)
    (hdestination : window.extent.destination distance whence cursor limit = .ok raw)
    (hseek : device.seek (.start raw) asked.world = .ok raw moved) :
    window.seek device distance whence limit frame =
      .ok (raw - window.extent.offset)
        ⟨asked.book, moved, .sought window.name distance whence raw :: asked.journal⟩ := by
  obtain ⟨-, -, hgoal, hraw, -, -⟩ := Extent.destination_eq_ok_iff.mp hdestination
  have hlogical : window.extent.logical raw = .ok (raw - window.extent.offset) :=
    Extent.logical_eq_ok_iff.mpr (by omega)
  rw [seek_eq]
  simp only [Bind.bind, EStateM.bind, hcursor, hdestination, Action.accept_ok, pure, EStateM.pure,
    Action.call_of_ok _ _ hseek, Action.report_apply, logical, hlogical]

/-- A seek that leads nowhere is refused, and the device is not moved. -/
theorem seek_of_destination_error {reason : Refusal}
    (hcursor : window.cursorFor device distance whence frame = .ok cursor asked)
    (hdestination : window.extent.destination distance whence cursor limit = .error reason) :
    window.seek device distance whence limit frame =
      .error (.failed (.refused window.name reason)) asked := by
  rw [seek_eq]
  simp only [Bind.bind, EStateM.bind, hcursor, hdestination, Action.accept_error, Action.refuse,
    Action.fail]

end Window

end FileWindow

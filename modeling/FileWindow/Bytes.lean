/-!
# Byte strings

Contents of files, streams and buffers are lists of bytes.  This file gives the two ways in
which contents change: bytes laid over them at a position, and a new length given to them.

Main definitions:

- Definition Bytes: a byte string.
- Definition overlay: contents after bytes have been written at a position.
- Definition resize: contents cut or zero-extended to a length.

Main results:

- Theorems length_overlay and length_resize: the lengths that result.
- Theorem overlay_of_ne_nil: written bytes stand between the part before the position and the part
  behind them.
- Theorem overlay_nil: writing nothing changes nothing, wherever it is written.
- Theorem overlay_overlay: two writes in a row are one write of both parts.
-/

namespace FileWindow

/-- A byte string. -/
abbrev Bytes := List UInt8

namespace Bytes

/-! ## Changing the length -/

/-- Contents cut to a length, or extended to it by zeros. -/
def resize (data : Bytes) (length : Nat) : Bytes :=
  data.take length ++ List.replicate (length - data.length) 0

/-- Resized contents have the length asked for. -/
@[simp] theorem length_resize (data : Bytes) (length : Nat) :
    (resize data length).length = length := by
  simp [resize]
  omega

/-- Contents given their own length stay as they are. -/
@[simp] theorem resize_length (data : Bytes) : resize data data.length = data := by
  simp [resize]

/-! ## Writing at a position -/

/-- Moves so many bytes to the reversed front of some contents, zeros where there are no more.
Answers the front and the bytes that were left. -/
def carry : Nat → Bytes → Bytes → Bytes × Bytes
  | 0, front, data => (front, data)
  | count + 1, front, [] => carry count (0 :: front) []
  | count + 1, front, byte :: rest => carry count (byte :: front) rest

/-- The front that was carried is the resized contents, and what is left is the rest of them. -/
theorem carry_eq (count : Nat) (front data : Bytes) :
    carry count front data = ((resize data count).reverse ++ front, data.drop count) := by
  induction count generalizing front data with
  | zero => simp [carry, resize]
  | succ count ih =>
    cases data with
    | nil =>
      have hzero : List.replicate count (0 : UInt8) ++ [0] = 0 :: List.replicate count 0 := by
        rw [← List.replicate_succ', List.replicate_succ]
      simp [carry, ih, resize, List.replicate_succ, ← hzero]
    | cons byte rest => simp [carry, ih, resize]

/-- Contents after bytes were written at a position.  A gap before the position is filled with
zeros; no bytes written means no gap filled. -/
def overlay (data : Bytes) (position : Nat) (written : Bytes) : Bytes :=
  match written with
  | [] => data
  | _ :: _ =>
    let (front, rest) := carry position [] data
    front.reverseAux (written ++ rest.drop written.length)

/-- Writing nothing changes nothing. -/
@[simp] theorem overlay_nil (data : Bytes) (position : Nat) : overlay data position [] = data :=
  rfl

/-- Written bytes stand between the part before the position and the part behind them. -/
theorem overlay_of_ne_nil (data : Bytes) (position : Nat) {written : Bytes} (h : written ≠ []) :
    overlay data position written =
      resize data position ++ written ++ data.drop (position + written.length) := by
  cases written with
  | nil => exact absurd rfl h
  | cons first rest => simp [overlay, carry_eq, List.reverseAux_eq]

/-- Contents grow to the end of the bytes written, if they reach that far. -/
theorem length_overlay (data : Bytes) (position : Nat) {written : Bytes} (h : written ≠ []) :
    (overlay data position written).length = max data.length (position + written.length) := by
  rw [overlay_of_ne_nil _ _ h]
  simp only [List.length_append, length_resize, List.length_drop]
  omega

/-- Two writes in a row leave what one write of both parts leaves. -/
theorem overlay_overlay (data : Bytes) (position : Nat) (first second : Bytes) :
    overlay (overlay data position first) (position + first.length) second =
      overlay data position (first ++ second) := by
  by_cases hf : first = []
  · simp [hf]
  by_cases hs : second = []
  · simp [hs]
  have hfs : first ++ second ≠ [] := by simp [hf]
  rw [overlay_of_ne_nil _ _ hs, overlay_of_ne_nil _ _ hf, overlay_of_ne_nil _ _ hfs]
  have hlen : (resize data position ++ first).length = position + first.length := by simp
  have hcut : resize (resize data position ++ first ++
      data.drop (position + first.length)) (position + first.length) =
        resize data position ++ first := by
    have hfit : position + first.length - (resize data position ++ first ++
        data.drop (position + first.length)).length = 0 := by
      simp only [List.length_append, length_resize]
      omega
    rw [resize, hfit, List.take_append_of_le_length (by omega),
      List.take_of_length_le (by omega)]
    simp
  rw [hcut]
  rw [List.drop_append, List.drop_of_length_le (by rw [hlen]; omega)]
  simp only [hlen, List.drop_drop, List.length_append, List.append_assoc, List.nil_append]
  congr 4
  omega

end Bytes

end FileWindow

import FileWindow.Proofs.Completion
import FileWindow.Proofs.StreamCalls

/-!
# The pace of streams

A stream follows plans, which may interrupt its calls, cut its reads short, and put its cursor
anywhere.  The plans are finite, and they bound how often that happens: each interruption uses up
an entry of a plan, and once the plan for seeks has run out every read that brings bytes moves the
cursor on.  So a stream keeps a pace that every loop over an extent allows for.

Main definitions:

- Definition Stream.budget: how often a stream can still bring bytes of an extent.

Main results:

- Theorem Stream.device_paced: a stream keeps a pace.
- Theorem Stream.device_steady: every loop over an extent allows for it.
- Theorem Stream.write_calm: writing to a stream is never interrupted.
-/

namespace FileWindow

namespace Stream

/-- How often a stream can still bring bytes of an extent.  As long as there is a plan for seeks
the cursor may be put anywhere; from then on it only goes forward. -/
def budget (extent : Extent) (stream : Stream) : Nat :=
  if stream.seekPlan = [] then extent.length - (stream.cursor - extent.offset)
  else stream.seekPlan.length + extent.length

/-- Bytes that were read use up some of the budget. -/
theorem budget_lt {extent : Extent} {stream between after : Stream} {raw count : Nat}
    (hbetween : between = { stream with cursor := raw, seekPlan := stream.seekPlan.tail })
    (hstay : stream.seekPlan = [] → raw = stream.cursor) (hraw : extent.offset ≤ raw)
    (hroom : 0 < extent.length - (raw - extent.offset)) (hcount : 0 < count)
    (hcursor : after.cursor = raw + count) (hplan : after.seekPlan = between.seekPlan) :
    after.budget extent < stream.budget extent := by
  subst hbetween
  cases hseekPlan : stream.seekPlan with
  | nil =>
    have hsame := hstay hseekPlan
    simp only [budget, hplan, hseekPlan, hcursor, List.tail_nil, if_true]
    omega
  | cons reply rest =>
    simp only [budget, hplan, hseekPlan, hcursor, List.tail_cons, reduceCtorEq, if_false,
      List.length_cons]
    split <;> omega

/-- Where no plan interferes, asking for the cursor does not move it. -/
theorem position_of_plan_nil {stream after : Stream} {raw : Nat} (hplan : stream.seekPlan = [])
    (h : device.position stream = .ok raw after) : raw = stream.cursor := by
  simp only [Device.position, device, seek, hplan, move, target] at h
  split at h
  · cases h
  · split at h
    · cases h
    · cases h
      omega

/-- A stream is interrupted as often at most as its plan for seeks is long, since reads are made
again, and brings bytes as often as its budget allows. -/
theorem device_paced (extent : Extent) :
    device.Paced extent fun interruptions answers stream =>
      stream.seekPlan.length ≤ interruptions ∧
        stream.budget extent ≤ answers where
  interrupted := by
    intro interruptions answers stream fault after hready hposition hfault
    rcases seek_of_error hposition with ⟨rfl, hplan⟩
    rcases List.exists_cons_of_ne_nil (hplan hfault) with ⟨reply, rest, hseekPlan⟩
    rcases hready with ⟨hpatience, hbudget⟩
    simp only [hseekPlan, List.length_cons] at hpatience
    refine ⟨interruptions - 1, by omega, ?_, ?_⟩
    · simp only [hseekPlan, List.tail_cons]
      omega
    · simp only [budget, hseekPlan, List.tail_cons, List.length_cons, reduceCtorEq,
        if_false] at hbudget ⊢
      split <;> omega
  answered := by
    intro interruptions answers stream raw between wanted bytes after hready hposition hraw
      hsome hwanted hread hbytes
    rcases hready with ⟨hpatience, hbudget⟩
    have hbetween := seek_of_ok hposition
    rcases readRetrying_of_ok hread with ⟨hcursor, hseekPlan⟩
    have hcount := List.length_pos_iff.mpr hbytes
    have hlt : after.budget extent < stream.budget extent := by
      refine budget_lt hbetween (fun hplan => position_of_plan_nil hplan hposition) hraw
        (by omega) hcount ?_ hseekPlan
      rw [hcursor, hbetween]
    refine ⟨answers - 1, by omega, ?_, by omega⟩
    rw [hseekPlan, hbetween, List.length_tail]
    omega
  calm := by
    intro wanted stream fault after hread
    exact readRetrying_of_error (Nat.le_refl _) hread

/-- A stream keeps a pace that every loop over an extent allows for. -/
theorem device_steady (extent : Extent) (stream : Stream) : device.Steady extent stream := by
  refine ⟨_, device_paced extent, Nat.le_refl _, ?_⟩
  simp only [budget, device]
  split <;> omega

/-- Writing to a stream is never interrupted. -/
theorem write_calm (bytes : Bytes) (stream : Stream) (fault : Fault) (after : Stream)
    (h : device.write bytes stream = .error fault after) : fault.isInterruption = false :=
  writeBy_of_error h

end Stream

end FileWindow

import FileWindow.Proofs.Ending
import FileWindow.Proofs.Rows
import Mathlib.Algebra.GroupWithZero.Nat

/-!
# Reading and writing by turns

The loop that reads a chunk and writes it goes on until its source is at its end or something stops
it; nothing else bounds it.  This file describes it without the rounds that it is given: by the
reads that are made and by the sizes of those that bring bytes.  Where it comes to an end in this
description, as many rounds as there are reads are enough, and more of them change nothing.

A source that has no more than so many bytes left, and fewer by each read, brings the loop to its
end, whatever the sink does in between, as long as the sink gives the source nothing back.

Main definitions:

- Definition Transfer.Pumps: how the loop goes until it ends.
- Definition Transfer.Draining: a source that each read leaves with less, and a sink that gives
  nothing back.

Main results:

- Theorem Transfer.Pumps.pump_eq: the loop in rounds, if there are enough.
- Theorem Transfer.Pumps.total_eq: a loop that answers has moved what its reads brought.
- Theorem Transfer.Draining.exists_pumps: the loop ends before the source has given more than it
  had left.
- Theorem Transfer.Pumps.answers: it ends with an answer where each read and each write answers.
-/

namespace FileWindow

variable {ε ρ ρ' σ α : Type}

open FileWindow.Action (Ended Keeps Meets isAnswer left)

/-! ## Parts of a frame -/

/-- An action on one of two books comes to what it comes to beside the other. -/
theorem Action.Meets.onFirst {answers : α → Frame (ρ × ρ') σ → Prop}
    {fails : ε → Frame (ρ × ρ') σ → Prop} {halts : Frame (ρ × ρ') σ → Prop}
    {action : Action ε ρ σ α} {frame : Frame (ρ × ρ') σ}
    (h : Meets
      (fun value inner => answers value ⟨(inner.book, frame.book.2), inner.world, inner.journal⟩)
      (fun error inner => fails error ⟨(inner.book, frame.book.2), inner.world, inner.journal⟩)
      (fun inner => halts ⟨(inner.book, frame.book.2), inner.world, inner.journal⟩)
      (action ⟨frame.book.1, frame.world, frame.journal⟩)) :
    Meets answers fails halts (Action.onFirst action frame) := by
  simp only [Action.onFirst]
  generalize action ⟨frame.book.1, frame.world, frame.journal⟩ = result at h
  cases result with
  | ok value after => exact h
  | error stop after => cases stop <;> exact h

/-- An action on the other of two books ends if it does so beside the first. -/
theorem Action.Ended.onSecond {overflows : Prop} {action : Action ε ρ' σ α}
    {frame : Frame (ρ × ρ') σ}
    (h : Ended overflows (action ⟨frame.book.2, frame.world, frame.journal⟩)) :
    Ended overflows (Action.onSecond action frame) := by
  simp only [Action.onSecond]
  generalize action ⟨frame.book.2, frame.world, frame.journal⟩ = result at h
  cases result with
  | ok value after => trivial
  | error stop after => cases stop <;> exact h

namespace Transfer

variable {again : ε → Bool} {source : Nat → Action ε ρ σ Bytes} {sink : Bytes → Action ε ρ σ Unit}
  {chunk moved reads : Nat} {frame : Frame ρ σ} {sizes : List Nat}
  {result : EStateM.Result (Stop ε) (Frame ρ σ) Nat}

/-! ## The loop without rounds -/

/-- How reading and writing by turns goes until it ends: so many bytes were moved before, so many
reads are made, those that bring bytes have these sizes, and this is the result. -/
inductive Pumps (again : ε → Bool) (source : Nat → Action ε ρ σ Bytes)
    (sink : Bytes → Action ε ρ σ Unit) (chunk : Nat) :
    Nat → Frame ρ σ → Nat → List Nat → EStateM.Result (Stop ε) (Frame ρ σ) Nat → Prop
  /-- The source is at its end. -/
  | finished {moved : Nat} {frame after : Frame ρ σ} (hread : source chunk frame = .ok [] after) :
      Pumps again source sink chunk moved frame 1 [] (.ok moved after)
  /-- A read stops, and is not to be made again. -/
  | unread {moved : Nat} {frame after : Frame ρ σ} {stop : Stop ε}
      (hread : source chunk frame = .error stop after)
      (hfinal : ∀ error, stop = .failed error → again error = false) :
      Pumps again source sink chunk moved frame 1 [] (.error stop after)
  /-- What a read brought cannot be written. -/
  | unwritten {moved : Nat} {frame between after : Frame ρ σ} {bytes : Bytes} {stop : Stop ε}
      (hread : source chunk frame = .ok bytes between) (hbytes : bytes ≠ [])
      (hwrite : sink bytes between = .error stop after) :
      Pumps again source sink chunk moved frame 1 [bytes.length] (.error stop after)
  /-- What a read brought is written, and the loop goes on. -/
  | onward {moved reads : Nat} {frame between next : Frame ρ σ} {bytes : Bytes} {sizes : List Nat}
      {result : EStateM.Result (Stop ε) (Frame ρ σ) Nat}
      (hread : source chunk frame = .ok bytes between) (hbytes : bytes ≠ [])
      (hwrite : sink bytes between = .ok () next)
      (hrest : Pumps again source sink chunk (moved + bytes.length) next reads sizes result) :
      Pumps again source sink chunk moved frame (reads + 1) (bytes.length :: sizes) result
  /-- A read failed and is made again. -/
  | retried {moved reads : Nat} {frame next : Frame ρ σ} {error : ε} {sizes : List Nat}
      {result : EStateM.Result (Stop ε) (Frame ρ σ) Nat}
      (hread : source chunk frame = .error (.failed error) next) (hagain : again error = true)
      (hrest : Pumps again source sink chunk moved next reads sizes result) :
      Pumps again source sink chunk moved frame (reads + 1) sizes result

namespace Pumps

/-- As many rounds as there are reads are enough, and more of them change nothing. -/
theorem pump_eq (h : Pumps again source sink chunk moved frame reads sizes result) {rounds : Nat}
    (hrounds : reads ≤ rounds) : pump again source sink chunk rounds moved frame = result := by
  induction h generalizing rounds with
  | finished hread =>
    obtain ⟨rounds, rfl⟩ := Nat.exists_eq_add_one.mpr hrounds
    rw [pump, Action.bind_of_ok (Action.observe_of_ok hread)]
    rfl
  | @unread moved frame after stop hread hfinal =>
    obtain ⟨rounds, rfl⟩ := Nat.exists_eq_add_one.mpr hrounds
    cases stop with
    | failed error =>
      rw [pump, Action.bind_of_ok (Action.observe_of_failed hread)]
      simp only [hfinal error rfl, Bool.false_eq_true, if_false]
      rfl
    | overflow | stalled => simp only [pump, Bind.bind, EStateM.bind, Action.observe, hread]
  | @unwritten moved frame between after bytes stop hread hbytes hwrite =>
    obtain ⟨rounds, rfl⟩ := Nat.exists_eq_add_one.mpr hrounds
    obtain ⟨byte, rest, rfl⟩ := List.exists_cons_of_ne_nil hbytes
    rw [pump, Action.bind_of_ok (Action.observe_of_ok hread)]
    exact Action.bind_of_error hwrite _
  | @onward moved reads frame between next bytes sizes result hread hbytes hwrite hrest ih =>
    obtain ⟨rounds, rfl⟩ := Nat.exists_eq_add_one.mpr (Nat.lt_of_lt_of_le (Nat.succ_pos _) hrounds)
    obtain ⟨byte, rest, rfl⟩ := List.exists_cons_of_ne_nil hbytes
    rw [pump, Action.bind_of_ok (Action.observe_of_ok hread)]
    exact (Action.bind_of_ok hwrite _).trans (ih (Nat.le_of_succ_le_succ hrounds))
  | @retried moved reads frame next error sizes result hread hagain hrest ih =>
    obtain ⟨rounds, rfl⟩ := Nat.exists_eq_add_one.mpr (Nat.lt_of_lt_of_le (Nat.succ_pos _) hrounds)
    rw [pump, Action.bind_of_ok (Action.observe_of_failed hread)]
    simp only [hagain, if_true]
    exact ih (Nat.le_of_succ_le_succ hrounds)

/-- A loop that answers has moved what its reads brought. -/
theorem total_eq {total : Nat} {after : Frame ρ σ}
    (h : Pumps again source sink chunk moved frame reads sizes (.ok total after)) :
    total = moved + sizes.sum := by
  generalize hresult : EStateM.Result.ok total after = result at h
  induction h with
  | finished hread =>
    cases hresult
    rfl
  | unread hread hfinal => cases hresult
  | unwritten hread hbytes hwrite => cases hresult
  | onward hread hbytes hwrite hrest ih =>
    rw [ih hresult, List.sum_cons, Nat.add_assoc]
  | retried hread hagain hrest ih => exact ih hresult

/-- No more reads bring bytes than there are bytes brought. -/
theorem length_le_sum (h : Pumps again source sink chunk moved frame reads sizes result) :
    sizes.length ≤ sizes.sum := by
  induction h with
  | finished hread => exact Nat.le_refl _
  | unread hread hfinal => exact Nat.le_refl _
  | unwritten hread hbytes hwrite => exact List.length_pos_iff.mpr hbytes
  | onward hread hbytes hwrite hrest ih =>
    have hpos := List.length_pos_iff.mpr hbytes
    rw [List.length_cons, List.sum_cons]
    omega
  | retried hread hagain hrest ih => exact ih

/-- The loop ends with an answer where each read answers, and each write of what was read. -/
theorem answers (h : Pumps again source sink chunk moved frame reads sizes result)
    {ready : Frame ρ σ → Prop} {holding : Bytes → Frame ρ σ → Prop}
    (hread : ∀ frame, ready frame →
      ∃ bytes between, source chunk frame = .ok bytes between ∧ holding bytes between)
    (hwrite : ∀ bytes between, bytes ≠ [] → holding bytes between →
      ∃ after, sink bytes between = .ok () after ∧ ready after)
    (hframe : ready frame) : isAnswer result = true := by
  induction h with
  | finished _ => rfl
  | unread hstopped _ =>
    obtain ⟨bytes, between, hbytes, -⟩ := hread _ hframe
    cases hstopped.symm.trans hbytes
  | unwritten htaken hbytes hstopped =>
    obtain ⟨bytes, between, hsource, hholding⟩ := hread _ hframe
    cases htaken.symm.trans hsource
    obtain ⟨after, hsink, -⟩ := hwrite _ _ hbytes hholding
    cases hstopped.symm.trans hsink
  | onward htaken hbytes hwritten _ ih =>
    obtain ⟨bytes, between, hsource, hholding⟩ := hread _ hframe
    cases htaken.symm.trans hsource
    obtain ⟨after, hsink, hafter⟩ := hwrite _ _ hbytes hholding
    cases hwritten.symm.trans hsink
    exact ih hafter
  | retried hfailed _ _ _ =>
    obtain ⟨bytes, between, hbytes, -⟩ := hread _ hframe
    cases hfailed.symm.trans hbytes

end Pumps

/-! ## Sources that run dry -/

/-- A source that has no more than so many bytes left and is left with less by each read, which is
never made again, and a sink that comes to an end and gives the source nothing back. -/
structure Draining (again : ε → Bool) (source : Nat → Action ε ρ σ Bytes)
    (sink : Bytes → Action ε ρ σ Unit) (chunk : Nat) (remaining : Nat → Frame ρ σ → Prop) :
    Prop where
  read : ∀ rest frame, remaining rest frame →
    Meets (fun bytes after => bytes.length ≤ rest ∧ remaining (rest - bytes.length) after)
      (fun error after => again error = false ∧ remaining rest after) (fun _ => False)
      (source chunk frame)
  write : ∀ rest bytes, Keeps (remaining rest) (sink bytes)
  ended : ∀ bytes frame, Ended True (sink bytes frame)

/-- The loop ends before the source has given more than it had left, and so with no more reads than
there were bytes left, but for the last that finds the end.  The induction is on what is left: a
read that brings bytes leaves less, and the write behind it does not make it more. -/
theorem Draining.exists_pumps {remaining : Nat → Frame ρ σ → Prop}
    (h : Draining again source sink chunk remaining) {rest : Nat} (hframe : remaining rest frame)
    (moved : Nat) :
    ∃ reads sizes result, Pumps again source sink chunk moved frame reads sizes result ∧
      sizes.sum ≤ rest ∧ reads ≤ rest + 1 ∧ Ended True result ∧
      ∃ least, remaining least (left result) := by
  induction rest using Nat.strongRecOn generalizing frame moved with
  | _ rest ih =>
    have hmeets := h.read rest frame hframe
    cases hread : source chunk frame with
    | error stop after =>
      rw [hread] at hmeets
      cases stop with
      | failed error =>
        obtain ⟨hfinal, hafter⟩ := hmeets
        refine ⟨1, [], _, .unread hread ?_, Nat.zero_le _, by omega, trivial, rest, hafter⟩
        rintro _ ⟨⟩
        exact hfinal
      | overflow | stalled => exact hmeets.elim
    | ok bytes between =>
      rw [hread] at hmeets
      obtain ⟨hle, hbetween⟩ := hmeets
      by_cases hbytes : bytes = []
      · subst hbytes
        exact ⟨1, [], _, .finished hread, Nat.zero_le _, by omega, trivial, rest, hbetween⟩
      have hpos := List.length_pos_iff.mpr hbytes
      have hkeeps := h.write (rest - bytes.length) bytes between hbetween
      cases hwrite : sink bytes between with
      | ok value next =>
        rw [hwrite] at hkeeps
        obtain ⟨reads, sizes, result, hpumps, hsum, hreads, hended, hleast⟩ :=
          ih (rest - bytes.length) (by omega) hkeeps (moved + bytes.length)
        refine ⟨reads + 1, bytes.length :: sizes, result, .onward hread hbytes hwrite hpumps, ?_,
          by omega, hended, hleast⟩
        rw [List.sum_cons]
        omega
      | error stop next =>
        have hended := h.ended bytes between
        rw [hwrite] at hkeeps hended
        have hlast : remaining (rest - bytes.length) next := by
          cases stop <;> exact hkeeps
        refine ⟨1, [bytes.length], _, .unwritten hread hbytes hwrite, ?_, by omega, ?_, _, hlast⟩
        · rw [List.sum_singleton]
          exact hle
        · cases stop <;> exact hended

end Transfer

end FileWindow

import FileWindow.Stream

/-!
# What calls leave of a stream

A call of a stream takes the next entry of a plan and may move the cursor; everything else stays
as it was.  This file says so for each call, whatever the plans are.  Where a read is made again
as often as the plan for reads is long, no interruption is left over.

Main definitions:

- Definition Stream.TookPrefix: what a write may have come to.

Main results:

- Theorems Stream.seek_of_ok and Stream.seek_of_error: what a seek leaves.
- Theorem Stream.seek_of_seekable: where a seek lands that no plan interferes with.
- Theorems Stream.readRetrying_of_ok and Stream.readRetrying_of_error: what reads leave.
- Theorem Stream.writeBy_tookPrefix: a write takes a prefix, and fails as one of its calls does.
-/

namespace FileWindow.Stream

variable {stream after : Stream} {fault : Fault}

/-! ## Seeking -/

/-- A move that answers put the cursor where it says. -/
theorem move_of_ok {target : RawSeek} {position : Nat}
    (h : stream.move target = .ok position after) : after = { stream with cursor := position } := by
  simp only [move] at h
  split at h
  · cases h
  · split at h
    · cases h
    · cases h
      rfl

/-- A move that fails changes nothing, and is no interruption. -/
theorem move_of_error {target : RawSeek} (h : stream.move target = .error fault after) :
    after = stream ∧ fault.isInterruption = false := by
  simp only [move] at h
  split at h
  · cases h
    exact ⟨rfl, rfl⟩
  · split at h
    · cases h
      exact ⟨rfl, rfl⟩
    · cases h

/-- A seek that answers left the cursor where it says. -/
theorem seek_of_ok {target : RawSeek} {position : Nat}
    (h : seek target stream = .ok position after) :
    after = { stream with cursor := position, seekPlan := stream.seekPlan.tail } := by
  cases hplan : stream.seekPlan with
  | nil =>
    simp only [seek, hplan] at h
    rw [move_of_ok h, List.tail_nil, ← hplan]
  | cons reply seekPlan =>
    simp only [seek, hplan] at h
    cases reply with
    | asUsual => exact move_of_ok h
    | number landed =>
      cases h
      rfl
    | fails fault => cases h

/-- A seek that fails took its entry of the plan; only an entry makes it an interruption. -/
theorem seek_of_error {target : RawSeek} (h : seek target stream = .error fault after) :
    after = { stream with seekPlan := stream.seekPlan.tail } ∧
      (fault.isInterruption = true → stream.seekPlan ≠ []) := by
  cases hplan : stream.seekPlan with
  | nil =>
    simp only [seek, hplan] at h
    rcases move_of_error h with ⟨hsame, hfault⟩
    rw [hsame, List.tail_nil, ← hplan]
    exact ⟨rfl, by simp [hfault]⟩
  | cons reply seekPlan =>
    simp only [seek, hplan] at h
    refine ⟨?_, by simp⟩
    cases reply with
    | asUsual => exact (move_of_error h).1
    | number landed => cases h
    | fails fault =>
      cases h
      rfl

/-- A stream that can be positioned, and whose seeks follow no plan, lands where it is sent. -/
theorem seek_of_seekable (hseekable : stream.seekable = true) (hseeks : stream.seekPlan = [])
    {target : RawSeek} {position : Nat} (htarget : stream.target target = position)
    (hlimit : position < positionLimit) :
    seek target stream = .ok position { stream with cursor := position } := by
  have hfits : ¬((position : Int) < 0 ∨ (positionLimit : Int) ≤ position) := by omega
  simp only [seek, hseeks, move, hseekable, htarget, Bool.not_true, Bool.false_eq_true, if_false,
    hfits, Int.toNat_natCast]

/-! ## Reading -/

/-- A read that answers moved the cursor behind the bytes. -/
theorem read_of_ok {length : Nat} {bytes : Bytes} (h : read length stream = .ok bytes after) :
    after = { stream with
      cursor := stream.cursor + bytes.length, readPlan := stream.readPlan.tail } := by
  cases hplan : stream.readPlan with
  | nil =>
    simp only [read, take, hplan] at h
    cases h
    rw [List.tail_nil, ← hplan]
  | cons reply readPlan =>
    simp only [read, take, hplan] at h
    cases reply with
    | asUsual =>
      cases h
      rfl
    | number most =>
      cases h
      rfl
    | fails fault => cases h

/-- A read fails where the plan says so, and changes nothing but the plan. -/
theorem read_of_error {length : Nat} (h : read length stream = .error fault after) :
    stream.readPlan = .fails fault :: after.readPlan ∧
      after = { stream with readPlan := stream.readPlan.tail } := by
  cases hplan : stream.readPlan with
  | nil =>
    simp only [read, take, hplan] at h
    cases h
  | cons reply readPlan =>
    simp only [read, take, hplan] at h
    cases reply with
    | asUsual => cases h
    | number most => cases h
    | fails fault =>
      cases h
      exact ⟨rfl, rfl⟩

/-- A read that was made again moved the cursor behind the bytes that it brought in the end. -/
theorem readRetrying_of_ok {length retries : Nat} {bytes : Bytes}
    (h : device.readRetrying length retries stream = .ok bytes after) :
    after.cursor = stream.cursor + bytes.length ∧ after.seekPlan = stream.seekPlan := by
  induction retries generalizing stream with
  | zero =>
    rw [read_of_ok h]
    simp
  | succ retries ih =>
    simp only [Device.readRetrying] at h
    cases hread : device.read length stream with
    | ok first left =>
      simp only [hread] at h
      cases h
      rw [read_of_ok hread]
      simp
    | error fault left =>
      simp only [hread] at h
      split at h
      · rcases ih h with ⟨hcursor, hseekPlan⟩
        rw [hcursor, hseekPlan]
        rcases read_of_error hread with ⟨hplan, rfl⟩
        exact ⟨rfl, rfl⟩
      · cases h

/-- A read that is made again as often as the plan is long is not interrupted in the end. -/
theorem readRetrying_of_error {length retries : Nat} (hretries : stream.readPlan.length ≤ retries)
    (h : device.readRetrying length retries stream = .error fault after) :
    fault.isInterruption = false := by
  induction retries generalizing stream with
  | zero =>
    rcases read_of_error h with ⟨hplan, -⟩
    simp [hplan] at hretries
  | succ retries ih =>
    simp only [Device.readRetrying] at h
    cases hread : device.read length stream with
    | ok bytes left =>
      simp only [hread] at h
      cases h
    | error first left =>
      rcases read_of_error hread with ⟨hplan, -⟩
      simp only [hread] at h
      split at h
      · refine ih ?_ h
        simp only [hplan, List.length_cons] at hretries
        omega
      · rename_i hcalm
        cases h
        exact eq_false_of_ne_true hcalm

/-! ## Writing -/

/-- Bytes put one part behind the other are put as one. -/
theorem put_put (stream : Stream) (first second : Bytes) :
    (stream.put first).put second = stream.put (first ++ second) := by
  simp [put, Bytes.overlay_overlay, Nat.add_assoc]

@[simp]
theorem put_nil (stream : Stream) : stream.put [] = stream := by
  simp [put]

/-- What a write of some bytes may have come to: all of them were put where it answers, and less of
them, from the first on, where it fails.  The rest of the plan is left.  A write fails as one of its
calls did, but not by an interruption, or because a call accepted nothing. -/
def TookPrefix (stream : Stream) (plan : List Reply) (bytes : Bytes) :
    EStateM.Result Fault Stream Unit → Prop
  | .ok () after => ∃ writePlan, writePlan <:+ plan ∧ after = { stream.put bytes with writePlan }
  | .error fault after =>
    fault.isInterruption = false ∧ (fault = .plain .writeZero ∨ .fails fault ∈ plan) ∧
      ∃ taken writePlan, taken < bytes.length ∧ writePlan <:+ plan ∧
        after = { stream.put (bytes.take taken) with writePlan }

namespace TookPrefix

variable {plan : List Reply} {bytes : Bytes} {result : EStateM.Result Fault Stream Unit}

/-- What comes of the rest of the bytes comes of all of them, once a first part was put. -/
theorem of_put {first rest : Bytes} (h : (stream.put first).TookPrefix plan rest result) :
    stream.TookPrefix plan (first ++ rest) result := by
  cases result with
  | ok value after =>
    obtain ⟨writePlan, hplan, rfl⟩ := h
    exact ⟨writePlan, hplan, by rw [put_put]⟩
  | error fault after =>
    obtain ⟨hfinal, hcause, taken, writePlan, htaken, hplan, rfl⟩ := h
    refine ⟨hfinal, hcause, first.length + taken, writePlan, ?_, hplan, ?_⟩
    · simpa using htaken
    · rw [put_put, List.take_length_add_append]

/-- What comes of a plan comes of it behind another entry. -/
theorem cons (h : stream.TookPrefix plan bytes result) (reply : Reply) :
    stream.TookPrefix (reply :: plan) bytes result := by
  cases result with
  | ok value after =>
    obtain ⟨writePlan, hplan, hafter⟩ := h
    exact ⟨writePlan, hplan.trans (List.suffix_cons reply plan), hafter⟩
  | error fault after =>
    obtain ⟨hfinal, hcause, taken, writePlan, htaken, hplan, hafter⟩ := h
    exact ⟨hfinal, hcause.imp_right (List.mem_cons_of_mem reply), taken, writePlan, htaken,
      hplan.trans (List.suffix_cons reply plan), hafter⟩

end TookPrefix

/-- A write takes a prefix of its bytes, whatever its plan says. -/
theorem writeBy_tookPrefix (stream : Stream) (plan : List Reply) (bytes : Bytes) :
    stream.TookPrefix plan bytes (writeBy plan bytes stream) := by
  induction plan generalizing stream bytes with
  | nil =>
    cases bytes with
    | nil => exact ⟨[], List.suffix_rfl, by rw [put_nil]⟩
    | cons byte rest =>
      simp only [writeBy]
      by_cases hall : stream.accepted (byte :: rest).length = (byte :: rest).length
      · rw [if_pos hall, hall, List.take_length]
        exact ⟨[], List.suffix_rfl, rfl⟩
      · have haccepted : stream.accepted (byte :: rest).length ≤ (byte :: rest).length := by
          unfold accepted
          split <;> omega
        rw [if_neg hall]
        exact ⟨rfl, .inl rfl, _, [], Nat.lt_of_le_of_ne haccepted hall, List.suffix_rfl, rfl⟩
  | cons reply plan ih =>
    cases bytes with
    | nil => exact ⟨reply :: plan, List.suffix_rfl, by rw [put_nil]⟩
    | cons byte rest =>
      -- A call that fails at once took nothing.
      have hnothing : { stream with writePlan := plan } =
          { stream.put ((byte :: rest).take 0) with writePlan := plan } := by
        rw [List.take_zero, put_nil]
      -- A call that moves some bytes is followed by a write of the others.
      have hmoving : ∀ count : Nat, stream.TookPrefix (reply :: plan) (byte :: rest)
          (if count = 0 then .error (.plain .writeZero) { stream with writePlan := plan }
            else writeBy plan ((byte :: rest).drop count)
              (stream.put ((byte :: rest).take count))) := by
        intro count
        by_cases hnone : count = 0
        · rw [if_pos hnone]
          exact ⟨rfl, .inl rfl, 0, plan, Nat.succ_pos _, List.suffix_cons _ _, hnothing⟩
        · have hrest := (ih (stream.put ((byte :: rest).take count))
            ((byte :: rest).drop count)).of_put
          rw [List.take_append_drop] at hrest
          rw [if_neg hnone]
          exact hrest.cons reply
      cases reply with
      | asUsual => exact hmoving _
      | number most => exact hmoving _
      | fails fault =>
        simp only [writeBy]
        by_cases hagain : fault.isInterruption = true
        · rw [if_pos hagain]
          exact (ih stream (byte :: rest)).cons _
        · rw [if_neg hagain]
          exact ⟨eq_false_of_ne_true hagain, .inr List.mem_cons_self, 0, plan, Nat.succ_pos _,
            List.suffix_cons _ _, hnothing⟩

/-- Writing goes on after an interruption, so it never ends in one. -/
theorem writeBy_of_error {plan : List Reply} {bytes : Bytes}
    (h : writeBy plan bytes stream = .error fault after) : fault.isInterruption = false := by
  have htook := stream.writeBy_tookPrefix plan bytes
  rw [h] at htook
  exact htook.1

end FileWindow.Stream

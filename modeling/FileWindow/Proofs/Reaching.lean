import FileWindow.Proofs.Completion
import FileWindow.Proofs.Rows
import FileWindow.Stream

/-!
# The positions that a seek reaches

On a stream that no plan interferes with, a seek of an input and a seek of an output each follow one
rule.  The distance and its origin name a whole number; if that is a position that the resource
allows, the seek reaches it, and otherwise nothing is changed.  An input also makes no attempt to
move its device then, which is seen from a log of all that is asked of it.

Main definitions:

- Definitions RawRequest, Logged and Device.logged: a device with a log of what is asked of it.
- Definition Action.Decided: which values an action answers, and what it leaves in either case.
- Definition Reader.Reaches: the position that a seek of an input reaches.
- Definitions Writer.Reaches and Writer.sought: the same for an output, and its books behind it.

Main results:

- Theorem Window.seek_decided: a seek where asking for the cursor and moving it do not fail.
- Theorem Input.seek_reaches_goal: seeks of inputs.
- Theorem Output.seek_reaches_or_restores: seeks of outputs.
-/

namespace FileWindow

variable {ε ρ σ α : Type} {device : Device σ}

/-! ## Devices with a log -/

/-- What is asked of a device. -/
inductive RawRequest
  | seek (target : RawSeek)
  | size
  | read (length : Nat)
  | write (bytes : Bytes)
  | flush
  | close
  deriving DecidableEq, Repr

/-- A world with all that was asked of its device, the oldest first. -/
structure Logged (σ : Type) where
  world : σ
  log : List RawRequest

/-- A call that is put into the log, whether it answers or fails. -/
def Call.logged (request : RawRequest) (call : Call σ α) : Call (Logged σ) α := fun logged =>
  match call logged.world with
  | .ok value world => .ok value ⟨world, logged.log ++ [request]⟩
  | .error fault world => .error fault ⟨world, logged.log ++ [request]⟩

/-- The device with all that is asked of it put into the log. -/
def Device.logged (device : Device σ) : Device (Logged σ) where
  seek target := (device.seek target).logged (.seek target)
  size := device.size.logged .size
  read length := (device.read length).logged (.read length)
  write bytes := (device.write bytes).logged (.write bytes)
  flush := device.flush.logged .flush
  close := device.close.logged .close
  isStandardOutput := device.isStandardOutput
  retries logged := device.retries logged.world
  patience logged := device.patience logged.world

/-- A logged seek lands where the seek lands. -/
theorem Device.logged_seek_of_ok {target : RawSeek} {world after : σ} {landed : Nat}
    (h : device.seek target world = .ok landed after) (log : List RawRequest) :
    device.logged.seek target ⟨world, log⟩ = .ok landed ⟨after, log ++ [.seek target]⟩ := by
  simp only [logged, Call.logged, h]

/-- What a seek asks of its device before it moves it: where the cursor stands, if that counts. -/
def inquiry (distance : Int) (whence : Whence) : List RawRequest :=
  if whence = .current ∧ plausibleDistance distance = true then [.seek (.current 0)] else []

/-! ## Which values are answered -/

/-- The result is an answer exactly for the values of some sort, and what is left behind is as it
should be where it is an answer and where it is none. -/
structure Action.Decided (answers : α → Prop) (lands : α → Frame ρ σ → Prop)
    (stops : Stop ε → Frame ρ σ → Prop) (result : EStateM.Result (Stop ε) (Frame ρ σ) α) :
    Prop where
  answered_iff : ∀ value, (∃ after, result = .ok value after) ↔ answers value
  of_answer : ∀ value after, result = .ok value after → lands value after
  of_stop : ∀ stop after, result = .error stop after → stops stop after

namespace Action.Decided

variable {answers : α → Prop} {lands : α → Frame ρ σ → Prop} {stops : Stop ε → Frame ρ σ → Prop}
  {after : Frame ρ σ}

/-- An answer is decided if it is the only value of the sort. -/
theorem of_ok {value : α} (honly : ∀ other, answers other ↔ other = value)
    (hlands : lands value after) : Decided answers lands stops (.ok value after) where
  answered_iff other := by
    rw [honly]
    constructor
    · rintro ⟨_, hother⟩
      cases hother
      rfl
    · rintro rfl
      exact ⟨after, rfl⟩
  of_answer := by
    rintro _ _ ⟨⟩
    exact hlands
  of_stop := by
    rintro _ _ ⟨⟩

/-- A stop is decided if there is no value of the sort. -/
theorem of_error {stop : Stop ε} (hnone : ∀ value, ¬answers value) (hstops : stops stop after) :
    Decided answers lands stops (.error stop after) where
  answered_iff value := by
    simp [hnone value]
  of_answer := by
    rintro _ _ ⟨⟩
  of_stop := by
    rintro _ _ ⟨⟩
    exact hstops

/-- Less may be asked of what is left behind. -/
theorem imp {lands' : α → Frame ρ σ → Prop} {stops' : Stop ε → Frame ρ σ → Prop}
    {result : EStateM.Result (Stop ε) (Frame ρ σ) α} (h : Decided answers lands stops result)
    (hlands : ∀ value after, answers value → lands value after → lands' value after)
    (hstops : ∀ stop after, stops stop after → stops' stop after) :
    Decided answers lands' stops' result where
  answered_iff := h.answered_iff
  of_answer value after hresult :=
    hlands value after ((h.answered_iff value).mp ⟨after, hresult⟩)
      (h.of_answer value after hresult)
  of_stop stop after hresult := hstops stop after (h.of_stop stop after hresult)

/-- An action that puts another book in place once it has its answer is decided as before. -/
theorem setBook {action : Action ε ρ σ α} {frame : Frame ρ σ} (book : ρ)
    (h : Decided answers (fun value after => lands value { after with book }) stops
      (action frame)) :
    Decided answers lands stops
      ((do let value ← action; Action.setBook book; return value) frame) := by
  cases hresult : action frame with
  | ok value after =>
    rw [bind_of_ok hresult]
    refine of_ok (fun other => ?_) (h.of_answer value after hresult)
    rw [← h.answered_iff, hresult]
    simp [eq_comm]
  | error stop after =>
    rw [bind_of_error hresult]
    refine of_error (fun value => ?_) (h.of_stop stop after hresult)
    rw [← h.answered_iff, hresult]
    simp

end Action.Decided

open FileWindow.Action (Decided)

/-! ## Seeks of a window -/

namespace Window

variable {window : Window} {distance : Int} {whence : Whence} {limit : Option Nat}
  {frame : Frame ρ σ} {cursor : Nat} {asked : σ}

/-- Where the device tells its cursor, a seek knows it as far as it counts. -/
theorem cursorFor_of_position (window : Window) (distance : Int) (whence : Whence)
    (hposition : device.position frame.world = .ok cursor asked) :
    ∃ told, window.cursorFor device distance whence frame = .ok told { frame with
        world := if whence = .current ∧ plausibleDistance distance = true then asked
          else frame.world } ∧
      (whence = .current → plausibleDistance distance = true → told = cursor) := by
  unfold cursorFor
  by_cases hcounts : whence = .current ∧ plausibleDistance distance = true
  · rw [if_pos hcounts, if_pos hcounts]
    exact ⟨cursor, Action.call_of_ok _ _ hposition, fun _ _ => rfl⟩
  · rw [if_neg hcounts, if_neg hcounts]
    exact ⟨0, rfl, fun hcurrent hlikely => absurd ⟨hcurrent, hlikely⟩ hcounts⟩

/-- Where the device tells its cursor and takes every position, a seek is decided by its checks.  A
refused seek does not move the device. -/
theorem seek_decided {reaches : Nat → Prop} {moved : Nat → σ}
    (hposition : device.position frame.world = .ok cursor asked)
    (hseek : ∀ raw < positionLimit, device.seek (.start raw)
      (if whence = .current ∧ plausibleDistance distance = true then asked else frame.world) =
        .ok raw (moved raw))
    (hreaches : ∀ raw, window.extent.destination distance whence cursor limit = .ok raw ↔
      ∃ position, reaches position ∧ raw = window.extent.offset + position) :
    Decided reaches
      (fun position after => after = ⟨frame.book, moved (window.extent.offset + position),
        .sought window.name distance whence (window.extent.offset + position) :: frame.journal⟩)
      (fun stop after => (∃ reason, stop = .failed (.refused window.name reason)) ∧
        after = { frame with
          world := if whence = .current ∧ plausibleDistance distance = true then asked
            else frame.world })
      (window.seek device distance whence limit frame) := by
  obtain ⟨told, hcursor, htold⟩ := cursorFor_of_position window distance whence hposition
  have hsame : window.extent.destination distance whence told limit =
      window.extent.destination distance whence cursor limit :=
    Extent.destination_congr limit htold
  cases hdestination : window.extent.destination distance whence cursor limit with
  | error reason =>
    rw [seek_of_destination_error hcursor (hsame.trans hdestination)]
    refine .of_error (fun position hposition => ?_) ⟨⟨reason, rfl⟩, rfl⟩
    have hok := (hreaches _).mpr ⟨position, hposition, rfl⟩
    rw [hdestination] at hok
    cases hok
  | ok raw =>
    obtain ⟨position, hposition, rfl⟩ := (hreaches raw).mp hdestination
    obtain ⟨-, -, -, -, hlimit, -⟩ := Extent.destination_eq_ok_iff.mp hdestination
    rw [seek_of_destination_ok hcursor (hsame.trans hdestination) (hseek _ hlimit),
      Nat.add_sub_cancel_left]
    refine .of_ok (fun other => ⟨fun hother => ?_, ?_⟩) rfl
    · have hraw := (hreaches _).mpr ⟨other, hother, rfl⟩
      rw [hdestination, Except.ok.injEq, Nat.add_left_cancel_iff] at hraw
      exact hraw.symm
    · rintro rfl
      exact hposition

/-- Where the device tells its cursor, and that is in or behind the extent, the position is told. -/
theorem tell_of_position {position : Nat}
    (hposition : device.position frame.world = .ok (window.extent.offset + position) asked) :
    window.tell device frame = .ok position { frame with world := asked } := by
  rw [tell_apply, hposition]
  dsimp only
  rw [logical_of_le (Nat.le_add_right _ _), Nat.add_sub_cancel_left]
  rfl

end Window

/-- A distance is plausible if its magnitude is within the bound on transfers. -/
theorem plausibleDistance_iff {distance : Int} :
    plausibleDistance distance = true ↔ distance.natAbs ≤ maxTransfer := by
  simp [plausibleDistance, validLength]

/-! ## Inputs -/

/-- The position that a seek of an input reaches: its goal, where the distance is plausible, the
goal is in the extent or at its end, and there is a raw position for it. -/
def Reader.Reaches (reader : Reader) (cursor : Nat) (distance : Int) (whence : Whence)
    (position : Nat) : Prop :=
  distance.natAbs ≤ maxTransfer ∧
    (position : Int) = reader.window.extent.goal distance whence cursor ∧
    position ≤ reader.window.extent.length ∧
    reader.window.extent.offset + position < positionLimit

/-- The checks of a seek of an input let through what is reached. -/
theorem Reader.destination_eq_ok_iff {reader : Reader} {cursor raw : Nat} {distance : Int}
    {whence : Whence} :
    reader.window.extent.destination distance whence cursor (some reader.window.extent.length) =
        .ok raw ↔
      ∃ position, reader.Reaches cursor distance whence position ∧
        raw = reader.window.extent.offset + position := by
  simp only [Extent.destination_eq_ok_iff, plausibleDistance_iff, Option.mem_some_iff,
    forall_eq', Reaches]
  constructor
  · rintro ⟨hlikely, -, hgoal, hraw, hlimit, hbound⟩
    exact ⟨raw - reader.window.extent.offset, ⟨hlikely, by omega, by omega, by omega⟩, by omega⟩
  · rintro ⟨position, ⟨hlikely, hgoal, hbound, hlimit⟩, rfl⟩
    refine ⟨hlikely, ?_, by omega, by omega, hlimit, by omega⟩
    rintro rfl
    simp only [Extent.goal] at hgoal
    omega

/-- Asking a logged stream for its cursor answers it. -/
theorem Stream.position_logged (data : Bytes) {cursor : Nat} (h : cursor < positionLimit)
    (log : List RawRequest) :
    Stream.device.logged.position ⟨.plain data cursor, log⟩ =
      .ok cursor ⟨.plain data cursor, log ++ [.seek (.current 0)]⟩ :=
  Device.logged_seek_of_ok (position_plain data h) log

/-- A seek of an input over a stream that no plan interferes with answers the position that it
reaches, if there is one.  The raw cursor is then at that position of the extent, the position is
told, and the data and what the input knows of itself are as before.  Otherwise the seek is refused,
without an error number; nothing is changed, and of the device nothing was asked but, for a seek
from the current position, where its cursor stands. -/
theorem Input.seek_reaches_goal (reader : Reader) (data : Bytes) {cursor : Nat}
    (hcursor : cursor < positionLimit) (distance : Int) (whence : Whence) (log : List RawRequest)
    (journal : Journal) :
    Decided (reader.Reaches cursor distance whence)
      (fun position after =>
        after.book = .opened reader ∧
        after.world = ⟨.plain data (reader.window.extent.offset + position),
          log ++ inquiry distance whence ++
            [.seek (.start (reader.window.extent.offset + position))]⟩ ∧
        ∃ told, tell Stream.device.logged after = .ok position told)
      (fun stop after =>
        (∃ reason, stop = .failed (.refused reader.window.name reason)) ∧
        after = ⟨.opened reader, ⟨.plain data cursor, log ++ inquiry distance whence⟩, journal⟩)
      (seek Stream.device.logged distance whence
        ⟨.opened reader, ⟨.plain data cursor, log⟩, journal⟩) := by
  have hinquired : (if whence = .current ∧ plausibleDistance distance = true then
      ⟨.plain data cursor, log ++ [.seek (.current 0)]⟩ else ⟨.plain data cursor, log⟩) =
        (⟨.plain data cursor, log ++ inquiry distance whence⟩ : Logged Stream) := by
    unfold inquiry
    split
    · rfl
    · rw [List.append_nil]
  have hmoves : ∀ raw < positionLimit,
      Stream.device.logged.seek (.start raw) ⟨.plain data cursor, log ++ inquiry distance whence⟩ =
        .ok raw ⟨.plain data raw, log ++ inquiry distance whence ++ [.seek (.start raw)]⟩ :=
    fun raw hraw => Device.logged_seek_of_ok (Stream.device_seek_plain data cursor hraw) _
  rw [← hinquired] at hmoves
  rw [seek, reader_bind]
  apply (Window.seek_decided (Stream.position_logged data hcursor log) hmoves
    fun _ => Reader.destination_eq_ok_iff).imp
  · rintro position after ⟨-, -, -, hlimit⟩ rfl
    exact ⟨rfl, rfl, _, Window.tell_of_position (Stream.position_logged data hlimit _)⟩
  · rintro stop after ⟨hreason, rfl⟩
    exact ⟨hreason, by rw [← hinquired]⟩

/-- Five bytes behind two others, with the cursor before them.  From there a seek forward gets into
the extent. -/
theorem Input.seek_reaches_goal_from_before_extent :
    1 < positionLimit ∧
      Decided ((Reader.mk ⟨"in", ⟨2, 5⟩⟩ 7).Reaches 1 4 .current)
        (fun position after =>
          after.book = .opened ⟨⟨"in", ⟨2, 5⟩⟩, 7⟩ ∧
          after.world = ⟨.plain [1, 2, 3, 4, 5, 6, 7] (2 + position),
            [] ++ inquiry 4 .current ++ [.seek (.start (2 + position))]⟩ ∧
          ∃ told, tell Stream.device.logged after = .ok position told)
        (fun stop after =>
          (∃ reason, stop = .failed (.refused "in" reason)) ∧
          after = ⟨.opened ⟨⟨"in", ⟨2, 5⟩⟩, 7⟩,
            ⟨.plain [1, 2, 3, 4, 5, 6, 7] 1, [] ++ inquiry 4 .current⟩, []⟩)
        (seek Stream.device.logged 4 .current
          ⟨.opened ⟨⟨"in", ⟨2, 5⟩⟩, 7⟩, ⟨.plain [1, 2, 3, 4, 5, 6, 7] 1, []⟩, []⟩) ∧
      (Reader.mk ⟨"in", ⟨2, 5⟩⟩ 7).Reaches 1 4 .current 3 :=
  ⟨by decide,
    seek_reaches_goal ⟨⟨"in", ⟨2, 5⟩⟩, 7⟩ [1, 2, 3, 4, 5, 6, 7] (by decide) 4 .current [] [],
    by decide, by decide, by decide, by decide⟩

/-! ## Outputs -/

namespace Writer

/-- The position that a seek of an output reaches, where the distance is plausible and there is a
raw position for it.  The extent is no bound, and a seek from the end is measured from the count. -/
def Reaches (writer : Writer) (cursor : Nat) (distance : Int) (whence : Whence) (position : Nat) :
    Prop :=
  distance.natAbs ≤ maxTransfer ∧
    match whence with
    | .start =>
      (position : Int) = distance ∧ writer.window.extent.offset + distance < positionLimit
    | .finish =>
      distance ≤ 0 ∧ (position : Int) = writer.written + distance ∧
        writer.window.extent.offset + position < positionLimit
    | .current =>
      (position : Int) = cursor + distance - writer.window.extent.offset ∧
        cursor + distance < positionLimit

/-- The length of the extent and the count, once a seek reached a position. -/
def sought (writer : Writer) (position : Nat) : Whence → Nat × Nat
  | .start => (max writer.written position, max writer.written position)
  | .finish => (writer.written, writer.written)
  | .current => (writer.window.extent.length, writer.written)

variable {writer : Writer} {cursor position : Nat} {distance : Int} {whence : Whence}

@[simp]
theorem name_aim (writer : Writer) (distance : Int) (whence : Whence) :
    (writer.aim distance whence).window.name = writer.window.name := by
  cases whence <;> rfl

@[simp]
theorem offset_aim (writer : Writer) (distance : Int) (whence : Whence) :
    (writer.aim distance whence).window.extent.offset = writer.window.extent.offset := by
  cases whence <;> rfl

/-- The goal of a seek in the books that it calls for is measured from the count, where it goes from
the end. -/
theorem goal_aim (writer : Writer) (cursor : Nat) (distance : Int) (whence : Whence) :
    (writer.aim distance whence).window.extent.goal distance whence cursor =
      match whence with
      | .start => distance
      | .finish => writer.written + distance
      | .current => cursor - writer.window.extent.offset + distance := by
  cases whence <;> rfl

/-- With the books that a seek of an output calls for, the checks let through what is reached. -/
theorem destination_aim_eq_ok_iff {raw : Nat} :
    (writer.aim distance whence).window.extent.destination distance whence cursor none = .ok raw ↔
      ∃ position, writer.Reaches cursor distance whence position ∧
        raw = (writer.aim distance whence).window.extent.offset + position := by
  simp only [Extent.destination_eq_ok_iff, plausibleDistance_iff, offset_aim, goal_aim, Reaches,
    Option.not_mem_none, false_implies, implies_true, and_true]
  constructor
  · rintro ⟨hlikely, hback, hgoal, hraw, hlimit⟩
    refine ⟨raw - writer.window.extent.offset, ⟨hlikely, ?_⟩, by omega⟩
    cases whence with
    | finish =>
      have hnegative := hback rfl
      simp only at hgoal hraw ⊢
      omega
    | start | current =>
      simp only at hgoal hraw ⊢
      omega
  · rintro ⟨position, ⟨hlikely, hreaches⟩, rfl⟩
    cases whence with
    | finish =>
      simp only at hreaches ⊢
      omega
    | start | current =>
      simp only [reduceCtorEq, false_implies, true_and] at hreaches ⊢
      omega

/-- The books that a seek calls for, once it reached a position. -/
theorem aim_of_reaches (hreaches : writer.Reaches cursor distance whence position) :
    writer.aim distance whence =
      ⟨⟨writer.window.name, ⟨writer.window.extent.offset, (writer.sought position whence).1⟩⟩,
        (writer.sought position whence).2⟩ := by
  cases whence with
  | start =>
    obtain ⟨-, hposition, -⟩ := hreaches
    simp only [aim, sought, withLength, ← hposition, Int.toNat_natCast]
  | finish | current => rfl

end Writer

/-- A seek of an output over a stream that no plan interferes with answers the position that it
reaches, if there is one.  The raw cursor is then at that position of the extent, the position is
told, the data are as before, and the extent and the count are as the origin of the seek asks for.
Otherwise the seek is refused and nothing at all is changed. -/
theorem Output.seek_reaches_or_restores (writer : Writer) (data : Bytes) {cursor : Nat}
    (hcursor : cursor < positionLimit) (distance : Int) (whence : Whence) (journal : Journal) :
    Decided (writer.Reaches cursor distance whence)
      (fun position after =>
        after.book = .opened
          ⟨⟨writer.window.name, ⟨writer.window.extent.offset, (writer.sought position whence).1⟩⟩,
            (writer.sought position whence).2⟩ ∧
        after.world = .plain data (writer.window.extent.offset + position) ∧
        ∃ told, tell Stream.device after = .ok position told)
      (fun stop after =>
        (∃ reason, stop = .failed (.refused writer.window.name reason)) ∧
        after = ⟨.opened writer, .plain data cursor, journal⟩)
      (seek Stream.device distance whence ⟨.opened writer, .plain data cursor, journal⟩) := by
  have hstays : (if whence = .current ∧ plausibleDistance distance = true then
      .plain data cursor else .plain data cursor : Stream) = .plain data cursor := ite_self _
  rw [seek, writer_bind]
  apply Decided.setBook
  apply (Window.seek_decided (Stream.position_plain data hcursor)
    (fun raw hraw => hstays.symm ▸ Stream.device_seek_plain data cursor hraw)
    fun _ => Writer.destination_aim_eq_ok_iff).imp
  · rintro position after hreaches rfl
    have hlimit : writer.window.extent.offset + position < positionLimit := by
      obtain ⟨-, hreaches⟩ := hreaches
      cases whence <;> simp only at hreaches <;> omega
    rw [Writer.aim_of_reaches hreaches]
    exact ⟨rfl, rfl, _, Window.tell_of_position (Stream.position_plain data hlimit)⟩
  · rintro stop after ⟨⟨reason, rfl⟩, rfl⟩
    rw [Writer.name_aim, ite_self]
    exact ⟨⟨reason, rfl⟩, rfl⟩

/-- Three bytes were counted behind two others, of an extent of five.  A seek to one before the end
is measured from the count, and cuts the extent off there. -/
theorem Output.seek_reaches_or_restores_from_count :
    6 < positionLimit ∧
      Decided ((Writer.mk ⟨"out", ⟨2, 5⟩⟩ 3).Reaches 6 (-1) .finish)
        (fun position after =>
          after.book = .opened ⟨⟨"out", ⟨2, 3⟩⟩, 3⟩ ∧
          after.world = .plain [1, 2, 3, 4, 5, 6, 7] (2 + position) ∧
          ∃ told, tell Stream.device after = .ok position told)
        (fun stop after =>
          (∃ reason, stop = .failed (.refused "out" reason)) ∧
          after = ⟨.opened ⟨⟨"out", ⟨2, 5⟩⟩, 3⟩, .plain [1, 2, 3, 4, 5, 6, 7] 6, []⟩)
        (seek Stream.device (-1) .finish
          ⟨.opened ⟨⟨"out", ⟨2, 5⟩⟩, 3⟩, .plain [1, 2, 3, 4, 5, 6, 7] 6, []⟩) ∧
      (Writer.mk ⟨"out", ⟨2, 5⟩⟩ 3).Reaches 6 (-1) .finish 2 :=
  ⟨by decide,
    seek_reaches_or_restores ⟨⟨"out", ⟨2, 5⟩⟩, 3⟩ [1, 2, 3, 4, 5, 6, 7] (by decide) (-1) .finish [],
    by decide, by decide, by decide, by decide⟩

end FileWindow

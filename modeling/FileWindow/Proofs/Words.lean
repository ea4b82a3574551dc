import FileWindow.Proofs.Bookkeeping
import FileWindow.Proofs.Twins

/-!
# Numbers that are words

A word holds the numbers below a limit.  A device tells nothing but words, and what is computed
from them is checked: a sum or a difference that no word holds is refused.  Only a count may leave
the range, and an action in which it does so halts.  This file says what it means that a result
stays within words, and how that is put together from the parts of an action.

Main definitions:

- Definition Device.TellsWords: a device that tells nothing but words.
- Definitions Extent.Fits, ExtentLength.Fits and Value.Fits: what is made of words.
- Definition Action.InWords: a result that stays within words, but for a count that leaves them.

Main results:

- Theorem Action.InWords.bind: a result stays within words if those of its parts do.
- Theorem Extent.destination_lt: a seek that is let through leads to the exact sum, and that is a
  word.
- Theorems Window.seek_inWords, tell_inWords, narrow_inWords and widen_inWords: windows.
- Theorems Transfer.fill_inWords and collect_inWords: loops that read.
-/

namespace FileWindow

variable {ε ε' ρ σ α β : Type}

/-! ## Words -/

theorem positionLimit_pos : 0 < positionLimit := by decide

/-- As many bytes as one operation accepts are counted in a word. -/
theorem maxTransfer_lt_positionLimit : maxTransfer < positionLimit := by decide

/-- In worlds of this sort a device tells positions and sizes that are words, and no call of it
leads out of them. -/
structure Device.TellsWords (device : Device σ) (holds : σ → Prop) : Prop
    extends device.Keeps holds where
  close : Call.Leads holds holds device.close
  seek_lt : ∀ {target world landed after}, holds world →
    device.seek target world = .ok landed after → landed < positionLimit
  size_lt : ∀ {world size after}, holds world →
    device.size world = .ok (some size) after → size < positionLimit

/-- A size that was measured is a word. -/
theorem Device.TellsWords.measured_lt {device : Device σ} {holds : σ → Prop}
    (hdevice : device.TellsWords holds) {world : σ}
    (hworld : holds world) {size : Nat} (h : device.measured world = some size) :
    size < positionLimit := by
  rw [measured] at h
  cases hsize : device.size world with
  | error fault after =>
    rw [hsize] at h
    cases h
  | ok told after =>
    rw [hsize] at h
    obtain rfl : told = some size := h
    exact hdevice.size_lt hworld hsize

/-- Where it starts and how long it is are words. -/
structure Extent.Fits (extent : Extent) : Prop where
  offset : extent.offset < positionLimit
  length : extent.length < positionLimit

/-- A length that is given is a word. -/
def ExtentLength.Fits : ExtentLength → Prop
  | .bytes length => length < positionLimit
  | .rest => True

/-- A number that is answered is a word. -/
def Value.Fits : Value → Prop
  | .number amount => amount < positionLimit
  | _ => True

/-- A seek that is let through leads to the sum of the offset and the goal, which is a word. -/
theorem Extent.destination_lt {extent : Extent} {distance : Int} {whence : Whence}
    {cursor raw : Nat} {limit : Option Nat}
    (h : extent.destination distance whence cursor limit = .ok raw) :
    distance.natAbs ≤ maxTransfer ∧ raw < positionLimit ∧
      (raw : Int) = extent.offset + extent.goal distance whence cursor := by
  obtain ⟨hlikely, -, -, hraw, hlimit, -⟩ := destination_eq_ok_iff.mp h
  exact ⟨of_decide_eq_true hlikely, hlimit, hraw⟩

/-! ## Results -/

namespace Action

/-- The result stays within words: an answer is told so, the frame that an answer or a failure
leaves is of some sort, and a count leaves the range only where it may.  Nothing is asked of a loop
that ran out of rounds. -/
def InWords (told : α → Prop) (holds : Frame ρ σ → Prop) (overflows : Prop) :
    EStateM.Result (Stop ε) (Frame ρ σ) α → Prop
  | .ok value after => told value ∧ holds after
  | .error (.failed _) after => holds after
  | .error .overflow _ => overflows
  | .error .stalled _ => True

/-- The book is made of words, and the world is of some sort. -/
def Fitting (fits : ρ → Prop) (holds : σ → Prop) (frame : Frame ρ σ) : Prop :=
  fits frame.book ∧ holds frame.world

namespace InWords

variable {told first : α → Prop} {holds : Frame ρ σ → Prop} {overflows : Prop}
  {action : Action ε ρ σ α} {frame : Frame ρ σ}

/-- An answer is told in words, and the frame it leaves is of the sort. -/
theorem of_ok {value : α} {after : Frame ρ σ} (h : InWords told holds overflows (action frame))
    (hresult : action frame = .ok value after) : told value ∧ holds after := by
  rw [hresult] at h
  exact h

/-- A count that left the range was one that may. -/
theorem of_isOverflow {result : EStateM.Result (Stop ε) (Frame ρ σ) α}
    (h : InWords told holds overflows result) (hoverflow : isOverflow result = true) :
    overflows := by
  cases result with
  | ok value after => cases hoverflow
  | error stop after =>
    cases stop with
    | overflow => exact h
    | failed | stalled => cases hoverflow

/-- More answers may be told, and a count may leave the range in more cases. -/
theorem imp {told' : α → Prop} {overflows' : Prop}
    {result : EStateM.Result (Stop ε) (Frame ρ σ) α} (h : InWords told holds overflows result)
    (htold : ∀ value, told value → told' value) (hoverflows : overflows → overflows') :
    InWords told' holds overflows' result := by
  cases result with
  | ok value after => exact ⟨htold _ h.1, h.2⟩
  | error stop after =>
    cases stop with
    | failed error => exact h
    | overflow => exact hoverflows h
    | stalled => trivial

/-- The result of an action stays within words if that of its first part does, and that of what
comes behind. -/
theorem bind {next : α → Action ε ρ σ β} {told : β → Prop}
    (h : InWords first holds overflows (action frame))
    (hnext : ∀ value after, action frame = .ok value after → first value → holds after →
      InWords told holds overflows (next value after)) :
    InWords told holds overflows ((action >>= next) frame) := by
  simp only [Bind.bind, EStateM.bind]
  cases hresult : action frame with
  | ok value after =>
    rw [hresult] at h
    exact hnext value after hresult h.1 h.2
  | error stop after =>
    rw [hresult] at h
    cases stop <;> exact h

theorem map {make : α → β} {told : β → Prop}
    (h : InWords (fun value => told (make value)) holds overflows (action frame)) :
    InWords told holds overflows ((make <$> action) frame) := by
  simp only [Functor.map, EStateM.map]
  cases hresult : action frame with
  | ok value after =>
    rw [hresult] at h
    exact h
  | error stop after =>
    rw [hresult] at h
    cases stop <;> exact h

theorem mapError {tell : ε → ε'} (h : InWords told holds overflows (action frame)) :
    InWords told holds overflows (action.mapError tell frame) := by
  simp only [Action.mapError]
  cases hresult : action frame with
  | ok value after =>
    rw [hresult] at h
    exact h
  | error stop after =>
    rw [hresult] at h
    cases stop <;> exact h

/-- An operation stays within words if its action does. -/
theorem native {action : Action FileError ρ σ α} {value : α → Value}
    (h : InWords (fun answer => (value answer).Fits) holds overflows (action frame)) :
    InWords Value.Fits holds overflows (Action.native value action frame) :=
  h.mapError.map

theorem foreign {action : Action Fault ρ σ α} {value : α → Value}
    (h : InWords (fun answer => (value answer).Fits) holds overflows (action frame)) :
    InWords Value.Fits holds overflows (Action.foreign value action frame) :=
  h.mapError.map

/-- A failure that is looked at is told in words. -/
theorem observe (h : InWords told holds overflows (action frame)) :
    InWords (fun outcome => ∀ value, outcome = .ok value → told value) holds overflows
      ((Action.observe action : Action ε' ρ σ (Except ε α)) frame) := by
  simp only [Action.observe]
  cases hresult : action frame with
  | ok value after =>
    rw [hresult] at h
    exact ⟨fun value' hvalue => by cases hvalue; exact h.1, h.2⟩
  | error stop after =>
    rw [hresult] at h
    cases stop with
    | failed error => exact ⟨fun value hvalue => (by cases hvalue), h⟩
    | overflow => exact h
    | stalled => trivial

/-- A call within an action stays within words if the device answers in words. -/
theorem call {fits : ρ → Prop} {holds : σ → Prop} {request : Call σ α}
    (h : Call.Leads holds holds request) (name : String) (trying : Attempt)
    (htold : ∀ value after, request frame.world = .ok value after → told value)
    (hframe : Fitting fits holds frame) :
    InWords told (Fitting fits holds) overflows (Action.call name trying request frame) := by
  cases hresult : request frame.world with
  | ok value world =>
    rw [call_of_ok name trying hresult]
    exact ⟨htold value world hresult, hframe.1, h.of_ok hframe.2 hresult⟩
  | error fault world =>
    rw [call_of_error name trying hresult]
    exact ⟨hframe.1, h.of_error hframe.2 hresult⟩

theorem accept {check : Except Refusal α} (name : String)
    (htold : ∀ value, check = .ok value → told value) (hframe : holds frame) :
    InWords told holds overflows (Action.accept name check frame) := by
  cases check with
  | ok value => exact ⟨htold value rfl, hframe⟩
  | error reason => exact hframe

theorem ofExcept {result : Except ε α} (htold : ∀ value, result = .ok value → told value)
    (hframe : holds frame) : InWords told holds overflows (Action.ofExcept result frame) := by
  cases result with
  | ok value => exact ⟨htold value rfl, hframe⟩
  | error error => exact hframe

end InWords

end Action

open FileWindow.Action (Fitting InWords)

/-! ## Windows -/

namespace Window

variable {device : Device σ} {holds : σ → Prop} {fits : ρ → Prop} {overflows : Prop}
  {frame : Frame ρ σ}

/-- A position that is told is a word. -/
theorem tell_inWords (hdevice : device.TellsWords holds) (window : Window)
    (hframe : Fitting fits holds frame) :
    InWords (· < positionLimit) (Fitting fits holds) overflows (window.tell device frame) := by
  have hcall : InWords (· < positionLimit) (Fitting fits holds) overflows
      (Action.call window.name .tell device.position frame) :=
    .call (hdevice.seek _) _ _ (fun _ _ h => hdevice.seek_lt hframe.2 h) hframe
  refine hcall.bind fun raw after _ hraw hafter => .accept _ (fun position hposition => ?_) hafter
  have hsum := Extent.logical_eq_ok_iff.mp hposition
  omega

/-- A seek that answers was asked for a plausible distance, and its answer is a word. -/
theorem seek_inWords (hdevice : device.TellsWords holds) (window : Window) (distance : Int)
    (whence : Whence) (limit : Option Nat) (hframe : Fitting fits holds frame) :
    InWords (fun position => position < positionLimit ∧ distance.natAbs ≤ maxTransfer)
      (Fitting fits holds) overflows (window.seek device distance whence limit frame) := by
  rw [seek_eq]
  have hcursor : InWords (fun _ => True) (Fitting fits holds) overflows
      (window.cursorFor device distance whence frame) := by
    unfold cursorFor
    split
    · exact .call (hdevice.seek _) _ _ (fun _ _ _ => trivial) hframe
    · exact ⟨trivial, hframe⟩
  refine hcursor.bind fun cursor asked _ _ hasked => ?_
  have hraw : InWords (fun _ => distance.natAbs ≤ maxTransfer) (Fitting fits holds) overflows
      (Action.accept window.name (window.extent.destination distance whence cursor limit) asked) :=
    .accept _ (fun _ hdestination => (Extent.destination_lt hdestination).1) hasked
  refine hraw.bind fun raw accepted _ hdistance haccepted => ?_
  have hmove : InWords (· < positionLimit) (Fitting fits holds) overflows
      (Action.call window.name .seek (device.seek (.start raw)) accepted) :=
    .call (hdevice.seek _) _ _ (fun _ _ h => hdevice.seek_lt haccepted.2 h) haccepted
  refine hmove.bind fun landed moved _ hlanded hmoved => ?_
  refine InWords.accept _ (fun position hposition => ?_) hmoved
  have hsum := Extent.logical_eq_ok_iff.mp hposition
  exact ⟨by omega, hdistance⟩

/-- A size that is told is a word. -/
theorem rawSize_inWords (hdevice : device.TellsWords holds) (window : Window)
    (hframe : Fitting fits holds frame) :
    InWords (fun measured => ∀ size ∈ measured, size < positionLimit) (Fitting fits holds) overflows
      (window.rawSize device frame) := by
  refine .call hdevice.size _ _ (fun measured after hmeasured size hsize => ?_) hframe
  obtain rfl : measured = some size := hsize
  exact hdevice.size_lt hframe.2 hmeasured

/-- The rest behind an offset is a word, since the size is one. -/
theorem lengthAt_inWords (hdevice : device.TellsWords holds) (window : Window) (offset : Nat)
    {length : ExtentLength} (hlength : length.Fits) (hframe : Fitting fits holds frame) :
    InWords (· < positionLimit) (Fitting fits holds) overflows
      (window.lengthAt device offset length frame) := by
  cases length with
  | bytes length => exact ⟨hlength, hframe⟩
  | rest =>
    have hsize : InWords (· < positionLimit) (Fitting fits holds) overflows
        (window.requiredSize device frame) := by
      refine (rawSize_inWords hdevice window hframe).bind ?_
      intro measured after _ hmeasured hafter
      cases measured with
      | none => exact hafter
      | some size => exact ⟨hmeasured size rfl, hafter⟩
    refine hsize.bind fun size after _ hlt hafter => .accept _ (fun rest hrest => ?_) hafter
    have hsum := Extent.rest_eq_ok_iff.mp hrest
    omega

/-- The extent of a narrowed window is made of words. -/
theorem narrow_inWords (hdevice : device.TellsWords holds) (window : Window) {offset : Nat}
    {length : ExtentLength} (hoffset : offset < positionLimit) (hlength : length.Fits)
    (hframe : Fitting fits holds frame) :
    InWords (fun narrowed => narrowed.extent.Fits) (Fitting fits holds) overflows
      (window.narrow device offset length frame) :=
  (lengthAt_inWords hdevice window offset hlength hframe).bind fun _ _ _ hrest hafter =>
    ⟨⟨hoffset, hrest⟩, hafter⟩

/-- So is that of a widened one. -/
theorem widen_inWords (hdevice : device.TellsWords holds) (window : Window)
    (hframe : Fitting fits holds frame) :
    InWords (fun widened => widened.extent.Fits) (Fitting fits holds) overflows
      (window.widen device frame) := by
  have hcall : InWords (· < positionLimit) (Fitting fits holds) overflows
      (Action.call window.name .seek (device.seek (.finish 0)) frame) :=
    .call (hdevice.seek _) _ _ (fun _ _ h => hdevice.seek_lt hframe.2 h) hframe
  exact hcall.bind fun size after _ hsize hafter => ⟨⟨Nat.zero_lt_of_lt hsize, hsize⟩, hafter⟩

end Window

/-! ## Teardown -/

/-- Closing once the result of some work is known answers what the work did. -/
theorem Teardown.closeAfter_inWords {close : Action FileError ρ σ Unit} {told : α → Prop}
    {holds : Frame ρ σ → Prop} {overflows : Prop} {frame : Frame ρ σ}
    (hjournal : ∀ event frame, holds frame →
      holds { frame with journal := event :: frame.journal })
    (hclose : InWords (fun _ => True) holds overflows (close frame))
    {result : Except FileError α} (htold : ∀ value, result = .ok value → told value) :
    InWords told holds overflows (Teardown.closeAfter close result frame) := by
  cases result with
  | ok value => exact hclose.bind fun _ _ _ _ hafter => ⟨htold value rfl, hafter⟩
  | error first =>
    refine hclose.observe.bind fun outcome after _ _ hafter => ?_
    cases outcome with
    | ok value => exact hafter
    | error closeError => exact hjournal _ _ hafter

/-- A seek through the adapter stays within words if the seek of the resource does. -/
theorem Adapter.seek_inWords {move : Int → Whence → Action FileError ρ σ Nat} {told : Nat → Prop}
    {holds : Frame ρ σ → Prop} {overflows : Prop} {frame : Frame ρ σ}
    (hmove : ∀ distance whence, InWords told holds overflows (move distance whence frame))
    (hframe : holds frame) (target : RawSeek) :
    InWords told holds overflows (Adapter.seek move target frame) := by
  rw [seek_eq]
  cases target.asSeek with
  | none => exact hframe
  | some pair => exact (hmove pair.1 pair.2).mapError

/-! ## Loops -/

namespace Transfer

variable {source : Nat → Action Fault ρ σ Bytes} {holds : Frame ρ σ → Prop} {overflows : Prop}
  {frame : Frame ρ σ}

/-- Reading until so many bytes are there stays within words if each read does. -/
theorem fill_inWords
    (h : ∀ length frame, holds frame →
      InWords (fun _ => True) holds overflows (source length frame))
    (rounds missing : Nat) (hframe : holds frame) :
    InWords (fun _ => True) holds overflows (fill source rounds missing frame) := by
  induction rounds generalizing missing frame with
  | zero =>
    cases missing with
    | zero => exact ⟨trivial, hframe⟩
    | succ missing => trivial
  | succ rounds ih =>
    cases missing with
    | zero => exact ⟨trivial, hframe⟩
    | succ missing =>
      refine (h (missing + 1) frame hframe).observe.bind fun outcome after _ _ hafter => ?_
      match outcome with
      | .ok [] => exact hafter
      | .ok (byte :: rest) => exact (ih _ hafter).bind fun _ _ _ _ hlast => ⟨trivial, hlast⟩
      | .error fault =>
        by_cases hfault : fault.isInterruption = true
        · simp only [hfault, if_true]
          exact ih _ hafter
        · simp only [hfault, Bool.false_eq_true, if_false]
          exact hafter

theorem persist_inWords
    (h : ∀ length frame, holds frame →
      InWords (fun _ => True) holds overflows (source length frame))
    (length rounds : Nat) (hframe : holds frame) :
    InWords (fun _ => True) holds overflows (persist source length rounds frame) := by
  induction rounds generalizing frame with
  | zero => trivial
  | succ rounds ih =>
    refine (h length frame hframe).observe.bind fun outcome after _ _ hafter => ?_
    match outcome with
    | .ok bytes => exact ⟨trivial, hafter⟩
    | .error fault =>
      by_cases hfault : fault.isInterruption = true
      · simp only [hfault, if_true]
        exact ih hafter
      · simp only [hfault, Bool.false_eq_true, if_false]
        exact hafter

theorem collectInto_inWords
    (h : ∀ length frame, holds frame →
      InWords (fun _ => True) holds overflows (source length frame))
    (patience rounds : Nat) (growth : Growth) (hframe : holds frame) :
    InWords (fun _ => True) holds overflows (collectInto source patience rounds growth frame) := by
  induction rounds generalizing growth frame with
  | zero => trivial
  | succ rounds ih =>
    refine (persist_inWords h _ patience hframe).bind fun bytes after _ _ hafter => ?_
    match bytes with
    | [] => exact ⟨trivial, hafter⟩
    | byte :: rest => exact (ih _ hafter).bind fun _ _ _ _ hlast => ⟨trivial, hlast⟩

/-- Reading all that there is stays within words if each read does. -/
theorem collect_inWords
    (h : ∀ length frame, holds frame →
      InWords (fun _ => True) holds overflows (source length frame))
    (patience rounds : Nat) (hframe : holds frame) :
    InWords (fun _ => True) holds overflows (collect source patience rounds frame) := by
  refine (persist_inWords h _ patience hframe).bind fun bytes after _ _ hafter => ?_
  match bytes with
  | [] => exact ⟨trivial, hafter⟩
  | byte :: rest =>
    exact (collectInto_inWords h patience rounds _ hafter).bind fun _ _ _ _ hlast =>
      ⟨trivial, hlast⟩

end Transfer

end FileWindow

import FileWindow.Proofs.Words

/-!
# Inputs within words

An input keeps its extent and its size at opening, and whatever a device tells in words, its
operations leave both words, answer nothing but words, and never overflow.

Main definitions:

- Definition Input.Fits: an input that is made of words.
- Definition Input.Operation.Fits: operations that ask for nothing but words.

Main results:

- Theorem Input.perform_inWords: an operation on an input stays within words.
-/

namespace FileWindow

variable {σ : Type} {device : Device σ} {holds : σ → Prop} {overflows : Prop}

open FileWindow.Action (Fitting InWords)

namespace Input

/-- What the input knows of itself is made of words. -/
def Fits : Input → Prop
  | .closed => True
  | .opened reader => reader.window.extent.Fits ∧ reader.openingSize < positionLimit

/-- What is asked for is made of words. -/
def Operation.Fits : Operation → Prop
  | .setExtent offset length => offset < positionLimit ∧ length.Fits
  | .closeAfter (.ok number) => number < positionLimit
  | _ => True

variable {frame : Frame Input σ}

/-- An operation that asks for an open input stays within words if it does so with one. -/
theorem reader_inWords {α : Type} {told : α → Prop} (operation : OpenOperation)
    {next : Reader → Action FileError Input σ α} (hframe : Fitting Fits holds frame)
    (hnext : ∀ reader, frame.book = .opened reader → (opened reader).Fits →
      InWords told (Fitting Fits holds) overflows (next reader frame)) :
    InWords told (Fitting Fits holds) overflows ((reader operation >>= next) frame) := by
  cases hbook : frame.book with
  | closed =>
    rcases frame with ⟨book, world, journal⟩
    obtain rfl : book = .closed := hbook
    exact hframe
  | opened reader =>
    rw [reader_bind_of_opened _ hbook]
    exact hnext reader hbook (hbook ▸ hframe.1)

theorem seek_inWords (hdevice : device.TellsWords holds) (distance : Int) (whence : Whence)
    (hframe : Fitting Fits holds frame) :
    InWords (· < positionLimit) (Fitting Fits holds) overflows
      (seek device distance whence frame) :=
  reader_inWords _ hframe fun reader _ _ =>
    (Window.seek_inWords hdevice reader.window distance whence _ hframe).imp (fun _ h => h.1) id

theorem tell_inWords (hdevice : device.TellsWords holds) (hframe : Fitting Fits holds frame) :
    InWords (· < positionLimit) (Fitting Fits holds) overflows (tell device frame) :=
  reader_inWords _ hframe fun reader _ _ => Window.tell_inWords hdevice reader.window hframe

theorem setExtent_inWords (hdevice : device.TellsWords holds) {offset : Nat}
    {length : ExtentLength} (hoffset : offset < positionLimit) (hlength : length.Fits)
    (hframe : Fitting Fits holds frame) :
    InWords (fun _ => True) (Fitting Fits holds) overflows
      (setExtent device offset length frame) :=
  reader_inWords _ hframe fun reader _ hreader =>
    (Window.narrow_inWords hdevice reader.window hoffset hlength hframe).bind
      fun _ _ _ hwindow hafter => ⟨trivial, ⟨hwindow, hreader.2⟩, hafter.2⟩

theorem unsetExtent_inWords (hdevice : device.TellsWords holds)
    (hframe : Fitting Fits holds frame) :
    InWords (· < positionLimit) (Fitting Fits holds) overflows (unsetExtent device frame) :=
  reader_inWords _ hframe fun reader _ hreader =>
    (Window.widen_inWords hdevice reader.window hframe).bind
      fun _ _ _ hwindow hafter => ⟨hwindow.length, ⟨hwindow, hreader.2⟩, hafter.2⟩

/-- A read that answers was of a plausible length. -/
theorem read_inWords (hdevice : device.TellsWords holds) (length room : Nat)
    (hframe : Fitting Fits holds frame) :
    InWords (fun _ => length ≤ maxTransfer) (Fitting Fits holds) overflows
      (read device length room frame) := by
  rw [read_eq]
  by_cases hrefused : (!validLength length || decide (length > room)) = true
  · rw [if_pos hrefused]
    exact hframe
  rw [if_neg hrefused]
  have hlength := (Decidable.not_not.mp (mt lengthRefused_iff.mpr hrefused)).1
  refine reader_inWords _ hframe fun reader _ _ => ?_
  refine (Window.tell_inWords hdevice reader.window hframe).bind fun position after _ _ hafter => ?_
  by_cases hwanted : min length (reader.window.extent.length - position) = 0
  · rw [if_pos hwanted]
    exact ⟨hlength, hafter⟩
  · rw [if_neg hwanted]
    have hread : InWords (fun _ => length ≤ maxTransfer) (Fitting Fits holds) overflows
        (reader.window.read device (min length (reader.window.extent.length - position)) after) :=
      .call (hdevice.toKeeps.readPatiently _) _ _ (fun _ _ _ => hlength) hafter
    exact hread.bind fun _ _ _ _ hlast => ⟨hlength, hlast⟩

/-- So was an exact read, which brings as many bytes. -/
theorem readExactly_inWords (hdevice : device.TellsWords holds) (length room : Nat)
    (hframe : Fitting Fits holds frame) :
    InWords (fun bytes => bytes.length < positionLimit) (Fitting Fits holds) overflows
      (readExactly device length room frame) := by
  have hlimit := maxTransfer_lt_positionLimit
  refine (read_inWords hdevice length room hframe).bind fun bytes after _ hlength hafter => ?_
  split
  next hbytes => exact ⟨by omega, hafter⟩
  · exact hafter

theorem close_inWords (hdevice : device.TellsWords holds) (hframe : Fitting Fits holds frame) :
    InWords (fun _ => True) (Fitting Fits holds) overflows (close device frame) := by
  rcases frame with ⟨book, world, journal⟩
  cases book with
  | closed => exact ⟨trivial, hframe⟩
  | opened reader =>
    have hclosed : Fitting Fits holds
        (⟨.closed, world, .closing reader.window.name :: journal⟩ : Frame Input σ) :=
      ⟨trivial, hframe.2⟩
    exact InWords.call hdevice.close reader.window.name .close (fun _ _ _ => trivial) hclosed

/-- An operation on an input stays within words. -/
theorem perform_inWords (hdevice : device.TellsWords holds) {operation : Operation}
    (hfits : operation.Fits) (hframe : Fitting Fits holds frame) :
    InWords Value.Fits (Fitting Fits holds) False (perform device operation frame) := by
  have htarget : ∀ target, InWords (· < positionLimit) (Fitting Fits holds) False
      (Adapter.seek (seek device) target frame) :=
    Adapter.seek_inWords (fun distance whence => seek_inWords hdevice distance whence hframe) hframe
  have hsource : ∀ length frame, Fitting Fits holds frame →
      InWords (fun _ => True) (Fitting Fits holds) False (Adapter.read device length frame) :=
    fun length frame hframe =>
      ((read_inWords hdevice _ _ hframe).imp (fun _ _ => trivial) id).mapError
  cases operation with
  | seek distance whence => exact (seek_inWords hdevice distance whence hframe).native
  | tell => exact (tell_inWords hdevice hframe).native
  | size =>
    refine InWords.native ⟨?_, hframe⟩
    cases hbook : frame.book with
    | closed => exact positionLimit_pos
    | opened reader =>
      have hreader : (opened reader).Fits := hbook ▸ hframe.1
      exact hreader.1.length
  | setExtent offset length =>
    exact (setExtent_inWords hdevice hfits.1 hfits.2 hframe).native
  | unsetExtent => exact (unsetExtent_inWords hdevice hframe).native
  | read length room =>
    exact ((read_inWords hdevice length room hframe).imp (fun _ _ => trivial) id).native
  | readExactly length room =>
    exact ((readExactly_inWords hdevice length room hframe).imp (fun _ _ => trivial) id).native
  | readThenClose length =>
    refine InWords.native ((readExactly_inWords hdevice length length hframe).observe.bind ?_)
    intro outcome after _ htold hafter
    exact Teardown.closeAfter_inWords (fun _ _ h => h) (close_inWords hdevice hafter) htold
  | close => exact (close_inWords hdevice hframe).native
  | closeAfter result =>
    refine InWords.native
      (Teardown.closeAfter_inWords (fun _ _ h => h) (close_inWords hdevice hframe) ?_)
    rintro number rfl
    exact hfits
  | streamSeek target => exact (htarget target).foreign
  | streamPosition => exact (htarget (.current 0)).foreign
  | streamRewind =>
    exact InWords.foreign ((htarget (.start 0)).bind fun _ _ _ _ hafter => ⟨trivial, hafter⟩)
  | streamRead length => exact (hsource length frame hframe).foreign
  | streamReadExactly length => exact (Transfer.fill_inWords hsource _ _ hframe).foreign
  | streamReadToEnd => exact (Transfer.collect_inWords hsource _ _ hframe).foreign

end Input

end FileWindow

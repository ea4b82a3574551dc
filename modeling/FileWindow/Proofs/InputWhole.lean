import FileWindow.Proofs.InputTwins
import FileWindow.Proofs.WholeTwins

/-!
# Inputs on devices that are alike altogether

On devices that are alike altogether inputs cannot be told apart at all: every operation, also
those that move the extent and those that close, answers the same or fails in the same words, and
leaves the same input behind.  Once an input is closed it has nothing to do with its device.

Main definitions:

- Definition Input.Closed: two inputs that are closed.
- Definition Input.Level: two equal inputs on worlds that belong together.

Main results:

- Theorem Input.perform_closed: a closed input does the same on whatever device.
- Theorem Input.perform_level: every operation does the same on devices that are alike altogether.
-/

namespace FileWindow

open FileWindow.Action (Both Coupled Joined Same Together)

namespace Input

variable {σ τ : Type} {bond : Bond σ τ} {Released : σ → τ → Prop} {first : Device σ}
  {second : Device τ}

/-! ## Closed inputs -/

/-- Both inputs are closed. -/
abbrev Closed : Input → Input → Prop :=
  Both .closed .closed

section Closed

variable {shift : Nat} {worlds : σ → τ → Prop}

theorem read_closed (length room : Nat) :
    Together FileError.wordless shift (Joined Closed worlds)
      (read first length room) (read second length room) := by
  refine .of_both fun world world' journal journal' h => ?_
  rw [read_eq, read_eq]
  split
  · exact .failed (.refl _ _ _) ⟨⟨rfl, rfl⟩, h⟩
  · exact .failed (.refl _ _ _) ⟨⟨rfl, rfl⟩, h⟩

theorem readExactly_closed (length room : Nat) :
    Together FileError.wordless shift (Joined Closed worlds)
      (readExactly first length room) (readExactly second length room) := by
  refine (read_closed length room).bind_same fun bytes => ?_
  split
  · exact .pure fun _ _ h => ⟨rfl, h⟩
  · exact .of_both fun world world' journal journal' h =>
      .failed (.refl _ _ _) ⟨⟨rfl, rfl⟩, h⟩

theorem seek_closed (distance : Int) (whence : Whence) :
    Together FileError.wordless shift (Joined Closed worlds)
      (seek first distance whence) (seek second distance whence) :=
  .of_both fun _ _ _ _ h => .failed (.refl _ _ _) ⟨⟨rfl, rfl⟩, h⟩

theorem closeAfter_closed {α : Type} (result : Except FileError α) :
    Together FileError.wordless shift (Joined Closed worlds)
      (closeAfter first result) (closeAfter second result) := by
  refine .of_both fun world world' journal journal' h => ?_
  cases result with
  | ok value => exact .answered ⟨rfl, ⟨rfl, rfl⟩, h⟩
  | error reason => exact .failed (.refl _ _ _) ⟨⟨rfl, rfl⟩, h⟩

/-- A closed input has nothing to do with its device, so on any two devices of the same patience
every operation does the same. -/
theorem perform_closed (hshift : shift = 0)
    (hpatience : ∀ w v, worlds w v → first.patience w = second.patience v)
    (operation : Operation) :
    Together Problem.wordless shift (Joined Closed worlds)
      (perform first operation) (perform second operation) := by
  have hseek : ∀ target, Together Fault.wordless shift (Joined Closed worlds)
      (Adapter.seek (seek first) target) (Adapter.seek (seek second) target) :=
    fun target => Adapter.seek_coupled target (fun _ _ h => h) fun _ _ _ => seek_closed _ _
  have hsource : ∀ length, Together Fault.wordless shift (Joined Closed worlds)
      (Adapter.read first length) (Adapter.read second length) :=
    fun length => (read_closed _ _).mapError fun _ _ h => h.carried
  cases operation with
  | seek distance whence => exact (seek_closed distance whence).native _
  | tell | setExtent | unsetExtent =>
    exact .of_both fun _ _ _ _ h => .failed (.refl _ _ _) ⟨⟨rfl, rfl⟩, h⟩
  | size | close => exact .of_both fun _ _ _ _ h => .answered ⟨rfl, ⟨rfl, rfl⟩, h⟩
  | read length room => exact (read_closed length room).native _
  | readExactly length room => exact (readExactly_closed length room).native _
  | readThenClose length =>
    exact (((readExactly_closed length length).observe_same hshift).bind_same
      fun result => closeAfter_closed result).native _
  | closeAfter result => exact (closeAfter_closed result).native _
  | streamSeek target => exact (hseek target).foreign _
  | streamPosition => exact (hseek _).foreign _
  | streamRewind => exact ((hseek _).bind_same fun _ => .pure fun _ _ h => ⟨rfl, h⟩).foreign _
  | streamRead length => exact (hsource length).foreign _
  | streamReadExactly length =>
    refine Coupled.foreign _ fun f g h => ?_
    rw [Adapter.readExactly_apply, Adapter.readExactly_apply, hpatience _ _ h.2]
    exact Transfer.fill_coupled hsource _ _ f g h
  | streamReadToEnd =>
    refine Coupled.foreign _ fun f g h => ?_
    rw [Adapter.readToEnd_apply, Adapter.readToEnd_apply, h.1.1, h.1.2, hpatience _ _ h.2]
    exact Transfer.collect_coupled hsource _ _ f g h

end Closed

/-! ## Open inputs -/

/-- The inputs are equal, and the worlds belong together. -/
abbrev Level (bond : Bond σ τ) (Released : σ → τ → Prop) : Frame Input σ → Frame Input τ → Prop :=
  Alongside bond.Settled Released isOpen

/-- The inputs are equal, the worlds belong together, and a seek that is about to be made leads
where the devices can go. -/
def LevelFor (bond : Bond σ τ) (Released : σ → τ → Prop) (first : Device σ)
    (seek : Option (Int × Whence)) (f : Frame Input σ) (g : Frame Input τ) : Prop :=
  Level bond Released f g ∧ ∀ reader, f.book = .opened reader →
    ∀ distance whence, seek = some (distance, whence) → ∀ raw,
      first.Reaches bond.shift reader.window.extent distance whence
        (some reader.window.extent.length) f.world raw → bond.Fits raw

/-- One open input is its own twin. -/
abbrev Own (reader : Reader) : Input → Input → Prop :=
  Both (.opened reader) (.opened reader)

/-- Frames with one open input are level where the worlds are those of twins. -/
theorem level_of_settled (hwhole : bond.Whole Released first second) {reader : Reader}
    {f : Frame Input σ} {g : Frame Input τ} (h : Joined (Own reader) bond.Settled f g) :
    Level bond Released f g :=
  .of_linked (fun _ _ hsettled => hwhole.released (hwhole.linked hsettled)) h

/-- Frames with closed inputs are level after a release. -/
theorem level_of_closed {f : Frame Input σ} {g : Frame Input τ}
    (h : Joined Closed Released f g) : Level bond Released f g :=
  .of_released rfl h

/-- An operation that asks for an open input goes on with the one that there is. -/
theorem reader_own {α : Type} {worlds : σ → τ → Prop} {alike : FileError → FileError → Prop}
    {frames : Frame Input σ → Frame Input τ → Prop}
    {answers : α → α → Frame Input σ → Frame Input τ → Prop} {reader : Reader}
    {next : Reader → Action FileError Input σ α} {next' : Reader → Action FileError Input τ α}
    (operation : OpenOperation)
    (h : Coupled alike frames (Joined (Own reader) worlds) (next reader) (next' reader) answers) :
    Coupled alike frames (Joined (Own reader) worlds)
      (Input.reader operation >>= next) (Input.reader operation >>= next') answers :=
  .of_both fun _ _ _ _ hworlds => h _ _ ⟨⟨rfl, rfl⟩, hworlds⟩

/-- The extent of an open input is moved alike. -/
theorem setExtent_level (hwhole : bond.Whole Released first second) (reader : Reader)
    (offset : Nat) (length : ExtentLength) :
    Coupled (Alike FileError.wordless bond.shift) (Level bond Released)
      (Joined (Own reader) bond.Settled) (setExtent first offset length)
      (setExtent second offset length) (Same (Level bond Released)) := by
  refine reader_own _ ?_
  refine ((Window.narrow_coupled hwhole reader.window offset length).leaving
    fun _ _ => level_of_settled hwhole).bind_same fun window => ?_
  intro f g h
  exact .answered ⟨rfl, level_of_settled hwhole ⟨⟨rfl, rfl⟩, h.2⟩⟩

theorem unsetExtent_level (hwhole : bond.Whole Released first second) (reader : Reader) :
    Coupled (Alike FileError.wordless bond.shift) (Level bond Released)
      (Joined (Own reader) bond.Settled) (unsetExtent first) (unsetExtent second)
      (Same (Level bond Released)) := by
  refine reader_own _ ?_
  refine ((Window.widen_coupled hwhole reader.window).leaving
    fun _ _ => level_of_settled hwhole).bind_same fun window => ?_
  intro f g h
  exact .answered ⟨rfl, level_of_settled hwhole ⟨⟨rfl, rfl⟩, h.2⟩⟩

/-- Inputs are closed alike, and closed they are whatever comes of the release. -/
theorem close_level (hwhole : bond.Whole Released first second) :
    Together FileError.wordless bond.shift (Level bond Released) (close first) (close second) := by
  intro f g h
  rcases f with ⟨book, world, journal⟩
  rcases g with ⟨book', world', journal'⟩
  rcases h with ⟨hbook, hreleased, hsettled⟩
  obtain rfl : book = book' := hbook
  cases book with
  | closed => exact .answered ⟨rfl, rfl, hreleased, hsettled⟩
  | opened reader =>
    have hrelease : Coupled (Alike FileError.wordless bond.shift) (Level bond Released)
        (Joined Closed bond.Linked) (reader.window.release first) (reader.window.release second)
        (Same (Level bond Released)) :=
      ((Window.release_coupled hwhole reader.window).leaving
        fun _ _ => level_of_closed).answering fun _ _ f g h => ⟨rfl, level_of_closed h⟩
    rw [close, Action.book_bind, close, Action.book_bind]
    exact hrelease ⟨.closed, world, journal⟩ ⟨.closed, world', journal'⟩
      ⟨⟨rfl, rfl⟩, hwhole.linked (hsettled rfl)⟩

/-- Every operation on an input does the same on devices that are alike altogether. -/
theorem perform_level (hreads : ∀ extent, bond.Reads extent first second)
    (hwhole : bond.Whole Released first second) (operation : Operation) :
    Coupled (Alike Problem.wordless bond.shift) (Level bond Released)
      (LevelFor bond Released first operation.seeks) (perform first operation)
      (perform second operation) (Same (Level bond Released)) := by
  intro f g h
  rcases f with ⟨book, world, journal⟩
  rcases g with ⟨book', world', journal'⟩
  rcases h with ⟨hlevel, hfits⟩
  have hclose := close_level hwhole
  obtain rfl : book = book' := hlevel.1
  cases book with
  | closed =>
    have hpatience : ∀ w v, Released w v → first.patience w = second.patience v :=
      fun _ _ => hwhole.patience_released
    exact (perform_closed hwhole.shift_eq hpatience operation).widening
      (fun _ _ => level_of_closed) _ _ ⟨⟨rfl, rfl⟩, hlevel.2.1⟩
  | opened reader =>
    have hsettled : bond.Settled world world' := hlevel.2.2 rfl
    have hown : Joined (Own reader) bond.Settled ⟨.opened reader, world, journal⟩
        ⟨.opened reader, world', journal'⟩ := ⟨⟨rfl, rfl⟩, hsettled⟩
    have htwin : reader.window = reader.window.shiftBy bond.shift := by
      rw [hwhole.shift_eq, Window.shiftBy_zero]
    have hstep : ∀ f g, InStep bond reader reader f g → Level bond Released f g :=
      fun f g h => level_of_settled hwhole ⟨⟨h.1.1, h.1.2.1⟩, h.2⟩
    by_cases hlocal : operation.isLocal = true
    · exact (perform_coupled (hreads reader.window.extent) hlocal).widening hstep _ _
        ⟨⟨rfl, rfl, htwin⟩, hsettled, hfits reader rfl⟩
    cases operation with
    | setExtent offset length =>
      exact (setExtent_level hwhole reader offset length).native _ _ _ hown
    | unsetExtent => exact (unsetExtent_level hwhole reader).native _ _ _ hown
    | close => exact hclose.native _ _ _ hlevel
    | closeAfter result => exact (Teardown.closeAfter_coupled hclose result).native _ _ _ hlevel
    | readThenClose length =>
      -- The input stays open until it is closed in the end.
      have hread : Together FileError.wordless bond.shift (InStep bond reader reader)
          (readExactly first length length) (readExactly second length length) :=
        readExactly_coupled (hreads reader.window.extent) length length
      refine Coupled.native _ (((hread.observe_same hwhole.shift_eq).leaving hstep).bind_same
        fun result => ?_) _ _ ⟨⟨rfl, rfl, htwin⟩, hsettled⟩
      exact (Teardown.closeAfter_coupled hclose result).starting hstep
    | seek | tell | size | read | readExactly | streamSeek | streamPosition | streamRewind
    | streamRead | streamReadExactly | streamReadToEnd => exact absurd rfl hlocal

end Input

end FileWindow

import FileWindow.Proofs.OutputTwins
import FileWindow.Proofs.WholeTwins

/-!
# Outputs on devices that are alike altogether

On devices that are alike altogether outputs cannot be told apart at all: every operation, also
those that measure the data, move the extent, and close, answers the same, fails in the same words,
or leaves the range of the count in both, and leaves the same output behind.  Once an output is
closed it has nothing to do with its device.

Main definitions:

- Definition Output.Closed: two outputs that are closed.
- Definition Output.Level: two equal outputs on worlds that belong together.

Main results:

- Theorem Output.perform_closed: a closed output does the same on whatever device.
- Theorem Output.perform_level: every operation does the same on devices that are alike altogether.
-/

namespace FileWindow

open FileWindow.Action (Both Coupled Joined Same Together)

namespace Output

variable {σ τ : Type} {bond : Bond σ τ} {Released : σ → τ → Prop} {first : Device σ}
  {second : Device τ}

/-! ## Closed outputs -/

/-- Both outputs are closed. -/
abbrev Closed : Output → Output → Prop :=
  Both .closed .closed

section Closed

variable {shift : Nat} {worlds : σ → τ → Prop}

theorem write_closed (buffer : Bytes) (length : Nat) :
    Together FileError.wordless shift (Joined Closed worlds)
      (write first buffer length) (write second buffer length) :=
  .of_both fun _ _ _ _ h => .failed (.refl _ _ _) ⟨⟨rfl, rfl⟩, h⟩

theorem seek_closed (distance : Int) (whence : Whence) :
    Together FileError.wordless shift (Joined Closed worlds)
      (seek first distance whence) (seek second distance whence) :=
  .of_both fun _ _ _ _ h => .failed (.refl _ _ _) ⟨⟨rfl, rfl⟩, h⟩

theorem flush_closed :
    Together FileError.wordless shift (Joined Closed worlds) (flush first) (flush second) :=
  .of_both fun _ _ _ _ h => .answered ⟨rfl, ⟨rfl, rfl⟩, h⟩

theorem closeAfter_closed {α : Type} (result : Except FileError α) :
    Together FileError.wordless shift (Joined Closed worlds)
      (closeAfter first result) (closeAfter second result) := by
  refine .of_both fun world world' journal journal' h => ?_
  cases result with
  | ok value => exact .answered ⟨rfl, ⟨rfl, rfl⟩, h⟩
  | error reason => exact .failed (.refl _ _ _) ⟨⟨rfl, rfl⟩, h⟩

/-- A closed output has nothing to do with its device, so on any two devices of the same patience
every operation does the same. -/
theorem perform_closed (hshift : shift = 0)
    (hpatience : ∀ w v, worlds w v → first.patience w = second.patience v)
    (operation : Operation) :
    Together Problem.wordless shift (Joined Closed worlds)
      (perform first operation) (perform second operation) := by
  have hseek : ∀ target, Together Fault.wordless shift (Joined Closed worlds)
      (Adapter.seek (seek first) target) (Adapter.seek (seek second) target) :=
    fun target => Adapter.seek_coupled target (fun _ _ h => h) fun _ _ _ => seek_closed _ _
  have hsink : ∀ bytes, Together Fault.wordless shift (Joined Closed worlds)
      (Adapter.write first bytes) (Adapter.write second bytes) :=
    fun bytes => ((write_closed _ _).mapError fun _ _ h => h.carried).bind_same
      fun _ => .pure fun _ _ h => ⟨rfl, h⟩
  cases operation with
  | seek distance whence => exact (seek_closed distance whence).native _
  | tell | setExtent | unsetExtent | overwrite =>
    exact .of_both fun _ _ _ _ h => .failed (.refl _ _ _) ⟨⟨rfl, rfl⟩, h⟩
  | size | close => exact .of_both fun _ _ _ _ h => .answered ⟨rfl, ⟨rfl, rfl⟩, h⟩
  | write buffer length => exact (write_closed buffer length).native _
  | writeThenClose buffer length =>
    exact (((write_closed buffer length).observe_same hshift).bind_same
      fun result => closeAfter_closed result).native _
  | flush => exact flush_closed.native _
  | closeAfter result => exact (closeAfter_closed result).native _
  | streamSeek target => exact (hseek target).foreign _
  | streamPosition => exact (hseek _).foreign _
  | streamRewind => exact ((hseek _).bind_same fun _ => .pure fun _ _ h => ⟨rfl, h⟩).foreign _
  | streamWrite bytes => exact (hsink bytes).foreign _
  | streamWriteAll bytes =>
    refine Coupled.foreign _ fun f g h => ?_
    rw [Adapter.writeAll_apply, Adapter.writeAll_apply, hpatience _ _ h.2]
    exact Transfer.drain_coupled hsink _ _ f g h
  | streamFlush => exact (flush_closed.mapError fun _ _ h => h.carried).foreign _

end Closed

/-! ## Open outputs -/

/-- The outputs are equal, and the worlds belong together. -/
abbrev Level (bond : Bond σ τ) (Released : σ → τ → Prop) : Frame Output σ → Frame Output τ → Prop :=
  Alongside bond.Linked Released isOpen

/-- The outputs are equal, the worlds belong together, and a seek that is about to be made leads
where the devices can go. -/
def LevelFor (bond : Bond σ τ) (Released : σ → τ → Prop) (first : Device σ)
    (seek : Option (Int × Whence)) (f : Frame Output σ) (g : Frame Output τ) : Prop :=
  Level bond Released f g ∧ ∀ writer, f.book = .opened writer → bond.Settled f.world g.world ∧
    ∀ distance whence, seek = some (distance, whence) → ∀ raw,
      first.Reaches bond.shift (writer.aim distance whence).window.extent distance whence none
        f.world raw → bond.Fits raw

/-- One open output is its own twin. -/
abbrev Own (writer : Writer) : Output → Output → Prop :=
  Both (.opened writer) (.opened writer)

/-- Frames with one open output are level where the worlds are linked. -/
theorem level_of_linked (hwhole : bond.Whole Released first second) {writer : Writer}
    {f : Frame Output σ} {g : Frame Output τ} (h : Joined (Own writer) bond.Linked f g) :
    Level bond Released f g :=
  .of_linked (fun _ _ => hwhole.released) h

theorem level_of_settled (hwhole : bond.Whole Released first second) {writer : Writer}
    {f : Frame Output σ} {g : Frame Output τ} (h : Joined (Own writer) bond.Settled f g) :
    Level bond Released f g :=
  level_of_linked hwhole ⟨h.1, hwhole.linked h.2⟩

/-- Frames with closed outputs are level after a release. -/
theorem level_of_closed {f : Frame Output σ} {g : Frame Output τ}
    (h : Joined Closed Released f g) : Level bond Released f g :=
  .of_released rfl h

/-- The size is measured alike, or the count is told. -/
theorem size_level (hwrites : bond.Writes first second) (hwhole : bond.Whole Released first second)
    (writer : Writer) :
    Coupled (Alike FileError.wordless bond.shift) (Level bond Released)
      (Joined (Own writer) bond.Settled) (size first) (size second)
      (Same (Level bond Released)) := by
  refine .of_both fun world world' journal journal' hsettled => ?_
  have hown : Joined (Own writer) bond.Settled ⟨.opened writer, world, journal⟩
      ⟨.opened writer, world', journal'⟩ := ⟨⟨rfl, rfl⟩, hsettled⟩
  rw [size, Action.book_bind, size, Action.book_bind]
  simp only [hwrites.isStandardOutput]
  split
  · exact .answered ⟨rfl, level_of_settled hwhole hown⟩
  · refine ((Window.rawSize_coupled hwhole writer.window).leaving
      fun _ _ => level_of_settled hwhole).bind_same ?_ _ _ hown
    exact fun size => .pure fun _ _ h => ⟨rfl, level_of_settled hwhole h⟩

/-- The extent of an open output is moved alike. -/
theorem setExtent_level (hwhole : bond.Whole Released first second) (writer : Writer)
    (offset : Nat) (length : ExtentLength) :
    Coupled (Alike FileError.wordless bond.shift) (Level bond Released)
      (Joined (Own writer) bond.Settled) (setExtent first offset length)
      (setExtent second offset length) (Same (Level bond Released)) := by
  refine writer_coupled _ ?_
  refine ((Window.narrow_coupled hwhole writer.window offset length).leaving
    fun _ _ => level_of_settled hwhole).bind_same fun window => ?_
  intro f g h
  exact .answered ⟨rfl, level_of_settled hwhole ⟨⟨rfl, rfl⟩, h.2⟩⟩

theorem unsetExtent_level (hwhole : bond.Whole Released first second) (writer : Writer) :
    Coupled (Alike FileError.wordless bond.shift) (Level bond Released)
      (Joined (Own writer) bond.Settled) (unsetExtent first) (unsetExtent second)
      (Same (Level bond Released)) := by
  refine writer_coupled _ ?_
  refine ((Window.widen_coupled hwhole writer.window).leaving
    fun _ _ => level_of_settled hwhole).bind_same fun window => ?_
  intro f g h
  exact .answered ⟨rfl, level_of_settled hwhole ⟨⟨rfl, rfl⟩, h.2⟩⟩

/-- Outputs are flushed and closed alike, and closed they are whatever comes of it. -/
theorem close_level (hwrites : bond.Writes first second)
    (hwhole : bond.Whole Released first second) :
    Together FileError.wordless bond.shift (Level bond Released) (close first) (close second) := by
  intro f g h
  rcases f with ⟨book, world, journal⟩
  rcases g with ⟨book', world', journal'⟩
  rcases h with ⟨hbook, hreleased, hlinked⟩
  obtain rfl : book = book' := hbook
  cases book with
  | closed => exact .answered ⟨rfl, rfl, hreleased, hlinked⟩
  | opened writer =>
    have hflush : Together FileError.wordless bond.shift (Joined (Own writer) bond.Linked)
        (writer.window.flush first) (writer.window.flush second) :=
      (Coupled.call (Alike.refl _ _) (fun _ _ h => hwrites.flush h) _ _).answering
        fun _ _ _ _ h => ⟨rfl, h⟩
    have hrelease : Coupled (Alike FileError.wordless bond.shift) (Joined Closed Released)
        (Joined Closed bond.Linked) (writer.window.release first)
        (writer.window.release second) (Same (Joined Closed Released)) :=
      (Window.release_coupled hwhole writer.window).answering fun _ _ _ _ h => ⟨rfl, h⟩
    rw [close, Action.book_bind, close, Action.book_bind]
    refine ((hflush.observe_same hwhole.shift_eq).leaving
      fun _ _ => level_of_linked hwhole).bind_same ?_ _ _ ⟨⟨rfl, rfl⟩, hlinked rfl⟩
    -- From here on the outputs are closed, whatever came of the flush.
    intro flushed f g h
    rw [Action.setBook_bind, Action.setBook_bind]
    refine ((hrelease.observe_same hwhole.shift_eq).leaving
      fun _ _ => level_of_closed).bind_same ?_ _ _ ⟨⟨rfl, rfl⟩, h.2⟩
    intro released f g h
    cases flushed with
    | error reason => exact .failed (.refl _ _ _) (level_of_closed h)
    | ok =>
      cases released with
      | error reason => exact .failed (.refl _ _ _) (level_of_closed h)
      | ok => exact .answered ⟨rfl, level_of_closed h⟩

/-- Every operation on an output does the same on devices that are alike altogether. -/
theorem perform_level (hwrites : bond.Writes first second)
    (hwhole : bond.Whole Released first second) (operation : Operation) :
    Coupled (Alike Problem.wordless bond.shift) (Level bond Released)
      (LevelFor bond Released first operation.seeks) (perform first operation)
      (perform second operation) (Same (Level bond Released)) := by
  intro f g h
  rcases f with ⟨book, world, journal⟩
  rcases g with ⟨book', world', journal'⟩
  rcases h with ⟨hlevel, hready⟩
  have hclose := close_level hwrites hwhole
  obtain rfl : book = book' := hlevel.1
  cases book with
  | closed =>
    have hpatience : ∀ w v, Released w v → first.patience w = second.patience v :=
      fun _ _ => hwhole.patience_released
    exact (perform_closed hwhole.shift_eq hpatience operation).widening
      (fun _ _ => level_of_closed) _ _ ⟨⟨rfl, rfl⟩, hlevel.2.1⟩
  | opened writer =>
    rcases hready writer rfl with ⟨hsettled, hfits⟩
    have hown : Joined (Own writer) bond.Settled ⟨.opened writer, world, journal⟩
        ⟨.opened writer, world', journal'⟩ := ⟨⟨rfl, rfl⟩, hsettled⟩
    have hheld : Held bond.shift writer (.opened writer) (.opened writer) := by
      rw [hwhole.shift_eq, held_zero]
      exact ⟨rfl, rfl⟩
    have hstep : ∀ f g, InStep bond writer.window.name writer.window.extent.offset f g →
        Level bond Released f g := by
      intro f g h
      rcases h with ⟨⟨writer, -, hbooks⟩, hlinked⟩
      rw [hwhole.shift_eq, held_zero] at hbooks
      exact level_of_linked hwhole ⟨hbooks, hlinked⟩
    by_cases hlocal : operation.isLocal = true
    · exact (perform_coupled hwrites hlocal).widening hstep _ _
        ⟨writer, ⟨rfl, rfl⟩, hheld, hsettled, hfits⟩
    cases operation with
    | size => exact (size_level hwrites hwhole writer).native _ _ _ hown
    | setExtent offset length =>
      exact (setExtent_level hwhole writer offset length).native _ _ _ hown
    | unsetExtent => exact (unsetExtent_level hwhole writer).native _ _ _ hown
    | close => exact hclose.native _ _ _ hlevel
    | closeAfter result => exact (Teardown.closeAfter_coupled hclose result).native _ _ _ hlevel
    | writeThenClose buffer length =>
      -- The output stays open until it is closed in the end.
      have hwrite : Together FileError.wordless bond.shift
          (InStep bond writer.window.name writer.window.extent.offset)
          (write first buffer length) (write second buffer length) :=
        write_coupled hwrites buffer length
      refine Coupled.native _ (((hwrite.observe_same hwhole.shift_eq).leaving hstep).bind_same
        fun result => ?_) _ _ ⟨⟨writer, ⟨rfl, rfl⟩, hheld⟩, hwhole.linked hsettled⟩
      exact (Teardown.closeAfter_coupled hclose result).starting hstep
    | seek | tell | write | overwrite | flush | streamSeek | streamPosition | streamRewind
    | streamWrite | streamWriteAll | streamFlush => exact absurd rfl hlocal

end Output

end FileWindow

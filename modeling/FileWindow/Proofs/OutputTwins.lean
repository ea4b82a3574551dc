import FileWindow.Proofs.Completion
import FileWindow.Proofs.Twins

/-!
# Outputs on twins

Two outputs on twin devices, one window as much further on as the other, do the same and keep the
same books: every operation that has to do with the extent alone answers the same, or fails alike,
and moves both counts and both ends of the extents alike.  Seeks change the books before they are
checked, and overwriting takes its changes back, so the books go along in every step.

Main definitions:

- Definition Output.Operation.isLocal: operations that have to do with the extent alone.
- Definition Output.Operation.seeks: the seek that an operation makes, if it makes one.
- Definition Output.Twins: two open outputs with the same books, one window further on.

Main results:

- Theorem Output.seek_coupled: seeks of outputs on twins go together.
- Theorem Output.write_coupled: so do writes.
- Theorem Output.perform_coupled: so do all operations that have to do with the extent alone.
- Theorem Output.run_of_twins: runs of such operations on twins answer the same throughout.
-/

namespace FileWindow

open FileWindow.Action (Both Coupled Ended Joined Same Together)

/-! ## Books -/

namespace Writer

/-- The same books of a window further into the raw data. -/
def shiftBy (writer : Writer) (shift : Nat) : Writer :=
  { writer with window := writer.window.shiftBy shift }

@[simp]
theorem window_shiftBy (writer : Writer) (shift : Nat) :
    (writer.shiftBy shift).window = writer.window.shiftBy shift :=
  rfl

@[simp]
theorem written_shiftBy (writer : Writer) (shift : Nat) :
    (writer.shiftBy shift).written = writer.written :=
  rfl

@[simp]
theorem shiftBy_zero (writer : Writer) : writer.shiftBy 0 = writer := by
  simp [shiftBy]

/-- The books that a seek calls for do not depend on where the window lies. -/
@[simp]
theorem aim_shiftBy (writer : Writer) (shift : Nat) (distance : Int) (whence : Whence) :
    (writer.shiftBy shift).aim distance whence = (writer.aim distance whence).shiftBy shift := by
  cases whence <;> rfl

/-- The window has a name and a start; how long it is does not matter. -/
structure Stands (writer : Writer) (name : String) (offset : Nat) : Prop where
  name_eq : writer.window.name = name
  offset_eq : writer.window.extent.offset = offset

/-- Neither is changed by a seek. -/
theorem Stands.aim {writer : Writer} {name : String} {offset : Nat}
    (h : writer.Stands name offset) (distance : Int) (whence : Whence) :
    (writer.aim distance whence).Stands name offset := by
  cases whence <;> exact ⟨h.name_eq, h.offset_eq⟩

/-- Nor by a write. -/
theorem Stands.count {writer : Writer} {name : String} {offset : Nat}
    (h : writer.Stands name offset) (length : Nat) : (writer.count length).Stands name offset :=
  ⟨h.name_eq, h.offset_eq⟩

/-- Nor do the books after a write depend on where the window lies. -/
@[simp]
theorem count_shiftBy (writer : Writer) (shift length : Nat) :
    (writer.shiftBy shift).count length = (writer.count length).shiftBy shift :=
  rfl

end Writer

namespace Output

/-! ## Operations -/

/-- Whether an operation has to do with the extent alone: it neither moves the extent, nor asks for
the size of the raw data, nor closes the output. -/
def Operation.isLocal : Operation → Bool
  | .size | .setExtent _ _ | .unsetExtent | .writeThenClose _ _ | .close | .closeAfter _ => false
  | _ => true

/-- The seek that an operation makes, if it makes one. -/
def Operation.seeks : Operation → Option (Int × Whence)
  | .seek distance whence => some (distance, whence)
  | .streamSeek target => target.asSeek
  | .streamPosition => some (0, .current)
  | .streamRewind => some (0, .start)
  | _ => none

/-! ## Twins -/

/-- Two open outputs with given books, the first with its window some bytes further on. -/
abbrev Held (shift : Nat) (writer : Writer) : Output → Output → Prop :=
  Both (.opened (writer.shiftBy shift)) (.opened writer)

/-- With windows at the same place the books are the same. -/
@[simp]
theorem held_zero (writer : Writer) :
    Held 0 writer = Both (.opened writer) (.opened writer) := by
  rw [Held, Writer.shiftBy_zero]

/-- Two open outputs of a name with the same books, the second with its window at an offset and the
first some bytes further on. -/
def Twins (shift : Nat) (name : String) (offset : Nat) (output output' : Output) : Prop :=
  ∃ writer : Writer, writer.Stands name offset ∧ Held shift writer output output'

/-- Twins are open, and of one name. -/
theorem Twins.name_eq {shift offset : Nat} {name : String} {output output' : Output}
    (h : Twins shift name offset output output') : output.name = output'.name := by
  rcases h with ⟨writer, -, rfl, rfl⟩
  rfl

theorem Twins.isOpen_eq {shift offset : Nat} {name : String} {output output' : Output}
    (h : Twins shift name offset output output') : output.isOpen = output'.isOpen := by
  rcases h with ⟨writer, -, rfl, rfl⟩
  rfl

variable {σ τ : Type} {bond : Bond σ τ} {first : Device σ} {second : Device τ}
  {name : String} {offset : Nat}

/-- The books are those of twins, and the worlds hang together. -/
abbrev InStep (bond : Bond σ τ) (name : String) (offset : Nat) :
    Frame Output σ → Frame Output τ → Prop :=
  Joined (Twins bond.shift name offset) bond.Linked

/-- The books are those of twins, the cursors stand where they should, and a seek that is about to
be made leads where the devices can go. -/
def InStepFor (bond : Bond σ τ) (first : Device σ) (name : String) (offset : Nat)
    (seek : Option (Int × Whence)) (f : Frame Output σ) (g : Frame Output τ) : Prop :=
  ∃ writer : Writer, writer.Stands name offset ∧ Held bond.shift writer f.book g.book ∧
    bond.Settled f.world g.world ∧
    ∀ distance whence, seek = some (distance, whence) → ∀ raw,
      first.Reaches bond.shift (writer.aim distance whence).window.extent distance whence none
        f.world raw → bond.Fits raw

/-- Outputs with given books are those of twins. -/
theorem inStep_of_held {writer : Writer} (hstands : writer.Stands name offset) {f : Frame Output σ}
    {g : Frame Output τ} (h : Joined (Held bond.shift writer) bond.Linked f g) :
    InStep bond name offset f g :=
  ⟨⟨writer, hstands, h.1⟩, h.2⟩

section Rules

variable {ε α : Type} {alike : ε → ε → Prop} {frames : Frame Output σ → Frame Output τ → Prop}
  {answers : α → α → Frame Output σ → Frame Output τ → Prop}

/-- Twins have some books, so it is enough to look at given ones. -/
theorem coupled_of_held {action : Action ε Output σ α} {action' : Action ε Output τ α}
    (h : ∀ writer : Writer, writer.Stands name offset →
      Coupled alike frames (Joined (Held bond.shift writer) bond.Linked) action action' answers) :
    Coupled alike frames (InStep bond name offset) action action' answers := by
  intro f g hstep
  rcases hstep with ⟨⟨writer, hstands, hheld⟩, hlinked⟩
  exact h writer hstands f g ⟨hheld, hlinked⟩

/-- An operation that asks for an open output goes on with the two that there are. -/
theorem writer_coupled {worlds : σ → τ → Prop} {writer writer' : Writer}
    {alike : FileError → FileError → Prop} {next : Writer → Action FileError Output σ α}
    {next' : Writer → Action FileError Output τ α} (operation : OpenOperation)
    (h : Coupled alike frames (Joined (Both (.opened writer) (.opened writer')) worlds)
      (next writer) (next' writer') answers) :
    Coupled alike frames (Joined (Both (.opened writer) (.opened writer')) worlds)
      (Output.writer operation >>= next) (Output.writer operation >>= next') answers :=
  .of_both fun _ _ _ _ hworlds => h _ _ ⟨⟨rfl, rfl⟩, hworlds⟩

end Rules

theorem InStepFor.inStep (htwins : bond.Positions first second) {seek : Option (Int × Whence)}
    {f : Frame Output σ} {g : Frame Output τ} (h : InStepFor bond first name offset seek f g) :
    InStep bond name offset f g := by
  rcases h with ⟨writer, hstands, hheld, hsettled, -⟩
  exact ⟨⟨writer, hstands, hheld⟩, htwins.linked hsettled⟩

/-- A seek moves the cursors alike, and both books are kept or both are left. -/
theorem seek_coupled (htwins : bond.Positions first second) (distance : Int) (whence : Whence) :
    Coupled (Alike FileError.wordless bond.shift) (InStep bond name offset)
      (InStepFor bond first name offset (some (distance, whence))) (seek first distance whence)
      (seek second distance whence) (Same (InStep bond name offset)) := by
  intro f g hready
  rcases hready with ⟨writer, hstands, hheld, hsettled, hfits⟩
  have hseek : Coupled (Alike FileError.wordless bond.shift) (InStep bond name offset)
      (Joined (Held bond.shift writer) fun w v => bond.Settled w v ∧ ∀ raw,
        first.Reaches bond.shift (writer.aim distance whence).window.extent distance whence none w
          raw → bond.Fits raw)
      (seek first distance whence) (seek second distance whence)
      (Same (InStep bond name offset)) := by
    refine writer_coupled _ ?_
    simp only [Writer.aim_shiftBy, Writer.window_shiftBy]
    -- Until the seek is made the books stay as they are.
    refine ((Window.seek_coupled htwins (writer.aim distance whence).window distance whence
      none).leaving fun f g h => ?_).bind_same fun position => ?_
    · exact inStep_of_held hstands ⟨h.1, htwins.linked h.2⟩
    · intro f g h
      exact .answered ⟨rfl, ⟨writer.aim distance whence, hstands.aim _ _, rfl, rfl⟩,
        htwins.linked h.2⟩
  exact hseek f g ⟨hheld, hsettled, hfits _ _ rfl⟩

theorem tell_coupled (htwins : bond.Positions first second) :
    Coupled (Alike FileError.wordless bond.shift) (InStep bond name offset)
      (InStepFor bond first name offset none) (tell first) (tell second)
      (Same (InStep bond name offset)) := by
  intro f g hready
  rcases hready with ⟨writer, hstands, hheld, hsettled, -⟩
  have htell : Coupled (Alike FileError.wordless bond.shift) (InStep bond name offset)
      (Joined (Held bond.shift writer) bond.Settled) (tell first) (tell second)
      (Same (InStep bond name offset)) := by
    refine writer_coupled _ ?_
    have hleave : ∀ f g, Joined (Held bond.shift writer) bond.Settled f g →
        InStep bond name offset f g :=
      fun f g h => inStep_of_held hstands ⟨h.1, htwins.linked h.2⟩
    refine ((Window.tell_coupled htwins writer.window).leaving hleave).answering ?_
    intro position position' f g h
    rcases h with ⟨hheld, rfl, hat⟩
    exact ⟨rfl, hleave f g ⟨hheld, _, hat⟩⟩
  exact htell f g ⟨hheld, hsettled⟩

/-- Writes pass the same bytes on, and are counted alike. -/
theorem write_coupled (htwins : bond.Writes first second) (buffer : Bytes) (length : Nat) :
    Together FileError.wordless bond.shift (InStep bond name offset)
      (write first buffer length) (write second buffer length) := by
  refine coupled_of_held fun writer hstands => .of_both fun world world' _ _ hlinked => ?_
  have hbooks : Twins bond.shift name offset (.opened (writer.shiftBy bond.shift))
      (.opened writer) := ⟨writer, hstands, rfl, rfl⟩
  rw [write_opened, write_opened]
  simp only [Writer.window_shiftBy, Window.name_shiftBy, Writer.written_shiftBy,
    Writer.count_shiftBy]
  by_cases hnone : length = 0
  · simp only [hnone, if_true]
    exact .answered ⟨rfl, hbooks, hlinked⟩
  simp only [hnone, if_false]
  by_cases hlength : (!validLength length || decide (length > buffer.length)) = true
  · simp only [hlength, if_true]
    exact .failed (.refl _ _ _) ⟨hbooks, hlinked⟩
  simp only [hlength, Bool.false_eq_true, if_false]
  have hwrite := htwins.write hlinked (buffer.take length)
  generalize first.write (buffer.take length) world = result,
    second.write (buffer.take length) world' = result' at hwrite
  cases hwrite with
  | failed hworlds => exact .failed (.refl _ _ _) ⟨hbooks, hworlds⟩
  | answered hworlds =>
    by_cases hcount : writer.written + length < positionLimit
    · simp only [hcount, if_true]
      exact .answered ⟨rfl, ⟨writer.count length, hstands.count _, rfl, rfl⟩, hworlds⟩
    · simp only [hcount, if_false]
      exact .overflowed ⟨hbooks, hworlds⟩

/-- Overwriting leaves both books as they were, or is refused for the same reason. -/
theorem overwrite_coupled (htwins : bond.Writes first second) (buffer : Bytes) (length : Nat) :
    Together FileError.wordless bond.shift (InStep bond name offset)
      (overwrite first buffer length) (overwrite second buffer length) := by
  intro f g hstep
  rw [overwrite, Action.book_bind, overwrite, Action.book_bind, hstep.1.isOpen_eq,
    hstep.1.name_eq, htwins.isStandardOutput]
  split
  · exact .failed (.refl _ _ _) hstep
  · refine (write_coupled htwins buffer length).bind (fun _ _ => ?_) f g hstep
    exact fun _ _ h => .answered ⟨rfl, hstep.1, h.2.2⟩

theorem flush_coupled (htwins : bond.Writes first second) :
    Together FileError.wordless bond.shift (InStep bond name offset) (flush first)
      (flush second) := by
  refine coupled_of_held fun writer hstands => .of_both fun world world' _ _ hlinked => ?_
  have hflush : Together FileError.wordless bond.shift (InStep bond name offset)
      (writer.window.flush first) (writer.window.flush second) :=
    (Coupled.call (Alike.refl _ _) (fun w v h => htwins.flush h) _ _).answering
      fun _ _ _ _ h => ⟨rfl, h⟩
  exact hflush _ _ ⟨⟨writer, hstands, rfl, rfl⟩, hlinked⟩

/-- The adapter writes to twins alike. -/
theorem sink_coupled (htwins : bond.Writes first second) (bytes : Bytes) :
    Together Fault.wordless bond.shift (InStep bond name offset)
      (Adapter.write first bytes) (Adapter.write second bytes) := by
  refine Coupled.bind ((write_coupled htwins _ _).mapError fun _ _ h => h.carried) fun _ _ => ?_
  exact .pure fun f g h => ⟨rfl, h.2⟩

theorem streamWriteAll_coupled (htwins : bond.Writes first second) (bytes : Bytes) :
    Together Fault.wordless bond.shift (InStep bond name offset)
      (Adapter.writeAll first bytes) (Adapter.writeAll second bytes) := by
  intro f g hstep
  rw [Adapter.writeAll_apply, Adapter.writeAll_apply, htwins.patience hstep.2]
  exact Transfer.drain_coupled (sink_coupled htwins) _ _ f g hstep

/-- What operations on outputs do on twins goes together, if they have to do with the extent
alone. -/
theorem perform_coupled (htwins : bond.Writes first second) {operation : Operation}
    (hlocal : operation.isLocal = true) :
    Coupled (Alike Problem.wordless bond.shift) (InStep bond name offset)
      (InStepFor bond first name offset operation.seeks) (perform first operation)
      (perform second operation) (Same (InStep bond name offset)) := by
  have hstep : ∀ f g, InStepFor bond first name offset operation.seeks f g →
      InStep bond name offset f g := fun f g h => h.inStep htwins.toPositions
  have hseek : ∀ distance whence, operation.seeks = some (distance, whence) →
      Coupled (Alike FileError.wordless bond.shift) (InStep bond name offset)
        (InStepFor bond first name offset operation.seeks) (seek first distance whence)
        (seek second distance whence) (Same (InStep bond name offset)) := by
    intro distance whence h
    rw [h]
    exact seek_coupled htwins.toPositions distance whence
  cases operation with
  | seek distance whence => exact (hseek distance whence rfl).native _
  | tell => exact (tell_coupled htwins.toPositions).native _
  | write buffer length => exact ((write_coupled htwins buffer length).native _).starting hstep
  | overwrite buffer length =>
    exact ((overwrite_coupled htwins buffer length).native _).starting hstep
  | flush => exact ((flush_coupled htwins).native _).starting hstep
  | streamSeek target => exact (Adapter.seek_coupled target hstep hseek).foreign _
  | streamPosition => exact (Adapter.seek_coupled (.current 0) hstep hseek).foreign _
  | streamRewind =>
    refine Coupled.foreign _ ((Adapter.seek_coupled (.start 0) hstep hseek).bind ?_)
    exact fun _ _ => .pure fun _ _ h => ⟨rfl, h.2⟩
  | streamWrite bytes => exact ((sink_coupled htwins bytes).foreign _).starting hstep
  | streamWriteAll bytes => exact ((streamWriteAll_coupled htwins bytes).foreign _).starting hstep
  | streamFlush =>
    exact (((flush_coupled htwins).mapError fun _ _ h => h.carried).foreign _).starting hstep
  | size | setExtent | unsetExtent | writeThenClose | close | closeAfter => cases hlocal

/-- Runs of such operations on twins answer the same throughout, up to what accounts of alike
failures leave out, if from where the first run comes through the devices can go wherever a seek
may lead. -/
theorem run_of_twins {view : Problem → Problem} {holds : Frame Output σ → Prop}
    (hview : ∀ e e', Alike Problem.wordless bond.shift e e' → view e = view e')
    (htwins : bond.Writes first second)
    (hready : ∀ f g seek, InStep bond name offset f g → holds f →
      InStepFor bond first name offset seek f g)
    {operations : List Operation}
    (hlocal : ∀ operation ∈ operations, operation.isLocal = true) {f : Frame Output σ}
    {g : Frame Output τ} (hstep : InStep bond name offset f g)
    (hthrough : Action.Throughout (perform first) holds operations f)
    (hended : Ended False (run first operations f)) :
    ∃ outcomes outcomes' f' g', run first operations f = .ok outcomes f' ∧
      run second operations g = .ok outcomes' g' ∧
        outcomes.map (seenAs view) = outcomes'.map (seenAs view) ∧
          InStep bond name offset f' g' := by
  have hsteps : ∀ operation ∈ operations, ∀ f g,
      InStepFor bond first name offset operation.seeks f g →
      Action.Paired (fun (_ _ : Problem) => False) (InStep bond name offset)
        (fun x y f g => seenAs view x = seenAs view y ∧ InStep bond name offset f g)
        (Action.observe (perform first operation) f)
        (Action.observe (perform second operation) g) := by
    intro operation hmem
    refine (perform_coupled htwins (hlocal operation hmem)).observe.answering ?_
    exact fun x y f g hobserved => hobserved.seenAs_eq hview
  exact hended.answered_of_paired (Action.runAll_of_step
    (fun operation hmem f g h hholds _ => hsteps operation hmem f g (hready f g _ h hholds)) hstep
    hthrough)

end Output

end FileWindow

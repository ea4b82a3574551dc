import FileWindow.Proofs.Completion
import FileWindow.Proofs.Twins

/-!
# Inputs on twins

Two inputs on twin devices, one window as much further on as the other, do the same: every
operation that has to do with the extent alone answers the same, or fails alike, and leaves both
windows as they were.

Main definitions:

- Definition Input.Operation.isLocal: operations that have to do with the extent alone.
- Definition Input.Operation.seeks: the seek that an operation makes, if it makes one.
- Definition Input.Twins: two open inputs, one window further on than the other.

Main results:

- Theorem Input.read_coupled: reads of inputs on twins go together.
- Theorem Input.perform_coupled: so do all operations that have to do with the extent alone.
- Theorem Input.run_of_twins: runs of such operations on twins answer the same throughout.
-/

namespace FileWindow

open FileWindow.Action (Coupled Ended Joined Same Together)

namespace Input

/-! ## Operations -/

/-- Whether an operation has to do with the extent alone: it neither moves the extent nor closes
the input. -/
def Operation.isLocal : Operation → Bool
  | .setExtent _ _ | .unsetExtent | .readThenClose _ | .close | .closeAfter _ => false
  | _ => true

/-- The seek that an operation makes, if it makes one. -/
def Operation.seeks : Operation → Option (Int × Whence)
  | .seek distance whence => some (distance, whence)
  | .streamSeek target => target.asSeek
  | .streamPosition => some (0, .current)
  | .streamRewind => some (0, .start)
  | _ => none

/-! ## Twins -/

/-- Two open inputs of one name, the first with its window some bytes further on; the sizes at
opening may differ. -/
def Twins (shift : Nat) (reader reader' : Reader) (input input' : Input) : Prop :=
  input = .opened reader ∧ input' = .opened reader' ∧
    reader.window = reader'.window.shiftBy shift

/-- Twins have one name. -/
theorem Twins.name_eq {shift : Nat} {reader reader' : Reader} {input input' : Input}
    (h : Twins shift reader reader' input input') : input.name = input'.name := by
  rcases h with ⟨rfl, rfl, hwindow⟩
  rw [name, name, hwindow, Window.name_shiftBy]

/-- Twins show as much. -/
theorem Twins.length_extent_eq {shift : Nat} {reader reader' : Reader} {input input' : Input}
    (h : Twins shift reader reader' input input') : input.extent.length = input'.extent.length := by
  rcases h with ⟨rfl, rfl, hwindow⟩
  rw [extent, extent, hwindow, Window.extent_shiftBy, Extent.length_shiftBy]

variable {σ τ : Type} {bond : Bond σ τ} {first : Device σ} {second : Device τ}
  {reader reader' : Reader}

/-- The books are those of twins, and the worlds hang together. -/
abbrev InStep (bond : Bond σ τ) (reader reader' : Reader) : Frame Input σ → Frame Input τ → Prop :=
  Joined (Twins bond.shift reader reader') bond.Settled

/-- An operation that asks for an open input goes on with the two that there are. -/
theorem reader_coupled {α : Type} {worlds : σ → τ → Prop}
    {frames : Frame Input σ → Frame Input τ → Prop}
    {answers : α → α → Frame Input σ → Frame Input τ → Prop}
    {next : Reader → Action FileError Input σ α} {next' : Reader → Action FileError Input τ α}
    (operation : OpenOperation)
    (h : reader.window = reader'.window.shiftBy bond.shift →
      Coupled (Alike FileError.wordless bond.shift) frames
        (Joined (Twins bond.shift reader reader') worlds) (next reader) (next' reader') answers) :
    Coupled (Alike FileError.wordless bond.shift) frames
      (Joined (Twins bond.shift reader reader') worlds)
      (Input.reader operation >>= next) (Input.reader operation >>= next') answers := by
  intro f g hjoined
  rcases f with ⟨book, world, journal⟩
  rcases g with ⟨book', world', journal'⟩
  rcases hjoined with ⟨⟨hbook, hbook', hwindow⟩, hworlds⟩
  obtain rfl : book = .opened reader := hbook
  obtain rfl : book' = .opened reader' := hbook'
  rw [reader_bind, reader_bind]
  exact h hwindow _ _ ⟨⟨rfl, rfl, hwindow⟩, hworlds⟩

theorem seek_coupled (htwins : bond.Positions first second) (distance : Int) (whence : Whence) :
    Coupled (Alike FileError.wordless bond.shift)
      (InStep bond reader reader')
      (Joined (Twins bond.shift reader reader') fun w v => bond.Settled w v ∧ ∀ raw,
        first.Reaches bond.shift reader'.window.extent distance whence
          (some reader'.window.extent.length) w raw → bond.Fits raw)
      (seek first distance whence) (seek second distance whence)
      (Same (InStep bond reader reader')) := by
  refine reader_coupled _ fun hwindow => ?_
  rw [hwindow]
  exact Window.seek_coupled htwins reader'.window distance whence _

theorem tell_coupled (htwins : bond.Positions first second) :
    Together FileError.wordless bond.shift (InStep bond reader reader')
      (tell first) (tell second) := by
  refine reader_coupled _ fun hwindow => ?_
  rw [hwindow]
  refine (Window.tell_coupled htwins reader'.window).answering ?_
  intro x y f g hjoined
  rcases hjoined with ⟨hbooks, rfl, hat⟩
  exact ⟨rfl, hbooks, _, hat⟩

/-- Reads of inputs on twins bring the same bytes: the cursors are as far into the windows, and no
read goes beyond them. -/
theorem read_coupled (htwins : bond.Reads reader'.window.extent first second)
    (length room : Nat) :
    Together FileError.wordless bond.shift (InStep bond reader reader')
      (read first length room) (read second length room) := by
  intro f g hjoined
  rcases f with ⟨book, world, journal⟩
  rcases g with ⟨book', world', journal'⟩
  rcases hjoined with ⟨⟨hbook, hbook', hwindow⟩, hsettled⟩
  obtain rfl : book = .opened reader := hbook
  obtain rfl : book' = .opened reader' := hbook'
  have hbooks : Twins bond.shift reader reader' (.opened reader) (.opened reader') :=
    ⟨rfl, rfl, hwindow⟩
  rw [read_opened, read_opened, hwindow]
  simp only [Window.name_shiftBy, Window.extent_shiftBy, Extent.offset_shiftBy,
    Extent.length_shiftBy]
  by_cases hlength : (!validLength length || decide (length > room)) = true
  · simp only [hlength, if_true]
    exact .failed (.refl _ _ _) ⟨hbooks, hsettled⟩
  simp only [hlength, Bool.false_eq_true, if_false]
  have hposition := htwins.position hsettled
  generalize first.position world = result, second.position world' = result' at hposition
  cases hposition with
  | failed hworlds => exact .failed (.refl _ _ _) ⟨hbooks, hworlds⟩
  | @answered raw raw' w v h =>
    rcases h with ⟨rfl, hat⟩
    simp only [Nat.add_lt_add_iff_left, Nat.add_sub_add_left]
    by_cases hraw : raw' < reader'.window.extent.offset
    · simp only [hraw, if_true]
      exact .failed (.refl _ _ _) ⟨hbooks, _, hat⟩
    simp only [hraw, if_false]
    generalize hwanted : min length
      (reader'.window.extent.length - (raw' - reader'.window.extent.offset)) = wanted
    by_cases hnone : wanted = 0
    · simp only [hnone, if_true]
      exact .answered ⟨rfl, hbooks, _, hat⟩
    simp only [hnone, if_false]
    have hread := htwins.read hat (by omega) (show wanted ≤ _ by omega)
    generalize first.readPatiently wanted w = result,
      second.readPatiently wanted v = result' at hread
    cases hread with
    | failed hworlds => exact .failed (.refl _ _ _) ⟨hbooks, hworlds⟩
    | answered h => exact .answered ⟨h.1, hbooks, h.2⟩

theorem readExactly_coupled (htwins : bond.Reads reader'.window.extent first second)
    (length room : Nat) :
    Together FileError.wordless bond.shift (InStep bond reader reader')
      (readExactly first length room) (readExactly second length room) := by
  refine (read_coupled htwins length room).bind fun bytes bytes' f g h => ?_
  rcases h with ⟨rfl, hjoined⟩
  split
  · exact .answered ⟨rfl, hjoined⟩
  · rw [Action.book_bind, Action.book_bind, hjoined.1.name_eq]
    exact .failed (.refl _ _ _) hjoined

/-- The adapter reads from twins alike. -/
theorem source_coupled (htwins : bond.Reads reader'.window.extent first second) (length : Nat) :
    Together Fault.wordless bond.shift (InStep bond reader reader')
      (Adapter.read first length) (Adapter.read second length) :=
  (read_coupled htwins _ _).mapError fun _ _ h => h.carried

theorem streamReadExactly_coupled (htwins : bond.Reads reader'.window.extent first second)
    (length : Nat) :
    Together Fault.wordless bond.shift (InStep bond reader reader')
      (Adapter.readExactly first length) (Adapter.readExactly second length) := by
  intro f g hjoined
  rw [Adapter.readExactly_apply, Adapter.readExactly_apply,
    htwins.patience (htwins.linked hjoined.2)]
  exact Transfer.fill_coupled (source_coupled htwins) _ _ f g hjoined

theorem streamReadToEnd_coupled (htwins : bond.Reads reader'.window.extent first second) :
    Together Fault.wordless bond.shift (InStep bond reader reader')
      (Adapter.readToEnd first) (Adapter.readToEnd second) := by
  intro f g hjoined
  have hlength : f.book.extent.length = g.book.extent.length := hjoined.1.length_extent_eq
  rw [Adapter.readToEnd_apply, Adapter.readToEnd_apply, hlength,
    htwins.patience (htwins.linked hjoined.2)]
  exact Transfer.collect_coupled (source_coupled htwins) _ _ f g hjoined

/-- The books are those of twins, the worlds hang together, and a seek that is about to be made
leads where the devices can go. -/
abbrev InStepFor (bond : Bond σ τ) (first : Device σ) (reader reader' : Reader)
    (seek : Option (Int × Whence)) : Frame Input σ → Frame Input τ → Prop :=
  Joined (Twins bond.shift reader reader') fun world world' => bond.Settled world world' ∧
    ∀ distance whence, seek = some (distance, whence) → ∀ raw,
      first.Reaches bond.shift reader'.window.extent distance whence
        (some reader'.window.extent.length) world raw → bond.Fits raw

/-- What operations on inputs do on twins goes together, if they have to do with the extent
alone. -/
theorem perform_coupled (htwins : bond.Reads reader'.window.extent first second)
    {operation : Operation} (hlocal : operation.isLocal = true) :
    Coupled (Alike Problem.wordless bond.shift) (InStep bond reader reader')
      (InStepFor bond first reader reader' operation.seeks) (perform first operation)
      (perform second operation) (Same (InStep bond reader reader')) := by
  have hstep : ∀ f g, InStepFor bond first reader reader' operation.seeks f g →
      InStep bond reader reader' f g := fun f g h => ⟨h.1, h.2.1⟩
  have hseek : ∀ distance whence, operation.seeks = some (distance, whence) →
      Coupled (Alike FileError.wordless bond.shift) (InStep bond reader reader')
        (InStepFor bond first reader reader' operation.seeks) (seek first distance whence)
        (seek second distance whence) (Same (InStep bond reader reader')) :=
    fun distance whence h => (seek_coupled htwins.toPositions distance whence).starting
      fun f g hready => ⟨hready.1, hready.2.1, hready.2.2 distance whence h⟩
  cases operation with
  | seek distance whence => exact (hseek distance whence rfl).native _
  | tell => exact ((tell_coupled htwins.toPositions).native _).starting hstep
  | size => exact (Coupled.native _ fun f g h => .answered ⟨h.1.length_extent_eq, h⟩).starting hstep
  | read length room => exact ((read_coupled htwins length room).native _).starting hstep
  | readExactly length room =>
    exact ((readExactly_coupled htwins length room).native _).starting hstep
  | streamSeek target => exact (Adapter.seek_coupled target hstep hseek).foreign _
  | streamPosition => exact (Adapter.seek_coupled (.current 0) hstep hseek).foreign _
  | streamRewind =>
    refine Coupled.foreign _ ((Adapter.seek_coupled (.start 0) hstep hseek).bind ?_)
    exact fun _ _ => .pure fun _ _ h => ⟨rfl, h.2⟩
  | streamRead length => exact ((source_coupled htwins length).foreign _).starting hstep
  | streamReadExactly length =>
    exact ((streamReadExactly_coupled htwins length).foreign _).starting hstep
  | streamReadToEnd => exact ((streamReadToEnd_coupled htwins).foreign _).starting hstep
  | setExtent | unsetExtent | readThenClose | close | closeAfter => cases hlocal

/-- Runs of such operations on twins answer the same throughout, up to what accounts of alike
failures leave out, if the devices can go wherever a seek may lead. -/
theorem run_of_twins {view : Problem → Problem}
    (hview : ∀ e e', Alike Problem.wordless bond.shift e e' → view e = view e')
    (htwins : bond.Reads reader'.window.extent first second)
    (hfits : ∀ distance whence world raw,
      first.Reaches bond.shift reader'.window.extent distance whence
        (some reader'.window.extent.length) world raw → bond.Fits raw)
    (hsteady : ∀ extent world, first.Steady extent world) {operations : List Operation}
    (hlocal : ∀ operation ∈ operations, operation.isLocal = true) {f : Frame Input σ}
    {g : Frame Input τ} (hstep : InStep bond reader reader' f g) :
    ∃ outcomes outcomes' f' g', run first operations f = .ok outcomes f' ∧
      run second operations g = .ok outcomes' g' ∧
        outcomes.map (seenAs view) = outcomes'.map (seenAs view) ∧
          InStep bond reader reader' f' g' := by
  have hended : Ended False (run first operations f) :=
    .runAll (fun operation frame => perform_ended (fun _ _ => hsteady _ _) operation) operations f
  have hsteps : ∀ operation ∈ operations, ∀ f g, InStep bond reader reader' f g →
      Action.Paired (fun (_ _ : Problem) => False) (InStep bond reader reader')
        (fun x y f g => seenAs view x = seenAs view y ∧ InStep bond reader reader' f g)
        (Action.observe (perform first operation) f)
        (Action.observe (perform second operation) g) := by
    intro operation hmem
    refine ((perform_coupled htwins (hlocal operation hmem)).observe.starting ?_).answering ?_
    · exact fun f g h => ⟨h.1, h.2, fun distance whence _ raw => hfits distance whence _ raw⟩
    · exact fun x y f g hobserved => hobserved.seenAs_eq hview
  exact hended.answered_of_paired (Action.runAll_of_step
    (fun operation hmem f g h _ _ => hsteps operation hmem f g h) hstep
    (.of_forall (fun _ => trivial) operations f))

end Input

end FileWindow

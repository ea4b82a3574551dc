import FileWindow.Copy
import FileWindow.Proofs.InputWhole
import FileWindow.Proofs.OutputWhole

/-!
# Worlds that cannot be told apart

A relation of worlds is respected by a device if from related worlds each of its calls comes to the
same, in related worlds again.  Such a device is its own twin, so every resource on it does the same
from related worlds, and so does a copy from one such device to another: the resources cannot tell
the worlds apart.

Main definitions:

- Definition Call.Respects, Device.Respects: calls and devices that respect a relation of worlds.
- Definition Action.Respects: actions that do so.
- Definition Bond.level: the bond of a device with itself.

Main results:

- Theorem Device.Respects.whole: a device that respects a relation is its own twin.
- Theorems Input.perform_respects and Output.perform_respects: every operation respects it.
- Theorems Copy.inChunks_respects and Copy.adapted_respects: so does every copy.
-/

namespace FileWindow

open FileWindow.Action (Coupled Joined Same Together)

variable {ε η ρ ρ' σ τ α β : Type} {related : σ → σ → Prop} {device : Device σ}

/-! ## Calls and devices -/

/-- From related worlds a call comes to the same, in related worlds. -/
def Call.Respects (related : σ → σ → Prop) (call : Call σ α) : Prop :=
  ∀ w v, related w v →
    Call.Paired related (fun x y w v => x = y ∧ related w v) (call w) (call v)

/-- Every call of a device comes to the same from related worlds, where of reads only those count
that are made again while they are interrupted. -/
structure Device.Respects (related : σ → σ → Prop) (device : Device σ) : Prop where
  seek : ∀ target, Call.Respects related (device.seek target)
  size : Call.Respects related device.size
  read : ∀ length, Call.Respects related (device.readPatiently length)
  write : ∀ bytes, Call.Respects related (device.write bytes)
  flush : Call.Respects related device.flush
  close : Call.Respects related device.close
  patience : ∀ {w v}, related w v → device.patience w = device.patience v

/-- A call comes to the same from the same world. -/
theorem Call.respects_eq (call : Call σ α) : Call.Respects Eq call := by
  rintro world _ rfl
  cases call world with
  | ok value after => exact .answered ⟨rfl, rfl⟩
  | error fault after => exact .failed rfl

/-- So every device respects equality. -/
theorem Device.respects_eq (device : Device σ) : device.Respects Eq where
  seek target := Call.respects_eq (device.seek target)
  size := Call.respects_eq device.size
  read length := Call.respects_eq (device.readPatiently length)
  write bytes := Call.respects_eq (device.write bytes)
  flush := Call.respects_eq device.flush
  close := Call.respects_eq device.close
  patience := by
    rintro world _ rfl
    rfl

/-! ## A device as its own twin -/

/-- The bond between related worlds, in which the cursors need not be looked at. -/
def Bond.level (related : σ → σ → Prop) : Bond σ σ where
  shift := 0
  At _ := related
  Linked := related
  Fits raw := raw < positionLimit

namespace Device.Respects

/-- Worlds that are settled are related. -/
theorem settled_iff {w v : σ} : (Bond.level related).Settled w v ↔ related w v :=
  ⟨fun ⟨_, h⟩ => h, fun h => ⟨0, h⟩⟩

theorem paired_abreast {call : Call σ Nat} (h : Call.Respects related call) {w v : σ}
    (hworlds : related w v) :
    Call.Paired (Bond.level related).Settled (Bond.level related).Abreast (call w) (call v) := by
  have hcalls := h w v hworlds
  generalize call w = result, call v = result' at hcalls
  cases hcalls with
  | answered hanswers => exact .answered ⟨hanswers.1.trans (Nat.zero_add _).symm, hanswers.2⟩
  | failed hleft => exact .failed ⟨0, hleft⟩

theorem paired_settled {call : Call σ α} (h : Call.Respects related call) {w v : σ}
    (hworlds : (Bond.level related).Settled w v) :
    Call.Paired (Bond.level related).Settled
      (fun x y w v => x = y ∧ (Bond.level related).Settled w v) (call w) (call v) := by
  have hcalls := h w v (settled_iff.mp hworlds)
  generalize call w = result, call v = result' at hcalls
  cases hcalls with
  | answered hanswers => exact .answered ⟨hanswers.1, 0, hanswers.2⟩
  | failed hleft => exact .failed ⟨0, hleft⟩

theorem paired_unit {call : Call σ Unit} (h : Call.Respects related call) {w v : σ}
    (hworlds : related w v) :
    Call.Paired related (fun _ _ => related) (call w) (call v) := by
  have hcalls := h w v hworlds
  generalize call w = result, call v = result' at hcalls
  cases hcalls with
  | answered hanswers => exact .answered hanswers.2
  | failed hleft => exact .failed hleft

variable (h : device.Respects related)

include h

theorem positions : (Bond.level related).Positions device device where
  linked := settled_iff.mp
  patience := h.patience
  position := fun hworlds => paired_abreast (h.seek (.current 0)) (settled_iff.mp hworlds)
  seek := by
    intro raw w v hworlds _
    have hshift : (Bond.level related).shift + raw = raw := Nat.zero_add raw
    rw [hshift]
    exact paired_abreast (h.seek (.start raw)) (settled_iff.mp hworlds)
  lt_positionLimit := by
    intro raw hfits
    rw [Bond.level, Nat.zero_add]
    exact hfits

theorem reads (extent : Extent) : (Bond.level related).Reads extent device device where
  toPositions := h.positions
  read := fun hworlds _ _ => paired_settled (h.read _) ⟨0, hworlds⟩

theorem writes : (Bond.level related).Writes device device where
  toPositions := h.positions
  write := fun hworlds bytes => paired_unit (h.write bytes) hworlds
  flush := fun hworlds => paired_unit h.flush hworlds
  isStandardOutput := rfl

/-- A device that respects a relation is its own twin from related worlds. -/
theorem whole : (Bond.level related).Whole related device device where
  toPositions := h.positions
  shift_eq := rfl
  released := fun hworlds => hworlds
  patience_released := h.patience
  size := paired_settled h.size
  finish := paired_settled (h.seek (.finish 0))
  close := fun hworlds => paired_unit h.close hworlds

end Device.Respects

/-! ## Actions -/

namespace Action

/-- From frames with the same book and related worlds an action ends alike, in such frames. -/
abbrev Respects (related : σ → σ → Prop) (action : Action ε ρ σ α) : Prop :=
  Coupled Eq (Joined Eq related) (Joined Eq related) action action (Same (Joined Eq related))

namespace Respects

variable {action : Action ε ρ σ α}

theorem pure (value : α) :
    Respects related (Pure.pure value : Action ε ρ σ α) :=
  Coupled.pure fun _ _ h => ⟨rfl, h⟩

theorem fail (error : ε) : Respects related (Action.fail error : Action ε ρ σ α) :=
  Coupled.fail rfl fun _ _ h => h

theorem bind {next : α → Action ε ρ σ β} (h : Respects related action)
    (hnext : ∀ value, Respects related (next value)) : Respects related (action >>= next) :=
  h.bind_same hnext

theorem observe (h : Respects related action) :
    Respects related (Action.observe action : Action η ρ σ (Except ε α)) :=
  Coupled.answering (Coupled.observe h) fun outcome outcome' f g hobserved => by
    cases hobserved with
    | answered hsame => exact ⟨congrArg Except.ok hsame.1, hsame.2⟩
    | failed he hframes => exact ⟨congrArg Except.error he, hframes⟩

theorem mapError (tell : ε → η) (h : Respects related action) :
    Respects related (action.mapError tell) :=
  Coupled.mapError h fun _ _ he => congrArg tell he

theorem map (make : α → β) (h : Respects related action) : Respects related (make <$> action) :=
  Coupled.map h fun _ _ _ _ hsame => ⟨congrArg make hsame.1, hsame.2⟩

/-- An action that looks at the book respects a relation if what it does for each book does. -/
theorem book_bind {next : ρ → Action ε ρ σ α} (h : ∀ book, Respects related (next book)) :
    Respects related (Action.book >>= next) := by
  rintro ⟨book, world, journal⟩ ⟨book', world', journal'⟩ ⟨hbook, hworlds⟩
  obtain rfl : book = book' := hbook
  exact h book _ _ ⟨rfl, hworlds⟩

theorem setBook (book : ρ) : Respects related (Action.setBook book : Action ε ρ σ Unit) :=
  fun _ _ h => .answered ⟨rfl, rfl, h.2⟩

theorem report (event : Event) : Respects related (Action.report event : Action ε ρ σ Unit) :=
  fun _ _ h => .answered ⟨rfl, h⟩

theorem overflow : Respects related (Action.overflow : Action ε ρ σ α) :=
  fun _ _ h => .overflowed h

theorem patience (h : device.Respects related) :
    Respects related (Action.patience device : Action ε ρ σ Nat) :=
  fun _ _ hframes => .answered ⟨h.patience hframes.2, hframes⟩

theorem call {request : Call σ α} (h : Call.Respects related request) (name : String)
    (trying : Attempt) :
    Respects related (Action.call name trying request : Action FileError ρ σ α) :=
  Coupled.answering (Coupled.call (fun _ => rfl) h name trying) fun _ _ _ _ hframes =>
    ⟨hframes.2.1, hframes.1, hframes.2.2⟩

theorem accept (name : String) (check : Except Refusal α) :
    Respects related (Action.accept name check : Action FileError ρ σ α) := by
  cases check with
  | ok value => exact pure value
  | error reason => exact fail (FileError.refused name reason)

theorem onFirst (h : Respects related action) :
    Respects related (Action.onFirst action : Action ε (ρ × ρ') σ α) := by
  rintro ⟨⟨first, second⟩, world, journal⟩ ⟨⟨first', second'⟩, world', journal'⟩ ⟨hbooks, hworlds⟩
  obtain ⟨rfl, rfl⟩ : first = first' ∧ second = second' := Prod.mk.inj hbooks
  have hinner := h ⟨first, world, journal⟩ ⟨first, world', journal'⟩ ⟨rfl, hworlds⟩
  simp only [Action.onFirst]
  generalize action ⟨first, world, journal⟩ = result, action ⟨first, world', journal'⟩ = result'
    at hinner
  cases hinner with
  | answered hsame => exact .answered ⟨hsame.1, congrArg (·, second) hsame.2.1, hsame.2.2⟩
  | failed he hframes => exact .failed he ⟨congrArg (·, second) hframes.1, hframes.2⟩
  | overflowed hframes => exact .overflowed ⟨congrArg (·, second) hframes.1, hframes.2⟩
  | stalled hframes => exact .stalled ⟨congrArg (·, second) hframes.1, hframes.2⟩

theorem onSecond (h : Respects related action) :
    Respects related (Action.onSecond action : Action ε (ρ' × ρ) σ α) := by
  rintro ⟨⟨first, second⟩, world, journal⟩ ⟨⟨first', second'⟩, world', journal'⟩ ⟨hbooks, hworlds⟩
  obtain ⟨rfl, rfl⟩ : first = first' ∧ second = second' := Prod.mk.inj hbooks
  have hinner := h ⟨second, world, journal⟩ ⟨second, world', journal'⟩ ⟨rfl, hworlds⟩
  simp only [Action.onSecond]
  generalize action ⟨second, world, journal⟩ = result, action ⟨second, world', journal'⟩ = result'
    at hinner
  cases hinner with
  | answered hsame => exact .answered ⟨hsame.1, congrArg (first, ·) hsame.2.1, hsame.2.2⟩
  | failed he hframes => exact .failed he ⟨congrArg (first, ·) hframes.1, hframes.2⟩
  | overflowed hframes => exact .overflowed ⟨congrArg (first, ·) hframes.1, hframes.2⟩
  | stalled hframes => exact .stalled ⟨congrArg (first, ·) hframes.1, hframes.2⟩

/-- Equal failures are alike, whatever their words. -/
theorem together (wordless : ε → ε) (h : Respects related action) :
    Together wordless 0 (Joined Eq related) action action :=
  Coupled.failing h fun _ _ he => he ▸ Alike.refl wordless 0 _

/-- Failures that are alike where no window lies further on than another are equal. -/
theorem of_together (wordless : ε → ε)
    (h : Together wordless 0 (Joined Eq related) action action) : Respects related action :=
  Coupled.failing h fun _ _ he => he.2 rfl

end Respects

end Action

open FileWindow.Action (Respects)

/-! ## Loops -/

namespace Transfer

/-- Writing all bytes respects a relation if the sink does. -/
theorem drain_respects {sink : Bytes → Action Fault ρ σ Nat}
    (hsink : ∀ bytes, Respects related (sink bytes)) (rounds : Nat) (bytes : Bytes) :
    Respects related (drain sink rounds bytes) :=
  .of_together Fault.wordless
    (drain_coupled (fun bytes => (hsink bytes).together Fault.wordless) rounds bytes)

/-- So does reading and writing by turns if source and sink do. -/
theorem pump_respects {again : ε → Bool} {source : Nat → Action ε ρ σ Bytes}
    {sink : Bytes → Action ε ρ σ Unit} (hsource : ∀ length, Respects related (source length))
    (hsink : ∀ bytes, Respects related (sink bytes)) (chunk rounds moved : Nat) :
    Respects related (pump again source sink chunk rounds moved) := by
  induction rounds generalizing moved with
  | zero => exact Coupled.stall fun _ _ h => h
  | succ rounds ih =>
    refine (hsource chunk).observe.bind fun outcome => ?_
    cases outcome with
    | ok bytes =>
      cases bytes with
      | nil => exact .pure moved
      | cons byte rest => exact (hsink (byte :: rest)).bind fun _ => ih _
    | error error =>
      dsimp only
      split
      · exact ih moved
      · exact .fail error

end Transfer

/-! ## Inputs -/

/-- The position within the extent is the same. -/
theorem Window.tell_respects (h : device.Respects related) (window : Window) :
    Respects related (window.tell device : Action FileError ρ σ Nat) :=
  (Respects.call (h.seek (.current 0)) window.name .tell).bind fun _ => .accept _ _

namespace Input

/-- An input that is opened is the same from related worlds. -/
theorem attach_respects (h : device.Respects related) (name : String) :
    Respects related (attach device name : Action FileError ρ σ Input) := by
  refine (Respects.call h.size name .querySize).bind fun size => ?_
  cases size with
  | none => exact .fail _
  | some size => exact (Respects.report _).bind fun _ => .pure _

/-- An operation that asks for an open input finds the same one. -/
theorem reader_respects (operation : OpenOperation) :
    Respects related (Input.reader operation : Action FileError Input σ Reader) := by
  refine .book_bind fun book => ?_
  cases book with
  | closed => exact .fail _
  | opened reader => exact .pure reader

/-- A read brings the same. -/
theorem read_respects (h : device.Respects related) (length room : Nat) :
    Respects related (read device length room) := by
  rw [read_eq]
  split
  · exact .book_bind fun book => .fail _
  · refine (reader_respects .tell).bind fun reader =>
      (Window.tell_respects h reader.window).bind fun position => ?_
    dsimp only
    split
    · exact .pure []
    · refine (Respects.call (h.read _) reader.window.name .read).bind fun bytes => ?_
      exact (Respects.report _).bind fun _ => .pure bytes

/-- Equal inputs in related worlds are level, and the other way around. -/
theorem level_iff {f g : Frame Input σ} :
    Level (Bond.level related) related f g ↔ Joined Eq related f g :=
  ⟨fun h => ⟨h.1, h.2.1⟩, fun h => ⟨h.1, h.2, fun _ => ⟨0, h.2⟩⟩⟩

/-- Closing comes to the same. -/
theorem close_respects (h : device.Respects related) : Respects related (close device) := by
  refine .of_together FileError.wordless ?_
  refine ((close_level h.whole).starting fun _ _ => level_iff.mpr).widening fun _ _ => level_iff.mp

/-- So does giving the input up. -/
theorem drop_respects (h : device.Respects related) (unwinding : Bool) :
    Respects related (drop device unwinding : Action ε Input σ Unit) := by
  refine .book_bind fun book => ?_
  cases book with
  | closed => exact .pure ()
  | opened reader =>
    refine (close_respects h).observe.bind fun outcome => ?_
    cases outcome with
    | ok => exact .pure ()
    | error error => exact .report _

/-- Every operation on an input comes to the same from related worlds. -/
theorem perform_respects (h : device.Respects related) (operation : Operation) :
    Respects related (perform device operation) := by
  refine .of_together Problem.wordless ?_
  refine ((perform_level h.reads h.whole operation).starting fun f g hframes => ?_).widening
    fun _ _ => level_iff.mp
  refine ⟨level_iff.mpr hframes, ?_⟩
  rintro reader - distance whence - raw ⟨cursor, -, hraw⟩
  exact (Extent.destination_eq_ok_iff.mp hraw).2.2.2.2.1

end Input

/-! ## Outputs -/

namespace Output

/-- An output that is opened is the same from related worlds. -/
theorem attach_respects (h : device.Respects related) (name : String) :
    Respects related (attach device name : Action FileError ρ σ Output) :=
  (Respects.call h.size name .querySize).bind fun _ =>
    ((Respects.report _).bind fun _ => .pure _).bind fun _ => .pure _

/-- An operation that asks for an open output finds the same one. -/
theorem writer_respects (operation : OpenOperation) :
    Respects related (Output.writer operation : Action FileError Output σ Writer) := by
  refine .book_bind fun book => ?_
  cases book with
  | closed => exact .fail _
  | opened writer => exact .pure writer

/-- A write comes to the same. -/
theorem write_respects (h : device.Respects related) (buffer : Bytes) (length : Nat) :
    Respects related (write device buffer length) := by
  refine (writer_respects .write).bind fun writer => ?_
  split
  · exact .pure ()
  split
  · exact .fail _
  refine (Respects.call (h.write _) writer.window.name .write).bind fun _ => ?_
  split
  · exact (Respects.setBook _).bind fun _ => .report _
  · exact .overflow

/-- Equal outputs in related worlds are level, and the other way around. -/
theorem level_iff {f g : Frame Output σ} :
    Level (Bond.level related) related f g ↔ Joined Eq related f g :=
  ⟨fun h => ⟨h.1, h.2.1⟩, fun h => ⟨h.1, h.2, fun _ => h.2⟩⟩

/-- Closing comes to the same. -/
theorem close_respects (h : device.Respects related) : Respects related (close device) := by
  refine .of_together FileError.wordless ?_
  exact ((close_level h.writes h.whole).starting fun _ _ => level_iff.mpr).widening
    fun _ _ => level_iff.mp

/-- So does giving the output up. -/
theorem drop_respects (h : device.Respects related) (unwinding : Bool) :
    Respects related (drop device unwinding : Action ε Output σ Unit) := by
  refine .book_bind fun book => ?_
  cases book with
  | closed => exact .pure ()
  | opened writer =>
    refine (close_respects h).observe.bind fun outcome => ?_
    cases outcome with
    | ok => exact .pure ()
    | error error => exact .report _

/-- So does letting go of the device. -/
theorem detach_respects (h : device.Respects related) : Respects related (detach device) :=
  (writer_respects .intoStream).bind fun writer =>
    (Respects.call h.flush writer.window.name .flush).bind fun _ => .setBook Output.closed

/-- Every operation on an output comes to the same from related worlds. -/
theorem perform_respects (h : device.Respects related) (operation : Operation) :
    Respects related (perform device operation) := by
  refine .of_together Problem.wordless ?_
  refine ((perform_level h.writes h.whole operation).starting fun f g hframes => ?_).widening
    fun _ _ => level_iff.mp
  refine ⟨level_iff.mpr hframes, fun writer _ => ⟨⟨0, hframes.2⟩, ?_⟩⟩
  rintro distance whence - raw ⟨cursor, -, hraw⟩
  exact (Extent.destination_eq_ok_iff.mp hraw).2.2.2.2.1

end Output

/-! ## Copies -/

theorem Adapter.read_respects (h : device.Respects related) (length : Nat) :
    Respects related (Adapter.read device length) :=
  (Input.read_respects h _ _).mapError Fault.carried

theorem Adapter.write_respects (h : device.Respects related) (bytes : Bytes) :
    Respects related (Adapter.write device bytes) :=
  ((Output.write_respects h _ _).mapError Fault.carried).bind fun _ => .pure _

theorem Adapter.writeAll_respects (h : device.Respects related) (bytes : Bytes) :
    Respects related (Adapter.writeAll device bytes) :=
  (Respects.patience h).bind fun _ => Transfer.drain_respects (Adapter.write_respects h) _ bytes

namespace Copy

variable {source target : Device σ} (hsource : source.Respects related)
  (htarget : target.Respects related)

include hsource

/-- Copies are given the same number of rounds. -/
theorem rounds_respects :
    Respects related
      (Action.onFirst (Adapter.rounds source) : Action ε (Input × Output) σ Nat) :=
  .onFirst <| .book_bind fun _ => (Respects.patience hsource).bind fun _ => .pure _

include htarget

/-- A copy by the operations of the resources comes to the same from related worlds. -/
theorem inChunks_respects (chunk : Nat) : Respects related (inChunks source target chunk) :=
  (rounds_respects hsource).bind fun rounds => Transfer.pump_respects
    (fun _ => .onFirst (Input.read_respects hsource _ _))
    (fun _ => .onSecond (Output.write_respects htarget _ _)) chunk rounds 0

/-- So does a copy through adapters. -/
theorem adapted_respects : Respects related (adapted source target) :=
  (rounds_respects hsource).bind fun rounds => Transfer.pump_respects
    (fun length => .onFirst (Adapter.read_respects hsource length))
    (fun bytes => .onSecond (Adapter.writeAll_respects htarget bytes)) adaptedChunk rounds 0

end Copy

end FileWindow

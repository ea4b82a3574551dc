import FileWindow.Proofs.Interruptions
import FileWindow.Session.Run

/-!
# Sessions that are not disturbed

A session on streams does the same whether or not its streams are interrupted.  Two sessions whose
streams are the same once they are calm answer every step alike, show the same resources after it,
and leave the same streams in the end, but for the interruptions that nobody came across.

Main definitions:

- Definition Step.calm: a step without the interruptions of the stream that it brings along.
- Definition Step.isOnStreams: the steps about inputs and outputs on streams.
- Definition Session.Alike: sessions that are the same once their streams are calm.
- Definition Session.Agreed: results of steps that belong together.
- Definition Session.seen: what is seen of a session.

Main results:

- Theorem Session.perform_agreed: a step does the same in sessions that are alike.
- Theorem Session.run_eq_of_calm: so does a whole session.
-/

namespace FileWindow.Session

open FileWindow.Action (Respects)

variable {ε ρ α β γ : Type}

/-! ## Steps on streams -/

namespace Step

/-- A step without the interruptions in the plans of the stream that it brings along. -/
def calm : Step → Step
  | .inputStream name label stream => .inputStream name label stream.calm
  | .outputStream name label stream => .outputStream name label stream.calm
  | step => step

/-- Whether a step is about inputs and outputs on streams, and not about files, standard output or
bare devices. -/
def isOnStreams : Step → Bool
  | .inputStream .. | .outputStream .. | .newInput .. | .newOutput .. | .use .. | .descriptor _
  | .streamData _ | .intoStream _ | .copy .. | .drop .. | .resizeStream .. => true
  | _ => false

end Step

/-! ## Results that belong together -/

/-- Results that belong together: both are there and belong together, or both sessions have come to
the same halt. -/
inductive Agreed (together : α → β → Prop) : Except Halt α → Except Halt β → Prop
  | answered {x : α} {y : β} (h : together x y) : Agreed together (.ok x) (.ok y)
  | halted (halt : Halt) : Agreed together (.error halt) (.error halt)

/-- Results that belong together still do after steps that keep it so. -/
theorem Agreed.bind {α' β' : Type} {together : α → α' → Prop} {later : β → β' → Prop}
    {result : Except Halt α} {result' : Except Halt α'} {next : α → Except Halt β}
    {next' : α' → Except Halt β'} (h : Agreed together result result')
    (hnext : ∀ x y, together x y → Agreed later (next x) (next' y)) :
    Agreed later (result >>= next) (result' >>= next') := by
  cases h with
  | answered hxy => exact hnext _ _ hxy
  | halted halt => exact .halted halt

/-! ## Sessions that are alike -/

/-- Whether a slot holds an input or an output. -/
def Slot.isWindowed : Slot → Bool
  | bare _ => false
  | _ => true

/-- Sessions with the same inputs and outputs in worlds that are the same once their streams are
calm; there are no bare devices. -/
structure Alike (session session' : Session) : Prop where
  world : session.world.calm = session'.world.calm
  slots : session.slots = session'.slots
  windowed : ∀ entry ∈ session.slots, entry.2.isWindowed = true

/-- The answers are the same, and the sessions are alike. -/
def SameStep (stepped stepped' : α × Session) : Prop :=
  stepped.1 = stepped'.1 ∧ stepped.2.Alike stepped'.2

namespace Alike

variable {session session' : Session}

theorem setWorld (h : session.Alike session') {world world' : World}
    (hworld : world.calm = world'.calm) :
    (session.setWorld world).Alike (session'.setWorld world') :=
  ⟨hworld, h.slots, h.windowed⟩

theorem eraseSlot (h : session.Alike session') (name : String) :
    (session.eraseSlot name).Alike (session'.eraseSlot name) := by
  refine ⟨h.world, congrArg (Slots.erase · name) h.slots, fun entry hentry => ?_⟩
  exact h.windowed entry (List.mem_filter.mp hentry).1

theorem setSlot (h : session.Alike session') (name : String) {slot : Slot}
    (hslot : slot.isWindowed = true) :
    (session.setSlot name slot).Alike (session'.setSlot name slot) := by
  refine ⟨h.world, congrArg (Slots.insert · name slot) h.slots, fun entry hentry => ?_⟩
  rcases List.mem_cons.mp hentry with rfl | hentry
  · exact hslot
  · exact h.windowed entry (List.mem_filter.mp hentry).1

/-- What a name stands for is the same. -/
theorem lookup (h : session.Alike session') (name : String) :
    session'.slots.lookup name = session.slots.lookup name := by
  rw [h.slots]

theorem isWindowed_of_lookup (h : session.Alike session') {name : String} {slot : Slot}
    (hslot : session.slots.lookup name = some slot) : slot.isWindowed = true := by
  obtain ⟨before, behind, hslots, -⟩ := List.lookup_eq_some_iff.mp hslot
  refine h.windowed (name, slot) ?_
  rw [hslots]
  exact List.mem_append_right before List.mem_cons_self

/-- The slot of a name is the same, if there is one. -/
theorem slot (h : session.Alike session') (name : String) :
    Agreed (fun slot slot' => slot = slot' ∧ slot.isWindowed = true) (session.slot name)
      (session'.slot name) := by
  simp only [Session.slot, h.lookup name]
  cases hslot : session.slots.lookup name with
  | none => exact .halted _
  | some slot => exact .answered ⟨rfl, h.isWindowed_of_lookup hslot⟩

/-- The streams of a number are the same once they are calm. -/
theorem stream (h : session.Alike session') (index : Nat) :
    (session.world.stream index).calm = (session'.world.stream index).calm := by
  rw [← World.stream_calm, ← World.stream_calm, h.world]

/-- What is shown of a resource is the same. -/
theorem shown (h : session.Alike session') (name : Option String) :
    session.shown name = session'.shown name := by
  have hraw : ∀ backing, rawState session.world backing = rawState session'.world backing := by
    intro backing
    cases backing with
    | stream index =>
      have hstream := h.stream index
      have hcursor := congrArg Stream.cursor hstream
      have hdata := congrArg (fun stream => stream.data.length) hstream
      exact congrArg some (Prod.ext hcursor hdata)
    | file | console | nothing => rfl
  have hsnapshot : ∀ slot : Slot, slot.snapshot session.world = slot.snapshot session'.world := by
    intro slot
    cases slot <;> simp only [Slot.snapshot, hraw]
  cases name with
  | none => rfl
  | some name =>
    simp only [Session.shown, h.lookup name, Option.bind_eq_bind, Option.bind_some, hsnapshot]

/-- A stream that is added gets the same number. -/
theorem addStream (h : session.Alike session') {stream stream' : Stream}
    (hstream : stream.calm = stream'.calm) :
    SameStep (session.addStream stream) (session'.addStream stream') := by
  refine ⟨?_, h.setWorld ?_⟩
  · have hlengths := congrArg (fun world => world.streams.length) h.world
    simp only [World.calm, List.length_map] at hlengths
    exact hlengths
  · rw [World.addStream_calm, World.addStream_calm, h.world, hstream]

/-- An action that cannot tell worlds apart by their interruptions does the same. -/
theorem act (h : session.Alike session') (book : ρ) {action : Action ε ρ World α}
    (haction : Respects (fun world world' => world.calm = world'.calm) action) :
    Agreed (fun x y => x.1 = y.1 ∧ SameStep x.2 y.2) (session.act book action)
      (session'.act book action) := by
  have hresults := haction ⟨book, session.world, session.journal⟩
    ⟨book, session'.world, session'.journal⟩ ⟨rfl, h.world⟩
  simp only [Session.act]
  generalize action ⟨book, session.world, session.journal⟩ = result,
    action ⟨book, session'.world, session'.journal⟩ = result' at hresults
  cases hresults with
  | answered hsame =>
    exact .answered ⟨congrArg Except.ok hsame.1, hsame.2.1, hsame.2.2, h.slots, h.windowed⟩
  | failed he hframes =>
    exact .answered ⟨congrArg Except.error he, hframes.1, hframes.2, h.slots, h.windowed⟩
  | overflowed => exact .halted .overflow
  | stalled => exact .halted .stalled

/-! ### Giving resources up and opening them -/

/-- Inputs and outputs are given up alike. -/
theorem dropSlot (h : session.Alike session') (unwinding : Bool) {slot : Slot}
    (hslot : slot.isWindowed = true) :
    Agreed Alike (session.dropSlot unwinding slot) (session'.dropSlot unwinding slot) := by
  cases slot with
  | input book backing =>
    refine (h.act book (Input.drop_respects (World.device_respects backing) unwinding)).bind ?_
    exact fun x y hxy => .answered hxy.2.2
  | output book backing =>
    refine (h.act book (Output.drop_respects (World.device_respects backing) unwinding)).bind ?_
    exact fun x y hxy => .answered hxy.2.2
  | bare backing => cases hslot

/-- Inputs and outputs are put in place alike. -/
theorem place (h : session.Alike session') (name : String) {slot : Slot}
    (hslot : slot.isWindowed = true) :
    Agreed Alike (session.place name slot) (session'.place name slot) := by
  simp only [Session.place, h.lookup name]
  cases hold : session.slots.lookup name with
  | none => exact .answered (h.setSlot name hslot)
  | some old => exact (h.setSlot name hslot).dropSlot false (h.isWindowed_of_lookup hold)

/-- What is opened as an input or an output is one. -/
theorem isWindowed_of_ok {make : α → Slot} (hmake : ∀ book, (make book).isWindowed = true)
    {result : Except FileError α} (slot : Slot)
    (h : (result.map make).mapError Problem.error = .ok slot) : slot.isWindowed = true := by
  cases result with
  | ok book =>
    cases h
    exact hmake book
  | error error => cases h

theorem placeOpened (h : session.Alike session') (name : String) {result : Except Problem Slot}
    (hresult : ∀ slot, result = .ok slot → slot.isWindowed = true) :
    Agreed SameStep (Session.placeOpened name result session)
      (Session.placeOpened name result session') := by
  cases result with
  | ok slot =>
    exact (h.place name (hresult slot rfl)).bind fun _ _ hplaced => .answered ⟨rfl, hplaced⟩
  | error problem => exact .answered ⟨rfl, h⟩

/-- An input is opened alike on streams that are the same once they are calm. -/
theorem attachInput (h : session.Alike session') (name label : String) {stream stream' : Stream}
    (hstream : stream.calm = stream'.calm) :
    Agreed SameStep (session.attachInput name label stream)
      (session'.attachInput name label stream') := by
  obtain ⟨hindex, hadded⟩ := h.addStream hstream
  simp only [Session.attachInput, ← hindex]
  refine (hadded.act () (Input.attach_respects (World.device_respects _) label)).bind ?_
  rintro ⟨result, _, opened⟩ ⟨_, _, opened'⟩ ⟨rfl, -, hopened⟩
  exact hopened.placeOpened name (isWindowed_of_ok fun _ => rfl)

theorem attachOutput (h : session.Alike session') (name label : String) {stream stream' : Stream}
    (hstream : stream.calm = stream'.calm) :
    Agreed SameStep (session.attachOutput name label stream)
      (session'.attachOutput name label stream') := by
  obtain ⟨hindex, hadded⟩ := h.addStream hstream
  simp only [Session.attachOutput, ← hindex]
  refine (hadded.act () (Output.attach_respects (World.device_respects _) label)).bind ?_
  rintro ⟨result, _, opened⟩ ⟨_, _, opened'⟩ ⟨rfl, -, hopened⟩
  exact hopened.placeOpened name (isWindowed_of_ok fun _ => rfl)

theorem placeClosedInput (h : session.Alike session') (name : String) (kind : ResourceKind) :
    Agreed SameStep (session.placeClosedInput name kind) (session'.placeClosedInput name kind) := by
  have hwindowed : ∀ backing slot,
      (.ok (.input .closed backing) : Except Problem Slot) = .ok slot → slot.isWindowed = true := by
    rintro backing _ ⟨⟩
    rfl
  cases kind with
  | file => exact h.placeOpened name (hwindowed _)
  | stream =>
    have hplain : (Stream.plain [] 0).calm = (Stream.plain [] 0).calm := rfl
    obtain ⟨hindex, hadded⟩ := h.addStream hplain
    have hplaced := hadded.placeOpened name (hwindowed (.stream (session.addStream (.plain [] 0)).1))
    simp only [Session.placeClosedInput, Session.closedBacking, ← hindex]
    exact hplaced

/-! ### Using resources -/

theorem actInput (h : session.Alike session') (name : String) (book : Input) (backing : Backing)
    {action : Action Problem Input World Value}
    (haction : Respects (fun world world' => world.calm = world'.calm) action) :
    Agreed SameStep (session.actInput name book backing action)
      (session'.actInput name book backing action) := by
  refine (h.act book haction).bind ?_
  rintro ⟨answer, book, after⟩ ⟨_, _, after'⟩ ⟨rfl, rfl, hafter⟩
  exact .answered ⟨rfl, hafter.setSlot name rfl⟩

theorem actOutput (h : session.Alike session') (name : String) (book : Output) (backing : Backing)
    {action : Action Problem Output World Value}
    (haction : Respects (fun world world' => world.calm = world'.calm) action) :
    Agreed SameStep (session.actOutput name book backing action)
      (session'.actOutput name book backing action) := by
  refine (h.act book haction).bind ?_
  rintro ⟨answer, book, after⟩ ⟨_, _, after'⟩ ⟨rfl, rfl, hafter⟩
  exact .answered ⟨rfl, hafter.setSlot name rfl⟩

/-- A request is answered alike. -/
theorem use (h : session.Alike session') (name : String) (request : Request) :
    Agreed SameStep (session.use name request) (session'.use name request) := by
  refine (h.slot name).bind ?_
  rintro slot _ ⟨rfl, hslot⟩
  cases slot with
  | input book backing =>
    dsimp only
    cases request.toInput with
    | none => exact .halted _
    | some operation =>
      cases operation with
      | error error => exact .answered ⟨rfl, h⟩
      | ok operation =>
        exact h.actInput name book backing
          (Input.perform_respects (World.device_respects backing) operation)
  | output book backing =>
    dsimp only
    cases request.toOutput with
    | none => exact .halted _
    | some operation =>
      cases operation with
      | error error => exact .answered ⟨rfl, h⟩
      | ok operation =>
        exact h.actOutput name book backing
          (Output.perform_respects (World.device_respects backing) operation)
  | bare backing => cases hslot

theorem descriptor (h : session.Alike session') (name : String) :
    Agreed SameStep (session.descriptor name) (session'.descriptor name) := by
  refine (h.slot name).bind ?_
  rintro slot _ ⟨rfl, -⟩
  cases slot <;> exact .answered ⟨rfl, h⟩

/-- What a stream holds is the same. -/
theorem streamData (h : session.Alike session') (name : String) :
    Agreed SameStep (session.streamData name) (session'.streamData name) := by
  refine (h.slot name).bind ?_
  rintro slot _ ⟨rfl, -⟩
  cases slot with
  | output book backing =>
    cases backing with
    | stream index =>
      have hdata := congrArg Stream.data (h.stream index)
      dsimp only
      split
      · exact .answered ⟨congrArg (Except.ok ∘ Value.bytes) hdata, h⟩
      · exact .answered ⟨rfl, h⟩
    | nothing => exact .answered ⟨rfl, h⟩
    | file | console => exact .halted _
  | input | bare => exact .halted _

/-- An output is given up for its stream alike, and what is left of it is dropped alike. -/
theorem intoStream (h : session.Alike session') (name : String) :
    Agreed SameStep (session.intoStream name) (session'.intoStream name) := by
  refine (h.slot name).bind ?_
  rintro slot _ ⟨rfl, -⟩
  cases slot with
  | input | bare => exact .halted _
  | output book backing =>
    have hdetach := h.act book (Output.detach_respects (World.device_respects backing))
    cases backing with
    | file | console => exact .halted _
    | stream index =>
      refine hdetach.bind ?_
      rintro ⟨result, book, after⟩ ⟨_, _, after'⟩ ⟨rfl, rfl, hafter⟩
      refine ((hafter.eraseSlot name).dropSlot false rfl).bind fun left left' hleft => ?_
      cases result with
      | ok =>
        refine .answered ⟨?_, hleft⟩
        have hstream := hleft.stream index
        have hcursor := congrArg Stream.cursor hstream
        have hdata := congrArg Stream.data hstream
        exact congrArg Except.ok (congr (congrArg Value.contents hcursor) hdata)
      | error error => exact .answered ⟨rfl, hleft⟩
    | nothing =>
      refine hdetach.bind ?_
      rintro ⟨result, book, after⟩ ⟨_, _, after'⟩ ⟨rfl, rfl, hafter⟩
      refine ((hafter.eraseSlot name).dropSlot false rfl).bind fun left left' hleft => ?_
      cases result with
      | ok => exact .answered ⟨rfl, hleft⟩
      | error error => exact .answered ⟨rfl, hleft⟩

/-- A copy is made alike. -/
theorem copy (h : session.Alike session') (source target : String) (chunk : Option Nat) :
    Agreed SameStep (session.copy source target chunk) (session'.copy source target chunk) := by
  refine (h.slot source).bind ?_
  rintro first _ ⟨rfl, -⟩
  refine (h.slot target).bind ?_
  rintro second _ ⟨rfl, -⟩
  cases first with
  | output | bare => exact .halted _
  | input input reading =>
    cases second with
    | input | bare => exact .halted _
    | output output writing =>
      have hreading := World.device_respects reading
      have hwriting := World.device_respects writing
      refine (h.act (input, output) ?_).bind ?_
      · cases chunk with
        | some chunk =>
          exact ((Copy.inChunks_respects hreading hwriting chunk).mapError Problem.error).map _
        | none => exact ((Copy.adapted_respects hreading hwriting).mapError Problem.fault).map _
      · rintro ⟨answer, books, after⟩ ⟨_, _, after'⟩ ⟨rfl, rfl, hafter⟩
        exact .answered ⟨rfl, (hafter.setSlot source rfl).setSlot target rfl⟩

/-- The data of a stream get another length alike. -/
theorem resizeStream (h : session.Alike session') (name : String) (length : Nat) :
    Agreed SameStep (session.resizeStream name length) (session'.resizeStream name length) := by
  refine (h.slot name).bind ?_
  rintro slot _ ⟨rfl, -⟩
  dsimp only
  cases slot.backing with
  | file | console => exact .halted _
  | nothing => exact .answered ⟨rfl, h⟩
  | stream index =>
    refine .answered ⟨rfl, h.setWorld ?_⟩
    have hresized : ((session.world.stream index).resize length).calm =
        ((session'.world.stream index).resize length).calm :=
      congrArg (Stream.resize · length) (h.stream index)
    rw [World.setStream_calm, World.setStream_calm, h.world, hresized]

end Alike

/-! ## Steps and sessions -/

variable {session session' : Session}

/-- A step does the same in sessions that are alike, and so does the step with a calm stream. -/
theorem perform_agreed (h : session.Alike session') {step : Step}
    (hstep : step.isOnStreams = true) :
    Agreed SameStep (session.perform step) (session'.perform step.calm) := by
  have hcalm : ∀ stream : Stream, stream.calm = stream.calm.calm := by
    intro stream
    simp [Stream.calm, Reply.calm]
  cases step with
  | inputStream name label stream => exact h.attachInput name label (hcalm stream)
  | outputStream name label stream => exact h.attachOutput name label (hcalm stream)
  | newInput name kind => exact h.placeClosedInput name kind
  | newOutput name kind =>
    have hclosed : ∀ slot, (.ok (.output .closed .nothing) : Except Problem Slot) = .ok slot →
        slot.isWindowed = true := by
      rintro _ ⟨⟩
      rfl
    exact h.placeOpened name hclosed
  | use name request => exact h.use name request
  | descriptor name => exact h.descriptor name
  | streamData name => exact h.streamData name
  | intoStream name => exact h.intoStream name
  | copy source target chunk => exact h.copy source target chunk
  | drop name unwinding =>
    refine (h.slot name).bind ?_
    rintro slot _ ⟨rfl, hslot⟩
    exact ((h.eraseSlot name).dropSlot unwinding hslot).bind fun _ _ hdropped =>
      .answered ⟨rfl, hdropped⟩
  | resizeStream name length => exact h.resizeStream name length
  | _ => exact absurd hstep Bool.false_ne_true

/-- A step is about the same resources with a calm stream. -/
theorem Step.resource_calm (step : Step) : step.calm.resource = step.resource := by
  cases step <;> rfl

theorem Step.second_calm (step : Step) : step.calm.second = step.second := by
  cases step <;> rfl

theorem Step.isOnStreams_calm (step : Step) : step.calm.isOnStreams = step.isOnStreams := by
  cases step <;> rfl

/-- So its report is the same. -/
theorem step_agreed (h : session.Alike session') {step : Step}
    (hstep : step.isOnStreams = true) :
    Agreed SameStep (session.step step) (session'.step step.calm) := by
  refine (perform_agreed h hstep).bind ?_
  rintro ⟨answer, after⟩ ⟨_, after'⟩ ⟨rfl, hafter⟩
  refine .answered ⟨?_, hafter⟩
  simp only [step.resource_calm, step.second_calm, hafter.shown]

/-- One after the other, the steps do the same. -/
theorem runSteps_agreed (h : session.Alike session') {steps : List Step}
    (hsteps : ∀ step ∈ steps, step.isOnStreams = true) :
    Agreed SameStep (session.runSteps steps) (session'.runSteps (steps.map Step.calm)) := by
  induction steps generalizing session session' with
  | nil => exact .answered ⟨rfl, h⟩
  | cons step rest ih =>
    rcases List.forall_mem_cons.mp hsteps with ⟨hstep, hrest⟩
    refine (step_agreed h hstep).bind ?_
    rintro ⟨report, after⟩ ⟨_, after'⟩ ⟨rfl, hafter⟩
    refine (ih hafter hrest).bind ?_
    rintro ⟨reports, last⟩ ⟨_, last'⟩ ⟨rfl, hlast⟩
    exact .answered ⟨rfl, hlast⟩

/-- What is left is given up alike. -/
theorem dropAll_agreed (h : session.Alike session') :
    Agreed Alike session.dropAll session'.dropAll := by
  have hdrops : ∀ (entries : Slots) {left left' : Session}, left.Alike left' →
      (∀ entry ∈ entries, entry.2.isWindowed = true) →
      Agreed Alike
        (entries.foldlM (fun session entry => session.dropSlot false entry.2) left)
        (entries.foldlM (fun session entry => session.dropSlot false entry.2) left') := by
    intro entries
    induction entries with
    | nil => exact fun hleft _ => .answered hleft
    | cons entry rest ih =>
      intro left left' hleft hwindowed
      rcases List.forall_mem_cons.mp hwindowed with ⟨hentry, hrest⟩
      rw [List.foldlM_cons, List.foldlM_cons]
      exact (hleft.dropSlot false hentry).bind fun _ _ hdropped => ih hdropped hrest
  simp only [dropAll, ← h.slots]
  refine hdrops session.slots.sorted ⟨h.world, rfl, by simp⟩ fun entry hentry => ?_
  exact h.windowed entry (List.mem_mergeSort.mp hentry)

/-- What standard output keeps back is passed on alike. -/
theorem flushConsole_alike (h : session.Alike session') :
    session.flushConsole.Alike session'.flushConsole := by
  have hconsole : session'.world.console = session.world.console :=
    (congrArg World.console h.world).symm
  simp only [flushConsole, hconsole]
  cases Console.flush session.world.console with
  | ok value console => exact h.setWorld (congrArg (World.setConsole console) h.world)
  | error fault console => exact h.setWorld (congrArg (World.setConsole console) h.world)

/-- A whole session comes to what it comes to with calm streams. -/
theorem run_agreed {world world' : World} (hworld : world.calm = world'.calm) {steps : List Step}
    (hsteps : ∀ step ∈ steps, step.isOnStreams = true) :
    Agreed SameStep (run world steps) (run world' (steps.map Step.calm)) := by
  have halike : Alike ⟨world, [], []⟩ ⟨world', [], []⟩ := ⟨hworld, rfl, by simp⟩
  refine (runSteps_agreed halike hsteps).bind ?_
  rintro ⟨reports, after⟩ ⟨_, after'⟩ ⟨rfl, hafter⟩
  exact (dropAll_agreed hafter).bind fun _ _ hdropped =>
    .answered ⟨rfl, flushConsole_alike hdropped⟩

/-- What is seen of a session: what its steps answered and what was shown after each, and the world
that it leaves, but for interruptions that nobody came across. -/
def seen (ran : List Report × Session) : List Report × World :=
  (ran.1, ran.2.world.calm)

/-- Of results that belong together the same is seen. -/
theorem Agreed.map_seen {result result' : Except Halt (List Report × Session)}
    (h : Agreed SameStep result result') : result.map seen = result'.map seen := by
  cases h with
  | answered hsame => exact congrArg Except.ok (Prod.ext hsame.1 hsame.2.world)
  | halted halt => rfl

/-- No interruption is ever seen.  Whatever interruptions there are in the plans for reads and writes
of the streams of a session, every step answers the same or fails alike, shows the same resources
with their extents and counts, cursors and sizes, and the streams hold the same in the end. -/
theorem run_eq_of_calm {world world' : World} {steps steps' : List Step}
    (hworld : world.calm = world'.calm) (hsteps : steps.map Step.calm = steps'.map Step.calm)
    (hstreams : ∀ step ∈ steps, step.isOnStreams = true) :
    (run world steps).map seen = (run world' steps').map seen := by
  have hstreams' : ∀ step ∈ steps', step.isOnStreams = true := by
    intro step hstep
    have hmem : step.calm ∈ steps.map Step.calm := hsteps ▸ List.mem_map_of_mem hstep
    obtain ⟨twin, htwin, hcalm⟩ := List.mem_map.mp hmem
    rw [← step.isOnStreams_calm, ← hcalm, twin.isOnStreams_calm]
    exact hstreams twin htwin
  calc (run world steps).map seen
      = (run world (steps.map Step.calm)).map seen := (run_agreed rfl hstreams).map_seen
    _ = (run world (steps'.map Step.calm)).map seen := by rw [hsteps]
    _ = (run world' steps').map seen := (run_agreed hworld.symm hstreams').map_seen.symm

/-- A result that is an answer is one. -/
theorem exists_of_isOk {result : Except ε α} (h : result.isOk = true) :
    ∃ answer, result = .ok answer := by
  cases result with
  | ok answer => exact ⟨answer, rfl⟩
  | error reason => cases h

/-- A copy from an input whose reads are cut short to an output whose writes are, and a write and a
read that close them, with and without interruptions. -/
theorem run_eq_of_calm_of_copy :
    ∃ answer,
      (run (World.fresh .file)
        [.inputStream "source" "in"
            { Stream.plain [1, 2, 3, 4, 5] 0 with
              readPlan := [.fails (.plain .interrupted), .number 2, .fails (.system 4)] },
          .outputStream "target" "out"
            { Stream.plain [] 0 with
              writePlan := [.number 1, .fails (.system 4), .fails (.plain .interrupted)] },
          .use "source" (.setExtent 1 (.bytes 4)), .use "source" (.seek 0 (.named .start)),
          .copy "source" "target" (some 3), .use "target" (.writeThenClose [6, 7] none),
          .use "source" (.readThenClose 1), .drop "source" false, .drop "target" false]).map seen =
        .ok answer ∧
      (run (World.fresh .file)
        [.inputStream "source" "in" { Stream.plain [1, 2, 3, 4, 5] 0 with readPlan := [.number 2] },
          .outputStream "target" "out" { Stream.plain [] 0 with writePlan := [.number 1] },
          .use "source" (.setExtent 1 (.bytes 4)), .use "source" (.seek 0 (.named .start)),
          .copy "source" "target" (some 3), .use "target" (.writeThenClose [6, 7] none),
          .use "source" (.readThenClose 1), .drop "source" false, .drop "target" false]).map seen =
        .ok answer := by
  obtain ⟨answer, hanswer⟩ := exists_of_isOk
    (by decide +kernel : ((run (World.fresh .file)
      [.inputStream "source" "in" { Stream.plain [1, 2, 3, 4, 5] 0 with readPlan := [.number 2] },
        .outputStream "target" "out" { Stream.plain [] 0 with writePlan := [.number 1] },
        .use "source" (.setExtent 1 (.bytes 4)), .use "source" (.seek 0 (.named .start)),
        .copy "source" "target" (some 3), .use "target" (.writeThenClose [6, 7] none),
        .use "source" (.readThenClose 1), .drop "source" false,
        .drop "target" false]).map seen).isOk = true)
  refine ⟨answer, Eq.trans ?_ hanswer, hanswer⟩
  exact run_eq_of_calm rfl rfl (by decide)

end FileWindow.Session

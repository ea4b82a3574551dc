import FileWindow.Proofs.Parts
import FileWindow.Proofs.Respecting
import FileWindow.Proofs.StreamCalls

/-!
# Interruptions

A stream may be interrupted wherever its plans for reads and writes say so.  No interruption is ever
seen: reads are made again, and writes go on with the bytes that were not yet accepted.  So a stream
does what the calm stream does, which has the same plans without the interruptions; streams that are
the same once they are calm cannot be told apart, and nor can worlds.

Main definitions:

- Definition Stream.calm, World.calm: streams and worlds without the interruptions in their plans.

Main results:

- Theorem Stream.readPatiently_calm: a read brings what the calm stream brings.
- Theorem Stream.writeBy_calm: a write leaves what it leaves of the calm stream.
- Theorem World.device_respects: worlds that are the same once calm cannot be told apart.
-/

namespace FileWindow

/-! ## Calm streams -/

/-- Whether an entry of a plan is an interruption. -/
def Reply.interrupts : Reply → Bool
  | .fails fault => fault.isInterruption
  | _ => false

/-- A plan without its interruptions. -/
def Reply.calm (plan : List Reply) : List Reply :=
  plan.filter fun reply => !reply.interrupts

namespace Stream

/-- A stream without the interruptions in its plans for reads and writes. -/
def calm (stream : Stream) : Stream :=
  { stream with
    readPlan := Reply.calm stream.readPlan
    writePlan := Reply.calm stream.writePlan }

/-! ### Calls that look at neither plan -/

theorem move_calm (stream : Stream) (target : RawSeek) :
    stream.calm.move target = Call.placed calm (stream.move target) := by
  have htarget : stream.calm.target target = stream.target target := by
    cases target <;> rfl
  have hseekable : stream.calm.seekable = stream.seekable := rfl
  simp only [move, htarget, hseekable]
  split
  · rfl
  · split <;> rfl

theorem seek_calm (target : RawSeek) (stream : Stream) :
    seek target stream.calm = Call.placed calm (seek target stream) := by
  have hplan : stream.calm.seekPlan = stream.seekPlan := rfl
  simp only [seek, hplan]
  cases stream.seekPlan with
  | nil => exact move_calm stream target
  | cons reply rest =>
    cases reply with
    | asUsual => exact move_calm { stream with seekPlan := rest } target
    | number | fails => rfl

theorem size_calm (stream : Stream) : size stream.calm = Call.placed calm (size stream) := by
  simp only [size, seek_calm]
  cases seek (.current 0) stream with
  | error fault after => rfl
  | ok saved between =>
    simp only [Call.placed, seek_calm]
    cases seek (.finish 0) between with
    | error fault after => rfl
    | ok length behind =>
      simp only [Call.placed, seek_calm]
      cases seek (.start saved) behind <;> rfl

theorem flush_calm (stream : Stream) : flush stream.calm = Call.placed calm (flush stream) := by
  have hplan : stream.calm.flushPlan = stream.flushPlan := rfl
  simp only [flush, hplan]
  cases stream.flushPlan with
  | nil => rfl
  | cons reply rest => cases reply <;> rfl

/-! ### Reading -/

/-- A calm stream is never interrupted. -/
theorem read_calm_of_error {stream after : Stream} {length : Nat} {fault : Fault}
    (h : read length stream.calm = .error fault after) : fault.isInterruption = false := by
  have hmem : Reply.fails fault ∈ Reply.calm stream.readPlan := by
    have hplan : Reply.calm stream.readPlan = .fails fault :: after.readPlan := (read_of_error h).1
    rw [hplan]
    exact List.mem_cons_self
  simpa [Reply.interrupts] using (List.mem_filter.mp hmem).2

/-- What a read brings that is made again often enough, one read brings of the calm stream. -/
theorem readRetrying_calm (stream : Stream) (length : Nat) {plan : List Reply} {retries : Nat}
    (hretries : plan.length ≤ retries) :
    read length { stream with readPlan := plan }.calm =
      Call.placed calm (device.readRetrying length retries { stream with readPlan := plan }) := by
  induction plan generalizing retries with
  | nil => cases retries <;> rfl
  | cons reply rest ih =>
    obtain ⟨retries, rfl⟩ : ∃ more, retries = more + 1 :=
      Nat.exists_eq_add_one.mpr (Nat.lt_of_lt_of_le (Nat.succ_pos _) hretries)
    cases reply with
    | asUsual | number => rfl
    | fails fault =>
      by_cases hfault : fault.isInterruption = true
      · have hcalm : { stream with readPlan := .fails fault :: rest }.calm =
            { stream with readPlan := rest }.calm := by
          simp [calm, Reply.calm, Reply.interrupts, hfault]
        rw [hcalm, ih (Nat.le_of_succ_le_succ hretries), Device.readRetrying]
        simp only [device, read, hfault, if_true]
      · simp [Device.readRetrying, device, read, calm, Reply.calm, Reply.interrupts, hfault,
          Call.placed]

/-- A read brings what the calm stream brings, and leaves the same of it. -/
theorem readPatiently_calm (length : Nat) (stream : Stream) :
    device.readPatiently length stream.calm =
      Call.placed calm (device.readPatiently length stream) := by
  have hcalm : ∀ retries,
      device.readRetrying length retries stream.calm = read length stream.calm := by
    intro retries
    cases retries with
    | zero => rfl
    | succ retries =>
      simp only [Device.readRetrying, device]
      cases hread : read length stream.calm with
      | ok bytes after => rfl
      | error fault after => simp [read_calm_of_error hread]
  rw [Device.readPatiently, hcalm]
  exact readRetrying_calm stream length (Nat.le_refl _)

/-! ### Writing -/

/-- A write sends on what was not yet accepted, so it leaves what it leaves of the calm stream. -/
theorem writeBy_calm (plan : List Reply) (bytes : Bytes) (stream : Stream) :
    writeBy (Reply.calm plan) bytes stream.calm =
      Call.placed calm (writeBy plan bytes stream) := by
  induction plan generalizing bytes stream with
  | nil =>
    cases bytes with
    | nil => rfl
    | cons byte rest =>
      have haccepted : stream.calm.accepted = stream.accepted := rfl
      simp only [Reply.calm, List.filter_nil, writeBy, haccepted]
      split <;> rfl
  | cons reply plan ih =>
    cases bytes with
    | nil => simp [writeBy, Call.placed, calm]
    | cons byte rest =>
      have haccepted : stream.calm.accepted = stream.accepted := rfl
      -- What one call accepts is the same, and so is what is left to write.
      have hmoving : ∀ count,
          (if count = 0 then
              .error (.plain .writeZero) { stream.calm with writePlan := Reply.calm plan }
            else writeBy (Reply.calm plan) ((byte :: rest).drop count)
              (stream.calm.put ((byte :: rest).take count))) =
            Call.placed calm
              (if count = 0 then .error (.plain .writeZero) { stream with writePlan := plan }
                else writeBy plan ((byte :: rest).drop count)
                  (stream.put ((byte :: rest).take count))) := by
        intro count
        by_cases hcount : count = 0
        · rw [if_pos hcount, if_pos hcount]
          rfl
        · rw [if_neg hcount, if_neg hcount]
          exact ih _ (stream.put ((byte :: rest).take count))
      cases reply with
      | asUsual => exact hmoving (stream.accepted (byte :: rest).length)
      | number most => exact hmoving (min most (stream.accepted (byte :: rest).length))
      | fails fault =>
        by_cases hfault : fault.isInterruption = true
        · have hcalm : Reply.calm (.fails fault :: plan) = Reply.calm plan := by
            simp [Reply.calm, Reply.interrupts, hfault]
          simp only [hcalm, writeBy, hfault, if_true]
          exact ih (byte :: rest) stream
        · simp [Reply.calm, Reply.interrupts, writeBy, hfault, Call.placed, calm]

/-- So does writing all of some bytes. -/
theorem writeAll_calm (bytes : Bytes) (stream : Stream) :
    writeAll bytes stream.calm = Call.placed calm (writeAll bytes stream) :=
  writeBy_calm stream.writePlan bytes stream

end Stream

/-! ## Worlds -/

section Respects

variable {σ τ α : Type}

/-- A call respects the relation of worlds that look the same if it can be made on what they look
like. -/
theorem Call.respects_of_placed {view : σ → τ} {call : Call σ α} {seen : Call τ α}
    (h : ∀ world, seen (view world) = Call.placed view (call world)) :
    Call.Respects (fun w v => view w = view v) call := by
  intro w v hview
  have hcalls : Call.placed view (call w) = Call.placed view (call v) := by
    rw [← h w, ← h v, hview]
  generalize call w = result, call v = result' at hcalls
  cases result with
  | ok x after =>
    cases result' with
    | ok y behind =>
      simp only [Call.placed, EStateM.Result.ok.injEq] at hcalls
      exact .answered hcalls
    | error fault behind => cases hcalls
  | error fault after =>
    cases result' with
    | ok y behind => cases hcalls
    | error fault' behind =>
      simp only [Call.placed, EStateM.Result.error.injEq] at hcalls
      obtain ⟨rfl, hafter⟩ := hcalls
      exact .failed hafter

variable {get : τ → σ} {put : σ → τ → τ} {parts : σ → σ → Prop} {related : τ → τ → Prop}

/-- A call on a part respects a relation of worlds that goes by the relation of their parts. -/
theorem Call.Respects.within {call : Call σ α} (h : Call.Respects parts call)
    (hget : ∀ w v, related w v → parts (get w) (get v))
    (hput : ∀ w v part part', related w v → parts part part' → related (put part w) (put part' v)) :
    Call.Respects related (call.within get put) := by
  intro w v hworlds
  have hcalls := h (get w) (get v) (hget w v hworlds)
  simp only [Call.within]
  generalize call (get w) = result, call (get v) = result' at hcalls
  cases hcalls with
  | answered hanswers => exact .answered ⟨hanswers.1, hput _ _ _ _ hworlds hanswers.2⟩
  | failed hleft => exact .failed (hput _ _ _ _ hworlds hleft)

/-- So does a device, if its reads are made again on the part as they are in the world. -/
theorem Device.Respects.within {device : Device σ} (h : device.Respects parts)
    (hget : ∀ w v, related w v → parts (get w) (get v))
    (hput : ∀ w v part part', related w v → parts part part' → related (put part w) (put part' v))
    (hread : ∀ length, (device.within get put).readPatiently length =
      Call.within get put (device.readPatiently length)) :
    (device.within get put).Respects related where
  seek target := (h.seek target).within hget hput
  size := h.size.within hget hput
  read length := by
    rw [hread]
    exact (h.read length).within hget hput
  write bytes := (h.write bytes).within hget hput
  flush := h.flush.within hget hput
  close := h.close.within hget hput
  patience hworlds := h.patience (hget _ _ hworlds)

end Respects

/-- Calm streams come to the same, whatever interrupts the streams themselves. -/
theorem Stream.device_respects :
    device.Respects (fun stream stream' => stream.calm = stream'.calm) where
  seek target := Call.respects_of_placed (seek_calm target)
  size := Call.respects_of_placed size_calm
  read length := Call.respects_of_placed (readPatiently_calm length)
  write bytes := Call.respects_of_placed (writeAll_calm bytes)
  flush := Call.respects_of_placed flush_calm
  close := fun _ _ h => .answered ⟨rfl, h⟩
  patience := fun h => congrArg (fun stream => stream.seekPlan.length) h

namespace World

/-- A world without the interruptions in the plans of its streams. -/
def calm (world : World) : World :=
  { world with streams := world.streams.map Stream.calm }

theorem stream_calm (world : World) (index : Nat) :
    world.calm.stream index = (world.stream index).calm := by
  simp only [World.stream, calm, List.getD_eq_getElem?_getD, List.getElem?_map]
  cases world.streams[index]? <;> rfl

theorem setStream_calm (index : Nat) (stream : Stream) (world : World) :
    (setStream index stream world).calm = setStream index stream.calm world.calm := by
  simp [calm, setStream, List.map_set]

theorem addStream_calm (stream : Stream) (world : World) :
    (world.addStream stream).calm = world.calm.addStream stream.calm := by
  simp [calm, addStream]

/-- Worlds that are the same once their streams are calm cannot be told apart. -/
theorem device_respects (backing : Backing) :
    (World.device backing).Respects (fun world world' => world.calm = world'.calm) := by
  cases backing with
  | stream index =>
    refine Stream.device_respects.within ?_ ?_ (readPatiently_stream index)
    · intro world world' h
      rw [← stream_calm, ← stream_calm, h]
    · intro world world' stream stream' h hstreams
      rw [setStream_calm, setStream_calm, h, hstreams]
  | file handle =>
    refine (FileSystem.device handle).respects_eq.within ?_ ?_ fun length => ?_
    · exact fun world world' h => congrArg (·.files) h
    · intro world world' files files' h hfiles
      exact (congrArg (setFiles files) h).trans (congrArg (setFiles · world'.calm) hfiles)
    · exact funext fun world =>
        Part.readPatiently_within ⟨fun _ => rfl, fun _ _ => rfl⟩ rfl _ length
  | console =>
    refine Console.device.respects_eq.within ?_ ?_ fun length => ?_
    · exact fun world world' h => congrArg (·.console) h
    · intro world world' console console' h hconsoles
      exact (congrArg (setConsole console) h).trans (congrArg (setConsole · world'.calm) hconsoles)
    · exact funext fun world =>
        Part.readPatiently_within ⟨fun _ => rfl, fun _ _ => rfl⟩ rfl _ length
  | nothing =>
    have hfails : ∀ {α : Type}, Call.Respects (fun world world' => world.calm = world'.calm)
        (throw (.system Errno.badDescriptor) : Call World α) := fun _ _ h => .failed h
    exact ⟨fun _ => hfails, hfails, fun _ => hfails, fun _ => hfails, hfails, hfails, fun _ => rfl⟩

end World

end FileWindow

import FileWindow.World

/-!
# Devices in larger worlds

A device that is part of a larger world does there what it does on its own, and leaves the rest of
the world as it is.  The rest is given by a function that puts a part into it.

Main definitions:

- Definition Call.placed: a result with the part put into its place.
- Definition Part: a part of a larger world, and the rest around it.
- Definition World.withStreams: a world with two of its streams put in place.

Main results:

- Theorem Part.within: a call on the part is a call on the world.
- Theorem Part.readPatiently: so is a read that is made again.
-/

namespace FileWindow

variable {σ τ α : Type}

/-- The result of a call on a part, with the part put into its place. -/
def Call.placed (place : σ → τ) : EStateM.Result Fault σ α → EStateM.Result Fault τ α
  | .ok value part => .ok value (place part)
  | .error fault part => .error fault (place part)

/-- The part that is seen and changed is the one that was put into its place, so the rest of the
world stays as it is. -/
structure Part (get : τ → σ) (put : σ → τ → τ) (place : σ → τ) : Prop where
  get_place : ∀ part, get (place part) = part
  put_place : ∀ part other, put other (place part) = place other

namespace Part

variable {get : τ → σ} {put : σ → τ → τ} {place : σ → τ}

/-- A call on the part is a call on the world. -/
theorem within (h : Part get put place) (call : Call σ α) (part : σ) :
    call.within get put (place part) = Call.placed place (call part) := by
  simp only [Call.within, h.get_place]
  cases call part with
  | ok value after => exact congrArg (EStateM.Result.ok value) (h.put_place part after)
  | error fault after => exact congrArg (EStateM.Result.error fault) (h.put_place part after)

/-- A read that is made again and again is so on the part. -/
theorem readRetrying (h : Part get put place) (device : Device σ) (length retries : Nat)
    (part : σ) :
    (device.within get put).readRetrying length retries (place part) =
      Call.placed place (device.readRetrying length retries part) := by
  induction retries generalizing part with
  | zero => exact h.within (device.read length) part
  | succ retries ih =>
    have hread : (device.within get put).read length (place part) =
        Call.placed place (device.read length part) := h.within (device.read length) part
    simp only [Device.readRetrying, hread]
    cases device.read length part with
    | ok bytes after => rfl
    | error fault after =>
      simp only [Call.placed]
      by_cases hfault : fault.isInterruption = true
      · simp only [hfault, if_true]
        exact ih after
      · simp only [hfault, Bool.false_eq_true, if_false]

/-- So is a read that is made again as long as it is interrupted. -/
theorem readPatiently (h : Part get put place) (device : Device σ) (length : Nat) (part : σ) :
    (device.within get put).readPatiently length (place part) =
      Call.placed place (device.readPatiently length part) := by
  simp only [Device.readPatiently]
  rw [h.readRetrying]
  simp only [Device.within, h.get_place]

/-- Where a world has its own part in place, its reads are made again on the part. -/
theorem readPatiently_within {world : τ} (h : Part get put (put · world))
    (hself : put (get world) world = world) (device : Device σ) (length : Nat) :
    (device.within get put).readPatiently length world =
      Call.within get put (device.readPatiently length) world := by
  have hread := h.readPatiently device length (get world)
  rw [hself] at hread
  rw [hread, Call.within]
  cases device.readPatiently length (get world) <;> rfl

end Part

/-! ## Streams of a world -/

namespace World

/-- A stream that is there can be put into its place. -/
theorem stream_setStream {world : World} {index : Nat} (h : index < world.streams.length)
    (stream : Stream) : (world.setStream index stream).stream index = stream := by
  simp [World.stream, setStream, h]

/-- The other streams stay as they are. -/
theorem stream_setStream_of_ne {index other : Nat} (hne : other ≠ index) (stream : Stream)
    (world : World) : (world.setStream index stream).stream other = world.stream other := by
  simp [World.stream, setStream, List.getElem?_set_ne (Ne.symm hne)]

/-- The last stream put in place counts. -/
theorem setStream_setStream (index : Nat) (first second : Stream) (world : World) :
    setStream index second (setStream index first world) = setStream index second world := by
  simp [setStream]

/-- Streams may be put in place in any order. -/
theorem setStream_comm {index other : Nat} (hne : index ≠ other) (stream stream' : Stream)
    (world : World) :
    setStream index stream (setStream other stream' world) =
      setStream other stream' (setStream index stream world) := by
  simp [setStream, List.set_comm _ _ hne]

/-- Nothing changes where a stream is put in its own place. -/
theorem setStream_stream (index : Nat) (world : World) :
    setStream index (world.stream index) world = world := by
  rcases world with ⟨files, console, streams⟩
  simp only [setStream, World.stream, World.mk.injEq, true_and]
  by_cases h : index < streams.length
  · rw [List.getD_eq_getElem?_getD, List.getElem?_eq_getElem h, Option.getD_some]
    exact List.set_getElem_self h
  · exact List.set_eq_of_length_le (Nat.le_of_not_lt h)

/-- A stream that is there is a part of its world. -/
theorem part_stream {world : World} {index : Nat} (h : index < world.streams.length) :
    Part (·.stream index) (setStream index) (setStream index · world) where
  get_place stream := stream_setStream h stream
  put_place stream other := setStream_setStream index stream other world

/-- Reads of a stream are made again on the stream. -/
theorem readPatiently_stream (index length : Nat) :
    (World.device (.stream index)).readPatiently length =
      Call.within (·.stream index) (setStream index) (Stream.device.readPatiently length) := by
  funext world
  by_cases h : index < world.streams.length
  · exact (part_stream h).readPatiently_within (setStream_stream index world) Stream.device length
  · -- There is no such stream, and nothing interrupts the empty one in its place.
    have hnone : world.stream index = .plain [] 0 := by
      simp [World.stream, List.getD_eq_getElem?_getD, Nat.le_of_not_lt h]
    have hretries : (World.device (.stream index)).retries world = 0 :=
      congrArg (fun stream => stream.readPlan.length) hnone
    rw [Device.readPatiently, hretries, Call.within, hnone]
    simp only [Device.readRetrying, World.device, Device.within, Call.within, hnone]
    rfl

/-- A world with two of its streams put in place. -/
def withStreams (world : World) (first second : Nat) (stream other : Stream) : World :=
  setStream second other (setStream first stream world)

variable {world : World} {first second : Nat}

/-- Each of two streams is a part of a world with both in place. -/
theorem part_first (hne : first ≠ second) (h : first < world.streams.length) (other : Stream) :
    Part (·.stream first) (setStream first)
      (fun stream => world.withStreams first second stream other) where
  get_place stream := by
    rw [withStreams, stream_setStream_of_ne hne, stream_setStream h]
  put_place stream stream' := by
    rw [withStreams, setStream_comm hne, setStream_setStream]
    rfl

theorem part_second (h : second < world.streams.length) (stream : Stream) :
    Part (·.stream second) (setStream second)
      (fun other => world.withStreams first second stream other) :=
  part_stream (by simpa [setStream] using h)

/-- A world has its own streams in place. -/
theorem withStreams_self :
    world.withStreams first second (world.stream first) (world.stream second) = world := by
  rw [withStreams, setStream_stream, setStream_stream]

end World

end FileWindow

import FileWindow.Copy
import FileWindow.Proofs.Bookkeeping
import FileWindow.Proofs.Parts
import FileWindow.Proofs.Prefixes

/-!
# Copies

An input is copied to an output in chunks, and the plan of the stream under the input may cut each
read short and interrupt it as often as it likes.  What comes of the copy does not depend on any of
this: each round moves on from where the last one stopped, until the extent or the data are at their
end, and as many bytes were moved then as there were.

Main definitions:

- Definition Reply.Fair: an entry of a plan that cuts a read short or interrupts it.
- Definition LaysDown: writing bytes to a stream without plans, and counting them.
- Definition Copy.Ready, Copy.Underway: two streams before a copy and in the course of it.

Main results:

- Theorem Stream.readPatiently_fair: a read that is made again brings something in the end.
- Theorem Transfer.pump_of_rounds: a copy is complete if each of its rounds moves on.
- Theorem Copy.moves_what_is_left: all copies leave the same.
-/

namespace FileWindow

variable {ε ρ σ τ : Type}

/-! ## Reads that are cut short and interrupted -/

/-- An entry of a plan for reads that cuts a read short or interrupts it, if it does anything. -/
def Reply.Fair : Reply → Prop
  | .asUsual => True
  | .number most => 0 < most
  | .fails fault => fault.isInterruption = true

instance : DecidablePred Reply.Fair
  | .asUsual => inferInstanceAs (Decidable True)
  | .number most => inferInstanceAs (Decidable (0 < most))
  | .fails fault => inferInstanceAs (Decidable (fault.isInterruption = true))

namespace Stream

/-- How many bytes there are from the cursor on, within an extent and within the data. -/
def leftWithin (extent : Extent) (stream : Stream) : Nat :=
  min (extent.length - (stream.cursor - extent.offset)) (stream.data.length - stream.cursor)

/-- Where no plan for seeks interferes, a stream tells where its cursor is. -/
theorem position_of_seekable {stream : Stream} (hseekable : stream.seekable = true)
    (hseeks : stream.seekPlan = []) (hcursor : stream.cursor < positionLimit) :
    device.position stream = .ok stream.cursor stream :=
  seek_of_seekable hseekable hseeks (Int.add_zero _) hcursor

/-- A read that is made again while it is interrupted takes something of what there is in the
end. -/
theorem readRetrying_fair (stream : Stream) {length : Nat} (hlength : 0 < length)
    {plan : List Reply} (hfair : ∀ reply ∈ plan, reply.Fair) {retries : Nat}
    (hretries : plan.length ≤ retries) :
    ∃ count left, 0 < count ∧ count ≤ length ∧ (∀ reply ∈ left, reply.Fair) ∧
      device.readRetrying length retries { stream with readPlan := plan } =
        { stream with readPlan := left }.take count := by
  induction plan generalizing retries with
  | nil =>
    refine ⟨length, [], hlength, Nat.le_refl _, hfair, ?_⟩
    cases retries <;> rfl
  | cons reply rest ih =>
    rcases List.forall_mem_cons.mp hfair with ⟨hreply, hrest⟩
    obtain ⟨retries, rfl⟩ : ∃ more, retries = more + 1 :=
      Nat.exists_eq_add_one.mpr (Nat.lt_of_lt_of_le (Nat.succ_pos _) hretries)
    cases reply with
    | asUsual => exact ⟨length, rest, hlength, Nat.le_refl _, hrest, rfl⟩
    | number most =>
      have hmost : 0 < most := hreply
      exact ⟨min length most, rest, by omega, Nat.min_le_left _ _, hrest, rfl⟩
    | fails fault =>
      have hfault : fault.isInterruption = true := hreply
      obtain ⟨count, left, hpos, hle, hleft, hread⟩ :=
        ih hrest (Nat.le_of_succ_le_succ hretries)
      refine ⟨count, left, hpos, hle, hleft, ?_⟩
      rw [← hread, Device.readRetrying]
      simp only [device, read, hfault, if_true]

/-- So does a read that is made again as long as it is interrupted, if there is anything. -/
theorem readPatiently_fair (stream : Stream) {length : Nat} (hlength : 0 < length)
    (hfair : ∀ reply ∈ stream.readPlan, reply.Fair) :
    ∃ count plan,
      device.readPatiently length stream =
        .ok ((stream.data.drop stream.cursor).take count)
          { stream with cursor := stream.cursor + count, readPlan := plan } ∧
      (∀ reply ∈ plan, reply.Fair) ∧
      count ≤ min length (stream.data.length - stream.cursor) ∧
      (0 < stream.data.length - stream.cursor → 0 < count) := by
  obtain ⟨most, plan, hpos, hle, hplan, hread⟩ :=
    stream.readRetrying_fair hlength hfair (Nat.le_refl _)
  have hcount : ((stream.data.drop stream.cursor).take most).length =
      min most (stream.data.length - stream.cursor) := by
    rw [List.length_take, List.length_drop]
  have hbytes : (stream.data.drop stream.cursor).take most =
      (stream.data.drop stream.cursor).take (min most (stream.data.length - stream.cursor)) := by
    rw [← List.take_take, List.take_of_length_le (Nat.le_of_eq List.length_drop)]
  refine ⟨min most (stream.data.length - stream.cursor), plan, ?_, hplan, by omega, by omega⟩
  rw [← hbytes, ← hcount]
  exact hread

end Stream

/-! ## One round of a copy -/

section Round

variable {get : τ → Stream} {put : Stream → τ → τ} {place : Stream → τ}

/-- A read brings bytes from the cursor on, as long as the extent and the data have some left. -/
theorem Input.read_fair (hpart : Part get put place) {reader : Reader} (stream : Stream)
    {length room : Nat} (hlength : 0 < length) (hvalid : length ≤ maxTransfer)
    (hroom : length ≤ room) (hseekable : stream.seekable = true) (hseeks : stream.seekPlan = [])
    (hfair : ∀ reply ∈ stream.readPlan, reply.Fair)
    (hoffset : reader.window.extent.offset ≤ stream.cursor)
    (hcursor : stream.cursor < positionLimit) (journal : Journal) :
    ∃ count plan after,
      Input.read (Stream.device.within get put) length room
          ⟨.opened reader, place stream, journal⟩ =
        .ok ((stream.data.drop stream.cursor).take count)
          ⟨.opened reader,
            place { stream with cursor := stream.cursor + count, readPlan := plan }, after⟩ ∧
      (∀ reply ∈ plan, reply.Fair) ∧
      count ≤ min length (stream.leftWithin reader.window.extent) ∧
      (0 < stream.leftWithin reader.window.extent → 0 < count) := by
  have haccepted : ¬(!validLength length || decide (length > room)) = true := by
    simp [validLength, hvalid, hroom]
  have hposition : (Stream.device.within get put).position (place stream) =
      .ok stream.cursor (place stream) := by
    have htold := hpart.within Stream.device.position stream
    rw [Stream.position_of_seekable hseekable hseeks hcursor] at htold
    exact htold
  have hbehind : ¬stream.cursor < reader.window.extent.offset := Nat.not_lt.mpr hoffset
  rw [Input.read_opened, if_neg haccepted, hposition]
  simp only [hbehind, if_false, Stream.leftWithin]
  generalize reader.window.extent.length - (stream.cursor - reader.window.extent.offset) = left
  by_cases hwanted : min length left = 0
  · -- Nothing is left of the extent, and the device is not asked at all.
    refine ⟨0, stream.readPlan, journal, ?_, hfair, Nat.zero_le _, by omega⟩
    rw [if_pos hwanted]
    rfl
  · obtain ⟨count, plan, hread, hplan, hcount, hpos⟩ :=
      stream.readPatiently_fair (Nat.pos_of_ne_zero hwanted) hfair
    have hpatient := hpart.readPatiently Stream.device (min length left) stream
    rw [hread] at hpatient
    rw [if_neg hwanted, hpatient]
    exact ⟨count, plan, _, rfl, hplan, by omega, by omega⟩

/-- Writing some bytes of a plausible number to a stream without plans lays them over its data and
counts them. -/
def LaysDown (place : Stream → τ) (writes : Bytes → Action ε Output τ Unit) : Prop :=
  ∀ (bytes : Bytes) (writer : Writer) (data : Bytes) (cursor : Nat) (journal : Journal),
    bytes ≠ [] → bytes.length ≤ maxTransfer → writer.written + bytes.length < positionLimit →
      ∃ after, writes bytes ⟨.opened writer, place (.plain data cursor), journal⟩ =
        .ok () ⟨.opened (writer.counting bytes.length),
          place (.plain (Bytes.overlay data cursor bytes) (cursor + bytes.length)), after⟩

/-- A write does so. -/
theorem Output.write_laysDown (hpart : Part get put place) :
    LaysDown place fun bytes =>
      Output.write (Stream.device.within get put) bytes bytes.length := by
  intro bytes writer data cursor journal hbytes hvalid hwritten
  have hlength : bytes.length ≠ 0 := fun hnone => hbytes (List.eq_nil_of_length_eq_zero hnone)
  have haccepted : ¬(!validLength bytes.length || decide (bytes.length > bytes.length)) = true := by
    simp [validLength, hvalid]
  have hwrite : (Stream.device.within get put).write bytes (place (.plain data cursor)) =
      .ok () (place (.plain (Bytes.overlay data cursor bytes) (cursor + bytes.length))) := by
    have hlaid := hpart.within (Stream.device.write bytes) (.plain data cursor)
    rw [Stream.device_write_plain] at hlaid
    exact hlaid
  dsimp only
  rw [Output.write_opened, if_neg hlength, if_neg haccepted, List.take_length, hwrite]
  simp only [hwritten, if_true, writer.counting_of_pos (Nat.pos_of_ne_zero hlength)]
  exact ⟨_, rfl⟩

/-- So does writing all of some bytes through the adapter, which takes them in one go. -/
theorem Adapter.writeAll_laysDown (hpart : Part get put place) :
    LaysDown place (Adapter.writeAll (Stream.device.within get put)) := by
  intro bytes writer data cursor journal hbytes hvalid hwritten
  obtain ⟨after, hwrite⟩ :=
    Output.write_laysDown hpart bytes writer data cursor journal hbytes hvalid hwritten
  exact ⟨after, Adapter.writeAll_of_ok hbytes hvalid hwrite⟩

end Round

/-! ## All rounds of a copy -/

/-- Bytes that were counted are part of the count. -/
theorem Writer.written_counting (writer : Writer) (length : Nat) :
    (writer.counting length).written = writer.written + length := by
  rcases Nat.eq_zero_or_pos length with rfl | hlength
  · rfl
  · rw [writer.counting_of_pos hlength]
    rfl

/-- A copy is complete if each of its rounds moves on as long as something is left, and as many
rounds are allowed for as there are bytes. -/
theorem Transfer.pump_of_rounds {again : ε → Bool} {source : Nat → Action ε ρ σ Bytes}
    {sink : Bytes → Action ε ρ σ Unit} {chunk total : Nat} (state : Nat → Frame ρ σ → Prop)
    (hround : ∀ moved frame, state moved frame → moved < total → ∃ bytes between after,
      source chunk frame = .ok bytes between ∧ sink bytes between = .ok () after ∧
        bytes ≠ [] ∧ moved + bytes.length ≤ total ∧ state (moved + bytes.length) after)
    (hend : ∀ frame, state total frame →
      ∃ after, source chunk frame = .ok [] after ∧ state total after)
    {rounds moved : Nat} (hrounds : total < moved + rounds) (hmoved : moved ≤ total)
    {frame : Frame ρ σ} (hframe : state moved frame) :
    ∃ after, pump again source sink chunk rounds moved frame = .ok total after ∧
      state total after := by
  induction rounds generalizing moved frame with
  | zero => omega
  | succ rounds ih =>
    rcases Nat.eq_or_lt_of_le hmoved with rfl | hless
    · obtain ⟨after, hsource, hafter⟩ := hend frame hframe
      refine ⟨after, ?_, hafter⟩
      simp only [pump, Bind.bind, EStateM.bind, Action.observe_of_ok hsource]
      rfl
    · obtain ⟨bytes, between, after, hsource, hsink, hbytes, hle, hafter⟩ :=
        hround moved frame hframe hless
      have hpos := List.length_pos_iff.mpr hbytes
      obtain ⟨last, hpump, hlast⟩ := ih (by omega) hle hafter
      refine ⟨last, ?_, hlast⟩
      obtain ⟨byte, rest, rfl⟩ := List.exists_cons_of_ne_nil hbytes
      simp only [pump, Bind.bind, EStateM.bind, Action.observe_of_ok hsource, hsink]
      exact hpump

namespace Copy

variable {world : World} {first second : Nat} {source : Stream} {data : Bytes} {cursor : Nat}
  {reader : Reader} {writer : Writer}

/-- Two streams of a world, the first of them under an input that is to be copied.  Its reads may be
cut short and interrupted, its seeks are not interfered with, and its cursor is not before the
extent; the second has no plans and no bounds. -/
structure Ready (world : World) (first second : Nat) (source : Stream) (data : Bytes)
    (cursor : Nat) (extent : Extent) : Prop where
  apart : first ≠ second
  source_eq : world.streams[first]? = some source
  target_eq : world.streams[second]? = some (.plain data cursor)
  fair : ∀ reply ∈ source.readPlan, reply.Fair
  seekable : source.seekable = true
  seekPlan : source.seekPlan = []
  offset_le : extent.offset ≤ source.cursor
  cursor_lt : source.cursor < positionLimit
  length_lt : source.data.length < positionLimit

/-- The state in the course of a copy.  So many bytes were taken from the first stream and so many
laid over the data of the second, and nothing else has changed but the plan for reads. -/
def Underway (world : World) (first second : Nat) (source : Stream) (data : Bytes) (cursor : Nat)
    (reader : Reader) (writer : Writer) (taken laid : Nat)
    (frame : Frame (Input × Output) World) : Prop :=
  ∃ plan journal, (∀ reply ∈ plan, reply.Fair) ∧
    frame = ⟨(.opened reader, .opened (writer.counting laid)),
      world.withStreams first second
        { source with cursor := source.cursor + taken, readPlan := plan }
        (.plain (Bytes.overlay data cursor ((source.data.drop source.cursor).take laid))
          (cursor + laid)),
      journal⟩

/-- Before the first round nothing was moved. -/
theorem Ready.underway
    (hready : Ready world first second source data cursor reader.window.extent)
    (journal : Journal) :
    Underway world first second source data cursor reader writer 0 0
      ⟨(.opened reader, .opened writer), world, journal⟩ := by
  refine ⟨source.readPlan, journal, hready.fair, ?_⟩
  have hself : world.withStreams first second source (.plain data cursor) = world := by
    have hstreams : world.withStreams first second (world.stream first) (world.stream second) =
        world := World.withStreams_self
    simpa [World.stream, List.getD_eq_getElem?_getD, hready.source_eq, hready.target_eq]
      using hstreams
  rw [List.take_zero, Bytes.overlay_nil, Nat.add_zero, Nat.add_zero, hself]
  rfl

/-- A read takes something of what is left, if anything is. -/
theorem Underway.read (hready : Ready world first second source data cursor reader.window.extent)
    {reads : Nat → Action ε Input World Bytes} {chunk : Nat} (hchunk : 0 < chunk)
    (hvalid : chunk ≤ maxTransfer)
    (hreads : ∀ frame bytes after,
      Input.read (World.device (.stream first)) chunk chunk frame = .ok bytes after →
        reads chunk frame = .ok bytes after)
    {taken laid : Nat} (htaken : taken ≤ source.leftWithin reader.window.extent)
    {frame : Frame (Input × Output) World}
    (h : Underway world first second source data cursor reader writer taken laid frame) :
    ∃ count after,
      Action.onFirst (reads chunk) frame =
        .ok ((source.data.drop (source.cursor + taken)).take count) after ∧
      count ≤ min chunk (source.leftWithin reader.window.extent - taken) ∧
      (taken < source.leftWithin reader.window.extent → 0 < count) ∧
      Underway world first second source data cursor reader writer (taken + count) laid after := by
  rcases h with ⟨plan, journal, hfair, rfl⟩
  have hfirst : first < world.streams.length :=
    (List.getElem?_eq_some_iff.mp hready.source_eq).1
  have hoffset := hready.offset_le
  have hcursor := hready.cursor_lt
  have hlength := hready.length_lt
  simp only [Stream.leftWithin] at htaken ⊢
  obtain ⟨count, left, after, hread, hleft, hcount, hpos⟩ := Input.read_fair
    (World.part_first hready.apart hfirst (.plain
      (Bytes.overlay data cursor ((source.data.drop source.cursor).take laid)) (cursor + laid)))
    { source with cursor := source.cursor + taken, readPlan := plan } hchunk hvalid
    (Nat.le_refl chunk) hready.seekable hready.seekPlan hfair (Nat.le_add_right_of_le hoffset)
    (show source.cursor + taken < positionLimit by omega) journal
  simp only [Stream.leftWithin] at hcount hpos
  refine ⟨count, _, ?_, by omega, by omega, left, after, hleft, rfl⟩
  rw [Nat.add_assoc] at hread
  simp only [Action.onFirst, hreads _ _ _ hread]

/-- A write lays what was taken behind what is there. -/
theorem Underway.write {writes : Bytes → Action ε Output World Unit}
    (hwrites : ∀ stream, LaysDown (fun other => world.withStreams first second stream other) writes)
    {laid count : Nat} (hpos : 0 < count) (hvalid : count ≤ maxTransfer)
    (hcount : laid + count ≤ source.data.length - source.cursor)
    (hwritten : writer.written + (laid + count) < positionLimit)
    {taken : Nat} {frame : Frame (Input × Output) World}
    (h : Underway world first second source data cursor reader writer taken laid frame) :
    ∃ after,
      Action.onSecond (writes ((source.data.drop (source.cursor + laid)).take count)) frame =
        .ok () after ∧
      Underway world first second source data cursor reader writer taken (laid + count) after := by
  rcases h with ⟨plan, journal, hfair, rfl⟩
  generalize hbytes : (source.data.drop (source.cursor + laid)).take count = bytes
  have hlength : bytes.length = count := by
    rw [← hbytes, List.length_take, List.length_drop]
    omega
  have hlaid : ((source.data.drop source.cursor).take laid).length = laid := by
    rw [List.length_take, List.length_drop]
    omega
  have hnext : (source.data.drop source.cursor).take laid ++ bytes =
      (source.data.drop source.cursor).take (laid + count) := by
    rw [List.take_add, List.drop_drop, hbytes]
  obtain ⟨after, hwrite⟩ := hwrites
    { source with cursor := source.cursor + taken, readPlan := plan } bytes
    (writer.counting laid) (Bytes.overlay data cursor ((source.data.drop source.cursor).take laid))
    (cursor + laid) journal (List.length_pos_iff.mp (by omega)) (by omega)
    (by rw [Writer.written_counting]; omega)
  have hoverlay := Bytes.overlay_overlay data cursor
    ((source.data.drop source.cursor).take laid) bytes
  rw [hlaid, hnext] at hoverlay
  rw [hlength, Writer.counting_counting, hoverlay, Nat.add_assoc] at hwrite
  refine ⟨_, ?_, plan, after, hfair, rfl⟩
  simp only [Action.onSecond, hwrite]

/-- A copy in rounds moves what is left, if nothing is counted beyond all bounds. -/
theorem pump_moves (hready : Ready world first second source data cursor reader.window.extent)
    (hwritten :
      writer.written + source.leftWithin reader.window.extent < positionLimit)
    (reads : Nat → Action ε Input World Bytes) {writes : Bytes → Action ε Output World Unit}
    {chunk : Nat} (hchunk : 0 < chunk) (hvalid : chunk ≤ maxTransfer)
    (hreads : ∀ frame bytes after,
      Input.read (World.device (.stream first)) chunk chunk frame = .ok bytes after →
        reads chunk frame = .ok bytes after)
    (hwrites : ∀ stream, LaysDown (fun other => world.withStreams first second stream other) writes)
    (again : ε → Bool) {rounds : Nat} (hrounds : reader.window.extent.length < rounds)
    (journal : Journal) :
    ∃ after,
      Transfer.pump again (fun length => Action.onFirst (reads length))
          (fun bytes => Action.onSecond (writes bytes)) chunk rounds 0
          ⟨(.opened reader, .opened writer), world, journal⟩ =
        .ok (source.leftWithin reader.window.extent) after ∧
      Underway world first second source data cursor reader writer
        (source.leftWithin reader.window.extent) (source.leftWithin reader.window.extent) after := by
  have hextent : source.leftWithin reader.window.extent ≤ reader.window.extent.length :=
    Nat.le_trans (Nat.min_le_left _ _) (Nat.sub_le _ _)
  have hdata : source.leftWithin reader.window.extent ≤ source.data.length - source.cursor :=
    Nat.min_le_right _ _
  refine Transfer.pump_of_rounds
    (fun moved => Underway world first second source data cursor reader writer moved moved)
    ?_ ?_ (by omega) (Nat.zero_le _) (hready.underway journal)
  · intro moved frame hframe hless
    obtain ⟨count, between, hread, hcount, hpos, hbetween⟩ :=
      hframe.read hready hchunk hvalid hreads (Nat.le_of_lt hless)
    have hcountpos := hpos hless
    obtain ⟨after, hwrite, hafter⟩ :=
      hbetween.write hwrites hcountpos (by omega) (by omega) (by omega)
    have hlength : ((source.data.drop (source.cursor + moved)).take count).length = count := by
      rw [List.length_take, List.length_drop]
      omega
    refine ⟨_, between, after, hread, hwrite, List.length_pos_iff.mp (by omega), ?_, ?_⟩
    · omega
    · rw [hlength]
      exact hafter
  · intro frame hframe
    obtain ⟨count, after, hread, hcount, -, hafter⟩ :=
      hframe.read hready hchunk hvalid hreads (Nat.le_refl _)
    obtain rfl : count = 0 := by omega
    exact ⟨after, hread, hafter⟩

/-- What comes of a copy depends neither on the size of the chunks nor on how the plan for reads cuts
them and interrupts them, and it is the same through adapters.  Every copy ends, and as many bytes
were moved as the extent and the data of the input had from its cursor on.  They lie over the data
of the output from its cursor on and are counted there; both cursors stand behind them, and the
extent of the input is what it was. -/
theorem moves_what_is_left (reader : Reader) (writer : Writer) (total : Nat)
    (hready : Ready world first second source data cursor reader.window.extent)
    (htotal : total =
      min (reader.window.extent.length - (source.cursor - reader.window.extent.offset))
        (source.data.length - source.cursor))
    (hwritten : writer.written + total < positionLimit) (journal : Journal) :
    (∀ chunk, 0 < chunk → chunk ≤ maxTransfer →
      ∃ plan after,
        inChunks (World.device (.stream first)) (World.device (.stream second)) chunk
            ⟨(.opened reader, .opened writer), world, journal⟩ =
          .ok total ⟨(.opened reader, .opened (writer.counting total)),
            world.withStreams first second
              { source with cursor := source.cursor + total, readPlan := plan }
              (.plain (Bytes.overlay data cursor ((source.data.drop source.cursor).take total))
                (cursor + total)), after⟩) ∧
    ∃ plan after,
      adapted (World.device (.stream first)) (World.device (.stream second))
          ⟨(.opened reader, .opened writer), world, journal⟩ =
        .ok total ⟨(.opened reader, .opened (writer.counting total)),
          world.withStreams first second
            { source with cursor := source.cursor + total, readPlan := plan }
            (.plain (Bytes.overlay data cursor ((source.data.drop source.cursor).take total))
              (cursor + total)), after⟩ := by
  obtain rfl : total = source.leftWithin reader.window.extent := htotal
  have hsecond : second < world.streams.length :=
    (List.getElem?_eq_some_iff.mp hready.target_eq).1
  have hrounds : reader.window.extent.length <
      reader.window.extent.length + (World.device (.stream first)).patience world + 2 := by
    omega
  constructor
  · intro chunk hchunk hvalid
    obtain ⟨after, hpump, plan, last, -, rfl⟩ := pump_moves hready hwritten
      (fun length => Input.read (World.device (.stream first)) length length) hchunk hvalid
      (fun frame bytes after hread => hread)
      (fun stream => Output.write_laysDown (World.part_second hsecond stream))
      (fun _ => false) hrounds journal
    exact ⟨plan, last, hpump⟩
  · have hreads : ∀ frame bytes after,
        Input.read (World.device (.stream first)) adaptedChunk adaptedChunk frame = .ok bytes after →
          Adapter.read (World.device (.stream first)) adaptedChunk frame = .ok bytes after := by
      intro frame bytes after hread
      have hmin : min adaptedChunk maxTransfer = adaptedChunk := by decide
      simp only [Adapter.read, Adapter.passing, Action.mapError, hmin, hread]
    obtain ⟨after, hpump, plan, last, -, rfl⟩ := pump_moves hready hwritten
      (Adapter.read (World.device (.stream first))) (by decide) (by decide) hreads
      (fun stream => Adapter.writeAll_laysDown (World.part_second hsecond stream))
      Fault.isInterruption hrounds journal
    exact ⟨plan, last, hpump⟩

/-- Four bytes are left of an extent whose first byte was read before.  The first read brings one of
them, the second is interrupted twice, and the output grows by three bytes. -/
theorem moves_what_is_left_of_nine_bytes :
    ∃ world : World,
      world = { World.fresh .file with
        streams := [
          { Stream.plain [1, 2, 3, 4, 5, 6, 7, 8, 9] 3 with
            readPlan := [.number 1, .fails (.plain .interrupted), .fails (.system 4), .number 2] },
          .plain [7, 7] 1] } ∧
      (∀ chunk, 0 < chunk → chunk ≤ maxTransfer →
        ∃ plan after,
          inChunks (World.device (.stream 0)) (World.device (.stream 1)) chunk
              ⟨(.opened ⟨⟨"source", ⟨2, 5⟩⟩, 9⟩, .opened ⟨⟨"target", ⟨0, 2⟩⟩, 0⟩), world, []⟩ =
            .ok 4 ⟨(.opened ⟨⟨"source", ⟨2, 5⟩⟩, 9⟩, .opened ⟨⟨"target", ⟨0, 4⟩⟩, 4⟩),
              world.withStreams 0 1
                { Stream.plain [1, 2, 3, 4, 5, 6, 7, 8, 9] 7 with readPlan := plan }
                (.plain [7, 4, 5, 6, 7] 5), after⟩) ∧
      ∃ plan after,
        adapted (World.device (.stream 0)) (World.device (.stream 1))
            ⟨(.opened ⟨⟨"source", ⟨2, 5⟩⟩, 9⟩, .opened ⟨⟨"target", ⟨0, 2⟩⟩, 0⟩), world, []⟩ =
          .ok 4 ⟨(.opened ⟨⟨"source", ⟨2, 5⟩⟩, 9⟩, .opened ⟨⟨"target", ⟨0, 4⟩⟩, 4⟩),
            world.withStreams 0 1
              { Stream.plain [1, 2, 3, 4, 5, 6, 7, 8, 9] 7 with readPlan := plan }
              (.plain [7, 4, 5, 6, 7] 5), after⟩ := by
  refine ⟨_, rfl, ?_⟩
  have hready : Ready
      { World.fresh .file with
        streams := [
          { Stream.plain [1, 2, 3, 4, 5, 6, 7, 8, 9] 3 with
            readPlan := [.number 1, .fails (.plain .interrupted), .fails (.system 4), .number 2] },
          .plain [7, 7] 1] }
      0 1
      { Stream.plain [1, 2, 3, 4, 5, 6, 7, 8, 9] 3 with
        readPlan := [.number 1, .fails (.plain .interrupted), .fails (.system 4), .number 2] }
      [7, 7] 1 ⟨2, 5⟩ :=
    ⟨by decide, rfl, rfl, by decide, rfl, rfl, by decide, by decide, by decide⟩
  exact moves_what_is_left ⟨⟨"source", ⟨2, 5⟩⟩, 9⟩ ⟨⟨"target", ⟨0, 2⟩⟩, 0⟩ 4 hready (by decide)
    (by decide) []

end Copy

end FileWindow

import FileWindow.Proofs.Copying

/-!
# Gathering what short reads bring

The adapter reads in loops: until so many bytes are there, or until there are no more.  A plan may
cut each read of a stream short and interrupt it as often as it likes, and each read is clamped by
the extent and by the bound on transfers besides.  The loops gather the same bytes all the same, and
leave the stream at the same place, because each round moves on from where the last one stopped
until nothing is left.

Main definitions:

- Definition Transfer.Supplies: a source of some bytes, in parts of any size.
- Definition Stream.Readable: a stream whose reads are at most cut short and interrupted.
- Definition Input.Underway: an input from which some bytes were taken.
- Definition Action.upshot: what comes of an action, apart from the plan for reads and the journal.
- Definition Adapter.GathersWhatIsLeft: what the loops of the adapter come to.

Main results:

- Theorems Transfer.Supplies.fill_of_le and Transfer.Supplies.fill_of_lt: a loop that wants so many
  bytes.
- Theorem Transfer.Supplies.collect: a loop that wants all of them.
- Theorem Adapter.gathers_what_is_left: both loops, over any plan that only cuts and interrupts.
-/

namespace FileWindow

variable {ε ρ σ : Type}

/-! ## Sources in parts -/

namespace Transfer

variable {source : Nat → Action Fault ρ σ Bytes} {supply bytes : Bytes}
  {state : Nat → Frame ρ σ → Prop} {rounds missing taken length patience : Nat}
  {frame between : Frame ρ σ}

/-- A source of some bytes.  The states tell how many of them were taken.  As long as there are
more, a call takes the next ones, of which there may be fewer than it asks for; behind the last one
it takes none. -/
structure Supplies (source : Nat → Action Fault ρ σ Bytes) (supply : Bytes)
    (state : Nat → Frame ρ σ → Prop) : Prop where
  moves : ∀ {taken length frame}, state taken frame → taken < supply.length → 0 < length →
    ∃ bytes after, source length frame = .ok bytes after ∧ bytes ≠ [] ∧ bytes.length ≤ length ∧
      bytes <+: supply.drop taken ∧ state (taken + bytes.length) after
  ends : ∀ {length frame}, state supply.length frame → 0 < length →
    ∃ after, source length frame = .ok [] after ∧ state supply.length after

/-- Behind some bytes that were read, the loop goes on with as many less. -/
theorem fill_of_ok (hsource : source (missing + 1) frame = .ok bytes between)
    (hbytes : bytes ≠ []) :
    fill source (rounds + 1) (missing + 1) frame =
      ((bytes ++ ·) <$> fill source rounds (missing + 1 - bytes.length)) between := by
  obtain ⟨byte, rest, rfl⟩ := List.exists_cons_of_ne_nil hbytes
  rw [fill, Action.bind_of_ok (Action.observe_of_ok hsource)]
  rfl

/-- A failure that is no interruption ends the loop. -/
theorem fill_of_failed {fault : Fault}
    (hsource : source (missing + 1) frame = .error (.failed fault) between)
    (hfault : fault.isInterruption = false) :
    fill source (rounds + 1) (missing + 1) frame = .error (.failed fault) between := by
  rw [fill, Action.bind_of_ok (Action.observe_of_failed hsource)]
  simp only [hfault]
  rfl

/-- A read that is not interrupted is not made again. -/
theorem persist_of_ok (hsource : source length frame = .ok bytes between) :
    persist source length (patience + 1) frame = .ok bytes between := by
  rw [persist, Action.bind_of_ok (Action.observe_of_ok hsource)]
  rfl

/-- Behind some bytes that were read, the buffer grows. -/
theorem collectInto_of_ok {growth : Growth}
    (hsource : source growth.reserve.request frame = .ok bytes between) (hbytes : bytes ≠ []) :
    collectInto source (patience + 1) (rounds + 1) growth frame =
      ((bytes ++ ·) <$> collectInto source (patience + 1) rounds
        (growth.reserve.advance growth.reserve.request bytes.length)) between := by
  obtain ⟨byte, rest, rfl⟩ := List.exists_cons_of_ne_nil hbytes
  rw [collectInto, Action.bind_of_ok (persist_of_ok hsource)]
  rfl

/-- Behind what the probe brought, the buffer grows. -/
theorem collect_of_ok (hsource : source Growth.probe frame = .ok bytes between)
    (hbytes : bytes ≠ []) :
    collect source (patience + 1) rounds frame =
      ((bytes ++ ·) <$> collectInto source (patience + 1) rounds (.afterProbe bytes.length))
        between := by
  obtain ⟨byte, rest, rfl⟩ := List.exists_cons_of_ne_nil hbytes
  rw [collect, Action.bind_of_ok (persist_of_ok hsource)]
  rfl

/-- Where the probe fails and was not interrupted, nothing is read. -/
theorem collect_of_failed {fault : Fault}
    (hsource : source Growth.probe frame = .error (.failed fault) between)
    (hfault : fault.isInterruption = false) :
    collect source (patience + 1) rounds frame = .error (.failed fault) between := by
  have hpersist : persist source Growth.probe (patience + 1) frame =
      .error (.failed fault) between := by
    rw [persist, Action.bind_of_ok (Action.observe_of_failed hsource)]
    simp only [hfault]
    rfl
  rw [collect, Action.bind_of_error hpersist]

namespace Supplies

variable (h : Supplies source supply state)
include h

/-- A loop that wants no more bytes than there are gets them. -/
theorem fill_of_le (hrounds : missing ≤ rounds) (hmissing : taken + missing ≤ supply.length)
    (hframe : state taken frame) :
    ∃ after, fill source rounds missing frame = .ok ((supply.drop taken).take missing) after ∧
      state (taken + missing) after := by
  induction rounds generalizing missing taken frame with
  | zero =>
    obtain rfl : missing = 0 := by omega
    exact ⟨frame, rfl, hframe⟩
  | succ rounds ih =>
    cases missing with
    | zero => exact ⟨frame, rfl, hframe⟩
    | succ missing =>
      obtain ⟨bytes, between, hsource, hbytes, hle, ⟨rest, hrest⟩, hbetween⟩ :=
        h.moves hframe (by omega) missing.succ_pos
      have hpos := List.length_pos_iff.mpr hbytes
      have hless : missing + 1 - bytes.length ≤ rounds := by omega
      obtain ⟨after, hfill, hafter⟩ := ih hless (by omega) hbetween
      have hnext : supply.drop (taken + bytes.length) = rest := by
        rw [← List.drop_drop, ← hrest, List.drop_left]
      refine ⟨after, ?_, ?_⟩
      · rw [fill_of_ok hsource hbytes, ← hrest, List.take_append, List.take_of_length_le hle,
          ← hnext]
        simp only [Functor.map, EStateM.map, hfill]
      · rwa [Nat.add_assoc, Nat.add_sub_cancel' hle] at hafter

/-- A loop that wants more bytes than there are comes to their end and fails. -/
theorem fill_of_lt (hrounds : missing ≤ rounds) (htaken : taken ≤ supply.length)
    (hmissing : supply.length < taken + missing) (hframe : state taken frame) :
    ∃ after, fill source rounds missing frame = .error (.failed (.plain .unexpectedEof)) after ∧
      state supply.length after := by
  induction rounds generalizing missing taken frame with
  | zero => omega
  | succ rounds ih =>
    obtain ⟨missing, rfl⟩ : ∃ less, missing = less + 1 :=
      Nat.exists_eq_add_one.mpr (by omega)
    rcases Nat.eq_or_lt_of_le htaken with rfl | hless
    · obtain ⟨after, hsource, hafter⟩ := h.ends hframe missing.succ_pos
      refine ⟨after, ?_, hafter⟩
      rw [fill, Action.bind_of_ok (Action.observe_of_ok hsource)]
      rfl
    · obtain ⟨bytes, between, hsource, hbytes, hle, hprefix, hbetween⟩ :=
        h.moves hframe hless missing.succ_pos
      have hpos := List.length_pos_iff.mpr hbytes
      have hlength := hprefix.length_le
      rw [List.length_drop] at hlength
      have hfewer : missing + 1 - bytes.length ≤ rounds := by omega
      obtain ⟨after, hfill, hafter⟩ := ih hfewer (by omega) (by omega) hbetween
      refine ⟨after, ?_, hafter⟩
      rw [fill_of_ok hsource hbytes]
      simp only [Functor.map, EStateM.map, hfill]

/-- A loop into a growing buffer gets all bytes that there are, if it has a round for each and one
more to see that there are no others. -/
theorem collectInto (patience : Nat) {growth : Growth} (hceiling : 0 < growth.ceiling)
    (htaken : taken ≤ supply.length) (hrounds : supply.length < taken + rounds)
    (hframe : state taken frame) :
    ∃ after, collectInto source (patience + 1) rounds growth frame =
        .ok (supply.drop taken) after ∧ state supply.length after := by
  induction rounds generalizing growth taken frame with
  | zero => omega
  | succ rounds ih =>
    have hrequest := Growth.request_pos hceiling
    rcases Nat.eq_or_lt_of_le htaken with rfl | hless
    · obtain ⟨after, hsource, hafter⟩ := h.ends hframe hrequest
      refine ⟨after, ?_, hafter⟩
      rw [Transfer.collectInto, Action.bind_of_ok (persist_of_ok hsource), List.drop_length]
      rfl
    · obtain ⟨bytes, between, hsource, hbytes, hle, ⟨rest, hrest⟩, hbetween⟩ :=
        h.moves hframe hless hrequest
      have hpos := List.length_pos_iff.mpr hbytes
      have hlength := congrArg List.length hrest
      rw [List.length_append, List.length_drop] at hlength
      obtain ⟨after, hcollect, hafter⟩ := ih
        (Growth.ceiling_advance_pos hceiling growth.reserve.request bytes.length) (by omega)
        (by omega) hbetween
      refine ⟨after, ?_, hafter⟩
      rw [collectInto_of_ok hsource hbytes]
      simp only [Functor.map, EStateM.map, hcollect]
      rw [← List.drop_drop, ← hrest, List.drop_left]

/-- So does the loop that begins with a probe. -/
theorem collect (patience : Nat) (hrounds : supply.length < rounds) (hframe : state 0 frame) :
    ∃ after, collect source (patience + 1) rounds frame = .ok supply after ∧
      state supply.length after := by
  have hprobe : 0 < Growth.probe := by decide
  rcases Nat.eq_zero_or_pos supply.length with hnone | hsome
  · rw [← hnone] at hframe
    obtain ⟨after, hsource, hafter⟩ := h.ends hframe hprobe
    refine ⟨after, ?_, hafter⟩
    rw [Transfer.collect, Action.bind_of_ok (persist_of_ok hsource),
      List.eq_nil_of_length_eq_zero hnone]
    rfl
  · obtain ⟨bytes, between, hsource, hbytes, hle, ⟨rest, hrest⟩, hbetween⟩ :=
      h.moves hframe hsome hprobe
    rw [List.drop_zero] at hrest
    rw [Nat.zero_add] at hbetween
    have hlength : bytes.length ≤ supply.length := by
      rw [← hrest, List.length_append]
      omega
    have hceiling : 0 < (Growth.afterProbe bytes.length).ceiling := Nat.zero_lt_succ _
    have hmore : supply.length < bytes.length + rounds := by omega
    obtain ⟨after, hcollect, hafter⟩ := h.collectInto patience hceiling hlength hmore hbetween
    refine ⟨after, ?_, hafter⟩
    rw [collect_of_ok hsource hbytes]
    simp only [Functor.map, EStateM.map, hcollect]
    rw [← hrest, List.drop_left]

end Supplies

end Transfer

/-! ## Inputs as sources -/

/-- A read that answers does so through the adapter. -/
theorem Adapter.read_of_ok {device : Device σ} {length : Nat} {bytes : Bytes}
    {frame after : Frame Input σ}
    (hread : Input.read device (min length maxTransfer) length frame = .ok bytes after) :
    Adapter.read device length frame = .ok bytes after := by
  simp only [Adapter.read, Adapter.passing, Action.mapError, hread]

/-- A read that fails does so through the adapter, with its error carried. -/
theorem Adapter.read_of_failed {device : Device σ} {length : Nat} {error : FileError}
    {frame after : Frame Input σ}
    (hread : Input.read device (min length maxTransfer) length frame =
      .error (.failed error) after) :
    Adapter.read device length frame = .error (.failed (.carried error)) after := by
  simp only [Adapter.read, Adapter.passing, Action.mapError, hread, Stop.map]

/-- A world is a part of itself. -/
theorem Part.self : Part (id : σ → σ) (fun part _ => part) id where
  get_place _ := rfl
  put_place _ _ := rfl

/-- As part of itself a device does what it does. -/
theorem Device.within_self (device : Device σ) :
    device.within id (fun part _ => part) = device := by
  have hcall : ∀ {α : Type} (call : Call σ α), call.within id (fun part _ => part) = call := by
    intro α call
    funext world
    rw [Call.within, id]
    cases call world <;> rfl
  cases device
  simp only [Device.within, hcall]
  rfl

/-- A stream under an input that is to be read.  Its reads may be cut short and interrupted, and its
seeks are not interfered with. -/
structure Stream.Readable (stream : Stream) : Prop where
  fair : ∀ reply ∈ stream.readPlan, reply.Fair
  seekable : stream.seekable = true
  seekPlan : stream.seekPlan = []
  cursor_lt : stream.cursor < positionLimit
  length_lt : stream.data.length < positionLimit

namespace Input

/-- The state of an input in the course of reading.  So many bytes were taken, and nothing else has
changed but the plan for reads. -/
def Underway (reader : Reader) (stream : Stream) (taken : Nat) (frame : Frame Input Stream) :
    Prop :=
  ∃ plan journal, (∀ reply ∈ plan, reply.Fair) ∧
    frame = ⟨.opened reader,
      { stream with cursor := stream.cursor + taken, readPlan := plan }, journal⟩

/-- What there is for an input behind the cursor of a stream. -/
def supply (reader : Reader) (stream : Stream) : Bytes :=
  (stream.data.drop stream.cursor).take (stream.leftWithin reader.window.extent)

variable {reader : Reader} {stream : Stream} {taken : Nat} {frame : Frame Input Stream}

theorem length_supply (reader : Reader) (stream : Stream) :
    (supply reader stream).length = stream.leftWithin reader.window.extent := by
  rw [supply, List.length_take, List.length_drop]
  exact Nat.min_eq_left (Nat.min_le_right _ _)

/-- A read through the adapter takes the next bytes of what there is. -/
theorem Underway.read (hready : stream.Readable)
    (hoffset : reader.window.extent.offset ≤ stream.cursor)
    (htaken : taken ≤ stream.leftWithin reader.window.extent)
    (h : Underway reader stream taken frame) {length : Nat} (hlength : 0 < length) :
    ∃ count after,
      Adapter.read Stream.device length frame =
        .ok ((stream.data.drop (stream.cursor + taken)).take count) after ∧
      count ≤ min length (stream.leftWithin reader.window.extent - taken) ∧
      (taken < stream.leftWithin reader.window.extent → 0 < count) ∧
      Underway reader stream (taken + count) after := by
  rcases h with ⟨plan, journal, hfair, rfl⟩
  have hcursor := hready.cursor_lt
  have hdata := hready.length_lt
  have hsize : 0 < min length maxTransfer := by
    have hmost : 0 < maxTransfer := by decide
    omega
  simp only [Stream.leftWithin] at htaken ⊢
  obtain ⟨count, left, after, hread, hleft, hcount, hpos⟩ := Input.read_fair Part.self
    { stream with cursor := stream.cursor + taken, readPlan := plan } hsize
    (Nat.min_le_right _ _) (Nat.min_le_left length maxTransfer) hready.seekable hready.seekPlan
    hfair (Nat.le_add_right_of_le hoffset)
    (show stream.cursor + taken < positionLimit by omega) journal
  simp only [Stream.leftWithin] at hcount hpos
  refine ⟨count, _, ?_, by omega, by omega, left, after, hleft, rfl⟩
  rw [Device.within_self, Nat.add_assoc] at hread
  exact Adapter.read_of_ok hread

/-- So an input is a source of what there is. -/
theorem supplies (hready : stream.Readable)
    (hoffset : reader.window.extent.offset ≤ stream.cursor) :
    Transfer.Supplies (Adapter.read Stream.device) (supply reader stream)
      (Underway reader stream) where
  moves {taken length frame} hframe htaken hlength := by
    rw [length_supply] at htaken
    obtain ⟨count, after, hread, hcount, hpos, hafter⟩ :=
      hframe.read hready hoffset (Nat.le_of_lt htaken) hlength
    have hdata : stream.leftWithin reader.window.extent ≤ stream.data.length - stream.cursor :=
      Nat.min_le_right _ _
    have hbytes : ((stream.data.drop (stream.cursor + taken)).take count).length = count := by
      rw [List.length_take, List.length_drop]
      omega
    have hsupply : (supply reader stream).drop taken =
        (stream.data.drop (stream.cursor + taken)).take
          (stream.leftWithin reader.window.extent - taken) := by
      rw [supply, List.drop_take, List.drop_drop]
    have hprefix : (stream.data.drop (stream.cursor + taken)).take count <+:
        (supply reader stream).drop taken := by
      rw [hsupply]
      exact List.take_prefix_take_left (by omega)
    refine ⟨_, after, hread, List.length_pos_iff.mp (by omega), by omega, hprefix, ?_⟩
    rwa [hbytes]
  ends {length frame} hframe hlength := by
    rw [length_supply] at hframe ⊢
    obtain ⟨count, after, hread, hcount, -, hafter⟩ :=
      hframe.read hready hoffset (Nat.le_refl _) hlength
    obtain rfl : count = 0 := by omega
    exact ⟨after, hread, hafter⟩

/-- A read from before the extent is refused, and moves nothing. -/
theorem read_before (hready : stream.Readable)
    (hbefore : stream.cursor < reader.window.extent.offset) (length : Nat) (journal : Journal) :
    Adapter.read Stream.device length ⟨.opened reader, stream, journal⟩ =
      .error (.failed (.carried (.refused reader.window.name .positionBeforeExtent)))
        ⟨.opened reader, stream, journal⟩ := by
  have haccepted :
      ¬(!validLength (min length maxTransfer) || decide (min length maxTransfer > length)) = true :=
    fun hrefused =>
      lengthRefused_iff.mp hrefused ⟨Nat.min_le_right _ _, Nat.min_le_left _ _⟩
  refine Adapter.read_of_failed ?_
  rw [read_opened, if_neg haccepted,
    Stream.position_of_seekable hready.seekable hready.seekPlan hready.cursor_lt]
  dsimp only
  rw [if_pos hbefore]

end Input

/-! ## What the loops come to -/

/-- A stream behind so many of its bytes, with nothing left of its plan for reads. -/
def Stream.behind (stream : Stream) (count : Nat) : Stream :=
  { stream with cursor := stream.cursor + count, readPlan := [] }

/-- What comes of an action on a stream: its answer or why there is none, the book, and the stream.
What is left of the plan for reads does not show, and nor does the journal. -/
def Action.upshot {α : Type} :
    EStateM.Result (Stop ε) (Frame ρ Stream) α → Except (Stop ε) α × ρ × Stream
  | .ok value frame => (.ok value, frame.book, frame.world.behind 0)
  | .error stop frame => (.error stop, frame.book, frame.world.behind 0)

namespace Adapter

open FileWindow.Action (upshot)

/-- What the loops of the adapter come to on an open input.  A read of nothing is done at once.
From before the extent all others are refused.  Anywhere else an exact read takes as many bytes as
it wants, if they are left within the extent and the data, and otherwise comes to the end of these
and fails; a read to the end takes what is left. -/
structure GathersWhatIsLeft (reader : Reader) (stream : Stream) (journal : Journal) : Prop where
  nothing : upshot (readExactly Stream.device 0 ⟨.opened reader, stream, journal⟩) =
    (.ok [], .opened reader, stream.behind 0)
  exactly : ∀ length, 0 < length →
    upshot (readExactly Stream.device length ⟨.opened reader, stream, journal⟩) =
      if stream.cursor < reader.window.extent.offset then
        (.error (.failed (.carried (.refused reader.window.name .positionBeforeExtent))),
          .opened reader, stream.behind 0)
      else if length ≤ stream.leftWithin reader.window.extent then
        (.ok ((stream.data.drop stream.cursor).take length), .opened reader, stream.behind length)
      else
        (.error (.failed (.plain .unexpectedEof)), .opened reader,
          stream.behind (stream.leftWithin reader.window.extent))
  toEnd : upshot (readToEnd Stream.device ⟨.opened reader, stream, journal⟩) =
    if stream.cursor < reader.window.extent.offset then
      (.error (.failed (.carried (.refused reader.window.name .positionBeforeExtent))),
        .opened reader, stream.behind 0)
    else
      (.ok ((stream.data.drop stream.cursor).take (stream.leftWithin reader.window.extent)),
        .opened reader, stream.behind (stream.leftWithin reader.window.extent))

variable {reader : Reader} {stream : Stream}

/-- An exact read, by whether there are as many bytes as it wants. -/
theorem upshot_readExactly (hready : stream.Readable)
    (hoffset : reader.window.extent.offset ≤ stream.cursor) (length : Nat) (journal : Journal) :
    upshot (readExactly Stream.device length ⟨.opened reader, stream, journal⟩) =
      if length ≤ stream.leftWithin reader.window.extent then
        (.ok ((stream.data.drop stream.cursor).take length), .opened reader, stream.behind length)
      else
        (.error (.failed (.plain .unexpectedEof)), .opened reader,
          stream.behind (stream.leftWithin reader.window.extent)) := by
  have hsupplies := Input.supplies hready hoffset
  have hstart : Input.Underway reader stream 0 ⟨.opened reader, stream, journal⟩ :=
    ⟨stream.readPlan, journal, hready.fair, rfl⟩
  have hlength := Input.length_supply reader stream
  have hrounds : length ≤ length + Stream.device.patience stream + 1 := by omega
  rw [readExactly_apply]
  split
  · obtain ⟨after, hfill, plan, last, -, rfl⟩ := hsupplies.fill_of_le hrounds (by omega) hstart
    rw [hfill, List.drop_zero, Input.supply, List.take_take, Nat.min_eq_left ‹_›, Nat.zero_add]
    rfl
  · obtain ⟨after, hfill, plan, last, -, rfl⟩ :=
      hsupplies.fill_of_lt hrounds (Nat.zero_le _) (by omega) hstart
    rw [hfill, hlength]
    rfl

/-- A read to the end of the extent. -/
theorem upshot_readToEnd (hready : stream.Readable)
    (hoffset : reader.window.extent.offset ≤ stream.cursor) (journal : Journal) :
    upshot (readToEnd Stream.device ⟨.opened reader, stream, journal⟩) =
      (.ok ((stream.data.drop stream.cursor).take (stream.leftWithin reader.window.extent)),
        .opened reader, stream.behind (stream.leftWithin reader.window.extent)) := by
  have hstart : Input.Underway reader stream 0 ⟨.opened reader, stream, journal⟩ :=
    ⟨stream.readPlan, journal, hready.fair, rfl⟩
  have hextent : stream.leftWithin reader.window.extent ≤ reader.window.extent.length :=
    Nat.le_trans (Nat.min_le_left _ _) (Nat.sub_le _ _)
  have hrounds : (Input.supply reader stream).length <
      reader.window.extent.length + Stream.device.patience stream + 2 := by
    rw [Input.length_supply]
    omega
  rw [readToEnd_apply]
  obtain ⟨after, hcollect, plan, last, -, rfl⟩ :=
    (Input.supplies hready hoffset).collect
      (reader.window.extent.length + Stream.device.patience stream + 1) hrounds hstart
  rw [Input.length_supply] at hcollect
  exact congrArg upshot hcollect

/-- The loops gather what is left, whatever else there is: an exact read may want more than one
operation accepts, and the data may go on behind the extent. -/
theorem gathersWhatIsLeft (hready : stream.Readable) (journal : Journal) :
    GathersWhatIsLeft reader stream journal where
  nothing := rfl
  exactly length hlength := by
    obtain ⟨length, rfl⟩ := Nat.exists_eq_add_one.mpr hlength
    split
    · have hread := Input.read_before hready ‹_› (length + 1) journal
      rw [readExactly_apply,
        Transfer.fill_of_failed hread (Fault.isInterruption_carried_refused _ _)]
      rfl
    · exact upshot_readExactly hready (Nat.le_of_not_lt ‹_›) (length + 1) journal
  toEnd := by
    split
    · have hread := Input.read_before hready ‹_› Growth.probe journal
      rw [readToEnd_apply,
        Transfer.collect_of_failed hread (Fault.isInterruption_carried_refused _ _)]
      rfl
    · exact upshot_readToEnd hready (Nat.le_of_not_lt ‹_›) journal

/-- However a plan cuts the reads of a stream short and interrupts them, the loops of the adapter
gather what is left, so they answer and leave behind what they do where there is no plan at all. -/
theorem gathers_what_is_left (reader : Reader) (hready : stream.Readable) (journal : Journal) :
    GathersWhatIsLeft reader stream journal ∧
      (∀ length,
        upshot (readExactly Stream.device length ⟨.opened reader, stream, journal⟩) =
          upshot (readExactly Stream.device length
            ⟨.opened reader, { stream with readPlan := [] }, journal⟩)) ∧
      upshot (readToEnd Stream.device ⟨.opened reader, stream, journal⟩) =
        upshot (readToEnd Stream.device
          ⟨.opened reader, { stream with readPlan := [] }, journal⟩) := by
  have hunplanned : Stream.Readable { stream with readPlan := [] } :=
    { hready with fair := fun reply hreply => absurd hreply List.not_mem_nil }
  have hgathers : GathersWhatIsLeft reader stream journal := gathersWhatIsLeft hready journal
  have hothers : GathersWhatIsLeft reader { stream with readPlan := [] } journal :=
    gathersWhatIsLeft hunplanned journal
  refine ⟨hgathers, fun length => ?_, hgathers.toEnd.trans hothers.toEnd.symm⟩
  rcases Nat.eq_zero_or_pos length with rfl | hlength
  · exact hgathers.nothing.trans hothers.nothing.symm
  · exact (hgathers.exactly length hlength).trans (hothers.exactly length hlength).symm

/-- Nine bytes, of which the extent shows the third to the seventh.  Four of these are left behind
the cursor; the first read brings one of them, and the second is interrupted twice. -/
theorem gathers_what_is_left_of_nine_bytes :
    ∃ stream : Stream,
      stream = { Stream.plain [1, 2, 3, 4, 5, 6, 7, 8, 9] 3 with
        readPlan := [.number 1, .fails (.plain .interrupted), .fails (.system 4), .number 2] } ∧
      upshot (readExactly Stream.device 4 ⟨.opened ⟨⟨"in", ⟨2, 5⟩⟩, 9⟩, stream, []⟩) =
        (.ok [4, 5, 6, 7], .opened ⟨⟨"in", ⟨2, 5⟩⟩, 9⟩, .plain [1, 2, 3, 4, 5, 6, 7, 8, 9] 7) ∧
      upshot (readExactly Stream.device 5 ⟨.opened ⟨⟨"in", ⟨2, 5⟩⟩, 9⟩, stream, []⟩) =
        (.error (.failed (.plain .unexpectedEof)), .opened ⟨⟨"in", ⟨2, 5⟩⟩, 9⟩,
          .plain [1, 2, 3, 4, 5, 6, 7, 8, 9] 7) ∧
      upshot (readToEnd Stream.device ⟨.opened ⟨⟨"in", ⟨2, 5⟩⟩, 9⟩, stream, []⟩) =
        upshot (readToEnd Stream.device
          ⟨.opened ⟨⟨"in", ⟨2, 5⟩⟩, 9⟩, .plain [1, 2, 3, 4, 5, 6, 7, 8, 9] 3, []⟩) ∧
      upshot (readToEnd Stream.device ⟨.opened ⟨⟨"in", ⟨2, 5⟩⟩, 9⟩, stream, []⟩) =
        (.ok [4, 5, 6, 7], .opened ⟨⟨"in", ⟨2, 5⟩⟩, 9⟩,
          .plain [1, 2, 3, 4, 5, 6, 7, 8, 9] 7) := by
  refine ⟨_, rfl, ?_⟩
  have hready : Stream.Readable { Stream.plain [1, 2, 3, 4, 5, 6, 7, 8, 9] 3 with
      readPlan := [.number 1, .fails (.plain .interrupted), .fails (.system 4), .number 2] } :=
    ⟨by decide, rfl, rfl, by decide, by decide⟩
  obtain ⟨hgathers, -, hsame⟩ := gathers_what_is_left ⟨⟨"in", ⟨2, 5⟩⟩, 9⟩ hready []
  exact ⟨hgathers.exactly 4 (by decide), hgathers.exactly 5 (by decide), hsame, hgathers.toEnd⟩

end Adapter

end FileWindow

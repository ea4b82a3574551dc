import FileWindow.Proofs.OneContract
import FileWindow.Proofs.Outline
import FileWindow.Proofs.Storing

/-!
# What was stored is fetched

Bytes that were written through a window are read back through the same window, whether the window
begins within the data, at their end or behind it, and however the bytes were cut.  The data outside
of the window are as they were.  So it is on a stream in memory, and on a file that is opened for an
update, closed, and found again by its path.

Main definitions:

- Definition Bytes.stored: data with some bytes stored at an offset.
- Definition FileSystem.ShowsIn, FileSystem.HasIn: an open file, and one that was closed, in a file
  system of some sort.
- Definition Output.StoresAndCloses, Input.FetchesAll: the two halves of a round trip.

Main results:

- Theorem Stream.device_stores, FileSystem.device_stores: streams and files do what is expected of
  them.
- Theorem fetches_what_was_stored: the round trip, on streams and on files.
-/

namespace FileWindow

variable {ρ σ : Type}

/-! ## Data -/

namespace Bytes

/-- Data with some bytes stored at an offset.  Where there are bytes to store, data that end before
the offset are extended by zeros; data outside of where the bytes go stay. -/
def stored (data : Bytes) (offset : Nat) (bytes : Bytes) : Bytes :=
  if bytes = [] then data
  else data.take offset ++ List.replicate (offset - data.length) 0 ++ bytes ++
    data.drop (offset + bytes.length)

/-- To lay bytes over data is to store them. -/
theorem overlay_eq_stored (data : Bytes) (offset : Nat) (bytes : Bytes) :
    overlay data offset bytes = stored data offset bytes := by
  unfold stored
  split
  · rename_i hbytes
    rw [hbytes, overlay_nil]
  · rename_i hbytes
    rw [overlay_of_ne_nil _ _ hbytes, resize]

/-- What was stored is where it was stored. -/
theorem take_drop_stored (data : Bytes) (offset : Nat) (bytes : Bytes) :
    ((stored data offset bytes).drop offset).take bytes.length = bytes := by
  unfold stored
  split
  · rename_i hbytes
    rw [hbytes]
    rfl
  · have hfront : (data.take offset ++ List.replicate (offset - data.length) 0).length = offset :=
      length_resize data offset
    rw [List.append_assoc, List.drop_left' hfront, List.take_left]

/-- Storing bytes cuts nothing off. -/
theorem length_le_stored (data : Bytes) (offset : Nat) (bytes : Bytes) :
    data.length ≤ (stored data offset bytes).length := by
  by_cases hbytes : bytes = []
  · rw [hbytes]
    exact Nat.le_refl _
  · rw [← overlay_eq_stored, length_overlay _ _ hbytes]
    exact Nat.le_max_left _ _

/-- Data with bytes stored reach at least as far as the bytes. -/
theorem le_length_stored (data : Bytes) (offset : Nat) {bytes : Bytes} (hbytes : bytes ≠ []) :
    offset + bytes.length ≤ (stored data offset bytes).length := by
  rw [← overlay_eq_stored, length_overlay _ _ hbytes]
  exact Nat.le_max_right _ _

end Bytes

/-! ## Streams and files -/

namespace Stream

/-- A stream that no plan interferes with, with its cursor and its data. -/
def IsPlain (cursor : Nat) (data : Bytes) (stream : Stream) : Prop :=
  stream = plain data cursor

theorem device_places : device.Places IsPlain where
  position := by
    rintro cursor data _ rfl hcursor
    exact ⟨_, position_plain data (lt_positionLimit_of_lt hcursor), rfl⟩
  seek := by
    rintro cursor data _ raw rfl hraw
    exact ⟨_, device_seek_plain data cursor (lt_positionLimit_of_lt hraw), rfl⟩

theorem device_fetches : device.Fetches IsPlain where
  toPlaces := device_places
  read := by
    rintro cursor data _ rfl length
    exact ⟨_, readPatiently_plain data cursor length, rfl⟩

theorem device_stores : device.Stores IsPlain IsPlain where
  toPlaces := device_places
  write := by
    rintro cursor data _ rfl bytes
    exact ⟨_, device_write_plain data cursor bytes, rfl⟩
  flush := by
    rintro cursor data _ rfl
    exact ⟨_, rfl, rfl⟩
  close := by
    rintro cursor data _ rfl
    exact ⟨_, rfl, rfl⟩

end Stream

namespace FileSystem

variable {handle : Nat} {readable writable : Bool} {holds released : FileSystem → Prop}

/-- An open file with its cursor and its data, in a file system of some sort. -/
def ShowsIn (holds : FileSystem → Prop) (handle : Nat) (readable writable : Bool) (cursor : Nat)
    (data : Bytes) (files : FileSystem) : Prop :=
  files.Shows handle readable writable cursor data ∧ holds files

/-- A file with its data behind an open file, closed or not, in a file system of some sort. -/
def HasIn (holds : FileSystem → Prop) (handle : Nat) (_ : Nat) (data : Bytes)
    (files : FileSystem) : Prop :=
  files.dataBehind? handle = some data ∧ holds files

theorem device_places (hkeeps : (device handle).Keeps holds) :
    (device handle).Places (ShowsIn holds handle readable writable) where
  position := by
    rintro cursor data files ⟨hshows, hholds⟩ hcursor
    obtain ⟨after, hseek, hafter⟩ := hshows.seek (.current 0) (by simp [seekTarget]) hcursor
    exact ⟨after, hseek, hafter, (hkeeps.seek _).of_ok hholds hseek⟩
  seek := by
    rintro cursor data files raw ⟨hshows, hholds⟩ hraw
    obtain ⟨after, hseek, hafter⟩ := hshows.seek (.start raw) rfl hraw
    exact ⟨after, hseek, hafter, (hkeeps.seek _).of_ok hholds hseek⟩

theorem device_fetches (hkeeps : (device handle).Keeps holds) :
    (device handle).Fetches (ShowsIn holds handle true writable) where
  toPlaces := device_places hkeeps
  read := by
    rintro cursor data files ⟨hshows, hholds⟩ length
    obtain ⟨after, hread, hafter⟩ := hshows.read length
    exact ⟨after, hread, hafter, (hkeeps.readPatiently _).of_ok hholds hread⟩

theorem device_stores (hkeeps : (device handle).Keeps holds)
    (hclose : Call.Leads holds released (device handle).close) :
    (device handle).Stores (ShowsIn holds handle readable true) (HasIn released handle) where
  toPlaces := device_places hkeeps
  write := by
    rintro cursor data files ⟨hshows, hholds⟩ bytes
    obtain ⟨after, hwrite, hafter⟩ := hshows.write bytes
    exact ⟨after, hwrite, hafter, (hkeeps.write _).of_ok hholds hwrite⟩
  flush := fun hshows => ⟨_, rfl, hshows⟩
  close := by
    rintro cursor data files ⟨hshows, hholds⟩
    obtain ⟨after, hcall, hafter⟩ := hshows.close
    exact ⟨after, hcall, hafter, hclose.of_ok hholds hcall⟩

end FileSystem

/-! ## The two halves -/

/-- An output stores chunks from an offset on: all that is asked of it succeeds, the count is that
of the bytes, and a close leaves it closed. -/
def Output.StoresAndCloses (device : Device σ) (offset : Nat) (chunks : List Bytes)
    (opened closed : Frame Output σ) : Prop :=
  ∃ after,
    run device (storing offset chunks) opened =
      .ok (.ok .nothing :: .ok (.number 0) :: chunks.map fun _ => .ok .nothing) after ∧
    after.book.written = chunks.flatten.length ∧
    perform device .close after = .ok .nothing closed ∧ closed.book = .closed

/-- An input fetches bytes from an offset on: all that is asked of it succeeds, the pieces that were
read are the bytes, and another read brings nothing. -/
def Input.FetchesAll (device : Device σ) (offset : Nat) (bytes : Bytes) (reads : List (Nat × Nat))
    (opened : Frame Input σ) : Prop :=
  ∃ (pieces : List Bytes) (after : Frame Input σ),
    run device (fetching offset bytes.length reads) opened =
      .ok (.ok .nothing :: .ok (.number 0) :: pieces.map fun piece => .ok (.counted piece)) after ∧
    pieces.flatten = bytes ∧
    ∀ length room, length ≤ maxTransfer → length ≤ room →
      ∃ last, perform device (.read length room) after = .ok (.counted []) last

section Halves

variable {device : Device σ} {shows left : Nat → Bytes → σ → Prop} {offset cursor : Nat}
  {data : Bytes}

/-- Whatever extent an output has, it stores chunks and leaves them behind. -/
theorem Output.storesAndCloses (hstores : device.Stores shows left) {chunks : List Bytes}
    {writer : Writer} (opened : Frame Output σ) (hbook : opened.book = .opened writer)
    (hworld : shows cursor data opened.world) (hoffset : offset < FileSystem.filePositionLimit)
    (hchunks : ∀ chunk ∈ chunks, chunk.length ≤ maxTransfer)
    (hcount : chunks.flatten.length < positionLimit) :
    ∃ closed, StoresAndCloses device offset chunks opened closed ∧
      left (offset + chunks.flatten.length) (Bytes.stored data offset chunks.flatten)
        closed.world := by
  obtain ⟨after, hrun, hafter⟩ := run_storing hstores hbook hworld hoffset hchunks hcount
  obtain ⟨closed, hclose, hclosed, hleft⟩ := perform_close_behind hstores hafter
  rw [Bytes.overlay_eq_stored] at hleft
  exact ⟨closed, ⟨after, hrun, by rw [hafter.book]; rfl, hclose, hclosed⟩, hleft⟩

/-- Whatever extent an input has, it fetches the bytes that stand at an offset of its data, if the
reads are long enough. -/
theorem Input.fetchesAll (hfetches : device.Fetches shows) {bytes : Bytes}
    {reads : List (Nat × Nat)} {reader : Reader} (opened : Frame Input σ)
    (hbook : opened.book = .opened reader) (hworld : shows cursor data opened.world)
    (hbytes : (data.drop offset).take bytes.length = bytes)
    (hlimit : offset + bytes.length < FileSystem.filePositionLimit)
    (hreads : ∀ read ∈ reads, read.1 ≤ maxTransfer ∧ read.1 ≤ read.2)
    (henough : bytes.length ≤ (reads.map Prod.fst).sum) :
    FetchesAll device offset bytes reads opened := by
  obtain ⟨after, hrun, hafter⟩ := run_fetching hfetches hbook hworld hlimit hreads
  rw [hbytes] at hrun hafter
  rw [List.drop_eq_nil_of_le henough] at hafter
  refine ⟨_, after, hrun, ?_, fun length room hlength hroom => ?_⟩
  · rw [Bytes.flatten_pieces, List.take_of_length_le henough]
  · obtain ⟨last, hread, -⟩ := perform_read_ahead hfetches hafter hlimit hlength hroom
    rw [List.take_nil] at hread
    exact ⟨last, hread⟩

end Halves

/-! ## The round trip -/

/-- What is stored in chunks through a window is fetched through it, on a stream in memory and on a
file that is opened for an update, closed, and opened again by its path.  The window may begin
within the data, at their end or behind it; the chunks and the reads have nothing to do with each
other, as long as each is what one operation takes and the reads are long enough.  Data outside of
the window stay, and raw data behind it are not read.  The contents have to be such as a file can
hold. -/
theorem fetches_what_was_stored (data : Bytes) (offset : Nat) (chunks : List Bytes)
    (reads : List (Nat × Nat)) (book : ρ) (journal journal' : Journal) (hoffset : offset < 2 ^ 40)
    (hchunks : ∀ chunk ∈ chunks, chunk.length ≤ maxTransfer)
    (hreads : ∀ read ∈ reads, read.1 ≤ maxTransfer ∧ read.1 ≤ read.2)
    (henough : chunks.flatten.length ≤ (reads.map Prod.fst).sum)
    (hsize : (Bytes.stored data offset chunks.flatten).length < FileSystem.filePositionLimit) :
    (∀ name name' cursor, cursor < positionLimit →
      ∃ output opened closed input reopened,
        Output.attach Stream.device name ⟨book, .plain data cursor, journal⟩ = .ok output opened ∧
        Output.StoresAndCloses Stream.device offset chunks
          ⟨output, opened.world, opened.journal⟩ closed ∧
        closed.world.data = Bytes.stored data offset chunks.flatten ∧
        Input.attach Stream.device name' ⟨book, closed.world, journal'⟩ = .ok input reopened ∧
        Input.FetchesAll Stream.device offset chunks.flatten reads
          ⟨input, reopened.world, reopened.journal⟩) ∧
    ∀ files path permissions found,
      files.opening (.output .update permissions) path = .ok found →
      found.dataBehind? files.opened.length = some data →
      ∃ output handle opened closed input handle' reopened,
        Output.openPath path .update permissions ⟨book, files, journal⟩ =
          .ok (output, handle) opened ∧
        Output.StoresAndCloses (FileSystem.device handle) offset chunks
          ⟨output, opened.world, opened.journal⟩ closed ∧
        closed.world.contents path = .ok (Bytes.stored data offset chunks.flatten) ∧
        Input.openPath path ⟨book, closed.world, journal'⟩ = .ok (input, handle') reopened ∧
        Input.FetchesAll (FileSystem.device handle') offset chunks.flatten reads
          ⟨input, reopened.world, reopened.journal⟩ := by
  have hplace : offset < FileSystem.filePositionLimit := Nat.lt_trans hoffset (by decide)
  have hend : offset + chunks.flatten.length < FileSystem.filePositionLimit := by
    by_cases hnone : chunks.flatten = []
    · rw [hnone]
      exact hplace
    · exact Nat.lt_of_le_of_lt (Bytes.le_length_stored data offset hnone) hsize
  have hcount : chunks.flatten.length < positionLimit :=
    Stream.lt_positionLimit_of_lt (by omega)
  have hthere := Bytes.take_drop_stored data offset chunks.flatten
  constructor
  · intro name name' cursor hcursor
    have hdata : data.length < positionLimit := Stream.lt_positionLimit_of_lt
      (Nat.lt_of_le_of_lt (Bytes.length_le_stored data offset chunks.flatten) hsize)
    obtain ⟨⟨ended, world, record⟩, hstored, hleft⟩ := Output.storesAndCloses Stream.device_stores
      ⟨.opened ⟨⟨name, .whole data.length⟩, 0⟩, .plain data cursor,
        .opened name data.length :: journal⟩ rfl rfl hplace hchunks hcount
    obtain rfl : world = .plain _ _ := hleft
    have hmeasured := Stream.size_plain (Bytes.stored data offset chunks.flatten)
      (Stream.lt_positionLimit_of_lt hend) (Stream.lt_positionLimit_of_lt hsize)
    exact ⟨_, _, _, _, _, Output.attach_of_size name (Stream.size_plain data hcursor hdata),
      hstored, rfl, Input.attach_of_size name' hmeasured,
      Input.fetchesAll Stream.device_fetches _ rfl rfl hthere hend hreads henough⟩
  · intro files path permissions found hopening hdata
    obtain ⟨id, hlookup, hread, rfl⟩ := FileSystem.opening_update hopening
    have hshows := (FileSystem.opens_of_opening hopening).shows hdata
    have hgrounded := FileSystem.grounded_openNode files (.output .update permissions) id
    have hkeeps := FileSystem.device_keeps_grounded files files.opened.length id
    have hcloses := FileSystem.close_leads_grounded files files.opened.length id
    have hopen := Output.openPath_of_opening book journal hopening hdata
    obtain ⟨⟨ended, world, record⟩, hstored, hbehind, hground⟩ :=
      Output.storesAndCloses (FileSystem.device_stores hkeeps hcloses)
        ⟨.opened ⟨⟨path, .whole data.length⟩, 0⟩, _, .opened path data.length :: journal⟩ rfl
        ⟨hshows, hgrounded⟩ hplace hchunks hcount
    obtain ⟨hcontents, again, hagain, hdata'⟩ := hground.reopen hlookup hread hbehind
    have hshows' := (FileSystem.opens_of_opening hagain).shows hdata'
    have hfetches : (FileSystem.device world.opened.length).Fetches
        (FileSystem.ShowsIn (fun _ => True) world.opened.length true false) :=
      FileSystem.device_fetches (FileSystem.device _).keeps_trivially
    exact ⟨_, _, _, _, _, _, _, hopen, hstored, hcontents,
      Input.openPath_of_opening book journal' hagain hdata',
      Input.fetchesAll hfetches _ rfl ⟨hshows', trivial⟩ hthere hend hreads henough⟩

/-- Three bytes are stored in two chunks behind the end of a stream and of a file of three bytes,
and fetched in three reads. -/
theorem fetches_what_was_stored_behind_three_bytes :
    (∃ output opened closed input reopened,
      Output.attach Stream.device "data" ⟨(), .plain [1, 2, 3] 1, []⟩ = .ok output opened ∧
      Output.StoresAndCloses Stream.device 5 [[7, 8], [9]]
        ⟨output, opened.world, opened.journal⟩ closed ∧
      closed.world.data = [1, 2, 3, 0, 0, 7, 8, 9] ∧
      Input.attach Stream.device "data" ⟨(), closed.world, []⟩ = .ok input reopened ∧
      Input.FetchesAll Stream.device 5 [7, 8, 9] [(1, 4), (4, 4), (2, 2)]
        ⟨input, reopened.world, reopened.journal⟩) ∧
    ∃ output handle opened closed input handle' reopened,
      Output.openPath "data" .update none ⟨(), FileSystem.withThreeBytes, []⟩ =
        .ok (output, handle) opened ∧
      Output.StoresAndCloses (FileSystem.device handle) 5 [[7, 8], [9]]
        ⟨output, opened.world, opened.journal⟩ closed ∧
      closed.world.contents "data" = .ok [1, 2, 3, 0, 0, 7, 8, 9] ∧
      Input.openPath "data" ⟨(), closed.world, []⟩ = .ok (input, handle') reopened ∧
      Input.FetchesAll (FileSystem.device handle') 5 [7, 8, 9] [(1, 4), (4, 4), (2, 2)]
        ⟨input, reopened.world, reopened.journal⟩ := by
  obtain ⟨hstream, hfile⟩ := fetches_what_was_stored [1, 2, 3] 5 [[7, 8], [9]]
    [(1, 4), (4, 4), (2, 2)] () [] [] (by decide) (by decide) (by decide) (by decide)
    (by decide +kernel)
  have hopening : FileSystem.withThreeBytes.opening (.output .update none) "data" =
      .ok { FileSystem.withThreeBytes with opened := [⟨7, 0, true, true, true⟩] } :=
    eq_ok_of_toOption (by decide +kernel)
  exact ⟨hstream "data" "data" 1 (by decide),
    hfile FileSystem.withThreeBytes "data" none _ hopening (by decide +kernel)⟩

end FileWindow

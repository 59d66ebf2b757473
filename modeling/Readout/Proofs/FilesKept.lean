/-
# Files of an earlier acquisition

A channel's file is created, or emptied, when samples are first written to it.  Until then an acquisition
leaves the files that are there as they are, so that one that fails before any chunk of its own comes
keeps what an earlier one wrote.

A chunk without waveforms writes no samples, but it writes: the files of all channels are created then,
or emptied unless they are appended to, although nothing is ever put into them.

* `FileSinks.touch_files` -- what becomes of a folder when the first batch holds no samples;
* `failed_keeps_files_iff` -- which files a failed acquisition without waveforms keeps;
* `empty_chunk_empties_file` -- an acquisition that fails without waveforms and empties a file.
-/
import Readout.Acquire.ChannelFile
import Readout.Proofs.Accounts
import Readout.Proofs.Finishing
import Readout.Proofs.Folders

namespace Readout

open Control

/-! ## 1. One file sink -/

namespace FileSink

/-- Nothing waits to be written to the file of the sink, if it has one. -/
def Idle (s : FileSink) : Prop := ∀ file, s.file = some file → file.waiting = []

/-- The sink has its file, and nothing waits to be written to it. -/
def Touched (s : FileSink) : Prop := ∃ file, s.file = some file ∧ file.waiting = []

theorem Touched.idle {s : FileSink} (h : s.Touched) : s.Idle := by
  obtain ⟨file, hfile, hwaiting⟩ := h
  intro other hother
  rw [Option.some.inj (hother.symm.trans hfile)]
  exact hwaiting

/-- Finishing a sink for which nothing waits changes nothing. -/
theorem finish_of_idle {s : FileSink} (h : s.Idle) (folder : Folder) :
    SampleSink.finish s folder = (none, s, folder) := by
  have hflush : s.flush folder = (s, folder) := by
    unfold flush
    cases hfile : s.file with
    | none => rfl
    | some file =>
      simp only [BufferedFile.flush, h file hfile, if_true]
      rw [← hfile]
  simp only [SampleSink.finish, hflush]

/-- Nothing is written when there is nothing to write. -/
theorem write_nil_of_empty {file : BufferedFile} (h : file.waiting = []) (folder : Folder) :
    file.write (sampleOctets []) folder = (file, folder) := by
  obtain ⟨place, position, waiting⟩ := file
  obtain rfl : waiting = [] := h
  rfl

/-- A batch without samples does nothing to a file that is there. -/
theorem write_nil_of_touched {s : FileSink} (h : s.Touched) (folder : Folder) :
    SampleSink.write s [] folder = (none, s, folder) := by
  obtain ⟨file, hfile, hwaiting⟩ := h
  simp only [SampleSink.write, write, hfile, write_nil_of_empty hwaiting]
  rw [← hfile]
  rfl

/-- What becomes of a folder when the file of a sink is created. -/
theorem create_eq_ok {s : FileSink} {folder after : Folder} {file : BufferedFile}
    (h : s.create folder = (.ok file, after)) :
    file.waiting = [] ∧ folder.Grows after ∧
      after.find s.path = .ok (file.place, .file (folder.opened s.append file.place)) ∧
      ∀ p, after.file? p =
        if p = file.place then some (folder.opened s.append file.place) else folder.file? p := by
  have hparents := folder.extends_createParents s.path
  unfold create at h
  split at h
  · cases h
  · rename_i between hcreated
    rw [hcreated] at hparents
    split at h
    · cases h
    · rename_i place opened hopen
      cases h
      obtain ⟨hgrows, hfind, hfiles⟩ := Folder.openForWriting_eq_ok hopen
      have hsame : between.opened s.append place = folder.opened s.append place := by
        rw [Folder.opened, Folder.opened, hparents.files]
      rw [hsame] at hfind hfiles
      refine ⟨rfl, hparents.grows.trans hgrows, hfind, ?_⟩
      intro p
      rw [hfiles p, hparents.files]

/-- A first batch without samples creates the file, and leaves nothing that waits. -/
theorem write_nil_eq_none {s sink : FileSink} {folder after : Folder} (hnew : s.file = none)
    (h : SampleSink.write s [] folder = (none, sink, after)) :
    ∃ file, s.create folder = (.ok file, after) ∧ sink.Touched := by
  simp only [SampleSink.write, write, hnew] at h
  cases hcreate : s.create folder with
  | mk created between =>
    rw [hcreate] at h
    cases created with
    | error fault => cases h
    | ok file =>
      have hwaiting := (create_eq_ok hcreate).1
      simp only [write_nil_of_empty hwaiting] at h
      cases h
      exact ⟨file, rfl, file, rfl, hwaiting⟩

end FileSink

/-! ## 2. The files of all channels -/

namespace Reassembly

/-- Finishing sinks for which nothing waits changes nothing. -/
theorem finishEach_of_idle {channels : List UInt32} {sinks : List FileSink} (folder : Folder)
    (h : ∀ sink ∈ sinks, sink.Idle) :
    (finishEach channels sinks folder).2.2 = folder := by
  induction channels generalizing sinks with
  | nil => rfl
  | cons channel channels ih =>
    cases sinks with
    | nil => rfl
    | cons sink sinks =>
      rw [finishEach, FileSink.finish_of_idle (h sink List.mem_cons_self)]
      exact ih fun other hother => h other (List.mem_cons_of_mem _ hother)

/-- Batches without samples do nothing to files that are there. -/
theorem writeEach_of_touched {channels : List UInt32} {sinks : List FileSink} (folder : Folder)
    (h : ∀ sink ∈ sinks, sink.Touched) (n : Nat) :
    writeEach channels sinks (List.replicate n []) folder = (none, sinks, folder) := by
  induction channels generalizing sinks n with
  | nil => rfl
  | cons channel channels ih =>
    cases sinks with
    | nil => rfl
    | cons sink sinks =>
      cases n with
      | zero => rfl
      | succ n =>
        rw [List.replicate_succ, writeEach,
          FileSink.write_nil_of_touched (h sink List.mem_cons_self)]
        simp only [ih (fun other hother => h other (List.mem_cons_of_mem _ hother)) n]

end Reassembly

namespace FileSinks

/-- Writes a batch without samples to the sinks of channels, which have no files yet. -/
def touch (f : FileSinks) (channels : List UInt32) (folder : Folder) :
    Option (UInt32 × Fault) × List FileSink × Folder :=
  Reassembly.writeEach channels (channels.map f.openSink) (List.replicate channels.length []) folder

/-- Whether a place is where the file of a channel is. -/
def Holds (f : FileSinks) (channels : List UInt32) (folder : Folder) (p : Place) : Prop :=
  ∃ channel ∈ channels, ∃ content, folder.find (f.pathFor channel) = .ok (p, .file content)

theorem holds_cons_iff {f : FileSinks} {channel : UInt32} {channels : List UInt32}
    {folder : Folder} {place p : Place} {content : Bytes}
    (h : folder.find (f.pathFor channel) = .ok (place, .file content)) :
    f.Holds (channel :: channels) folder p ↔ p = place ∨ f.Holds channels folder p := by
  constructor
  · rintro ⟨other, hother, content', hfind⟩
    rcases List.mem_cons.mp hother with rfl | hother
    · rw [h] at hfind
      cases hfind
      exact Or.inl rfl
    · exact Or.inr ⟨other, hother, content', hfind⟩
  · rintro (rfl | ⟨other, hother, content', hfind⟩)
    · exact ⟨channel, List.mem_cons_self, content, h⟩
    · exact ⟨other, List.mem_cons_of_mem _ hother, content', hfind⟩

/-- The files of channels are there, with what they held in a folder if they are appended to and empty
otherwise, and the other files are those of that folder. -/
structure Opened (f : FileSinks) (channels : List UInt32) (folder world : Folder) : Prop where
  there : ∀ channel ∈ channels, ∃ p content, world.find (f.pathFor channel) = .ok (p, .file content)
  own : ∀ p, f.Holds channels world p → world.file? p = some (folder.opened f.append p)
  others : ∀ p, ¬f.Holds channels world p → world.file? p = folder.file? p

/-- The files of channels were in a folder already, and each is appended to or was empty. -/
def Spares (f : FileSinks) (channels : List UInt32) (folder world : Folder) : Prop :=
  ∀ p, f.Holds channels world p →
    ∃ before, folder.file? p = some before ∧ (f.append = true ∨ before = [])

/-- Opening files changes none exactly if it spares them. -/
theorem Opened.files_eq_iff {f : FileSinks} {channels : List UInt32} {folder world : Folder}
    (h : f.Opened channels folder world) :
    (∀ p, world.file? p = folder.file? p) ↔ f.Spares channels folder world := by
  constructor
  · intro hsame p hp
    refine ⟨folder.opened f.append p, (hsame p).symm.trans (h.own p hp), ?_⟩
    cases happend : f.append with
    | true => exact Or.inl rfl
    | false => exact Or.inr rfl
  · intro hspares p
    by_cases hp : f.Holds channels world p
    · obtain ⟨before, hbefore, hkept⟩ := hspares p hp
      rw [h.own p hp, hbefore, Folder.opened, hbefore]
      rcases hkept with hkept | rfl
      · rw [if_pos hkept]
        rfl
      · cases f.append <;> rfl
    · exact h.others p hp

/-- **What becomes of a folder when the first batch holds no samples**: the files of all channels are
there, and nothing is in them but what is appended to. -/
theorem touch_files {f : FileSinks} {channels : List UInt32} {folder world : Folder}
    {sinks : List FileSink} (h : f.touch channels folder = (none, sinks, world)) :
    (∀ sink ∈ sinks, sink.Touched) ∧ folder.Grows world ∧ f.Opened channels folder world := by
  induction channels generalizing folder sinks with
  | nil =>
    cases h
    refine ⟨?_, .refl _, ?_, ?_, fun _ _ => rfl⟩
    · intro sink hsink
      cases hsink
    · intro channel hchannel
      cases hchannel
    · rintro p ⟨channel, hchannel, -⟩
      cases hchannel
  | cons channel channels ih =>
    simp only [touch, List.map_cons, List.length_cons, List.replicate_succ,
      Reassembly.writeEach] at h
    split at h
    · cases h
    · rename_i sink between hwrite
      obtain ⟨file, hcreate, htouched⟩ := FileSink.write_nil_eq_none rfl hwrite
      obtain ⟨-, hgrows, hfind, hfiles⟩ := FileSink.create_eq_ok hcreate
      have happend : (f.openSink channel).append = f.append := rfl
      rw [happend] at hfiles
      have hfold : Reassembly.writeEach channels (channels.map f.openSink)
          (List.replicate channels.length []) between = f.touch channels between := rfl
      rw [hfold] at h
      generalize hrest : f.touch channels between = result at h
      obtain ⟨failure, rest, after⟩ := result
      cases h
      obtain ⟨hall, hlater, hthere, hown, hothers⟩ := ih hrest
      obtain ⟨content, hfound⟩ := hlater.find hfind
      -- What was opened once is opened again as it is.
      have hkept : ∀ p, between.opened f.append p = folder.opened f.append p := by
        intro p
        unfold Folder.opened
        rw [hfiles p]
        by_cases hplace : p = file.place
        · rw [if_pos hplace, hplace, Folder.opened]
          cases f.append <;> rfl
        · rw [if_neg hplace]
      refine ⟨?_, hgrows.trans hlater, ?_, ?_, ?_⟩
      · intro other hother
        rcases List.mem_cons.mp hother with rfl | hother
        · exact htouched
        · exact hall other hother
      · intro other hother
        rcases List.mem_cons.mp hother with rfl | hother
        · exact ⟨file.place, content, hfound⟩
        · exact hthere other hother
      · intro p hp
        rw [holds_cons_iff hfound] at hp
        by_cases hagain : f.Holds channels after p
        · rw [hown p hagain, hkept]
        · obtain rfl : p = file.place := hp.resolve_right hagain
          rw [hothers _ hagain, hfiles, if_pos rfl]
      · intro p hp
        rw [holds_cons_iff hfound] at hp
        rw [hothers p fun hagain => hp (Or.inr hagain), hfiles,
          if_neg fun hplace => hp (Or.inl hplace)]

end FileSinks

/-! ## 3. Chunks without waveforms -/

/-- What an acquisition has done to its folder after chunks without waveforms: nothing if there was none,
and otherwise what the first of them did. -/
structure Blank (f : FileSinks) (r : AcquisitionRequest) (folder : Folder)
    (chunks : List ChunkReply) (u : Underway FileSink Folder) : Prop where
  channels : u.reassembly.channels = r.channels
  layout : u.reassembly.layout = r.layout
  fresh : chunks = [] →
    u.reassembly.sinks.map TracedSink.sink = r.channels.map f.openSink ∧ u.world.world = folder
  touched : chunks ≠ [] →
    f.touch r.channels folder = (none, u.reassembly.sinks.map TracedSink.sink, u.world.world)

namespace Blank

variable {f : FileSinks} {r : AcquisitionRequest} {folder : Folder} {chunks : List ChunkReply}
  {u : Underway FileSink Folder}

theorem did (h : Blank f r folder chunks u) (effect : Effect) :
    Blank f r folder chunks (u.did effect) :=
  ⟨h.channels, h.layout, h.fresh, h.touched⟩

/-- A chunk without waveforms creates the files if it is the first, and does nothing otherwise. -/
theorem append {reassembly : Reassembly (TracedSink FileSink)} {w : Traced Folder}
    (h : Blank f r folder chunks ⟨reassembly, w⟩) (chunk : ChunkReply) {data : List UInt32}
    (hnone : (reassembly.append 0 data w).1 = none) :
    Blank f r folder (chunks ++ [chunk])
      ⟨(reassembly.append 0 data w).2.1, (reassembly.append 0 data w).2.2⟩ := by
  obtain ⟨hchannels, hlayout, -⟩ := reassembly.append_frame 0 data w
  have hwritten := Reassembly.writeEach_of_append hnone
  rw [Layout.allSamples_zero, show reassembly.channels = r.channels from h.channels,
    show reassembly.layout.channels = r.channels.length from congrArg Layout.channels h.layout]
    at hwritten
  refine ⟨hchannels.trans h.channels, hlayout.trans h.layout, fun hnil => ?_, fun _ => ?_⟩
  · exact absurd hnil (List.append_ne_nil_of_right_ne_nil _ (List.cons_ne_nil _ _))
  · by_cases hfirst : chunks = []
    · obtain ⟨hsinks, hworld⟩ := h.fresh hfirst
      simp only at hsinks hworld
      rw [hsinks, hworld] at hwritten
      exact hwritten
    · have hbefore := h.touched hfirst
      rw [Reassembly.writeEach_of_touched w.world (FileSinks.touch_files hbefore).1] at hwritten
      rw [hbefore, hwritten]

/-- Nothing waits to be written to any file. -/
theorem idle (h : Blank f r folder chunks u) :
    ∀ sink ∈ u.reassembly.sinks, sink.sink.Idle := by
  intro sink hsink
  have hmem := List.mem_map_of_mem (f := TracedSink.sink) hsink
  by_cases hfirst : chunks = []
  · rw [(h.fresh hfirst).1] at hmem
    obtain ⟨channel, -, heq⟩ := List.mem_map.mp hmem
    rw [← heq]
    intro file hfile
    cases hfile
  · exact ((FileSinks.touch_files (h.touched hfirst)).1 _ hmem).idle

end Blank

/-- A chunk that is let through and holds no waveform holds no samples, and has the size for it. -/
theorem StreamState.size_of_empty {state : StreamState} {r : AcquisitionRequest}
    (hlayout : state.layout = r.layout) {message : Bytes} {chunk : ChunkReply}
    (hjudge : state.judge message = .chunk chunk) (hempty : chunk.waveforms.toNat = 0) :
    r.layout.samplesIn? 0 = some chunk.data.length := by
  obtain ⟨-, -, -, hsize⟩ := judgeReply_eq_chunk_iff.mp (judge_eq_chunk hjudge)
  obtain ⟨-, -, hlength⟩ := sizeError_eq_none_iff.mp hsize
  have hcount := r.samplesIn?_eq_some (Nat.zero_le r.waveforms.toNat)
  rw [hempty, hlayout, hcount, Option.getD_some] at hlength
  rw [hcount, hlength]

namespace ChunkLoop

variable {f : FileSinks} {c : AcquisitionConfig} {r : AcquisitionRequest} {s : Surroundings}
  {folder : Folder} {chunks : List ChunkReply}

/-- Meeting an arrival that brings no waveform keeps a folder blank, unless a sink fails. -/
theorem meet_blank {loop : ChunkLoop FileSink Folder} (h : Blank f r folder chunks loop.underway)
    (hlayout : loop.state.layout = r.layout) {wait : Duration} {arrival : Arrival}
    (hsink : ∀ channel fault, (loop.meet wait arrival).finding ≠ .failure (.sink channel fault))
    (hnone : waveformsIn (loop.state.chunksIn (Arrival.messages [arrival])) = 0) :
    Blank f r folder (chunks ++ loop.state.chunksIn (Arrival.messages [arrival]))
        (loop.meet wait arrival).underway ∧
      (loop.meet wait arrival).state =
        (Arrival.messages [arrival]).foldl StreamState.hear loop.state := by
  cases hmessage : arrival.message? with
  | none =>
    have hmessages : Arrival.messages [arrival] = [] := by simp [Arrival.messages, hmessage]
    obtain ⟨hstate, hunderway⟩ := loop.meet_of_no_message wait hmessage
    rw [hmessages, hstate, hunderway]
    refine ⟨?_, rfl⟩
    rw [show loop.state.chunksIn [] = [] from rfl, List.append_nil]
    exact h.did _
  | some octets =>
    obtain rfl := Arrival.eq_message hmessage
    have hmessages : Arrival.messages [.message octets] = [octets] := rfl
    rw [hmessages, StreamState.chunksIn_singleton] at hnone ⊢
    rw [loop.meet_message] at hsink ⊢
    rw [List.foldl_cons, List.foldl_nil, StreamState.hear]
    cases hjudge : loop.state.judge octets with
    | foreign =>
      rw [StreamState.accept_of_foreign hjudge]
      refine ⟨?_, rfl⟩
      rw [show (Verdict.foreign.chunk?).toList = [] from rfl, List.append_nil]
      exact h.did _
    | fatal e =>
      rw [StreamState.accept_of_fatal hjudge]
      refine ⟨?_, rfl⟩
      rw [show ((Verdict.fatal e).chunk?).toList = [] from rfl, List.append_nil]
      exact h.did _
    | chunk chunk =>
      rw [hjudge] at hnone
      have hempty : chunk.waveforms.toNat = 0 := hnone
      have hsize := StreamState.size_of_empty hlayout hjudge hempty
      rw [← h.layout] at hsize
      rw [StreamState.accept_of_chunk hjudge, hempty] at hsink ⊢
      have happended : (loop.underway.reassembly.append 0 chunk.data
          (loop.underway.world.did (.awaits wait))).1 = none := by
        cases hfailure : (loop.underway.reassembly.append 0 chunk.data
            (loop.underway.world.did (.awaits wait))).1 with
        | none => rfl
        | some e =>
          obtain ⟨channel, fault, rfl⟩ := Reassembly.append_eq_sink hsize hfailure
          rw [hfailure] at hsink
          exact absurd rfl (hsink channel fault)
      rw [happended]
      exact ⟨(h.did (.awaits wait)).append chunk happended, rfl⟩

/-- **A loop that fails without waveforms leaves a folder blank**, unless a sink fails. -/
theorem run_blank {loop : ChunkLoop FileSink Folder} {arrivals : List Arrival} {e : AcquireError}
    (h : waveformsIn chunks = 0 → Blank f r folder chunks loop.underway)
    (hlayout : loop.state.layout = r.layout)
    (hfailed : (loop.run c r s arrivals).outcome = some (.error e))
    (hsink : ∀ channel fault, e ≠ .sink channel fault) :
    ∃ taken, arrivals = taken ++ (loop.run c r s arrivals).left ∧
      (loop.run c r s arrivals).receives = loop.receives + taken.length ∧
      (waveformsIn (chunks ++ loop.state.chunksIn (Arrival.messages taken)) = 0 →
        Blank f r folder (chunks ++ loop.state.chunksIn (Arrival.messages taken))
          (loop.run c r s arrivals).underway) := by
  induction arrivals generalizing loop chunks with
  | nil => cases hfailed
  | cons arrival left ih =>
    rw [run_cons] at hfailed ⊢
    have hsound : ∀ channel fault,
        (loop.meet c.chunkWait arrival).finding ≠ .failure (.sink channel fault) := by
      intro channel fault hfound
      rw [turn_of_finding hfound] at hfailed
      exact hsink channel fault (Except.error.inj (Option.some.inj hfailed)).symm
    -- What is empty in all is empty before the arrival, and in it.
    have hmeet : waveformsIn (chunks ++ loop.state.chunksIn (Arrival.messages [arrival])) = 0 →
        Blank f r folder (chunks ++ loop.state.chunksIn (Arrival.messages [arrival]))
            (loop.meet c.chunkWait arrival).underway ∧
          (loop.meet c.chunkWait arrival).state =
            (Arrival.messages [arrival]).foldl StreamState.hear loop.state := by
      intro hnone
      rw [waveformsIn_append] at hnone
      exact meet_blank (h (Nat.eq_zero_of_add_eq_zero_right hnone)) hlayout hsound
        (Nat.eq_zero_of_add_eq_zero_left hnone)
    cases hturn : loop.turn c r s arrival with
    | ended outcome u =>
      refine ⟨[arrival], rfl, rfl, ?_⟩
      intro hnone
      rw [(turn_eq_ended hturn).1]
      exact (hmeet hnone).1
    | onward next =>
      rw [hturn] at hfailed
      obtain ⟨hreceives, hstate, hunderway⟩ := turn_eq_onward hturn
      rw [← hstate, ← hunderway] at hmeet
      have hnext : next.state.layout = r.layout := by
        rw [hstate, (loop.meet_frame c.chunkWait arrival).2.1, hlayout]
      obtain ⟨taken, htaken, hcount, hblank⟩ := ih (fun hnone => (hmeet hnone).1) hnext hfailed
      refine ⟨arrival :: taken, congrArg (arrival :: ·) htaken, ?_, ?_⟩
      · rw [Turn.resume, hcount, hreceives, List.length_cons]
        omega
      · intro hnone
        have hmessages : Arrival.messages (arrival :: taken) =
            Arrival.messages [arrival] ++ Arrival.messages taken :=
          List.filterMap_append (l := [arrival])
        rw [hmessages, StreamState.chunksIn_append] at hnone ⊢
        have hfirst : waveformsIn
            (chunks ++ loop.state.chunksIn (Arrival.messages [arrival])) = 0 := by
          rw [← List.append_assoc, waveformsIn_append] at hnone
          exact Nat.eq_zero_of_add_eq_zero_right hnone
        rw [← (hmeet hfirst).2, ← List.append_assoc] at hnone ⊢
        exact hblank hnone

end ChunkLoop

/-! ## 4. Acquisitions -/

section

variable {f : FileSinks} {c : AcquisitionConfig} {r : AcquisitionRequest} {label : String}
  {s : Surroundings} {folder : Folder} {u : Underway FileSink Folder} {e : AcquireError}

/-- How many waveforms each chunk or answer holds that an acquisition lets through, when it has asked for
so many messages. -/
def accepted (c : AcquisitionConfig) (r : AcquisitionRequest) (label : String) (s : Surroundings)
    (receives : Nat) : List Nat :=
  let messages := Arrival.messages (s.arrivals.take receives)
  match c.mode with
  | .single =>
    messages.filterMap fun message => (replyData r message).toOption.map fun _ => r.waveforms.toNat
  | .streaming =>
    ((StreamState.start c r label).chunksIn messages).map fun chunk => chunk.waveforms.toNat

theorem accepted_zero : accepted c r label s 0 = [] := by
  unfold accepted
  cases c.mode <;> rfl

/-- The wait for the one answer leaves a folder blank, and takes no message but that answer. -/
theorem awaitReply_blank (h : Blank f r folder [] u) (receives : Nat) (arrivals : List Arrival) :
    let awaited := awaitReply c s receives u arrivals
    Blank f r folder [] awaited.2.1 ∧
      ∃ taken, arrivals = taken ++ awaited.2.2.2 ∧ awaited.2.2.1 = receives + taken.length ∧
        Arrival.messages taken = (awaited.1.bind Except.toOption).toList := by
  intro awaited
  simp only [awaited]
  induction arrivals generalizing receives u with
  | nil =>
    cases hstop : stopsWaiting? c s receives with
    | some e =>
      rw [awaitReply_of_stop hstop]
      exact ⟨h, [], rfl, rfl, rfl⟩
    | none =>
      rw [awaitReply_of_going hstop]
      exact ⟨h, [], rfl, rfl, rfl⟩
  | cons arrival left ih =>
    cases hstop : stopsWaiting? c s receives with
    | some e =>
      rw [awaitReply_of_stop hstop]
      exact ⟨h, [], rfl, rfl, rfl⟩
    | none =>
      have hdid := h.did (.awaits (singleWait c s receives))
      obtain ⟨hlater, taken, htaken, hcount, hmessages⟩ := ih hdid (receives + 1)
      -- A wait in which nothing comes takes an arrival that is no message.
      have hlapse : arrival.message? = none →
          ∃ taken', arrival :: left = taken' ++ (awaitReply c s (receives + 1)
              (u.did (.awaits (singleWait c s receives))) left).2.2.2 ∧
            (awaitReply c s (receives + 1)
              (u.did (.awaits (singleWait c s receives))) left).2.2.1 =
                receives + taken'.length ∧
            Arrival.messages taken' = Arrival.messages taken := by
        intro hnone
        refine ⟨arrival :: taken, congrArg (arrival :: ·) htaken, ?_, ?_⟩
        · rw [hcount, List.length_cons]
          omega
        · rw [Arrival.messages, List.filterMap_cons_none hnone]
          rfl
      rw [awaitReply_of_going hstop]
      cases arrival with
      | message octets => exact ⟨hdid, [.message octets], rfl, rfl, rfl⟩
      | quiet =>
        obtain ⟨taken', hleft, hcount', hsame⟩ := hlapse rfl
        exact ⟨hlater, taken', hleft, hcount', hsame.trans hmessages⟩
      | fails fault =>
        cases fault with
        | timeout after =>
          obtain ⟨taken', hleft, hcount', hsame⟩ := hlapse rfl
          exact ⟨hlater, taken', hleft, hcount', hsame.trans hmessages⟩
        | _ => exact ⟨hdid, [.fails _], rfl, rfl, rfl⟩

/-- The data of an answer that is let through has the size that was asked for. -/
theorem size_of_replyData {message : Bytes} {data : List UInt32}
    (h : replyData r message = .ok data) :
    r.layout.samplesIn? r.waveforms.toNat = some data.length := by
  have hlength : data.length = r.totalSamples := by
    unfold replyData at h
    split at h
    · cases h
    · split at h
      · cases h
      · split at h
        · cases h
        · split at h
          · cases h
          · split at h
            · cases h
            · rename_i hsize
              cases h
              exact Decidable.not_not.mp hsize
  rw [r.samplesIn?_eq_some (Nat.le_refl _), hlength, r.totalSamples_eq]

/-- What was taken is what arrived first. -/
theorem messages_take_of_append {arrivals taken left : List Arrival} {receives : Nat}
    (htaken : arrivals = taken ++ left) (hcount : receives = 0 + taken.length) :
    Arrival.messages (arrivals.take receives) = Arrival.messages taken := by
  rw [htaken, hcount, Nat.zero_add, List.take_left]

/-- An answer that fails leaves a folder blank, unless a sink fails: it is not let through. -/
theorem answered_single_blank (hmode : c.mode = .single) (h : Blank f r folder [] u)
    (hfailed : (answered c r label s u).outcome = some (.error e))
    (hsink : ∀ channel fault, e ≠ .sink channel fault) :
    Blank f r folder [] (answered c r label s u).underway ∧
      accepted c r label s (answered c r label s u).receives = [] := by
  obtain ⟨hblank, taken, htaken, hcount, hmessages⟩ :=
    awaitReply_blank (c := c) (s := s) h 0 s.arrivals
  simp only [answered, accepted, hmode] at hfailed ⊢
  generalize awaitReply c s 0 u s.arrivals = awaited at hblank htaken hcount hmessages hfailed ⊢
  obtain ⟨_ | fault | message, u', receives, left⟩ := awaited
  · cases hfailed
  · refine ⟨hblank, ?_⟩
    rw [takeReply, messages_take_of_append htaken hcount, hmessages]
    rfl
  · simp only [takeReply] at hfailed ⊢
    cases hdata : replyData r message with
    | error fault =>
      refine ⟨hblank, ?_⟩
      simp only [messages_take_of_append htaken hcount, hmessages]
      simp [Except.toOption, hdata]
    | ok data =>
      simp only [hdata] at hfailed
      have hsize := size_of_replyData hdata
      rw [← hblank.layout] at hsize
      cases hfailure : (u'.reassembly.append r.waveforms.toNat data u'.world).1 with
      | none =>
        rw [hfailure] at hfailed
        cases hfailed
      | some fault =>
        obtain ⟨channel, cause, rfl⟩ := Reassembly.append_eq_sink hsize hfailure
        rw [hfailure] at hfailed
        exact absurd (Except.error.inj (Option.some.inj hfailed)).symm (hsink channel cause)

theorem waveformsIn_eq_zero {chunks : List ChunkReply}
    (h : ∀ waveforms ∈ chunks.map fun chunk => chunk.waveforms.toNat, waveforms = 0) :
    waveformsIn chunks = 0 := by
  induction chunks with
  | nil => rfl
  | cons chunk chunks ih =>
    rw [List.map_cons] at h
    rw [waveformsIn, h _ List.mem_cons_self,
      ih fun waveforms hmem => h waveforms (List.mem_cons_of_mem _ hmem)]

/-- **An exchange that fails without waveforms leaves a folder blank**, unless a sink fails. -/
theorem exchange_blank (h : Blank f r folder [] u)
    (hfailed : (exchange c r label s u).outcome = some (.error e))
    (hsink : ∀ channel fault, e ≠ .sink channel fault)
    (hempty : ∀ waveforms ∈ accepted c r label s (exchange c r label s u).receives,
      waveforms = 0) :
    ∃ chunks, Blank f r folder chunks (exchange c r label s u).underway ∧
      (chunks = [] ↔ accepted c r label s (exchange c r label s u).receives = []) := by
  cases hseen : s.cancelledBy .opening with
  | true =>
    rw [exchange_of_seen hseen]
    exact ⟨[], h, iff_of_true rfl accepted_zero⟩
  | false =>
    have hprepared : Blank f r folder [] (prepared c r u) := by
      unfold prepared
      cases c.mode with
      | single => exact h
      | streaming => exact h.did _
    rw [exchange_of_unseen hseen] at hfailed hempty ⊢
    cases hfault : s.sendFault with
    | some fault => exact ⟨[], hprepared.did _, iff_of_true rfl accepted_zero⟩
    | none =>
      simp only [hfault] at hfailed hempty ⊢
      have hsent := hprepared.did (.sends (c.requestMessage r label))
      cases hmode : c.mode with
      | single =>
        obtain ⟨hblank, hnone⟩ := answered_single_blank hmode hsent hfailed hsink
        exact ⟨[], hblank, iff_of_true rfl hnone⟩
      | streaming =>
        simp only [answered, accepted, hmode] at hfailed hempty ⊢
        have hstart : waveformsIn [] = 0 → Blank f r folder []
            ((prepared c r u).did (.sends (c.requestMessage r label))) := fun _ => hsent
        obtain ⟨taken, htaken, hcount, hblank⟩ := ChunkLoop.run_blank hstart rfl hfailed hsink
        rw [messages_take_of_append htaken hcount] at hempty ⊢
        exact ⟨_, hblank (waveformsIn_eq_zero hempty), List.map_eq_nil_iff.symm⟩

/-- Opening the sinks of channels changes nothing. -/
theorem openEach_files (f : FileSinks) (channels : List UInt32) (w : Traced Folder) :
    let opened := Reassembly.openEach (SinkFactory.traced f.factory) channels w
    opened.1 = none ∧ opened.2.1.map TracedSink.sink = channels.map f.openSink ∧
      opened.2.2.world = w.world := by
  intro opened
  simp only [opened]
  induction channels generalizing w with
  | nil => exact ⟨rfl, rfl, rfl⟩
  | cons channel channels ih =>
    obtain ⟨hnone, hsinks, hworld⟩ := ih (w.did (.opens channel))
    exact ⟨hnone, congrArg (f.openSink channel :: ·) hsinks, hworld⟩

/-- An acquisition starts with a folder that is blank. -/
theorem blank_of_opened (hbegin : Beginning.of c r s f.factory folder = .opened u) :
    Blank f r folder [] u := by
  obtain ⟨-, hchannels, hlayout⟩ := Beginning.regular_opened hbegin
  obtain ⟨sinks, hopen, hstart⟩ := Beginning.of_eq_opened hbegin
  obtain ⟨-, hsinks, hworld⟩ := openEach_files f r.channels ⟨folder, []⟩
  rw [hopen] at hsinks hworld
  refine ⟨hchannels, hlayout, fun _ => ⟨?_, hworld⟩, fun hsome => absurd rfl hsome⟩
  rw [hstart]
  exact hsinks

/-- Finishing sinks for which nothing waits leaves the folder as the exchange did. -/
theorem Exchanged.world_conclude {exchanged : Exchanged FileSink Folder}
    (hidle : ∀ sink ∈ exchanged.underway.reassembly.sinks, sink.sink.Idle) :
    exchanged.conclude.world = exchanged.underway.world.world := by
  unfold conclude
  cases exchanged.outcome with
  | none => rfl
  | some outcome =>
    have hfinish := congrArg (fun result => result.2.2)
      (Reassembly.untraced_finishEach exchanged.underway.reassembly.channels
        exchanged.underway.reassembly.sinks exchanged.underway.world)
    refine hfinish.trans (Reassembly.finishEach_of_idle _ ?_)
    intro sink hsink
    obtain ⟨traced, htraced, rfl⟩ := List.mem_map.mp hsink
    exact hidle traced htraced

/-- **What a failed acquisition without waveforms does to files.**  If it let nothing through, the folder
is as it was.  Otherwise the files of all channels are there, with nothing in them but what is appended
to; so every file is as it was exactly if those files were there and each is appended to or was empty. -/
theorem failed_keeps_files_iff (f : FileSinks) (folder : Folder)
    (hfailed : (acquire c r label s f.factory folder).outcome = some (.error e))
    (hsink : ∀ channel fault, e ≠ .sink channel fault)
    (hempty : ∀ waveforms ∈
      accepted c r label s (acquire c r label s f.factory folder).receives, waveforms = 0) :
    let run := acquire c r label s f.factory folder
    let batches := accepted c r label s run.receives
    (batches = [] → run.world = folder) ∧
      (batches ≠ [] → f.Opened r.channels folder run.world) ∧
      ((∀ p, run.world.file? p = folder.file? p) ↔
        batches = [] ∨ f.Spares r.channels folder run.world) := by
  intro run batches
  have hcases : (batches = [] → run.world = folder) ∧
      (batches ≠ [] → f.Opened r.channels folder run.world) := by
    simp only [batches, run]
    rw [acquire_eq] at hfailed hempty ⊢
    cases hbegin : Beginning.of c r s f.factory folder with
    | refused error => exact ⟨fun _ => rfl, fun hsome => absurd accepted_zero hsome⟩
    | unopened channel fault sinks w =>
      rw [hbegin] at hfailed
      exact absurd (Except.error.inj (Option.some.inj hfailed)).symm (hsink channel fault)
    | opened u =>
      simp only [hbegin, Exchanged.receives_conclude] at hfailed hempty ⊢
      obtain ⟨chunks, hblank, hnone⟩ := exchange_blank (blank_of_opened hbegin)
        (Exchanged.outcome_of_conclude_error hfailed hsink) hsink hempty
      rw [Exchanged.world_conclude hblank.idle]
      constructor
      · intro hnothing
        exact (hblank.fresh (hnone.mpr hnothing)).2
      · intro hsome
        exact (FileSinks.touch_files (hblank.touched fun hnothing => hsome (hnone.mp hnothing))).2.2
  obtain ⟨huntouched, hopened⟩ := hcases
  refine ⟨huntouched, hopened, ?_⟩
  by_cases hnothing : batches = []
  · rw [huntouched hnothing]
    exact iff_of_true (fun _ => rfl) (Or.inl hnothing)
  · rw [or_iff_right hnothing]
    exact (hopened hnothing).files_eq_iff

end

/-- Channel files in a folder, which are emptied, or appended to. -/
def runFiles (append : Bool) : FileSinks := { folder := "runs", append := append }

/-- What an earlier acquisition of channel 0 alone has left. -/
def earlierRun : Folder :=
  ⟨[(["runs"], .folder), (["runs", "channel_0.dat"], .file [1, 0])]⟩

/-- A chunk, and then the device is gone. -/
def chunkThenGone (chunk : ChunkReply) : Surroundings where
  arrivals := [.ofChunk chunk, .fails (.closed "gone")]

theorem failed_keeps_files_either :
    (acquire {} firstTwo "a" (chunkThenGone (pairChunk "b" 1 [9, 9] true)) (runFiles false).factory
        earlierRun).world = earlierRun ∧
      (runFiles true).Opened firstTwo.channels earlierRun
        (acquire {} firstTwo "a" (chunkThenGone (pairChunk "a" 0 [] false)) (runFiles true).factory
          earlierRun).world := by
  have hgone : ∀ channel fault, AcquireError.receive (.closed "gone") ≠ .sink channel fault := by
    intro channel fault h
    cases h
  constructor
  · refine (failed_keeps_files_iff (e := .receive (.closed "gone")) (runFiles false) earlierRun
      (by decide +kernel) hgone (by decide +kernel)).1 ?_
    decide +kernel
  · refine (failed_keeps_files_iff (e := .receive (.closed "gone")) (runFiles true) earlierRun
      (by decide +kernel) hgone (by decide +kernel)).2.1 ?_
    decide +kernel

/-- **A chunk without waveforms empties a file**: the acquisition fails without a waveform, but what an
earlier one wrote for channel 0 is gone, and channel 1 has a file. -/
theorem empty_chunk_empties_file :
    let run := acquire {} firstTwo "a" (chunkThenGone (pairChunk "a" 0 [] false))
      (runFiles false).factory earlierRun
    run.outcome = some (.error (.receive (.closed "gone"))) ∧
      accepted {} firstTwo "a" (chunkThenGone (pairChunk "a" 0 [] false)) run.receives = [0] ∧
      earlierRun.file? ["runs", "channel_0.dat"] = some [1, 0] ∧
      run.world.file? ["runs", "channel_0.dat"] = some [] ∧
      earlierRun.file? ["runs", "channel_1.dat"] = none ∧
      run.world.file? ["runs", "channel_1.dat"] = some [] := by
  decide +kernel

end Readout

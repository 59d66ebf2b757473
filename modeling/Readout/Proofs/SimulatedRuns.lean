/-
# What acquisitions from a simulated device come to

A simulated device has answered by the time that an acquisition asks for the first message, and nothing
comes after its answer.  What the acquisition comes to can therefore be told in full: the result
(`Simulator.result`), what the sinks have got (`Simulator.batches`, `SinkFactory.filled`), and that it has
taken every message.

* `ChunkLoop.run_of_stream` -- a loop takes chunks, each behind an unrelated message or not;
* `acquire_from_device` -- what an acquisition comes to;
* `acquire_without_time` -- one without any time gives up.
-/
import Readout.Proofs.Finishing
import Readout.Proofs.SimulatedAnswers

namespace Readout

open Control

variable {S ω : Type}

/-! ## 1. What is met -/

namespace SimulatedLink

/-- What an acquisition meets when these messages have arrived and nothing comes after them. -/
def meeting (c : AcquisitionConfig) (messages : List Bytes) : Surroundings :=
  (rehearsal messages .quiet none (.ok ())).surroundings c

variable {c : AcquisitionConfig} {messages : List Bytes}

theorem moments_rehearsal (messages : List Bytes) :
    (rehearsal messages .quiet none (.ok ())).allMoments = [] := by
  refine List.filterMap_eq_nil_iff.mpr ?_
  intro (cue, count) hcue
  obtain ⟨octets, -, rfl⟩ := List.mem_map.mp (List.fst_mem_of_mem_zipIdx hcue)
  rfl

theorem meeting_undisturbed (c : AcquisitionConfig) (messages : List Bytes) :
    Undisturbed (meeting c messages) := by
  refine ⟨?_, rfl⟩
  show ((rehearsal messages .quiet none (.ok ())).allMoments.mergeSort _).head? = none
  rw [moments_rehearsal, List.mergeSort_nil]
  rfl

theorem arrivals_meeting (c : AcquisitionConfig) (messages : List Bytes) :
    (meeting c messages).arrivals =
      messages.map .message ++ List.replicate c.patience .quiet := by
  show (messages.map _).map Cue.arrival ++ _ = _
  rw [List.map_map]
  rfl

/-- No time passes before the messages are taken. -/
theorem clock_meeting {n : Nat} (h : n ≤ messages.length) :
    (meeting c messages).clock.after n = .zero := by
  show (⟨(n - (messages.map _).length) * _⟩ : Duration) = .zero
  rw [List.length_map, Nat.sub_eq_zero_of_le h, Nat.zero_mul]
  rfl

end SimulatedLink

/-! ## 2. Batches in the sinks -/

/-- Whole waveforms for all channels: how many, and their data. -/
abbrev Batch := Nat × List UInt32

/-- The batch that a chunk holds. -/
def Control.ChunkReply.batch (chunk : ChunkReply) : Batch := (chunk.waveforms.toNat, chunk.data)

section

variable [SampleSink S ω]

namespace Reassembly

/-- A reassembly and its world after these batches, whatever came of each. -/
def appendEach (batches : List Batch) (before : Reassembly S × ω) : Reassembly S × ω :=
  batches.foldl (fun before batch => (before.1.append batch.1 batch.2 before.2).2) before

end Reassembly

/-- The sinks of a request and their world, once these batches are in them and they are finished. -/
def SinkFactory.filled (factory : SinkFactory S ω) (r : AcquisitionRequest) (batches : List Batch)
    (world : ω) : List S × ω :=
  let opened := Reassembly.openEach factory r.channels world
  let taken := Reassembly.appendEach batches
    (.start r.channels r.samples.toNat opened.2.1, opened.2.2)
  (Reassembly.finishEach r.channels taken.1.sinks taken.2).2

/-- An acquisition under way when no effects are kept. -/
def Underway.bare (u : Underway S ω) : Reassembly S × ω := (u.reassembly.bare, u.world.world)

/-! ## 3. Chunks -/

/-- A stream after these chunks, each behind an unrelated message if there is noise. -/
def StreamState.past (state : StreamState) (noise : Bool) (chunks : List ChunkReply) : StreamState :=
  { state with
    received := state.received + waveformsIn chunks
    chunks := state.chunks + chunks.length
    discarded := state.discarded + chunks.length * (Simulator.ahead noise).length }

namespace ChunkLoop

variable {good : S → Prop} {c : AcquisitionConfig} {r : AcquisitionRequest} {label : String}
  {hint : Nat} {s : Surroundings} {noise : Bool}

/-- A foreign message is passed over, if there is time. -/
theorem turn_of_foreign {loop : ChunkLoop S ω} (hs : Undisturbed s) {message : Bytes}
    (hforeign : Foreign loop.state.label message) :
    loop.turn c r s (.message message) =
      if c.replyTimeout ≤ (s.clock.after (loop.receives + 1)).sub loop.since then
        .ended (.error (.timeout c.replyTimeout)) (loop.underway.did (.awaits c.chunkWait))
      else
        .onward ⟨loop.receives + 1, loop.since,
          { loop.state with discarded := loop.state.discarded + 1 },
          loop.underway.did (.awaits c.chunkWait)⟩ := by
  rw [turn, loop.meet_message,
    StreamState.accept_of_foreign (StreamState.judge_eq_foreign_iff.mpr hforeign)]
  simp only [Finding.ofAccepted, StreamState.orAfter, unlessCancelled, hs.cancelledBy]
  rfl

theorem foreign_unsolicited (label : String) : Foreign label Simulator.unsolicited :=
  .otherKind (decode_encode (show Kind.readCurrentMonitor ≠ .unspecified by decide)
    (Nat.lt_of_le_of_lt Simulator.length_unsolicited_le (by decide))) (by decide)

/-- What is ahead of a chunk is passed over, if there is time. -/
theorem run_ahead (loop : ChunkLoop S ω) (hs : Undisturbed s)
    (htime : noise = true → Duration.zero < c.replyTimeout) (hsince : loop.since = .zero)
    (hclock : noise = true → s.clock.after (loop.receives + 1) = .zero) (rest : List Arrival) :
    ∃ later : ChunkLoop S ω,
      loop.run c r s ((Simulator.ahead noise).map .message ++ rest) = later.run c r s rest ∧
      later.receives = loop.receives + (Simulator.ahead noise).length ∧ later.since = .zero ∧
      later.state = { loop.state with
        discarded := loop.state.discarded + (Simulator.ahead noise).length } ∧
      later.underway.Same loop.underway := by
  cases noise with
  | false => exact ⟨loop, rfl, rfl, hsince, rfl, rfl, rfl⟩
  | true =>
    have hturn := turn_of_foreign (c := c) (r := r) hs (foreign_unsolicited loop.state.label)
    have hleft : ¬c.replyTimeout ≤ (s.clock.after (loop.receives + 1)).sub loop.since := by
      rw [hclock rfl, hsince]
      exact Nat.not_le.mpr (htime rfl)
    rw [if_neg hleft] at hturn
    refine ⟨⟨loop.receives + 1, loop.since,
      { loop.state with discarded := loop.state.discarded + 1 },
      loop.underway.did (.awaits c.chunkWait)⟩, ?_, rfl, hsince, rfl, rfl, rfl⟩
    show loop.run c r s (.message Simulator.unsolicited :: rest) = _
    rw [run_cons, hturn]
    rfl

/-- A chunk is taken, with what is ahead of it. -/
theorem run_of_chunk (hgood : Reliable good) (hs : Undisturbed s) (loop : ChunkLoop S ω)
    (hready : Ready good r label hint loop.state loop.underway.reassembly) {chunk : ChunkReply}
    (hfitting : Fitting r label hint chunk)
    (hroom : loop.state.received + chunk.waveforms.toNat ≤ r.waveforms.toNat)
    (htime : noise = true → Duration.zero < c.replyTimeout) (hsince : loop.since = .zero)
    (hclock : ∀ n ≤ loop.receives + ((Simulator.ahead noise).length + 1), s.clock.after n = .zero)
    (rest : List Arrival) :
    ∃ later : ChunkLoop S ω,
      loop.run c r s ((Simulator.ahead noise ++ [chunkMessage chunk]).map .message ++ rest) =
        (if chunk.isFinal = true then
          ⟨some (.ok (later.state.summary r (c.creditFor r))), later.underway, later.receives, rest⟩
        else later.run c r s rest) ∧
      later.receives = loop.receives + ((Simulator.ahead noise).length + 1) ∧
      later.since = .zero ∧ later.state = loop.state.past noise [chunk] ∧
      Ready good r label hint later.state later.underway.reassembly ∧
      later.underway.bare = Reassembly.appendEach [chunk.batch] loop.underway.bare := by
  obtain ⟨next, hrun, hreceives, hsince', hstate, hsame⟩ := run_ahead (c := c) (r := r) loop hs htime
    hsince (fun hnoise => hclock _ (by omega)) (.message (chunkMessage chunk) :: rest)
  have hready' : Ready good r label hint next.state next.underway.reassembly := by
    rw [hstate, hsame.reassembly]
    exact ⟨hready.label, hready.layout, hready.hint, hready.expected, hready.regular, hready.same,
      hready.good⟩
  obtain ⟨hafter, hturn⟩ := turn_takes (c := c) hgood hs hready' hfitting (by rw [hstate]; exact hroom)
  have hbare := next.underway.reassembly.bare_append chunk.waveforms.toNat chunk.data
    (next.underway.world.did (.awaits c.chunkWait))
  generalize next.underway.reassembly.append chunk.waveforms.toNat chunk.data
    (next.underway.world.did (.awaits c.chunkWait)) = appended at hafter hturn hbare
  rw [List.map_append, List.append_assoc]
  refine ⟨⟨next.receives + 1, s.clock.after (next.receives + 1), next.state.advance chunk,
    ⟨appended.2.1, appended.2.2⟩⟩, ?_, ?_, ?_, ?_, hafter, ?_⟩
  · refine hrun.trans ?_
    rw [run_cons, hturn]
    cases chunk.isFinal <;> rfl
  · exact congrArg (· + 1) hreceives
  · exact hclock _ (by omega)
  · rw [hstate]
    simp only [StreamState.advance, StreamState.past, waveformsIn, List.length_cons, List.length_nil,
      Nat.add_zero, Nat.zero_add, Nat.one_mul]
  · have hworld : (next.underway.world.did (.awaits c.chunkWait)).world =
        loop.underway.world.world := hsame.world
    rw [hworld, hsame.reassembly] at hbare
    exact (congrArg Prod.snd hbare).symm

/-- **A loop takes a stream of chunks**, each behind an unrelated message or not, and nothing after it. -/
theorem run_of_stream (hgood : Reliable good) (hs : Undisturbed s) {chunks : List ChunkReply}
    (loop : ChunkLoop S ω) (hready : Ready good r label hint loop.state loop.underway.reassembly)
    (hfitting : ∀ chunk ∈ chunks, Fitting r label hint chunk)
    (hlast : ∃ before final, chunks = before ++ [final] ∧ final.isFinal = true ∧
      ∀ chunk ∈ before, chunk.isFinal = false)
    (hroom : loop.state.received + waveformsIn chunks ≤ r.waveforms.toNat)
    (htime : noise = true → Duration.zero < c.replyTimeout) (hsince : loop.since = .zero)
    (hclock : ∀ n ≤ loop.receives + (Simulator.streamMessages noise chunks).length,
      s.clock.after n = .zero) (rest : List Arrival) :
    ∃ u n, loop.run c r s ((Simulator.streamMessages noise chunks).map .message ++ rest) =
        ⟨some (.ok ((loop.state.past noise chunks).summary r (c.creditFor r))), u, n, rest⟩ ∧
      u.bare = Reassembly.appendEach (chunks.map ChunkReply.batch) loop.underway.bare ∧
      ∀ sink ∈ u.reassembly.sinks, good sink.sink := by
  induction chunks generalizing loop with
  | nil =>
    obtain ⟨before, final, hnil, -⟩ := hlast
    simp at hnil
  | cons chunk chunks ih =>
    have hmessages : Simulator.streamMessages noise (chunk :: chunks) =
        (Simulator.ahead noise ++ [chunkMessage chunk]) ++
          Simulator.streamMessages noise chunks := List.flatMap_cons
    have hlength : ((Simulator.ahead noise).length + 1) +
        (Simulator.streamMessages noise chunks).length =
          (Simulator.streamMessages noise (chunk :: chunks)).length := by
      rw [hmessages, List.length_append, List.length_append]
      rfl
    have hsum : waveformsIn (chunk :: chunks) = chunk.waveforms.toNat + waveformsIn chunks := rfl
    obtain ⟨later, hrun, hreceives, hsince', hstate, hready', hbare⟩ := run_of_chunk (c := c) hgood hs
      loop hready (hfitting chunk List.mem_cons_self) (by omega) htime hsince
      (fun n hn => hclock n (by omega))
      ((Simulator.streamMessages noise chunks).map .message ++ rest)
    have hadd : later.state.past noise chunks = loop.state.past noise (chunk :: chunks) := by
      rw [hstate]
      simp only [StreamState.past, waveformsIn, List.length_cons, List.length_nil, Nat.add_zero,
        Nat.zero_add, Nat.one_mul, Nat.add_mul, StreamState.mk.injEq, true_and]
      omega
    rw [hmessages, List.map_append, List.append_assoc, hrun]
    obtain ⟨before, final, hsplit, hfinal, hbefore⟩ := hlast
    cases before with
    | nil =>
      obtain ⟨rfl, rfl⟩ := List.cons.inj hsplit
      rw [if_pos hfinal, hstate]
      exact ⟨_, _, rfl, hbare, hready'.good⟩
    | cons first before =>
      obtain ⟨rfl, rfl⟩ := List.cons.inj hsplit
      obtain ⟨hmore, hbefore'⟩ := List.forall_mem_cons.mp hbefore
      have hreceived : later.state.received = loop.state.received + chunk.waveforms.toNat := by
        rw [hstate]
        rfl
      obtain ⟨u, n, hrest, hbatches, hend⟩ := ih later hready'
        (fun other hother => hfitting other (List.mem_cons_of_mem _ hother))
        ⟨before, final, rfl, hfinal, hbefore'⟩ (by omega) hsince'
        (fun n hn => hclock n (by omega))
      rw [if_neg (by rw [hmore]; exact Bool.false_ne_true), hrest, hadd]
      rw [hbare] at hbatches
      exact ⟨u, n, rfl, hbatches, hend⟩

/-- A loop is over with a refusal. -/
theorem run_of_refusal (loop : ChunkLoop S ω) {chunk : ChunkReply}
    (hlabel : chunk.label = loop.state.label) (hfailed : chunk.success = false)
    (hfits : (chunkMessage chunk).length < Word.size) (rest : List Arrival) :
    loop.run c r s (.message (chunkMessage chunk) :: rest) =
      ⟨some (.error (.refused chunk.message)), loop.underway.did (.awaits c.chunkWait),
        loop.receives + 1, rest⟩ := by
  have hjudge : loop.state.judge (chunkMessage chunk) = .fatal (.refused chunk.message) := by
    rw [chunkMessage, loop.state.judge_encode hfits, StreamState.judgeReply, if_neg (by simp [hlabel]),
      if_pos (by simp [hfailed])]
  rw [run_cons, turn, loop.meet_message, StreamState.accept_of_fatal hjudge]
  rfl

end ChunkLoop

/-! ## 4. Results -/

namespace Simulator

/-- The result of an acquisition from a simulated device. -/
def result (s : Simulator) (c : AcquisitionConfig) (r : AcquisitionRequest) (label : String) :
    Except AcquireError Summary :=
  match s.failWith, c.mode with
  | some text, _ => .error (.refused text)
  | none, .single => .ok (singleSummary r r.waveforms.toNat)
  | none, .streaming =>
    let chunks := (cuts (c.hintFor r).toNat (s.delivered r)).length
    .ok {
      mode := .streaming
      label := some label
      channels := r.channels
      samples := r.samples
      expected := r.waveforms.toNat
      written := s.delivered r
      chunks := chunks
      discarded := if s.noise then chunks else 0
      credit := some (c.creditFor r)
      completion :=
        if s.delivered r < r.waveforms.toNat then
          .partialDelivery r.waveforms.toNat (s.delivered r)
        else .complete }

/-- The batches in which the data of a simulated device comes. -/
def batches (s : Simulator) (c : AcquisitionConfig) (r : AcquisitionRequest) : List Batch :=
  match s.failWith, c.mode with
  | some _, _ => []
  | none, .single =>
    [(r.waveforms.toNat, Synthetic.block r.channels 0 r.waveforms.toNat r.samples.toNat)]
  | none, .streaming =>
    (cuts (c.hintFor r).toNat (s.delivered r)).map fun cut =>
      (cut.waveforms, Synthetic.block r.channels cut.first cut.waveforms r.samples.toNat)

/-- There is time for the answers of a device, which come at once: some time at all, or else only chunks
are to come, which are taken without a look at the clock. -/
def InTime (s : Simulator) (c : AcquisitionConfig) : Prop :=
  Duration.zero < c.replyTimeout ∨
    c.mode = .streaming ∧ (s.noise = true → s.failWith ≠ none)

variable {device : Simulator} {c : AcquisitionConfig} {r : AcquisitionRequest} {label : String}

theorem waveformsIn_chunks (device : Simulator) (r : AcquisitionRequest) (label : String)
    {hint : UInt32} (hpos : 0 < hint.toNat) :
    waveformsIn (device.chunks r label hint) = device.delivered r := by
  have hsum := (tiles_cuts hint.toNat (device.delivered r) hpos).waveformsIn_eq
    (r := r.toChunks label hint) (Nat.lt_of_le_of_lt (device.delivered_le r) r.waveforms.toNat_lt)
  rwa [Nat.zero_add] at hsum

/-- The result that a stream of chunks leads to. -/
theorem result_of_chunks (htext : device.failWith = none) (hmode : c.mode = .streaming) :
    device.result c r label =
      .ok (((StreamState.start c r label).past device.noise
        (device.chunks r label (c.hintFor r))).summary r (c.creditFor r)) := by
  have hlength : (device.chunks r label (c.hintFor r)).length =
      (cuts (c.hintFor r).toNat (device.delivered r)).length := List.length_map _
  have hahead : (ahead device.noise).length = if device.noise then 1 else 0 := by
    cases device.noise <;> rfl
  simp only [result, htext, hmode, StreamState.summary, StreamState.past, StreamState.start,
    waveformsIn_chunks device r label (c.hintFor_pos r), hlength, hahead, Nat.zero_add]
  cases device.noise <;> simp

/-- The batches of chunks are as the stream was cut. -/
theorem batches_of_chunks (label : String) (htext : device.failWith = none) (hmode : c.mode = .streaming) :
    device.batches c r = (device.chunks r label (c.hintFor r)).map ChunkReply.batch := by
  have htiles := tiles_cuts (c.hintFor r).toNat (device.delivered r) (c.hintFor_pos r)
  simp only [batches, htext, hmode, chunks, List.map_map]
  refine List.map_congr_left fun cut hcut => ?_
  have hcount : (UInt32.ofNat cut.waveforms).toNat = cut.waveforms :=
    UInt32.toNat_ofNat_of_lt' (Nat.lt_of_le_of_lt (htiles.bounded cut hcut) (c.hintFor r).toNat_lt)
  exact congrArg (·, Synthetic.block r.channels cut.first cut.waveforms r.samples.toNat) hcount.symm

end Simulator

/-! ## 5. Exchanges -/

/-- What an exchange came to that took all that was sent, and whose sinks have got these batches. -/
structure Took (good : S → Prop) (u : Underway S ω) (outcome : Except AcquireError Summary)
    (batches : List Batch) (e : Exchanged S ω) : Prop where
  outcome : e.outcome = some outcome
  sinks : e.underway.bare = Reassembly.appendEach batches u.bare
  left : SimulatedLink.unused e.left = []
  good : ∀ sink ∈ e.underway.reassembly.sinks, good sink.sink

/-- An acquisition whose sinks are open and empty. -/
structure Starts (good : S → Prop) (r : AcquisitionRequest) (u : Underway S ω) : Prop where
  regular : u.reassembly.Regular
  layout : u.reassembly.layout = r.layout
  waveforms : u.reassembly.waveforms = 0
  good : ∀ sink ∈ u.reassembly.sinks, good sink.sink

theorem SimulatedLink.unused_replicate_quiet (n : Nat) :
    unused (List.replicate n Arrival.quiet) = [] := List.filterMap_replicate_of_none rfl

/-- A refusal is an error. -/
theorem replyData_of_refusal {r : AcquisitionRequest} {reply : DumpReply}
    (hfits : (Envelope.encodeRecord .dump DumpReply.schema reply).length < Word.size)
    (hfailed : reply.success = false) :
    replyData r (Envelope.encodeRecord .dump DumpReply.schema reply) =
      .error (.refused reply.message) := by
  have hdecode := decode_encode (show Kind.dump ≠ .unspecified by decide) hfits
  have hrecord := record_encodeRecord DumpReply.lawful hfits
  rw [replyData, Envelope.encodeRecord, hdecode]
  simp [hrecord, hfailed]

section

variable {good : S → Prop} {c : AcquisitionConfig} {r : AcquisitionRequest} {label : String}
  {device : Simulator} {messages : List Bytes} {u : Underway S ω}

/-- An exchange for one answer takes the first message, if there is time. -/
theorem exchange_of_answer (r : AcquisitionRequest) (label : String) (hmode : c.mode = .single)
    (htime : Duration.zero < c.replyTimeout) (message : Bytes) (u : Underway S ω) :
    ∃ u' : Underway S ω, u'.reassembly = u.reassembly ∧ u'.bare = u.bare ∧
      exchange c r label (SimulatedLink.meeting c [message]) u =
        takeReply r (some (.ok message), u', 1, List.replicate c.patience .quiet) := by
  have hs := SimulatedLink.meeting_undisturbed c [message]
  have hgoing : stopsWaiting? c (SimulatedLink.meeting c [message]) 0 = none := by
    refine stopsWaiting?_eq_none hs ?_
    rw [SimulatedLink.clock_meeting (Nat.zero_le _)]
    show 0 - 0 < c.replyTimeout.nanos
    exact htime
  refine ⟨(u.did (.sends (c.requestMessage r label))).did
    (.awaits (singleWait c (SimulatedLink.meeting c [message]) 0)), rfl, rfl, ?_⟩
  rw [exchange_of_unseen (hs.cancelledBy _), hs.sent]
  simp only [answered, prepared, hmode, SimulatedLink.arrivals_meeting, List.map_singleton,
    List.singleton_append, awaitReply_of_going hgoing]
  rfl

/-- **What the one answer comes to.** -/
theorem took_answer (hgood : Reliable good) (hmode : c.mode = .single)
    (htime : Duration.zero < c.replyTimeout)
    (hfits : (Envelope.encodeRecord .dump DumpReply.schema (device.wholeReply r)).length < Word.size)
    (hu : Starts good r u) :
    Took good u (device.result c r label) (device.batches c r)
      (exchange c r label (SimulatedLink.meeting c
        [Envelope.encodeRecord .dump DumpReply.schema (device.wholeReply r)]) u) := by
  obtain ⟨sent, hreassembly, hbare, hexchange⟩ := exchange_of_answer r label hmode htime
    (Envelope.encodeRecord .dump DumpReply.schema (device.wholeReply r)) u
  rw [hexchange, takeReply]
  unfold Simulator.wholeReply at hfits ⊢
  unfold Simulator.result Simulator.batches
  rw [hmode]
  cases htext : device.failWith with
  | some text =>
    rw [htext] at hfits
    rw [replyData_of_refusal hfits rfl]
    exact ⟨rfl, hbare, SimulatedLink.unused_replicate_quiet _, hreassembly ▸ hu.good⟩
  | none =>
    rw [htext] at hfits
    have hlength : (Simulator.dumpReply r.toDump).data.length = r.totalSamples := by
      rw [r.totalSamples_eq]
      exact Simulator.length_block_eq r 0 r.waveforms.toNat
    have hsize : u.reassembly.layout.samplesIn? r.waveforms.toNat =
        some (Simulator.dumpReply r.toDump).data.length := by
      rw [hu.layout, r.samplesIn?_eq_some (Nat.le_refl _), hlength, r.totalSamples_eq]
    obtain ⟨hnone, hcount, hend⟩ := Reassembly.append_eq_none hgood.traced (r := sent.reassembly)
      (w := sent.world) (hreassembly ▸ hsize) (hreassembly ▸ hu.good)
    have happended := sent.reassembly.bare_append r.waveforms.toNat
      (Simulator.dumpReply r.toDump).data sent.world
    rw [replyData_encode hfits rfl hlength]
    refine ⟨?_, ?_, SimulatedLink.unused_replicate_quiet _, hend⟩
    · simp only
      rw [hcount, hnone, hreassembly, hu.waveforms, Word.toNat_zero_add_ofNat]
    · rw [← hbare]
      exact (congrArg Prod.snd happended).symm

/-- An exchange of chunks is the loop over what is met. -/
theorem exchange_of_chunks (r : AcquisitionRequest) (label : String) (hmode : c.mode = .streaming)
    (messages : List Bytes) (u : Underway S ω) :
    ∃ loop : ChunkLoop S ω, loop.receives = 0 ∧ loop.since = .zero ∧
      loop.state = .start c r label ∧ loop.underway.reassembly = u.reassembly ∧
      loop.underway.bare = u.bare ∧
      exchange c r label (SimulatedLink.meeting c messages) u =
        loop.run c r (SimulatedLink.meeting c messages)
          (messages.map .message ++ List.replicate c.patience .quiet) := by
  have hs := SimulatedLink.meeting_undisturbed c messages
  refine ⟨⟨0, .zero, .start c r label, (u.did (.setsCapacity (c.creditFor r))).did
    (.sends (c.requestMessage r label))⟩, rfl, rfl, rfl, rfl, rfl, ?_⟩
  rw [exchange_of_unseen (hs.cancelledBy _), hs.sent]
  simp only [answered, prepared, hmode, SimulatedLink.arrivals_meeting]
  rfl

/-- **What chunks come to.** -/
theorem took_chunks (hgood : Reliable good) (hmode : c.mode = .streaming)
    (htime : device.noise = true → device.failWith = none → Duration.zero < c.replyTimeout)
    (hbrief : device.Brief) (hlabel : Text.Utf8.length label ≤ 512)
    (hsize : 5 * (r.channels.length * r.samples.toNat * (c.hintFor r).toNat) + 1024 ≤
      Frame.defaultLimit) (hu : Starts good r u) :
    Took good u (device.result c r label) (device.batches c r)
      (exchange c r label (SimulatedLink.meeting c (device.chunkReplies r label (c.hintFor r))) u) := by
  obtain ⟨loop, hreceives, hsince, hstate, hreassembly, hbare, hexchange⟩ :=
    exchange_of_chunks r label hmode (device.chunkReplies r label (c.hintFor r)) u
  have hs := SimulatedLink.meeting_undisturbed c (device.chunkReplies r label (c.hintFor r))
  have hclock : ∀ n ≤ loop.receives + (device.chunkReplies r label (c.hintFor r)).length,
      (SimulatedLink.meeting c (device.chunkReplies r label (c.hintFor r))).clock.after n = .zero :=
    fun n hn => SimulatedLink.clock_meeting (by omega)
  rw [hexchange]
  generalize SimulatedLink.meeting c (device.chunkReplies r label (c.hintFor r)) = s at hs hclock ⊢
  unfold Simulator.chunkReplies at hclock ⊢
  cases htext : device.failWith with
  | some text =>
    have hsmall : (chunkMessage { label := label, message := text, isFinal := true }).length <
        Word.size :=
      Nat.lt_of_le_of_lt (Simulator.length_refusedChunk_le hlabel (hbrief text htext)) (by decide)
    rw [List.map_singleton, List.singleton_append,
      loop.run_of_refusal (by rw [hstate]; rfl) rfl hsmall, Simulator.result, Simulator.batches, htext]
    exact ⟨rfl, hbare, SimulatedLink.unused_replicate_quiet _, hreassembly ▸ hu.good⟩
  | none =>
    rw [htext] at hclock
    have htiles := Simulator.tiles_cuts (c.hintFor r).toNat (device.delivered r) (c.hintFor_pos r)
    have hcount := device.waveformsIn_chunks r label (c.hintFor_pos r)
    have hready : Ready good r label (c.hintFor r).toNat loop.state loop.underway.reassembly := by
      rw [hstate, hreassembly]
      exact ⟨rfl, rfl, rfl, rfl, hu.regular, hu.layout, hu.good⟩
    have hroom : loop.state.received + waveformsIn (device.chunks r label (c.hintFor r)) ≤
        r.waveforms.toNat := by
      rw [hstate, hcount]
      exact Nat.le_trans (Nat.le_of_eq (Nat.zero_add _)) (device.delivered_le r)
    obtain ⟨u', n, hrun, hbatches, hend⟩ := ChunkLoop.run_of_stream (c := c) hgood hs loop hready
      (fun chunk hchunk => (device.fitting_chunks (c.hintFor_pos r) hlabel hsize chunk hchunk).1)
      htiles.last_chunk hroom (fun hnoise => htime hnoise htext) hsince hclock
      (List.replicate c.patience .quiet)
    rw [hrun, Simulator.result_of_chunks htext hmode, hstate,
      Simulator.batches_of_chunks label htext hmode]
    exact ⟨rfl, hbatches.trans (congrArg _ hbare), SimulatedLink.unused_replicate_quiet _, hend⟩

/-! ## 6. Acquisitions -/

/-- An exchange that has an outcome, with reliable sinks, ends with it; the sinks are finished. -/
theorem Exchanged.conclude_of_reliable (hgood : Reliable good) {e : Exchanged S ω}
    {outcome : Except AcquireError Summary} (houtcome : e.outcome = some outcome)
    (hsinks : ∀ sink ∈ e.underway.reassembly.sinks, good sink.sink) {channels : List UInt32}
    (hchannels : e.underway.reassembly.channels = channels)
    (howners : e.underway.reassembly.sinks.map TracedSink.channel = channels) :
    let finished := Reassembly.finishEach channels e.underway.bare.1.sinks e.underway.bare.2
    e.conclude.outcome = some outcome ∧ e.conclude.sinks = channels.zip finished.2.1 ∧
      e.conclude.world = finished.2.2 := by
  have hnone : (Reassembly.finishEach e.underway.reassembly.channels e.underway.reassembly.sinks
      e.underway.world).1 = none := Reassembly.finishEach_of_reliable hgood.traced hsinks
  have hfinished := Reassembly.untraced_finishEach e.underway.reassembly.channels
    e.underway.reassembly.sinks e.underway.world
  have hsame := (Reassembly.map_finishEach (g := TracedSink.channel) (fun _ _ => rfl)
    e.underway.reassembly.channels e.underway.reassembly.sinks e.underway.world).trans howners
  rw [hchannels] at hnone hfinished hsame
  have hbare : Reassembly.finishEach channels e.underway.bare.1.sinks e.underway.bare.2 = _ :=
    hfinished.symm
  unfold conclude Reassembly.close
  rw [houtcome, hchannels]
  simp only [hbare]
  generalize Reassembly.finishEach channels e.underway.reassembly.sinks e.underway.world = finished
    at hnone hsame
  obtain ⟨failure, sinks, w⟩ := finished
  obtain rfl : failure = none := hnone
  refine ⟨?_, ?_, rfl⟩
  · cases outcome <;> rfl
  · rw [← hsame]
    exact (List.zip_map' ..).symm

variable {factory : SinkFactory S ω} (world : ω)

omit [SampleSink S ω] in
/-- An acquisition that is not refused starts with all sinks open. -/
theorem starts_of_check {s : Surroundings} (hs : Undisturbed s) (hcheck : c.check r = .ok ())
    (hopens : factory.OpensEach good r.channels) :
    ∃ u, Beginning.of c r s factory world = .opened u ∧ Starts good r u ∧
      u.bare = (.start r.channels r.samples.toNat (Reassembly.openEach factory r.channels world).2.1,
        (Reassembly.openEach factory r.channels world).2.2) := by
  obtain ⟨u, hbegin, -, hsinks⟩ :=
    Beginning.of_eq_opened_of_opensEach world hs.uncancelled hcheck hopens
  obtain ⟨hregular, -, hlayout⟩ := Beginning.regular_opened hbegin
  obtain ⟨sinks, hopen, hu⟩ := Beginning.of_eq_opened hbegin
  have hbare := Reassembly.untraced_openEach factory r.channels ⟨world, []⟩
  rw [hopen] at hbare
  refine ⟨u, hbegin, ⟨hregular, hlayout, by rw [hu]; rfl, hsinks⟩, ?_⟩
  rw [← hbare, Underway.bare, hu]
  rfl

/-- **What an acquisition from a simulated device comes to**: its result, and in the sinks the data in its
batches; every message is taken. -/
theorem acquire_from_device (hgood : Reliable good) (hbrief : device.Brief)
    (hlabel : Text.Utf8.length label ≤ 512) (hcheck : c.check r = .ok ())
    (hlimit : c.maxMessage ≤ Frame.defaultLimit) (hopens : factory.OpensEach good r.channels)
    (htime : device.InTime c) :
    let run := acquire c r label
      (SimulatedLink.meeting c (device.replies (c.requestMessage r label))) factory world
    let filled := factory.filled r (device.batches c r) world
    run.outcome = some (device.result c r label) ∧ run.sinks = r.channels.zip filled.1 ∧
      run.world = filled.2 ∧ SimulatedLink.unused run.left = [] := by
  intro run filled
  have hsize := AcquisitionConfig.octets_of_check hcheck hlimit
  obtain ⟨u, hbegin, hstarts, hbare⟩ := starts_of_check world
    (SimulatedLink.meeting_undisturbed c (device.replies (c.requestMessage r label))) hcheck hopens
  have hrun : run = (exchange c r label
      (SimulatedLink.meeting c (device.replies (c.requestMessage r label))) u).conclude := by
    simp only [run]
    rw [acquire_eq, hbegin]
  have htook : Took good u (device.result c r label) (device.batches c r) (exchange c r label
      (SimulatedLink.meeting c (device.replies (c.requestMessage r label))) u) := by
    rw [AcquisitionConfig.requestMessage]
    rw [AcquisitionConfig.largestReply] at hsize
    cases hmode : c.mode with
    | single =>
      rw [hmode] at hsize
      obtain ⟨hreplies, hcopes⟩ := device.replies_dumpMessage hbrief hsize
      have hfits := hcopes.sendable
      rw [hreplies] at hfits
      simp only [hreplies]
      refine took_answer hgood hmode ?_ (Nat.lt_of_le_of_lt (hfits _ List.mem_cons_self) (by decide))
        hstarts
      exact htime.resolve_right fun h => by cases hmode.symm.trans h.1
    | streaming =>
      rw [hmode] at hsize
      obtain ⟨hreplies, -⟩ := device.replies_chunkMessage hbrief (c.hintFor_pos r) hlabel hsize
      simp only [hreplies]
      refine took_chunks hgood hmode (fun hnoise hnone => ?_) hbrief hlabel hsize hstarts
      exact htime.resolve_right fun h => h.2 hnoise hnone
  obtain ⟨hchannels, howners, -⟩ := exchange_finishes_none label hbegin
  obtain ⟨houtcome, hsinks, hworld⟩ :=
    Exchanged.conclude_of_reliable hgood htook.outcome htook.good hchannels howners
  rw [htook.sinks, hbare] at hsinks hworld
  rw [hrun]
  exact ⟨houtcome, hsinks, hworld, by rw [Exchanged.left_conclude]; exact htook.left⟩

/-- An exchange for one answer that has no time gives up before it waits. -/
theorem exchange_without_time_of_single (hmode : c.mode = .single)
    (htime : ∀ past : Duration, c.replyTimeout ≤ past) (messages : List Bytes) (u : Underway S ω) :
    (exchange c r label (SimulatedLink.meeting c messages) u).outcome =
      some (.error (.timeout c.replyTimeout)) := by
  have hs := SimulatedLink.meeting_undisturbed c messages
  have hstop : stopsWaiting? c (SimulatedLink.meeting c messages) 0 =
      some (.timeout c.replyTimeout) := by
    have hzero : ∀ past : Duration, c.replyTimeout.sub past = .zero := fun past =>
      congrArg Duration.mk (Nat.sub_eq_zero_of_le (htime past))
    rw [stopsWaiting?, hs.cancelledBy, if_neg Bool.false_ne_true, if_pos (hzero _)]
  rw [exchange_of_unseen (hs.cancelledBy _), hs.sent]
  simp only [answered, prepared, hmode, awaitReply_of_stop hstop]
  rfl

/-- One for chunks gives up with the first message, if that is an unrelated one. -/
theorem exchange_without_time_of_streaming (hmode : c.mode = .streaming)
    (htime : ∀ past : Duration, c.replyTimeout ≤ past) (messages : List Bytes) (u : Underway S ω) :
    (exchange c r label (SimulatedLink.meeting c (Simulator.unsolicited :: messages)) u).outcome =
      some (.error (.timeout c.replyTimeout)) := by
  have hs := SimulatedLink.meeting_undisturbed c (Simulator.unsolicited :: messages)
  obtain ⟨loop, -, -, -, -, -, hexchange⟩ :=
    exchange_of_chunks r label hmode (Simulator.unsolicited :: messages) u
  rw [hexchange, List.map_cons, List.cons_append, ChunkLoop.run_cons,
    ChunkLoop.turn_of_foreign hs (ChunkLoop.foreign_unsolicited _), if_pos (htime _)]
  rfl

/-- **An acquisition that has no time gives up**, unless only chunks come. -/
theorem acquire_without_time (hbrief : device.Brief) (hlabel : Text.Utf8.length label ≤ 512)
    (hcheck : c.check r = .ok ()) (hlimit : c.maxMessage ≤ Frame.defaultLimit)
    (hopens : factory.OpensEach good r.channels) (htime : ¬device.InTime c) :
    (acquire c r label (SimulatedLink.meeting c (device.replies (c.requestMessage r label))) factory
      world).outcome = some (.error (.timeout c.replyTimeout)) := by
  have hsize := AcquisitionConfig.octets_of_check hcheck hlimit
  obtain ⟨u, hbegin, -, -⟩ := starts_of_check world
    (SimulatedLink.meeting_undisturbed c (device.replies (c.requestMessage r label))) hcheck hopens
  obtain ⟨hnone, hmixed⟩ := not_or.mp htime
  have hexpired : ∀ past : Duration, c.replyTimeout ≤ past :=
    fun past => Nat.le_trans (Nat.le_of_not_lt hnone) (Nat.zero_le _)
  rw [acquire_eq, hbegin]
  refine Exchanged.outcome_conclude_of_error ?_
  cases hmode : c.mode with
  | single => exact exchange_without_time_of_single hmode hexpired _ u
  | streaming =>
    obtain ⟨hnoise, htext⟩ : device.noise = true ∧ device.failWith = none := by
      simpa [hmode] using hmixed
    rw [AcquisitionConfig.largestReply, hmode] at hsize
    obtain ⟨hreplies, -⟩ := device.replies_chunkMessage hbrief (c.hintFor_pos r) hlabel hsize
    obtain ⟨before, final, hchunks, -⟩ :=
      (Simulator.tiles_cuts (c.hintFor r).toNat (device.delivered r) (c.hintFor_pos r)).last_chunk
        (r := r.toChunks label (c.hintFor r))
    obtain ⟨more, hfirst⟩ : ∃ more, device.replies (c.requestMessage r label) =
        Simulator.unsolicited :: more := by
      rw [AcquisitionConfig.requestMessage, hmode]
      simp only [hreplies]
      rw [Simulator.chunkReplies, htext, hnoise, Simulator.chunks, hchunks]
      cases before with
      | nil => exact ⟨_, rfl⟩
      | cons chunk before => exact ⟨_, rfl⟩
    rw [hfirst]
    exact exchange_without_time_of_streaming hmode hexpired more u

end

end

end Readout

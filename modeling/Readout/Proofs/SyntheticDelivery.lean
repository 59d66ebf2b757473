/-
# What a simulated device delivers

A simulated device answers a request with synthetic samples, in one answer or in chunks, with unrelated
messages between them or not.  An acquisition that waits for these messages succeeds as long as no deadline
is reached, and each channel's sink has got what is recorded of the channel.

What arrives for a stream is described by `Bringing`: the chunks in their order, and anything that does
not concern the acquisition around them.  A loop that meets such arrivals in time takes all chunks
(`ChunkLoop.run_of_bringing`), which is proved by an induction over the arrivals.

* `Bringing.among` -- waits between the messages change nothing of what is brought;
* `exchange_records` -- what an exchange comes to, in either mode;
* `device_delivers` -- what an acquisition comes to, and that on a new link it has the device's messages.
-/
import Readout.Proofs.SharedLink
import Readout.Proofs.SyntheticBlocks

namespace Readout

open Control

variable {S ω : Type}

/-! ## 1. What a stream brings -/

/-- What arrives for an acquisition with some label: these chunks, of which only the last says that it
is, and up to that one so many foreign messages, and waits. -/
inductive Bringing (label : String) : Nat → List ChunkReply → List Arrival → Prop
  | last {chunk : ChunkReply} (isFinal : chunk.isFinal = true) :
      Bringing label 0 [chunk] [.message (chunkMessage chunk)]
  | chunk {chunk : ChunkReply} {foreign : Nat} {chunks : List ChunkReply} {arrivals : List Arrival}
      (isFinal : chunk.isFinal = false) (more : Bringing label foreign chunks arrivals) :
      Bringing label foreign (chunk :: chunks) (.message (chunkMessage chunk) :: arrivals)
  | passed {arrival : Arrival} {foreign : Nat} {chunks : List ChunkReply} {arrivals : List Arrival}
      (unconcerned : arrival.concerns label = false) (more : Bringing label foreign chunks arrivals) :
      Bringing label (foreign + foreignIn label [arrival]) chunks (arrival :: arrivals)

namespace Bringing

variable {label : String} {foreign : Nat} {chunks : List ChunkReply}

/-- An unrelated message may come first. -/
theorem ahead {arrivals : List Arrival} (h : Bringing label foreign chunks arrivals) (noise : Bool) :
    Bringing label (foreign + (Simulator.ahead noise).length) chunks
      ((Simulator.ahead noise).map .message ++ arrivals) := by
  have hforeign := ChunkLoop.foreign_unsolicited label
  cases noise with
  | false => exact h
  | true =>
    have hunconcerned : (Arrival.message Simulator.unsolicited).concerns label = false := by
      simp [Arrival.concerns, hforeign]
    have hone : foreignIn label [.message Simulator.unsolicited] = 1 := by
      simp [foreignIn, Arrival.messages, Arrival.message?, hforeign]
    have hpassed := passed hunconcerned h
    rw [hone] at hpassed
    exact hpassed

/-- **Chunks as they are sent** bring these chunks, and an unrelated message with each if there is
noise. -/
theorem streamMessages (label : String) (noise : Bool) {before : List ChunkReply} {final : ChunkReply}
    (hfinal : final.isFinal = true) (hbefore : ∀ chunk ∈ before, chunk.isFinal = false) :
    Bringing label ((before ++ [final]).length * (Simulator.ahead noise).length) (before ++ [final])
      ((Simulator.streamMessages noise (before ++ [final])).map .message) := by
  induction before with
  | nil =>
    have hfirst : Bringing label 0 [final] [.message (chunkMessage final)] := last hfinal
    have hlast := hfirst.ahead noise
    rw [Nat.zero_add] at hlast
    rw [List.nil_append, List.length_singleton, Nat.one_mul]
    simpa [Simulator.streamMessages] using hlast
  | cons first before ih =>
    obtain ⟨hfirst, hmore⟩ := List.forall_mem_cons.mp hbefore
    have hchunk := (chunk hfirst (ih hmore)).ahead noise
    rw [List.cons_append, List.length_cons, Nat.succ_mul]
    simpa [Simulator.streamMessages] using hchunk

/-- **Waits between the messages change nothing** of what is brought. -/
theorem among {messages : List Bytes} (h : Bringing label foreign chunks (messages.map .message))
    {met : List Arrival} (hmessages : Arrival.messages met = messages)
    (hwaits : ∀ arrival ∈ met, arrival.message? = none → arrival.lapses = true) :
    ∃ first behind, met = first ++ behind ∧ Bringing label foreign chunks first := by
  induction met generalizing messages foreign chunks with
  | nil =>
    subst hmessages
    cases h
  | cons arrival met ih =>
    obtain ⟨hhere, hlater⟩ := List.forall_mem_cons.mp hwaits
    cases hmessage : arrival.message? with
    | none =>
      have hunconcerned : arrival.concerns label = false := by
        have hlapses := hhere hmessage
        cases arrival with
        | message octets => cases hmessage
        | _ => simp [Arrival.concerns, hlapses]
      have hnone : foreignIn label [arrival] = 0 := by
        simp [foreignIn, Arrival.messages, hmessage]
      rw [Arrival.messages, List.filterMap_cons_none hmessage] at hmessages
      obtain ⟨first, behind, rfl, hmore⟩ := ih h hmessages hlater
      have hpassed := passed hunconcerned hmore
      rw [hnone, Nat.add_zero] at hpassed
      exact ⟨arrival :: first, behind, rfl, hpassed⟩
    | some octets =>
      obtain rfl := Arrival.eq_message hmessage
      have hsent : messages = octets :: Arrival.messages met := by
        rw [← hmessages, Arrival.messages, List.filterMap_cons_some hmessage]
        rfl
      have hmore {foreign : Nat} {chunks : List ChunkReply}
          (h : Bringing label foreign chunks ((Arrival.messages met).map .message)) :
          ∃ first behind, met = first ++ behind ∧ Bringing label foreign chunks first :=
        ih h rfl hlater
      rw [hsent, List.map_cons] at h
      -- What is left of the messages is taken for any list: the last chunk says that there is none.
      generalize (Arrival.messages met).map Arrival.message = sent at h hmore
      cases h with
      | last isFinal => exact ⟨_, met, rfl, .last isFinal⟩
      | chunk isFinal more =>
        obtain ⟨first, behind, rfl, hfirst⟩ := hmore more
        exact ⟨_, behind, rfl, .chunk isFinal hfirst⟩
      | passed unconcerned more =>
        obtain ⟨first, behind, rfl, hfirst⟩ := hmore more
        exact ⟨_, behind, rfl, .passed unconcerned hfirst⟩

end Bringing

/-! ## 2. Deadlines -/

namespace Surroundings

/-- Since when the next arrival is waited for, once so many have come: since the request was sent or, with
chunks, since the latest arrival that concerned the acquisition. -/
def waitsSince (s : Surroundings) (mode : Mode) (label : String) : Nat → Duration
  | 0 => s.clock.sent
  | n + 1 =>
    if mode = .streaming ∧ s.arrivals[n]?.any (·.concerns label) then s.clock.after (n + 1)
    else s.waitsSince mode label n

/-- What arrives is these messages and, besides them, waits in which nothing comes; and no deadline is
reached until all of it is there. -/
structure Conveys (s : Surroundings) (c : AcquisitionConfig) (label : String) (messages : List Bytes)
    (met rest : List Arrival) : Prop where
  place : s.arrivals = met ++ rest
  messages : Arrival.messages met = messages
  waits : ∀ arrival ∈ met, arrival.message? = none → arrival.lapses = true
  inTime : ∀ n ≤ met.length, (s.clock.after n).sub (s.waitsSince c.mode label n) < c.replyTimeout

variable {s : Surroundings} {label : String}

/-- One answer is waited for since the request was sent. -/
theorem waitsSince_single (s : Surroundings) (label : String) (n : Nat) :
    s.waitsSince .single label n = s.clock.sent := by
  induction n with
  | zero => rfl
  | succ n ih => rw [waitsSince, if_neg (by simp), ih]

/-- Only what concerns a stream restarts the wait for the next. -/
theorem waitsSince_succ {n : Nat} {arrival : Arrival} (h : s.arrivals[n]? = some arrival) :
    s.waitsSince .streaming label (n + 1) =
      if arrival.concerns label then s.clock.after (n + 1) else s.waitsSince .streaming label n := by
  simp [waitsSince, h]

/-- One message after waits answers. -/
theorem Conveys.answers {c : AcquisitionConfig} {message : Bytes} {met rest : List Arrival}
    (h : s.Conveys c label [message] met rest) (hmode : c.mode = .single) :
    s.Answers c.replyTimeout message := by
  obtain ⟨hplace, hmessages, hwaits, htime⟩ := h
  obtain ⟨waits, arrival, behind, rfl, hnone, hmessage, -⟩ := List.filterMap_eq_cons_iff.mp hmessages
  obtain rfl := Arrival.eq_message hmessage
  refine ⟨waits, behind ++ rest, by rw [hplace]; simp, ?_, ?_⟩
  · intro arrival harrival
    exact hwaits arrival (List.mem_append_left _ harrival) (hnone arrival harrival)
  · intro n hn
    have hnow := htime n (by rw [List.length_append]; omega)
    rwa [hmode, waitsSince_single] at hnow

end Surroundings

/-! ## 3. Chunks -/

/-- A stream after these chunks and so many foreign messages. -/
def StreamState.having (state : StreamState) (foreign : Nat) (chunks : List ChunkReply) : StreamState :=
  { state with
    received := state.received + waveformsIn chunks
    chunks := state.chunks + chunks.length
    discarded := state.discarded + foreign }

/-- A chunk as it should be concerns its acquisition. -/
theorem Fitting.concerns {r : AcquisitionRequest} {label : String} {hint : Nat} {chunk : ChunkReply}
    (h : Fitting r label hint chunk) :
    (Arrival.message (chunkMessage chunk)).concerns label = true := by
  have hforeign : ¬Foreign label (chunkMessage chunk) := by
    intro hforeign
    have hjudge := StreamState.judge_eq_foreign_iff (s := .start {} r label).mpr hforeign
    rw [chunkMessage, StreamState.judge_encode _ h.fits, StreamState.judgeReply_eq_foreign_iff]
      at hjudge
    exact hjudge h.labelled
  simp [Arrival.concerns, hforeign]

/-- A loop has met what came before these arrivals, and no deadline is reached until they are there. -/
structure ChunkLoop.Timely (timeout : Duration) (label : String) (s : Surroundings)
    (loop : ChunkLoop S ω) (arrivals rest : List Arrival) : Prop where
  place : s.arrivals.drop loop.receives = arrivals ++ rest
  since : loop.since = s.waitsSince .streaming label loop.receives
  inTime : ∀ n, loop.receives ≤ n → n ≤ loop.receives + arrivals.length →
    (s.clock.after n).sub (s.waitsSince .streaming label n) < timeout

namespace ChunkLoop.Timely

variable {timeout : Duration} {label : String} {s : Surroundings} {loop next : ChunkLoop S ω}
  {arrival : Arrival} {arrivals rest : List Arrival}

theorem getElem?_receives (h : loop.Timely timeout label s (arrival :: arrivals) rest) :
    s.arrivals[loop.receives]? = some arrival := getElem?_of_drop h.place

/-- There is time left after an arrival that does not concern the loop. -/
theorem early (h : loop.Timely timeout label s (arrival :: arrivals) rest)
    (hunconcerned : arrival.concerns label = false) :
    (s.clock.after (loop.receives + 1)).sub loop.since < timeout := by
  have hnow := h.inTime (loop.receives + 1) (by omega) (by rw [List.length_cons]; omega)
  rw [Surroundings.waitsSince_succ h.getElem?_receives, if_neg (by simp [hunconcerned])] at hnow
  rw [h.since]
  exact hnow

/-- A loop that waits anew after what concerns it, and only then, stays in time. -/
theorem step (h : loop.Timely timeout label s (arrival :: arrivals) rest)
    (hreceives : next.receives = loop.receives + 1)
    (hsince : next.since =
      if arrival.concerns label then s.clock.after (loop.receives + 1) else loop.since) :
    next.Timely timeout label s arrivals rest := by
  refine ⟨?_, ?_, ?_⟩
  · rw [hreceives]
    exact drop_succ_of_drop h.place
  · rw [hreceives, Surroundings.waitsSince_succ h.getElem?_receives, ← h.since, hsince]
  · intro n hle hlt
    exact h.inTime n (by omega) (by rw [List.length_cons]; omega)

end ChunkLoop.Timely

section

variable [SampleSink S ω] {v : SinkView S ω} {good : S → Prop} {c : AcquisitionConfig}
  {r : AcquisitionRequest} {label : String} {s : Surroundings}

namespace ChunkLoop

/-- A loop goes on after an arrival in which there is nothing for it, if there is time left. -/
theorem turn_of_nothing (hs : Undisturbed s) {loop : ChunkLoop S ω} {arrival : Arrival}
    (hnothing : (loop.meet c.chunkWait arrival).finding = .nothing)
    (hearly : (s.clock.after (loop.receives + 1)).sub loop.since < c.replyTimeout) :
    loop.turn c r s arrival =
      .onward ⟨loop.receives + 1, loop.since, (loop.meet c.chunkWait arrival).state,
        (loop.meet c.chunkWait arrival).underway⟩ := by
  have hleft : ¬c.replyTimeout ≤ (s.clock.after (loop.receives + 1)).sub loop.since :=
    Nat.not_le.mpr hearly
  rw [turn_of_finding hnothing]
  simp only
  rw [if_neg hleft, unlessCancelled_of_none hs.uncancelled]

/-- **A loop takes all that a stream brings in time.** -/
theorem run_of_bringing {hint foreign : Nat} {chunks : List ChunkReply} {arrivals rest : List Arrival}
    (hgood : Reliable good) (hs : Undisturbed s) (h : Bringing label foreign chunks arrivals)
    (loop : ChunkLoop S ω) (hready : Ready good r label hint loop.state loop.underway.reassembly)
    (hfitting : ∀ chunk ∈ chunks, Fitting r label hint chunk)
    (hroom : loop.state.received + waveformsIn chunks ≤ r.waveforms.toNat)
    (htimely : loop.Timely c.replyTimeout label s arrivals rest) :
    (loop.run c r s (arrivals ++ rest)).outcome =
        some (.ok ((loop.state.having foreign chunks).summary r (c.creditFor r))) ∧
      (loop.run c r s (arrivals ++ rest)).underway.reassembly.sinks.map v.traced.holds =
        List.zipWith (· ++ ·) (loop.underway.reassembly.sinks.map v.traced.holds)
          (r.layout.allSamples (waveformsIn chunks) (chunks.flatMap ChunkReply.data)) ∧
      ∀ sink ∈ (loop.run c r s (arrivals ++ rest)).underway.reassembly.sinks, good sink.sink := by
  -- One turn for each arrival: a chunk restarts the wait for the next, and nothing else does.
  induction h generalizing loop with
  | @last final isFinal =>
    have hfits := hfitting final List.mem_cons_self
    rw [waveformsIn, waveformsIn, Nat.add_zero] at hroom
    obtain ⟨u, hready', hholds, hturn⟩ := turn_of_chunk (v := v) (c := c) hgood hs hready hfits hroom
    rw [List.cons_append, run_cons, hturn, if_pos isFinal, Turn.resume]
    refine ⟨rfl, ?_, hready'.good⟩
    rw [hholds]
    simp [waveformsIn]
  | @chunk first foreign chunks arrivals isFinal more ih =>
    obtain ⟨hfits, hmore⟩ := List.forall_mem_cons.mp hfitting
    have hsum : waveformsIn (first :: chunks) = first.waveforms.toNat + waveformsIn chunks := rfl
    obtain ⟨u, hready', hholds, hturn⟩ := turn_of_chunk (v := v) (c := c) hgood hs hready hfits
      (by omega)
    have hgoing : ¬first.isFinal = true := by
      rw [isFinal]
      exact Bool.false_ne_true
    rw [if_neg hgoing] at hturn
    have hreceived : (loop.state.advance first).received =
        loop.state.received + first.waveforms.toNat := rfl
    obtain ⟨houtcome, hall, hend⟩ := ih
      ⟨loop.receives + 1, s.clock.after (loop.receives + 1), loop.state.advance first, u⟩ hready'
      hmore (by rw [hreceived]; omega) (htimely.step rfl (if_pos hfits.concerns).symm)
    rw [List.cons_append, run_cons, hturn, Turn.resume]
    refine ⟨?_, ?_, hend⟩
    · rw [houtcome]
      simp only [StreamState.having, StreamState.advance, hsum, List.length_cons, Nat.add_assoc,
        Nat.add_comm 1]
    · rw [hall, hholds, zipWith_append_assoc, hsum, List.flatMap_cons,
        Layout.allSamples_append hfits.aligned]
  | @passed arrival foreign chunks arrivals unconcerned more ih =>
    obtain ⟨hnothing, hstate, hsame⟩ :=
      loop.meet_of_unconcerned c.chunkWait (hready.label.symm ▸ unconcerned)
    have hdiscarded := loop.discarded_meet c.chunkWait arrival
    have hturn := turn_of_nothing (r := r) hs hnothing (htimely.early unconcerned)
    generalize loop.meet c.chunkWait arrival = met at hstate hsame hdiscarded hturn
    rw [hready.label] at hdiscarded
    have hready' : Ready good r label hint met.state met.underway.reassembly := by
      rw [hstate, hsame.reassembly]
      exact ⟨hready.label, hready.layout, hready.hint, hready.expected, hready.regular, hready.same,
        hready.good⟩
    obtain ⟨houtcome, hall, hend⟩ := ih
      ⟨loop.receives + 1, loop.since, met.state, met.underway⟩ hready' hfitting
      (by rw [hstate]; exact hroom) (htimely.step rfl (if_neg (by simp [unconcerned])).symm)
    rw [List.cons_append, run_cons, hturn, Turn.resume]
    refine ⟨?_, ?_, hend⟩
    · rw [houtcome]
      simp only [StreamState.having]
      rw [hstate, hdiscarded, Nat.add_assoc, Nat.add_comm foreign]
    · rw [hall, hsame.reassembly]

end ChunkLoop

end

/-! ## 4. Exchanges -/

namespace Simulator

/-- How many waveforms an acquisition gets from a simulated device. -/
def given (device : Simulator) (c : AcquisitionConfig) (r : AcquisitionRequest) : Nat :=
  match c.mode with
  | .single => r.waveforms.toNat
  | .streaming => device.delivered r

/-- A device that works has no text to refuse with. -/
theorem brief_of_works {device : Simulator} (hworks : device.failWith = none) : device.Brief := by
  intro text htext
  rw [hworks] at htext
  cases htext

/-- All chunks together hold one block. -/
theorem flatMap_data_chunks (device : Simulator) (r : AcquisitionRequest) (label : String)
    {hint : UInt32} (hpos : 0 < hint.toNat) :
    (device.chunks r label hint).flatMap ChunkReply.data =
      Synthetic.block r.channels 0 (device.delivered r) r.samples.toNat := by
  rw [chunks, List.flatMap_map]
  exact (tiles_cuts hint.toNat (device.delivered r) hpos).joined r.channels r.samples.toNat

end Simulator

/-- How many waveforms a chunk holds at most. -/
def AcquisitionConfig.chunkSize (c : AcquisitionConfig) (r : AcquisitionRequest) : Nat :=
  max 1 (min c.chunkHint.toNat r.waveforms.toNat)

theorem AcquisitionConfig.toNat_hintFor (c : AcquisitionConfig) (r : AcquisitionRequest) :
    (c.hintFor r).toNat = c.chunkSize r := by
  rw [hintFor, UInt32.toNat_max, UInt32.toNat_min, Nat.max_comm]
  rfl

/-- What an acquisition reports of a device that works: how many waveforms it got, whether these are all, and
in how many chunks and with how many unrelated messages they came. -/
structure Summary.Tells (device : Simulator) (c : AcquisitionConfig) (r : AcquisitionRequest)
    (summary : Summary) : Prop where
  written : summary.written = device.given c r
  completion : summary.completion = .complete ↔ device.given c r = r.waveforms.toNat
  chunks : c.mode = .streaming →
    summary.chunks = max 1 ((device.given c r + c.chunkSize r - 1) / c.chunkSize r)
  discarded : c.mode = .streaming → summary.discarded = if device.noise then summary.chunks else 0

/-- What an acquisition in chunks comes to is told of the device. -/
theorem Simulator.tells_of_chunks {device : Simulator} {c : AcquisitionConfig}
    (hworks : device.failWith = none) (hmode : c.mode = .streaming) (r : AcquisitionRequest)
    (label : String) : ∃ summary, device.result c r label = .ok summary ∧ summary.Tells device c r := by
  have hless := device.delivered_le r
  have hlength := length_cuts (c.hintFor_pos r) (device.delivered r)
  rw [c.toNat_hintFor] at hlength
  have hgiven : device.given c r = device.delivered r := by rw [given, hmode]
  simp only [result, hworks, hmode]
  refine ⟨_, rfl, hgiven.symm, ?_, fun _ => ?_, fun _ => rfl⟩
  · rw [hgiven]
    simp only
    constructor
    · intro hcomplete
      split at hcomplete
      · cases hcomplete
      · omega
    · intro hall
      rw [if_neg (by omega)]
  · simp only
    rw [hgiven, c.toNat_hintFor, hlength]

section

variable [SampleSink S ω] {v : SinkView S ω} {good : S → Prop} {device : Simulator}
  {c : AcquisitionConfig} {r : AcquisitionRequest} {label : String} {s : Surroundings}
  {factory : SinkFactory S ω} {world : ω} {u : Underway S ω} {met rest : List Arrival}

/-- An exchange that started with some sinks tells what it should of a device, and the sinks have got what
is recorded of their channels. -/
structure Records (v : SinkView S ω) (good : S → Prop) (device : Simulator) (c : AcquisitionConfig)
    (r : AcquisitionRequest) (before : List (TracedSink S)) (e : Exchanged S ω) : Prop where
  result : ∃ summary, e.outcome = some (.ok summary) ∧ summary.Tells device c r
  holds : e.underway.reassembly.sinks.map v.traced.holds =
    List.zipWith (· ++ ·) (before.map v.traced.holds)
      (r.channels.map (Synthetic.recorded (device.given c r) r.samples.toNat))
  good : ∀ sink ∈ e.underway.reassembly.sinks, good sink.sink

/-- An exchange for one answer records all of it. -/
theorem records_answer (hgood : Reliable good) (hworks : device.failWith = none)
    (hmode : c.mode = .single) (hs : Undisturbed s)
    (hfits : (Envelope.encodeRecord .dump DumpReply.schema (device.wholeReply r)).length < Word.size)
    (hconveys : s.Conveys c label
      [Envelope.encodeRecord .dump DumpReply.schema (device.wholeReply r)] met rest)
    (hbegin : Beginning.of c r s factory world = .opened u)
    (hsinks : ∀ sink ∈ u.reassembly.sinks, good sink.sink) :
    Records v good device c r u.reassembly.sinks (exchange c r label s u) := by
  have hreply : device.wholeReply r = Simulator.dumpReply r.toDump := by
    rw [Simulator.wholeReply, hworks]
  have hlength : (Simulator.dumpReply r.toDump).data.length = r.totalSamples := by
    rw [r.totalSamples_eq]
    exact Simulator.length_block_eq r 0 r.waveforms.toNat
  have hanswers := hconveys.answers hmode
  rw [hreply] at hfits hanswers
  have hdelivered : DeliveredBy v good r _ u.reassembly.sinks (exchange c r label s u) :=
    exchangeSingle_delivers hgood hmode hs rfl rfl hlength hfits hanswers hbegin hsinks
  obtain ⟨⟨summary, houtcome, hcomplete, hwritten⟩, hholds, hend⟩ := hdelivered
  have hgiven : device.given c r = r.waveforms.toNat := by rw [Simulator.given, hmode]
  refine ⟨⟨summary, houtcome, hwritten.trans hgiven.symm, iff_of_true hcomplete hgiven, ?_, ?_⟩, ?_,
    hend⟩
  · intro hchunks
    cases hmode.symm.trans hchunks
  · intro hchunks
    cases hmode.symm.trans hchunks
  · rw [hholds, hgiven]
    exact congrArg _ (Synthetic.allSamples_block r.channels r.waveforms.toNat r.samples.toNat)

/-- An exchange of chunks records what they hold. -/
theorem records_chunks (hgood : Reliable good) (hworks : device.failWith = none)
    (hmode : c.mode = .streaming) (hs : Undisturbed s) (hlabel : Text.Utf8.length label ≤ 512)
    (hsize : 5 * (r.channels.length * r.samples.toNat * (c.hintFor r).toNat) + 1024 ≤
      Frame.defaultLimit)
    (hconveys : s.Conveys c label (device.chunkReplies r label (c.hintFor r)) met rest)
    (hu : Starts good r u) :
    Records v good device c r u.reassembly.sinks (exchange c r label s u) := by
  have hpos := c.hintFor_pos r
  have hcount := device.waveformsIn_chunks r label hpos
  have hdata := device.flatMap_data_chunks r label hpos
  obtain ⟨before, final, hchunks, hfinal, hbefore⟩ :=
    (Simulator.tiles_cuts (c.hintFor r).toNat (device.delivered r) hpos).last_chunk
      (r := r.toChunks label (c.hintFor r))
  have hchunks : device.chunks r label (c.hintFor r) = before ++ [final] := hchunks
  have hbrings := Bringing.streamMessages label device.noise hfinal hbefore
  obtain ⟨hplace, hmessages, hwaits, htime⟩ := hconveys
  rw [Simulator.chunkReplies, hworks] at hmessages
  rw [← hchunks] at hbrings
  obtain ⟨first, behind, rfl, hfirst⟩ := hbrings.among hmessages hwaits
  rw [hmode] at htime
  rw [List.append_assoc] at hplace
  have hexchange : exchange c r label s u =
      ChunkLoop.run c r s ⟨0, s.clock.sent, .start c r label,
        (u.did (.setsCapacity (c.creditFor r))).did (.sends (c.requestMessage r label))⟩
        (first ++ (behind ++ rest)) := by
    rw [exchange, hmode, ← hplace]
    exact exchangeChunks_of_undisturbed c r label hs u
  have hroom : (StreamState.start c r label).received +
      waveformsIn (device.chunks r label (c.hintFor r)) ≤ r.waveforms.toNat := by
    rw [hcount]
    exact Nat.le_trans (Nat.le_of_eq (Nat.zero_add _)) (device.delivered_le r)
  obtain ⟨houtcome, hholds, hend⟩ := ChunkLoop.run_of_bringing (v := v) hgood hs hfirst
    ⟨0, s.clock.sent, .start c r label,
      (u.did (.setsCapacity (c.creditFor r))).did (.sends (c.requestMessage r label))⟩
    ⟨rfl, rfl, rfl, rfl, hu.regular, hu.layout, hu.good⟩
    (fun chunk hchunk => (device.fitting_chunks hpos hlabel hsize chunk hchunk).1) hroom
    ⟨hplace, rfl, fun n _ hn => htime n (by
      simp only [List.length_append, Nat.zero_add] at hn ⊢
      omega)⟩
  obtain ⟨summary, hresult, htells⟩ := Simulator.tells_of_chunks hworks hmode r label
  rw [Simulator.result_of_chunks hworks hmode] at hresult
  obtain rfl := Except.ok.inj hresult
  rw [hexchange]
  refine ⟨⟨_, houtcome, htells⟩, ?_, hend⟩
  rw [hholds, hcount, hdata, Simulator.given, hmode]
  exact congrArg _ (Synthetic.allSamples_block r.channels (device.delivered r) r.samples.toNat)

/-- **An exchange that is conveyed a device's answer in time records what the device gives**, in either
mode. -/
theorem exchange_records (hgood : Reliable good) (hworks : device.failWith = none)
    (hlabel : Text.Utf8.length label ≤ 512) (hcheck : c.check r = .ok ())
    (hlimit : c.maxMessage ≤ Frame.defaultLimit) (hs : Undisturbed s)
    (hconveys : s.Conveys c label (device.replies (c.requestMessage r label)) met rest)
    (hbegin : Beginning.of c r s factory world = .opened u) (hu : Starts good r u) :
    Records v good device c r u.reassembly.sinks (exchange c r label s u) := by
  have hbrief := Simulator.brief_of_works hworks
  have hsize := AcquisitionConfig.octets_of_check hcheck hlimit
  rw [AcquisitionConfig.largestReply] at hsize
  rw [AcquisitionConfig.requestMessage] at hconveys
  cases hmode : c.mode with
  | single =>
    rw [hmode] at hsize hconveys
    obtain ⟨hreplies, hcopes⟩ := device.replies_dumpMessage hbrief hsize
    have hsendable := hcopes.sendable
    rw [hreplies] at hsendable
    simp only [hreplies] at hconveys
    exact records_answer hgood hworks hmode hs
      (Nat.lt_of_le_of_lt (hsendable _ List.mem_cons_self) (by decide)) hconveys hbegin hu.good
  | streaming =>
    rw [hmode] at hsize hconveys
    obtain ⟨hreplies, -⟩ := device.replies_chunkMessage hbrief (c.hintFor_pos r) hlabel hsize
    simp only [hreplies] at hconveys
    exact records_chunks hgood hworks hmode hs hlabel hsize hconveys hu

/-! ## 5. Acquisitions -/

/-- An acquisition got from a device what it gives and tells so, and each sink has got what is recorded of
its channel, behind what it held when it was opened. -/
structure Recorded (v : SinkView S ω) (device : Simulator) (c : AcquisitionConfig)
    (r : AcquisitionRequest) (factory : SinkFactory S ω) (world : ω) (run : Run S ω) : Prop where
  result : ∃ summary, run.outcome = some (.ok summary) ∧ summary.Tells device c r
  channels : run.sinks.map Prod.fst = r.channels
  holds : run.sinks.map (fun sink => v.holds sink.2) =
    List.zipWith (· ++ ·) ((Reassembly.openEach factory r.channels world).2.1.map v.holds)
      (r.channels.map (Synthetic.recorded (device.given c r) r.samples.toNat))

/-- **An acquisition that is conveyed a device's answer in time records what the device gives.** -/
theorem recorded_of_replies (v : SinkView S ω) (hgood : Reliable good)
    (hworks : device.failWith = none) (hlabel : Text.Utf8.length label ≤ 512)
    (hcheck : c.check r = .ok ()) (hlimit : c.maxMessage ≤ Frame.defaultLimit)
    (hopens : factory.OpensEach good r.channels) (hs : Undisturbed s)
    (hconveys : s.Conveys c label (device.replies (c.requestMessage r label)) met rest) :
    Recorded v device c r factory world (acquire c r label s factory world) := by
  obtain ⟨u, hbegin, hstarts, hbare⟩ := starts_of_check world hs hcheck hopens
  rw [acquire_eq, hbegin]
  obtain ⟨⟨summary, houtcome, htells⟩, hholds, hend⟩ := exchange_records (v := v) hgood hworks hlabel
    hcheck hlimit hs hconveys hbegin hstarts
  have hopened : u.reassembly.sinks.map TracedSink.sink =
      (Reassembly.openEach factory r.channels world).2.1 :=
    congrArg (fun taken => taken.1.sinks) hbare
  refine ⟨⟨summary, Exchanged.outcome_conclude_of_reliable hgood houtcome hend, htells⟩,
    Exchanged.channels_conclude hbegin label, ?_⟩
  rw [Exchanged.holds_conclude, hholds, ← hopened, List.map_map]
  rfl

omit [SampleSink S ω] in
theorem Arrival.messages_map (messages : List Bytes) :
    Arrival.messages (messages.map .message) = messages := by
  have hsome : Arrival.message? ∘ Arrival.message = some := rfl
  rw [Arrival.messages, List.filterMap_map, hsome, List.filterMap_some]

omit [SampleSink S ω] in
/-- Messages that are there at once are conveyed, if there is any time. -/
theorem SimulatedLink.conveys_meeting (htime : Duration.zero < c.replyTimeout) (label : String)
    (messages : List Bytes) :
    (meeting c messages).Conveys c label messages (messages.map .message)
      (List.replicate c.patience .quiet) := by
  have hsince : ∀ n ≤ messages.length,
      (meeting c messages).waitsSince c.mode label n = .zero := by
    intro n hn
    induction n with
    | zero => rfl
    | succ n ih => rw [Surroundings.waitsSince, clock_meeting hn, ih (by omega), ite_self]
  refine ⟨arrivals_meeting c messages, Arrival.messages_map messages, ?_, ?_⟩
  · intro arrival harrival hnone
    obtain ⟨message, -, rfl⟩ := List.mem_map.mp harrival
    cases hnone
  · intro n hn
    rw [List.length_map] at hn
    rw [clock_meeting hn, hsince n hn]
    exact htime

/-- **What a simulated device delivers.**  A request that is not refused beforehand is sent to a device
that works.  When the messages that it answers with are waited for and no deadline is reached, the
acquisition succeeds; it gets all waveforms in one answer, and those up to the device's limit in chunks; and
each sink has got its channel's samples, waveform by waveform.  On a new link the request reaches the device,
these messages are what comes, and an acquisition with any time at all takes them. -/
theorem device_delivers (device : Simulator) (v : SinkView S ω) (hgood : Reliable good)
    (hworks : device.failWith = none) (hcheck : c.check r = .ok ())
    (hlimit : c.maxMessage ≤ Frame.defaultLimit) (hopens : factory.OpensEach good r.channels)
    (octets : Bytes) (world : ω) :
    let label := Label.ofOctets octets
    let request := c.requestMessage r label
    (∀ s met rest, Undisturbed s → s.Conveys c label (device.replies request) met rest →
      Recorded v device c r factory world (acquire c r label s factory world)) ∧
    ∀ (identity : String) (config : LinkConfig) (l : SimulatedLink),
      config.maxPayload = Frame.defaultLimit →
      SimulatedLink.connect device identity config = .ok l →
        (l.send request).1 = .ok () ∧ (l.send request).2.takeAll.1 = device.replies request ∧
          (Duration.zero < c.replyTimeout →
            Recorded v device c r factory world (l.acquire c r label none factory world).1) := by
  intro label request
  have hlabel : Text.Utf8.length label ≤ 512 :=
    Nat.le_trans (Label.length_ofOctets_le octets) (by decide)
  obtain ⟨hfits, hcopes⟩ :=
    device.copes_with_request (Simulator.brief_of_works hworks) hlabel hcheck hlimit
  constructor
  · intro s met rest hs hconveys
    exact recorded_of_replies v hgood hworks hlabel hcheck hlimit hopens hs hconveys
  · intro identity config l hframes hlink
    have hl : l.Holding device [] := SimulatedLink.holding_of_connect hframes hlink
    obtain ⟨asked, hsend, hasked⟩ := hl.send hfits hcopes
    obtain ⟨taken, htake, -⟩ := hasked.takeAll
    refine ⟨by rw [hsend], by rw [hsend, htake], fun htime => ?_⟩
    rw [(hl.acquire hfits hcopes factory world).1]
    exact recorded_of_replies v hgood hworks hlabel hcheck hlimit hopens
      (SimulatedLink.meeting_undisturbed c _) (SimulatedLink.conveys_meeting htime label _)

end

/-- Messages, each of them after a wait; five seconds pass at a time. -/
def slowly (messages : List Bytes) : Surroundings where
  arrivals := messages.flatMap fun message => [.quiet, .message message]
  clock := { after := fun count => .ofSeconds (5 * count) }

theorem messages_slowly (messages : List Bytes) :
    Arrival.messages (slowly messages).arrivals = messages := by
  induction messages with
  | nil => rfl
  | cons message messages ih =>
    have hmore : Arrival.messages (slowly (message :: messages)).arrivals =
        message :: Arrival.messages (slowly messages).arrivals := rfl
    rw [hmore, ih]

theorem lapses_slowly {messages : List Bytes} :
    ∀ arrival ∈ (slowly messages).arrivals, arrival.message? = none → arrival.lapses = true := by
  intro arrival harrival hnone
  obtain ⟨message, -, hmessage⟩ := List.mem_flatMap.mp harrival
  rcases List.mem_cons.mp hmessage with rfl | hmessage
  · rfl
  · rw [List.mem_singleton.mp hmessage] at hnone
    cases hnone

/-- Three waveforms, of which a device gives two. -/
def threeWaveforms : AcquisitionRequest where
  channels := [3, 1]
  waveforms := 3
  samples := 1
  softwareTrigger := false
  acceptable := ⟨by decide, by simp [maxChannel], by decide, by decide, by decide, by decide⟩

/-- A stream of two chunks, each after an unrelated message, that ends early; each comes in time, though both
together take longer than one answer may. -/
theorem device_delivers_slowly :
    let device : Simulator := { deliverLimit := some 2, noise := true }
    let config : AcquisitionConfig := { chunkHint := 1 }
    let label := Label.ofOctets [1, 2, 3]
    let request := config.requestMessage threeWaveforms label
    let recorded := Recorded MemorySink.view device config threeWaveforms sureFactory ()
    config.replyTimeout < (slowly (device.replies request)).clock.after 8 ∧
      device.given config threeWaveforms = 2 ∧
      recorded (acquire config threeWaveforms label (slowly (device.replies request)) sureFactory ()) ∧
      ∃ l, SimulatedLink.connect device "daq" {} = .ok l ∧ (l.send request).1 = .ok () ∧
        (l.send request).2.takeAll.1 = device.replies request ∧
        recorded (l.acquire config threeWaveforms label none sureFactory ()).1 := by
  intro device config label request recorded
  have hmade : (SimulatedLink.connect device "daq" {}).toBool = true := by decide +kernel
  have hcheck : config.check threeWaveforms = .ok () := by decide +kernel
  have htime : ∀ n ≤ (slowly (device.replies request)).arrivals.length,
      ((slowly (device.replies request)).clock.after n).sub
        ((slowly (device.replies request)).waitsSince config.mode label n) <
          config.replyTimeout := by decide +kernel
  obtain ⟨hrecorded, hlinks⟩ := device_delivers device MemorySink.view MemorySink.reliable rfl hcheck
    (Nat.le_refl _) (sureFactory_opensEach _) [1, 2, 3] ()
  refine ⟨by decide, rfl, ?_, ?_⟩
  · exact hrecorded _ _ [] ⟨rfl, rfl⟩
      ⟨(List.append_nil _).symm, messages_slowly _, lapses_slowly, htime⟩
  · cases hlink : SimulatedLink.connect device "daq" {} with
    | error e =>
      rw [hlink] at hmade
      cases hmade
    | ok l =>
      obtain ⟨hsent, htaken, hacquired⟩ := hlinks "daq" {} l rfl hlink
      exact ⟨l, rfl, hsent, htaken, hacquired (by decide)⟩

end Readout

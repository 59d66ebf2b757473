/-
# Both modes deliver the same

Data may be asked for in one answer or in chunks.  When a device sends the same data either way, both
acquisitions succeed and leave the same samples in their sinks, wherever the data is cut into chunks.

* `exchangeSingle_delivers` -- what one answer comes to;
* `exchangeChunks_delivers` -- what chunks come to;
* `modes_agree` -- the two are the same.
-/
import Readout.Proofs.Accounts
import Readout.Proofs.Messages

namespace Readout

open Control

/-! ## 1. Answers that arrive -/

/-- A chunk that was written into a message is judged as it was meant. -/
theorem StreamState.judge_encode (s : StreamState) {chunk : ChunkReply}
    (hfits : (Envelope.encodeRecord .chunkReply ChunkReply.schema chunk).length < Word.size) :
    s.judge (Envelope.encodeRecord .chunkReply ChunkReply.schema chunk) = s.judgeReply chunk := by
  have hdecode := decode_encode (show Kind.chunkReply ≠ .unspecified by decide) hfits
  have hrecord := record_encodeRecord ChunkReply.lawful hfits
  rw [judge, Envelope.encodeRecord, hdecode]
  simp [hrecord]

/-- The data of an answer that was written into a message is read back, if there is as much as was
asked for. -/
theorem replyData_encode {r : AcquisitionRequest} {reply : DumpReply}
    (hfits : (Envelope.encodeRecord .dump DumpReply.schema reply).length < Word.size)
    (hsuccess : reply.success = true) (hlength : reply.data.length = r.totalSamples) :
    replyData r (Envelope.encodeRecord .dump DumpReply.schema reply) = .ok reply.data := by
  have hdecode := decode_encode (show Kind.dump ≠ .unspecified by decide) hfits
  have hrecord := record_encodeRecord DumpReply.lawful hfits
  rw [replyData, Envelope.encodeRecord, hdecode]
  simp [hrecord, hsuccess, hlength]

variable {S ω : Type} [SampleSink S ω]

/-! ## 2. What is delivered -/

/-- The data was delivered in full: the acquisition succeeded, and each channel's sink has got its
samples behind what it held when it was opened. -/
structure Delivered (v : SinkView S ω) (r : AcquisitionRequest) (factory : SinkFactory S ω) (world : ω)
    (data : List UInt32) (run : Run S ω) : Prop where
  result : ∃ summary, run.outcome = some (.ok summary) ∧ summary.completion = .complete ∧
    summary.written = r.waveforms.toNat
  channels : run.sinks.map Prod.fst = r.channels
  holds : run.sinks.map (fun sink => v.holds sink.2) =
    List.zipWith (· ++ ·)
      ((Reassembly.openEach (SinkFactory.traced factory) r.channels ⟨world, []⟩).2.1.map
        v.traced.holds)
      (r.layout.allSamples r.waveforms.toNat data)

/-- The exchange that started with some sinks delivered the data in full. -/
structure DeliveredBy (v : SinkView S ω) (good : S → Prop) (r : AcquisitionRequest)
    (data : List UInt32) (before : List (TracedSink S)) (e : Exchanged S ω) : Prop where
  result : ∃ summary, e.outcome = some (.ok summary) ∧ summary.completion = .complete ∧
    summary.written = r.waveforms.toNat
  holds : e.underway.reassembly.sinks.map v.traced.holds =
    List.zipWith (· ++ ·) (before.map v.traced.holds) (r.layout.allSamples r.waveforms.toNat data)
  good : ∀ sink ∈ e.underway.reassembly.sinks, good sink.sink

section

variable {v : SinkView S ω} {good : S → Prop} {c : AcquisitionConfig} {r : AcquisitionRequest}
  {label : String} {s : Surroundings} {factory : SinkFactory S ω} {world : ω} {data : List UInt32}

/-- No exchange changes whose sinks there are. -/
theorem exchange_channels (u : Underway S ω) :
    (exchange c r label s u).underway.reassembly.sinks.map TracedSink.channel =
      u.reassembly.sinks.map TracedSink.channel := by
  have hlasting : Lasting fun (reassembly : Reassembly (TracedSink S)) (_ : Traced ω) =>
      reassembly.sinks.map TracedSink.channel = u.reassembly.sinks.map TracedSink.channel := by
    refine ⟨fun _ _ _ _ h => h, ?_⟩
    intro reassembly waveforms data w h
    rw [Reassembly.map_append (fun _ _ _ => rfl), h]
  exact hlasting.exchange label rfl

/-- The sinks of an acquisition belong to the channels of the request. -/
theorem Exchanged.channels_conclude {u : Underway S ω}
    (hbegin : Beginning.of c r s factory world = .opened u) (label : String) :
    (exchange c r label s u).conclude.sinks.map Prod.fst = r.channels := by
  have hchannels := Beginning.channels_sinks _ hbegin
  rw [Beginning.sinks, Beginning.length_sinks_opened hbegin, List.take_length] at hchannels
  have hsame := map_sinks_conclude (g := TracedSink.channel) (fun _ _ => rfl)
    (exchange c r label s u)
  rw [exchange_channels, hchannels] at hsame
  exact hsame

/-- **An exchange that delivers the data makes an acquisition that does.** -/
theorem delivered_of_exchange (hgood : Reliable good) (hs : Undisturbed s)
    (hcheck : c.check r = .ok ()) (hopens : factory.OpensEach good r.channels)
    (h : ∀ u : Underway S ω, Beginning.of c r s factory world = .opened u →
      (∀ sink ∈ u.reassembly.sinks, good sink.sink) →
        DeliveredBy v good r data u.reassembly.sinks (exchange c r label s u)) :
    Delivered v r factory world data (acquire c r label s factory world) := by
  obtain ⟨u, hbegin, hsinks, hstart⟩ :=
    Beginning.of_eq_opened_of_opensEach world hs.uncancelled hcheck hopens
  obtain ⟨⟨summary, houtcome, hcomplete, hwritten⟩, hholds, hend⟩ := h u hbegin hstart
  rw [acquire_eq, hbegin]
  refine ⟨⟨summary, ?_, hcomplete, hwritten⟩, ?_, ?_⟩
  · exact Exchanged.outcome_conclude_of_reliable hgood houtcome hend
  · exact Exchanged.channels_conclude hbegin label
  · rw [Exchanged.holds_conclude, hholds, hsinks]

/-! ## 3. One answer -/

/-- A message arrives in time, after waits in which nothing came. -/
def Surroundings.Answers (s : Surroundings) (timeout : Duration) (message : Bytes) : Prop :=
  ∃ waits rest, s.arrivals = waits ++ .message message :: rest ∧
    (∀ arrival ∈ waits, arrival.lapses = true) ∧
    ∀ n ≤ waits.length, (s.clock.after n).sub s.clock.sent < timeout

/-- **What one answer comes to.** -/
theorem exchangeSingle_delivers (hgood : Reliable good) (hmode : c.mode = .single)
    (hs : Undisturbed s) {reply : DumpReply} (hsuccess : reply.success = true)
    (hdata : reply.data = data) (hlength : data.length = r.totalSamples)
    (hfits : (Envelope.encodeRecord .dump DumpReply.schema reply).length < Word.size)
    (hanswer : s.Answers c.replyTimeout (Envelope.encodeRecord .dump DumpReply.schema reply))
    {u : Underway S ω} (hbegin : Beginning.of c r s factory world = .opened u)
    (hsinks : ∀ sink ∈ u.reassembly.sinks, good sink.sink) :
    DeliveredBy v good r data u.reassembly.sinks (exchange c r label s u) := by
  obtain ⟨waits, rest, harrivals, hwaits, htime⟩ := hanswer
  obtain ⟨hregular, -, hlayout⟩ := Beginning.regular_opened hbegin
  obtain ⟨sinks, -, hu⟩ := Beginning.of_eq_opened hbegin
  have hwaveforms : u.reassembly.waveforms = 0 := by rw [hu]; rfl
  have hsize : u.reassembly.layout.samplesIn? r.waveforms.toNat = some data.length := by
    rw [hlayout, r.samplesIn?_eq_some (Nat.le_refl _), hlength, r.totalSamples_eq]
  have hinTime : ∀ n, 0 ≤ n → n ≤ 0 + waits.length →
      (s.clock.after n).sub s.clock.sent < c.replyTimeout := fun n _ hn => htime n (by omega)
  obtain ⟨u', hawait, hsame⟩ := awaitReply_of_lapses hs hwaits rest hinTime
    (u := u.did (.sends (c.requestMessage r label)))
  rw [← harrivals] at hawait
  have hreassembly : u'.reassembly = u.reassembly := hsame
  have hread : replyData r (Envelope.encodeRecord .dump DumpReply.schema reply) = .ok data := by
    rw [replyData_encode hfits hsuccess (by rw [hdata, hlength]), hdata]
  rw [← hreassembly] at hregular hlayout hsize hwaveforms hsinks
  obtain ⟨hnone, hcount, hholds, hend⟩ := Reassembly.append_of_reliable v.traced hgood.traced
    hregular hsize hsinks (w := u'.world)
  have hexchange : exchange c r label s u = exchangeSingle c r label s u := by
    rw [exchange, hmode]
  rw [hexchange, exchangeSingle_of_data hs hawait hread hnone]
  refine ⟨⟨_, rfl, rfl, ?_⟩, ?_, hend⟩
  · show (u'.reassembly.append r.waveforms.toNat data u'.world).2.1.waveforms.toNat = _
    rw [hcount, hwaveforms, Word.toNat_zero_add_ofNat]
  · rw [← hreassembly, ← hlayout]
    exact hholds

/-! ## 4. Chunks -/

/-- The message that a chunk is sent in. -/
def chunkMessage (chunk : ChunkReply) : Bytes :=
  Envelope.encodeRecord .chunkReply ChunkReply.schema chunk

/-- A chunk as it should be: with the label, of some waveforms at most, and whole. -/
structure Fitting (r : AcquisitionRequest) (label : String) (hint : Nat) (chunk : ChunkReply) :
    Prop where
  labelled : chunk.label = label
  succeeded : chunk.success = true
  bounded : chunk.waveforms.toNat ≤ hint
  aligned : chunk.data.length = r.layout.channels * r.layout.samples * chunk.waveforms.toNat
  /-- The message fits in memory. -/
  fits : (chunkMessage chunk).length < Word.size

/-- The data of a request, cut at the ends of waveforms into chunks of some waveforms at most; only the
last of them says that it is. -/
structure Chunked (r : AcquisitionRequest) (label : String) (hint : Nat) (data : List UInt32)
    (chunks : List ChunkReply) : Prop where
  fitting : ∀ chunk ∈ chunks, Fitting r label hint chunk
  joined : chunks.flatMap ChunkReply.data = data
  last : ∃ before final, chunks = before ++ [final] ∧ final.isFinal = true ∧
    ∀ chunk ∈ before, chunk.isFinal = false

section

variable {α : Type} {items rest : List α} {item : α} {n : Nat}

theorem getElem?_of_drop (h : items.drop n = item :: rest) : items[n]? = some item := by
  have hget := congrArg (·[0]?) h
  simpa using hget

theorem drop_succ_of_drop (h : items.drop n = item :: rest) : items.drop (n + 1) = rest := by
  rw [← List.drop_drop, h]
  rfl

end

/-- Since when the next chunk is waited for: since the last message, or since the request was sent. -/
def Surroundings.since (s : Surroundings) : Nat → Duration
  | 0 => s.clock.sent
  | n + 1 =>
    match s.arrivals[n]?.bind Arrival.message? with
    | some _ => s.clock.after (n + 1)
    | none => s.since n

/-- What is ahead of a loop that has asked for messages so often, the last chunk having come then: these
messages, each in time, and besides them waits in which nothing came. -/
structure Ahead (s : Surroundings) (timeout : Duration) (receives : Nat) (since : Duration)
    (messages : List Bytes) (met rest : List Arrival) : Prop where
  place : s.arrivals.drop receives = met ++ rest
  messages : Arrival.messages met = messages
  waits : ∀ arrival ∈ met, arrival.message? = none → arrival.lapses = true
  since : since = s.since receives
  time : ∀ n, receives ≤ n → n < receives + met.length →
    s.arrivals[n]?.bind Arrival.message? = none → (s.clock.after (n + 1)).sub (s.since n) < timeout

/-- Messages arrive, each in time after the one before it; besides them, waits end in which nothing
came. -/
def Surroundings.Brings (s : Surroundings) (timeout : Duration) (messages : List Bytes) : Prop :=
  ∃ met rest, Ahead s timeout 0 s.clock.sent messages met rest

namespace Ahead

omit [SampleSink S ω]

variable {timeout : Duration} {receives : Nat} {since : Duration} {messages : List Bytes}
  {arrival : Arrival} {met rest : List Arrival}

theorem getElem?_receives (h : Ahead s timeout receives since messages (arrival :: met) rest) :
    s.arrivals[receives]? = some arrival := getElem?_of_drop h.place

theorem drop_succ (h : Ahead s timeout receives since messages (arrival :: met) rest) :
    s.arrivals.drop (receives + 1) = met ++ rest := drop_succ_of_drop h.place

/-- After a wait in which nothing came, the same is ahead. -/
theorem lapse (h : Ahead s timeout receives since messages (arrival :: met) rest)
    (hmessage : arrival.message? = none) :
    arrival.lapses = true ∧ (s.clock.after (receives + 1)).sub since < timeout ∧
      Ahead s timeout (receives + 1) since messages met rest := by
  have hhere : s.arrivals[receives]?.bind Arrival.message? = none := by
    rw [h.getElem?_receives]
    exact hmessage
  refine ⟨h.waits arrival List.mem_cons_self hmessage, ?_, h.drop_succ, ?_, ?_, ?_, ?_⟩
  · rw [h.since]
    exact h.time receives (Nat.le_refl _) (by simp) hhere
  · rw [← h.messages]
    exact (List.filterMap_cons_none hmessage).symm
  · exact fun other hother => h.waits other (List.mem_cons_of_mem _ hother)
  · rw [Surroundings.since, hhere]
    exact h.since
  · exact fun n hle hlt => h.time n (by omega) (by rw [List.length_cons]; omega)

/-- After a message, the others are ahead. -/
theorem message {octets : Bytes}
    (h : Ahead s timeout receives since messages (.message octets :: met) rest) :
    ∃ more, messages = octets :: more ∧
      Ahead s timeout (receives + 1) (s.clock.after (receives + 1)) more met rest := by
  refine ⟨Arrival.messages met, h.messages.symm, h.drop_succ, rfl, ?_, ?_, ?_⟩
  · exact fun other hother => h.waits other (List.mem_cons_of_mem _ hother)
  · rw [Surroundings.since, h.getElem?_receives]
    rfl
  · exact fun n hle hlt => h.time n (by omega) (by rw [List.length_cons]; omega)

end Ahead

/-- A stream that can take what is left of the data, and whose sinks can. -/
structure Ready (good : S → Prop) (r : AcquisitionRequest) (label : String) (hint : Nat)
    (state : StreamState) (reassembly : Reassembly (TracedSink S)) : Prop where
  label : state.label = label
  layout : state.layout = r.layout
  hint : state.hint = hint
  expected : state.expected = r.waveforms.toNat
  regular : reassembly.Regular
  same : reassembly.layout = r.layout
  good : ∀ sink ∈ reassembly.sinks, good sink.sink

/-- A chunk of the data is taken. -/
theorem Ready.takes {hint : Nat} {state : StreamState} {reassembly : Reassembly (TracedSink S)}
    (hgood : Reliable good) (h : Ready good r label hint state reassembly) {chunk : ChunkReply}
    (hchunk : Fitting r label hint chunk)
    (hroom : state.received + chunk.waveforms.toNat ≤ r.waveforms.toNat) (w : Traced ω) :
    let appended := reassembly.append chunk.waveforms.toNat chunk.data w
    state.accept (chunkMessage chunk) reassembly w =
        (.ok (if chunk.isFinal then .final else .appended, state.advance chunk), appended.2) ∧
      reassembly.layout.samplesIn? chunk.waveforms.toNat = some chunk.data.length ∧
      Ready good r label hint (state.advance chunk) appended.2.1 := by
  have hcount := r.samplesIn?_eq_some (show chunk.waveforms.toNat ≤ r.waveforms.toNat by omega)
  have hsizes : state.sizeError chunk = none := by
    refine StreamState.sizeError_eq_none_iff.mpr ⟨?_, ?_, ?_⟩
    · rw [h.hint]
      exact hchunk.bounded
    · rw [h.expected]
      exact hroom
    · rw [h.layout, hcount, hchunk.aligned, Option.getD_some]
  have hjudge : state.judge (chunkMessage chunk) = .chunk chunk := by
    rw [chunkMessage, state.judge_encode hchunk.fits, StreamState.judgeReply_eq_chunk_iff]
    exact ⟨rfl, hchunk.labelled.trans h.label.symm, hchunk.succeeded, hsizes⟩
  have hsize : reassembly.layout.samplesIn? chunk.waveforms.toNat = some chunk.data.length := by
    rw [h.same, hcount, hchunk.aligned]
  obtain ⟨hnone, -, hend⟩ := Reassembly.append_eq_none hgood.traced hsize h.good (w := w)
  obtain ⟨-, hlayout, -⟩ :=
    Reassembly.append_frame reassembly chunk.waveforms.toNat chunk.data w
  refine ⟨?_, hsize, h.label, h.layout, h.hint, h.expected, h.regular.append _ _ _,
    hlayout.trans h.same, hend⟩
  rw [StreamState.accept_of_chunk hjudge, hnone]

/-- A loop that can take what is left takes a chunk of it, and is over with the last. -/
theorem ChunkLoop.turn_takes {hint : Nat} {loop : ChunkLoop S ω} (hgood : Reliable good)
    (hs : Undisturbed s)
    (h : Ready good r label hint loop.state loop.underway.reassembly) {chunk : ChunkReply}
    (hchunk : Fitting r label hint chunk)
    (hroom : loop.state.received + chunk.waveforms.toNat ≤ r.waveforms.toNat) :
    let appended := loop.underway.reassembly.append chunk.waveforms.toNat chunk.data
      (loop.underway.world.did (.awaits c.chunkWait))
    Ready good r label hint (loop.state.advance chunk) appended.2.1 ∧
      loop.turn c r s (.message (chunkMessage chunk)) =
        if chunk.isFinal = true then
          .ended (.ok ((loop.state.advance chunk).summary r (c.creditFor r)))
            ⟨appended.2.1, appended.2.2⟩
        else
          .onward ⟨loop.receives + 1, s.clock.after (loop.receives + 1), loop.state.advance chunk,
            ⟨appended.2.1, appended.2.2⟩⟩ := by
  obtain ⟨haccept, -, hready⟩ := h.takes hgood hchunk hroom
    (loop.underway.world.did (.awaits c.chunkWait))
  refine ⟨hready, ?_⟩
  rw [turn, loop.meet_message, haccept]
  cases hfinal : chunk.isFinal with
  | true => simp [Finding.ofAccepted, StreamState.orAfter]
  | false => simp [Finding.ofAccepted, StreamState.orAfter, unlessCancelled, hs.cancelledBy]

/-- The chunk is in the sinks then. -/
theorem ChunkLoop.turn_of_chunk {hint : Nat} {loop : ChunkLoop S ω} (hgood : Reliable good)
    (hs : Undisturbed s)
    (h : Ready good r label hint loop.state loop.underway.reassembly) {chunk : ChunkReply}
    (hchunk : Fitting r label hint chunk)
    (hroom : loop.state.received + chunk.waveforms.toNat ≤ r.waveforms.toNat) :
    ∃ u : Underway S ω, Ready good r label hint (loop.state.advance chunk) u.reassembly ∧
      u.reassembly.sinks.map v.traced.holds =
        List.zipWith (· ++ ·) (loop.underway.reassembly.sinks.map v.traced.holds)
          (r.layout.allSamples chunk.waveforms.toNat chunk.data) ∧
      loop.turn c r s (.message (chunkMessage chunk)) =
        if chunk.isFinal = true then
          .ended (.ok ((loop.state.advance chunk).summary r (c.creditFor r))) u
        else
          .onward
            ⟨loop.receives + 1, s.clock.after (loop.receives + 1), loop.state.advance chunk, u⟩ := by
  obtain ⟨-, hsize, -⟩ := h.takes hgood hchunk hroom
    (loop.underway.world.did (.awaits c.chunkWait))
  obtain ⟨hready, hturn⟩ := turn_takes hgood hs h hchunk hroom (c := c)
  obtain ⟨-, -, hholds, -⟩ := Reassembly.append_of_reliable v.traced hgood.traced h.regular hsize
    h.good (w := loop.underway.world.did (.awaits c.chunkWait))
  refine ⟨⟨_, _⟩, hready, ?_, hturn⟩
  rw [h.same] at hholds
  exact hholds

/-- A wait in which nothing came, when there is still time, changes nothing but the count. -/
theorem ChunkLoop.turn_of_lapse {loop : ChunkLoop S ω} (hs : Undisturbed s) {arrival : Arrival}
    (hlapse : arrival.lapses = true)
    (htime : (s.clock.after (loop.receives + 1)).sub loop.since < c.replyTimeout) :
    loop.turn c r s arrival =
      .onward ⟨loop.receives + 1, loop.since, loop.state,
        loop.underway.did (.awaits c.chunkWait)⟩ := by
  obtain ⟨after, houtcome⟩ := Arrival.outcome_of_lapses hlapse c.chunkWait
  have hmeet : loop.meet c.chunkWait arrival =
      ⟨.nothing, loop.state, loop.underway.did (.awaits c.chunkWait)⟩ := by
    rw [meet, houtcome]
  have hleft : ¬c.replyTimeout ≤ (s.clock.after (loop.receives + 1)).sub loop.since :=
    Nat.not_le.mpr htime
  rw [turn, hmeet]
  simp [hleft, unlessCancelled, hs.cancelledBy]

/-- What a loop has come to that took the rest of the data, when it had received so many waveforms and
its sinks were these. -/
structure TookRest (v : SinkView S ω) (good : S → Prop) (c : AcquisitionConfig)
    (r : AcquisitionRequest) (received : Nat) (before : List (TracedSink S))
    (chunks : List ChunkReply) (e : Exchanged S ω) : Prop where
  result : ∃ state : StreamState, e.outcome = some (.ok (state.summary r (c.creditFor r))) ∧
    state.received = received + waveformsIn chunks ∧ state.expected = r.waveforms.toNat
  holds : e.underway.reassembly.sinks.map v.traced.holds =
    List.zipWith (· ++ ·) (before.map v.traced.holds)
      (r.layout.allSamples (waveformsIn chunks) (chunks.flatMap ChunkReply.data))
  good : ∀ sink ∈ e.underway.reassembly.sinks, good sink.sink

/-- A chunk is taken, and then the chunks after it. -/
theorem TookRest.cons {received : Nat} {chunk : ChunkReply} {chunks : List ChunkReply}
    {before after : List (TracedSink S)} {e : Exchanged S ω}
    (haligned : chunk.data.length =
      r.layout.channels * r.layout.samples * chunk.waveforms.toNat)
    (hholds : after.map v.traced.holds = List.zipWith (· ++ ·) (before.map v.traced.holds)
      (r.layout.allSamples chunk.waveforms.toNat chunk.data))
    (h : TookRest v good c r (received + chunk.waveforms.toNat) after chunks e) :
    TookRest v good c r received before (chunk :: chunks) e := by
  obtain ⟨⟨state, houtcome, hcount, hexpected⟩, hall, hend⟩ := h
  refine ⟨⟨state, houtcome, ?_, hexpected⟩, ?_, hend⟩
  · rw [hcount, waveformsIn, ← Nat.add_assoc]
  · rw [hall, hholds, zipWith_append_assoc, waveformsIn, List.flatMap_cons,
      Layout.allSamples_append haligned]

/-- **A loop takes the rest of the data**, however many waits lie between the chunks. -/
theorem ChunkLoop.run_of_chunks {hint : Nat} (hgood : Reliable good) (hs : Undisturbed s)
    {met rest : List Arrival} {chunks : List ChunkReply} (loop : ChunkLoop S ω)
    (hready : Ready good r label hint loop.state loop.underway.reassembly)
    (hfitting : ∀ chunk ∈ chunks, Fitting r label hint chunk)
    (hlast : ∃ before final, chunks = before ++ [final] ∧ final.isFinal = true ∧
      ∀ chunk ∈ before, chunk.isFinal = false)
    (hroom : loop.state.received + waveformsIn chunks ≤ r.waveforms.toNat)
    (hahead : Ahead s c.replyTimeout loop.receives loop.since (chunks.map chunkMessage) met rest) :
    TookRest v good c r loop.state.received loop.underway.reassembly.sinks chunks
      (loop.run c r s (met ++ rest)) := by
  induction met generalizing loop chunks with
  | nil =>
    obtain ⟨before, final, rfl, -, -⟩ := hlast
    have hnone := hahead.messages
    simp [Arrival.messages] at hnone
  | cons arrival met ih =>
    rw [List.cons_append, run_cons]
    cases hmessage : arrival.message? with
    | none =>
      obtain ⟨hlapse, hnow, hnext⟩ := hahead.lapse hmessage
      rw [turn_of_lapse hs hlapse hnow, Turn.resume]
      exact ih ⟨loop.receives + 1, loop.since, loop.state,
        loop.underway.did (.awaits c.chunkWait)⟩ hready hfitting hlast hroom hnext
    | some octets =>
      obtain rfl := Arrival.eq_message hmessage
      obtain ⟨messages, hmessages, hnext⟩ := hahead.message
      obtain ⟨before, final, rfl, hfinal, hbefore⟩ := hlast
      cases before with
      | nil =>
        obtain ⟨rfl, -⟩ := List.cons.inj hmessages
        have hfits := hfitting final List.mem_cons_self
        rw [List.nil_append, waveformsIn, waveformsIn, Nat.add_zero] at hroom
        obtain ⟨u, hready', hholds, hturn⟩ := turn_of_chunk (v := v) (c := c) hgood hs hready hfits
          hroom
        rw [hturn, if_pos hfinal, Turn.resume]
        refine ⟨⟨loop.state.advance final, rfl, ?_, hready'.expected⟩, ?_, hready'.good⟩
        · simp [StreamState.advance, waveformsIn]
        · rw [hholds]
          simp [waveformsIn]
      | cons chunk before =>
        obtain ⟨rfl, rfl⟩ := List.cons.inj hmessages
        have hfits := hfitting chunk List.mem_cons_self
        have hsum : waveformsIn (chunk :: before ++ [final]) =
            chunk.waveforms.toNat + waveformsIn (before ++ [final]) := rfl
        have hgoing : ¬chunk.isFinal = true := by
          rw [hbefore chunk List.mem_cons_self]
          exact Bool.false_ne_true
        obtain ⟨u, hready', hholds, hturn⟩ := turn_of_chunk (v := v) (c := c) hgood hs hready hfits
          (by omega)
        have hreceived : (loop.state.advance chunk).received =
            loop.state.received + chunk.waveforms.toNat := rfl
        rw [hsum] at hroom
        have hroom' : (loop.state.advance chunk).received + waveformsIn (before ++ [final]) ≤
            r.waveforms.toNat := by
          rw [hreceived]
          omega
        rw [hturn, if_neg hgoing, Turn.resume]
        have hrest := ih
          ⟨loop.receives + 1, s.clock.after (loop.receives + 1), loop.state.advance chunk, u⟩ hready'
          (fun other hother => hfitting other (List.mem_cons_of_mem _ hother))
          ⟨before, final, rfl, hfinal,
            fun other hother => hbefore other (List.mem_cons_of_mem _ hother)⟩
          hroom' hnext
        exact hrest.cons hfits.aligned hholds

/-- Chunks hold as much data as their waveforms have samples. -/
theorem length_flatMap_data {hint : Nat} {chunks : List ChunkReply}
    (h : ∀ chunk ∈ chunks, Fitting r label hint chunk) :
    (chunks.flatMap ChunkReply.data).length =
      r.layout.channels * r.layout.samples * waveformsIn chunks := by
  induction chunks with
  | nil => rfl
  | cons chunk more ih =>
    have hmore := ih fun other hother => h other (List.mem_cons_of_mem _ hother)
    have hchunk := (h chunk List.mem_cons_self).aligned
    rw [List.flatMap_cons, List.length_append, hchunk, hmore, ← Nat.mul_add]
    rfl

/-- Chunks that the data is cut into hold all its waveforms. -/
theorem Chunked.waveformsIn_eq {hint : Nat} {chunks : List ChunkReply}
    (h : Chunked r label hint data chunks) (hlength : data.length = r.totalSamples) :
    waveformsIn chunks = r.waveforms.toNat := by
  have hall := length_flatMap_data h.fitting
  have hchannels : 0 < r.layout.channels := List.length_pos_of_ne_nil r.acceptable.nonempty
  have hsamples : 0 < r.layout.samples :=
    Nat.pos_of_ne_zero fun h => r.acceptable.samples_pos (UInt32.toNat_inj.mp h)
  rw [h.joined, hlength, r.totalSamples_eq] at hall
  exact (Nat.eq_of_mul_eq_mul_left (Nat.mul_pos hchannels hsamples) hall).symm

/-- **What chunks come to.** -/
theorem exchangeChunks_delivers (hgood : Reliable good) (hmode : c.mode = .streaming)
    (hs : Undisturbed s) {chunks : List ChunkReply}
    (hchunked : Chunked r label (c.hintFor r).toNat data chunks)
    (hlength : data.length = r.totalSamples)
    (hbrings : s.Brings c.replyTimeout (chunks.map chunkMessage))
    {u : Underway S ω} (hbegin : Beginning.of c r s factory world = .opened u)
    (hsinks : ∀ sink ∈ u.reassembly.sinks, good sink.sink) :
    DeliveredBy v good r data u.reassembly.sinks (exchange c r label s u) := by
  obtain ⟨hregular, -, hlayout⟩ := Beginning.regular_opened hbegin
  obtain ⟨met, rest, hahead⟩ := hbrings
  have harrivals : s.arrivals = met ++ rest := hahead.place
  have hall := hchunked.waveformsIn_eq hlength
  have hzero : (StreamState.start c r label).received = 0 := rfl
  obtain ⟨⟨state, houtcome, hreceived, hexpected⟩, hholds, hend⟩ := ChunkLoop.run_of_chunks (v := v)
    hgood hs ⟨0, s.clock.sent, .start c r label,
      (u.did (.setsCapacity (c.creditFor r))).did (.sends (c.requestMessage r label))⟩
    ⟨rfl, rfl, rfl, rfl, hregular, hlayout, hsinks⟩ hchunked.fitting hchunked.last
    (by rw [hzero, hall, Nat.zero_add]) hahead
  rw [← harrivals, ← exchangeChunks_of_undisturbed c r label hs u] at houtcome hholds hend
  have hexchange : exchange c r label s u = exchangeChunks c r label s u := by
    rw [exchange, hmode]
  have hreceived : state.received = r.waveforms.toNat := by
    rw [hreceived, hzero, hall, Nat.zero_add]
  rw [hexchange]
  refine ⟨⟨_, houtcome, ?_, hreceived⟩, ?_, hend⟩
  · rw [StreamState.summary_completion hexpected (Nat.le_of_eq hreceived), if_pos hreceived]
  · rw [hall, hchunked.joined] at hholds
    exact hholds

/-! ## 5. The two modes -/

/-- **Both modes deliver the same**: whether the data comes in one answer or in chunks, both acquisitions
succeed with everything that was asked for, and each channel's sink holds the same in the end. -/
theorem modes_agree (v : SinkView S ω) (hgood : Reliable good) {single streaming : AcquisitionConfig}
    (hsingle : single.mode = .single) (hstreaming : streaming.mode = .streaming)
    (hcheckSingle : single.check r = .ok ()) (hcheckStreaming : streaming.check r = .ok ())
    (hopens : factory.OpensEach good r.channels) {aside along : Surroundings}
    (haside : Undisturbed aside) (halong : Undisturbed along)
    (hlength : data.length = r.totalSamples)
    {reply : DumpReply} (hsuccess : reply.success = true) (hdata : reply.data = data)
    (hfits : (Envelope.encodeRecord .dump DumpReply.schema reply).length < Word.size)
    (hanswers : aside.Answers single.replyTimeout
      (Envelope.encodeRecord .dump DumpReply.schema reply))
    {chunks : List ChunkReply} (hchunked : Chunked r label (streaming.hintFor r).toNat data chunks)
    (hbrings : along.Brings streaming.replyTimeout (chunks.map chunkMessage)) :
    ∃ whole parts,
      (acquire single r label aside factory world).outcome = some (.ok whole) ∧
        (acquire streaming r label along factory world).outcome = some (.ok parts) ∧
        whole.completion = .complete ∧ parts.completion = .complete ∧
        whole.written = parts.written ∧
        (acquire single r label aside factory world).sinks.map Prod.fst = r.channels ∧
        (acquire single r label aside factory world).sinks.map
            (fun sink => (sink.1, v.holds sink.2)) =
          (acquire streaming r label along factory world).sinks.map
            (fun sink => (sink.1, v.holds sink.2)) := by
  have hwhole : Delivered v r factory world data (acquire single r label aside factory world) :=
    delivered_of_exchange hgood haside hcheckSingle hopens fun u hbegin hsinks =>
      exchangeSingle_delivers hgood hsingle haside hsuccess hdata hlength hfits hanswers hbegin hsinks
  have hparts : Delivered v r factory world data (acquire streaming r label along factory world) :=
    delivered_of_exchange hgood halong hcheckStreaming hopens fun u hbegin hsinks =>
      exchangeChunks_delivers hgood hstreaming halong hchunked hlength hbrings hbegin hsinks
  obtain ⟨whole, hwholeOutcome, hwholeComplete, hwholeWritten⟩ := hwhole.result
  obtain ⟨parts, hpartsOutcome, hpartsComplete, hpartsWritten⟩ := hparts.result
  refine ⟨whole, parts, hwholeOutcome, hpartsOutcome, hwholeComplete, hpartsComplete, ?_,
    hwhole.channels, ?_⟩
  · rw [hwholeWritten, hpartsWritten]
  · have hchannels := hwhole.channels.trans hparts.channels.symm
    have hholds := hwhole.holds.trans hparts.holds.symm
    rw [← List.zip_map', ← List.zip_map', hholds]
    exact congrArg (List.zip · _) hchannels

end

/-- The answer that carries the data of `pairRequest`. -/
def pairReply : DumpReply := { success := true, data := [1, 2, 3, 65540] }

/-- The same data in chunks, one of which is empty. -/
def pairChunks : List ChunkReply :=
  [pairChunk "a" 1 [1, 2] false, pairChunk "a" 0 [] false, pairChunk "a" 1 [3, 65540] true]

/-- One wait, and then the answer. -/
def pairAnswers : Surroundings where
  arrivals := [.quiet, .message (Envelope.encodeRecord .dump DumpReply.schema pairReply)]

/-- The chunks, with a wait between them. -/
def pairBrings : Surroundings where
  arrivals :=
    [.message (chunkMessage (pairChunk "a" 1 [1, 2] false)), .quiet,
      .message (chunkMessage (pairChunk "a" 0 [] false)),
      .message (chunkMessage (pairChunk "a" 1 [3, 65540] true))]

theorem modes_agree_pair :
    ∃ whole parts,
      (acquire { mode := .single } pairRequest "a" pairAnswers sureFactory ()).outcome =
          some (.ok whole) ∧
        (acquire {} pairRequest "a" pairBrings sureFactory ()).outcome = some (.ok parts) ∧
        whole.completion = .complete ∧ parts.completion = .complete ∧
        whole.written = parts.written ∧
        (acquire { mode := .single } pairRequest "a" pairAnswers sureFactory ()).sinks.map Prod.fst =
          [3, 1] ∧
        (acquire { mode := .single } pairRequest "a" pairAnswers sureFactory ()).sinks.map
            (fun sink => (sink.1, sink.2.samples)) =
          (acquire {} pairRequest "a" pairBrings sureFactory ()).sinks.map
            (fun sink => (sink.1, sink.2.samples)) := by
  have hfits : (Envelope.encodeRecord .dump DumpReply.schema pairReply).length < Word.size := by
    decide +kernel
  -- The clock stands still, so that no time passes.
  have hinstant : ∀ since : Duration, Duration.zero.sub since < Duration.ofSeconds 30 := by
    intro since
    show 0 - since.nanos < 30 * 1000000000
    omega
  have hanswers : pairAnswers.Answers ({ mode := .single } : AcquisitionConfig).replyTimeout
      (Envelope.encodeRecord .dump DumpReply.schema pairReply) :=
    ⟨[.quiet], [], rfl, by decide, fun _ _ => hinstant .zero⟩
  have hchunked : Chunked pairRequest "a" (AcquisitionConfig.hintFor {} pairRequest).toNat
      [1, 2, 3, 65540] pairChunks := by
    refine ⟨?_, rfl,
      [pairChunk "a" 1 [1, 2] false, pairChunk "a" 0 [] false], pairChunk "a" 1 [3, 65540] true,
      rfl, rfl, by decide⟩
    intro chunk hchunk
    simp only [pairChunks, List.mem_cons, List.not_mem_nil, or_false] at hchunk
    rcases hchunk with rfl | rfl | rfl
    · exact ⟨rfl, rfl, by decide, rfl, by decide +kernel⟩
    · exact ⟨rfl, rfl, by decide, rfl, by decide +kernel⟩
    · exact ⟨rfl, rfl, by decide, rfl, by decide +kernel⟩
  have hwaits : ∀ arrival ∈ pairBrings.arrivals, arrival.message? = none →
      arrival.lapses = true := by
    simp [pairBrings, Arrival.message?, Arrival.lapses]
  have hbrings : pairBrings.Brings ({} : AcquisitionConfig).replyTimeout
      (pairChunks.map chunkMessage) :=
    ⟨pairBrings.arrivals, [], rfl, rfl, hwaits, rfl,
      fun n _ _ _ => hinstant (pairBrings.since n)⟩
  have hlength : pairReply.data.length = pairRequest.totalSamples := rfl
  have hsuccess : pairReply.success = true := rfl
  have hsingle : ({ mode := .single } : AcquisitionConfig).check pairRequest = .ok () := by
    decide +kernel
  have hstreaming : ({} : AcquisitionConfig).check pairRequest = .ok () := by
    decide +kernel
  exact modes_agree MemorySink.view MemorySink.reliable rfl rfl hsingle hstreaming
    (sureFactory_opensEach _) ⟨rfl, rfl⟩ ⟨rfl, rfl⟩ hlength hsuccess rfl hfits hanswers hchunked
    hbrings

end Readout

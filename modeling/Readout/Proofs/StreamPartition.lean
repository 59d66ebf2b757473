/-
# A stream is cut into chunks, and sent as far as they fit

A simulated device answers a request for chunks in a loop that counts in words of 32 bits.  No
computation of the loop leaves their range, whatever the request asks for (`cutsInWords_eq`), and the
chunks that come out part the stream (`Partitions`): they follow one another from its first waveform to
its last, each of no more waveforms than was asked for, and only the last one says that it is.

The link takes a message only if it fits in a frame.  So the chunks are sent one after another up to the
first that is too large for that, and there the session ends (`SendsInOrder`).

* `Simulator.partitions_chunks` -- the chunks part the stream;
* `SimulatorSession.sendEach_in_order` -- what becomes of messages that are sent one after another;
* `SimulatorSession.stream_partitioned` -- both, for each request of known channels that is not refused;
* `SimulatorSession.large_chunk_unsent` -- a request that gets no chunk at all.
-/
import Readout.Proofs.ReplySizes
import Readout.Proofs.SyntheticBlocks

namespace Readout

open Control

/-! ## 1. Counting in words -/

theorem toNat_add_of_word {a b : UInt32} (h : ¬UInt32.size ≤ a.toNat + b.toNat) :
    (a + b).toNat = a.toNat + b.toNat := by
  rw [UInt32.toNat_add]
  exact Nat.mod_eq_of_lt (Nat.lt_of_not_le h)

/-- The chunks of a stream as the loop counts them, in words of 32 bits; `none` if a difference or a sum
is not a word. -/
def cutsInWords (size total sent : UInt32) : Option (List Cut) :=
  if total < sent then none
  else
    let waveforms := min (max size 1) (total - sent)
    if UInt32.size ≤ sent.toNat + waveforms.toNat then none
    else if total ≤ sent + waveforms then some [⟨sent.toNat, waveforms.toNat, true⟩]
    else (cutsInWords size total (sent + waveforms)).map (⟨sent.toNat, waveforms.toNat, false⟩ :: ·)
termination_by total.toNat - sent.toNat
decreasing_by
  rename_i hsent hfits hmore
  have hsum := toNat_add_of_word hfits
  have hleft := UInt32.toNat_sub_of_le total sent (UInt32.not_lt.mp hsent)
  rw [UInt32.le_iff_toNat_le, hsum, UInt32.toNat_min, UInt32.toNat_max, hleft] at hmore
  rw [hsum, UInt32.toNat_min, UInt32.toNat_max, hleft]
  have hone : (1 : UInt32).toNat = 1 := rfl
  omega

/-- How many waveforms the next chunk has. -/
theorem toNat_inWords (size : UInt32) {total sent : UInt32} (h : sent ≤ total) :
    (min (max size 1) (total - sent)).toNat = min (max size.toNat 1) (total.toNat - sent.toNat) := by
  rw [UInt32.toNat_min, UInt32.toNat_max, UInt32.toNat_sub_of_le total sent h]
  rfl

/-- **No computation of the loop leaves the words**, whatever the size and the total. -/
theorem cutsInWords_eq {size total sent : UInt32} (h : sent ≤ total) :
    cutsInWords size total sent = some (cutsFrom size.toNat total.toNat sent.toNat) := by
  have hbound := total.toNat_lt
  fun_induction cutsInWords size total sent with
  | case1 sent hless => exact absurd h (UInt32.not_le.mpr hless)
  | case2 sent hsent waveforms hlarge =>
    have hwaveforms : waveforms.toNat = _ := toNat_inWords size h
    have hsent := UInt32.le_iff_toNat_le.mp h
    rw [UInt32.size] at hlarge
    omega
  | case3 sent hsent waveforms hfits hlast =>
    have hwaveforms : waveforms.toNat = _ := toNat_inWords size h
    have hsum := toNat_add_of_word hfits
    rw [UInt32.le_iff_toNat_le, hsum, hwaveforms] at hlast
    rw [cutsFrom, if_pos hlast, hwaveforms]
  | case4 sent hsent waveforms hfits hmore ih =>
    have hwaveforms : waveforms.toNat = _ := toNat_inWords size h
    have hsum := toNat_add_of_word hfits
    have hnext : sent + waveforms ≤ total := UInt32.le_of_lt (UInt32.not_le.mp hmore)
    rw [UInt32.le_iff_toNat_le, hsum, hwaveforms] at hmore
    have hcuts : cutsFrom size.toNat total.toNat sent.toNat = ⟨sent.toNat, waveforms.toNat, false⟩ ::
        cutsFrom size.toNat total.toNat (sent.toNat + waveforms.toNat) := by
      rw [cutsFrom, if_neg hmore, hwaveforms]
    rw [ih hnext, hcuts, hsum]
    rfl

/-! ## 2. What the chunks are -/

/-- Only a stream of which nothing is left has an empty cut. -/
theorem empty_of_cutsFrom {size total sent : Nat} (h : sent ≤ total) :
    ∀ cut ∈ cutsFrom size total sent, cut.waveforms = 0 → sent = total ∧ cut.isFinal = true := by
  fun_induction cutsFrom size total sent with
  | case1 sent waveforms hend =>
    have hsize : waveforms = min (max size 1) (total - sent) := rfl
    intro cut hcut hempty
    obtain rfl := List.mem_singleton.mp hcut
    change waveforms = 0 at hempty
    exact ⟨by omega, rfl⟩
  | case2 sent waveforms hend ih =>
    have hsize : waveforms = min (max size 1) (total - sent) := rfl
    refine List.forall_mem_cons.mpr ⟨fun hempty => ?_, fun cut hcut hempty => ?_⟩
    · change waveforms = 0 at hempty
      omega
    · obtain ⟨hnone, -⟩ := ih (by omega) cut hcut hempty
      omega

/-- **Chunks that part a stream** of some waveforms as a request asks for them. -/
structure Partitions (r : ChunkRequest) (total : Nat) (chunks : List ChunkReply) : Prop where
  /-- Each has the request's label and is data. -/
  answers : ∀ chunk ∈ chunks, chunk.label = r.label ∧ chunk.success = true
  /-- None has more waveforms than the request asks for, or than one if it asks for none. -/
  bounded : ∀ chunk ∈ chunks, chunk.waveforms.toNat ≤ max 1 r.chunkSize.toNat
  /-- All together have the waveforms of the stream. -/
  whole : waveformsIn chunks = total
  /-- There is a last one, which says that it is; none before it does. -/
  last : ∃ before final, chunks = before ++ [final] ∧ final.isFinal = true ∧
    ∀ chunk ∈ before, chunk.isFinal = false
  /-- An empty one is the last of an empty stream. -/
  empty : ∀ chunk ∈ chunks, chunk.waveforms = 0 → total = 0 ∧ chunk.isFinal = true
  /-- Their data, put together, is that of the stream. -/
  joined : chunks.flatMap ChunkReply.data = Synthetic.block r.channels 0 total r.samples.toNat
  /-- There are as few of them as their size admits. -/
  count : chunks.length =
    max 1 ((total + max 1 r.chunkSize.toNat - 1) / max 1 r.chunkSize.toNat)

namespace Simulator

/-- **The chunks of a stream part it.** -/
theorem partitions_chunks (r : ChunkRequest) {total : Nat} (htotal : total < UInt32.size) :
    Partitions r total ((cuts r.chunkSize.toNat total).map (chunkReply r)) := by
  have htiles : Tiles (max r.chunkSize.toNat 1) total 0 (cuts r.chunkSize.toNat total) :=
    tiles_cutsFrom (Nat.zero_le total)
  have hcount (cut : Cut) (hcut : cut ∈ cuts r.chunkSize.toNat total) :
      (chunkReply r cut).waveforms.toNat = cut.waveforms := by
    have hwithin := htiles.within cut hcut
    exact UInt32.toNat_ofNat_of_lt' (by omega)
  refine ⟨?_, ?_, ?_, htiles.last_chunk, ?_, ?_, ?_⟩
  · intro chunk hchunk
    obtain ⟨cut, -, rfl⟩ := List.mem_map.mp hchunk
    exact ⟨rfl, rfl⟩
  · intro chunk hchunk
    obtain ⟨cut, hcut, rfl⟩ := List.mem_map.mp hchunk
    rw [hcount cut hcut, Nat.max_comm]
    exact htiles.bounded cut hcut
  · have hwhole := htiles.waveformsIn_eq (r := r) htotal
    rwa [Nat.zero_add] at hwhole
  · intro chunk hchunk hempty
    obtain ⟨cut, hcut, rfl⟩ := List.mem_map.mp hchunk
    have hnone : cut.waveforms = 0 := by
      rw [← hcount cut hcut, hempty]
      rfl
    obtain ⟨htotal, hfinal⟩ := empty_of_cutsFrom (Nat.zero_le total) cut hcut hnone
    exact ⟨htotal.symm, hfinal⟩
  · rw [List.flatMap_map]
    exact htiles.joined r.channels r.samples.toNat
  · rw [List.length_map, Nat.max_comm 1 r.chunkSize.toNat]
    exact length_cutsFrom (Nat.zero_le total)

end Simulator

/-! ## 3. How large a chunk is -/

/-- Every synthetic sample is a large number. -/
theorem Synthetic.le_of_mem_block {channels : List UInt32} {first waveforms samples : Nat} :
    ∀ n ∈ block channels first waveforms samples, 2 ^ 28 ≤ n.toNat := by
  intro n hn
  obtain ⟨number, -, hn⟩ := List.mem_flatMap.mp hn
  obtain ⟨channel, -, hn⟩ := List.mem_flatMap.mp hn
  obtain ⟨place, -, rfl⟩ := List.mem_map.mp hn
  rw [sample, UInt32.toNat_or]
  exact Nat.le_trans (by decide) Nat.left_le_or

/-- A chunk is no shorter than its data. -/
theorem le_length_chunkMessage {chunk : ChunkReply} (h : ∀ n ∈ chunk.data, 2 ^ 28 ≤ n.toNat) :
    5 * chunk.data.length ≤ (chunkMessage chunk).length := by
  by_cases hdata : chunk.data = []
  · rw [hdata]
    exact Nat.zero_le _
  · have hpacked := Wire.le_length_packed h
    have hrecord : (Wire.packed chunk.data).length ≤ (ChunkReply.schema.write chunk).length := by
      simp only [Wire.Schema.write, ChunkReply.schema, List.flatMap_cons, List.flatMap_nil,
        Wire.Field.write, hdata, if_false, Wire.writeDelimitedField, List.length_append]
      omega
    exact Nat.le_trans hpacked (Nat.le_trans hrecord (length_payload_le .chunkReply _))

/-- **Each sample of a chunk takes five octets of its message.** -/
theorem Simulator.le_length_chunkReply (r : ChunkRequest) (cut : Cut) :
    5 * Synthetic.blockSize r.channels cut.waveforms r.samples.toNat ≤
      (chunkMessage (chunkReply r cut)).length := by
  have hlength : (chunkReply r cut).data.length = _ := Synthetic.length_block ..
  rw [← hlength]
  exact le_length_chunkMessage Synthetic.le_of_mem_block

/-! ## 4. Messages one after another -/

/-- Whether a message fits in a frame that is sent. -/
def Connection.fits (c : Connection) (message : Bytes) : Bool :=
  message.length ≤ c.sendLimit ∧ message.length ≤ Frame.maxLength

theorem Connection.fits_iff {c : Connection} {message : Bytes} :
    c.fits message = true ↔ message.length ≤ c.sendLimit ∧ message.length ≤ Frame.maxLength :=
  decide_eq_true_iff

/-- **What becomes of messages that a session sends one after another** on a connection.  Some are sent,
the rest is left, and of the first that is left the device may have taken a part. -/
structure SendsInOrder (c : Connection) (after : SimulatorSession) (messages sent left : List Bytes)
    (part : Bytes) : Prop where
  inOrder : messages = sent ++ left
  accepted : after.link.connection.device.accepted =
    c.device.accepted ++ (messageOctets sent ++ part)
  torn : part <+: messageOctets (left.take 1)
  /-- The session goes on exactly if no message is left. -/
  goesOn : after.ended = none ↔ left = []
  /-- If no write fails for good, what is sent is all up to the first message that is too large, of
  which nothing is taken. -/
  fitting : c.device.Sound → sent = messages.takeWhile c.fits ∧ part = []

/-- What a link does with one message. -/
theorem ServerLink.send_spec {l : ServerLink} (hopen : l.closed = false) (message : Bytes) :
    ∃ result device part,
      l.send message = (result, { l with connection := { l.connection with device := device } }) ∧
      device.accepted = l.connection.device.accepted ++ part ∧
      part <+: (Frame.ofMessage message).octets ∧
      (result = .ok () → part = (Frame.ofMessage message).octets) ∧
      (l.connection.device.Sound → device.Sound ∧
        (result = .ok () ↔ l.connection.fits message = true) ∧ (result ≠ .ok () → part = [])) := by
  obtain ⟨part, left, hoctets, haccepted, hall, -⟩ :=
    l.connection.device.send_octets l.connection.sendLimit (.ofMessage message)
  have hsound := fun h : l.connection.device.Sound =>
    Device.send_of_sound h l.connection.sendLimit (.ofMessage message)
  have hframe : (⟨FrameKind.message, message⟩ : Frame) = .ofMessage message := rfl
  rw [ServerLink.send, if_neg (by simp [hopen]), hframe, Connection.send]
  generalize l.connection.device.send l.connection.sendLimit (.ofMessage message) = outcome
    at haccepted hall hsound ⊢
  obtain ⟨result, device⟩ := outcome
  cases result with
  | ok u =>
    rw [hall rfl, List.append_nil] at hoctets
    refine ⟨.ok (), device, part, rfl, haccepted, ⟨[], ?_⟩, fun _ => hoctets.symm, ?_⟩
    · rw [List.append_nil, hoctets]
    · intro h
      rcases hsound h with ⟨-, hafter, -, hlimit, hmax⟩ | ⟨most, -, -, hrefused⟩
      · have hfits := Connection.fits_iff.mpr ⟨hlimit, hmax⟩
        exact ⟨hafter, iff_of_true rfl hfits, fun hne => absurd rfl hne⟩
      · cases hrefused
  | error e =>
    refine ⟨.error (.send e), device, part, rfl, haccepted, ⟨left, hoctets.symm⟩,
      (fun h => by cases h), ?_⟩
    intro h
    rcases hsound h with ⟨hok, -⟩ | ⟨most, hmost, hlarge, hrefused⟩
    · cases hok
    · obtain ⟨-, rfl⟩ := Prod.mk.inj hrefused
      refine ⟨h, iff_of_false (fun h => by cases h) ?_, fun _ => List.self_eq_append_right.mp haccepted⟩
      intro hfits
      obtain ⟨hlimit, hmax⟩ := Connection.fits_iff.mp hfits
      rcases hmost with rfl | rfl
      · exact absurd hlimit (Nat.not_le.mpr hlarge)
      · exact absurd hmax (Nat.not_le.mpr hlarge)

/-- One more message ahead, which is sent. -/
theorem SendsInOrder.cons {c : Connection} {device : Device} {after : SimulatorSession}
    {message : Bytes} {messages sent left : List Bytes} {part : Bytes}
    (h : SendsInOrder { c with device := device } after messages sent left part)
    (haccepted : device.accepted = c.device.accepted ++ (Frame.ofMessage message).octets)
    (hsound : c.device.Sound → device.Sound ∧ c.fits message = true) :
    SendsInOrder c after (message :: messages) (message :: sent) left part where
  inOrder := congrArg (message :: ·) h.inOrder
  accepted := by
    rw [messageOctets_cons, List.append_assoc, ← List.append_assoc, ← haccepted]
    exact h.accepted
  torn := h.torn
  goesOn := h.goesOn
  fitting := by
    intro hdevice
    obtain ⟨hafter, hfits⟩ := hsound hdevice
    obtain ⟨hsent, hpart⟩ := h.fitting hafter
    refine ⟨?_, hpart⟩
    rw [List.takeWhile_cons_of_pos hfits]
    exact congrArg (message :: ·) hsent

namespace SimulatorSession

variable {s : SimulatorSession}

/-- **Messages are sent in order**, up to the first that the link does not send. -/
theorem sendEach_in_order (hrunning : s.ended = none) (hopen : s.link.closed = false)
    (messages : List Bytes) :
    ∃ sent left part,
      SendsInOrder s.link.connection (sendEach messages s) messages sent left part := by
  induction messages generalizing s with
  | nil =>
    refine ⟨[], [], [], rfl, ?_, List.nil_prefix, iff_of_true hrunning rfl, fun _ => ⟨rfl, rfl⟩⟩
    exact (List.append_nil _).symm
  | cons message messages ih =>
    obtain ⟨result, device, part, hsend, haccepted, hfront, hwhole, hsound⟩ :=
      ServerLink.send_spec hopen message
    rw [sendEach, hsend]
    cases result with
    | ok u =>
      obtain ⟨sent, left, torn, h⟩ :=
        ih (s := s.moved { s.link.connection with device := device } s.stats) hrunning hopen
      rw [hwhole rfl] at haccepted
      refine ⟨message :: sent, left, torn, h.cons haccepted fun hdevice => ?_⟩
      obtain ⟨hafter, hfits, -⟩ := hsound hdevice
      exact ⟨hafter, hfits.mp rfl⟩
    | error e =>
      refine ⟨[], message :: messages, part, rfl, haccepted, ?_, ?_, ?_⟩
      · rw [List.take_succ_cons, List.take_zero, messageOctets_cons]
        exact hfront.trans (List.prefix_append _ _)
      · exact iff_of_false (fun h => by cases h) (List.cons_ne_nil _ _)
      · intro hdevice
        obtain ⟨-, hfits, hnone⟩ := hsound hdevice
        have hlarge : ¬s.link.connection.fits message = true := fun h => by cases hfits.mpr h
        exact ⟨(List.takeWhile_cons_of_neg hlarge).symm, hnone fun h => by cases h⟩

end SimulatorSession

/-- A session that ends before further messages of which the first is too large leaves those, too. -/
theorem SendsInOrder.stopped {c : Connection} {after ended : SimulatorSession}
    {messages sent left more : List Bytes} {part large : Bytes}
    (h : SendsInOrder c after messages sent left part) (hlarge : ¬c.fits large = true)
    (hlink : ended.link = after.link) (hended : ended.ended ≠ none) :
    SendsInOrder c ended (messages ++ large :: more) sent (left ++ large :: more) part where
  inOrder := by rw [h.inOrder, List.append_assoc]
  accepted := by rw [hlink, h.accepted]
  torn := by
    have htorn := h.torn
    cases left with
    | nil =>
      rw [List.prefix_nil.mp htorn]
      exact List.nil_prefix
    | cons first left => exact htorn
  goesOn := iff_of_false hended (List.append_ne_nil_of_right_ne_nil _ (List.cons_ne_nil _ _))
  fitting := by
    intro hdevice
    obtain ⟨hsent, hpart⟩ := h.fitting hdevice
    refine ⟨?_, hpart⟩
    rw [List.takeWhile_append, List.takeWhile_cons_of_neg hlarge, List.append_nil, ← hsent]
    split
    · rename_i hall
      rw [h.inOrder, List.length_append] at hall
      rw [h.inOrder, List.length_eq_zero_iff.mp (by omega : left.length = 0), List.append_nil]
    · rfl

/-! ## 5. A request for chunks -/

/-- The first chunk is as large as a chunk can be. -/
theorem cuts_eq_cons (size total : Nat) :
    ∃ first rest, cuts size total = first :: rest ∧ first.waveforms = min (max size 1) total := by
  rw [cuts, cutsFrom]
  split
  · exact ⟨_, [], rfl, rfl⟩
  · exact ⟨_, _, rfl, rfl⟩

namespace Simulator

/-- How many waveforms a stream has, as a word. -/
def total (s : Simulator) (r : ChunkRequest) : UInt32 :=
  min (s.deliverLimit.getD r.waveforms) r.waveforms

theorem streamed_eq (s : Simulator) (r : ChunkRequest) : s.streamed r = (s.total r).toNat := by
  unfold streamed total
  cases s.deliverLimit with
  | none => rw [Option.getD_none, UInt32.toNat_min, Nat.min_self]
  | some limit => rw [Option.getD_some, UInt32.toNat_min]

theorem answer_of_chunkRequest (s : Simulator) {message : Bytes} {e : Envelope} {r : ChunkRequest}
    (hdecode : Envelope.decode message = .ok e) (hkind : e.kind = .chunkRequest)
    (hrecord : e.record ChunkRequest.schema = .ok r) (stats : SessionStats) :
    s.answer message stats = s.answerChunks r { stats with requests := stats.requests + 1 } := by
  obtain ⟨kind, payload⟩ := e
  obtain rfl : kind = .chunkRequest := hkind
  rw [answer, hdecode]
  simp only [answerEnvelope, hrecord]

end Simulator

namespace SimulatorSession

variable {s : SimulatorSession} {message : Bytes} {e : Envelope} {r : ChunkRequest}

/-- A session is over after a crash, if it was not before, and its link is as it was. -/
theorem ended_of_crash (s : SimulatorSession) :
    (if true && s.ended.isNone then s.finish .crashed else s).link = s.link ∧
      (if true && s.ended.isNone then s.finish .crashed else s).ended ≠ none := by
  cases hended : s.ended with
  | none => simp [finish]
  | some how => simp [hended]

/-- **What becomes of the messages of a stream.** -/
theorem respond_in_order (hrunning : s.ended = none) (hopen : s.link.closed = false)
    (hdecode : Envelope.decode message = .ok e) (hkind : e.kind = .chunkRequest)
    (hrecord : e.record ChunkRequest.schema = .ok r)
    (hallowed : s.simulator.refusal r.channels = none) :
    ∃ sent left part, SendsInOrder s.link.connection (s.respond message)
      (Simulator.streamMessages s.simulator.noise
        ((s.simulator.streamCuts r).map (Simulator.chunkReply r))) sent left part := by
  obtain ⟨stats, hanswer⟩ : ∃ stats, s.simulator.answer message s.stats =
      s.simulator.answerChunks r stats :=
    ⟨_, s.simulator.answer_of_chunkRequest hdecode hkind hrecord s.stats⟩
  have hsend (messages : List Bytes) := sendEach_in_order
    (s := { s with stats := (s.simulator.answerChunks r stats).stats }) hrunning hopen messages
  rw [respond, hanswer]
  by_cases hsmall : Synthetic.blockSize r.channels
      (min (max r.chunkSize.toNat 1) (s.simulator.streamed r)) r.samples.toNat < Synthetic.capacity
  · obtain ⟨hmessages, hcrashes⟩ := s.simulator.answerChunks_of_small hallowed hsmall stats
    rw [hmessages, hcrashes, s.simulator.flatMap_chunkMessages]
    exact hsend _
  · have hlarge := Nat.le_of_not_lt hsmall
    obtain ⟨hmessages, hcrashes⟩ := s.simulator.answerChunks_of_large hallowed hlarge stats
    obtain ⟨first, rest, hcuts, hfirst⟩ := cuts_eq_cons r.chunkSize.toNat (s.simulator.streamed r)
    obtain ⟨sent, left, part, h⟩ := hsend (Simulator.ahead s.simulator.noise)
    rw [hmessages, hcrashes, Simulator.streamCuts, hcuts, List.map_cons, Simulator.streamMessages_cons]
    -- what no block can hold is too large for any frame
    have hunfit : ¬s.link.connection.fits (chunkMessage (Simulator.chunkReply r first)) = true := by
      have hlength := Simulator.le_length_chunkReply r first
      rw [hfirst] at hlength
      rw [Connection.fits_iff, Frame.maxLength]
      rw [Synthetic.capacity] at hlarge
      omega
    obtain ⟨hlink, hended⟩ := ended_of_crash (sendEach (Simulator.ahead s.simulator.noise)
      { s with stats := (s.simulator.answerChunks r stats).stats })
    exact ⟨sent, _, part, h.stopped hunfit hlink hended⟩

/-- **A stream is parted into chunks, which are sent as far as they fit.**  This is for a session that
goes on, on a link that is open, and a message that is understood as a request for chunks of known
channels, of which there is one at least, from a device that was not told to refuse.  The request may
ask for any number of waveforms and samples and for chunks of any size, zero among them, and the device
may have any limit. -/
theorem stream_partitioned (hrunning : s.ended = none) (hopen : s.link.closed = false)
    (hdecode : Envelope.decode message = .ok e) (hkind : e.kind = .chunkRequest)
    (hrecord : e.record ChunkRequest.schema = .ok r) (hsome : r.channels ≠ [])
    (hrange : ∀ c ∈ r.channels, c ≤ maxChannel) (hallowed : s.simulator.failWith = none) :
    let total : UInt32 := min (s.simulator.deliverLimit.getD r.waveforms) r.waveforms
    ∃ cuts, cutsInWords r.chunkSize total 0 = some cuts ∧
      (∀ cut ∈ cuts, cut.first + cut.waveforms ≤ total.toNat) ∧
      Partitions r total.toNat (cuts.map (Simulator.chunkReply r)) ∧
      ∃ sent left part, SendsInOrder s.link.connection (s.respond message)
        (Simulator.streamMessages s.simulator.noise (cuts.map (Simulator.chunkReply r))) sent left
        part := by
  intro total
  have hcuts : s.simulator.streamCuts r = cuts r.chunkSize.toNat total.toNat := by
    rw [Simulator.streamCuts, Simulator.streamed_eq]
    rfl
  have htiles : Tiles (max r.chunkSize.toNat 1) total.toNat 0 (cuts r.chunkSize.toNat total.toNat) :=
    tiles_cutsFrom (Nat.zero_le _)
  refine ⟨cuts r.chunkSize.toNat total.toNat, cutsInWords_eq UInt32.zero_le, htiles.within,
    Simulator.partitions_chunks r total.toNat_lt, ?_⟩
  rw [← hcuts]
  exact respond_in_order hrunning hopen hdecode hkind hrecord
    (s.simulator.refusal_of_known hallowed hsome hrange)

/-- A request for a few channels, with a short label, is understood as it was meant. -/
theorem understood_chunkRequest (hlabel : Text.Utf8.length r.label ≤ 512)
    (hchannels : r.channels.length ≤ 64) :
    Envelope.decode (Envelope.encodeRecord .chunkRequest ChunkRequest.schema r) =
        .ok ⟨.chunkRequest, ChunkRequest.schema.write r⟩ ∧
      Envelope.record ⟨.chunkRequest, ChunkRequest.schema.write r⟩ ChunkRequest.schema = .ok r := by
  have hlength := length_chunkRequest_le r
  have hfits : (Envelope.encodeRecord .chunkRequest ChunkRequest.schema r).length < Word.size := by
    rw [Word.size]
    omega
  exact ⟨decode_encode (by decide) hfits, record_encodeRecord ChunkRequest.lawful hfits⟩

/-- A session on a connection on which nothing has happened. -/
def fresh (simulator : Simulator) : SimulatorSession :=
  { simulator := simulator, link := ⟨"reader", "session-1", .opened, false⟩ }

/-- Five waveforms are asked for in chunks of two, and three delivered. -/
theorem stream_partitioned_three :
    let s : SimulatorSession := fresh { deliverLimit := some 3, noise := true }
    let r : ChunkRequest :=
      { label := "r", channels := [0, 39], samples := 2, waveforms := 5, chunkSize := 2 }
    let message := Envelope.encodeRecord .chunkRequest ChunkRequest.schema r
    s.ended = none ∧ s.link.closed = false ∧
      Envelope.decode message = .ok ⟨.chunkRequest, ChunkRequest.schema.write r⟩ ∧
      Envelope.record ⟨.chunkRequest, ChunkRequest.schema.write r⟩ ChunkRequest.schema = .ok r ∧
      r.channels ≠ [] ∧ (∀ c ∈ r.channels, c ≤ maxChannel) ∧ s.simulator.failWith = none ∧
      ∃ cuts, cutsInWords r.chunkSize 3 0 = some cuts ∧
        Partitions r 3 (cuts.map (Simulator.chunkReply r)) := by
  intro s r message
  obtain ⟨hdecode, hrecord⟩ := understood_chunkRequest (r := r) (by decide) (by decide)
  have hsome : r.channels ≠ [] := List.cons_ne_nil _ _
  have hrange : ∀ c ∈ r.channels, c ≤ maxChannel :=
    List.forall_mem_cons.mpr ⟨by decide, List.forall_mem_singleton.mpr (by decide)⟩
  obtain ⟨cuts, hcuts, -, hparts, -⟩ :=
    stream_partitioned (s := s) rfl rfl hdecode rfl hrecord hsome hrange rfl
  exact ⟨rfl, rfl, hdecode, hrecord, hsome, hrange, rfl, cuts, hcuts, hparts⟩

/-- **A chunk that is too large for a frame is not sent**: of the one chunk that answers this request,
which could be refused neither for its channels nor by order, no octet reaches the client, and the
session ends. -/
theorem large_chunk_unsent :
    let s : SimulatorSession := fresh {}
    let r : ChunkRequest :=
      { label := "big", channels := [0], samples := 13421773, waveforms := 1, chunkSize := 1 }
    let message := Envelope.encodeRecord .chunkRequest ChunkRequest.schema r
    Envelope.decode message = .ok ⟨.chunkRequest, ChunkRequest.schema.write r⟩ ∧
      Envelope.record ⟨.chunkRequest, ChunkRequest.schema.write r⟩ ChunkRequest.schema = .ok r ∧
      r.channels ≠ [] ∧ (∀ c ∈ r.channels, c ≤ maxChannel) ∧ s.simulator.failWith = none ∧
      (s.respond message).link.connection.device.accepted = [] ∧ (s.respond message).ended ≠ none := by
  intro s r message
  obtain ⟨hdecode, hrecord⟩ := understood_chunkRequest (r := r) (by decide) (by decide)
  have hsome : r.channels ≠ [] := List.cons_ne_nil _ _
  have hrange : ∀ c ∈ r.channels, c ≤ maxChannel := List.forall_mem_singleton.mpr (by decide)
  refine ⟨hdecode, hrecord, hsome, hrange, rfl, ?_⟩
  obtain ⟨sent, left, part, h⟩ := respond_in_order (s := s) rfl rfl hdecode rfl hrecord
    (s.simulator.refusal_of_known rfl hsome hrange)
  obtain ⟨first, rest, hcuts, hfirst⟩ := cuts_eq_cons r.chunkSize.toNat (s.simulator.streamed r)
  have hunfit : ¬s.link.connection.fits (chunkMessage (Simulator.chunkReply r first)) = true := by
    have hlength := Simulator.le_length_chunkReply r first
    rw [hfirst] at hlength
    have hsize : 5 * Synthetic.blockSize r.channels
        (min (max r.chunkSize.toNat 1) (s.simulator.streamed r)) r.samples.toNat = 67108865 := by
      decide +kernel
    have hlimit : s.link.connection.sendLimit = 67108864 := rfl
    rw [Connection.fits_iff]
    omega
  have hahead : Simulator.ahead s.simulator.noise = [] := rfl
  rw [Simulator.streamCuts, hcuts, List.map_cons, Simulator.streamMessages_cons, hahead,
    List.nil_append] at h
  obtain ⟨hsent, hpart⟩ := h.fitting Device.sound_default
  rw [List.takeWhile_cons_of_neg hunfit] at hsent
  refine ⟨by rw [h.accepted, hsent, hpart]; rfl, fun hgoes => ?_⟩
  have horder := h.inOrder
  rw [hsent, h.goesOn.mp hgoes] at horder
  cases horder

end SimulatorSession

end Readout

/-
# Requests that are too much for a device

A simulated device checks little of a request: that it names channels and that these are known.  Then it counts
the samples of a block in words, channels times waveforms times samples, and makes room for them.  The counts
are two words of 32 bits; the channels may be named any number of times, but each name takes an octet of the
message.  So the first product is always a word, and the whole one is a word if one channel is named.  With two
it need not be (`BlockShape.sizeInWords?_eq`, `Simulator.LaysOut.lt_size_of_single`).

A block that cannot be counted is too large for any memory, as smaller ones are, and nothing recovers from
that: the device is gone, and with it the clients that wait.  This file says exactly for which requests
(`Simulator.answer_crashes_iff`), in which sessions (`SimulatorSession.run_crashed_iff`) and for which clients
(`Simulator.serve_getElem?_eq_some_iff`).

* `Simulator.serves_until_overtaxed` -- all of this;
* `Simulator.doubled_channel_ends_service` -- a request of two channels whose block cannot be counted, and the
  client behind it.
-/
import Readout.Proofs.Passage
import Readout.Proofs.RecordSizes
import Readout.Simulator.Service

namespace Readout

open Control

/-! ## 1. Blocks -/

/-- The shape of a block of samples. -/
structure BlockShape where
  channels : List UInt32
  waveforms : Nat
  samples : Nat
  deriving DecidableEq, Repr

namespace BlockShape

variable {b : BlockShape}

/-- How many samples the block has. -/
def size (b : BlockShape) : Nat := Synthetic.blockSize b.channels b.waveforms b.samples

/-- The same as it is computed in words; `none` if one of the products is not a word. -/
def sizeInWords? (b : BlockShape) : Option Nat :=
  (Word.mul? b.channels.length b.waveforms).bind fun rows => Word.mul? rows b.samples

/-- **Only the last product can leave the words**, where fewer channels are named than a message can. -/
theorem sizeInWords?_eq (hchannels : b.channels.length ≤ Frame.maxLength)
    (hwaveforms : b.waveforms < UInt32.size) :
    b.sizeInWords? = if b.size < Word.size then some b.size else none := by
  have hrows : b.channels.length * b.waveforms < Word.size := by
    calc b.channels.length * b.waveforms
        ≤ Frame.maxLength * b.waveforms := Nat.mul_le_mul_right _ hchannels
      _ < Word.size := by
        rw [Frame.maxLength, Word.size]
        rw [UInt32.size] at hwaveforms
        omega
  rw [sizeInWords?, Word.mul?_eq_some_iff.mpr ⟨rfl, hrows⟩]
  rfl

end BlockShape

namespace Simulator

/-- The device lays out a block of this shape when it answers the message: a dump that it lets through has one,
a stream one for each chunk. -/
inductive LaysOut (s : Simulator) (message : Bytes) : BlockShape → Prop
  | whole {e : Envelope} {r : DumpRequest} (decoded : Envelope.decode message = .ok e)
      (kind : e.kind = .dump) (record : e.record DumpRequest.schema = .ok r)
      (allowed : s.refusal r.channels = none) :
      LaysOut s message ⟨r.channels, r.waveforms.toNat, r.samples.toNat⟩
  | chunk {e : Envelope} {r : ChunkRequest} {cut : Cut} (decoded : Envelope.decode message = .ok e)
      (kind : e.kind = .chunkRequest) (record : e.record ChunkRequest.schema = .ok r)
      (allowed : s.refusal r.channels = none) (mem : cut ∈ s.streamCuts r) :
      LaysOut s message ⟨r.channels, cut.waveforms, r.samples.toNat⟩

variable {s : Simulator} {message : Bytes} {b : BlockShape}

/-- No chunk has more waveforms than the first. -/
theorem waveforms_le_of_mem_streamCuts {r : ChunkRequest} {cut : Cut} (h : cut ∈ s.streamCuts r) :
    cut.waveforms ≤ min (max r.chunkSize.toNat 1) (s.streamed r) := by
  have htiles : Tiles (max r.chunkSize.toNat 1) (s.streamed r) 0 (s.streamCuts r) :=
    tiles_cutsFrom (Nat.zero_le _)
  have hbounded := htiles.bounded cut h
  have hwithin := htiles.within cut h
  omega

theorem LaysOut.length_channels_le (h : s.LaysOut message b) : b.channels.length ≤ message.length := by
  cases h with
  | whole decoded kind record allowed => exact length_channels_of_dump decoded record
  | chunk decoded kind record allowed mem => exact length_channels_of_chunkRequest decoded record

theorem LaysOut.waveforms_lt (h : s.LaysOut message b) : b.waveforms < UInt32.size := by
  cases h with
  | @whole e r decoded kind record allowed => exact r.waveforms.toNat_lt
  | @chunk e r cut decoded kind record allowed mem =>
    have hcut := waveforms_le_of_mem_streamCuts mem
    have htotal := (s.total r).toNat_lt
    rw [streamed_eq] at hcut
    show cut.waveforms < UInt32.size
    rw [UInt32.size]
    omega

theorem LaysOut.samples_lt (h : s.LaysOut message b) : b.samples < UInt32.size := by
  cases h with
  | @whole e r decoded kind record allowed => exact r.samples.toNat_lt
  | @chunk e r cut decoded kind record allowed mem => exact r.samples.toNat_lt

/-- **The block of one channel can be counted**, whatever the counts. -/
theorem LaysOut.lt_size_of_single (h : s.LaysOut message b) (hsingle : b.channels.length ≤ 1) :
    b.size < Word.size := by
  have hwaveforms := Nat.le_sub_one_of_lt h.waveforms_lt
  have hsamples := Nat.le_sub_one_of_lt h.samples_lt
  calc b.size = b.channels.length * b.waveforms * b.samples := rfl
    _ ≤ 1 * (UInt32.size - 1) * (UInt32.size - 1) :=
      Nat.mul_le_mul (Nat.mul_le_mul hsingle hwaveforms) hsamples
    _ < Word.size := by decide

/-! ## 2. Answers -/

theorem answerDump_crashes_iff {r : DumpRequest} {stats : SessionStats} :
    (s.answerDump r stats).crashes = true ↔ s.refusal r.channels = none ∧
      Synthetic.capacity ≤ (⟨r.channels, r.waveforms.toNat, r.samples.toNat⟩ : BlockShape).size := by
  cases hrefusal : s.refusal r.channels with
  | some text => simp [(s.answerDump_of_refusal hrefusal stats).2]
  | none =>
    by_cases hlarge : Synthetic.capacity ≤
        Synthetic.blockSize r.channels r.waveforms.toNat r.samples.toNat
    · have hcrash : (s.answerDump r stats).crashes = true := by
        rw [answerDump, hrefusal]
        simp only [if_pos hlarge]
      exact iff_of_true hcrash ⟨rfl, hlarge⟩
    · have hsmall := s.answerDump_of_small hrefusal (Nat.lt_of_not_le hlarge) stats
      simp [hsmall.2, BlockShape.size, hlarge]

/-- A stream is given up if one of its chunks is too large, as the first is then. -/
theorem answerChunks_crashes_iff {r : ChunkRequest} {stats : SessionStats} :
    (s.answerChunks r stats).crashes = true ↔ s.refusal r.channels = none ∧
      ∃ cut ∈ s.streamCuts r,
        Synthetic.capacity ≤ (⟨r.channels, cut.waveforms, r.samples.toNat⟩ : BlockShape).size := by
  cases hrefusal : s.refusal r.channels with
  | some text => simp [(s.answerChunks_of_refusal hrefusal stats).2]
  | none =>
    obtain ⟨first, rest, hcuts, hfirst⟩ := cuts_eq_cons r.chunkSize.toNat (s.streamed r)
    by_cases hlarge : Synthetic.capacity ≤ Synthetic.blockSize r.channels
        (min (max r.chunkSize.toNat 1) (s.streamed r)) r.samples.toNat
    · have hmem : first ∈ s.streamCuts r := by
        rw [streamCuts, hcuts]
        exact List.mem_cons_self
      rw [← hfirst] at hlarge
      exact iff_of_true (s.answerChunks_of_large hrefusal (hfirst ▸ hlarge) stats).2
        ⟨rfl, first, hmem, hlarge⟩
    · have hsmall := Nat.lt_of_not_le hlarge
      refine iff_of_false (by simp [(s.answerChunks_of_small hrefusal hsmall stats).2]) ?_
      rintro ⟨-, cut, hmem, hcut⟩
      refine hlarge (Nat.le_trans hcut ?_)
      exact Nat.mul_le_mul_right _ (Nat.mul_le_mul_left _ (waveforms_le_of_mem_streamCuts hmem))

theorem answer_of_dump (s : Simulator) {e : Envelope} {r : DumpRequest}
    (hdecode : Envelope.decode message = .ok e) (hkind : e.kind = .dump)
    (hrecord : e.record DumpRequest.schema = .ok r) (stats : SessionStats) :
    s.answer message stats = s.answerDump r { stats with requests := stats.requests + 1 } := by
  obtain ⟨kind, payload⟩ := e
  obtain rfl : kind = .dump := hkind
  rw [answer, hdecode]
  simp only [answerEnvelope, hrecord]

/-- **A device does not survive a message exactly if one of the blocks it lays out has no room.** -/
theorem answer_crashes_iff {stats : SessionStats} :
    (s.answer message stats).crashes = true ↔ ∃ b, s.LaysOut message b ∧ Synthetic.capacity ≤ b.size := by
  constructor
  · intro h
    cases hdecode : Envelope.decode message with
    | error flaw =>
      rw [answer, hdecode] at h
      cases h
    | ok e =>
      cases hkind : e.kind with
      | dump =>
        cases hrecord : e.record DumpRequest.schema with
        | error flaw => simp [answer, hdecode, answerEnvelope, hkind, hrecord] at h
        | ok r =>
          rw [s.answer_of_dump hdecode hkind hrecord, answerDump_crashes_iff] at h
          exact ⟨_, .whole hdecode hkind hrecord h.1, h.2⟩
      | chunkRequest =>
        cases hrecord : e.record ChunkRequest.schema with
        | error flaw => simp [answer, hdecode, answerEnvelope, hkind, hrecord] at h
        | ok r =>
          rw [s.answer_of_chunkRequest hdecode hkind hrecord, answerChunks_crashes_iff] at h
          obtain ⟨hallowed, cut, hmem, hlarge⟩ := h
          exact ⟨_, .chunk hdecode hkind hrecord hallowed hmem, hlarge⟩
      | _ => simp [answer, hdecode, answerEnvelope, hkind] at h
  · rintro ⟨b, hblock, hlarge⟩
    cases hblock with
    | whole decoded kind record allowed =>
      rw [s.answer_of_dump decoded kind record, answerDump_crashes_iff]
      exact ⟨allowed, hlarge⟩
    | chunk decoded kind record allowed mem =>
      rw [s.answer_of_chunkRequest decoded kind record, answerChunks_crashes_iff]
      exact ⟨allowed, _, mem, hlarge⟩

end Simulator

/-! ## 3. Sessions -/

/-- A frame that is received can be said, and there is less to come behind it. -/
theorem Connection.of_receive?_frame {c c' : Connection} {f : Frame} (h : c.receive? = some (.ok f, c')) :
    f.payload.length ≤ Frame.maxLength ∧ c'.pending < c.pending := by
  have hreceived := c.received
  rw [h] at hreceived
  cases hreceived with
  | frame buffer reads readable octets ending outstanding suffix shorter =>
    have hlength := f.length_octets
    unfold Frame.headerSize at hlength
    exact ⟨readable.sayable, by omega⟩

theorem Connection.ended_of_receive? {c c' : Connection} {result : Except FrameError Frame}
    (h : c.receive? = some (result, c')) : c'.ended = c.ended := by
  obtain ⟨buffer, reads, hread⟩ := Connection.eq_read_of_receive? h
  rw [hread]
  rfl

/-- Nothing is received only while something may still come. -/
theorem Connection.ended_of_receive?_eq_none {c : Connection} (h : c.receive? = none) : c.ended = false := by
  have hreceived := c.received
  rw [h] at hreceived
  cases hreceived with
  | nothing decoded ending =>
    obtain ⟨hafter, -⟩ := Inflow.safe_of_ending_eq_none ending
    cases hended : c.ended with
    | false => rfl
    | true => simp [hended] at hafter

namespace ServerLink

theorem ended_of_receiveSteps {fuel : Nat} {l l' : ServerLink} {result : Except LinkError (Option Bytes)}
    (h : l.receiveSteps fuel = some (result, l')) : l'.connection.ended = l.connection.ended := by
  obtain ⟨⟨buffer, reads, hread⟩, -⟩ := read_of_receiveSteps h
  rw [hread]
  rfl

/-- A message that is got is the payload of a frame, and there is less to come behind it. -/
theorem of_receiveSteps_message {fuel : Nat} {l l' : ServerLink} {message : Bytes}
    (h : l.receiveSteps fuel = some (.ok (some message), l')) :
    message.length ≤ Frame.maxLength ∧ l'.connection.pending < l.connection.pending := by
  induction fuel generalizing l with
  | zero => cases h
  | succ fuel ih =>
    rw [receiveSteps] at h
    split at h
    · cases h
    · cases hreceive : l.connection.receive? with
      | none =>
        rw [hreceive] at h
        cases h
      | some received =>
        obtain ⟨e | f, c⟩ := received
        · rw [hreceive] at h
          cases e <;> cases h
        · obtain ⟨hpayload, hshorter⟩ := Connection.of_receive?_frame hreceive
          simp only [hreceive] at h
          split at h
          · cases h
            exact ⟨hpayload, hshorter⟩
          · split at h
            · cases h
            · obtain ⟨hfits, hless⟩ := ih h
              exact ⟨hfits, Nat.lt_trans hless hshorter⟩

/-- A link whose client is gone is never silent. -/
theorem receiveSteps_isSome {fuel : Nat} {l : ServerLink} (hended : l.connection.ended = true)
    (hfuel : l.connection.pending < fuel) : ∃ received, l.receiveSteps fuel = some received := by
  induction fuel generalizing l with
  | zero => cases hfuel
  | succ fuel ih =>
    rw [receiveSteps]
    split
    · exact ⟨_, rfl⟩
    · cases hreceive : l.connection.receive? with
      | none => cases hended.symm.trans (Connection.ended_of_receive?_eq_none hreceive)
      | some received =>
        obtain ⟨e | f, c⟩ := received
        · cases e <;> exact ⟨_, rfl⟩
        · have hkept := Connection.ended_of_receive? hreceive
          obtain ⟨-, hshorter⟩ := Connection.of_receive?_frame hreceive
          simp only
          split
          · exact ⟨_, rfl⟩
          · split
            · exact ⟨_, rfl⟩
            · exact ih (hkept.trans hended) (Nat.lt_of_lt_of_le hshorter (Nat.le_of_lt_succ hfuel))

end ServerLink

namespace SimulatorSession

variable {s t : SimulatorSession} {message : Bytes}

/-- Sending changes the device, and may end the session, but not with a crash. -/
theorem sendEach_spec (messages : List Bytes) (s : SimulatorSession) :
    (∃ device, (sendEach messages s).link =
        { s.link with connection := { s.link.connection with device := device } }) ∧
      (sendEach messages s).simulator = s.simulator ∧
      (s.ended = none → (sendEach messages s).ended ≠ some .crashed) := by
  induction messages generalizing s with
  | nil => exact ⟨⟨_, rfl⟩, rfl, fun h hcrash => by cases h.symm.trans hcrash⟩
  | cons message messages ih =>
    obtain ⟨device, hdevice⟩ := s.link.send_snd message
    rw [sendEach]
    generalize s.link.send message = outcome at hdevice
    obtain ⟨_ | ⟨⟩, link⟩ := outcome
    · exact ⟨⟨device, hdevice⟩, rfl, fun h hcrash => by cases hcrash⟩
    · obtain ⟨⟨device', hlink⟩, hsimulator, hended⟩ := ih { s with link := link }
      obtain rfl : link = _ := hdevice
      exact ⟨⟨device', hlink⟩, hsimulator, hended⟩

/-- What a session has counted does not matter for what it sends. -/
theorem sendEach_stats (messages : List Bytes) (s : SimulatorSession) (stats : SessionStats) :
    sendEach messages { s with stats := stats } = { sendEach messages s with stats := stats } := by
  induction messages generalizing s with
  | nil => rfl
  | cons message messages ih =>
    rw [sendEach, sendEach]
    generalize s.link.send message = outcome
    obtain ⟨_ | ⟨⟩, link⟩ := outcome
    · rfl
    · exact ih { s with link := link }

/-- A message asks for a block that has no room, and the device gets as far as that block: what goes ahead
of it is sent. -/
def Overwhelmed (s : SimulatorSession) (message : Bytes) : Prop :=
  (∃ b, s.simulator.LaysOut message b ∧ Synthetic.capacity ≤ b.size) ∧
    (sendEach (s.simulator.replies message) s).ended = none

/-- **A session does not survive a message exactly if it is overwhelmed by it.** -/
theorem respond_spec (hrunning : s.ended = none) (message : Bytes) :
    (∃ device, (s.respond message).link =
        { s.link with connection := { s.link.connection with device := device } }) ∧
      ((s.respond message).ended = some .crashed ↔ s.Overwhelmed message) := by
  obtain ⟨hmessages, -⟩ := s.simulator.answer_regardless message s.stats
  obtain ⟨⟨device, hlink⟩, -, hended⟩ := sendEach_spec (s.simulator.replies message) s
  have hcrashes : (s.simulator.answer message s.stats).crashes = true ↔ _ :=
    s.simulator.answer_crashes_iff
  rw [respond, hmessages]
  simp only [sendEach_stats]
  by_cases hcrash : (s.simulator.answer message s.stats).crashes = true
  · rw [hcrash]
    by_cases hsent : (sendEach (s.simulator.replies message) s).ended = none
    · rw [if_pos (by simp [hsent])]
      exact ⟨⟨device, hlink⟩, iff_of_true rfl ⟨hcrashes.mp hcrash, hsent⟩⟩
    · have hover : (sendEach (s.simulator.replies message) s).ended.isNone = false :=
        Bool.eq_false_of_not_eq_true fun hnone => hsent (Option.isNone_iff_eq_none.mp hnone)
      rw [if_neg (by simp [hover])]
      exact ⟨⟨device, hlink⟩, iff_of_false (hended hrunning) fun h => hsent h.2⟩
  · rw [if_neg (by simp [hcrash])]
    exact ⟨⟨device, hlink⟩, iff_of_false (hended hrunning) fun h => hcrash (hcrashes.mpr h.1)⟩

/-- A session gets to a message: it has read it, after it has answered all that came before. -/
inductive Meets (message : Bytes) : SimulatorSession → SimulatorSession → Prop
  | next {s : SimulatorSession} {link : ServerLink} (running : s.ended = none)
      (received : s.link.receive? = some (.ok (some message), link)) :
      Meets message s { s with link := link }
  | later {s t : SimulatorSession} {link : ServerLink} {earlier : Bytes} (running : s.ended = none)
      (received : s.link.receive? = some (.ok (some earlier), link))
      (rest : Meets message (respond { s with link := link } earlier) t) : Meets message s t

/-- The session gets to a message by which it is overwhelmed. -/
def Overtaxed (s : SimulatorSession) : Prop := ∃ message t, Meets message s t ∧ t.Overwhelmed message

theorem Meets.running (h : Meets message s t) : s.ended = none := by
  cases h <;> assumption

/-- A frame carries what a session gets. -/
theorem Meets.length_le (h : Meets message s t) : message.length ≤ Frame.maxLength := by
  induction h with
  | next running received => exact (ServerLink.of_receiveSteps_message received).1
  | later running received rest ih => exact ih

/-- A session that meets a message is overtaxed by it or by what comes behind it. -/
theorem overtaxed_of_message {link : ServerLink} (hrunning : s.ended = none)
    (hreceive : s.link.receive? = some (.ok (some message), link)) :
    s.Overtaxed ↔ ({ s with link := link } : SimulatorSession).Overwhelmed message ∨
      (respond { s with link := link } message).Overtaxed := by
  constructor
  · rintro ⟨other, t, hmeets, hoverwhelmed⟩
    cases hmeets with
    | next _ received =>
      cases hreceive.symm.trans received
      exact Or.inl hoverwhelmed
    | later _ received rest =>
      cases hreceive.symm.trans received
      exact Or.inr ⟨other, t, rest, hoverwhelmed⟩
  · rintro (hoverwhelmed | ⟨other, t, hmeets, hoverwhelmed⟩)
    · exact ⟨message, _, .next hrunning hreceive, hoverwhelmed⟩
    · exact ⟨other, t, .later hrunning hreceive hmeets, hoverwhelmed⟩

/-- One without a message is not overtaxed. -/
theorem not_overtaxed (h : ∀ message link, s.link.receive? ≠ some (.ok (some message), link)) :
    ¬s.Overtaxed := by
  rintro ⟨message, t, hmeets, -⟩
  cases hmeets with
  | next _ received => exact h _ _ received
  | later _ received _ => exact h _ _ received

theorem runSteps_of_ended {fuel : Nat} (h : s.ended ≠ none) : s.runSteps fuel = s := by
  cases fuel with
  | zero => rfl
  | succ fuel => rw [runSteps, if_pos (Option.isSome_iff_ne_none.mpr h)]

/-- **A session crashes exactly if it gets to a message by which it is overwhelmed.**  The induction is on the
steps, of which there are more than frames that can still be read. -/
theorem runSteps_crashed_iff {fuel : Nat} (hrunning : s.ended = none)
    (hfuel : s.link.connection.pending < fuel) :
    (s.runSteps fuel).ended = some .crashed ↔ s.Overtaxed := by
  induction fuel generalizing s with
  | zero => cases hfuel
  | succ fuel ih =>
    rw [runSteps, if_neg (by simp [hrunning])]
    cases hreceive : s.link.receive? with
    | none =>
      refine iff_of_false (by simp [hrunning]) (not_overtaxed fun message link h => ?_)
      cases hreceive.symm.trans h
    | some received =>
      obtain ⟨e | _ | message, link⟩ := received
      · refine iff_of_false (by simp [finish]) (not_overtaxed fun message link h => ?_)
        cases hreceive.symm.trans h
      · refine iff_of_false (by simp [finish]) (not_overtaxed fun message link h => ?_)
        cases hreceive.symm.trans h
      · obtain ⟨-, hshorter⟩ := ServerLink.of_receiveSteps_message hreceive
        obtain ⟨⟨device, hlink⟩, hcrashed⟩ := respond_spec (s := { s with link := link }) hrunning message
        rw [overtaxed_of_message hrunning hreceive, ← hcrashed]
        show ((respond { s with link := link } message).runSteps fuel).ended = some .crashed ↔ _
        by_cases hgoes : (respond { s with link := link } message).ended = none
        · have hpending : (respond { s with link := link } message).link.connection.pending < fuel := by
            rw [hlink]
            exact Nat.lt_of_lt_of_le hshorter (Nat.le_of_lt_succ hfuel)
          rw [ih hgoes hpending, hgoes]
          exact (or_iff_right (by simp)).symm
        · have hover : ¬(respond { s with link := link } message).Overtaxed := by
            rintro ⟨other, t, hmeets, -⟩
            exact hgoes hmeets.running
          rw [runSteps_of_ended hgoes]
          exact (or_iff_left hover).symm

theorem run_crashed_iff (hrunning : s.ended = none) : s.run.ended = some .crashed ↔ s.Overtaxed :=
  runSteps_crashed_iff hrunning (Nat.lt_succ_self _)

/-- **A session ends when its client is gone.** -/
theorem runSteps_ends {fuel : Nat} (hgone : s.link.connection.ended = true)
    (hfuel : s.link.connection.pending < fuel) : ∃ how, (s.runSteps fuel).ended = some how := by
  induction fuel generalizing s with
  | zero => cases hfuel
  | succ fuel ih =>
    cases hended : s.ended with
    | some how =>
      rw [runSteps_of_ended (by simp [hended])]
      exact ⟨how, hended⟩
    | none =>
      obtain ⟨⟨result, link⟩, hreceive⟩ :=
        ServerLink.receiveSteps_isSome hgone (Nat.lt_succ_self s.link.connection.pending)
      have hkept := ServerLink.ended_of_receiveSteps hreceive
      have hreceived : s.link.receive? = some (result, link) := hreceive
      rw [runSteps, if_neg (by simp [hended]), hreceived]
      obtain e | _ | message := result
      · exact ⟨_, rfl⟩
      · exact ⟨_, rfl⟩
      · obtain ⟨-, hshorter⟩ := ServerLink.of_receiveSteps_message hreceive
        obtain ⟨⟨device, hlink⟩, -⟩ := respond_spec (s := { s with link := link }) hended message
        refine ih ?_ ?_
        · rw [hlink]
          exact hkept.trans hgone
        · rw [hlink]
          exact Nat.lt_of_lt_of_le hshorter (Nat.le_of_lt_succ hfuel)

end SimulatorSession

/-! ## 4. Clients one after the other -/

theorem Link.ended_awaitHello (config : Link.HandshakeConfig) (elapsed : Nat → Duration) (fuel attempt : Nat)
    (c : Connection) : (Link.awaitHello config elapsed fuel attempt c).2.ended = c.ended := by
  induction fuel generalizing attempt c with
  | zero => rfl
  | succ fuel ih =>
    rw [Link.awaitHello]
    split
    · rfl
    · cases hreceive : c.receive? with
      | none => rfl
      | some received =>
        obtain ⟨result, c'⟩ := received
        have hended := Connection.ended_of_receive? hreceive
        obtain e | f := result
        · cases e with
          | closed => exact hended
          | _ =>
            simp only
            split
            · exact (ih _ c').trans hended
            · exact hended
        · exact hended

/-- The greetings do not change whether a client is gone. -/
theorem Link.ended_serve (session : String) (config : Link.HandshakeConfig) (elapsed : Nat → Duration)
    (c : Connection) : (Link.serve session config elapsed c).2.ended = c.ended := by
  have hreceived := Link.ended_awaitHello config elapsed (c.reads.length + 1) 0 c
  rw [← Link.receiveHello] at hreceived
  rw [Link.serve]
  cases Link.checkSession session with
  | error r => rfl
  | ok u =>
    generalize Link.receiveHello config elapsed c = received at hreceived
    obtain ⟨e | payload, c'⟩ := received
    · exact hreceived
    · simp only at hreceived ⊢
      cases Link.acceptGreeting config payload with
      | error e => exact hreceived
      | ok greeting =>
        have hsent := congrArg Connection.ended (Link.sendHello_snd c'
          (Link.ServerHello.write ⟨config.protocol, config.version, greeting.identity, session⟩))
        simp only
        generalize Link.sendHello c' _ = sent at hsent
        obtain ⟨_ | ⟨⟩, c''⟩ := sent
        · exact hsent.trans hreceived
        · exact hsent.trans hreceived

namespace Listener

/-- The listener after so many more clients. -/
def later (l : Listener) (clients : Nat) : Listener := { l with nextSession := l.nextSession + clients }

theorem later_succ (l : Listener) (clients : Nat) : l.later (clients + 1) = (l.later 1).later clients := by
  rw [later, later, later, Nat.add_assoc, Nat.add_comm 1]

/-- Whoever calls, the next session has the next number; and a client that is accepted is as gone as it was. -/
theorem accept_spec (l : Listener) (elapsed : Nat → Duration) (c : Connection) :
    (l.accept none elapsed c).2.2 = l.later 1 ∧
      ∀ link, (l.accept none elapsed c).1 = .ok link → link.connection.ended = c.ended := by
  have hserved := Link.ended_serve (l.label none).1 l.config.handshake elapsed (l.config.greeting c)
  rw [accept]
  simp only [label] at hserved ⊢
  by_cases hnone : l.config.leavesNoTime = true
  · simp only [hnone, if_true]
    exact ⟨rfl, fun link h => by cases h⟩
  · simp only [hnone]
    generalize Link.serve _ _ _ _ = served at hserved
    obtain ⟨e | established, c'⟩ := served
    · exact ⟨rfl, fun link h => by cases h⟩
    · refine ⟨rfl, fun link h => ?_⟩
      cases h
      exact hserved

end Listener

/-- The device gets to a message of this client by which it is overwhelmed. -/
def Caller.Overtaxes (caller : Caller) (s : Simulator) (l : Listener) : Prop :=
  ∃ link, (l.accept none caller.elapsed caller.connection).1 = .ok link ∧
    ({ simulator := s, link := link } : SimulatorSession).Overtaxed

namespace Simulator

variable {s : Simulator} {l : Listener} {caller : Caller} {callers : List Caller} {sessions : Option Nat}

theorem serveOne_spec (s : Simulator) (l : Listener) (caller : Caller) :
    (s.serveOne l caller).2 = l.later 1 ∧
      ((s.serveOne l caller).1 = some .crashed ↔ caller.Overtaxes s l) ∧
      (caller.connection.ended = true → ∃ how, (s.serveOne l caller).1 = some how) := by
  obtain ⟨hlater, hgone⟩ := l.accept_spec caller.elapsed caller.connection
  rw [serveOne, Caller.Overtaxes]
  generalize l.accept none caller.elapsed caller.connection = accepted at hlater hgone
  obtain ⟨e | link, c, l'⟩ := accepted
  · refine ⟨hlater, iff_of_false (by simp) ?_, fun _ => ⟨_, rfl⟩⟩
    rintro ⟨link, h, -⟩
    cases h
  · refine ⟨hlater, ?_, fun hended => ?_⟩
    · have hcrashed := SimulatorSession.run_crashed_iff
        (s := { simulator := s, link := link }) rfl
      refine hcrashed.trans ⟨fun h => ⟨link, rfl, h⟩, ?_⟩
      rintro ⟨_, ⟨⟩, h⟩
      exact h
    · exact SimulatorSession.runSteps_ends ((hgone link rfl).trans hended) (Nat.lt_succ_self _)

/-- The clients whose turn comes while there is a device. -/
def attempts (sessions : Option Nat) (callers : List Caller) : List Caller :=
  match sessions with
  | none => callers
  | some most => callers.take most

theorem attempts_cons (hsome : sessions ≠ some 0) :
    attempts sessions (caller :: callers) = caller :: attempts (sessions.map (· - 1)) callers := by
  cases sessions with
  | none => rfl
  | some most =>
    cases most with
    | zero => exact absurd rfl hsome
    | succ most => rfl

/-- None of the first so many clients overtaxes the device. -/
def Spared (s : Simulator) (l : Listener) (callers : List Caller) (count : Nat) : Prop :=
  ∀ i < count, ∀ caller, callers[i]? = some caller → ¬caller.Overtaxes s (l.later i)

theorem spared_zero : Spared s l callers 0 := fun i hi => absurd hi (Nat.not_lt_zero i)

theorem spared_succ_iff {first : Caller} {count : Nat} :
    Spared s l (first :: callers) (count + 1) ↔
      ¬first.Overtaxes s l ∧ Spared s (l.later 1) callers count := by
  constructor
  · intro h
    refine ⟨h 0 (Nat.zero_lt_succ _) first rfl, fun i hi caller hcaller => ?_⟩
    rw [← l.later_succ i]
    exact h (i + 1) (Nat.succ_lt_succ hi) caller hcaller
  · rintro ⟨hfirst, hrest⟩ i hi caller hcaller
    cases i with
    | zero =>
      cases hcaller
      exact hfirst
    | succ i =>
      rw [l.later_succ i]
      exact hrest i (Nat.lt_of_succ_lt_succ hi) caller hcaller

theorem survived_iff {how : SessionEnd} : how.survived = true ↔ how ≠ .crashed := by
  cases how <;> simp [SessionEnd.survived]

/-- There still is a device behind a client that does not overtax it. -/
theorem survived_serveOne_iff {ending : SessionEnd} (hending : (s.serveOne l caller).1 = some ending) :
    ending.survived = true ↔ ¬caller.Overtaxes s l := by
  obtain ⟨-, hcrashed, -⟩ := s.serveOne_spec l caller
  rw [survived_iff, ← hcrashed, hending, Option.some_inj]

theorem serve_cons {first : Caller} {ending : SessionEnd} (hsome : sessions ≠ some 0)
    (hending : (s.serveOne l first).1 = some ending) :
    s.serve l sessions (first :: callers) =
      if ending.survived = true then ending :: s.serve (l.later 1) (sessions.map (· - 1)) callers
      else [ending] := by
  obtain ⟨hlater, -⟩ := s.serveOne_spec l first
  rw [serve, if_neg hsome]
  generalize s.serveOne l first = served at hlater hending
  obtain ⟨result, l'⟩ := served
  obtain rfl : result = some ending := hending
  obtain rfl : l' = l.later 1 := hlater
  rfl

/-- **A client is served exactly if none before it overtaxed the device.**  The induction is on the clients;
each that is served moves the listener on by one. -/
theorem serve_getElem?_eq_some_iff (hleave : ∀ caller ∈ callers, caller.connection.ended = true) {i : Nat}
    {how : SessionEnd} :
    (s.serve l sessions callers)[i]? = some how ↔
      ∃ caller, (attempts sessions callers)[i]? = some caller ∧
        (s.serveOne (l.later i) caller).1 = some how ∧ Spared s l (attempts sessions callers) i := by
  induction callers generalizing l sessions i with
  | nil => cases sessions <;> simp [serve, attempts]
  | cons first callers ih =>
    obtain ⟨hfirst, hrest⟩ := List.forall_mem_cons.mp hleave
    obtain ⟨-, -, hends⟩ := s.serveOne_spec l first
    obtain ⟨ending, hending⟩ := hends hfirst
    have hsurvived := survived_serveOne_iff hending
    by_cases hsome : sessions = some 0
    · rw [hsome, serve, if_pos rfl]
      simp [attempts]
    rw [attempts_cons hsome, serve_cons hsome hending]
    cases i with
    | zero =>
      have hresult : (if ending.survived = true then
          ending :: s.serve (l.later 1) (sessions.map (· - 1)) callers else [ending])[0]? =
            some ending := by
        split <;> rfl
      rw [hresult, ← hending]
      constructor
      · intro h
        exact ⟨first, rfl, h, spared_zero⟩
      · rintro ⟨_, ⟨⟩, h, -⟩
        exact h
    | succ i =>
      simp only [spared_succ_iff, List.getElem?_cons_succ, l.later_succ i]
      by_cases hover : first.Overtaxes s l
      · rw [if_neg fun h => hsurvived.mp h hover]
        refine iff_of_false (by simp) ?_
        rintro ⟨caller, -, -, hspared, -⟩
        exact hspared hover
      · rw [if_pos (hsurvived.mpr hover), List.getElem?_cons_succ, ih hrest]
        simp only [hover, not_false_eq_true, true_and]

theorem mem_of_attempts {i : Nat} (h : (attempts sessions callers)[i]? = some caller) : caller ∈ callers := by
  cases sessions with
  | none => exact List.mem_of_getElem? h
  | some most => exact List.mem_of_mem_take (List.mem_of_getElem? h)

/-- **All clients are served, and the device is still there, exactly if none of them overtaxes it.** -/
theorem serves_all_iff (hleave : ∀ caller ∈ callers, caller.connection.ended = true) :
    ((s.serve l sessions callers).length = (attempts sessions callers).length ∧
        SessionEnd.crashed ∉ s.serve l sessions callers) ↔
      Spared s l (attempts sessions callers) (attempts sessions callers).length := by
  have hserved (i : Nat) (how : SessionEnd) : (s.serve l sessions callers)[i]? = some how ↔ _ :=
    serve_getElem?_eq_some_iff hleave
  constructor
  · rintro ⟨hlength, hsurvived⟩ i hi caller hcaller hover
    rw [← hlength] at hi
    obtain ⟨same, hsame, hends, -⟩ := (hserved i _).mp (List.getElem?_eq_getElem hi)
    obtain rfl := Option.some.inj (hcaller.symm.trans hsame)
    have hcrash := (s.serveOne_spec (l.later i) caller).2.1.mpr hover
    rw [hcrash] at hends
    exact hsurvived (Option.some.inj hends ▸ List.getElem_mem hi)
  · intro hspared
    refine ⟨Nat.le_antisymm ?_ ?_, fun hcrash => ?_⟩
    · by_contra hlong
      obtain ⟨caller, hcaller, -⟩ := (hserved _ _).mp (List.getElem?_eq_getElem (Nat.lt_of_not_le hlong))
      simp at hcaller
    · by_contra hshort
      have hnext := Nat.lt_of_not_le hshort
      have hcaller := List.getElem?_eq_getElem hnext
      obtain ⟨-, -, hends⟩ := s.serveOne_spec (l.later (s.serve l sessions callers).length)
        (attempts sessions callers)[(s.serve l sessions callers).length]
      obtain ⟨how, hhow⟩ := hends (hleave _ (mem_of_attempts hcaller))
      have hbefore : Spared s l (attempts sessions callers) (s.serve l sessions callers).length :=
        fun i hi => hspared i (Nat.lt_trans hi hnext)
      have hfound := (hserved _ how).mpr ⟨_, hcaller, hhow, hbefore⟩
      simp at hfound
    · obtain ⟨i, hi⟩ := List.mem_iff_getElem?.mp hcrash
      obtain ⟨caller, hcaller, hends, -⟩ := (hserved i _).mp hi
      have hover := (s.serveOne_spec (l.later i) caller).2.1.mp hends
      exact hspared i (List.getElem?_eq_some_iff.mp hcaller).1 caller hcaller hover

/-! ## 5. The service and its end -/

/-- **A device serves its clients, one after the other, until one of them overtaxes it.**

The number of channels that a message names is bounded by its octets, and so the samples of a block are counted
right wherever their number is a word; it always is where one channel is named.  A block that is not
counted has no room either, and a block without room is what a device does not survive, and nothing else is.
So a session crashes exactly if it gets to a message that asks for such a block, and a client is served
exactly if no session before its own does. -/
theorem serves_until_overtaxed (s : Simulator) (l : Listener) (sessions : Option Nat)
    (hleave : ∀ caller ∈ callers, caller.connection.ended = true) :
    (∀ message b, message.length ≤ Frame.maxLength → s.LaysOut message b →
      b.sizeInWords? = (if b.size < Word.size then some b.size else none) ∧
        (b.channels.length ≤ 1 → b.size < Word.size) ∧
        (b.sizeInWords? = none → Synthetic.capacity ≤ b.size)) ∧
      (∀ message stats, (s.answer message stats).crashes = true ↔
        ∃ b, s.LaysOut message b ∧ Synthetic.capacity ≤ b.size) ∧
      (∀ session : SimulatorSession, session.ended = none →
        (session.run.ended = some .crashed ↔
          ∃ message t, SimulatorSession.Meets message session t ∧ t.Overwhelmed message) ∧
        ∀ message t, SimulatorSession.Meets message session t → message.length ≤ Frame.maxLength) ∧
      (∀ (i : Nat) (how : SessionEnd), (s.serve l sessions callers)[i]? = some how ↔
        ∃ caller, (attempts sessions callers)[i]? = some caller ∧
          (s.serveOne (l.later i) caller).1 = some how ∧ Spared s l (attempts sessions callers) i) ∧
      ((s.serve l sessions callers).length = (attempts sessions callers).length ∧
          SessionEnd.crashed ∉ s.serve l sessions callers ↔
        Spared s l (attempts sessions callers) (attempts sessions callers).length) := by
  refine ⟨?_, fun message stats => answer_crashes_iff, ?_, fun i how => serve_getElem?_eq_some_iff hleave,
    serves_all_iff hleave⟩
  · intro message b hfits hblock
    have hsize := BlockShape.sizeInWords?_eq (Nat.le_trans hblock.length_channels_le hfits)
      hblock.waveforms_lt
    refine ⟨hsize, hblock.lt_size_of_single, fun hnone => ?_⟩
    rw [hsize] at hnone
    split at hnone
    · cases hnone
    · rename_i hlarge
      exact Nat.le_trans (by decide) (Nat.le_of_not_lt hlarge)
  · intro session hrunning
    exact ⟨SimulatorSession.run_crashed_iff hrunning, fun message t hmeets => hmeets.length_le⟩

/-- A client that greets, says all these messages at once and hangs up. -/
def hasty (messages : List Bytes) : Caller where
  connection := ((Connection.opened.arrive
    ((Link.greet "reader" {} .opened).2.takeSent.1 ++ messageOctets messages)).hangUp)
  elapsed := fun _ => .zero

/-- A dump of two channels, or twice of one, with counts of this size. -/
def doubled (count : UInt32) : Bytes :=
  Envelope.encodeRecord .dump DumpRequest.schema
    { channels := [0, 0], waveforms := count, samples := count }

/-- Neither a client that asks for two samples nor one that asks for nothing is too much. -/
theorem serves_until_overtaxed_two :
    (∀ caller ∈ [hasty [doubled 1], hasty []], caller.connection.ended = true) ∧
      ({} : Simulator).serve {} none [hasty [doubled 1], hasty []] =
        [.left { requests := 1, waveforms := 1 }, .left {}] ∧
      Spared {} {} [hasty [doubled 1], hasty []] 2 := by
  have hleave : ∀ caller ∈ [hasty [doubled 1], hasty []], caller.connection.ended = true :=
    List.forall_mem_cons.mpr ⟨rfl, List.forall_mem_singleton.mpr rfl⟩
  have hserved : ({} : Simulator).serve {} none [hasty [doubled 1], hasty []] =
      [.left { requests := 1, waveforms := 1 }, .left {}] := by decide +kernel
  obtain ⟨-, -, -, -, hall⟩ := serves_until_overtaxed {} {} none hleave
  refine ⟨hleave, hserved, hall.mp ⟨?_, ?_⟩⟩ <;> rw [hserved]
  · rfl
  · decide

/-- **A request whose block cannot be counted, and the client behind it.**  The request names a known channel
twice and is not refused; the product of its channels and counts is not a word.  The device does not survive
it, and the next client, who asks for nothing, is not served. -/
theorem doubled_channel_ends_service :
    let b : BlockShape := ⟨[0, 0], 0xFFFFFFFF, 0xFFFFFFFF⟩
    ({} : Simulator).LaysOut (doubled 0xFFFFFFFF) b ∧ Word.size ≤ b.size ∧ b.sizeInWords? = none ∧
      (({} : Simulator).answer (doubled 0xFFFFFFFF) {}).crashes = true ∧
      ({} : Simulator).serve {} none [hasty [doubled 0xFFFFFFFF], hasty []] = [.crashed] ∧
      ({} : Simulator).serve {} none [hasty []] = [.left {}] := by
  have hdecode : Envelope.decode (doubled 0xFFFFFFFF) = .ok ⟨.dump, DumpRequest.schema.write
      { channels := [0, 0], waveforms := 0xFFFFFFFF, samples := 0xFFFFFFFF }⟩ := by decide +kernel
  have hrecord : Envelope.record ⟨.dump, DumpRequest.schema.write
        { channels := [0, 0], waveforms := 0xFFFFFFFF, samples := 0xFFFFFFFF }⟩ DumpRequest.schema =
      .ok { channels := [0, 0], waveforms := 0xFFFFFFFF, samples := 0xFFFFFFFF } := by decide +kernel
  exact ⟨.whole hdecode rfl hrecord (by decide), by decide, by decide, by decide +kernel, by decide +kernel,
    by decide +kernel⟩

end Simulator

end Readout

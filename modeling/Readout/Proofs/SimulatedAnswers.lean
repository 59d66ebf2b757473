/-
# What a simulated device answers

A simulated device acknowledges a command, and answers a request for waveforms with the data, in one
answer or in chunks, or with a refusal, if it was told to refuse.  Requests whose size was checked get
answers that fit in frames, so that the device copes with all of them.

* `tiles_cutsFrom` -- how a stream is cut into chunks;
* `Simulator.replies_command` -- what a command is answered with;
* `Simulator.replies_dumpMessage`, `Simulator.replies_chunkMessage` -- what a request is answered with;
* `Simulator.copes_with_request` -- the device copes with each request that is not refused beforehand.
-/
import Readout.Proofs.Foreign
import Readout.Proofs.LinkAtRest
import Readout.Proofs.MessageSizes
import Readout.Proofs.Modes

namespace Readout

open Control

/-! ## 1. How a stream is cut -/

/-- Cuts that follow one another up to the end of a stream, each of some waveforms at most; the last one
says that it is. -/
inductive Tiles (most total : Nat) : Nat → List Cut → Prop
  | last {sent waveforms : Nat} (ends : sent + waveforms = total) (bounded : waveforms ≤ most) :
      Tiles most total sent [⟨sent, waveforms, true⟩]
  | more {sent waveforms : Nat} {cuts : List Cut} (room : sent + waveforms < total)
      (bounded : waveforms ≤ most) (rest : Tiles most total (sent + waveforms) cuts) :
      Tiles most total sent (⟨sent, waveforms, false⟩ :: cuts)

/-- **A stream is cut from its beginning to its end.** -/
theorem tiles_cutsFrom {size total sent : Nat} (h : sent ≤ total) :
    Tiles (max size 1) total sent (cutsFrom size total sent) := by
  fun_induction cutsFrom size total sent with
  | case1 sent waveforms hend =>
    have hsize : waveforms = min (max size 1) (total - sent) := rfl
    exact .last (by omega) (by omega)
  | case2 sent waveforms hend ih =>
    have hsize : waveforms = min (max size 1) (total - sent) := rfl
    exact .more (by omega) (by omega) (ih (by omega))

namespace Tiles

variable {most total sent : Nat} {cuts : List Cut} {r : ChunkRequest}

theorem bounded (h : Tiles most total sent cuts) : ∀ cut ∈ cuts, cut.waveforms ≤ most := by
  induction h with
  | last ends bounded =>
    intro cut hcut
    rw [List.mem_singleton.mp hcut]
    exact bounded
  | more room bounded rest ih => exact List.forall_mem_cons.mpr ⟨bounded, ih⟩

/-- No cut reaches beyond the end. -/
theorem within (h : Tiles most total sent cuts) : ∀ cut ∈ cuts, cut.first + cut.waveforms ≤ total := by
  induction h with
  | last ends bounded =>
    intro cut hcut
    rw [List.mem_singleton.mp hcut]
    exact Nat.le_of_eq ends
  | more room bounded rest ih => exact List.forall_mem_cons.mpr ⟨Nat.le_of_lt room, ih⟩

/-- Only the last chunk says that it is. -/
theorem last_chunk (h : Tiles most total sent cuts) :
    ∃ before final, cuts.map (Simulator.chunkReply r) = before ++ [final] ∧ final.isFinal = true ∧
      ∀ chunk ∈ before, chunk.isFinal = false := by
  induction h with
  | last ends bounded => exact ⟨[], _, rfl, rfl, nofun⟩
  | more room bounded rest ih =>
    obtain ⟨before, final, hmap, hfinal, hbefore⟩ := ih
    exact ⟨_ :: before, final, congrArg (_ :: ·) hmap, hfinal,
      List.forall_mem_cons.mpr ⟨rfl, hbefore⟩⟩

/-- All chunks together hold what is left of the stream. -/
theorem waveformsIn_eq (h : Tiles most total sent cuts) (htotal : total < UInt32.size) :
    sent + waveformsIn (cuts.map (Simulator.chunkReply r)) = total := by
  induction h with
  | @last sent waveforms ends bounded =>
    have hcount : (UInt32.ofNat waveforms).toNat = waveforms := UInt32.toNat_ofNat_of_lt' (by omega)
    show sent + ((UInt32.ofNat waveforms).toNat + 0) = total
    omega
  | @more sent waveforms cuts room bounded rest ih =>
    have hcount : (UInt32.ofNat waveforms).toNat = waveforms := UInt32.toNat_ofNat_of_lt' (by omega)
    show sent + ((UInt32.ofNat waveforms).toNat + waveformsIn (cuts.map (Simulator.chunkReply r))) =
      total
    omega

end Tiles

/-! ## 2. Commands -/

namespace Simulator

/-- A message that is understood is answered as its kind asks. -/
theorem answer_encode (s : Simulator) {kind : Kind} {payload : Bytes} (hset : kind ≠ .unspecified)
    (hfits : (Envelope.encode kind payload).length ≤ Frame.defaultLimit) :
    s.answer (Envelope.encode kind payload) {} =
      s.answerEnvelope ⟨kind, payload⟩ { requests := 1 } := by
  rw [answer, decode_encode hset (Nat.lt_of_le_of_lt hfits (by decide))]
  rfl

theorem length_acknowledgement_le (kind : Kind) : (acknowledgement kind).length ≤ 200 := by
  have hname : Text.Utf8.length (kind.name ++ " ok") ≤ 100 := by
    cases kind <;> decide +kernel
  have hlength : (acknowledgement kind).length ≤ 80 + Text.Utf8.length (kind.name ++ " ok") :=
    length_commandReply_le kind ⟨true, kind.name ++ " ok"⟩
  omega

/-- **A command is acknowledged.** -/
theorem replies_command (s : Simulator) {kind : Kind} {payload : Bytes} (hset : kind ≠ .unspecified)
    (hdump : kind ≠ .dump) (hchunks : kind ≠ .chunkRequest)
    (hfits : (Envelope.encode kind payload).length ≤ Frame.defaultLimit) :
    s.replies (Envelope.encode kind payload) = [acknowledgement kind] ∧
      s.Copes (Envelope.encode kind payload) := by
  have hanswer : s.answer (Envelope.encode kind payload) {} =
      ⟨[acknowledgement kind], { requests := 1 }, false⟩ := by
    rw [s.answer_encode hset hfits]
    cases kind <;> first | rfl | contradiction
  have hreplies : s.replies (Envelope.encode kind payload) = [acknowledgement kind] := by
    rw [replies, hanswer]
  refine ⟨hreplies, by rw [hanswer], ?_⟩
  rw [hreplies]
  intro message hmessage
  rw [List.mem_singleton.mp hmessage]
  exact Nat.le_trans (length_acknowledgement_le kind) (by decide)

/-! ## 3. Requests for waveforms -/

section

variable {r : DumpRequest} {text : String}

theorem answerDump_of_refusal (s : Simulator) (h : s.refusal r.channels = some text)
    (stats : SessionStats) :
    (s.answerDump r stats).messages =
        [Envelope.encodeRecord .dump DumpReply.schema { message := text }] ∧
      (s.answerDump r stats).crashes = false := by
  rw [answerDump, h]
  exact ⟨rfl, rfl⟩

theorem answerDump_of_small (s : Simulator) (h : s.refusal r.channels = none)
    (hsmall : Synthetic.blockSize r.channels r.waveforms.toNat r.samples.toNat < Synthetic.capacity)
    (stats : SessionStats) :
    (s.answerDump r stats).messages = [Envelope.encodeRecord .dump DumpReply.schema (dumpReply r)] ∧
      (s.answerDump r stats).crashes = false := by
  rw [answerDump, h]
  simp only [if_neg (Nat.not_le.mpr hsmall), and_self]

end

section

variable {r : ChunkRequest} {text : String}

theorem answerChunks_of_refusal (s : Simulator) (h : s.refusal r.channels = some text)
    (stats : SessionStats) :
    (s.answerChunks r stats).messages =
        [chunkMessage { label := r.label, message := text, isFinal := true }] ∧
      (s.answerChunks r stats).crashes = false := by
  rw [answerChunks, h]
  exact ⟨rfl, rfl⟩

theorem answerChunks_of_small (s : Simulator) (h : s.refusal r.channels = none)
    (hsmall : Synthetic.blockSize r.channels (min (max r.chunkSize.toNat 1) (s.streamed r))
      r.samples.toNat < Synthetic.capacity) (stats : SessionStats) :
    (s.answerChunks r stats).messages = (s.streamCuts r).flatMap (s.chunkMessages r) ∧
      (s.answerChunks r stats).crashes = false := by
  rw [answerChunks, h]
  simp only [if_neg (Nat.not_le.mpr hsmall), and_self]

end

/-- The text of a refusal is short. -/
def Brief (s : Simulator) : Prop := ∀ text, s.failWith = some text → Text.Utf8.length text ≤ 512

/-- A device that was not told to refuse refuses no known channels. -/
theorem refusal_of_known (s : Simulator) {channels : List UInt32} (hallowed : s.failWith = none)
    (hsome : channels ≠ []) (hrange : ∀ c ∈ channels, c ≤ maxChannel) : s.refusal channels = none := by
  have hfind : channels.find? (maxChannel < ·) = none := by
    refine List.find?_eq_none.mpr fun channel hchannel h => ?_
    exact UInt32.not_lt.mpr (hrange channel hchannel) (of_decide_eq_true h)
  simp only [refusal, hallowed, if_neg hsome, hfind, Option.map_none]

/-- A request that was made properly is refused only if the device was told to refuse. -/
theorem refusal_eq (s : Simulator) (r : AcquisitionRequest) : s.refusal r.channels = s.failWith := by
  cases htext : s.failWith with
  | some text => rw [refusal, htext]
  | none => exact s.refusal_of_known htext r.acceptable.nonempty r.acceptable.in_range

/-- The one answer to a request. -/
def wholeReply (s : Simulator) (r : AcquisitionRequest) : DumpReply :=
  match s.failWith with
  | some text => { message := text }
  | none => dumpReply r.toDump

/-- How many waveforms are delivered in chunks. -/
def delivered (s : Simulator) (r : AcquisitionRequest) : Nat :=
  match s.deliverLimit with
  | none => r.waveforms.toNat
  | some limit => min limit.toNat r.waveforms.toNat

theorem delivered_le (s : Simulator) (r : AcquisitionRequest) :
    s.delivered r ≤ r.waveforms.toNat := by
  unfold delivered
  cases s.deliverLimit with
  | none => exact Nat.le_refl _
  | some limit => exact Nat.min_le_right _ _

/-- The chunks that answer a request, unless it is refused. -/
def chunks (s : Simulator) (r : AcquisitionRequest) (label : String) (hint : UInt32) :
    List ChunkReply :=
  (cuts hint.toNat (s.delivered r)).map (chunkReply (r.toChunks label hint))

/-- What is sent ahead of a chunk. -/
def ahead (noise : Bool) : List Bytes := if noise then [unsolicited] else []

/-- Chunks as they are sent. -/
def streamMessages (noise : Bool) (chunks : List ChunkReply) : List Bytes :=
  chunks.flatMap fun chunk => ahead noise ++ [chunkMessage chunk]

theorem streamMessages_cons (noise : Bool) (chunk : ChunkReply) (chunks : List ChunkReply) :
    streamMessages noise (chunk :: chunks) =
      ahead noise ++ chunkMessage chunk :: streamMessages noise chunks := by
  rw [streamMessages, List.flatMap_cons, List.append_assoc]
  rfl

/-- The chunks of a stream are sent as chunks are. -/
theorem flatMap_chunkMessages (s : Simulator) (r : ChunkRequest) (cuts : List Cut) :
    cuts.flatMap (s.chunkMessages r) = streamMessages s.noise (cuts.map (chunkReply r)) := by
  rw [streamMessages, List.flatMap_map]
  rfl

/-- A stream whose chunks are too large for a block is given up ahead of the first. -/
theorem answerChunks_of_large (s : Simulator) {r : ChunkRequest} (h : s.refusal r.channels = none)
    (hlarge : Synthetic.capacity ≤ Synthetic.blockSize r.channels
      (min (max r.chunkSize.toNat 1) (s.streamed r)) r.samples.toNat) (stats : SessionStats) :
    (s.answerChunks r stats).messages = ahead s.noise ∧ (s.answerChunks r stats).crashes = true := by
  rw [answerChunks, h]
  simp only [if_pos hlarge, and_true]
  rfl

/-- What is sent to a client that asks for chunks. -/
def chunkReplies (s : Simulator) (r : AcquisitionRequest) (label : String) (hint : UInt32) :
    List Bytes :=
  match s.failWith with
  | some text => [chunkMessage { label := label, message := text, isFinal := true }]
  | none => streamMessages s.noise (s.chunks r label hint)

section

variable {r : AcquisitionRequest} {label : String} {hint : UInt32}

/-- The data of a block is counted as it is asked for. -/
theorem length_block_eq (r : AcquisitionRequest) (first waveforms : Nat) :
    (Synthetic.block r.channels first waveforms r.samples.toNat).length =
      r.channels.length * r.samples.toNat * waveforms := by
  rw [Synthetic.length_block, Synthetic.blockSize, Nat.mul_right_comm]

theorem length_wholeReply_le (s : Simulator) (hbrief : s.Brief)
    (hsize : 5 * (r.channels.length * r.samples.toNat * r.waveforms.toNat) + 1024 ≤
      Frame.defaultLimit) :
    (Envelope.encodeRecord .dump DumpReply.schema (s.wholeReply r)).length ≤ Frame.defaultLimit := by
  have hchannels := r.length_channels_le
  refine Nat.le_trans (length_dumpReply_le (s.wholeReply r)) ?_
  rw [wholeReply]
  cases htext : s.failWith with
  | some text =>
    have hshort := hbrief text htext
    show 160 + Text.Utf8.length text + 5 * 0 + 5 * 0 ≤ Frame.defaultLimit
    rw [Frame.defaultLimit]
    omega
  | none =>
    show 160 + 0 + 5 * r.channels.length +
      5 * (Synthetic.block r.channels 0 r.waveforms.toNat r.samples.toNat).length ≤ Frame.defaultLimit
    rw [length_block_eq]
    omega

/-- **What a request for one answer is answered with.** -/
theorem replies_dumpMessage (s : Simulator) (hbrief : s.Brief)
    (hsize : 5 * (r.channels.length * r.samples.toNat * r.waveforms.toNat) + 1024 ≤
      Frame.defaultLimit) :
    s.replies r.dumpMessage =
        [Envelope.encodeRecord .dump DumpReply.schema (s.wholeReply r)] ∧
      s.Copes r.dumpMessage := by
  have hfits := r.length_dumpMessage_le
  have hrecord := record_encodeRecord DumpRequest.lawful
    (Nat.lt_of_le_of_lt hfits (by decide))
  have hmessage : s.answer r.dumpMessage {} = _ :=
    s.answer_encode (show Kind.dump ≠ .unspecified by decide) hfits
  have hanswer : (s.answer r.dumpMessage {}).messages =
        [Envelope.encodeRecord .dump DumpReply.schema (s.wholeReply r)] ∧
      (s.answer r.dumpMessage {}).crashes = false := by
    have hrefusal : s.refusal r.toDump.channels = s.failWith := s.refusal_eq r
    rw [hmessage, answerEnvelope]
    simp only [hrecord]
    rw [wholeReply]
    cases htext : s.failWith with
    | some text => exact s.answerDump_of_refusal (hrefusal.trans htext) _
    | none =>
      refine s.answerDump_of_small (hrefusal.trans htext) ?_ _
      show Synthetic.blockSize r.channels r.waveforms.toNat r.samples.toNat < Synthetic.capacity
      rw [Synthetic.blockSize, Nat.mul_right_comm, Synthetic.capacity]
      rw [Frame.defaultLimit] at hsize
      omega
  refine ⟨hanswer.1, hanswer.2, ?_⟩
  rw [replies, hanswer.1]
  intro message hmessage
  rw [List.mem_singleton.mp hmessage]
  exact s.length_wholeReply_le hbrief hsize

/-- A request is cut into chunks as large as it asks for. -/
theorem tiles_cuts (hint total : Nat) (hpos : 0 < hint) : Tiles hint total 0 (cuts hint total) := by
  have htiles : Tiles (max hint 1) total 0 (cuts hint total) := tiles_cutsFrom (Nat.zero_le total)
  rwa [Nat.max_eq_left hpos] at htiles

/-- **Each chunk is as it should be**, and fits in a frame. -/
theorem fitting_chunks (s : Simulator) (hpos : 0 < hint.toNat)
    (hlabel : Text.Utf8.length label ≤ 512)
    (hsize : 5 * (r.channels.length * r.samples.toNat * hint.toNat) + 1024 ≤ Frame.defaultLimit) :
    ∀ chunk ∈ s.chunks r label hint, Fitting r label hint.toNat chunk ∧
      (chunkMessage chunk).length ≤ Frame.defaultLimit := by
  intro chunk hchunk
  obtain ⟨cut, hcut, rfl⟩ := List.mem_map.mp hchunk
  have hbounded := (tiles_cuts hint.toNat (s.delivered r) hpos).bounded cut hcut
  have hcount : (UInt32.ofNat cut.waveforms).toNat = cut.waveforms :=
    UInt32.toNat_ofNat_of_lt' (Nat.lt_of_le_of_lt hbounded hint.toNat_lt)
  have hdata : (chunkReply (r.toChunks label hint) cut).data.length =
      r.channels.length * r.samples.toNat * cut.waveforms := length_block_eq r cut.first cut.waveforms
  have hless : r.channels.length * r.samples.toNat * cut.waveforms ≤
      r.channels.length * r.samples.toNat * hint.toNat := Nat.mul_le_mul_left _ hbounded
  have hlength := length_chunkReply_le (chunkReply (r.toChunks label hint) cut)
  have hfits : (chunkMessage (chunkReply (r.toChunks label hint) cut)).length ≤
      Frame.defaultLimit := by
    refine Nat.le_trans hlength ?_
    rw [hdata]
    show 160 + Text.Utf8.length label + 0 + _ ≤ _
    omega
  refine ⟨⟨rfl, rfl, ?_, ?_, Nat.lt_of_le_of_lt hfits (by decide)⟩, hfits⟩
  · exact hcount.symm ▸ hbounded
  · rw [hdata]
    exact congrArg (_ * ·) hcount.symm

theorem length_unsolicited_le : unsolicited.length ≤ Frame.defaultLimit := by decide +kernel

theorem length_refusedChunk_le {text : String} (hlabel : Text.Utf8.length label ≤ 512)
    (htext : Text.Utf8.length text ≤ 512) :
    (chunkMessage { label := label, message := text, isFinal := true }).length ≤
      Frame.defaultLimit := by
  refine Nat.le_trans (length_chunkReply_le { label := label, message := text, isFinal := true }) ?_
  show 160 + Text.Utf8.length label + Text.Utf8.length text + 5 * 0 ≤ Frame.defaultLimit
  rw [Frame.defaultLimit]
  omega

/-- What is sent for chunks that fit in a frame does so too. -/
theorem sendable_streamMessages {noise : Bool} {chunks : List ChunkReply}
    (h : ∀ chunk ∈ chunks, (chunkMessage chunk).length ≤ Frame.defaultLimit) :
    Sendable (streamMessages noise chunks) := by
  intro message hmessage
  obtain ⟨chunk, hchunk, hmessage⟩ := List.mem_flatMap.mp hmessage
  rcases List.mem_append.mp hmessage with hnoise | hmessage
  · unfold ahead at hnoise
    split at hnoise
    · rw [List.mem_singleton.mp hnoise]
      exact length_unsolicited_le
    · cases hnoise
  · rw [List.mem_singleton.mp hmessage]
    exact h chunk hchunk

/-- **What a request for chunks is answered with.** -/
theorem replies_chunkMessage (s : Simulator) (hbrief : s.Brief) (hpos : 0 < hint.toNat)
    (hlabel : Text.Utf8.length label ≤ 512)
    (hsize : 5 * (r.channels.length * r.samples.toNat * hint.toNat) + 1024 ≤ Frame.defaultLimit) :
    s.replies (r.chunkMessage label hint) = s.chunkReplies r label hint ∧
      s.Copes (r.chunkMessage label hint) := by
  have hfits := r.length_chunkMessage_le hint hlabel
  have hrecord := record_encodeRecord ChunkRequest.lawful
    (Nat.lt_of_le_of_lt hfits (by decide))
  have hmessage : s.answer (r.chunkMessage label hint) {} = _ :=
    s.answer_encode (show Kind.chunkRequest ≠ .unspecified by decide) hfits
  have hanswer : (s.answer (r.chunkMessage label hint) {}).messages = s.chunkReplies r label hint ∧
      (s.answer (r.chunkMessage label hint) {}).crashes = false := by
    have hrefusal : s.refusal (r.toChunks label hint).channels = s.failWith := s.refusal_eq r
    rw [hmessage, answerEnvelope]
    simp only [hrecord]
    rw [chunkReplies]
    cases htext : s.failWith with
    | some text => exact s.answerChunks_of_refusal (hrefusal.trans htext) _
    | none =>
      have hless : Synthetic.blockSize r.channels (min (max hint.toNat 1) (s.delivered r))
          r.samples.toNat ≤ r.channels.length * r.samples.toNat * hint.toNat := by
        rw [Synthetic.blockSize, Nat.mul_right_comm]
        refine Nat.mul_le_mul_left _ (Nat.le_trans (Nat.min_le_left _ _) ?_)
        exact Nat.max_le.mpr ⟨Nat.le_refl _, hpos⟩
      obtain ⟨hmessages, hcrashes⟩ := s.answerChunks_of_small (hrefusal.trans htext)
        (Nat.lt_of_le_of_lt hless (by rw [Synthetic.capacity]; rw [Frame.defaultLimit] at hsize; omega))
        { requests := 1 }
      exact ⟨hmessages.trans (s.flatMap_chunkMessages (r.toChunks label hint) _), hcrashes⟩
  refine ⟨hanswer.1, hanswer.2, ?_⟩
  rw [replies, hanswer.1, chunkReplies]
  cases htext : s.failWith with
  | some text =>
    intro message hmessage
    rw [List.mem_singleton.mp hmessage]
    exact length_refusedChunk_le hlabel (hbrief text htext)
  | none =>
    exact sendable_streamMessages fun chunk hchunk =>
      (s.fitting_chunks hpos hlabel hsize chunk hchunk).2

end

/-- **The device copes with each request that is not refused beforehand.** -/
theorem copes_with_request (s : Simulator) (hbrief : s.Brief) {c : AcquisitionConfig}
    {r : AcquisitionRequest} {label : String} (hlabel : Text.Utf8.length label ≤ 512)
    (hcheck : c.check r = .ok ()) (hlimit : c.maxMessage ≤ Frame.defaultLimit) :
    (c.requestMessage r label).length ≤ Frame.defaultLimit ∧ s.Copes (c.requestMessage r label) := by
  have hsize := AcquisitionConfig.octets_of_check hcheck hlimit
  unfold AcquisitionConfig.requestMessage
  unfold AcquisitionConfig.largestReply at hsize
  cases hmode : c.mode with
  | single =>
    rw [hmode] at hsize
    exact ⟨r.length_dumpMessage_le, (s.replies_dumpMessage hbrief hsize).2⟩
  | streaming =>
    rw [hmode] at hsize
    exact ⟨r.length_chunkMessage_le _ hlabel,
      (s.replies_chunkMessage hbrief (c.hintFor_pos r) hlabel hsize).2⟩

end Simulator

end Readout

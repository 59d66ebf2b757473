/-
# Answers that fit

Before anything is sent, a request is refused whose largest answer may exceed the limit on messages.  The
bound that decides it allows five octets for each sample and 1024 for everything else, and stops at the
largest word.

It is a bound: no answer that a request can get takes more octets (`Control.length_answer_le`,
`Control.length_chunk_le`), and where the limit is below the largest word, stopping there lets no answer
through that is too large.  What is let through, though, need not go into one frame: the length of a frame
is a number of four octets, and the limit may be larger than that can say.

* `replies_bounded` -- answers to a request that is not refused are within the limit, and are taken;
* `Frame.passes_iff` -- which messages go over a link in one frame;
* `one_frame_iff` -- up to which limit every answer that is let through goes into one.
-/
import Readout.Cli.Quantity
import Readout.Proofs.FrameCodec
import Readout.Proofs.MessageSizes
import Readout.Proofs.Modes

namespace Readout

open Control

/-! ## 1. What a check settles -/

namespace AcquisitionConfig

variable {c : AcquisitionConfig} {r : AcquisitionRequest}

/-- The bound on the largest answer, in numbers without an upper end. -/
theorem replyBound_largestReply (c : AcquisitionConfig) (r : AcquisitionRequest) :
    r.replyBound (c.largestReply r) =
      min (5 * (r.channels.length * r.samples.toNat * (c.largestReply r).toNat) + 1024) Word.top :=
  r.replyBound_eq (c.largestReply_le r)

/-- **Stopping at the largest word decides nothing**, as long as the limit is below it. -/
theorem check_eq_ok_iff_octets (hlimit : c.maxMessage < Word.top) :
    c.check r = .ok () ↔
      5 * (r.channels.length * r.samples.toNat * (c.largestReply r).toNat) + 1024 ≤ c.maxMessage := by
  rw [check_eq_ok_iff, c.replyBound_largestReply r]
  omega

end AcquisitionConfig

/-! ## 2. Answers -/

namespace Control

/-- Everything that a request asks for, in one answer.  The counts in it may be any numbers. -/
structure DumpReply.Answers (reply : DumpReply) (r : AcquisitionRequest) : Prop where
  succeeded : reply.success = true
  channels : reply.channels = r.channels
  whole : reply.data.length = r.totalSamples
  short : Text.Utf8.length reply.message ≤ 512

/-- Some of what a request asks for, as a chunk with its label. -/
structure ChunkReply.Answers (chunk : ChunkReply) (c : AcquisitionConfig) (r : AcquisitionRequest)
    (label : String) : Prop where
  labelled : chunk.label = label
  succeeded : chunk.success = true
  bounded : chunk.waveforms.toNat ≤ (c.hintFor r).toNat
  aligned : chunk.data.length = r.layout.channels * r.layout.samples * chunk.waveforms.toNat
  short : Text.Utf8.length chunk.message ≤ 512

/-- The message that an answer is sent in. -/
def answerMessage (reply : DumpReply) : Bytes := Envelope.encodeRecord .dump DumpReply.schema reply

variable {c : AcquisitionConfig} {r : AcquisitionRequest} {label : String} {reply : DumpReply}
  {chunk : ChunkReply}

/-- **An answer takes five octets for each sample at most, and 1024 besides.** -/
theorem length_answer_le (h : reply.Answers r) :
    (answerMessage reply).length ≤ 5 * reply.data.length + 1024 := by
  have hlength : (answerMessage reply).length ≤ _ := length_dumpReply_le reply
  have hchannels := r.length_channels_le
  have hshort := h.short
  rw [h.channels] at hlength
  omega

/-- **A chunk takes five octets for each sample at most, and 1024 besides.** -/
theorem length_chunk_le (h : chunk.Answers c r label) (hlabel : Text.Utf8.length label ≤ 36) :
    (chunkMessage chunk).length ≤ 5 * chunk.data.length + 1024 := by
  have hlength : (chunkMessage chunk).length ≤ _ := length_chunkReply_le chunk
  have hshort := h.short
  rw [h.labelled] at hlength
  omega

/-- What a chunk holds is no more than what the largest holds. -/
theorem ChunkReply.Answers.length_data_le (h : chunk.Answers c r label) :
    chunk.data.length ≤ r.channels.length * r.samples.toNat * (c.hintFor r).toNat := by
  rw [h.aligned]
  exact Nat.mul_le_mul_left _ h.bounded

/-- An answer that fits in memory is taken for what it is. -/
theorem DumpReply.Answers.taken (h : reply.Answers r)
    (hfits : (answerMessage reply).length < Word.size) :
    replyData r (answerMessage reply) = .ok reply.data :=
  replyData_encode hfits h.succeeded h.whole

/-- A chunk that fits in memory is taken for what it is, as long as its waveforms are still due. -/
theorem ChunkReply.Answers.taken (h : chunk.Answers c r label)
    (hfits : (chunkMessage chunk).length < Word.size) {received : Nat}
    (hdue : received + chunk.waveforms.toNat ≤ r.waveforms.toNat) :
    ({ StreamState.start c r label with received := received }).judge (chunkMessage chunk) =
      .chunk chunk := by
  have hcount := r.samplesIn?_eq_some (Nat.le_trans (Nat.le_add_left _ received) hdue)
  rw [chunkMessage, StreamState.judge_encode _ hfits, StreamState.judgeReply_eq_chunk_iff]
  refine ⟨rfl, h.labelled, h.succeeded, StreamState.sizeError_eq_none_iff.mpr ⟨h.bounded, hdue, ?_⟩⟩
  show chunk.data.length = (r.layout.samplesIn? chunk.waveforms.toNat).getD Word.top
  rw [hcount, h.aligned, Option.getD_some]

end Control

/-- **The bound on answers is one.**  Whatever a request that is not refused is answered with, in one
message or as a chunk, takes five octets for each sample and 1024 besides at most.  Where the limit is
below the largest word, it is therefore within the limit, and is taken for what it is; that the bound
stops at the largest word decides nothing. -/
theorem replies_bounded (c : AcquisitionConfig) (r : AcquisitionRequest) :
    (∀ reply : DumpReply, reply.Answers r →
      (answerMessage reply).length ≤ 5 * reply.data.length + 1024 ∧
        (c.mode = .single → c.maxMessage < Word.top → c.check r = .ok () →
          (answerMessage reply).length ≤ c.maxMessage ∧
            replyData r (answerMessage reply) = .ok reply.data)) ∧
    (∀ (label : String) (chunk : ChunkReply), Text.Utf8.length label ≤ 36 → chunk.Answers c r label →
      (chunkMessage chunk).length ≤ 5 * chunk.data.length + 1024 ∧
        (c.mode = .streaming → c.maxMessage < Word.top → c.check r = .ok () →
          (chunkMessage chunk).length ≤ c.maxMessage ∧
            ∀ received, received + chunk.waveforms.toNat ≤ r.waveforms.toNat →
              ({ StreamState.start c r label with received := received }).judge
                (chunkMessage chunk) = .chunk chunk)) ∧
    (c.maxMessage < Word.top → (c.check r = .ok () ↔
      5 * (r.channels.length * r.samples.toNat * (c.largestReply r).toNat) + 1024 ≤
        c.maxMessage)) := by
  have htop : Word.top < Word.size := by decide
  refine ⟨?_, ?_, AcquisitionConfig.check_eq_ok_iff_octets⟩
  · intro reply h
    refine ⟨length_answer_le h, ?_⟩
    intro hmode hlimit hcheck
    have hlength := length_answer_le h
    have hbound := (AcquisitionConfig.check_eq_ok_iff_octets hlimit).mp hcheck
    have hlargest : c.largestReply r = r.waveforms := by rw [AcquisitionConfig.largestReply, hmode]
    have hwhole : reply.data.length = r.channels.length * r.samples.toNat * r.waveforms.toNat :=
      h.whole.trans r.totalSamples_eq
    rw [hlargest, ← hwhole] at hbound
    have hwithin := Nat.le_trans hlength hbound
    exact ⟨hwithin, h.taken (Nat.lt_trans (Nat.lt_of_le_of_lt hwithin hlimit) htop)⟩
  · intro label chunk hlabel h
    refine ⟨length_chunk_le h hlabel, ?_⟩
    intro hmode hlimit hcheck
    have hlength := length_chunk_le h hlabel
    have hbound := (AcquisitionConfig.check_eq_ok_iff_octets hlimit).mp hcheck
    have hlargest : c.largestReply r = c.hintFor r := by rw [AcquisitionConfig.largestReply, hmode]
    have hdata := h.length_data_le
    rw [hlargest] at hbound
    have hwithin : (chunkMessage chunk).length ≤ c.maxMessage := by omega
    have hfits := Nat.lt_trans (Nat.lt_of_le_of_lt hwithin hlimit) htop
    exact ⟨hwithin, fun received hdue => h.taken hfits hdue⟩

/-- An answer to `pairRequest` with a message, a large sample and a count that means nothing. -/
def pairAnswer : DumpReply where
  success := true
  message := "ok"
  channels := [3, 1]
  samples := 0xFFFFFFFF
  data := [1, 2, 3, 0xFFFFFFFF]

/-- The answer, and a chunk that may hold all waveforms, where the limit just admits them. -/
theorem replies_bounded_pair :
    (pairAnswer.Answers pairRequest ∧
      (answerMessage pairAnswer).length ≤ 1044 ∧
      replyData pairRequest (answerMessage pairAnswer) = .ok [1, 2, 3, 0xFFFFFFFF]) ∧
      (pairChunk "a" 1 [1, 0xFFFFFFFF] true).Answers { chunkHint := 7, maxMessage := 1044 }
        pairRequest "a" ∧
      (chunkMessage (pairChunk "a" 1 [1, 0xFFFFFFFF] true)).length ≤ 1044 := by
  have hanswer : pairAnswer.Answers pairRequest := ⟨rfl, rfl, rfl, by decide⟩
  have hchunk : (pairChunk "a" 1 [1, 0xFFFFFFFF] true).Answers
      { chunkHint := 7, maxMessage := 1044 } pairRequest "a" :=
    ⟨rfl, rfl, by decide, rfl, by decide⟩
  obtain ⟨hsingle, -, -⟩ := replies_bounded { mode := .single, maxMessage := 1044 } pairRequest
  obtain ⟨-, hstreaming, -⟩ := replies_bounded { chunkHint := 7, maxMessage := 1044 } pairRequest
  have hwhole := (hsingle pairAnswer hanswer).2 rfl (by decide) (by decide +kernel)
  have hpart := (hstreaming "a" _ (by decide) hchunk).2 rfl (by decide) (by decide +kernel)
  exact ⟨⟨hanswer, hwhole⟩, hchunk, hpart.1⟩

/-! ## 3. Messages in one frame -/

namespace Frame

/-- A frame goes over a link with a limit: it can be encoded, and a reader with the limit takes it off
whatever follows it, and waits for the rest of it while a part is missing. -/
def Passes (limit : Nat) (f : Frame) : Prop :=
  ∃ bs, f.encode = .ok bs ∧
    (∀ rest steps, FrameReader.poll ⟨bs ++ rest, limit⟩ steps = .done (.ok f) ⟨rest, limit⟩ steps) ∧
      ∀ torn, torn <+: bs → torn ≠ bs → FrameReader.poll ⟨torn, limit⟩ [] = .waiting ⟨torn, limit⟩

/-- A frame that can be read goes over. -/
theorem Readable.passes {limit : Nat} {f : Frame} (h : Readable limit f) : f.Passes limit := by
  refine ⟨f.octets, encode_eq_ok_iff.mpr ⟨h.sayable, rfl⟩, ?_, ?_⟩
  · intro rest steps
    rw [FrameReader.poll.eq_def, decode_octets_append h rest]
  · rintro torn ⟨more, hmore⟩ htorn
    refine FrameReader.poll_nil (decode_of_torn h hmore.symm ?_)
    rintro rfl
    exact htorn (by rw [← hmore, List.append_nil])

/-- **Within the limit, a frame goes over exactly if its length can be said.** -/
theorem passes_iff {limit : Nat} {f : Frame} (hknown : f.kind.isKnown = true)
    (hfits : f.payload.length ≤ limit) : f.Passes limit ↔ f.payload.length ≤ maxLength := by
  constructor
  · rintro ⟨bs, hencode, -, -⟩
    exact (encode_eq_ok_iff.mp hencode).1
  · intro hsayable
    exact Readable.passes ⟨hknown, hfits, hsayable⟩

/-- Frames of every length up to a bound within the limit go over exactly if its length can be said. -/
theorem forall_passes_iff {limit bound : Nat} (hbound : bound ≤ limit) :
    (∀ f : Frame, f.kind.isKnown = true → f.payload.length ≤ bound → f.Passes limit) ↔
      bound ≤ maxLength := by
  constructor
  · intro h
    have hlength : (List.replicate bound (0 : UInt8)).length = bound := List.length_replicate
    have hlargest : (⟨.message, List.replicate bound 0⟩ : Frame).Passes limit :=
      h _ rfl (Nat.le_of_eq hlength)
    rw [passes_iff rfl (hlength.symm ▸ hbound)] at hlargest
    rwa [hlength] at hlargest
  · intro hmax f hknown hlength
    exact (passes_iff hknown (Nat.le_trans hlength hbound)).mpr (Nat.le_trans hlength hmax)

end Frame

/-! ## 4. Limits in mebibytes -/

theorem Cli.messageLimit_eq_ok_iff {mebibytes limit : Nat} :
    messageLimit mebibytes = .ok limit ↔
      mebibytes ≠ 0 ∧ limit = mebibytes * mebibyte ∧ limit < Word.size := by
  unfold messageLimit
  split
  · rename_i hzero
    simp [hzero]
  · rename_i hzero
    cases hproduct : Word.mul? mebibytes mebibyte with
    | none =>
      have hlarge := Word.mul?_eq_none_iff.mp hproduct
      simp only [reduceCtorEq, false_iff]
      omega
    | some octets =>
      obtain ⟨rfl, hsmall⟩ := Word.mul?_eq_some_iff.mp hproduct
      simp only [Except.ok.injEq]
      omega

/-- A limit in mebibytes is below the largest word. -/
theorem Cli.messageLimit_lt_top {mebibytes limit : Nat} (h : messageLimit mebibytes = .ok limit) :
    limit < Word.top := by
  obtain ⟨-, hlimit, hsize⟩ := messageLimit_eq_ok_iff.mp h
  rw [mebibyte] at hlimit
  rw [Word.top, Word.size]
  rw [Word.size] at hsize
  omega

/-- Asks one channel for one waveform. -/
def oneWaveform (samples : UInt32) (h : samples ≠ 0) : AcquisitionRequest where
  channels := [0]
  waveforms := 1
  samples := samples
  softwareTrigger := false
  acceptable := by
    refine ⟨by decide, by simp [maxChannel], by decide, by decide, h, ?_⟩
    have hsamples := samples.toNat_lt
    show 1 * samples.toNat * 1 * 4 < 0x10000000000000000
    omega

/-- In either mode, the largest answer to it holds the waveform. -/
theorem replyBound_oneWaveform (c : AcquisitionConfig) {samples : UInt32} (h : samples ≠ 0) :
    (oneWaveform samples h).replyBound (c.largestReply (oneWaveform samples h)) =
      5 * samples.toNat + 1024 := by
  have hlargest : (c.largestReply (oneWaveform samples h)).toNat = 1 := by
    refine Nat.le_antisymm (c.largestReply_le (oneWaveform samples h)) ?_
    unfold AcquisitionConfig.largestReply
    cases c.mode with
    | single => exact Nat.le_refl 1
    | streaming => exact c.hintFor_pos (oneWaveform samples h)
  have hsamples := samples.toNat_lt
  have hcount : (oneWaveform samples h).channels.length * (oneWaveform samples h).samples.toNat * 1 =
      samples.toNat := by
    rw [Nat.mul_one]
    exact Nat.one_mul samples.toNat
  rw [c.replyBound_largestReply, hlargest, hcount, Word.top, Word.size]
  omega

/-- A limit that is larger than what a frame can say, by four octets at least, lets a request through
whose answer may be larger, too. -/
theorem exists_check_of_lt {c : AcquisitionConfig} (h : Frame.maxLength + 4 ≤ c.maxMessage) :
    ∃ r, c.check r = .ok () ∧ Frame.maxLength < r.replyBound (c.largestReply r) := by
  have hne : (858993255 : UInt32) ≠ 0 := by decide
  have hsamples : (858993255 : UInt32).toNat = 858993255 := by decide
  have hbound := replyBound_oneWaveform c hne
  rw [hsamples] at hbound
  rw [Frame.maxLength] at h ⊢
  refine ⟨oneWaveform 858993255 hne, ?_, by omega⟩
  rw [AcquisitionConfig.check_eq_ok_iff]
  omega

/-- **Up to 4096 MiB every answer that is let through goes into one frame**, and beyond that not: for a
single request that is let through, exactly if the length of its largest answer can be said. -/
theorem one_frame_iff {mebibytes limit : Nat} (hlimit : Cli.messageLimit mebibytes = .ok limit)
    {c : AcquisitionConfig} (hmax : c.maxMessage = limit) :
    (∀ r, c.check r = .ok () →
      ((∀ f : Frame, f.kind.isKnown = true → f.payload.length ≤ r.replyBound (c.largestReply r) →
          f.Passes limit) ↔
        r.replyBound (c.largestReply r) ≤ Frame.maxLength)) ∧
    ((∀ r, c.check r = .ok () → ∀ f : Frame, f.kind.isKnown = true →
        f.payload.length ≤ r.replyBound (c.largestReply r) → f.Passes limit) ↔
      mebibytes ≤ 4096) := by
  have hbelow := Cli.messageLimit_lt_top hlimit
  obtain ⟨-, hoctets, -⟩ := Cli.messageLimit_eq_ok_iff.mp hlimit
  rw [Cli.mebibyte] at hoctets
  have heach : ∀ r, c.check r = .ok () →
      ((∀ f : Frame, f.kind.isKnown = true → f.payload.length ≤ r.replyBound (c.largestReply r) →
          f.Passes limit) ↔
        r.replyBound (c.largestReply r) ≤ Frame.maxLength) := by
    intro r hcheck
    have hbound := AcquisitionConfig.check_eq_ok_iff.mp hcheck
    rw [hmax] at hbound
    exact Frame.forall_passes_iff hbound
  refine ⟨heach, ?_, ?_⟩
  · intro hall
    by_contra hlarge
    have hroom : Frame.maxLength + 4 ≤ c.maxMessage := by
      rw [Frame.maxLength]
      omega
    obtain ⟨r, hcheck, hbound⟩ := exists_check_of_lt hroom
    have hsayable := (heach r hcheck).mp (hall r hcheck)
    omega
  · intro hsmall r hcheck
    refine (heach r hcheck).mpr ?_
    have hbound := AcquisitionConfig.check_eq_ok_iff.mp hcheck
    rw [c.replyBound_largestReply] at hbound ⊢
    rw [Frame.maxLength]
    omega

/-- With the limit that holds when none is said, every answer to `pairRequest` goes into one frame. -/
theorem one_frame_pair :
    Cli.messageLimit 64 = .ok Frame.defaultLimit ∧
      ({} : AcquisitionConfig).check pairRequest = .ok () ∧
      (⟨.message, [1, 2, 3]⟩ : Frame).Passes Frame.defaultLimit := by
  have hlimit : Cli.messageLimit 64 = .ok Frame.defaultLimit := by decide
  have hcheck : ({} : AcquisitionConfig).check pairRequest = .ok () := by decide +kernel
  obtain ⟨-, hall⟩ := one_frame_iff hlimit (show ({} : AcquisitionConfig).maxMessage = _ from rfl)
  exact ⟨hlimit, hcheck, hall.mpr (by decide) pairRequest hcheck _ (by decide) (by decide +kernel)⟩

/-- **A limit of 8192 MiB lets a request through whose answer no frame can hold.** -/
theorem answer_without_frame :
    Cli.messageLimit 8192 = .ok 8589934592 ∧
      ({ mode := .single, maxMessage := 8589934592 } : AcquisitionConfig).check
          (oneWaveform 1000000000 (by decide)) = .ok () ∧
      (oneWaveform 1000000000 (by decide)).replyBound 1 = 5000001024 ∧
      (⟨.message, List.replicate 5000001024 0⟩ : Frame).encode =
        .error (.tooLarge 5000001024 0xFFFFFFFF) := by
  have hbound := replyBound_oneWaveform { mode := .single, maxMessage := 8589934592 }
    (show (1000000000 : UInt32) ≠ 0 by decide)
  have hsamples : (1000000000 : UInt32).toNat = 1000000000 := by decide
  rw [hsamples] at hbound
  refine ⟨by decide, ?_, hbound, ?_⟩
  · rw [AcquisitionConfig.check_eq_ok_iff, hbound]
    decide
  · rw [Frame.encode, List.length_replicate]
    rfl

end Readout

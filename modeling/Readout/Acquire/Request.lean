/-
# Requests for waveforms

A request asks for a number of waveforms of some channels.  `make` builds a request and refuses bad
ones; the order of the checks decides what is said of a request with two faults.  What the checks
settle is kept with the request (`Acceptable`), so that sizes computed from it are known to fit.

`replyBound` bounds the length of the answer.
-/
import Readout.Acquire.Layout
import Readout.Control.Envelope

namespace Readout

open Control

/-! ## 1. What is asked of a request -/

/-- The highest channel number. -/
def maxChannel : UInt32 := 39

/-- The octets that a sample takes in memory. -/
def octetsPerSample : Nat := 4

/-- What the checks settle: channels are in range and distinct, nothing is empty, and the size of the
data fits in a word. -/
structure Acceptable (channels : List UInt32) (waveforms samples : UInt32) : Prop where
  nonempty : channels ≠ []
  in_range : ∀ c ∈ channels, c ≤ maxChannel
  distinct : channels.Nodup
  waveforms_pos : waveforms ≠ 0
  samples_pos : samples ≠ 0
  fits : channels.length * samples.toNat * waveforms.toNat * octetsPerSample < Word.size

/-- A request for waveforms. -/
structure AcquisitionRequest where
  /-- The channels; their order is the order of the data. -/
  channels : List UInt32
  waveforms : UInt32
  /-- The samples of one waveform of one channel. -/
  samples : UInt32
  softwareTrigger : Bool
  acceptable : Acceptable channels waveforms samples
  deriving DecidableEq, Repr

/-- Why a request is refused. -/
inductive RequestDefect where
  | noChannels
  | channelOutOfRange (channel : UInt32)
  | channelTwice (channel : UInt32)
  | noWaveforms
  | noSamples
  | tooLarge
  deriving DecidableEq, Repr

/-- The wording of a defect. -/
def RequestDefect.message : RequestDefect → String
  | noChannels => "channel list is empty"
  | channelOutOfRange channel =>
    "channel " ++ toString channel.toNat ++ " out of range 0..=" ++ toString maxChannel.toNat
  | channelTwice channel => "channel " ++ toString channel.toNat ++ " listed twice"
  | noWaveforms => "waveform count must be at least 1"
  | noSamples => "samples per waveform must be at least 1"
  | tooLarge => "requested data size overflows"

namespace AcquisitionRequest

/-! ## 2. Making requests -/

/-- Goes through the channels: each has to be in range and not among those before it. -/
def checkChannels (before : List UInt32) : List UInt32 → Except RequestDefect Unit
  | [] => .ok ()
  | c :: cs =>
    if maxChannel < c then .error (.channelOutOfRange c)
    else if c ∈ before then .error (.channelTwice c)
    else checkChannels (c :: before) cs

theorem checkChannels_eq_ok_iff {before cs : List UInt32} :
    checkChannels before cs = .ok () ↔
      (∀ c ∈ cs, c ≤ maxChannel) ∧ cs.Nodup ∧ ∀ c ∈ cs, c ∉ before := by
  induction cs generalizing before with
  | nil => simp [checkChannels]
  | cons c cs ih =>
    unfold checkChannels
    split
    · rename_i h1
      have hc : ¬c ≤ maxChannel := UInt32.not_le.mpr h1
      simp [hc]
    · rename_i h1
      split
      · rename_i h2
        simp [h2]
      · rename_i h2
        rw [ih]
        have hc : c ≤ maxChannel := UInt32.not_lt.mp h1
        constructor
        · rintro ⟨hr, hn, hb⟩
          refine ⟨?_, List.nodup_cons.mpr ⟨fun hm => hb c hm (List.mem_cons_self), hn⟩, ?_⟩
          · intro d hd
            rcases List.mem_cons.mp hd with rfl | hd
            · exact hc
            · exact hr d hd
          · intro d hd
            rcases List.mem_cons.mp hd with rfl | hd
            · exact h2
            · exact fun hm => hb d hd (List.mem_cons_of_mem _ hm)
        · rintro ⟨hr, hn, hb⟩
          obtain ⟨hcn, hn⟩ := List.nodup_cons.mp hn
          refine ⟨fun d hd => hr d (List.mem_cons_of_mem _ hd), hn, fun d hd hm => ?_⟩
          rcases List.mem_cons.mp hm with rfl | hm
          · exact hcn hd
          · exact hb d (List.mem_cons_of_mem _ hd) hm

/-- Whether the data of a request fits in a word. -/
def sizeFits (channels : List UInt32) (waveforms samples : UInt32) : Bool :=
  (((⟨channels.length, samples.toNat⟩ : Layout).samplesIn? waveforms.toNat).bind
    fun n => Word.mul? n octetsPerSample).isSome

theorem fits_of_sizeFits {channels : List UInt32} {waveforms samples : UInt32}
    (h : sizeFits channels waveforms samples = true) :
    channels.length * samples.toNat * waveforms.toNat * octetsPerSample < Word.size := by
  unfold sizeFits at h
  obtain ⟨m, hm⟩ := Option.isSome_iff_exists.mp h
  obtain ⟨n, hn, hm⟩ := Option.bind_eq_some_iff.mp hm
  obtain ⟨_, rfl, _⟩ := Layout.samplesIn?_eq_some_iff.mp hn
  exact (Word.mul?_eq_some_iff.mp hm).2

/-- A request, unless there is something wrong with it. -/
def make (channels : List UInt32) (waveforms samples : UInt32) (softwareTrigger : Bool) :
    Except RequestDefect AcquisitionRequest :=
  if h0 : channels = [] then .error .noChannels
  else
    match h1 : checkChannels [] channels with
    | .error defect => .error defect
    | .ok () =>
      if h2 : waveforms = 0 then .error .noWaveforms
      else if h3 : samples = 0 then .error .noSamples
      else if h4 : sizeFits channels waveforms samples = true then
        .ok ⟨channels, waveforms, samples, softwareTrigger,
          ⟨h0, (checkChannels_eq_ok_iff.mp h1).1, (checkChannels_eq_ok_iff.mp h1).2.1, h2, h3,
            fits_of_sizeFits h4⟩⟩
      else .error .tooLarge

/-! ## 3. Sizes -/

/-- The layout of the answer. -/
def layout (r : AcquisitionRequest) : Layout := ⟨r.channels.length, r.samples.toNat⟩

/-- The samples of the whole answer. -/
def totalSamples (r : AcquisitionRequest) : Nat :=
  (r.layout.samplesIn? r.waveforms.toNat).getD Word.top

/-- The most octets that a sample takes in an answer. -/
def maxSampleOctets : Nat := 5

/-- The most octets that an answer takes besides its samples. -/
def replyOverhead : Nat := 1024

/-- A bound on the octets of an answer with some waveforms, or the largest word. -/
def replyBound (r : AcquisitionRequest) (waveforms : UInt32) : Nat :=
  Word.addSat
    (Word.mulSat ((r.layout.samplesIn? waveforms.toNat).getD Word.top) maxSampleOctets)
    replyOverhead

/-! ## 4. Messages -/

/-- The payload that asks for one answer. -/
def toDump (r : AcquisitionRequest) : DumpRequest where
  channel := r.channels.headD 0
  samples := r.samples
  channels := r.channels
  waveforms := r.waveforms
  softwareTrigger := r.softwareTrigger

/-- The payload that asks for chunks of some waveforms each, under a label. -/
def toChunks (r : AcquisitionRequest) (label : String) (chunkSize : UInt32) : ChunkRequest where
  label := label
  channels := r.channels
  samples := r.samples
  waveforms := r.waveforms
  softwareTrigger := r.softwareTrigger
  chunkSize := chunkSize

/-- The message that asks for one answer. -/
def dumpMessage (r : AcquisitionRequest) : Bytes :=
  Envelope.encodeRecord .dump DumpRequest.schema r.toDump

/-- The message that asks for chunks. -/
def chunkMessage (r : AcquisitionRequest) (label : String) (chunkSize : UInt32) : Bytes :=
  Envelope.encodeRecord .chunkRequest ChunkRequest.schema (r.toChunks label chunkSize)

end AcquisitionRequest

end Readout

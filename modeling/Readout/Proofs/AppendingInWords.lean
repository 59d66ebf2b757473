/-
# Appending in words

`Reassembly.append` takes a batch apart with sizes that are numbers, and counts its waveforms in a word that
starts again from zero.  A machine that checks its words does neither.  It stops where a product or a sum is not
a word, and where there is no room for the lists of the channels: `Reassembly.appendInWords` is that machine.
The count comes last, so that all sinks have been written where it stops there.

Nothing of this happens in an acquisition.  Its request names a channel, and counts its waveforms in half a
word; what is left is the room, and memory that holds the data of a batch has room for the lists.

* `Reassembly.appendInWords_eq_error_iff` -- where appending in words stops;
* `Reassembly.appendInWords_eq_ok_iff` -- elsewhere it appends;
* `exchange_in_words` -- an acquisition appends its batches in words as it does in numbers.
-/
import Readout.Proofs.DealingInWords
import Readout.Proofs.MessageSizes
import Readout.Proofs.Settlement

namespace Readout

open Control

variable {S ω : Type} [SampleSink S ω]

/-! ## 1. One batch -/

/-- A count, with what is added to it. -/
def wordSum (count : UInt64) (more : Nat) : Except Mishap UInt64 :=
  if count.toNat + more < Word.size then .ok (count + .ofNat more) else .error .overflow

namespace Reassembly

/-- Appending a batch, operation by operation. -/
def appendInWords (r : Reassembly S) (waveforms : Nat) (data : List UInt32) (w : ω) :
    Except Mishap (Option AcquireError × Reassembly S × ω) :=
  match r.layout.demultiplexInWords waveforms data with
  | .error m => .error m
  | .ok (.error e) => .ok (some (.layout e), r, w)
  | .ok (.ok batches) =>
    match writeEach r.channels r.sinks batches w with
    | (some (channel, fault), sinks, w) =>
      .ok (some (.sink channel fault), { r with sinks := sinks }, w)
    | (none, sinks, w) => do
      let count ← wordSum r.waveforms waveforms
      return (none, { r with sinks := sinks, waveforms := count }, w)

variable {r : Reassembly S} {waveforms : Nat} {data : List UInt32} {w : ω} {m : Mishap}

/-- A batch that is taken apart in words is appended, unless all sinks take it and the count is no word. -/
theorem appendInWords_of_apart
    (h : r.layout.demultiplexInWords waveforms data = .ok (r.layout.demultiplex waveforms data)) :
    r.appendInWords waveforms data w =
      if (r.append waveforms data w).1 = none ∧ Word.size ≤ r.waveforms.toNat + waveforms then
        .error .overflow
      else .ok (r.append waveforms data w) := by
  rw [appendInWords, append, h]
  cases r.layout.demultiplex waveforms data with
  | error e => rfl
  | ok batches =>
    simp only
    generalize writeEach r.channels r.sinks batches w = written
    obtain ⟨_ | failure, sinks, w'⟩ := written
    · simp only [wordSum, true_and]
      by_cases hcount : r.waveforms.toNat + waveforms < Word.size
      · rw [if_pos hcount, if_neg (Nat.not_le_of_lt hcount)]
        rfl
      · rw [if_neg hcount, if_pos (Nat.le_of_not_lt hcount)]
        rfl
    · rfl

/-- What a batch needs to be appended in words. -/
structure Fits (r : Reassembly S) (waveforms : Nat) (data : List UInt32) : Prop where
  someChannel : r.layout.channels ≠ 0
  lists : r.layout.channels * octetsPerList < roomEnd
  held : data.length * octetsPerNarrow < roomEnd
  counted : r.waveforms.toNat + waveforms < Word.size

/-- **A batch that fits is appended in words as in numbers.** -/
theorem appendInWords_of_fits (h : r.Fits waveforms data) :
    r.appendInWords waveforms data w = .ok (r.append waveforms data w) := by
  rw [appendInWords_of_apart (Layout.demultiplexInWords_of_held h.someChannel h.lists h.held),
    if_neg fun hover => Nat.not_le_of_lt h.counted hover.2]

/-- No batch is counted more than once. -/
theorem waveforms_append_le :
    (r.append waveforms data w).2.1.waveforms.toNat ≤ r.waveforms.toNat + waveforms := by
  unfold append
  split
  · exact Nat.le_add_right ..
  · split
    · exact Nat.le_add_right ..
    · rw [Word.toNat_add_ofNat]
      exact Nat.mod_le ..

/-- Appends batches one after the other, in words. -/
def appendEachInWords : List Batch → Reassembly S × ω → Except Mishap (Reassembly S × ω)
  | [], before => .ok before
  | batch :: more, before => do
    let after ← before.1.appendInWords batch.1 batch.2 before.2
    appendEachInWords more after.2

/-- How many waveforms there are in batches. -/
def waveformsAmong : List Batch → Nat
  | [] => 0
  | batch :: more => batch.1 + waveformsAmong more

/-- **Batches are appended in words as in numbers** if they can be counted together, and memory holds each. -/
theorem appendEachInWords_eq {batches : List Batch} {before : Reassembly S × ω}
    (hchannels : before.1.layout.channels ≠ 0)
    (hlists : before.1.layout.channels * octetsPerList < roomEnd)
    (hheld : ∀ batch ∈ batches, batch.2.length * octetsPerNarrow < roomEnd)
    (hcounted : before.1.waveforms.toNat + waveformsAmong batches < Word.size) :
    appendEachInWords batches before = .ok (appendEach batches before) := by
  induction batches generalizing before with
  | nil => rfl
  | cons batch more ih =>
    obtain ⟨hfirst, hrest⟩ := List.forall_mem_cons.mp hheld
    rw [waveformsAmong] at hcounted
    have hfits : before.1.Fits batch.1 batch.2 := ⟨hchannels, hlists, hfirst, by omega⟩
    have hlayout := (before.1.append_frame batch.1 batch.2 before.2).2.1
    -- a batch that a sink refuses is not counted, so that the bound is all that goes on to the others
    have hcount : (before.1.append batch.1 batch.2 before.2).2.1.waveforms.toNat ≤
        before.1.waveforms.toNat + batch.1 := waveforms_append_le
    rw [appendEachInWords, appendInWords_of_fits hfits]
    exact ih (hlayout ▸ hchannels) (hlayout ▸ hlists) hrest (by omega)

end Reassembly

/-! ## 3. Acquisitions -/

section

variable {c : AcquisitionConfig} {r : AcquisitionRequest} {label : String} {s : Surroundings}
  {factory : SinkFactory S ω} {world : ω}

omit [SampleSink S ω] in
theorem waveformsAmong_map_batch (chunks : List ChunkReply) :
    Reassembly.waveformsAmong (chunks.map ChunkReply.batch) = waveformsIn chunks := by
  induction chunks with
  | nil => rfl
  | cons chunk more ih =>
    rw [List.map_cons, Reassembly.waveformsAmong, ih]
    rfl

omit [SampleSink S ω] in
/-- A stream takes no more waveforms than were asked for. -/
theorem waveformsAmong_of_streaming (hmode : c.mode = .streaming) (messages : List Bytes) :
    Reassembly.waveformsAmong (batchesIn c r label messages) ≤ r.waveforms.toNat := by
  obtain ⟨hreceived, -, -⟩ := StreamState.foldl_hear_counts (.start c r label) messages
  have hbounded := StreamState.foldl_hear_received_le (s := .start c r label) (Nat.zero_le _) messages
  have hzero : (StreamState.start c r label).received = 0 := rfl
  rw [hzero, Nat.zero_add] at hreceived
  unfold batchesIn
  rw [hmode]
  simp only
  rw [waveformsAmong_map_batch, ← hreceived]
  exact hbounded

omit [SampleSink S ω] in
/-- The one answer, if it comes, has what was asked for. -/
theorem waveformsAmong_of_single (hmode : c.mode = .single) {n : Nat} (hwithin : n ≤ s.arrivals.length)
    (hlapses : ∀ arrival ∈ s.arrivals.take (n - 1), arrival.lapses = true) :
    Reassembly.waveformsAmong (batchesIn c r label (Arrival.messages (s.arrivals.take n))) ≤
      r.waveforms.toNat := by
  cases n with
  | zero =>
    rw [List.take_zero, Arrival.messages, List.filterMap_nil, batchesIn_nil]
    exact Nat.zero_le _
  | succ n =>
    rw [Nat.add_sub_cancel] at hlapses
    unfold batchesIn
    -- nothing comes before the last arrival, so that there is one message at most
    rw [hmode, Arrival.messages_take_succ (List.getElem?_eq_getElem hwithin),
      Arrival.messages_of_lapses hlapses, List.nil_append]
    cases s.arrivals[n].message? with
    | none => exact Nat.zero_le _
    | some message =>
      cases hdata : (replyData r message).toOption <;> simp [hdata, Reassembly.waveformsAmong]

/-- What an exchange has taken is no more than was asked for. -/
theorem waveformsAmong_le (label : String) {u : Underway S ω}
    (hbegin : Beginning.of c r s factory world = .opened u) :
    Reassembly.waveformsAmong
      (batchesIn c r label (Arrival.messages (s.arrivals.take (exchange c r label s u).receives))) ≤
      r.waveforms.toNat := by
  cases hmode : c.mode with
  | streaming => exact waveformsAmong_of_streaming hmode _
  | single =>
    obtain ⟨-, -, hlayout⟩ := Beginning.regular_opened hbegin
    have hnone : u.reassembly.waveforms = 0 := Beginning.waveforms_opened hbegin
    rcases exchange_idle_or_consumed (c := c) (s := s) label hlayout hnone with ⟨hzero, -⟩ | hconsumed
    · rw [hzero]
      exact waveformsAmong_of_single hmode (Nat.zero_le _) (List.forall_mem_nil _)
    · exact waveformsAmong_of_single hmode hconsumed.within
        (lapses_of_unsettled hmode hconsumed.within hconsumed.shortest)

/-- **An acquisition never leaves the words**: what it appends is appended in words as it is in numbers, if
memory holds the data of each batch. -/
theorem exchange_in_words (label : String) {u : Underway S ω}
    (hbegin : Beginning.of c r s factory world = .opened u)
    (hheld : ∀ batch ∈ batchesIn c r label
        (Arrival.messages (s.arrivals.take (exchange c r label s u).receives)),
      batch.2.length * octetsPerNarrow < roomEnd) :
    Reassembly.appendEachInWords
        (batchesIn c r label
          (Arrival.messages (s.arrivals.take (exchange c r label s u).receives))) u.bare =
      .ok (exchange c r label s u).underway.bare := by
  obtain ⟨-, -, hlayout⟩ := Beginning.regular_opened hbegin
  have hnone : u.reassembly.waveforms = 0 := Beginning.waveforms_opened hbegin
  have hsame : u.bare.1.layout.channels = r.channels.length := congrArg Layout.channels hlayout
  have hchannels : u.bare.1.layout.channels ≠ 0 := by
    rw [hsame]
    exact fun h => r.acceptable.nonempty (List.length_eq_zero_iff.mp h)
  have hlists : u.bare.1.layout.channels * octetsPerList < roomEnd := by
    rw [hsame]
    exact Nat.lt_of_le_of_lt (Nat.mul_le_mul_right _ r.length_channels_le) (by decide)
  have hcounted : u.bare.1.waveforms.toNat + Reassembly.waveformsAmong
      (batchesIn c r label (Arrival.messages (s.arrivals.take (exchange c r label s u).receives))) <
      Word.size := by
    have hzero : u.bare.1.waveforms = 0 := hnone
    rw [hzero]
    exact Word.lt_size_of_le ((Nat.zero_add _).le.trans (waveformsAmong_le label hbegin))
  rw [Reassembly.appendEachInWords_eq hchannels hlists hheld hcounted, exchange_kept label hlayout hnone,
    Surroundings.kept]

end

end Readout

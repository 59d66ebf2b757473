/-
# What is known of sinks

A reassembly knows nothing of its sinks but their calls.  To say what a sink holds, a `SinkView` reads
it off the sink: a write that succeeds appends, and a write that fails leaves a mark.  Every sink that
keeps its samples has such a view (`MemorySink.view`).

What is proved here of writing, appending and closing is used for both modes.

* `Reassembly.append_of_not_spoilt` -- a batch that is appended gives each sink its samples by their positions;
* `Reliable` -- sinks of which no call fails;
* `Reassembly.bare_append` -- appending does the same whether or not its effects are kept.
-/
import Readout.Acquire.Run
import Readout.Proofs.Positions

namespace Readout

/-! ## 1. Views -/

/-- What can be told of a sink. -/
structure SinkView (S ω : Type) [SampleSink S ω] where
  /-- The samples that it holds. -/
  holds : S → List UInt16
  /-- Whether a write to it has failed. -/
  spoilt : S → Prop
  holds_write : ∀ sink samples w, (SampleSink.write sink samples w).1 = none →
    holds (SampleSink.write sink samples w).2.1 = holds sink ++ samples
  spoilt_write : ∀ sink samples w, spoilt (SampleSink.write sink samples w).2.1 ↔
    spoilt sink ∨ (SampleSink.write sink samples w).1 ≠ none
  holds_finish : ∀ sink w, holds (SampleSink.finish sink w).2.1 = holds sink
  spoilt_finish : ∀ sink w, spoilt (SampleSink.finish sink w).2.1 ↔ spoilt sink

/-- A sink in memory shows its samples, and counts its writes against those that succeed. -/
def MemorySink.view : SinkView MemorySink Unit where
  holds := MemorySink.samples
  spoilt s := s.failure.writesAfter.any (· < s.writes) = true
  holds_write s samples w h := by
    simp only [SampleSink.write, MemorySink.write] at h ⊢
    split at h <;> simp_all
  spoilt_write s samples w := by
    simp only [SampleSink.write, MemorySink.write]
    cases hlimit : s.failure.writesAfter with
    | none => simp [hlimit]
    | some limit =>
      by_cases h : limit ≤ s.writes
      · simp only [Option.any_some, h, decide_true, if_true, decide_eq_true_eq, hlimit]
        constructor
        · intro _
          exact .inr (Option.some_ne_none _)
        · intro _
          exact Nat.lt_succ_of_le h
      · simp only [Option.any_some, h, decide_false, Bool.false_eq_true, if_false,
          decide_eq_true_eq, hlimit]
        constructor
        · intro hlt
          exact absurd (Nat.le_of_lt_succ hlt) h
        · rintro (hlt | hne)
          · exact absurd (Nat.le_of_lt hlt) h
          · exact absurd rfl hne
  holds_finish _ _ := rfl
  spoilt_finish _ _ := Iff.rfl

/-- A property of sinks that no call ends, and with which no call fails. -/
structure Reliable {S ω : Type} [SampleSink S ω] (good : S → Prop) : Prop where
  write : ∀ sink samples w, good sink →
    (SampleSink.write sink samples w).1 = none ∧ good (SampleSink.write sink samples w).2.1
  finish : ∀ sink w, good sink →
    (SampleSink.finish sink w).1 = none ∧ good (SampleSink.finish sink w).2.1

/-- A sink in memory that was told not to fail. -/
def MemorySink.Sure (s : MemorySink) : Prop :=
  s.failure.writesAfter = none ∧ s.failure.onFinish = false

theorem MemorySink.reliable : Reliable MemorySink.Sure where
  write s samples w h := by
    have hwrite : s.failure.writesAfter.any (· ≤ s.writes) = false := by rw [h.1]; rfl
    simp only [SampleSink.write, MemorySink.write, hwrite]
    exact ⟨rfl, h⟩
  finish s w h := by
    simp only [SampleSink.finish, MemorySink.finish, h.2]
    exact ⟨rfl, h⟩

variable {S ω : Type} [SampleSink S ω]

/-- The view of a sink whose calls are kept. -/
def SinkView.traced (v : SinkView S ω) : SinkView (TracedSink S) (Traced ω) where
  holds t := v.holds t.sink
  spoilt t := v.spoilt t.sink
  holds_write t samples w h := v.holds_write t.sink samples w.world h
  spoilt_write t samples w := v.spoilt_write t.sink samples w.world
  holds_finish t w := v.holds_finish t.sink w.world
  spoilt_finish t w := v.spoilt_finish t.sink w.world

theorem Reliable.traced {good : S → Prop} (h : Reliable good) :
    Reliable fun t : TracedSink S => good t.sink where
  write t samples w hgood := h.write t.sink samples w.world hgood
  finish t w hgood := h.finish t.sink w.world hgood

namespace Reassembly

/-! ## 2. Writing to all sinks -/

/-- What a write does not change of a sink, writing to all of them does not change of any. -/
theorem map_writeEach {β : Type} {g : S → β}
    (hg : ∀ sink samples w, g (SampleSink.write sink samples w).2.1 = g sink)
    (channels : List UInt32) (sinks : List S) (batches : List (List UInt16)) (w : ω) :
    (writeEach channels sinks batches w).2.1.map g = sinks.map g := by
  fun_induction writeEach channels sinks batches w with
  | case1 channel channels sink sinks samples more w fault after w' hwrite =>
    simpa [hwrite] using hg sink samples w
  | case2 channel channels sink sinks samples more w after w' hwrite failure sinks' w'' hrest ih =>
    have hhead := hg sink samples w
    rw [hwrite] at hhead
    rw [hrest] at ih
    simpa [hhead] using ih
  | case3 => rfl

@[simp] theorem length_writeEach (channels : List UInt32) (sinks : List S)
    (batches : List (List UInt16)) (w : ω) :
    (writeEach channels sinks batches w).2.1.length = sinks.length := by
  have h := map_writeEach (S := S) (g := fun _ => ()) (fun _ _ _ => rfl) channels sinks batches w
  simpa using congrArg List.length h

/-- After writes that all succeed, each sink holds its batch behind what it held. -/
theorem holds_writeEach (v : SinkView S ω) {channels : List UInt32} {sinks : List S}
    {batches : List (List UInt16)} {w : ω} (hchannels : channels.length = sinks.length)
    (hbatches : batches.length = sinks.length)
    (hnone : (writeEach channels sinks batches w).1 = none) :
    (writeEach channels sinks batches w).2.1.map v.holds =
      List.zipWith (· ++ ·) (sinks.map v.holds) batches := by
  fun_induction writeEach channels sinks batches w with
  | case1 => cases hnone
  | case2 channel channels sink sinks samples more w after w' hwrite failure sinks' w'' hrest ih =>
    have hhead := v.holds_write sink samples w (by rw [hwrite])
    rw [hwrite] at hhead
    rw [hrest] at ih
    have htail := ih (by simpa using hchannels) (by simpa using hbatches) hnone
    simp [hhead, htail]
  | case3 channels sinks batches w hshort =>
    cases sinks with
    | nil => rfl
    | cons sink sinks =>
      obtain ⟨channel, channels, rfl⟩ := List.exists_of_length_succ channels hchannels
      obtain ⟨samples, more, rfl⟩ := List.exists_of_length_succ batches hbatches
      exact absurd rfl (hshort channel channels sink sinks samples more rfl rfl)

/-- When no sink is spoilt after the writes, every write succeeded, and no sink was spoilt before. -/
theorem writeEach_of_not_spoilt (v : SinkView S ω) {channels : List UInt32} {sinks : List S}
    {batches : List (List UInt16)} {w : ω}
    (h : ∀ sink ∈ (writeEach channels sinks batches w).2.1, ¬v.spoilt sink) :
    (writeEach channels sinks batches w).1 = none ∧ ∀ sink ∈ sinks, ¬v.spoilt sink := by
  fun_induction writeEach channels sinks batches w with
  | case1 channel channels sink sinks samples more w fault after w' hwrite =>
    have hspoilt := (v.spoilt_write sink samples w).mpr (Or.inr (by simp [hwrite]))
    rw [hwrite] at hspoilt
    exact absurd hspoilt (h after List.mem_cons_self)
  | case2 channel channels sink sinks samples more w after w' hwrite failure sinks' w'' hrest ih =>
    rw [hrest] at ih
    obtain ⟨hnone, hmore⟩ := ih fun t ht => h t (List.mem_cons_of_mem _ ht)
    refine ⟨hnone, ?_⟩
    intro t ht
    rcases List.mem_cons.mp ht with rfl | ht
    · intro hbefore
      have hspoilt := (v.spoilt_write t samples w).mpr (Or.inl hbefore)
      rw [hwrite] at hspoilt
      exact h after List.mem_cons_self hspoilt
    · exact hmore t ht
  | case3 => exact ⟨rfl, h⟩

/-- Writing to reliable sinks succeeds, and they stay so. -/
theorem writeEach_of_reliable {good : S → Prop} (hgood : Reliable good) {channels : List UInt32}
    {sinks : List S} {batches : List (List UInt16)} {w : ω} (h : ∀ sink ∈ sinks, good sink) :
    (writeEach channels sinks batches w).1 = none ∧
      ∀ sink ∈ (writeEach channels sinks batches w).2.1, good sink := by
  fun_induction writeEach channels sinks batches w with
  | case1 channel channels sink sinks samples more w fault after w' hwrite =>
    have hnone := (hgood.write sink samples w (h sink List.mem_cons_self)).1
    rw [hwrite] at hnone
    cases hnone
  | case2 channel channels sink sinks samples more w after w' hwrite failure sinks' w'' hrest ih =>
    have hafter := (hgood.write sink samples w (h sink List.mem_cons_self)).2
    rw [hwrite] at hafter
    rw [hrest] at ih
    obtain ⟨hnone, hmore⟩ := ih fun t ht => h t (List.mem_cons_of_mem _ ht)
    refine ⟨hnone, ?_⟩
    intro t ht
    rcases List.mem_cons.mp ht with rfl | ht
    · exact hafter
    · exact hmore t ht
  | case3 => exact ⟨rfl, h⟩

/-! ## 3. Finishing all sinks -/

/-- What a finish does not change of a sink, finishing all of them does not change of any. -/
theorem map_finishEach {β : Type} {g : S → β}
    (hg : ∀ sink w, g (SampleSink.finish sink w).2.1 = g sink)
    (channels : List UInt32) (sinks : List S) (w : ω) :
    (finishEach channels sinks w).2.1.map g = sinks.map g := by
  fun_induction finishEach channels sinks w with
  | case1 channel channels sink sinks w fault after w' hfinish failure sinks' w'' hrest ih =>
    have hhead := hg sink w
    rw [hfinish] at hhead
    rw [hrest] at ih
    simpa [hhead] using ih
  | case2 => rfl

/-- Finishing reliable sinks succeeds. -/
theorem finishEach_of_reliable {good : S → Prop} (hgood : Reliable good) {channels : List UInt32}
    {sinks : List S} {w : ω} (h : ∀ sink ∈ sinks, good sink) :
    (finishEach channels sinks w).1 = none := by
  fun_induction finishEach channels sinks w with
  | case1 channel channels sink sinks w fault after w' hfinish failure sinks' w'' hrest ih =>
    have hnone := (hgood.finish sink w (h sink List.mem_cons_self)).1
    rw [hfinish] at hnone
    rw [hrest] at ih
    have hmore := ih fun t ht => h t (List.mem_cons_of_mem _ ht)
    simp only at hnone hmore
    simp [hnone, hmore]
  | case2 => rfl

/-! ## 4. Appending a batch -/

/-- The sizes of a reassembly agree: it has a sink for each channel of the layout. -/
structure Regular (r : Reassembly S) : Prop where
  channels : r.channels.length = r.sinks.length
  layout : r.layout.channels = r.sinks.length

/-- Appending changes neither the channels, nor the layout, nor the number of sinks. -/
theorem append_frame (r : Reassembly S) (waveforms : Nat) (data : List UInt32) (w : ω) :
    (r.append waveforms data w).2.1.channels = r.channels ∧
      (r.append waveforms data w).2.1.layout = r.layout ∧
      (r.append waveforms data w).2.1.sinks.length = r.sinks.length := by
  unfold append
  split
  · exact ⟨rfl, rfl, rfl⟩
  · rename_i batches hbatches
    have hlen := length_writeEach r.channels r.sinks batches w
    split <;> rename_i hwrite <;> rw [hwrite] at hlen <;> exact ⟨rfl, rfl, hlen⟩

/-- What a write does not change of a sink, appending does not change of any. -/
theorem map_append {β : Type} {g : S → β}
    (hg : ∀ sink samples w, g (SampleSink.write sink samples w).2.1 = g sink)
    (r : Reassembly S) (waveforms : Nat) (data : List UInt32) (w : ω) :
    (r.append waveforms data w).2.1.sinks.map g = r.sinks.map g := by
  unfold append
  split
  · rfl
  · rename_i batches hbatches
    have hmap := map_writeEach hg r.channels r.sinks batches w
    split <;> rename_i hwrite <;> rw [hwrite] at hmap <;> exact hmap

theorem Regular.append {r : Reassembly S} (h : r.Regular) (waveforms : Nat) (data : List UInt32)
    (w : ω) : (r.append waveforms data w).2.1.Regular := by
  obtain ⟨hchannels, hlayout, hsinks⟩ := append_frame r waveforms data w
  constructor
  · rw [hchannels, hsinks, h.channels]
  · rw [hlayout, hsinks, h.layout]

/-- Data of the right size is appended as far as the sinks take it. -/
theorem append_of_size {r : Reassembly S} {waveforms : Nat} {data : List UInt32} {w : ω}
    (hsize : r.layout.samplesIn? waveforms = some data.length) :
    let written := writeEach r.channels r.sinks (r.layout.allSamples waveforms data) w
    r.append waveforms data w =
      (written.1.map fun failure => .sink failure.1 failure.2,
        { r with
          sinks := written.2.1
          waveforms := if written.1 = none then r.waveforms + .ofNat waveforms else r.waveforms },
        written.2.2) := by
  simp only [append, Layout.demultiplex_eq_ok hsize]
  generalize writeEach r.channels r.sinks (r.layout.allSamples waveforms data) w = written
  obtain ⟨failure, sinks, w'⟩ := written
  cases failure <;> rfl

/-- A batch that is appended is written to the sinks. -/
theorem writeEach_of_append_eq_none {r : Reassembly S} {waveforms : Nat} {data : List UInt32} {w : ω}
    (hnone : (r.append waveforms data w).1 = none) :
    writeEach r.channels r.sinks (r.layout.allSamples waveforms data) w =
      (none, (r.append waveforms data w).2.1.sinks, (r.append waveforms data w).2.2) := by
  have hsize : r.layout.samplesIn? waveforms = some data.length := by
    cases hbatches : r.layout.demultiplex waveforms data with
    | error e =>
      rw [append, hbatches] at hnone
      cases hnone
    | ok batches => exact Layout.samplesIn?_of_demultiplex hbatches
  rw [append_of_size hsize] at hnone ⊢
  exact Prod.ext (Option.map_eq_none_iff.mp hnone) rfl

/-- **A batch that is appended gives each sink its samples by their positions**: if no sink is spoilt
afterwards, then none was before, and every sink holds its channel's samples behind what it held. -/
theorem append_of_not_spoilt (v : SinkView S ω) {r : Reassembly S} (hr : r.Regular)
    {waveforms : Nat} {data : List UInt32} {w : ω}
    (hsize : r.layout.samplesIn? waveforms = some data.length)
    (h : ∀ sink ∈ (r.append waveforms data w).2.1.sinks, ¬v.spoilt sink) :
    (r.append waveforms data w).1 = none ∧
      (r.append waveforms data w).2.1.waveforms = r.waveforms + .ofNat waveforms ∧
      (r.append waveforms data w).2.1.sinks.map v.holds =
        List.zipWith (· ++ ·) (r.sinks.map v.holds) (r.layout.allSamples waveforms data) ∧
      ∀ sink ∈ r.sinks, ¬v.spoilt sink := by
  rw [append_of_size hsize] at h ⊢
  obtain ⟨hnone, hbefore⟩ := writeEach_of_not_spoilt v h
  refine ⟨by rw [hnone]; rfl, if_pos hnone, ?_, hbefore⟩
  exact holds_writeEach v hr.channels (by rw [Layout.length_allSamples, hr.layout]) hnone

/-- Data of the right size is refused by a sink only. -/
theorem append_eq_sink {r : Reassembly S} {waveforms : Nat} {data : List UInt32} {w : ω}
    {e : AcquireError} (hsize : r.layout.samplesIn? waveforms = some data.length)
    (h : (r.append waveforms data w).1 = some e) : ∃ channel fault, e = .sink channel fault := by
  rw [append_of_size hsize] at h
  obtain ⟨failure, -, rfl⟩ := Option.map_eq_some_iff.mp h
  exact ⟨failure.1, failure.2, rfl⟩

/-- An error that does not come from a sink changes nothing. -/
theorem append_of_error (v : SinkView S ω) {r : Reassembly S} {waveforms : Nat} {data : List UInt32}
    {w : ω} {e : AcquireError} (herror : (r.append waveforms data w).1 = some e)
    (h : ∀ sink ∈ (r.append waveforms data w).2.1.sinks, ¬v.spoilt sink) :
    (r.append waveforms data w).2 = (r, w) := by
  unfold append at herror h ⊢
  split at herror
  · rfl
  · rename_i batches hbatches
    split at herror
    · rename_i channel fault sinks w' hwrite
      simp only [hbatches, hwrite] at h
      have hnone := (writeEach_of_not_spoilt v (by rw [hwrite]; exact h)).1
      rw [hwrite] at hnone
      cases hnone
    · cases herror

/-- Appending to reliable sinks succeeds, and they stay reliable. -/
theorem append_eq_none {good : S → Prop} (hgood : Reliable good) {r : Reassembly S} {waveforms : Nat}
    {data : List UInt32} {w : ω} (hsize : r.layout.samplesIn? waveforms = some data.length)
    (h : ∀ sink ∈ r.sinks, good sink) :
    (r.append waveforms data w).1 = none ∧
      (r.append waveforms data w).2.1.waveforms = r.waveforms + .ofNat waveforms ∧
      ∀ sink ∈ (r.append waveforms data w).2.1.sinks, good sink := by
  have hwritten : let written := writeEach r.channels r.sinks (r.layout.allSamples waveforms data) w
      written.1 = none ∧ ∀ sink ∈ written.2.1, good sink := writeEach_of_reliable hgood h
  obtain ⟨hnone, hafter⟩ := hwritten
  rw [append_of_size hsize]
  exact ⟨by rw [hnone]; rfl, if_pos hnone, hafter⟩

/-- **What is appended to reliable sinks is there**: each gets its samples, and they stay reliable. -/
theorem append_of_reliable (v : SinkView S ω) {good : S → Prop} (hgood : Reliable good)
    {r : Reassembly S} (hr : r.Regular) {waveforms : Nat} {data : List UInt32} {w : ω}
    (hsize : r.layout.samplesIn? waveforms = some data.length) (h : ∀ sink ∈ r.sinks, good sink) :
    (r.append waveforms data w).1 = none ∧
      (r.append waveforms data w).2.1.waveforms = r.waveforms + .ofNat waveforms ∧
      (r.append waveforms data w).2.1.sinks.map v.holds =
        List.zipWith (· ++ ·) (r.sinks.map v.holds) (r.layout.allSamples waveforms data) ∧
      ∀ sink ∈ (r.append waveforms data w).2.1.sinks, good sink := by
  obtain ⟨hnone, hcount, hafter⟩ := append_eq_none hgood hsize h (w := w)
  refine ⟨hnone, hcount, ?_, hafter⟩
  rw [append_of_size hsize] at hnone ⊢
  exact holds_writeEach v hr.channels (by rw [Layout.length_allSamples, hr.layout])
    (Option.map_eq_none_iff.mp hnone)

end Reassembly

/-! ## 5. Keeping what was done changes nothing -/

/-- What a call on sinks comes to when no effects are kept. -/
def untraced {α : Type} (result : α × List (TracedSink S) × Traced ω) : α × List S × ω :=
  (result.1, result.2.1.map TracedSink.sink, result.2.2.world)

namespace Reassembly

omit [SampleSink S ω] in
/-- Opening does the same whether or not its effects are kept. -/
theorem untraced_openEach (factory : SinkFactory S ω) (channels : List UInt32) (w : Traced ω) :
    untraced (openEach (SinkFactory.traced factory) channels w) =
      openEach factory channels w.world := by
  induction channels generalizing w with
  | nil => rfl
  | cons channel channels ih =>
    rw [openEach, openEach, SinkFactory.traced]
    cases hopen : factory channel w.world with
    | mk result w' =>
      cases result with
      | error fault => rfl
      | ok sink =>
        have hmore := ih ({ w with world := w' }.did (.opens channel))
        have hworld : ({ w with world := w' }.did (.opens channel)).world = w' := rfl
        rw [hworld] at hmore
        simp only [← hmore]
        rfl

theorem untraced_writeEach (channels : List UInt32) (sinks : List (TracedSink S))
    (batches : List (List UInt16)) (w : Traced ω) :
    untraced (writeEach channels sinks batches w) =
      writeEach channels (sinks.map TracedSink.sink) batches w.world := by
  fun_induction writeEach channels sinks batches w with
  | case1 channel channels sink sinks samples more w fault after w' hwrite =>
    have hsame : SampleSink.write sink.sink samples w.world = (some fault, after.sink, w'.world) :=
      congrArg (fun result => (result.1, result.2.1.sink, result.2.2.world)) hwrite
    simp [writeEach, hsame, untraced]
  | case2 channel channels sink sinks samples more w after w' hwrite failure sinks' w'' hrest ih =>
    have hsame : SampleSink.write sink.sink samples w.world = (none, after.sink, w'.world) :=
      congrArg (fun result => (result.1, result.2.1.sink, result.2.2.world)) hwrite
    rw [hrest] at ih
    simp [writeEach, hsame, ← ih, untraced]
  | case3 channels sinks batches w hshort =>
    cases channels with
    | nil => rfl
    | cons channel channels =>
      cases sinks with
      | nil => rfl
      | cons sink sinks =>
        cases batches with
        | nil => rfl
        | cons samples more =>
          exact absurd rfl (hshort channel channels sink sinks samples more rfl rfl)

/-- A batch that is appended is written to the sinks, whether or not its effects are kept. -/
theorem writeEach_of_append {r : Reassembly (TracedSink S)} {waveforms : Nat} {data : List UInt32}
    {w : Traced ω} (hnone : (r.append waveforms data w).1 = none) :
    writeEach r.channels (r.sinks.map TracedSink.sink) (r.layout.allSamples waveforms data) w.world =
      (none, (r.append waveforms data w).2.1.sinks.map TracedSink.sink,
        (r.append waveforms data w).2.2.world) := by
  rw [← untraced_writeEach, writeEach_of_append_eq_none hnone]
  rfl

theorem untraced_finishEach (channels : List UInt32) (sinks : List (TracedSink S)) (w : Traced ω) :
    untraced (finishEach channels sinks w) =
      finishEach channels (sinks.map TracedSink.sink) w.world := by
  fun_induction finishEach channels sinks w with
  | case1 channel channels sink sinks w fault after w' hfinish failure sinks' w'' hrest ih =>
    have hsame : SampleSink.finish sink.sink w.world = (fault, after.sink, w'.world) :=
      congrArg (fun result => (result.1, result.2.1.sink, result.2.2.world)) hfinish
    rw [hrest] at ih
    simp [finishEach, hsame, ← ih, untraced]
  | case2 channels sinks w hshort =>
    cases channels with
    | nil => rfl
    | cons channel channels =>
      cases sinks with
      | nil => rfl
      | cons sink sinks => exact absurd rfl (hshort channel channels sink sinks rfl)

/-- The reassembly when no effects are kept. -/
def bare (r : Reassembly (TracedSink S)) : Reassembly S :=
  { channels := r.channels, layout := r.layout, sinks := r.sinks.map TracedSink.sink,
    waveforms := r.waveforms }

/-- **Appending does the same whether or not its effects are kept.** -/
theorem bare_append (r : Reassembly (TracedSink S)) (waveforms : Nat) (data : List UInt32)
    (w : Traced ω) :
    r.bare.append waveforms data w.world =
      ((r.append waveforms data w).1, (r.append waveforms data w).2.1.bare,
        (r.append waveforms data w).2.2.world) := by
  unfold append
  cases hsplit : r.layout.demultiplex waveforms data with
  | error e => simp [bare, hsplit]
  | ok batches =>
    have hwritten := untraced_writeEach r.channels r.sinks batches w
    simp only [bare, hsplit, ← hwritten]
    generalize writeEach r.channels r.sinks batches w = written
    obtain ⟨_ | ⟨channel, fault⟩, sinks, w'⟩ := written <;> rfl

/-- A sink whose calls are kept is its channel and the sink. -/
theorem zipWith_channel_sink (sinks : List (TracedSink S)) :
    List.zipWith TracedSink.mk (sinks.map TracedSink.channel) (sinks.map TracedSink.sink) = sinks := by
  induction sinks with
  | nil => rfl
  | cons sink sinks ih => rw [List.map_cons, List.map_cons, List.zipWith_cons_cons, ih]

/-- What appending does depends on the world, and not on what was done in it. -/
theorem append_congr (r : Reassembly (TracedSink S)) (waveforms : Nat) (data : List UInt32)
    {w w' : Traced ω} (h : w.world = w'.world) :
    (r.append waveforms data w).1 = (r.append waveforms data w').1 ∧
      (r.append waveforms data w).2.1 = (r.append waveforms data w').2.1 ∧
      (r.append waveforms data w).2.2.world = (r.append waveforms data w').2.2.world := by
  have hbare := bare_append r waveforms data w
  rw [h, bare_append r waveforms data w'] at hbare
  obtain ⟨hfailure, hafter⟩ := Prod.mk.inj hbare
  obtain ⟨hreassembly, hworld⟩ := Prod.mk.inj hafter
  obtain ⟨hchannels, hlayout, hsinks, hwaveforms⟩ := Reassembly.mk.inj hreassembly
  have howners := (map_append (g := TracedSink.channel) (fun _ _ _ => rfl) r waveforms data w').trans
    (map_append (g := TracedSink.channel) (fun _ _ _ => rfl) r waveforms data w).symm
  have hsame := zipWith_channel_sink (r.append waveforms data w').2.1.sinks
  rw [howners, hsinks, zipWith_channel_sink] at hsame
  refine ⟨hfailure.symm, ?_, hworld.symm⟩
  exact (Reassembly.mk.injEq ..).mpr ⟨hchannels.symm, hlayout.symm, hsame, hwaveforms.symm⟩

/-- What closing does depends on the world, and not on what was done in it. -/
theorem close_congr (r : Reassembly (TracedSink S)) {w w' : Traced ω} (h : w.world = w'.world) :
    (r.close w).1 = (r.close w').1 ∧ (r.close w).2.1 = (r.close w').2.1 ∧
      (r.close w).2.2.world = (r.close w').2.2.world := by
  have hfinish := untraced_finishEach r.channels r.sinks w
  rw [h, ← untraced_finishEach r.channels r.sinks w'] at hfinish
  obtain ⟨hfailure, hafter⟩ := Prod.mk.inj hfinish
  obtain ⟨hsinks, hworld⟩ := Prod.mk.inj hafter
  have howners :=
    (map_finishEach (g := TracedSink.channel) (fun _ _ => rfl) r.channels r.sinks w).trans
      (map_finishEach (g := TracedSink.channel) (fun _ _ => rfl) r.channels r.sinks w').symm
  have hsame := zipWith_channel_sink (finishEach r.channels r.sinks w).2.1
  rw [howners, hsinks, zipWith_channel_sink] at hsame
  refine ⟨?_, hsame.symm, hworld⟩
  simp only [close, hfailure]

end Reassembly

end Readout

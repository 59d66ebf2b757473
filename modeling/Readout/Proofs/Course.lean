/-
# The course of an acquisition

An acquisition begins in one of three ways (`Beginning`): it is refused before anything is done, a sink
cannot be opened, or all sinks are open and the exchange with the device starts.  Whatever the exchange
comes to, the sinks are finished afterwards.

* `acquire_eq` -- an acquisition is its beginning and what follows from it;
* `Reassembly.channels_openEach`, `Reassembly.effects_openEach` -- sinks are opened in the order of the
  channels;
* `Exchanged.holds_conclude` -- finishing keeps what the sinks hold.
-/
import Readout.Acquire.Run
import Readout.Proofs.Sinks

namespace Readout

variable {S ω : Type}

namespace Reassembly

/-! ## 1. Opening -/

/-- A sink is opened for each of the first channels. -/
theorem channels_openEach (factory : SinkFactory S ω) (channels : List UInt32) (w : Traced ω) :
    (openEach (SinkFactory.traced factory) channels w).2.1.map TracedSink.channel =
      channels.take (openEach (SinkFactory.traced factory) channels w).2.1.length := by
  induction channels generalizing w with
  | nil => rfl
  | cons channel channels ih =>
    rw [openEach, SinkFactory.traced]
    split
    · rfl
    · rename_i sink w' hopen
      split at hopen
      · cases hopen
      · cases hopen
        rw [List.map_cons, ih, List.length_cons, List.take_succ_cons]

/-- All sinks are open exactly if none failed to be opened. -/
theorem openEach_fst_eq_none_iff (factory : SinkFactory S ω) (channels : List UInt32) (w : ω) :
    (openEach factory channels w).1 = none ↔
      (openEach factory channels w).2.1.length = channels.length := by
  induction channels generalizing w with
  | nil => simp [openEach]
  | cons channel channels ih =>
    rw [openEach]
    split
    · simp
    · simpa using ih _

/-- What opening does: it opens a sink for each channel, up to the first that fails. -/
theorem effects_openEach (factory : SinkFactory S ω) (channels : List UInt32) (w : Traced ω) :
    (openEach (SinkFactory.traced factory) channels w).2.2.effects =
      ((channels.take ((openEach (SinkFactory.traced factory) channels w).2.1.length + 1)).map
        Effect.opens).reverse ++ w.effects := by
  induction channels generalizing w with
  | nil => rfl
  | cons channel channels ih =>
    rw [openEach, SinkFactory.traced]
    split
    · rename_i fault w' hopen
      split at hopen
      · cases hopen
        rfl
      · cases hopen
    · rename_i sink w' hopen
      split at hopen
      · cases hopen
      · cases hopen
        rw [ih, List.length_cons, List.take_succ_cons, List.map_cons, List.reverse_cons,
          List.append_assoc]
        rfl

end Reassembly

/-- A factory that opens a reliable sink for each of some channels. -/
def SinkFactory.OpensEach (good : S → Prop) (channels : List UInt32)
    (factory : SinkFactory S ω) : Prop :=
  ∀ channel ∈ channels, ∀ w, ∃ sink w', factory channel w = (.ok sink, w') ∧ good sink

theorem SinkFactory.OpensEach.traced {good : S → Prop} {channels : List UInt32}
    {factory : SinkFactory S ω} (h : factory.OpensEach good channels) :
    (SinkFactory.traced factory).OpensEach (fun t => good t.sink) channels := by
  intro channel hchannel w
  obtain ⟨sink, w', hopen, hgood⟩ := h channel hchannel w.world
  refine ⟨⟨channel, sink⟩, { w with world := w' }.did (.opens channel), ?_, hgood⟩
  rw [SinkFactory.traced, hopen]

/-- Sinks in memory that do not fail. -/
def sureFactory : SinkFactory MemorySink Unit := MemorySink.factory (fun _ => {}) fun _ => none

theorem sureFactory_opensEach (channels : List UInt32) :
    sureFactory.OpensEach MemorySink.Sure channels :=
  fun channel _ _ => ⟨{ channel := channel }, (), rfl, rfl, rfl⟩

/-- A factory that opens reliable sinks opens all sinks. -/
theorem Reassembly.openEach_of_opensEach {good : S → Prop} {channels : List UInt32}
    {factory : SinkFactory S ω} (h : factory.OpensEach good channels) (w : ω) :
    (openEach factory channels w).1 = none ∧
      ∀ sink ∈ (openEach factory channels w).2.1, good sink := by
  induction channels generalizing w with
  | nil => exact ⟨rfl, fun _ h => by cases h⟩
  | cons channel channels ih =>
    obtain ⟨sink, w', hopen, hgood⟩ := h channel List.mem_cons_self w
    obtain ⟨hnone, hmore⟩ := ih (fun other hother => h other (List.mem_cons_of_mem _ hother)) w'
    rw [openEach, hopen]
    refine ⟨hnone, ?_⟩
    intro t ht
    rcases List.mem_cons.mp ht with rfl | ht
    · exact hgood
    · exact hmore t ht

/-! ## 2. Beginning -/

/-- How an acquisition begins. -/
inductive Beginning (S ω : Type) where
  /-- Nothing is done. -/
  | refused (error : AcquireError)
  /-- The sink of a channel cannot be opened, after these were. -/
  | unopened (channel : UInt32) (fault : Fault) (sinks : List (TracedSink S)) (world : Traced ω)
  /-- All sinks are open. -/
  | opened (underway : Underway S ω)

namespace Beginning

/-- The sinks that are open. -/
def sinks : Beginning S ω → List (TracedSink S)
  | refused _ => []
  | unopened _ _ sinks _ => sinks
  | opened u => u.reassembly.sinks

/-- How an acquisition in some surroundings begins. -/
def of (c : AcquisitionConfig) (r : AcquisitionRequest) (s : Surroundings)
    (factory : SinkFactory S ω) (world : ω) : Beginning S ω :=
  if s.cancelledBy .before then refused .cancelled
  else
    match c.check r with
    | .error e => refused e
    | .ok () =>
      match Reassembly.openEach (SinkFactory.traced factory) r.channels ⟨world, []⟩ with
      | (some (channel, fault), sinks, w) => unopened channel fault sinks w
      | (none, sinks, w) => opened ⟨.start r.channels r.samples.toNat sinks, w⟩

variable {c : AcquisitionConfig} {r : AcquisitionRequest} {s : Surroundings}
  {factory : SinkFactory S ω} {world : ω}

/-- What is open is what `openEach` opened, when nothing is refused. -/
theorem of_eq_unopened {channel : UInt32} {fault : Fault} {sinks : List (TracedSink S)}
    {w : Traced ω} (h : of c r s factory world = .unopened channel fault sinks w) :
    Reassembly.openEach (SinkFactory.traced factory) r.channels ⟨world, []⟩ =
      (some (channel, fault), sinks, w) := by
  unfold of at h
  split at h
  · cases h
  · split at h
    · cases h
    · split at h
      · rename_i hopen
        cases h
        exact hopen
      · cases h

theorem of_eq_opened {u : Underway S ω} (h : of c r s factory world = .opened u) :
    ∃ sinks, Reassembly.openEach (SinkFactory.traced factory) r.channels ⟨world, []⟩ =
        (none, sinks, u.world) ∧
      u.reassembly = .start r.channels r.samples.toNat sinks := by
  unfold of at h
  split at h
  · cases h
  · split at h
    · cases h
    · split at h
      · cases h
      · rename_i hopen
        cases h
        exact ⟨_, hopen, rfl⟩

/-- The exchange starts with all sinks open, when nothing keeps it from doing so. -/
theorem of_eq_opened_of_opensEach {good : S → Prop} (world : ω) (huncancelled : s.cancelAt = none)
    (hcheck : c.check r = .ok ()) (hopens : factory.OpensEach good r.channels) :
    ∃ u, of c r s factory world = .opened u ∧
      u.reassembly.sinks =
        (Reassembly.openEach (SinkFactory.traced factory) r.channels ⟨world, []⟩).2.1 ∧
      ∀ sink ∈ u.reassembly.sinks, good sink.sink := by
  obtain ⟨hnone, hgood⟩ := Reassembly.openEach_of_opensEach hopens.traced ⟨world, []⟩
  have hbefore : s.cancelledBy .before = false := by
    rw [Surroundings.cancelledBy, huncancelled]
    rfl
  unfold of
  rw [if_neg (by rw [hbefore]; exact Bool.false_ne_true), hcheck]
  generalize Reassembly.openEach (SinkFactory.traced factory) r.channels ⟨world, []⟩ = opened
    at hnone hgood ⊢
  obtain ⟨_ | failure, sinks, w⟩ := opened
  · exact ⟨_, rfl, rfl, hgood⟩
  · cases hnone

/-- The open sinks are those of the first channels. -/
theorem channels_sinks (b : Beginning S ω) (h : of c r s factory world = b) :
    b.sinks.map TracedSink.channel = r.channels.take b.sinks.length := by
  have hopen := Reassembly.channels_openEach factory r.channels ⟨world, []⟩
  cases b with
  | refused e => rfl
  | unopened channel fault sinks w =>
    rw [of_eq_unopened h] at hopen
    exact hopen
  | opened u =>
    obtain ⟨sinks, heq, hu⟩ := of_eq_opened h
    rw [heq] at hopen
    rw [Beginning.sinks, hu]
    exact hopen

/-- All sinks are open exactly when the exchange starts. -/
theorem length_sinks_opened {u : Underway S ω} (h : of c r s factory world = .opened u) :
    u.reassembly.sinks.length = r.channels.length := by
  obtain ⟨sinks, heq, hu⟩ := of_eq_opened h
  have hnone := Reassembly.openEach_fst_eq_none_iff (SinkFactory.traced factory) r.channels ⟨world, []⟩
  rw [heq] at hnone
  rw [hu]
  exact hnone.mp rfl

/-- When the exchange starts, no sink failed to be opened. -/
theorem openEach_of_opened {u : Underway S ω} (h : of c r s factory world = .opened u) :
    (Reassembly.openEach factory r.channels world).1 = none := by
  obtain ⟨sinks, hopen, -⟩ := of_eq_opened h
  have hbare := Reassembly.untraced_openEach factory r.channels ⟨world, []⟩
  rw [hopen] at hbare
  exact (congrArg Prod.fst hbare).symm

/-- The sizes of a fresh reassembly agree. -/
theorem regular_opened {u : Underway S ω} (h : of c r s factory world = .opened u) :
    u.reassembly.Regular ∧ u.reassembly.channels = r.channels ∧ u.reassembly.layout = r.layout := by
  have hlen := length_sinks_opened h
  obtain ⟨sinks, heq, hu⟩ := of_eq_opened h
  rw [hu] at hlen ⊢
  exact ⟨⟨hlen.symm, hlen.symm⟩, rfl, rfl⟩

/-- A fresh reassembly has got nothing. -/
theorem waveforms_opened {u : Underway S ω} (h : of c r s factory world = .opened u) :
    u.reassembly.waveforms = 0 := by
  obtain ⟨sinks, -, hu⟩ := of_eq_opened h
  rw [hu]
  rfl

end Beginning

section

variable [SampleSink S ω]

/-- **An acquisition is its beginning and what follows from it.** -/
theorem acquire_eq (c : AcquisitionConfig) (r : AcquisitionRequest) (label : String)
    (s : Surroundings) (factory : SinkFactory S ω) (world : ω) :
    acquire c r label s factory world =
      match Beginning.of c r s factory world with
      | .refused e => .of (some (.error e)) [] ⟨world, []⟩ 0 s.arrivals
      | .unopened channel fault sinks w =>
        .of (some (.error (.sink channel fault))) sinks w 0 s.arrivals
      | .opened u => (exchange c r label s u).conclude := by
  unfold acquire Beginning.of
  by_cases hcancelled : s.cancelledBy .before = true
  · rw [if_pos hcancelled, if_pos hcancelled]
  · rw [if_neg hcancelled, if_neg hcancelled]
    cases c.check r with
    | error e => rfl
    | ok done =>
      simp only
      generalize Reassembly.openEach (SinkFactory.traced factory) r.channels ⟨world, []⟩ = opened
      obtain ⟨_ | ⟨channel, fault⟩, sinks, w⟩ := opened <;> rfl

/-! ## 3. The end -/

namespace Exchanged

/-- What finishing does not change of a sink is the same at the end. -/
theorem map_sinks_conclude {β : Type} {g : TracedSink S → β}
    (hg : ∀ (sink : TracedSink S) (w : Traced ω), g (SampleSink.finish sink w).2.1 = g sink)
    (e : Exchanged S ω) :
    e.conclude.sinks.map (fun p => g ⟨p.1, p.2⟩) = e.underway.reassembly.sinks.map g := by
  unfold conclude
  cases e.outcome with
  | none => simp [Run.of]
  | some outcome =>
    have hfinish := Reassembly.map_finishEach hg e.underway.reassembly.channels
      e.underway.reassembly.sinks e.underway.world
    exact List.map_map.trans hfinish

/-- Finishing keeps what the sinks hold. -/
theorem holds_conclude (v : SinkView S ω) (e : Exchanged S ω) :
    e.conclude.sinks.map (fun p => v.holds p.2) =
      e.underway.reassembly.sinks.map v.traced.holds :=
  map_sinks_conclude (g := v.traced.holds) v.traced.holds_finish e

/-- Finishing spoils no sink. -/
theorem spoilt_conclude (v : SinkView S ω) (e : Exchanged S ω) :
    (∀ p ∈ e.conclude.sinks, ¬v.spoilt p.2) →
      ∀ sink ∈ e.underway.reassembly.sinks, ¬v.traced.spoilt sink := by
  intro h sink hsink
  have hmap := map_sinks_conclude (g := v.traced.spoilt)
    (fun sink w => propext (v.traced.spoilt_finish sink w)) e
  obtain ⟨p, hp, heq⟩ := List.mem_map.mp (hmap ▸ List.mem_map_of_mem hsink)
  rw [← heq]
  exact h p hp

@[simp] theorem receives_conclude (e : Exchanged S ω) : e.conclude.receives = e.receives := by
  unfold conclude
  cases e.outcome <;> rfl

@[simp] theorem left_conclude (e : Exchanged S ω) : e.conclude.left = e.left := by
  unfold conclude
  cases e.outcome <;> rfl

/-- With reliable sinks, an exchange that succeeded ends well. -/
theorem outcome_conclude_of_reliable {good : S → Prop} (hgood : Reliable good) {e : Exchanged S ω}
    {summary : Summary} (h : e.outcome = some (.ok summary))
    (hsinks : ∀ sink ∈ e.underway.reassembly.sinks, good sink.sink) :
    e.conclude.outcome = some (.ok summary) := by
  have hnone : (e.underway.reassembly.close e.underway.world).1 = none := by
    rw [Reassembly.close]
    have hfinish : (Reassembly.finishEach e.underway.reassembly.channels
        e.underway.reassembly.sinks e.underway.world).1 = none :=
      Reassembly.finishEach_of_reliable hgood.traced hsinks
    simp [hfinish]
  unfold conclude
  rw [h]
  simp only [hnone]
  rfl

theorem outcome_conclude_eq_none_iff {e : Exchanged S ω} :
    e.conclude.outcome = none ↔ e.outcome = none := by
  unfold conclude
  cases e.outcome with
  | none => simp [Run.of]
  | some outcome => simp [Run.of]

/-- An exchange that failed ends with the same error. -/
theorem outcome_conclude_of_error {e : Exchanged S ω} {error : AcquireError}
    (h : e.outcome = some (.error error)) : e.conclude.outcome = some (.error error) := by
  unfold conclude
  rw [h]
  rfl

/-- An error that is not a sink's comes from the exchange. -/
theorem outcome_of_conclude_error {e : Exchanged S ω} {error : AcquireError}
    (h : e.conclude.outcome = some (.error error))
    (hsink : ∀ channel fault, error ≠ .sink channel fault) : e.outcome = some (.error error) := by
  unfold conclude Reassembly.close at h
  cases houtcome : e.outcome with
  | none =>
    rw [houtcome] at h
    cases h
  | some outcome =>
    rw [houtcome] at h
    simp only [Run.of, Option.some.injEq] at h
    split at h
    · rename_i summary closing hfailure
      obtain ⟨failure, -, rfl⟩ := Option.map_eq_some_iff.mp hfailure
      exact absurd (Except.error.inj h).symm (hsink failure.1 failure.2)
    · rw [h]

/-- Only an exchange that succeeded ends well, with the same result. -/
theorem outcome_of_conclude_ok {e : Exchanged S ω} {summary : Summary}
    (h : e.conclude.outcome = some (.ok summary)) : e.outcome = some (.ok summary) := by
  unfold conclude at h
  cases houtcome : e.outcome with
  | none =>
    rw [houtcome] at h
    cases h
  | some outcome =>
    rw [houtcome] at h
    simp only [Run.of, Option.some.injEq] at h
    split at h
    · cases h
    · rw [h]

end Exchanged

end

end Readout

/-
# Sinks are finished once

An acquisition finishes its sinks when the exchange with the device is over, whatever it came to, and
writes nothing to them afterwards.  The exchange itself finishes nothing.

There is one way out on which sinks are left as they are: a sink that cannot be opened ends the
acquisition, and those that were opened before it are not finished.

* `acquire_finishes_once_iff` -- every open sink is finished exactly once, but on that one way out;
* `opened_sink_is_left` -- an acquisition that takes it.
-/
import Mathlib.Data.List.Nodup
import Readout.Proofs.Exchange

namespace Readout

variable {S ω : Type} [SampleSink S ω]

/-! ## 1. What is done to sinks -/

/-- Whether an effect finishes a sink. -/
def Effect.isFinish : Effect → Bool
  | finishes _ => true
  | _ => false

namespace Reassembly

/-- Writing to sinks adds writes to what was done, and nothing else. -/
theorem effects_writeEach (channels : List UInt32) (sinks : List (TracedSink S))
    (batches : List (List UInt16)) (w : Traced ω) :
    ∃ added, (writeEach channels sinks batches w).2.2.effects = added ++ w.effects ∧
      ∀ effect ∈ added, ∃ channel samples, effect = Effect.writes channel samples := by
  fun_induction writeEach channels sinks batches w with
  | case1 channel channels sink sinks samples more w fault after w' hwrite =>
    have heffects : w'.effects = .writes sink.channel samples.length :: w.effects := by
      have hworld := congrArg (fun result => result.2.2.effects) hwrite
      exact hworld.symm
    refine ⟨[.writes sink.channel samples.length], heffects, ?_⟩
    intro effect heffect
    exact ⟨_, _, List.mem_singleton.mp heffect⟩
  | case2 channel channels sink sinks samples more w after w' hwrite failure sinks' w'' hrest ih =>
    have heffects : w'.effects = .writes sink.channel samples.length :: w.effects := by
      have hworld := congrArg (fun result => result.2.2.effects) hwrite
      exact hworld.symm
    obtain ⟨added, hadded, hwrites⟩ := ih
    rw [hrest] at hadded
    refine ⟨added ++ [.writes sink.channel samples.length], ?_, ?_⟩
    · rw [hadded, heffects, List.append_assoc]
      rfl
    · intro effect heffect
      rcases List.mem_append.mp heffect with heffect | heffect
      · exact hwrites effect heffect
      · exact ⟨_, _, List.mem_singleton.mp heffect⟩
  | case3 => exact ⟨[], rfl, fun _ h => by cases h⟩

/-- Appending adds writes to what was done, and nothing else. -/
theorem effects_append (r : Reassembly (TracedSink S)) (waveforms : Nat) (data : List UInt32)
    (w : Traced ω) :
    ∃ added, (r.append waveforms data w).2.2.effects = added ++ w.effects ∧
      ∀ effect ∈ added, ∃ channel samples, effect = Effect.writes channel samples := by
  unfold append
  split
  · exact ⟨[], rfl, fun _ h => by cases h⟩
  · rename_i batches hbatches
    have hadded := effects_writeEach r.channels r.sinks batches w
    split <;> rename_i hwrite <;> rw [hwrite] at hadded <;> exact hadded

/-- Finishing finishes every sink, in order. -/
theorem effects_finishEach {channels : List UInt32} {sinks : List (TracedSink S)} (w : Traced ω)
    (h : channels.length = sinks.length) :
    (finishEach channels sinks w).2.2.effects =
      (sinks.map fun sink => Effect.finishes sink.channel).reverse ++ w.effects := by
  fun_induction finishEach channels sinks w with
  | case1 channel channels sink sinks w fault after w' hfinish failure sinks' w'' hrest ih =>
    have heffects : w'.effects = .finishes sink.channel :: w.effects := by
      have hworld := congrArg (fun result => result.2.2.effects) hfinish
      exact hworld.symm
    have hadded := ih (by simpa using h)
    rw [hrest] at hadded
    rw [hadded, heffects, List.map_cons, List.reverse_cons, List.append_assoc]
    rfl
  | case2 channels sinks w hshort =>
    cases sinks with
    | nil => rfl
    | cons sink sinks =>
      obtain ⟨channel, channels, rfl⟩ := List.exists_of_length_succ channels h
      exact absurd rfl (hshort channel channels sink sinks rfl)

end Reassembly

/-! ## 2. What an acquisition finishes -/

section

variable {c : AcquisitionConfig} {r : AcquisitionRequest} {label : String} {s : Surroundings}
  {factory : SinkFactory S ω} {world : ω}

/-- The sinks of the channels are there, and none was finished. -/
def FinishesNone (channels : List UInt32) (reassembly : Reassembly (TracedSink S))
    (w : Traced ω) : Prop :=
  reassembly.channels = channels ∧ reassembly.sinks.map TracedSink.channel = channels ∧
    ∀ effect ∈ w.effects, effect.isFinish = false

theorem finishesNone_lasting (channels : List UInt32) :
    Lasting (FinishesNone (S := S) (ω := ω) channels) where
  link := by
    rintro reassembly w effect hlink ⟨hchannels, hsinks, heffects⟩
    refine ⟨hchannels, hsinks, ?_⟩
    intro other hother
    rcases List.mem_cons.mp hother with rfl | hother
    · cases other <;> first | rfl | cases hlink
    · exact heffects other hother
  append := by
    rintro reassembly waveforms data w ⟨hchannels, hsinks, heffects⟩
    obtain ⟨hframe, -, -⟩ := Reassembly.append_frame reassembly waveforms data w
    obtain ⟨added, hadded, hwrites⟩ := Reassembly.effects_append reassembly waveforms data w
    refine ⟨hframe.trans hchannels, ?_, ?_⟩
    · rw [Reassembly.map_append (fun _ _ _ => rfl), hsinks]
    · intro other hother
      rw [hadded] at hother
      rcases List.mem_append.mp hother with hother | hother
      · obtain ⟨channel, samples, rfl⟩ := hwrites other hother
        rfl
      · exact heffects other hother

/-- The exchange finishes no sink. -/
theorem exchange_finishes_none (label : String) {u : Underway S ω}
    (hbegin : Beginning.of c r s factory world = .opened u) :
    FinishesNone r.channels (exchange c r label s u).underway.reassembly
      (exchange c r label s u).underway.world := by
  have hstart : ∀ effect ∈ u.world.effects, effect.isFinish = false := by
    obtain ⟨sinks, hopen, -⟩ := Beginning.of_eq_opened hbegin
    have heffects := Reassembly.effects_openEach factory r.channels ⟨world, []⟩
    rw [hopen, List.append_nil] at heffects
    intro effect heffect
    rw [heffects, List.mem_reverse] at heffect
    obtain ⟨channel, -, rfl⟩ := List.mem_map.mp heffect
    rfl
  obtain ⟨-, hchannels, -⟩ := Beginning.regular_opened hbegin
  have hsinks := Beginning.channels_sinks _ hbegin
  rw [Beginning.sinks, Beginning.length_sinks_opened hbegin, List.take_length] at hsinks
  exact (finishesNone_lasting r.channels).exchange label ⟨hchannels, hsinks, hstart⟩

omit [SampleSink S ω] in
/-- There is a sink for each channel. -/
theorem FinishesNone.length {channels : List UInt32} {reassembly : Reassembly (TracedSink S)}
    {w : Traced ω} (h : FinishesNone channels reassembly w) :
    reassembly.channels.length = reassembly.sinks.length := by
  obtain ⟨hchannels, hsinks, -⟩ := h
  have hsame := congrArg List.length hsinks
  rw [List.length_map] at hsame
  rw [hchannels, hsame]

/-- An exchange that is over finishes its sinks after everything else. -/
theorem Exchanged.effects_conclude {e : Exchanged S ω}
    (hlength : e.underway.reassembly.channels.length = e.underway.reassembly.sinks.length)
    (hover : e.outcome ≠ none) :
    e.conclude.effects = e.underway.world.effects.reverse ++
      e.underway.reassembly.sinks.map fun sink => Effect.finishes sink.channel := by
  obtain ⟨outcome, houtcome⟩ := Option.ne_none_iff_exists'.mp hover
  have heq : e.conclude.effects = (Reassembly.finishEach e.underway.reassembly.channels
      e.underway.reassembly.sinks e.underway.world).2.2.effects.reverse := by
    rw [Exchanged.conclude, houtcome]
    rfl
  rw [heq, Reassembly.effects_finishEach e.underway.world hlength, List.reverse_append,
    List.reverse_reverse]

/-- An acquisition whose exchange is over finishes the sinks of all channels in order, after everything
else. -/
theorem effects_of_opened {u : Underway S ω}
    (hbegin : Beginning.of c r s factory world = .opened u)
    (hover : (acquire c r label s factory world).outcome ≠ none) :
    (acquire c r label s factory world).sinks.map Prod.fst = r.channels ∧
      ∃ before, (acquire c r label s factory world).effects =
          before ++ r.channels.map Effect.finishes ∧
        ∀ effect ∈ before, effect.isFinish = false := by
  have hnone := exchange_finishes_none (s := s) label hbegin
  have hlength := hnone.length
  obtain ⟨-, hsinks, heffects⟩ := hnone
  have hacquire : acquire c r label s factory world = (exchange c r label s u).conclude := by
    rw [acquire_eq, hbegin]
  rw [hacquire] at hover ⊢
  generalize exchange c r label s u = e at hlength hsinks heffects hover ⊢
  constructor
  · have hkept := Exchanged.map_sinks_conclude (g := TracedSink.channel) (fun _ _ => rfl) e
    rw [hsinks] at hkept
    exact hkept
  · have hmap : e.underway.reassembly.sinks.map (fun sink => Effect.finishes sink.channel) =
        r.channels.map Effect.finishes := by
      rw [← hsinks, List.map_map]
      rfl
    refine ⟨e.underway.world.effects.reverse, ?_, ?_⟩
    · rw [Exchanged.effects_conclude hlength, hmap]
      exact fun hpending => hover (Exchanged.outcome_conclude_eq_none_iff.mpr hpending)
    · intro effect heffect
      exact heffects effect (List.mem_reverse.mp heffect)

/-- An acquisition that cannot open a sink finishes none. -/
theorem effects_of_unopened (label : String) {channel : UInt32} {fault : Fault}
    {sinks : List (TracedSink S)} {w : Traced ω}
    (hbegin : Beginning.of c r s factory world = .unopened channel fault sinks w) :
    ∀ effect ∈ (acquire c r label s factory world).effects,
      ∃ opened, effect = Effect.opens opened := by
  have hopen := Beginning.of_eq_unopened hbegin
  have heffects := Reassembly.effects_openEach factory r.channels ⟨world, []⟩
  rw [hopen, List.append_nil] at heffects
  rw [acquire_eq, hbegin]
  intro effect heffect
  have hreversed : effect ∈ w.effects.reverse := heffect
  rw [heffects, List.reverse_reverse] at hreversed
  obtain ⟨opened, -, rfl⟩ := List.mem_map.mp hreversed
  exact ⟨opened, rfl⟩

/-! ## 3. Once each -/

/-- What is not in the first part of a list lies behind it. -/
theorem exists_behind {α : Type} {before after earlier later : List α} {x : α} (hx : x ∉ before)
    (h : before ++ after = earlier ++ x :: later) :
    ∃ between, earlier = before ++ between ∧ after = between ++ x :: later := by
  rcases List.append_eq_append_iff.mp h with ⟨between, hearlier, hafter⟩ | ⟨between, hbefore, hlater⟩
  · exact ⟨between, hearlier, hafter⟩
  · cases between with
    | nil =>
      rw [List.append_nil] at hbefore
      exact ⟨[], by rw [List.append_nil, hbefore], hlater.symm⟩
    | cons first between =>
      obtain ⟨rfl, -⟩ := List.cons.inj hlater
      refine absurd ?_ hx
      rw [hbefore]
      exact List.mem_append_right _ List.mem_cons_self

/-- What comes after the finish of a sink are finishes of others. -/
theorem mem_after_finish {before earlier later : List Effect} {channels : List UInt32}
    {channel : UInt32} {effect : Effect} (hbefore : ∀ other ∈ before, other.isFinish = false)
    (h : before ++ channels.map Effect.finishes = earlier ++ .finishes channel :: later)
    (heffect : effect ∈ later) : ∃ other, effect = Effect.finishes other := by
  have hfirst : Effect.finishes channel ∉ before := fun hmem => by cases hbefore _ hmem
  obtain ⟨between, -, hfinishes⟩ := exists_behind hfirst h
  have hmem : effect ∈ channels.map Effect.finishes := by
    rw [hfinishes]
    exact List.mem_append_right _ (List.mem_cons_of_mem _ heffect)
  obtain ⟨other, -, rfl⟩ := List.mem_map.mp hmem
  exact ⟨other, rfl⟩

/-- Some sinks are open when another one cannot be opened. -/
def OpensInPart (c : AcquisitionConfig) (r : AcquisitionRequest) (s : Surroundings)
    (factory : SinkFactory S ω) (world : ω) : Prop :=
  ∃ channel fault sinks w,
    Beginning.of c r s factory world = .unopened channel fault sinks w ∧ sinks ≠ []

theorem count_finishes_of_unopened {channel : UInt32} {fault : Fault} {sinks : List (TracedSink S)}
    {w : Traced ω} (hbegin : Beginning.of c r s factory world = .unopened channel fault sinks w)
    (other : UInt32) :
    (acquire c r label s factory world).effects.count (.finishes other) = 0 := by
  refine List.count_eq_zero.mpr ?_
  intro hmem
  obtain ⟨opened, heq⟩ := effects_of_unopened label hbegin _ hmem
  cases heq

theorem count_finishes_of_opened {u : Underway S ω}
    (hbegin : Beginning.of c r s factory world = .opened u)
    (hover : (acquire c r label s factory world).outcome ≠ none) {sink : UInt32 × S}
    (hsink : sink ∈ (acquire c r label s factory world).sinks) :
    (acquire c r label s factory world).effects.count (.finishes sink.1) = 1 := by
  obtain ⟨hsinks, before, heffects, hbefore⟩ := effects_of_opened hbegin hover
  have hchannel : sink.1 ∈ r.channels := hsinks ▸ List.mem_map_of_mem hsink
  have hnone : before.count (.finishes sink.1) = 0 :=
    List.count_eq_zero.mpr fun hmem => by cases hbefore _ hmem
  have hdistinct : (r.channels.map Effect.finishes).Nodup :=
    List.Nodup.map (fun _ _ h => Effect.finishes.inj h) r.acceptable.distinct
  rw [heffects, List.count_append, hnone, Nat.zero_add]
  exact List.count_eq_one_of_mem hdistinct (List.mem_map_of_mem hchannel)

/-- Nothing is written to a sink after its finish. -/
theorem no_write_after_finish
    (hover : (acquire c r label s factory world).outcome ≠ none) {earlier later : List Effect}
    {channel : UInt32} (samples : Nat)
    (h : (acquire c r label s factory world).effects = earlier ++ .finishes channel :: later) :
    .writes channel samples ∉ later := by
  intro hwrite
  have hfinish : Effect.finishes channel ∈ (acquire c r label s factory world).effects := by
    rw [h]
    exact List.mem_append_right _ List.mem_cons_self
  cases hbegin : Beginning.of c r s factory world with
  | refused e =>
    rw [acquire_eq, hbegin] at hfinish
    cases hfinish
  | unopened failing fault sinks w =>
    obtain ⟨opened, heq⟩ := effects_of_unopened label hbegin _ hfinish
    cases heq
  | opened u =>
    obtain ⟨-, before, heffects, hbefore⟩ := effects_of_opened hbegin hover
    obtain ⟨other, heq⟩ := mem_after_finish hbefore (heffects.symm.trans h) hwrite
    cases heq

/-- Where no sink is left without another, every open one is finished once. -/
theorem count_finishes_of_whole (hover : (acquire c r label s factory world).outcome ≠ none)
    (hwhole : ¬OpensInPart c r s factory world) {sink : UInt32 × S}
    (hsink : sink ∈ (acquire c r label s factory world).sinks) :
    (acquire c r label s factory world).effects.count (.finishes sink.1) = 1 := by
  cases hbegin : Beginning.of c r s factory world with
  | refused e =>
    rw [acquire_eq, hbegin] at hsink
    cases hsink
  | unopened channel fault sinks w =>
    have hnone : sinks = [] := by
      by_contra hsome
      exact hwhole ⟨channel, fault, sinks, w, hbegin, hsome⟩
    rw [acquire_eq, hbegin, hnone] at hsink
    cases hsink
  | opened u => exact count_finishes_of_opened hbegin hover hsink

/-- Where some sinks are open when another one cannot be opened, there is one that is not finished. -/
theorem exists_sink_of_part (label : String) (h : OpensInPart c r s factory world) :
    ∃ sink ∈ (acquire c r label s factory world).sinks,
      (acquire c r label s factory world).effects.count (.finishes sink.1) = 0 := by
  obtain ⟨channel, fault, sinks, w, hbegin, hsome⟩ := h
  obtain ⟨sink, more, rfl⟩ := List.exists_cons_of_ne_nil hsome
  refine ⟨(sink.channel, sink.sink), ?_, count_finishes_of_unopened hbegin _⟩
  rw [acquire_eq, hbegin]
  exact List.mem_cons_self

/-- **Every open sink is finished exactly once, but when only some could be opened**; then none is
finished.  And nothing is written to a sink after its finish. -/
theorem acquire_finishes_once_iff
    (hover : (acquire c r label s factory world).outcome ≠ none) :
    ((∀ sink ∈ (acquire c r label s factory world).sinks,
        (acquire c r label s factory world).effects.count (.finishes sink.1) = 1) ↔
          ¬OpensInPart c r s factory world) ∧
      (OpensInPart c r s factory world → ∀ sink ∈ (acquire c r label s factory world).sinks,
        (acquire c r label s factory world).effects.count (.finishes sink.1) = 0) ∧
      ∀ earlier later channel samples, (acquire c r label s factory world).effects =
        earlier ++ .finishes channel :: later → .writes channel samples ∉ later := by
  refine ⟨?_, ?_, ?_⟩
  · constructor
    · intro honce hpart
      obtain ⟨sink, hsink, hnever⟩ := exists_sink_of_part label hpart
      rw [honce sink hsink] at hnever
      cases hnever
    · intro hwhole sink hsink
      exact count_finishes_of_whole hover hwhole hsink
  · rintro ⟨channel, fault, sinks, w, hbegin, -⟩ sink -
    exact count_finishes_of_unopened hbegin sink.1
  · intro earlier later channel samples h
    exact no_write_after_finish hover samples h

end

/-- A request for one sample from each of two channels. -/
def firstTwo : AcquisitionRequest where
  channels := [0, 1]
  waveforms := 1
  samples := 1
  softwareTrigger := false
  acceptable := ⟨by decide, by simp [maxChannel], by decide, by decide, by decide, by decide⟩

/-- The link is closed before the answer comes. -/
theorem acquire_finishes_both :
    let run := acquire { mode := .single } firstTwo "" { arrivals := [.fails (.closed "gone")] }
      sureFactory ()
    run.outcome ≠ none ∧ run.sinks.map Prod.fst = [0, 1] ∧
      ∀ sink ∈ run.sinks, run.effects.count (.finishes sink.1) = 1 := by
  intro run
  have hover : run.outcome ≠ none := by decide +kernel
  refine ⟨hover, by decide +kernel, (acquire_finishes_once_iff hover).1.mpr ?_⟩
  rintro ⟨channel, fault, sinks, w, hbegin, -⟩
  have hcheck : ({ mode := .single } : AcquisitionConfig).check firstTwo = .ok () := by
    decide +kernel
  obtain ⟨u, hopened, -, -⟩ := Beginning.of_eq_opened_of_opensEach
    (s := { arrivals := [.fails (.closed "gone")] }) () rfl hcheck (sureFactory_opensEach _)
  rw [hopened] at hbegin
  cases hbegin

/-- Sinks in memory, but none for channel 1. -/
def noneForOne : SinkFactory MemorySink Unit :=
  MemorySink.factory (fun _ => {}) fun channel => if channel = 1 then some (.other "disk full") else none

/-- **An open sink is left unfinished**: channel 0 has its sink when that of channel 1 cannot be opened,
and the acquisition ends without finishing it. -/
theorem opened_sink_is_left :
    let run := acquire { mode := .single } firstTwo "" { arrivals := [] } noneForOne ()
    run.outcome = some (.error (.sink 1 (.other "disk full"))) ∧ run.sinks.map Prod.fst = [0] ∧
      run.effects.count (.finishes 0) = 0 := by
  decide +kernel

end Readout

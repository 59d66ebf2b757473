/-
# The order of effects

An acquisition works with others: a factory opens its sinks, the link carries its request, and the sinks get
what comes back.  They rely on when they are called.  No chunk may come before the link knows how many may
wait; nothing may be asked for that was not requested; and when a sink cannot be opened, the device should
not hear of it.

The effects of an acquisition come in phases (`Phased`): sinks are opened, the request is sent, answers are
asked for and written, and the sinks are finished.

* `acquire_phased` -- the phases of an acquisition;
* `AcquisitionConfig.asks_requestMessage` -- the message that is sent reads back as the request;
* `acquire_in_order` -- what is done, and before what.
-/
import Readout.Proofs.Finishing
import Readout.Proofs.MessageSizes
import Readout.Proofs.Messages

namespace Readout

open Control

variable {S ω : Type}

/-! ## 1. Phases -/

namespace Effect

/-- The message that a call sends, or tries to. -/
def request? : Effect → Option Bytes
  | sends message => some message
  | failsToSend message => some message
  | _ => none

/-- Whether an effect is a call that sends a message, or tries to. -/
def isRequest (effect : Effect) : Bool := effect.request?.isSome

/-- Whether an effect sets how many messages may wait. -/
def isCapacity : Effect → Bool
  | setsCapacity _ => true
  | _ => false

/-- Whether an effect asks for an answer or writes one to a sink. -/
def isAnswer : Effect → Bool
  | awaits _ => true
  | writes _ _ => true
  | _ => false

/-- Whether an effect opens a sink or finishes it. -/
def isFraming : Effect → Bool
  | opens _ => true
  | finishes _ => true
  | _ => false

end Effect

/-- What is done on the link before the request is sent. -/
def preparation (c : AcquisitionConfig) (r : AcquisitionRequest) : List Effect :=
  match c.mode with
  | .single => []
  | .streaming => [.setsCapacity (c.creditFor r)]

/-- The call that sends the request. -/
def requestCall (c : AcquisitionConfig) (r : AcquisitionRequest) (label : String) (s : Surroundings) :
    Effect :=
  match s.sendFault with
  | none => .sends (c.requestMessage r label)
  | some _ => .failsToSend (c.requestMessage r label)

/-- Effects that come in the phases of an acquisition. -/
inductive Phased (c : AcquisitionConfig) (r : AcquisitionRequest) (label : String) (s : Surroundings) :
    List Effect → Prop
  /-- Nothing is done on the link. -/
  | silent {effects : List Effect} (framing : ∀ effect ∈ effects, effect.isFraming = true) :
      Phased c r label s effects
  /-- The request is sent behind its preparation, and answers come only if that succeeds. -/
  | asked {opened taken finished : List Effect}
      (opens : ∀ effect ∈ opened, effect.isFraming = true)
      (answers : ∀ effect ∈ taken, effect.isAnswer = true)
      (finishes : ∀ effect ∈ finished, effect.isFraming = true)
      (sent : taken ≠ [] → s.sendFault = none) :
      Phased c r label s
        (opened ++ (preparation c r ++ requestCall c r label s :: (taken ++ finished)))

section

variable {c : AcquisitionConfig} {r : AcquisitionRequest} {label : String} {s : Surroundings}

theorem requestCall_of_sent (h : s.sendFault = none) :
    requestCall c r label s = .sends (c.requestMessage r label) := by
  rw [requestCall, h]

theorem request?_requestCall :
    (requestCall c r label s).request? = some (c.requestMessage r label) := by
  unfold requestCall
  cases s.sendFault <;> rfl

theorem mem_preparation {effect : Effect} (h : effect ∈ preparation c r) :
    c.mode = .streaming ∧ effect = .setsCapacity (c.creditFor r) := by
  unfold preparation at h
  cases hmode : c.mode with
  | single =>
    rw [hmode] at h
    cases h
  | streaming =>
    rw [hmode] at h
    exact ⟨rfl, List.mem_singleton.mp h⟩

theorem effects_prepared (u : Underway S ω) :
    (prepared c r u).world.effects = (preparation c r).reverse ++ u.world.effects := by
  unfold prepared preparation
  cases c.mode <;> rfl

/-! ## 2. The phases of an acquisition -/

variable [SampleSink S ω]

/-- Since some effects, only answers were asked for and written. -/
def OnlyAnswers (since : List Effect) (_ : Reassembly (TracedSink S)) (w : Traced ω) : Prop :=
  ∃ taken, w.effects = taken ++ since ∧ ∀ effect ∈ taken, effect.isAnswer = true

theorem onlyAnswers_answering (since : List Effect) :
    Answering (OnlyAnswers (S := S) (ω := ω) since) where
  awaits := by
    rintro reassembly w wait ⟨taken, heffects, htaken⟩
    refine ⟨.awaits wait :: taken, congrArg (Effect.awaits wait :: ·) heffects, ?_⟩
    intro effect heffect
    rcases List.mem_cons.mp heffect with rfl | heffect
    · rfl
    · exact htaken effect heffect
  append := by
    rintro reassembly waveforms data w ⟨taken, heffects, htaken⟩
    obtain ⟨added, hadded, hwrites⟩ := Reassembly.effects_append reassembly waveforms data w
    refine ⟨added ++ taken, by rw [hadded, heffects, List.append_assoc], ?_⟩
    intro effect heffect
    rcases List.mem_append.mp heffect with heffect | heffect
    · obtain ⟨channel, samples, rfl⟩ := hwrites effect heffect
      rfl
    · exact htaken effect heffect

/-- An exchange is over before anything is done, or sends its request and then only asks for answers and
writes them.  It does so, or waits to do so, only if the request was sent. -/
theorem exchange_effects (c : AcquisitionConfig) (r : AcquisitionRequest) (label : String)
    (s : Surroundings) (u : Underway S ω) :
    let e := exchange c r label s u
    (e.underway = u ∧ e.outcome ≠ none) ∨
      ∃ taken, e.underway.world.effects.reverse =
          u.world.effects.reverse ++ (preparation c r ++ requestCall c r label s :: taken) ∧
        (∀ effect ∈ taken, effect.isAnswer = true) ∧
        (taken ≠ [] ∨ e.outcome = none → s.sendFault = none) := by
  intro e
  have he : e = exchange c r label s u := rfl
  by_cases hseen : s.cancelledBy .opening = true
  · rw [exchange_of_seen hseen] at he
    rw [he]
    exact Or.inl ⟨rfl, Option.some_ne_none _⟩
  · have hcall : ∀ call, (call :: (prepared c r u).world.effects).reverse =
        u.world.effects.reverse ++ (preparation c r ++ [call]) := by
      intro call
      rw [effects_prepared]
      simp
    right
    rw [exchange_of_unseen (Bool.eq_false_iff.mpr hseen)] at he
    cases hsend : s.sendFault with
    | some fault =>
      rw [hsend] at he
      rw [he, requestCall, hsend]
      refine ⟨[], hcall _, by simp, ?_⟩
      rintro (h | h)
      · exact absurd rfl h
      · cases h
    | none =>
      rw [hsend] at he
      obtain ⟨taken, heffects, htaken⟩ := (onlyAnswers_answering _).answered (c := c) (r := r) (s := s)
        label (u := (prepared c r u).did (.sends (c.requestMessage r label))) ⟨[], rfl, by simp⟩
      rw [he, requestCall_of_sent hsend]
      refine ⟨taken.reverse, ?_, ?_, fun _ => rfl⟩
      · rw [heffects, List.reverse_append]
        refine (congrArg (· ++ taken.reverse) (hcall _)).trans ?_
        simp
      · intro effect heffect
        exact htaken effect (List.mem_reverse.mp heffect)

variable {factory : SinkFactory S ω} {world : ω}

/-- **The effects of an acquisition come in its phases.** -/
theorem acquire_phased : Phased c r label s (acquire c r label s factory world).effects := by
  cases hbegin : Beginning.of c r s factory world with
  | refused e =>
    rw [acquire_eq, hbegin]
    exact .silent fun effect heffect => by cases heffect
  | unopened channel fault sinks w =>
    refine .silent ?_
    intro effect heffect
    obtain ⟨opened, rfl⟩ := effects_of_unopened label hbegin effect heffect
    rfl
  | opened u =>
    have hopened : ∀ effect ∈ u.world.effects.reverse, effect.isFraming = true := by
      obtain ⟨sinks, hopen, -⟩ := Beginning.of_eq_opened hbegin
      have heffects := Reassembly.effects_openEach factory r.channels ⟨world, []⟩
      rw [hopen, List.append_nil] at heffects
      intro effect heffect
      rw [heffects, List.reverse_reverse] at heffect
      obtain ⟨channel, -, rfl⟩ := List.mem_map.mp heffect
      rfl
    have hlength := (exchange_finishes_none (s := s) label hbegin).length
    have hphases := exchange_effects c r label s u
    rw [acquire_eq, hbegin]
    simp only at hphases ⊢
    generalize exchange c r label s u = e at hlength hphases ⊢
    obtain ⟨finished, heffects, hfinished⟩ : ∃ finished,
        e.conclude.effects = e.underway.world.effects.reverse ++ finished ∧
          ∀ effect ∈ finished, effect.isFraming = true := by
      cases houtcome : e.outcome with
      | none =>
        refine ⟨[], ?_, fun effect heffect => by cases heffect⟩
        rw [Exchanged.conclude, houtcome, List.append_nil]
        rfl
      | some outcome =>
        refine ⟨_, Exchanged.effects_conclude hlength (by rw [houtcome]; exact Option.some_ne_none _), ?_⟩
        intro effect heffect
        obtain ⟨sink, -, rfl⟩ := List.mem_map.mp heffect
        rfl
    rw [heffects]
    rcases hphases with ⟨hsame, -⟩ | ⟨taken, htaken, hanswers, hsent⟩
    · refine .silent ?_
      intro effect heffect
      rw [hsame] at heffect
      exact (List.mem_append.mp heffect).elim (hopened effect) (hfinished effect)
    · rw [htaken, List.append_assoc, List.append_assoc, List.cons_append]
      exact .asked hopened hanswers hfinished fun hsome => hsent (Or.inl hsome)

/-- An acquisition that still waits has sent its request. -/
theorem sends_of_waits (h : (acquire c r label s factory world).outcome = none) :
    .sends (c.requestMessage r label) ∈ (acquire c r label s factory world).effects := by
  rw [acquire_eq] at h ⊢
  cases hbegin : Beginning.of c r s factory world with
  | refused e =>
    rw [hbegin] at h
    cases h
  | unopened channel fault sinks w =>
    rw [hbegin] at h
    cases h
  | opened u =>
    rw [hbegin] at h
    have hwaits := Exchanged.outcome_conclude_eq_none_iff.mp h
    simp only [Exchanged.conclude, hwaits]
    rcases exchange_effects c r label s u with ⟨-, hover⟩ | ⟨taken, heffects, -, hsent⟩
    · exact absurd hwaits hover
    · have hmem : Effect.sends (c.requestMessage r label) ∈
          (exchange c r label s u).underway.world.effects.reverse := by
        rw [heffects, requestCall_of_sent (hsent (Or.inr hwaits))]
        simp
      exact hmem

/-- A result of the exchange of chunks tells how many could wait. -/
theorem credit_of_exchange (hmode : c.mode = .streaming) {u : Underway S ω} {summary : Summary}
    (h : (exchange c r label s u).outcome = some (.ok summary)) :
    summary.credit = some (c.creditFor r) := by
  by_cases hseen : s.cancelledBy .opening = true
  · rw [exchange_of_seen hseen] at h
    cases h
  · rw [exchange_of_unseen (Bool.eq_false_iff.mpr hseen)] at h
    cases hsend : s.sendFault with
    | some e =>
      rw [hsend] at h
      cases h
    | none =>
      rw [hsend] at h
      simp only [answered, hmode] at h
      obtain ⟨-, state, -, -, -, hsummary⟩ := ChunkLoop.run_invariant (c := c) (r := r) (s := s)
        (P := fun _ _ _ => True) (fun _ _ _ _ => trivial) []
        (⟨0, s.clock.sent, .start c r label,
          (prepared c r u).did (.sends (c.requestMessage r label))⟩ : ChunkLoop S ω) trivial s.arrivals
      rw [hsummary summary h]
      rfl

end

/-! ## 3. What is asked for -/

namespace AcquisitionConfig

/-- A message asks for what a request asks for, in the mode of the settings. -/
def Asks (c : AcquisitionConfig) (r : AcquisitionRequest) (label : String) (message : Bytes) : Prop :=
  match c.mode with
  | .single =>
    ∃ envelope request, Envelope.decode message = .ok envelope ∧ envelope.kind = .dump ∧
      envelope.record DumpRequest.schema = .ok request ∧ request.channels = r.channels ∧
      request.waveforms = r.waveforms ∧ request.samples = r.samples ∧
      request.softwareTrigger = r.softwareTrigger
  | .streaming =>
    ∃ envelope request, Envelope.decode message = .ok envelope ∧ envelope.kind = .chunkRequest ∧
      envelope.record ChunkRequest.schema = .ok request ∧ request.channels = r.channels ∧
      request.waveforms = r.waveforms ∧ request.samples = r.samples ∧
      request.softwareTrigger = r.softwareTrigger ∧ request.label = label ∧
      1 ≤ request.chunkSize.toNat ∧ request.chunkSize.toNat ≤ r.waveforms.toNat

/-- **The message that is sent reads back as the request**, under a label that is not too long. -/
theorem asks_requestMessage (c : AcquisitionConfig) (r : AcquisitionRequest) {label : String}
    (hlabel : Text.Utf8.length label ≤ 512) : c.Asks r label (c.requestMessage r label) := by
  have hlimit : Frame.defaultLimit < Word.size := by decide
  unfold Asks requestMessage
  cases c.mode with
  | single =>
    have hfits := Nat.lt_of_le_of_lt r.length_dumpMessage_le hlimit
    refine ⟨_, r.toDump, decode_encode ?_ hfits, rfl, ?_, rfl, rfl, rfl, rfl⟩
    · exact Kind.noConfusion
    · exact record_encodeRecord DumpRequest.lawful hfits
  | streaming =>
    have hfits := Nat.lt_of_le_of_lt (r.length_chunkMessage_le (c.hintFor r) hlabel) hlimit
    refine ⟨_, r.toChunks label (c.hintFor r), decode_encode ?_ hfits, rfl, ?_, rfl, rfl, rfl, rfl, rfl,
      c.hintFor_pos r, c.hintFor_le r⟩
    · exact Kind.noConfusion
    · exact record_encodeRecord ChunkRequest.lawful hfits

end AcquisitionConfig

/-! ## 4. The order -/

namespace Phased

variable {c : AcquisitionConfig} {r : AcquisitionRequest} {label : String} {s : Surroundings}
  {effects : List Effect}

theorem not_request_of_framing {effect : Effect} (h : effect.isFraming = true) :
    effect.isRequest = false ∧ effect.isCapacity = false ∧ effect.isAnswer = false := by
  cases effect <;> first | exact ⟨rfl, rfl, rfl⟩ | cases h

theorem not_request_of_answer {effect : Effect} (h : effect.isAnswer = true) :
    effect.isRequest = false ∧ effect.isCapacity = false := by
  cases effect <;> first | exact ⟨rfl, rfl⟩ | cases h

/-- Where the request is among the effects, and that there is only one. -/
theorem at_request (h : Phased c r label s effects) {earlier later : List Effect} {effect : Effect}
    (hrequest : effect.isRequest = true) (hsplit : effects = earlier ++ effect :: later) :
    effect = requestCall c r label s ∧ earlier.filter Effect.isCapacity = preparation c r ∧
      later.filter Effect.isCapacity = [] ∧ ∀ other ∈ earlier ++ later, other.isRequest = false := by
  cases h with
  | silent framing =>
    have hmem : effect ∈ effects := by
      rw [hsplit]
      exact List.mem_append_right _ List.mem_cons_self
    cases hrequest.symm.trans (not_request_of_framing (framing effect hmem)).1
  | @asked opened taken finished opens answers finishes sent =>
    have hprepared : ∀ other ∈ preparation c r, other.isRequest = false ∧ other.isCapacity = true := by
      intro other hother
      obtain ⟨-, rfl⟩ := mem_preparation hother
      exact ⟨rfl, rfl⟩
    have hbefore : ∀ other ∈ opened ++ preparation c r, other.isRequest = false := by
      intro other hother
      rcases List.mem_append.mp hother with hother | hother
      · exact (not_request_of_framing (opens other hother)).1
      · exact (hprepared other hother).1
    have hafter : ∀ other ∈ taken ++ finished, other.isRequest = false ∧ other.isCapacity = false := by
      intro other hother
      rcases List.mem_append.mp hother with hother | hother
      · exact not_request_of_answer (answers other hother)
      · obtain ⟨hnone, hcapacity, -⟩ := not_request_of_framing (finishes other hother)
        exact ⟨hnone, hcapacity⟩
    have hwhole : opened ++ preparation c r ++ requestCall c r label s :: (taken ++ finished) =
        earlier ++ effect :: later := by
      rw [List.append_assoc]
      exact hsplit
    obtain ⟨rfl, rfl, rfl⟩ := (List.append_cons_inj_of_notMem
      (fun hmem => by cases hrequest.symm.trans (hbefore effect hmem))
      (fun hmem => by cases hrequest.symm.trans (hafter effect hmem).1)).mp hwhole
    refine ⟨rfl, ?_, ?_, ?_⟩
    · have hopened : opened.filter Effect.isCapacity = [] :=
        List.filter_eq_nil_iff.mpr fun other hother => by
          simp [(not_request_of_framing (opens other hother)).2.1]
      rw [List.filter_append, hopened, List.nil_append]
      exact List.filter_eq_self.mpr fun other hother => (hprepared other hother).2
    · exact List.filter_eq_nil_iff.mpr fun other hother => by simp [(hafter other hother).2]
    · intro other hother
      rcases List.mem_append.mp hother with hother | hother
      · exact hbefore other hother
      · exact (hafter other hother).1

/-- Every answer comes behind the request. -/
theorem before_answer (h : Phased c r label s effects) {earlier later : List Effect} {effect : Effect}
    (hanswer : effect.isAnswer = true) (hsplit : effects = earlier ++ effect :: later) :
    .sends (c.requestMessage r label) ∈ earlier := by
  cases h with
  | silent framing =>
    have hmem : effect ∈ effects := by
      rw [hsplit]
      exact List.mem_append_right _ List.mem_cons_self
    cases hanswer.symm.trans (not_request_of_framing (framing effect hmem)).2.2
  | @asked opened taken finished opens answers finishes sent =>
    have hwhole : opened ++ (preparation c r ++ [requestCall c r label s]) ++ (taken ++ finished) =
        earlier ++ effect :: later := by
      simpa only [List.append_assoc, List.cons_append, List.nil_append] using hsplit
    have hbefore : effect ∉ opened ++ (preparation c r ++ [requestCall c r label s]) := by
      simp only [List.mem_append, List.mem_singleton]
      rintro (hmem | hmem | rfl)
      · cases hanswer.symm.trans (not_request_of_framing (opens effect hmem)).2.2
      · obtain ⟨-, rfl⟩ := mem_preparation hmem
        cases hanswer
      · unfold requestCall at hanswer
        cases hsend : s.sendFault <;> rw [hsend] at hanswer <;> cases hanswer
    obtain ⟨between, rfl, hbehind⟩ := exists_behind hbefore hwhole
    -- The answer is not a finish, so something was taken.
    have hsome : taken ≠ [] := by
      rintro rfl
      have hmem : effect ∈ finished := by
        rw [List.nil_append] at hbehind
        rw [hbehind]
        exact List.mem_append_right _ List.mem_cons_self
      cases hanswer.symm.trans (not_request_of_framing (finishes effect hmem)).2.2
    rw [requestCall_of_sent (sent hsome)]
    simp

/-- There is at most one request. -/
theorem countP_request_le (h : Phased c r label s effects) :
    effects.countP Effect.isRequest ≤ 1 := by
  by_cases hsome : ∃ effect ∈ effects, effect.isRequest = true
  · obtain ⟨effect, hmem, hrequest⟩ := hsome
    obtain ⟨earlier, later, hsplit⟩ := List.append_of_mem hmem
    obtain ⟨-, -, -, hother⟩ := h.at_request hrequest hsplit
    have hnone : ∀ part : List Effect, part ⊆ earlier ++ later → part.countP Effect.isRequest = 0 := by
      intro part hpart
      refine List.countP_eq_zero.mpr ?_
      intro other hmem
      rw [hother other (hpart hmem)]
      exact Bool.false_ne_true
    rw [hsplit, List.countP_append, List.countP_cons, hrequest,
      hnone earlier (List.subset_append_left _ _), hnone later (List.subset_append_right _ _)]
    exact Nat.le_refl 1
  · have hnone : effects.countP Effect.isRequest = 0 :=
      List.countP_eq_zero.mpr fun effect hmem hrequest => hsome ⟨effect, hmem, hrequest⟩
    omega

/-- With one answer, the capacity is left alone. -/
theorem not_capacity (h : Phased c r label s effects) (hmode : c.mode = .single) {effect : Effect}
    (hmem : effect ∈ effects) : effect.isCapacity = false := by
  cases h with
  | silent framing => exact (not_request_of_framing (framing effect hmem)).2.1
  | @asked opened taken finished opens answers finishes sent =>
    simp only [List.mem_append, List.mem_cons] at hmem
    rcases hmem with hmem | hmem | rfl | hmem | hmem
    · exact (not_request_of_framing (opens effect hmem)).2.1
    · obtain ⟨hstreaming, -⟩ := mem_preparation hmem
      cases hmode.symm.trans hstreaming
    · unfold requestCall
      cases s.sendFault <;> rfl
    · exact (not_request_of_answer (answers effect hmem)).2
    · exact (not_request_of_framing (finishes effect hmem)).2.1

end Phased

/-- What an acquisition does with its factory, on its link and with its sinks, and in which order. -/
structure InOrder (c : AcquisitionConfig) (r : AcquisitionRequest) (label : String) (s : Surroundings)
    (factory : SinkFactory S ω) (world : ω) (run : Run S ω) : Prop where
  /-- What is given up before it begins, or refused, uses neither the factory nor the link. -/
  unused : s.cancelledBy .before = true ∨ c.check r ≠ .ok () → run.effects = [] ∧ run.world = world
  /-- The link is not used if a sink cannot be opened. -/
  unopened : (Reassembly.openEach factory r.channels world).1 ≠ none →
    ∀ effect ∈ run.effects, effect.isOnLink = false
  once : run.effects.countP Effect.isRequest ≤ 1
  asks : ∀ effect ∈ run.effects, ∀ message, effect.request? = some message → c.Asks r label message
  /-- The link knows how many chunks may wait before it gets the request, and is told once. -/
  prepared : c.mode = .streaming → ∀ earlier effect later, effect.isRequest = true →
    run.effects = earlier ++ effect :: later →
      earlier.filter Effect.isCapacity =
        [.setsCapacity (c.credit.credit r.samples.toNat (c.hintFor r).toNat r.channels.length)] ∧
      later.filter Effect.isCapacity = []
  credited : c.mode = .streaming → ∀ summary, run.outcome = some (.ok summary) →
    summary.credit =
      some (c.credit.credit r.samples.toNat (c.hintFor r).toNat r.channels.length)
  unprepared : c.mode = .single → ∀ effect ∈ run.effects, effect.isCapacity = false
  /-- Nothing is asked for or written before the request is sent. -/
  answers : ∀ earlier effect later, effect.isAnswer = true →
    run.effects = earlier ++ effect :: later → ∃ message, .sends message ∈ earlier
  waits : run.outcome = none → ∃ message, .sends message ∈ run.effects

section

variable [SampleSink S ω] {c : AcquisitionConfig} {r : AcquisitionRequest} {label : String}
  {s : Surroundings} {factory : SinkFactory S ω} {world : ω}

/-- What is refused does nothing. -/
theorem acquire_unused (h : s.cancelledBy .before = true ∨ c.check r ≠ .ok ()) :
    (acquire c r label s factory world).effects = [] ∧
      (acquire c r label s factory world).world = world := by
  unfold acquire
  by_cases hcancelled : s.cancelledBy .before = true
  · rw [if_pos hcancelled]
    exact ⟨rfl, rfl⟩
  · rw [if_neg hcancelled]
    cases hcheck : c.check r with
    | error e => exact ⟨rfl, rfl⟩
    | ok done =>
      rcases h with h | h
      · exact absurd h hcancelled
      · exact absurd hcheck h

/-- What cannot open its sinks does nothing on the link. -/
theorem acquire_unopened (label : String)
    (h : (Reassembly.openEach factory r.channels world).1 ≠ none) :
    ∀ effect ∈ (acquire c r label s factory world).effects, effect.isOnLink = false := by
  intro effect heffect
  cases hbegin : Beginning.of c r s factory world with
  | refused e =>
    rw [acquire_eq, hbegin] at heffect
    cases heffect
  | unopened channel fault sinks w =>
    obtain ⟨opened, rfl⟩ := effects_of_unopened label hbegin effect heffect
    rfl
  | opened u => exact absurd (Beginning.openEach_of_opened hbegin) h

/-- A result tells how many chunks could wait. -/
theorem credit_of_acquire (hmode : c.mode = .streaming) {summary : Summary}
    (h : (acquire c r label s factory world).outcome = some (.ok summary)) :
    summary.credit = some (c.creditFor r) := by
  rw [acquire_eq] at h
  cases hbegin : Beginning.of c r s factory world with
  | refused e =>
    rw [hbegin] at h
    cases h
  | unopened channel fault sinks w =>
    rw [hbegin] at h
    cases h
  | opened u =>
    rw [hbegin] at h
    exact credit_of_exchange hmode (Exchanged.outcome_of_conclude_ok h)

/-- **An acquisition uses its factory, its link and its sinks in order**, whatever it meets and whenever it
is given up: no sink, no request; no request, no answer; and no request before the link knows how many
chunks may wait. -/
theorem acquire_in_order (octets : Bytes) :
    InOrder c r (Label.ofOctets octets) s factory world
      (acquire c r (Label.ofOctets octets) s factory world) := by
  have hphased : Phased c r (Label.ofOctets octets) s
    (acquire c r (Label.ofOctets octets) s factory world).effects := acquire_phased
  have hlabel : Text.Utf8.length (Label.ofOctets octets) ≤ 512 :=
    Nat.le_trans (Label.length_ofOctets_le octets) (by decide)
  refine ⟨acquire_unused, acquire_unopened _, hphased.countP_request_le, ?_, ?_, ?_, ?_, ?_, ?_⟩
  · intro effect hmem message hmessage
    have hrequest : effect.isRequest = true := by rw [Effect.isRequest, hmessage]; rfl
    obtain ⟨earlier, later, hsplit⟩ := List.append_of_mem hmem
    obtain ⟨rfl, -, -, -⟩ := hphased.at_request hrequest hsplit
    obtain rfl := Option.some.inj (request?_requestCall.symm.trans hmessage)
    exact c.asks_requestMessage r hlabel
  · intro hmode earlier effect later hrequest hsplit
    obtain ⟨-, hearlier, hlater, -⟩ := hphased.at_request hrequest hsplit
    rw [hearlier, preparation, hmode]
    exact ⟨rfl, hlater⟩
  · intro hmode summary hok
    exact credit_of_acquire hmode hok
  · intro hmode effect hmem
    exact hphased.not_capacity hmode hmem
  · intro earlier effect later hanswer hsplit
    exact ⟨_, hphased.before_answer hanswer hsplit⟩
  · intro hwaits
    exact ⟨_, sends_of_waits hwaits⟩

end

example :
    (acquire {} pairRequest "a" pairSurroundings sureFactory ()).effects.take 5 =
      [.opens 3, .opens 1, .setsCapacity 1024, .sends (pairRequest.chunkMessage "a" 2),
        .awaits (.ofMillis 100)] := by decide +kernel

end Readout

/-
# How much an acquisition takes

What an acquisition has asked for is gone from its link, whoever it was meant for.  So it should ask for as
little as it can: until its result is known, and not once more.

An acquisition stops at the first arrival that settles it (`Settles`).  It asks for nothing behind that, and
what comes there has no influence on anything: neither on its result, nor on what the sinks get.

* `exchange_calls` -- a message is asked for as often as is counted;
* `exchange_cut`, `acquire_cut` -- what comes behind the end has no influence;
* `acquire_consumes` -- what an acquisition takes, and what it comes to.
-/
import Readout.Proofs.Cancelling
import Readout.Proofs.Settlement

namespace Readout

variable {S ω : Type} [SampleSink S ω]

/-! ## 1. Behind the end -/

section

variable {c : AcquisitionConfig} {r : AcquisitionRequest} {label : String} {s : Surroundings}

/-- What comes behind the end of a loop has no influence on it. -/
theorem ChunkLoop.run_cut {loop : ChunkLoop S ω} {arrivals : List Arrival}
    (h : (loop.run c r s arrivals).outcome ≠ none) :
    ∃ met, arrivals = met ++ (loop.run c r s arrivals).left ∧
      (loop.run c r s arrivals).receives = loop.receives + met.length ∧
      ∀ known other, loop.run c r { s with arrivals := known } (met ++ other) =
        { loop.run c r s arrivals with left := other } := by
  induction arrivals generalizing loop with
  | nil => exact absurd rfl h
  | cons arrival left ih =>
    have hsame : ∀ known, loop.turn c r { s with arrivals := known } arrival =
        loop.turn c r s arrival := fun _ => rfl
    rw [run_cons] at h ⊢
    cases hturn : loop.turn c r s arrival with
    | ended outcome u =>
      refine ⟨[arrival], rfl, rfl, ?_⟩
      intro known other
      rw [List.singleton_append, run_cons, hsame, hturn]
      rfl
    | onward next =>
      rw [hturn] at h
      obtain ⟨met, hmet, hreceives, hcut⟩ := ih h
      refine ⟨arrival :: met, congrArg (arrival :: ·) hmet, ?_, ?_⟩
      · refine hreceives.trans ?_
        rw [(turn_eq_onward hturn).1, List.length_cons]
        omega
      · intro known other
        rw [List.cons_append, run_cons, hsame, hturn]
        exact hcut known other

omit [SampleSink S ω] in
/-- What comes behind the one answer has no influence on the wait for it. -/
theorem awaitReply_cut {n : Nat} {u : Underway S ω} {arrivals : List Arrival}
    (h : (awaitReply c s n u arrivals).1 ≠ none) :
    let awaited := awaitReply c s n u arrivals
    ∃ met, arrivals = met ++ awaited.2.2.2 ∧ awaited.2.2.1 = n + met.length ∧
      ∀ known other, awaitReply c { s with arrivals := known } n u (met ++ other) =
        (awaited.1, awaited.2.1, awaited.2.2.1, other) := by
  have hsame : ∀ known m, stopsWaiting? c { s with arrivals := known } m = stopsWaiting? c s m :=
    fun _ _ => rfl
  simp only
  induction arrivals generalizing n u with
  | nil =>
    cases hstop : stopsWaiting? c s n with
    | none =>
      rw [awaitReply_of_going hstop] at h
      exact absurd rfl h
    | some e =>
      rw [awaitReply_of_stop hstop]
      refine ⟨[], rfl, rfl, ?_⟩
      exact fun known other => awaitReply_of_stop ((hsame known n).trans hstop) other
  | cons arrival left ih =>
    cases hstop : stopsWaiting? c s n with
    | some e =>
      rw [awaitReply_of_stop hstop]
      refine ⟨[], rfl, rfl, ?_⟩
      exact fun known other => awaitReply_of_stop ((hsame known n).trans hstop) other
    | none =>
      have hagain : ∀ known other, awaitReply c { s with arrivals := known } n u (arrival :: other) = _ :=
        fun known other => awaitReply_cons ((hsame known n).trans hstop) arrival other
      rw [awaitReply_cons hstop] at h ⊢
      cases hawaited : arrival.awaited? with
      | some awaited =>
        simp only [hawaited] at hagain ⊢
        exact ⟨[arrival], rfl, rfl, hagain⟩
      | none =>
        -- A wait in which nothing came is followed by the same waits as before.
        simp only [hawaited] at h hagain ⊢
        obtain ⟨met, hmet, hreceives, hcut⟩ := ih h
        refine ⟨arrival :: met, congrArg (arrival :: ·) hmet, ?_, ?_⟩
        · rw [hreceives, List.length_cons]
          omega
        · exact fun known other => (hagain known (met ++ other)).trans (hcut known other)

/-- Taking the one answer leaves what is left. -/
theorem takeReply_frame (r : AcquisitionRequest) (awaited : Option (Except AcquireError Bytes))
    (u : Underway S ω) (receives : Nat) (left other : List Arrival) :
    (takeReply r (awaited, u, receives, left)).receives = receives ∧
      (takeReply r (awaited, u, receives, left)).left = left ∧
      takeReply r (awaited, u, receives, other) =
        { takeReply r (awaited, u, receives, left) with left := other } := by
  rcases awaited with _ | e | message
  · exact ⟨rfl, rfl, rfl⟩
  · exact ⟨rfl, rfl, rfl⟩
  · cases hdata : replyData r message <;> simp [takeReply, hdata]

/-- A loop calls once for each message that it asks for. -/
theorem ChunkLoop.calls_run (loop : ChunkLoop S ω) (arrivals : List Arrival) :
    (loop.run c r s arrivals).underway.world.calls + loop.receives =
      loop.underway.world.calls + (loop.run c r s arrivals).receives := by
  obtain ⟨met, -, -, hreceives, hcalls, -⟩ := ChunkLoop.run_invariant (c := c) (r := r) (s := s)
    (P := fun met _ u => u.world.calls = loop.underway.world.calls + met.length)
    (fun met loop' arrival h => by
      rw [loop'.calls_meet, h, List.length_append]
      rfl) [] loop rfl arrivals
  rw [hreceives, hcalls, List.nil_append]
  omega

omit [SampleSink S ω] in
/-- The wait for the one answer calls once for each message that it asks for. -/
theorem calls_awaitReply (n : Nat) (u : Underway S ω) (arrivals : List Arrival) :
    (awaitReply c s n u arrivals).2.1.world.calls + n =
      u.world.calls + (awaitReply c s n u arrivals).2.2.1 := by
  induction arrivals generalizing n u with
  | nil =>
    cases hstop : stopsWaiting? c s n with
    | some e => rw [awaitReply_of_stop hstop]
    | none => rw [awaitReply_of_going hstop]
  | cons arrival left ih =>
    cases hstop : stopsWaiting? c s n with
    | some e => rw [awaitReply_of_stop hstop]
    | none =>
      have hcalls : (u.did (.awaits (singleWait c s n))).world.calls = u.world.calls + 1 :=
        u.world.calls_did (.awaits (singleWait c s n))
      have hmore := ih (n + 1) (u.did (.awaits (singleWait c s n)))
      rw [awaitReply_cons hstop]
      cases arrival.awaited? with
      | some awaited =>
        simp only [hcalls]
        omega
      | none =>
        simp only
        omega

/-- An exchange whose request is sent calls once to send it, and once for each message that it asks for. -/
theorem exchange_calls (label : String) (hunseen : s.cancelledBy .opening = false)
    (hsend : s.sendFault = none) {u : Underway S ω} (hu : u.world.calls = 0) :
    (exchange c r label s u).underway.world.calls = (exchange c r label s u).receives + 1 := by
  have hsent : ((prepared c r u).did (.sends (c.requestMessage r label))).world.calls = 1 := by
    rw [calls_prepared_did u rfl, hu]
  rw [exchange_of_unseen hunseen, hsend]
  unfold answered
  cases hmode : c.mode with
  | streaming =>
    have hcalls := ChunkLoop.calls_run (c := c) (r := r) (s := s) ⟨0, s.clock.sent, .start c r label,
      (prepared c r u).did (.sends (c.requestMessage r label))⟩ s.arrivals
    rw [hsent] at hcalls
    simp only at hcalls ⊢
    omega
  | single =>
    have hcalls := calls_awaitReply (c := c) (s := s) 0
      ((prepared c r u).did (.sends (c.requestMessage r label))) s.arrivals
    rw [hsent] at hcalls
    simp only [calls_takeReply]
    generalize awaitReply c s 0 ((prepared c r u).did (.sends (c.requestMessage r label))) s.arrivals =
      awaited at hcalls ⊢
    obtain ⟨awaited, u', receives, left⟩ := awaited
    rw [(takeReply_frame r awaited u' receives left left).1]
    exact hcalls.trans (Nat.add_comm ..)

/-- What comes behind the end has no influence on what comes of a request that is sent. -/
theorem answered_cut {u : Underway S ω} (h : (answered c r label s u).outcome ≠ none) :
    ∃ met, s.arrivals = met ++ (answered c r label s u).left ∧
      (answered c r label s u).receives = met.length ∧
      ∀ other, answered c r label { s with arrivals := met ++ other } u =
        { answered c r label s u with left := other } := by
  unfold answered at h ⊢
  cases hmode : c.mode with
  | streaming =>
    rw [hmode] at h
    obtain ⟨met, hmet, hreceives, hcut⟩ := ChunkLoop.run_cut h
    exact ⟨met, hmet, hreceives.trans (Nat.zero_add _), fun other => hcut _ other⟩
  | single =>
    rw [hmode] at h
    simp only at h ⊢
    have hsome : (awaitReply c s 0 u s.arrivals).1 ≠ none := by
      intro hnone
      generalize awaitReply c s 0 u s.arrivals = awaited at h hnone
      obtain ⟨_ | outcome, u', receives, left⟩ := awaited
      · exact h rfl
      · cases hnone
    obtain ⟨met, hmet, hreceives, hcut⟩ := awaitReply_cut hsome
    generalize awaitReply c s 0 u s.arrivals = awaited at hmet hreceives hcut
    obtain ⟨awaited, u', receives, left⟩ := awaited
    obtain ⟨hcount, hleft, -⟩ := takeReply_frame r awaited u' receives left left
    refine ⟨met, hmet.trans (congrArg (met ++ ·) hleft.symm), ?_, ?_⟩
    · exact hcount.trans (hreceives.trans (Nat.zero_add _))
    · intro other
      rw [hcut]
      exact (takeReply_frame r awaited u' receives left other).2.2

/-- **What comes behind the end of an exchange has no influence on it.** -/
theorem exchange_cut {u : Underway S ω} {e : Exchanged S ω} (he : exchange c r label s u = e)
    (h : e.outcome ≠ none) :
    ∃ met, s.arrivals = met ++ e.left ∧ e.receives = met.length ∧
      ∀ other, exchange c r label { s with arrivals := met ++ other } u = { e with left := other } := by
  by_cases hseen : s.cancelledBy .opening = true
  · rw [exchange_of_seen hseen] at he
    subst he
    exact ⟨[], rfl, rfl, fun other => exchange_of_seen (s := { s with arrivals := other }) hseen u⟩
  · have hunseen : s.cancelledBy .opening = false := Bool.eq_false_iff.mpr hseen
    rw [exchange_of_unseen hunseen] at he
    have hagain : ∀ known, exchange c r label { s with arrivals := known } u = _ :=
      fun known => exchange_of_unseen (s := { s with arrivals := known }) hunseen u
    simp only at hagain
    cases hsend : s.sendFault with
    | some fault =>
      rw [hsend] at he hagain
      subst he
      exact ⟨[], rfl, rfl, fun other => hagain other⟩
    | none =>
      rw [hsend] at he hagain
      subst he
      obtain ⟨met, hmet, hreceives, hcut⟩ := answered_cut h
      refine ⟨met, hmet, hreceives, ?_⟩
      intro other
      have hcut' := hcut other
      rw [hsend] at hcut'
      exact (hagain (met ++ other)).trans hcut'

end

/-! ## 2. Acquisitions -/

/-- The sinks of a request, freshly opened, and their world. -/
def SinkFactory.opened (factory : SinkFactory S ω) (r : AcquisitionRequest) (world : ω) :
    Reassembly S × ω :=
  let opened := Reassembly.openEach factory r.channels world
  (.start r.channels r.samples.toNat opened.2.1, opened.2.2)

/-- A result once the sinks are finished: a sink that cannot be finished spoils a success. -/
def afterFinishing (failure : Option (UInt32 × Fault)) :
    Except AcquireError Summary → Except AcquireError Summary
  | .error e => .error e
  | .ok summary =>
    match failure with
    | some (channel, fault) => .error (.sink channel fault)
    | none => .ok summary

section

variable {c : AcquisitionConfig} {r : AcquisitionRequest} {label : String} {s : Surroundings}
  {factory : SinkFactory S ω} {world : ω}

omit [SampleSink S ω] in
/-- An exchange starts with freshly opened sinks. -/
theorem Beginning.bare_opened {u : Underway S ω} (h : Beginning.of c r s factory world = .opened u) :
    u.bare = factory.opened r world := by
  obtain ⟨sinks, hopen, hu⟩ := Beginning.of_eq_opened h
  have hbare := Reassembly.untraced_openEach factory r.channels ⟨world, []⟩
  rw [hopen] at hbare
  have hopened : (none, sinks.map TracedSink.sink, u.world.world) =
    Reassembly.openEach factory r.channels world := hbare
  rw [SinkFactory.opened, ← hopened, Underway.bare, hu]
  rfl

/-- What is left has no influence on the end. -/
theorem Exchanged.conclude_with_left (e : Exchanged S ω) (other : List Arrival) :
    ({ e with left := other } : Exchanged S ω).conclude = { e.conclude with left := other } := by
  obtain ⟨_ | outcome, u, receives, left⟩ := e <;> rfl

/-- An exchange that is over ends with its result, and with its sinks finished. -/
theorem Exchanged.conclude_finished {e : Exchanged S ω} {outcome : Except AcquireError Summary}
    (houtcome : e.outcome = some outcome) {channels : List UInt32}
    (hchannels : e.underway.reassembly.channels = channels) :
    let finished := Reassembly.finishEach channels e.underway.bare.1.sinks e.underway.bare.2
    e.conclude.outcome = some (afterFinishing finished.1 outcome) ∧
      (e.conclude.sinks.map Prod.snd, e.conclude.world) = finished.2 := by
  subst hchannels
  have hsame := Reassembly.untraced_finishEach e.underway.reassembly.channels
    e.underway.reassembly.sinks e.underway.world
  have hbare : Reassembly.finishEach e.underway.reassembly.channels e.underway.bare.1.sinks
    e.underway.bare.2 = _ := hsame.symm
  unfold conclude Reassembly.close
  rw [houtcome]
  simp only [hbare]
  generalize Reassembly.finishEach e.underway.reassembly.channels e.underway.reassembly.sinks
    e.underway.world = finished
  obtain ⟨failure, sinks, w⟩ := finished
  refine ⟨?_, ?_⟩
  · cases outcome with
    | error e => rfl
    | ok summary =>
      cases failure with
      | none => rfl
      | some failure => rfl
  · simp [Run.of, untraced, Function.comp_def]

end

/-- What an acquisition takes from its link once its request is sent: the shortest prefix of what arrives
that settles it, or all of it if none does. -/
structure Consumption (c : AcquisitionConfig) (r : AcquisitionRequest) (label : String)
    (s : Surroundings) (factory : SinkFactory S ω) (world : ω) (run : Run S ω) : Prop where
  within : run.receives ≤ s.arrivals.length
  left : run.left = s.arrivals.drop run.receives
  /-- A message is asked for so often, and no other call is made but the one that sends the request. -/
  calls : run.calls = run.receives + 1
  shortest : ∀ n < run.receives, ∀ outcome,
    ¬Settles c r label s (factory.opened r world) n outcome
  /-- The arrival that settles it determines its result. -/
  settled : ∀ outcome, Settles c r label s (factory.opened r world) run.receives outcome →
    let kept := s.kept c r label (factory.opened r world) run.receives
    run.outcome =
      some (afterFinishing (Reassembly.finishEach r.channels kept.1.sinks kept.2).1 outcome)
  unsettled : run.outcome = none ↔
    ∀ outcome, ¬Settles c r label s (factory.opened r world) run.receives outcome
  waiting : run.outcome = none → run.receives = s.arrivals.length
  /-- With one answer, what comes before it are waits in which nothing comes. -/
  single : c.mode = .single → ∀ arrival ∈ s.arrivals.take (run.receives - 1), arrival.lapses = true
  /-- The sinks have got what was accepted by then, and are finished. -/
  sinks : run.outcome ≠ none →
    let kept := s.kept c r label (factory.opened r world) run.receives
    (run.sinks.map Prod.snd, run.world) = (Reassembly.finishEach r.channels kept.1.sinks kept.2).2

section

variable {c : AcquisitionConfig} {r : AcquisitionRequest} {label : String} {s : Surroundings}
  {factory : SinkFactory S ω} {world : ω}

/-- What comes behind the end of an acquisition has no influence on it. -/
theorem acquire_cut (h : (acquire c r label s factory world).outcome ≠ none) (other : List Arrival) :
    let run := acquire c r label s factory world
    acquire c r label { s with arrivals := s.arrivals.take run.receives ++ other } factory world =
      { run with left := other } := by
  intro run
  have hbegins : ∀ known, Beginning.of c r { s with arrivals := known } factory world =
      Beginning.of c r s factory world := fun _ => rfl
  have hrun : run = _ := acquire_eq c r label s factory world
  rw [acquire_eq, hbegins, hrun]
  rw [acquire_eq] at h
  cases hbegin : Beginning.of c r s factory world with
  | refused e => rfl
  | unopened channel fault sinks w => rfl
  | opened u =>
    simp only [hbegin] at h ⊢
    have hover : (exchange c r label s u).outcome ≠ none := fun hnone =>
      h (Exchanged.outcome_conclude_eq_none_iff.mpr hnone)
    obtain ⟨met, hmet, hreceives, hcut⟩ := exchange_cut rfl hover
    have htaken : s.arrivals.take (exchange c r label s u).conclude.receives = met := by
      rw [Exchanged.receives_conclude, hmet, hreceives]
      exact List.take_left
    rw [htaken, hcut, Exchanged.conclude_with_left]

/-- An exchange that takes what settles it makes an acquisition that does. -/
theorem Consumed.conclude {e : Exchanged S ω} (h : Consumed c r label s (factory.opened r world) e)
    (huncancelled : s.cancelAt = none)
    (hfinish : FinishesNone r.channels e.underway.reassembly e.underway.world)
    (hcalls : e.underway.world.calls = e.receives + 1) :
    Consumption c r label s factory world e.conclude := by
  have hreceives := Exchanged.receives_conclude e
  have hpending := Exchanged.outcome_conclude_eq_none_iff (e := e)
  have hfinished := fun outcome (houtcome : e.outcome = some outcome) =>
    Exchanged.conclude_finished houtcome hfinish.1
  rw [h.kept, ← hreceives] at hfinished
  have hsettled := h.settled huncancelled
  have hshortest := h.shortest
  rw [← hreceives] at hsettled hshortest
  refine ⟨?_, ?_, ?_, hshortest, ?_, ?_, ?_, ?_, ?_⟩
  · rw [hreceives]
    exact h.within
  · rw [hreceives, Exchanged.left_conclude]
    exact h.left
  · rw [hreceives, Exchanged.calls_conclude hfinish.length]
    exact hcalls
  · intro outcome hsettles
    exact (hfinished outcome ((hsettled outcome).mp hsettles)).1
  · rw [hpending]
    constructor
    · intro hnone outcome hsettles
      cases hnone.symm.trans ((hsettled outcome).mp hsettles)
    · intro hunsettled
      refine Option.eq_none_iff_forall_ne_some.mpr ?_
      exact fun outcome houtcome => hunsettled outcome ((hsettled outcome).mpr houtcome)
  · intro hnone
    rw [hreceives]
    exact h.waiting (hpending.mp hnone)
  · intro hmode
    rw [hreceives]
    exact lapses_of_unsettled hmode h.within h.shortest
  · intro hover
    obtain ⟨outcome, houtcome⟩ := Option.ne_none_iff_exists'.mp (hpending.not.mp hover)
    exact (hfinished outcome houtcome).2

/-- An acquisition whose request is sent takes what settles it. -/
theorem consumption_of_sent (label : String) (huncancelled : s.cancelAt = none)
    (hsends : SendsRequest c r s factory world) :
    Consumption c r label s factory world (acquire c r label s factory world) := by
  obtain ⟨hsend, u, hbegin⟩ := hsends
  have hunseen := (Undisturbed.mk huncancelled hsend).cancelledBy .opening
  obtain ⟨-, -, hlayout⟩ := Beginning.regular_opened hbegin
  have hconsumed := exchange_consumes (c := c) label hunseen hsend hlayout
    (Beginning.waveforms_opened hbegin)
  rw [Beginning.bare_opened hbegin] at hconsumed
  rw [acquire_eq, hbegin]
  exact hconsumed.conclude huncancelled (exchange_finishes_none label hbegin)
    (exchange_calls label hunseen hsend (Beginning.calls_opened hbegin))

/-- An acquisition stops where it is settled first. -/
theorem Consumption.receives_eq {run : Run S ω} {n : Nat} {outcome : Except AcquireError Summary}
    (h : Consumption c r label s factory world run) (hn : n ≤ s.arrivals.length)
    (hsettles : Settles c r label s (factory.opened r world) n outcome)
    (hfirst : ∀ m < n, ∀ outcome, ¬Settles c r label s (factory.opened r world) m outcome) :
    run.receives = n := by
  rcases Nat.lt_trichotomy run.receives n with hlt | heq | hlt
  · have hopen := h.unsettled.mpr (hfirst run.receives hlt)
    have hall := h.waiting hopen
    omega
  · exact heq
  · exact absurd hsettles (h.shortest n hlt outcome)

/-- An acquisition that takes chunks at some point has taken the arrivals before it, and nothing among them
has ended its stream. -/
theorem loopAfter_tracks (hmode : c.mode = .streaming) {met : Nat} {loop : ChunkLoop S ω}
    (h : loopAfter c r label s factory world met = some loop) :
    loop.receives = (s.arrivals.take met).length ∧
      loop.Tracks c r label s (factory.opened r world) ∧
      ∀ n < loop.receives, ∀ arrival outcome, s.arrivals[n]? = some arrival →
        ¬Ends c r label s (factory.opened r world) n arrival outcome := by
  unfold loopAfter ChunkLoop.start? at h
  cases hbegin : Beginning.of c r s factory world with
  | refused e =>
    rw [hbegin] at h
    cases h
  | unopened channel fault sinks w =>
    rw [hbegin] at h
    cases h
  | opened u =>
    rw [hbegin] at h
    simp only at h
    split at h
    · cases h
    cases hsend : s.sendFault with
    | some e =>
      rw [hsend] at h
      cases h
    | none =>
      rw [hsend] at h
      obtain ⟨first, hfirst, hafter⟩ := Option.bind_eq_some_iff.mp h
      obtain rfl := Option.some.inj hfirst
      obtain ⟨-, -, hlayout⟩ := Beginning.regular_opened hbegin
      rw [← Beginning.bare_opened hbegin]
      have hstart : ChunkLoop.Tracks c r label s u.bare ⟨0, s.clock.sent, .start c r label,
          (u.did (.setsCapacity (c.creditFor r))).did (.sends (c.requestMessage r label))⟩ :=
        ⟨rfl, rfl, (kept_of_silence rfl).symm⟩
      obtain ⟨htracks, hopen⟩ := hstart.after hmode hlayout (List.take_append_drop met s.arrivals).symm hafter
      refine ⟨?_, htracks, fun n hn => hopen n (Nat.zero_le n) hn⟩
      rw [ChunkLoop.receives_after hafter]
      exact Nat.zero_add _

/-- **What an acquisition consumes**, when the caller does not give up.  It takes nothing before its request
is sent; then it takes what arrives up to the first arrival that settles it, which determines its result;
and what comes behind that has no influence on anything. -/
theorem acquire_consumes (huncancelled : s.cancelAt = none) :
    let run := acquire c r label s factory world
    (¬SendsRequest c r s factory world → run.receives = 0 ∧ run.left = s.arrivals) ∧
      (SendsRequest c r s factory world → Consumption c r label s factory world run) ∧
      (run.outcome ≠ none → ∀ other,
        acquire c r label { s with arrivals := s.arrivals.take run.receives ++ other } factory world =
          { run with left := other }) := by
  intro run
  refine ⟨?_, consumption_of_sent label huncancelled, acquire_cut⟩
  intro hunsent
  have hrun : run = _ := acquire_eq c r label s factory world
  rw [hrun]
  cases hbegin : Beginning.of c r s factory world with
  | refused e => exact ⟨rfl, rfl⟩
  | unopened channel fault sinks w => exact ⟨rfl, rfl⟩
  | opened u =>
    have hfault : s.sendFault ≠ none := fun hsend => hunsent ⟨hsend, u, hbegin⟩
    obtain ⟨e, hsend⟩ := Option.ne_none_iff_exists'.mp hfault
    have hunseen : s.cancelledBy .opening = false := by
      rw [Surroundings.cancelledBy, huncancelled]
      rfl
    simp only [exchange_of_unseen hunseen, hsend]
    exact ⟨rfl, rfl⟩

end

/-- Two chunks among other things, the second of which is the last; another one comes behind it. -/
def crowded : Surroundings where
  arrivals :=
    [.quiet, .ofChunk (pairChunk "b" 1 [9, 9] true), .ofChunk (pairChunk "a" 1 [1, 65538] false),
      .fails (.timeout .zero), .ofChunk (pairChunk "a" 1 [3, 4] true),
      .ofChunk (pairChunk "a" 1 [5, 6] true)]

/-- The chunk behind the last one stays on the link. -/
theorem acquire_consumes_five :
    let run := acquire {} pairRequest "a" crowded sureFactory ()
    Consumption {} pairRequest "a" crowded sureFactory () run ∧ run.receives = 5 ∧
      run.left = [.ofChunk (pairChunk "a" 1 [5, 6] true)] ∧
      (run.sinks.map fun sink => sink.2.samples) = [[1, 3], [2, 4]] := by
  intro run
  have hsends : SendsRequest {} pairRequest crowded sureFactory () := ⟨rfl, _, rfl⟩
  exact ⟨(acquire_consumes rfl).2.1 hsends, by decide +kernel, by decide +kernel, by decide +kernel⟩

end Readout

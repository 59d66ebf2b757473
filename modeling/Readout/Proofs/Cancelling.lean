/-
# Giving up

The caller may give up at any moment, while the acquisition is in the middle of a call that blocks: it
sends its request, or waits for a message.  The acquisition heeds that if it begins no further such
call, and ends as given up unless the call under way settles it; its sinks are finished then.

There is one moment that is not heeded in time.  An acquisition that takes chunks looks at the caller's
wish before it sends and after each wait, but not between sending and the first wait.  Who gives up
while the request is sent has it wait once more.

* `ChunkLoop.run_heeds`, `awaitReply_heeds` -- what is given up while something is awaited ends there;
* `cancel_heeded_iff` -- giving up is heeded at every moment but that one, and there a wait later;
* `waits_after_giving_up` -- an acquisition that takes all of its data after it was given up.
-/
import Readout.Proofs.Accounts
import Readout.Proofs.Finishing

namespace Readout

variable {S ω : Type}

/-! ## 1. Calls that block -/

/-- Whether an effect is a call that blocks. -/
def Effect.blocks : Effect → Bool
  | sends _ => true
  | failsToSend _ => true
  | awaits _ => true
  | _ => false

/-- How many calls that block have begun. -/
def Traced.calls (w : Traced ω) : Nat := w.effects.countP Effect.blocks

/-- How many calls that block were made. -/
def Run.calls (run : Run S ω) : Nat := run.effects.countP Effect.blocks

/-- How many calls that block have begun by a moment: the request is the first. -/
def Moment.calls : Moment → Nat
  | before => 0
  | opening => 0
  | sending => 1
  | receiving count => 1 + count

/-- Whether a moment comes at all: if something is awaited then, it is one of the things that arrive. -/
def Moment.Within (arrivals : List Arrival) : Moment → Prop
  | receiving count => 1 ≤ count ∧ count ≤ arrivals.length
  | _ => True

theorem Traced.calls_did (w : Traced ω) (effect : Effect) :
    (w.did effect).calls = if effect.blocks then w.calls + 1 else w.calls := by
  rw [calls, did, List.countP_cons]
  split <;> rfl

theorem Run.calls_of (outcome : Option (Except AcquireError Summary)) (sinks : List (TracedSink S))
    (w : Traced ω) (receives : Nat) (left : List Arrival) :
    (Run.of outcome sinks w receives left).calls = w.calls := List.countP_reverse

/-- Opening sinks calls nothing that blocks. -/
theorem Reassembly.calls_openEach (factory : SinkFactory S ω) (channels : List UInt32)
    (w : Traced ω) :
    (openEach (SinkFactory.traced factory) channels w).2.2.calls = w.calls := by
  have hnone : ∀ opened : List UInt32, (opened.map Effect.opens).countP Effect.blocks = 0 := by
    intro opened
    rw [List.countP_map]
    exact List.countP_eq_zero.mpr fun _ _ => Bool.false_ne_true
  rw [Traced.calls, effects_openEach, List.countP_append, List.countP_reverse, hnone, Nat.zero_add]
  rfl

section

variable [SampleSink S ω]

/-- Appending calls nothing that blocks. -/
theorem Reassembly.calls_append (r : Reassembly (TracedSink S)) (waveforms : Nat)
    (data : List UInt32) (w : Traced ω) :
    (r.append waveforms data w).2.2.calls = w.calls := by
  obtain ⟨added, hadded, hwrites⟩ := effects_append r waveforms data w
  have hnone : added.countP Effect.blocks = 0 := by
    refine List.countP_eq_zero.mpr ?_
    intro effect heffect
    obtain ⟨channel, samples, rfl⟩ := hwrites effect heffect
    exact Bool.false_ne_true
  rw [Traced.calls, hadded, List.countP_append, hnone, Nat.zero_add]
  rfl

/-- A meeting is one call that blocks. -/
theorem ChunkLoop.calls_meet (wait : Duration) (loop : ChunkLoop S ω) (arrival : Arrival) :
    (loop.meet wait arrival).underway.world.calls = loop.underway.world.calls + 1 := by
  have hdid : (loop.underway.world.did (.awaits wait)).calls = loop.underway.world.calls + 1 :=
    loop.underway.world.calls_did (.awaits wait)
  cases hmessage : arrival.message? with
  | none =>
    rw [(loop.meet_of_no_message wait hmessage).2]
    exact hdid
  | some octets =>
    obtain rfl := Arrival.eq_message hmessage
    rw [loop.meet_message]
    rcases loop.state.accept_snd octets loop.underway.reassembly
      (loop.underway.world.did (.awaits wait)) with hsame | ⟨waveforms, data, happended⟩
    · simp only [hsame]
      exact hdid
    · simp only [happended, Reassembly.calls_append]
      exact hdid

end

/-! ## 2. The caller's wish -/

/-- The same surroundings, but the caller never gives up. -/
def Surroundings.patient (s : Surroundings) : Surroundings := { s with cancelAt := none }

section

variable {s : Surroundings} {m : Moment} (hcancel : s.cancelAt = some m)
include hcancel

theorem Surroundings.cancelledBy_eq (now : Moment) :
    s.cancelledBy now = decide (m.rank ≤ now.rank) := by
  rw [cancelledBy, hcancel]
  rfl

/-- The chunk loop sees the wish once that many calls have begun. -/
theorem Surroundings.cancelledBy_receiving {count : Nat} (hcount : 1 ≤ count) :
    s.cancelledBy (.receiving count) = decide (m.calls ≤ count + 1) := by
  rw [cancelledBy_eq hcancel]
  refine decide_eq_decide.mpr ?_
  cases m with
  | receiving k =>
    simp only [Moment.rank, Moment.calls]
    omega
  | _ =>
    simp only [Moment.rank, Moment.calls]
    omega

/-- The wait for the one answer sees the wish once that many calls have begun. -/
theorem stopsWaiting?_eq (hm : m ≠ .receiving 0) (c : AcquisitionConfig) (receives : Nat) :
    stopsWaiting? c s receives =
      if m.calls ≤ receives + 1 then some .cancelled else stopsWaiting? c s.patient receives := by
  have hseen : s.cancelledBy (if receives = 0 then .sending else .receiving receives) =
      decide (m.calls ≤ receives + 1) := by
    split
    · rename_i hzero
      rw [Surroundings.cancelledBy_eq hcancel]
      refine decide_eq_decide.mpr ?_
      cases m with
      | receiving k =>
        have hk : k ≠ 0 := fun h => hm (congrArg Moment.receiving h)
        simp only [Moment.rank, Moment.calls]
        omega
      | _ =>
        simp only [Moment.rank, Moment.calls]
        omega
    · exact Surroundings.cancelledBy_receiving hcancel (by omega)
  rw [stopsWaiting?, hseen]
  by_cases hcalls : m.calls ≤ receives + 1
  · rw [if_pos (decide_eq_true hcalls), if_pos hcalls]
  · rw [if_neg (by rw [decide_eq_false hcalls]; exact Bool.false_ne_true), if_neg hcalls]
    rfl

end

/-- Whether an exchange heeds that the caller gives up at a moment, when it would come to another one
otherwise: it makes no further call, and if it does not come to the same, then it ends as given up
before the other could succeed. -/
structure Exchanged.Heeds (m : Moment) (e free : Exchanged S ω) : Prop where
  calls : e.underway.world.calls ≤ m.calls
  settled : e = free ∧ e.outcome ≠ none ∨
    e.outcome = some (.error .cancelled) ∧
      ∀ summary, free.outcome = some (.ok summary) → m.calls < free.underway.world.calls

/-- Whether a run heeds that the caller gives up at a moment, when it would come to another one
otherwise. -/
structure Run.Heeds (m : Moment) (run free : Run S ω) : Prop where
  /-- No further call that blocks is made. -/
  calls : run.calls ≤ m.calls
  /-- The call under way, or one before, settles the run; or the run ends as given up, and with no more
  calls than that it would not have succeeded. -/
  settled : run = free ∧ run.outcome ≠ none ∨
    run.outcome = some (.error .cancelled) ∧
      ∀ summary, free.outcome = some (.ok summary) → m.calls < free.calls
  /-- The open sinks of a run that was given up are finished. -/
  finished : run.outcome = some (.error .cancelled) →
    ∀ sink ∈ run.sinks, run.effects.count (.finishes sink.1) = 1

section

variable [SampleSink S ω] {c : AcquisitionConfig} {r : AcquisitionRequest} {label : String}
  {s : Surroundings} {m : Moment}

/-! ## 3. Giving up while chunks are awaited -/

namespace ChunkLoop

/-- The wish is looked at when a turn goes on. -/
theorem turn_eq_of_patient (loop : ChunkLoop S ω) (arrival : Arrival) :
    loop.turn c r s arrival =
      match loop.turn c r s.patient arrival with
      | .onward next => unlessCancelled s next
      | .ended outcome u => .ended outcome u := by
  cases hfound : (loop.meet c.chunkWait arrival).finding with
  | failure e => rw [turn_of_finding hfound, turn_of_finding hfound]
  | lastChunk => rw [turn_of_finding hfound, turn_of_finding hfound]
  | chunk =>
    rw [turn_of_finding hfound, turn_of_finding hfound]
    rfl
  | nothing =>
    rw [turn_of_finding hfound, turn_of_finding hfound]
    have hclock : s.patient.clock = s.clock := rfl
    simp only [hclock]
    split <;> rfl

/-- A loop that is over made at least one call. -/
theorem calls_lt_run (loop : ChunkLoop S ω) {arrivals : List Arrival}
    (h : (loop.run c r s arrivals).outcome ≠ none) :
    loop.underway.world.calls < (loop.run c r s arrivals).underway.world.calls := by
  induction arrivals generalizing loop with
  | nil => exact absurd rfl h
  | cons arrival left ih =>
    have hcalls := loop.calls_meet c.chunkWait arrival
    rw [run_cons] at h ⊢
    cases hturn : loop.turn c r s arrival with
    | onward next =>
      rw [hturn] at h
      have hmore := ih next h
      rw [(turn_eq_onward hturn).2.2, hcalls] at hmore
      exact Nat.lt_of_succ_lt hmore
    | ended outcome u =>
      rw [(turn_eq_ended hturn).1]
      simp only [Turn.resume, hcalls]
      omega

/-- **A loop heeds that the caller gives up during one of its waits.** -/
theorem run_heeds (hcancel : s.cancelAt = some m) {loop : ChunkLoop S ω} {arrivals : List Arrival}
    (hcount : loop.underway.world.calls = loop.receives + 1) (hbefore : loop.receives + 1 < m.calls)
    (hwithin : m.calls ≤ loop.receives + 1 + arrivals.length) :
    (loop.run c r s arrivals).Heeds m (loop.run c r s.patient arrivals) := by
  induction arrivals generalizing loop with
  | nil =>
    rw [List.length_nil] at hwithin
    omega
  | cons arrival left ih =>
    have hcalls := loop.calls_meet c.chunkWait arrival
    rw [run_cons, run_cons, turn_eq_of_patient]
    cases hturn : loop.turn c r s.patient arrival with
    | ended outcome u =>
      refine ⟨?_, Or.inl ⟨rfl, fun h => by cases h⟩⟩
      rw [(turn_eq_ended hturn).1]
      simp only [Turn.resume, hcalls]
      omega
    | onward next =>
      obtain ⟨hreceives, -, hunderway⟩ := turn_eq_onward hturn
      rw [← hunderway, hcount] at hcalls
      have hresume := Turn.resume_unlessCancelled (c := c) (r := r) (s := s) next left
      rw [hreceives] at hresume
      simp only [hresume, Surroundings.cancelledBy_receiving hcancel (Nat.le_add_left 1 _),
        decide_eq_true_eq]
      split
      · rename_i hseen
        refine ⟨?_, Or.inr ⟨rfl, ?_⟩⟩
        · simp only [hcalls]
          omega
        · intro summary hok
          have hover : (next.run c r s.patient left).outcome ≠ none :=
            fun hpending => by cases hpending.symm.trans hok
          exact Nat.lt_of_le_of_lt (hcalls ▸ hseen) (next.calls_lt_run hover)
      · rename_i hunseen
        refine ih ?_ ?_ ?_
        · rw [hcalls, hreceives]
        · omega
        · rw [List.length_cons] at hwithin
          omega

end ChunkLoop

/-! ## 4. Giving up while the one answer is awaited -/

/-- Taking the one answer calls nothing that blocks. -/
theorem calls_takeReply (r : AcquisitionRequest)
    (awaited : Option (Except AcquireError Bytes) × Underway S ω × Nat × List Arrival) :
    (takeReply r awaited).underway.world.calls = awaited.2.1.world.calls := by
  obtain ⟨_ | e | message, u, receives, left⟩ := awaited
  · rfl
  · rfl
  · rw [takeReply]
    cases replyData r message with
    | error e => rfl
    | ok data => exact u.reassembly.calls_append r.waveforms.toNat data u.world

/-- An answer settles the exchange. -/
theorem outcome_takeReply_ne_none (r : AcquisitionRequest) {outcome : Except AcquireError Bytes}
    {u : Underway S ω} {receives : Nat} {left : List Arrival} :
    (takeReply r (some outcome, u, receives, left)).outcome ≠ none := by
  cases outcome with
  | error e => exact fun h => by cases h
  | ok message =>
    rw [takeReply]
    cases replyData r message with
    | error e => exact fun h => by cases h
    | ok data => exact fun h => by cases h

/-- A wait that brought an answer made at least one call. -/
theorem calls_lt_takeReply {receives : Nat} {u : Underway S ω} {arrivals : List Arrival}
    {summary : Summary}
    (h : (takeReply r (awaitReply c s receives u arrivals)).outcome = some (.ok summary)) :
    u.world.calls < (takeReply r (awaitReply c s receives u arrivals)).underway.world.calls := by
  induction arrivals generalizing receives u with
  | nil =>
    cases hstop : stopsWaiting? c s receives with
    | some e =>
      rw [awaitReply_of_stop hstop] at h
      cases h
    | none =>
      rw [awaitReply_of_going hstop] at h
      cases h
  | cons arrival left ih =>
    cases hstop : stopsWaiting? c s receives with
    | some e =>
      rw [awaitReply_of_stop hstop] at h
      cases h
    | none =>
      have hcalls : (u.did (.awaits (singleWait c s receives))).world.calls = u.world.calls + 1 :=
        u.world.calls_did (.awaits (singleWait c s receives))
      rw [awaitReply_of_going hstop] at h ⊢
      cases houtcome : arrival.outcome (singleWait c s receives) with
      | ok octets =>
        simp only [houtcome, calls_takeReply, hcalls]
        omega
      | error e =>
        simp only [houtcome] at h ⊢
        cases e with
        | timeout after =>
          have hmore := ih h
          rw [hcalls] at hmore
          exact Nat.lt_of_succ_lt hmore
        | _ => cases h

/-- The wait ends as given up when it sees the wish. -/
theorem awaitReply_heeds_of_seen {receives : Nat} {u : Underway S ω}
    (hseen : stopsWaiting? c s receives = some .cancelled) (hcalls : u.world.calls = m.calls)
    (arrivals : List Arrival) :
    (takeReply r (awaitReply c s receives u arrivals)).Heeds m
      (takeReply r (awaitReply c s.patient receives u arrivals)) := by
  rw [awaitReply_of_stop hseen]
  refine ⟨Nat.le_of_eq hcalls, Or.inr ⟨rfl, ?_⟩⟩
  intro summary hok
  exact hcalls ▸ calls_lt_takeReply hok

/-- **The wait for the one answer heeds that the caller gives up**, while the request is sent or during
one of the waits. -/
theorem awaitReply_heeds (hcancel : s.cancelAt = some m) (hm : m ≠ .receiving 0) {receives : Nat}
    {u : Underway S ω} {arrivals : List Arrival} (hcount : u.world.calls = receives + 1)
    (hbefore : receives + 1 ≤ m.calls) (hwithin : m.calls ≤ receives + 1 + arrivals.length) :
    (takeReply r (awaitReply c s receives u arrivals)).Heeds m
      (takeReply r (awaitReply c s.patient receives u arrivals)) := by
  have hstop := stopsWaiting?_eq hcancel hm c receives
  induction arrivals generalizing receives u with
  | nil =>
    rw [List.length_nil] at hwithin
    rw [if_pos (by omega)] at hstop
    exact awaitReply_heeds_of_seen hstop (by omega) []
  | cons arrival left ih =>
    by_cases hseen : m.calls ≤ receives + 1
    · rw [if_pos hseen] at hstop
      exact awaitReply_heeds_of_seen hstop (by omega) (arrival :: left)
    · rw [if_neg hseen] at hstop
      cases hwait : stopsWaiting? c s.patient receives with
      | some e =>
        rw [hwait] at hstop
        rw [awaitReply_of_stop hstop, awaitReply_of_stop hwait]
        exact ⟨hcount ▸ hbefore, Or.inl ⟨rfl, fun h => by cases h⟩⟩
      | none =>
        rw [hwait] at hstop
        have hcalls : (u.did (.awaits (singleWait c s receives))).world.calls = receives + 1 + 1 :=
          hcount ▸ u.world.calls_did (.awaits (singleWait c s receives))
        have hsame : singleWait c s.patient receives = singleWait c s receives := rfl
        rw [awaitReply_of_going hstop, awaitReply_of_going hwait, hsame]
        simp only
        have hmore : ∀ outcome : Except AcquireError Bytes,
            (takeReply r (some outcome, u.did (.awaits (singleWait c s receives)), receives + 1,
              left)).Heeds m (takeReply r (some outcome,
                u.did (.awaits (singleWait c s receives)), receives + 1, left)) := by
          intro outcome
          refine ⟨?_, Or.inl ⟨rfl, outcome_takeReply_ne_none r⟩⟩
          simp only [calls_takeReply, hcalls]
          omega
        split
        · exact hmore _
        · refine ih hcalls (by omega) ?_ (stopsWaiting?_eq hcancel hm c (receives + 1))
          rw [List.length_cons] at hwithin
          omega
        · exact hmore _

/-! ## 5. The exchange -/

omit [SampleSink S ω] in
theorem calls_prepared (u : Underway S ω) : (prepared c r u).world.calls = u.world.calls := by
  unfold prepared
  cases c.mode with
  | single => rfl
  | streaming => exact u.world.calls_did (.setsCapacity (c.creditFor r))

omit [SampleSink S ω] in
theorem calls_prepared_did (u : Underway S ω) {effect : Effect} (h : effect.blocks = true) :
    ((prepared c r u).did effect).world.calls = u.world.calls + 1 := by
  have hdid := (prepared c r u).world.calls_did effect
  rw [if_pos h, calls_prepared] at hdid
  exact hdid

/-- An exchange that succeeds makes a call after the request is sent. -/
theorem calls_lt_answered {u : Underway S ω} {summary : Summary}
    (h : (answered c r label s u).outcome = some (.ok summary)) :
    u.world.calls < (answered c r label s u).underway.world.calls := by
  unfold answered at h ⊢
  cases hmode : c.mode with
  | single =>
    rw [hmode] at h
    exact calls_lt_takeReply h
  | streaming =>
    rw [hmode] at h
    exact ChunkLoop.calls_lt_run _ fun hnone => by cases hnone.symm.trans h

/-- An exchange that succeeds makes more calls than the one that sends the request. -/
theorem calls_lt_exchange {u : Underway S ω} {summary : Summary}
    (h : (exchange c r label s u).outcome = some (.ok summary)) :
    u.world.calls + 1 < (exchange c r label s u).underway.world.calls := by
  cases hseen : s.cancelledBy .opening with
  | true =>
    rw [exchange_of_seen hseen] at h
    cases h
  | false =>
    rw [exchange_of_unseen hseen] at h ⊢
    cases hfault : s.sendFault with
    | some e =>
      rw [hfault] at h
      cases h
    | none =>
      rw [hfault] at h
      have hmore := calls_lt_answered h
      rw [calls_prepared_did u rfl] at hmore
      exact hmore

/-- What comes of the request heeds that the caller gives up, unless chunks are asked for and it gives
up while the request is sent. -/
theorem answered_heeds (hcancel : s.cancelAt = some m) (hwithin : m.Within s.arrivals)
    (hm : 1 ≤ m.calls) (hlate : c.mode = .streaming → m ≠ .sending) {u : Underway S ω}
    (hu : u.world.calls = 1) :
    (answered c r label s u).Heeds m (answered c r label s.patient u) := by
  have hpositive : m ≠ .receiving 0 := by
    rintro rfl
    exact absurd hwithin.1 (by omega)
  have hlimit : m.calls ≤ 1 + s.arrivals.length := by
    cases m with
    | receiving count =>
      have hcount : count ≤ s.arrivals.length := hwithin.2
      exact Nat.add_le_add_left hcount 1
    | sending => exact Nat.le_add_right 1 _
    | _ => exact Nat.zero_le _
  unfold answered
  cases hmode : c.mode with
  | single => exact awaitReply_heeds hcancel hpositive hu hm (by omega)
  | streaming =>
    have hnext : 1 < m.calls := by
      cases m with
      | receiving count =>
        have hcount : 1 ≤ count := hwithin.1
        simp only [Moment.calls]
        omega
      | sending => exact absurd rfl (hlate hmode)
      | _ => cases hm
    refine ChunkLoop.run_heeds hcancel hu hnext ?_
    rw [Nat.zero_add]
    exact hlimit

/-- **The exchange heeds that the caller gives up**, unless chunks are asked for, the request is sent
and the caller gives up meanwhile. -/
theorem exchange_heeds (hcancel : s.cancelAt = some m) (hm : m ≠ .before)
    (hwithin : m.Within s.arrivals)
    (hlate : c.mode = .streaming → m = .sending → s.sendFault ≠ none) {u : Underway S ω}
    (hu : u.world.calls = 0) :
    (exchange c r label s u).Heeds m (exchange c r label s.patient u) := by
  cases hseen : s.cancelledBy .opening with
  | true =>
    have hopening : m = .opening := by
      rw [Surroundings.cancelledBy_eq hcancel] at hseen
      cases m with
      | before => exact absurd rfl hm
      | opening => rfl
      | sending => cases hseen
      | receiving count =>
        have hrank : 3 + count ≤ 1 := of_decide_eq_true hseen
        omega
    rw [exchange_of_seen hseen, hopening]
    refine ⟨Nat.le_of_eq hu, Or.inr ⟨rfl, ?_⟩⟩
    intro summary hok
    exact Nat.zero_lt_of_lt (calls_lt_exchange hok)
  | false =>
    have hcalls : 1 ≤ m.calls := by
      rw [Surroundings.cancelledBy_eq hcancel] at hseen
      cases m with
      | before => exact absurd rfl hm
      | opening => cases hseen
      | sending => exact Nat.le_refl 1
      | receiving count => exact Nat.le_add_right 1 count
    have hfree : s.patient.sendFault = s.sendFault := rfl
    rw [exchange_of_unseen hseen, exchange_of_unseen (s := s.patient) rfl, hfree]
    cases hfault : s.sendFault with
    | some e =>
      refine ⟨?_, Or.inl ⟨rfl, fun h => by cases h⟩⟩
      have hsent : ((prepared c r u).did
          (.failsToSend (c.requestMessage r label))).world.calls = u.world.calls + 1 :=
        calls_prepared_did u rfl
      simp only [hsent, hu]
      exact hcalls
    | none =>
      refine answered_heeds hcancel hwithin hcalls ?_ ?_
      · intro hmode hsending
        exact hlate hmode hsending hfault
      · rw [calls_prepared_did u rfl, hu]

end

/-! ## 6. Acquisitions -/

section

variable [SampleSink S ω] {c : AcquisitionConfig} {r : AcquisitionRequest} {label : String}
  {s : Surroundings} {m : Moment} {factory : SinkFactory S ω} {world : ω}

/-- Whether an acquisition comes to send its request, and succeeds in it. -/
def SendsRequest (c : AcquisitionConfig) (r : AcquisitionRequest) (s : Surroundings)
    (factory : SinkFactory S ω) (world : ω) : Prop :=
  s.sendFault = none ∧ ∃ u, Beginning.of c r s factory world = .opened u

omit [SampleSink S ω] in
/-- Opening sinks calls nothing that blocks. -/
theorem Beginning.calls_opened {u : Underway S ω}
    (hbegin : Beginning.of c r s factory world = .opened u) : u.world.calls = 0 := by
  obtain ⟨sinks, hopen, -⟩ := Beginning.of_eq_opened hbegin
  have hcalls := Reassembly.calls_openEach factory r.channels ⟨world, []⟩
  rw [hopen] at hcalls
  exact hcalls

/-- Finishing calls nothing that blocks. -/
theorem Exchanged.calls_conclude {e : Exchanged S ω}
    (hlength : e.underway.reassembly.channels.length = e.underway.reassembly.sinks.length) :
    e.conclude.calls = e.underway.world.calls := by
  cases houtcome : e.outcome with
  | none =>
    rw [Exchanged.conclude, houtcome]
    exact Run.calls_of none e.underway.reassembly.sinks e.underway.world e.receives e.left
  | some outcome =>
    have hnone : (e.underway.reassembly.sinks.map fun sink =>
        Effect.finishes sink.channel).countP Effect.blocks = 0 := by
      rw [List.countP_map]
      exact List.countP_eq_zero.mpr fun _ _ => Bool.false_ne_true
    rw [Run.calls, effects_conclude hlength (by rw [houtcome]; exact Option.some_ne_none outcome),
      List.countP_append, List.countP_reverse, hnone]
    rfl

/-- A caller who has given up before the acquisition begins gets no other outcome. -/
theorem acquire_of_before (hcancel : s.cancelAt = some .before) :
    acquire c r label s factory world = .of (some (.error .cancelled)) [] ⟨world, []⟩ 0 s.arrivals := by
  have hseen : s.cancelledBy .before = true := by
    rw [Surroundings.cancelledBy_eq hcancel]
    rfl
  exact if_pos hseen

omit [SampleSink S ω] in
/-- A caller who gives up later does not change how the acquisition begins. -/
theorem Beginning.of_patient (hcancel : s.cancelAt = some m) (hm : m ≠ .before)
    (c : AcquisitionConfig) (r : AcquisitionRequest) (factory : SinkFactory S ω) (world : ω) :
    Beginning.of c r s factory world = Beginning.of c r s.patient factory world := by
  have hunseen : s.cancelledBy .before = false := by
    rw [Surroundings.cancelledBy_eq hcancel]
    cases m with
    | before => exact absurd rfl hm
    | receiving count => exact decide_eq_false (by simp [Moment.rank])
    | _ => rfl
  unfold Beginning.of
  rw [hunseen]
  rfl

/-- An acquisition that succeeds makes more calls than the one that sends its request. -/
theorem calls_lt_acquire {summary : Summary}
    (h : (acquire c r label s factory world).outcome = some (.ok summary)) :
    1 < (acquire c r label s factory world).calls := by
  rw [acquire_eq] at h ⊢
  cases hbegin : Beginning.of c r s factory world with
  | refused e =>
    rw [hbegin] at h
    cases h
  | unopened channel fault sinks w =>
    rw [hbegin] at h
    cases h
  | opened u =>
    rw [hbegin] at h
    have hmore := calls_lt_exchange (Exchanged.outcome_of_conclude_ok h)
    rw [Beginning.calls_opened hbegin] at hmore
    simp only
    rw [Exchanged.calls_conclude (exchange_finishes_none label hbegin).length]
    exact hmore

/-- An acquisition heeds what its exchange heeds. -/
theorem Exchanged.Heeds.conclude {e free : Exchanged S ω} (h : e.Heeds m free)
    (hlength : e.underway.reassembly.channels.length = e.underway.reassembly.sinks.length)
    (hlength' : free.underway.reassembly.channels.length = free.underway.reassembly.sinks.length) :
    e.conclude.calls ≤ m.calls ∧
      (e.conclude = free.conclude ∧ e.conclude.outcome ≠ none ∨
        e.conclude.outcome = some (.error .cancelled) ∧
          ∀ summary, free.conclude.outcome = some (.ok summary) → m.calls < free.conclude.calls) := by
  rw [calls_conclude hlength, calls_conclude hlength']
  refine ⟨h.calls, ?_⟩
  rcases h.settled with ⟨rfl, hover⟩ | ⟨hcancelled, hfree⟩
  · exact Or.inl ⟨rfl, fun hpending => hover (outcome_conclude_eq_none_iff.mp hpending)⟩
  · refine Or.inr ⟨outcome_conclude_of_error hcancelled, ?_⟩
    intro summary hok
    exact hfree summary (outcome_of_conclude_ok hok)

/-- **Giving up is heeded at every moment, but while a request for chunks is sent.** -/
theorem acquire_heeds (hcancel : s.cancelAt = some m) (hwithin : m.Within s.arrivals)
    (hlate : ¬(c.mode = .streaming ∧ m = .sending ∧ SendsRequest c r s factory world)) :
    (acquire c r label s factory world).Heeds m (acquire c r label s.patient factory world) := by
  by_cases hm : m = .before
  · subst hm
    rw [acquire_of_before hcancel]
    refine ⟨Nat.le_refl 0, Or.inr ⟨rfl, ?_⟩, fun _ sink hsink => by cases hsink⟩
    intro summary hok
    exact Nat.zero_lt_of_lt (calls_lt_acquire hok)
  · have hsame := Beginning.of_patient hcancel hm c r factory world
    have hfree := acquire_eq c r label s.patient factory world
    have hrun := acquire_eq c r label s factory world
    rw [← hsame] at hfree
    cases hbegin : Beginning.of c r s factory world with
    | refused e =>
      rw [hbegin] at hrun hfree
      rw [hrun, hfree]
      exact ⟨Nat.zero_le _, Or.inl ⟨rfl, fun h => by cases h⟩, fun _ sink hsink => by cases hsink⟩
    | unopened channel fault sinks w =>
      rw [hbegin] at hrun hfree
      have hcalls := Reassembly.calls_openEach factory r.channels ⟨world, []⟩
      rw [Beginning.of_eq_unopened hbegin] at hcalls
      rw [hrun, hfree]
      refine ⟨?_, Or.inl ⟨rfl, fun h => by cases h⟩, fun h => by cases h⟩
      simp only [Run.calls_of, hcalls]
      exact Nat.zero_le _
    | opened u =>
      rw [hbegin] at hrun hfree
      simp only at hrun hfree
      have hheeds : (exchange c r label s u).Heeds m (exchange c r label s.patient u) :=
        exchange_heeds hcancel hm hwithin
          (fun hmode hsending hsend => hlate ⟨hmode, hsending, hsend, u, hbegin⟩)
          (Beginning.calls_opened hbegin)
      obtain ⟨hcalls, hsettled⟩ := hheeds.conclude (exchange_finishes_none label hbegin).length
        (exchange_finishes_none label (hsame ▸ hbegin)).length
      rw [← hrun, ← hfree] at hsettled
      rw [← hrun] at hcalls
      refine ⟨hcalls, hsettled, ?_⟩
      intro hcancelled sink hsink
      refine count_finishes_of_opened hbegin ?_ hsink
      rw [hcancelled]
      exact Option.some_ne_none _

omit [SampleSink S ω] in
theorem Surroundings.unseen_of_sending (hcancel : s.cancelAt = some .sending) :
    s.cancelledBy .opening = false := by
  rw [cancelledBy_eq hcancel]
  rfl

/-- A request for chunks that is sent while the caller gives up is waited for. -/
theorem not_heeds_sending (hcancel : s.cancelAt = some .sending) (hmode : c.mode = .streaming)
    (hsends : SendsRequest c r s factory world) (free : Run S ω) :
    ¬(acquire c r label s factory world).Heeds .sending free := by
  intro hheeds
  have hover : (acquire c r label s factory world).outcome ≠ none := by
    rcases hheeds.settled with ⟨-, hover⟩ | ⟨hcancelled, -⟩
    · exact hover
    · rw [hcancelled]
      exact Option.some_ne_none _
  have hcalls := hheeds.calls
  obtain ⟨hsend, u, hbegin⟩ := hsends
  have hrun : acquire c r label s factory world = (exchange c r label s u).conclude := by
    rw [acquire_eq, hbegin]
  rw [hrun, Exchanged.calls_conclude (exchange_finishes_none label hbegin).length] at hcalls
  rw [hrun, ne_eq, Exchanged.outcome_conclude_eq_none_iff] at hover
  rw [exchange_of_unseen (Surroundings.unseen_of_sending hcancel), hsend] at hcalls hover
  simp only [answered, hmode] at hcalls hover
  have hsent : ((prepared c r u).did (.sends (c.requestMessage r label))).world.calls =
      u.world.calls + 1 := calls_prepared_did u rfl
  have hmore := ChunkLoop.calls_lt_run _ hover
  simp only [hsent] at hmore
  exact absurd hcalls (Nat.not_le.mpr (Nat.lt_of_le_of_lt (Nat.le_add_left 1 _) hmore))

/-- Loops under the same wish come to the same. -/
theorem ChunkLoop.run_congr {t : Surroundings} (hpatient : s.patient = t.patient)
    (hsame : ∀ count, 1 ≤ count → s.cancelledBy (.receiving count) = t.cancelledBy (.receiving count))
    (loop : ChunkLoop S ω) (arrivals : List Arrival) :
    loop.run c r s arrivals = loop.run c r t arrivals := by
  induction arrivals generalizing loop with
  | nil => rfl
  | cons arrival left ih =>
    rw [run_cons, run_cons, turn_eq_of_patient, turn_eq_of_patient (s := t), ← hpatient]
    cases hturn : loop.turn c r s.patient arrival with
    | ended outcome u => rfl
    | onward next =>
      have hreceives := (turn_eq_onward hturn).1
      simp only [← hreceives, Turn.resume_unlessCancelled, ih,
        hsame next.receives (hreceives ▸ Nat.le_add_left 1 _)]

/-- Exchanges of chunks under the same wish come to the same. -/
theorem exchange_congr {t : Surroundings} (hmode : c.mode = .streaming)
    (hpatient : s.patient = t.patient) (hunseen : s.cancelledBy .opening = false)
    (hunseen' : t.cancelledBy .opening = false)
    (hsame : ∀ count, 1 ≤ count → s.cancelledBy (.receiving count) = t.cancelledBy (.receiving count))
    (u : Underway S ω) : exchange c r label s u = exchange c r label t u := by
  obtain ⟨harrivals, hclock, -, hsend⟩ := Surroundings.mk.inj hpatient
  rw [exchange_of_unseen hunseen, exchange_of_unseen hunseen', ← hsend, ← harrivals]
  cases s.sendFault with
  | some e => rfl
  | none =>
    simp only [answered, hmode, ← harrivals, ← hclock]
    exact ChunkLoop.run_congr hpatient hsame _ _

/-- With chunks, giving up while the request is sent is giving up during the first wait. -/
theorem acquire_of_sending (hcancel : s.cancelAt = some .sending) (hmode : c.mode = .streaming) :
    acquire c r label s factory world =
      acquire c r label { s with cancelAt := some (.receiving 1) } factory world := by
  have hlater : ({ s with cancelAt := some (.receiving 1) } : Surroundings).cancelAt =
      some (.receiving 1) := rfl
  have hpatient : s.patient = ({ s with cancelAt := some (.receiving 1) } : Surroundings).patient := rfl
  have hbegin := Beginning.of_patient hcancel (fun h => by cases h) c r factory world
  have hbegin' := Beginning.of_patient hlater (fun h => by cases h) c r factory world
  have hseen : ∀ count, 1 ≤ count → s.cancelledBy (.receiving count) =
      ({ s with cancelAt := some (.receiving 1) } : Surroundings).cancelledBy (.receiving count) := by
    intro count hcount
    rw [Surroundings.cancelledBy_receiving hcancel hcount,
      Surroundings.cancelledBy_receiving hlater hcount]
    simp [Moment.calls, hcount]
  have hexchange : ∀ u : Underway S ω, exchange c r label s u =
      exchange c r label { s with cancelAt := some (.receiving 1) } u :=
    exchange_congr hmode hpatient (Surroundings.unseen_of_sending hcancel) rfl hseen
  rw [acquire_eq, acquire_eq c r label { s with cancelAt := some (.receiving 1) }, hbegin, hbegin',
    ← hpatient]
  simp only [hexchange]

/-- **Giving up is heeded, but for one moment**: with chunks, while the request is sent.  There it is
heeded one wait later. -/
theorem cancel_heeded_iff (hcancel : s.cancelAt = some m) (hwithin : m.Within s.arrivals) :
    let run := acquire c r label s factory world
    let free := acquire c r label s.patient factory world
    (run.Heeds m free ↔
        ¬(c.mode = .streaming ∧ m = .sending ∧ SendsRequest c r s factory world)) ∧
      (c.mode = .streaming → m = .sending → s.arrivals ≠ [] → run.Heeds (.receiving 1) free) := by
  intro run free
  refine ⟨⟨?_, acquire_heeds hcancel hwithin⟩, ?_⟩
  · rintro hheeds ⟨hmode, rfl, hsends⟩
    exact not_heeds_sending hcancel hmode hsends free hheeds
  · rintro hmode rfl harrivals
    have hfirst : Moment.Within s.arrivals (.receiving 1) :=
      ⟨Nat.le_refl 1, List.length_pos_of_ne_nil harrivals⟩
    rw [show run = acquire c r label { s with cancelAt := some (.receiving 1) } factory world from
      acquire_of_sending hcancel hmode]
    exact acquire_heeds rfl hfirst fun hlate => by cases hlate.2.1

end

/-- Two chunks, while the first of which is awaited the caller gives up. -/
def givenUp : Surroundings where
  arrivals := [.ofChunk (pairChunk "a" 1 [1, 2] false), .ofChunk (pairChunk "a" 1 [3, 4] true)]
  cancelAt := some (.receiving 1)

/-- The first chunk is in the sinks, and the second is not awaited. -/
theorem cancel_heeded_first_wait :
    let run := acquire {} pairRequest "a" givenUp sureFactory ()
    run.Heeds (.receiving 1) (acquire {} pairRequest "a" givenUp.patient sureFactory ()) ∧
      run.outcome = some (.error .cancelled) ∧ run.calls = 2 ∧
      (run.sinks.map fun sink => sink.2.samples) = [[1], [2]] := by
  intro run
  have hwithin : Moment.Within givenUp.arrivals (.receiving 1) := ⟨by decide, by decide⟩
  refine ⟨(cancel_heeded_iff rfl hwithin).1.mpr ?_, rfl, by decide +kernel, rfl⟩
  rintro ⟨-, hsending, -⟩
  cases hsending

/-- **An acquisition takes all of its data after it was given up**: the caller gives up while the request
is sent, a chunk is awaited even so, and the acquisition succeeds. -/
theorem waits_after_giving_up :
    let late : Surroundings :=
      { arrivals := [.ofChunk (pairChunk "a" 2 [1, 2, 3, 4] true)], cancelAt := some .sending }
    let run := acquire {} pairRequest "a" late sureFactory ()
    ¬run.Heeds .sending (acquire {} pairRequest "a" late.patient sureFactory ()) ∧
      run.calls = 2 ∧ (∃ summary, run.outcome = some (.ok summary)) ∧
      (run.sinks.map fun sink => sink.2.samples) = [[1, 3], [2, 4]] := by
  intro late run
  have hcalls : run.calls = 2 := by decide +kernel
  refine ⟨?_, hcalls, ⟨_, rfl⟩, rfl⟩
  intro hheeds
  have hlimit : run.calls ≤ 1 := hheeds.calls
  omega

end Readout

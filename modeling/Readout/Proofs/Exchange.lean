/-
# The exchange with the device

What the two exchanges have in common, and how each of them goes: the exchange of chunks is the chunk
loop behind the request, and the exchange of one answer a wait and an append.

* `exchangeChunks_eq` -- the exchange of chunks is the loop, or an error before it;
* `awaitReply_of_stop`, `awaitReply_of_going` -- each wait for the one answer;
* `Lasting.exchange` -- what effects on the link and appending keep, every exchange keeps.
-/
import Readout.Proofs.ChunkLoop
import Readout.Proofs.Course

namespace Readout

variable {S ω : Type}

/-! ## 1. Surroundings -/

/-- Whether a request for a message only took time. -/
def Arrival.lapses : Arrival → Bool
  | quiet => true
  | fails (.timeout _) => true
  | _ => false

theorem Arrival.outcome_of_lapses {arrival : Arrival} (h : arrival.lapses = true)
    (wait : Duration) : ∃ after, arrival.outcome wait = .error (.timeout after) := by
  cases arrival with
  | message octets => cases h
  | quiet => exact ⟨wait, rfl⟩
  | fails e =>
    cases e with
    | timeout after => exact ⟨after, rfl⟩
    | _ => cases h

/-- What surroundings are like in which nothing but the device decides. -/
structure Undisturbed (s : Surroundings) : Prop where
  uncancelled : s.cancelAt = none
  sent : s.sendFault = none

theorem Undisturbed.cancelledBy {s : Surroundings} (h : Undisturbed s) (now : Moment) :
    s.cancelledBy now = false := by
  rw [Surroundings.cancelledBy, h.uncancelled]
  rfl

/-! ## 2. One answer -/

/-- Why the one answer is not waited for any longer, if so. -/
def stopsWaiting? (c : AcquisitionConfig) (s : Surroundings) (receives : Nat) :
    Option AcquireError :=
  if s.cancelledBy (if receives = 0 then .sending else .receiving receives) then some .cancelled
  else if c.replyTimeout.sub ((s.clock.after receives).sub s.clock.sent) = .zero then
    some (.timeout c.replyTimeout)
  else none

/-- How long the next wait for the one answer may be. -/
def singleWait (c : AcquisitionConfig) (s : Surroundings) (receives : Nat) : Duration :=
  (c.replyTimeout.sub ((s.clock.after receives).sub s.clock.sent)).min AcquisitionConfig.maxWait

/-- What the one answer is taken to be, if something comes that ends the wait for it. -/
def Arrival.awaited? : Arrival → Option (Except AcquireError Bytes)
  | message octets => some (.ok octets)
  | quiet => none
  | fails (.timeout _) => none
  | fails e => some (.error (.receive e))

section

variable {c : AcquisitionConfig} {s : Surroundings} {receives : Nat} {u : Underway S ω}

theorem awaitReply_of_stop {e : AcquireError} (h : stopsWaiting? c s receives = some e)
    (arrivals : List Arrival) :
    awaitReply c s receives u arrivals = (some (.error e), u, receives, arrivals) := by
  unfold stopsWaiting? at h
  unfold awaitReply
  by_cases hcancelled :
      s.cancelledBy (if receives = 0 then .sending else .receiving receives) = true
  · rw [if_pos hcancelled] at h ⊢
    rw [Option.some.inj h]
  · rw [if_neg hcancelled] at h ⊢
    by_cases hexpired : c.replyTimeout.sub ((s.clock.after receives).sub s.clock.sent) = .zero
    · rw [if_pos hexpired] at h ⊢
      rw [Option.some.inj h]
    · rw [if_neg hexpired] at h
      cases h

theorem awaitReply_of_going (h : stopsWaiting? c s receives = none) (arrivals : List Arrival) :
    awaitReply c s receives u arrivals =
      match arrivals with
      | [] => (none, u, receives, [])
      | arrival :: left =>
        match arrival.outcome (singleWait c s receives) with
        | .ok message =>
          (some (.ok message), u.did (.awaits (singleWait c s receives)), receives + 1, left)
        | .error (.timeout _) =>
          awaitReply c s (receives + 1) (u.did (.awaits (singleWait c s receives))) left
        | .error e =>
          (some (.error (.ofReceive e)), u.did (.awaits (singleWait c s receives)), receives + 1,
            left) := by
  unfold stopsWaiting? at h
  rw [awaitReply.eq_def]
  by_cases hcancelled :
      s.cancelledBy (if receives = 0 then .sending else .receiving receives) = true
  · rw [if_pos hcancelled] at h
    cases h
  · rw [if_neg hcancelled] at h
    by_cases hexpired : c.replyTimeout.sub ((s.clock.after receives).sub s.clock.sent) = .zero
    · rw [if_pos hexpired] at h
      cases h
    · simp only [if_neg hcancelled, if_neg hexpired]
      rfl

/-- One more wait for the one answer is the last one, unless nothing comes. -/
theorem awaitReply_cons (h : stopsWaiting? c s receives = none) (arrival : Arrival) (left : List Arrival) :
    awaitReply c s receives u (arrival :: left) =
      match arrival.awaited? with
      | none => awaitReply c s (receives + 1) (u.did (.awaits (singleWait c s receives))) left
      | some awaited => (some awaited, u.did (.awaits (singleWait c s receives)), receives + 1, left) := by
  rw [awaitReply_of_going h]
  cases arrival with
  | message octets => rfl
  | quiet => rfl
  | fails e => cases e <;> rfl

/-- Nothing is left of a span as soon as it has passed. -/
theorem Duration.sub_eq_zero_iff {span elapsed : Duration} : span.sub elapsed = .zero ↔ span ≤ elapsed := by
  rw [sub, zero, mk.injEq]
  exact Nat.sub_eq_zero_iff_le

/-- The wait goes on while there is time. -/
theorem stopsWaiting?_eq_none (hs : Undisturbed s) {receives : Nat}
    (htime : (s.clock.after receives).sub s.clock.sent < c.replyTimeout) :
    stopsWaiting? c s receives = none := by
  have hleft : c.replyTimeout.sub ((s.clock.after receives).sub s.clock.sent) ≠ .zero :=
    Duration.sub_eq_zero_iff.not.mpr (Nat.not_le_of_lt htime)
  rw [stopsWaiting?, hs.cancelledBy, if_neg Bool.false_ne_true, if_neg hleft]

/-- An answer in time is waited for until it is there. -/
theorem awaitReply_of_lapses (hs : Undisturbed s) {waits : List Arrival} {message : Bytes}
    (hwaits : ∀ arrival ∈ waits, arrival.lapses = true) (rest : List Arrival) {receives : Nat}
    {u : Underway S ω}
    (htime : ∀ n, receives ≤ n → n ≤ receives + waits.length →
      (s.clock.after n).sub s.clock.sent < c.replyTimeout) :
    ∃ u', awaitReply c s receives u (waits ++ .message message :: rest) =
        (some (.ok message), u', receives + waits.length + 1, rest) ∧
      u'.reassembly = u.reassembly := by
  induction waits generalizing receives u with
  | nil =>
    have hgoing := stopsWaiting?_eq_none hs (htime receives (Nat.le_refl _) (Nat.le_add_right _ _))
    rw [List.nil_append, awaitReply_of_going hgoing]
    exact ⟨_, rfl, rfl⟩
  | cons arrival waits ih =>
    have hgoing := stopsWaiting?_eq_none hs (htime receives (Nat.le_refl _) (Nat.le_add_right _ _))
    obtain ⟨after, houtcome⟩ := Arrival.outcome_of_lapses (hwaits arrival List.mem_cons_self)
      (singleWait c s receives)
    have hlater : ∀ n, receives + 1 ≤ n → n ≤ receives + 1 + waits.length →
        (s.clock.after n).sub s.clock.sent < c.replyTimeout :=
      fun n hle hlt => htime n (by omega) (by rw [List.length_cons]; omega)
    obtain ⟨u', hawait, hreassembly⟩ := ih
      (fun other hother => hwaits other (List.mem_cons_of_mem _ hother)) hlater
      (u := u.did (.awaits (singleWait c s receives)))
    refine ⟨u', ?_, hreassembly⟩
    rw [List.cons_append, awaitReply_of_going hgoing]
    simp only [houtcome, hawait, List.length_cons]
    rw [Nat.add_right_comm receives 1]
    rfl

end

section

variable [SampleSink S ω]

/-- The exchange of one answer, when it is what was asked for and the sinks take it. -/
theorem exchangeSingle_of_data {c : AcquisitionConfig} {r : AcquisitionRequest} {label : String}
    {s : Surroundings} {u u' : Underway S ω} {message : Bytes} {receives : Nat}
    {left : List Arrival} {data : List UInt32} (hs : Undisturbed s)
    (hawait : awaitReply c s 0 (u.did (.sends (c.requestMessage r label))) s.arrivals =
      (some (.ok message), u', receives, left))
    (hdata : replyData r message = .ok data)
    (hnone : (u'.reassembly.append r.waveforms.toNat data u'.world).1 = none) :
    exchangeSingle c r label s u =
      let appended := u'.reassembly.append r.waveforms.toNat data u'.world
      ⟨some (.ok (singleSummary r appended.2.1.waveforms.toNat)), ⟨appended.2.1, appended.2.2⟩,
        receives, left⟩ := by
  unfold exchangeSingle Underway.send
  rw [hs.cancelledBy, if_neg Bool.false_ne_true, hs.sent]
  simp only [hawait, hdata]
  generalize u'.reassembly.append r.waveforms.toNat data u'.world = appended at hnone ⊢
  obtain ⟨_ | e, reassembly, w⟩ := appended
  · rfl
  · cases hnone

/-! ## 3. The exchange of chunks -/

/-- The loop that takes chunks, once the request is sent. -/
def ChunkLoop.start? (c : AcquisitionConfig) (r : AcquisitionRequest) (label : String)
    (s : Surroundings) (u : Underway S ω) : Option (ChunkLoop S ω) :=
  if s.cancelledBy .opening then none
  else
    match s.sendFault with
    | some _ => none
    | none =>
      some ⟨0, s.clock.sent, .start c r label,
        (u.did (.setsCapacity (c.creditFor r))).did (.sends (c.requestMessage r label))⟩

/-- The exchange of chunks is the loop, or an error before it. -/
theorem exchangeChunks_eq (c : AcquisitionConfig) (r : AcquisitionRequest) (label : String)
    (s : Surroundings) (u : Underway S ω) :
    (∃ loop, ChunkLoop.start? c r label s u = some loop ∧
        loop.receives = 0 ∧ loop.state = .start c r label ∧
        loop.underway.reassembly = u.reassembly ∧
        exchangeChunks c r label s u = loop.run c r s s.arrivals) ∨
      (∃ e u', ChunkLoop.start? c r label s u = none ∧ u'.reassembly = u.reassembly ∧
        exchangeChunks c r label s u = ⟨some (.error e), u', 0, s.arrivals⟩) := by
  unfold exchangeChunks ChunkLoop.start? Underway.send
  split
  · exact Or.inr ⟨.cancelled, u, rfl, rfl, rfl⟩
  · cases s.sendFault with
    | some e =>
      exact Or.inr ⟨.send e, (u.did (.setsCapacity (c.creditFor r))).did
        (.failsToSend (c.requestMessage r label)), rfl, rfl, rfl⟩
    | none =>
      refine Or.inl ⟨_, rfl, rfl, rfl, rfl, ?_⟩
      exact receiveChunks_eq_run ⟨0, s.clock.sent, .start c r label, _⟩ s.arrivals

/-- An exchange of chunks whose request is sent is the loop. -/
theorem exchangeChunks_of_sent {c : AcquisitionConfig} {r : AcquisitionRequest} {label : String}
    {s : Surroundings} (hunseen : s.cancelledBy .opening = false) (hsend : s.sendFault = none)
    (u : Underway S ω) :
    exchangeChunks c r label s u =
      ChunkLoop.run c r s ⟨0, s.clock.sent, .start c r label,
        (u.did (.setsCapacity (c.creditFor r))).did (.sends (c.requestMessage r label))⟩
        s.arrivals := by
  unfold exchangeChunks Underway.send
  rw [hunseen, if_neg Bool.false_ne_true, hsend]
  exact receiveChunks_eq_run ⟨0, s.clock.sent, .start c r label, _⟩ s.arrivals

/-- An exchange of chunks whose request cannot be sent is over. -/
theorem exchangeChunks_of_sendFault {c : AcquisitionConfig} {r : AcquisitionRequest}
    {label : String} {s : Surroundings} {e : LinkError} (hunseen : s.cancelledBy .opening = false)
    (hfault : s.sendFault = some e) (u : Underway S ω) :
    exchangeChunks c r label s u =
      ⟨some (.error (.send e)),
        (u.did (.setsCapacity (c.creditFor r))).did (.failsToSend (c.requestMessage r label)), 0,
        s.arrivals⟩ := by
  unfold exchangeChunks Underway.send
  rw [hunseen, if_neg Bool.false_ne_true, hfault]

/-- When nothing else decides, the exchange of chunks is the loop. -/
theorem exchangeChunks_of_undisturbed (c : AcquisitionConfig) (r : AcquisitionRequest)
    (label : String) {s : Surroundings} (hs : Undisturbed s) (u : Underway S ω) :
    exchangeChunks c r label s u =
      ChunkLoop.run c r s ⟨0, s.clock.sent, .start c r label,
        (u.did (.setsCapacity (c.creditFor r))).did (.sends (c.requestMessage r label))⟩
        s.arrivals :=
  exchangeChunks_of_sent (hs.cancelledBy .opening) hs.sent u

/-! ## 4. The exchange in either mode -/

/-- What comes of the wait for the one answer. -/
def takeReply (r : AcquisitionRequest) :
    Option (Except AcquireError Bytes) × Underway S ω × Nat × List Arrival → Exchanged S ω
  | (none, u, receives, left) => ⟨none, u, receives, left⟩
  | (some (.error e), u, receives, left) => ⟨some (.error e), u, receives, left⟩
  | (some (.ok message), u, receives, left) =>
    match replyData r message with
    | .error e => ⟨some (.error e), u, receives, left⟩
    | .ok data =>
      let appended := u.reassembly.append r.waveforms.toNat data u.world
      ⟨some (match appended.1 with
          | some e => .error e
          | none => .ok (singleSummary r appended.2.1.waveforms.toNat)),
        ⟨appended.2.1, appended.2.2⟩, receives, left⟩

/-- What an acquisition does on the link before it sends its request. -/
def prepared (c : AcquisitionConfig) (r : AcquisitionRequest) (u : Underway S ω) : Underway S ω :=
  match c.mode with
  | .single => u
  | .streaming => u.did (.setsCapacity (c.creditFor r))

/-- What comes of an exchange once the request is sent. -/
def answered (c : AcquisitionConfig) (r : AcquisitionRequest) (label : String) (s : Surroundings)
    (u : Underway S ω) : Exchanged S ω :=
  match c.mode with
  | .single => takeReply r (awaitReply c s 0 u s.arrivals)
  | .streaming => ChunkLoop.run c r s ⟨0, s.clock.sent, .start c r label, u⟩ s.arrivals

section

variable {c : AcquisitionConfig} {r : AcquisitionRequest} {label : String} {s : Surroundings}

/-- Who has given up before the exchange sends nothing. -/
theorem exchange_of_seen (hseen : s.cancelledBy .opening = true) (u : Underway S ω) :
    exchange c r label s u = ⟨some (.error .cancelled), u, 0, s.arrivals⟩ := by
  unfold exchange
  cases c.mode with
  | single => exact if_pos hseen
  | streaming => exact if_pos hseen

/-- An exchange sends its request, and waits for what comes of it. -/
theorem exchange_of_unseen (hunseen : s.cancelledBy .opening = false) (u : Underway S ω) :
    exchange c r label s u =
      match s.sendFault with
      | some e =>
        ⟨some (.error (.send e)), (prepared c r u).did (.failsToSend (c.requestMessage r label)), 0,
          s.arrivals⟩
      | none => answered c r label s ((prepared c r u).did (.sends (c.requestMessage r label))) := by
  unfold exchange prepared answered
  cases c.mode with
  | streaming =>
    cases hfault : s.sendFault with
    | some e => exact exchangeChunks_of_sendFault hunseen hfault u
    | none => exact exchangeChunks_of_sent hunseen hfault u
  | single =>
    simp only [exchangeSingle, Underway.send]
    rw [if_neg (by rw [hunseen]; exact Bool.false_ne_true)]
    cases s.sendFault with
    | some e => rfl
    | none =>
      simp only
      generalize awaitReply c s 0 (u.did (.sends (c.requestMessage r label))) s.arrivals = awaited
      obtain ⟨_ | e | message, u', receives, left⟩ := awaited
      · rfl
      · rfl
      · simp only [takeReply]
        cases replyData r message with
        | error e => rfl
        | ok data =>
          simp only
          generalize u'.reassembly.append r.waveforms.toNat data u'.world = appended
          obtain ⟨_ | e, reassembly, w⟩ := appended <;> rfl

/-- What is sent is answered. -/
theorem exchange_of_sent (hunseen : s.cancelledBy .opening = false) (hsend : s.sendFault = none)
    (u : Underway S ω) : exchange c r label s u =
      answered c r label s ((prepared c r u).did (.sends (c.requestMessage r label))) := by
  rw [exchange_of_unseen hunseen, hsend]

/-- An exchange that waits has sent its request. -/
theorem sent_of_waiting {u : Underway S ω} (h : (exchange c r label s u).outcome = none) :
    s.cancelledBy .opening = false ∧ s.sendFault = none := by
  by_cases hseen : s.cancelledBy .opening = true
  · rw [exchange_of_seen hseen] at h
    cases h
  · have hunseen : s.cancelledBy .opening = false := Bool.eq_false_iff.mpr hseen
    rw [exchange_of_unseen hunseen] at h
    cases hsend : s.sendFault with
    | none => exact ⟨hunseen, rfl⟩
    | some e =>
      rw [hsend] at h
      cases h

end

/-! ## 5. What every exchange keeps -/

/-- Whether an effect is on the link, and not on a sink. -/
def Effect.isOnLink : Effect → Bool
  | setsCapacity _ => true
  | sends _ => true
  | failsToSend _ => true
  | awaits _ => true
  | _ => false

/-- A property of sinks and of what was done that waiting for a message keeps, and appending too. -/
structure Answering (Q : Reassembly (TracedSink S) → Traced ω → Prop) : Prop where
  awaits : ∀ reassembly w wait, Q reassembly w → Q reassembly (w.did (.awaits wait))
  append : ∀ (reassembly : Reassembly (TracedSink S)) waveforms data (w : Traced ω),
    Q reassembly w →
      Q (reassembly.append waveforms data w).2.1 (reassembly.append waveforms data w).2.2

/-- A property of sinks and of what was done that effects on the link keep, and appending too. -/
structure Lasting (Q : Reassembly (TracedSink S) → Traced ω → Prop) : Prop where
  link : ∀ reassembly w (effect : Effect), effect.isOnLink = true → Q reassembly w →
    Q reassembly (w.did effect)
  append : ∀ (reassembly : Reassembly (TracedSink S)) waveforms data (w : Traced ω),
    Q reassembly w →
      Q (reassembly.append waveforms data w).2.1 (reassembly.append waveforms data w).2.2

variable {Q : Reassembly (TracedSink S) → Traced ω → Prop} {c : AcquisitionConfig}
  {r : AcquisitionRequest} {s : Surroundings}

theorem Lasting.answering (hQ : Lasting Q) : Answering Q where
  awaits reassembly w wait := hQ.link reassembly w (.awaits wait) rfl
  append := hQ.append

namespace Answering

variable (hQ : Answering Q)
include hQ

/-- Waiting for the one answer only waits. -/
theorem awaitReply (receives : Nat) (u : Underway S ω) (arrivals : List Arrival)
    (h : Q u.reassembly u.world) :
    Q (awaitReply c s receives u arrivals).2.1.reassembly
      (awaitReply c s receives u arrivals).2.1.world := by
  induction arrivals generalizing receives u with
  | nil =>
    cases hstop : stopsWaiting? c s receives with
    | some e =>
      rw [awaitReply_of_stop hstop]
      exact h
    | none =>
      rw [awaitReply_of_going hstop]
      exact h
  | cons arrival left ih =>
    cases hstop : stopsWaiting? c s receives with
    | some e =>
      rw [awaitReply_of_stop hstop]
      exact h
    | none =>
      have hdid := hQ.awaits u.reassembly u.world (singleWait c s receives) h
      rw [awaitReply_of_going hstop]
      simp only
      split
      · exact hdid
      · exact ih _ _ hdid
      · exact hdid

/-- Every meeting keeps it. -/
theorem meet {wait : Duration} (loop : ChunkLoop S ω) (arrival : Arrival)
    (h : Q loop.underway.reassembly loop.underway.world) :
    Q (loop.meet wait arrival).underway.reassembly (loop.meet wait arrival).underway.world := by
  have hdid := hQ.awaits _ _ wait h
  cases hmessage : arrival.message? with
  | none =>
    rw [(loop.meet_of_no_message wait hmessage).2]
    exact hdid
  | some octets =>
    obtain rfl := Arrival.eq_message hmessage
    rw [loop.meet_message]
    rcases loop.state.accept_snd octets loop.underway.reassembly
      (loop.underway.world.did (.awaits wait)) with hsame | ⟨waveforms, data, happended⟩
    · simp only [hsame]
      exact hdid
    · simp only [happended]
      exact hQ.append _ waveforms data _ hdid

/-- What comes of the wait for the one answer keeps it. -/
theorem takeReply (awaited : Option (Except AcquireError Bytes) × Underway S ω × Nat × List Arrival)
    (h : Q awaited.2.1.reassembly awaited.2.1.world) :
    Q (takeReply r awaited).underway.reassembly (takeReply r awaited).underway.world := by
  obtain ⟨_ | e | message, u, receives, left⟩ := awaited
  · exact h
  · exact h
  · rw [Readout.takeReply]
    cases replyData r message with
    | error e => exact h
    | ok data => exact hQ.append u.reassembly r.waveforms.toNat data u.world h

/-- What comes of a request that is sent keeps it. -/
theorem answered (label : String) {u : Underway S ω} (h : Q u.reassembly u.world) :
    Q (answered c r label s u).underway.reassembly (answered c r label s u).underway.world := by
  unfold Readout.answered
  cases c.mode with
  | single => exact hQ.takeReply _ (hQ.awaitReply 0 u s.arrivals h)
  | streaming =>
    obtain ⟨-, -, -, -, hend, -⟩ := ChunkLoop.run_invariant (c := c) (r := r) (s := s)
      (P := fun _ _ u => Q u.reassembly u.world)
      (fun _ loop arrival h => hQ.meet loop arrival h) []
      ⟨0, s.clock.sent, .start c r label, u⟩ h s.arrivals
    exact hend

end Answering

/-- **What effects on the link and appending keep, every exchange keeps.** -/
theorem Lasting.exchange (hQ : Lasting Q) (label : String) {u : Underway S ω}
    (h : Q u.reassembly u.world) :
    Q (exchange c r label s u).underway.reassembly (exchange c r label s u).underway.world := by
  by_cases hseen : s.cancelledBy .opening = true
  · rw [exchange_of_seen hseen]
    exact h
  · have hprepared : Q (prepared c r u).reassembly (prepared c r u).world := by
      unfold prepared
      cases c.mode with
      | single => exact h
      | streaming => exact hQ.link _ _ (.setsCapacity (c.creditFor r)) rfl h
    rw [exchange_of_unseen (Bool.eq_false_iff.mpr hseen)]
    cases s.sendFault with
    | some e => exact hQ.link _ _ (.failsToSend (c.requestMessage r label)) rfl hprepared
    | none =>
      have hsent := hQ.link _ _ (.sends (c.requestMessage r label)) rfl hprepared
      exact hQ.answering.answered label hsent

end

end Readout

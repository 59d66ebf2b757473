/-
# When an acquisition runs out of time

An acquisition that takes chunks gives up when it has been quiet for as long as a reply may take.  It is
quiet since the latest chunk that it took, or since its request was sent (`Surroundings.quietSince`): what
is passed over in between changes nothing of that, and neither do waits in which nothing comes.  But the
clock is looked at behind each of these.  So the time is up at the first of them that comes too late
(`TimeIsUp`), and not before, unless something else has ended the stream.

An acquisition that takes one answer gives up when that has not come in time since the request was sent.
No single wait takes longer than the time that is left, or than a tenth of a second.

* `Surroundings.waitsSince_eq_quietSince` -- nothing else is waited for as long as nothing has ended;
* `tooQuiet_iff_ends` -- the quiet ends the stream exactly where it lasts too long;
* `waits_acquire` -- how long each wait may take;
* `acquire_deadline` -- when an acquisition runs out of time, in either mode.
-/
import Readout.Proofs.Failures

namespace Readout

open Control

/-! ## 1. The clock -/

/-- A clock that does not go backwards. -/
structure Clock.Advances (clock : Clock) : Prop where
  begins : clock.sent ≤ clock.after 0
  goes_on : ∀ n, clock.after n ≤ clock.after (n + 1)

/-- A span lies between two readings of a clock if the later one is as much later. -/
theorem Duration.le_sub_iff {span since now : Duration} (h : since ≤ now) :
    span ≤ now.sub since ↔ since.add span ≤ now := by
  have hnanos : since.nanos ≤ now.nanos := h
  show span.nanos ≤ now.nanos - since.nanos ↔ since.nanos + span.nanos ≤ now.nanos
  omega

/-- A clock that does not go backwards shows how much time has passed since the request. -/
theorem Clock.Advances.le_sub_sent_iff {clock : Clock} (h : clock.Advances) {span : Duration} (n : Nat) :
    span ≤ (clock.after n).sub clock.sent ↔ clock.sent.add span ≤ clock.after n := by
  refine Duration.le_sub_iff ?_
  induction n with
  | zero => exact h.begins
  | succ n ih => exact Nat.le_trans ih (h.goes_on n)

/-! ## 2. How long it has been quiet -/

namespace Surroundings

variable {c : AcquisitionConfig} {r : AcquisitionRequest} {label : String} {s : Surroundings}

/-- Whether the arrival behind so many others is a chunk that the stream takes. -/
def accepts (s : Surroundings) (c : AcquisitionConfig) (r : AcquisitionRequest) (label : String)
    (n : Nat) : Bool :=
  (s.arrivals[n]?.bind Arrival.message?).any fun message =>
    ((s.heard c r label n).judge message).chunk?.isSome

/-- Since when a stream is quiet that has met so many arrivals: since the latest chunk that it took, or
since the request was sent. -/
def quietSince (s : Surroundings) (c : AcquisitionConfig) (r : AcquisitionRequest) (label : String) :
    Nat → Duration
  | 0 => s.clock.sent
  | n + 1 => if s.accepts c r label n then s.clock.after (n + 1) else s.quietSince c r label n

/-- **It is quiet since the latest chunk**, or since the request was sent if there was none. -/
theorem quietSince_cases (s : Surroundings) (c : AcquisitionConfig) (r : AcquisitionRequest)
    (label : String) (n : Nat) :
    (∃ latest < n, s.accepts c r label latest = true ∧
        (∀ m, latest < m → m < n → s.accepts c r label m = false) ∧
        s.quietSince c r label n = s.clock.after (latest + 1)) ∨
      (∀ m < n, s.accepts c r label m = false) ∧ s.quietSince c r label n = s.clock.sent := by
  induction n with
  | zero => exact Or.inr ⟨fun m hm => absurd hm (Nat.not_lt_zero m), rfl⟩
  | succ n ih =>
    rw [quietSince]
    cases htaken : s.accepts c r label n with
    | true =>
      refine Or.inl ⟨n, Nat.lt_succ_self n, htaken, ?_, if_pos rfl⟩
      intro m hle hlt
      omega
    | false =>
      rw [if_neg Bool.false_ne_true]
      rcases ih with ⟨latest, hlatest, hchunk, hnone, hsince⟩ | ⟨hnone, hsince⟩
      · refine Or.inl ⟨latest, Nat.lt_succ_of_lt hlatest, hchunk, ?_, hsince⟩
        intro m hle hlt
        rcases Nat.lt_succ_iff_lt_or_eq.mp hlt with hlt | rfl
        · exact hnone m hle hlt
        · exact htaken
      · refine Or.inr ⟨?_, hsince⟩
        intro m hlt
        rcases Nat.lt_succ_iff_lt_or_eq.mp hlt with hlt | rfl
        · exact hnone m hlt
        · exact htaken

/-- What does not concern a stream is no chunk that it takes. -/
theorem accepts_of_unconcerned {n : Nat} {arrival : Arrival} (harrival : s.arrivals[n]? = some arrival)
    (h : arrival.concerns label = false) : s.accepts c r label n = false := by
  have hnone : (arrival.message?.bind fun message => ((s.heard c r label n).judge message).chunk?) = none :=
    StreamState.chunk?_of_unconcerned (by rw [heard_label, h])
  rw [accepts, harrival, Option.bind_some]
  cases hmessage : arrival.message? with
  | none => rfl
  | some message =>
    rw [hmessage, Option.bind_some] at hnone
    rw [Option.any_some, hnone]
    rfl

/-- **Neither what is passed over nor a wait in which nothing comes changes since when it is quiet.** -/
theorem quietSince_of_unconcerned {n : Nat} {arrival : Arrival}
    (harrival : s.arrivals[n]? = some arrival) (h : arrival.concerns label = false) :
    s.quietSince c r label (n + 1) = s.quietSince c r label n := by
  rw [quietSince, accepts_of_unconcerned harrival h, if_neg Bool.false_ne_true]

/-- It is quiet since a moment that the clock has shown. -/
theorem quietSince_le (hclock : s.clock.Advances) (n : Nat) :
    s.quietSince c r label n ≤ s.clock.after n := by
  induction n with
  | zero => exact hclock.begins
  | succ n ih =>
    rw [quietSince]
    split
    · exact Nat.le_refl _
    · exact Nat.le_trans ih (hclock.goes_on n)

end Surroundings

variable {S ω : Type} [SampleSink S ω] {c : AcquisitionConfig} {r : AcquisitionRequest} {label : String}
  {s : Surroundings} {start : Reassembly S × ω} {n : Nat}

/-- Nothing has ended the stream before so many arrivals. -/
def StillOpen (c : AcquisitionConfig) (r : AcquisitionRequest) (label : String) (s : Surroundings)
    (start : Reassembly S × ω) (n : Nat) : Prop :=
  ∀ m < n, ∀ arrival outcome, s.arrivals[m]? = some arrival → ¬Ends c r label s start m arrival outcome

/-- What concerns a stream and does not end it is a chunk that it takes. -/
theorem Surroundings.accepts_of_concerned {arrival : Arrival} (harrival : s.arrivals[n]? = some arrival)
    (hconcerns : arrival.concerns label = true)
    (hgoing : ∀ outcome, ¬Ends c r label s start n arrival outcome) : s.accepts c r label n = true := by
  cases arrival with
  | quiet => cases hconcerns
  | fails e =>
    refine absurd (Ends.linkFails ?_) (hgoing (.error (.receive e)))
    rintro after rfl
    cases hconcerns
  | message message =>
    rw [accepts, harrival]
    simp only [Option.bind_some, Arrival.message?, Option.any_some]
    cases hjudge : (s.heard c r label n).judge message with
    | foreign =>
      have hforeign := StreamState.judge_eq_foreign_iff.mp hjudge
      rw [heard_label] at hforeign
      simp [Arrival.concerns, hforeign] at hconcerns
    | fatal e => exact absurd (Ends.fatal (StreamState.judge_eq_fatal_iff.mp hjudge)) (hgoing _)
    | chunk chunk => rfl

/-- **As long as nothing has ended a stream, what it waits for is the end of the quiet.** -/
theorem Surroundings.waitsSince_eq_quietSince (hopen : StillOpen c r label s start n)
    (hn : n ≤ s.arrivals.length) : s.waitsSince .streaming label n = s.quietSince c r label n := by
  induction n with
  | zero => rfl
  | succ n ih =>
    have harrival := List.getElem?_eq_getElem hn
    have hbefore := ih (fun m hm => hopen m (Nat.lt_succ_of_lt hm)) (Nat.le_of_lt hn)
    have hgoing := fun outcome => hopen n (Nat.lt_succ_self n) _ outcome harrival
    generalize s.arrivals[n] = arrival at harrival hgoing
    rw [waitsSince_succ harrival]
    cases hconcerns : arrival.concerns label with
    | true => rw [if_pos rfl, quietSince, accepts_of_concerned harrival hconcerns hgoing, if_pos rfl]
    | false => rw [if_neg Bool.false_ne_true, hbefore, quietSince_of_unconcerned harrival hconcerns]

/-! ## 3. When the time is up -/

/-- An arrival that a stream passes over, or a wait in which nothing comes, by the end of which it has been
quiet for as long as a reply may take. -/
def TooQuiet (c : AcquisitionConfig) (r : AcquisitionRequest) (label : String) (s : Surroundings)
    (n : Nat) : Prop :=
  ∃ arrival, s.arrivals[n]? = some arrival ∧ arrival.concerns label = false ∧
    (s.quietSince c r label n).add c.replyTimeout ≤ s.clock.after (n + 1)

/-- An arrival that ends a stream, but not for its time. -/
def EndsOtherwise (c : AcquisitionConfig) (r : AcquisitionRequest) (label : String) (s : Surroundings)
    (start : Reassembly S × ω) (n : Nat) : Prop :=
  ∃ arrival outcome, s.arrivals[n]? = some arrival ∧ Ends c r label s start n arrival outcome ∧
    outcome ≠ .error (.timeout c.replyTimeout)

/-- The first arrival by which it has been quiet for too long, when nothing else has ended the stream. -/
structure TimeIsUp (c : AcquisitionConfig) (r : AcquisitionRequest) (label : String) (s : Surroundings)
    (start : Reassembly S × ω) (n : Nat) : Prop where
  late : TooQuiet c r label s n
  earlier : ∀ m < n, ¬TooQuiet c r label s m ∧ ¬EndsOtherwise c r label s start m

/-- A message that is at fault does not end a stream for its time. -/
theorem Fatal.ne_timeout {state : StreamState} {message : Bytes} {e : AcquireError}
    (h : Fatal state message e) (span : Duration) : e ≠ .timeout span := by
  cases h with
  | envelope | payload | refused => exact fun h => by cases h
  | misshapen carries success size =>
    rintro rfl
    unfold StreamState.sizeError at size
    simp only at size
    split at size
    · cases size
    · split at size
      · cases size
      · split at size <;> cases size

/-- **The quiet ends a stream exactly where it lasts too long**, and nothing else ends it for its time. -/
theorem tooQuiet_iff_ends (hclock : s.clock.Advances) (hopen : StillOpen c r label s start n) :
    TooQuiet c r label s n ↔
      ∃ arrival, s.arrivals[n]? = some arrival ∧
        Ends c r label s start n arrival (.error (.timeout c.replyTimeout)) := by
  have hlate : n < s.arrivals.length →
      (c.replyTimeout ≤ (s.clock.after (n + 1)).sub (s.waitsSince .streaming label n) ↔
        (s.quietSince c r label n).add c.replyTimeout ≤ s.clock.after (n + 1)) := by
    intro hn
    rw [Surroundings.waitsSince_eq_quietSince hopen (Nat.le_of_lt hn)]
    exact Duration.le_sub_iff (Nat.le_trans (Surroundings.quietSince_le hclock n) (hclock.goes_on n))
  constructor
  · rintro ⟨arrival, harrival, hunconcerned, htime⟩
    have hn := (List.getElem?_eq_some_iff.mp harrival).1
    exact ⟨arrival, harrival, .tooLate hunconcerned ((hlate hn).mpr htime)⟩
  · rintro ⟨arrival, harrival, hends⟩
    have hn := (List.getElem?_eq_some_iff.mp harrival).1
    cases hends with
    | fatal fatal => exact absurd rfl (fatal.ne_timeout c.replyTimeout)
    | tooLate unconcerned late => exact ⟨arrival, harrival, unconcerned, (hlate hn).mp late⟩

/-- Where a stream was neither quiet for too long nor ended by anything else, nothing has ended it. -/
theorem stillOpen_of_earlier (hclock : s.clock.Advances)
    (h : ∀ m < n, ¬TooQuiet c r label s m ∧ ¬EndsOtherwise c r label s start m) :
    StillOpen c r label s start n := by
  induction n with
  | zero => exact fun m hm => absurd hm (Nat.not_lt_zero m)
  | succ n ih =>
    have hbefore := ih fun m hm => h m (Nat.lt_succ_of_lt hm)
    intro m hm arrival outcome harrival hends
    rcases Nat.lt_succ_iff_lt_or_eq.mp hm with hlt | rfl
    · exact hbefore m hlt arrival outcome harrival hends
    · obtain ⟨hquiet, hother⟩ := h m hm
      by_cases htimeout : outcome = .error (.timeout c.replyTimeout)
      · subst htimeout
        exact hquiet ((tooQuiet_iff_ends hclock hbefore).mpr ⟨arrival, harrival, hends⟩)
      · exact hother ⟨arrival, outcome, harrival, hends, htimeout⟩

/-- **The time of a stream is up where the quiet ends it** before anything else does. -/
theorem timeIsUp_iff (hclock : s.clock.Advances) :
    TimeIsUp c r label s start n ↔ StillOpen c r label s start n ∧
      ∃ arrival, s.arrivals[n]? = some arrival ∧
        Ends c r label s start n arrival (.error (.timeout c.replyTimeout)) := by
  constructor
  · rintro ⟨hlate, hearlier⟩
    have hopen := stillOpen_of_earlier hclock hearlier
    exact ⟨hopen, (tooQuiet_iff_ends hclock hopen).mp hlate⟩
  · rintro ⟨hopen, hends⟩
    refine ⟨(tooQuiet_iff_ends hclock hopen).mpr hends, ?_⟩
    intro m hm
    constructor
    · intro hquiet
      obtain ⟨arrival, harrival, hends⟩ :=
        (tooQuiet_iff_ends hclock fun k hk => hopen k (Nat.lt_trans hk hm)).mp hquiet
      exact hopen m hm arrival _ harrival hends
    · rintro ⟨arrival, outcome, harrival, hends, -⟩
      exact hopen m hm arrival outcome harrival hends

/-- With chunks, an exchange is unsettled as long as nothing has ended its stream. -/
theorem stillOpen_iff_unsettled (hmode : c.mode = .streaming) :
    StillOpen c r label s start n ↔ ∀ m < n + 1, ∀ outcome, ¬Settles c r label s start m outcome := by
  constructor
  · intro hopen m hm outcome hsettles
    cases hsettles with
    | @stream m arrival outcome mode next ends =>
      exact hopen m (Nat.lt_of_succ_lt_succ hm) arrival outcome next ends
    | answer mode | linkFails mode | tooLate mode => cases hmode.symm.trans mode
  · intro hunsettled m hm arrival outcome harrival hends
    exact hunsettled (m + 1) (Nat.succ_lt_succ hm) outcome (.stream hmode harrival hends)

/-! ## 4. How long each wait is -/

/-- How long a message is waited for, if it is. -/
def Effect.wait? : Effect → Option Duration
  | awaits timeout => some timeout
  | _ => none

/-- How long each wait may take, the latest first. -/
def Traced.waits {ω : Type} (w : Traced ω) : List Duration := w.effects.filterMap Effect.wait?

/-- How long each wait of a run may take, in order. -/
def Run.waits {S ω : Type} (run : Run S ω) : List Duration := run.effects.filterMap Effect.wait?

/-- How long the next wait may take, after so many. -/
def waitAfter (c : AcquisitionConfig) (s : Surroundings) (n : Nat) : Duration :=
  match c.mode with
  | .single => singleWait c s n
  | .streaming => c.chunkWait

omit [SampleSink S ω] in
theorem Traced.waits_did (w : Traced ω) (effect : Effect) :
    (w.did effect).waits = effect.wait?.toList ++ w.waits := by
  rw [waits, did, List.filterMap_cons]
  cases effect.wait? <;> rfl

/-- Appending waits for nothing. -/
theorem Reassembly.waits_append (reassembly : Reassembly (TracedSink S)) (waveforms : Nat)
    (data : List UInt32) (w : Traced ω) : (reassembly.append waveforms data w).2.2.waits = w.waits := by
  obtain ⟨added, hadded, hwrites⟩ := effects_append reassembly waveforms data w
  have hnone : added.filterMap Effect.wait? = [] := by
    refine List.filterMap_eq_nil_iff.mpr ?_
    intro effect heffect
    obtain ⟨channel, samples, rfl⟩ := hwrites effect heffect
    rfl
  rw [Traced.waits, hadded, List.filterMap_append, hnone]
  rfl

/-- A meeting waits once. -/
theorem ChunkLoop.waits_meet (wait : Duration) (loop : ChunkLoop S ω) (arrival : Arrival) :
    (loop.meet wait arrival).underway.world.waits = wait :: loop.underway.world.waits := by
  have hdid : (loop.underway.world.did (.awaits wait)).waits = wait :: loop.underway.world.waits :=
    loop.underway.world.waits_did (.awaits wait)
  cases hmessage : arrival.message? with
  | none =>
    rw [(loop.meet_of_no_message wait hmessage).2]
    exact hdid
  | some octets =>
    obtain rfl := Arrival.eq_message hmessage
    rw [loop.meet_message]
    rcases loop.state.accept_snd octets loop.underway.reassembly
      (loop.underway.world.did (.awaits wait)) with hsame | ⟨waveforms, data, happended⟩
    · simp only [hsame]
      exact hdid
    · simp only [happended, Reassembly.waits_append]
      exact hdid

/-- A loop waits equally long for every message. -/
theorem ChunkLoop.waits_run (loop : ChunkLoop S ω) (arrivals : List Arrival) :
    ∃ count, (loop.run c r s arrivals).receives = loop.receives + count ∧
      (loop.run c r s arrivals).underway.world.waits =
        List.replicate count c.chunkWait ++ loop.underway.world.waits := by
  obtain ⟨taken, -, -, hreceives, hwaits, -⟩ := ChunkLoop.run_invariant (c := c) (r := r) (s := s)
    (P := fun met _ u => u.world.waits =
      List.replicate met.length c.chunkWait ++ loop.underway.world.waits)
    (fun met loop' arrival h => by
      rw [loop'.waits_meet, h, List.length_append, List.length_singleton, List.replicate_succ]
      rfl) [] loop rfl arrivals
  exact ⟨taken.length, hreceives, hwaits⟩

omit [SampleSink S ω] in
/-- Each wait for the one answer takes as long as there is time, but for a limit. -/
theorem waits_awaitReply (n : Nat) (u : Underway S ω) (arrivals : List Arrival) :
    ∃ count, (awaitReply c s n u arrivals).2.2.1 = n + count ∧
      (awaitReply c s n u arrivals).2.1.world.waits =
        ((List.range' n count).map (singleWait c s)).reverse ++ u.world.waits := by
  induction arrivals generalizing n u with
  | nil =>
    cases hstop : stopsWaiting? c s n with
    | some e => exact ⟨0, by rw [awaitReply_of_stop hstop]; rfl, by rw [awaitReply_of_stop hstop]; rfl⟩
    | none => exact ⟨0, by rw [awaitReply_of_going hstop]; rfl, by rw [awaitReply_of_going hstop]; rfl⟩
  | cons arrival left ih =>
    cases hstop : stopsWaiting? c s n with
    | some e => exact ⟨0, by rw [awaitReply_of_stop hstop]; rfl, by rw [awaitReply_of_stop hstop]; rfl⟩
    | none =>
      have hdid : (u.did (.awaits (singleWait c s n))).world.waits = singleWait c s n :: u.world.waits :=
        u.world.waits_did (.awaits (singleWait c s n))
      obtain ⟨count, hreceives, hwaits⟩ := ih (n + 1) (u.did (.awaits (singleWait c s n)))
      have hmore : ((List.range' n (count + 1)).map (singleWait c s)).reverse ++ u.world.waits =
          ((List.range' (n + 1) count).map (singleWait c s)).reverse ++
            (u.did (.awaits (singleWait c s n))).world.waits := by
        rw [List.range'_succ, List.map_cons, List.reverse_cons, List.append_assoc, hdid]
        rfl
      rw [awaitReply_cons hstop]
      cases arrival.awaited? with
      | some awaited => exact ⟨1, rfl, hdid⟩
      | none => exact ⟨count + 1, hreceives.trans (by omega), hwaits.trans hmore.symm⟩

/-- Taking the one answer waits for nothing. -/
theorem waits_takeReply (r : AcquisitionRequest)
    (awaited : Option (Except AcquireError Bytes) × Underway S ω × Nat × List Arrival) :
    (takeReply r awaited).underway.world.waits = awaited.2.1.world.waits := by
  obtain ⟨_ | e | message, u, receives, left⟩ := awaited
  · rfl
  · rfl
  · rw [takeReply]
    cases replyData r message with
    | error e => rfl
    | ok data => exact u.reassembly.waits_append r.waveforms.toNat data u.world

/-- **How long each wait of an exchange may take.** -/
theorem waits_exchange (label : String) {u : Underway S ω} (hu : u.world.waits = []) :
    (exchange c r label s u).underway.world.waits =
      ((List.range (exchange c r label s u).receives).map (waitAfter c s)).reverse := by
  have hprepared : ∀ effect : Effect, effect.wait? = none →
      ((prepared c r u).did effect).world.waits = [] := by
    intro effect heffect
    have hdid := (prepared c r u).world.waits_did effect
    rw [heffect, Option.toList_none, List.nil_append] at hdid
    refine hdid.trans ?_
    unfold prepared
    cases c.mode with
    | single => exact hu
    | streaming => exact (u.world.waits_did (.setsCapacity (c.creditFor r))).trans hu
  by_cases hseen : s.cancelledBy .opening = true
  · rw [exchange_of_seen hseen]
    exact hu
  · rw [exchange_of_unseen (Bool.eq_false_iff.mpr hseen)]
    cases s.sendFault with
    | some e => exact hprepared _ rfl
    | none =>
      have hsent := hprepared (.sends (c.requestMessage r label)) rfl
      unfold answered waitAfter
      cases hmode : c.mode with
      | streaming =>
        obtain ⟨count, hreceives, hwaits⟩ := ChunkLoop.waits_run (c := c) (r := r) (s := s) ⟨0,
          s.clock.sent, .start c r label, (prepared c r u).did (.sends (c.requestMessage r label))⟩
          s.arrivals
        simp only [Nat.zero_add] at hreceives
        simp only [hwaits, hreceives, hsent, List.append_nil, List.map_const', List.length_range,
          List.reverse_replicate]
      | single =>
        obtain ⟨count, hreceives, hwaits⟩ := waits_awaitReply (c := c) (s := s) 0
          ((prepared c r u).did (.sends (c.requestMessage r label))) s.arrivals
        rw [hsent, List.append_nil, ← List.range_eq_range'] at hwaits
        simp only [waits_takeReply, hwaits]
        generalize awaitReply c s 0 ((prepared c r u).did (.sends (c.requestMessage r label))) s.arrivals =
          awaited at hreceives
        obtain ⟨awaited, u', receives, left⟩ := awaited
        rw [(takeReply_frame r awaited u' receives left left).1]
        simp only [Nat.zero_add] at hreceives
        rw [hreceives]

/-! ## 5. Acquisitions that run out of time -/

section

variable {factory : SinkFactory S ω} {world : ω}

omit [SampleSink S ω] in
/-- Opening sinks waits for nothing. -/
theorem Beginning.waits_opened {u : Underway S ω} (hbegin : Beginning.of c r s factory world = .opened u) :
    u.world.waits = [] := by
  obtain ⟨sinks, hopen, -⟩ := Beginning.of_eq_opened hbegin
  have heffects := Reassembly.effects_openEach factory r.channels ⟨world, []⟩
  rw [hopen, List.append_nil] at heffects
  rw [Traced.waits, heffects, List.filterMap_eq_nil_iff]
  intro effect heffect
  obtain ⟨channel, -, rfl⟩ := List.mem_map.mp (List.mem_reverse.mp heffect)
  rfl

/-- Finishing waits for nothing. -/
theorem Exchanged.waits_conclude {e : Exchanged S ω}
    (hlength : e.underway.reassembly.channels.length = e.underway.reassembly.sinks.length) :
    e.conclude.waits = e.underway.world.waits.reverse := by
  cases houtcome : e.outcome with
  | none =>
    rw [Exchanged.conclude, houtcome]
    exact List.filterMap_reverse
  | some outcome =>
    have hnone : (e.underway.reassembly.sinks.map fun sink =>
        Effect.finishes sink.channel).filterMap Effect.wait? = [] := by
      rw [List.filterMap_map]
      exact List.filterMap_eq_nil_iff.mpr fun _ _ => rfl
    rw [Run.waits, effects_conclude hlength (by rw [houtcome]; exact Option.some_ne_none outcome),
      List.filterMap_append, hnone, List.append_nil]
    exact List.filterMap_reverse

/-- **How long each wait of an acquisition may take.** -/
theorem waits_acquire (c : AcquisitionConfig) (r : AcquisitionRequest) (label : String) (s : Surroundings)
    (factory : SinkFactory S ω) (world : ω) :
    (acquire c r label s factory world).waits =
      (List.range (acquire c r label s factory world).receives).map (waitAfter c s) := by
  cases hbegin : Beginning.of c r s factory world with
  | refused e =>
    rw [acquire_eq, hbegin]
    rfl
  | unopened channel fault sinks w =>
    have hopens := effects_of_unopened label hbegin
    have hreceives : (acquire c r label s factory world).receives = 0 := by
      rw [acquire_eq, hbegin]
      rfl
    rw [hreceives, Run.waits]
    refine List.filterMap_eq_nil_iff.mpr ?_
    intro effect heffect
    obtain ⟨opened, rfl⟩ := hopens effect heffect
    rfl
  | opened u =>
    rw [acquire_eq, hbegin]
    simp only
    rw [Exchanged.waits_conclude (exchange_finishes_none label hbegin).length,
      waits_exchange label (Beginning.waits_opened hbegin), List.reverse_reverse,
      Exchanged.receives_conclude]

/-- When an acquisition that takes chunks runs out of time. -/
structure StreamDeadline (c : AcquisitionConfig) (r : AcquisitionRequest) (label : String)
    (s : Surroundings) (factory : SinkFactory S ω) (world : ω) : Prop where
  /-- It does so where the time of its stream is up, and nowhere else. -/
  timeout : (acquire c r label s factory world).outcome = some (.error (.timeout c.replyTimeout)) ↔
    SendsRequest c r s factory world ∧ ∃ n, TimeIsUp c r label s (factory.opened r world) n
  /-- It does so right then. -/
  at_once : SendsRequest c r s factory world → ∀ n, TimeIsUp c r label s (factory.opened r world) n →
    (acquire c r label s factory world).receives = n + 1
  /-- Its time is counted from the latest chunk that it took, or from the request. -/
  since : ∀ n, (∃ latest < n, s.accepts c r label latest = true ∧
      (∀ m, latest < m → m < n → s.accepts c r label m = false) ∧
      s.quietSince c r label n = s.clock.after (latest + 1)) ∨
    (∀ m < n, s.accepts c r label m = false) ∧ s.quietSince c r label n = s.clock.sent
  /-- Nothing else moves that. -/
  unmoved : ∀ n arrival, s.arrivals[n]? = some arrival → arrival.concerns label = false →
    s.quietSince c r label (n + 1) = s.quietSince c r label n
  /-- It is what the loop counts from, at every point. -/
  kept : ∀ met loop, loopAfter c r label s factory world met = some loop →
    loop.since = s.quietSince c r label loop.receives
  /-- No single wait takes longer than a reply may, or than a tenth of a second. -/
  waits : (acquire c r label s factory world).waits =
    List.replicate (acquire c r label s factory world).receives (c.replyTimeout.min (.ofMillis 100))

/-- When an acquisition that takes one answer runs out of time. -/
structure AnswerDeadline (c : AcquisitionConfig) (r : AcquisitionRequest) (label : String)
    (s : Surroundings) (factory : SinkFactory S ω) (world : ω) : Prop where
  /-- It does so if the time is up before anything but waits in which nothing comes. -/
  timeout : (acquire c r label s factory world).outcome = some (.error (.timeout c.replyTimeout)) ↔
    SendsRequest c r s factory world ∧ ∃ n ≤ s.arrivals.length,
      (∀ arrival ∈ s.arrivals.take n, arrival.lapses = true) ∧
      s.clock.sent.add c.replyTimeout ≤ s.clock.after n
  /-- It does so right then. -/
  at_once : SendsRequest c r s factory world → ∀ n ≤ s.arrivals.length,
    (∀ arrival ∈ s.arrivals.take n, arrival.lapses = true) →
    s.clock.sent.add c.replyTimeout ≤ s.clock.after n →
    (∀ m < n, ¬s.clock.sent.add c.replyTimeout ≤ s.clock.after m) →
    (acquire c r label s factory world).receives = n
  /-- No single wait takes longer than is left of the time, or than a tenth of a second. -/
  waits : (acquire c r label s factory world).waits =
    (List.range (acquire c r label s factory world).receives).map fun n =>
      (c.replyTimeout.sub ((s.clock.after n).sub s.clock.sent)).min (.ofMillis 100)

/-- An acquisition that is settled for its time, at first, ends so. -/
theorem timeout_of_settles (huncancelled : s.cancelAt = none) (hsends : SendsRequest c r s factory world)
    (hn : n ≤ s.arrivals.length)
    (hsettles : Settles c r label s (factory.opened r world) n (.error (.timeout c.replyTimeout)))
    (hfirst : ∀ m < n, ∀ outcome, ¬Settles c r label s (factory.opened r world) m outcome) :
    (acquire c r label s factory world).receives = n ∧
      (acquire c r label s factory world).outcome = some (.error (.timeout c.replyTimeout)) := by
  have hconsumption := consumption_of_sent label huncancelled hsends
  have hreceives := hconsumption.receives_eq hn hsettles hfirst
  rw [← hreceives] at hsettles
  exact ⟨hreceives, hconsumption.settled _ hsettles⟩

/-- **An acquisition that takes chunks runs out of time where it has been quiet for too long.** -/
theorem streamDeadline (hmode : c.mode = .streaming) (huncancelled : s.cancelAt = none)
    (hclock : s.clock.Advances) : StreamDeadline c r label s factory world := by
  have hup : SendsRequest c r s factory world → ∀ n, TimeIsUp c r label s (factory.opened r world) n →
      (acquire c r label s factory world).receives = n + 1 ∧
        (acquire c r label s factory world).outcome = some (.error (.timeout c.replyTimeout)) := by
    intro hsends n hup
    obtain ⟨hopen, arrival, harrival, hends⟩ := (timeIsUp_iff hclock).mp hup
    exact timeout_of_settles huncancelled hsends (List.getElem?_eq_some_iff.mp harrival).1
      (.stream hmode harrival hends) ((stillOpen_iff_unsettled hmode).mp hopen)
  refine ⟨⟨?_, ?_⟩, fun hsends n h => (hup hsends n h).1, s.quietSince_cases c r label, ?_, ?_, ?_⟩
  · intro houtcome
    rcases acquire_error houtcome with hown | ⟨hsends, hsettles⟩
    · cases hown
    refine ⟨hsends, ?_⟩
    have hconsumption := consumption_of_sent label huncancelled hsends
    have hshortest := hconsumption.shortest
    generalize (acquire c r label s factory world).receives = receives at hsettles hshortest
    generalize houtcome' : (Except.error (.timeout c.replyTimeout) : Except AcquireError Summary) = outcome
      at hsettles
    cases hsettles with
    | @stream n arrival outcome mode next ends =>
      subst houtcome'
      exact ⟨n, (timeIsUp_iff hclock).mpr
        ⟨(stillOpen_iff_unsettled hmode).mpr hshortest, arrival, next, ends⟩⟩
    | answer mode | linkFails mode | tooLate mode => cases hmode.symm.trans mode
  · rintro ⟨hsends, n, h⟩
    exact (hup hsends n h).2
  · intro n arrival harrival hunconcerned
    exact Surroundings.quietSince_of_unconcerned harrival hunconcerned
  · intro met loop hloop
    obtain ⟨hreceives, htracks, hopen⟩ := loopAfter_tracks hmode hloop
    refine htracks.since.trans (Surroundings.waitsSince_eq_quietSince hopen ?_)
    rw [hreceives]
    exact List.length_take_le' met s.arrivals
  · have hwait : waitAfter c s = fun _ => c.chunkWait := by
      funext n
      rw [waitAfter, hmode]
    rw [waits_acquire, hwait, List.map_const', List.length_range]
    rfl

/-- With one answer, it is the time that ends an acquisition where the clock first shows that it is up, if
nothing has come by then. -/
theorem timeout_of_first_late (hmode : c.mode = .single) (huncancelled : s.cancelAt = none)
    (hclock : s.clock.Advances) (hsends : SendsRequest c r s factory world) (hn : n ≤ s.arrivals.length)
    (hlapses : ∀ arrival ∈ s.arrivals.take n, arrival.lapses = true)
    (hlate : s.clock.sent.add c.replyTimeout ≤ s.clock.after n)
    (hearlier : ∀ m < n, ¬s.clock.sent.add c.replyTimeout ≤ s.clock.after m) :
    (acquire c r label s factory world).receives = n := by
  have hsettles : Settles c r label s (factory.opened r world) n (.error (.timeout c.replyTimeout)) :=
    .tooLate hmode hlapses ((hclock.le_sub_sent_iff n).mpr hlate)
  refine (timeout_of_settles huncancelled hsends hn hsettles ?_).1
  intro m hm outcome hsettled
  have hbefore : ∀ arrival ∈ s.arrivals.take m, arrival.lapses = true := fun arrival harrival =>
    hlapses arrival (List.take_subset_take_left s.arrivals (Nat.le_of_lt hm) harrival)
  have hover := ((settles_iff_of_lapses hmode hbefore).mp hsettled).1
  exact hearlier m hm ((hclock.le_sub_sent_iff m).mp hover)

/-- With one answer, it is the time that ends an acquisition if nothing comes before that is up. -/
theorem timeout_of_late (hmode : c.mode = .single) (huncancelled : s.cancelAt = none)
    (hclock : s.clock.Advances) (hsends : SendsRequest c r s factory world) (hn : n ≤ s.arrivals.length)
    (hlapses : ∀ arrival ∈ s.arrivals.take n, arrival.lapses = true)
    (hlate : s.clock.sent.add c.replyTimeout ≤ s.clock.after n) :
    (acquire c r label s factory world).outcome = some (.error (.timeout c.replyTimeout)) := by
  have hsettles : Settles c r label s (factory.opened r world) n (.error (.timeout c.replyTimeout)) :=
    .tooLate hmode hlapses ((hclock.le_sub_sent_iff n).mpr hlate)
  have hconsumption := consumption_of_sent label huncancelled hsends
  have hle : (acquire c r label s factory world).receives ≤ n :=
    Nat.le_of_not_lt fun hlt => hconsumption.shortest n hlt _ hsettles
  have hbefore : ∀ arrival ∈ s.arrivals.take (acquire c r label s factory world).receives,
      arrival.lapses = true := fun arrival harrival =>
    hlapses arrival (List.take_subset_take_left s.arrivals hle harrival)
  by_cases hover : c.replyTimeout ≤
      (s.clock.after (acquire c r label s factory world).receives).sub s.clock.sent
  · exact hconsumption.settled _ (.tooLate hmode hbefore hover)
  · -- Otherwise it still waits, and has met all that there is.
    have hopen : (acquire c r label s factory world).outcome = none :=
      hconsumption.unsettled.mpr fun outcome hsettled =>
        hover ((settles_iff_of_lapses hmode hbefore).mp hsettled).1
    have hall := hconsumption.waiting hopen
    rw [Nat.le_antisymm hle (hall ▸ hn)] at hover
    exact absurd ((hclock.le_sub_sent_iff n).mpr hlate) hover

/-- With one answer, the time has ended an acquisition only if nothing came before that was up. -/
theorem late_of_timeout (hmode : c.mode = .single) (huncancelled : s.cancelAt = none)
    (hclock : s.clock.Advances)
    (h : (acquire c r label s factory world).outcome = some (.error (.timeout c.replyTimeout))) :
    SendsRequest c r s factory world ∧ ∃ n ≤ s.arrivals.length,
      (∀ arrival ∈ s.arrivals.take n, arrival.lapses = true) ∧
      s.clock.sent.add c.replyTimeout ≤ s.clock.after n := by
  rcases acquire_error h with hown | ⟨hsends, hsettles⟩
  · cases hown
  refine ⟨hsends, ?_⟩
  have hwithin := (consumption_of_sent label huncancelled hsends).within
  generalize (acquire c r label s factory world).receives = receives at hsettles hwithin
  generalize houtcome : (Except.error (.timeout c.replyTimeout) : Except AcquireError Summary) = outcome
    at hsettles
  cases hsettles with
  | stream mode => cases hmode.symm.trans mode
  | answer mode lapsed next =>
    rcases answerOutcome_eq_error rfl houtcome.symm with hunfit | ⟨channel, fault, hsink⟩
    · exact absurd rfl (hunfit.ne_timeout c.replyTimeout)
    · cases hsink
  | linkFails => cases houtcome
  | tooLate mode lapsed late =>
    exact ⟨receives, hwithin, lapsed, (hclock.le_sub_sent_iff receives).mp late⟩

/-- **An acquisition that takes one answer runs out of time where that is not there in time.** -/
theorem answerDeadline (hmode : c.mode = .single) (huncancelled : s.cancelAt = none)
    (hclock : s.clock.Advances) : AnswerDeadline c r label s factory world := by
  refine ⟨⟨late_of_timeout hmode huncancelled hclock, ?_⟩, ?_, ?_⟩
  · rintro ⟨hsends, n, hn, hlapses, hlate⟩
    exact timeout_of_late hmode huncancelled hclock hsends hn hlapses hlate
  · intro hsends n hn hlapses hlate hearlier
    exact timeout_of_first_late hmode huncancelled hclock hsends hn hlapses hlate hearlier
  · have hwait : waitAfter c s = singleWait c s := by
      funext n
      rw [waitAfter, hmode]
    rw [waits_acquire, hwait]
    rfl

/-- **When an acquisition runs out of time**, if the caller does not give up and the clock does not go
backwards: with chunks, when it has been quiet for as long as a reply may take, and something that is not
for it, or a wait in which nothing comes, shows that; with one answer, when that has not come by then. -/
theorem acquire_deadline (huncancelled : s.cancelAt = none) (hclock : s.clock.Advances) :
    (c.mode = .streaming → StreamDeadline c r label s factory world) ∧
      (c.mode = .single → AnswerDeadline c r label s factory world) :=
  ⟨fun hmode => streamDeadline hmode huncancelled hclock,
    fun hmode => answerDeadline hmode huncancelled hclock⟩

end

/-- A chunk between other things, when each of them takes ten seconds. -/
def drowsy : Surroundings where
  arrivals :=
    [.quiet, .ofChunk (pairChunk "b" 1 [9, 9] true), .ofChunk (pairChunk "a" 1 [1, 2] false), .quiet,
      .ofChunk (pairChunk "b" 1 [9, 9] true), .fails (.timeout .zero),
      .ofChunk (pairChunk "a" 1 [3, 4] true)]
  clock := { after := fun n => .ofSeconds (10 * n) }

/-- Three waits in which nothing comes, for as long. -/
def silent : Surroundings where
  arrivals := [.quiet, .fails (.timeout .zero), .quiet, .message []]
  clock := { after := fun n => .ofSeconds (10 * n) }

/-- The chunk restarts the time, which is up half a minute later; the next chunk comes behind that.  The one
answer comes too late, too. -/
theorem acquire_deadline_drowsy :
    TimeIsUp {} pairRequest "a" drowsy (sureFactory.opened pairRequest ()) 5 ∧
      (acquire {} pairRequest "a" drowsy sureFactory ()).outcome =
        some (.error (.timeout (.ofSeconds 30))) ∧
      (acquire { mode := .single } pairRequest "a" silent sureFactory ()).outcome =
        some (.error (.timeout (.ofSeconds 30))) ∧
      (acquire { mode := .single } pairRequest "a" silent sureFactory ()).waits =
        List.replicate 3 (.ofMillis 100) := by
  have hadvances : ∀ n, Duration.ofSeconds (10 * n) ≤ .ofSeconds (10 * (n + 1)) := fun n =>
    Nat.mul_le_mul_right 1000000000 (Nat.mul_le_mul_left 10 (Nat.le_succ n))
  have hdrowsy : StreamDeadline {} pairRequest "a" drowsy sureFactory () :=
    (acquire_deadline rfl ⟨Nat.zero_le _, hadvances⟩).1 rfl
  have hsilent : AnswerDeadline { mode := .single } pairRequest "a" silent sureFactory () :=
    (acquire_deadline rfl ⟨Nat.zero_le _, hadvances⟩).2 rfl
  have hreceives : (acquire {} pairRequest "a" drowsy sureFactory ()).receives = 6 := by decide +kernel
  have houtcome : (acquire {} pairRequest "a" drowsy sureFactory ()).outcome =
      some (.error (.timeout (.ofSeconds 30))) := by decide +kernel
  obtain ⟨hsends, n, hup⟩ := hdrowsy.timeout.mp houtcome
  obtain rfl : 5 = n := Nat.succ.inj (hreceives.symm.trans (hdrowsy.at_once hsends n hup))
  have hsends' : SendsRequest { mode := .single } pairRequest silent sureFactory () := ⟨rfl, _, rfl⟩
  refine ⟨hup, houtcome, hsilent.timeout.mpr ⟨hsends', 3, by decide, by decide, by decide⟩, ?_⟩
  rw [hsilent.waits]
  decide +kernel

end Readout

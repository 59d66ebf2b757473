/-
# The chunk loop, turn by turn

`receiveChunks` is one recursion over what arrives.  Here it is taken apart.  `ChunkLoop.meet` says
what an arrival does to the stream and to the sinks; `ChunkLoop.turn` adds the clock and the caller's
wish to give up; and `ChunkLoop.run` takes one turn after another.  A fact about all runs is a fact
about `meet` that every meeting keeps.

* `receiveChunks_eq_run` -- the loop is `receiveChunks`;
* `ChunkLoop.run_append` -- a loop that is still there after some arrivals goes on with the others;
* `ChunkLoop.run_invariant` -- what every meeting keeps, every run keeps.
-/
import Readout.Acquire.Run

namespace Readout

open Control

variable {S ω : Type}

/-! ## 1. One message -/

section

variable [SampleSink S ω]

namespace StreamState

theorem accept_of_foreign {s : StreamState} {message : Bytes} (h : s.judge message = .foreign)
    (reassembly : Reassembly S) (w : ω) :
    s.accept message reassembly w =
      (.ok (.discarded, { s with discarded := s.discarded + 1 }), reassembly, w) := by
  rw [accept, h]

theorem accept_of_fatal {s : StreamState} {message : Bytes} {e : AcquireError}
    (h : s.judge message = .fatal e) (reassembly : Reassembly S) (w : ω) :
    s.accept message reassembly w = (.error e, reassembly, w) := by
  rw [accept, h]

theorem accept_of_chunk {s : StreamState} {message : Bytes} {reply : ChunkReply}
    (h : s.judge message = .chunk reply) (reassembly : Reassembly S) (w : ω) :
    s.accept message reassembly w =
      (match (reassembly.append reply.waveforms.toNat reply.data w).1 with
        | some e => .error e
        | none => .ok (if reply.isFinal then .final else .appended, s.advance reply),
        (reassembly.append reply.waveforms.toNat reply.data w).2) := by
  rw [accept, h]
  simp only
  generalize reassembly.append reply.waveforms.toNat reply.data w = appended
  obtain ⟨_ | e, after, w'⟩ := appended <;> rfl

/-- The stream after a message was taken. -/
def orAfter (s : StreamState) : Except AcquireError (Step × StreamState) → StreamState
  | .ok (_, after) => after
  | .error _ => s

/-- What no message changes of a stream. -/
theorem accept_frame (s : StreamState) (message : Bytes) (reassembly : Reassembly S) (w : ω) :
    let after := s.orAfter (s.accept message reassembly w).1
    after.label = s.label ∧ after.layout = s.layout ∧ after.hint = s.hint ∧
      after.expected = s.expected := by
  cases hjudge : s.judge message with
  | foreign =>
    rw [accept_of_foreign hjudge]
    exact ⟨rfl, rfl, rfl, rfl⟩
  | fatal e =>
    rw [accept_of_fatal hjudge]
    exact ⟨rfl, rfl, rfl, rfl⟩
  | chunk reply =>
    rw [accept_of_chunk hjudge]
    cases (reassembly.append reply.waveforms.toNat reply.data w).1 <;> exact ⟨rfl, rfl, rfl, rfl⟩

/-- Taking a message leaves the reassembly and the world alone, or appends a batch. -/
theorem accept_snd (s : StreamState) (message : Bytes) (reassembly : Reassembly S) (w : ω) :
    (s.accept message reassembly w).2 = (reassembly, w) ∨
      ∃ waveforms data, (s.accept message reassembly w).2 = (reassembly.append waveforms data w).2 := by
  cases hjudge : s.judge message with
  | foreign => exact Or.inl (by rw [accept_of_foreign hjudge])
  | fatal e => exact Or.inl (by rw [accept_of_fatal hjudge])
  | chunk reply => exact Or.inr ⟨_, _, by rw [accept_of_chunk hjudge]⟩

end StreamState

end

/-! ## 2. One arrival -/

/-- The loop that takes chunks, before it asks for a message. -/
structure ChunkLoop (S ω : Type) where
  /-- How often a message was asked for. -/
  receives : Nat
  /-- Since when the next chunk is waited for. -/
  since : Duration
  state : StreamState
  underway : Underway S ω

/-- What the loop finds in an arrival. -/
inductive Finding where
  /-- A chunk after which others come. -/
  | chunk
  | lastChunk
  /-- Nothing for this acquisition, or nothing at all. -/
  | nothing
  | failure (error : AcquireError)
  deriving DecidableEq, Repr

/-- What is found in a message that was taken. -/
def Finding.ofAccepted : Except AcquireError (Step × StreamState) → Finding
  | .error e => failure e
  | .ok (.final, _) => lastChunk
  | .ok (.appended, _) => chunk
  | .ok (.discarded, _) => nothing

/-- What an arrival was found to be, and what it did. -/
structure Meeting (S ω : Type) where
  finding : Finding
  state : StreamState
  underway : Underway S ω

/-- How a loop goes on. -/
inductive Turn (S ω : Type) where
  | onward (loop : ChunkLoop S ω)
  | ended (outcome : Except AcquireError Summary) (underway : Underway S ω)

/-- How long each wait for a chunk may be. -/
def AcquisitionConfig.chunkWait (c : AcquisitionConfig) : Duration :=
  c.replyTimeout.min AcquisitionConfig.maxWait

/-- The message in an arrival, if there is one. -/
def Arrival.message? : Arrival → Option Bytes
  | message octets => some octets
  | _ => none

theorem Arrival.eq_message {arrival : Arrival} {octets : Bytes}
    (h : arrival.message? = some octets) : arrival = .message octets := by
  cases arrival with
  | message other => rw [Option.some.inj h]
  | fails e => cases h
  | quiet => cases h

/-- The messages that arrive. -/
def Arrival.messages (arrivals : List Arrival) : List Bytes := arrivals.filterMap Arrival.message?

section

variable [SampleSink S ω]

namespace ChunkLoop

/-- Takes an arrival, whatever the time and the caller's wish. -/
def meet (wait : Duration) (loop : ChunkLoop S ω) (arrival : Arrival) : Meeting S ω :=
  let u := loop.underway.did (.awaits wait)
  match arrival.outcome wait with
  | .ok message =>
    let (result, reassembly, world) := loop.state.accept message u.reassembly u.world
    ⟨.ofAccepted result, loop.state.orAfter result, ⟨reassembly, world⟩⟩
  | .error (.timeout _) => ⟨.nothing, loop.state, u⟩
  | .error e => ⟨.failure (.ofReceive e), loop.state, u⟩

/-- Goes on, unless the caller has given up. -/
def unlessCancelled (s : Surroundings) (loop : ChunkLoop S ω) : Turn S ω :=
  if s.cancelledBy (.receiving loop.receives) then .ended (.error .cancelled) loop.underway
  else .onward loop

/-- Takes an arrival, and looks at the clock and at the caller's wish. -/
def turn (c : AcquisitionConfig) (r : AcquisitionRequest) (s : Surroundings) (loop : ChunkLoop S ω)
    (arrival : Arrival) : Turn S ω :=
  let receives := loop.receives + 1
  let now := s.clock.after receives
  let met := loop.meet c.chunkWait arrival
  match met.finding with
  | .failure e => .ended (.error e) met.underway
  | .lastChunk => .ended (.ok (met.state.summary r (c.creditFor r))) met.underway
  | .chunk => unlessCancelled s ⟨receives, now, met.state, met.underway⟩
  | .nothing =>
    if c.replyTimeout ≤ now.sub loop.since then
      .ended (.error (.timeout c.replyTimeout)) met.underway
    else unlessCancelled s ⟨receives, loop.since, met.state, met.underway⟩

/-- What a turn comes to, by what is found. -/
theorem turn_of_finding {c : AcquisitionConfig} {r : AcquisitionRequest} {s : Surroundings}
    {loop : ChunkLoop S ω} {arrival : Arrival} {finding : Finding} :
    let met := loop.meet c.chunkWait arrival
    let now := s.clock.after (loop.receives + 1)
    met.finding = finding → loop.turn c r s arrival =
      match finding with
      | .failure e => .ended (.error e) met.underway
      | .lastChunk => .ended (.ok (met.state.summary r (c.creditFor r))) met.underway
      | .chunk => unlessCancelled s ⟨loop.receives + 1, now, met.state, met.underway⟩
      | .nothing =>
        if c.replyTimeout ≤ now.sub loop.since then
          .ended (.error (.timeout c.replyTimeout)) met.underway
        else unlessCancelled s ⟨loop.receives + 1, loop.since, met.state, met.underway⟩ := by
  rintro met now rfl
  rfl

/-- What a message does to the loop is what `accept` does. -/
theorem meet_message (wait : Duration) (loop : ChunkLoop S ω) (message : Bytes) :
    let accepted := loop.state.accept message loop.underway.reassembly
      (loop.underway.world.did (.awaits wait))
    loop.meet wait (.message message) =
      ⟨.ofAccepted accepted.1, loop.state.orAfter accepted.1, ⟨accepted.2.1, accepted.2.2⟩⟩ := rfl

/-- What is no message only takes time. -/
theorem meet_of_no_message (wait : Duration) (loop : ChunkLoop S ω) {arrival : Arrival}
    (h : arrival.message? = none) :
    (loop.meet wait arrival).state = loop.state ∧
      (loop.meet wait arrival).underway = loop.underway.did (.awaits wait) := by
  cases arrival with
  | message octets => cases h
  | quiet => exact ⟨rfl, rfl⟩
  | fails e => cases e <;> exact ⟨rfl, rfl⟩

/-- What no arrival changes of a loop's stream. -/
theorem meet_frame (wait : Duration) (loop : ChunkLoop S ω) (arrival : Arrival) :
    let after := (loop.meet wait arrival).state
    after.label = loop.state.label ∧ after.layout = loop.state.layout ∧
      after.hint = loop.state.hint ∧ after.expected = loop.state.expected := by
  cases hmessage : arrival.message? with
  | none =>
    rw [(loop.meet_of_no_message wait hmessage).1]
    exact ⟨rfl, rfl, rfl, rfl⟩
  | some octets =>
    obtain rfl := Arrival.eq_message hmessage
    exact loop.state.accept_frame octets loop.underway.reassembly
      (loop.underway.world.did (.awaits wait))

/-! ## 3. Many arrivals -/

/-- Takes arrivals until the loop is over or they are used up. -/
def run (c : AcquisitionConfig) (r : AcquisitionRequest) (s : Surroundings) :
    ChunkLoop S ω → List Arrival → Exchanged S ω
  | loop, [] => ⟨none, loop.underway, loop.receives, []⟩
  | loop, arrival :: left =>
    match loop.turn c r s arrival with
    | .onward loop => run c r s loop left
    | .ended outcome u => ⟨some outcome, u, loop.receives + 1, left⟩

/-- The loop after some arrivals, unless it is over by then. -/
def after (c : AcquisitionConfig) (r : AcquisitionRequest) (s : Surroundings) :
    ChunkLoop S ω → List Arrival → Option (ChunkLoop S ω)
  | loop, [] => some loop
  | loop, arrival :: more =>
    match loop.turn c r s arrival with
    | .onward loop => after c r s loop more
    | .ended _ _ => none

end ChunkLoop

variable {c : AcquisitionConfig} {r : AcquisitionRequest} {s : Surroundings}

/-- What comes of a loop once it has taken its turn. -/
def Turn.resume (c : AcquisitionConfig) (r : AcquisitionRequest) (s : Surroundings) (receives : Nat)
    (left : List Arrival) : Turn S ω → Exchanged S ω
  | onward loop => loop.run c r s left
  | ended outcome u => ⟨some outcome, u, receives, left⟩

theorem ChunkLoop.run_cons (loop : ChunkLoop S ω) (arrival : Arrival) (left : List Arrival) :
    loop.run c r s (arrival :: left) =
      (loop.turn c r s arrival).resume c r s (loop.receives + 1) left := by
  rw [ChunkLoop.run]
  cases loop.turn c r s arrival <;> rfl

theorem Turn.resume_unlessCancelled (loop : ChunkLoop S ω) (left : List Arrival) :
    (ChunkLoop.unlessCancelled s loop).resume c r s loop.receives left =
      if s.cancelledBy (.receiving loop.receives) then
        ⟨some (.error .cancelled), loop.underway, loop.receives, left⟩
      else loop.run c r s left := by
  unfold ChunkLoop.unlessCancelled
  split <;> rfl

/-- **The loop is `receiveChunks`.** -/
theorem receiveChunks_eq_run (loop : ChunkLoop S ω) (arrivals : List Arrival) :
    receiveChunks c r s loop.receives loop.since loop.state loop.underway arrivals =
      loop.run c r s arrivals := by
  induction arrivals generalizing loop with
  | nil => rfl
  | cons arrival left ih =>
    have hleft : ∀ receives since state (u : Underway S ω),
        receiveChunks c r s receives since state u left =
          ChunkLoop.run c r s ⟨receives, since, state, u⟩ left :=
      fun receives since state u => ih ⟨receives, since, state, u⟩
    have hmore : ∀ since state (u : Underway S ω),
        (ChunkLoop.unlessCancelled s ⟨loop.receives + 1, since, state, u⟩).resume c r s
          (loop.receives + 1) left = _ :=
      fun since state u => Turn.resume_unlessCancelled ⟨loop.receives + 1, since, state, u⟩ left
    have hsplit : ∀ (p : Prop) [Decidable p] (elapsed onward : Turn S ω),
        Turn.resume c r s (loop.receives + 1) left (if p then elapsed else onward) =
          if p then elapsed.resume c r s (loop.receives + 1) left
          else onward.resume c r s (loop.receives + 1) left :=
      fun p _ elapsed onward => apply_ite (Turn.resume c r s (loop.receives + 1) left) p elapsed onward
    rw [ChunkLoop.run_cons, ChunkLoop.turn, ChunkLoop.meet, receiveChunks]
    simp only [hleft, AcquisitionConfig.chunkWait]
    generalize loop.underway.did (.awaits (c.replyTimeout.min AcquisitionConfig.maxWait)) = u
    cases arrival.outcome (c.replyTimeout.min AcquisitionConfig.maxWait) with
    | error e =>
      cases e with
      | timeout after =>
        simp only [hsplit, hmore, decide_eq_true_eq]
        rfl
      | _ => rfl
    | ok message =>
      dsimp only
      generalize loop.state.accept message u.reassembly u.world = result
      obtain ⟨e | ⟨_ | _ | _, state⟩, reassembly, world⟩ := result
      · rfl
      · simp only [Finding.ofAccepted, StreamState.orAfter, hsplit, hmore, decide_eq_true_eq]
        rfl
      · simp only [Finding.ofAccepted, StreamState.orAfter, hmore]
      · rfl

namespace ChunkLoop

/-! ## 4. Before and after -/

theorem turn_eq_onward {loop later : ChunkLoop S ω} {arrival : Arrival}
    (h : loop.turn c r s arrival = .onward later) :
    later.receives = loop.receives + 1 ∧
      later.state = (loop.meet c.chunkWait arrival).state ∧
      later.underway = (loop.meet c.chunkWait arrival).underway := by
  unfold turn at h
  simp only [unlessCancelled] at h
  split at h
  · cases h
  · cases h
  · split at h <;> cases h
    exact ⟨rfl, rfl, rfl⟩
  · split at h
    · cases h
    · split at h <;> cases h
      exact ⟨rfl, rfl, rfl⟩

theorem turn_eq_ended {loop : ChunkLoop S ω} {arrival : Arrival}
    {outcome : Except AcquireError Summary} {u : Underway S ω}
    (h : loop.turn c r s arrival = .ended outcome u) :
    u = (loop.meet c.chunkWait arrival).underway ∧
      ∀ summary, outcome = .ok summary →
        (loop.meet c.chunkWait arrival).finding = .lastChunk ∧
          summary = (loop.meet c.chunkWait arrival).state.summary r (c.creditFor r) := by
  unfold turn at h
  simp only [unlessCancelled] at h
  split at h
  · cases h
    exact ⟨rfl, fun _ h => by cases h⟩
  · cases h
    exact ⟨rfl, fun _ h => ⟨by assumption, (Except.ok.inj h).symm⟩⟩
  · split at h <;> cases h
    exact ⟨rfl, fun _ h => by cases h⟩
  · split at h
    · cases h
      exact ⟨rfl, fun _ h => by cases h⟩
    · split at h <;> cases h
      exact ⟨rfl, fun _ h => by cases h⟩

/-- A loop that goes on has asked once for each arrival. -/
theorem receives_after {loop later : ChunkLoop S ω} {arrivals : List Arrival}
    (h : loop.after c r s arrivals = some later) :
    later.receives = loop.receives + arrivals.length := by
  induction arrivals generalizing loop with
  | nil => cases h; rfl
  | cons arrival more ih =>
    rw [after] at h
    split at h
    · rename_i next hturn
      rw [ih h, (turn_eq_onward hturn).1, List.length_cons]
      omega
    · cases h

/-- **A loop that is still there after some arrivals goes on with the others.** -/
theorem run_append {loop later : ChunkLoop S ω} {first : List Arrival}
    (h : loop.after c r s first = some later) (second : List Arrival) :
    loop.run c r s (first ++ second) = later.run c r s second := by
  induction first generalizing loop with
  | nil => cases h; rfl
  | cons arrival more ih =>
    rw [after] at h
    split at h
    · rename_i next hturn
      rw [List.cons_append, run_cons, hturn]
      exact ih h
    · cases h

/-- The loop is there after some arrivals exactly if it has no outcome when they are all. -/
theorem run_outcome_eq_none_iff {loop : ChunkLoop S ω} {arrivals : List Arrival} :
    (loop.run c r s arrivals).outcome = none ↔ (loop.after c r s arrivals).isSome := by
  induction arrivals generalizing loop with
  | nil => simp [run, after]
  | cons arrival more ih =>
    rw [run_cons, after]
    cases loop.turn c r s arrival with
    | onward next => exact ih
    | ended outcome u => simp [Turn.resume]

/-- The loop does not look ahead at what arrives. -/
theorem after_with_arrivals (loop : ChunkLoop S ω) (known arrivals : List Arrival) :
    loop.after c r { s with arrivals := known } arrivals = loop.after c r s arrivals := by
  induction arrivals generalizing loop with
  | nil => rfl
  | cons arrival more ih =>
    have hturn : loop.turn c r { s with arrivals := known } arrival = loop.turn c r s arrival := rfl
    rw [after, after, hturn]
    cases loop.turn c r s arrival with
    | onward next => exact ih next
    | ended outcome u => rfl

/-! ## 5. What every run keeps -/

section

variable {P : List Arrival → StreamState → Underway S ω → Prop}

/-- What every meeting keeps holds after some arrivals. -/
theorem after_invariant
    (hmeet : ∀ met (loop : ChunkLoop S ω) arrival, P met loop.state loop.underway →
      P (met ++ [arrival]) (loop.meet c.chunkWait arrival).state
        (loop.meet c.chunkWait arrival).underway)
    (met : List Arrival) {loop later : ChunkLoop S ω} {arrivals : List Arrival}
    (hstart : P met loop.state loop.underway) (h : loop.after c r s arrivals = some later) :
    P (met ++ arrivals) later.state later.underway := by
  induction arrivals generalizing met loop with
  | nil =>
    cases h
    simpa using hstart
  | cons arrival more ih =>
    rw [after] at h
    split at h
    · rename_i next hturn
      obtain ⟨-, hstate, hunderway⟩ := turn_eq_onward hturn
      have hnext := hmeet met loop arrival hstart
      rw [← hstate, ← hunderway] at hnext
      simpa using ih _ hnext h
    · cases h

/-- **What every meeting keeps, every run keeps**: it holds of the arrivals that were met, of what the
run came to, and of a state of the stream, which is that of the summary if there is one. -/
theorem run_invariant
    (hmeet : ∀ met (loop : ChunkLoop S ω) arrival, P met loop.state loop.underway →
      P (met ++ [arrival]) (loop.meet c.chunkWait arrival).state
        (loop.meet c.chunkWait arrival).underway)
    (met : List Arrival) (loop : ChunkLoop S ω) (hstart : P met loop.state loop.underway)
    (arrivals : List Arrival) :
    ∃ taken state, arrivals = taken ++ (loop.run c r s arrivals).left ∧
      (loop.run c r s arrivals).receives = loop.receives + taken.length ∧
      P (met ++ taken) state (loop.run c r s arrivals).underway ∧
      ∀ summary, (loop.run c r s arrivals).outcome = some (.ok summary) →
        summary = state.summary r (c.creditFor r) := by
  induction arrivals generalizing met loop with
  | nil =>
    refine ⟨[], loop.state, rfl, rfl, ?_, fun _ h => by cases h⟩
    rw [List.append_nil]
    exact hstart
  | cons arrival more ih =>
    have hnext := hmeet met loop arrival hstart
    rw [run_cons]
    cases hturn : loop.turn c r s arrival with
    | onward next =>
      obtain ⟨hreceives, hstate, hunderway⟩ := turn_eq_onward hturn
      rw [← hstate, ← hunderway] at hnext
      obtain ⟨taken, state, htaken, hcount, hP, hsummary⟩ := ih _ next hnext
      refine ⟨arrival :: taken, state, ?_, ?_, ?_, hsummary⟩
      · exact congrArg (arrival :: ·) htaken
      · rw [Turn.resume, hcount, hreceives, List.length_cons]
        omega
      · rw [List.append_cons]
        exact hP
    | ended outcome u =>
      obtain ⟨hunderway, hok⟩ := turn_eq_ended hturn
      refine ⟨[arrival], (loop.meet c.chunkWait arrival).state, rfl, rfl, ?_, ?_⟩
      · rw [← hunderway] at hnext
        exact hnext
      · intro summary h
        exact (hok summary (Option.some.inj h)).2

end

end ChunkLoop

end

end Readout

/-
# Running an acquisition

An acquisition opens a sink for each channel, sends one request, takes the answers into the sinks, and
finishes the sinks.  What it meets on the way is written down beforehand in its `Surroundings`: what
arrives each time it asks for a message, what the clock shows, when the caller gives up, and whether
the request can be sent.  The run is then a function, and its `Run` holds everything it came to: the
outcome, the sinks, the world, and its effects in order.

When the arrivals are used up before the acquisition is over, there is no outcome: it still waits.

* With chunks, the caller's wish to give up is looked at before the request is sent and after each
  message or timeout.  A chunk restarts the time that the next may take; nothing else does.
* With one answer, the wish and the time are looked at before each wait.
* Sinks that were opened before one that could not be are not finished.
-/
import Readout.Acquire.Stream
import Readout.Acquire.Trace

namespace Readout

open Control

/-! ## 1. Surroundings -/

/-- A moment at which the caller may give up. -/
inductive Moment where
  /-- Before the acquisition begins. -/
  | before
  /-- When a sink is opened. -/
  | opening
  /-- When the request is sent. -/
  | sending
  /-- While a message is awaited, for the `count`-th time from one on. -/
  | receiving (count : Nat)
  deriving DecidableEq, Repr

/-- The place of a moment in their order. -/
def Moment.rank : Moment → Nat
  | before => 0
  | opening => 1
  | sending => 2
  | receiving count => 3 + count

/-- What a clock shows during an acquisition. -/
structure Clock where
  /-- When the request has been sent. -/
  sent : Duration := .zero
  /-- After so many messages or timeouts. -/
  after : Nat → Duration := fun _ => .zero

/-- What an acquisition meets. -/
structure Surroundings where
  /-- What comes each time a message is asked for. -/
  arrivals : List Arrival
  clock : Clock := {}
  /-- When the caller gives up. -/
  cancelAt : Option Moment := none
  /-- Why the request cannot be sent. -/
  sendFault : Option LinkError := none

/-- Whether the caller has given up by a moment. -/
def Surroundings.cancelledBy (s : Surroundings) (now : Moment) : Bool :=
  s.cancelAt.any fun m => m.rank ≤ now.rank

variable {S ω : Type}

/-! ## 2. Phases -/

/-- An acquisition while it is under way. -/
structure Underway (S ω : Type) where
  reassembly : Reassembly (TracedSink S)
  world : Traced ω

/-- What the exchange with the device came to. -/
structure Exchanged (S ω : Type) where
  /-- The result or the error; none while it still waits. -/
  outcome : Option (Except AcquireError Summary)
  underway : Underway S ω
  /-- How often a message was asked for. -/
  receives : Nat
  /-- What has not arrived. -/
  left : List Arrival

/-- The acquisition after one more effect. -/
def Underway.did (u : Underway S ω) (effect : Effect) : Underway S ω :=
  { u with world := u.world.did effect }

/-- Sends the request. -/
def Underway.send (u : Underway S ω) (s : Surroundings) (message : Bytes) :
    Except AcquireError Unit × Underway S ω :=
  match s.sendFault with
  | some e => (.error (.send e), u.did (.failsToSend message))
  | none => (.ok (), u.did (.sends message))

section

variable [SampleSink S ω]

/-! ## 3. Chunks -/

/-- Takes what arrives, until the last chunk, an error, or a time without chunks that is too long. -/
def receiveChunks (c : AcquisitionConfig) (r : AcquisitionRequest) (s : Surroundings) :
    (receives : Nat) → (since : Duration) → StreamState → Underway S ω → List Arrival →
      Exchanged S ω
  | receives, _, _, u, [] => ⟨none, u, receives, []⟩
  | receives, since, state, u, arrival :: left =>
    let wait := c.replyTimeout.min AcquisitionConfig.maxWait
    let receives := receives + 1
    let now := s.clock.after receives
    let expired : Bool := c.replyTimeout ≤ now.sub since
    let u := u.did (.awaits wait)
    let fail (e : AcquireError) (u : Underway S ω) : Exchanged S ω :=
      ⟨some (.error e), u, receives, left⟩
    let onward (since : Duration) (state : StreamState) (u : Underway S ω) : Exchanged S ω :=
      if s.cancelledBy (.receiving receives) then fail .cancelled u
      else receiveChunks c r s receives since state u left
    match arrival.outcome wait with
    | .ok message =>
      match state.accept message u.reassembly u.world with
      | (.error e, reassembly, world) => fail e ⟨reassembly, world⟩
      | (.ok (.final, state), reassembly, world) =>
        ⟨some (.ok (state.summary r (c.creditFor r))), ⟨reassembly, world⟩, receives, left⟩
      | (.ok (.appended, state), reassembly, world) => onward now state ⟨reassembly, world⟩
      | (.ok (.discarded, state), reassembly, world) =>
        if expired then fail (.timeout c.replyTimeout) ⟨reassembly, world⟩
        else onward since state ⟨reassembly, world⟩
    | .error (.timeout _) =>
      if expired then fail (.timeout c.replyTimeout) u else onward since state u
    | .error e => fail (.ofReceive e) u

/-- Asks for chunks and takes them. -/
def exchangeChunks (c : AcquisitionConfig) (r : AcquisitionRequest) (label : String)
    (s : Surroundings) (u : Underway S ω) : Exchanged S ω :=
  if s.cancelledBy .opening then ⟨some (.error .cancelled), u, 0, s.arrivals⟩
  else
    match (u.did (.setsCapacity (c.creditFor r))).send s (c.requestMessage r label) with
    | (.error e, u) => ⟨some (.error e), u, 0, s.arrivals⟩
    | (.ok (), u) =>
      receiveChunks c r s 0 s.clock.sent (.start c r label) u s.arrivals

/-! ## 4. One answer -/

/-- Waits for one message. -/
def awaitReply (c : AcquisitionConfig) (s : Surroundings) :
    (receives : Nat) → Underway S ω → List Arrival →
      Option (Except AcquireError Bytes) × Underway S ω × Nat × List Arrival
  | receives, u, arrivals =>
    let remaining := c.replyTimeout.sub ((s.clock.after receives).sub s.clock.sent)
    if s.cancelledBy (if receives = 0 then .sending else .receiving receives) then
      (some (.error .cancelled), u, receives, arrivals)
    else if remaining = .zero then (some (.error (.timeout c.replyTimeout)), u, receives, arrivals)
    else
      match arrivals with
      | [] => (none, u, receives, [])
      | arrival :: left =>
        let wait := remaining.min AcquisitionConfig.maxWait
        let u := u.did (.awaits wait)
        match arrival.outcome wait with
        | .ok message => (some (.ok message), u, receives + 1, left)
        | .error (.timeout _) => awaitReply c s (receives + 1) u left
        | .error e => (some (.error (.ofReceive e)), u, receives + 1, left)

/-- The data in the one answer, if it is what was asked for. -/
def replyData (r : AcquisitionRequest) (message : Bytes) : Except AcquireError (List UInt32) :=
  match Envelope.decode message with
  | .error e => .error (.ofAnswer .dump e)
  | .ok envelope =>
    if envelope.kind ≠ .dump then .error (.unexpectedKind .dump envelope.kind.name)
    else
      match envelope.record DumpReply.schema with
      | .error e => .error (.decode e)
      | .ok reply =>
        if !reply.success then .error (.refused reply.message)
        else if reply.data.length ≠ r.totalSamples then
          .error (.sizeMismatch .replySamples r.totalSamples reply.data.length)
        else .ok reply.data

/-- The result of an acquisition with one answer. -/
def singleSummary (r : AcquisitionRequest) (written : Nat) : Summary where
  mode := .single
  label := none
  channels := r.channels
  samples := r.samples
  expected := r.waveforms.toNat
  written := written
  chunks := 1
  discarded := 0
  credit := none
  completion := .complete

/-- Asks for one answer and takes it. -/
def exchangeSingle (c : AcquisitionConfig) (r : AcquisitionRequest) (label : String)
    (s : Surroundings) (u : Underway S ω) : Exchanged S ω :=
  if s.cancelledBy .opening then ⟨some (.error .cancelled), u, 0, s.arrivals⟩
  else
    match u.send s (c.requestMessage r label) with
    | (.error e, u) => ⟨some (.error e), u, 0, s.arrivals⟩
    | (.ok (), u) =>
      match awaitReply c s 0 u s.arrivals with
      | (none, u, receives, left) => ⟨none, u, receives, left⟩
      | (some (.error e), u, receives, left) => ⟨some (.error e), u, receives, left⟩
      | (some (.ok message), u, receives, left) =>
        match replyData r message with
        | .error e => ⟨some (.error e), u, receives, left⟩
        | .ok data =>
          match u.reassembly.append r.waveforms.toNat data u.world with
          | (some e, reassembly, world) =>
            ⟨some (.error e), ⟨reassembly, world⟩, receives, left⟩
          | (none, reassembly, world) =>
            ⟨some (.ok (singleSummary r reassembly.waveforms.toNat)), ⟨reassembly, world⟩, receives,
              left⟩

/-! ## 5. The whole run -/

/-- Everything that an acquisition came to. -/
structure Run (S ω : Type) where
  /-- The result or the error; none while it still waits. -/
  outcome : Option (Except AcquireError Summary)
  /-- The sinks that were opened, in the order of the channels. -/
  sinks : List (UInt32 × S)
  world : ω
  effects : List Effect
  /-- How often a message was asked for. -/
  receives : Nat
  /-- What has not arrived. -/
  left : List Arrival

/-- A run that ends with sinks and a world. -/
def Run.of (outcome : Option (Except AcquireError Summary)) (sinks : List (TracedSink S))
    (world : Traced ω) (receives : Nat) (left : List Arrival) : Run S ω where
  outcome := outcome
  sinks := sinks.map fun s => (s.channel, s.sink)
  world := world.world
  effects := world.effects.reverse
  receives := receives
  left := left

/-- The exchange with the device in the mode that the settings ask for. -/
def exchange (c : AcquisitionConfig) (r : AcquisitionRequest) (label : String)
    (s : Surroundings) (u : Underway S ω) : Exchanged S ω :=
  match c.mode with
  | .single => exchangeSingle c r label s u
  | .streaming => exchangeChunks c r label s u

/-- The run after the exchange: the sinks are finished, and a failure to do so counts only if there
was no error before. -/
def Exchanged.conclude (e : Exchanged S ω) : Run S ω :=
  match e.outcome with
  | none => .of none e.underway.reassembly.sinks e.underway.world e.receives e.left
  | some outcome =>
    let (failure, sinks, world) := e.underway.reassembly.close e.underway.world
    let outcome := match outcome, failure with
      | .ok _, some error => .error error
      | outcome, _ => outcome
    .of (some outcome) sinks world e.receives e.left

/-- Runs an acquisition; chunks carry the label. -/
def acquire (c : AcquisitionConfig) (r : AcquisitionRequest) (label : String) (s : Surroundings)
    (factory : SinkFactory S ω) (world : ω) : Run S ω :=
  if s.cancelledBy .before then .of (some (.error .cancelled)) [] ⟨world, []⟩ 0 s.arrivals
  else
    match c.check r with
    | .error e => .of (some (.error e)) [] ⟨world, []⟩ 0 s.arrivals
    | .ok () =>
      match Reassembly.openEach (SinkFactory.traced factory) r.channels ⟨world, []⟩ with
      | (some (channel, fault), sinks, w) =>
        .of (some (.error (.sink channel fault))) sinks w 0 s.arrivals
      | (none, sinks, w) =>
        (exchange c r label s ⟨.start r.channels r.samples.toNat sinks, w⟩).conclude

end

end Readout

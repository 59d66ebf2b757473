/-
# Links to a simulated device, between one exchange and the next

The state of a link to a simulated device is described by the messages that wait at the client's end, in
the queue or still on the connection, however they are cut (`SimulatedLink.Holding`).  Nothing else is
under way on it.  A link is at rest when no message waits.

* `ClientLink.Holding.receive` -- the first message that waits is received;
* `SimulatorSession.run_of_message` -- a device that gets one message answers it;
* `SimulatedLink.Holding.send` -- what is sent on a link at rest is answered;
* `SimulatedLink.Holding.takeAll` -- all messages that wait can be taken;
* `SimulatedLink.holding_of_connect` -- a link is at rest when it is made.
-/
import Readout.Proofs.Agreement
import Readout.Proofs.Delivery
import Readout.Simulator.Link

namespace Readout

open Control

/-! ## 1. Ends of a connection -/

/-- The frame of a message. -/
def Frame.ofMessage (message : Bytes) : Frame := ⟨FrameKind.message, message⟩

/-- The octets of messages, one frame after another. -/
def messageOctets (messages : List Bytes) : Bytes :=
  messages.flatMap fun message => (Frame.ofMessage message).octets

theorem messageOctets_cons (message : Bytes) (messages : List Bytes) :
    messageOctets (message :: messages) =
      (Frame.ofMessage message).octets ++ messageOctets messages := List.flatMap_cons

/-- The messages can be sent. -/
def Sendable (messages : List Bytes) : Prop :=
  ∀ message ∈ messages, message.length ≤ Frame.defaultLimit

theorem readable_ofMessage {message : Bytes} (h : message.length ≤ Frame.defaultLimit) :
    (Frame.ofMessage message).Readable Frame.defaultLimit :=
  ⟨rfl, h, Nat.le_trans h (by decide)⟩

/-- An end of a connection that sends without fault, with the usual limit, and all of whose octets have
been carried over. -/
structure Connection.Tidy (c : Connection) : Prop where
  sound : c.device.Sound
  carried : c.device.accepted = []
  readLimit : c.reader.limit = Frame.defaultLimit
  sendLimit : c.sendLimit = Frame.defaultLimit

namespace Connection

variable {c : Connection}

theorem Tidy.read (h : c.Tidy) (buffer : Bytes) (reads : List ReadStep) : (c.read buffer reads).Tidy :=
  ⟨h.sound, h.carried, h.readLimit, h.sendLimit⟩

theorem arrive_eq (c : Connection) (octets : Bytes) :
    ∃ reads, c.arrive octets = { c with reads := reads } := by
  unfold Connection.arrive
  split <;> exact ⟨_, rfl⟩

theorem Tidy.arrive (h : c.Tidy) (octets : Bytes) : (c.arrive octets).Tidy := by
  obtain ⟨reads, harrive⟩ := c.arrive_eq octets
  rw [harrive]
  exact ⟨h.sound, h.carried, h.readLimit, h.sendLimit⟩

/-- Once what was sent is carried over, the end is tidy again. -/
theorem Tidy.carry (h : c.Tidy) {device : Device} (hsound : device.Sound) :
    { c with device := { device with acts := [] } }.Tidy :=
  ⟨⟨hsound.writes, hsound.flushes⟩, rfl, h.readLimit, h.sendLimit⟩

/-! A frame is sent, or refused for its size and the connection left as it is. -/

theorem send_of_fits (hsound : c.device.Sound) {f : Frame} (hlimit : f.payload.length ≤ c.sendLimit)
    (hmax : f.payload.length ≤ Frame.maxLength) :
    ∃ device, c.send f = (.ok (), { c with device := device }) ∧ device.Sound ∧
      device.accepted = c.device.accepted ++ f.octets := by
  unfold send
  rcases Device.send_of_sound hsound c.sendLimit f with
    ⟨hok, hafter, haccepted, -, -⟩ | ⟨most, hmost, hlarge, -⟩
  · generalize c.device.send c.sendLimit f = sent at hok hafter haccepted
    obtain ⟨result, device⟩ := sent
    obtain rfl : result = .ok () := hok
    exact ⟨device, rfl, hafter, haccepted⟩
  · omega

theorem send_of_over {f : Frame} (hover : c.sendLimit < f.payload.length) :
    c.send f = (.error (.tooLarge f.payload.length c.sendLimit), c) := by
  rw [send, Device.send, if_pos hover]

theorem send_of_long {f : Frame} (hlimit : f.payload.length ≤ c.sendLimit)
    (hlong : Frame.maxLength < f.payload.length) :
    c.send f = (.error (.tooLarge f.payload.length Frame.maxLength), c) := by
  rw [send, Device.send, if_neg (Nat.not_lt.mpr hlimit), Frame.encode, if_pos hlong]

/-- A message that is not too large is sent. -/
theorem send_ofMessage (hsound : c.device.Sound) (hlimit : c.sendLimit = Frame.defaultLimit)
    {message : Bytes} (hfits : message.length ≤ Frame.defaultLimit) :
    ∃ device, c.send (.ofMessage message) = (.ok (), { c with device := device }) ∧ device.Sound ∧
      device.accepted = c.device.accepted ++ (Frame.ofMessage message).octets :=
  send_of_fits hsound (hlimit ▸ hfits) (Nat.le_trans hfits (by decide))

/-- One that is too large is not. -/
theorem send_of_large (hlimit : c.sendLimit = Frame.defaultLimit) {message : Bytes}
    (hlarge : Frame.defaultLimit < message.length) :
    c.send (.ofMessage message) =
      (.error (.tooLarge message.length Frame.defaultLimit), c) := by
  rw [← hlimit] at hlarge ⊢
  exact send_of_over hlarge

end Connection

/-! ## 2. The client's end -/

namespace ClientLink

/-- The link is open, and these messages wait at its end, in the queue or still on the connection. -/
structure Holding (messages : List Bytes) (l : ClientLink) : Prop where
  pumping : l.pumping = true
  isOpen : l.queue.closed = none
  notClosed : l.closed = false
  tidy : l.connection.Tidy
  waiting : ∃ rest, l.queue.items ++ rest = messages ∧
    l.connection.inflow = ⟨messageOctets rest, none⟩ ∧ Sendable rest

variable {messages : List Bytes} {l : ClientLink}

/-- Nothing waits at all. -/
theorem Holding.nothing (h : l.Holding []) :
    l.queue.items = [] ∧ l.connection.inflow = ⟨[], none⟩ := by
  obtain ⟨rest, hmessages, hinflow, -⟩ := h.waiting
  obtain ⟨hitems, rfl⟩ := List.append_eq_nil_iff.mp hmessages
  exact ⟨hitems, hinflow⟩

/-- A step of the reading thread moves a message into the queue, unless there is none or no room. -/
theorem Holding.pump? (h : l.Holding messages) :
    (l.pump? = none ∧ (l.queue.items = [] → messages = [])) ∨
      ∃ l', l.pump? = some l' ∧ l'.Holding messages ∧ l'.queue.items ≠ [] := by
  obtain ⟨rest, hmessages, hinflow, hsendable⟩ := h.waiting
  rw [ClientLink.pump?, if_neg (by simp [h.pumping])]
  cases rest with
  | nil =>
    rw [Connection.receive?_of_silent hinflow]
    rw [List.append_nil] at hmessages
    exact .inl ⟨rfl, fun hitems => hmessages.symm.trans hitems⟩
  | cons m rest =>
    have hreadable : (Frame.ofMessage m).Readable l.connection.reader.limit := by
      rw [h.tidy.readLimit]
      exact readable_ofMessage (hsendable m List.mem_cons_self)
    obtain ⟨buffer, reads, hreceive, hafter, -⟩ := Connection.receive?_of_frame hreadable
      (show l.connection.inflow.octets = _ ++ messageOctets rest by rw [hinflow]; rfl)
    rw [hinflow] at hafter
    simp only [hreceive]
    rw [if_pos (show (Frame.ofMessage m).kind = FrameKind.message from rfl)]
    by_cases hroom : l.queue.items.length < l.queue.capacity
    · rw [InboundQueue.push?_of_room h.isOpen hroom]
      refine .inr ⟨_, rfl, ⟨h.pumping, h.isOpen, h.notClosed, h.tidy.read buffer reads, rest, ?_,
        hafter, fun other hother => hsendable other (List.mem_cons_of_mem _ hother)⟩, by simp⟩
      show (l.queue.items ++ [m]) ++ rest = messages
      rw [← hmessages, List.append_assoc]
      rfl
    · rw [InboundQueue.push?_of_full h.isOpen hroom]
      refine .inl ⟨rfl, fun hitems => ?_⟩
      rw [hitems] at hroom
      exact absurd l.queue.capacity_pos hroom

theorem Holding.pumpSteps (h : l.Holding messages) (fuel : Nat) :
    (l.pumpSteps fuel).Holding messages ∧
      (messages ≠ [] → 0 < fuel ∨ l.queue.items ≠ [] → (l.pumpSteps fuel).queue.items ≠ []) := by
  induction fuel generalizing l with
  | zero => exact ⟨h, fun _ hitems => hitems.resolve_left (Nat.lt_irrefl 0)⟩
  | succ fuel ih =>
    rw [ClientLink.pumpSteps]
    rcases h.pump? with ⟨hnone, hempty⟩ | ⟨l', hsome, hl', hitems⟩
    · rw [hnone]
      exact ⟨h, fun hne _ hitems => hne (hempty hitems)⟩
    · rw [hsome]
      obtain ⟨hafter, hmore⟩ := ih hl'
      exact ⟨hafter, fun hne _ => hmore hne (.inr hitems)⟩

/-- At rest there is nothing to read. -/
theorem Holding.pump_of_nothing (h : l.Holding []) : l.pump = l := by
  obtain ⟨hitems, hinflow⟩ := h.nothing
  rw [pump, ClientLink.pumpSteps, ClientLink.pump?, if_neg (by simp [h.pumping]),
    Connection.receive?_of_silent hinflow]

/-- **The first message that waits is received.** -/
theorem Holding.receive {message : Bytes} (h : l.Holding (message :: messages)) (timeout : Duration) :
    ∃ l', l.receiveNext timeout = (.ok message, l') ∧ l'.Holding messages := by
  obtain ⟨hpumped, hitems⟩ := h.pumpSteps (l.connection.pending + 1)
  have hthere := hitems (List.cons_ne_nil _ _) (.inl (Nat.succ_pos _))
  obtain ⟨rest, hmessages, hinflow, hsendable⟩ := hpumped.waiting
  obtain ⟨first, items, hqueue⟩ := List.exists_cons_of_ne_nil hthere
  rw [hqueue] at hmessages
  obtain ⟨rfl, hmore⟩ := List.cons.inj hmessages
  refine ⟨{ l.pump with queue := { l.pump.queue with items := items } }, ?_, hpumped.pumping,
    hpumped.isOpen, hpumped.notClosed, hpumped.tidy, rest, hmore, hinflow, hsendable⟩
  rw [receiveNext, pump, ClientLink.receive, InboundQueue.pop, hqueue]

/-- Where nothing waits, the time runs out. -/
theorem Holding.receive_nothing (h : l.Holding []) (timeout : Duration) :
    l.receiveNext timeout = (.error (.timeout timeout), l) := by
  obtain ⟨hitems, -⟩ := h.nothing
  rw [receiveNext, h.pump_of_nothing, ClientLink.receive, InboundQueue.pop, hitems, h.isOpen]

theorem Holding.setCapacity (h : l.Holding messages) (capacity : Nat) :
    (l.setCapacity capacity).Holding messages :=
  ⟨h.pumping, h.isOpen, h.notClosed, h.tidy, h.waiting⟩

end ClientLink

/-! ## 3. The device's end -/

/-- The messages with which a device answers one message. -/
def Simulator.replies (s : Simulator) (message : Bytes) : List Bytes := (s.answer message {}).messages

/-- A device survives a message, and can send all answers to it. -/
structure Simulator.Copes (s : Simulator) (message : Bytes) : Prop where
  survives : (s.answer message {}).crashes = false
  sendable : Sendable (s.replies message)

/-- What a device did before does not count for what it answers. -/
theorem Simulator.answer_regardless (s : Simulator) (message : Bytes) (stats : SessionStats) :
    (s.answer message stats).messages = s.replies message ∧
      (s.answer message stats).crashes = (s.answer message {}).crashes := by
  unfold replies answer
  cases Envelope.decode message with
  | error e => exact ⟨rfl, rfl⟩
  | ok envelope =>
    obtain ⟨kind, payload⟩ := envelope
    cases kind with
    | dump =>
      simp only [answerEnvelope]
      cases Envelope.record ⟨.dump, payload⟩ DumpRequest.schema with
      | error e => exact ⟨rfl, rfl⟩
      | ok r =>
        simp only [answerDump]
        cases s.refusal r.channels with
        | some text => exact ⟨rfl, rfl⟩
        | none =>
          by_cases hcount :
              Synthetic.capacity ≤ Synthetic.blockSize r.channels r.waveforms.toNat r.samples.toNat
          · simp only [if_pos hcount, and_self]
          · simp only [if_neg hcount, and_self]
    | chunkRequest =>
      simp only [answerEnvelope]
      cases Envelope.record ⟨.chunkRequest, payload⟩ ChunkRequest.schema with
      | error e => exact ⟨rfl, rfl⟩
      | ok r =>
        simp only [answerChunks]
        cases s.refusal r.channels with
        | some text => exact ⟨rfl, rfl⟩
        | none =>
          by_cases hcount : Synthetic.capacity ≤ Synthetic.blockSize r.channels
              (min (max r.chunkSize.toNat 1) (s.streamed r)) r.samples.toNat
          · simp only [if_pos hcount, and_self]
          · simp only [if_neg hcount, and_self]
    | _ => exact ⟨rfl, rfl⟩

namespace SimulatorSession

/-- A session that goes on, and whose device has nothing to do. -/
structure Listening (simulator : Simulator) (s : SimulatorSession) : Prop where
  simulator : s.simulator = simulator
  running : s.ended = none
  isOpen : s.link.closed = false
  tidy : s.link.connection.Tidy
  silent : s.link.connection.inflow = ⟨[], none⟩

/-- The session with its connection further on, and other counts. -/
def moved (s : SimulatorSession) (c : Connection) (stats : SessionStats) : SimulatorSession :=
  { s with link := { s.link with connection := c }, stats := stats }

/-- Messages that are not too large are sent, one after another. -/
theorem sendEach_of_sendable {s : SimulatorSession} (hopen : s.link.closed = false)
    (hsound : s.link.connection.device.Sound)
    (hlimit : s.link.connection.sendLimit = Frame.defaultLimit) {messages : List Bytes}
    (h : Sendable messages) :
    ∃ device, sendEach messages s = s.moved { s.link.connection with device := device } s.stats ∧
      device.Sound ∧
      device.accepted = s.link.connection.device.accepted ++ messageOctets messages := by
  induction messages generalizing s with
  | nil => exact ⟨s.link.connection.device, rfl, hsound, (List.append_nil _).symm⟩
  | cons message messages ih =>
    obtain ⟨device, hsend, hafter, haccepted⟩ :=
      Connection.send_ofMessage hsound hlimit (h message List.mem_cons_self)
    have hlink : s.link.send message =
        (.ok (), { s.link with connection := { s.link.connection with device := device } }) := by
      unfold ServerLink.send
      rw [if_neg (by simp [hopen]), show (⟨FrameKind.message, message⟩ : Frame) =
        .ofMessage message from rfl, hsend]
    obtain ⟨device', hsends, hafter', haccepted'⟩ :=
      ih (s := s.moved { s.link.connection with device := device } s.stats) hopen hafter hlimit
        fun other hother => h other (List.mem_cons_of_mem _ hother)
    refine ⟨device', ?_, hafter', ?_⟩
    · rw [sendEach, hlink]
      exact hsends
    · rw [haccepted', messageOctets_cons, ← List.append_assoc, ← haccepted]
      rfl

/-- A link with a message at its front receives it. -/
theorem receive?_of_message {l : ServerLink} (hopen : l.closed = false)
    {message : Bytes} (hreadable : (Frame.ofMessage message).Readable l.connection.reader.limit)
    (h : l.connection.inflow = ⟨(Frame.ofMessage message).octets, none⟩) :
    ∃ buffer reads, l.receive? =
        some (.ok (some message), { l with connection := l.connection.read buffer reads }) ∧
      (l.connection.read buffer reads).inflow = ⟨[], none⟩ := by
  obtain ⟨buffer, reads, hreceive, hafter, -⟩ := Connection.receive?_of_frame hreadable
    (show l.connection.inflow.octets = _ ++ [] by rw [h, List.append_nil])
  rw [h] at hafter
  refine ⟨buffer, reads, ?_, hafter⟩
  rw [ServerLink.receive?, ServerLink.receiveSteps, if_neg (by simp [hopen]), hreceive]
  rfl

theorem receive?_of_silent {l : ServerLink} (hopen : l.closed = false)
    (h : l.connection.inflow = ⟨[], none⟩) : l.receive? = none := by
  rw [ServerLink.receive?, ServerLink.receiveSteps, if_neg (by simp [hopen]),
    Connection.receive?_of_silent h]

/-- A device that gets nothing does nothing. -/
theorem Listening.run {simulator : Simulator} {s : SimulatorSession} (h : s.Listening simulator) :
    s.run = s := by
  rw [SimulatorSession.run, runSteps, h.running, if_neg (by simp),
    receive?_of_silent h.isOpen h.silent]

/-- A message is answered. -/
theorem respond_of_copes {s : SimulatorSession} {message : Bytes} (hopen : s.link.closed = false)
    (htidy : s.link.connection.Tidy) (hcopes : s.simulator.Copes message) :
    ∃ device stats, s.respond message = s.moved { s.link.connection with device := device } stats ∧
      device.Sound ∧ device.accepted = messageOctets (s.simulator.replies message) := by
  obtain ⟨hmessages, hcrashes⟩ := s.simulator.answer_regardless message s.stats
  have hwhole : (s.simulator.answer message s.stats).crashes = false :=
    hcrashes.trans hcopes.survives
  obtain ⟨device, hsends, hsound, haccepted⟩ := sendEach_of_sendable
    (s := s.moved s.link.connection (s.simulator.answer message s.stats).stats)
    hopen htidy.sound htidy.sendLimit (hmessages ▸ hcopes.sendable)
  refine ⟨device, (s.simulator.answer message s.stats).stats, ?_, hsound, ?_⟩
  · unfold respond
    show (if (s.simulator.answer message s.stats).crashes && _ then _ else _) = _
    rw [if_neg (by simp [hwhole])]
    exact hsends
  · rw [haccepted, hmessages]
    show Device.accepted s.link.connection.device ++ _ = _
    rw [htidy.carried, List.nil_append]

/-- **A device that gets one message answers it**, and has nothing to do then. -/
theorem run_of_message {simulator : Simulator} {s : SimulatorSession} {message : Bytes}
    (hsimulator : s.simulator = simulator) (hrunning : s.ended = none) (hopen : s.link.closed = false)
    (htidy : s.link.connection.Tidy) (hfits : message.length ≤ Frame.defaultLimit)
    (hinflow : s.link.connection.inflow = ⟨(Frame.ofMessage message).octets, none⟩)
    (hcopes : simulator.Copes message) :
    s.run.simulator = simulator ∧ s.run.ended = none ∧ s.run.link.closed = false ∧
      s.run.link.connection.inflow = ⟨[], none⟩ ∧
      ∃ (c : Connection) (device : Device), c.Tidy ∧
        s.run.link.connection = { c with device := device } ∧ device.Sound ∧
        device.accepted = messageOctets (simulator.replies message) := by
  subst hsimulator
  obtain ⟨buffer, reads, hreceive, hafter⟩ := receive?_of_message hopen
    (htidy.readLimit ▸ readable_ofMessage hfits) hinflow
  have hfuel : ∃ fuel, s.link.connection.pending + 1 = fuel + 2 := by
    have hlength := s.link.connection.length_inflow_le
    rw [hinflow, Frame.length_octets, Frame.headerSize] at hlength
    exact ⟨s.link.connection.pending - 1, by omega⟩
  obtain ⟨fuel, hfuel⟩ := hfuel
  obtain ⟨device, stats, hrespond, hsound, haccepted⟩ := respond_of_copes
    (s := s.moved (s.link.connection.read buffer reads) s.stats) hopen (htidy.read buffer reads) hcopes
  have hresponded : (s.moved (s.link.connection.read buffer reads) s.stats).respond message =
      s.moved { s.link.connection.read buffer reads with device := device } stats := hrespond
  have hsilent : (s.moved { s.link.connection.read buffer reads with device := device }
      stats).link.receive? = none := receive?_of_silent hopen hafter
  have hdone : s.run = s.moved { s.link.connection.read buffer reads with device := device } stats := by
    rw [run, hfuel, runSteps, if_neg (by simp [hrunning]), hreceive]
    show runSteps (fuel + 1) ((s.moved (s.link.connection.read buffer reads) s.stats).respond message) = _
    rw [hresponded, runSteps, if_neg (by simp [moved, hrunning]), hsilent]
  rw [hdone]
  exact ⟨rfl, hrunning, hopen, hafter, s.link.connection.read buffer reads, device,
    htidy.read buffer reads, rfl, hsound, haccepted⟩

end SimulatorSession

/-! ## 4. Both ends -/

namespace SimulatedLink

/-- **The state of a link**: these messages wait at the client's end, and nothing else is under way. -/
structure Holding (simulator : Simulator) (messages : List Bytes) (l : SimulatedLink) : Prop where
  client : l.client.Holding messages
  device : l.session.Listening simulator

variable {simulator : Simulator} {messages : List Bytes} {l : SimulatedLink}

/-- What comes of what is on its way, while the device goes on. -/
theorem settle_eq (hopen : l.client.closed = false) {s : SimulatorSession}
    (hs : (l.session.moved (l.session.link.connection.arrive l.client.connection.device.accepted)
      l.session.stats).run = s) (hrunning : s.ended = none) :
    l.settle =
      ⟨{ l.client with connection :=
          l.client.connection.takeSent.2.arrive s.link.connection.device.accepted },
        s.moved s.link.connection.takeSent.2 s.stats⟩ := by
  have hdevice : (if l.client.closed then
      (l.session.link.connection.arrive l.client.connection.device.accepted).hangUp
      else l.session.link.connection.arrive l.client.connection.device.accepted) =
      l.session.link.connection.arrive l.client.connection.device.accepted :=
    if_neg (by simp [hopen])
  unfold settle carry Connection.takeSent
  simp only [hdevice]
  have hrun : SimulatorSession.run { l.session with link := { l.session.link with
      connection := l.session.link.connection.arrive l.client.connection.device.accepted } } = s := hs
  simp only [hrun]
  rw [if_neg (by simp [hrunning])]
  rfl

/-- The link with its client's end further on. -/
def withDevice (l : SimulatedLink) (device : Device) : SimulatedLink :=
  { l with client := { l.client with connection := { l.client.connection with device := device } } }

/-- **What a message comes to that is on its way**: the answers wait, and the link is at rest but for
them. -/
theorem Holding.settle_of_message (h : l.Holding simulator []) {message : Bytes}
    (hfits : message.length ≤ Frame.defaultLimit) (hcopes : simulator.Copes message)
    {device : Device} (hsound : device.Sound)
    (hsaid : device.accepted = (Frame.ofMessage message).octets) :
    (l.withDevice device).settle.Holding simulator (simulator.replies message) := by
  obtain ⟨hitems, hsilent⟩ := h.client.nothing
  have harrived : (l.session.link.connection.arrive device.accepted).inflow =
      ⟨(Frame.ofMessage message).octets, none⟩ := by
    rw [Connection.inflow_arrive (by rw [h.device.silent]), h.device.silent, hsaid]
    rfl
  obtain ⟨hsimulator, hrunning, hopen, hidle, c, sent, htidy, hconnection, hdevice, hreplies⟩ :=
    SimulatorSession.run_of_message
      (s := l.session.moved (l.session.link.connection.arrive device.accepted) l.session.stats)
      h.device.simulator h.device.running h.device.isOpen (h.device.tidy.arrive _) hfits harrived
      hcopes
  generalize hrun : (l.session.moved (l.session.link.connection.arrive device.accepted)
    l.session.stats).run = s at hsimulator hrunning hopen hidle hconnection
  rw [settle_eq (l := l.withDevice device) h.client.notClosed hrun hrunning]
  have htaken : (l.withDevice device).client.connection.takeSent.2.Tidy :=
    h.client.tidy.carry hsound
  have hafter : ((l.withDevice device).client.connection.takeSent.2.arrive
      (messageOctets (simulator.replies message))).inflow =
        ⟨messageOctets (simulator.replies message), none⟩ := by
    have hquiet : (l.withDevice device).client.connection.takeSent.2.inflow = ⟨[], none⟩ := hsilent
    rw [Connection.inflow_arrive (by rw [hquiet]), hquiet]
    rfl
  constructor
  · refine ⟨h.client.pumping, h.client.isOpen, h.client.notClosed, htaken.arrive _,
      simulator.replies message, ?_, ?_, hcopes.sendable⟩
    · show l.client.queue.items ++ _ = _
      rw [hitems]
      rfl
    · rw [hconnection, ← hafter, ← hreplies]
  · refine ⟨hsimulator, hrunning, hopen, ?_, hidle⟩
    rw [hconnection]
    exact htidy.carry hdevice

/-- Where nothing is on its way, the link stays at rest. -/
theorem Holding.settle (h : l.Holding simulator []) : l.settle.Holding simulator [] := by
  obtain ⟨hitems, hsilent⟩ := h.client.nothing
  have hsame : l.session.moved (l.session.link.connection.arrive l.client.connection.device.accepted)
      l.session.stats = l.session := by
    rw [h.client.tidy.carried]
    rfl
  rw [settle_eq h.client.notClosed (by rw [hsame, h.device.run]) h.device.running]
  constructor
  · refine ⟨h.client.pumping, h.client.isOpen, h.client.notClosed, ?_, [], ?_, ?_, nofun⟩
    · exact (h.client.tidy.carry h.client.tidy.sound).arrive _
    · rw [hitems]
      rfl
    · rw [h.device.tidy.carried]
      exact hsilent
  · exact ⟨h.device.simulator, h.device.running, h.device.isOpen,
      h.device.tidy.carry h.device.tidy.sound, h.device.silent⟩

/-- **What is sent on a link at rest is answered.** -/
theorem Holding.send (h : l.Holding simulator []) {message : Bytes}
    (hfits : message.length ≤ Frame.defaultLimit) (hcopes : simulator.Copes message) :
    ∃ l', l.send message = (.ok (), l') ∧ l'.Holding simulator (simulator.replies message) := by
  obtain ⟨device, hsend, hsound, haccepted⟩ :=
    Connection.send_ofMessage h.client.tidy.sound h.client.tidy.sendLimit hfits
  rw [h.client.tidy.carried, List.nil_append] at haccepted
  refine ⟨(l.withDevice device).settle, ?_, h.settle_of_message hfits hcopes hsound haccepted⟩
  have hclient : l.client.send message = (.ok (), (l.withDevice device).client) := by
    unfold ClientLink.send
    rw [if_neg (by simp [h.client.notClosed]), h.client.isOpen, show (⟨FrameKind.message, message⟩ :
      Frame) = .ofMessage message from rfl, hsend]
    rfl
  rw [SimulatedLink.send, h.client.pump_of_nothing, hclient]
  rfl

/-- What is too large is not sent, and the link stays at rest. -/
theorem Holding.send_of_large (h : l.Holding simulator []) {message : Bytes}
    (hlarge : Frame.defaultLimit < message.length) :
    ∃ l', l.send message =
        (.error (.send (.tooLarge message.length Frame.defaultLimit)), l') ∧
      l'.Holding simulator [] := by
  refine ⟨l.settle, ?_, h.settle⟩
  have hclient : l.client.send message =
      (.error (.send (.tooLarge message.length Frame.defaultLimit)), l.client) := by
    unfold ClientLink.send
    rw [if_neg (by simp [h.client.notClosed]), h.client.isOpen, show (⟨FrameKind.message, message⟩ :
      Frame) = .ofMessage message from rfl,
      Connection.send_of_large h.client.tidy.sendLimit hlarge]
  rw [SimulatedLink.send, h.client.pump_of_nothing, hclient]

/-- The first message that waits is received. -/
theorem Holding.receive {message : Bytes} (h : l.Holding simulator (message :: messages))
    (timeout : Duration) :
    ∃ l', l.receive timeout = (.ok message, l') ∧ l'.Holding simulator messages := by
  obtain ⟨client, hreceive, hclient⟩ := h.client.receive timeout
  refine ⟨{ l with client := client }, ?_, hclient, h.device⟩
  rw [SimulatedLink.receive, hreceive]

theorem Holding.receive_nothing (h : l.Holding simulator []) (timeout : Duration) :
    l.receive timeout = (.error (.timeout timeout), l) := by
  rw [SimulatedLink.receive, h.client.receive_nothing timeout]

theorem Holding.setCapacity (h : l.Holding simulator messages) (capacity : Nat) :
    (l.setCapacity capacity).Holding simulator messages :=
  ⟨h.client.setCapacity capacity, h.device⟩

theorem Holding.putBack_nothing (h : l.Holding simulator messages) :
    (l.putBack []).Holding simulator messages :=
  ⟨⟨h.client.pumping, h.client.isOpen, h.client.notClosed, h.client.tidy, h.client.waiting⟩, h.device⟩

theorem Holding.takeSteps (h : l.Holding simulator messages) {fuel : Nat}
    (hfuel : messages.length < fuel) :
    ∃ l', l.takeSteps fuel = (messages, .quiet, l') ∧ l'.Holding simulator [] := by
  induction fuel generalizing messages l with
  | zero => cases hfuel
  | succ fuel ih =>
    cases messages with
    | nil =>
      refine ⟨l, ?_, h⟩
      rw [SimulatedLink.takeSteps, h.receive_nothing]
    | cons message messages =>
      obtain ⟨next, hreceive, hnext⟩ := h.receive .zero
      obtain ⟨after, htake, hafter⟩ := ih hnext (Nat.lt_of_succ_lt_succ hfuel)
      refine ⟨after, ?_, hafter⟩
      rw [SimulatedLink.takeSteps, hreceive]
      simp only [htake]

theorem length_le_messageOctets (messages : List Bytes) :
    messages.length ≤ (messageOctets messages).length := by
  induction messages with
  | nil => exact Nat.le_refl _
  | cons message messages ih =>
    rw [messageOctets_cons, List.length_append, Frame.length_octets, Frame.headerSize,
      List.length_cons]
    omega

/-- **All messages that wait can be taken**, and then the link is at rest. -/
theorem Holding.takeAll (h : l.Holding simulator messages) :
    ∃ l', l.takeAll = (messages, .quiet, l') ∧ l'.Holding simulator [] := by
  refine h.takeSteps ?_
  obtain ⟨rest, hmessages, hinflow, -⟩ := h.client.waiting
  have hrest := length_le_messageOctets rest
  have hpending : (messageOctets rest).length ≤ l.client.connection.pending := by
    have hbound := l.client.connection.length_inflow_le
    rw [hinflow] at hbound
    exact hbound
  rw [← hmessages, List.length_append]
  omega

/-! ## 5. A link that is made -/

/-- What a listener makes of what has come to it. -/
theorem accept_eq (own : Connection) :
    ({} : Listener).accept none noTime own =
      match Link.serve ("session-" ++ toString 1) {} noTime (({} : LinkConfig).greeting own) with
      | (.error e, c) => (.error e, c, { nextSession := 2 })
      | (.ok e, c) =>
        (.ok ⟨e.identity, e.session, c.withLimit Frame.defaultLimit, false⟩,
          c.withLimit Frame.defaultLimit, { nextSession := 2 }) := rfl

/-- What has come to a listener is all that it reads. -/
theorem inflow_accepted (octets : Bytes) :
    (({} : LinkConfig).greeting (Connection.opened.arrive octets)).inflow = ⟨octets, none⟩ := by
  have hopened : Connection.opened.inflow = ⟨[], none⟩ := rfl
  have harrived : (Connection.opened.arrive octets).inflow = ⟨octets, none⟩ := by
    rw [Connection.inflow_arrive (by rw [hopened]), hopened]
    rfl
  rw [← harrived]
  rfl

/-- Nothing has been sent on a connection that is just accepted. -/
theorem device_accepted (octets : Bytes) :
    (({} : LinkConfig).greeting (Connection.opened.arrive octets)).device = {} := by
  show (Connection.opened.arrive octets).device = {}
  unfold Connection.arrive
  split <;> rfl

/-- A listener to which a greeting has come turns the client away, or answers and has a link at rest. -/
theorem answer_cases {identity : String} {config : Link.HandshakeConfig} {c : Connection}
    (hsaid : c.device.accepted = (Link.greetingFrame identity config).octets)
    (hfits : (Link.greetingFrame identity config).payload.length ≤ 16 * 1024) :
    (∃ e l c', ({} : Listener).answer none c false = (.error e, l, c')) ∨
      ∃ link l answer, ({} : Listener).answer none c false =
          (.ok link, l, c.takeSent.2.arrive (⟨FrameKind.hello, answer⟩ : Frame).octets) ∧
        answer.length ≤ 16 * 1024 ∧ link.closed = false ∧ link.connection.Tidy ∧
        link.connection.inflow = ⟨[], none⟩ := by
  have harrived : (({} : LinkConfig).greeting (Connection.opened.arrive c.device.accepted)).inflow =
      ⟨(Link.greetingFrame identity config).octets ++ [], none⟩ := by
    rw [inflow_accepted, hsaid, List.append_nil]
  have hdevice := device_accepted c.device.accepted
  have hsound : (({} : LinkConfig).greeting
      (Connection.opened.arrive c.device.accepted)).device.Sound := hdevice ▸ Device.sound_default
  obtain ⟨buffer, reads, hreceive, hinflow⟩ := Link.receiveHello_of_frame
    (show noTime 0 < ({} : Link.HandshakeConfig).timeout by decide) hfits hfits
    (Nat.le_trans hfits (by decide)) (congrArg Inflow.octets harrived)
  have htaken : c.takeSent.1 = c.device.accepted := rfl
  unfold Listener.answer carry
  simp only [Bool.false_eq_true, if_false, accept_eq, htaken]
  rcases Link.serve_cases ("session-" ++ toString 1) {} noTime hsound with
    ⟨⟨e, hserve⟩, -⟩ | ⟨payload, greeting, c', device, hreceive', haccept, hsession, hserve, hsound',
      haccepted, hanswer, -⟩
  · generalize Link.serve ("session-" ++ toString 1) {} noTime _ = served at hserve
    obtain ⟨result, own⟩ := served
    obtain rfl : result = .error e := hserve
    exact .inl ⟨_, _, _, rfl⟩
  · rw [hreceive] at hreceive'
    obtain ⟨-, rfl⟩ := Prod.mk.inj hreceive'
    rw [hserve]
    rw [harrived] at hinflow
    have hanswered : device.accepted =
        (Link.answerFrame greeting.identity ("session-" ++ toString 1) {}).octets := by
      rw [haccepted, hdevice]
      rfl
    have hsize : (Link.answerFrame greeting.identity ("session-" ++ toString 1) {}).payload.length ≤
        16 * 1024 := hanswer
    refine .inr ⟨⟨greeting.identity, "session-" ++ toString 1, (Connection.withLimit
        { (({} : LinkConfig).greeting (Connection.opened.arrive c.device.accepted)).read buffer reads
          with device := device } Frame.defaultLimit).takeSent.2, false⟩, { nextSession := 2 },
      (Link.answerFrame greeting.identity ("session-" ++ toString 1) {}).payload, ?_, hsize, rfl,
      ⟨⟨hsound'.writes, hsound'.flushes⟩, rfl, rfl, rfl⟩, hinflow⟩
    show (Except.ok _, _, c.takeSent.2.arrive device.accepted) = _
    rw [hanswered]
    rfl

/-- **A link is at rest when it is made.** -/
theorem holding_of_connect {identity : String} {config : LinkConfig}
    (hlimit : config.maxPayload = Frame.defaultLimit)
    (h : connect simulator identity config = .ok l) : l.Holding simulator [] := by
  unfold connect at h
  rcases Link.greet_of_sound identity config.handshake (c := config.greeting .opened)
      Device.sound_default with ⟨device, hgreet, hsound, haccepted, hfits, -⟩ | ⟨e, hgreet⟩
  · rw [hgreet] at h
    simp only at h
    rcases answer_cases (c := { config.greeting .opened with device := device }) haccepted hfits with
      ⟨e, listener, c, hanswer⟩ | ⟨link, listener, answer, hanswer, hsize, hopen, htidy, hidle⟩
    · rw [hanswer] at h
      simp only at h
      generalize Link.finish identity config.handshake noTime c = finished at h
      obtain ⟨_ | established, c⟩ := finished <;> cases h
    · rw [hanswer] at h
      simp only at h
      have hquiet : (Connection.takeSent
          { config.greeting .opened with device := device }).2.inflow = ⟨[], none⟩ := rfl
      have harrived : ((Connection.takeSent { config.greeting .opened with device := device }).2.arrive
          (⟨FrameKind.hello, answer⟩ : Frame).octets).inflow =
            ⟨(⟨FrameKind.hello, answer⟩ : Frame).octets ++ [], none⟩ := by
        rw [Connection.inflow_arrive (by rw [hquiet]), hquiet, List.append_nil]
        rfl
      obtain ⟨arrived, harrive⟩ := (Connection.takeSent
        { config.greeting .opened with device := device }).2.arrive_eq
          (⟨FrameKind.hello, answer⟩ : Frame).octets
      rw [harrive] at h harrived
      by_cases htime : Duration.zero < config.connectTimeout
      · obtain ⟨buffer, reads, hreceive, hinflow⟩ := Link.receiveHello_of_frame
          (show noTime 0 < config.handshake.timeout from htime) hsize hsize
          (Nat.le_trans hsize (by decide)) (congrArg Inflow.octets harrived)
        rw [Link.finish, hreceive] at h
        simp only at h
        cases haccept : Link.acceptAnswer identity config.handshake answer with
        | error e =>
          rw [haccept] at h
          cases h
        | ok established =>
          rw [haccept] at h
          obtain rfl := Except.ok.inj h
          rw [harrived] at hinflow
          exact ⟨⟨rfl, rfl, rfl, ⟨⟨hsound.writes, hsound.flushes⟩, rfl, hlimit, hlimit⟩, [], rfl,
            hinflow, fun _ h => absurd h List.not_mem_nil⟩, rfl, rfl, hopen, htidy, hidle⟩
      · have hover : config.handshake.timeout ≤ noTime 0 := Nat.le_of_not_lt htime
        rw [Link.finish, Link.receiveHello, Link.awaitHello, if_pos hover] at h
        cases h
  · rw [hgreet] at h
    cases h

end SimulatedLink

end Readout

/-
# The two sides come to terms together

A client and a device exchange greetings, each of them reading what the other has sent.  However the
octets are cut on the way, the client comes to terms only with a device that has come to terms with it,
and both know the same of each other.

* `acceptGreeting_eq_ok_iff`, `acceptAnswer_eq_ok_iff` -- what each side takes for good;
* `awaitHello_spec` -- a greeting that is received is a frame in front of what has come;
* `serve_cases`, `greet_cases`, `greet_of_sound` -- what each side leaves on the connection;
* `Encounter.handshake_sound` -- a client that succeeds agrees with a device that did.

The converse has a gap.  The device does not look at the length of its own version, which the client
does: `Encounter.established_on_both_iff` says that this is the only one, and `half_open` is a case of it.
-/
import Readout.Link.Handshake
import Readout.Proofs.FrameSending
import Readout.Proofs.Greetings
import Readout.Proofs.Inflow
import Readout.Proofs.Results

namespace Readout.Link

open ReadStep (octetsIn)

/-! ## 1. What is checked -/

theorem refuse_eq_ok_iff {α : Type} {x : Except Refusal α} {a : α} :
    refuse x = .ok a ↔ x = .ok a := by
  cases x <;> simp [refuse]

theorem readVersion_eq_ok_iff {version : String} {numbers : Nat × Nat} :
    readVersion version = .ok numbers ↔ versionNumbers version = .ok numbers := by
  unfold readVersion
  exact mapError_eq_ok_iff

theorem checkVersionText_eq_ok_iff {version : String} :
    checkVersionText version = .ok () ↔
      fits maxVersion version = true ∧ ∃ numbers, versionNumbers version = .ok numbers := by
  unfold checkVersionText
  split
  · rename_i hfits
    simp only [hfits, true_and, ← readVersion_eq_ok_iff]
    cases readVersion version <;> simp [Except.map]
  · rename_i hfits
    simp [hfits]

theorem checkIdentity_eq_ok_iff {identity : String} :
    checkIdentity identity = .ok () ↔ fits maxIdentity identity = true := by
  unfold checkIdentity
  split <;> simp [*]

theorem checkSession_eq_ok_iff {session : String} :
    checkSession session = .ok () ↔ fits maxSession session = true := by
  unfold checkSession
  split <;> simp [*]

theorem checkProtocolName_eq_ok_iff {protocol : String} :
    checkProtocolName protocol = .ok () ↔ fits maxProtocol protocol = true := by
  unfold checkProtocolName
  split <;> simp [*]

theorem checkProtocol_eq_ok_iff {own remote : String} :
    checkProtocol own remote = .ok () ↔ fits maxProtocol remote = true ∧ own = remote := by
  unfold checkProtocol
  rw [check_eq_ok_iff, checkProtocolName_eq_ok_iff]
  simp

/-- Two versions with the same first number. -/
def SameMajor (own remote : String) : Prop :=
  ∃ major minor minor', versionNumbers own = .ok (major, minor) ∧
    versionNumbers remote = .ok (major, minor')

theorem SameMajor.symm {own remote : String} (h : SameMajor own remote) : SameMajor remote own := by
  obtain ⟨major, minor, minor', hown, hremote⟩ := h
  exact ⟨major, minor', minor, hremote, hown⟩

theorem checkVersion_eq_ok_iff {own remote : String} :
    checkVersion own remote = .ok () ↔ fits maxVersion remote = true ∧ SameMajor own remote := by
  unfold checkVersion SameMajor
  rw [check_eq_ok_iff, checkVersionText_eq_ok_iff]
  simp only [bind_eq_ok_iff, readVersion_eq_ok_iff]
  constructor
  · rintro ⟨⟨hfits, -⟩, ⟨major, minor⟩, hown, ⟨major', minor'⟩, hremote, hsame⟩
    simp only at hsame
    split at hsame
    · rename_i heq
      subst heq
      exact ⟨hfits, major, minor, minor', hown, hremote⟩
    · cases hsame
  · rintro ⟨hfits, major, minor, minor', hown, hremote⟩
    exact ⟨⟨hfits, _, hremote⟩, _, hown, _, hremote, if_pos rfl⟩

/-- What a client has to be able to say of itself. -/
structure Presentable (identity : String) (config : HandshakeConfig) : Prop where
  identity : fits maxIdentity identity = true
  protocol : fits maxProtocol config.protocol = true
  version : fits maxVersion config.version = true
  numbers : ∃ numbers, versionNumbers config.version = .ok numbers

theorem checkOwn_eq_ok_iff {identity : String} {config : HandshakeConfig} :
    checkOwn identity config = .ok () ↔ Presentable identity config := by
  unfold checkOwn
  rw [check_eq_ok_iff, check_eq_ok_iff, checkIdentity_eq_ok_iff, checkProtocolName_eq_ok_iff,
    checkVersionText_eq_ok_iff]
  exact ⟨fun ⟨hidentity, hprotocol, hversion, hnumbers⟩ => ⟨hidentity, hprotocol, hversion, hnumbers⟩,
    fun h => ⟨h.identity, h.protocol, h.version, h.numbers⟩⟩

variable {identity session : String} {own theirs config : HandshakeConfig}

/-- The frame that a client sends. -/
def greetingFrame (identity : String) (config : HandshakeConfig) : Frame :=
  ⟨FrameKind.hello, ClientHello.write ⟨config.protocol, config.version, identity⟩⟩

/-- The frame that a device sends to a client of some identity. -/
def answerFrame (identity session : String) (config : HandshakeConfig) : Frame :=
  ⟨FrameKind.hello, ServerHello.write ⟨config.protocol, config.version, identity, session⟩⟩

/-- **Which greeting a device answers.** -/
theorem acceptGreeting_eq_ok_iff {greeting : ClientHello} :
    acceptGreeting theirs (greetingFrame identity own).payload = .ok greeting ↔
      greeting = ⟨own.protocol, own.version, identity⟩ ∧ fits maxIdentity identity = true ∧
        (fits maxProtocol own.protocol = true ∧ theirs.protocol = own.protocol) ∧
        fits maxVersion own.version = true ∧ SameMajor theirs.version own.version := by
  unfold acceptGreeting greetingFrame
  rw [ClientHello.read_write, bind_eq_ok_iff]
  simp only [mapError_ok, Except.ok.injEq, exists_eq_left', refuse_eq_ok_iff]
  rw [check_eq_ok_iff, check_eq_ok_iff, check_eq_ok_iff, checkIdentity_eq_ok_iff,
    checkProtocol_eq_ok_iff, checkVersion_eq_ok_iff]
  simp only [pure, Except.pure, Except.ok.injEq]
  constructor
  · rintro ⟨hidentity, hprotocol, hversion, rfl⟩
    exact ⟨rfl, hidentity, hprotocol, hversion⟩
  · rintro ⟨rfl, hidentity, hprotocol, hversion⟩
    exact ⟨hidentity, hprotocol, hversion, rfl⟩

/-- **Which answer a client takes for good.** -/
theorem acceptAnswer_eq_ok_iff {identity' : String} {result : Established} :
    acceptAnswer identity own (answerFrame identity' session theirs).payload = .ok result ↔
      result = ⟨identity', session, theirs.version⟩ ∧
        (fits maxProtocol theirs.protocol = true ∧ own.protocol = theirs.protocol) ∧
        (fits maxVersion theirs.version = true ∧ SameMajor own.version theirs.version) ∧
        fits maxSession session = true ∧ identity' = identity := by
  unfold acceptAnswer answerFrame
  rw [ServerHello.read_write, bind_eq_ok_iff]
  simp only [mapError_ok, Except.ok.injEq, exists_eq_left', refuse_eq_ok_iff]
  rw [check_eq_ok_iff, check_eq_ok_iff, check_eq_ok_iff, checkProtocol_eq_ok_iff,
    checkVersion_eq_ok_iff, checkSession_eq_ok_iff]
  have hlast : (if identity' ≠ identity then do
        throw (Refusal.otherIdentity identity' identity)
        pure (⟨identity', session, theirs.version⟩ : Established)
      else pure ⟨identity', session, theirs.version⟩ : Except Refusal Established) = .ok result ↔
      identity' = identity ∧ result = ⟨identity', session, theirs.version⟩ := by
    by_cases hidentity : identity' = identity
    · simp [hidentity, pure, Except.pure, eq_comm]
    · simp [hidentity, throw, throwThe, MonadExceptOf.throw, bind, Except.bind]
  constructor
  · rintro ⟨hprotocol, hversion, hsession, hresult⟩
    obtain ⟨rfl, rfl⟩ := hlast.mp hresult
    exact ⟨rfl, hprotocol, hversion, hsession, rfl⟩
  · rintro ⟨rfl, hprotocol, hversion, hsession, rfl⟩
    exact ⟨hprotocol, hversion, hsession, hlast.mpr ⟨rfl, rfl⟩⟩

/-! ## 2. Waiting for a greeting -/

/-- **A greeting that is received is a frame in front of what has come**, and receiving leaves alone what
the connection sends. -/
theorem awaitHello_spec (config : HandshakeConfig) (elapsed : Nat → Duration) (fuel attempt : Nat)
    (c : Connection) :
    (awaitHello config elapsed fuel attempt c).2.device = c.device ∧
      (awaitHello config elapsed fuel attempt c).2.sendLimit = c.sendLimit ∧
      ∀ payload, (awaitHello config elapsed fuel attempt c).1 = .ok payload →
        payload.length ≤ Frame.maxLength ∧
          ∃ more, c.outstanding = (⟨FrameKind.hello, payload⟩ : Frame).octets ++ more := by
  induction fuel generalizing attempt c with
  | zero => exact ⟨rfl, rfl, fun _ h => nomatch h⟩
  | succ fuel ih =>
    unfold awaitHello
    split
    · exact ⟨rfl, rfl, fun _ h => nomatch h⟩
    · have hreceived := c.received
      generalize c.receive? = outcome at hreceived
      cases hreceived with
      | nothing => exact ⟨rfl, rfl, fun _ h => nomatch h⟩
      | @frame f buffer reads readable _ _ outstanding =>
        refine ⟨rfl, rfl, fun payload hpayload => ?_⟩
        have hframe : f = ⟨FrameKind.hello, payload⟩ := by
          have hpayload := refuse_eq_ok_iff.mp hpayload
          unfold helloPayload at hpayload
          split at hpayload
          · cases hpayload
          · rename_i hkind
            split at hpayload
            · cases hpayload
            · rw [← Except.ok.inj hpayload, ← Decidable.not_not.mp hkind]
        subst hframe
        exact ⟨readable.sayable, _, outstanding⟩
      | @failure e buffer reads _ outstanding =>
        obtain ⟨hdevice, hlimit, hmore⟩ := ih (attempt + 1) (c.read buffer reads)
        rw [outstanding]
        cases e with
        | closed => exact ⟨rfl, rfl, fun _ h => nomatch h⟩
        | badMark => exact ⟨rfl, rfl, fun _ h => nomatch h⟩
        | unknownKind kind => exact ⟨rfl, rfl, fun _ h => nomatch h⟩
        | tooLarge size limit => exact ⟨rfl, rfl, fun _ h => nomatch h⟩
        | io source =>
          simp only
          split
          · exact ⟨hdevice, hlimit, hmore⟩
          · exact ⟨rfl, rfl, fun _ h => nomatch h⟩

theorem receiveHello_spec {config : HandshakeConfig} {elapsed : Nat → Duration} {c c' : Connection}
    {payload : Bytes} (h : receiveHello config elapsed c = (.ok payload, c')) :
    payload.length ≤ Frame.maxLength ∧
      ∃ more, c.outstanding = (⟨FrameKind.hello, payload⟩ : Frame).octets ++ more :=
  (awaitHello_spec config elapsed (c.reads.length + 1) 0 c).2.2 payload (congrArg Prod.fst h)

/-- A greeting that comes in time, and before any read fails, is received. -/
theorem receiveHello_of_frame {elapsed : Nat → Duration} {c : Connection} {payload more : Bytes}
    (htime : elapsed 0 < config.timeout) (hsize : payload.length ≤ config.maxHello)
    (hlimit : payload.length ≤ c.reader.limit) (hmax : payload.length ≤ Frame.maxLength)
    (h : c.inflow.octets = (⟨FrameKind.hello, payload⟩ : Frame).octets ++ more) :
    ∃ buffer reads, receiveHello config elapsed c = (.ok payload, c.read buffer reads) ∧
      (c.read buffer reads).inflow = ⟨more, c.inflow.ending⟩ := by
  have hreadable : (⟨FrameKind.hello, payload⟩ : Frame).Readable c.reader.limit :=
    ⟨rfl, hlimit, hmax⟩
  obtain ⟨buffer, reads, hreceive, hinflow, -⟩ := Connection.receive?_of_frame hreadable h
  have hpayload : helloPayload config ⟨FrameKind.hello, payload⟩ = .ok payload := by
    simp [helloPayload, Nat.not_lt.mpr hsize]
  have hleft : ¬ config.timeout ≤ elapsed 0 := Nat.not_le.mpr htime
  refine ⟨buffer, reads, ?_, hinflow⟩
  rw [receiveHello, awaitHello, if_neg hleft, hreceive]
  simp only [hpayload, refuse]

/-! ## 3. What each side says -/

/-- On a device on which no write fails for good, a greeting is sent whole or not at all. -/
theorem sendHello_of_sound {c : Connection} (hsound : c.device.Sound) (octets : Bytes) :
    (∃ device, sendHello c octets = (.ok (), { c with device := device }) ∧ device.Sound ∧
        device.accepted = c.device.accepted ++ (⟨FrameKind.hello, octets⟩ : Frame).octets ∧
        octets.length ≤ c.sendLimit ∧ octets.length ≤ Frame.maxLength) ∨
      ∃ e, sendHello c octets = (.error e, c) := by
  unfold sendHello Connection.send
  rcases Device.send_of_sound hsound c.sendLimit ⟨FrameKind.hello, octets⟩ with
    ⟨hok, hafter, haccepted, hlimit, hmax⟩ | ⟨most, -, -, hsend⟩
  · generalize c.device.send c.sendLimit _ = sent at hok hafter haccepted
    obtain ⟨result, device⟩ := sent
    obtain rfl : result = .ok () := hok
    exact .inl ⟨device, rfl, hafter, haccepted, hlimit, hmax⟩
  · rw [hsend]
    exact .inr ⟨_, rfl⟩

/-- **A device that does not come to terms says nothing**; one that does has received a greeting that it
accepts, and leaves its answer. -/
theorem serve_cases (session : String) (config : HandshakeConfig) (elapsed : Nat → Duration)
    {c : Connection} (hsound : c.device.Sound) :
    ((∃ e, (serve session config elapsed c).1 = .error e) ∧
        (serve session config elapsed c).2.device = c.device) ∨
      ∃ payload greeting c' device,
        receiveHello config elapsed c = (.ok payload, c') ∧
        acceptGreeting config payload = .ok greeting ∧ fits maxSession session = true ∧
        serve session config elapsed c =
          (.ok ⟨greeting.identity, session, greeting.version⟩, { c' with device := device }) ∧
        device.Sound ∧
        device.accepted =
          c.device.accepted ++ (answerFrame greeting.identity session config).octets ∧
        (answerFrame greeting.identity session config).payload.length ≤ c.sendLimit ∧
        (answerFrame greeting.identity session config).payload.length ≤ Frame.maxLength := by
  obtain ⟨hdevice, hlimit, -⟩ := awaitHello_spec config elapsed (c.reads.length + 1) 0 c
  rw [← receiveHello] at hdevice hlimit
  unfold serve
  cases hsession : checkSession session with
  | error r => exact .inl ⟨⟨_, rfl⟩, rfl⟩
  | ok =>
    generalize receiveHello config elapsed c = received at *
    obtain ⟨e | payload, c'⟩ := received
    · exact .inl ⟨⟨e, rfl⟩, hdevice⟩
    · simp only at hdevice hlimit ⊢
      cases haccept : acceptGreeting config payload with
      | error e => exact .inl ⟨⟨e, rfl⟩, hdevice⟩
      | ok greeting =>
        rw [← hdevice] at hsound ⊢
        rw [← hlimit]
        rcases sendHello_of_sound hsound
            (ServerHello.write ⟨config.protocol, config.version, greeting.identity, session⟩) with
          ⟨device, hsend, hafter, haccepted, hfits, hmax⟩ | ⟨e, hsend⟩
        · simp only [hsend]
          exact .inr ⟨payload, greeting, c', device, rfl, haccept,
            checkSession_eq_ok_iff.mp hsession, rfl, hafter, haccepted, hfits, hmax⟩
        · exact .inl ⟨⟨e, by simp only [hsend]⟩, by simp only [hsend]⟩

theorem sendHello_snd (c : Connection) (octets : Bytes) :
    (sendHello c octets).2 =
      { c with device := (c.device.send c.sendLimit ⟨FrameKind.hello, octets⟩).2 } := by
  unfold sendHello Connection.send
  generalize c.device.send c.sendLimit _ = sent
  obtain ⟨_ | ⟨⟩, device⟩ := sent <;> rfl

/-- **A client leaves its greeting or a part of it**, or nothing; what has come stays where it is. -/
theorem greet_cases (identity : String) (config : HandshakeConfig) (c : Connection) :
    ∃ device, (greet identity config c).2 = { c with device := device } ∧
      ∃ taken left, (greetingFrame identity config).octets = taken ++ left ∧
        device.accepted = c.device.accepted ++ taken ∧
        (taken ≠ [] → (greetingFrame identity config).payload.length ≤ Frame.maxLength) := by
  unfold greet
  cases checkOwn identity config with
  | error r => exact ⟨c.device, rfl, [], _, rfl, (List.append_nil _).symm, fun h => absurd rfl h⟩
  | ok =>
    obtain ⟨taken, left, hoctets, haccepted, -, hfits⟩ :=
      c.device.send_octets c.sendLimit (greetingFrame identity config)
    unfold greetingFrame at *
    exact ⟨_, sendHello_snd c _, taken, left, hoctets, haccepted, fun h => (hfits h).2⟩

theorem greet_of_not_presentable {c : Connection} (h : ¬ Presentable identity config) :
    (greet identity config c).2 = c := by
  unfold greet
  cases hown : checkOwn identity config with
  | error r => rfl
  | ok => exact absurd (checkOwn_eq_ok_iff.mp hown) h

/-- On a device on which no write fails for good, a client greets, or says nothing. -/
theorem greet_of_sound (identity : String) (config : HandshakeConfig) {c : Connection}
    (hsound : c.device.Sound) :
    (∃ device, greet identity config c = (.ok (), { c with device := device }) ∧ device.Sound ∧
        device.accepted = c.device.accepted ++ (greetingFrame identity config).octets ∧
        (greetingFrame identity config).payload.length ≤ c.sendLimit ∧
        (greetingFrame identity config).payload.length ≤ Frame.maxLength) ∨
      ∃ e, greet identity config c = (.error e, c) := by
  unfold greet
  cases checkOwn identity config with
  | error r => exact .inr ⟨_, rfl⟩
  | ok => exact sendHello_of_sound hsound _

theorem client_device (identity : String) (config : HandshakeConfig) (elapsed : Nat → Duration)
    (c : Connection) :
    (client identity config elapsed c).2.device = (greet identity config c).2.device := by
  unfold client
  generalize greet identity config c = greeted
  obtain ⟨_ | ⟨⟩, c'⟩ := greeted
  · rfl
  · obtain ⟨hdevice, -, -⟩ := awaitHello_spec config elapsed (c'.reads.length + 1) 0 c'
    simp only [finish, receiveHello]
    rw [← hdevice]
    generalize awaitHello config elapsed (c'.reads.length + 1) 0 c' = received
    obtain ⟨_ | payload, c''⟩ := received <;> rfl

/-- A client that comes to terms has an answer that it accepts in front of what has come. -/
theorem client_eq_ok {elapsed : Nat → Duration} {c : Connection} {result : Established}
    (h : (client identity config elapsed c).1 = .ok result) :
    ∃ payload more, payload.length ≤ Frame.maxLength ∧
      c.outstanding = (⟨FrameKind.hello, payload⟩ : Frame).octets ++ more ∧
      acceptAnswer identity config payload = .ok result := by
  obtain ⟨device, hafter, -⟩ := greet_cases identity config c
  unfold client at h
  generalize greet identity config c = greeted at h hafter
  obtain ⟨_ | ⟨⟩, c'⟩ := greeted
  · cases h
  · obtain rfl : c' = { c with device := device } := hafter
    simp only [finish] at h
    cases hreceive : receiveHello config elapsed { c with device := device } with
    | mk received c'' =>
      rw [hreceive] at h
      cases received with
      | error e => cases h
      | ok payload =>
        obtain ⟨hmax, more, houtstanding⟩ := receiveHello_spec hreceive
        exact ⟨payload, more, hmax, houtstanding, h⟩

/-! ## 4. Both sides -/

/-- A client and a device at the two ends of a connection, and what has come to each of them. -/
structure Encounter where
  /-- Who the client is. -/
  identity : String
  /-- The label that the device gives to the session. -/
  session : String
  /-- The client's settings. -/
  own : HandshakeConfig := {}
  /-- The device's settings. -/
  theirs : HandshakeConfig := {}
  clientTime : Nat → Duration := fun _ => ⟨0⟩
  serverTime : Nat → Duration := fun _ => ⟨0⟩
  /-- The client's end. -/
  near : Connection
  /-- The device's end. -/
  far : Connection

namespace Encounter

/-- The client's part. -/
def client (m : Encounter) : Except LinkError Established × Connection :=
  Link.client m.identity m.own m.clientTime m.near

/-- The device's part. -/
def server (m : Encounter) : Except LinkError Established × Connection :=
  serve m.session m.theirs m.serverTime m.far

/-- The two ends belong together: nothing was said before, and what has come to either end, in whatever
pieces, is what the other has said up to some point.  The device's writes do not fail for good. -/
structure Joined (m : Encounter) : Prop where
  nearSilent : m.near.device.accepted = []
  farSilent : m.far.device.accepted = []
  nearFresh : m.near.reader.buffer = []
  farFresh : m.far.reader.buffer = []
  toServer : octetsIn m.far.reads <+: m.client.2.device.accepted
  toClient : octetsIn m.near.reads <+: m.server.2.device.accepted
  sound : m.far.device.Sound

variable {m : Encounter}

/-- The device's end, after all: it has said nothing, or it has come to terms with this client. -/
theorem server_cases (h : m.Joined) :
    ((∃ e, m.server.1 = .error e) ∧ m.server.2.device.accepted = []) ∨
      (m.server.1 = .ok ⟨m.identity, m.session, m.own.version⟩ ∧
        acceptGreeting m.theirs (greetingFrame m.identity m.own).payload =
          .ok ⟨m.own.protocol, m.own.version, m.identity⟩ ∧
        m.client.2.device.accepted ≠ [] ∧ fits maxSession m.session = true ∧
        (answerFrame m.identity m.session m.theirs).payload.length ≤ Frame.maxLength ∧
        m.server.2.device.accepted = (answerFrame m.identity m.session m.theirs).octets) := by
  rcases serve_cases m.session m.theirs m.serverTime h.sound with
    ⟨hserver, hdevice⟩ | ⟨payload, greeting, c, device, hreceive, haccept, hsession, hserver, -,
      haccepted, -, hanswer⟩
  · exact .inl ⟨hserver, (congrArg Device.accepted hdevice).trans h.farSilent⟩
  · -- what the device has read is what the client has said
    obtain ⟨hmax, more, houtstanding⟩ := receiveHello_spec hreceive
    obtain ⟨after, hreads⟩ := h.toServer
    rw [Connection.outstanding, h.farFresh, List.nil_append] at houtstanding
    have hheard : m.client.2.device.accepted ≠ [] := by
      rw [← hreads, houtstanding]
      exact fun hnil => Frame.octets_ne_nil _
        (List.append_eq_nil_iff.mp (List.append_eq_nil_iff.mp hnil).1).1
    have hframe : (⟨FrameKind.hello, payload⟩ : Frame) = greetingFrame m.identity m.own := by
      obtain ⟨device, hafter, taken, left, hoctets, htaken, hfits⟩ :=
        greet_cases m.identity m.own m.near
      have hdevice : m.client.2.device = device := by
        rw [client, client_device, hafter]
      have hsaid : m.client.2.device.accepted = taken := by
        rw [hdevice, htaken, h.nearSilent, List.nil_append]
      have hsize := hfits (hsaid ▸ hheard)
      rw [hsaid, houtstanding, List.append_assoc] at hreads
      have hsame : (⟨FrameKind.hello, payload⟩ : Frame).octets ++ (more ++ after ++ left) =
          (greetingFrame m.identity m.own).octets ++ [] := by
        simp only [hoctets, ← hreads, List.append_assoc, List.append_nil]
      exact Frame.eq_of_octets_append ⟨rfl, hmax, hmax⟩
        ⟨rfl, hsize, hsize⟩ hsame
    have hpayload : payload = (greetingFrame m.identity m.own).payload :=
      congrArg Frame.payload hframe
    rw [hpayload] at haccept
    obtain ⟨rfl, -⟩ := acceptGreeting_eq_ok_iff.mp haccept
    refine .inr ⟨congrArg Prod.fst hserver, haccept, hheard, hsession, hanswer, ?_⟩
    rw [server, hserver, haccepted, h.farSilent, List.nil_append]

/-- **A client that comes to terms agrees with a device that did.** -/
theorem agreed (h : m.Joined) {result : Established} (hok : m.client.1 = .ok result) :
    m.server.1 = .ok ⟨m.identity, m.session, m.own.version⟩ ∧
      acceptAnswer m.identity m.own (answerFrame m.identity m.session m.theirs).payload =
        .ok result := by
  obtain ⟨payload, more, hmax, houtstanding, haccept⟩ := client_eq_ok hok
  obtain ⟨after, hreads⟩ := h.toClient
  rw [Connection.outstanding, h.nearFresh, List.nil_append] at houtstanding
  rw [houtstanding] at hreads
  rcases server_cases h with ⟨-, hsilent⟩ | ⟨hserver, -, -, -, hanswer, hsaid⟩
  · rw [hsilent] at hreads
    exact absurd (List.append_eq_nil_iff.mp (List.append_eq_nil_iff.mp hreads).1).1
      (Frame.octets_ne_nil _)
  · rw [hsaid, List.append_assoc, ← List.append_nil (Frame.octets (answerFrame _ _ _))] at hreads
    have hframe := Frame.eq_of_octets_append ⟨rfl, hmax, hmax⟩
      ⟨rfl, hanswer, hanswer⟩ hreads
    have hpayload : payload = (answerFrame m.identity m.session m.theirs).payload :=
      congrArg Frame.payload hframe
    exact ⟨hserver, hpayload ▸ haccept⟩

/-- **The handshake is sound.**  A client that comes to terms has met a device that did; each of them
knows the identity and the session, and the version that the other speaks, and both speak the same
protocol with the same first number of the version.  A device that does not come to terms says nothing,
and neither does a client that cannot say what it is. -/
theorem handshake_sound (m : Encounter) (h : m.Joined) :
    (∀ result, m.client.1 = .ok result →
      result = ⟨m.identity, m.session, m.theirs.version⟩ ∧
        m.server.1 = .ok ⟨m.identity, m.session, m.own.version⟩ ∧
        m.own.protocol = m.theirs.protocol ∧ SameMajor m.own.version m.theirs.version) ∧
      ((∀ result, m.server.1 ≠ .ok result) → m.server.2.device.accepted = []) ∧
      (¬ Presentable m.identity m.own → m.client.2.device.accepted = []) := by
  refine ⟨fun result hok => ?_, fun hnot => ?_, fun hnot => ?_⟩
  · obtain ⟨hserver, haccept⟩ := agreed h hok
    obtain ⟨hresult, ⟨-, hprotocol⟩, ⟨-, hversion⟩, -, -⟩ := acceptAnswer_eq_ok_iff.mp haccept
    exact ⟨hresult, hserver, hprotocol, hversion⟩
  · rcases server_cases h with ⟨-, hsilent⟩ | ⟨hserver, -⟩
    · exact hsilent
    · exact absurd hserver (hnot _)
  · rw [client, client_device, greet_of_not_presentable hnot]
    exact h.nearSilent

/-- Some octets in two reads. -/
def inTwo (octets : Bytes) : List ReadStep := [.data (octets.take 5), .data (octets.drop 5)]

/-- A client and a device to each of which comes, in two reads, what the other would like to say. -/
def introduced (identity session : String) (own theirs : HandshakeConfig) : Encounter where
  identity := identity
  session := session
  own := own
  theirs := theirs
  near := { reads := inTwo (answerFrame identity session theirs).octets }
  far := { reads := inTwo (greetingFrame identity own).octets }

theorem octetsIn_inTwo (octets : Bytes) : octetsIn (inTwo octets) = octets := by
  simp [inTwo, octetsIn, ReadStep.octets]

theorem failure?_of_mem_inTwo {octets : Bytes} (hlong : 5 < octets.length) {step : ReadStep}
    (h : step ∈ inTwo octets) : step.failure? = none := by
  have hdata : ∀ part : Bytes, part.length ≠ 0 → (ReadStep.data part).failure? = none := by
    intro part hpart
    cases part with
    | nil => exact absurd rfl hpart
    | cons octet part => rfl
  simp only [inTwo, List.mem_cons, List.not_mem_nil, or_false] at h
  rcases h with rfl | rfl
  · refine hdata _ ?_
    rw [List.length_take]
    omega
  · refine hdata _ ?_
    rw [List.length_drop]
    omega

theorem introduced_joined {identity session : String} {own theirs : HandshakeConfig}
    (hclient : (introduced identity session own theirs).client.2.device.accepted =
      (greetingFrame identity own).octets)
    (hserver : (introduced identity session own theirs).server.2.device.accepted =
      (answerFrame identity session theirs).octets) :
    (introduced identity session own theirs).Joined where
  nearSilent := rfl
  farSilent := rfl
  nearFresh := rfl
  farFresh := rfl
  toServer := by
    rw [hclient]
    exact (octetsIn_inTwo _).symm ▸ List.prefix_rfl
  toClient := by
    rw [hserver]
    exact (octetsIn_inTwo _).symm ▸ List.prefix_rfl
  sound := Device.sound_default

theorem handshake_sound_daq :
    (introduced "daq" "session-1" {} { version := "1.4" }).Joined ∧
      (introduced "daq" "session-1" {} { version := "1.4" }).client.1 =
        .ok ⟨"daq", "session-1", "1.4"⟩ ∧
      (introduced "daq" "session-1" {} { version := "1.4" }).server.1 =
        .ok ⟨"daq", "session-1", "1.0"⟩ := by
  have hjoined : (introduced "daq" "session-1" {} { version := "1.4" }).Joined :=
    introduced_joined (by decide +kernel) (by decide +kernel)
  have hclient : (introduced "daq" "session-1" {} { version := "1.4" }).client.1 =
      .ok ⟨"daq", "session-1", "1.4"⟩ := eq_ok_of_toOption (by decide +kernel)
  obtain ⟨hsound, -, -⟩ := handshake_sound _ hjoined
  exact ⟨hjoined, hclient, (hsound _ hclient).2.1⟩

/-! ## 5. The gap -/

/-- Nothing is lost and nothing comes late: all that the device says comes to the client, none of its
reads and writes fails, and there is time and room for the answer. -/
structure Undisturbed (m : Encounter) : Prop extends m.Joined where
  nearSound : m.near.device.Sound
  steady : ∀ step ∈ m.near.reads, step.failure? = none
  complete : octetsIn m.near.reads = m.server.2.device.accepted
  time : m.clientTime 0 < m.own.timeout
  room : 4096 ≤ m.own.maxHello
  limit : 4096 ≤ m.near.reader.limit

/-- A text that is a version is not empty. -/
theorem length_pos_of_versionNumbers {version : String} {numbers : Nat × Nat}
    (h : versionNumbers version = .ok numbers) : 0 < Text.Utf8.length version := by
  refine Nat.pos_of_ne_zero fun hzero => ?_
  obtain rfl : version = "" := String.utf8ByteSize_eq_zero_iff.mp hzero
  cases h

/-- **Once the device has come to terms, the client does too, unless the device's own version is too
long**: that is the one thing that the client looks at and the device does not. -/
theorem established_on_both_iff (m : Encounter) (h : m.Undisturbed) {result : Established}
    (hserver : m.server.1 = .ok result) :
    (∃ result', m.client.1 = .ok result') ↔ Text.Utf8.length m.theirs.version ≤ maxVersion := by
  rcases server_cases h.toJoined with ⟨⟨e, herror⟩, -⟩ | ⟨-, haccept, hheard, hsession, -, hsaid⟩
  · rw [herror] at hserver
    cases hserver
  obtain ⟨-, hidentity, ⟨hprotocol, hsame⟩, hown, hversion⟩ := acceptGreeting_eq_ok_iff.mp haccept
  constructor
  · rintro ⟨result', hok⟩
    obtain ⟨-, hanswer⟩ := agreed h.toJoined hok
    obtain ⟨-, -, ⟨hfits, -⟩, -, -⟩ := acceptAnswer_eq_ok_iff.mp hanswer
    simp only [fits, Bool.and_eq_true, decide_eq_true_eq] at hfits
    exact hfits.2
  · intro hshort
    have hfits : fits maxVersion m.theirs.version = true := by
      obtain ⟨major, minor, minor', hnumbers, -⟩ := hversion
      simp only [fits, Bool.and_eq_true, decide_eq_true_eq]
      exact ⟨length_pos_of_versionNumbers hnumbers, hshort⟩
    have hlength : (answerFrame m.identity m.session m.theirs).payload.length ≤ 4096 :=
      ServerHello.length_write_le (hsame ▸ hprotocol) hfits hidentity hsession
    have hanswer : acceptAnswer m.identity m.own
        (answerFrame m.identity m.session m.theirs).payload =
          .ok ⟨m.identity, m.session, m.theirs.version⟩ :=
      acceptAnswer_eq_ok_iff.mpr
        ⟨rfl, ⟨hsame ▸ hprotocol, hsame.symm⟩, ⟨hfits, hversion.symm⟩, hsession, rfl⟩
    have hinflow : m.near.inflow.octets =
        (answerFrame m.identity m.session m.theirs).octets ++ [] := by
      simp only [Connection.inflow, Inflow.ofReads_of_safe h.steady, h.nearFresh, h.complete, hsaid,
        List.nil_append, List.append_nil]
    obtain ⟨device, hgreet, -⟩ : ∃ device, greet m.identity m.own m.near =
        (.ok (), { m.near with device := device }) ∧ device.Sound := by
      rcases greet_of_sound m.identity m.own h.nearSound with ⟨device, hgreet, hsound, -⟩ | ⟨e, hsilent⟩
      · exact ⟨device, hgreet, hsound⟩
      · rw [client, client_device, hsilent] at hheard
        exact absurd h.nearSilent hheard
    obtain ⟨buffer, reads, hreceive, -⟩ := receiveHello_of_frame (c := { m.near with device := device })
      h.time (Nat.le_trans hlength h.room) (Nat.le_trans hlength h.limit)
      (Nat.le_trans hlength (by decide)) hinflow
    refine ⟨⟨m.identity, m.session, m.theirs.version⟩, ?_⟩
    rw [client, Link.client, hgreet]
    simp only [finish, hreceive]
    exact hanswer

theorem introduced_undisturbed {identity session : String} {own theirs : HandshakeConfig}
    (hclient : (introduced identity session own theirs).client.2.device.accepted =
      (greetingFrame identity own).octets)
    (hserver : (introduced identity session own theirs).server.2.device.accepted =
      (answerFrame identity session theirs).octets)
    (htime : Duration.zero < own.timeout) (hroom : 4096 ≤ own.maxHello) :
    (introduced identity session own theirs).Undisturbed where
  toJoined := introduced_joined hclient hserver
  nearSound := Device.sound_default
  steady := by
    intro step hstep
    exact failure?_of_mem_inTwo (by simp [Frame.headerSize]; omega) hstep
  complete := (octetsIn_inTwo _).trans hserver.symm
  time := htime
  room := hroom
  limit := by
    show 4096 ≤ Frame.defaultLimit
    decide

theorem established_on_both_daq :
    (introduced "daq" "session-1" {} {}).Undisturbed ∧
      (introduced "daq" "session-1" {} {}).server.1 = .ok ⟨"daq", "session-1", "1.0"⟩ ∧
      ∃ result, (introduced "daq" "session-1" {} {}).client.1 = .ok result := by
  have hundisturbed : (introduced "daq" "session-1" {} {}).Undisturbed :=
    introduced_undisturbed (by decide +kernel) (by decide +kernel) (by decide) (by decide)
  have hserver : (introduced "daq" "session-1" {} {}).server.1 =
      .ok ⟨"daq", "session-1", "1.0"⟩ := eq_ok_of_toOption (by decide +kernel)
  exact ⟨hundisturbed, hserver, (established_on_both_iff _ hundisturbed hserver).mpr (by decide)⟩

/-- **A link that is open at one end only.**  The device comes to terms and says a version of 17 octets,
which the client refuses. -/
theorem half_open :
    ¬ ∀ m : Encounter, m.Undisturbed → (∃ result, m.server.1 = .ok result) →
      ∃ result, m.client.1 = .ok result := by
  intro hall
  have hundisturbed :
      (introduced "daq" "session-1" {} { version := "1.000000000000000" }).Undisturbed :=
    introduced_undisturbed (by decide +kernel) (by decide +kernel) (by decide) (by decide)
  have hserver : (introduced "daq" "session-1" {} { version := "1.000000000000000" }).server.1 =
      .ok ⟨"daq", "session-1", "1.0"⟩ := eq_ok_of_toOption (by decide +kernel)
  have hclient : (introduced "daq" "session-1" {}
      { version := "1.000000000000000" }).client.1.isOk = false := by decide +kernel
  obtain ⟨result, hresult⟩ := hall _ hundisturbed ⟨_, hserver⟩
  rw [hresult] at hclient
  cases hclient

end Encounter

end Readout.Link

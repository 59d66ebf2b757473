/-
# What a client sends, the device's side gets

The two sides of a link keep accounts of their own: the client's side may not send because it has closed
the link, because its reading thread has found the other side gone, or because a message is too large;
the device's side is done when it reads a goodbye or the end of the connection.  `ServerAct` is for the
device's side what `LinkAct` is for the client's, and the acts may come in any order.

* `LinkSide` -- what both sides have in common: the frames that they hand to a device, and no more than
  one goodbye among them (`LinkSide.goodbyes_all`);
* `ClientLink.accepted_afterAll` -- the octets that a client leaves: the messages that were sent, and a
  goodbye;
* `Hears.receive`, `Hears.givenIn` -- what asking for a message gives, and asking again and again;
* `ServerLink.givenIn_of_closed` -- what it gives after the end;
* `ServerLink.receives_what_was_sent` -- all of it together.
-/
import Readout.Proofs.Legibility
import Readout.Proofs.StreamPartition

namespace Readout

/-! ## 1. Frames that are handed to a device -/

/-- Whether a frame says goodbye. -/
def Frame.saysGoodbye (f : Frame) : Bool := f.kind = FrameKind.goodbye

theorem Device.sendAll_append (limit : Nat) (d : Device) (first second : List Frame) :
    (d.sendAll limit (first ++ second)).2 = ((d.sendAll limit first).2.sendAll limit second).2 := by
  induction first generalizing d with
  | nil => rfl
  | cons frame first ih => exact ih (d.send limit frame).2

/-- A device on which no write fails for good stays so. -/
theorem Device.Sound.sendAll {d : Device} (h : d.Sound) (limit : Nat) (frames : List Frame) :
    (d.sendAll limit frames).2.Sound := by
  induction frames generalizing d with
  | nil => exact h
  | cons frame frames ih =>
    rcases Device.send_of_sound h limit frame with ⟨-, hafter, -⟩ | ⟨most, -, -, hsame⟩
    · exact ih hafter
    · refine ih ?_
      rw [hsame]
      exact h

namespace Connection

variable {c : Connection} {f : Frame}

/-- The connection after frames were handed to its device, one after another, whatever came of them. -/
def offer (c : Connection) (frames : List Frame) : Connection :=
  { c with device := (c.device.sendAll c.sendLimit frames).2 }

theorem offer_append (c : Connection) (first second : List Frame) :
    c.offer (first ++ second) = (c.offer first).offer second := by
  rw [offer, Device.sendAll_append]
  rfl

/-- Asking for a frame is a matter of the reader alone. -/
theorem eq_read_of_receive? {c' : Connection} {result : Except FrameError Frame}
    (h : c.receive? = some (result, c')) : ∃ buffer reads, c' = c.read buffer reads := by
  have hreceived := c.received
  rw [h] at hreceived
  cases hreceived with
  | frame buffer reads => exact ⟨buffer, reads, rfl⟩
  | failure buffer reads => exact ⟨buffer, reads, rfl⟩

/-- Behind the last frame there is the error at the end. -/
theorem receive?_of_ending {e : FrameError} (h : c.inflow = ⟨[], some e⟩) :
    ∃ buffer reads, c.receive? = some (.error e, c.read buffer reads) := by
  rcases receive?_of_no_octets (congrArg Inflow.octets h) with
    ⟨hnone, -⟩ | ⟨e', buffer, reads, hending, hreceive⟩
  · rw [h] at hnone
    cases hnone
  · rw [h] at hending
    cases hending
    exact ⟨buffer, reads, hreceive⟩

end Connection

/-- A side of a link: what an act makes of it, and the frames that the act hands to the device. -/
structure LinkSide (Link Act : Type) where
  connection : Link → Connection
  closed : Link → Bool
  after : Link → Act → Link
  offered : Link → Act → List Frame
  /-- The reader may have got further, and the device was offered the frames of the act. -/
  offers : ∀ l act, ∃ buffer reads,
    connection (after l act) = ((connection l).read buffer reads).offer (offered l act)
  /-- A side that is closed says nothing and stays closed. -/
  quiet : ∀ l act, closed l = true → offered l act = [] ∧ closed (after l act) = true
  /-- A side says goodbye when it closes. -/
  goodbyes : ∀ l act, (offered l act).countP Frame.saysGoodbye ≤ (closed (after l act)).toNat

namespace LinkSide

variable {Link Act : Type} (side : LinkSide Link Act)

/-- The side after acts, one after another. -/
def afterAll (l : Link) (acts : List Act) : Link := acts.foldl side.after l

/-- The frames that acts hand to the device, one after another. -/
def offeredIn : Link → List Act → List Frame
  | _, [] => []
  | l, act :: acts => side.offered l act ++ offeredIn (side.after l act) acts

/-- **What acts leave of a connection.** -/
theorem offers_all (l : Link) (acts : List Act) :
    ∃ buffer reads, side.connection (side.afterAll l acts) =
      ((side.connection l).read buffer reads).offer (side.offeredIn l acts) := by
  induction acts generalizing l with
  | nil => exact ⟨(side.connection l).reader.buffer, (side.connection l).reads, rfl⟩
  | cons act acts ih =>
    obtain ⟨_, _, hact⟩ := side.offers l act
    obtain ⟨buffer, reads, hacts⟩ := ih (side.after l act)
    rw [hact] at hacts
    refine ⟨buffer, reads, hacts.trans ?_⟩
    rw [offeredIn, Connection.offer_append]
    rfl

theorem device_afterAll (l : Link) (acts : List Act) :
    (side.connection (side.afterAll l acts)).device =
      ((side.connection l).device.sendAll (side.connection l).sendLimit (side.offeredIn l acts)).2 := by
  obtain ⟨_, _, hconnection⟩ := side.offers_all l acts
  rw [hconnection]
  rfl

theorem sendLimit_afterAll (l : Link) (acts : List Act) :
    (side.connection (side.afterAll l acts)).sendLimit = (side.connection l).sendLimit := by
  obtain ⟨_, _, hconnection⟩ := side.offers_all l acts
  rw [hconnection]
  rfl

theorem quiet_all {l : Link} (hclosed : side.closed l = true) (acts : List Act) :
    side.offeredIn l acts = [] ∧ side.closed (side.afterAll l acts) = true := by
  induction acts generalizing l with
  | nil => exact ⟨rfl, hclosed⟩
  | cons act acts ih =>
    obtain ⟨hoffered, hafter⟩ := side.quiet l act hclosed
    obtain ⟨hmore, hstays⟩ := ih hafter
    rw [offeredIn, hoffered, hmore]
    exact ⟨rfl, hstays⟩

/-- A side that is closed leaves its device alone. -/
theorem device_of_closed {l : Link} (hclosed : side.closed l = true) (acts : List Act) :
    (side.connection (side.afterAll l acts)).device = (side.connection l).device := by
  rw [side.device_afterAll, (side.quiet_all hclosed acts).1]
  rfl

/-- **A side says goodbye once at most.** -/
theorem goodbyes_all (l : Link) (acts : List Act) :
    (side.offeredIn l acts).countP Frame.saysGoodbye ≤ 1 := by
  induction acts generalizing l with
  | nil => exact Nat.zero_le 1
  | cons act acts ih =>
    have hfirst := side.goodbyes l act
    rw [offeredIn, List.countP_append]
    cases hclosed : side.closed (side.after l act) with
    | true =>
      rw [(side.quiet_all hclosed acts).1]
      rw [hclosed] at hfirst
      exact hfirst
    | false =>
      have hrest := ih (side.after l act)
      rw [hclosed, Bool.toNat_false] at hfirst
      omega

end LinkSide

/-! ## 2. The client's side -/

namespace ClientLink

variable {l : ClientLink} {act : LinkAct} {acts : List LinkAct}

/-- The frames that an act hands to the device. -/
def offered (l : ClientLink) : LinkAct → List Frame
  | .send message => if l.closed || l.queue.closed.isSome then [] else [.ofMessage message]
  | .close => if l.closed then [] else [farewell]
  | _ => []

/-- The messages that an act sends, where the caller is not told of an error. -/
def sent (l : ClientLink) : LinkAct → List Bytes
  | .send message => if (l.send message).1.isOk then [message] else []
  | _ => []

/-- The messages that acts send, one after another. -/
def sentIn : ClientLink → List LinkAct → List Bytes
  | _, [] => []
  | l, act :: acts => l.sent act ++ sentIn (l.after act) acts

/-- The octets that acts leave on the device. -/
def written (l : ClientLink) (acts : List LinkAct) : Bytes :=
  (l.afterAll acts).connection.device.accepted.drop l.connection.device.accepted.length

/-- A step of the reading thread is a matter of the reader and the queue. -/
theorem connection_pump (l : ClientLink) :
    ∃ buffer reads, (l.pump?.getD l).connection = l.connection.read buffer reads := by
  have hsame : ∃ buffer reads, l.connection = l.connection.read buffer reads := ⟨_, _, rfl⟩
  unfold pump?
  split
  · exact hsame
  · cases hreceive : l.connection.receive? with
    | none => exact hsame
    | some received =>
      obtain ⟨e | f, c⟩ := received
      · exact Connection.eq_read_of_receive? hreceive
      · have hread := Connection.eq_read_of_receive? hreceive
        simp only
        split
        · cases l.queue.push? f.payload with
          | none => exact hsame
          | some pushed =>
            obtain ⟨_ | _, q⟩ := pushed
            · exact hread
            · exact hread
        · split
          · exact hread
          · exact hread

theorem send_of_open (hopen : l.closed = false) (hqueue : l.queue.closed = none) (message : Bytes) :
    l.send message =
      match l.connection.send (.ofMessage message) with
      | (.ok (), c) => (.ok (), { l with connection := c })
      | (.error e, c) => (.error (.send e), { l with connection := c }) := by
  rw [send, if_neg (by simp [hopen]), hqueue]
  rfl

/-- **What an act leaves of a connection**: its reader may have got further, and its device was offered the
frames of the act. -/
theorem after_spec (l : ClientLink) (act : LinkAct) :
    ∃ buffer reads,
      (l.after act).connection = (l.connection.read buffer reads).offer (l.offered act) := by
  cases act with
  | pump => exact l.connection_pump
  | receive timeout =>
    refine ⟨l.connection.reader.buffer, l.connection.reads, ?_⟩
    show (l.receive timeout).2.connection = l.connection
    unfold receive
    split <;> rfl
  | setCapacity capacity => exact ⟨l.connection.reader.buffer, l.connection.reads, rfl⟩
  | send message =>
    refine ⟨l.connection.reader.buffer, l.connection.reads, ?_⟩
    show (l.send message).2.connection = l.connection.offer (l.offered (.send message))
    rw [offered]
    cases hclosed : l.closed with
    | true =>
      rw [send, if_pos hclosed]
      rfl
    | false =>
      cases hqueue : l.queue.closed with
      | some reason =>
        rw [send, if_neg (by simp [hclosed]), hqueue]
        rfl
      | none =>
        have hoffer : (l.connection.send (.ofMessage message)).2 =
            l.connection.offer [.ofMessage message] := rfl
        rw [send_of_open hclosed hqueue]
        generalize l.connection.send (.ofMessage message) = sent at hoffer
        obtain ⟨_ | ⟨⟩, c⟩ := sent
        · exact hoffer
        · exact hoffer
  | close =>
    refine ⟨l.connection.reader.buffer, l.connection.reads, ?_⟩
    show l.close.connection = l.connection.offer (l.offered .close)
    rw [offered, close]
    split <;> rfl

theorem closed_close (l : ClientLink) : l.close.closed = true := by
  cases hclosed : l.closed with
  | true => rw [close_of_closed hclosed, hclosed]
  | false =>
    obtain ⟨c, hclose⟩ := close_of_not_closed hclosed
    rw [hclose]

/-- The client's side, which is closed once it has closed the link. -/
def side : LinkSide ClientLink LinkAct where
  connection := connection
  closed := closed
  after := after
  offered := offered
  offers := after_spec
  quiet l act hclosed := by
    refine ⟨?_, ?_⟩
    · cases act <;> simp [offered, hclosed]
    · by_cases hclose : act = .close
      · rw [hclose]
        exact l.closed_close
      · rw [l.closed_after hclose, hclosed]
  goodbyes l act := by
    cases act with
    | send message =>
      rw [offered]
      split <;> exact Nat.zero_le _
    | close =>
      rw [show l.after .close = l.close from rfl, closed_close, offered]
      split <;> decide
    | _ => exact Nat.zero_le _

/-! ### What is sent -/

/-- A link that this side has closed sends nothing any more. -/
theorem sentIn_of_closed (hclosed : l.closed = true) (acts : List LinkAct) : l.sentIn acts = [] := by
  induction acts generalizing l with
  | nil => rfl
  | cons act acts ih =>
    have hact : l.sent act = [] := by
      cases act with
      | send message => simp [sent, send, hclosed, Except.isOk, Except.toBool]
      | _ => rfl
    have hafter : (l.after act).closed = true := (side.quiet l act hclosed).2
    rw [sentIn, hact, ih hafter]
    rfl

/-- A message that fits in a frame is sent. -/
theorem send_of_fits (hopen : l.closed = false) (hqueue : l.queue.closed = none)
    (hsound : l.connection.device.Sound) {message : Bytes}
    (hfits : l.connection.fits message = true) :
    ∃ device,
      l.send message = (.ok (), { l with connection := { l.connection with device := device } }) ∧
        device.Sound ∧
        device.accepted = l.connection.device.accepted ++ (Frame.ofMessage message).octets := by
  obtain ⟨hlimit, hmax⟩ := Connection.fits_iff.mp hfits
  obtain ⟨device, hsend, hafter, haccepted⟩ :=
    Connection.send_of_fits (f := Frame.ofMessage message) hsound hlimit hmax
  refine ⟨device, ?_, hafter, haccepted⟩
  rw [send_of_open hopen hqueue, hsend]

/-- One that is larger than the link allows is not, and the link stays as it is. -/
theorem send_of_over (hopen : l.closed = false) (hqueue : l.queue.closed = none) {message : Bytes}
    (hover : l.connection.sendLimit < message.length) :
    l.send message =
      (.error (.send (.tooLarge message.length l.connection.sendLimit)), l) := by
  rw [send_of_open hopen hqueue, Connection.send_of_over (f := Frame.ofMessage message) hover]
  rfl

/-- Nor is one whose length a header cannot say. -/
theorem send_of_long (hopen : l.closed = false) (hqueue : l.queue.closed = none) {message : Bytes}
    (hlimit : message.length ≤ l.connection.sendLimit) (hlong : Frame.maxLength < message.length) :
    l.send message = (.error (.send (.tooLarge message.length Frame.maxLength)), l) := by
  rw [send_of_open hopen hqueue, Connection.send_of_long (f := Frame.ofMessage message) hlimit hlong]
  rfl

/-- **A message is sent, or the link stays as it is.** -/
theorem send_cases (hsound : l.connection.device.Sound) (message : Bytes) :
    (∃ device,
      l.send message = (.ok (), { l with connection := { l.connection with device := device } }) ∧
        device.Sound ∧
        device.accepted = l.connection.device.accepted ++ (Frame.ofMessage message).octets ∧
        l.connection.fits message = true) ∨
      ∃ e, l.send message = (.error e, l) := by
  by_cases hclosed : l.closed = true
  · exact .inr ⟨_, if_pos hclosed⟩
  · have hopen := Bool.eq_false_of_not_eq_true hclosed
    by_cases hqueue : l.queue.closed = none
    · by_cases hlimit : message.length ≤ l.connection.sendLimit
      · by_cases hmax : message.length ≤ Frame.maxLength
        · have hfits := Connection.fits_iff.mpr ⟨hlimit, hmax⟩
          obtain ⟨device, hsend, hafter, haccepted⟩ := send_of_fits hopen hqueue hsound hfits
          exact .inl ⟨device, hsend, hafter, haccepted, hfits⟩
        · exact .inr ⟨_, send_of_long hopen hqueue hlimit (Nat.lt_of_not_le hmax)⟩
      · exact .inr ⟨_, send_of_over hopen hqueue (Nat.lt_of_not_le hlimit)⟩
    · obtain ⟨reason, hreason⟩ := Option.ne_none_iff_exists'.mp hqueue
      refine .inr ⟨.closed reason, ?_⟩
      rw [send, if_neg hclosed, hreason]

/-- What an act that does not close the link leaves on a device on which no write fails: the messages that it
sends, which fit in frames. -/
structure Sends (l : ClientLink) (act : LinkAct) : Prop where
  sound : (l.after act).connection.device.Sound
  accepted : (l.after act).connection.device.accepted =
    l.connection.device.accepted ++ messageOctets (l.sent act)
  sendLimit : (l.after act).connection.sendLimit = l.connection.sendLimit
  fits : ∀ message ∈ l.sent act, l.connection.fits message = true

/-- An act that sends nothing leaves nothing. -/
theorem sends_of_unsent (hsound : l.connection.device.Sound) (hsent : l.sent act = [])
    (hdevice : (l.after act).connection.device = l.connection.device)
    (hlimit : (l.after act).connection.sendLimit = l.connection.sendLimit) : l.Sends act := by
  refine ⟨hdevice ▸ hsound, ?_, hlimit, hsent ▸ List.forall_mem_nil _⟩
  rw [hsent, hdevice]
  exact (List.append_nil _).symm

theorem sends (hsound : l.connection.device.Sound) (hact : act ≠ .close) : l.Sends act := by
  obtain ⟨_, _, hconnection⟩ := l.after_spec act
  have hdevice := congrArg Connection.device hconnection
  have hlimit : (l.after act).connection.sendLimit = l.connection.sendLimit :=
    (congrArg Connection.sendLimit hconnection).trans rfl
  cases act with
  | send message =>
    rcases l.send_cases hsound message with ⟨device, hsend, hafter, haccepted, hfits⟩ | ⟨e, hsend⟩
    · have hstate : l.after (.send message) = _ := congrArg Prod.snd hsend
      have hsent : l.sent (.send message) = [message] := by
        rw [sent, hsend]
        rfl
      refine ⟨hstate ▸ hafter, ?_, hlimit, hsent ▸ List.forall_mem_singleton.mpr hfits⟩
      rw [hstate, hsent, messageOctets_cons]
      exact haccepted.trans (congrArg (_ ++ ·) (List.append_nil _).symm)
    · have hstate : l.after (.send message) = l := congrArg Prod.snd hsend
      have hsent : l.sent (.send message) = [] := by
        rw [sent, hsend]
        rfl
      exact sends_of_unsent hsound hsent (congrArg (fun l => l.connection.device) hstate) hlimit
  | close => exact absurd rfl hact
  | _ => exact sends_of_unsent hsound rfl hdevice hlimit

/-- Closing a link leaves a goodbye. -/
theorem accepted_close (hopen : l.closed = false) (hsound : l.connection.device.Sound) :
    l.close.connection.device.accepted =
      l.connection.device.accepted ++ farewell.octets := by
  obtain ⟨device, hsend, -, haccepted⟩ :=
    Connection.send_of_fits (f := farewell) hsound (Nat.zero_le _) (Nat.zero_le _)
  have hframe : (⟨FrameKind.goodbye, []⟩ : Frame) = farewell := rfl
  rw [close, if_neg (by simp [hopen]), hframe, hsend]
  exact haccepted

/-- **What acts leave of an open link on a device on which no write fails**: the messages that are sent, and
behind them a goodbye if the link is closed. -/
theorem accepted_afterAll (hopen : l.closed = false) (hsound : l.connection.device.Sound)
    (acts : List LinkAct) :
    (l.afterAll acts).connection.device.accepted =
        l.connection.device.accepted ++
          (messageOctets (l.sentIn acts) ++ if .close ∈ acts then farewell.octets else []) ∧
      ∀ message ∈ l.sentIn acts, l.connection.fits message = true := by
  induction acts generalizing l with
  | nil =>
    rw [if_neg List.not_mem_nil]
    exact ⟨(List.append_nil _).symm, List.forall_mem_nil _⟩
  | cons act acts ih =>
    by_cases hact : act = .close
    · subst hact
      have hdevice : (l.close.afterAll acts).connection.device = l.close.connection.device :=
        side.device_of_closed l.closed_close acts
      have hall : l.sentIn (.close :: acts) = [] := sentIn_of_closed l.closed_close acts
      rw [if_pos List.mem_cons_self, hall]
      refine ⟨?_, List.forall_mem_nil _⟩
      show (l.close.afterAll acts).connection.device.accepted = _
      rw [hdevice, accepted_close hopen hsound]
      rfl
    · have hsends := sends hsound hact
      obtain ⟨haccepted, hfits⟩ := ih ((l.closed_after hact).trans hopen) hsends.sound
      have hmem : LinkAct.close ∈ act :: acts ↔ .close ∈ acts := by
        rw [List.mem_cons]
        exact or_iff_right (Ne.symm hact)
      refine ⟨?_, ?_⟩
      · show ((l.after act).afterAll acts).connection.device.accepted = _
        rw [haccepted, hsends.accepted, sentIn, messageOctets, messageOctets, messageOctets,
          List.flatMap_append]
        simp only [hmem, List.append_assoc]
      · intro message hmessage
        rcases List.mem_append.mp hmessage with hfirst | hlater
        · exact hsends.fits message hfirst
        · have hmore := hfits message hlater
          rw [Connection.fits_iff, hsends.sendLimit] at hmore
          exact Connection.fits_iff.mpr hmore

end ClientLink

/-! ## 3. The device's side -/

/-- What happens on the device's side of a link. -/
inductive ServerAct where
  /-- The caller asks for a message. -/
  | receive
  | send (message : Bytes)
  | close
  /-- More arrives. -/
  | arrive (reads : List ReadStep)
  deriving DecidableEq, Repr

/-- The caller asks or says something. -/
def ServerAct.Talks : ServerAct → Prop
  | receive => True
  | send _ => True
  | _ => False

namespace ServerLink

variable {l : ServerLink} {act : ServerAct} {acts : List ServerAct}

/-- The link after an act. -/
def after (l : ServerLink) : ServerAct → ServerLink
  | .receive => (l.receive?.map Prod.snd).getD l
  | .send message => (l.send message).2
  | .close => l.close
  | .arrive reads => { l with connection := { l.connection with reads := l.connection.reads ++ reads } }

/-- What an act gives the caller who asks for a message; nothing while the client is silent. -/
def given (l : ServerLink) : ServerAct → List (Except LinkError (Option Bytes))
  | .receive => (l.receive?.map Prod.fst).toList
  | _ => []

/-- The frames that an act hands to the device. -/
def offered (l : ServerLink) : ServerAct → List Frame
  | .send message => if l.closed then [] else [.ofMessage message]
  | .close => if l.closed then [] else [farewell]
  | _ => []

/-- The link after acts, one after another. -/
def afterAll (l : ServerLink) (acts : List ServerAct) : ServerLink := acts.foldl after l

/-- What acts give the caller, one after another. -/
def givenIn : ServerLink → List ServerAct → List (Except LinkError (Option Bytes))
  | _, [] => []
  | l, act :: acts => l.given act ++ givenIn (l.after act) acts

/-- Asking for a message is a matter of the reader alone, and a link that gives none is closed. -/
theorem read_of_receiveSteps {fuel : Nat} {l l' : ServerLink} {result : Except LinkError (Option Bytes)}
    (h : l.receiveSteps fuel = some (result, l')) :
    (∃ buffer reads, l'.connection = l.connection.read buffer reads) ∧
      (result = .ok none → l'.closed = true) := by
  induction fuel generalizing l with
  | zero => cases h
  | succ fuel ih =>
    rw [receiveSteps] at h
    split at h
    · rename_i hclosed
      cases h
      exact ⟨⟨_, _, rfl⟩, fun _ => hclosed⟩
    · cases hreceive : l.connection.receive? with
      | none =>
        rw [hreceive] at h
        cases h
      | some received =>
        obtain ⟨e | f, c⟩ := received
        · have hread := Connection.eq_read_of_receive? hreceive
          rw [hreceive] at h
          cases e <;> cases h <;> exact ⟨hread, fun hnone => by cases hnone <;> rfl⟩
        · obtain ⟨buffer, reads, hread⟩ := Connection.eq_read_of_receive? hreceive
          simp only [hreceive] at h
          split at h
          · cases h
            exact ⟨⟨buffer, reads, hread⟩, fun hnone => by cases hnone⟩
          · split at h
            · cases h
              exact ⟨⟨buffer, reads, hread⟩, fun _ => rfl⟩
            · obtain ⟨⟨buffer', reads', hmore⟩, hnone⟩ := ih h
              refine ⟨⟨buffer', reads', ?_⟩, hnone⟩
              rw [hmore, hread]
              rfl

/-- **What an act leaves of a connection**: its reads and its reader may have got further, and its device was
offered the frames of the act. -/
theorem after_spec (l : ServerLink) (act : ServerAct) :
    ∃ buffer reads,
      (l.after act).connection = (l.connection.read buffer reads).offer (l.offered act) := by
  cases act with
  | receive =>
    cases hreceive : l.receive? with
    | none =>
      refine ⟨l.connection.reader.buffer, l.connection.reads, ?_⟩
      rw [after, hreceive]
      rfl
    | some received =>
      obtain ⟨hread, -⟩ := read_of_receiveSteps hreceive
      rw [after, hreceive]
      exact hread
  | send message =>
    refine ⟨l.connection.reader.buffer, l.connection.reads, ?_⟩
    rw [after, offered, send]
    split
    · rfl
    · have hoffer : (l.connection.send (.ofMessage message)).2 =
          l.connection.offer [.ofMessage message] := rfl
      have hframe : (⟨FrameKind.message, message⟩ : Frame) = .ofMessage message := rfl
      rw [hframe]
      generalize l.connection.send (.ofMessage message) = sent at hoffer
      obtain ⟨_ | ⟨⟩, c⟩ := sent
      · exact hoffer
      · exact hoffer
  | close =>
    refine ⟨l.connection.reader.buffer, l.connection.reads, ?_⟩
    rw [after, offered, close]
    split <;> rfl
  | arrive reads => exact ⟨l.connection.reader.buffer, l.connection.reads ++ reads, rfl⟩

/-- Sending changes the device at most. -/
theorem send_snd (l : ServerLink) (message : Bytes) :
    ∃ device, (l.send message).2 = { l with connection := { l.connection with device := device } } := by
  by_cases hclosed : l.closed = true
  · rw [send, if_pos hclosed]
    exact ⟨l.connection.device, rfl⟩
  · obtain ⟨result, device, part, hsend, -⟩ := send_spec (Bool.eq_false_of_not_eq_true hclosed) message
    exact ⟨device, congrArg Prod.snd hsend⟩

theorem closed_send (l : ServerLink) (message : Bytes) : (l.send message).2.closed = l.closed := by
  obtain ⟨device, hsend⟩ := l.send_snd message
  rw [hsend]

theorem closed_close (l : ServerLink) : l.close.closed = true := by
  rw [close]
  split
  · assumption
  · rfl

theorem receive?_of_closed (hclosed : l.closed = true) : l.receive? = some (.ok none, l) := by
  rw [receive?, receiveSteps, if_pos hclosed]

/-- The device's side, which is closed once it has found the client gone or closed the link. -/
def side : LinkSide ServerLink ServerAct where
  connection := connection
  closed := closed
  after := after
  offered := offered
  offers := after_spec
  quiet l act hclosed := by
    refine ⟨?_, ?_⟩
    · cases act <;> simp [offered, hclosed]
    · cases act with
      | receive =>
        rw [after, receive?_of_closed hclosed]
        exact hclosed
      | send message => exact (l.closed_send message).trans hclosed
      | close => exact l.closed_close
      | arrive reads => exact hclosed
  goodbyes l act := by
    cases act with
    | send message =>
      rw [offered]
      split <;> exact Nat.zero_le _
    | close =>
      rw [show l.after .close = l.close from rfl, closed_close, offered]
      split <;> decide
    | _ => exact Nat.zero_le _

/-! ### After the end -/

/-- **A link that is closed gives nothing but its end.** -/
theorem givenIn_of_closed (hclosed : l.closed = true) (acts : List ServerAct) :
    l.givenIn acts = List.replicate (acts.count .receive) (.ok none) := by
  induction acts generalizing l with
  | nil => rfl
  | cons act acts ih =>
    have hafter : (l.after act).closed = true := (side.quiet l act hclosed).2
    rw [givenIn, ih hafter]
    cases act with
    | receive =>
      rw [given, receive?_of_closed hclosed, List.count_cons_self, List.replicate_succ]
      rfl
    | _ =>
      rw [List.count_cons_of_ne (by simp)]
      rfl

/-- Who gave no message when it was asked is closed. -/
theorem closed_of_given_none (h : .ok none ∈ l.givenIn acts) : (l.afterAll acts).closed = true := by
  induction acts generalizing l with
  | nil => exact absurd h List.not_mem_nil
  | cons act acts ih =>
    rcases List.mem_append.mp h with hnow | hlater
    · have hclosed : (l.after act).closed = true := by
        cases act with
        | receive =>
          cases hreceive : l.receive? with
          | none =>
            rw [given, hreceive] at hnow
            exact absurd hnow List.not_mem_nil
          | some received =>
            obtain ⟨-, hnone⟩ := read_of_receiveSteps hreceive
            rw [given, hreceive] at hnow
            rw [after, hreceive]
            exact hnone (List.mem_singleton.mp hnow).symm
        | _ => exact absurd hnow List.not_mem_nil
      exact (side.quiet_all hclosed acts).2
    · exact ih hlater

end ServerLink

/-! ## 4. What the device's side gets -/

theorem readable_farewell (limit : Nat) : farewell.Readable limit :=
  ⟨by decide, Nat.zero_le _, Nat.zero_le _⟩

/-- Messages that a link is still to give, after which it is at its end. -/
inductive Hears : List Bytes → ServerLink → Prop
  /-- They are still to come, and then a goodbye or the end of the connection. -/
  | reading {messages : List Bytes} {l : ServerLink} {more : Bytes} (isOpen : l.closed = false)
      (octets : l.connection.inflow.octets = messageOctets messages ++ more)
      (readable : ∀ message ∈ messages, (Frame.ofMessage message).Readable l.connection.reader.limit)
      (ending : (more = [] ∧ l.connection.inflow.ending = some .closed) ∨ farewell.octets <+: more) :
      Hears messages l
  | done {l : ServerLink} (closed : l.closed = true) : Hears [] l

namespace Hears

variable {l : ServerLink} {messages : List Bytes} {acts : List ServerAct}

open ServerLink

/-- **Asking for a message gives the first of them, or the end.**  The cases are those of what is at the
front: a message, a goodbye, the end of the connection. -/
theorem receive (h : Hears messages l) :
    ∃ l', l.receive? = some (.ok messages[0]?, l') ∧ Hears messages.tail l' := by
  cases h with
  | done closed => exact ⟨l, receive?_of_closed closed, .done closed⟩
  | @reading _ _ more isOpen octets readable ending =>
    rw [receive?, receiveSteps, if_neg (by simp [isOpen])]
    cases messages with
    | cons message messages =>
      obtain ⟨hfirst, hrest⟩ := List.forall_mem_cons.mp readable
      rw [messageOctets_cons, List.append_assoc] at octets
      obtain ⟨buffer, reads, hreceive, hinflow, -⟩ :=
        Connection.receive?_of_frame hfirst octets
      rw [hreceive]
      have hending := congrArg Inflow.ending hinflow
      exact ⟨_, rfl, .reading isOpen (congrArg Inflow.octets hinflow) hrest (hending ▸ ending)⟩
    | nil =>
      rcases ending with ⟨rfl, hending⟩ | ⟨rest, hgoodbye⟩
      · have hinflow : l.connection.inflow = ⟨[], some .closed⟩ := by
          rw [← hending, show ([] : Bytes) = l.connection.inflow.octets from octets.symm]
        obtain ⟨buffer, reads, hreceive⟩ := Connection.receive?_of_ending hinflow
        rw [hreceive]
        exact ⟨_, rfl, .done rfl⟩
      · rw [← hgoodbye] at octets
        obtain ⟨buffer, reads, hreceive, -⟩ :=
          Connection.receive?_of_frame (readable_farewell _) octets
        rw [hreceive]
        exact ⟨_, rfl, .done rfl⟩

/-- What is said does not matter for what is heard. -/
theorem send (h : Hears messages l) (message : Bytes) : Hears messages (l.send message).2 := by
  obtain ⟨device, hsend⟩ := l.send_snd message
  rw [hsend]
  cases h with
  | done closed => exact .done closed
  | reading isOpen octets readable ending => exact .reading isOpen octets readable ending

/-- **Each time that it is asked, a link gives the next message, and its end when there are none left.** -/
theorem givenIn (h : Hears messages l) (htalks : ∀ act ∈ acts, act.Talks) :
    l.givenIn acts = (List.range (acts.count .receive)).map fun i => .ok messages[i]? := by
  induction acts generalizing l messages with
  | nil => rfl
  | cons act acts ih =>
    obtain ⟨hact, hacts⟩ := List.forall_mem_cons.mp htalks
    cases act with
    | receive =>
      obtain ⟨l', hreceive, hrest⟩ := h.receive
      rw [List.count_cons_self, List.range_succ_eq_map, ServerLink.givenIn, given, after, hreceive]
      have hmore : ∀ i, messages.tail[i]? = messages[i + 1]? := fun i => List.getElem?_tail
      have hlater := ih hrest hacts
      simp only [hmore] at hlater
      rw [List.map_cons, List.map_map]
      exact congrArg (Except.ok messages[0]? :: ·) hlater
    | send message =>
      rw [List.count_cons_of_ne (by simp)]
      exact ih (h.send message) hacts
    | close => exact hact.elim
    | arrive reads => exact hact.elim

end Hears

/-! ## 5. Both sides -/

/-- A client's side and a device's side are joined: what the first sends by these acts comes to the second, cut
anywhere.  Both are open before that, no write of the client's fails, and the device's side lets pass what the
client's does.  Behind what is sent there is the end of the connection; or whatever there may be, if the
client has said goodbye. -/
structure Joined (client : ClientLink) (acts : List LinkAct) (server : ServerLink) : Prop where
  clientOpen : client.closed = false
  serverOpen : server.closed = false
  sound : client.connection.device.Sound
  limit : client.connection.sendLimit ≤ server.connection.reader.limit
  arrives : server.connection.inflow = ⟨client.written acts, some .closed⟩ ∨
    (.close ∈ acts ∧ client.written acts <+: server.connection.inflow.octets)

theorem Joined.hears {client : ClientLink} {acts : List LinkAct} {server : ServerLink}
    (h : Joined client acts server) : Hears (client.sentIn acts) server := by
  obtain ⟨haccepted, hfits⟩ := ClientLink.accepted_afterAll h.clientOpen h.sound acts
  have hwritten : client.written acts =
      messageOctets (client.sentIn acts) ++ if .close ∈ acts then farewell.octets else [] := by
    rw [ClientLink.written, haccepted, List.drop_left]
  have hreadable : ∀ message ∈ client.sentIn acts,
      (Frame.ofMessage message).Readable server.connection.reader.limit := by
    intro message hmessage
    obtain ⟨hlimit, hmax⟩ := Connection.fits_iff.mp (hfits message hmessage)
    exact ⟨rfl, Nat.le_trans hlimit h.limit, hmax⟩
  rcases h.arrives with hinflow | ⟨hclose, rest, hoctets⟩
  · have hoctets := congrArg Inflow.octets hinflow
    rw [hwritten] at hoctets
    refine .reading h.serverOpen hoctets hreadable ?_
    split
    · exact .inr ⟨[], List.append_nil _⟩
    · exact .inl ⟨rfl, congrArg Inflow.ending hinflow⟩
  · rw [hwritten, if_pos hclose, List.append_assoc] at hoctets
    exact .reading h.serverOpen hoctets.symm hreadable (.inr ⟨rest, rfl⟩)

namespace ServerLink

/-- **The device's side gets what the client sent, once each and in order, and ends cleanly.**

A message that is too large is refused for that, with nothing sent and the link as it was; any other is sent by
a link that is open.  The n-th time that it is asked, the device's side gives the n-th message that was sent,
and its end once there are no more.  A side that has given its end gives nothing else, whatever more arrives,
and offers its device nothing, neither a message nor a goodbye.  And each side offers its device one goodbye
at most. -/
theorem receives_what_was_sent {client : ClientLink} {acts : List LinkAct} {server : ServerLink}
    (h : Joined client acts server) :
    (∀ before message, (client.afterAll before).closed = false →
        (client.afterAll before).queue.closed = none →
      (message.length ≤ client.connection.sendLimit → message.length ≤ Frame.maxLength →
        ((client.afterAll before).send message).1 = .ok ()) ∧
      (client.connection.sendLimit < message.length →
        (client.afterAll before).send message =
          (.error (.send (.tooLarge message.length client.connection.sendLimit)),
            client.afterAll before)) ∧
      (message.length ≤ client.connection.sendLimit → Frame.maxLength < message.length →
        (client.afterAll before).send message =
          (.error (.send (.tooLarge message.length Frame.maxLength)), client.afterAll before))) ∧
    (∀ turns : List ServerAct, (∀ turn ∈ turns, turn.Talks) →
      server.givenIn turns =
        (List.range (turns.count .receive)).map fun i => .ok (client.sentIn acts)[i]?) ∧
    (∀ turns more : List ServerAct, .ok none ∈ server.givenIn turns →
      (server.afterAll turns).givenIn more = List.replicate (more.count .receive) (.ok none) ∧
      ((server.afterAll turns).afterAll more).connection.device =
        (server.afterAll turns).connection.device ∧
      (∀ message, ((server.afterAll turns).afterAll more).send message =
        (.error (.closed "client is gone"), (server.afterAll turns).afterAll more)) ∧
      ((server.afterAll turns).afterAll more).close = (server.afterAll turns).afterAll more) ∧
    (∀ before : List LinkAct,
      (client.afterAll before).connection.device =
        (client.connection.device.sendAll client.connection.sendLimit
          (ClientLink.side.offeredIn client before)).2 ∧
      (ClientLink.side.offeredIn client before).countP Frame.saysGoodbye ≤ 1) ∧
    ∀ turns : List ServerAct,
      (server.afterAll turns).connection.device =
        (server.connection.device.sendAll server.connection.sendLimit
          (side.offeredIn server turns)).2 ∧
      (side.offeredIn server turns).countP Frame.saysGoodbye ≤ 1 := by
  refine ⟨fun before message hopen hqueue => ?_, fun turns htalks => h.hears.givenIn htalks,
    fun turns more hended => ?_,
    fun before => ⟨ClientLink.side.device_afterAll client before, ClientLink.side.goodbyes_all client before⟩,
    fun turns => ⟨side.device_afterAll server turns, side.goodbyes_all server turns⟩⟩
  · have hlimit : (client.afterAll before).connection.sendLimit = client.connection.sendLimit :=
      ClientLink.side.sendLimit_afterAll client before
    have hdevice : (client.afterAll before).connection.device = _ :=
      ClientLink.side.device_afterAll client before
    have hsound : (client.afterAll before).connection.device.Sound :=
      hdevice ▸ h.sound.sendAll _ _
    rw [← hlimit]
    refine ⟨fun hfits hmax => ?_, ClientLink.send_of_over hopen hqueue,
      ClientLink.send_of_long hopen hqueue⟩
    obtain ⟨device, hsend, -⟩ :=
      ClientLink.send_of_fits hopen hqueue hsound (Connection.fits_iff.mpr ⟨hfits, hmax⟩)
    rw [hsend]
  · have hclosed := closed_of_given_none hended
    have hstays : ((server.afterAll turns).afterAll more).closed = true := (side.quiet_all hclosed more).2
    refine ⟨givenIn_of_closed hclosed more, side.device_of_closed hclosed more, fun message => ?_, ?_⟩
    · rw [send, if_pos hstays]
    · rw [close, if_pos hstays]

/-- A client whose messages have two octets at most, on a device that takes three octets and is interrupted
before it takes the others. -/
def terse : ClientLink where
  identity := "daq"
  session := "session-1"
  connection := {
    ended := false
    device := { writes := [.accept 3, .fault ⟨.interrupted, "interrupted"⟩] }
    sendLimit := 2 }
  queue := .create 1

/-- It sends two messages, the second of which is empty, and says goodbye; the others are too large or come too
late. -/
def terseActs : List LinkAct :=
  [.send [1], .send [1, 2, 3], .pump, .send [], .close, .send [2], .close]

/-- The other side: what was sent is cut within the first header, and something comes behind it. -/
def attentive : ServerLink where
  identity := "daq"
  session := "session-1"
  connection := {
    reads := [.data ((terse.written terseActs).take 5), .fault ⟨.interrupted, "interrupted"⟩,
      .data ((terse.written terseActs).drop 5 ++ [0x53]), .data [0x42]] }

/-- Of the four messages two are got, and then the end; which is what the side gives when more arrives, too. -/
theorem receives_two_of_four :
    Joined terse terseActs attentive ∧
      attentive.givenIn [.receive, .send [3], .receive, .receive, .receive] =
        [.ok (some [1]), .ok (some []), .ok none, .ok none] ∧
      (attentive.afterAll [.receive, .receive, .receive]).givenIn
        [.close, .arrive [.data [0x53]], .receive] = [.ok none] := by
  have hsound : terse.connection.device.Sound :=
    ⟨List.forall_mem_cons.mpr ⟨Nat.zero_lt_succ 2, List.forall_mem_singleton.mpr rfl⟩,
      fun _ h => absurd h List.not_mem_nil⟩
  have hjoined : Joined terse terseActs attentive :=
    ⟨rfl, rfl, hsound, by decide, .inr (by decide +kernel)⟩
  obtain ⟨-, hgot, hend, -⟩ := receives_what_was_sent hjoined
  have hsent : terse.sentIn terseActs = [[1], []] := by decide +kernel
  rw [hsent] at hgot
  refine ⟨hjoined, hgot _ ?_, (hend _ _ ?_).1⟩
  · simp [ServerAct.Talks]
  · rw [hgot _ (by simp [ServerAct.Talks])]
    decide

end ServerLink

end Readout

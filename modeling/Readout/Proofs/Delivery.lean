/-
# Messages are delivered once each, and in their order

While one thread reads frames and queues their messages, the caller takes them out, changes how many may
wait, sends, and at some time closes the link.  `LinkAct` is one such act, and the acts may come in any
order.  Whatever it is, the caller gets what the octets tell (`Connection.told`), and nothing else.

* `ClientLink.pumped` -- what one step of the reading thread does;
* `Faithful.after`, `Faithful.afterAll` -- what one act keeps, and any number of them;
* `Drained.after` -- a link that is done stays so;
* `ClientLink.weight_after` -- every act that achieves something makes the link lighter;
* `Fair.settles`, `Fair.told` -- what comes in the end;
* `delivers_what_is_told` -- the caller gets the messages that are told, up to the first reason.
-/
import Mathlib.Order.WellFounded
import Readout.Link.Client
import Readout.Proofs.Inflow

namespace Readout

open Link (Established)

/-! ## 1. What the octets tell -/

/-- Messages, and the reason why none comes after them. -/
structure Told where
  messages : List Bytes
  /-- None if more is waited for. -/
  reason? : Option String
  deriving DecidableEq, Repr

/-- What frames tell that an error comes after, or none: the messages before the first goodbye, and what
it says; or all messages, and the error. -/
def Told.ofFrames (frames : List Frame) (error : Option FrameError) : Told where
  messages := ((frames.takeWhile fun f => f.kind ≠ FrameKind.goodbye).filter
    fun f => f.kind = FrameKind.message).map Frame.payload
  reason? :=
    match frames.find? fun f => f.kind = FrameKind.goodbye with
    | some farewell => some (ClientLink.goodbyeReason farewell.payload)
    | none => error.map ClientLink.failedReason

/-- What is told by octets that are still to come.  A bad header among them is met before the error that
is behind all of them. -/
def Inflow.told (limit : Nat) (inflow : Inflow) : Told :=
  let reading := Frame.readAll limit inflow.octets
  .ofFrames reading.frames (reading.error <|> inflow.ending)

/-- What a connection is still to tell. -/
def Connection.told (c : Connection) : Told := c.inflow.told c.reader.limit

namespace Told

variable {f : Frame} {frames : List Frame} {error : Option FrameError}

theorem ofFrames_message (h : f.kind = FrameKind.message) :
    ofFrames (f :: frames) error =
      ⟨f.payload :: (ofFrames frames error).messages, (ofFrames frames error).reason?⟩ := by
  have hother : FrameKind.message ≠ FrameKind.goodbye := by decide
  simp [ofFrames, h, hother]

theorem ofFrames_goodbye (h : f.kind = FrameKind.goodbye) :
    ofFrames (f :: frames) error = ⟨[], some (ClientLink.goodbyeReason f.payload)⟩ := by
  simp [ofFrames, h]

theorem ofFrames_other (hmessage : f.kind ≠ FrameKind.message) (hgoodbye : f.kind ≠ FrameKind.goodbye) :
    ofFrames (f :: frames) error = ofFrames frames error := by
  simp [ofFrames, hmessage, hgoodbye]

end Told

namespace Connection

variable {c : Connection}

/-- A frame at the front is the first to tell something. -/
theorem told_of_frame {f : Frame} {buffer : Bytes} {reads : List ReadStep}
    (hreadable : f.Readable c.reader.limit)
    (hoctets : c.inflow.octets = f.octets ++ (c.read buffer reads).inflow.octets)
    (hending : (c.read buffer reads).inflow.ending = c.inflow.ending) :
    ∃ frames error, c.told = .ofFrames (f :: frames) error ∧
      (c.read buffer reads).told = .ofFrames frames error := by
  refine ⟨_, _, ?_, rfl⟩
  have hall := Frame.readAll_of_some
    (Frame.decode_octets_append hreadable (c.read buffer reads).inflow.octets)
  simp only [told, Inflow.told, hoctets, hall, ← hending]
  rfl

/-- Where there is no frame, an error is all that is told. -/
theorem told_of_failure {e : FrameError}
    (h : Frame.decode c.reader.limit c.inflow.octets = .error e ∨
      (Frame.decode c.reader.limit c.inflow.octets = .ok none ∧ c.inflow.ending = some e)) :
    c.told = ⟨[], some (ClientLink.failedReason e)⟩ := by
  rcases h with hbad | ⟨hnone, hending⟩
  · simp only [told, Inflow.told, Frame.readAll_of_error hbad]
    rfl
  · simp only [told, Inflow.told, Frame.readAll_of_none hnone, hending]
    rfl

theorem told_of_nothing (hdecode : Frame.decode c.reader.limit c.inflow.octets = .ok none)
    (hending : c.inflow.ending = none) : c.told = ⟨[], none⟩ := by
  simp only [told, Inflow.told, Frame.readAll_of_none hdecode, hending]
  rfl

end Connection

/-! ## 2. Acts -/

theorem InboundQueue.push?_of_room {q : InboundQueue} (hopen : q.closed = none)
    (hroom : q.items.length < q.capacity) (m : Bytes) :
    q.push? m = some (true, { q with items := q.items ++ [m] }) := by
  rw [push?, if_neg (by simp [hopen]), if_pos (by simp [hasRoom, hroom])]

theorem InboundQueue.push?_of_full {q : InboundQueue} (hopen : q.closed = none)
    (hfull : ¬ q.items.length < q.capacity) (m : Bytes) : q.push? m = none := by
  rw [push?, if_neg (by simp [hopen]), if_neg (by simp [hasRoom, hfull])]

/-- What happens on the client's side of a link. -/
inductive LinkAct where
  /-- The reading thread does a step, if it can. -/
  | pump
  | receive (timeout : Duration)
  | setCapacity (capacity : Nat)
  | send (message : Bytes)
  | close
  deriving DecidableEq, Repr

namespace ClientLink

/-- The link after an act. -/
def after (l : ClientLink) : LinkAct → ClientLink
  | .pump => l.pump?.getD l
  | .receive timeout => (l.receive timeout).2
  | .setCapacity capacity => l.setCapacity capacity
  | .send message => (l.send message).2
  | .close => l.close

/-- What an act gives the caller who asks for a message. -/
def given (l : ClientLink) : LinkAct → List (Except LinkError Bytes)
  | .receive timeout => [(l.receive timeout).1]
  | _ => []

/-- The link after acts, one after another. -/
def afterAll (l : ClientLink) (acts : List LinkAct) : ClientLink := acts.foldl after l

/-- What acts give the caller, one after another. -/
def givenIn : ClientLink → List LinkAct → List (Except LinkError Bytes)
  | _, [] => []
  | l, act :: acts => l.given act ++ givenIn (l.after act) acts

/-- The messages among what the caller got. -/
def messagesIn (results : List (Except LinkError Bytes)) : List Bytes :=
  results.filterMap Except.toOption

theorem givenIn_append (l : ClientLink) (first second : List LinkAct) :
    l.givenIn (first ++ second) = l.givenIn first ++ (l.afterAll first).givenIn second := by
  induction first generalizing l with
  | nil => rfl
  | cons act first ih =>
    rw [List.cons_append, givenIn, ih, givenIn, List.append_assoc]
    rfl

theorem afterAll_append (l : ClientLink) (first second : List LinkAct) :
    l.afterAll (first ++ second) = (l.afterAll first).afterAll second := List.foldl_append

/-- A step of the reading thread, while it reads and the queue is open. -/
inductive Pumped (l : ClientLink) : Option ClientLink → Prop
  | message (m : Bytes) (c : Connection) (room : l.queue.items.length < l.queue.capacity)
      (told : l.connection.told = ⟨m :: c.told.messages, c.told.reason?⟩)
      (shorter : c.pending + 2 ≤ l.connection.pending) :
      Pumped l (some { l with
        connection := c, queue := { l.queue with items := l.queue.items ++ [m] } })
  /-- A greeting is passed over. -/
  | skipped (c : Connection) (told : l.connection.told = c.told)
      (shorter : c.pending + 2 ≤ l.connection.pending) : Pumped l (some { l with connection := c })
  | stopped (c : Connection) (reason : String) (told : l.connection.told = ⟨[], some reason⟩) :
      Pumped l (some ({ l with connection := c }.stop reason))
  /-- There is no room for the message. -/
  | full (noRoom : l.queue.capacity ≤ l.queue.items.length) : Pumped l none
  /-- There is nothing to read. -/
  | waiting (told : l.connection.told = ⟨[], none⟩) : Pumped l none

/-- **What one step of the reading thread does.** -/
theorem pumped {l : ClientLink} (hpumping : l.pumping = true) (hopen : l.queue.closed = none) :
    l.Pumped l.pump? := by
  have hreceived := l.connection.received
  rw [pump?, if_neg (by simp [hpumping])]
  generalize l.connection.receive? = outcome at hreceived
  cases hreceived with
  | nothing decoded ending => exact .waiting (Connection.told_of_nothing decoded ending)
  | failure buffer reads reason _ =>
    exact .stopped _ _ (Connection.told_of_failure reason)
  | @frame f buffer reads readable octets ending _ _ shorter =>
    obtain ⟨frames, error, htold, hafter⟩ := Connection.told_of_frame readable octets ending
    have hshorter : (l.connection.read buffer reads).pending + 2 ≤ l.connection.pending := by
      have hlength := f.length_octets
      unfold Frame.headerSize at hlength
      omega
    simp only
    split
    · rename_i hmessage
      rw [Told.ofFrames_message hmessage, ← hafter] at htold
      by_cases hroom : l.queue.items.length < l.queue.capacity
      · rw [InboundQueue.push?_of_room hopen hroom]
        exact .message f.payload _ hroom htold hshorter
      · rw [InboundQueue.push?_of_full hopen hroom]
        exact .full (Nat.le_of_not_lt hroom)
    · rename_i hmessage
      split
      · rename_i hgoodbye
        exact .stopped _ _ (htold.trans (Told.ofFrames_goodbye hgoodbye))
      · rename_i hgoodbye
        rw [Told.ofFrames_other hmessage hgoodbye, ← hafter] at htold
        exact .skipped _ htold hshorter

theorem pump?_of_stopped {l : ClientLink} (h : l.pumping = false) : l.pump? = none := by
  rw [pump?, h]
  rfl

/-- Sending changes the device at most. -/
theorem send_snd (l : ClientLink) (message : Bytes) :
    ∃ device, (l.send message).2 = { l with connection := { l.connection with device := device } } := by
  unfold send
  split
  · exact ⟨_, rfl⟩
  · split
    · exact ⟨_, rfl⟩
    · unfold Connection.send
      generalize l.connection.device.send _ _ = sent
      obtain ⟨_ | ⟨⟩, device⟩ := sent
      · exact ⟨device, rfl⟩
      · exact ⟨device, rfl⟩

/-- Closing a link that this side has not closed yet. -/
theorem close_of_not_closed {l : ClientLink} (h : l.closed = false) :
    ∃ c, l.close = { { l with connection := c }.stop closedHere with closed := true } := by
  unfold close
  rw [h]
  exact ⟨_, rfl⟩

theorem close_of_closed {l : ClientLink} (h : l.closed = true) : l.close = l := if_pos h

/-! ## 3. What acts keep -/

/-- What holds of a link when the caller has got some messages: these, those that wait and those that are
still told are all that there were. -/
inductive Faithful (all : Told) (got : List Bytes) (l : ClientLink) : Prop
  | reading (pumping : l.pumping = true) (isOpen : l.queue.closed = none)
      (messages : got ++ l.queue.items ++ l.connection.told.messages = all.messages)
      (reason : l.connection.told.reason? = all.reason?)
  | stopped (reason : String) (pumping : l.pumping = false) (closed : l.queue.closed = some reason)
      (front : got ++ l.queue.items <+: all.messages)
      (whole : l.closed = false → got ++ l.queue.items = all.messages ∧ all.reason? = some reason)

/-- The caller has got messages from the front. -/
theorem Faithful.front {all : Told} {got : List Bytes} {l : ClientLink} (h : Faithful all got l) :
    got ++ l.queue.items <+: all.messages := by
  cases h with
  | reading _ _ messages _ => exact ⟨_, messages⟩
  | stopped _ _ _ front _ => exact front

/-- Taking a message hands on the first that waits. -/
theorem Faithful.receive {all : Told} {got : List Bytes} {l : ClientLink} (h : Faithful all got l)
    (timeout : Duration) :
    Faithful all (got ++ messagesIn [(l.receive timeout).1]) (l.receive timeout).2 := by
  unfold ClientLink.receive InboundQueue.pop
  cases hitems : l.queue.items with
  | nil =>
    have hsame : ∀ e : LinkError, got ++ messagesIn [.error e] = got := fun _ => List.append_nil _
    cases l.queue.closed <;> (simp only [hsame]; exact h)
  | cons m items =>
    have hnext : ∀ rest : List Bytes, got ++ messagesIn [.ok m] ++ rest = got ++ (m :: rest) := by
      intro rest
      rw [List.append_assoc]
      rfl
    cases h with
    | reading pumping isOpen messages reason =>
      refine .reading pumping isOpen ?_ reason
      rw [hitems] at messages
      rw [hnext]
      exact messages
    | stopped reason pumping closed front whole =>
      rw [hitems] at front whole
      refine .stopped reason pumping closed ?_ ?_
      · rw [hnext]
        exact front
      · rw [hnext]
        exact whole

/-- A step of the reading thread queues what is told next. -/
theorem Faithful.pump {all : Told} {got : List Bytes} {l : ClientLink} (h : Faithful all got l) :
    Faithful all got (l.pump?.getD l) := by
  cases h with
  | stopped reason pumping closed front whole =>
    rw [pump?_of_stopped pumping]
    exact .stopped reason pumping closed front whole
  | reading pumping isOpen messages reason =>
    have hpumped := pumped pumping isOpen
    generalize l.pump? = outcome at hpumped
    cases hpumped with
    | message m c _ told _ =>
      rw [told] at messages reason
      refine .reading pumping isOpen ?_ reason
      show got ++ (l.queue.items ++ [m]) ++ c.told.messages = all.messages
      rw [← messages, List.append_assoc, List.append_assoc, List.append_assoc]
      rfl
    | skipped c told _ =>
      rw [told] at messages reason
      exact .reading pumping isOpen messages reason
    | stopped c reason' told =>
      rw [told] at messages reason
      rw [List.append_nil] at messages
      have hitems : got ++ (l.queue.close reason').items = all.messages := by
        rw [InboundQueue.items_close]
        exact messages
      refine .stopped reason' rfl ?_ ⟨[], ?_⟩ fun _ => ⟨hitems, reason.symm⟩
      · show (l.queue.close reason').closed = some reason'
        rw [InboundQueue.closed_close, isOpen]
        rfl
      · rw [List.append_nil]
        exact hitems
    | full _ => exact .reading pumping isOpen messages reason
    | waiting _ => exact .reading pumping isOpen messages reason

/-- Closing the link leaves the messages that wait. -/
theorem Faithful.close {all : Told} {got : List Bytes} {l : ClientLink} (h : Faithful all got l) :
    Faithful all got l.close := by
  cases hclosed : l.closed with
  | true =>
    rw [close_of_closed hclosed]
    exact h
  | false =>
    obtain ⟨c, hclose⟩ := close_of_not_closed hclosed
    rw [hclose]
    refine .stopped (l.queue.closed.getD closedHere) rfl (InboundQueue.closed_close ..) ?_
      (fun hopen => nomatch hopen)
    show got ++ (l.queue.close closedHere).items <+: all.messages
    rw [InboundQueue.items_close]
    exact h.front

/-- **What one act keeps.** -/
theorem Faithful.after {all : Told} {got : List Bytes} {l : ClientLink} (h : Faithful all got l)
    (act : LinkAct) : Faithful all (got ++ messagesIn (l.given act)) (l.after act) := by
  have hnone : got ++ messagesIn [] = got := List.append_nil _
  cases act with
  | pump => exact hnone.symm ▸ h.pump
  | receive timeout => exact h.receive timeout
  | setCapacity capacity =>
    show Faithful all (got ++ messagesIn []) (l.setCapacity capacity)
    rw [hnone]
    cases h with
    | reading pumping isOpen messages reason => exact .reading pumping isOpen messages reason
    | stopped reason pumping closed front whole => exact .stopped reason pumping closed front whole
  | send message =>
    obtain ⟨device, hsend⟩ := l.send_snd message
    show Faithful all (got ++ messagesIn []) (l.send message).2
    rw [hnone, hsend]
    cases h with
    | reading pumping isOpen messages reason => exact .reading pumping isOpen messages reason
    | stopped reason pumping closed front whole => exact .stopped reason pumping closed front whole
  | close => exact hnone.symm ▸ h.close

theorem Faithful.afterAll {all : Told} {got : List Bytes} {l : ClientLink} (h : Faithful all got l)
    (acts : List LinkAct) : Faithful all (got ++ messagesIn (l.givenIn acts)) (l.afterAll acts) := by
  induction acts generalizing got l with
  | nil =>
    rw [show got ++ messagesIn (l.givenIn []) = got from List.append_nil _]
    exact h
  | cons act acts ih =>
    have hmore := ih (h.after act)
    rw [List.append_assoc] at hmore
    rw [givenIn, show messagesIn (l.given act ++ (l.after act).givenIn acts) =
      messagesIn (l.given act) ++ messagesIn ((l.after act).givenIn acts) from List.filterMap_append]
    exact hmore

/-- A link has something to tell, and the caller has got nothing, when it is made. -/
theorem faithful_start (e : Established) (c : Connection) (config : LinkConfig) :
    Faithful (c.inflow.told config.maxPayload) [] (start e c config) :=
  .reading rfl rfl rfl rfl

theorem closed_after (l : ClientLink) {act : LinkAct} (h : act ≠ .close) :
    (l.after act).closed = l.closed := by
  cases act with
  | pump =>
    show (l.pump?.getD l).closed = l.closed
    unfold pump?
    split
    · rfl
    · split
      · rfl
      · rfl
      · split
        · split <;> rfl
        · split <;> rfl
  | receive timeout =>
    show (l.receive timeout).2.closed = l.closed
    unfold receive
    split <;> rfl
  | setCapacity capacity => rfl
  | send message =>
    obtain ⟨device, hsend⟩ := l.send_snd message
    show (l.send message).2.closed = l.closed
    rw [hsend]
  | close => exact absurd rfl h

theorem closed_afterAll (l : ClientLink) {acts : List LinkAct} (h : LinkAct.close ∉ acts) :
    (l.afterAll acts).closed = l.closed := by
  induction acts generalizing l with
  | nil => rfl
  | cons act acts ih =>
    have hact : act ≠ .close := fun hact => h (hact ▸ List.mem_cons_self)
    have hacts : LinkAct.close ∉ acts := fun hacts => h (List.mem_cons_of_mem _ hacts)
    exact (ih (l.after act) hacts).trans (l.closed_after hact)

/-! ## 4. A link that is done -/

/-- A link from which nothing comes any more, for some reason. -/
structure Drained (reason : String) (l : ClientLink) : Prop where
  stopped : l.pumping = false
  empty : l.queue.items = []
  closed : l.queue.closed = some reason

theorem Drained.receive {reason : String} {l : ClientLink} (h : Drained reason l)
    (timeout : Duration) : l.receive timeout = (.error (.closed reason), l) := by
  rw [ClientLink.receive, InboundQueue.pop, h.empty, h.closed]

/-- **A link that is done stays so**, and says the same to whoever asks. -/
theorem Drained.after {reason : String} {l : ClientLink} (h : Drained reason l) (act : LinkAct) :
    Drained reason (l.after act) ∧ ∀ result ∈ l.given act, result = .error (.closed reason) := by
  have hnone : ∀ result : Except LinkError Bytes, result ∈ [] → result = .error (.closed reason) :=
    fun _ hresult => absurd hresult List.not_mem_nil
  cases act with
  | pump =>
    refine ⟨?_, hnone⟩
    show Drained reason (l.pump?.getD l)
    rw [pump?_of_stopped h.stopped]
    exact h
  | receive timeout =>
    show Drained reason (l.receive timeout).2 ∧ ∀ result ∈ [(l.receive timeout).1], _
    rw [h.receive timeout]
    exact ⟨h, fun result hresult => List.mem_singleton.mp hresult⟩
  | setCapacity capacity => exact ⟨⟨h.stopped, h.empty, h.closed⟩, hnone⟩
  | send message =>
    refine ⟨?_, hnone⟩
    obtain ⟨device, hsend⟩ := l.send_snd message
    show Drained reason (l.send message).2
    rw [hsend]
    exact ⟨h.stopped, h.empty, h.closed⟩
  | close =>
    refine ⟨?_, hnone⟩
    show Drained reason l.close
    cases hclosed : l.closed with
    | true =>
      rw [close_of_closed hclosed]
      exact h
    | false =>
      obtain ⟨c, hclose⟩ := close_of_not_closed hclosed
      rw [hclose]
      refine ⟨rfl, (InboundQueue.items_close ..).trans h.empty, ?_⟩
      show (l.queue.close closedHere).closed = some reason
      rw [InboundQueue.closed_close, h.closed]
      rfl

theorem Drained.afterAll {reason : String} {l : ClientLink} (h : Drained reason l)
    (acts : List LinkAct) :
    Drained reason (l.afterAll acts) ∧ ∀ result ∈ l.givenIn acts, result = .error (.closed reason) := by
  induction acts generalizing l with
  | nil => exact ⟨h, fun _ hresult => absurd hresult List.not_mem_nil⟩
  | cons act acts ih =>
    obtain ⟨hact, hgiven⟩ := h.after act
    obtain ⟨hacts, hmore⟩ := ih hact
    refine ⟨hacts, fun result hresult => ?_⟩
    rcases List.mem_append.mp hresult with hresult | hresult
    · exact hgiven result hresult
    · exact hmore result hresult

/-- Whoever is told that a link is closed has got all that it told, if this side did not close it. -/
theorem Faithful.drained {all : Told} {got : List Bytes} {l : ClientLink} (h : Faithful all got l)
    {timeout : Duration} {reason : String}
    (hreceive : (l.receive timeout).1 = .error (.closed reason)) :
    Drained reason l ∧ (l.closed = false → got = all.messages ∧ all.reason? = some reason) := by
  unfold ClientLink.receive InboundQueue.pop at hreceive
  cases hitems : l.queue.items with
  | cons m items =>
    rw [hitems] at hreceive
    cases hreceive
  | nil =>
    rw [hitems] at hreceive
    cases h with
    | reading _ isOpen _ _ =>
      rw [isOpen] at hreceive
      cases hreceive
    | stopped reason' pumping closed _ whole =>
      rw [closed] at hreceive
      cases hreceive
      rw [hitems, List.append_nil] at whole
      exact ⟨⟨pumping, hitems, closed⟩, whole⟩

/-! ## 5. Everything arrives in the end -/

/-- What is still to be read and to be taken. -/
def weight (l : ClientLink) : Nat :=
  (if l.pumping then l.connection.pending + 1 else 0) + l.queue.items.length

/-- A step that the reading thread does makes the link lighter. -/
theorem weight_pump {l l' : ClientLink} (hopen : l.pumping = true → l.queue.closed = none)
    (h : l.pump? = some l') : l'.weight < l.weight := by
  have hpumping : l.pumping = true := by
    cases hpumping : l.pumping with
    | true => rfl
    | false =>
      rw [pump?_of_stopped hpumping] at h
      cases h
  have hpumped := pumped hpumping (hopen hpumping)
  rw [h] at hpumped
  unfold weight
  rw [if_pos hpumping]
  cases hpumped with
  | message m c room told shorter =>
    simp only [hpumping, if_true, List.length_append, List.length_singleton]
    omega
  | skipped c told shorter =>
    simp only [hpumping, if_true]
    omega
  | stopped c reason told =>
    simp only [stop, InboundQueue.items_close, Bool.false_eq_true, if_false]
    omega

/-- So does taking a message that waits. -/
theorem weight_receive (l : ClientLink) (timeout : Duration) :
    (l.queue.items = [] ∧ (l.receive timeout).2 = l) ∨
      (l.receive timeout).2.weight < l.weight := by
  unfold receive InboundQueue.pop
  cases hitems : l.queue.items with
  | nil =>
    refine .inl ⟨rfl, ?_⟩
    cases l.queue.closed <;> rfl
  | cons m items =>
    refine .inr ?_
    simp only [weight, hitems, List.length_cons]
    omega

/-- **Every act of the reading thread and of the caller makes the link lighter**, or changes nothing that
waits: then there was nothing to read, or nothing to take. -/
theorem weight_after {l : ClientLink} (hopen : l.pumping = true → l.queue.closed = none) {act : LinkAct}
    (hact : act ≠ .close) :
    (l.after act).weight < l.weight ∨
      ((l.after act).weight = l.weight ∧ (l.after act).queue.items = l.queue.items ∧
        (act = .pump → l.pump? = none) ∧
        ((∃ timeout, act = .receive timeout) → l.queue.items = [])) := by
  cases act with
  | pump =>
    have hafter : l.after .pump = l.pump?.getD l := rfl
    rw [hafter]
    cases hpump : l.pump? with
    | some l' => exact .inl (weight_pump hopen hpump)
    | none => exact .inr ⟨rfl, rfl, fun _ => rfl, nofun⟩
  | receive timeout =>
    rcases l.weight_receive timeout with ⟨hempty, hsame⟩ | hlighter
    · have hafter : l.after (.receive timeout) = l := hsame
      rw [hafter]
      exact .inr ⟨rfl, rfl, nofun, fun _ => hempty⟩
    · exact .inl hlighter
  | setCapacity capacity => exact .inr ⟨rfl, rfl, nofun, nofun⟩
  | send message =>
    obtain ⟨device, hsend⟩ := l.send_snd message
    have hafter : l.after (.send message) = _ := hsend
    rw [hafter]
    exact .inr ⟨rfl, rfl, nofun, nofun⟩
  | close => exact absurd rfl hact

/-- What only gets less stays the same from some time on. -/
theorem exists_steady (f : Nat → Nat) (hfalls : ∀ n, f (n + 1) ≤ f n) :
    ∃ n, ∀ m, n ≤ m → f (m + 1) = f m := by
  have hleast : ∀ n, f (Function.argmin f) ≤ f n := fun n => Function.argmin_le f n
  have hsame : ∀ count, f (Function.argmin f + count) = f (Function.argmin f) := by
    intro count
    induction count with
    | zero => rfl
    | succ count ih => exact Nat.le_antisymm (ih ▸ hfalls _) (hleast _)
  refine ⟨Function.argmin f, fun m hm => ?_⟩
  obtain ⟨count, rfl⟩ := Nat.exists_eq_add_of_le hm
  exact (hsame (count + 1)).trans (hsame count).symm

/-- An order of acts in which the reading thread and the caller both come again and again, and the caller
never closes the link. -/
structure Fair (schedule : Nat → LinkAct) : Prop where
  reads : ∀ n, ∃ m, n ≤ m ∧ schedule m = .pump
  asks : ∀ n, ∃ m, n ≤ m ∧ ∃ timeout, schedule m = .receive timeout
  stays : ∀ n, schedule n ≠ .close

/-- The first acts of a schedule. -/
def upTo (schedule : Nat → LinkAct) (count : Nat) : List LinkAct := (List.range count).map schedule

theorem upTo_succ (schedule : Nat → LinkAct) (count : Nat) :
    upTo schedule (count + 1) = upTo schedule count ++ [schedule count] := by
  rw [upTo, List.range_succ, List.map_append]
  rfl

theorem upTo_add (schedule : Nat → LinkAct) (count more : Nat) :
    upTo schedule (count + more) =
      upTo schedule count ++ upTo (fun n => schedule (count + n)) more := by
  rw [upTo, List.range_add, List.map_append, List.map_map]
  rfl

theorem Fair.close_not_mem {schedule : Nat → LinkAct} (h : Fair schedule) (count : Nat) :
    LinkAct.close ∉ upTo schedule count := by
  intro hmem
  obtain ⟨n, -, hn⟩ := List.mem_map.mp hmem
  exact h.stays n hn

/-- **In the end there is nothing to read and nothing to take.** -/
theorem Fair.settles {schedule : Nat → LinkAct} (hfair : Fair schedule) {all : Told} {l : ClientLink}
    (h : Faithful all [] l) :
    ∃ n, (l.afterAll (upTo schedule n)).pump? = none ∧
      (l.afterAll (upTo schedule n)).queue.items = [] := by
  have hstep : ∀ n, l.afterAll (upTo schedule (n + 1)) =
      (l.afterAll (upTo schedule n)).after (schedule n) := by
    intro n
    rw [upTo_succ, afterAll_append]
    rfl
  have hopen : ∀ n, (l.afterAll (upTo schedule n)).pumping = true →
      (l.afterAll (upTo schedule n)).queue.closed = none := by
    intro n hpumping
    cases h.afterAll (upTo schedule n) with
    | reading _ isOpen _ _ => exact isOpen
    | stopped _ pumping _ _ _ =>
      rw [hpumping] at pumping
      cases pumping
  have hafter := fun n => weight_after (hopen n) (hfair.stays n)
  obtain ⟨lightest, hsteady⟩ := exists_steady
    (fun n => (l.afterAll (upTo schedule n)).weight) fun n => by
      rw [hstep]
      exact (hafter n).elim Nat.le_of_lt fun hidle => Nat.le_of_eq hidle.1
  -- no act makes the link lighter any more, so that none finds anything to do
  have hidle : ∀ n, lightest ≤ n →
      (l.afterAll (upTo schedule (n + 1))).queue.items =
          (l.afterAll (upTo schedule n)).queue.items ∧
        (schedule n = .pump → (l.afterAll (upTo schedule n)).pump? = none) ∧
        ((∃ timeout, schedule n = .receive timeout) →
          (l.afterAll (upTo schedule n)).queue.items = []) := by
    intro n hn
    have hequal := hsteady n hn
    rw [hstep] at hequal
    rw [hstep]
    rcases hafter n with hlighter | ⟨-, hidle⟩
    · exact absurd hequal (Nat.ne_of_lt hlighter)
    · exact hidle
  obtain ⟨asked, hasked, hask⟩ := hfair.asks lightest
  have hempty : ∀ count, (l.afterAll (upTo schedule (asked + count))).queue.items = [] := by
    intro count
    induction count with
    | zero => exact (hidle asked hasked).2.2 hask
    | succ count ih =>
      exact (hidle (asked + count) (Nat.le_trans hasked (Nat.le_add_right ..))).1.trans ih
  obtain ⟨pumped, hpumped, hpump⟩ := hfair.reads asked
  obtain ⟨count, rfl⟩ := Nat.exists_eq_add_of_le hpumped
  exact ⟨asked + count,
    (hidle _ (Nat.le_trans hasked (Nat.le_add_right ..))).2.1 hpump, hempty count⟩

/-- **Whoever keeps asking a link that is done is told so**, and gets no message any more. -/
theorem Fair.told {schedule : Nat → LinkAct} (hfair : Fair schedule) {l : ClientLink} {count : Nat}
    {reason : String} (hdone : Drained reason (l.afterAll (upTo schedule count))) :
    ∃ later, messagesIn (l.givenIn (upTo schedule later)) =
        messagesIn (l.givenIn (upTo schedule count)) ∧
      .error (.closed reason) ∈ l.givenIn (upTo schedule later) := by
  obtain ⟨asked, hasked, timeout, hask⟩ := hfair.asks count
  obtain ⟨more, rfl⟩ := Nat.exists_eq_add_of_le hasked
  have hgiven : l.givenIn (upTo schedule (count + (more + 1))) = l.givenIn (upTo schedule count) ++
      (l.afterAll (upTo schedule count)).givenIn (upTo (fun n => schedule (count + n)) (more + 1)) := by
    rw [upTo_add, givenIn_append]
  have hclosed := (hdone.afterAll (upTo (fun n => schedule (count + n)) (more + 1))).2
  have hnone : messagesIn ((l.afterAll (upTo schedule count)).givenIn
      (upTo (fun n => schedule (count + n)) (more + 1))) = [] := by
    refine List.filterMap_eq_nil_iff.mpr fun result hresult => ?_
    rw [hclosed result hresult]
    rfl
  refine ⟨count + (more + 1), ?_, ?_⟩
  · rw [hgiven, messagesIn, List.filterMap_append]
    exact (congrArg (_ ++ ·) hnone).trans (List.append_nil _)
  · rw [hgiven, upTo_succ, givenIn_append, hask]
    refine List.mem_append_right _ (List.mem_append_right _ ?_)
    have hasked := (hdone.afterAll (upTo (fun n => schedule (count + n)) more)).1.receive timeout
    exact List.mem_append_left _ (List.mem_singleton.mpr (congrArg Prod.fst hasked).symm)

/-! ## 6. What the caller gets -/

/-- **The caller gets the messages that are told, and nothing else.**  Whatever the order of the acts, what
the caller has got is from the front of these messages.  Whoever is told that the link is closed has got
all of them, unless this side closed the link, and for the reason that is told; and the reason never
changes.  Where reading and asking go on, all messages arrive in the end, and so does the reason if there
is one. -/
theorem delivers_what_is_told (e : Established) (c : Connection) (config : LinkConfig) :
    (∀ acts, messagesIn ((start e c config).givenIn acts) <+: (c.inflow.told config.maxPayload).messages) ∧
      (∀ acts timeout reason,
        (((start e c config).afterAll acts).receive timeout).1 = .error (.closed reason) →
          (∀ more, ∀ result ∈ ((start e c config).afterAll acts).givenIn more,
            result = .error (.closed reason)) ∧
          (LinkAct.close ∉ acts →
            messagesIn ((start e c config).givenIn acts) = (c.inflow.told config.maxPayload).messages ∧
              (c.inflow.told config.maxPayload).reason? = some reason)) ∧
      ∀ schedule, Fair schedule → ∃ count,
        messagesIn ((start e c config).givenIn (upTo schedule count)) =
            (c.inflow.told config.maxPayload).messages ∧
          ∀ reason, (c.inflow.told config.maxPayload).reason? = some reason →
            .error (.closed reason) ∈ (start e c config).givenIn (upTo schedule count) := by
  have hfaithful := fun acts => (faithful_start e c config).afterAll acts
  simp only [List.nil_append] at hfaithful
  refine ⟨fun acts => ?_, fun acts timeout reason hreceive => ?_, fun schedule hfair => ?_⟩
  · exact (List.prefix_append ..).trans (hfaithful acts).front
  · obtain ⟨hdrained, hwhole⟩ := (hfaithful acts).drained hreceive
    exact ⟨fun more => (hdrained.afterAll more).2, fun hstays => hwhole (closed_afterAll _ hstays)⟩
  · obtain ⟨count, hpump, hempty⟩ := hfair.settles (faithful_start e c config)
    have hopen := closed_afterAll (start e c config) (hfair.close_not_mem count)
    cases hfaithful (upTo schedule count) with
    | reading pumping isOpen messages reason =>
      have hpumped := pumped pumping isOpen
      rw [hpump] at hpumped
      rw [hempty, List.append_nil] at messages
      cases hpumped with
      | full noRoom =>
        rw [hempty] at noRoom
        exact absurd (InboundQueue.capacity_pos _) (Nat.not_le.mpr (Nat.lt_succ_of_le noRoom))
      | waiting told =>
        rw [told] at messages reason
        rw [List.append_nil] at messages
        refine ⟨count, messages, fun reason' hreason' => ?_⟩
        rw [← reason] at hreason'
        cases hreason'
    | stopped reason pumping closed front whole =>
      -- the next time that the caller asks, it is told so
      obtain ⟨hmessages, hreason⟩ := whole hopen
      rw [hempty, List.append_nil] at hmessages
      obtain ⟨later, hsame, htold⟩ := hfair.told ⟨pumping, hempty, closed⟩
      refine ⟨later, hsame.trans hmessages, fun reason' hreason' => ?_⟩
      rw [hreason] at hreason'
      exact Option.some.inj hreason' ▸ htold

/-- The reading thread and the caller take turns. -/
def takingTurns (n : Nat) : LinkAct := if n % 2 = 0 then .pump else .receive .zero

theorem fair_takingTurns : Fair takingTurns where
  reads n := ⟨2 * n, by omega, by rw [takingTurns, if_pos (by omega)]⟩
  asks n := ⟨2 * n + 1, by omega, .zero, by rw [takingTurns, if_neg (by omega)]⟩
  stays n := by
    unfold takingTurns
    split <;> exact nofun

/-- A connection on which a message, a greeting, another message, a goodbye and a third message have come,
cut within the first. -/
def farewellAmid : Connection :=
  let octets := [⟨FrameKind.message, [1]⟩, ⟨FrameKind.hello, []⟩, ⟨FrameKind.message, [2]⟩,
    ⟨FrameKind.goodbye, [0x62, 0x79, 0x65]⟩, ⟨FrameKind.message, [3]⟩].flatMap Frame.octets
  { reads := [.data (octets.take 6), .data (octets.drop 6)] }

theorem delivers_up_to_farewell :
    Fair takingTurns ∧ ∃ count,
      messagesIn ((start ⟨"daq", "session-1", "1.0"⟩ farewellAmid {}).givenIn
          (upTo takingTurns count)) = [[1], [2]] ∧
        .error (.closed "peer closed the link: bye") ∈
          (start ⟨"daq", "session-1", "1.0"⟩ farewellAmid {}).givenIn (upTo takingTurns count) := by
  have htold : farewellAmid.inflow.told ({} : LinkConfig).maxPayload =
      ⟨[[1], [2]], some "peer closed the link: bye"⟩ := by decide +kernel
  obtain ⟨-, -, hall⟩ := delivers_what_is_told ⟨"daq", "session-1", "1.0"⟩ farewellAmid {}
  obtain ⟨count, hmessages, hreason⟩ := hall takingTurns fair_takingTurns
  rw [htold] at hmessages hreason
  exact ⟨fair_takingTurns, count, hmessages, hreason _ rfl⟩

end ClientLink

end Readout

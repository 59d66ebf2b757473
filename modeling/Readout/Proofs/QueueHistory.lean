/-
# What has happened to an inbound queue

The reader of a link, the operations on it and whoever ends it work on one inbound queue, each with steps
that no other step interrupts.  A history is the list of these steps in the order in which they took effect,
each with the party that took it.  A push that has to wait takes no step until it can.

A history alone says what the queue holds: the messages that were taken and not yet given out (`waiting`),
the capacity set last (`inForce`), and the first reason for closing it (`reason?`).  It also says which steps
are possible next (`Allows`), which no look at the queue is needed for.

* `Agrees.step` -- what one step keeps: it is one that the history allows, and the queue agrees with the
  history afterwards;
* `reaches_iff` -- the histories that a queue can have, and the queue after each of them.
-/
import Readout.Link.Inbound
import Mathlib.Data.List.Induction

namespace Readout.InboundQueue

/-! ## 1. Steps, by any number of parties -/

/-- What a party sees of its step. -/
inductive Event where
  /-- A push, and whether the queue took the message. -/
  | pushed (message : Bytes) (accepted : Bool)
  /-- What asking for a message came to. -/
  | popped (result : Popped)
  /-- The capacity was set. -/
  | resized (capacity : Nat)
  /-- The queue was closed, or was closed before. -/
  | closedFor (reason : String)
  deriving DecidableEq, Repr

/-- The steps: a push is one of them only while `push?` has an answer. -/
inductive Step : InboundQueue → Event → InboundQueue → Prop
  | push {q q' : InboundQueue} {message : Bytes} {accepted : Bool}
      (answer : q.push? message = some (accepted, q')) : Step q (.pushed message accepted) q'
  | pop (q : InboundQueue) : Step q (.popped q.pop.1) q.pop.2
  | resize (q : InboundQueue) (capacity : Nat) : Step q (.resized capacity) (q.setCapacity capacity)
  | close (q : InboundQueue) (reason : String) : Step q (.closedFor reason) (q.close reason)

/-- The steps taken so far, each with the number of its party. -/
abbrev History := List (Nat × Event)

/-- The queue after a history that began with a new queue of the capacity `first`. -/
inductive Reaches (first : Nat) : History → InboundQueue → Prop
  | start : Reaches first [] (create first)
  | step {history : History} {q q' : InboundQueue} (party : Nat) {event : Event}
      (reached : Reaches first history q) (taken : Step q event q') :
      Reaches first (history ++ [(party, event)]) q'

/-! ## 2. What a history says -/

/-- The message of a push that the queue accepted. -/
def Event.accepted? : Event → Option Bytes
  | .pushed message true => some message
  | _ => none

/-- The message that was given out. -/
def Event.given? : Event → Option Bytes
  | .popped (.message message) => some message
  | _ => none

/-- The reason that was named for closing. -/
def Event.reason? : Event → Option String
  | .closedFor reason => some reason
  | _ => none

/-- The capacity that was set, of which zero counts as one. -/
def Event.capacity? : Event → Option Nat
  | .resized capacity => some (max capacity 1)
  | _ => none

/-- The messages of the pushes that returned true, in order. -/
def accepted (history : History) : List Bytes := history.filterMap (·.2.accepted?)

/-- The messages popped, in order. -/
def given (history : History) : List Bytes := history.filterMap (·.2.given?)

/-- The messages accepted and not yet popped. -/
def waiting (history : History) : List Bytes := (accepted history).drop (given history).length

/-- The reason of the first close. -/
def reason? (history : History) : Option String := history.findSome? (·.2.reason?)

/-- The capacities that were in force, the one in force now last. -/
def capacities (first : Nat) (history : History) : List Nat :=
  max first 1 :: history.filterMap (·.2.capacity?)

/-- The capacity set last, or the initial one. -/
def inForce (first : Nat) (history : History) : Nat :=
  (history.filterMap (·.2.capacity?)).getLast?.getD (max first 1)

/-- The largest capacity set so far. -/
def largest (first : Nat) (history : History) : Nat := (capacities first history).foldl max 0

/-- **The steps that are possible after a history.**  A push is taken as long as the queue is open and the
message fits in the capacity in force, and refused once it is closed, whatever the capacity. -/
def Allows (first : Nat) (before : History) : Event → Prop
  | .pushed _ true => reason? before = none ∧ (waiting before).length + 1 ≤ inForce first before
  | .pushed _ false => (reason? before).isSome
  | .popped (.message message) => (waiting before).head? = some message
  | .popped .timedOut => waiting before = [] ∧ reason? before = none
  | .popped (.closed reason) => waiting before = [] ∧ reason? before = some reason
  | .resized _ => True
  | .closedFor _ => True

/-- Every step was possible after the ones before it. -/
def Lawful (first : Nat) (history : History) : Prop :=
  ∀ before act behind, history = before ++ act :: behind → Allows first before act.2

/-- The queue is what the history says. -/
structure Agrees (first : Nat) (history : History) (q : InboundQueue) : Prop where
  /-- No message is lost, made twice or overtaken. -/
  messages : given history ++ q.items = accepted history
  capacity : q.capacity = inForce first history
  /-- There is always room for one message at least. -/
  capacity_pos : 1 ≤ q.capacity
  length_le : q.items.length ≤ largest first history
  closed : q.closed = reason? history

section Snoc

variable (first : Nat) (history : History) (party : Nat) (event : Event)

theorem accepted_snoc :
    accepted (history ++ [(party, event)]) = accepted history ++ event.accepted?.toList := by
  cases h : event.accepted? <;> simp [accepted, h]

theorem given_snoc : given (history ++ [(party, event)]) = given history ++ event.given?.toList := by
  cases h : event.given? <;> simp [given, h]

theorem reason?_snoc :
    reason? (history ++ [(party, event)]) = (reason? history).or event.reason? := by
  cases h : event.reason? <;> simp [reason?, h]

theorem inForce_snoc :
    inForce first (history ++ [(party, event)]) = event.capacity?.getD (inForce first history) := by
  cases h : event.capacity? <;> simp [inForce, h]

theorem largest_snoc :
    largest first (history ++ [(party, event)]) =
      max (largest first history) (event.capacity?.getD 0) := by
  cases h : event.capacity? <;> simp [largest, capacities, h]

end Snoc

theorem inForce_le_largest (first : Nat) (history : History) :
    inForce first history ≤ largest first history := by
  induction history using List.reverseRecOn with
  | nil => simp [inForce, largest, capacities]
  | append_singleton history act ih =>
    obtain ⟨party, event⟩ := act
    rw [inForce_snoc, largest_snoc]
    cases event.capacity? with
    | none => exact Nat.le_trans ih (Nat.le_max_left ..)
    | some capacity => exact Nat.le_max_right ..

theorem lawful_snoc (first : Nat) (history : History) (act : Nat × Event) :
    Lawful first (history ++ [act]) ↔ Lawful first history ∧ Allows first history act.2 := by
  constructor
  · intro h
    refine ⟨?_, h history act [] rfl⟩
    intro before a behind hsplit
    exact h before a (behind ++ [act]) (by simp [hsplit])
  · rintro ⟨h, hlast⟩ before a behind hsplit
    rcases List.eq_nil_or_concat behind with rfl | ⟨middle, b, rfl⟩
    · obtain ⟨rfl, hact⟩ := List.append_inj' hsplit rfl
      rw [← List.head_eq_of_cons_eq hact]
      exact hlast
    · have hsame : history ++ [act] = (before ++ a :: middle) ++ [b] := by simp [hsplit]
      exact h before a middle (List.append_inj' hsame rfl).1

/-! ## 3. One step -/

namespace Agrees

variable {first : Nat} {history : History} {q q' : InboundQueue}

theorem waiting_eq (h : Agrees first history q) : waiting history = q.items := by
  rw [waiting, ← h.messages, List.drop_left]

/-- One queue at most agrees with a history. -/
theorem unique (h : Agrees first history q) (h' : Agrees first history q') : q = q' := by
  have hitems : q.items = q'.items := h.waiting_eq.symm.trans h'.waiting_eq
  have hcapacity : q.capacity = q'.capacity := h.capacity.trans h'.capacity.symm
  have hclosed : q.closed = q'.closed := h.closed.trans h'.closed.symm
  cases q
  cases q'
  simp_all

/-- A step that leaves the capacity alone keeps the bound on it and on the length. -/
theorem of_capacity (h : Agrees first history q) (party : Nat) {event : Event}
    (hevent : event.capacity? = none) (hcapacity : q'.capacity = q.capacity)
    (hlength : q'.items.length ≤ q.items.length ∨ q'.items.length ≤ q.capacity)
    (hmessages : given history ++ event.given?.toList ++ q'.items =
      accepted history ++ event.accepted?.toList)
    (hclosed : q'.closed = (reason? history).or event.reason?) :
    Agrees first (history ++ [(party, event)]) q' where
  messages := by rw [given_snoc, accepted_snoc, hmessages]
  capacity := by rw [inForce_snoc, hevent, hcapacity, h.capacity, Option.getD_none]
  capacity_pos := hcapacity ▸ h.capacity_pos
  length_le := by
    rw [largest_snoc, hevent]
    have hlargest : q.capacity ≤ largest first history := h.capacity ▸ inForce_le_largest first history
    have hold := h.length_le
    omega
  closed := by rw [reason?_snoc, hclosed]

/-- **What one step keeps**: it is one that the history allows, and the queue agrees with the history that
it makes longer. -/
theorem step (h : Agrees first history q) (party : Nat) {event : Event} (taken : Step q event q') :
    Allows first history event ∧ Agrees first (history ++ [(party, event)]) q' := by
  cases taken with
  | @push _ message accepted answer =>
    unfold push? at answer
    split at answer
    next hclosed =>
      -- the push was refused, and nothing changes
      obtain ⟨rfl, rfl⟩ := Prod.mk.inj (Option.some.inj answer)
      refine ⟨?_, h.of_capacity party rfl rfl (.inl (Nat.le_refl _)) ?_ ?_⟩
      · rw [h.closed] at hclosed
        exact hclosed
      · simpa [Event.given?, Event.accepted?] using h.messages
      · simpa [Event.reason?] using h.closed
    next hopen =>
      split at answer
      next hroom =>
        obtain ⟨rfl, rfl⟩ := Prod.mk.inj (Option.some.inj answer)
        have hlt : q.items.length < q.capacity := by simpa [hasRoom] using hroom
        have hnone : reason? history = none := by
          rw [← h.closed]
          exact Option.not_isSome_iff_eq_none.mp hopen
        refine ⟨⟨hnone, ?_⟩, h.of_capacity party rfl rfl (.inr ?_) ?_ ?_⟩
        · rw [h.waiting_eq, ← h.capacity]
          exact hlt
        · rw [List.length_append]
          exact hlt
        · simp [Event.given?, Event.accepted?, ← h.messages]
        · simp [Event.reason?, h.closed]
      next => cases answer
  | pop =>
    unfold pop
    split
    next message items hitems =>
      refine ⟨?_, h.of_capacity party rfl rfl (.inl ?_) ?_ ?_⟩
      · simp [Allows, h.waiting_eq, hitems]
      · simp [hitems]
      · simp [Event.given?, Event.accepted?, ← h.messages, hitems]
      · simpa [Event.reason?] using h.closed
    next hitems =>
      have hkept : ∀ result, Event.given? (.popped result) = none →
          Agrees first (history ++ [(party, .popped result)]) q := by
        intro result hresult
        refine h.of_capacity party rfl rfl (.inl (Nat.le_refl _)) ?_ ?_
        · simpa [hresult, Event.accepted?] using h.messages
        · simpa [Event.reason?] using h.closed
      split
      next reason hclosed =>
        refine ⟨⟨?_, ?_⟩, hkept _ rfl⟩
        · rw [h.waiting_eq, hitems]
        · rw [← h.closed, hclosed]
      next hclosed =>
        refine ⟨⟨?_, ?_⟩, hkept _ rfl⟩
        · rw [h.waiting_eq, hitems]
        · rw [← h.closed, hclosed]
  | resize =>
    rename_i capacity
    refine ⟨trivial, ?_⟩
    constructor
    · simpa [given_snoc, accepted_snoc, Event.given?, Event.accepted?, setCapacity] using h.messages
    · simp [inForce_snoc, Event.capacity?, setCapacity]
    · exact Nat.le_max_right ..
    · -- the messages stay, also when there are now more of them than may wait
      rw [largest_snoc]
      exact Nat.le_trans h.length_le (Nat.le_max_left ..)
    · simpa [reason?_snoc, Event.reason?, setCapacity] using h.closed
  | close =>
    rename_i reason
    refine ⟨trivial, h.of_capacity party rfl ?_ (.inl ?_) ?_ ?_⟩
    · unfold close
      split <;> rfl
    · exact Nat.le_of_eq (congrArg List.length (items_close q reason))
    · simpa [Event.given?, Event.accepted?] using h.messages
    · rw [closed_close, h.closed]
      cases reason? history <;> rfl

/-- Whatever the history allows can be done. -/
theorem progress (h : Agrees first history q) {event : Event} (allowed : Allows first history event) :
    ∃ q', Step q event q' := by
  have hpop : ∀ result, q.pop.1 = result → ∃ q', Step q (.popped result) q' := by
    rintro result rfl
    exact ⟨_, .pop q⟩
  cases event with
  | pushed message accepted =>
    cases accepted with
    | true =>
      obtain ⟨hopen, hroom⟩ := allowed
      rw [h.waiting_eq, ← h.capacity] at hroom
      refine ⟨{ q with items := q.items ++ [message] }, .push ?_⟩
      have hlt : q.items.length < q.capacity := hroom
      simp [push?, hasRoom, h.closed, hopen, hlt]
    | false =>
      have hclosed : (reason? history).isSome := allowed
      exact ⟨q, .push (by simp [push?, h.closed, hclosed])⟩
  | popped result =>
    refine hpop result ?_
    cases result with
    | message message =>
      have hhead : q.items.head? = some message := h.waiting_eq ▸ allowed
      obtain ⟨items, hitems⟩ := List.head?_eq_some_iff.mp hhead
      simp [pop, hitems]
    | timedOut =>
      obtain ⟨hempty, hopen⟩ := allowed
      rw [h.waiting_eq] at hempty
      rw [← h.closed] at hopen
      simp [pop, hempty, hopen]
    | closed reason =>
      obtain ⟨hempty, hclosed⟩ := allowed
      rw [h.waiting_eq] at hempty
      rw [← h.closed] at hclosed
      simp [pop, hempty, hclosed]
  | resized capacity => exact ⟨_, .resize q capacity⟩
  | closedFor reason => exact ⟨_, .close q reason⟩

end Agrees

/-! ## 4. Every history -/

theorem agrees_create (first : Nat) : Agrees first [] (create first) where
  messages := rfl
  capacity := rfl
  capacity_pos := (create first).capacity_pos
  length_le := Nat.zero_le _
  closed := rfl

/-- What every step keeps, a history keeps. -/
theorem Reaches.agrees {first : Nat} {history : History} {q : InboundQueue}
    (h : Reaches first history q) : Lawful first history ∧ Agrees first history q := by
  induction h with
  | start =>
    refine ⟨?_, agrees_create first⟩
    intro before act behind hsplit
    exact absurd hsplit (by simp)
  | step party _ taken ih =>
    obtain ⟨hlawful, hagrees⟩ := ih
    obtain ⟨hallowed, hagrees'⟩ := hagrees.step party taken
    exact ⟨(lawful_snoc _ _ _).mpr ⟨hlawful, hallowed⟩, hagrees'⟩

/-- A history of steps that were possible is one that a queue can have. -/
theorem Lawful.reached {first : Nat} {history : History} (h : Lawful first history) :
    ∃ q, Reaches first history q := by
  induction history using List.reverseRecOn with
  | nil => exact ⟨create first, .start⟩
  | append_singleton history act ih =>
    obtain ⟨party, event⟩ := act
    obtain ⟨hlawful, hallowed⟩ := (lawful_snoc _ _ _).mp h
    obtain ⟨q, hq⟩ := ih hlawful
    obtain ⟨q', hq'⟩ := hq.agrees.2.progress hallowed
    exact ⟨q', hq.step party hq'⟩

/-- **Inbound queues.**  The histories that a queue can have, whatever the initial capacity and however the
steps of any number of parties interleave, are those in which every step was possible after the ones before
it; and the queue that a history leads to is the one that agrees with it. -/
theorem reaches_iff (first : Nat) (history : History) (q : InboundQueue) :
    Reaches first history q ↔ Lawful first history ∧ Agrees first history q := by
  constructor
  · exact Reaches.agrees
  · rintro ⟨hlawful, hagrees⟩
    obtain ⟨q', hq'⟩ := hlawful.reached
    rw [hagrees.unique hq'.agrees.2]
    exact hq'

/-- The capacity falls below what waits, so that the third push has to wait until the queue is closed; what
waits then is given out all the same, and the first reason for closing stays. -/
theorem reaches_shrunk_and_closed :
    let full : History := [(0, .pushed [1] true), (0, .pushed [2] true), (1, .resized 0)]
    let shrunk : InboundQueue := { items := [[1], [2]], capacity := 1 }
    let drained : History := full ++ [(2, .closedFor "gone"), (0, .pushed [3] false),
      (1, .closedFor "late"), (1, .popped (.message [1])), (1, .resized 9),
      (3, .popped (.message [2])), (1, .popped (.closed "gone"))]
    let empty : InboundQueue := { capacity := 9, closed := some "gone" }
    Reaches 3 full shrunk ∧ shrunk.push? [3] = none ∧ Reaches 3 drained empty ∧
      Lawful 3 drained ∧ Agrees 3 drained empty := by
  intro full shrunk drained empty
  have reachedFull : Reaches 3 full shrunk :=
    Reaches.start
      |>.step 0 (.push rfl) |>.step 0 (.push rfl) |>.step 1 (.resize _ 0)
  have reachedDrained : Reaches 3 drained empty :=
    reachedFull
      |>.step 2 (.close _ "gone") |>.step 0 (.push rfl) |>.step 1 (.close _ "late")
      |>.step 1 (.pop _) |>.step 1 (.resize _ 9) |>.step 3 (.pop _) |>.step 1 (.pop _)
  exact ⟨reachedFull, rfl, reachedDrained, (reaches_iff 3 drained empty).mp reachedDrained⟩

end Readout.InboundQueue

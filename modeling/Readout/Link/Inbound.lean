/-
# The queue of messages that have arrived

A link's messages wait in a queue of bounded capacity until they are asked for.  While the queue is
full the link reads nothing more, so that its capacity is the credit that the device sees.

Every step is a function: `push?` is enabled only while there is room or the queue is closed, `pop`
says which of the three cases it met, the first reason given to `close` stays, and the capacity never
falls below one.

How long `pop` would wait is not part of the queue.  The end of a wait is fixed as a moment of the machine's
clock before anything is taken, so that a timeout that leads beyond the clock's last moment ends the program
even where a message waits; timeouts that long are left out.
-/
import Readout.Bytes

namespace Readout

/-- A bounded queue of messages. -/
structure InboundQueue where
  /-- The waiting messages, the oldest first. -/
  items : List Bytes := []
  /-- How many messages may wait. -/
  capacity : Nat := 1
  /-- Why nothing comes any more, once that is so. -/
  closed : Option String := none
  capacity_pos : 1 ≤ capacity := by omega
  deriving DecidableEq, Repr

namespace InboundQueue

/-- An empty and open queue; a capacity of zero counts as one. -/
def create (capacity : Nat) : InboundQueue :=
  { capacity := max capacity 1, capacity_pos := Nat.le_max_right .. }

/-- Whether a push would not have to wait. -/
def hasRoom (q : InboundQueue) : Bool := q.items.length < q.capacity

/-- Appends a message and says whether the queue took it, which a closed one does not; `none` while
the queue is open and full. -/
def push? (q : InboundQueue) (message : Bytes) : Option (Bool × InboundQueue) :=
  if q.closed.isSome then some (false, q)
  else if q.hasRoom then some (true, { q with items := q.items ++ [message] })
  else none

/-- What asking for a message comes to when there is no time to wait. -/
inductive Popped where
  /-- The oldest message. -/
  | message (octets : Bytes)
  /-- Nothing waits, but something may still come. -/
  | timedOut
  /-- Nothing waits, and nothing comes any more. -/
  | closed (reason : String)
  deriving DecidableEq, Repr

/-- Takes the oldest message; the messages that came before a close are still there after it. -/
def pop (q : InboundQueue) : Popped × InboundQueue :=
  match q.items with
  | m :: items => (.message m, { q with items := items })
  | [] =>
    match q.closed with
    | some reason => (.closed reason, q)
    | none => (.timedOut, q)

/-- Changes the capacity; zero counts as one. -/
def setCapacity (q : InboundQueue) (capacity : Nat) : InboundQueue :=
  { q with capacity := max capacity 1, capacity_pos := Nat.le_max_right .. }

/-- Closes the queue, unless it is closed already. -/
def close (q : InboundQueue) (reason : String) : InboundQueue :=
  if q.closed.isSome then q else { q with closed := some reason }

theorem closed_close (q : InboundQueue) (reason : String) :
    (q.close reason).closed = some (q.closed.getD reason) := by
  unfold close
  split <;> rename_i h
  · obtain ⟨r, hr⟩ := Option.isSome_iff_exists.mp h
    simp [hr]
  · cases hc : q.closed <;> simp_all

@[simp] theorem items_close (q : InboundQueue) (reason : String) :
    (q.close reason).items = q.items := by
  unfold close
  split <;> rfl

end InboundQueue

end Readout

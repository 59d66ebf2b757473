/-
# Acquisitions under way

What an acquisition meets can be known bit by bit: so far these things have arrived, each at its time,
and perhaps the caller has given up.  `Ongoing.surroundings` is what is known as a whole, and a run in
it tells whether the acquisition is over or waits for something more to arrive.  What has happened
before stays as it is when more becomes known.
-/
import Readout.Acquire.Run

namespace Readout

/-- What is known of what an acquisition meets. -/
structure Ongoing where
  /-- What came each time a message was asked for, and when, the latest first. -/
  met : List (Arrival × Duration) := []
  /-- When the request was sent. -/
  sent : Duration := .zero
  /-- Why the request could not be sent. -/
  sendFault : Option LinkError := none
  /-- When the caller gave up. -/
  cancelAt : Option Moment := none
  deriving DecidableEq, Repr

namespace Ongoing

/-- What is known after one more thing has arrived. -/
def meets (o : Ongoing) (arrival : Arrival) (now : Duration) : Ongoing :=
  { o with met := (arrival, now) :: o.met }

/-- What is known after the caller has given up, while something was awaited. -/
def givesUp (o : Ongoing) : Ongoing :=
  { o with cancelAt := o.cancelAt.or (some (.receiving (o.met.length + 1))) }

/-- What the clock has shown. -/
def clock (o : Ongoing) : Clock :=
  let times := (o.met.reverse.map fun x => x.2).toArray
  { sent := o.sent, after := fun count => if count = 0 then o.sent else times.getD (count - 1) .zero }

/-- What is known as a whole. -/
def surroundings (o : Ongoing) : Surroundings where
  arrivals := o.met.reverse.map fun x => x.1
  clock := o.clock
  cancelAt := o.cancelAt
  sendFault := o.sendFault

end Ongoing

end Readout

/-
# Channels of messages

A channel sends and receives whole messages, and has a bound on how many may wait.  Asking for a
message is bounded in time, and the answer is a message or a link error; a stream asks again and again
until the first error, and yields nothing after it.

An `Arrival` is what a device has prepared for one request for a message; `quiet` lets the time run
out.  `ScriptedChannel` is a channel that follows a list of them and keeps what was asked of it.
-/
import Readout.Link.Error

namespace Readout

/-! ## 1. Channels -/

/-- What messages are sent on and received from. -/
class MessageChannel (σ : Type) where
  /-- Sends one message. -/
  send : Bytes → σ → Except LinkError Unit × σ
  /-- Waits for a message for a bounded time. -/
  receive : (timeout : Duration) → σ → Except LinkError Bytes × σ
  /-- Changes how many messages may wait. -/
  setCapacity : Nat → σ → σ

namespace MessageChannel

variable {σ : Type} [MessageChannel σ]

/-- What a stream yields when it is asked a number of times: messages up to the first error, then the
error, then nothing. -/
def stream (timeout : Duration) : (count : Nat) → σ → List (Option (Except LinkError Bytes)) × σ
  | 0, s => ([], s)
  | count + 1, s =>
    match receive timeout s with
    | (.ok m, s) =>
      let (more, s) := stream timeout count s
      (some (.ok m) :: more, s)
    | (.error e, s) => (some (.error e) :: List.replicate count none, s)

end MessageChannel

/-! ## 2. Scripts -/

/-- What comes when a message is asked for. -/
inductive Arrival where
  /-- This message. -/
  | message (octets : Bytes)
  /-- This error. -/
  | fails (error : LinkError)
  /-- Nothing in time. -/
  | quiet
  deriving DecidableEq, Repr

/-- The outcome of asking for a message. -/
def Arrival.outcome (timeout : Duration) : Arrival → Except LinkError Bytes
  | message octets => .ok octets
  | fails error => .error error
  | quiet => .error (.timeout timeout)

/-- What was asked of a channel besides messages. -/
inductive ChannelAct where
  /-- A message was sent. -/
  | sent (message : Bytes)
  /-- A message was not sent, as sending failed. -/
  | sendFailed
  | capacitySet (capacity : Nat)
  deriving DecidableEq, Repr

/-- A channel that follows a script. -/
structure ScriptedChannel where
  /-- What comes each time a message is asked for. -/
  arrivals : List Arrival := []
  /-- What comes once these are used up. -/
  ending : Arrival := .quiet
  /-- Why each message cannot be sent, if so; after the last, every message can. -/
  sendFaults : List (Option LinkError) := []
  /-- What was asked of the channel, the latest first. -/
  acts : List ChannelAct := []
  deriving DecidableEq, Repr

namespace ScriptedChannel

/-- The channel after one more act. -/
def did (c : ScriptedChannel) (act : ChannelAct) : ScriptedChannel :=
  { c with acts := act :: c.acts }

/-- Sends one message, unless the script says why not. -/
def send (message : Bytes) (c : ScriptedChannel) : Except LinkError Unit × ScriptedChannel :=
  match c.sendFaults with
  | some e :: faults => (.error e, { c with sendFaults := faults }.did .sendFailed)
  | _ => (.ok (), { c with sendFaults := c.sendFaults.drop 1 }.did (.sent message))

/-- Takes what comes next. -/
def receive (timeout : Duration) (c : ScriptedChannel) :
    Except LinkError Bytes × ScriptedChannel :=
  match c.arrivals with
  | [] => (c.ending.outcome timeout, c)
  | a :: rest => (a.outcome timeout, { c with arrivals := rest })

instance : MessageChannel ScriptedChannel where
  send := send
  receive := receive
  setCapacity capacity c := c.did (.capacitySet capacity)

end ScriptedChannel

end Readout

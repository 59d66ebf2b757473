/-
# Single commands

A command is one message, and its answer is one message of the same kind.  Every answer begins with
the two fields of `CommandReply`; what follows them belongs to the command, and is kept as it came.

`judge` is what an answer means, whatever it came on, and `execute` sends, waits and judges.
-/
import Readout.Acquire.Error
import Readout.Link.Channel

namespace Readout.Command

open Control

/-- What an answer to a command of a kind means: the first of the envelope, its kind, its head and the
device's word that is at fault decides. -/
def judge (kind : Kind) (answer : Bytes) : Except AcquireError Envelope :=
  match Envelope.decode answer with
  | .error e => .error (.ofAnswer kind e)
  | .ok envelope =>
    if envelope.kind ≠ kind then .error (.unexpectedKind kind envelope.kind.name)
    else
      match envelope.record CommandReply.schema with
      | .error e => .error (.decode e)
      | .ok head => if head.success then .ok envelope else .error (.refused head.message)

variable {σ : Type} [MessageChannel σ]

/-- Sends a command and waits for its answer. -/
def execute (kind : Kind) (payload : Bytes) (timeout : Duration) (channel : σ) :
    Except AcquireError Envelope × σ :=
  match MessageChannel.send (Envelope.encode kind payload) channel with
  | (.error e, channel) => (.error (.send e), channel)
  | (.ok (), channel) =>
    match MessageChannel.receive timeout channel with
    | (.error e, channel) => (.error (.ofReceive e), channel)
    | (.ok answer, channel) => (judge kind answer, channel)

/-- Fires the software trigger, and gives what the device says to that. -/
def softwareTrigger (timeout : Duration) (channel : σ) : Except AcquireError String × σ :=
  match execute .softwareTrigger (EmptyRequest.schema.write {}) timeout channel with
  | (.error e, channel) => (.error e, channel)
  | (.ok envelope, channel) =>
    match envelope.record CommandReply.schema with
    | .error e => (.error (.decode e), channel)
    | .ok head => (.ok head.message, channel)

end Readout.Command

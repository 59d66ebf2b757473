/-
# Envelopes: the outer form of every control message

An envelope carries the number of a kind and the payload's octets.  `Envelope.decode` admits the
known kinds only, and not the number zero; the payload stays as it is until `decodePayload` reads it
with the schema that the kind asks for.
-/
import Readout.Control.Kind
import Readout.Control.Payload

namespace Readout.Control

open Wire

/-! ## 1. The outer record -/

/-- An envelope as it is laid out: any number may stand for the kind. -/
structure RawEnvelope where
  code : Int32 := 0
  payload : Bytes := []
  deriving DecidableEq, Repr, Inhabited

/-- The layout of an envelope. -/
def RawEnvelope.schema : Schema RawEnvelope where
  name := "ControlEnvelope"
  empty := {}
  fields :=
    [⟨1, "msg_type", .code (·.code) fun v m => { m with code := v }⟩,
      ⟨2, "payload", .octets (·.payload) fun v m => { m with payload := v }⟩]

/-- An envelope of a known kind. -/
structure Envelope where
  kind : Kind
  payload : Bytes
  deriving DecidableEq, Repr, Inhabited

/-! ## 2. What can be wrong with a control message -/

/-- Why a control message was not understood. -/
inductive ControlError where
  /-- The octets are no envelope. -/
  | envelope (cause : DecodeError)
  /-- The envelope names no kind. -/
  | kindNotSet
  /-- The envelope names a kind that is not known. -/
  | unknownKind (code : Int32)
  /-- The payload is not laid out as the schema asks. -/
  | payload (schema : String) (cause : DecodeError)
  deriving DecidableEq, Repr

/-- The wording of a control error. -/
def ControlError.message : ControlError → String
  | envelope cause => "malformed envelope: " ++ cause.message
  | kindNotSet => "malformed envelope: message type is not set"
  | unknownKind code => "unknown message type " ++ toString code.toInt
  | payload schema cause => "malformed " ++ schema ++ " payload: " ++ cause.message

/-! ## 3. Writing and reading -/

/-- The octets of an envelope around a payload. -/
def Envelope.encode (kind : Kind) (payload : Bytes) : Bytes :=
  RawEnvelope.schema.write ⟨kind.code, payload⟩

/-- The octets of an envelope around a record. -/
def Envelope.encodeRecord {M : Type} (kind : Kind) (schema : Schema M) (record : M) : Bytes :=
  encode kind (schema.write record)

/-- The envelope that the octets hold. -/
def Envelope.decode (bs : Bytes) : Except ControlError Envelope :=
  match RawEnvelope.schema.read bs with
  | .error e => .error (.envelope e)
  | .ok raw =>
    match Kind.ofCode? raw.code with
    | none => .error (.unknownKind raw.code)
    | some .unspecified => .error .kindNotSet
    | some kind => .ok ⟨kind, raw.payload⟩

/-- The record that a payload holds. -/
def decodePayload {M : Type} (schema : Schema M) (payload : Bytes) : Except ControlError M :=
  match schema.read payload with
  | .error e => .error (.payload schema.name e)
  | .ok record => .ok record

/-- The record in an envelope's payload. -/
def Envelope.record {M : Type} (e : Envelope) (schema : Schema M) : Except ControlError M :=
  decodePayload schema e.payload

end Readout.Control

/-
# Control messages are understood as they were meant

Each payload's schema is lawful, and so is the envelope's.  Hence an envelope that was written around
a record is decoded to its kind, and its payload to the record.

* `decode_encode` -- an envelope that was written is decoded to its kind and payload;
* `record_encodeRecord` -- and the payload is read back as the record that was written into it;
* `envelopes_read_back` -- both for every kind, payload and layout, and what becomes of an envelope whose
  number is not that of a kind.
-/
import Readout.Control.Envelope
import Readout.Proofs.Records

namespace Readout.Control

open Wire

variable {M : Type}

/-! ## 1. The schemas -/

theorem RawEnvelope.lawful : RawEnvelope.schema.Lawful where
  distinct := by decide
  in_range := by decide
  makes_up _ := ⟨rfl, rfl, rfl⟩

theorem CommandReply.lawful : CommandReply.schema.Lawful where
  distinct := by decide
  in_range := by decide
  makes_up _ := ⟨rfl, rfl, rfl⟩

theorem EmptyRequest.lawful : EmptyRequest.schema.Lawful where
  distinct := by decide
  in_range := by decide
  makes_up _ := rfl

theorem DumpRequest.lawful : DumpRequest.schema.Lawful where
  distinct := by decide
  in_range := by decide
  makes_up _ := ⟨rfl, rfl, ⟨rfl, rfl⟩, rfl, rfl, rfl⟩

theorem DumpReply.lawful : DumpReply.schema.Lawful where
  distinct := by decide
  in_range := by decide
  makes_up _ := ⟨rfl, rfl, ⟨rfl, rfl⟩, rfl, rfl, ⟨rfl, rfl⟩, rfl⟩

theorem ChunkRequest.lawful : ChunkRequest.schema.Lawful where
  distinct := by decide
  in_range := by decide
  makes_up _ := ⟨rfl, ⟨rfl, rfl⟩, rfl, rfl, rfl, rfl, rfl⟩

theorem ChunkReply.lawful : ChunkReply.schema.Lawful where
  distinct := by decide
  in_range := by decide
  makes_up _ := ⟨rfl, rfl, rfl, rfl, rfl, ⟨rfl, rfl⟩, rfl⟩

/-! ## 2. Envelopes -/

/-- **An envelope that was written is decoded to its kind and payload.** -/
theorem decode_encode {kind : Kind} {payload : Bytes} (hkind : kind ≠ .unspecified)
    (hfits : (Envelope.encode kind payload).length < Word.size) :
    Envelope.decode (Envelope.encode kind payload) = .ok ⟨kind, payload⟩ := by
  have hread : RawEnvelope.schema.read (Envelope.encode kind payload) = .ok ⟨kind.code, payload⟩ :=
    Schema.read_write RawEnvelope.lawful hfits
  simp only [Envelope.decode, hread, Kind.ofCode?_code]

/-- The payload is part of the envelope's octets. -/
theorem length_payload_le (kind : Kind) (payload : Bytes) :
    payload.length ≤ (Envelope.encode kind payload).length := by
  by_cases h : payload = []
  · simp [h]
  · simp only [Envelope.encode, Schema.write, RawEnvelope.schema, List.flatMap_cons,
      List.flatMap_nil, Field.write, h, if_false, writeDelimitedField, List.length_append]
    omega

/-- **The record that was written into an envelope is read back.** -/
theorem record_encodeRecord {kind : Kind} {schema : Schema M} {m : M} (hschema : schema.Lawful)
    (hfits : (Envelope.encodeRecord kind schema m).length < Word.size) :
    Envelope.record ⟨kind, schema.write m⟩ schema = .ok m := by
  have hpayload : (schema.write m).length < Word.size :=
    Nat.lt_of_le_of_lt (length_payload_le kind _) hfits
  simp [Envelope.record, decodePayload, Schema.read_write hschema hpayload]

/-! ## 3. Kinds that are not known -/

theorem Kind.ofCode?_eq_none_iff {code : Int32} :
    Kind.ofCode? code = none ↔ code.toInt < 0 ∨ 33 < code.toInt := by
  have hcount : Kind.all.length = 34 := rfl
  rw [Kind.ofCode?]
  split
  · rw [List.getElem?_eq_none_iff, hcount]
    omega
  · simp only [true_iff]
    omega

/-- A number that no kind has is reported as it is. -/
theorem decode_of_unknown {bs : Bytes} {raw : RawEnvelope}
    (hread : RawEnvelope.schema.read bs = .ok raw) (h : raw.code.toInt < 0 ∨ 33 < raw.code.toInt) :
    Envelope.decode bs = .error (.unknownKind raw.code) := by
  simp only [Envelope.decode, hread, Kind.ofCode?_eq_none_iff.mpr h]

/-- A kind that was never set is no kind. -/
theorem decode_of_unset {bs : Bytes} {raw : RawEnvelope}
    (hread : RawEnvelope.schema.read bs = .ok raw) (h : raw.code = 0) :
    Envelope.decode bs = .error .kindNotSet := by
  have hkind : Kind.ofCode? raw.code = some .unspecified := by
    rw [h]
    rfl
  simp only [Envelope.decode, hread, hkind]

/-! ## 4. Every payload -/

/-- The layouts that a payload can have. -/
inductive PayloadForm where
  | commandReply
  | emptyRequest
  | dumpRequest
  | dumpReply
  | chunkRequest
  | chunkReply
  deriving DecidableEq, Repr

namespace PayloadForm

/-- The record that a payload of this layout holds. -/
def Record : PayloadForm → Type
  | commandReply => CommandReply
  | emptyRequest => EmptyRequest
  | dumpRequest => DumpRequest
  | dumpReply => DumpReply
  | chunkRequest => ChunkRequest
  | chunkReply => ChunkReply

/-- The schema of a layout. -/
def schema : (form : PayloadForm) → Schema form.Record
  | commandReply => CommandReply.schema
  | emptyRequest => EmptyRequest.schema
  | dumpRequest => DumpRequest.schema
  | dumpReply => DumpReply.schema
  | chunkRequest => ChunkRequest.schema
  | chunkReply => ChunkReply.schema

theorem lawful (form : PayloadForm) : form.schema.Lawful := by
  cases form with
  | commandReply => exact CommandReply.lawful
  | emptyRequest => exact EmptyRequest.lawful
  | dumpRequest => exact DumpRequest.lawful
  | dumpReply => exact DumpReply.lawful
  | chunkRequest => exact ChunkRequest.lawful
  | chunkReply => exact ChunkReply.lawful

end PayloadForm

/-- **What is written into an envelope is read out of it.**  Around any payload, and around any record of
any layout, an envelope of a kind that is set gives the kind and the payload, and the payload the record.
Where the number is not one of a kind, that number is reported, and zero as a kind that is not set.

What is written is shorter than `2 ^ 64` octets, as all that a memory holds is. -/
theorem envelopes_read_back :
    (∀ kind : Kind, kind ≠ .unspecified → ∀ (form : PayloadForm) (record : form.Record),
      (Envelope.encodeRecord kind form.schema record).length < Word.size →
        ∃ envelope, Envelope.decode (Envelope.encodeRecord kind form.schema record) = .ok envelope ∧
          envelope.kind = kind ∧ envelope.record form.schema = .ok record) ∧
    (∀ kind : Kind, kind ≠ .unspecified → ∀ payload : Bytes,
      (Envelope.encode kind payload).length < Word.size →
        Envelope.decode (Envelope.encode kind payload) = .ok ⟨kind, payload⟩) ∧
    (∀ (code : Int32) (payload : Bytes), code.toInt < 0 ∨ 33 < code.toInt →
      (RawEnvelope.schema.write ⟨code, payload⟩).length < Word.size →
        Envelope.decode (RawEnvelope.schema.write ⟨code, payload⟩) = .error (.unknownKind code)) ∧
    ∀ payload : Bytes, (RawEnvelope.schema.write ⟨0, payload⟩).length < Word.size →
      Envelope.decode (RawEnvelope.schema.write ⟨0, payload⟩) = .error .kindNotSet := by
  refine ⟨?_, ?_, ?_, ?_⟩
  · intro kind hkind form record hfits
    exact ⟨⟨kind, form.schema.write record⟩, decode_encode hkind hfits, rfl,
      record_encodeRecord form.lawful hfits⟩
  · intro kind hkind payload hfits
    exact decode_encode hkind hfits
  · intro code payload hcode hfits
    exact decode_of_unknown (Schema.read_write RawEnvelope.lawful hfits) hcode
  · intro payload hfits
    exact decode_of_unset (Schema.read_write RawEnvelope.lawful hfits) rfl

/-- A chunk with a text and samples of several octets, a bare payload, and numbers that no kind has. -/
theorem envelopes_read_back_examples :
    (∃ envelope, Envelope.decode (Envelope.encodeRecord .chunkReply PayloadForm.chunkReply.schema
        ({ label := "é", success := true, waveforms := 2, data := [0, 300, 4294967295] } :
          ChunkReply)) = .ok envelope ∧
      envelope.kind = .chunkReply ∧ envelope.record PayloadForm.chunkReply.schema =
        .ok ({ label := "é", success := true, waveforms := 2, data := [0, 300, 4294967295] } :
          ChunkReply)) ∧
      Envelope.decode (Envelope.encode .dump [1, 2]) = .ok ⟨.dump, [1, 2]⟩ ∧
      Envelope.decode (RawEnvelope.schema.write ⟨-1, [7]⟩) = .error (.unknownKind (-1)) ∧
      Envelope.decode (RawEnvelope.schema.write ⟨0, [7]⟩) = .error .kindNotSet :=
  ⟨envelopes_read_back.1 .chunkReply (by decide) .chunkReply _ (by decide +kernel),
    envelopes_read_back.2.1 .dump (by decide) [1, 2] (by decide +kernel),
    envelopes_read_back.2.2.1 (-1) [7] (by decide) (by decide +kernel),
    envelopes_read_back.2.2.2 [7] (by decide +kernel)⟩

end Readout.Control

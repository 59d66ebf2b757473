/-
# A record holds no more than its octets

Every number of a list takes an octet at least, and octets that are kept are kept once.  So a measure of a
record that grows with each number and with each octet by one at most (`Slot.Meters`) is bounded by the octets
that the record is read from, in whatever order its fields come and however often.

* `Schema.read_meters` -- the bound, for any record;
* `Control.size_le_of_record` -- the same for the record in a message;
* `Control.length_channels_of_dump`, `Control.length_channels_of_chunkRequest` -- how many channels a request
  can name.
-/
import Readout.Proofs.FurtherFields
import Readout.Proofs.Results

namespace Readout

namespace Wire

variable {M : Type}

/-! ## 1. Values -/

/-- Numbers take octets. -/
theorem length_of_readNumberValue {type : WireType} {bs rest : Bytes} {n : Nat}
    (h : readNumberValue type bs = .ok (n, rest)) : 1 + rest.length ≤ bs.length := by
  rw [readNumberValue] at h
  split at h
  · obtain ⟨front, hspells, rfl⟩ := readNumber_eq_ok_iff.mp h
    have hpos := hspells.groups.length_pos
    rw [List.length_append]
    omega
  · cases h

/-- So does the length in front of octets. -/
theorem length_of_readDelimited {bs body rest : Bytes} (h : readDelimited bs = .ok (body, rest)) :
    body.length + rest.length ≤ bs.length := by
  obtain ⟨length, -, rfl⟩ := readDelimited_eq_ok_iff.mp h
  simp only [List.length_append]
  omega

theorem length_of_readDelimitedValue {type : WireType} {bs body rest : Bytes}
    (h : readDelimitedValue type bs = .ok (body, rest)) : body.length + rest.length ≤ bs.length := by
  rw [readDelimitedValue] at h
  split at h
  · exact length_of_readDelimited h
  · cases h

/-- A packed list has no more numbers than octets. -/
theorem length_of_readPacked {after : Bytes} {fuel : Nat} {done ns : List UInt32} {body : Bytes}
    (h : readPacked after fuel done body = .ok ns) : ns.length ≤ done.length + body.length := by
  induction fuel generalizing done body with
  | zero =>
    cases body with
    | nil =>
      cases h
      simp
    | cons b bs => cases h
  | succ fuel ih =>
    cases body with
    | nil =>
      cases h
      simp
    | cons b bs =>
      rw [readPacked] at h
      cases hread : Varint.read? (b :: bs) with
      | none =>
        simp only [hread] at h
        split at h <;> cases h
      | some found =>
        obtain ⟨n, rest⟩ := found
        simp only [hread] at h
        have hshorter := Varint.length_lt_of_read? hread
        have hmore := ih h
        rw [List.length_cons] at hmore
        omega

theorem length_of_readCounts {type : WireType} {bs rest : Bytes} {ns : List UInt32}
    (h : readCounts type bs = .ok (ns, rest)) : ns.length + rest.length ≤ bs.length := by
  rw [readCounts] at h
  split at h
  · cases hread : readDelimited bs with
    | error flaw =>
      rw [hread] at h
      cases h
    | ok found =>
      obtain ⟨body, left⟩ := found
      simp only [hread] at h
      cases hpacked : readPacked left body.length [] body with
      | error flaw =>
        rw [hpacked] at h
        cases h
      | ok numbers =>
        simp only [hpacked] at h
        cases h
        have hbody := length_of_readDelimited hread
        have hnumbers := length_of_readPacked hpacked
        rw [List.length_nil] at hnumbers
        omega
  · cases hread : readNumberValue type bs with
    | error flaw =>
      rw [hread] at h
      cases h
    | ok found =>
      obtain ⟨n, left⟩ := found
      simp only [hread] at h
      cases h
      exact length_of_readNumberValue hread

/-! ## 2. Records -/

/-- Setting a field makes a measure of the record larger by no more than the numbers that are appended or
the octets that are kept. -/
def Slot.Meters (size : M → Nat) : Slot M → Prop
  | .flag _ set => ∀ v m, size (set v m) ≤ size m
  | .count _ set => ∀ v m, size (set v m) ≤ size m
  | .code _ set => ∀ v m, size (set v m) ≤ size m
  | .text _ set => ∀ v m, size (set v m) ≤ size m
  | .octets _ set => ∀ body m, size (set body m) ≤ size m + body.length
  | .counts get set => ∀ ns m, size (set (get m ++ ns) m) ≤ size m + ns.length

variable {size : M → Nat} {s : Schema M}

theorem Slot.Meters.read {slot : Slot M} (h : slot.Meters size) {m next : M} {type : WireType}
    {bs rest : Bytes} (hread : slot.read m type bs = .ok (next, rest)) :
    size next + rest.length ≤ size m + bs.length := by
  cases slot with
  | flag get set =>
    obtain ⟨⟨n, left⟩, hvalue, hnext⟩ := bind_eq_ok_iff.mp hread
    cases hnext
    have hlength := length_of_readNumberValue hvalue
    have hsize := h (n != 0) m
    omega
  | count get set =>
    obtain ⟨⟨n, left⟩, hvalue, hnext⟩ := bind_eq_ok_iff.mp hread
    cases hnext
    have hlength := length_of_readNumberValue hvalue
    have hsize := h (lowCount n) m
    omega
  | code get set =>
    obtain ⟨⟨n, left⟩, hvalue, hnext⟩ := bind_eq_ok_iff.mp hread
    cases hnext
    have hlength := length_of_readNumberValue hvalue
    have hsize := h (lowCode n) m
    omega
  | text get set =>
    obtain ⟨⟨body, left⟩, hvalue, hnext⟩ := bind_eq_ok_iff.mp hread
    simp only at hnext
    split at hnext
    · rename_i text _
      cases hnext
      have hlength := length_of_readDelimitedValue hvalue
      have hsize := h text m
      omega
    · cases hnext
  | octets get set =>
    obtain ⟨⟨body, left⟩, hvalue, hnext⟩ := bind_eq_ok_iff.mp hread
    cases hnext
    have hlength := length_of_readDelimitedValue hvalue
    have hsize := h body m
    omega
  | counts get set =>
    obtain ⟨⟨ns, left⟩, hvalue, hnext⟩ := bind_eq_ok_iff.mp hread
    cases hnext
    have hlength := length_of_readCounts hvalue
    have hsize := h ns m
    omega

/-- A field adds no more than its octets, whether or not it is known. -/
theorem Schema.readField_meters (h : ∀ f ∈ s.fields, f.slot.Meters size) {m next : M} {bs rest : Bytes}
    (hread : s.readField m bs = .ok (next, rest)) : size next + rest.length ≤ size m + bs.length := by
  rw [readField] at hread
  cases hkey : Key.read bs with
  | error flaw =>
    rw [hkey] at hread
    cases hread
  | ok found =>
    obtain ⟨key, behind⟩ := found
    obtain ⟨head, -, rfl⟩ := Key.read_eq_ok_iff.mp hkey
    simp only [hkey] at hread
    rw [List.length_append]
    cases hfind : s.fields.find? (·.number == key.number) with
    | some f =>
      simp only [hfind] at hread
      cases hslot : f.slot.read m key.type behind with
      | error flaw =>
        rw [hslot] at hread
        cases hread
      | ok value =>
        rw [hslot] at hread
        cases hread
        have hvalue := (h f (List.mem_of_find?_eq_some hfind)).read hslot
        omega
    | none =>
      simp only [hfind] at hread
      cases hpass : pass maxDepth key behind with
      | error flaw =>
        rw [hpass] at hread
        cases hread
      | ok left =>
        rw [hpass] at hread
        cases hread
        obtain ⟨body, -, rfl⟩ := pass_eq_ok_iff.mp hpass
        rw [List.length_append]
        omega

/-- **A record is no larger than the octets it is read from.** -/
theorem Schema.read_meters (h : ∀ f ∈ s.fields, f.slot.Meters size) {m : M} {bs : Bytes}
    (hread : s.read bs = .ok m) : size m ≤ size s.empty + bs.length := by
  have hfields : ∀ (fuel : Nat) (start : M) (bs : Bytes), s.readFields fuel start bs = .ok m →
      size m ≤ size start + bs.length := by
    intro fuel
    induction fuel with
    | zero =>
      intro start bs hread
      cases bs with
      | nil =>
        cases hread
        exact Nat.le_add_right _ _
      | cons b bs => cases hread
    | succ fuel ih =>
      intro start bs hread
      cases bs with
      | nil =>
        cases hread
        exact Nat.le_add_right _ _
      | cons b bs =>
        rw [readFields] at hread
        cases hfield : s.readField start (b :: bs) with
        | error e =>
          rw [hfield] at hread
          cases hread
        | ok found =>
          obtain ⟨next, rest⟩ := found
          simp only [hfield] at hread
          exact Nat.le_trans (ih next rest hread) (readField_meters h hfield)
  exact hfields bs.length s.empty bs hread

end Wire

/-! ## 3. Messages -/

namespace Control

variable {e : Envelope} {message : Bytes}

/-- A payload is no longer than its message. -/
theorem length_payload_of_decode (h : Envelope.decode message = .ok e) :
    e.payload.length ≤ message.length := by
  have hmeters : ∀ f ∈ RawEnvelope.schema.fields, f.slot.Meters fun raw => raw.payload.length := by
    refine List.forall_mem_cons.mpr ⟨fun v m => Nat.le_refl _, List.forall_mem_singleton.mpr ?_⟩
    exact fun body m => Nat.le_add_left _ _
  rw [Envelope.decode] at h
  cases hraw : RawEnvelope.schema.read message with
  | error flaw =>
    rw [hraw] at h
    cases h
  | ok raw =>
    simp only [hraw] at h
    have hlength := Wire.Schema.read_meters hmeters hraw
    split at h
    · cases h
    · cases h
    · cases h
      simpa [RawEnvelope.schema] using hlength

/-- The record of an envelope is read from its payload. -/
theorem read_of_record {M : Type} {schema : Wire.Schema M} {record : M}
    (h : e.record schema = .ok record) : schema.read e.payload = .ok record := by
  rw [Envelope.record, decodePayload] at h
  cases hread : schema.read e.payload with
  | error flaw =>
    rw [hread] at h
    cases h
  | ok found =>
    rw [hread] at h
    exact congrArg Except.ok (Except.ok.inj h)

/-- **What a message carries is no larger than the message.** -/
theorem size_le_of_record {M : Type} {schema : Wire.Schema M} (size : M → Nat) {record : M}
    (hmeters : ∀ f ∈ schema.fields, f.slot.Meters size) (hempty : size schema.empty = 0)
    (hdecode : Envelope.decode message = .ok e) (hrecord : e.record schema = .ok record) :
    size record ≤ message.length := by
  have hpayload := length_payload_of_decode hdecode
  have hsize := Wire.Schema.read_meters hmeters (read_of_record hrecord)
  omega

/-- A dump names no more channels than its message has octets. -/
theorem length_channels_of_dump {r : DumpRequest} (hdecode : Envelope.decode message = .ok e)
    (hrecord : e.record DumpRequest.schema = .ok r) : r.channels.length ≤ message.length := by
  have hmeters : ∀ f ∈ DumpRequest.schema.fields, f.slot.Meters fun r => r.channels.length := by
    simp [DumpRequest.schema, Wire.Slot.Meters]
  exact size_le_of_record (fun r => r.channels.length) hmeters rfl hdecode hrecord

/-- Nor does a request for chunks. -/
theorem length_channels_of_chunkRequest {r : ChunkRequest} (hdecode : Envelope.decode message = .ok e)
    (hrecord : e.record ChunkRequest.schema = .ok r) : r.channels.length ≤ message.length := by
  have hmeters : ∀ f ∈ ChunkRequest.schema.fields, f.slot.Meters fun r => r.channels.length := by
    simp [ChunkRequest.schema, Wire.Slot.Meters]
  exact size_le_of_record (fun r => r.channels.length) hmeters rfl hdecode hrecord

end Control

end Readout

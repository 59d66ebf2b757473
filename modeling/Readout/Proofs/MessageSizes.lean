/-
# How long control messages are

A record is no longer than its fields: around each value there are a key and a number, of at most ten
octets each, and the value itself takes the octets of its text or at most five octets for each count.

An answer whose size was checked before the request is sent therefore fits in a frame, and so do the
request and every other message that goes over the link meanwhile.

* `Schema.length_write_le` -- a record is no longer than its fields;
* `Label.length_ofOctets_le` -- labels are short;
* `AcquisitionRequest.length_channels_le` -- a request names no more channels than there are;
* `AcquisitionConfig.octets_of_check` -- what a request is known by that is not refused.
-/
import Mathlib.Algebra.Group.Nat.Defs
import Mathlib.Data.List.Perm.Subperm
import Readout.Acquire.Label
import Readout.Proofs.Accounts

namespace Readout

namespace Wire

/-! ## 1. Numbers -/

theorem Varint.length_writeGroups_le (groups n : Nat) : (writeGroups groups n).length ≤ groups := by
  induction groups generalizing n with
  | zero => exact Nat.le_refl _
  | succ groups ih =>
    rw [writeGroups]
    split
    · exact Nat.succ_le_succ (Nat.zero_le _)
    · exact Nat.succ_le_succ (ih _)

/-- A number below a power of 128 takes no more groups than the exponent says. -/
theorem Varint.length_writeGroups_of_lt {groups n k : Nat} (h : n < 128 ^ (k + 1)) :
    (writeGroups groups n).length ≤ k + 1 := by
  induction groups generalizing n k with
  | zero => exact Nat.zero_le _
  | succ groups ih =>
    rw [writeGroups]
    split
    · exact Nat.succ_le_succ (Nat.zero_le _)
    · rename_i hlarge
      cases k with
      | zero => omega
      | succ k =>
        have hrest : n / 128 < 128 ^ (k + 1) := Nat.div_lt_of_lt_mul (by rwa [Nat.mul_comm])
        exact Nat.succ_le_succ (ih hrest)

/-- A number from a power of 128 on takes more groups than the exponent says, if there are as many. -/
theorem Varint.le_length_writeGroups {groups n k : Nat} (hgroups : k < groups) (h : 128 ^ k ≤ n) :
    k + 1 ≤ (writeGroups groups n).length := by
  induction groups generalizing n k with
  | zero => exact absurd hgroups (Nat.not_lt_zero k)
  | succ groups ih =>
    rw [writeGroups]
    cases k with
    | zero => split <;> exact Nat.succ_le_succ (Nat.zero_le _)
    | succ k =>
      have hpos : 0 < 128 ^ k := Nat.pow_pos (by decide)
      rw [Nat.pow_succ] at h
      rw [if_neg (by omega)]
      exact Nat.succ_le_succ (ih (by omega) (by omega))

theorem Varint.length_write_le (n : Nat) : (write n).length ≤ 10 := length_writeGroups_le 10 n

theorem Varint.length_write_toNat_le (n : UInt32) : (write n.toNat).length ≤ 5 :=
  length_writeGroups_of_lt (Nat.lt_of_lt_of_le n.toNat_lt (by decide))

theorem length_packed_le (ns : List UInt32) : (packed ns).length ≤ 5 * ns.length := by
  induction ns with
  | nil => exact Nat.le_refl _
  | cons n ns ih =>
    have hfirst := Varint.length_write_toNat_le n
    have hcons : packed (n :: ns) = Varint.write n.toNat ++ packed ns := List.flatMap_cons
    rw [hcons, List.length_append, List.length_cons]
    omega

/-- Numbers of which each needs its highest bits take all five octets. -/
theorem le_length_packed {ns : List UInt32} (h : ∀ n ∈ ns, 2 ^ 28 ≤ n.toNat) :
    5 * ns.length ≤ (packed ns).length := by
  induction ns with
  | nil => exact Nat.le_refl _
  | cons n ns ih =>
    obtain ⟨hn, hmore⟩ := List.forall_mem_cons.mp h
    have hfirst : 5 ≤ (Varint.write n.toNat).length :=
      Varint.le_length_writeGroups (by decide) (Nat.le_trans (by decide) hn)
    have hrest := ih hmore
    have hcons : packed (n :: ns) = Varint.write n.toNat ++ packed ns := List.flatMap_cons
    rw [hcons, List.length_append, List.length_cons]
    omega

/-! ## 2. Records -/

variable {M : Type}

/-- The most octets that a value takes besides the numbers around it. -/
def Slot.size (slot : Slot M) (m : M) : Nat :=
  match slot with
  | .text get _ => Text.Utf8.length (get m)
  | .octets get _ => (get m).length
  | .counts get _ => 5 * (get m).length
  | _ => 0

/-- The most octets that the fields of a record take. -/
def Schema.size (s : Schema M) (m : M) : Nat :=
  s.fields.foldr (fun f n => 20 + f.slot.size m + n) 0

theorem length_writeNumberField_le (number n : Nat) : (writeNumberField number n).length ≤ 20 := by
  have hkey : (Key.write ⟨number, .varint⟩).length ≤ 10 := Varint.length_write_le _
  have hvalue := Varint.length_write_le n
  rw [writeNumberField, List.length_append]
  omega

theorem length_writeDelimitedField_le (number : Nat) (body : Bytes) :
    (writeDelimitedField number body).length ≤ 20 + body.length := by
  have hkey : (Key.write ⟨number, .delimited⟩).length ≤ 10 := Varint.length_write_le _
  have hlength := Varint.length_write_le body.length
  rw [writeDelimitedField, List.length_append, List.length_append]
  omega

/-- A field takes two numbers and its value at most. -/
theorem Field.length_write_le (f : Field M) (m : M) : (f.write m).length ≤ 20 + f.slot.size m := by
  obtain ⟨number, name, slot⟩ := f
  cases slot with
  | text get set =>
    have hfield := length_writeDelimitedField_le number (Text.Utf8.encode (get m))
    rw [Text.Utf8.length_encode] at hfield
    simp only [Field.write, Slot.size]
    split
    · exact Nat.zero_le _
    · exact hfield
  | octets get set =>
    simp only [Field.write, Slot.size]
    split
    · exact Nat.zero_le _
    · exact length_writeDelimitedField_le number (get m)
  | counts get set =>
    have hfield := length_writeDelimitedField_le number (packed (get m))
    have hpacked := length_packed_le (get m)
    simp only [Field.write, Slot.size]
    split
    · exact Nat.zero_le _
    · omega
  | flag get set =>
    simp only [Field.write, Slot.size]
    split
    · exact length_writeNumberField_le number 1
    · exact Nat.zero_le _
  | count get set =>
    simp only [Field.write, Slot.size]
    split
    · exact Nat.zero_le _
    · exact length_writeNumberField_le number _
  | code get set =>
    simp only [Field.write, Slot.size]
    split
    · exact Nat.zero_le _
    · exact length_writeNumberField_le number _

/-- **A record is no longer than its fields.** -/
theorem Schema.length_write_le (s : Schema M) (m : M) : (s.write m).length ≤ s.size m := by
  unfold Schema.write Schema.size
  induction s.fields with
  | nil => exact Nat.le_refl _
  | cons f fields ih =>
    have hfirst := f.length_write_le m
    rw [List.flatMap_cons, List.length_append, List.foldr_cons]
    omega

end Wire

namespace Control

open Wire

variable {M : Type}

/-- An envelope takes forty octets at most besides its payload. -/
theorem length_encode_le (kind : Kind) (payload : Bytes) :
    (Envelope.encode kind payload).length ≤ 40 + payload.length := by
  have hsize : RawEnvelope.schema.size ⟨kind.code, payload⟩ = 20 + 0 + (20 + payload.length + 0) := rfl
  have hlength := RawEnvelope.schema.length_write_le ⟨kind.code, payload⟩
  rw [hsize] at hlength
  rw [Envelope.encode]
  omega

theorem length_encodeRecord_le (kind : Kind) (schema : Schema M) (m : M) :
    (Envelope.encodeRecord kind schema m).length ≤ 40 + schema.size m :=
  Nat.le_trans (length_encode_le kind _) (Nat.add_le_add_left (schema.length_write_le m) 40)

/-! ## 3. Control messages -/

theorem length_commandReply_le (kind : Kind) (reply : CommandReply) :
    (Envelope.encodeRecord kind CommandReply.schema reply).length ≤
      80 + Text.Utf8.length reply.message := by
  have hsize : CommandReply.schema.size reply =
      20 + 0 + (20 + Text.Utf8.length reply.message + 0) := rfl
  have hlength := length_encodeRecord_le kind CommandReply.schema reply
  omega

theorem length_dumpRequest_le (request : DumpRequest) :
    (Envelope.encodeRecord .dump DumpRequest.schema request).length ≤
      140 + 5 * request.channels.length := by
  have hsize : DumpRequest.schema.size request =
      20 + 0 + (20 + 0 + (20 + 5 * request.channels.length + (20 + 0 + (20 + 0 + 0)))) := rfl
  have hlength := length_encodeRecord_le .dump DumpRequest.schema request
  omega

theorem length_dumpReply_le (reply : DumpReply) :
    (Envelope.encodeRecord .dump DumpReply.schema reply).length ≤
      160 + Text.Utf8.length reply.message + 5 * reply.channels.length + 5 * reply.data.length := by
  have hsize : DumpReply.schema.size reply =
      20 + 0 + (20 + Text.Utf8.length reply.message + (20 + 5 * reply.channels.length +
        (20 + 0 + (20 + 0 + (20 + 5 * reply.data.length + 0))))) := rfl
  have hlength := length_encodeRecord_le .dump DumpReply.schema reply
  omega

theorem length_chunkRequest_le (request : ChunkRequest) :
    (Envelope.encodeRecord .chunkRequest ChunkRequest.schema request).length ≤
      160 + Text.Utf8.length request.label + 5 * request.channels.length := by
  have hsize : ChunkRequest.schema.size request =
      20 + Text.Utf8.length request.label + (20 + 5 * request.channels.length +
        (20 + 0 + (20 + 0 + (20 + 0 + (20 + 0 + 0))))) := rfl
  have hlength := length_encodeRecord_le .chunkRequest ChunkRequest.schema request
  omega

theorem length_chunkReply_le (reply : ChunkReply) :
    (Envelope.encodeRecord .chunkReply ChunkReply.schema reply).length ≤
      160 + Text.Utf8.length reply.label + Text.Utf8.length reply.message + 5 * reply.data.length := by
  have hsize : ChunkReply.schema.size reply =
      20 + Text.Utf8.length reply.label + (20 + 0 + (20 + Text.Utf8.length reply.message +
        (20 + 0 + (20 + 0 + (20 + 5 * reply.data.length + 0))))) := rfl
  have hlength := length_encodeRecord_le .chunkReply ChunkReply.schema reply
  omega

end Control

/-! ## 4. Labels -/

namespace Text

theorem Utf8.length_append (s t : String) : length (s ++ t) = length s + length t :=
  String.utf8ByteSize_append

theorem Utf8.length_ofList_cons (c : Char) (cs : List Char) :
    length (String.ofList (c :: cs)) = c.utf8Size + length (String.ofList cs) := by
  show (String.ofList (c :: cs)).toByteArray.size = _ + (String.ofList cs).toByteArray.size
  rw [String.toByteArray_ofList, String.toByteArray_ofList, List.utf8Encode_cons,
    ByteArray.size_append, List.utf8Encode_singleton, List.size_toByteArray,
    String.length_utf8EncodeChar]

theorem utf8Size_digitChar : ∀ n < 16, (Nat.digitChar n).utf8Size = 1 := by decide

/-- A digit takes one octet. -/
theorem Utf8.length_hex (bs : Bytes) : length (hex bs) = 2 * bs.length := by
  induction bs with
  | nil => rfl
  | cons b bs ih =>
    have hoctet := b.toNat_lt
    have hhigh := utf8Size_digitChar (b.toNat / 16) (by omega)
    have hlow := utf8Size_digitChar (b.toNat % 16) (by omega)
    show length (String.ofList (_ :: _ :: bs.flatMap hexDigits)) = _
    rw [hex] at ih
    rw [length_ofList_cons, length_ofList_cons, hhigh, hlow, ih, List.length_cons]
    omega

end Text

/-- **Labels are short.** -/
theorem Label.length_ofOctets_le (bs : Bytes) : Text.Utf8.length (ofOctets bs) ≤ 36 := by
  have hgroup : ∀ (octets : Bytes) (start size : Nat),
      Text.Utf8.length (Text.hex ((octets.drop start).take size)) ≤ 2 * size := by
    intro octets start size
    rw [Text.Utf8.length_hex]
    exact Nat.mul_le_mul_left 2 (List.length_take_le _ _)
  have hdash : Text.Utf8.length "-" = 1 := rfl
  unfold ofOctets
  simp only [String.intercalate_cons_cons, String.intercalate_singleton, Text.Utf8.length_append, hdash]
  generalize List.modify _ 8 varied = octets
  have hfirst := hgroup octets 0 4
  have hsecond := hgroup octets 4 2
  have hthird := hgroup octets 6 2
  have hfourth := hgroup octets 8 2
  have hfifth := hgroup octets 10 6
  omega

/-! ## 5. Requests whose answers fit -/

namespace AcquisitionRequest

/-- A request names no more channels than there are. -/
theorem length_channels_le (r : AcquisitionRequest) : r.channels.length ≤ 40 := by
  have hnodup : (r.channels.map UInt32.toNat).Nodup :=
    List.Pairwise.map _ (fun _ _ hne h => hne (UInt32.toNat_inj.mp h)) r.acceptable.distinct
  have hsubset : r.channels.map UInt32.toNat ⊆ List.range 40 := by
    intro n hn
    obtain ⟨channel, hchannel, rfl⟩ := List.mem_map.mp hn
    have hrange : channel.toNat ≤ 39 := r.acceptable.in_range channel hchannel
    exact List.mem_range.mpr (Nat.lt_succ_of_le hrange)
  have hlength := (List.subperm_of_subset hnodup hsubset).length_le
  rwa [List.length_map, List.length_range] at hlength

/-- The message that asks for one answer fits in a frame. -/
theorem length_dumpMessage_le (r : AcquisitionRequest) :
    r.dumpMessage.length ≤ Frame.defaultLimit := by
  have hlength : r.dumpMessage.length ≤ 140 + 5 * r.channels.length :=
    Control.length_dumpRequest_le r.toDump
  have hchannels := r.length_channels_le
  rw [Frame.defaultLimit]
  omega

/-- The message that asks for chunks fits in a frame, unless its label is long. -/
theorem length_chunkMessage_le (r : AcquisitionRequest) {label : String} (hint : UInt32)
    (hlabel : Text.Utf8.length label ≤ 512) :
    (r.chunkMessage label hint).length ≤ Frame.defaultLimit := by
  have hlength : (r.chunkMessage label hint).length ≤
      160 + Text.Utf8.length label + 5 * r.channels.length :=
    Control.length_chunkRequest_le (r.toChunks label hint)
  have hchannels := r.length_channels_le
  rw [Frame.defaultLimit]
  omega

/-- The bound on answers with no more waveforms than are asked for, in numbers without an upper end. -/
theorem replyBound_eq (r : AcquisitionRequest) {waveforms : UInt32}
    (hasked : waveforms.toNat ≤ r.waveforms.toNat) :
    r.replyBound waveforms =
      min (5 * (r.channels.length * r.samples.toNat * waveforms.toNat) + 1024) Word.top := by
  have hcount : r.layout.samplesIn? waveforms.toNat =
      some (r.channels.length * r.samples.toNat * waveforms.toNat) := r.samplesIn?_eq_some hasked
  rw [replyBound, hcount, Option.getD_some, Word.addSat, Word.mulSat, maxSampleOctets, replyOverhead]
  omega

/-- A bound on answers that is itself below a limit is no less than it is meant to be. -/
theorem octets_of_replyBound {r : AcquisitionRequest} {waveforms : UInt32} {limit : Nat}
    (hasked : waveforms.toNat ≤ r.waveforms.toNat) (h : r.replyBound waveforms ≤ limit)
    (hlimit : limit < Word.top) :
    5 * (r.channels.length * r.samples.toNat * waveforms.toNat) + 1024 ≤ limit := by
  rw [r.replyBound_eq hasked] at h
  omega

end AcquisitionRequest

namespace AcquisitionConfig

variable {c : AcquisitionConfig} {r : AcquisitionRequest}

theorem check_eq_ok_iff : c.check r = .ok () ↔ r.replyBound (c.largestReply r) ≤ c.maxMessage := by
  simp only [check]
  split
  · rename_i h
    exact ⟨nofun, fun hle => absurd h (Nat.not_lt.mpr hle)⟩
  · rename_i h
    exact ⟨fun _ => Nat.le_of_not_lt h, fun _ => rfl⟩

/-- No chunk holds more waveforms than are asked for. -/
theorem hintFor_le (c : AcquisitionConfig) (r : AcquisitionRequest) :
    (c.hintFor r).toNat ≤ r.waveforms.toNat := by
  have hpos : r.waveforms.toNat ≠ 0 := fun h => r.acceptable.waveforms_pos (UInt32.toNat_inj.mp h)
  have hmin : min c.chunkHint r.waveforms ≤ r.waveforms := Std.min_le_right
  have hone : (1 : UInt32) ≤ r.waveforms := Nat.one_le_iff_ne_zero.mpr hpos
  show (if min c.chunkHint r.waveforms ≤ 1 then 1 else min c.chunkHint r.waveforms) ≤ r.waveforms
  split
  · exact hone
  · exact hmin

/-- A chunk may hold a waveform at least. -/
theorem hintFor_pos (c : AcquisitionConfig) (r : AcquisitionRequest) : 0 < (c.hintFor r).toNat := by
  have hone : (1 : UInt32).toNat = 1 := rfl
  have hle : 1 ≤ c.hintFor r := by
    show 1 ≤ if min c.chunkHint r.waveforms ≤ 1 then 1 else min c.chunkHint r.waveforms
    split
    · exact UInt32.le_refl 1
    · rename_i h
      exact UInt32.le_of_lt (UInt32.not_le.mp h)
  exact hle

theorem largestReply_le (c : AcquisitionConfig) (r : AcquisitionRequest) :
    (c.largestReply r).toNat ≤ r.waveforms.toNat := by
  unfold largestReply
  cases c.mode with
  | single => exact Nat.le_refl _
  | streaming => exact c.hintFor_le r

/-- **What a request is known by that is not refused**: with a limit that the link has too, its largest
answer and what goes with it fit in a frame. -/
theorem octets_of_check (hcheck : c.check r = .ok ()) (hlimit : c.maxMessage ≤ Frame.defaultLimit) :
    5 * (r.channels.length * r.samples.toNat * (c.largestReply r).toNat) + 1024 ≤
      Frame.defaultLimit :=
  AcquisitionRequest.octets_of_replyBound (c.largestReply_le r)
    (Nat.le_trans (check_eq_ok_iff.mp hcheck) hlimit) (by decide)

end AcquisitionConfig

end Readout

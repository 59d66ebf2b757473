/-
# A message that is cut off is not taken for a shorter one

An envelope on the wire is two fields one after the other.  Each begins with a key and says itself where it
ends: a number ends with the octet whose high bit is not set, and octets have their length in front.  So
wherever a field is cut, reading it fails (`Schema.Lawful.readField_of_torn`): a number has no last octet then, and
a length asks for more octets than are there.

Between two fields nothing is missing that the reader could know of.  A record that is cut there is read
with the later fields at their defaults, and everywhere else it is refused (`Schema.Lawful.refuses_torn`).
In an envelope there is one such place behind the first octet, the end of the field that holds the kind.

* `torn_envelopes_refused` -- what is left of an envelope that is cut off is malformed, but for the field
  of the kind alone, which is an envelope without a payload.
-/
import Readout.Proofs.Messages

namespace Readout

/-! ## 1. Fronts -/

/-- A part from the front of two lists ends inside the first, or at its end or behind it. -/
theorem isPrefix_append_cases {α : Type} {front first second : List α}
    (h : front <+: first ++ second) :
    (front <+: first ∧ front ≠ first) ∨ ∃ more, front = first ++ more ∧ more <+: second := by
  obtain ⟨rest, hrest⟩ := h
  rcases List.append_eq_append_iff.mp hrest with ⟨missing, hfirst, -⟩ | ⟨more, hfront, hsecond⟩
  · by_cases hall : front = first
    · exact .inr ⟨[], by simpa using hall, List.nil_prefix⟩
    · exact .inl ⟨⟨missing, hfirst.symm⟩, hall⟩
  · exact .inr ⟨more, hfront, rest, hsecond.symm⟩

namespace Wire

variable {M : Type} {s : Schema M}

/-! ## 2. Values that are cut off -/

theorem Varint.readGroups_torn {groups n : Nat} {front : Bytes}
    (h : front <+: writeGroups groups n) (hne : front ≠ writeGroups groups n) :
    readGroups groups front = none := by
  induction groups generalizing n front with
  | zero => rfl
  | succ groups ih =>
    cases front with
    | nil => rfl
    | cons b front =>
      rw [writeGroups] at h hne
      split at h
      · -- One octet is all there is, so nothing of it is missing.
        rename_i hn
        obtain ⟨rfl, hnil⟩ := List.cons_prefix_cons.mp h
        rw [if_pos hn, List.prefix_nil.mp hnil] at hne
        exact absurd rfl hne
      · rename_i hn
        obtain ⟨rfl, hfront⟩ := List.cons_prefix_cons.mp h
        rw [if_neg hn] at hne
        have hb : (UInt8.ofNat (n % 128 + 128)).toNat = n % 128 + 128 := by
          rw [UInt8.toNat_ofNat']
          omega
        rw [readGroups, hb, if_neg (by omega), ih hfront fun e => hne (by rw [e])]

/-- A number that is cut off has no last octet. -/
theorem readNumber_torn {n : Nat} {front : Bytes} (h : front <+: Varint.write n)
    (hne : front ≠ Varint.write n) : readNumber front = .error .varint := by
  rw [readNumber, show Varint.read? front = none from Varint.readGroups_torn h hne]

theorem Varint.readGroups_excess {groups n : Nat} (h : 2 * Nat.pow 128 groups ≤ n) (rest : Bytes) :
    readGroups (groups + 1) (writeGroups (groups + 1) n ++ rest) = none := by
  induction groups generalizing n with
  | zero =>
    have h' : 2 * 1 ≤ n := h
    rw [writeGroups]
    split
    · have hb : (UInt8.ofNat n).toNat = n := by
        rw [UInt8.toNat_ofNat']
        omega
      rw [List.cons_append, readGroups, hb, if_pos ‹_›, if_pos ⟨rfl, by omega⟩]
    · have hb : (UInt8.ofNat (n % 128 + 128)).toNat = n % 128 + 128 := by
        rw [UInt8.toNat_ofNat']
        omega
      rw [List.cons_append, readGroups, hb, if_neg (by omega)]
      rfl
  | succ groups ih =>
    have h' : 2 * (Nat.pow 128 groups * 128) ≤ n := h
    have hpos : 0 < Nat.pow 128 groups := Nat.pow_pos (by decide)
    have hb : (UInt8.ofNat (n % 128 + 128)).toNat = n % 128 + 128 := by
      rw [UInt8.toNat_ofNat']
      omega
    rw [writeGroups, if_neg (by omega), List.cons_append, readGroups, hb, if_neg (by omega),
      ih (by omega)]

/-- A number of more than 64 bits is not read back. -/
theorem readNumber_excess {n : Nat} (h : Word.size ≤ n) (rest : Bytes) :
    readNumber (Varint.write n ++ rest) = .error .varint := by
  rw [readNumber, show Varint.read? (Varint.write n ++ rest) = none from
    Varint.readGroups_excess h rest]

/-- Octets that are cut off, or whose length is, are fewer than their length says. -/
theorem readDelimited_torn {body front : Bytes}
    (h : front <+: Varint.write body.length ++ body)
    (hne : front ≠ Varint.write body.length ++ body) :
    ∃ flaw, readDelimited front = .error flaw := by
  rcases isPrefix_append_cases h with ⟨hlength, hshort⟩ | ⟨more, rfl, hmore⟩
  · exact ⟨.varint, by rw [readDelimited, readNumber_torn hlength hshort]⟩
  · have hmissing : more.length < body.length := by
      refine Nat.lt_of_le_of_ne hmore.length_le fun hall => hne ?_
      rw [hmore.eq_of_length hall]
    by_cases hsize : body.length < Word.size
    · refine ⟨.underflow, ?_⟩
      simp only [readDelimited, readNumber_write hsize, if_pos hmissing]
    · exact ⟨.varint, by rw [readDelimited, readNumber_excess (Nat.le_of_not_lt hsize)]⟩

/-! ## 3. Fields that are cut off -/

/-- What is written of a field, if anything: a number, or octets behind their length. -/
theorem Field.write_forms (f : Field M) (source : M) (hne : f.write source ≠ []) :
    (∃ n, f.write source = writeNumberField f.number n ∧
        ∀ m bs flaw, readNumber bs = .error flaw → f.slot.read m .varint bs = .error flaw) ∨
      ∃ body, f.write source = writeDelimitedField f.number body ∧
        ∀ m bs flaw, readDelimited bs = .error flaw → f.slot.read m .delimited bs = .error flaw := by
  obtain ⟨number, name, slot⟩ := f
  cases slot with
  | flag get set =>
    cases hget : get source with
    | false => exact absurd (by simp [Field.write, hget]) hne
    | true =>
      refine .inl ⟨1, by simp [Field.write, hget], fun m bs flaw h => ?_⟩
      simp [Slot.read, readNumberValue, h, bind, Except.bind]
  | count get set =>
    by_cases hget : get source = 0
    · exact absurd (by simp [Field.write, hget]) hne
    · refine .inl ⟨(get source).toNat, by simp [Field.write, hget], fun m bs flaw h => ?_⟩
      simp [Slot.read, readNumberValue, h, bind, Except.bind]
  | code get set =>
    by_cases hget : get source = 0
    · exact absurd (by simp [Field.write, hget]) hne
    · refine .inl ⟨codeNumber (get source), by simp [Field.write, hget], fun m bs flaw h => ?_⟩
      simp [Slot.read, readNumberValue, h, bind, Except.bind]
  | text get set =>
    by_cases hget : get source = ""
    · exact absurd (by simp [Field.write, hget]) hne
    · refine .inr ⟨Text.Utf8.encode (get source), by simp [Field.write, hget],
        fun m bs flaw h => ?_⟩
      simp [Slot.read, readDelimitedValue, h, bind, Except.bind]
  | octets get set =>
    by_cases hget : get source = []
    · exact absurd (by simp [Field.write, hget]) hne
    · refine .inr ⟨get source, by simp [Field.write, hget], fun m bs flaw h => ?_⟩
      simp [Slot.read, readDelimitedValue, h, bind, Except.bind]
  | counts get set =>
    by_cases hget : get source = []
    · exact absurd (by simp [Field.write, hget]) hne
    · refine .inr ⟨packed (get source), by simp [Field.write, hget], fun m bs flaw h => ?_⟩
      simp [Slot.read, readCounts, h, bind, Except.bind]

/-- Where the value behind a key is refused, so is the field, and where the key is cut off, too. -/
theorem Schema.readField_of_torn_value {f : Field M} {type : WireType} {value front : Bytes} {m : M}
    (hfind : s.fields.find? (·.number == f.number) = some f)
    (hpos : 0 < f.number) (hlt : f.number < 0x20000000)
    (h : front <+: Key.write ⟨f.number, type⟩ ++ value)
    (hne : front ≠ Key.write ⟨f.number, type⟩ ++ value)
    (hvalue : ∀ torn, torn <+: value → torn ≠ value → ∃ flaw, f.slot.read m type torn = .error flaw) :
    ∃ e, s.readField m front = .error e := by
  rcases isPrefix_append_cases h with ⟨hkey, hshort⟩ | ⟨torn, rfl, htorn⟩
  · have hread : Key.read front = .error .varint := by rw [Key.read, readNumber_torn hkey hshort]
    exact ⟨⟨none, .varint⟩, by rw [Schema.readField, hread]⟩
  · obtain ⟨flaw, hflaw⟩ := hvalue torn htorn fun e => hne (by rw [e])
    have hread : Key.read (Key.write ⟨f.number, type⟩ ++ torn) = .ok (⟨f.number, type⟩, torn) :=
      Key.read_write_append hpos hlt torn
    exact ⟨⟨some (s.name ++ "." ++ f.name), flaw⟩,
      by simp only [Schema.readField, hread, hfind, hflaw]⟩

/-- **A field that is cut off is refused.** -/
theorem Schema.Lawful.readField_of_torn (hs : s.Lawful) {f : Field M} (hmem : f ∈ s.fields)
    {source m : M} {front : Bytes} (hsome : front ≠ []) (h : front <+: f.write source)
    (hne : front ≠ f.write source) : ∃ e, s.readField m front = .error e := by
  obtain ⟨hpos, hlt⟩ := hs.in_range f.number (List.mem_map_of_mem hmem)
  have hfind := find?_number hs.distinct hmem
  have hwritten : f.write source ≠ [] := fun hnil => hsome (List.prefix_nil.mp (hnil ▸ h))
  rcases f.write_forms source hwritten with ⟨n, hwrite, hrefuses⟩ | ⟨body, hwrite, hrefuses⟩
  · rw [hwrite] at h hne
    refine readField_of_torn_value hfind hpos hlt h hne fun torn htorn hshort => ⟨.varint, ?_⟩
    exact hrefuses m torn .varint (readNumber_torn htorn hshort)
  · rw [hwrite] at h hne
    refine readField_of_torn_value hfind hpos hlt h hne fun torn htorn hshort => ?_
    obtain ⟨flaw, hflaw⟩ := readDelimited_torn htorn hshort
    exact ⟨flaw, hrefuses m torn flaw hflaw⟩

/-! ## 4. Records that are cut off -/

/-- Reading the octets into a record fails, with any fuel that suffices. -/
def Schema.Refuses (s : Schema M) (m : M) (bs : Bytes) : Prop :=
  ∀ fuel, bs.length ≤ fuel → ∃ e, s.readFields fuel m bs = .error e

/-- A field that is refused ends the reading. -/
theorem Schema.Refuses.of_field {m : M} {bs : Bytes} {e : DecodeError} (hsome : bs ≠ [])
    (hfield : s.readField m bs = .error e) : s.Refuses m bs := by
  intro fuel hfuel
  obtain ⟨b, bs, rfl⟩ := List.exists_cons_of_ne_nil hsome
  cases fuel with
  | zero => simp at hfuel
  | succ fuel => exact ⟨e, by rw [Schema.readFields, hfield]⟩

theorem Schema.Leads.refuses {m next : M} {bs rest : Bytes} (h : s.Leads m bs next rest)
    (hrest : s.Refuses next rest) : s.Refuses m bs := by
  intro fuel hfuel
  obtain ⟨fuel', hfuel', heq⟩ := h fuel hfuel
  rw [heq]
  exact hrest fuel' hfuel'

/-- **What is written of some fields is refused when it is cut off inside a field.**  The fields are
filled in one by one, up to the one that is cut. -/
theorem Schema.Lawful.refuses_torn (hs : s.Lawful) {source m : M} {fields : List (Field M)}
    (hsub : fields ⊆ s.fields) (hmake : MakesUp source fields m)
    (hfits : (fields.dropLast.flatMap fun f => f.write source).length < Word.size) {front : Bytes}
    (h : front <+: fields.flatMap fun f => f.write source)
    (hinside : ∀ whole, whole <+: fields → front ≠ whole.flatMap fun f => f.write source) :
    s.Refuses m front := by
  induction fields generalizing m front with
  | nil => exact absurd (by simpa using h) (hinside [] List.nil_prefix)
  | cons f fields ih =>
    have hmem : f ∈ s.fields := hsub List.mem_cons_self
    have hsome : front ≠ [] := hinside [] List.nil_prefix
    rw [List.flatMap_cons] at h
    rcases isPrefix_append_cases h with ⟨hown, hshort⟩ | ⟨more, rfl, hmore⟩
    · obtain ⟨e, he⟩ := hs.readField_of_torn (m := m) hmem hsome hown hshort
      exact .of_field hsome he
    · have hbehind : ∀ whole, whole <+: fields → more ≠ whole.flatMap fun f => f.write source := by
        rintro whole hwhole rfl
        refine hinside (f :: whole) (List.cons_prefix_cons.mpr ⟨rfl, hwhole⟩) ?_
        rw [List.flatMap_cons]
      -- What is cut lies behind this field, so this field is not the last one.
      have hlast : fields ≠ [] := by
        rintro rfl
        exact hbehind [] List.nil_prefix (by simpa using hmore)
      rw [List.dropLast_cons_of_ne_nil hlast, List.flatMap_cons, List.length_append] at hfits
      obtain ⟨hunset, hmake⟩ := hmake
      have hrest := ih (fun g hg => hsub (List.mem_cons_of_mem f hg)) hmake (by omega) hmore hbehind
      have hown : (f.write source).length < Word.size := by omega
      exact (hs.leads_field hmem hunset hown more).refuses hrest

end Wire

namespace Control

open Wire

/-! ## 5. Envelopes that are cut off -/

/-- The octets are no envelope, or one whose kind was never set. -/
def ControlError.isMalformed : ControlError → Bool
  | envelope _ | kindNotSet => true
  | unknownKind _ | payload .. => false

/-- The octets that hold the kind of an envelope. -/
def Envelope.kindField (kind : Kind) : Bytes := writeNumberField 1 (codeNumber kind.code)

/-- The octets that hold the payload of an envelope. -/
def Envelope.payloadField (payload : Bytes) : Bytes := writeDelimitedField 2 payload

theorem Kind.code_ne_zero {kind : Kind} (h : kind ≠ .unspecified) : kind.code ≠ 0 :=
  fun hcode => h (Kind.code_inj hcode)

theorem Envelope.encode_empty {kind : Kind} (h : kind ≠ .unspecified) :
    encode kind [] = kindField kind := by
  simp [encode, Schema.write, RawEnvelope.schema, Field.write, Kind.code_ne_zero h, kindField]

theorem Envelope.encode_eq_append {kind : Kind} {payload : Bytes} (hkind : kind ≠ .unspecified)
    (hpayload : payload ≠ []) : encode kind payload = kindField kind ++ payloadField payload := by
  simp [encode, Schema.write, RawEnvelope.schema, Field.write, Kind.code_ne_zero hkind, hpayload,
    kindField, payloadField]

theorem Envelope.payloadField_ne_nil (payload : Bytes) : payloadField payload ≠ [] := by
  have hkey := Varint.write_ne_nil (2 * 8 + WireType.delimited.code)
  simp [payloadField, writeDelimitedField, Key.write, hkey]

/-- The field of the kind is short: its number has one octet. -/
theorem Envelope.length_kindField (kind : Kind) : (kindField kind).length = 2 := by
  cases kind <;> rfl

/-- What is written of an envelope's first fields, as many as there may be. -/
theorem Envelope.flatMap_write_of_isPrefix {kind : Kind} {payload : Bytes} (hkind : kind ≠ .unspecified)
    {whole : List (Wire.Field RawEnvelope)} (h : whole <+: RawEnvelope.schema.fields) :
    (whole.flatMap fun f => f.write ⟨kind.code, payload⟩) = [] ∨
      (whole.flatMap fun f => f.write ⟨kind.code, payload⟩) = kindField kind ∨
      (whole.flatMap fun f => f.write ⟨kind.code, payload⟩) = encode kind payload := by
  rcases List.prefix_cons_iff.mp h with rfl | ⟨more, rfl, hmore⟩
  · exact .inl rfl
  · rcases List.prefix_cons_iff.mp hmore with rfl | ⟨none, rfl, hnone⟩
    · exact .inr (.inl (by simp [Field.write, Kind.code_ne_zero hkind, kindField]))
    · obtain rfl := List.prefix_nil.mp hnone
      exact .inr (.inr rfl)

/-- Of no octets at all the kind is missing. -/
theorem Envelope.decode_nil : decode [] = .error .kindNotSet := rfl

/-- **An envelope that is cut off inside a field is malformed.** -/
theorem Envelope.decode_torn {kind : Kind} {payload front : Bytes} (hkind : kind ≠ .unspecified)
    (h : front <+: encode kind payload) (hne : front ≠ encode kind payload)
    (hother : front ≠ kindField kind) :
    ∃ error, decode front = .error error ∧ error.isMalformed = true := by
  by_cases hnil : front = []
  · exact ⟨.kindNotSet, by rw [hnil, decode_nil], rfl⟩
  · have hinside : ∀ whole, whole <+: RawEnvelope.schema.fields →
        front ≠ whole.flatMap fun f => f.write ⟨kind.code, payload⟩ := by
      rintro whole hwhole rfl
      rcases flatMap_write_of_isPrefix hkind hwhole with hnone | hfirst | hall
      · exact hnil hnone
      · exact hother hfirst
      · exact hne hall
    have hfits : (RawEnvelope.schema.fields.dropLast.flatMap fun f =>
        f.write ⟨kind.code, payload⟩).length < Word.size := by
      have hfirst : (RawEnvelope.schema.fields.dropLast.flatMap fun f =>
          f.write ⟨kind.code, payload⟩) = kindField kind := by
        simp [RawEnvelope.schema, Field.write, Kind.code_ne_zero hkind, kindField]
      rw [hfirst, length_kindField]
      decide
    obtain ⟨e, he⟩ := RawEnvelope.lawful.refuses_torn (List.Subset.refl _)
      (RawEnvelope.lawful.makes_up ⟨kind.code, payload⟩) hfits h hinside front.length (Nat.le_refl _)
    have hread : RawEnvelope.schema.read front = .error e := he
    exact ⟨.envelope e, by rw [decode, hread], rfl⟩

/-- **An envelope that is cut off is never taken for a shorter one.**  The field of the kind alone is an
envelope without a payload; every other strict front of an envelope with a payload is malformed, wherever
it ends and however long the payload is.  So none gives a payload or another kind. -/
theorem torn_envelopes_refused {kind : Kind} {payload : Bytes} (hkind : kind ≠ .unspecified)
    (hpayload : payload ≠ []) :
    (Envelope.kindField kind <+: Envelope.encode kind payload ∧
      Envelope.kindField kind ≠ Envelope.encode kind payload ∧
      Envelope.decode (Envelope.kindField kind) = .ok ⟨kind, []⟩) ∧
    ∀ front, front <+: Envelope.encode kind payload → front ≠ Envelope.encode kind payload →
      (front ≠ Envelope.kindField kind →
        ∃ error, Envelope.decode front = .error error ∧ error.isMalformed = true) ∧
      ∀ envelope, Envelope.decode front = .ok envelope → envelope = ⟨kind, []⟩ := by
  have hwhole := Envelope.encode_eq_append hkind hpayload
  have hshort : (Envelope.encode kind []).length < Word.size := by
    rw [Envelope.encode_empty hkind, Envelope.length_kindField]
    decide
  have hempty := decode_encode hkind hshort
  rw [Envelope.encode_empty hkind] at hempty
  refine ⟨⟨⟨_, hwhole.symm⟩, ?_, hempty⟩, fun front hfront hne => ⟨?_, ?_⟩⟩
  · rw [hwhole]
    simpa using Envelope.payloadField_ne_nil payload
  · exact Envelope.decode_torn hkind hfront hne
  · intro envelope hdecode
    by_cases hall : front = Envelope.kindField kind
    · rw [hall, hempty] at hdecode
      exact (Except.ok.inj hdecode).symm
    · obtain ⟨error, herror, -⟩ := Envelope.decode_torn hkind hfront hne hall
      rw [herror] at hdecode
      cases hdecode

/-- A payload whose length takes two octets: what is left is cut behind the kind, inside the length, and
inside the payload. -/
theorem torn_envelopes_refused_long :
    Envelope.decode (Envelope.kindField .dump) = .ok ⟨.dump, []⟩ ∧
      (∃ error, Envelope.decode ((Envelope.encode .dump (List.replicate 300 7)).take 4) = .error error ∧
        error.isMalformed = true) ∧
      ∃ error, Envelope.decode ((Envelope.encode .dump (List.replicate 300 7)).take 304) = .error error ∧
        error.isMalformed = true := by
  obtain ⟨⟨-, -, hkind⟩, htorn⟩ :=
    @torn_envelopes_refused .dump (List.replicate 300 7) (by decide) (by decide)
  refine ⟨hkind, ?_, ?_⟩
  · exact (htorn _ (List.take_prefix 4 _) (by decide +kernel)).1 (by decide +kernel)
  · exact (htorn _ (List.take_prefix 304 _) (by decide +kernel)).1 (by decide +kernel)

end Control

end Readout

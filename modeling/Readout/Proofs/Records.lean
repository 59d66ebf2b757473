/-
# Records are read back as they were written

A schema writes the fields of a record one after the other, leaves out those at their default, and
reads them in whatever order they come.  This file proves that reading undoes writing, for any schema
whose fields are numbered apart and together make up the record (`Schema.Lawful`).

The reader starts from the empty record, so a field that was left out has to be at its default
already: `Slot.Unset` says so of one field, and `MakesUp` carries it along the fields that are left.

* `Schema.read_write` -- a record that was written is read back.

A length is written as a 64-bit number, so what is written has to be shorter than `2 ^ 64` octets.
-/
import Readout.Wire.Schema

namespace Readout.Wire

variable {M : Type} {s : Schema M}

/-! ## 1. Values -/

theorem Varint.writeGroups_ne_nil (groups n : Nat) : writeGroups (groups + 1) n ≠ [] := by
  unfold writeGroups
  split <;> simp

theorem Varint.write_ne_nil (n : Nat) : write n ≠ [] := writeGroups_ne_nil 9 n

theorem readNumber_write {n : Nat} (h : n < Word.size) (rest : Bytes) :
    readNumber (Varint.write n ++ rest) = .ok (n, rest) := by
  simp [readNumber, Varint.read?_write_append h]

theorem readDelimited_write {body : Bytes} (h : body.length < Word.size) (rest : Bytes) :
    readDelimited (Varint.write body.length ++ (body ++ rest)) = .ok (body, rest) := by
  rw [readDelimited, readNumber_write h]
  simp

theorem toNat_lt_size (n : UInt32) : n.toNat < Word.size :=
  Nat.lt_trans n.toNat_lt (by decide)

theorem lowCount_toNat (n : UInt32) : lowCount n.toNat = n := UInt32.ofNat_toNat

theorem codeNumber_lt (c : Int32) : codeNumber c < Word.size := by
  unfold codeNumber Word.size
  omega

theorem lowCode_codeNumber (c : Int32) : lowCode (codeNumber c) = c := by
  have hlow := c.minValue_le_toInt
  have hhigh := c.toInt_le
  have hmin : Int32.minValue.toInt = -2147483648 := rfl
  have hmax : Int32.maxValue.toInt = 2147483647 := rfl
  apply Int32.toInt_inj.mp
  rw [lowCode, Int32.toInt_ofInt, codeNumber, Int.bmod_def]
  simp only [Word.size, Int32.size]
  omega

/-- A packed list is read back, behind the numbers that were read before. -/
theorem readPacked_packed (after : Bytes) {fuel : Nat} {done ns : List UInt32}
    (h : (packed ns).length ≤ fuel) :
    readPacked after fuel done (packed ns) = .ok (done.reverse ++ ns) := by
  induction ns generalizing fuel done with
  | nil => simp [packed, readPacked]
  | cons n ns ih =>
    have hcons : packed (n :: ns) = Varint.write n.toNat ++ packed ns := by simp [packed]
    have hpos := List.length_pos_iff.mpr (Varint.write_ne_nil n.toNat)
    rw [hcons] at h ⊢
    obtain ⟨b, bs, hb⟩ := List.exists_cons_of_ne_nil (Varint.write_ne_nil n.toNat)
    have hread := Varint.read?_write_append (toNat_lt_size n) (packed ns)
    rw [hb, List.cons_append] at hread ⊢
    cases fuel with
    | zero => simp [hb] at h
    | succ fuel =>
      have hfuel : (packed ns).length ≤ fuel := by
        rw [List.length_append] at h
        omega
      simp only [readPacked, hread, ih hfuel, lowCount_toNat]
      simp

/-! ## 2. One field -/

/-- The record with the value that another has in the slot. -/
def Slot.copy (slot : Slot M) (source m : M) : M :=
  match slot with
  | .flag get set => set (get source) m
  | .count get set => set (get source) m
  | .code get set => set (get source) m
  | .text get set => set (get source) m
  | .octets get set => set (get source) m
  | .counts get set => set (get source) m

/-- The slot is at its default. -/
def Slot.Unset (slot : Slot M) (m : M) : Prop :=
  match slot with
  | .flag _ set => set false m = m
  | .count _ set => set 0 m = m
  | .code _ set => set 0 m = m
  | .text _ set => set "" m = m
  | .octets _ set => set [] m = m
  | .counts get set => get m = [] ∧ set [] m = m

/-- A known field is read into the record. -/
theorem Schema.readField_of_slot {f : Field M} {type : WireType} {m : M} {rest : Bytes}
    {found : M × Bytes} (hfind : s.fields.find? (·.number == f.number) = some f)
    (hpos : 0 < f.number) (hlt : f.number < 0x20000000)
    (hread : f.slot.read m type rest = .ok found) :
    s.readField m (Key.write ⟨f.number, type⟩ ++ rest) = .ok found := by
  have hkey : Key.read (Key.write ⟨f.number, type⟩ ++ rest) = .ok (⟨f.number, type⟩, rest) :=
    Key.read_write_append hpos hlt rest
  simp [Schema.readField, hkey, hfind, hread]

/-- What is written of a field: nothing where the record to be filled has the value already, and else
a key and octets from which the slot is filled. -/
theorem Field.write_cases (f : Field M) {source m : M} (hunset : f.slot.Unset m)
    (hfits : (f.write source).length < Word.size) :
    (f.write source = [] ∧ f.slot.copy source m = m) ∨
      ∃ type body, f.write source = Key.write ⟨f.number, type⟩ ++ body ∧
        ∀ rest, f.slot.read m type (body ++ rest) = .ok (f.slot.copy source m, rest) := by
  obtain ⟨number, name, slot⟩ := f
  cases slot with
  | flag get set =>
    cases hget : get source with
    | false =>
      exact .inl ⟨by simp [Field.write, hget], by simpa [Slot.copy, hget, Slot.Unset] using hunset⟩
    | true =>
      refine .inr ⟨.varint, Varint.write 1, by simp [Field.write, hget, writeNumberField], ?_⟩
      intro rest
      simp [Slot.read, readNumberValue, readNumber_write (show 1 < Word.size by decide), Slot.copy,
        hget, bind, Except.bind, pure, Except.pure]
  | count get set =>
    by_cases hget : get source = 0
    · exact .inl ⟨by simp [Field.write, hget], by simpa [Slot.copy, hget, Slot.Unset] using hunset⟩
    · refine .inr ⟨.varint, Varint.write (get source).toNat,
        by simp [Field.write, hget, writeNumberField], ?_⟩
      intro rest
      simp [Slot.read, readNumberValue, readNumber_write (toNat_lt_size _), Slot.copy,
        lowCount_toNat, bind, Except.bind, pure, Except.pure]
  | code get set =>
    by_cases hget : get source = 0
    · exact .inl ⟨by simp [Field.write, hget], by simpa [Slot.copy, hget, Slot.Unset] using hunset⟩
    · refine .inr ⟨.varint, Varint.write (codeNumber (get source)),
        by simp [Field.write, hget, writeNumberField], ?_⟩
      intro rest
      simp [Slot.read, readNumberValue, readNumber_write (codeNumber_lt _), Slot.copy,
        lowCode_codeNumber, bind, Except.bind, pure, Except.pure]
  | text get set =>
    by_cases hget : get source = ""
    · exact .inl ⟨by simp [Field.write, hget], by simpa [Slot.copy, hget, Slot.Unset] using hunset⟩
    · have hlen : (Text.Utf8.encode (get source)).length < Word.size := by
        simp only [Field.write, hget, if_false, writeDelimitedField, List.length_append] at hfits
        omega
      refine .inr ⟨.delimited,
        Varint.write (Text.Utf8.encode (get source)).length ++ Text.Utf8.encode (get source),
        by simp only [Field.write, hget, if_false, writeDelimitedField], ?_⟩
      intro rest
      rw [List.append_assoc]
      simp [-Text.Utf8.length_encode, Slot.read, readDelimitedValue, readDelimited_write hlen,
        Text.Utf8.decode?_encode, Slot.copy, bind, Except.bind, pure, Except.pure]
  | octets get set =>
    by_cases hget : get source = []
    · exact .inl ⟨by simp [Field.write, hget], by simpa [Slot.copy, hget, Slot.Unset] using hunset⟩
    · have hlen : (get source).length < Word.size := by
        simp only [Field.write, hget, if_false, writeDelimitedField, List.length_append] at hfits
        omega
      refine .inr ⟨.delimited, Varint.write (get source).length ++ get source,
        by simp only [Field.write, hget, if_false, writeDelimitedField], ?_⟩
      intro rest
      rw [List.append_assoc]
      simp [Slot.read, readDelimitedValue, readDelimited_write hlen, Slot.copy, bind, Except.bind,
        pure, Except.pure]
  | counts get set =>
    obtain ⟨hnone, hset⟩ := hunset
    by_cases hget : get source = []
    · exact .inl ⟨by simp [Field.write, hget], by simpa [Slot.copy, hget] using hset⟩
    · have hlen : (packed (get source)).length < Word.size := by
        simp only [Field.write, hget, if_false, writeDelimitedField, List.length_append] at hfits
        omega
      refine .inr ⟨.delimited, Varint.write (packed (get source)).length ++ packed (get source),
        by simp only [Field.write, hget, if_false, writeDelimitedField], ?_⟩
      intro rest
      rw [List.append_assoc]
      simp [Slot.read, readCounts, readDelimited_write hlen, readPacked_packed rest (Nat.le_refl _),
        Slot.copy, hnone, bind, Except.bind, pure, Except.pure]

/-! ## 3. Many fields -/

/-- Reading the octets into a record gives another, with any fuel that suffices. -/
def Schema.Reads (s : Schema M) (m : M) (bs : Bytes) (result : M) : Prop :=
  ∀ fuel, bs.length ≤ fuel → s.readFields fuel m bs = .ok result

theorem Schema.Reads.nil (s : Schema M) (m : M) : s.Reads m [] m := by
  intro fuel _
  cases fuel <;> rfl

/-- Reading the octets into a record goes on with another record and the octets that are left, with
any fuel that suffices. -/
def Schema.Leads (s : Schema M) (m : M) (bs : Bytes) (next : M) (rest : Bytes) : Prop :=
  ∀ fuel, bs.length ≤ fuel →
    ∃ fuel', rest.length ≤ fuel' ∧ s.readFields fuel m bs = s.readFields fuel' next rest

theorem Schema.Leads.refl (s : Schema M) (m : M) (bs : Bytes) : s.Leads m bs m bs :=
  fun fuel hfuel => ⟨fuel, hfuel, rfl⟩

theorem Schema.Leads.trans {m next last : M} {bs more rest : Bytes} (h : s.Leads m bs next more)
    (h' : s.Leads next more last rest) : s.Leads m bs last rest := by
  intro fuel hfuel
  obtain ⟨fuel', hfuel', heq⟩ := h fuel hfuel
  obtain ⟨fuel'', hfuel'', heq'⟩ := h' fuel' hfuel'
  exact ⟨fuel'', hfuel'', heq.trans heq'⟩

/-- One field is read. -/
theorem Schema.Leads.of_field {m next : M} {bs rest : Bytes}
    (hfield : s.readField m bs = .ok (next, rest)) (hshort : rest.length < bs.length) :
    s.Leads m bs next rest := by
  intro fuel hfuel
  obtain ⟨b, bs, rfl⟩ := List.exists_cons_of_length_pos (Nat.zero_lt_of_lt hshort)
  cases fuel with
  | zero => simp at hfuel
  | succ fuel => exact ⟨fuel, by omega, by rw [Schema.readFields, hfield]⟩

theorem Schema.Leads.reads {m next result : M} {bs rest : Bytes} (h : s.Leads m bs next rest)
    (hrest : s.Reads next rest result) : s.Reads m bs result := by
  intro fuel hfuel
  obtain ⟨fuel', hfuel', heq⟩ := h fuel hfuel
  rw [heq, hrest fuel' hfuel']

theorem Schema.Reads.read {m : M} {bs : Bytes} (h : s.Reads s.empty bs m) : s.read bs = .ok m :=
  h bs.length (Nat.le_refl _)

/-- Filling a record with the fields that are left makes it the source: each slot is at its default
before it is filled. -/
def MakesUp (source : M) : List (Field M) → M → Prop
  | [], m => m = source
  | f :: fields, m => f.slot.Unset m ∧ MakesUp source fields (f.slot.copy source m)

/-- The fields of a schema are numbered apart and make up the record. -/
structure Schema.Lawful (s : Schema M) : Prop where
  distinct : (s.fields.map (·.number)).Nodup
  in_range : ∀ n ∈ s.fields.map (·.number), 0 < n ∧ n < 0x20000000
  makes_up : ∀ m, MakesUp m s.fields s.empty

theorem find?_number {fields : List (Field M)} (h : (fields.map (·.number)).Nodup) {f : Field M}
    (hmem : f ∈ fields) : fields.find? (·.number == f.number) = some f := by
  induction fields with
  | nil => simp at hmem
  | cons g fields ih =>
    obtain ⟨hg, hrest⟩ := List.nodup_cons.mp h
    rcases List.mem_cons.mp hmem with rfl | hmem
    · simp
    · have hne : g.number ≠ f.number := fun e => hg (List.mem_map.mpr ⟨f, hmem, e.symm⟩)
      rw [List.find?_cons_of_neg (by simpa using hne), ih hrest hmem]

/-- A field that was written is read into the record, whatever follows it. -/
theorem Schema.Lawful.leads_field (hs : s.Lawful) {f : Field M} (hmem : f ∈ s.fields)
    {source m : M} (hunset : f.slot.Unset m) (hfits : (f.write source).length < Word.size)
    (rest : Bytes) : s.Leads m (f.write source ++ rest) (f.slot.copy source m) rest := by
  rcases f.write_cases hunset hfits with ⟨hnone, hcopy⟩ | ⟨type, body, hwrite, hread⟩
  · rw [hnone, List.nil_append, hcopy]
    exact .refl s m rest
  · obtain ⟨hpos, hlt⟩ := hs.in_range f.number (List.mem_map_of_mem hmem)
    have hkey := List.length_pos_iff.mpr (Varint.write_ne_nil (f.number * 8 + type.code))
    rw [hwrite, List.append_assoc]
    refine .of_field (Schema.readField_of_slot (find?_number hs.distinct hmem) hpos hlt (hread _)) ?_
    simp only [Key.write, List.length_append]
    omega

/-- What was written of some fields fills the record with them. -/
theorem Schema.Lawful.reads_fields (hs : s.Lawful) {source m : M} {fields : List (Field M)}
    (hsub : fields ⊆ s.fields) (hmake : MakesUp source fields m)
    (hfits : (fields.flatMap fun f => f.write source).length < Word.size) :
    s.Reads m (fields.flatMap fun f => f.write source) source := by
  induction fields generalizing m with
  | nil =>
    cases hmake
    exact .nil s _
  | cons f fields ih =>
    obtain ⟨hunset, hmake⟩ := hmake
    rw [List.flatMap_cons] at hfits ⊢
    rw [List.length_append] at hfits
    have hrest := ih (fun g hg => hsub (List.mem_cons_of_mem f hg)) hmake (by omega)
    exact (hs.leads_field (hsub List.mem_cons_self) hunset (by omega) _).reads hrest

/-- **A record that was written is read back.** -/
theorem Schema.read_write (hs : s.Lawful) {m : M} (h : (s.write m).length < Word.size) :
    s.read (s.write m) = .ok m :=
  (hs.reads_fields (fun _ hf => hf) (hs.makes_up m) h).read

end Readout.Wire

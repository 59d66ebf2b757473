/-
# Greetings are understood as they were meant

A record of texts is written as an object, field after field, and read field by field.  Whatever the
texts hold, the record that is read is the one that was written; hence so are the greetings.

* `readRecord_writeRecord` -- a record that was written is read back;
* `ClientHello.read_write`, `ServerHello.read_write` -- so is a greeting;
* `length_writeRecord_le` -- writing makes a text six times as long at most.
-/
import Readout.Link.Hello

namespace Readout.Json

/-! ## 1. Fields -/

/-- The octets of one field. -/
def writeField (field : String × String) : Bytes :=
  quote (Text.Utf8.encode field.1) ++ 0x3A :: quote (Text.Utf8.encode field.2)

/-- The octets of fields that follow others. -/
def writeMore (fields : List (String × String)) : Bytes :=
  fields.flatMap fun field => 0x2C :: writeField field

theorem writeRecord_cons (field : String × String) (fields : List (String × String)) :
    writeRecord (field :: fields) = 0x7B :: (writeField field ++ (writeMore fields ++ [0x7D])) := by
  have hjoin : List.intercalate [0x2C] ((field :: fields).map writeField) =
      writeField field ++ writeMore fields := by
    induction fields generalizing field with
    | nil => simp [writeMore, List.intercalate]
    | cons other fields ih =>
      have hrest := ih other
      simp only [List.map_cons, List.intercalate, List.intersperse_cons_cons,
        List.flatten_cons] at hrest ⊢
      rw [hrest]
      rfl
  rw [← List.append_assoc, ← hjoin]
  rfl

theorem afterBlanks_of_no_blank {b : UInt8} (h : isBlank b = false) (bs : Bytes) :
    afterBlanks (b :: bs) = b :: bs := by
  simp [afterBlanks, h]

theorem quote_append (text rest : Bytes) :
    quote text ++ rest = 0x22 :: (text.flatMap quoteOctet ++ 0x22 :: rest) := by
  simp [quote]

/-- The name of a field that comes next is read. -/
theorem nextName_quote (first : Bool) (name : String) (rest : Bytes) :
    nextName first ((if first then [] else [0x2C]) ++ (quote (Text.Utf8.encode name) ++ rest)) =
      .ok (some (name, rest)) := by
  rw [quote_append]
  cases first with
  | true =>
    rw [if_pos rfl, List.nil_append, nextName, afterBlanks_of_no_blank (by decide)]
    simp [readText_quote, Except.map]
  | false =>
    rw [if_neg Bool.false_ne_true, List.singleton_append, nextName,
      afterBlanks_of_no_blank (by decide)]
    simp [afterBlanks_of_no_blank (show isBlank 0x22 = false by decide), readText_quote, Except.map]

theorem textValue_quote (value : String) (rest : Bytes) :
    textValue (quote (Text.Utf8.encode value) ++ rest) = .ok (value, rest) := by
  rw [quote_append, textValue, afterBlanks_of_no_blank (by decide)]
  simp [readText_quote]

theorem afterColon_colon (rest : Bytes) : afterColon (0x3A :: rest) = .ok rest := by
  rw [afterColon, afterBlanks_of_no_blank (by decide)]
  rfl

/-! ## 2. Records -/

variable {names : List String} {found : Found}

/-- **A wanted field is read** if it is met for the first time. -/
theorem readFields_writeField {field : String × String} (hname : field.1 ∈ names)
    (hnew : found.lookup field.1 = none) (fuel : Nat) (first : Bool) (rest : Bytes) :
    readFields names (fuel + 1) first found
        ((if first then [] else [0x2C]) ++ (writeField field ++ rest)) =
      readFields names fuel false (field :: found) rest := by
  have hfield : writeField field ++ rest = quote (Text.Utf8.encode field.1) ++
      (0x3A :: (quote (Text.Utf8.encode field.2) ++ rest)) := by
    simp [writeField]
  rw [readFields, hfield, nextName_quote]
  simp [hname, hnew, afterColon_colon, textValue_quote]

/-- At the end of the object, what was found is collected. -/
theorem readFields_end (fuel : Nat) (first : Bool) (rest : Bytes) :
    readFields names (fuel + 1) first found (0x7D :: rest) =
      (collect names found).map fun values => (values, rest) := by
  rw [readFields, nextName, afterBlanks_of_no_blank (by decide)]
  simp only [if_true]
  cases collect names found <;> rfl

/-- Wanted fields that follow others are read, up to the end of the object. -/
theorem readFields_writeMore {fields : List (String × String)}
    (hnames : ∀ field ∈ fields, field.1 ∈ names) (hdistinct : (fields.map Prod.fst).Nodup)
    (hnew : ∀ field ∈ fields, found.lookup field.1 = none) {fuel : Nat} (hfuel : fields.length < fuel)
    (rest : Bytes) :
    readFields names fuel false found (writeMore fields ++ 0x7D :: rest) =
      (collect names (fields.reverse ++ found)).map fun values => (values, rest) := by
  induction fields generalizing found fuel with
  | nil =>
    obtain ⟨fuel, rfl⟩ := Nat.exists_eq_succ_of_ne_zero (Nat.ne_of_gt hfuel)
    exact readFields_end fuel false rest
  | cons field fields ih =>
    obtain ⟨fuel, rfl⟩ := Nat.exists_eq_succ_of_ne_zero (Nat.ne_of_gt (Nat.zero_lt_of_lt hfuel))
    obtain ⟨hname, hnames'⟩ := List.forall_mem_cons.mp hnames
    obtain ⟨hnot, hdistinct'⟩ := List.nodup_cons.mp hdistinct
    obtain ⟨hfirst, hnew'⟩ := List.forall_mem_cons.mp hnew
    have hstill : ∀ other ∈ fields, List.lookup other.1 (field :: found) = none := by
      intro other hother
      have hne : other.1 ≠ field.1 := fun h => hnot (h ▸ List.mem_map_of_mem hother)
      rw [List.lookup_cons, beq_false_of_ne hne]
      exact hnew' other hother
    have hread := readFields_writeField hname hfirst fuel false
      (writeMore fields ++ 0x7D :: rest)
    have hmore := ih hnames' hdistinct' hstill (Nat.lt_of_succ_lt_succ hfuel)
    have hsplit : writeMore (field :: fields) ++ 0x7D :: rest =
        [0x2C] ++ (writeField field ++ (writeMore fields ++ 0x7D :: rest)) := by
      simp [writeMore]
    rw [if_neg Bool.false_ne_true] at hread
    rw [hsplit, hread, hmore, List.reverse_cons, List.append_assoc, List.singleton_append]

/-- The values of fields are collected by their names. -/
theorem collect_of_lookup {fields : List (String × String)}
    (h : ∀ field ∈ fields, found.lookup field.1 = some field.2) :
    collect (fields.map Prod.fst) found = .ok (fields.map Prod.snd) := by
  induction fields with
  | nil => rfl
  | cons field fields ih =>
    obtain ⟨hfield, hfields⟩ := List.forall_mem_cons.mp h
    have hmore := ih hfields
    unfold collect at hmore ⊢
    rw [List.map_cons, List.mapM_cons, hfield, hmore]
    rfl

/-- Among fields of distinct names, each is found by its name. -/
theorem lookup_of_mem {fields : Found} (hdistinct : (fields.map Prod.fst).Nodup)
    {field : String × String} (h : field ∈ fields) : fields.lookup field.1 = some field.2 := by
  induction fields with
  | nil => cases h
  | cons other fields ih =>
    obtain ⟨hnot, hdistinct'⟩ := List.nodup_cons.mp hdistinct
    rcases List.mem_cons.mp h with rfl | h
    · rw [List.lookup_cons, beq_self_eq_true]
    · have hne : field.1 ≠ other.1 := fun heq => hnot (heq ▸ List.mem_map_of_mem h)
      rw [List.lookup_cons, beq_false_of_ne hne]
      exact ih hdistinct' h

theorem length_le_writeMore (fields : List (String × String)) :
    fields.length ≤ (writeMore fields).length := by
  induction fields with
  | nil => exact Nat.zero_le _
  | cons field fields ih =>
    simp only [writeMore, List.flatMap_cons, List.length_append, List.length_cons] at ih ⊢
    omega

/-- **A record that was written is read back**, whatever its texts hold. -/
theorem readRecord_writeRecord (field : String × String) (fields : List (String × String))
    (hdistinct : ((field :: fields).map Prod.fst).Nodup) :
    readRecord ((field :: fields).map Prod.fst) (writeRecord (field :: fields)) =
      .ok ((field :: fields).map Prod.snd) := by
  have hnames : ∀ other ∈ field :: fields, other.1 ∈ (field :: fields).map Prod.fst :=
    fun other hother => List.mem_map_of_mem hother
  obtain ⟨hnot, hdistinct'⟩ := List.nodup_cons.mp hdistinct
  have hnew : ∀ other ∈ fields, List.lookup other.1 [field] = none := by
    intro other hother
    have hne : other.1 ≠ field.1 := fun h => hnot (h ▸ List.mem_map_of_mem hother)
    rw [List.lookup_cons, beq_false_of_ne hne]
    rfl
  have hlength := length_le_writeMore fields
  have hfuel : fields.length < (writeField field ++ (writeMore fields ++ [0x7D])).length := by
    simp only [List.length_append, List.length_singleton]
    omega
  have hreverse : ((field :: fields).reverse.map Prod.fst).Nodup := by
    rw [List.map_reverse]
    exact List.pairwise_reverse.mpr (hdistinct.imp Ne.symm)
  have hcollect : collect ((field :: fields).map Prod.fst) (field :: fields).reverse =
      .ok ((field :: fields).map Prod.snd) :=
    collect_of_lookup fun other hother => lookup_of_mem hreverse (List.mem_reverse.mpr hother)
  have hread : readFields ((field :: fields).map Prod.fst)
      ((writeField field ++ (writeMore fields ++ [0x7D])).length + 1) true []
        (writeField field ++ (writeMore fields ++ [0x7D])) =
      .ok ((field :: fields).map Prod.snd, []) := by
    have hfirst := readFields_writeField (hnames field List.mem_cons_self)
      (show ([] : Found).lookup field.1 = none from rfl)
      (writeField field ++ (writeMore fields ++ [0x7D])).length true (writeMore fields ++ [0x7D])
    have hmore := readFields_writeMore
      (fun other hother => hnames other (List.mem_cons_of_mem _ hother)) hdistinct' hnew hfuel []
    rw [if_pos rfl, List.nil_append] at hfirst
    rw [hfirst, hmore, ← List.reverse_cons, hcollect]
    rfl
  rw [writeRecord_cons, readRecord, afterBlanks_of_no_blank (by decide)]
  simp only [if_true, hread]
  rfl

/-! ## 3. Lengths -/

/-- An escape has six characters at most. -/
theorem length_escape?_le (code : Nat) : ((escape? code).getD []).length ≤ 6 := by
  unfold escape?
  repeat' split
  all_goals simp

theorem length_quoteOctet_le (b : UInt8) : (quoteOctet b).length ≤ 6 := by
  have h := length_escape?_le b.toNat
  unfold quoteOctet
  split
  · rename_i cs hcs
    rw [hcs] at h
    simpa [ascii] using h
  · exact Nat.le_of_ble_eq_true rfl

theorem length_quote_le (text : Bytes) : (quote text).length ≤ 6 * text.length + 2 := by
  have hbody : (text.flatMap quoteOctet).length ≤ 6 * text.length := by
    induction text with
    | nil => exact Nat.le_refl 0
    | cons b text ih =>
      have hb := length_quoteOctet_le b
      rw [List.flatMap_cons, List.length_append, List.length_cons]
      omega
  simp only [quote, List.length_cons, List.length_append, List.length_nil]
  omega

/-- How many octets the texts of fields have. -/
def textOctets : List (String × String) → Nat
  | [] => 0
  | (name, value) :: fields => Text.Utf8.length name + Text.Utf8.length value + textOctets fields

/-- **Writing makes texts six times as long at most**, and adds six octets to each field. -/
theorem length_writeRecord_le (field : String × String) (fields : List (String × String)) :
    (writeRecord (field :: fields)).length ≤
      6 * textOctets (field :: fields) + 6 * (fields.length + 1) + 2 := by
  have hfield : ∀ other : String × String, (writeField other).length ≤
      6 * (Text.Utf8.length other.1 + Text.Utf8.length other.2) + 5 := by
    intro other
    have hname := length_quote_le (Text.Utf8.encode other.1)
    have hvalue := length_quote_le (Text.Utf8.encode other.2)
    rw [Text.Utf8.length_encode] at hname hvalue
    simp only [writeField, List.length_append, List.length_cons]
    omega
  have hmore : (writeMore fields).length ≤ 6 * textOctets fields + 6 * fields.length := by
    induction fields with
    | nil => exact Nat.le_refl 0
    | cons other fields ih =>
      have hother := hfield other
      simp only [writeMore, List.flatMap_cons, List.length_append, List.length_cons,
        textOctets] at ih ⊢
      omega
  have hfirst := hfield field
  rw [writeRecord_cons]
  simp only [List.length_cons, List.length_append, List.length_nil, textOctets]
  omega

end Readout.Json

namespace Readout.Link

/-! ## 4. Greetings -/

/-- **A client's greeting is understood as it was meant.** -/
theorem ClientHello.read_write (h : ClientHello) : ClientHello.read h.write = .ok h := by
  have hread := Json.readRecord_writeRecord ("protocol", h.protocol)
    [("version", h.version), ("identity", h.identity)] (by simp)
  simp only [List.map_cons, List.map_nil] at hread
  rw [ClientHello.read, ClientHello.write, hread]

/-- **A device's answer is understood as it was meant.** -/
theorem ServerHello.read_write (h : ServerHello) : ServerHello.read h.write = .ok h := by
  have hread := Json.readRecord_writeRecord ("protocol", h.protocol)
    [("version", h.version), ("identity", h.identity), ("session", h.session)] (by simp)
  simp only [List.map_cons, List.map_nil] at hread
  rw [ServerHello.read, ServerHello.write, hread]

/-- How long an answer is whose texts are as long as they may be. -/
theorem ServerHello.length_write_le {h : ServerHello} (hprotocol : fits maxProtocol h.protocol = true)
    (hversion : fits maxVersion h.version = true) (hidentity : fits maxIdentity h.identity = true)
    (hsession : fits maxSession h.session = true) : h.write.length ≤ 4096 := by
  have hlength := Json.length_writeRecord_le ("protocol", h.protocol)
    [("version", h.version), ("identity", h.identity), ("session", h.session)]
  have hnames : Text.Utf8.length "protocol" + Text.Utf8.length "version" +
      Text.Utf8.length "identity" + Text.Utf8.length "session" = 30 := by decide
  simp only [fits, Bool.and_eq_true, decide_eq_true_eq] at hprotocol hversion hidentity hsession
  simp only [Json.textOctets, List.length_cons, List.length_nil] at hlength
  unfold maxProtocol maxVersion maxIdentity maxSession at *
  rw [ServerHello.write]
  omega

end Readout.Link

/-
# Fields that a reader does not know change nothing

A device may put further fields into the answer to a command.  The reader passes over them by their wire
types alone, so it has to find where each of them ends, however its numbers are spelled and however deep
groups nest in it.

The fields are described here on their own, without the reader: a number in groups of seven bits
(`Varint.Spells`), a key (`Key.Spells`), the value that may stand behind it (`IsValue`), and whole fields
one after the other (`Fields`).  A group holds fields again, and its depth is what the induction is on.

* `pass_eq_ok_iff` -- what is passed over behind a key is exactly a value, no octet less or more;
* `Schema.Lawful.read_amid` -- a record is read back from among fields that its schema does not know;
* `further_fields_ignored` -- a command's answer means what its head says, whatever else is in it, and
  comes back octet for octet; an answer of another kind is named, whatever is in it.
-/
import Readout.Acquire.Command
import Readout.Proofs.Messages

namespace Readout

namespace Wire

variable {M : Type} {s : Schema M}

/-! ## 1. Numbers -/

namespace Varint

/-- A number in groups of seven bits, the lowest first: every octet but the last has its high bit set.
The last groups may be zero. -/
inductive Groups : Bytes → Nat → Prop
  | last {b : UInt8} (ends : b.toNat < 128) : Groups [b] b.toNat
  | more {b : UInt8} {bs : Bytes} {n : Nat} (goesOn : 128 ≤ b.toNat) (rest : Groups bs n) :
      Groups (b :: bs) (b.toNat - 128 + 128 * n)

/-- A number of 64 bits in ten groups at most. -/
structure Spells (bs : Bytes) (n : Nat) : Prop where
  groups : Groups bs n
  short : bs.length ≤ 10
  small : n < Word.size

theorem Groups.length_pos {bs : Bytes} {n : Nat} (h : Groups bs n) : 0 < bs.length := by
  cases h <;> simp

theorem readGroups_of_groups {bs : Bytes} {n : Nat} (h : Groups bs n) {groups : Nat}
    (hshort : bs.length ≤ groups + 1) (hsmall : n < 2 * Nat.pow 128 groups) (rest : Bytes) :
    readGroups (groups + 1) (bs ++ rest) = some (n, rest) := by
  induction h generalizing groups with
  | @last b ends =>
    rw [List.cons_append, readGroups, if_pos ends, if_neg, List.nil_append]
    rintro ⟨rfl, hbig⟩
    have hsmall' : b.toNat < 2 * 1 := hsmall
    omega
  | @more b bs n goesOn more ih =>
    have hpos := more.length_pos
    rw [List.length_cons] at hshort
    cases groups with
    | zero => omega
    | succ groups =>
      have hsmall' : b.toNat - 128 + 128 * n < 2 * (Nat.pow 128 groups * 128) := hsmall
      rw [List.cons_append, readGroups, if_neg (by omega), ih (by omega) (by omega)]

theorem groups_of_readGroups {groups n : Nat} {bs rest : Bytes}
    (h : readGroups (groups + 1) bs = some (n, rest)) :
    ∃ front, Groups front n ∧ front.length ≤ groups + 1 ∧ n < 2 * Nat.pow 128 groups ∧
      bs = front ++ rest := by
  have hpos : 0 < Nat.pow 128 groups := Nat.pow_pos (by decide)
  induction groups generalizing n bs with
  | zero =>
    cases bs with
    | nil => cases h
    | cons b bs =>
      rw [readGroups] at h
      split at h
      · rename_i ends
        split at h
        · cases h
        · rename_i hbig
          cases h
          exact ⟨[b], .last ends, Nat.le_refl _, show b.toNat < 2 * 1 by omega, rfl⟩
      · cases h
  | succ groups ih =>
    cases bs with
    | nil => cases h
    | cons b bs =>
      have hb := b.toNat_lt
      have hpow : Nat.pow 128 (groups + 1) = Nat.pow 128 groups * 128 := rfl
      rw [readGroups] at h
      split at h
      · rename_i ends
        rw [if_neg (fun hbig => absurd hbig.1 (Nat.succ_ne_zero groups))] at h
        cases h
        exact ⟨[b], .last ends, by simp, by omega, rfl⟩
      · rename_i goesOn
        cases hmore : readGroups (groups + 1) bs with
        | none =>
          rw [hmore] at h
          cases h
        | some found =>
          obtain ⟨high, left⟩ := found
          rw [hmore] at h
          cases h
          obtain ⟨front, hgroups, hshort, hsmall, rfl⟩ := ih hmore (Nat.pow_pos (by decide))
          refine ⟨b :: front, .more (by omega) hgroups, ?_, by omega, rfl⟩
          rw [List.length_cons]
          omega

/-- **What is read as a number is exactly what spells one.** -/
theorem read?_eq_some_iff {bs rest : Bytes} {n : Nat} :
    read? bs = some (n, rest) ↔ ∃ front, Spells front n ∧ bs = front ++ rest := by
  constructor
  · intro h
    obtain ⟨front, hgroups, hshort, hsmall, hbs⟩ := groups_of_readGroups h
    exact ⟨front, ⟨hgroups, hshort, hsmall⟩, hbs⟩
  · rintro ⟨front, hspells, rfl⟩
    exact readGroups_of_groups hspells.groups hspells.short hspells.small rest

end Varint

theorem readNumber_eq_ok_iff {bs rest : Bytes} {n : Nat} :
    readNumber bs = .ok (n, rest) ↔ ∃ front, Varint.Spells front n ∧ bs = front ++ rest := by
  rw [← Varint.read?_eq_some_iff, readNumber]
  cases Varint.read? bs <;> simp

theorem readDelimited_eq_ok_iff {bs body rest : Bytes} :
    readDelimited bs = .ok (body, rest) ↔
      ∃ length, Varint.Spells length body.length ∧ bs = length ++ (body ++ rest) := by
  rw [readDelimited]
  constructor
  · intro h
    cases hread : readNumber bs with
    | error flaw =>
      rw [hread] at h
      cases h
    | ok found =>
      obtain ⟨n, left⟩ := found
      obtain ⟨length, hspells, rfl⟩ := readNumber_eq_ok_iff.mp hread
      simp only [hread] at h
      split at h
      · cases h
      · rename_i henough
        cases h
        refine ⟨length, ?_, by rw [List.take_append_drop]⟩
        rwa [List.length_take, Nat.min_eq_left (Nat.le_of_not_lt henough)]
  · rintro ⟨length, hspells, rfl⟩
    simp only [readNumber_eq_ok_iff.mpr ⟨length, hspells, rfl⟩]
    simp

/-! ## 2. Fields -/

/-- The octets are a key: a field's number and a wire type in one number. -/
structure Key.Spells (key : Key) (head : Bytes) : Prop where
  pos : 0 < key.number
  lt : key.number < 0x20000000
  number : Varint.Spells head (key.number * 8 + key.type.code)

theorem WireType.code_of_ofCode? {code : Nat} {type : WireType} (h : ofCode? code = some type) :
    type.code = code := by
  unfold ofCode? at h
  split at h <;> cases h <;> rfl

theorem Key.read_eq_ok_iff {key : Key} {bs rest : Bytes} :
    Key.read bs = .ok (key, rest) ↔ ∃ head, key.Spells head ∧ bs = head ++ rest := by
  rw [Key.read]
  constructor
  · intro h
    cases hread : readNumber bs with
    | error flaw =>
      rw [hread] at h
      cases h
    | ok found =>
      obtain ⟨value, left⟩ := found
      obtain ⟨head, hspells, rfl⟩ := readNumber_eq_ok_iff.mp hread
      simp only [hread] at h
      split at h
      · cases h
      · rename_i hsmall
        split at h
        · cases h
        · rename_i type htype
          split at h
          · cases h
          · rename_i hpos
            cases h
            have hcode := WireType.code_of_ofCode? htype
            have hvalue : value / 8 * 8 + type.code = value := by omega
            refine ⟨head, ⟨Nat.pos_of_ne_zero hpos, show value / 8 < 0x20000000 by omega, ?_⟩, rfl⟩
            rwa [show (⟨value / 8, type⟩ : Key).number * 8 + type.code = value from hvalue]
  · rintro ⟨head, ⟨hpos, hlt, hspells⟩, rfl⟩
    have hcode := key.type.code_lt
    have hdiv : (key.number * 8 + key.type.code) / 8 = key.number := by omega
    have hmod : (key.number * 8 + key.type.code) % 8 = key.type.code := by omega
    simp only [readNumber_eq_ok_iff.mpr ⟨head, hspells, rfl⟩, hdiv, hmod, WireType.ofCode?_code]
    rw [if_neg (by omega), if_neg (by omega)]

theorem Key.Spells.length_pos {key : Key} {head : Bytes} (h : key.Spells head) : 0 < head.length :=
  h.number.groups.length_pos

/-- Whole fields one after the other: keys, and behind each a value that it admits. -/
inductive Fields (value : Key → Bytes → Prop) : Bytes → Prop
  | nil : Fields value []
  | cons {key : Key} {head body rest : Bytes} (spells : key.Spells head) (admits : value key body)
      (more : Fields value rest) : Fields value (head ++ (body ++ rest))

/-- The value that stands behind a key, with groups open to the given depth at most. -/
def IsValue : (depth : Nat) → Key → Bytes → Prop
  | 0, _, _ => False
  | depth + 1, key, body =>
    match key.type with
    | .varint => ∃ n, Varint.Spells body n
    | .bits32 => body.length = 4
    | .bits64 => body.length = 8
    | .delimited => ∃ length octets, Varint.Spells length octets.length ∧ body = length ++ octets
    | .startGroup => ∃ inner ending, Fields (fun k v => IsValue depth k v) inner ∧
        (⟨key.number, .endGroup⟩ : Key).Spells ending ∧ body = inner ++ ending
    | .endGroup => False

/-! ## 3. Passing over a field -/

theorem passOctets_eq_ok_iff {count : Nat} {bs rest : Bytes} :
    passOctets count bs = .ok rest ↔ ∃ body : Bytes, body.length = count ∧ bs = body ++ rest := by
  rw [passOctets]
  constructor
  · intro h
    split at h
    · cases h
    · cases h
      exact ⟨bs.take count, by rw [List.length_take]; omega, (List.take_append_drop count bs).symm⟩
  · rintro ⟨body, rfl, rfl⟩
    simp

section

variable {value : Key → Bytes → Prop} {passInner : Key → Bytes → Except Flaw Bytes} {number fuel : Nat}
  {bs rest : Bytes}

/-- Where values are what is passed over singly, a group that is passed over is fields and its end. -/
theorem fields_of_passGroup
    (hinner : ∀ key bs rest, passInner key bs = .ok rest → ∃ body, value key body ∧ bs = body ++ rest)
    (h : passGroup passInner number fuel bs = .ok rest) :
    ∃ inner ending, Fields value inner ∧ (⟨number, .endGroup⟩ : Key).Spells ending ∧
      bs = inner ++ (ending ++ rest) := by
  induction fuel generalizing bs with
  | zero => cases h
  | succ fuel ih =>
    rw [passGroup] at h
    split at h
    · cases h
    · rename_i key left hread
      obtain ⟨head, hspells, rfl⟩ := Key.read_eq_ok_iff.mp hread
      split at h
      · rename_i hend
        split at h
        · rename_i hnumber
          cases h
          obtain ⟨number', type⟩ := key
          cases hend
          cases hnumber
          exact ⟨[], head, .nil, hspells, rfl⟩
        · cases h
      · split at h
        · cases h
        · rename_i more hpass
          obtain ⟨body, hvalue, rfl⟩ := hinner key left more hpass
          obtain ⟨inner, ending, hfields, hending, rfl⟩ := ih h
          exact ⟨head ++ (body ++ inner), ending, .cons hspells hvalue hfields, hending,
            by simp only [List.append_assoc]⟩

/-- Where values are passed over singly, fields are passed over to the end of their group. -/
theorem passGroup_of_fields (hinner : ∀ key body rest, value key body →
      key.type ≠ .endGroup ∧ passInner key (body ++ rest) = .ok rest)
    {inner ending : Bytes} (hfields : Fields value inner)
    (hending : (⟨number, .endGroup⟩ : Key).Spells ending)
    (hfuel : (inner ++ (ending ++ rest)).length < fuel) :
    passGroup passInner number fuel (inner ++ (ending ++ rest)) = .ok rest := by
  induction hfields generalizing fuel with
  | nil =>
    cases fuel with
    | zero => cases hfuel
    | succ fuel =>
      have hread : Key.read (ending ++ rest) = .ok (⟨number, .endGroup⟩, rest) :=
        Key.read_eq_ok_iff.mpr ⟨ending, hending, rfl⟩
      simp only [List.nil_append, passGroup, hread, if_true]
  | @cons key head body more hspells hvalue hmore ih =>
    cases fuel with
    | zero => cases hfuel
    | succ fuel =>
      have hpos := hspells.length_pos
      obtain ⟨hends, hpass⟩ := hinner key body (more ++ (ending ++ rest)) hvalue
      simp only [List.length_append, List.append_assoc] at hfuel ⊢
      simp only [passGroup, Key.read_eq_ok_iff.mpr ⟨head, hspells, rfl⟩, if_neg hends, hpass]
      exact ih (by simp only [List.length_append]; omega)

end

theorem IsValue.ne_endGroup {depth : Nat} {key : Key} {body : Bytes} (h : IsValue depth key body) :
    key.type ≠ .endGroup := by
  intro hend
  cases depth with
  | zero => exact h
  | succ depth =>
    rw [IsValue, hend] at h
    exact h

/-- **What is passed over behind a key is exactly a value**: no octet of it is left, and none behind it
is taken. -/
theorem pass_eq_ok_iff {depth : Nat} {key : Key} {bs rest : Bytes} :
    pass depth key bs = .ok rest ↔ ∃ body, IsValue depth key body ∧ bs = body ++ rest := by
  induction depth generalizing key bs rest with
  | zero => simp [pass, IsValue]
  | succ depth ih =>
    obtain ⟨number, type⟩ := key
    cases type with
    | varint =>
      constructor
      · intro h
        simp only [pass] at h
        split at h
        · cases h
        · rename_i n left hread
          cases h
          obtain ⟨body, hspells, rfl⟩ := readNumber_eq_ok_iff.mp hread
          exact ⟨body, ⟨n, hspells⟩, rfl⟩
      · rintro ⟨body, ⟨n, hspells⟩, rfl⟩
        simp only [pass, readNumber_eq_ok_iff.mpr ⟨body, hspells, rfl⟩]
    | bits64 => exact passOctets_eq_ok_iff
    | bits32 => exact passOctets_eq_ok_iff
    | delimited =>
      constructor
      · intro h
        simp only [pass] at h
        split at h
        · cases h
        · rename_i octets left hread
          cases h
          obtain ⟨length, hspells, rfl⟩ := readDelimited_eq_ok_iff.mp hread
          exact ⟨length ++ octets, ⟨length, octets, hspells, rfl⟩, by rw [List.append_assoc]⟩
      · rintro ⟨body, ⟨length, octets, hspells, rfl⟩, rfl⟩
        rw [List.append_assoc]
        simp only [pass, readDelimited_eq_ok_iff.mpr ⟨length, hspells, rfl⟩]
    | startGroup =>
      constructor
      · intro h
        have hinner : ∀ (k : Key) (bs rest : Bytes), pass depth k bs = .ok rest →
            ∃ body, IsValue depth k body ∧ bs = body ++ rest := fun _ _ _ => ih.mp
        obtain ⟨inner, ending, hfields, hending, rfl⟩ := fields_of_passGroup hinner h
        exact ⟨inner ++ ending, ⟨inner, ending, hfields, hending, rfl⟩, by rw [List.append_assoc]⟩
      · rintro ⟨body, ⟨inner, ending, hfields, hending, rfl⟩, rfl⟩
        have hinner : ∀ (k : Key) (value rest : Bytes), IsValue depth k value →
            k.type ≠ .endGroup ∧ pass depth k (value ++ rest) = .ok rest :=
          fun k value rest h => ⟨h.ne_endGroup, ih.mpr ⟨value, h, rfl⟩⟩
        rw [List.append_assoc]
        exact passGroup_of_fields hinner hfields hending (Nat.lt_succ_self _)
    | endGroup => simp [pass, IsValue]

/-! ## 4. Records among fields that are not known -/

/-- Whole fields that the schema does not know, with groups as deep as a reader allows. -/
def Schema.Further (s : Schema M) (bs : Bytes) : Prop :=
  Fields (fun key body => key.number ∉ s.fields.map (·.number) ∧ IsValue maxDepth key body) bs

/-- A field that is not known is passed over. -/
theorem Schema.readField_of_unknown {key : Key} {head body : Bytes} (hspells : key.Spells head)
    (hunknown : key.number ∉ s.fields.map (·.number)) (hvalue : IsValue maxDepth key body) (m : M)
    (rest : Bytes) : s.readField m (head ++ (body ++ rest)) = .ok (m, rest) := by
  have hread : Key.read (head ++ (body ++ rest)) = .ok (key, body ++ rest) :=
    Key.read_eq_ok_iff.mpr ⟨head, hspells, rfl⟩
  have hfind : s.fields.find? (·.number == key.number) = none := by
    refine List.find?_eq_none.mpr fun f hf hnumber => hunknown ?_
    exact List.mem_map.mpr ⟨f, hf, eq_of_beq hnumber⟩
  have hpass : pass maxDepth key (body ++ rest) = .ok rest := pass_eq_ok_iff.mpr ⟨body, hvalue, rfl⟩
  simp only [Schema.readField, hread, hfind, hpass]

/-- Fields that are not known leave the record as it is. -/
theorem Schema.leads_further {bs : Bytes} (h : s.Further bs) (m : M) (rest : Bytes) :
    s.Leads m (bs ++ rest) m rest := by
  induction h with
  | nil => exact .refl s m rest
  | @cons key head body more hspells hadmits hmore ih =>
    have hpos := hspells.length_pos
    simp only [List.append_assoc]
    refine .trans (.of_field (readField_of_unknown hspells hadmits.1 hadmits.2 m (more ++ rest)) ?_) ih
    simp only [List.length_append]
    omega

/-- What is written of fields of a record, with fields that are not known in front, between and behind. -/
inductive Schema.Amid (s : Schema M) (source : M) : List (Field M) → Bytes → Prop
  | nil {bs : Bytes} (further : s.Further bs) : Amid s source [] bs
  | cons {f : Field M} {fields : List (Field M)} {bs rest : Bytes} (further : s.Further bs)
      (more : Amid s source fields rest) : Amid s source (f :: fields) (bs ++ (f.write source ++ rest))

theorem Schema.Lawful.reads_amid (hs : s.Lawful) {source m : M} {fields : List (Field M)} {bs : Bytes}
    (hsub : fields ⊆ s.fields) (hmake : MakesUp source fields m) (h : s.Amid source fields bs)
    (hfits : bs.length < Word.size) : s.Reads m bs source := by
  induction h generalizing m with
  | @nil bs further =>
    obtain rfl : m = source := hmake
    have hleads := Schema.leads_further further m []
    rw [List.append_nil] at hleads
    exact hleads.reads (.nil s m)
  | @cons f fields bs rest further more ih =>
    obtain ⟨hunset, hmake⟩ := hmake
    simp only [List.length_append] at hfits
    have hrest := ih (fun g hg => hsub (List.mem_cons_of_mem f hg)) hmake (by omega)
    have hown : (f.write source).length < Word.size := by omega
    have hfield := hs.leads_field (hsub List.mem_cons_self) hunset hown rest
    exact (Schema.leads_further further m _).reads (hfield.reads hrest)

/-- **A record is read back from among fields that its schema does not know.** -/
theorem Schema.Lawful.read_amid (hs : s.Lawful) {m : M} {bs : Bytes} (h : s.Amid m s.fields bs)
    (hfits : bs.length < Word.size) : s.read bs = .ok m :=
  (hs.reads_amid (List.Subset.refl _) (hs.makes_up m) h hfits).read

/-- Whole fields with numbers from a least one on. -/
def FieldsFrom (least : Nat) (bs : Bytes) : Prop :=
  Fields (fun key body => least ≤ key.number ∧ IsValue maxDepth key body) bs

theorem FieldsFrom.nil (least : Nat) : FieldsFrom least [] := Fields.nil

/-- A field whose key is read and whose value is passed over is in front of others. -/
theorem FieldsFrom.of_pass {least : Nat} {key : Key} {bs rest more : Bytes}
    (hread : Key.read bs = .ok (key, rest)) (hleast : least ≤ key.number)
    (hpass : pass maxDepth key rest = .ok more) (hmore : FieldsFrom least more) :
    FieldsFrom least bs := by
  obtain ⟨head, hspells, rfl⟩ := Key.read_eq_ok_iff.mp hread
  obtain ⟨body, hvalue, rfl⟩ := pass_eq_ok_iff.mp hpass
  exact Fields.cons hspells ⟨hleast, hvalue⟩ hmore

theorem FieldsFrom.further {least : Nat} {bs : Bytes} (h : FieldsFrom least bs)
    (hknown : ∀ n ∈ s.fields.map (·.number), n < least) : s.Further bs := by
  induction h with
  | nil => exact .nil
  | cons hspells hadmits hmore ih =>
    refine .cons hspells ⟨fun hmem => ?_, hadmits.2⟩ ih
    exact absurd (hknown _ hmem) (Nat.not_lt.mpr hadmits.1)

end Wire

/-! ## 5. Answers to commands -/

namespace Control

open Wire

/-- The octets that say whether a command succeeded. -/
def CommandReply.successField (head : CommandReply) : Bytes :=
  if head.success then writeNumberField 1 1 else []

/-- The octets of the message for people. -/
def CommandReply.messageField (head : CommandReply) : Bytes :=
  if head.message = "" then [] else writeDelimitedField 2 (Text.Utf8.encode head.message)

/-- The head of an answer with octets in front of it, between its two fields and behind them. -/
def CommandReply.amid (head : CommandReply) (before between after : Bytes) : Bytes :=
  before ++ (head.successField ++ (between ++ (head.messageField ++ after)))

/-- With nothing else the head is as it is written alone. -/
theorem CommandReply.amid_nil (head : CommandReply) : head.amid [] [] [] = schema.write head := by
  simp [amid, Schema.write, schema, Field.write, successField, messageField]

/-- **The head of an answer is read back from among further fields.** -/
theorem CommandReply.read_amid {head : CommandReply} {before between after : Bytes}
    (hbefore : FieldsFrom 3 before) (hbetween : FieldsFrom 3 between) (hafter : FieldsFrom 3 after)
    (hfits : (head.amid before between after).length < Word.size) :
    schema.read (head.amid before between after) = .ok head := by
  have hknown : ∀ n ∈ schema.fields.map (·.number), n < 3 := by decide
  exact lawful.read_amid (.cons (hbefore.further hknown) (.cons (hbetween.further hknown)
    (.nil (hafter.further hknown)))) hfits

end Control

open Wire Control

/-- A channel with a record of the messages that were sent on it and received from it. -/
structure Metered (σ : Type) where
  channel : σ
  sent : List Bytes := []
  received : List Bytes := []

section

variable {σ : Type} [MessageChannel σ]

instance : MessageChannel (Metered σ) where
  send message m :=
    match MessageChannel.send message m.channel with
    | (.error e, channel) => (.error e, { m with channel := channel })
    | (.ok (), channel) => (.ok (), { m with channel := channel, sent := m.sent ++ [message] })
  receive timeout m :=
    match MessageChannel.receive timeout m.channel with
    | (.error e, channel) => (.error e, { m with channel := channel })
    | (.ok message, channel) =>
      (.ok message, { m with channel := channel, received := m.received ++ [message] })
  setCapacity capacity m := { m with channel := MessageChannel.setCapacity capacity m.channel }

namespace Command

/-- A command that is sent and answered means what its answer means. -/
theorem execute_of_answer {kind : Kind} {question reply : Bytes} {timeout : Duration}
    {channel asked answered : σ}
    (hsend : MessageChannel.send (Envelope.encode kind question) channel = (.ok (), asked))
    (hreceive : MessageChannel.receive timeout asked = (.ok reply, answered)) :
    execute kind question timeout channel = (judge kind reply, answered) := by
  simp only [execute, hsend, hreceive]

/-- One message is sent for it, and one received. -/
theorem execute_metered {kind : Kind} {question reply : Bytes} {timeout : Duration}
    {channel asked answered : σ}
    (hsend : MessageChannel.send (Envelope.encode kind question) channel = (.ok (), asked))
    (hreceive : MessageChannel.receive timeout asked = (.ok reply, answered)) :
    execute kind question timeout (Metered.mk channel [] []) =
      (judge kind reply, ⟨answered, [Envelope.encode kind question], [reply]⟩) := by
  have hsend' : MessageChannel.send (Envelope.encode kind question) (Metered.mk channel [] []) =
      (.ok (), ⟨asked, [Envelope.encode kind question], []⟩) := by
    simp only [MessageChannel.send, hsend]
    rfl
  have hreceive' : MessageChannel.receive timeout
      (Metered.mk asked [Envelope.encode kind question] []) =
        (.ok reply, ⟨answered, [Envelope.encode kind question], [reply]⟩) := by
    simp only [MessageChannel.receive, hreceive]
    rfl
  exact execute_of_answer hsend' hreceive'

/-- An answer of the kind that is expected means what its head says. -/
theorem judge_of_head {kind : Kind} {payload : Bytes} {head : CommandReply}
    (hkind : kind ≠ .unspecified) (hfits : (Envelope.encode kind payload).length < Word.size)
    (hhead : CommandReply.schema.read payload = .ok head) :
    judge kind (Envelope.encode kind payload) =
      if head.success then .ok ⟨kind, payload⟩ else .error (.refused head.message) := by
  simp only [judge, decode_encode hkind hfits, Envelope.record, decodePayload, hhead, ne_eq,
    not_true_eq_false, if_false]

/-- An answer of another kind is named, whatever is in it. -/
theorem judge_of_other {kind other : Kind} {payload : Bytes} (hother : other ≠ kind)
    (hset : other ≠ .unspecified) (hfits : (Envelope.encode other payload).length < Word.size) :
    judge kind (Envelope.encode other payload) = .error (.unexpectedKind kind other.name) := by
  simp only [judge, decode_encode hset hfits, ne_eq, hother, not_false_eq_true, if_true]

/-- An answer whose kind is not known is named by its number. -/
theorem judge_of_unknown {kind : Kind} {code : Int32} {payload : Bytes}
    (hcode : code.toInt < 0 ∨ 33 < code.toInt)
    (hfits : (RawEnvelope.schema.write ⟨code, payload⟩).length < Word.size) :
    judge kind (RawEnvelope.schema.write ⟨code, payload⟩) =
      .error (.unexpectedKind kind (toString code.toInt)) := by
  have hread : RawEnvelope.schema.read (RawEnvelope.schema.write ⟨code, payload⟩) =
      .ok ⟨code, payload⟩ := Schema.read_write RawEnvelope.lawful hfits
  simp only [judge, decode_of_unknown hread hcode, AcquireError.ofAnswer]

/-- **A command's answer means what its head says, whatever else is in it.**  The message of a command
that was sent has an answer.  If that is of the command's kind, and further fields with numbers from 3 on
stand before, between and behind the two fields of its head, the command succeeds or is refused as with the
head alone, and on success the payload comes back octet for octet.  An answer of another kind, or of none that is
known, is named.  One message is sent, and one received.

The answer is shorter than `2 ^ 64` octets, as all that a memory holds is. -/
theorem further_fields_ignored {kind : Kind} {question reply : Bytes} {timeout : Duration}
    {channel asked answered : σ} (hkind : kind ≠ .unspecified)
    (hsend : MessageChannel.send (Envelope.encode kind question) channel = (.ok (), asked))
    (hreceive : MessageChannel.receive timeout asked = (.ok reply, answered))
    (hfits : reply.length < Word.size) :
    (execute kind question timeout channel = (judge kind reply, answered) ∧
      execute kind question timeout (Metered.mk channel [] []) =
        (judge kind reply, ⟨answered, [Envelope.encode kind question], [reply]⟩)) ∧
    (∀ head : CommandReply, head.amid [] [] [] = CommandReply.schema.write head) ∧
    (∀ (head : CommandReply) (before between after : Bytes), FieldsFrom 3 before →
      FieldsFrom 3 between → FieldsFrom 3 after →
      reply = Envelope.encode kind (head.amid before between after) →
        judge kind reply = if head.success then .ok ⟨kind, head.amid before between after⟩
          else .error (.refused head.message)) ∧
    (∀ (other : Kind) (payload : Bytes), other ≠ kind → other ≠ .unspecified →
      reply = Envelope.encode other payload →
        judge kind reply = .error (.unexpectedKind kind other.name)) ∧
    ∀ (code : Int32) (payload : Bytes), code.toInt < 0 ∨ 33 < code.toInt →
      reply = RawEnvelope.schema.write ⟨code, payload⟩ →
        judge kind reply = .error (.unexpectedKind kind (toString code.toInt)) := by
  refine ⟨⟨execute_of_answer hsend hreceive, execute_metered hsend hreceive⟩,
    CommandReply.amid_nil, ?_, ?_, ?_⟩
  · rintro head before between after hbefore hbetween hafter rfl
    have hpayload := Nat.lt_of_le_of_lt (length_payload_le kind _) hfits
    exact judge_of_head hkind hfits (CommandReply.read_amid hbefore hbetween hafter hpayload)
  · rintro other payload hother hset rfl
    exact judge_of_other hother hset hfits
  · rintro code payload hcode rfl
    exact judge_of_unknown hcode hfits

end Command

end

namespace Command

/-- A refusal among further fields: a number with a needless group, a group in a group, and octets that
would be a success if they were read as fields. -/
def refusal : CommandReply := ⟨false, "no"⟩

def refusalAmid : Bytes :=
  refusal.amid [0x18, 0x89, 0x00] [0x23, 0x0b, 0x0c, 0x24] [0x2a, 0x02, 0x08, 0x01]

theorem further_fields_ignored_refusal :
    execute .softwareTrigger [] ⟨0⟩
        ({ arrivals := [.message (Envelope.encode .softwareTrigger refusalAmid)] } : ScriptedChannel) =
      (.error (.refused "no"), { acts := [.sent (Envelope.encode .softwareTrigger [])] }) := by
  obtain ⟨⟨hexecute, -⟩, -, hhead, -, -⟩ :=
    @further_fields_ignored ScriptedChannel _ .softwareTrigger []
      (Envelope.encode .softwareTrigger refusalAmid) ⟨0⟩
      { arrivals := [.message (Envelope.encode .softwareTrigger refusalAmid)] }
      { arrivals := [.message (Envelope.encode .softwareTrigger refusalAmid)]
        acts := [.sent (Envelope.encode .softwareTrigger [])] }
      { acts := [.sent (Envelope.encode .softwareTrigger [])] } (by decide) rfl rfl (by decide +kernel)
  have hbefore : FieldsFrom 3 [0x18, 0x89, 0x00] :=
    .of_pass (rfl : Key.read _ = .ok (⟨3, .varint⟩, [0x89, 0x00])) (by decide) rfl (.nil 3)
  have hbetween : FieldsFrom 3 [0x23, 0x0b, 0x0c, 0x24] :=
    .of_pass (rfl : Key.read _ = .ok (⟨4, .startGroup⟩, [0x0b, 0x0c, 0x24])) (by decide) rfl (.nil 3)
  have hafter : FieldsFrom 3 [0x2a, 0x02, 0x08, 0x01] :=
    .of_pass (rfl : Key.read _ = .ok (⟨5, .delimited⟩, [0x02, 0x08, 0x01])) (by decide) rfl (.nil 3)
  rw [hexecute, hhead refusal _ _ _ hbefore hbetween hafter rfl]
  rfl

end Command

end Readout

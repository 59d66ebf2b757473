/-
# Quoted texts in JSON

A text stands between quotation marks.  Inside, the quotation mark, the backslash and the control
characters are written as escapes, and everything else as it is; `escape?` is the table.

Reading admits more escapes than writing makes, and two readers differ in what they ask of a text:

* `readText` gives the text.  It asks for paired surrogates and for UTF-8;
* `passText` passes over a text that nobody wants, and asks only where it ends.

`readOctets_quote` settles that a text that was written is read back, and what follows it is left.
-/
import Readout.Text.Utf8

namespace Readout.Json

/-! ## 1. Writing -/

/-- The escape of a character, by code, if it has one: the named ones, and the number of any other
control character. -/
def escape? (code : Nat) : Option (List Char) :=
  if code = 0x22 then some ['\\', '"']
  else if code = 0x5C then some ['\\', '\\']
  else if code = 0x08 then some ['\\', 'b']
  else if code = 0x0C then some ['\\', 'f']
  else if code = 0x0A then some ['\\', 'n']
  else if code = 0x0D then some ['\\', 'r']
  else if code = 0x09 then some ['\\', 't']
  else if code < 0x20 then
    some ['\\', 'u', '0', '0', Nat.digitChar (code / 16), Nat.digitChar (code % 16)]
  else none

/-- The octets of ASCII characters. -/
def ascii (cs : List Char) : Bytes := cs.map fun c => UInt8.ofNat c.toNat

/-- How an octet of a text is written. -/
def quoteOctet (b : UInt8) : Bytes :=
  match escape? b.toNat with
  | some cs => ascii cs
  | none => [b]

/-- How the octets of a text are written. -/
def quote (text : Bytes) : Bytes := 0x22 :: (text.flatMap quoteOctet ++ [0x22])

/-- How a text is written, as a text. -/
def quoteText (s : String) : String :=
  let body := s.toList.flatMap fun c => (escape? c.toNat).getD [c]
  "\"" ++ String.ofList body ++ "\""

/-! ## 2. What can be wrong -/

/-- Why octets are not the JSON that was asked for. -/
inductive Defect where
  /-- They are no JSON. -/
  | malformed
  /-- They are JSON so far, but not of the form asked for. -/
  | mismatch
  /-- They end too early. -/
  | ended
  deriving DecidableEq, Repr

/-! ## 3. Escapes -/

/-- The value of a hexadecimal digit. -/
def hexValue? (b : UInt8) : Option Nat :=
  let n := b.toNat
  if 0x30 ≤ n ∧ n ≤ 0x39 then some (n - 0x30)
  else if 0x61 ≤ n ∧ n ≤ 0x66 then some (n - 0x57)
  else if 0x41 ≤ n ∧ n ≤ 0x46 then some (n - 0x37)
  else none

/-- The value of the four hexadecimal digits at the start. -/
def hex4 : Bytes → Except Defect Nat
  | a :: b :: c :: d :: _ =>
    match hexValue? a, hexValue? b, hexValue? c, hexValue? d with
    | some a, some b, some c, some d => .ok (((a * 16 + b) * 16 + c) * 16 + d)
    | _, _, _, _ => .error .malformed
  | _ => .error .ended

/-- The octets of the character with a code. -/
def characterOctets (code : Nat) : Bytes := Text.Utf8.encode (String.singleton (Char.ofNat code))

/-- The character that a numbered escape stands for, and how many octets belong to the escape after
its `u`: a surrogate in front has to be followed by the escape of its partner. -/
def numberedEscape (bs : Bytes) : Except Defect (Bytes × Nat) :=
  match hex4 bs with
  | .error e => .error e
  | .ok n =>
    if 0xDC00 ≤ n ∧ n ≤ 0xDFFF then .error .malformed
    else if n < 0xD800 ∨ 0xDBFF < n then .ok (characterOctets n, 4)
    else
      match bs.drop 4 with
      | [] => .error .ended
      | [b] => if b = 0x5C then .error .ended else .error .malformed
      | b :: u :: rest =>
        if b ≠ 0x5C ∨ u ≠ 0x75 then .error .malformed
        else
          match hex4 rest with
          | .error e => .error e
          | .ok m =>
            if m < 0xDC00 ∨ 0xDFFF < m then .error .malformed
            else .ok (characterOctets (0x10000 + (n - 0xD800) * 1024 + (m - 0xDC00)), 10)

/-- The octet that a short escape stands for, by the octet after the backslash. -/
def shortEscape? (b : UInt8) : Option UInt8 :=
  if b = 0x22 then some 0x22
  else if b = 0x5C then some 0x5C
  else if b = 0x2F then some 0x2F
  else if b = 0x62 then some 0x08
  else if b = 0x66 then some 0x0C
  else if b = 0x6E then some 0x0A
  else if b = 0x72 then some 0x0D
  else if b = 0x74 then some 0x09
  else none

/-- The octets that an escape stands for, and how many octets belong to it after the backslash. -/
def readEscape : Bytes → Except Defect (Bytes × Nat)
  | [] => .error .ended
  | b :: bs =>
    match shortEscape? b with
    | some octet => .ok ([octet], 1)
    | none =>
      if b = 0x75 then
        match numberedEscape bs with
        | .error e => .error e
        | .ok (octets, count) => .ok (octets, count + 1)
      else .error .malformed

/-- How many octets belong to an escape after the backslash, whatever it stands for. -/
def passEscape : Bytes → Except Defect Nat
  | [] => .error .ended
  | b :: bs =>
    match shortEscape? b with
    | some _ => .ok 1
    | none =>
      if b = 0x75 then
        match hex4 bs with
        | .error e => .error e
        | .ok _ => .ok 5
      else .error .malformed

/-! ## 4. Reading -/

/-- The octets of a text up to its closing mark, behind those already read (last first), and what
follows the mark. -/
def readOctets (done : Bytes) : Bytes → Except Defect (Bytes × Bytes)
  | [] => .error .ended
  | b :: bs =>
    if b = 0x22 then .ok (done.reverse, bs)
    else if b = 0x5C then
      match readEscape bs with
      | .error e => .error e
      | .ok (octets, count) => readOctets (octets.reverse ++ done) (bs.drop count)
    else if b < 0x20 then .error .malformed
    else readOctets (b :: done) bs
termination_by bs => bs.length
decreasing_by
  · simp only [List.length_drop, List.length_cons]; omega
  · simp

/-- The text after an opening mark, and what follows its closing mark. -/
def readText (bs : Bytes) : Except Defect (String × Bytes) :=
  match readOctets [] bs with
  | .error e => .error e
  | .ok (octets, rest) =>
    match Text.Utf8.decode? octets with
    | some s => .ok (s, rest)
    | none => .error .malformed

/-- What follows the text after an opening mark, whatever the text is. -/
def passText : Bytes → Except Defect Bytes
  | [] => .error .ended
  | b :: bs =>
    if b = 0x22 then .ok bs
    else if b = 0x5C then
      match passEscape bs with
      | .error e => .error e
      | .ok count => passText (bs.drop count)
    else if b < 0x20 then .error .malformed
    else passText bs
termination_by bs => bs.length
decreasing_by
  · simp only [List.length_drop, List.length_cons]; omega
  · simp

/-! ## 5. Reading what was written -/

/-- What the escape of a control character says is read back. -/
theorem readEscape_control {n : Nat} (hn : n < 0x20) (rest : Bytes) :
    ∃ cs, escape? n = some ('\\' :: cs) ∧
      readEscape (ascii cs ++ rest) = .ok ([UInt8.ofNat n], cs.length) := by
  match n, hn with
  | 0, _ | 1, _ | 2, _ | 3, _ | 4, _ | 5, _ | 6, _ | 7, _ | 8, _ | 9, _ | 10, _ | 11, _ | 12, _
  | 13, _ | 14, _ | 15, _ | 16, _ | 17, _ | 18, _ | 19, _ | 20, _ | 21, _ | 22, _ | 23, _ | 24, _
  | 25, _ | 26, _ | 27, _ | 28, _ | 29, _ | 30, _ | 31, _ => exact ⟨_, rfl, rfl⟩
  | n + 32, h => exact absurd h (by omega)

/-- What any escape says is read back. -/
theorem readEscape_ascii {b : UInt8} {cs : List Char} (h : escape? b.toNat = some cs)
    (rest : Bytes) :
    ∃ tail, cs = '\\' :: tail ∧ readEscape (ascii tail ++ rest) = .ok ([b], tail.length) := by
  by_cases hn : b.toNat < 0x20
  · obtain ⟨tail, ht, hr⟩ := readEscape_control hn rest
    rw [ht] at h
    rw [UInt8.ofNat_toNat] at hr
    exact ⟨tail, (Option.some.inj h).symm, hr⟩
  · by_cases hq : b = 0x22
    · subst hq
      exact ⟨['"'], (Option.some.inj h).symm, rfl⟩
    · by_cases hs : b = 0x5C
      · subst hs
        exact ⟨['\\'], (Option.some.inj h).symm, rfl⟩
      · have hq' : b.toNat ≠ 0x22 := fun e => hq (UInt8.toNat_inj.mp e)
        have hs' : b.toNat ≠ 0x5C := fun e => hs (UInt8.toNat_inj.mp e)
        unfold escape? at h
        rw [if_neg hq', if_neg hs', if_neg (by omega), if_neg (by omega), if_neg (by omega),
          if_neg (by omega), if_neg (by omega), if_neg hn] at h
        exact absurd h (by simp)

/-- An octet without an escape ends no text and begins no escape. -/
theorem of_escape?_eq_none {b : UInt8} (h : escape? b.toNat = none) :
    b ≠ 0x22 ∧ b ≠ 0x5C ∧ ¬b < 0x20 := by
  refine ⟨?_, ?_, ?_⟩
  · rintro rfl
    exact absurd h (by decide)
  · rintro rfl
    exact absurd h (by decide)
  · intro hlt
    obtain ⟨cs, hc, _⟩ := readEscape_control (UInt8.lt_iff_toNat_lt.mp hlt) []
    rw [h] at hc
    exact absurd hc (by simp)

/-- One written octet is read as that octet. -/
theorem readOctets_quoteOctet (done : Bytes) (b : UInt8) (rest : Bytes) :
    readOctets done (quoteOctet b ++ rest) = readOctets (b :: done) rest := by
  unfold quoteOctet
  cases h : escape? b.toNat with
  | none =>
    obtain ⟨hq, hs, hlt⟩ := of_escape?_eq_none h
    show readOctets done (b :: rest) = _
    rw [readOctets, if_neg hq, if_neg hs, if_neg hlt]
  | some cs =>
    obtain ⟨tail, rfl, hr⟩ := readEscape_ascii h rest
    show readOctets done (0x5C :: (ascii tail ++ rest)) = _
    have hlen : tail.length = (ascii tail).length := by simp [ascii]
    rw [readOctets, if_neg (by decide), if_pos rfl, hr]
    simp only [List.reverse_cons, List.reverse_nil, List.nil_append, List.cons_append]
    rw [hlen, List.drop_left]

/-- **A text that was written is read back, and what follows it is left.** -/
theorem readOctets_quote (text done rest : Bytes) :
    readOctets done (text.flatMap quoteOctet ++ 0x22 :: rest) = .ok (done.reverse ++ text, rest) := by
  induction text generalizing done with
  | nil => simp [readOctets]
  | cons b text ih =>
    rw [List.flatMap_cons, List.append_assoc, readOctets_quoteOctet, ih]
    simp

/-- A written text is read as that text. -/
theorem readText_quote (s : String) (rest : Bytes) :
    readText (((Text.Utf8.encode s).flatMap quoteOctet) ++ 0x22 :: rest) = .ok (s, rest) := by
  unfold readText
  rw [readOctets_quote]
  simp [Text.Utf8.decode?_encode]

end Readout.Json

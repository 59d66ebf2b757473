/-
# Reading records of texts from JSON

`readRecord` reads a record all of whose fields are texts: an object with the fields in any order, or
a list of exactly their values.  Fields of other names are passed over and only have to be well
formed.  A defect says what is met first, from the front.

Numbers that are read where a text is wanted are read to their end first, and have to be within the
range of 64-bit floating point; in a field that is passed over, any number will do.
-/
import Readout.Json.Quote
import Readout.Word

namespace Readout.Json

/-! ## 1. Blanks, words and numbers -/

/-- Whether an octet is one of the four blanks of JSON. -/
def isBlank (b : UInt8) : Bool := b == 0x20 || b == 0x0A || b == 0x09 || b == 0x0D

/-- The octets after the blanks. -/
def afterBlanks (bs : Bytes) : Bytes := bs.dropWhile isBlank

/-- What follows a word that has to be there. -/
def passWord : (word : Bytes) → Bytes → Except Defect Bytes
  | [], bs => .ok bs
  | _ :: _, [] => .error .ended
  | w :: ws, b :: bs => if b = w then passWord ws bs else .error .malformed

/-- Whether an octet is a decimal digit. -/
def isDigit (b : UInt8) : Bool := 0x30 ≤ b && b ≤ 0x39

/-- Takes digits onto a number while it fits in 64 bits, and counts the digits that did not fit. -/
def absorb (n : Nat) : Bytes → Nat × Nat
  | [] => (n, 0)
  | d :: ds =>
    let m := n * 10 + (d.toNat - 0x30)
    if m < Word.size then absorb m ds else (n, ds.length + 1)

/-- Whether a number, by its leading digits and a power of ten, is above all 64-bit floats. -/
def isHuge (digits : Nat) (exponent : Int) : Bool :=
  digits != 0 && (exponent > 308 ||
    (exponent ≥ 0 && (Float.ofNat digits * Float.ofScientific 1 false exponent.toNat).isInf))

/-- The defect of a number that was read whole where a text is wanted. -/
def numberDefect (digits : Nat) (exponent : Int) : Defect :=
  if isHuge digits exponent then .malformed else .mismatch

/-- The defect of a number where a text is wanted, from the mark of its exponent on. -/
def exponentDefect (digits : Nat) (start : Int) (bs : Bytes) : Defect :=
  let (negative, bs) := match bs with
    | 0x2D :: rest => (true, rest)
    | 0x2B :: rest => (false, rest)
    | _ => (false, bs)
  match bs with
  | [] => .ended
  | b :: _ =>
    if !isDigit b then .malformed
    else
      let size : Int := (bs.takeWhile isDigit).foldl (fun n d => n * 10 + (d.toNat - 0x30)) 0
      numberDefect digits (if negative then start - size else start + size)

/-- The defect of a number where a text is wanted, after its digits. -/
def tailDefect (digits : Nat) (exponent : Int) (bs : Bytes) : Defect :=
  match bs with
  | b :: rest =>
    if b = 0x65 ∨ b = 0x45 then exponentDefect digits exponent rest
    else numberDefect digits exponent
  | [] => numberDefect digits exponent

/-- The defect of a number where a text is wanted, after its integer digits. -/
def fractionDefect (digits : Nat) (exponent : Int) (bs : Bytes) : Defect :=
  match bs with
  | 0x2E :: rest =>
    let ds := rest.takeWhile isDigit
    let after := rest.dropWhile isDigit
    if ds.isEmpty then
      if after.isEmpty then .ended else .malformed
    else
      let (more, unused) := absorb digits ds
      tailDefect more (exponent - (ds.length - unused : Nat)) after
  | _ => tailDefect digits exponent bs

/-- The defect of a number where a text is wanted, after its sign. -/
def unsignedDefect (bs : Bytes) : Defect :=
  match bs with
  | [] => .ended
  | b :: rest =>
    if !isDigit b then .malformed
    else if b = 0x30 then
      match rest with
      | d :: _ => if isDigit d then .malformed else fractionDefect 0 0 rest
      | [] => .mismatch
    else
      let (digits, unused) := absorb 0 (bs.takeWhile isDigit)
      fractionDefect digits unused (bs.dropWhile isDigit)

/-- The defect of a word where a text is wanted. -/
def wordDefect (word bs : Bytes) : Defect :=
  match passWord word bs with
  | .error e => e
  | .ok _ => .mismatch

/-- The defect of a value that is not of the form asked for: its own defect if it has one. -/
def valueDefect (bs : Bytes) : Defect :=
  match bs with
  | [] => .ended
  | b :: rest =>
    if b = 0x6E then wordDefect (ascii ['u', 'l', 'l']) rest
    else if b = 0x74 then wordDefect (ascii ['r', 'u', 'e']) rest
    else if b = 0x66 then wordDefect (ascii ['a', 'l', 's', 'e']) rest
    else if b = 0x2D then unsignedDefect rest
    else if isDigit b then unsignedDefect bs
    else if b = 0x22 then
      match readText rest with
      | .error e => e
      | .ok _ => .mismatch
    else if b = 0x5B ∨ b = 0x7B then .mismatch
    else .malformed

/-! ## 2. Passing over values -/

/-- What follows digits of which there has to be one. -/
def passDigits (bs : Bytes) : Except Defect Bytes :=
  match bs with
  | b :: _ => if isDigit b then .ok (bs.dropWhile isDigit) else .error .malformed
  | [] => .error .malformed

/-- What follows an exponent, if there is one. -/
def passExponent (bs : Bytes) : Except Defect Bytes :=
  match bs with
  | b :: rest =>
    if b = 0x65 ∨ b = 0x45 then
      match rest with
      | 0x2B :: digits | 0x2D :: digits => passDigits digits
      | _ => passDigits rest
    else .ok bs
  | [] => .ok []

/-- What follows a number without its sign. -/
def passNumber (bs : Bytes) : Except Defect Bytes := do
  let rest ← match bs with
    | 0x30 :: rest =>
      match rest with
      | d :: _ => if isDigit d then throw Defect.malformed else pure rest
      | [] => pure rest
    | _ => passDigits bs
  match rest with
  | 0x2E :: digits => passExponent (← passDigits digits)
  | _ => passExponent rest

/-- What follows a value that holds no other values. -/
def passScalar (b : UInt8) (rest : Bytes) : Except Defect Bytes :=
  if b = 0x6E then passWord (ascii ['u', 'l', 'l']) rest
  else if b = 0x74 then passWord (ascii ['r', 'u', 'e']) rest
  else if b = 0x66 then passWord (ascii ['a', 'l', 's', 'e']) rest
  else if b = 0x2D then passNumber rest
  else if isDigit b then passNumber (b :: rest)
  else if b = 0x22 then passText rest
  else .error .malformed

/-- What is open around a value. -/
inductive Bracket where
  | list
  | object
  deriving DecidableEq, Repr

/-- What comes next while a value is passed over. -/
inductive Turn where
  /-- A value. -/
  | value
  /-- The end of the innermost list or object, or another value in it, which a comma has to precede
  unless it is the first. -/
  | more (comma : Bool)

/-- What follows the name and colon of an object's field. -/
def passName (bs : Bytes) : Except Defect Bytes :=
  match afterBlanks bs with
  | [] => .error .ended
  | b :: rest =>
    if b ≠ 0x22 then .error .malformed
    else
      match passText rest with
      | .error e => .error e
      | .ok rest =>
        match afterBlanks rest with
        | [] => .error .ended
        | c :: rest => if c = 0x3A then .ok rest else .error .malformed

/-- Passes over a value, of which the brackets in `around` are open.  The fuel bounds the turns; two
for each octet are enough. -/
def passTurns : (fuel : Nat) → Turn → (around : List Bracket) → Bytes → Except Defect Bytes
  | 0, _, _, _ => .error .ended
  | fuel + 1, .value, around, bs =>
    match afterBlanks bs with
    | [] => .error .ended
    | b :: rest =>
      if b = 0x5B then passTurns fuel (.more false) (.list :: around) rest
      else if b = 0x7B then passTurns fuel (.more false) (.object :: around) rest
      else
        match passScalar b rest with
        | .error e => .error e
        | .ok rest => passTurns fuel (.more true) around rest
  | _ + 1, .more _, [], bs => .ok bs
  | fuel + 1, .more comma, inner :: around, bs =>
    match afterBlanks bs with
    | [] => .error .ended
    | b :: rest =>
      if (b = 0x5D ∧ inner = .list) ∨ (b = 0x7D ∧ inner = .object) then
        passTurns fuel (.more true) around rest
      else if comma && b != 0x2C then .error .malformed
      else
        let rest := if comma then rest else b :: rest
        match inner with
        | .list => passTurns fuel .value (inner :: around) rest
        | .object =>
          match passName rest with
          | .error e => .error e
          | .ok rest => passTurns fuel .value (inner :: around) rest

/-- What follows a value that nobody wants. -/
def passValue (bs : Bytes) : Except Defect Bytes := passTurns (2 * bs.length + 2) .value [] bs

/-! ## 3. Records of texts -/

/-- A text, where one is wanted, and what follows it. -/
def textValue (bs : Bytes) : Except Defect (String × Bytes) :=
  match afterBlanks bs with
  | [] => .error .ended
  | b :: rest => if b = 0x22 then readText rest else .error (valueDefect (b :: rest))

/-- The values found so far, by name. -/
abbrev Found := List (String × String)

/-- The values of the wanted fields in their order, if all were found. -/
def collect (names : List String) (found : Found) : Except Defect (List String) :=
  names.mapM fun name =>
    match found.lookup name with
    | some value => .ok value
    | none => .error .mismatch

/-- The name of an object's field, and what follows it: a comma has to precede it unless it is the
first.  `none` at the end of the object, whose mark is left. -/
def nextName (first : Bool) (bs : Bytes) : Except Defect (Option (String × Bytes)) :=
  let name : Bytes → Except Defect (Option (String × Bytes))
    | [] => .error .ended
    | b :: rest => if b = 0x22 then (readText rest).map some else .error .malformed
  match afterBlanks bs with
  | [] => .error .ended
  | b :: rest =>
    if b = 0x7D then .ok none
    else if first then name (b :: rest)
    else if b = 0x2C then name (afterBlanks rest)
    else .error .malformed

/-- What follows a colon that has to be there. -/
def afterColon (bs : Bytes) : Except Defect Bytes :=
  match afterBlanks bs with
  | [] => .error .ended
  | b :: rest => if b = 0x3A then .ok rest else .error .malformed

/-- Reads the fields of an object up to its end.  The fuel bounds the count of fields; each takes an
octet at least. -/
def readFields (names : List String) :
    (fuel : Nat) → (first : Bool) → Found → Bytes → Except Defect (List String × Bytes)
  | 0, _, _, _ => .error .ended
  | fuel + 1, first, found, bs =>
    match nextName first bs with
    | .error e => .error e
    | .ok none =>
      match collect names found with
      | .error e => .error e
      | .ok values => .ok (values, (afterBlanks bs).drop 1)
    | .ok (some (name, rest)) =>
      if name ∈ names then
        if (found.lookup name).isSome then .error .mismatch
        else
          match afterColon rest with
          | .error e => .error e
          | .ok rest =>
            match textValue rest with
            | .error e => .error e
            | .ok (value, rest) => readFields names fuel false ((name, value) :: found) rest
      else
        match afterColon rest with
        | .error e => .error e
        | .ok rest =>
          match passValue rest with
          | .error e => .error e
          | .ok rest => readFields names fuel false found rest

/-- Reads so many values of a list, behind those already read (last first). -/
def readItems : (count : Nat) → (first : Bool) → List String → Bytes →
    Except Defect (List String × Bytes)
  | 0, _, done, bs => .ok (done.reverse, bs)
  | count + 1, first, done, bs =>
    match afterBlanks bs with
    | [] => .error .ended
    | b :: rest =>
      if b = 0x5D then .error .mismatch
      else
        let item : Except Defect Bytes :=
          if first then .ok (b :: rest)
          else if b = 0x2C then
            match afterBlanks rest with
            | [] => .error .ended
            | c :: rest => if c = 0x5D then .error .malformed else .ok (c :: rest)
          else .error .malformed
        match item with
        | .error e => .error e
        | .ok bs =>
          match textValue bs with
          | .error e => .error e
          | .ok (value, rest) => readItems count false (value :: done) rest

/-- What follows the end of a list. -/
def afterList (bs : Bytes) : Except Defect Bytes :=
  match afterBlanks bs with
  | [] => .error .ended
  | b :: rest => if b = 0x5D then .ok rest else .error .malformed

/-- The values of the named fields, in the order of the names, from octets that hold them and nothing
else but blanks. -/
def readRecord (names : List String) (bs : Bytes) : Except Defect (List String) := do
  let (values, rest) ←
    match afterBlanks bs with
    | [] => throw Defect.ended
    | b :: rest =>
      if b = 0x7B then readFields names (rest.length + 1) true [] rest
      else if b = 0x5B then do
        let (values, rest) ← readItems names.length true [] rest
        pure (values, ← afterList rest)
      else throw (valueDefect (b :: rest))
  if (afterBlanks rest).isEmpty then return values else throw Defect.malformed

/-- Writes a record of texts as an object, without blanks and in the order given. -/
def writeRecord (fields : List (String × String)) : Bytes :=
  let pairs := fields.map fun (name, value) =>
    quote (Text.Utf8.encode name) ++ 0x3A :: quote (Text.Utf8.encode value)
  0x7B :: (List.intercalate [0x2C] pairs ++ [0x7D])

end Readout.Json

/-
# The places that a line takes

A terminal gives most characters one place, ideographs and pictures two, and marks none.  Some
characters take a different width together than apart: ligatures, flags, emoji that are joined or have
their skin coloured, and characters that a selector turns into a picture or into text.

A line is measured from its end: what a character adds hangs on what follows it, and of that only a
`Front` counts.  So `lineWidth` is a fold from the right.
-/
import Readout.Text.Emoji
import Readout.Text.Placeless
import Readout.Text.Wide

namespace Readout.Text

/-! ## 1. Single characters -/

/-- Whether a number lies between two others. -/
def between (first last : Nat) (n : Nat) : Bool := first ≤ n && n ≤ last

/-- Whether a character is a control character or a plain Latin one; the hard blank is the last. -/
def isPlain (c : Char) : Bool := c.toNat ≤ 0xA0

/-- The places that a character takes by itself. -/
def charWidth (c : Char) : Nat :=
  if isPlain c then 1
  else if c.toNat = 0x17D8 then 3
  else if placeless.contains c then 0
  else if wide.contains c then 2
  else 1

/-! ## 2. What a line begins with -/

/-- A letter that may melt into the one before it. -/
inductive Ligature where
  /-- Hebrew lamed, with an alef before it. -/
  | lamed
  /-- Buginese ya, with a letter and its vowel before it. -/
  | ya
  /-- Buginese ya and the vowel before it. -/
  | yaVowel
  /-- A Tifinagh consonant, with another before it. -/
  | tifinagh
  /-- A Tifinagh consonant and the sign that joins it to the one before it. -/
  | tifinaghSign
  /-- A Lisu tone letter that is the second of two. -/
  | tone
  /-- An Old Turkic letter, with another before it. -/
  | orkhonI
  /-- A Khmer letter, which the sign before it puts below a line. -/
  | subscript
  deriving DecidableEq, Repr

/-- What a line begins with, as far as it bears on a character before it. -/
inductive Onset where
  /-- Nothing of note. -/
  | plain
  /-- A letter that may melt, and whether a joiner stands before it. -/
  | letter (l : Ligature) (joined : Bool)
  /-- An Arabic alef. -/
  | alef
  /-- The Kirat Rai vowel sign E. -/
  | vowelE
  /-- The Kirat Rai vowel sign AI. -/
  | vowelAi
  /-- A colour of skin. -/
  | modifier
  /-- The second letter of a flag. -/
  | indicator
  /-- More than one letter of flags. -/
  | indicators
  /-- An emoji. -/
  | picture
  /-- A joiner before an emoji. -/
  | joined
  /-- The box around a key, before a joiner. -/
  | joinedKeycap
  /-- Letters of flags before a joiner: one, an even or another odd number of them. -/
  | joinedIndicator
  | joinedEven
  | joinedOdd
  /-- So many letters of a region at the end of a flag, before a joiner. -/
  | tagLetters (count : Nat)
  /-- So many digits in front of those letters. -/
  | tagDigits (count : Nat)
  deriving DecidableEq, Repr

/-- A selector that a line begins with. -/
inductive Selector where
  | none
  /-- The character before it is text. -/
  | text
  /-- The character before it is a picture. -/
  | picture
  /-- A quotation mark before it is wide. -/
  | wide
  deriving DecidableEq, Repr

/-- The front of a line: a selector, perhaps, and what stands behind it. -/
structure Front where
  onset : Onset := .plain
  selector : Selector := .none
  deriving DecidableEq, Repr

namespace Onset

/-- Whether it is a letter that may melt. -/
def isLigature : Onset → Bool
  | letter _ _ | alef => true
  | _ => false

/-- Whether it is a joiner that continues an emoji. -/
def joinsPicture : Onset → Bool
  | joined | joinedKeycap => true
  | _ => false

/-- The front of a line with a selector of pictures before what it begins with. -/
def asPicture (o : Onset) : Front :=
  ⟨if o.isLigature || o.joinsPicture then o else plain, .picture⟩

/-- The front of a line with a selector of text before what it begins with. -/
def asText (o : Onset) : Front := ⟨if o.isLigature then o else plain, .text⟩

/-- What is left of an onset when the selector of pictures before it selects nothing. -/
def unselected (o : Onset) : Onset := if o.isLigature then o else plain

end Onset

/-! ## 3. Classes of characters -/

/-- The Arabic letters lam, which an alef melts into. -/
def isLam (c : Char) : Bool :=
  Ranges.contains [(0x644, 0x644), (0x6B5, 0x6B8), (0x76A, 0x76A), (0x8A6, 0x8A6), (0x8C7, 0x8C7)] c

/-- The Arabic letters alef. -/
def isAlef (c : Char) : Bool :=
  Ranges.contains [(0x622, 0x623), (0x625, 0x625), (0x627, 0x627), (0x671, 0x673), (0x675, 0x675),
    (0x773, 0x774), (0x870, 0x882)] c

/-- Whether Arabic letters join across a character without a place. -/
def joinsAcross (c : Char) : Bool := charWidth c == 0 && !interrupting.contains c

/-- The consonants of Tifinagh. -/
def isTifinagh (c : Char) : Bool := Ranges.contains [(0x2D31, 0x2D65), (0x2D6F, 0x2D6F)] c

/-- The Khmer letters that can stand below others. -/
def isSubscript (c : Char) : Bool :=
  Ranges.contains [(0x1780, 0x1782), (0x1784, 0x1787), (0x1789, 0x178C), (0x178E, 0x1793),
    (0x1795, 0x1798), (0x179B, 0x179D), (0x17A0, 0x17A0), (0x17A2, 0x17A2), (0x17A7, 0x17A7),
    (0x17AB, 0x17AC), (0x17AF, 0x17AF)] c

/-- The quotation marks that can be wide. -/
def isQuotation (c : Char) : Bool := Ranges.contains [(0x2018, 0x2019), (0x201C, 0x201D)] c

/-! ## 4. One character more -/

/-- What a character begins a line with, nothing after it counting. -/
def onsetOf (c : Char) : Onset :=
  if isAlef c then .alef
  else if isTifinagh c then .letter .tifinagh false
  else if isSubscript c then .letter .subscript false
  else if Emoji.isIndicator c then .indicator
  else if Emoji.isModifier c then .modifier
  else if Emoji.pictures.contains c then .picture
  else
    match c.toNat with
    | 0x05DC => .letter .lamed false
    | 0x1A10 => .letter .ya false
    | 0xA4FC | 0xA4FD => .letter .tone false
    | 0x10C03 => .letter .orkhonI false
    | 0x16D67 => .vowelE
    | 0x16D68 => .vowelAi
    | _ => .plain

/-- What a character before a line adds if nothing in the line bears on it, and the new front. -/
def apart (c : Char) : Int × Front :=
  (charWidth c, ⟨onsetOf c, if c.toNat = 0xFE01 then .wide else .none⟩)

/-- What a character adds before a letter that melts with it, and what the line then begins with. -/
def melt (l : Ligature) (joined : Bool) (c : Char) : Option (Int × Onset) :=
  match l, joined, c.toNat with
  | .lamed, true, 0x05D0 => some (0, .plain)
  | .ya, true, 0x1A17 => some (0, .letter .yaVowel false)
  | .yaVowel, _, 0x1A15 => some (0, .plain)
  | .tifinagh, _, 0x2D7F => some (1, .letter .tifinaghSign false)
  | .tifinagh, true, _ => if isTifinagh c then some (0, .plain) else none
  | .tifinaghSign, _, _ => if isTifinagh c then some (-1, .plain) else none
  | .tone, _, n => if between 0xA4F8 0xA4FB n then some (0, .plain) else none
  | .orkhonI, true, 0x10C32 => some (0, .plain)
  | .subscript, _, 0x17D2 => some (-1, .plain)
  | _, _, _ => none

/-- What a character adds before the end of a flag with so many letters or digits of a region. -/
def beforeTags (letters digits : Nat) (c : Char) : Option (Int × Onset) :=
  if Emoji.isTagLetter c && digits == 0 && letters < 6 then some (0, .tagLetters (letters + 1))
  else if Emoji.isTagDigit c && letters < 5 && digits < 3 then some (0, .tagDigits (digits + 1))
  else if c = Emoji.blackFlag && (3 ≤ letters || digits == 3) then some (0, .picture)
  else none

/-- What a character adds if what the line begins with bears on it, and what the line begins with
then. -/
def joining (c : Char) : Onset → Option (Int × Onset)
  | .plain => none
  | .letter l joined =>
    if c = Emoji.joiner then some (0, .letter l true)
    else if ignorableMarks.contains c then some (0, .letter l joined)
    else melt l joined c
  | .alef =>
    if isLam c then some (0, .plain) else if joinsAcross c then some (0, .alef) else none
  | .vowelE =>
    match c.toNat with
    | 0x16D63 | 0x16D69 => some (0, .plain)
    | 0x16D67 => some (0, .vowelAi)
    | 0x16D68 => some (1, .vowelE)
    | _ => none
  | .vowelAi => if c.toNat = 0x16D63 then some (0, .plain) else none
  | .modifier =>
    if Emoji.skinned.contains c then some (0, .picture)
    else if c = Emoji.joiner then some (0, .joined) else none
  | .indicator => if Emoji.isIndicator c then some (1, .indicators) else none
  | .indicators =>
    if Emoji.isIndicator c then some (1, .indicators)
    else if c = Emoji.joiner then some (0, .joined) else none
  | .picture => if c = Emoji.joiner then some (0, .joined) else none
  | .joined =>
    if c = Emoji.keycap then some (0, .joinedKeycap)
    else if Emoji.isIndicator c then some (1, .joinedIndicator)
    else if Emoji.isModifier c then some (0, .modifier)
    else if c = Emoji.tagEnd then some (0, .tagLetters 0)
    else if Emoji.pictures.contains c then some (0, .picture) else none
  | .joinedKeycap => none
  | .joinedIndicator => if Emoji.isIndicator c then some (-1, .joinedEven) else none
  | .joinedEven =>
    if Emoji.isIndicator c then some (3, .joinedOdd)
    else if c = Emoji.joiner then some (0, .joined) else none
  | .joinedOdd =>
    if Emoji.isIndicator c then some (-1, .joinedEven)
    else if c = Emoji.joiner then some (0, .joined) else none
  | .tagLetters n => beforeTags n 0 c
  | .tagDigits n => beforeTags 0 n c

/-- What a character adds before an onset, and the new front. -/
def beforeOnset (c : Char) (o : Onset) : Int × Front :=
  match joining c o with
  | some (places, o) => (places, { onset := o })
  | none => apart c

/-- What a character adds before a line, and the front of the longer line. -/
def before (c : Char) (f : Front) : Int × Front :=
  if f.selector = .picture && Emoji.selectable.contains c then
    (if f.onset.joinsPicture then 0 else 2, { onset := .picture })
  else
    let o := if f.selector = .picture then f.onset.unselected else f.onset
    if isPlain c then (1, {})
    else if c.toNat = 0xFE0F then (0, o.asPicture)
    else if c.toNat = 0xFE0E then (0, o.asText)
    else if f.selector = .text && Emoji.narrowable.contains c then (1, {})
    else if f.selector = .wide && isQuotation c then (2, {})
    else beforeOnset c o

/-! ## 5. Lines -/

/-- The places that characters take in a line, and its front. -/
def measure : List Char → Int × Front
  | [] => (0, {})
  | c :: cs =>
    let (places, front) := measure cs
    let (more, front) := before c front
    (places + more, front)

/-- The places that a line takes. -/
def lineWidth (line : List Char) : Nat := (measure line).1.toNat

theorem before_plain {c : Char} (h : isPlain c = true) : before c {} = (1, {}) := by
  simp [before, h]

theorem measure_of_isPlain {line : List Char} (h : ∀ c ∈ line, isPlain c = true) :
    measure line = ((line.length : Int), {}) := by
  induction line with
  | nil => rfl
  | cons c cs ih =>
    have hcs := ih fun x hx => h x (List.mem_cons_of_mem c hx)
    simp [measure, hcs, before_plain (h c List.mem_cons_self)]

/-- Plain characters take a place each. -/
theorem lineWidth_of_isPlain {line : List Char} (h : ∀ c ∈ line, isPlain c = true) :
    lineWidth line = line.length := by
  simp [lineWidth, measure_of_isPlain h]

end Readout.Text

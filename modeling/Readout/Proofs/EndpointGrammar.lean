/-
# Which texts spell an endpoint

An endpoint is read by trimming, cutting at the first `://`, splitting at a bracket or at the last colon,
and checking the two parts.  `Endpoint.Spells` says which texts these are without any of the steps: how the
text is put together from blanks, a scheme, a host and a port.

* `Text.trims_iff`, `Text.Decimal.value?_eq_some_iff` -- trimming and reading digits, as compositions;
* `Endpoint.afterScheme_eq_ok_iff`, `Endpoint.hostAndPort_eq_ok_iff` -- the two cuts, likewise;
* `Endpoint.parse_exact` -- exactly the texts that spell an endpoint are read, as what they spell, and
  every other one is refused with the text as it was given.
-/
import Mathlib.Data.List.Infix
import Readout.Proofs.EndpointText

namespace Readout

/-! ## 1. Texts without the blanks at their ends -/

namespace Text

variable {cs left trimmed right : List Char}

/-- A text is this one with blanks around it. -/
structure Trims (cs trimmed : List Char) : Prop where
  around : ∃ left right, cs = left ++ trimmed ++ right ∧ (∀ c ∈ left, isBlank c = true) ∧
    ∀ c ∈ right, isBlank c = true
  head : ∀ c ∈ trimmed.head?, isBlank c = false
  last : ∀ c ∈ trimmed.getLast?, isBlank c = false

theorem trims_trimChars (cs : List Char) : Trims cs (trimChars cs) := by
  have hback : trimChars cs = (cs.dropWhile isBlank).rdropWhile isBlank := rfl
  refine ⟨⟨cs.takeWhile isBlank, (cs.dropWhile isBlank).rtakeWhile isBlank, ?_, ?_, ?_⟩, ?_, ?_⟩
  · rw [hback, List.append_assoc, List.rdropWhile_append_rtakeWhile,
      List.takeWhile_append_dropWhile]
  · exact fun c hc => List.mem_takeWhile_imp hc
  · exact fun c hc => List.mem_rtakeWhile_imp hc
  · intro c hc
    -- what is first in the end was first behind the blanks at the front
    have hfront : c ∈ (cs.dropWhile isBlank).head? := by
      obtain ⟨rest, hrest⟩ := List.head?_eq_some_iff.mp hc
      rw [hback] at hrest
      obtain ⟨more, hmore⟩ := List.rdropWhile_prefix isBlank (cs.dropWhile isBlank)
      rw [← hmore, hrest]
      rfl
    have hnot := List.head?_dropWhile_not isBlank cs
    rw [Option.mem_def.mp hfront] at hnot
    exact hnot
  · intro c hc
    rw [hback] at hc
    obtain ⟨hne, rfl⟩ := List.mem_getLast?_eq_getLast hc
    exact Bool.eq_false_iff.mpr (List.rdropWhile_last_not isBlank _ hne)

theorem dropWhile_blanks (hleft : ∀ c ∈ left, isBlank c = true) :
    (left ++ trimmed).dropWhile isBlank = trimmed.dropWhile isBlank :=
  List.dropWhile_append_of_pos hleft

/-- Blanks around a text are trimmed off. -/
theorem trimChars_append (hleft : ∀ c ∈ left, isBlank c = true)
    (hright : ∀ c ∈ right, isBlank c = true) (hne : trimmed ≠ [])
    (hhead : ∀ c ∈ trimmed.head?, isBlank c = false) :
    trimChars (left ++ trimmed ++ right) = trimChars trimmed := by
  have hfront : ∀ cs : List Char, (trimmed ++ cs).dropWhile isBlank = trimmed ++ cs := by
    intro cs
    obtain ⟨c, rest, rfl⟩ := List.exists_cons_of_ne_nil hne
    exact List.dropWhile_cons_of_neg (by simp [hhead c rfl])
  have hback : (trimmed ++ right).rdropWhile isBlank = trimmed.rdropWhile isBlank := by
    rw [List.rdropWhile, List.reverse_append, List.dropWhile_append_of_pos]
    · rfl
    · exact fun c hc => hright c (List.mem_reverse.mp hc)
  have hwhole := hfront []
  rw [List.append_nil] at hwhole
  rw [trimChars, trimChars, List.append_assoc, dropWhile_blanks hleft, hfront, hwhole]
  exact hback

/-- **Trimming finds what blanks are around**, and there is one such text only. -/
theorem trims_iff : Trims cs trimmed ↔ trimChars cs = trimmed := by
  constructor
  · rintro ⟨⟨left, right, rfl, hleft, hright⟩, hhead, hlast⟩
    by_cases hnil : trimmed = []
    · subst hnil
      rw [List.append_nil, trimChars, dropWhile_blanks hleft,
        List.dropWhile_eq_nil_iff.mpr hright]
      rfl
    · rw [trimChars_append hleft hright hnil hhead]
      exact trimChars_of_ends hhead hlast
  · rintro rfl
    exact trims_trimChars cs

/-! ## 2. Numbers in digits -/

namespace Decimal

variable {n bound : Nat}

/-- One or more digits behind an optional plus sign, and their value. -/
def Denotes (cs : List Char) (n : Nat) : Prop :=
  ∃ sign digits, cs = sign ++ digits ∧ (sign = [] ∨ sign = ['+']) ∧ digits ≠ [] ∧
    (∀ c ∈ digits, c.isDigit) ∧ n = Nat.ofDigitChars 10 digits 0

theorem digits?_eq_some_iff : digits? 0 cs = some n ↔
    (∀ c ∈ cs, c.isDigit) ∧ n = Nat.ofDigitChars 10 cs 0 := by
  constructor
  · intro h
    have hdigits := isDigit_of_digits? h
    rw [digits?_eq hdigits, Option.some.injEq] at h
    exact ⟨hdigits, h.symm⟩
  · rintro ⟨hdigits, rfl⟩
    exact digits?_eq hdigits 0

theorem value?_plus (hne : cs ≠ []) : value? ('+' :: cs) = digits? 0 cs := by
  obtain ⟨c, rest, rfl⟩ := List.exists_cons_of_ne_nil hne
  rfl

theorem value?_of_no_plus (hne : cs ≠ []) (hplus : cs.head? ≠ some '+') :
    value? cs = digits? 0 cs := by
  unfold value?
  split
  · contradiction
  · simp at hplus
  · simp at hplus
  · rfl

/-- **A number is read exactly where digits denote it.** -/
theorem value?_eq_some_iff : value? cs = some n ↔ Denotes cs n := by
  constructor
  · intro h
    unfold value? at h
    split at h
    · cases h
    · cases h
    · rename_i digits hne
      obtain ⟨hdigits, hvalue⟩ := digits?_eq_some_iff.mp h
      exact ⟨['+'], digits, rfl, .inr rfl, fun hnil => hne (by rw [hnil]), hdigits, hvalue⟩
    · rename_i hne _ _
      obtain ⟨hdigits, hvalue⟩ := digits?_eq_some_iff.mp h
      exact ⟨[], cs, rfl, .inl rfl, hne, hdigits, hvalue⟩
  · rintro ⟨sign, digits, rfl, rfl | rfl, hne, hdigits, hvalue⟩
    · have hplus : digits.head? ≠ some '+' := fun hhead =>
        absurd (hdigits '+' (List.mem_of_mem_head? hhead)) (by decide)
      rw [List.nil_append, value?_of_no_plus hne hplus]
      exact digits?_eq_some_iff.mpr ⟨hdigits, hvalue⟩
    · exact (value?_plus hne).trans (digits?_eq_some_iff.mpr ⟨hdigits, hvalue⟩)

theorem read?_eq_some_iff : read? bound cs = some n ↔ Denotes cs n ∧ n ≤ bound := by
  rw [← value?_eq_some_iff]
  unfold read?
  split
  · rename_i m hvalue
    rw [hvalue, Option.some.injEq]
    split
    · rename_i hle
      rw [Option.some.injEq]
      exact ⟨fun h => ⟨h, h ▸ hle⟩, And.left⟩
    · rename_i hlarge
      exact ⟨nofun, fun ⟨h, hle⟩ => absurd (h ▸ hle) hlarge⟩
  · rename_i hnone
    rw [hnone]
    exact ⟨nofun, fun h => nomatch h.1⟩

end Decimal

end Text

namespace Endpoint

variable {text rest front host port : List Char} {e : Endpoint}

/-! ## 3. The scheme -/

/-- What ends a scheme. -/
def mark : List Char := [':', '/', '/']

/-- A text goes on with `rest` behind its first mark, and `front` is in front of that. -/
structure CutAtMark (text front rest : List Char) : Prop where
  cut : text = front ++ mark ++ rest
  first : ∀ before behind, text = before ++ mark ++ behind → front.length ≤ before.length

/-- There is one first mark only. -/
theorem CutAtMark.unique {front' rest' : List Char} (h : CutAtMark text front rest)
    (h' : CutAtMark text front' rest') : front = front' ∧ rest = rest' := by
  have hlength : front.length = front'.length :=
    Nat.le_antisymm (h.first _ _ h'.cut) (h'.first _ _ h.cut)
  have hcut := h.cut.symm.trans h'.cut
  rw [List.append_assoc, List.append_assoc] at hcut
  obtain ⟨hfront, hbehind⟩ := List.append_inj hcut hlength
  exact ⟨hfront, List.append_cancel_left hbehind⟩

theorem CutAtMark.infix (h : CutAtMark text front rest) : mark <:+: text := ⟨front, rest, h.cut.symm⟩

/-- In front of a character that begins no mark, nothing changes. -/
theorem CutAtMark.cons {c : Char} (h : CutAtMark text front rest) (hno : ¬ mark <+: c :: text) :
    CutAtMark (c :: text) (c :: front) rest := by
  refine ⟨congrArg (c :: ·) h.cut, ?_⟩
  intro before behind hbefore
  cases before with
  | nil => exact absurd ⟨behind, hbefore.symm⟩ hno
  | cons d before =>
    rw [List.cons_append, List.cons_append, List.cons.injEq] at hbefore
    exact Nat.succ_le_succ (h.first before behind hbefore.2)

theorem cutScheme_of_mark (rest : List Char) : cutScheme (mark ++ rest) = some (mark, rest) := rfl

theorem cutScheme_cons {c : Char} (hno : ¬ mark <+: c :: text) :
    cutScheme (c :: text) = (cutScheme text).map fun (front, rest) => (c :: front, rest) := by
  rw [cutScheme]
  split
  · rename_i rest htext
    exact absurd ⟨rest, htext.symm⟩ hno
  · rfl

/-- The cut is at the first mark, or there is none. -/
theorem cutScheme_spec (text : List Char) :
    (cutScheme text = none ∧ ¬ mark <:+: text) ∨
      ∃ front rest, cutScheme text = some (front ++ mark, rest) ∧ CutAtMark text front rest := by
  induction text with
  | nil => exact .inl ⟨rfl, fun h => absurd (List.infix_nil.mp h) (List.cons_ne_nil _ _)⟩
  | cons c text ih =>
    by_cases hmark : mark <+: c :: text
    · obtain ⟨rest, htext⟩ := hmark
      rw [← htext]
      exact .inr ⟨[], rest, cutScheme_of_mark rest, rfl, fun _ _ _ => Nat.zero_le _⟩
    · rw [cutScheme_cons hmark]
      rcases ih with ⟨hnone, hno⟩ | ⟨front, rest, hsome, hcut⟩
      · rw [hnone]
        exact .inl ⟨rfl, fun h => (List.infix_cons_iff.mp h).elim hmark hno⟩
      · rw [hsome]
        exact .inr ⟨c :: front, rest, rfl, hcut.cons hmark⟩

/-- The letters `tcp`, each large or small. -/
def IsTcp (front : List Char) : Prop :=
  ∃ t ∈ ['t', 'T'], ∃ c ∈ ['c', 'C'], ∃ p ∈ ['p', 'P'], front = [t, c, p]

theorem toNat_toLower (c : Char) : c.toLower.toNat =
    if 'A'.toNat ≤ c.toNat ∧ c.toNat ≤ 'Z'.toNat then c.toNat + 32 else c.toNat := by
  have hletter : 'A'.val ≤ c.val ∧ c.val ≤ 'Z'.val ↔
      'A'.toNat ≤ c.toNat ∧ c.toNat ≤ 'Z'.toNat := Iff.rfl
  have hlast : 'Z'.toNat = 90 := rfl
  unfold Char.toLower
  by_cases h : 'A'.toNat ≤ c.toNat ∧ c.toNat ≤ 'Z'.toNat
  · rw [dif_pos (hletter.mpr h), if_pos h]
    show (c.val + ('a'.val - 'A'.val)).toNat = c.toNat + 32
    rw [UInt32.toNat_add]
    show (c.toNat + 32) % 2 ^ 32 = c.toNat + 32
    omega
  · rw [dif_neg (mt hletter.mp h), if_neg h]

/-- Only a letter and its large form become that letter. -/
theorem toLower_eq_iff {c small large : Char} (hsmall : small.toNat = large.toNat + 32)
    (hlarge : 'A'.toNat ≤ large.toNat ∧ large.toNat ≤ 'Z'.toNat) :
    c.toLower = small ↔ c ∈ [small, large] := by
  have hfirst : 'A'.toNat = 65 := rfl
  have hlast : 'Z'.toNat = 90 := rfl
  rw [List.mem_pair, ← Char.toNat_inj, ← Char.toNat_inj, ← Char.toNat_inj, toNat_toLower]
  split <;> omega

theorem map_toLower_eq_scheme_iff :
    (front ++ mark).map Char.toLower = scheme.toList ↔ IsTcp front := by
  have hscheme : scheme.toList = ['t', 'c', 'p'] ++ mark := rfl
  have hmark : mark.map Char.toLower = mark := by decide
  have ht {c : Char} : c.toLower = 't' ↔ c ∈ ['t', 'T'] := toLower_eq_iff rfl (by decide)
  have hc {c : Char} : c.toLower = 'c' ↔ c ∈ ['c', 'C'] := toLower_eq_iff rfl (by decide)
  have hp {c : Char} : c.toLower = 'p' ↔ c ∈ ['p', 'P'] := toLower_eq_iff rfl (by decide)
  rw [List.map_append, hmark, hscheme, List.append_left_inj]
  constructor
  · intro h
    obtain ⟨t, rest, rfl, hfirst, h⟩ := List.map_eq_cons_iff.mp h
    obtain ⟨c, rest, rfl, hsecond, h⟩ := List.map_eq_cons_iff.mp h
    obtain ⟨p, rest, rfl, hthird, h⟩ := List.map_eq_cons_iff.mp h
    obtain rfl := List.map_eq_nil_iff.mp h
    exact ⟨t, ht.mp hfirst, c, hc.mp hsecond, p, hp.mp hthird, rfl⟩
  · rintro ⟨t, hfirst, c, hsecond, p, hthird, rfl⟩
    rw [List.map_cons, List.map_cons, List.map_cons, ht.mpr hfirst, hc.mpr hsecond, hp.mpr hthird,
      List.map_nil]

/-- What is left behind the scheme, if there is one. -/
inductive BehindScheme (text rest : List Char) : Prop
  | bare (unmarked : ¬ mark <:+: text) (whole : rest = text)
  | tcp (front : List Char) (cut : CutAtMark text front rest) (scheme : IsTcp front)

/-- **What is left behind the scheme** is left behind `tcp://` in front, or is all if no mark is there. -/
theorem afterScheme_eq_ok_iff : afterScheme text = .ok rest ↔ BehindScheme text rest := by
  unfold afterScheme
  rcases cutScheme_spec text with ⟨hnone, hno⟩ | ⟨front, rest', hsome, hcut⟩
  · rw [hnone]
    constructor
    · rintro ⟨⟩
      exact .bare hno rfl
    · rintro (⟨-, rfl⟩ | ⟨front, hcut, -⟩)
      · rfl
      · exact absurd hcut.infix hno
  · rw [hsome]
    dsimp only
    split
    · rename_i hlower
      have htcp := map_toLower_eq_scheme_iff.mp hlower
      rw [Except.ok.injEq]
      constructor
      · rintro rfl
        exact .tcp front hcut htcp
      · rintro (⟨hno, -⟩ | ⟨front', hcut', -⟩)
        · exact absurd hcut.infix hno
        · exact (hcut.unique hcut').2
    · rename_i hlower
      have htcp := mt map_toLower_eq_scheme_iff.mpr hlower
      constructor
      · intro heq
        cases heq
      · rintro (⟨hno, -⟩ | ⟨front', hcut', htcp'⟩)
        · exact absurd hcut.infix hno
        · exact absurd ((hcut.unique hcut').1 ▸ htcp') htcp

/-! ## 4. The host and the port -/

/-- How a host and the text of a port stand together. -/
inductive Joins (rest host port : List Char) : Prop
  | bracketed (text : rest = '[' :: (host ++ ']' :: ':' :: port)) (closing : ']' ∉ host)
  | plain (text : rest = host ++ ':' :: port) (opening : host.head? ≠ some '[')
      (hostColon : ':' ∉ host) (portColon : ':' ∉ port)

/-- **A text is split** into the host and the port that stand together in it. -/
theorem hostAndPort_eq_ok_iff : hostAndPort rest = .ok (host, port) ↔ Joins rest host port := by
  by_cases hopen : rest.head? = some '['
  · obtain ⟨inner, rfl⟩ := List.head?_eq_some_iff.mp hopen
    rw [hostAndPort_bracketed_iff]
    constructor
    · rintro ⟨rfl, hclosing⟩
      exact .bracketed rfl hclosing
    · rintro (⟨htext, hclosing⟩ | ⟨htext, hopening, hcolon, -⟩)
      · exact ⟨(List.cons.inj htext).2, hclosing⟩
      · -- the bracket in front is the host's, unless the host is empty and a colon is in front
        cases host with
        | nil => exact absurd (List.cons.inj htext).1 (by decide)
        | cons c host => exact absurd (congrArg some (List.cons.inj htext).1.symm) hopening
  · rw [hostAndPort_plain_iff hopen]
    constructor
    · rintro ⟨rfl, hhost, hport⟩
      refine .plain rfl (fun hhead => hopen ?_) hhost hport
      rw [List.head?_append, hhead]
      rfl
    · rintro (⟨rfl, -⟩ | ⟨htext, -, hhost, hport⟩)
      · exact absurd rfl hopen
      · exact ⟨htext, hhost, hport⟩

/-! ## 5. Endpoints -/

/-- **A text spells a host and a port**: without the blanks at its ends and a scheme, it is both of them
joined, the host is not empty and has neither blanks nor slashes, and the port is a number in digits that
is not zero and fits in 16 bits. -/
inductive Spells (text host : List Char) (port : Nat) : Prop
  | intro {trimmed rest digits : List Char} (trims : Text.Trims text trimmed)
      (behind : BehindScheme trimmed rest) (joins : Joins rest host digits) (nonempty : host ≠ [])
      (allowed : ∀ c ∈ host, Text.isBlank c = false ∧ c ≠ '/')
      (denotes : Text.Decimal.Denotes digits port) (positive : 1 ≤ port) (fits : port ≤ 65535)

theorem readPort_eq_ok_iff_denotes {p : UInt16} :
    readPort port = .ok p ↔ Text.Decimal.Denotes port p.toNat ∧ 1 ≤ p.toNat ∧ p.toNat ≤ 65535 := by
  have hle : p.toNat ≤ 65535 := Nat.le_of_lt_succ p.toNat_lt
  have hpos : p ≠ 0 ↔ 1 ≤ p.toNat := by
    rw [Nat.one_le_iff_ne_zero, ne_eq, ne_eq, ← UInt16.toNat_inj]
    rfl
  rw [readPort_eq_ok_iff, Text.Decimal.read?_eq_some_iff, hpos, and_assoc, and_comm (a := _ ≤ _)]

/-- **An endpoint is read exactly from the texts that spell it.** -/
theorem parse_eq_ok_iff_spells {input : String} :
    parse input = .ok e ↔ Spells input.toList e.host.toList e.port.toNat := by
  rw [parse_eq_ok_iff]
  simp only [afterScheme_eq_ok_iff, hostAndPort_eq_ok_iff, checkHost_eq_ok_iff,
    readPort_eq_ok_iff_denotes]
  constructor
  · rintro ⟨rest, digits, hbehind, hjoins, ⟨hne, hallowed⟩, hdenotes, hpos, hfits⟩
    exact ⟨Text.trims_trimChars _, hbehind, hjoins, hne, hallowed, hdenotes, hpos, hfits⟩
  · rintro ⟨htrims, hbehind, hjoins, hne, hallowed, hdenotes, hpos, hfits⟩
    rw [Text.trims_iff.mp htrims]
    exact ⟨_, _, hbehind, hjoins, ⟨hne, hallowed⟩, hdenotes, hpos, hfits⟩

theorem Spells.toNat_port {n : Nat} (h : Spells text host n) : (UInt16.ofNat n).toNat = n := by
  obtain ⟨-, -, -, -, -, -, -, hfits⟩ := h
  exact UInt16.toNat_ofNat_of_lt' (Nat.lt_succ_of_le hfits)

/-- What a text spells is read from it. -/
theorem Spells.parse {input : String} {n : Nat} (h : Spells input.toList host n) :
    parse input = .ok ⟨String.ofList host, UInt16.ofNat n⟩ := by
  rw [parse_eq_ok_iff_spells, String.toList_ofList, h.toNat_port]
  exact h

/-- A text spells one host and one port at most. -/
theorem Spells.unique {host' : List Char} {n n' : Nat} (h : Spells text host n)
    (h' : Spells text host' n') : host = host' ∧ n = n' := by
  have hread : Spells (String.ofList text).toList host n := by rwa [String.toList_ofList]
  have hread' : Spells (String.ofList text).toList host' n' := by rwa [String.toList_ofList]
  have hsame := Except.ok.inj (hread.parse.symm.trans hread'.parse)
  rw [Endpoint.mk.injEq, String.ofList_inj] at hsame
  have hport := congrArg UInt16.toNat hsame.2
  rw [h.toNat_port, h'.toNat_port] at hport
  exact ⟨hsame.1, hport⟩

/-- A refusal keeps the text as it was given. -/
theorem parse_cases (input : String) :
    (∃ e, parse input = .ok e) ∨ ∃ defect, parse input = .error ⟨input, defect⟩ := by
  unfold Endpoint.parse
  cases parseTrimmed (Text.trimChars input.toList) with
  | ok e => exact .inl ⟨e, mapError_ok _ e⟩
  | error defect => exact .inr ⟨defect, mapError_error _ defect⟩

/-- **Exactly the texts that spell an endpoint are read**, and each as what it spells, which is one host
and one port.  Every other text is refused, and the error keeps it as it was given. -/
theorem parse_exact (input : String) :
    (∀ host port, parse input = .ok ⟨host, port⟩ ↔
      Spells input.toList host.toList port.toNat) ∧
    (∀ host port host' port', Spells input.toList host port → Spells input.toList host' port' →
      host = host' ∧ port = port') ∧
    ((¬ ∃ host port, Spells input.toList host port) ↔
      ∃ defect, parse input = .error ⟨input, defect⟩) := by
  refine ⟨fun host port => parse_eq_ok_iff_spells, fun _ _ _ _ => Spells.unique, ?_⟩
  constructor
  · intro hnone
    refine (parse_cases input).resolve_left ?_
    rintro ⟨e, hread⟩
    exact hnone ⟨_, _, parse_eq_ok_iff_spells.mp hread⟩
  · rintro ⟨defect, hrefused⟩ ⟨host, port, hspells⟩
    rw [hspells.parse] at hrefused
    cases hrefused

example : parse " TcP://[fe80::1]:+09000\n" = .ok ⟨"fe80::1", 9000⟩ := by decide +kernel

example : parse "tcp://a://b:1" = .error ⟨"tcp://a://b:1", .bareLiteral⟩ := by decide +kernel

end Endpoint

end Readout

/-
# The text of an endpoint is read back, brackets apart

An endpoint is written as `tcp://host:port` and can be read from such a text.  Writing puts brackets
around a host with colons and looks at nothing else; reading takes what is in front of the first
closing bracket for the host if an opening one comes first, and else what is in front of the colon.

* `hostAndPort_bracketed_iff`, `hostAndPort_plain_iff` -- which texts split into which host and port;
* `hostAndPort_written_iff` -- and into which what is written splits;
* `obtained_iff` -- an endpoint that was read or made has a host that passes the check, and a port;
* `parse_text_eq_ok_iff` -- all that the text of an endpoint can be read as;
* `reads_back_iff` -- the endpoint itself is read from its text exactly if `ReadsBack` holds of it.

The check of a host lets brackets pass, so there are endpoints whose text is refused or is that of
another endpoint: `bracketed_host_lost` has cases of both.
-/
import Mathlib.Data.List.Basic
import Mathlib.Data.List.DropRight
import Readout.Endpoint
import Readout.Proofs.Results

namespace Readout

/-! ## 1. Numbers, blanks and cuts -/

theorem bne_of_not_mem {c : Char} {cs : List Char} (h : c ∉ cs) : ∀ x ∈ cs, (x != c) = true :=
  fun _ hx => bne_iff_ne.mpr fun heq => h (heq ▸ hx)

namespace Text

theorem trimChars_of_ends {cs : List Char} (hhead : ∀ c ∈ cs.head?, isBlank c = false)
    (hlast : ∀ c ∈ cs.getLast?, isBlank c = false) : trimChars cs = cs := by
  have hfront : cs.dropWhile isBlank = cs := by
    cases cs with
    | nil => rfl
    | cons c cs => exact List.dropWhile_cons_of_neg (by simp [hhead c rfl])
  have hback : cs.rdropWhile isBlank = cs :=
    List.rdropWhile_eq_self_iff.mpr fun hne => by
      simp [hlast _ (List.getLast?_eq_some_getLast hne)]
  rw [trimChars, hfront]
  exact hback

namespace Decimal

theorem isDigit_iff {c : Char} : c.isDigit ↔ '0' ≤ c ∧ c ≤ '9' := by
  simp only [Char.isDigit, Bool.and_eq_true, decide_eq_true_eq, Char.le_def]

theorem isBlank_of_isDigit {c : Char} (h : c.isDigit) : isBlank c = false := by
  have hrange : 48 ≤ c.toNat ∧ c.toNat ≤ 57 := by
    simp only [Char.isDigit, Bool.and_eq_true, decide_eq_true_eq] at h
    exact h
  simp only [isBlank, Bool.or_eq_false_iff, Bool.and_eq_false_iff, decide_eq_false_iff_not,
    beq_eq_false_iff_ne]
  omega

theorem digits?_eq {cs : List Char} (h : ∀ c ∈ cs, c.isDigit) (value : Nat) :
    digits? value cs = some (Nat.ofDigitChars 10 cs value) := by
  induction cs generalizing value with
  | nil => rfl
  | cons c cs ih =>
    obtain ⟨hc, hcs⟩ := List.forall_mem_cons.mp h
    rw [digits?, if_pos (isDigit_iff.mp hc), ih hcs, Nat.ofDigitChars_cons, Nat.mul_comm]

theorem isDigit_of_digits? {cs : List Char} {value n : Nat} (h : digits? value cs = some n) :
    ∀ c ∈ cs, c.isDigit := by
  induction cs generalizing value with
  | nil => simp
  | cons c cs ih =>
    rw [digits?] at h
    split at h
    · rename_i hrange
      exact List.forall_mem_cons.mpr ⟨isDigit_iff.mpr hrange, ih h⟩
    · cases h

/-- **A number is read from its digits.** -/
theorem read?_toDigits {bound n : Nat} (h : n ≤ bound) :
    read? bound (Nat.toDigits 10 n) = some n := by
  have hdigits : ∀ c ∈ Nat.toDigits 10 n, c.isDigit := fun c =>
    Nat.isDigit_of_mem_toDigits (by decide) (by decide)
  have hvalue : value? (Nat.toDigits 10 n) = digits? 0 (Nat.toDigits 10 n) := by
    unfold value?
    split
    · rename_i hnil
      exact absurd hnil Nat.toDigits_ne_nil
    · rename_i hplus
      exact absurd (hdigits '+' (by simp [hplus])) (by decide)
    · rename_i hplus
      exact absurd (hdigits '+' (by simp [hplus])) (by decide)
    · rfl
  rw [read?, hvalue, digits?_eq hdigits, Nat.ofDigitChars_ten_toDigits]
  exact if_pos h

/-- What is read as a number has digits and perhaps a plus sign. -/
theorem isDigit_of_read? {bound n : Nat} {cs : List Char} (h : read? bound cs = some n) :
    ∀ c ∈ cs, c = '+' ∨ c.isDigit := by
  cases hvalue : value? cs with
  | none => simp [read?, hvalue] at h
  | some m =>
    unfold value? at hvalue
    split at hvalue
    · cases hvalue
    · cases hvalue
    · exact List.forall_mem_cons.mpr ⟨.inl rfl, fun c hc => .inr (isDigit_of_digits? hvalue c hc)⟩
    · exact fun c hc => .inr (isDigit_of_digits? hvalue c hc)

end Decimal

end Text

namespace SocketAddress

theorem cutLast_append {c : Char} {front back : List Char} (h : c ∉ back) :
    cutLast c (front ++ c :: back) = some (front, back) := by
  have hback : c ∉ back.reverse := fun hc => h (List.mem_reverse.mp hc)
  have hafter : ((front ++ c :: back).reverse.takeWhile (· != c)).reverse = back := by
    rw [List.reverse_append, List.reverse_cons, List.append_assoc,
      List.takeWhile_append_of_pos (bne_of_not_mem hback)]
    simp
  have hlength : (front ++ c :: back).length = front.length + back.length + 1 := by
    simp [Nat.add_assoc]
  have hfront : front.length + back.length + 1 - back.length - 1 = front.length := by omega
  rw [cutLast, hafter, hlength]
  simp only [hfront, List.take_left]
  exact if_neg (by omega)

theorem cutLast_of_not_mem {c : Char} {cs : List Char} (h : c ∉ cs) : cutLast c cs = none := by
  have hall : cs.reverse.takeWhile (· != c) = cs.reverse :=
    List.takeWhile_eq_self_iff.mpr (bne_of_not_mem fun hc => h (List.mem_reverse.mp hc))
  rw [cutLast, hall, List.reverse_reverse]
  exact if_pos rfl

/-- **A text is cut at the last separator**, if it has one. -/
theorem cutLast_eq_some_iff {c : Char} {cs front back : List Char} :
    cutLast c cs = some (front, back) ↔ cs = front ++ c :: back ∧ c ∉ back := by
  constructor
  · intro h
    by_cases hmem : c ∈ cs
    · obtain ⟨back', front', hsplit, hnot⟩ :=
        List.eq_append_cons_of_mem (List.mem_reverse.mpr hmem)
      have hcs : cs = front'.reverse ++ c :: back'.reverse := by
        rw [← List.reverse_reverse cs, hsplit]
        simp
      have hnot' : c ∉ back'.reverse := fun hc => hnot (List.mem_reverse.mp hc)
      rw [hcs, cutLast_append hnot', Option.some.injEq, Prod.mk.injEq] at h
      obtain ⟨rfl, rfl⟩ := h
      exact ⟨hcs, hnot'⟩
    · rw [cutLast_of_not_mem hmem] at h
      cases h
  · rintro ⟨rfl, hback⟩
    exact cutLast_append hback

end SocketAddress

namespace Endpoint

/-! ## 2. What is read -/

variable {e other : Endpoint} {cs inner host port : List Char} {input : String}

/-- A host in brackets ends at the first closing one, and a colon follows. -/
theorem hostAndPort_bracketed_iff :
    hostAndPort ('[' :: inner) = .ok (host, port) ↔
      inner = host ++ ']' :: ':' :: port ∧ ']' ∉ host := by
  constructor
  · intro h
    have hhost : ']' ∉ inner.takeWhile (· != ']') := fun hmem => by
      simpa using List.mem_takeWhile_imp hmem
    have hinner := List.takeWhile_append_dropWhile (p := (· != ']')) (l := inner)
    have hclosing := List.head?_dropWhile_not (· != ']') inner
    simp only [hostAndPort] at h
    split at h
    · cases h
    · rename_i c port' hdrop
      cases h
      simp only [hdrop, List.head?_cons, bne_eq_false_iff_eq] at hclosing
      rw [hdrop, hclosing] at hinner
      exact ⟨hinner.symm, hhost⟩
    · cases h
  · rintro ⟨rfl, hhost⟩
    have hall := bne_of_not_mem hhost
    have hdrop : (host ++ ']' :: ':' :: port).dropWhile (· != ']') = ']' :: ':' :: port := by
      rw [List.dropWhile_append_of_pos hall]
      rfl
    have htake : (host ++ ']' :: ':' :: port).takeWhile (· != ']') = host := by
      rw [List.takeWhile_append_of_pos hall]
      exact List.append_nil host
    simp only [hostAndPort, hdrop, htake]

theorem hostAndPort_unterminated (h : ']' ∉ inner) :
    hostAndPort ('[' :: inner) = .error .unterminatedLiteral := by
  have hdrop : inner.dropWhile (· != ']') = [] :=
    List.dropWhile_eq_nil_iff.mpr (bne_of_not_mem h)
  simp only [hostAndPort, hdrop]

/-- A host without brackets ends at the only colon. -/
theorem hostAndPort_plain_iff (hcs : cs.head? ≠ some '[') :
    hostAndPort cs = .ok (host, port) ↔ cs = host ++ ':' :: port ∧ ':' ∉ host ∧ ':' ∉ port := by
  have hcut : hostAndPort cs = .ok (host, port) ↔
      SocketAddress.cutLast ':' cs = some (host, port) ∧ ':' ∉ host := by
    unfold hostAndPort
    split
    · simp at hcs
    · split
      · rename_i hnone
        simp [hnone]
      · rename_i host' port' hsome
        rw [hsome]
        split
        · rename_i hcolon
          constructor
          · intro heq
            cases heq
          · rintro ⟨heq, hnot⟩
            cases heq
            exact absurd hcolon hnot
        · rename_i hcolon
          constructor
          · intro heq
            cases heq
            exact ⟨rfl, hcolon⟩
          · rintro ⟨heq, -⟩
            cases heq
            rfl
  rw [hcut, SocketAddress.cutLast_eq_some_iff]
  exact ⟨fun ⟨⟨hcs, hport⟩, hhost⟩ => ⟨hcs, hhost, hport⟩,
    fun ⟨hcs, hhost, hport⟩ => ⟨⟨hcs, hport⟩, hhost⟩⟩

theorem checkHost_eq_ok_iff :
    checkHost host = .ok () ↔ host ≠ [] ∧ ∀ c ∈ host, Text.isBlank c = false ∧ c ≠ '/' := by
  unfold checkHost
  split
  · simp [*]
  · split
    · rename_i hne hbad
      simpa [hne, imp_iff_not_or, or_comm] using hbad
    · rename_i hne hgood
      simpa [hne, not_or] using hgood

theorem readPort_eq_ok_iff {p : UInt16} :
    readPort port = .ok p ↔ Text.Decimal.read? 65535 port = some p.toNat ∧ p ≠ 0 := by
  unfold readPort
  split
  · rename_i hnone
    simp [hnone]
  · rename_i hzero
    simp [hzero, eq_comm, ← UInt16.toNat_inj]
  · rename_i n hpos hsome
    have hn : n < UInt16.size := Nat.lt_succ_of_le (Text.Decimal.read?_le hsome)
    rw [hsome, Option.some.injEq, Except.ok.injEq]
    constructor
    · rintro rfl
      have hvalue : (UInt16.ofNat n).toNat = n := UInt16.toNat_ofNat_of_lt' hn
      refine ⟨hvalue.symm, fun hzero => hpos ?_⟩
      rw [← hvalue, hzero]
      rfl
    · rintro ⟨rfl, -⟩
      exact UInt16.ofNat_toNat

/-- **What is read**: a host and a port behind the scheme, both of which pass their check. -/
theorem parse_eq_ok_iff :
    parse input = .ok e ↔ ∃ rest port, afterScheme (Text.trimChars input.toList) = .ok rest ∧
      hostAndPort rest = .ok (e.host.toList, port) ∧ checkHost e.host.toList = .ok () ∧
      readPort port = .ok e.port := by
  unfold parse parseTrimmed
  simp only [mapError_eq_ok_iff, bind_eq_ok_iff, Prod.exists]
  constructor
  · rintro ⟨rest, hrest, host, port, hsplit, ⟨⟩, hhost, p, hport, heq⟩
    cases heq
    rw [String.toList_ofList]
    exact ⟨rest, port, hrest, hsplit, hhost, hport⟩
  · rintro ⟨rest, port, hrest, hsplit, hhost, hport⟩
    refine ⟨rest, hrest, e.host.toList, port, hsplit, (), hhost, e.port, hport, ?_⟩
    rw [String.ofList_toList]
    rfl

theorem make_eq_ok_iff {name : String} {p : UInt16} :
    make name p = .ok e ↔ checkHost name.toList = .ok () ∧ p ≠ 0 ∧ e = ⟨name, p⟩ := by
  unfold make
  split
  · rename_i hbad
    simp [hbad]
  · rename_i hgood
    split
    · simp [*]
    · simp [*, eq_comm]

/-- The endpoints that there are: each was read from a text or made of its parts. -/
inductive Obtained (e : Endpoint) : Prop where
  | parsed (input : String) (h : parse input = .ok e)
  | made (host : String) (port : UInt16) (h : make host port = .ok e)

/-- Nothing but the two checks is certain of an endpoint. -/
theorem obtained_iff : e.Obtained ↔ checkHost e.host.toList = .ok () ∧ e.port ≠ 0 := by
  constructor
  · rintro (⟨input, h⟩ | ⟨host, port, h⟩)
    · obtain ⟨rest, port, -, -, hhost, hport⟩ := parse_eq_ok_iff.mp h
      exact ⟨hhost, (readPort_eq_ok_iff.mp hport).2⟩
    · obtain ⟨hhost, hport, rfl⟩ := make_eq_ok_iff.mp h
      exact ⟨hhost, hport⟩
  · rintro ⟨hhost, hport⟩
    exact .made e.host e.port (make_eq_ok_iff.mpr ⟨hhost, hport, rfl⟩)

/-! ## 3. What is written -/

/-- The digits of an endpoint's port. -/
def portDigits (e : Endpoint) : List Char := Nat.toDigits 10 e.port.toNat

/-- The text of an endpoint behind its scheme. -/
def written (e : Endpoint) : List Char :=
  if ':' ∈ e.host.toList then '[' :: (e.host.toList ++ ']' :: ':' :: e.portDigits)
  else e.host.toList ++ ':' :: e.portDigits

theorem isDigit_of_mem_portDigits {c : Char} (h : c ∈ e.portDigits) : c.isDigit :=
  Nat.isDigit_of_mem_toDigits (by decide) (by decide) h

theorem toList_text (e : Endpoint) : e.text.toList = scheme.toList ++ e.written := by
  unfold text written portDigits
  split <;> simp [Nat.toString_eq_repr, Nat.toList_repr]

/-- Behind the scheme, all of an endpoint's text is left. -/
theorem afterScheme_text (e : Endpoint) :
    afterScheme (Text.trimChars e.text.toList) = .ok e.written := by
  have hne : e.portDigits ≠ [] := Nat.toDigits_ne_nil
  have hlast : e.written.getLast? = some (e.portDigits.getLast hne) := by
    unfold written
    split <;> simp [List.getLast?_cons, List.getLast?_append, List.getLast?_eq_some_getLast hne]
  have htrim : Text.trimChars (scheme.toList ++ e.written) = scheme.toList ++ e.written := by
    refine Text.trimChars_of_ends (fun c hc => ?_) fun c hc => ?_
    · cases hc
      decide
    · rw [List.getLast?_append, hlast] at hc
      cases hc
      exact Text.Decimal.isBlank_of_isDigit (isDigit_of_mem_portDigits (List.getLast_mem hne))
  rw [toList_text, htrim]
  rfl

/-! ## 4. What is read from it -/

/-- The host comes again from the text: with colons in it, brackets are put around it, and it may not
close them; and it may not start with a bracket otherwise. -/
def ReadsBack (e : Endpoint) : Prop :=
  (':' ∈ e.host.toList → ']' ∉ e.host.toList) ∧
    (e.host.toList.head? = some '[' → ':' ∈ e.host.toList)

instance (e : Endpoint) : Decidable e.ReadsBack :=
  inferInstanceAs (Decidable (_ ∧ _))

/-- The host has brackets around it, which reading takes for those of the text. -/
structure Wraps (e : Endpoint) (inner : List Char) : Prop where
  host : e.host.toList = '[' :: (inner ++ [']'])
  colon : ':' ∉ inner
  closing : ']' ∉ inner

theorem not_mem_portDigits {c : Char} (h : c.isDigit = false) : c ∉ e.portDigits := by
  intro hc
  simp [isDigit_of_mem_portDigits hc] at h

/-- Around a host with colons, writing puts brackets, and the host may not close them. -/
theorem hostAndPort_written_of_colon (hmem : ':' ∈ e.host.toList) (hport : ']' ∉ port) :
    hostAndPort e.written = .ok (host, port) ↔
      port = e.portDigits ∧ host = e.host.toList ∧ ']' ∉ e.host.toList := by
  have hwritten : e.written = '[' :: (e.host.toList ++ ']' :: ':' :: e.portDigits) := if_pos hmem
  rw [hwritten, hostAndPort_bracketed_iff]
  constructor
  · rintro ⟨hsplit, hhost⟩
    obtain ⟨rfl, -, htail⟩ :=
      (List.append_cons_inj_of_notMem hhost (by simpa using hport)).mp hsplit.symm
    cases htail
    exact ⟨rfl, rfl, hhost⟩
  · rintro ⟨rfl, rfl, hclosing⟩
    exact ⟨rfl, hclosing⟩

/-- An opening bracket of the host's own is taken for one that writing put there. -/
theorem hostAndPort_written_of_opening (hmem : ':' ∉ e.host.toList)
    (hopen : e.host.toList.head? = some '[') :
    hostAndPort e.written = .ok (host, port) ↔ port = e.portDigits ∧ e.Wraps host := by
  have hwritten : e.written = e.host.toList ++ ':' :: e.portDigits := if_neg hmem
  obtain ⟨inner, hinner⟩ := List.head?_eq_some_iff.mp hopen
  have hcolon : ':' ∉ inner := fun h => hmem (hinner ▸ List.mem_cons_of_mem _ h)
  rw [hwritten, hinner, List.cons_append, hostAndPort_bracketed_iff]
  constructor
  · rintro ⟨hsplit, hhost⟩
    rw [List.append_cons host,
      List.append_cons_inj_of_notMem hcolon (not_mem_portDigits rfl)] at hsplit
    obtain ⟨rfl, -, rfl⟩ := hsplit
    exact ⟨rfl, hinner, fun h => hcolon (List.mem_append_left _ h), hhost⟩
  · rintro ⟨rfl, hwraps⟩
    cases hinner.symm.trans hwraps.host
    exact ⟨(List.append_cons ..).symm, hwraps.closing⟩

/-- Without any of these, the only colon is the one in front of the port. -/
theorem hostAndPort_written_of_plain (hmem : ':' ∉ e.host.toList)
    (hopen : e.host.toList.head? ≠ some '[') :
    hostAndPort e.written = .ok (host, port) ↔ port = e.portDigits ∧ host = e.host.toList := by
  have hwritten : e.written = e.host.toList ++ ':' :: e.portDigits := if_neg hmem
  have hcolon : ':' ∉ e.portDigits := not_mem_portDigits rfl
  have hhead : (e.host.toList ++ ':' :: e.portDigits).head? ≠ some '[' := by
    rw [List.head?_append]
    cases hfirst : e.host.toList.head? with
    | none => simp
    | some c => simpa [hfirst] using hopen
  rw [hwritten, hostAndPort_plain_iff hhead]
  constructor
  · rintro ⟨hsplit, -, -⟩
    obtain ⟨rfl, -, rfl⟩ := (List.append_cons_inj_of_notMem hmem hcolon).mp hsplit
    exact ⟨rfl, rfl⟩
  · rintro ⟨rfl, rfl⟩
    exact ⟨rfl, hmem, hcolon⟩

theorem Wraps.colon_not_mem {inner : List Char} (h : e.Wraps inner) : ':' ∉ e.host.toList := by
  simp [h.host, h.colon]

theorem Wraps.opens {inner : List Char} (h : e.Wraps inner) : e.host.toList.head? = some '[' := by
  rw [h.host]
  rfl

/-- **What is written splits** into the host and the port, or into what brackets of the host's own
enclose and the port. -/
theorem hostAndPort_written_iff (hport : ']' ∉ port) :
    hostAndPort e.written = .ok (host, port) ↔
      port = e.portDigits ∧ (host = e.host.toList ∧ e.ReadsBack ∨ e.Wraps host) := by
  by_cases hmem : ':' ∈ e.host.toList
  · have hback : e.ReadsBack ↔ ']' ∉ e.host.toList :=
      ⟨fun h => h.1 hmem, fun h => ⟨fun _ => h, fun _ => hmem⟩⟩
    have hwraps : ¬ e.Wraps host := fun h => h.colon_not_mem hmem
    rw [hostAndPort_written_of_colon hmem hport, hback, or_iff_left hwraps]
  · by_cases hopen : e.host.toList.head? = some '['
    · have hback : ¬ e.ReadsBack := fun h => hmem (h.2 hopen)
      rw [hostAndPort_written_of_opening hmem hopen, or_iff_right fun h => hback h.2]
    · have hback : e.ReadsBack := ⟨fun h => absurd h hmem, fun h => absurd h hopen⟩
      have hwraps : ¬ e.Wraps host := fun h => hopen h.opens
      rw [hostAndPort_written_of_plain hmem hopen, or_iff_left hwraps, and_iff_left hback]

theorem readPort_portDigits_iff (hport : e.port ≠ 0) {p : UInt16} :
    readPort e.portDigits = .ok p ↔ p = e.port := by
  have hread : Text.Decimal.read? 65535 e.portDigits = some e.port.toNat :=
    Text.Decimal.read?_toDigits (Nat.le_of_lt_succ e.port.toNat_lt)
  rw [readPort_eq_ok_iff, hread, Option.some.injEq, UInt16.toNat_inj]
  constructor
  · rintro ⟨rfl, -⟩
    rfl
  · rintro rfl
    exact ⟨rfl, hport⟩

theorem Wraps.checkHost {inner : List Char} (h : e.Wraps inner) (hne : inner ≠ [])
    (hhost : checkHost e.host.toList = .ok ()) : checkHost inner = .ok () := by
  rw [checkHost_eq_ok_iff] at hhost ⊢
  refine ⟨hne, fun c hc => hhost.2 c ?_⟩
  rw [h.host]
  exact List.mem_cons_of_mem _ (List.mem_append_left _ hc)

/-- **What the text of an endpoint is read as**: the endpoint, or that of the host within the brackets
of its host. -/
theorem parse_text_eq_ok_iff (h : e.Obtained) :
    parse e.text = .ok other ↔ other.port = e.port ∧
      (other.host = e.host ∧ e.ReadsBack ∨ other.host ≠ "" ∧ e.Wraps other.host.toList) := by
  obtain ⟨hhost, hport⟩ := obtained_iff.mp h
  have hnil : other.host ≠ "" ↔ other.host.toList ≠ [] := by simp
  rw [parse_eq_ok_iff]
  constructor
  · rintro ⟨rest, port, hrest, hsplit, hother, hread⟩
    cases hrest.symm.trans (afterScheme_text e)
    have hclosing : ']' ∉ port := fun hmem => by
      rcases Text.Decimal.isDigit_of_read? (readPort_eq_ok_iff.mp hread).1 _ hmem with h | h
      · exact absurd h (by decide)
      · exact absurd h (by decide)
    obtain ⟨rfl, hcase⟩ := (hostAndPort_written_iff hclosing).mp hsplit
    refine ⟨(readPort_portDigits_iff hport).mp hread, ?_⟩
    rcases hcase with ⟨heq, hback⟩ | hwraps
    · exact .inl ⟨String.toList_inj.mp heq, hback⟩
    · exact .inr ⟨hnil.mpr (checkHost_eq_ok_iff.mp hother).1, hwraps⟩
  · rintro ⟨hsame, hcase⟩
    have hclosing : ']' ∉ e.portDigits := not_mem_portDigits rfl
    refine ⟨e.written, e.portDigits, afterScheme_text e,
      (hostAndPort_written_iff hclosing).mpr ⟨rfl, ?_⟩, ?_, (readPort_portDigits_iff hport).mpr hsame⟩
    · rcases hcase with ⟨heq, hback⟩ | ⟨-, hwraps⟩
      · exact .inl ⟨congrArg String.toList heq, hback⟩
      · exact .inr hwraps
    · rcases hcase with ⟨heq, -⟩ | ⟨hne, hwraps⟩
      · rw [heq]
        exact hhost
      · exact hwraps.checkHost (hnil.mp hne) hhost

/-- A host that was read from a text has no closing bracket if it has colons or starts with an opening
one. -/
theorem closing_not_mem_of_parsed (h : parse input = .ok e)
    (hcase : ':' ∈ e.host.toList ∨ e.host.toList.head? = some '[') : ']' ∉ e.host.toList := by
  obtain ⟨rest, port, -, hsplit, -, -⟩ := parse_eq_ok_iff.mp h
  by_cases hopen : rest.head? = some '['
  · obtain ⟨inner, rfl⟩ := List.head?_eq_some_iff.mp hopen
    exact (hostAndPort_bracketed_iff.mp hsplit).2
  · obtain ⟨rfl, hcolon, -⟩ := (hostAndPort_plain_iff hopen).mp hsplit
    rcases hcase with hmem | hhead
    · exact absurd hmem hcolon
    · exact absurd (by simp [hhead]) hopen

/-- With an opening bracket of the host's own and no closing one, the text is refused. -/
theorem parse_text_unterminated (hopen : e.host.toList.head? = some '[')
    (hcolon : ':' ∉ e.host.toList) (hclosing : ']' ∉ e.host.toList) :
    parse e.text = .error ⟨e.text, .unterminatedLiteral⟩ := by
  obtain ⟨inner, hinner⟩ := List.head?_eq_some_iff.mp hopen
  have hsplit : hostAndPort e.written = .error .unterminatedLiteral := by
    rw [written, if_neg hcolon, hinner]
    refine hostAndPort_unterminated fun hmem => ?_
    rcases List.mem_append.mp hmem with h | h
    · exact hclosing (hinner ▸ List.mem_cons_of_mem _ h)
    · exact not_mem_portDigits rfl ((List.mem_cons.mp h).resolve_left (by decide))
  have hparse : parseTrimmed (Text.trimChars e.text.toList) = .error .unterminatedLiteral := by
    rw [parseTrimmed, afterScheme_text]
    simp [bind, Except.bind, hsplit]
  rw [parse, hparse, mapError_error]

/-- **The text of an endpoint is read back** exactly if its host has no brackets in the wrong places.
It is read as another endpoint exactly if the host of that one is what brackets enclose in the host of
the first.  For an endpoint that was itself read from a text, the only trouble is an opening bracket, and
it is noticed. -/
theorem reads_back_iff (h : e.Obtained) :
    (parse e.text = .ok e ↔ e.ReadsBack) ∧
    (∀ other, other ≠ e → (parse e.text = .ok other ↔
      other.port = e.port ∧ other.host ≠ "" ∧ e.Wraps other.host.toList)) ∧
    ((∃ input, parse input = .ok e) → parse e.text = .ok e ∨
      e.host.toList.head? = some '[' ∧ ':' ∉ e.host.toList ∧
        parse e.text = .error ⟨e.text, .unterminatedLiteral⟩) := by
  have hself : parse e.text = .ok e ↔ e.ReadsBack := by
    rw [parse_text_eq_ok_iff h]
    constructor
    · rintro ⟨-, ⟨-, hback⟩ | ⟨-, hwraps⟩⟩
      · exact hback
      · -- a host has more characters than what its brackets enclose
        have hlength := congrArg List.length hwraps.host
        simp only [List.length_cons, List.length_append, List.length_nil] at hlength
        omega
    · exact fun hback => ⟨rfl, .inl ⟨rfl, hback⟩⟩
  refine ⟨hself, ?_, ?_⟩
  · intro other hne
    rw [parse_text_eq_ok_iff h]
    refine and_congr_right fun hport => or_iff_right fun ⟨hhost, _⟩ => hne ?_
    cases other
    cases e
    cases hport
    cases hhost
    rfl
  · rintro ⟨input, hinput⟩
    by_cases hcolon : ':' ∈ e.host.toList
    · have hclosing := closing_not_mem_of_parsed hinput (.inl hcolon)
      exact .inl (hself.mpr ⟨fun _ => hclosing, fun _ => hcolon⟩)
    · by_cases hopen : e.host.toList.head? = some '['
      · have hclosing := closing_not_mem_of_parsed hinput (.inr hopen)
        exact .inr ⟨hopen, hcolon, parse_text_unterminated hopen hcolon hclosing⟩
      · exact .inl (hself.mpr ⟨fun h => absurd h hcolon, fun h => absurd h hopen⟩)

/-- The loopback address in brackets. -/
theorem reads_back_loopback :
    parse "tcp://[::1]:9000" = .ok ⟨"::1", 9000⟩ ∧
      parse (Endpoint.text ⟨"::1", 9000⟩) = .ok ⟨"::1", 9000⟩ := by
  have hparse : parse "tcp://[::1]:9000" = .ok ⟨"::1", 9000⟩ := by decide +kernel
  exact ⟨hparse, (reads_back_iff (.parsed _ hparse)).1.mpr (by decide +kernel)⟩

/-- Brackets in a host: the texts of an endpoint that was read and of one that was made are refused, and
the text of another one that was made names the host within its brackets. -/
theorem bracketed_host_lost :
    parse "tcp://[[]:1" = .ok ⟨"[", 1⟩ ∧ Endpoint.text ⟨"[", 1⟩ = "tcp://[:1" ∧
      parse "tcp://[:1" = .error ⟨"tcp://[:1", .unterminatedLiteral⟩ ∧
      make "[::1]" 9000 = .ok ⟨"[::1]", 9000⟩ ∧
      Endpoint.text ⟨"[::1]", 9000⟩ = "tcp://[[::1]]:9000" ∧
      parse "tcp://[[::1]]:9000" = .error ⟨"tcp://[[::1]]:9000", .missingPort⟩ ∧
      make "[a]" 1 = .ok ⟨"[a]", 1⟩ ∧ Endpoint.text ⟨"[a]", 1⟩ = "tcp://[a]:1" ∧
      parse "tcp://[a]:1" = .ok ⟨"a", 1⟩ := by
  decide +kernel

end Endpoint

end Readout

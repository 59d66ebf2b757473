/-
# What a reader of frames holds

A reader keeps octets until a frame is whole, and the length of a frame is said by whoever sends it.  So the
limit on payloads is what bounds the octets that are kept, and it can be changed between two calls.

Inside a call the reader is filled read by read (`FrameReader.Fills`), and each read is taken only while
what is there begins with less than one frame within the limit: that is, it holds at most all but one of the
octets of the largest frame then, and one read more after it.  Nothing else makes a reader hold more, so what
it holds follows by an induction over the reads of a call, and one over the calls (`FrameReader.Within`).

A header that announces too much ends a call as soon as it is there, and the call takes no read after that.

* `FrameReader.Fills.readFrame_eq` -- a call goes on as if it had begun at any of its moments;
* `held_within_limit` -- the bound after every call and inside the next one, and the header that ends it.
-/
import Mathlib.Data.List.Infix
import Readout.Proofs.Inflow

namespace Readout

open ReadStep (octetsIn)

/-! ## 1. Frames that are not whole -/

namespace Frame

variable {limit : Nat} {buffer : Bytes}

/-- **While a frame is not whole, an octet is missing at least** of the largest one. -/
theorem length_lt_of_decode_none (h : decode limit buffer = .ok none) :
    buffer.length < headerSize + limit := by
  unfold decode at h
  split at h
  · cases h
  · rename_i hread
    exact Nat.lt_add_right limit (length_lt_of_read_none hread)
  · rename_i header rest hread
    obtain ⟨rfl, -, hfits, -⟩ := read_eq_some hread
    split at h
    · rename_i hshort
      rw [List.length_append, length_write_header]
      omega
    · cases h

/-- A header that announces more than a limit: its kind is known, and it can say the length. -/
structure Header.Oversize (limit : Nat) (h : Header) : Prop where
  known : h.kind.isKnown = true
  beyond : limit < h.length
  sayable : h.length ≤ maxLength

/-- Such a header is refused, whatever is behind it. -/
theorem Header.Oversize.decode_eq {h : Header} (hlarge : h.Oversize limit) (more : Bytes) :
    decode limit (h.write ++ more) = .error (.tooLarge h.length limit) := by
  rw [decode, Header.read_write hlarge.sayable, hlarge.known, if_neg (by decide), if_pos hlarge.beyond]

end Frame

/-! ## 2. What one read gives -/

namespace ReadStep

theorem length_split_le {fullReads : Nat} {octets : Bytes}
    (h : octets.length ≤ (fullReads + 1) * size) :
    ∀ step ∈ split fullReads octets, step.octets.length ≤ size := by
  induction fullReads generalizing octets with
  | zero =>
    intro step hstep
    obtain rfl := List.mem_singleton.mp hstep
    rwa [Nat.zero_add, Nat.one_mul] at h
  | succ fullReads ih =>
    refine List.forall_mem_cons.mpr ⟨List.length_take_le size octets, ih ?_⟩
    rw [Nat.succ_mul] at h
    rw [List.length_drop]
    omega

theorem length_ofOctets_le (octets : Bytes) :
    ∀ step ∈ ofOctets octets, step.octets.length ≤ size := by
  refine length_split_le ?_
  have hlast := Nat.lt_mul_div_succ (octets.length - 1) (show 0 < size by decide)
  rw [Nat.mul_comm] at hlast
  omega

/-- **No read gives more than it is asked for**, whatever the script is. -/
theorem length_cut_le (script : List ReadStep) :
    ∀ step ∈ cut script, step.octets.length ≤ size := by
  intro step hstep
  obtain ⟨written, -, hpart⟩ := List.mem_flatMap.mp hstep
  cases written with
  | data octets => exact length_ofOctets_le octets step hpart
  | fault source =>
    obtain rfl := List.mem_singleton.mp hpart
    exact Nat.zero_le _

end ReadStep

/-! ## 3. The moments of a call -/

namespace FrameReader

/-- The course of a call: a reader and its reads, and what they are after some more reads of that call. -/
inductive Fills : FrameReader → List ReadStep → FrameReader → List ReadStep → Prop
  | refl (r : FrameReader) (steps : List ReadStep) : Fills r steps r steps
  /-- Where no frame is whole, a read is taken, and gives its octets. -/
  | read {r r' : FrameReader} {step : ReadStep} {steps rest : List ReadStep}
      (lacking : Frame.decode r.limit r.buffer = .ok none) (given : step.failure? = none)
      (more : Fills { r with buffer := r.buffer ++ step.octets } steps r' rest) :
      Fills r (step :: steps) r' rest

/-- How a call ends from its last moment. -/
inductive Ends (r : FrameReader) :
    List ReadStep → Except FrameError Frame × FrameReader × List ReadStep → Prop
  | frame {f : Frame} {left : Bytes} {steps : List ReadStep}
      (decoded : Frame.decode r.limit r.buffer = .ok (some (f, left))) :
      Ends r steps (.ok f, { r with buffer := left }, steps)
  | badHeader {e : FrameError} {steps : List ReadStep}
      (decoded : Frame.decode r.limit r.buffer = .error e) : Ends r steps (.error e, r, steps)
  | failure {e : FrameError} {step : ReadStep} {steps : List ReadStep}
      (lacking : Frame.decode r.limit r.buffer = .ok none) (failed : step.failure? = some e) :
      Ends r (step :: steps) (.error e, r, steps)
  | ended (lacking : Frame.decode r.limit r.buffer = .ok none) : Ends r [] (.error .closed, r, [])

variable {r r' : FrameReader} {steps rest : List ReadStep}

theorem Fills.limit_eq (h : Fills r steps r' rest) : r'.limit = r.limit := by
  induction h with
  | refl r steps => rfl
  | read lacking given more ih => exact ih

/-- **A call goes on as if it had begun at any of its moments.** -/
theorem Fills.readFrame_eq (h : Fills r steps r' rest) : r.readFrame steps = r'.readFrame rest := by
  induction h with
  | refl r steps => rfl
  | read lacking given more ih =>
    rw [← ih, readFrame, poll_cons lacking, given]
    rfl

/-- A frame or a bad header that is there ends a call. -/
theorem ends_of_found (h : Frame.decode r.limit r.buffer ≠ .ok none) (steps : List ReadStep) :
    r.Ends steps (r.readFrame steps) := by
  rw [readFrame, poll.eq_def]
  cases hdecode : Frame.decode r.limit r.buffer with
  | error e => exact .badHeader hdecode
  | ok found =>
    cases found with
    | none => exact absurd hdecode h
    | some found => exact .frame hdecode

/-- **Every call fills the reader for a while, and ends then.** -/
theorem exists_ends (r : FrameReader) (steps : List ReadStep) :
    ∃ r' rest, Fills r steps r' rest ∧ r'.Ends rest (r.readFrame steps) := by
  induction steps generalizing r with
  | nil =>
    refine ⟨r, [], .refl .., ?_⟩
    by_cases hdecode : Frame.decode r.limit r.buffer = .ok none
    · rw [readFrame, poll_nil hdecode]
      exact .ended hdecode
    · exact ends_of_found hdecode []
  | cons step steps ih =>
    by_cases hdecode : Frame.decode r.limit r.buffer = .ok none
    · cases hstep : step.failure? with
      | none =>
        obtain ⟨r', rest, hfills, hends⟩ := ih { r with buffer := r.buffer ++ step.octets }
        have hall : Fills r (step :: steps) r' rest := .read hdecode hstep hfills
        refine ⟨r', rest, hall, ?_⟩
        rwa [hall.readFrame_eq, ← hfills.readFrame_eq]
      | some e =>
        refine ⟨r, step :: steps, .refl .., ?_⟩
        rw [readFrame, poll_cons hdecode, hstep]
        exact .failure hdecode hstep
    · exact ⟨r, step :: steps, .refl .., ends_of_found hdecode (step :: steps)⟩

/-- Reads that give their octets, up to the first with which a header is there. -/
structure BringsHeader (r : FrameReader) (taken : List ReadStep) (header : Frame.Header)
    (more : Bytes) : Prop where
  given : ∀ step ∈ taken, step.failure? = none
  short : ∀ before, before <+: taken → before ≠ taken →
    (r.buffer ++ octetsIn before).length < Frame.headerSize
  octets : r.buffer ++ octetsIn taken = header.write ++ more

variable {header : Frame.Header} {more : Bytes}

/-- **While a header is not there, reads are taken.** -/
theorem BringsHeader.fills {taken : List ReadStep} (h : r.BringsHeader taken header more)
    (rest : List ReadStep) : Fills r (taken ++ rest) ⟨header.write ++ more, r.limit⟩ rest := by
  have hstart : r.buffer ++ octetsIn [] = r.buffer := List.append_nil _
  induction taken generalizing r with
  | nil =>
    rw [← h.octets, hstart]
    exact .refl ..
  | cons step taken ih =>
    obtain ⟨hstep, htaken⟩ := List.forall_mem_cons.mp h.given
    have hnow := h.short [] List.nil_prefix (List.cons_ne_nil step taken).symm
    rw [hstart] at hnow
    have hlacking : Frame.decode r.limit r.buffer = .ok none := by
      rw [Frame.decode, Frame.read_of_short hnow]
    have hlater : BringsHeader { r with buffer := r.buffer ++ step.octets } taken header more := by
      refine ⟨htaken, fun before hbefore hne => ?_, ?_⟩
      · have hshort := h.short (step :: before) (List.cons_prefix_cons.mpr ⟨rfl, hbefore⟩)
          fun heq => hne (List.cons.inj heq).2
        rwa [ReadStep.octetsIn_cons, ← List.append_assoc] at hshort
      · have hoctets := h.octets
        rwa [ReadStep.octetsIn_cons, ← List.append_assoc] at hoctets
    exact .read hlacking hstep (ih hlater (List.append_nil _))

/-- **A header that announces too much ends the call at the moment it is there**, and nothing changes. -/
theorem Fills.tooLarge (h : Fills r steps r' rest) (hbuffer : r'.buffer = header.write ++ more)
    (hlarge : header.Oversize r.limit) :
    r.readFrame steps = (.error (.tooLarge header.length r.limit), r', rest) := by
  have hdecode : Frame.decode r'.limit r'.buffer = .error (.tooLarge header.length r.limit) := by
    rw [h.limit_eq, hbuffer, hlarge.decode_eq]
  rw [h.readFrame_eq, readFrame, poll_of_error hdecode]

/-! ## 4. What is held -/

/-- What a reader holds is bounded by the largest limit so far: all octets but one of the largest frame, and
what one read gives. -/
structure Within (largest : Nat) (r : FrameReader) (steps : List ReadStep) : Prop where
  limit : r.limit ≤ largest
  reads : ∀ step ∈ steps, step.octets.length ≤ ReadStep.size
  held : r.buffer.length ≤ largest + Frame.headerSize - 1 + ReadStep.size

variable {largest : Nat}

/-- **Nothing is read on top of a whole frame**, so that the bound holds at every moment of a call. -/
theorem Fills.within (h : Fills r steps r' rest) (hwithin : Within largest r steps) :
    Within largest r' rest := by
  induction h with
  | refl r steps => exact hwithin
  | @read r r' step steps rest lacking given more ih =>
    obtain ⟨hnow, hlater⟩ := List.forall_mem_cons.mp hwithin.reads
    have hlimit := hwithin.limit
    have hlacking := Frame.length_lt_of_decode_none lacking
    refine ih ⟨hlimit, hlater, ?_⟩
    rw [List.length_append]
    omega

theorem Ends.within {result : Except FrameError Frame × FrameReader × List ReadStep}
    (h : r.Ends steps result) (hwithin : Within largest r steps) :
    Within largest result.2.1 result.2.2 := by
  cases h with
  | frame decoded =>
    have hshorter := Frame.decode_shortens decoded
    exact ⟨hwithin.limit, hwithin.reads, Nat.le_trans (Nat.le_of_lt hshorter) hwithin.held⟩
  | badHeader decoded => exact hwithin
  | failure lacking failed =>
    exact ⟨hwithin.limit, (List.forall_mem_cons.mp hwithin.reads).2, hwithin.held⟩
  | ended lacking => exact hwithin

theorem Within.readFrame (h : Within largest r steps) :
    Within largest (r.readFrame steps).2.1 (r.readFrame steps).2.2 := by
  obtain ⟨r', rest, hfills, hends⟩ := r.exists_ends steps
  exact hends.within (hfills.within h)

/-- Another limit counts from then on, and the largest one is never forgotten. -/
theorem Within.withLimit (h : Within largest r steps) (limit : Nat) :
    Within (max largest limit) (r.withLimit limit) steps := by
  have hheld := h.held
  refine ⟨Nat.le_max_right .., h.reads, Nat.le_trans hheld ?_⟩
  have hlargest := Nat.le_max_left largest limit
  omega

end FrameReader

/-! ## 5. Readers in use -/

/-- What a caller asks of a reader. -/
inductive ReaderCall where
  | readFrame
  | setLimit (limit : Nat)
  deriving DecidableEq, Repr

/-- A reader in use: with the reads that are left, and the largest limit so far. -/
structure ReaderUse where
  reader : FrameReader
  rest : List ReadStep
  largest : Nat
  deriving DecidableEq, Repr

namespace ReaderUse

/-- A reader that nothing was asked of yet. -/
def start (limit : Nat) (script : List ReadStep) : ReaderUse :=
  ⟨⟨[], limit⟩, ReadStep.cut script, limit⟩

/-- One call. -/
def call (u : ReaderUse) : ReaderCall → ReaderUse
  | .readFrame =>
    let (_, reader, rest) := u.reader.readFrame u.rest
    { u with reader := reader, rest := rest }
  | .setLimit limit =>
    { u with reader := u.reader.withLimit limit, largest := max u.largest limit }

/-- A reader after some calls. -/
def run (limit : Nat) (script : List ReadStep) (calls : List ReaderCall) : ReaderUse :=
  calls.foldl call (start limit script)

/-- What the reader holds is bounded. -/
def Within (u : ReaderUse) : Prop := u.reader.Within u.largest u.rest

theorem within_start (limit : Nat) (script : List ReadStep) : (start limit script).Within :=
  ⟨Nat.le_refl limit, ReadStep.length_cut_le script, Nat.zero_le _⟩

theorem Within.call {u : ReaderUse} (h : u.Within) (c : ReaderCall) : (u.call c).Within := by
  cases c with
  | readFrame => exact h.readFrame
  | setLimit limit => exact h.withLimit limit

theorem within_run (limit : Nat) (script : List ReadStep) (calls : List ReaderCall) :
    (run limit script calls).Within := by
  refine List.foldlRecOn calls call (within_start limit script) ?_
  exact fun u hu c _ => hu.call c

end ReaderUse

/-! ## 6. The bound -/

/-- **A peer cannot make a reader hold more than its limit allows**: after any calls, and at every moment of the
next, at most all octets but one of the largest frame that was allowed so far, and what one read gives.  A
header of a known kind that announces more than the limit is refused at the moment it is there, after the read
that completes it and no other. -/
theorem held_within_limit (limit : Nat) (script : List ReadStep) (calls : List ReaderCall) :
    let u := ReaderUse.run limit script calls
    u.reader.buffer.length ≤ u.largest + Frame.headerSize - 1 + ReadStep.size ∧
      (∀ (r : FrameReader) (rest : List ReadStep), u.reader.Fills u.rest r rest →
        r.buffer.length ≤ u.largest + Frame.headerSize - 1 + ReadStep.size ∧
          ∀ (header : Frame.Header) (more : Bytes), r.buffer = header.write ++ more →
            header.Oversize u.reader.limit →
              u.reader.readFrame u.rest =
                (.error (.tooLarge header.length u.reader.limit), r, rest)) ∧
      ∀ (taken rest : List ReadStep) (header : Frame.Header) (more : Bytes),
        u.rest = taken ++ rest → u.reader.BringsHeader taken header more →
          header.Oversize u.reader.limit →
            u.reader.readFrame u.rest = (.error (.tooLarge header.length u.reader.limit),
              ⟨header.write ++ more, u.reader.limit⟩, rest) := by
  intro u
  have hwithin : u.Within := ReaderUse.within_run limit script calls
  refine ⟨hwithin.held, ?_, ?_⟩
  · intro r rest hfills
    exact ⟨(hfills.within hwithin).held, fun header more => hfills.tooLarge⟩
  · intro taken rest header more hplace hbrings hlarge
    rw [hplace]
    exact (hbrings.fills rest).tooLarge rfl hlarge

/-- The octets of a header that announces three, and two of the payload; a deadline; and two octets more. -/
def oversizeInPieces : List ReadStep :=
  [.data [0x53, 0x42, 3, 0, 0], .fault ⟨.interrupted, ""⟩, .data [0, 1, 0, 7, 8], .fault ⟨.timedOut, ""⟩,
    .data [9, 9]]

/-- The frame is refused under a limit of two, by the first call or, if it was awaited under a limit of three
before, by the second, which takes no read. -/
theorem held_within_limit_pieces :
    (ReaderUse.run 3 oversizeInPieces [.readFrame, .setLimit 2]).reader.buffer.length ≤ 3 + 8 - 1 + 65536 ∧
      Frame.Header.Oversize 2 ⟨.message, 3⟩ ∧
      FrameReader.readFrame ⟨[0x53, 0x42, 3, 0, 0, 0, 1, 0, 7, 8], 2⟩ [.data [9, 9]] =
        (.error (.tooLarge 3 2), ⟨[0x53, 0x42, 3, 0, 0, 0, 1, 0, 7, 8], 2⟩, [.data [9, 9]]) ∧
      FrameReader.readFrame ⟨[], 2⟩ oversizeInPieces =
        (.error (.tooLarge 3 2), ⟨[0x53, 0x42, 3, 0, 0, 0, 1, 0, 7, 8], 2⟩, oversizeInPieces.drop 3) := by
  have hlarge : Frame.Header.Oversize 2 ⟨.message, 3⟩ := ⟨by decide, by decide, by decide⟩
  have hbrings : FrameReader.BringsHeader ⟨[], 2⟩ (oversizeInPieces.take 3) ⟨.message, 3⟩ [7, 8] := by
    have hshort : ∀ before ∈ (oversizeInPieces.take 3).inits, before ≠ oversizeInPieces.take 3 →
        ([] ++ octetsIn before).length < Frame.headerSize := by decide
    exact ⟨by decide, fun before hbefore => hshort before ((List.mem_inits ..).mpr hbefore), rfl⟩
  obtain ⟨hheld, hmoments, -⟩ := held_within_limit 3 oversizeInPieces [.readFrame, .setLimit 2]
  obtain ⟨-, -, hfirst⟩ := held_within_limit 2 oversizeInPieces []
  exact ⟨hheld, hlarge, (hmoments _ _ (.refl _ _)).2 ⟨.message, 3⟩ [7, 8] rfl hlarge,
    hfirst (oversizeInPieces.take 3) (oversizeInPieces.drop 3) ⟨.message, 3⟩ [7, 8] rfl hbrings hlarge⟩

end Readout

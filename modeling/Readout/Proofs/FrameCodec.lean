/-
# Frames and their octets

`Frame.encode` and `Frame.decode` are inverse to each other in both directions: what was encoded is
decoded, and what is decoded was encoded.  Hence octets can be read as frames in one way only
(`Frame.Reading`).

* `decode_eq_some_iff` -- a frame is decoded exactly if its octets are in front;
* `decode_of_torn` -- a part of a frame is no frame yet;
* `readAll_append` -- whole frames are read one after another, and then what follows them;
* `eq_of_flatMap_octets` -- octets are cut into frames in one way only;
* `codec_exact` -- all of this, and that a buffer stays as it is where nothing is decoded.
-/
import Readout.Frame.Reader

namespace Readout.Frame

/-! ## 1. Octets -/

/-- The octets of a frame. -/
def octets (f : Frame) : Bytes := (⟨f.kind, f.payload.length⟩ : Header).write ++ f.payload

@[simp] theorem length_octets (f : Frame) : f.octets.length = headerSize + f.payload.length := by
  rw [octets, List.length_append, length_write_header]

theorem octets_ne_nil (f : Frame) : f.octets ≠ [] := by
  intro h
  have hlen := congrArg List.length h
  simp [headerSize] at hlen

theorem encode_eq_ok_iff {f : Frame} {bs : Bytes} :
    f.encode = .ok bs ↔ f.payload.length ≤ maxLength ∧ bs = f.octets := by
  unfold encode
  split
  · rename_i h
    simp only [reduceCtorEq, false_iff]
    omega
  · rename_i h
    constructor
    · intro heq
      exact ⟨Nat.le_of_not_lt h, (Except.ok.inj heq).symm⟩
    · rintro ⟨-, rfl⟩
      rfl

/-- A frame that can be read with a limit on payloads. -/
structure Readable (limit : Nat) (f : Frame) : Prop where
  known : f.kind.isKnown = true
  fits : f.payload.length ≤ limit
  sayable : f.payload.length ≤ maxLength

/-! ## 2. Decoding -/

theorem decode_octets_append {f : Frame} {limit : Nat} (h : Readable limit f) (rest : Bytes) :
    decode limit (f.octets ++ rest) = .ok (some (f, rest)) :=
  decode_encode_append h.known h.fits (encode_eq_ok_iff.mpr ⟨h.sayable, rfl⟩) rest

theorem check_eq_ok {limit : Nat} {mark length kind : Bytes} {h : Header}
    (hcheck : Header.check limit mark length kind = .ok h) :
    mark = [0x53, 0x42] ∧ h = ⟨UInt16.ofNat (Bytes.ofLittleEndian kind), Bytes.ofLittleEndian length⟩ ∧
      h.kind.isKnown = true ∧ h.length ≤ limit := by
  simp only [Header.check] at hcheck
  split at hcheck
  · cases hcheck
  · rename_i hmark
    split at hcheck
    · cases hcheck
    · rename_i hknown
      split at hcheck
      · cases hcheck
      · rename_i hlimit
        obtain rfl := Except.ok.inj hcheck
        exact ⟨Decidable.not_not.mp hmark, rfl, by simpa using hknown, Nat.le_of_not_lt hlimit⟩

/-- What is read as a header was written as one. -/
theorem read_eq_some {limit : Nat} {buffer rest : Bytes} {h : Header}
    (hread : Header.read limit buffer = .ok (some (h, rest))) :
    buffer = h.write ++ rest ∧ h.kind.isKnown = true ∧ h.length ≤ limit ∧ h.length ≤ maxLength := by
  unfold Header.read at hread
  split at hread
  · rename_i m0 m1 l0 l1 l2 l3 k0 k1 tail
    split at hread
    · cases hread
    · rename_i checked hcheck
      cases hread
      obtain ⟨hmark, rfl, hknown, hlimit⟩ := check_eq_ok hcheck
      have hlength := Bytes.littleEndian_ofLittleEndian [l0, l1, l2, l3]
      have hkind := Bytes.littleEndian_ofLittleEndian [k0, k1]
      have hmax := Bytes.ofLittleEndian_lt [l0, l1, l2, l3]
      have hcode := Bytes.ofLittleEndian_lt [k0, k1]
      obtain ⟨rfl, hm⟩ := List.cons.inj hmark
      obtain ⟨rfl, -⟩ := List.cons.inj hm
      have hfour : Nat.pow 256 [l0, l1, l2, l3].length = maxLength + 1 := by
        show Nat.pow 256 4 = maxLength + 1
        decide
      have htwo : Nat.pow 256 [k0, k1].length = UInt16.size := by
        show Nat.pow 256 2 = UInt16.size
        decide
      rw [hfour] at hmax
      rw [htwo] at hcode
      refine ⟨?_, hknown, hlimit, Nat.le_of_lt_succ hmax⟩
      have hnat : (UInt16.ofNat (Bytes.ofLittleEndian [k0, k1])).toNat =
          Bytes.ofLittleEndian [k0, k1] := UInt16.toNat_ofNat_of_lt hcode
      simp only [List.length_cons, List.length_nil] at hlength hkind
      rw [Header.write, hnat, hlength, hkind]
      rfl
  · cases hread

/-- **A frame is decoded exactly if its octets are in front** and it can be read with the limit. -/
theorem decode_eq_some_iff {limit : Nat} {buffer rest : Bytes} {f : Frame} :
    decode limit buffer = .ok (some (f, rest)) ↔ buffer = f.octets ++ rest ∧ Readable limit f := by
  constructor
  · intro h
    unfold decode at h
    split at h
    · cases h
    · cases h
    · rename_i header tail hread
      split at h
      · cases h
      · rename_i henough
        cases h
        obtain ⟨rfl, hknown, hlimit, hmax⟩ := read_eq_some hread
        have hlength : (tail.take header.length).length = header.length := by
          rw [List.length_take]
          omega
        refine ⟨?_, hknown, ?_, ?_⟩
        · rw [octets, hlength, List.append_assoc, List.take_append_drop]
        · rw [hlength]
          exact hlimit
        · rw [hlength]
          exact hmax
  · rintro ⟨rfl, h⟩
    exact decode_octets_append h rest

theorem decode_shortens {limit : Nat} {buffer rest : Bytes} {f : Frame}
    (h : decode limit buffer = .ok (some (f, rest))) : rest.length < buffer.length := by
  obtain ⟨rfl, -⟩ := decode_eq_some_iff.mp h
  have hpos := List.length_pos_iff.mpr f.octets_ne_nil
  rw [List.length_append]
  omega

theorem read_of_short {limit : Nat} {buffer : Bytes} (h : buffer.length < headerSize) :
    Header.read limit buffer = .ok none := by
  unfold Header.read
  split
  · simp only [List.length_cons, headerSize] at h
    omega
  · rfl

theorem length_lt_of_read_none {limit : Nat} {buffer : Bytes}
    (h : Header.read limit buffer = .ok none) : buffer.length < headerSize := by
  rcases buffer with _ | ⟨m0, _ | ⟨m1, _ | ⟨l0, _ | ⟨l1, _ | ⟨l2, _ | ⟨l3, _ | ⟨k0, _ | ⟨k1, rest⟩⟩⟩⟩⟩⟩⟩⟩
  case cons.cons.cons.cons.cons.cons.cons.cons =>
    rw [Header.read] at h
    split at h <;> cases h
  all_goals simp [headerSize]

/-- **A part of a frame is no frame yet.** -/
theorem decode_of_torn {limit : Nat} {f : Frame} {torn more : Bytes} (hf : Readable limit f)
    (h : f.octets = torn ++ more) (hmore : more ≠ []) : decode limit torn = .ok none := by
  have hpos := List.length_pos_iff.mpr hmore
  by_cases hheader : torn.length < headerSize
  · rw [decode, read_of_short hheader]
  · have hwhole : ∃ part, torn = (⟨f.kind, f.payload.length⟩ : Header).write ++ part ∧
        f.payload = part ++ more := by
      rcases List.append_eq_append_iff.mp h with ⟨part, rfl, hpayload⟩ | ⟨part, hwrite, rfl⟩
      · exact ⟨part, rfl, hpayload⟩
      · have hlength := congrArg List.length hwrite
        rw [length_write_header, List.length_append] at hlength
        obtain rfl : part = [] := List.eq_nil_of_length_eq_zero (by omega)
        exact ⟨[], by rw [hwrite, List.append_nil, List.append_nil], rfl⟩
    obtain ⟨part, rfl, hpayload⟩ := hwhole
    have hread := read_write_header (h := ⟨f.kind, f.payload.length⟩) hf.known hf.fits hf.sayable part
    have hshort : part.length < f.payload.length := by
      rw [hpayload, List.length_append]
      omega
    rw [decode, hread]
    simp [hshort]

/-- **No two frames begin the same octets.** -/
theorem eq_of_octets_append {limit : Nat} {f g : Frame} (hf : Readable limit f) (hg : Readable limit g)
    {rest rest' : Bytes} (h : f.octets ++ rest = g.octets ++ rest') : f = g := by
  have hdecode := decode_octets_append hf rest
  rw [h, decode_octets_append hg] at hdecode
  cases hdecode
  rfl

/-- **A bad header stays one**, whatever follows it. -/
theorem decode_append_of_error {limit : Nat} {buffer : Bytes} {e : FrameError}
    (h : decode limit buffer = .error e) (more : Bytes) :
    decode limit (buffer ++ more) = .error e := by
  have hread : Header.read limit buffer = .error e := by
    unfold decode at h
    split at h
    · rename_i hread
      obtain rfl := Except.error.inj h
      exact hread
    · cases h
    · split at h <;> cases h
  have hmore : Header.read limit (buffer ++ more) = .error e := by
    unfold Header.read at hread
    split at hread
    · split at hread
      · rename_i hcheck
        obtain rfl := Except.error.inj hread
        simp only [List.cons_append, Header.read, hcheck]
      · cases hread
    · cases hread
  rw [decode, hmore]

/-! ## 3. Reading a stream -/

/-- What octets are as frames. -/
structure Reading where
  frames : List Frame
  /-- What follows the last frame. -/
  left : Bytes
  /-- Why no frame can follow, if so. -/
  error : Option FrameError
  deriving DecidableEq, Repr

/-- Takes frames off the front, one after another, while there are any. -/
def readAll (limit : Nat) (buffer : Bytes) : Reading :=
  match _h : decode limit buffer with
  | .error e => ⟨[], buffer, some e⟩
  | .ok none => ⟨[], buffer, none⟩
  | .ok (some (f, rest)) =>
    let more := readAll limit rest
    { more with frames := f :: more.frames }
termination_by buffer.length
decreasing_by exact decode_shortens _h

variable {limit : Nat}

theorem readAll_of_error {buffer : Bytes} {e : FrameError} (h : decode limit buffer = .error e) :
    readAll limit buffer = ⟨[], buffer, some e⟩ := by
  rw [readAll]
  split <;> simp_all

theorem readAll_of_none {buffer : Bytes} (h : decode limit buffer = .ok none) :
    readAll limit buffer = ⟨[], buffer, none⟩ := by
  rw [readAll]
  split <;> simp_all

theorem readAll_of_some {buffer rest : Bytes} {f : Frame}
    (h : decode limit buffer = .ok (some (f, rest))) :
    readAll limit buffer =
      { readAll limit rest with frames := f :: (readAll limit rest).frames } := by
  rw [readAll]
  split <;> simp_all

/-- **Whole frames are read one after another, and then what follows them.** -/
theorem readAll_append {frames : List Frame} (h : ∀ f ∈ frames, Readable limit f) (rest : Bytes) :
    readAll limit (frames.flatMap octets ++ rest) =
      { readAll limit rest with frames := frames ++ (readAll limit rest).frames } := by
  induction frames with
  | nil => rfl
  | cons f frames ih =>
    have hmore := ih fun g hg => h g (List.mem_cons_of_mem _ hg)
    rw [List.flatMap_cons, List.append_assoc,
      readAll_of_some (decode_octets_append (h f List.mem_cons_self) _), hmore]
    rfl

/-- **Octets are the frames that are read in them**, and what is left. -/
theorem octets_of_readAll (buffer : Bytes) :
    buffer = (readAll limit buffer).frames.flatMap octets ++ (readAll limit buffer).left ∧
      (∀ f ∈ (readAll limit buffer).frames, Readable limit f) ∧
      ((readAll limit buffer).error = none →
        decode limit (readAll limit buffer).left = .ok none) := by
  fun_induction readAll limit buffer with
  | case1 buffer e h => exact ⟨rfl, fun _ hf => absurd hf List.not_mem_nil, fun hnone => nomatch hnone⟩
  | case2 buffer h => exact ⟨rfl, fun _ hf => absurd hf List.not_mem_nil, fun _ => h⟩
  | case3 buffer f rest h more ih =>
    obtain ⟨hrest, hreadable, hleft⟩ := ih
    obtain ⟨hbuffer, hf⟩ := decode_eq_some_iff.mp h
    refine ⟨?_, ?_, hleft⟩
    · rw [hbuffer, List.flatMap_cons, List.append_assoc]
      exact congrArg (f.octets ++ ·) hrest
    · intro g hg
      rcases List.mem_cons.mp hg with rfl | hg
      · exact hf
      · exact hreadable g hg

/-! ## 4. The codec is exact -/

theorem Header.eq_of_write {h g : Header} (hh : h.length ≤ maxLength) (hg : g.length ≤ maxLength)
    (heq : h.write = g.write) : h = g := by
  have hmax : maxLength < Nat.pow 256 4 := by decide
  have hfields : Bytes.littleEndian 4 h.length ++ Bytes.littleEndian 2 h.kind.toNat =
      Bytes.littleEndian 4 g.length ++ Bytes.littleEndian 2 g.kind.toNat :=
    (List.cons.inj (List.cons.inj heq).2).2
  obtain ⟨hlengths, hkinds⟩ := List.append_inj hfields (by simp only [Bytes.length_littleEndian])
  have hlength : h.length = g.length := by
    rw [← Bytes.ofLittleEndian_littleEndian (Nat.lt_of_le_of_lt hh hmax), hlengths,
      Bytes.ofLittleEndian_littleEndian (Nat.lt_of_le_of_lt hg hmax)]
  have hkind : h.kind.toNat = g.kind.toNat := by
    have hread {k : FrameKind} : Bytes.ofLittleEndian (Bytes.littleEndian 2 k.toNat) = k.toNat :=
      Bytes.ofLittleEndian_littleEndian k.toNat_lt
    rw [← hread, hkinds, hread]
  obtain ⟨kind, length⟩ := h
  obtain rfl := UInt16.toNat_inj.mp hkind
  obtain rfl := hlength
  rfl

/-- **Where the octets of two frames begin the same way, the frames are one**, also if the kind is not
known or the payload above the limit. -/
theorem octets_append_inj {f g : Frame} (hf : f.payload.length ≤ maxLength)
    (hg : g.payload.length ≤ maxLength) {rest rest' : Bytes}
    (h : f.octets ++ rest = g.octets ++ rest') : f = g ∧ rest = rest' := by
  rw [octets, octets, List.append_assoc, List.append_assoc] at h
  obtain ⟨hwrite, hbody⟩ := List.append_inj h (by rw [length_write_header, length_write_header])
  have hheader := Header.eq_of_write hf hg hwrite
  obtain ⟨hkind, hlength⟩ := Header.mk.inj hheader
  obtain ⟨hpayload, hrest⟩ := List.append_inj hbody hlength
  obtain ⟨kind, payload⟩ := f
  obtain rfl := hkind
  obtain rfl := hpayload
  exact ⟨rfl, hrest⟩

/-- **Octets are cut into frames in one way only.** -/
theorem eq_of_flatMap_octets {frames others : List Frame}
    (hframes : ∀ f ∈ frames, f.payload.length ≤ maxLength)
    (hothers : ∀ g ∈ others, g.payload.length ≤ maxLength)
    (h : frames.flatMap octets = others.flatMap octets) : frames = others := by
  induction frames generalizing others with
  | nil =>
    cases others with
    | nil => rfl
    | cons g others => exact absurd (List.append_eq_nil_iff.mp h.symm).1 g.octets_ne_nil
  | cons f frames ih =>
    obtain ⟨hf, hframes⟩ := List.forall_mem_cons.mp hframes
    cases others with
    | nil => exact absurd (List.append_eq_nil_iff.mp h).1 f.octets_ne_nil
    | cons g others =>
      obtain ⟨hg, hmost⟩ := List.forall_mem_cons.mp hothers
      rw [List.flatMap_cons, List.flatMap_cons] at h
      obtain ⟨rfl, hmore⟩ := octets_append_inj hf hg h
      rw [ih hframes hmost hmore]

end Readout.Frame

namespace Readout

/-- A bad header is reported before any read, and stays in the buffer. -/
theorem FrameReader.poll_of_error {r : FrameReader} {e : FrameError}
    (h : Frame.decode r.limit r.buffer = .error e) (steps : List ReadStep) :
    r.poll steps = .done (.error e) r steps := by
  rw [poll.eq_def, h]

/-- A buffer that holds no whole frame stays as it is until octets come. -/
theorem FrameReader.poll_nil {r : FrameReader} (h : Frame.decode r.limit r.buffer = .ok none) :
    r.poll [] = .waiting r := by
  rw [poll.eq_def, h]

namespace Frame

/-- **The codec is exact.**  A frame of a known kind whose payload the limit and the length field admit is
encoded, taken off the front of its octets whatever follows them, and of no part of them is anything
taken.  What is decoded was encoded so; where nothing is decoded, the buffer stays as it is.  Hence the
octets of frames are read as these frames and are those of no others. -/
theorem codec_exact (limit : Nat) :
    (∀ f : Frame, f.kind.isKnown = true → f.payload.length ≤ min limit maxLength →
      ∃ bs, f.encode = .ok bs ∧ (∀ rest, decode limit (bs ++ rest) = .ok (some (f, rest))) ∧
        ∀ torn, torn <+: bs → torn ≠ bs → decode limit torn = .ok none) ∧
    (∀ (buffer rest : Bytes) (f : Frame), decode limit buffer = .ok (some (f, rest)) →
      f.kind.isKnown = true ∧ f.payload.length ≤ limit ∧
        ∃ bs, f.encode = .ok bs ∧ buffer = bs ++ rest) ∧
    (∀ buffer : Bytes, decode limit buffer = .ok none →
      FrameReader.poll ⟨buffer, limit⟩ [] = .waiting ⟨buffer, limit⟩) ∧
    (∀ (buffer : Bytes) (e : FrameError) (steps : List ReadStep), decode limit buffer = .error e →
      FrameReader.poll ⟨buffer, limit⟩ steps = .done (.error e) ⟨buffer, limit⟩ steps) ∧
    ∀ frames : List Frame,
      (∀ f ∈ frames, f.kind.isKnown = true ∧ f.payload.length ≤ min limit maxLength) →
        readAll limit (frames.flatMap octets) = ⟨frames, [], none⟩ ∧
          ∀ others : List Frame, (∀ g ∈ others, g.payload.length ≤ maxLength) →
            others.flatMap octets = frames.flatMap octets → others = frames := by
  have hreadable {f : Frame} (hknown : f.kind.isKnown = true)
      (hlength : f.payload.length ≤ min limit maxLength) : Readable limit f :=
    ⟨hknown, (Nat.le_min.mp hlength).1, (Nat.le_min.mp hlength).2⟩
  refine ⟨?_, ?_, ?_, ?_, ?_⟩
  · intro f hknown hlength
    have hf := hreadable hknown hlength
    refine ⟨f.octets, encode_eq_ok_iff.mpr ⟨hf.sayable, rfl⟩, decode_octets_append hf, ?_⟩
    rintro torn ⟨more, hmore⟩ htorn
    refine decode_of_torn hf hmore.symm ?_
    rintro rfl
    exact htorn (by rw [← hmore, List.append_nil])
  · intro buffer rest f h
    obtain ⟨hbuffer, hf⟩ := decode_eq_some_iff.mp h
    exact ⟨hf.known, hf.fits, f.octets, encode_eq_ok_iff.mpr ⟨hf.sayable, rfl⟩, hbuffer⟩
  · intro buffer h
    exact FrameReader.poll_nil h
  · intro buffer e steps h
    exact FrameReader.poll_of_error h steps
  · intro frames hframes
    have hall : ∀ f ∈ frames, Readable limit f := fun f hf =>
      hreadable (hframes f hf).1 (hframes f hf).2
    constructor
    · have hread := readAll_append hall []
      rw [List.append_nil, readAll_of_none (by rfl : decode limit [] = .ok none)] at hread
      rw [hread, List.append_nil]
    · intro others hothers h
      exact eq_of_flatMap_octets hothers (fun f hf => (hall f hf).sayable) h

/-- A message between other octets, a part of it, a bad mark, and two frames with nothing around them. -/
theorem codec_exact_message :
    (∃ bs, encode ⟨.message, [7, 8]⟩ = .ok bs ∧
      (∀ rest, decode 16 (bs ++ rest) = .ok (some (⟨.message, [7, 8]⟩, rest))) ∧
        ∀ torn, torn <+: bs → torn ≠ bs → decode 16 torn = .ok none) ∧
      (FrameKind.isKnown .message = true ∧ [7, 8].length ≤ 16 ∧
        ∃ bs, encode ⟨.message, [7, 8]⟩ = .ok bs ∧
          [0x53, 0x42, 2, 0, 0, 0, 1, 0, 7, 8, 0x53] = bs ++ [0x53]) ∧
      FrameReader.poll ⟨[0x53, 0x42, 2], 16⟩ [] = .waiting ⟨[0x53, 0x42, 2], 16⟩ ∧
      FrameReader.poll ⟨[0, 0x42, 2, 0, 0, 0, 1, 0], 16⟩ [.data [7]] =
        .done (.error .badMark) ⟨[0, 0x42, 2, 0, 0, 0, 1, 0], 16⟩ [.data [7]] ∧
      readAll 16 ([⟨.message, [7]⟩, ⟨.goodbye, []⟩].flatMap octets) =
        ⟨[⟨.message, [7]⟩, ⟨.goodbye, []⟩], [], none⟩ ∧
      ([⟨1, [7]⟩, ⟨2, []⟩] : List Frame) = [⟨.message, [7]⟩, ⟨.goodbye, []⟩] := by
  obtain ⟨hencode, hdecode, hnone, herror, hframes⟩ := codec_exact 16
  obtain ⟨hread, hunique⟩ := hframes [⟨.message, [7]⟩, ⟨.goodbye, []⟩] (by decide)
  exact ⟨hencode ⟨.message, [7, 8]⟩ (by decide) (by decide),
    hdecode [0x53, 0x42, 2, 0, 0, 0, 1, 0, 7, 8, 0x53] [0x53] ⟨.message, [7, 8]⟩ (by rfl),
    hnone [0x53, 0x42, 2] (by rfl),
    herror [0, 0x42, 2, 0, 0, 0, 1, 0] .badMark [.data [7]] (by rfl), hread,
    hunique [⟨1, [7]⟩, ⟨2, []⟩] (by decide) rfl⟩

end Frame

end Readout

/-
# However a stream is cut, the same frames are read

A connection gives its octets in reads of one octet to 64 KiB, and between any two of them a read may
be interrupted or meet its deadline.  A caller asks a reader for frame after frame, and asks again
after each deadline, until another error comes (`FrameReader.session`).

What the reader holds together with what the reads still give (`FrameReader.ahead`) changes by whole
frames only: a call takes one off the front, or leaves all octets where they are
(`FrameReader.called`).  So the reads are forgotten by an induction over the calls, and a session gives
what decoding gives that is applied to the whole stream again and again (`Frame.readAll`).

* `FrameReader.session_reads_all` -- a session gives the frames of all that is ahead and the error
  behind them, and leaves the octets that are no frame;
* `segmentation_irrelevant` -- two ways of cutting a stream give the same, and what each call keeps.
-/
import Readout.Proofs.Inflow

namespace Readout

/-! ## 1. Streams in pieces -/

namespace ReadStep

/-- A read behind which a connection is still of use: some octets, not too many, or a failure that the
reader or its caller meets by reading again. -/
def Passing : ReadStep → Prop
  | data octets => 1 ≤ octets.length ∧ octets.length ≤ size
  | fault source => source.kind = .interrupted ∨ source.isTimeout = true

instance : DecidablePred Passing
  | data _ => inferInstanceAs (Decidable (_ ∧ _))
  | fault _ => inferInstanceAs (Decidable (_ ∨ _))

/-- Where such a read fails, its deadline has passed. -/
theorem Passing.isTimeout {step : ReadStep} (h : step.Passing) {e : FrameError}
    (hfailed : step.failure? = some e) : e.isTimeout = true := by
  cases step with
  | data octets =>
    cases octets with
    | nil => exact absurd h.1 (by decide)
    | cons octet octets => cases hfailed
  | fault source =>
    rw [failure?] at hfailed
    split at hfailed
    · cases hfailed
    · rename_i hkind
      obtain rfl := Option.some.inj hfailed
      exact h.resolve_left hkind

/-- A read fails with what the connection reports, but for an interruption, or because it has ended. -/
theorem eq_of_failure {step : ReadStep} {e : FrameError} (h : step.failure? = some e) :
    e = .closed ∨ ∃ source, step = .fault source ∧ e = .io source ∧ source.kind ≠ .interrupted := by
  cases step with
  | data octets =>
    cases octets with
    | nil => exact .inl (Option.some.inj h).symm
    | cons octet octets => cases h
  | fault source =>
    rw [failure?] at h
    split at h
    · cases h
    · rename_i hkind
      exact .inr ⟨source, rfl, (Option.some.inj h).symm, hkind⟩

/-- Reads that give a stream piece by piece, with failures between the pieces. -/
structure Segments (stream : Bytes) (steps : List ReadStep) : Prop where
  passing : ∀ step ∈ steps, step.Passing
  octets : octetsIn steps = stream

end ReadStep

open ReadStep (octetsIn)

/-! ## 2. Bad headers -/

/-- Whether an error is about the header of a frame. -/
def FrameError.isBadHeader : FrameError → Bool
  | badMark => true
  | unknownKind _ => true
  | tooLarge _ _ => true
  | io _ => false
  | closed => false

theorem FrameError.isTimeout_of_isBadHeader {e : FrameError} (h : e.isBadHeader = true) :
    e.isTimeout = false := by
  cases e with
  | io source => cases h
  | _ => rfl

namespace Frame

theorem isBadHeader_of_check {limit : Nat} {mark length kind : Bytes} {e : FrameError}
    (h : Header.check limit mark length kind = .error e) : e.isBadHeader = true := by
  simp only [Header.check] at h
  split at h
  · obtain rfl := Except.error.inj h
    rfl
  · split at h
    · obtain rfl := Except.error.inj h
      rfl
    · split at h
      · obtain rfl := Except.error.inj h
        rfl
      · cases h

/-- Decoding fails over the header only. -/
theorem isBadHeader_of_decode {limit : Nat} {buffer : Bytes} {e : FrameError}
    (h : decode limit buffer = .error e) : e.isBadHeader = true := by
  unfold decode at h
  split at h
  · rename_i hread
    obtain rfl := Except.error.inj h
    unfold Header.read at hread
    split at hread
    · split at hread
      · rename_i hcheck
        obtain rfl := Except.error.inj hread
        exact isBadHeader_of_check hcheck
      · cases hread
    · cases hread
  · cases h
  · split at h <;> cases h

end Frame

/-! ## 3. One call -/

namespace FrameReader

/-- The octets that a reader holds, and those that reads still give. -/
def ahead (r : FrameReader) (steps : List ReadStep) : Bytes := r.buffer ++ octetsIn steps

/-- What asking for one frame comes to: the result, the reader afterwards, and the reads that are left. -/
inductive Called (r : FrameReader) (steps : List ReadStep) :
    Except FrameError Frame × FrameReader × List ReadStep → Prop
  /-- The frame at the front is taken off. -/
  | frame {f : Frame} {buffer : Bytes} {rest : List ReadStep} (readable : f.Readable r.limit)
      (octets : r.ahead steps = f.octets ++ ahead ⟨buffer, r.limit⟩ rest) (suffix : rest <:+ steps) :
      Called r steps (.ok f, ⟨buffer, r.limit⟩, rest)
  /-- A bad header is at the front. -/
  | badHeader {e : FrameError} {buffer : Bytes} {rest : List ReadStep}
      (decoded : Frame.decode r.limit buffer = .error e)
      (octets : r.ahead steps = ahead ⟨buffer, r.limit⟩ rest) :
      Called r steps (.error e, ⟨buffer, r.limit⟩, rest)
  /-- A read fails; the octets of those before it are kept. -/
  | failure {e : FrameError} (taken : List ReadStep) (last : ReadStep) (rest : List ReadStep)
      (place : steps = taken ++ last :: rest) (safe : ∀ step ∈ taken, step.failure? = none)
      (failed : last.failure? = some e) :
      Called r steps (.error e, ⟨r.buffer ++ octetsIn taken, r.limit⟩, rest)
  /-- The connection ends before a frame is whole. -/
  | ended (decoded : Frame.decode r.limit (r.ahead steps) = .ok none) :
      Called r steps (.error .closed, ⟨r.ahead steps, r.limit⟩, [])

theorem called (r : FrameReader) (steps : List ReadStep) : r.Called steps (r.readFrame steps) := by
  have hpolled := r.polled steps
  unfold readFrame
  generalize r.poll steps = outcome at hpolled
  cases hpolled with
  | @frame f r' taken rest place safe readable limit octets =>
    obtain ⟨buffer, most⟩ := r'
    obtain rfl : most = r.limit := limit
    refine .frame readable ?_ ⟨taken, place.symm⟩
    rw [ahead, place, ReadStep.octetsIn_append, ← List.append_assoc, octets, List.append_assoc]
    rfl
  | badHeader taken rest place safe after decoded =>
    subst after
    refine .badHeader decoded ?_
    rw [ahead, place, ReadStep.octetsIn_append, ← List.append_assoc]
    rfl
  | failure taken last rest place safe after decoded failed =>
    subst after
    exact .failure taken last rest place safe failed
  | waiting safe after decoded =>
    subst after
    exact .ended decoded

theorem called_of_eq {r : FrameReader} {steps : List ReadStep}
    {result : Except FrameError Frame × FrameReader × List ReadStep} (h : r.readFrame steps = result) :
    r.Called steps result := h ▸ r.called steps

/-- A read that fails leaves all octets where they are. -/
theorem ahead_of_failure (r : FrameReader) {taken rest : List ReadStep} {last : ReadStep}
    {e : FrameError} (failed : last.failure? = some e) :
    ahead ⟨r.buffer ++ octetsIn taken, r.limit⟩ rest = r.ahead (taken ++ last :: rest) := by
  simp only [ahead, ReadStep.octetsIn_append, ReadStep.octetsIn_cons,
    ReadStep.octets_of_failure failed, List.nil_append, List.append_assoc]

variable {r r' : FrameReader} {steps rest : List ReadStep} {e : FrameError} {f : Frame}

/-- After a frame, less is ahead. -/
theorem shortens_of_frame (h : r.readFrame steps = (.ok f, r', rest)) :
    (r'.ahead rest).length + rest.length < (r.ahead steps).length + steps.length := by
  cases called_of_eq h with
  | frame readable octets suffix =>
    have hpos := List.length_pos_iff.mpr f.octets_ne_nil
    have hrest := suffix.length_le
    rw [octets, List.length_append]
    omega

/-- A deadline that passes leaves all octets where they are, and uses up a read at least. -/
theorem kept_of_timeout (h : r.readFrame steps = (.error e, r', rest)) (htimeout : e.isTimeout = true) :
    r'.limit = r.limit ∧ r'.ahead rest = r.ahead steps ∧ rest <:+ steps ∧
      rest.length < steps.length := by
  cases called_of_eq h with
  | badHeader decoded octets =>
    have hno := FrameError.isTimeout_of_isBadHeader (Frame.isBadHeader_of_decode decoded)
    rw [hno] at htimeout
    cases htimeout
  | failure taken last rest place safe failed =>
    subst place
    refine ⟨rfl, ahead_of_failure r failed, ⟨taken ++ [last], by simp⟩, ?_⟩
    simp only [List.length_append, List.length_cons]
    omega
  | ended decoded => cases htimeout

/-- **A fault of the connection is none of those that are met by reading again**, and the reader keeps
what the reads before it gave. -/
theorem buffer_of_fault {source : Fault} (h : r.readFrame steps = (.error (.io source), r', rest)) :
    source.kind ≠ .interrupted ∧ r'.ahead rest = r.ahead steps ∧ ∃ taken : List ReadStep,
      steps = taken ++ .fault source :: rest ∧ (∀ step ∈ taken, step.failure? = none) ∧
        r' = { r with buffer := r.buffer ++ octetsIn taken } := by
  cases called_of_eq h with
  | badHeader decoded octets => cases Frame.isBadHeader_of_decode decoded
  | failure taken last rest place safe failed =>
    rcases ReadStep.eq_of_failure failed with hclosed | ⟨other, rfl, hfault, hkind⟩
    · cases hclosed
    · obtain rfl := FrameError.io.inj hfault
      subst place
      exact ⟨hkind, ahead_of_failure r failed, taken, rfl, safe, rfl⟩

/-- **After a bad header, every call reports it again**, takes no read, and changes nothing. -/
theorem again_of_badHeader (h : r.readFrame steps = (.error e, r', rest))
    (hbad : e.isBadHeader = true) (more : List ReadStep) :
    r'.readFrame more = (.error e, r', more) := by
  cases called_of_eq h with
  | badHeader decoded octets => rw [readFrame, poll_of_error decoded]
  | failure taken last rest place safe failed =>
    rcases ReadStep.eq_of_failure failed with rfl | ⟨source, -, rfl, -⟩ <;> cases hbad
  | ended decoded => cases hbad

end FrameReader

/-! ## 4. Sessions -/

/-- What a caller gets from a reader in the end. -/
structure Session where
  frames : List Frame
  /-- The first error that is no deadline. -/
  error : FrameError
  reader : FrameReader
  /-- The reads that are left. -/
  rest : List ReadStep
  deriving DecidableEq, Repr

namespace FrameReader

/-- Asks for frame after frame, and again after each deadline, until another error comes. -/
def session (r : FrameReader) (steps : List ReadStep) : Session :=
  match _h : r.readFrame steps with
  | (.ok f, r', rest) =>
    let more := session r' rest
    { more with frames := f :: more.frames }
  | (.error e, r', rest) =>
    if _ht : e.isTimeout = true then session r' rest else ⟨[], e, r', rest⟩
termination_by (r.ahead steps).length + steps.length
decreasing_by
  · exact shortens_of_frame _h
  · obtain ⟨-, hahead, -, hrest⟩ := kept_of_timeout _h _ht
    rw [hahead]
    omega

/-- **A session gives the frames of all that is ahead and the error behind them**, the end of the
connection where there is none, and leaves the octets that are no frame. -/
theorem session_reads_all (r : FrameReader) (steps : List ReadStep)
    (h : ∀ step ∈ steps, step.Passing) :
    (r.session steps).frames = (Frame.readAll r.limit (r.ahead steps)).frames ∧
      (r.session steps).error = (Frame.readAll r.limit (r.ahead steps)).error.getD .closed ∧
      (r.session steps).reader.ahead (r.session steps).rest =
        (Frame.readAll r.limit (r.ahead steps)).left := by
  -- Over the calls, not over the reads: only what is ahead counts, and a deadline leaves it as it is.
  fun_induction session r steps with
  | case1 r steps f r' rest hread more ih =>
    cases called_of_eq hread with
    | @frame _ buffer _ readable octets suffix =>
      obtain ⟨hframes, herror, hleft⟩ := ih fun step hstep => h step (suffix.subset hstep)
      have hdecode := Frame.decode_octets_append readable (ahead ⟨buffer, r.limit⟩ rest)
      rw [octets, Frame.readAll_of_some hdecode]
      exact ⟨congrArg (f :: ·) hframes, herror, hleft⟩
  | case2 r steps e r' rest hread htimeout ih =>
    obtain ⟨hlimit, hahead, hsuffix, -⟩ := kept_of_timeout hread htimeout
    rw [hlimit, hahead] at ih
    exact ih fun step hstep => h step (hsuffix.subset hstep)
  | case3 r steps e r' rest hread htimeout =>
    cases called_of_eq hread with
    | @badHeader _ buffer _ decoded octets =>
      have hmore : Frame.decode r.limit (r.ahead steps) = .error e := by
        rw [octets]
        exact Frame.decode_append_of_error decoded (octetsIn rest)
      rw [Frame.readAll_of_error hmore]
      exact ⟨rfl, rfl, octets.symm⟩
    | failure taken last rest place safe failed =>
      -- A passing read fails with a deadline only, and a session goes on after that.
      subst place
      have hlast := h last (List.mem_append_right taken List.mem_cons_self)
      exact absurd (hlast.isTimeout failed) htimeout
    | ended decoded =>
      rw [Frame.readAll_of_none decoded]
      exact ⟨rfl, rfl, by simp [ahead, octetsIn]⟩

/-- A session ends with the result of a call. -/
theorem session_last (r : FrameReader) (steps : List ReadStep) :
    (r.session steps).error.isTimeout = false ∧
      ∃ (last : FrameReader) (before : List ReadStep), before <:+ steps ∧ last.readFrame before =
        (.error (r.session steps).error, (r.session steps).reader, (r.session steps).rest) := by
  fun_induction session r steps with
  | case1 r steps f r' rest hread more ih =>
    cases called_of_eq hread with
    | frame readable octets suffix =>
      obtain ⟨htimeout, last, before, hbefore, hlast⟩ := ih
      exact ⟨htimeout, last, before, hbefore.trans suffix, hlast⟩
  | case2 r steps e r' rest hread htimeout ih =>
    obtain ⟨-, -, hsuffix, -⟩ := kept_of_timeout hread htimeout
    obtain ⟨hno, last, before, hbefore, hlast⟩ := ih
    exact ⟨hno, last, before, hbefore.trans hsuffix, hlast⟩
  | case3 r steps e r' rest hread htimeout =>
    exact ⟨Bool.eq_false_iff.mpr htimeout, r, steps, List.suffix_rfl, hread⟩

/-- A session ends with a bad header, or at the end of the connection when all reads are used up. -/
theorem session_ends (r : FrameReader) {steps : List ReadStep} (h : ∀ step ∈ steps, step.Passing) :
    (r.session steps).error.isBadHeader = true ∨
      (r.session steps).error = .closed ∧ (r.session steps).rest = [] := by
  obtain ⟨htimeout, last, before, hbefore, hlast⟩ := r.session_last steps
  have hcalled := called_of_eq hlast
  generalize r.session steps = s at htimeout hcalled
  obtain ⟨frames, error, reader, rest⟩ := s
  cases hcalled with
  | badHeader decoded octets => exact .inl (Frame.isBadHeader_of_decode decoded)
  | failure taken step rest place safe failed =>
    subst place
    have hstep := h step (hbefore.subset (List.mem_append_right taken List.mem_cons_self))
    rw [hstep.isTimeout failed] at htimeout
    cases htimeout
  | ended decoded => exact .inr ⟨rfl, rfl⟩

end FrameReader

/-- **However a stream is cut, the same frames are read**, and the same error behind them: those that
decoding gives that is applied to the whole stream again and again.  No octet is lost on the way or read
twice; no call reports an interruption; a call that a fault ends keeps all that was read before; and a
bad header is reported again by every further call, which changes nothing. -/
theorem segmentation_irrelevant (limit : Nat) {stream : Bytes} {first second : List ReadStep}
    (hfirst : ReadStep.Segments stream first) (hsecond : ReadStep.Segments stream second) :
    ((FrameReader.session ⟨[], limit⟩ first).frames =
        (FrameReader.session ⟨[], limit⟩ second).frames ∧
      (FrameReader.session ⟨[], limit⟩ first).error =
        (FrameReader.session ⟨[], limit⟩ second).error) ∧
    ((FrameReader.session ⟨[], limit⟩ first).frames = (Frame.readAll limit stream).frames ∧
      (FrameReader.session ⟨[], limit⟩ first).error =
        (Frame.readAll limit stream).error.getD .closed ∧
      FrameReader.ahead (FrameReader.session ⟨[], limit⟩ first).reader
        (FrameReader.session ⟨[], limit⟩ first).rest = (Frame.readAll limit stream).left) ∧
    ((FrameReader.session ⟨[], limit⟩ first).error.isBadHeader = true ∨
      (FrameReader.session ⟨[], limit⟩ first).error = .closed ∧
        (FrameReader.session ⟨[], limit⟩ first).rest = []) ∧
    (∀ (r r' : FrameReader) (steps rest : List ReadStep) (source : Fault),
      r.readFrame steps = (.error (.io source), r', rest) →
        source.kind ≠ .interrupted ∧ r'.ahead rest = r.ahead steps ∧
          ∃ taken : List ReadStep, steps = taken ++ .fault source :: rest ∧
            (∀ step ∈ taken, step.failure? = none) ∧
              r' = { r with buffer := r.buffer ++ octetsIn taken }) ∧
    ∀ (r r' : FrameReader) (steps rest : List ReadStep) (e : FrameError),
      r.readFrame steps = (.error e, r', rest) → e.isBadHeader = true →
        ∀ more, r'.readFrame more = (.error e, r', more) := by
  have hreads {steps : List ReadStep} (h : ReadStep.Segments stream steps) :=
    FrameReader.session_reads_all ⟨[], limit⟩ steps h.passing
  have hahead {steps : List ReadStep} (h : ReadStep.Segments stream steps) :
      FrameReader.ahead ⟨[], limit⟩ steps = stream := h.octets
  obtain ⟨hframes, herror, hleft⟩ := hreads hfirst
  obtain ⟨hframes', herror', -⟩ := hreads hsecond
  rw [hahead hfirst] at hframes herror hleft
  rw [hahead hsecond] at hframes' herror'
  refine ⟨⟨hframes.trans hframes'.symm, herror.trans herror'.symm⟩, ⟨hframes, herror, hleft⟩,
    FrameReader.session_ends ⟨[], limit⟩ hfirst.passing, ?_, ?_⟩
  · intro r r' steps rest source h
    exact FrameReader.buffer_of_fault h
  · intro r r' steps rest e h hbad more
    exact FrameReader.again_of_badHeader h hbad more

/-- A message, a farewell, and octets that begin no frame. -/
def endingBadly : Bytes :=
  [0x53, 0x42, 1, 0, 0, 0, 1, 0, 7, 0x53, 0x42, 0, 0, 0, 0, 2, 0, 0x53, 0x53, 0, 0, 0, 0, 1, 0, 9]

/-- The same octets in pieces, with failures between them. -/
def endingBadlyInPieces : List ReadStep :=
  [.fault ⟨.interrupted, ""⟩, .data [0x53, 0x42, 1], .fault ⟨.wouldBlock, ""⟩,
    .fault ⟨.timedOut, ""⟩, .data [0, 0, 0, 1, 0, 7, 0x53], .fault ⟨.timedOut, ""⟩,
    .data [0x42, 0, 0, 0, 0, 2, 0, 0x53, 0x53, 0, 0, 0, 0, 1], .fault ⟨.interrupted, ""⟩,
    .data [0, 9]]

/-- Two frames and a bad mark, at once and in pieces; a deadline inside a header; and a bad header that
is met twice. -/
theorem segmentation_irrelevant_ending_badly :
    (FrameReader.session ⟨[], 16⟩ [.data endingBadly]).frames =
        (FrameReader.session ⟨[], 16⟩ endingBadlyInPieces).frames ∧
      (FrameReader.session ⟨[], 16⟩ [.data endingBadly]).frames =
        (Frame.readAll 16 endingBadly).frames ∧
      FrameReader.ahead ⟨[0x53], 16⟩ [] =
        FrameReader.ahead ⟨[], 16⟩ [.data [0x53], .fault ⟨.timedOut, ""⟩] ∧
      FrameReader.readFrame ⟨[0x53, 0x53, 0, 0, 0, 0, 1, 0], 16⟩ [.data [9]] =
        (.error .badMark, ⟨[0x53, 0x53, 0, 0, 0, 0, 1, 0], 16⟩, [.data [9]]) := by
  have hwhole : ReadStep.Segments endingBadly [.data endingBadly] := ⟨by decide, rfl⟩
  have hpieces : ReadStep.Segments endingBadly endingBadlyInPieces := ⟨by decide, rfl⟩
  obtain ⟨⟨hsame, -⟩, ⟨hall, -⟩, -, hfault, hbad⟩ := segmentation_irrelevant 16 hwhole hpieces
  have hlate := hfault ⟨[], 16⟩ ⟨[0x53], 16⟩ [.data [0x53], .fault ⟨.timedOut, ""⟩] []
    ⟨.timedOut, ""⟩ (by rfl)
  exact ⟨hsame, hall, hlate.2.1,
    hbad ⟨[], 16⟩ _ [.data [0x53, 0x53, 0, 0, 0, 0, 1, 0]] [] .badMark (by rfl) rfl [.data [9]]⟩

end Readout

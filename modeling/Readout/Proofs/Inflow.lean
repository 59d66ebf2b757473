/-
# What a connection is still to give

Reads cut the octets of a connection anywhere; an interrupted read gives nothing, and the end of the
connection or a fault is behind all octets that were read before it.  `Connection.inflow` is what is
left when the cuts are forgotten: the octets that are still to come, those in the reader's buffer first,
and the error after them.

* `Connection.received` -- the next frame is the one at the front of the inflow, an error is the one
  behind it, and there is nothing else;
* `Connection.receive?_of_frame` -- a frame at the front is received, however it is cut;
* `Connection.inflow_arrive` -- octets that arrive come after those that are there.
-/
import Readout.Link.Connection
import Readout.Proofs.FrameCodec

namespace Readout

/-! ## 1. Reads -/

namespace ReadStep

/-- The error that a read ends with, if it gives no octets and is not repeated. -/
def failure? : ReadStep → Option FrameError
  | data [] => some .closed
  | data _ => none
  | fault source => if source.kind = .interrupted then none else some (.io source)

/-- The octets that a read gives. -/
def octets : ReadStep → Bytes
  | data octets => octets
  | fault _ => []

/-- A read that fails gives no octets. -/
theorem octets_of_failure {step : ReadStep} {e : FrameError} (h : step.failure? = some e) :
    step.octets = [] := by
  cases step with
  | fault source => rfl
  | data octets =>
    cases octets with
    | nil => rfl
    | cons octet octets => cases h

/-- The octets that reads give, however they are cut. -/
def octetsIn (steps : List ReadStep) : Bytes := steps.flatMap octets

@[simp] theorem octetsIn_append (first second : List ReadStep) :
    octetsIn (first ++ second) = octetsIn first ++ octetsIn second := List.flatMap_append

@[simp] theorem octetsIn_cons (step : ReadStep) (steps : List ReadStep) :
    octetsIn (step :: steps) = step.octets ++ octetsIn steps := List.flatMap_cons

end ReadStep

open ReadStep (octetsIn)

/-- Octets that are still to come, and the error after them; none if more is waited for then. -/
structure Inflow where
  octets : Bytes
  ending : Option FrameError
  deriving DecidableEq, Repr

/-- What reads give up to the first that fails, and after all of them. -/
def Inflow.ofReads (after : Option FrameError) : List ReadStep → Inflow
  | [] => ⟨[], after⟩
  | step :: steps =>
    match step.failure? with
    | some e => ⟨[], some e⟩
    | none => ⟨step.octets ++ (ofReads after steps).octets, (ofReads after steps).ending⟩

/-- Reads that do not fail give their octets first. -/
theorem Inflow.ofReads_append {taken : List ReadStep}
    (h : ∀ step ∈ taken, step.failure? = none) (after : Option FrameError) (rest : List ReadStep) :
    ofReads after (taken ++ rest) =
      ⟨octetsIn taken ++ (ofReads after rest).octets, (ofReads after rest).ending⟩ := by
  induction taken with
  | nil => rfl
  | cons step taken ih =>
    obtain ⟨hstep, htaken⟩ := List.forall_mem_cons.mp h
    rw [List.cons_append, ofReads, hstep, ih htaken, ReadStep.octetsIn_cons, List.append_assoc]

/-- Reads none of which fails give all their octets. -/
theorem Inflow.ofReads_of_safe {after : Option FrameError} {steps : List ReadStep}
    (h : ∀ step ∈ steps, step.failure? = none) : ofReads after steps = ⟨octetsIn steps, after⟩ := by
  have hall := ofReads_append h after []
  rw [List.append_nil] at hall
  rw [hall, ofReads, List.append_nil]

/-! ## 2. Reading until a frame is whole -/

namespace FrameReader

/-- What reading a frame comes to, by the reads that it takes: each of these gives its octets, and the
next one is taken only if no frame and no bad header is there yet. -/
inductive Polled (r : FrameReader) (steps : List ReadStep) : Outcome → Prop
  /-- The octets taken begin with a frame. -/
  | frame {f : Frame} {r' : FrameReader} (taken rest : List ReadStep) (place : steps = taken ++ rest)
      (safe : ∀ step ∈ taken, step.failure? = none) (readable : f.Readable r.limit)
      (limit : r'.limit = r.limit) (octets : r.buffer ++ octetsIn taken = f.octets ++ r'.buffer) :
      Polled r steps (.done (.ok f) r' rest)
  /-- The octets taken begin with a bad header. -/
  | badHeader {e : FrameError} {r' : FrameReader} (taken rest : List ReadStep)
      (place : steps = taken ++ rest) (safe : ∀ step ∈ taken, step.failure? = none)
      (after : r' = { r with buffer := r.buffer ++ octetsIn taken })
      (decoded : Frame.decode r.limit r'.buffer = .error e) :
      Polled r steps (.done (.error e) r' rest)
  /-- A read fails before a frame is whole. -/
  | failure {e : FrameError} {r' : FrameReader} (taken : List ReadStep) (last : ReadStep)
      (rest : List ReadStep) (place : steps = taken ++ last :: rest)
      (safe : ∀ step ∈ taken, step.failure? = none)
      (after : r' = { r with buffer := r.buffer ++ octetsIn taken })
      (decoded : Frame.decode r.limit r'.buffer = .ok none) (failed : last.failure? = some e) :
      Polled r steps (.done (.error e) r' rest)
  /-- The reads are used up before a frame is whole. -/
  | waiting {r' : FrameReader} (safe : ∀ step ∈ steps, step.failure? = none)
      (after : r' = { r with buffer := r.buffer ++ octetsIn steps })
      (decoded : Frame.decode r.limit r'.buffer = .ok none) : Polled r steps (.waiting r')

/-- One more read in front, which gives its octets. -/
theorem Polled.cons {r : FrameReader} {step : ReadStep} {steps : List ReadStep} {outcome : Outcome}
    (hstep : step.failure? = none)
    (h : Polled { r with buffer := r.buffer ++ step.octets } steps outcome) :
    Polled r (step :: steps) outcome := by
  have hall : ∀ {taken : List ReadStep}, (∀ other ∈ taken, other.failure? = none) →
      ∀ other ∈ step :: taken, other.failure? = none :=
    fun hsafe => List.forall_mem_cons.mpr ⟨hstep, hsafe⟩
  cases h with
  | frame taken rest place safe readable limit octets =>
    refine .frame (step :: taken) rest (by rw [place]; rfl) (hall safe) readable limit ?_
    rw [← octets, ReadStep.octetsIn_cons, List.append_assoc]
  | badHeader taken rest place safe after decoded =>
    refine .badHeader (step :: taken) rest (by rw [place]; rfl) (hall safe) ?_ decoded
    rw [after, ReadStep.octetsIn_cons, List.append_assoc]
  | failure taken last rest place safe after decoded failed =>
    refine .failure (step :: taken) last rest (by rw [place]; rfl) (hall safe) ?_ decoded failed
    rw [after, ReadStep.octetsIn_cons, List.append_assoc]
  | waiting safe after decoded =>
    refine .waiting (hall safe) ?_ decoded
    rw [after, ReadStep.octetsIn_cons, List.append_assoc]

/-- Where no frame is whole, one read is taken. -/
theorem poll_cons {r : FrameReader} (h : Frame.decode r.limit r.buffer = .ok none) (step : ReadStep)
    (steps : List ReadStep) :
    r.poll (step :: steps) =
      match step.failure? with
      | some e => .done (.error e) r steps
      | none => poll { r with buffer := r.buffer ++ step.octets } steps := by
  rw [poll.eq_def, h]
  cases step with
  | data octets => cases octets <;> rfl
  | fault source =>
    by_cases hinterrupted : source.kind = .interrupted
    · simp [ReadStep.failure?, ReadStep.octets, hinterrupted]
    · simp [ReadStep.failure?, hinterrupted]

/-- A frame or a bad header that is in the buffer needs no read. -/
theorem polled_of_found {r : FrameReader} (h : Frame.decode r.limit r.buffer ≠ .ok none)
    (steps : List ReadStep) : r.Polled steps (r.poll steps) := by
  rw [poll.eq_def]
  cases hdecode : Frame.decode r.limit r.buffer with
  | error e => exact .badHeader [] steps rfl (List.forall_mem_nil _) (by simp [octetsIn]) hdecode
  | ok found =>
    cases found with
    | none => exact absurd hdecode h
    | some found =>
      obtain ⟨hbuffer, hreadable⟩ := Frame.decode_eq_some_iff.mp hdecode
      exact .frame [] steps rfl (List.forall_mem_nil _) hreadable rfl (by simpa [octetsIn] using hbuffer)

/-- **Reading a frame takes reads until a frame or a bad header is there**, or a read fails. -/
theorem polled (r : FrameReader) (steps : List ReadStep) : r.Polled steps (r.poll steps) := by
  induction steps generalizing r with
  | nil =>
    by_cases hdecode : Frame.decode r.limit r.buffer = .ok none
    · have hpoll : r.poll [] = .waiting r := by rw [poll.eq_def, hdecode]
      rw [hpoll]
      exact .waiting (List.forall_mem_nil _) (by simp [octetsIn]) hdecode
    · exact polled_of_found hdecode []
  | cons step steps ih =>
    by_cases hdecode : Frame.decode r.limit r.buffer = .ok none
    · rw [poll_cons hdecode]
      cases hstep : step.failure? with
      | none => exact Polled.cons hstep (ih _)
      | some e =>
        exact .failure [] step steps rfl (List.forall_mem_nil _) (by simp [octetsIn]) hdecode hstep
    · exact polled_of_found hdecode (step :: steps)

end FrameReader

/-! ## 3. Connections -/

namespace Connection

/-- What a connection is still to give. -/
def inflow (c : Connection) : Inflow :=
  let ahead := Inflow.ofReads (if c.ended then some .closed else none) c.reads
  { ahead with octets := c.reader.buffer ++ ahead.octets }

/-- All octets that have come and were not yet taken as frames, also those behind a read that fails. -/
def outstanding (c : Connection) : Bytes := c.reader.buffer ++ octetsIn c.reads

/-- The connection after its reader has got so far. -/
def read (c : Connection) (buffer : Bytes) (reads : List ReadStep) : Connection :=
  { c with reader := { c.reader with buffer := buffer }, reads := reads }

/-- What asking a connection for a frame comes to. -/
inductive Received (c : Connection) : Option (Except FrameError Frame × Connection) → Prop
  /-- The next frame is taken off the front. -/
  | frame {f : Frame} (buffer : Bytes) (reads : List ReadStep) (readable : f.Readable c.reader.limit)
      (octets : c.inflow.octets = f.octets ++ (c.read buffer reads).inflow.octets)
      (ending : (c.read buffer reads).inflow.ending = c.inflow.ending)
      (outstanding : c.outstanding = f.octets ++ (c.read buffer reads).outstanding)
      (suffix : reads <:+ c.reads)
      (shorter : (c.read buffer reads).pending + f.octets.length ≤ c.pending) :
      Received c (some (.ok f, c.read buffer reads))
  /-- There is no frame, and an error behind all that is there. -/
  | failure {e : FrameError} (buffer : Bytes) (reads : List ReadStep)
      (reason : Frame.decode c.reader.limit c.inflow.octets = .error e ∨
        (Frame.decode c.reader.limit c.inflow.octets = .ok none ∧ c.inflow.ending = some e))
      (outstanding : c.outstanding = (c.read buffer reads).outstanding) :
      Received c (some (.error e, c.read buffer reads))
  /-- There is no frame, and no error either. -/
  | nothing (decoded : Frame.decode c.reader.limit c.inflow.octets = .ok none)
      (ending : c.inflow.ending = none) : Received c none

theorem pending_eq (c : Connection) :
    c.pending = c.reader.buffer.length + (octetsIn c.reads).length + c.reads.length := by
  have hfold : ∀ (steps : List ReadStep) (n : Nat),
      steps.foldl (fun n step => match step with
        | .data octets => n + octets.length + 1
        | .fault _ => n + 1) n = n + (octetsIn steps).length + steps.length := by
    intro steps
    induction steps with
    | nil => simp [octetsIn]
    | cons step steps ih =>
      intro n
      rw [List.foldl_cons, ih, ReadStep.octetsIn_cons, List.length_append, List.length_cons]
      cases step <;> simp [ReadStep.octets] <;> omega
  exact hfold c.reads c.reader.buffer.length

/-- What is still to come once some reads that gave their octets are taken. -/
theorem inflow_read {c : Connection} {taken rest : List ReadStep} (place : c.reads = taken ++ rest)
    (safe : ∀ step ∈ taken, step.failure? = none) (buffer : Bytes) :
    ∃ ahead, (c.read buffer rest).inflow.octets = buffer ++ ahead ∧
      c.inflow.octets = c.reader.buffer ++ octetsIn taken ++ ahead ∧
      (c.read buffer rest).inflow.ending = c.inflow.ending := by
  refine ⟨(Inflow.ofReads (if c.ended then some .closed else none) rest).octets, rfl, ?_, ?_⟩
  · simp only [inflow, place, Inflow.ofReads_append safe, List.append_assoc]
  · simp only [inflow, place, Inflow.ofReads_append safe]
    rfl

/-- **Asking a connection for a frame gives the one at the front** of what is still to come, or the error
behind it. -/
theorem received (c : Connection) : c.Received c.receive? := by
  have hpolled := c.reader.polled c.reads
  unfold receive?
  generalize c.reader.poll c.reads = outcome at hpolled
  cases hpolled with
  | @frame f r' taken rest place safe readable limit octets =>
    obtain ⟨ahead, hafter, hbefore, hending⟩ := inflow_read place safe r'.buffer
    obtain ⟨buffer, most⟩ := r'
    obtain rfl : most = c.reader.limit := limit
    refine .frame buffer rest readable ?_ hending ?_ ⟨taken, place.symm⟩ ?_
    · rw [hbefore, octets, hafter, List.append_assoc]
    · rw [outstanding, place, ReadStep.octetsIn_append, ← List.append_assoc, octets,
        List.append_assoc]
      rfl
    · have hlength := congrArg List.length octets
      rw [pending_eq, pending_eq, place]
      simp only [List.length_append, ReadStep.octetsIn_append, read] at hlength ⊢
      omega
  | @badHeader e r' taken rest place safe after decoded =>
    subst after
    obtain ⟨ahead, -, hbefore, -⟩ := inflow_read place safe c.reader.buffer
    refine .failure _ rest (.inl ?_) ?_
    · rw [hbefore]
      exact Frame.decode_append_of_error decoded ahead
    · simp only [outstanding, place, ReadStep.octetsIn_append, read, List.append_assoc]
  | @failure e r' taken last rest place safe after decoded failed =>
    subst after
    have hinflow : c.inflow = ⟨c.reader.buffer ++ octetsIn taken, some e⟩ := by
      simp only [inflow, place, Inflow.ofReads_append safe, Inflow.ofReads, failed,
        List.append_nil]
    have hoctets := ReadStep.octets_of_failure failed
    refine .failure _ rest (.inr ?_) ?_
    · rw [hinflow]
      exact ⟨decoded, rfl⟩
    · simp only [outstanding, place, ReadStep.octetsIn_append, ReadStep.octetsIn_cons, hoctets, read,
        List.nil_append, List.append_assoc]
  | @waiting r' safe after decoded =>
    subst after
    have hinflow : c.inflow =
        ⟨c.reader.buffer ++ octetsIn c.reads, if c.ended then some .closed else none⟩ := by
      simp only [inflow, Inflow.ofReads_of_safe safe]
    by_cases hended : c.ended = true
    · simp only [if_pos hended] at hinflow ⊢
      refine .failure (c.reader.buffer ++ octetsIn c.reads) [] (.inr ?_) ?_
      · rw [hinflow]
        exact ⟨decoded, rfl⟩
      · simp [outstanding, read, octetsIn]
    · simp only [if_neg hended] at hinflow ⊢
      refine .nothing ?_ ?_
      · rw [hinflow]
        exact decoded
      · rw [hinflow]

/-- **A frame at the front is received**, however it is cut. -/
theorem receive?_of_frame {c : Connection} {f : Frame} {more : Bytes}
    (hreadable : f.Readable c.reader.limit) (h : c.inflow.octets = f.octets ++ more) :
    ∃ buffer reads, c.receive? = some (.ok f, c.read buffer reads) ∧
      (c.read buffer reads).inflow = ⟨more, c.inflow.ending⟩ ∧ reads <:+ c.reads := by
  have hdecode : Frame.decode c.reader.limit c.inflow.octets = .ok (some (f, more)) := by
    rw [h]
    exact Frame.decode_octets_append hreadable more
  have hreceived := c.received
  generalize c.receive? = outcome at hreceived
  cases hreceived with
  | @frame g buffer reads readable octets ending _ suffix _ =>
    rw [octets, Frame.decode_octets_append readable] at hdecode
    obtain ⟨rfl, hmore⟩ := Prod.mk.inj (Option.some.inj (Except.ok.inj hdecode))
    exact ⟨buffer, reads, rfl, by rw [← hmore, ← ending], suffix⟩
  | failure buffer reads reason _ =>
    rcases reason with hbad | ⟨hnone, -⟩
    · rw [hbad] at hdecode
      cases hdecode
    · rw [hnone] at hdecode
      cases hdecode
  | nothing decoded _ =>
    rw [decoded] at hdecode
    cases hdecode

/-- Where no octets are still to come, what is received is the error at the end, or nothing. -/
theorem receive?_of_no_octets {c : Connection} (h : c.inflow.octets = []) :
    (c.inflow.ending = none ∧ c.receive? = none) ∨
      ∃ e buffer reads, c.inflow.ending = some e ∧
        c.receive? = some (.error e, c.read buffer reads) := by
  have hreceived := c.received
  generalize c.receive? = outcome at hreceived
  have hdecode : Frame.decode c.reader.limit c.inflow.octets = .ok none := by
    rw [h]
    rfl
  cases hreceived with
  | @frame f buffer reads _ octets =>
    rw [h] at octets
    exact absurd (List.append_eq_nil_iff.mp octets.symm).1 f.octets_ne_nil
  | @failure e buffer reads reason _ =>
    rcases reason with hbad | ⟨-, hending⟩
    · rw [hbad] at hdecode
      cases hdecode
    · exact .inr ⟨e, buffer, reads, hending, rfl⟩
  | nothing _ ending => exact .inl ⟨ending, rfl⟩

/-- Where nothing is still to come, nothing is received. -/
theorem receive?_of_silent {c : Connection} (h : c.inflow = ⟨[], none⟩) : c.receive? = none := by
  rcases receive?_of_no_octets (congrArg Inflow.octets h) with ⟨-, hnone⟩ | ⟨e, _, _, hending, -⟩
  · exact hnone
  · rw [h] at hending
    cases hending

end Connection

/-! ## 4. Octets that arrive -/

/-- Octets that arrive at once are read in pieces, none of which is empty. -/
theorem ReadStep.split_spec (fullReads : Nat) {octets : Bytes}
    (h : fullReads * size < octets.length) :
    octetsIn (split fullReads octets) = octets ∧
      ∀ step ∈ split fullReads octets, step.failure? = none := by
  have hdata : ∀ part : Bytes, 0 < part.length → (data part).failure? = none := by
    intro part hpart
    cases part with
    | nil => cases hpart
    | cons octet part => rfl
  induction fullReads generalizing octets with
  | zero =>
    rw [Nat.zero_mul] at h
    refine ⟨by simp [split, octetsIn, ReadStep.octets], fun step hstep => ?_⟩
    obtain rfl := List.mem_singleton.mp hstep
    exact hdata octets h
  | succ fullReads ih =>
    rw [Nat.succ_mul] at h
    have hrest : fullReads * size < (octets.drop size).length := by
      rw [List.length_drop]
      omega
    obtain ⟨hoctets, hsafe⟩ := ih hrest
    have hfirst : 0 < (octets.take size).length := by
      rw [List.length_take]
      exact Nat.lt_min.mpr ⟨by decide, by omega⟩
    rw [split, octetsIn_cons, hoctets]
    exact ⟨List.take_append_drop size octets,
      List.forall_mem_cons.mpr ⟨hdata _ hfirst, hsafe⟩⟩

theorem ReadStep.ofOctets_spec {octets : Bytes} (h : octets ≠ []) :
    octetsIn (ofOctets octets) = octets ∧ ∀ step ∈ ofOctets octets, step.failure? = none := by
  have hpos := List.length_pos_iff.mpr h
  have hfull := Nat.div_mul_le_self (octets.length - 1) size
  exact split_spec _ (by omega)

/-- Where no error is behind the octets, no read fails. -/
theorem Inflow.safe_of_ending_eq_none {after : Option FrameError} {steps : List ReadStep}
    (h : (ofReads after steps).ending = none) :
    after = none ∧ ∀ step ∈ steps, step.failure? = none := by
  induction steps with
  | nil => exact ⟨h, nofun⟩
  | cons step steps ih =>
    rw [ofReads] at h
    cases hstep : step.failure? with
    | some e =>
      rw [hstep] at h
      cases h
    | none =>
      rw [hstep] at h
      obtain ⟨hafter, hsafe⟩ := ih h
      exact ⟨hafter, List.forall_mem_cons.mpr ⟨hstep, hsafe⟩⟩

namespace Connection

/-- **Octets that arrive come after those that are there**, if nothing failed before them. -/
theorem inflow_arrive {c : Connection} (h : c.inflow.ending = none) (octets : Bytes) :
    (c.arrive octets).inflow = ⟨c.inflow.octets ++ octets, none⟩ := by
  obtain ⟨hafter, hsafe⟩ := Inflow.safe_of_ending_eq_none h
  unfold arrive
  split
  · rename_i hnil
    rw [hnil, List.append_nil, ← h]
  · rename_i hne
    obtain ⟨hoctets, hpieces⟩ := ReadStep.ofOctets_spec hne
    simp only [inflow, hafter, Inflow.ofReads_append hsafe, Inflow.ofReads_of_safe hsafe,
      Inflow.ofReads_of_safe hpieces, hoctets, List.append_assoc]

theorem length_inflow_le (c : Connection) : c.inflow.octets.length ≤ c.pending := by
  have hreads : ∀ (after : Option FrameError) (steps : List ReadStep),
      (Inflow.ofReads after steps).octets.length ≤ (octetsIn steps).length := by
    intro after steps
    induction steps with
    | nil => exact Nat.le_refl _
    | cons step steps ih =>
      rw [Inflow.ofReads]
      split
      · exact Nat.zero_le _
      · rw [ReadStep.octetsIn_cons, List.length_append, List.length_append]
        exact Nat.add_le_add_left ih _
  have hbound := hreads (if c.ended then some .closed else none) c.reads
  rw [pending_eq, inflow, List.length_append]
  omega

end Connection

end Readout

/-
# Data of the wrong shape

The data of an answer is taken apart by the layout of its request, and that fails if there is too much of
it, or too little.  But an acquisition looks at each message before that, and in other terms: the size of
the whole request, the hint, what has been received by then, and the samples in so many waveforms.  These
checks leave nothing for the other one to find.

What is of the wrong shape (`WrongShape`) is refused where it comes, like anything else that is at fault
(`Rejects`): the acquisition waits for it, finishes its sinks, and ends.  Only where the device says that
it failed, that is what counts, whatever the data.

* `settles_error` -- the errors that settle an exchange;
* `exists_misshapen_iff`, `misshapen_iff_rejects` -- whatever is of the wrong shape is refused for the first
  count that is wrong, and nothing else is refused for a count;
* `exchange_of_rejects`, `acquire_of_rejects` -- nothing is written of a message that is refused;
* `acquire_checks_shapes` -- what the checks come to for every acquisition.
-/
import Readout.Proofs.Deadlines
import Readout.Proofs.RequestSizes

namespace Readout

open Control

variable {S ω : Type} [SampleSink S ω] {c : AcquisitionConfig} {r : AcquisitionRequest} {label : String}
  {s : Surroundings} {n : Nat} {message : Bytes}

/-! ## 1. Messages that are refused -/

/-- Why a message is refused by an acquisition that has met so many arrivals, whatever its sinks do. -/
inductive Rejects (c : AcquisitionConfig) (r : AcquisitionRequest) (label : String) (s : Surroundings)
    (n : Nat) (message : Bytes) (e : AcquireError) : Prop
  | answer (mode : c.mode = .single) (unfit : Unfit r message e)
  | chunk (mode : c.mode = .streaming) (fatal : Fatal (s.heard c r label n) message e)

/-- **The errors that settle an exchange**: a message is refused, a sink fails, the link does, or the time
is up. -/
theorem settles_error {start : Reassembly S × ω} {e : AcquireError} (hlayout : start.1.layout = r.layout)
    (h : Settles c r label s start n (.error e)) :
    (∃ m message, n = m + 1 ∧ s.arrivals[m]? = some (.message message) ∧
        Rejects c r label s m message e) ∨
      (∃ channel fault, e = .sink channel fault) ∨ (∃ cause, e = .receive cause) ∨
      e = .timeout c.replyTimeout := by
  generalize houtcome : (Except.error e : Except AcquireError Summary) = outcome at h
  cases h with
  | @stream m arrival outcome mode next ends =>
    cases ends with
    | lastChunk => cases houtcome
    | fatal fatal =>
      cases houtcome
      exact Or.inl ⟨m, _, rfl, next, .chunk mode fatal⟩
    | @sinkFails _ _ channel fault =>
      cases houtcome
      exact Or.inr (Or.inl ⟨channel, fault, rfl⟩)
    | @linkFails cause =>
      cases houtcome
      exact Or.inr (Or.inr (Or.inl ⟨cause, rfl⟩))
    | tooLate =>
      cases houtcome
      exact Or.inr (Or.inr (Or.inr rfl))
  | @answer m message mode lapsed next =>
    rcases answerOutcome_eq_error hlayout houtcome.symm with hunfit | hsink
    · exact Or.inl ⟨m, message, rfl, next, .answer mode hunfit⟩
    · exact Or.inr (Or.inl hsink)
  | @linkFails m cause =>
    cases houtcome
    exact Or.inr (Or.inr (Or.inl ⟨cause, rfl⟩))
  | tooLate =>
    cases houtcome
    exact Or.inr (Or.inr (Or.inr rfl))

/-- No message is refused because its data does not fit the layout. -/
theorem Rejects.ne_layout {e : AcquireError} (h : Rejects c r label s n message e) (cause : LayoutError) :
    e ≠ .layout cause := by
  rcases h with ⟨-, hunfit⟩ | ⟨-, hfatal⟩
  · cases hunfit with
    | @envelope e unread => cases e <;> exact fun h => by cases h
    | otherKind | payload | refused | misshapen => exact fun h => by cases h
  · cases hfatal with
    | envelope | payload | refused => exact fun h => by cases h
    | misshapen carries success size =>
      rintro rfl
      rcases StreamState.sizeError_eq_some_iff.mp size with ⟨-, h⟩ | ⟨-, -, h⟩ | ⟨-, -, -, h⟩ <;> cases h

/-! ## 2. Shapes -/

namespace Surroundings

/-- How many waveforms are in the chunks that a stream has taken among the first arrivals. -/
def delivered (s : Surroundings) (c : AcquisitionConfig) (r : AcquisitionRequest) (label : String)
    (n : Nat) : Nat :=
  waveformsIn ((StreamState.start c r label).chunksIn (Arrival.messages (s.arrivals.take n)))

/-- What a stream compares sizes with. -/
theorem heard_sizes (s : Surroundings) (c : AcquisitionConfig) (r : AcquisitionRequest) (label : String)
    (n : Nat) :
    (s.heard c r label n).layout = r.layout ∧ (s.heard c r label n).hint = (c.hintFor r).toNat ∧
      (s.heard c r label n).expected = r.waveforms.toNat ∧
      (s.heard c r label n).received = s.delivered c r label n := by
  obtain ⟨-, hlayout, hhint, hexpected⟩ := StreamState.foldl_hear_frame (.start c r label)
    (Arrival.messages (s.arrivals.take n))
  obtain ⟨hreceived, -, -⟩ := StreamState.foldl_hear_counts (.start c r label)
    (Arrival.messages (s.arrivals.take n))
  refine ⟨hlayout, hhint, hexpected, hreceived.trans ?_⟩
  exact Nat.zero_add (s.delivered c r label n)

theorem carries_heard_iff {chunk : ChunkReply} :
    Carries (s.heard c r label n).label message chunk ↔ Carries label message chunk := by
  rw [heard_label]

/-- What is wrong with the sizes of a chunk that comes behind the first arrivals.  The samples in it are
always counted: with as few waveforms as the hint permits, they are not too many. -/
theorem sizeError_heard_iff {chunk : ChunkReply} {e : AcquireError} :
    (s.heard c r label n).sizeError chunk = some e ↔
      let waveforms := chunk.waveforms.toNat
      let samples := r.channels.length * r.samples.toNat * waveforms
      (c.hintFor r).toNat < waveforms ∧ e = .sizeMismatch .chunkWaveforms (c.hintFor r).toNat waveforms ∨
        waveforms ≤ (c.hintFor r).toNat ∧ r.waveforms.toNat < s.delivered c r label n + waveforms ∧
          e = .sizeMismatch .allWaveforms r.waveforms.toNat (s.delivered c r label n + waveforms) ∨
        waveforms ≤ (c.hintFor r).toNat ∧ s.delivered c r label n + waveforms ≤ r.waveforms.toNat ∧
          chunk.data.length ≠ samples ∧ e = .sizeMismatch .chunkSamples samples chunk.data.length := by
  obtain ⟨hlayout, hhint, hexpected, hreceived⟩ := s.heard_sizes c r label n
  rw [StreamState.sizeError_eq_some_iff, hlayout, hhint, hexpected, hreceived]
  refine or_congr Iff.rfl (or_congr Iff.rfl (and_congr_right fun hfew => ?_))
  have hcount : r.layout.samplesIn? chunk.waveforms.toNat =
      some (r.channels.length * r.samples.toNat * chunk.waveforms.toNat) :=
    r.samplesIn?_eq_some (Nat.le_trans hfew (c.hintFor_le r))
  rw [hcount]
  rfl

end Surroundings

/-- **A message whose data has the wrong shape**, for an acquisition that has met so many arrivals: what was
counted, what it should have been, and what it is.  Of a chunk, it is the first count that is wrong. -/
inductive Misshapen (c : AcquisitionConfig) (r : AcquisitionRequest) (label : String) (s : Surroundings)
    (n : Nat) (message : Bytes) : Measure → Nat → Nat → Prop
  /-- The one answer has not as many samples as were asked for. -/
  | answer {reply : DumpReply} (mode : c.mode = .single) (replies : Replies message reply)
      (success : reply.success = true)
      (size : reply.data.length ≠ r.channels.length * r.samples.toNat * r.waveforms.toNat) :
      Misshapen c r label s n message .replySamples
        (r.channels.length * r.samples.toNat * r.waveforms.toNat) reply.data.length
  /-- A chunk holds more waveforms than the hint. -/
  | aboveHint {chunk : ChunkReply} (mode : c.mode = .streaming) (carries : Carries label message chunk)
      (success : chunk.success = true) (many : (c.hintFor r).toNat < chunk.waveforms.toNat) :
      Misshapen c r label s n message .chunkWaveforms (c.hintFor r).toNat chunk.waveforms.toNat
  /-- With it, there are more than were asked for. -/
  | beyond {chunk : ChunkReply} (mode : c.mode = .streaming) (carries : Carries label message chunk)
      (success : chunk.success = true) (few : chunk.waveforms.toNat ≤ (c.hintFor r).toNat)
      (many : r.waveforms.toNat < s.delivered c r label n + chunk.waveforms.toNat) :
      Misshapen c r label s n message .allWaveforms r.waveforms.toNat
        (s.delivered c r label n + chunk.waveforms.toNat)
  /-- It has not as many samples as there are in so many waveforms. -/
  | samples {chunk : ChunkReply} (mode : c.mode = .streaming) (carries : Carries label message chunk)
      (success : chunk.success = true) (few : chunk.waveforms.toNat ≤ (c.hintFor r).toNat)
      (within : s.delivered c r label n + chunk.waveforms.toNat ≤ r.waveforms.toNat)
      (size : chunk.data.length ≠ r.channels.length * r.samples.toNat * chunk.waveforms.toNat) :
      Misshapen c r label s n message .chunkSamples
        (r.channels.length * r.samples.toNat * chunk.waveforms.toNat) chunk.data.length

/-- A chunk of the right shape, for an acquisition that has met so many arrivals. -/
structure Shaped (c : AcquisitionConfig) (r : AcquisitionRequest) (label : String) (s : Surroundings)
    (n : Nat) (chunk : ChunkReply) : Prop where
  few : chunk.waveforms.toNat ≤ (c.hintFor r).toNat
  within : s.delivered c r label n + chunk.waveforms.toNat ≤ r.waveforms.toNat
  size : chunk.data.length = r.channels.length * r.samples.toNat * chunk.waveforms.toNat

/-- A message of any wrong shape, in which the device says that all went well. -/
inductive WrongShape (c : AcquisitionConfig) (r : AcquisitionRequest) (label : String) (s : Surroundings)
    (n : Nat) (message : Bytes) : Prop
  | answer {reply : DumpReply} (mode : c.mode = .single) (replies : Replies message reply)
      (success : reply.success = true)
      (size : reply.data.length ≠ r.channels.length * r.samples.toNat * r.waveforms.toNat)
  | chunk {chunk : ChunkReply} (mode : c.mode = .streaming) (carries : Carries label message chunk)
      (success : chunk.success = true) (shape : ¬Shaped c r label s n chunk)

/-- **Whatever is of a wrong shape has a first count that is wrong.** -/
theorem exists_misshapen_iff : (∃ what expected actual, Misshapen c r label s n message what expected actual) ↔
    WrongShape c r label s n message := by
  constructor
  · rintro ⟨what, expected, actual, h⟩
    cases h with
    | answer mode replies success size => exact .answer mode replies success size
    | aboveHint mode carries success many =>
      exact .chunk mode carries success fun h => absurd h.few (Nat.not_le_of_lt many)
    | beyond mode carries success few many =>
      exact .chunk mode carries success fun h => absurd h.within (Nat.not_le_of_lt many)
    | samples mode carries success few within size =>
      exact .chunk mode carries success fun h => absurd h.size size
  · intro h
    cases h with
    | answer mode replies success size => exact ⟨_, _, _, .answer mode replies success size⟩
    | @chunk chunk mode carries success shape =>
      rcases Nat.lt_or_ge (c.hintFor r).toNat chunk.waveforms.toNat with hmany | hfew
      · exact ⟨_, _, _, .aboveHint mode carries success hmany⟩
      rcases Nat.lt_or_ge r.waveforms.toNat (s.delivered c r label n + chunk.waveforms.toNat) with
        hmany | hwithin
      · exact ⟨_, _, _, .beyond mode carries success hfew hmany⟩
      · exact ⟨_, _, _, .samples mode carries success hfew hwithin fun hsize =>
          shape ⟨hfew, hwithin, hsize⟩⟩

/-- A message in which the device says that it failed, and what else it says. -/
inductive Failed (c : AcquisitionConfig) (label : String) (message : Bytes) : String → Prop
  | answer {reply : DumpReply} (mode : c.mode = .single) (replies : Replies message reply)
      (failed : reply.success = false) : Failed c label message reply.message
  | chunk {chunk : ChunkReply} (mode : c.mode = .streaming) (carries : Carries label message chunk)
      (failed : chunk.success = false) : Failed c label message chunk.message

/-- A message that says so is refused for that. -/
theorem Failed.rejects {text : String} (h : Failed c label message text) :
    Rejects c r label s n message (.refused text) := by
  cases h with
  | answer mode replies failed => exact .answer mode (.refused replies failed)
  | chunk mode carries failed =>
    exact .chunk mode (.refused (Surroundings.carries_heard_iff.mpr carries) failed)

variable {what : Measure} {expected actual : Nat}

/-- **What is of the wrong shape is what is refused for its size.** -/
theorem misshapen_iff_rejects :
    Misshapen c r label s n message what expected actual ↔
      Rejects c r label s n message (.sizeMismatch what expected actual) := by
  have htotal : r.totalSamples = r.channels.length * r.samples.toNat * r.waveforms.toNat := r.totalSamples_eq
  constructor
  · intro h
    cases h with
    | answer mode replies success size =>
      rw [← htotal] at size ⊢
      exact .answer mode (.misshapen replies success size)
    | aboveHint mode carries success many =>
      exact .chunk mode (.misshapen (Surroundings.carries_heard_iff.mpr carries) success
        (Surroundings.sizeError_heard_iff.mpr (Or.inl ⟨many, rfl⟩)))
    | beyond mode carries success few many =>
      exact .chunk mode (.misshapen (Surroundings.carries_heard_iff.mpr carries) success
        (Surroundings.sizeError_heard_iff.mpr (Or.inr (Or.inl ⟨few, many, rfl⟩))))
    | samples mode carries success few within size =>
      exact .chunk mode (.misshapen (Surroundings.carries_heard_iff.mpr carries) success
        (Surroundings.sizeError_heard_iff.mpr (Or.inr (Or.inr ⟨few, within, size, rfl⟩))))
  · intro h
    generalize herror : AcquireError.sizeMismatch what expected actual = e at h
    rcases h with ⟨mode, hunfit⟩ | ⟨mode, hfatal⟩
    · cases hunfit with
      | @envelope cause unread => cases cause <;> cases herror
      | otherKind | payload | refused => cases herror
      | misshapen replies success size =>
        cases herror
        rw [htotal] at size ⊢
        exact .answer mode replies success size
    · cases hfatal with
      | envelope | payload | refused => cases herror
      | misshapen carries success size =>
        subst herror
        rw [Surroundings.carries_heard_iff] at carries
        rcases Surroundings.sizeError_heard_iff.mp size with
          ⟨hmany, heq⟩ | ⟨hfew, hmany, heq⟩ | ⟨hfew, hwithin, hsize, heq⟩
        · cases heq
          exact .aboveHint mode carries success hmany
        · cases heq
          exact .beyond mode carries success hfew hmany
        · cases heq
          exact .samples mode carries success hfew hwithin hsize

/-- What should have been there is never more than the whole answer. -/
theorem Misshapen.expected_le (h : Misshapen c r label s n message what expected actual) :
    expected ≤ r.totalSamples := by
  have hstride : 0 < r.channels.length * r.samples.toNat := Nat.mul_pos
    (List.length_pos_iff.mpr r.acceptable.nonempty)
    (Nat.pos_of_ne_zero fun hzero => r.acceptable.samples_pos (UInt32.toNat_inj.mp hzero))
  have hwaveforms : r.waveforms.toNat ≤ r.totalSamples := by
    rw [r.totalSamples_eq]
    exact Nat.le_mul_of_pos_left _ hstride
  cases h with
  | answer => exact Nat.le_of_eq r.totalSamples_eq.symm
  | aboveHint => exact Nat.le_trans (c.hintFor_le r) hwaveforms
  | beyond => exact hwaveforms
  | samples _ _ _ few =>
    rw [r.totalSamples_eq]
    exact Nat.mul_le_mul_left _ (Nat.le_trans few (c.hintFor_le r))

/-! ## 3. What comes of them -/

omit [SampleSink S ω] in
/-- **Who still waits for the one answer goes on with what is still to come.** -/
theorem awaitReply_append {known arrivals left : List Arrival} {u waiting : Underway S ω} {receives : Nat}
    (h : awaitReply c { s with arrivals := known } n u arrivals = (none, waiting, receives, left))
    (rest : List Arrival) :
    receives = n + arrivals.length ∧ stopsWaiting? c s receives = none ∧
      awaitReply c s n u (arrivals ++ rest) = awaitReply c s receives waiting rest := by
  -- What is known of the arrivals does not matter, and only waits in which nothing came leave it waiting.
  have hsame : ∀ m, stopsWaiting? c { s with arrivals := known } m = stopsWaiting? c s m := fun _ => rfl
  induction arrivals generalizing n u with
  | nil =>
    cases hstop : stopsWaiting? c s n with
    | some e =>
      rw [awaitReply_of_stop ((hsame n).trans hstop)] at h
      cases h
    | none =>
      rw [awaitReply_of_going ((hsame n).trans hstop)] at h
      cases h
      exact ⟨rfl, hstop, rfl⟩
  | cons arrival more ih =>
    cases hstop : stopsWaiting? c s n with
    | some e =>
      rw [awaitReply_of_stop ((hsame n).trans hstop)] at h
      cases h
    | none =>
      rw [awaitReply_cons ((hsame n).trans hstop)] at h
      rw [List.cons_append, awaitReply_cons hstop, List.length_cons]
      cases hawaited : arrival.awaited? with
      | some awaited =>
        rw [hawaited] at h
        cases h
      | none =>
        rw [hawaited] at h
        obtain ⟨hreceives, hgoing, hmore⟩ := ih h
        exact ⟨by omega, hgoing, hmore⟩

section

variable {e : AcquireError} {u : Underway S ω} (harrival : s.arrivals[n]? = some (.message message))
include harrival

omit [SampleSink S ω] in
/-- An arrival stands behind those that come before it. -/
theorem Surroundings.arrivals_eq : s.arrivals.take n ++ .message message :: s.arrivals.drop (n + 1) =
    s.arrivals ∧ (s.arrivals.take n).length = n := by
  obtain ⟨hn, hget⟩ := List.getElem?_eq_some_iff.mp harrival
  refine ⟨?_, List.length_take_of_le (Nat.le_of_lt hn)⟩
  rw [← hget, ← List.drop_eq_getElem_cons hn, List.take_append_drop]

/-- The one answer, if it is at fault, ends the wait for it. -/
theorem takeReply_of_unfit (hunfit : Unfit r message e)
    (hwaits : (takeReply r (awaitReply c { s with arrivals := s.arrivals.take n } 0 u
      (s.arrivals.take n))).outcome = none) :
    takeReply r (awaitReply c s 0 u s.arrivals) = ⟨some (.error e),
      (takeReply r (awaitReply c { s with arrivals := s.arrivals.take n } 0 u
        (s.arrivals.take n))).underway.did (.awaits (singleWait c s n)),
      n + 1, s.arrivals.drop (n + 1)⟩ := by
  obtain ⟨harrivals, hlength⟩ := Surroundings.arrivals_eq harrival
  generalize hawaited : awaitReply c { s with arrivals := s.arrivals.take n } 0 u (s.arrivals.take n) =
    awaited at hwaits ⊢
  obtain ⟨_ | cause | octets, waiting, receives, left⟩ := awaited
  · obtain ⟨hreceives, hgoing, hmore⟩ :=
      awaitReply_append hawaited (.message message :: s.arrivals.drop (n + 1))
    rw [hlength, Nat.zero_add] at hreceives
    subst hreceives
    rw [harrivals, awaitReply_cons hgoing] at hmore
    have htaken : awaitReply c s 0 u s.arrivals = (some (.ok message),
      waiting.did (.awaits (singleWait c s receives)), receives + 1, s.arrivals.drop (receives + 1)) := hmore
    rw [htaken]
    simp [takeReply, replyData_eq_error_iff.mpr hunfit]
  · cases hwaits
  · rw [takeReply] at hwaits
    split at hwaits <;> cases hwaits

/-- A message that is at fault ends the loop that takes chunks. -/
theorem ChunkLoop.run_of_fatal {start : Reassembly S × ω} {first : ChunkLoop S ω}
    (hmode : c.mode = .streaming) (hlayout : start.1.layout = r.layout)
    (hfirst : first.Tracks c r label s start) (hzero : first.receives = 0)
    (hfatal : Fatal (s.heard c r label n) message e)
    (hwaits : (first.run c r { s with arrivals := s.arrivals.take n } (s.arrivals.take n)).outcome = none) :
    first.run c r s s.arrivals = ⟨some (.error e),
      (first.run c r { s with arrivals := s.arrivals.take n } (s.arrivals.take n)).underway.did
        (.awaits c.chunkWait),
      n + 1, s.arrivals.drop (n + 1)⟩ := by
  obtain ⟨harrivals, hlength⟩ := Surroundings.arrivals_eq harrival
  obtain ⟨loop, hafter⟩ := Option.isSome_iff_exists.mp (run_outcome_eq_none_iff.mp hwaits)
  have hpending := run_append hafter []
  rw [List.append_nil] at hpending
  rw [after_with_arrivals] at hafter
  have hahead : s.arrivals.drop first.receives = s.arrivals.take n ++ s.arrivals.drop n := by
    rw [hzero, List.take_append_drop]
    rfl
  obtain ⟨htracks, -⟩ := hfirst.after hmode hlayout hahead hafter
  have hreceives : loop.receives = n := by
    rw [receives_after hafter, hzero, hlength, Nat.zero_add]
  have hjudge : loop.state.judge message = .fatal e := by
    rw [htracks.state, hreceives]
    exact StreamState.judge_eq_fatal_iff.mpr hfatal
  have hmet := meet_of_fatal c.chunkWait hjudge
  have hmore := run_append hafter (.message message :: s.arrivals.drop (n + 1))
  rw [harrivals, run_cons, turn_of_finding (congrArg Meeting.finding hmet), hmet, hreceives] at hmore
  rw [hmore, hpending]
  rfl

/-- **An exchange that waits for a message and refuses it is over**, and has done nothing else. -/
theorem exchange_of_rejects {factory : SinkFactory S ω} {world : ω}
    (hbegin : Beginning.of c r s factory world = .opened u)
    (hwaits : (exchange c r label { s with arrivals := s.arrivals.take n } u).outcome = none)
    (hrejects : Rejects c r label s n message e) :
    exchange c r label s u = ⟨some (.error e),
      (exchange c r label { s with arrivals := s.arrivals.take n } u).underway.did
        (.awaits (waitAfter c s n)),
      n + 1, s.arrivals.drop (n + 1)⟩ := by
  -- As it still waits with fewer arrivals, its request is sent; and then both do the same.
  have hsent : s.cancelledBy .opening = false ∧ s.sendFault = none :=
    sent_of_waiting (s := { s with arrivals := s.arrivals.take n }) hwaits
  obtain ⟨hunseen, hsend⟩ := hsent
  rw [exchange_of_sent (s := { s with arrivals := s.arrivals.take n }) hunseen hsend] at hwaits ⊢
  rw [exchange_of_sent hunseen hsend]
  obtain ⟨-, -, hlayout⟩ := Beginning.regular_opened hbegin
  generalize hu : (prepared c r u).did (.sends (c.requestMessage r label)) = u' at hwaits ⊢
  unfold answered waitAfter at *
  rcases hrejects with ⟨mode, hunfit⟩ | ⟨mode, hfatal⟩
  · simp only [mode] at hwaits ⊢
    exact takeReply_of_unfit harrival hunfit hwaits
  · simp only [mode] at hwaits ⊢
    have htracks : ChunkLoop.Tracks c r label s u'.bare ⟨0, s.clock.sent, .start c r label, u'⟩ :=
      ⟨rfl, rfl, (kept_of_silence rfl).symm⟩
    have hlayout' : u'.bare.1.layout = r.layout := by
      subst hu
      unfold prepared
      rw [mode]
      exact hlayout
    exact ChunkLoop.run_of_fatal harrival mode hlayout' htracks rfl hfatal hwaits

end

/-! ## 4. Acquisitions -/

/-- An acquisition that refuses a message behind the first arrivals: once it has waited for that, it only
finishes its sinks, as they were when it still waited, and is over. -/
structure Refuses (c : AcquisitionConfig) (r : AcquisitionRequest) (s : Surroundings) (n : Nat)
    (e : AcquireError) (waiting run : Run S ω) : Prop where
  outcome : run.outcome = some (.error e)
  receives : run.receives = n + 1
  left : run.left = s.arrivals.drop (n + 1)
  effects : run.effects =
    waiting.effects ++ Effect.awaits (waitAfter c s n) :: r.channels.map Effect.finishes
  sinks : (run.sinks.map Prod.snd, run.world) =
    (Reassembly.finishEach r.channels (waiting.sinks.map Prod.snd) waiting.world).2

section

variable {factory : SinkFactory S ω} {world : ω} {e : AcquireError}

/-- An exchange that was still waiting, and now is over, leaves its sinks to be finished as they were. -/
theorem Exchanged.refuses_conclude {u : Underway S ω} {receives : Nat} {left : List Arrival}
    (hfinish : FinishesNone r.channels u.reassembly (u.did (.awaits (waitAfter c s n))).world) :
    Refuses c r s n e (Exchanged.conclude ⟨none, u, receives, left⟩)
      (Exchanged.conclude ⟨some (.error e), u.did (.awaits (waitAfter c s n)), n + 1,
        s.arrivals.drop (n + 1)⟩) := by
  have hlength := hfinish.length
  obtain ⟨hchannels, hsinks, -⟩ := hfinish
  refine ⟨Exchanged.outcome_conclude_of_error rfl, Exchanged.receives_conclude _,
    Exchanged.left_conclude _, ?_, ?_⟩
  · have hfinishes : u.reassembly.sinks.map (fun sink => Effect.finishes sink.channel) =
        r.channels.map Effect.finishes := by
      rw [← hsinks, List.map_map]
      rfl
    have hdone : (Exchanged.conclude ⟨none, u, receives, left⟩).effects = u.world.effects.reverse := rfl
    refine (Exchanged.effects_conclude hlength (Option.some_ne_none _)).trans ?_
    rw [hdone, ← hfinishes, ← List.singleton_append, ← List.append_assoc, ← List.reverse_cons]
    rfl
  · have hbare : (Exchanged.conclude ⟨none, u, receives, left⟩).sinks.map Prod.snd = u.bare.1.sinks := by
      simp [Exchanged.conclude, Run.of, Underway.bare, Reassembly.bare, Function.comp_def]
    rw [hbare]
    exact (Exchanged.conclude_finished rfl hchannels).2

/-- **Nothing is written of a message that is refused.** -/
theorem acquire_of_rejects (harrival : s.arrivals[n]? = some (.message message))
    (hwaits : (acquire c r label { s with arrivals := s.arrivals.take n } factory world).outcome = none)
    (hrejects : Rejects c r label s n message e) :
    Refuses c r s n e (acquire c r label { s with arrivals := s.arrivals.take n } factory world)
      (acquire c r label s factory world) := by
  have hbegins : Beginning.of c r { s with arrivals := s.arrivals.take n } factory world =
      Beginning.of c r s factory world := rfl
  rw [acquire_eq, hbegins] at hwaits ⊢
  rw [acquire_eq]
  cases hbegin : Beginning.of c r s factory world with
  | refused cause =>
    rw [hbegin] at hwaits
    cases hwaits
  | unopened channel fault sinks w =>
    rw [hbegin] at hwaits
    cases hwaits
  | opened u =>
    rw [hbegin] at hwaits
    have hwaits' := Exchanged.outcome_conclude_eq_none_iff.mp hwaits
    have hfinish := exchange_finishes_none (s := s) label hbegin
    simp only [exchange_of_rejects harrival hbegin hwaits' hrejects] at hfinish ⊢
    generalize exchange c r label { s with arrivals := s.arrivals.take n } u = waiting at hwaits' hfinish ⊢
    obtain ⟨outcome, u', receives, left⟩ := waiting
    cases hwaits'
    exact Exchanged.refuses_conclude hfinish

/-- How an acquisition checks the shape of what it gets. -/
structure ShapesChecked (c : AcquisitionConfig) (r : AcquisitionRequest) (label : String)
    (s : Surroundings) (factory : SinkFactory S ω) (world : ω) : Prop where
  /-- It never has to take data apart that does not fit the layout. -/
  fits : ∀ cause, (acquire c r label s factory world).outcome ≠ some (.error (.layout cause))
  /-- It reports a size only of a message of the wrong shape, the last one that it has met. -/
  mismatch : ∀ what expected actual,
    (acquire c r label s factory world).outcome = some (.error (.sizeMismatch what expected actual)) →
    ∃ n message, (acquire c r label s factory world).receives = n + 1 ∧
      s.arrivals[n]? = some (.message message) ∧ Misshapen c r label s n message what expected actual
  /-- The size that it expects is one of its request, and not the word that stands for too many. -/
  expected : ∀ what expected actual,
    (acquire c r label s factory world).outcome = some (.error (.sizeMismatch what expected actual)) →
    expected ≤ r.totalSamples ∧ expected < Word.top
  /-- A message of any wrong shape that it still waits for is the end of it, for the first count that is
  wrong, and is not written. -/
  wrong : ∀ n message, s.arrivals[n]? = some (.message message) →
    (acquire c r label { s with arrivals := s.arrivals.take n } factory world).outcome = none →
    WrongShape c r label s n message →
    ∃ what expected actual, Misshapen c r label s n message what expected actual ∧
      Refuses c r s n (.sizeMismatch what expected actual)
        (acquire c r label { s with arrivals := s.arrivals.take n } factory world)
        (acquire c r label s factory world)
  /-- So is a message in which the device says that it failed, for that and whatever its shape. -/
  failed : ∀ n message text, s.arrivals[n]? = some (.message message) →
    (acquire c r label { s with arrivals := s.arrivals.take n } factory world).outcome = none →
    Failed c label message text →
    Refuses c r s n (.refused text)
      (acquire c r label { s with arrivals := s.arrivals.take n } factory world)
      (acquire c r label s factory world)

/-- An error that has its cause in what arrives, and neither in the link nor in the time, is that for which
the last message was refused. -/
theorem rejects_of_acquire (h : (acquire c r label s factory world).outcome = some (.error e))
    (hforeign : e.isOwn = false) (hlink : ∀ cause, e ≠ .receive cause)
    (htime : e ≠ .timeout c.replyTimeout) :
    ∃ n message, (acquire c r label s factory world).receives = n + 1 ∧
      s.arrivals[n]? = some (.message message) ∧ Rejects c r label s n message e := by
  rcases acquire_error h with hown | ⟨-, hsettles⟩
  · cases hforeign.symm.trans hown
  rcases settles_error rfl hsettles with hrejects | ⟨channel, fault, rfl⟩ | ⟨cause, hcause⟩ | hlate
  · exact hrejects
  · cases hforeign
  · exact absurd hcause (hlink cause)
  · exact absurd hlate htime

/-- **The checks of an acquisition leave nothing to be found when data is taken apart.**  It ends with the
error that a size is wrong if, and only if, it meets data of the wrong shape, and of that nothing is
written. -/
theorem acquire_checks_shapes (c : AcquisitionConfig) (r : AcquisitionRequest) (label : String)
    (s : Surroundings) (factory : SinkFactory S ω) (world : ω) :
    ShapesChecked c r label s factory world := by
  have hmismatch : ∀ what expected actual, (acquire c r label s factory world).outcome =
      some (.error (.sizeMismatch what expected actual)) → ∃ n message,
        (acquire c r label s factory world).receives = n + 1 ∧ s.arrivals[n]? = some (.message message) ∧
          Misshapen c r label s n message what expected actual := by
    intro what expected actual h
    obtain ⟨n, message, hreceives, harrival, hrejects⟩ :=
      rejects_of_acquire h rfl (fun _ heq => by cases heq) (fun heq => by cases heq)
    exact ⟨n, message, hreceives, harrival, misshapen_iff_rejects.mpr hrejects⟩
  refine ⟨?_, hmismatch, ?_, ?_, ?_⟩
  · intro cause h
    obtain ⟨n, message, -, -, hrejects⟩ :=
      rejects_of_acquire h rfl (fun _ heq => by cases heq) (fun heq => by cases heq)
    exact hrejects.ne_layout cause rfl
  · intro what expected actual h
    obtain ⟨n, message, -, -, hshape⟩ := hmismatch what expected actual h
    exact ⟨hshape.expected_le, Nat.lt_of_le_of_lt hshape.expected_le r.sizesSafe.total_lt⟩
  · intro n message harrival hwaits hwrong
    obtain ⟨what, expected, actual, hshape⟩ := exists_misshapen_iff.mpr hwrong
    exact ⟨what, expected, actual, hshape,
      acquire_of_rejects harrival hwaits (misshapen_iff_rejects.mp hshape)⟩
  · intro n message text harrival hwaits hfailed
    exact acquire_of_rejects harrival hwaits hfailed.rejects

end

/-- A chunk, and another one with a sample too many. -/
def bulky : Surroundings where
  arrivals := [.ofChunk (pairChunk "a" 1 [1, 2] false), .ofChunk (pairChunk "a" 1 [3, 4, 5] true), .quiet]

/-- The other one is refused, and the sinks keep what they have got. -/
theorem acquire_checks_shapes_bulky :
    Refuses {} pairRequest bulky 1 (.sizeMismatch .chunkSamples 2 3)
        (acquire {} pairRequest "a" { bulky with arrivals := bulky.arrivals.take 1 } sureFactory ())
        (acquire {} pairRequest "a" bulky sureFactory ()) ∧
      ((acquire {} pairRequest "a" bulky sureFactory ()).sinks.map fun sink => sink.2.samples) =
        [[1], [2]] := by
  have hwrong : WrongShape {} pairRequest "a" bulky 1
      (Envelope.encodeRecord .chunkReply ChunkReply.schema (pairChunk "a" 1 [3, 4, 5] true)) :=
    .chunk rfl ⟨⟨_, rfl, rfl, rfl⟩, rfl⟩ rfl fun h => absurd h.size (by decide)
  obtain ⟨what, expected, actual, -, hrefuses⟩ :=
    (acquire_checks_shapes {} pairRequest "a" bulky sureFactory ()).wrong 1 _ rfl (by decide +kernel) hwrong
  have houtcome : (acquire {} pairRequest "a" bulky sureFactory ()).outcome =
      some (.error (.sizeMismatch .chunkSamples 2 3)) := by decide +kernel
  cases houtcome.symm.trans hrefuses.outcome
  exact ⟨hrefuses, by decide +kernel⟩

/-- An answer of the wrong size, from a device that says that it failed. -/
def busyReply : DumpReply := { success := false, message := "busy", data := [1, 2, 3] }

/-- A chunk of this kind. -/
def busyChunk : ChunkReply :=
  { success := false, message := "busy", label := "a", waveforms := 1, data := [1, 2, 3], isFinal := true }

/-- Only the answer comes, or only the chunk. -/
def busySurroundings : Mode → Surroundings
  | .single => { arrivals := [.message (Envelope.encodeRecord .dump DumpReply.schema busyReply)] }
  | .streaming => { arrivals := [.ofChunk busyChunk] }

/-- What the device says goes before the shape of what it sends: both are refused, but not for their sizes. -/
theorem refused_whatever_the_shape :
    (Replies (Envelope.encodeRecord .dump DumpReply.schema busyReply) busyReply ∧
      busyReply.data.length ≠ pairRequest.totalSamples ∧
      (acquire { mode := .single } pairRequest "a" (busySurroundings .single) sureFactory ()).outcome =
        some (.error (.refused "busy"))) ∧
      (Carries "a" (Envelope.encodeRecord .chunkReply ChunkReply.schema busyChunk) busyChunk ∧
        ¬Shaped {} pairRequest "a" (busySurroundings .streaming) 0 busyChunk ∧
        (acquire {} pairRequest "a" (busySurroundings .streaming) sureFactory ()).outcome =
          some (.error (.refused "busy"))) ∧
      ∀ what expected actual, AcquireError.refused "busy" ≠ .sizeMismatch what expected actual := by
  refine ⟨⟨⟨_, rfl, rfl, rfl⟩, by decide, by decide +kernel⟩,
    ⟨⟨⟨_, rfl, rfl, rfl⟩, rfl⟩, fun h => absurd h.size (by decide), by decide +kernel⟩, ?_⟩
  intro what expected actual h
  cases h

end Readout

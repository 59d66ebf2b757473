/-
# What ends a stream of chunks

A stream of chunks goes on until something ends it.  `Ends` says what, and what the result is then, by what
has arrived alone: the stream that the messages make (`heard`), the sinks with the batches in them that are
accepted among the messages (`kept`), and the clock.

* `StreamState.judge_eq_fatal_iff`, `StreamState.judge_eq_chunk_iff` -- which messages end a stream, and which
  belong to it;
* `ChunkLoop.Tracks.ends`, `ChunkLoop.Tracks.goes_on` -- a turn ends the loop exactly where `Ends` says so.
-/
import Readout.Proofs.FilesKept
import Readout.Proofs.SyntheticDelivery

namespace Readout

open Control

/-! ## 1. What a message is to a stream -/

/-- A message that holds a chunk with some label. -/
structure Carries (label : String) (message : Bytes) (chunk : ChunkReply) : Prop where
  read : ∃ envelope, Envelope.decode message = .ok envelope ∧ envelope.kind = .chunkReply ∧
    envelope.record ChunkReply.schema = .ok chunk
  label : chunk.label = label

/-- Why a message ends a stream, whatever the sinks do. -/
inductive Fatal (state : StreamState) (message : Bytes) : AcquireError → Prop
  /-- The envelope cannot be read, or sets no kind. -/
  | envelope {e : ControlError} (unread : Envelope.decode message = .error e)
      (notUnknown : ∀ code, e ≠ .unknownKind code) : Fatal state message (.decode e)
  /-- It is a chunk by its kind, and its payload cannot be read. -/
  | payload {envelope : Envelope} {e : ControlError} (decoded : Envelope.decode message = .ok envelope)
      (kind : envelope.kind = .chunkReply) (unread : envelope.record ChunkReply.schema = .error e) :
      Fatal state message (.decode e)
  /-- The device says that it failed. -/
  | refused {chunk : ChunkReply} (carries : Carries state.label message chunk)
      (failed : chunk.success = false) : Fatal state message (.refused chunk.message)
  /-- The chunk has a wrong size. -/
  | misshapen {chunk : ChunkReply} {e : AcquireError} (carries : Carries state.label message chunk)
      (success : chunk.success = true) (size : state.sizeError chunk = some e) :
      Fatal state message e

/-- Whether a message is a chunk that a stream takes. -/
structure Belongs (state : StreamState) (message : Bytes) (chunk : ChunkReply) : Prop where
  carries : Carries state.label message chunk
  success : chunk.success = true
  size : state.sizeError chunk = none

namespace StreamState

variable {state : StreamState} {message : Bytes}

/-- A chunk with the stream's label is judged by its contents. -/
theorem judge_of_carries {chunk : ChunkReply} (h : Carries state.label message chunk) :
    state.judge message = state.judgeReply chunk := by
  obtain ⟨⟨envelope, hdecode, hkind, hrecord⟩, -⟩ := h
  simp [judge, hdecode, hkind, hrecord]

/-- What is wrong with the sizes of a chunk: the first of these checks that fails. -/
theorem sizeError_eq_some_iff {chunk : ChunkReply} {e : AcquireError} :
    state.sizeError chunk = some e ↔
      let waveforms := chunk.waveforms.toNat
      let samples := (state.layout.samplesIn? waveforms).getD Word.top
      state.hint < waveforms ∧ e = .sizeMismatch .chunkWaveforms state.hint waveforms ∨
        waveforms ≤ state.hint ∧ state.expected < state.received + waveforms ∧
          e = .sizeMismatch .allWaveforms state.expected (state.received + waveforms) ∨
        waveforms ≤ state.hint ∧ state.received + waveforms ≤ state.expected ∧
          chunk.data.length ≠ samples ∧ e = .sizeMismatch .chunkSamples samples chunk.data.length := by
  simp only [sizeError]
  split
  · rename_i hmany
    simp only [Option.some.injEq, eq_comm, hmany, Nat.not_le_of_lt hmany, true_and, false_and, or_false]
  · rename_i hfew
    simp only [hfew, Nat.le_of_not_lt hfew, true_and, false_and, false_or]
    split
    · rename_i hall
      simp only [Option.some.injEq, eq_comm, hall, Nat.not_le_of_lt hall, true_and, false_and, or_false]
    · rename_i hwithin
      simp only [hwithin, Nat.le_of_not_lt hwithin, true_and, false_and, false_or]
      split
      · rename_i hlength
        simp only [Option.some.injEq, eq_comm, hlength, ne_eq, not_false_eq_true, true_and]
      · rename_i hlength
        simp only [hlength, false_and, reduceCtorEq]

/-- **The messages that end a stream.** -/
theorem judge_eq_fatal_iff {e : AcquireError} :
    state.judge message = .fatal e ↔ Fatal state message e := by
  constructor
  · intro h
    unfold judge at h
    split at h
    · cases h
    · rename_i e' hknown hdecode
      cases h
      exact .envelope hdecode hknown
    · rename_i envelope hdecode
      split at h
      · cases h
      · rename_i hkind
        split at h
        · rename_i e' hrecord
          cases h
          exact .payload hdecode (Decidable.not_not.mp hkind) hrecord
        · rename_i chunk hrecord
          unfold judgeReply at h
          split at h
          · cases h
          · rename_i hlabel
            have hcarries : Carries state.label message chunk :=
              ⟨⟨envelope, hdecode, Decidable.not_not.mp hkind, hrecord⟩, Decidable.not_not.mp hlabel⟩
            split at h
            · rename_i hfailed
              cases h
              exact .refused hcarries (by simpa using hfailed)
            · rename_i hsuccess
              split at h
              · rename_i e' hsize
                cases h
                exact .misshapen hcarries (by simpa using hsuccess) hsize
              · cases h
  · rintro (⟨hdecode, hknown⟩ | ⟨hdecode, hkind, hrecord⟩ | ⟨hcarries, hfailed⟩ |
      ⟨hcarries, hsuccess, hsize⟩)
    · rename_i e'
      unfold judge
      cases e' with
      | unknownKind code => exact absurd rfl (hknown code)
      | _ => simp [hdecode]
    · simp [judge, hdecode, hkind, hrecord]
    · simp [judge_of_carries hcarries, judgeReply, hcarries.label, hfailed]
    · simp [judge_of_carries hcarries, judgeReply, hcarries.label, hsuccess, hsize]

/-- **The messages that a stream takes.** -/
theorem judge_eq_chunk_iff {chunk : ChunkReply} :
    state.judge message = .chunk chunk ↔ Belongs state message chunk := by
  constructor
  · intro h
    have hreply := judgeReply_eq_chunk_iff.mp (judge_eq_chunk h)
    obtain ⟨-, hlabel, hsuccess, hsize⟩ := hreply
    refine ⟨⟨?_, hlabel⟩, hsuccess, hsize⟩
    unfold judge at h
    split at h
    · cases h
    · cases h
    · rename_i envelope hdecode
      split at h
      · cases h
      · rename_i hkind
        split at h
        · cases h
        · rename_i reply hrecord
          obtain ⟨rfl, -⟩ := judgeReply_eq_chunk_iff.mp h
          exact ⟨envelope, hdecode, Decidable.not_not.mp hkind, hrecord⟩
  · rintro ⟨hcarries, hsuccess, hsize⟩
    simp [judge_of_carries hcarries, judgeReply, hcarries.label, hsuccess, hsize]

/-- What no messages change of a stream. -/
theorem foldl_hear_frame (state : StreamState) (messages : List Bytes) :
    (messages.foldl hear state).label = state.label ∧
      (messages.foldl hear state).layout = state.layout ∧
      (messages.foldl hear state).hint = state.hint ∧
      (messages.foldl hear state).expected = state.expected := by
  induction messages generalizing state with
  | nil => exact ⟨rfl, rfl, rfl, rfl⟩
  | cons message more ih =>
    obtain ⟨hlabel, hlayout, hhint, hexpected⟩ := ih (state.hear message)
    obtain ⟨hlabel', hlayout', hhint', hexpected'⟩ := state.hear_frame message
    exact ⟨hlabel.trans hlabel', hlayout.trans hlayout', hhint.trans hhint', hexpected.trans hexpected'⟩

end StreamState

/-! ## 2. What has arrived -/

/-- The batches that an acquisition accepts among messages: those of its chunks, or its answer's. -/
def batchesIn (c : AcquisitionConfig) (r : AcquisitionRequest) (label : String)
    (messages : List Bytes) : List Batch :=
  match c.mode with
  | .single =>
    messages.filterMap fun message =>
      (replyData r message).toOption.map fun data => (r.waveforms.toNat, data)
  | .streaming => ((StreamState.start c r label).chunksIn messages).map ChunkReply.batch

theorem batchesIn_nil (c : AcquisitionConfig) (r : AcquisitionRequest) (label : String) :
    batchesIn c r label [] = [] := by
  unfold batchesIn
  cases c.mode <;> rfl

/-- Messages behind an arrival. -/
theorem Arrival.messages_take_succ {arrivals : List Arrival} {n : Nat} {arrival : Arrival}
    (h : arrivals[n]? = some arrival) :
    messages (arrivals.take (n + 1)) = messages (arrivals.take n) ++ arrival.message?.toList := by
  rw [List.take_add_one, h, messages, List.filterMap_append]
  cases hmessage : arrival.message? <;> simp [messages, hmessage]

variable {S ω : Type} [SampleSink S ω]

namespace Surroundings

/-- The stream that the first arrivals make. -/
def heard (s : Surroundings) (c : AcquisitionConfig) (r : AcquisitionRequest) (label : String)
    (n : Nat) : StreamState :=
  (Arrival.messages (s.arrivals.take n)).foldl StreamState.hear (.start c r label)

/-- The sinks and their world, with the batches in them that are accepted among the first arrivals. -/
def kept (s : Surroundings) (c : AcquisitionConfig) (r : AcquisitionRequest) (label : String)
    (start : Reassembly S × ω) (n : Nat) : Reassembly S × ω :=
  Reassembly.appendEach (batchesIn c r label (Arrival.messages (s.arrivals.take n))) start

/-- What comes of a chunk that is appended behind them. -/
def appends (s : Surroundings) (c : AcquisitionConfig) (r : AcquisitionRequest) (label : String)
    (start : Reassembly S × ω) (n : Nat) (chunk : ChunkReply) :
    Option AcquireError × Reassembly S × ω :=
  let before := s.kept c r label start n
  before.1.append chunk.waveforms.toNat chunk.data before.2

variable {s : Surroundings} {c : AcquisitionConfig} {r : AcquisitionRequest} {label : String}
  {start : Reassembly S × ω} {n : Nat} {arrival : Arrival}

theorem heard_succ (h : s.arrivals[n]? = some arrival) :
    s.heard c r label (n + 1) =
      match arrival.message? with
      | some message => (s.heard c r label n).hear message
      | none => s.heard c r label n := by
  rw [heard, Arrival.messages_take_succ h, List.foldl_append]
  cases arrival.message? <;> rfl

theorem heard_label (s : Surroundings) (c : AcquisitionConfig) (r : AcquisitionRequest)
    (label : String) (n : Nat) : (s.heard c r label n).label = label :=
  (StreamState.foldl_hear_frame _ _).1

omit [SampleSink S ω] in
/-- A chunk that arrives is one more batch. -/
theorem batchesIn_succ (hmode : c.mode = .streaming) (h : s.arrivals[n]? = some arrival) :
    batchesIn c r label (Arrival.messages (s.arrivals.take (n + 1))) =
      batchesIn c r label (Arrival.messages (s.arrivals.take n)) ++
        ((arrival.message?.bind fun message => ((s.heard c r label n).judge message).chunk?).map
          ChunkReply.batch).toList := by
  unfold batchesIn
  rw [hmode, Arrival.messages_take_succ h]
  cases arrival.message? with
  | none => simp
  | some message =>
    have hchunks := (StreamState.start c r label).chunksIn_append
      (Arrival.messages (s.arrivals.take n)) [message]
    rw [StreamState.chunksIn_singleton] at hchunks
    simp only [Option.toList_some, hchunks, Option.bind_some, heard, List.map_append]
    cases (((Arrival.messages (s.arrivals.take n)).foldl StreamState.hear
      (.start c r label)).judge message).chunk? <;> rfl

/-- A chunk that arrives is appended to the others. -/
theorem kept_succ (hmode : c.mode = .streaming) (h : s.arrivals[n]? = some arrival) :
    s.kept c r label start (n + 1) =
      match arrival.message?.bind fun message => ((s.heard c r label n).judge message).chunk? with
      | some chunk => (s.appends c r label start n chunk).2
      | none => s.kept c r label start n := by
  unfold appends kept Reassembly.appendEach
  rw [batchesIn_succ hmode h, List.foldl_append]
  cases arrival.message?.bind fun message => ((s.heard c r label n).judge message).chunk? <;> rfl

/-- Appending keeps the layout. -/
theorem layout_kept (s : Surroundings) (c : AcquisitionConfig) (r : AcquisitionRequest)
    (label : String) (start : Reassembly S × ω) (n : Nat) :
    (s.kept c r label start n).1.layout = start.1.layout := by
  unfold kept Reassembly.appendEach
  generalize batchesIn c r label (Arrival.messages (s.arrivals.take n)) = batches
  induction batches generalizing start with
  | nil => rfl
  | cons batch more ih =>
    rw [List.foldl_cons, ih]
    exact (Reassembly.append_frame start.1 batch.1 batch.2 start.2).2.1

/-- A chunk that belongs to a stream is refused by a sink only. -/
theorem appends_eq_sink (hlayout : start.1.layout = r.layout) {message : Bytes} {chunk : ChunkReply}
    {e : AcquireError} (hbelongs : Belongs (s.heard c r label n) message chunk)
    (h : (s.appends c r label start n chunk).1 = some e) : ∃ channel fault, e = .sink channel fault := by
  obtain ⟨-, hheard, -, hexpected⟩ := StreamState.foldl_hear_frame (.start c r label)
    (Arrival.messages (s.arrivals.take n))
  obtain ⟨-, hall, hlength⟩ := StreamState.sizeError_eq_none_iff.mp hbelongs.size
  have hwithin : chunk.waveforms.toNat ≤ r.waveforms.toNat :=
    Nat.le_trans (Nat.le_add_left _ _) (Nat.le_trans hall (Nat.le_of_eq hexpected))
  have hcount := r.samplesIn?_eq_some hwithin
  rw [heard, hheard] at hlength
  refine Reassembly.append_eq_sink (w := (s.kept c r label start n).2) ?_ h
  rw [layout_kept, hlayout, hlength]
  exact hcount.trans (congrArg some ((congrArg (Option.getD · Word.top) hcount).symm))

end Surroundings

/-! ## 3. What ends a stream -/

/-- **What ends a stream** when `n` arrivals have come before: the arrival, and the result that it
determines. -/
inductive Ends (c : AcquisitionConfig) (r : AcquisitionRequest) (label : String) (s : Surroundings)
    (start : Reassembly S × ω) (n : Nat) : Arrival → Except AcquireError Summary → Prop
  /-- A chunk after which no others come. -/
  | lastChunk {message : Bytes} {chunk : ChunkReply}
      (belongs : Belongs (s.heard c r label n) message chunk)
      (appended : (s.appends c r label start n chunk).1 = none) (final : chunk.isFinal = true) :
      Ends c r label s start n (.message message)
        (.ok (((s.heard c r label n).advance chunk).summary r (c.creditFor r)))
  /-- A message that is at fault. -/
  | fatal {message : Bytes} {e : AcquireError} (fatal : Fatal (s.heard c r label n) message e) :
      Ends c r label s start n (.message message) (.error e)
  /-- A chunk that a sink does not take. -/
  | sinkFails {message : Bytes} {chunk : ChunkReply} {channel : UInt32} {fault : Fault}
      (belongs : Belongs (s.heard c r label n) message chunk)
      (refused : (s.appends c r label start n chunk).1 = some (.sink channel fault)) :
      Ends c r label s start n (.message message) (.error (.sink channel fault))
  /-- A link that failed. -/
  | linkFails {e : LinkError} (notTimeout : ∀ after, e ≠ .timeout after) :
      Ends c r label s start n (.fails e) (.error (.receive e))
  /-- A message that is passed over, or a wait in which nothing came, when the time is up by then. -/
  | tooLate {arrival : Arrival} (unconcerned : arrival.concerns label = false)
      (late : c.replyTimeout ≤ (s.clock.after (n + 1)).sub (s.waitsSince .streaming label n)) :
      Ends c r label s start n arrival (.error (.timeout c.replyTimeout))

/-- What does not concern a stream is no chunk of it. -/
theorem StreamState.chunk?_of_unconcerned {state : StreamState} {arrival : Arrival}
    (h : arrival.concerns state.label = false) :
    (arrival.message?.bind fun message => (state.judge message).chunk?) = none := by
  cases arrival with
  | message octets =>
    have hforeign : Foreign state.label octets := by simpa [Arrival.concerns] using h
    simp [Arrival.message?, judge_eq_foreign_iff.mpr hforeign, Verdict.chunk?]
  | fails e => rfl
  | quiet => rfl

omit [SampleSink S ω] in
theorem Underway.Same.bare_eq {u other : Underway S ω} (h : u.Same other) : u.bare = other.bare := by
  rw [Underway.bare, h.reassembly, h.world]
  rfl

namespace ChunkLoop

variable {c : AcquisitionConfig} {r : AcquisitionRequest} {label : String} {s : Surroundings}
  {start : Reassembly S × ω}

/-- A loop hears what it passes over. -/
theorem hear_of_unconcerned {loop : ChunkLoop S ω} (wait : Duration) {arrival : Arrival}
    (h : arrival.concerns loop.state.label = false) :
    (loop.meet wait arrival).state =
      match arrival.message? with
      | some message => loop.state.hear message
      | none => loop.state := by
  cases arrival with
  | message octets =>
    have hforeign : Foreign loop.state.label octets := by simpa [Arrival.concerns] using h
    have hjudge := StreamState.judge_eq_foreign_iff.mpr hforeign
    rw [meet_message, StreamState.accept_of_foreign hjudge]
    simp [StreamState.orAfter, Arrival.message?, StreamState.hear, hjudge]
  | fails e => exact (loop.meet_of_no_message wait rfl).1
  | quiet => exact (loop.meet_of_no_message wait rfl).1

/-- A message that is at fault is not appended. -/
theorem meet_of_fatal {loop : ChunkLoop S ω} (wait : Duration) {message : Bytes} {e : AcquireError}
    (h : loop.state.judge message = .fatal e) :
    loop.meet wait (.message message) = ⟨.failure e, loop.state, loop.underway.did (.awaits wait)⟩ := by
  rw [meet_message, StreamState.accept_of_fatal h]
  rfl

/-- A chunk that belongs to a loop's stream is appended to the sinks. -/
theorem meet_of_belongs {loop : ChunkLoop S ω} (wait : Duration) {message : Bytes} {chunk : ChunkReply}
    (h : loop.state.judge message = .chunk chunk) :
    let appended := loop.underway.bare.1.append chunk.waveforms.toNat chunk.data loop.underway.bare.2
    (loop.meet wait (.message message)).underway.bare = appended.2 ∧
      (∀ e, appended.1 = some e → (loop.meet wait (.message message)).finding = .failure e) ∧
      (appended.1 = none →
        (loop.meet wait (.message message)).state = loop.state.advance chunk ∧
        (loop.meet wait (.message message)).finding =
          if chunk.isFinal then .lastChunk else .chunk) := by
  have hbare := loop.underway.reassembly.bare_append chunk.waveforms.toNat chunk.data
    (loop.underway.world.did (.awaits wait))
  rw [meet_message, StreamState.accept_of_chunk h]
  generalize loop.underway.reassembly.append chunk.waveforms.toNat chunk.data
    (loop.underway.world.did (.awaits wait)) = appended at hbare ⊢
  have hsame : loop.underway.bare.1.append chunk.waveforms.toNat chunk.data loop.underway.bare.2 =
    (appended.1, appended.2.1.bare, appended.2.2.world) := hbare
  simp only [hsame]
  refine ⟨rfl, ?_, ?_⟩
  · intro e hfault
    simp only [hfault]
    rfl
  · intro hnone
    simp only [hnone]
    refine ⟨rfl, ?_⟩
    cases chunk.isFinal <;> rfl

/-- A loop that has taken the first arrivals and nothing else. -/
structure Tracks (c : AcquisitionConfig) (r : AcquisitionRequest) (label : String) (s : Surroundings)
    (start : Reassembly S × ω) (loop : ChunkLoop S ω) : Prop where
  state : loop.state = s.heard c r label loop.receives
  since : loop.since = s.waitsSince .streaming label loop.receives
  kept : loop.underway.bare = s.kept c r label start loop.receives

namespace Tracks

variable {loop : ChunkLoop S ω} {arrival : Arrival} {outcome : Except AcquireError Summary}

theorem label_eq (h : loop.Tracks c r label s start) : loop.state.label = label := by
  rw [h.state, Surroundings.heard_label]

/-- A loop keeps track of an arrival in which there is no chunk of it. -/
theorem kept_of_none (h : loop.Tracks c r label s start) (hmode : c.mode = .streaming)
    (harrival : s.arrivals[loop.receives]? = some arrival)
    (hnone : (arrival.message?.bind fun message => (loop.state.judge message).chunk?) = none) :
    s.kept c r label start (loop.receives + 1) = loop.underway.bare := by
  rw [Surroundings.kept_succ hmode harrival, ← h.state, hnone, h.kept]

/-- A loop keeps track of a chunk that belongs to it. -/
theorem kept_of_chunk (h : loop.Tracks c r label s start) (hmode : c.mode = .streaming)
    {message : Bytes} {chunk : ChunkReply}
    (harrival : s.arrivals[loop.receives]? = some (.message message))
    (hjudge : loop.state.judge message = .chunk chunk) :
    s.kept c r label start (loop.receives + 1) =
      (s.appends c r label start loop.receives chunk).2 := by
  rw [Surroundings.kept_succ hmode harrival, ← h.state]
  simp [Arrival.message?, hjudge, Verdict.chunk?]

/-- **A turn ends a loop where something ends its stream**, with the result that this determines. -/
theorem ends (h : loop.Tracks c r label s start) (hmode : c.mode = .streaming)
    (harrival : s.arrivals[loop.receives]? = some arrival)
    (hends : Ends c r label s start loop.receives arrival outcome) :
    ∃ u, loop.turn c r s arrival = .ended outcome u ∧
      u.bare = s.kept c r label start (loop.receives + 1) := by
  cases hends with
  | @lastChunk message chunk belongs appended final =>
    have hjudge : loop.state.judge message = .chunk chunk := by
      rw [h.state]
      exact StreamState.judge_eq_chunk_iff.mpr belongs
    obtain ⟨hbare, -, hnone⟩ := meet_of_belongs c.chunkWait hjudge
    rw [h.kept] at hbare hnone
    obtain ⟨hstate, hfinding⟩ := hnone appended
    rw [if_pos final] at hfinding
    refine ⟨_, ?_, hbare.trans (h.kept_of_chunk hmode harrival hjudge).symm⟩
    rw [turn_of_finding hfinding, hstate, h.state]
  | @fatal message e fatal =>
    have hjudge : loop.state.judge message = .fatal e := by
      rw [h.state]
      exact StreamState.judge_eq_fatal_iff.mpr fatal
    have hmet := meet_of_fatal c.chunkWait hjudge
    refine ⟨_, turn_of_finding (congrArg Meeting.finding hmet), ?_⟩
    rw [hmet, h.kept_of_none hmode harrival (by simp [Arrival.message?, hjudge, Verdict.chunk?])]
    rfl
  | @sinkFails message chunk channel fault belongs refused =>
    have hjudge : loop.state.judge message = .chunk chunk := by
      rw [h.state]
      exact StreamState.judge_eq_chunk_iff.mpr belongs
    obtain ⟨hbare, hfault, -⟩ := meet_of_belongs c.chunkWait hjudge
    rw [h.kept] at hbare hfault
    exact ⟨_, turn_of_finding (hfault _ refused),
      hbare.trans (h.kept_of_chunk hmode harrival hjudge).symm⟩
  | @linkFails e notTimeout =>
    have hfinding : (loop.meet c.chunkWait (.fails e)).finding = .failure (.receive e) := by
      cases e with
      | timeout after => exact absurd rfl (notTimeout after)
      | _ => rfl
    refine ⟨_, turn_of_finding hfinding, ?_⟩
    rw [(loop.meet_of_no_message c.chunkWait rfl).2, h.kept_of_none hmode harrival rfl]
    rfl
  | tooLate unconcerned late =>
    have hunconcerned : arrival.concerns loop.state.label = false := h.label_eq.symm ▸ unconcerned
    obtain ⟨hfinding, -, hsame⟩ := meet_of_unconcerned c.chunkWait hunconcerned
    rw [← h.since] at late
    refine ⟨(loop.meet c.chunkWait arrival).underway, ?_, ?_⟩
    · rw [turn_of_finding hfinding]
      exact if_pos late
    · rw [hsame.bare_eq,
        h.kept_of_none hmode harrival (StreamState.chunk?_of_unconcerned hunconcerned)]

/-- **A turn lets a loop go on where nothing ends its stream**, unless the caller has given up. -/
theorem goes_on (h : loop.Tracks c r label s start) (hmode : c.mode = .streaming)
    (hlayout : start.1.layout = r.layout) (harrival : s.arrivals[loop.receives]? = some arrival)
    (hgoing : ∀ outcome, ¬Ends c r label s start loop.receives arrival outcome) :
    ∃ later, loop.turn c r s arrival = unlessCancelled s later ∧
      later.receives = loop.receives + 1 ∧ later.Tracks c r label s start := by
  by_cases hconcerns : arrival.concerns label = true
  · -- It concerns the stream: with everything else excluded, it is a chunk after which others come.
    cases arrival with
    | quiet => cases hconcerns
    | fails e =>
      refine absurd (Ends.linkFails ?_) (hgoing (.error (.receive e)))
      rintro after rfl
      cases hconcerns
    | message message =>
      cases hjudge : loop.state.judge message with
      | foreign =>
        have hforeign := StreamState.judge_eq_foreign_iff.mp hjudge
        rw [h.label_eq] at hforeign
        simp [Arrival.concerns, hforeign] at hconcerns
      | fatal e =>
        rw [h.state] at hjudge
        exact absurd (Ends.fatal (StreamState.judge_eq_fatal_iff.mp hjudge)) (hgoing _)
      | chunk chunk =>
        have hbelongs : Belongs (s.heard c r label loop.receives) message chunk := by
          rw [← h.state]
          exact StreamState.judge_eq_chunk_iff.mp hjudge
        obtain ⟨hbare, -, hnone⟩ := meet_of_belongs c.chunkWait hjudge
        rw [h.kept] at hbare hnone
        cases happended : (s.appends c r label start loop.receives chunk).1 with
        | some e =>
          obtain ⟨channel, fault, rfl⟩ := Surroundings.appends_eq_sink hlayout hbelongs happended
          exact absurd (Ends.sinkFails hbelongs happended) (hgoing _)
        | none =>
          obtain ⟨hstate, hfinding⟩ := hnone happended
          have hmore : ¬chunk.isFinal = true := fun hfinal =>
            hgoing _ (Ends.lastChunk hbelongs happended hfinal)
          rw [if_neg hmore] at hfinding
          refine ⟨_, turn_of_finding hfinding, rfl, ?_, ?_, ?_⟩
          · rw [Surroundings.heard_succ harrival, ← h.state, hstate]
            simp [Arrival.message?, StreamState.hear, hjudge]
          · rw [Surroundings.waitsSince_succ harrival, if_pos hconcerns]
          · exact hbare.trans (h.kept_of_chunk hmode harrival hjudge).symm
  · have hunconcerned : arrival.concerns label = false := Bool.eq_false_iff.mpr hconcerns
    have hunconcerned' : arrival.concerns loop.state.label = false := h.label_eq.symm ▸ hunconcerned
    obtain ⟨hfinding, -, hsame⟩ := meet_of_unconcerned c.chunkWait hunconcerned'
    have hearly : ¬c.replyTimeout ≤ (s.clock.after (loop.receives + 1)).sub loop.since := by
      rw [h.since]
      exact fun late => hgoing _ (Ends.tooLate hunconcerned late)
    refine ⟨⟨loop.receives + 1, loop.since, (loop.meet c.chunkWait arrival).state,
      (loop.meet c.chunkWait arrival).underway⟩, ?_, rfl, ?_, ?_, ?_⟩
    · rw [turn_of_finding hfinding]
      exact if_neg hearly
    · rw [Surroundings.heard_succ harrival, ← h.state]
      exact hear_of_unconcerned c.chunkWait hunconcerned'
    · rw [Surroundings.waitsSince_succ harrival, if_neg hconcerns]
      exact h.since
    · rw [h.kept_of_none hmode harrival (StreamState.chunk?_of_unconcerned hunconcerned')]
      exact hsame.bare_eq

/-- **A loop that is still there after some arrivals has taken them**, and nothing among them ends its
stream. -/
theorem after {later : ChunkLoop S ω} {arrivals rest : List Arrival} (h : loop.Tracks c r label s start)
    (hmode : c.mode = .streaming) (hlayout : start.1.layout = r.layout)
    (hahead : s.arrivals.drop loop.receives = arrivals ++ rest)
    (hafter : loop.after c r s arrivals = some later) :
    later.Tracks c r label s start ∧
      ∀ n, loop.receives ≤ n → n < later.receives → ∀ arrival outcome,
        s.arrivals[n]? = some arrival → ¬Ends c r label s start n arrival outcome := by
  induction arrivals generalizing loop with
  | nil =>
    cases hafter
    exact ⟨h, fun n hle hlt => absurd hlt (Nat.not_lt.mpr hle)⟩
  | cons arrival arrivals ih =>
    have harrival := getElem?_of_drop hahead
    have hgoing : ∀ outcome, ¬Ends c r label s start loop.receives arrival outcome := by
      intro outcome hends
      obtain ⟨u, hturn, -⟩ := h.ends hmode harrival hends
      rw [ChunkLoop.after, hturn] at hafter
      cases hafter
    obtain ⟨next, hturn, hreceives, hnext⟩ := h.goes_on hmode hlayout harrival hgoing
    rw [ChunkLoop.after, hturn] at hafter
    unfold unlessCancelled at hafter
    split at hafter
    · rename_i hended
      split at hended <;> cases hended
      have hrest := drop_succ_of_drop hahead
      rw [← hreceives] at hrest
      obtain ⟨hlater, hopen⟩ := ih hnext hrest hafter
      refine ⟨hlater, ?_⟩
      intro n hle hlt
      rcases Nat.eq_or_lt_of_le hle with rfl | hbehind
      · intro other outcome hother
        obtain rfl := Option.some.inj (harrival.symm.trans hother)
        exact hgoing outcome
      · exact hopen n (by omega) hlt
    · cases hafter

end Tracks

end ChunkLoop

end Readout

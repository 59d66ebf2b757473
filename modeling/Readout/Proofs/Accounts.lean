/-
# The accounts of a stream of chunks

A stream of chunks keeps count of what it has received, and its reassembly keeps the samples.  Both
follow from the messages alone: `StreamState.verdicts` says what each message means in its turn, and
the chunks that are let through, one behind the other, are what the sinks have got.

* `StreamState.accept_unchanged` -- what is not appended changes nothing;
* `Books.meet` -- whatever arrives, the loop keeps the books;
* `acquire_accounts` -- the accounts of every acquisition with chunks are in order, at its end and at
  every point before.
-/
import Readout.Proofs.Exchange

namespace Readout

open Control

/-! ## 1. What messages mean -/

/-- The chunk that a verdict lets through. -/
def Verdict.chunk? : Verdict → Option ChunkReply
  | chunk reply => some reply
  | _ => none

/-- How many waveforms chunks hold. -/
def waveformsIn : List ChunkReply → Nat
  | [] => 0
  | chunk :: more => chunk.waveforms.toNat + waveformsIn more

theorem waveformsIn_append (chunks more : List ChunkReply) :
    waveformsIn (chunks ++ more) = waveformsIn chunks + waveformsIn more := by
  induction chunks with
  | nil => rw [List.nil_append, waveformsIn, Nat.zero_add]
  | cons chunk chunks ih => rw [List.cons_append, waveformsIn, waveformsIn, ih, Nat.add_assoc]

namespace StreamState

/-- The stream after a message, when no sink fails. -/
def hear (s : StreamState) (message : Bytes) : StreamState :=
  match s.judge message with
  | .foreign => { s with discarded := s.discarded + 1 }
  | .fatal _ => s
  | .chunk reply => s.advance reply

/-- What messages mean, one after another. -/
def verdicts : StreamState → List Bytes → List Verdict
  | _, [] => []
  | s, message :: more => s.judge message :: (s.hear message).verdicts more

/-- The chunks that are accepted among messages. -/
def chunksIn (s : StreamState) (messages : List Bytes) : List ChunkReply :=
  (s.verdicts messages).filterMap Verdict.chunk?

/-- How many messages are passed over. -/
def discardedIn (s : StreamState) (messages : List Bytes) : Nat :=
  (s.verdicts messages).countP (· == .foreign)

theorem verdicts_append (s : StreamState) (first second : List Bytes) :
    s.verdicts (first ++ second) = s.verdicts first ++ (first.foldl hear s).verdicts second := by
  induction first generalizing s with
  | nil => rfl
  | cons message more ih =>
    rw [List.cons_append, verdicts, ih, verdicts, List.cons_append, List.foldl_cons]

theorem chunksIn_append (s : StreamState) (first second : List Bytes) :
    s.chunksIn (first ++ second) = s.chunksIn first ++ (first.foldl hear s).chunksIn second := by
  rw [chunksIn, verdicts_append, List.filterMap_append]
  rfl

theorem chunksIn_singleton (s : StreamState) (message : Bytes) :
    s.chunksIn [message] = (s.judge message).chunk?.toList := by
  cases h : s.judge message <;> simp [chunksIn, verdicts, h, Verdict.chunk?]

theorem discardedIn_append (s : StreamState) (first second : List Bytes) :
    s.discardedIn (first ++ second) =
      s.discardedIn first + (first.foldl hear s).discardedIn second := by
  rw [discardedIn, verdicts_append, List.countP_append]
  rfl

/-- What no message changes of a stream. -/
theorem hear_frame (s : StreamState) (message : Bytes) :
    (s.hear message).label = s.label ∧ (s.hear message).layout = s.layout ∧
      (s.hear message).hint = s.hint ∧ (s.hear message).expected = s.expected := by
  unfold hear
  split <;> exact ⟨rfl, rfl, rfl, rfl⟩

/-- The sizes of a chunk that is let through. -/
theorem sizeError_eq_none_iff {s : StreamState} {reply : ChunkReply} :
    s.sizeError reply = none ↔
      reply.waveforms.toNat ≤ s.hint ∧ s.received + reply.waveforms.toNat ≤ s.expected ∧
        reply.data.length = (s.layout.samplesIn? reply.waveforms.toNat).getD Word.top := by
  simp only [sizeError]
  split
  · simp only [reduceCtorEq, false_iff]
    omega
  · split
    · simp only [reduceCtorEq, false_iff]
      omega
    · split
      · rename_i h
        simp only [reduceCtorEq, false_iff]
        exact fun hsizes => h hsizes.2.2
      · rename_i h₁ h₂ h₃
        exact iff_of_true rfl ⟨Nat.le_of_not_lt h₁, Nat.le_of_not_lt h₂, Decidable.not_not.mp h₃⟩

/-- What is known of a message that is let through as a chunk. -/
theorem judgeReply_eq_chunk_iff {s : StreamState} {reply chunk : ChunkReply} :
    s.judgeReply reply = .chunk chunk ↔
      reply = chunk ∧ chunk.label = s.label ∧ chunk.success = true ∧ s.sizeError chunk = none := by
  unfold judgeReply
  split
  · rename_i h
    simp only [reduceCtorEq, false_iff]
    rintro ⟨rfl, hlabel, -⟩
    exact h hlabel
  · rename_i hlabel
    split
    · rename_i h
      simp only [reduceCtorEq, false_iff]
      rintro ⟨rfl, -, hsuccess, -⟩
      simp [hsuccess] at h
    · rename_i hsuccess
      split
      · rename_i e h
        simp only [reduceCtorEq, false_iff]
        rintro ⟨rfl, -, -, hsize⟩
        rw [hsize] at h
        cases h
      · rename_i hsize
        simp only [Verdict.chunk.injEq]
        constructor
        · rintro rfl
          exact ⟨rfl, Decidable.not_not.mp hlabel, by simpa using hsuccess, hsize⟩
        · exact fun h => h.1

theorem judge_eq_chunk {s : StreamState} {message : Bytes} {reply : ChunkReply}
    (h : s.judge message = .chunk reply) : s.judgeReply reply = .chunk reply := by
  unfold judge at h
  split at h
  · cases h
  · cases h
  · split at h
    · cases h
    · split at h
      · cases h
      · obtain ⟨rfl, hrest⟩ := judgeReply_eq_chunk_iff.mp h
        exact judgeReply_eq_chunk_iff.mpr ⟨rfl, hrest⟩

/-! ## 2. Counting -/

/-- The counters after a message. -/
theorem hear_counts (s : StreamState) (message : Bytes) :
    (s.hear message).received =
        s.received + waveformsIn (s.chunksIn [message]) ∧
      (s.hear message).chunks = s.chunks + (s.chunksIn [message]).length ∧
      (s.hear message).discarded = s.discarded + s.discardedIn [message] := by
  simp only [hear, chunksIn, discardedIn, verdicts]
  cases s.judge message with
  | foreign => exact ⟨rfl, rfl, rfl⟩
  | fatal e => exact ⟨rfl, rfl, rfl⟩
  | chunk reply => exact ⟨rfl, rfl, rfl⟩

/-- The counters after messages. -/
theorem foldl_hear_counts (s : StreamState) (messages : List Bytes) :
    (messages.foldl hear s).received =
        s.received + waveformsIn (s.chunksIn messages) ∧
      (messages.foldl hear s).chunks = s.chunks + (s.chunksIn messages).length ∧
      (messages.foldl hear s).discarded = s.discarded + s.discardedIn messages := by
  induction messages generalizing s with
  | nil => exact ⟨rfl, rfl, rfl⟩
  | cons message more ih =>
    obtain ⟨hreceived, hchunks, hdiscarded⟩ := hear_counts s message
    obtain ⟨ihreceived, ihchunks, ihdiscarded⟩ := ih (s.hear message)
    have hcons : s.chunksIn (message :: more) =
        s.chunksIn [message] ++ (s.hear message).chunksIn more := chunksIn_append s [message] more
    have hpassed : s.discardedIn (message :: more) =
        s.discardedIn [message] + (s.hear message).discardedIn more :=
      discardedIn_append s [message] more
    rw [List.foldl_cons, ihreceived, ihchunks, ihdiscarded, hreceived, hchunks, hdiscarded, hcons,
      hpassed]
    refine ⟨?_, ?_, Nat.add_assoc _ _ _⟩
    · rw [waveformsIn_append, Nat.add_assoc]
    · rw [List.length_append, Nat.add_assoc]

/-- No more waveforms are received than were asked for. -/
theorem foldl_hear_received_le {s : StreamState} (h : s.received ≤ s.expected)
    (messages : List Bytes) : (messages.foldl hear s).received ≤ s.expected := by
  induction messages generalizing s with
  | nil => exact h
  | cons message more ih =>
    have hexpected := (hear_frame s message).2.2.2
    rw [List.foldl_cons, ← hexpected]
    apply ih
    rw [hexpected]
    unfold hear
    split
    · exact h
    · exact h
    · rename_i reply hjudge
      obtain ⟨-, -, -, hsize⟩ := judgeReply_eq_chunk_iff.mp (judge_eq_chunk hjudge)
      exact (sizeError_eq_none_iff.mp hsize).2.1

end StreamState

namespace AcquisitionRequest

/-- Data of no more waveforms than were asked for can be counted. -/
theorem samplesIn?_eq_some (r : AcquisitionRequest) {waveforms : Nat}
    (h : waveforms ≤ r.waveforms.toNat) :
    r.layout.samplesIn? waveforms =
      some (r.layout.channels * r.layout.samples * waveforms) := by
  have hfits := r.acceptable.fits
  have hpos : 0 < r.waveforms.toNat :=
    Nat.pos_of_ne_zero fun h => r.acceptable.waveforms_pos (UInt32.toNat_inj.mp h)
  have hall : r.layout.channels * r.layout.samples * r.waveforms.toNat < Word.size := by
    refine Nat.lt_of_le_of_lt (Nat.le_mul_of_pos_right _ ?_) hfits
    decide
  refine Layout.samplesIn?_eq_some_iff.mpr ⟨?_, rfl, ?_⟩
  · exact Nat.lt_of_le_of_lt (Nat.le_mul_of_pos_right _ hpos) hall
  · exact Nat.lt_of_le_of_lt (Nat.mul_le_mul_left _ h) hall

/-- The count of all samples is their product, and not the word that stands for too many. -/
theorem totalSamples_eq (r : AcquisitionRequest) :
    r.totalSamples = r.layout.channels * r.layout.samples * r.waveforms.toNat := by
  rw [totalSamples, r.samplesIn?_eq_some (Nat.le_refl _), Option.getD_some]

/-- What chunks hold for the channel at a place. -/
def gathered (r : AcquisitionRequest) (chunks : List ChunkReply) (place : Nat) : List UInt16 :=
  chunks.flatMap fun reply => r.layout.channelSamples place reply.waveforms.toNat reply.data

theorem length_gathered (r : AcquisitionRequest) (chunks : List ChunkReply) (place : Nat) :
    (r.gathered chunks place).length = waveformsIn chunks * r.samples.toNat := by
  induction chunks with
  | nil => simp [gathered, waveformsIn]
  | cons reply more ih =>
    rw [gathered, List.flatMap_cons, List.length_append, Layout.length_channelSamples, ← gathered, ih,
      waveformsIn, Nat.add_mul]
    rfl

end AcquisitionRequest

variable {S ω : Type} [SampleSink S ω]

namespace StreamState

/-! ## 3. What is not appended -/

/-- **What is not appended changes nothing**: a message that is passed over, or answered with an error
when no sink has failed, leaves the sinks and the world, the samples that were received and the count of
chunks as they were. -/
theorem accept_unchanged (v : SinkView S ω) {s : StreamState} {message : Bytes}
    {reassembly : Reassembly S} {w : ω}
    (hstep : ∀ step after, (s.accept message reassembly w).1 = .ok (step, after) → step = .discarded)
    (hsound : ∀ sink ∈ (s.accept message reassembly w).2.1.sinks, ¬v.spoilt sink) :
    (s.accept message reassembly w).2 = (reassembly, w) ∧
      (s.orAfter (s.accept message reassembly w).1).received = s.received ∧
      (s.orAfter (s.accept message reassembly w).1).chunks = s.chunks := by
  cases hjudge : s.judge message with
  | foreign =>
    rw [accept_of_foreign hjudge]
    exact ⟨rfl, rfl, rfl⟩
  | fatal e =>
    rw [accept_of_fatal hjudge]
    exact ⟨rfl, rfl, rfl⟩
  | chunk reply =>
    rw [accept_of_chunk hjudge] at hstep hsound ⊢
    cases hfault : (reassembly.append reply.waveforms.toNat reply.data w).1 with
    | some e => exact ⟨Reassembly.append_of_error v hfault hsound, rfl, rfl⟩
    | none =>
      have hfalse := hstep _ _ (by rw [hfault])
      split at hfalse <;> cases hfalse

end StreamState

/-! ## 4. The books -/

/-- What is true of a stream and its reassembly after some messages, however sinks behave; and, when no
sink is spoilt, that the stream is what the messages make of it and the sinks hold what the chunks among
them hold. -/
structure Books (v : SinkView S ω) (r : AcquisitionRequest) (opened : List S) (first : StreamState)
    (messages : List Bytes) (state : StreamState) (reassembly : Reassembly S) : Prop where
  regular : reassembly.Regular
  layout : reassembly.layout = r.layout
  frame : state.layout = r.layout ∧ state.expected = r.waveforms.toNat
  sound : (∀ sink ∈ reassembly.sinks, ¬v.spoilt sink) →
    state = messages.foldl StreamState.hear first ∧
      reassembly.waveforms.toNat = state.received ∧
      ∀ i, (reassembly.sinks.map v.holds)[i]? =
        (opened.map v.holds)[i]?.map (· ++ r.gathered (first.chunksIn messages) i)

namespace Books

variable {v : SinkView S ω} {r : AcquisitionRequest} {opened : List S} {first : StreamState}
  {messages : List Bytes} {state : StreamState} {reassembly : Reassembly S}

/-- A chunk that is let through has no more waveforms than are due. -/
theorem due_of_chunk (h : Books v r opened first messages state reassembly) {message : Bytes}
    {reply : ChunkReply} (hjudge : state.judge message = .chunk reply) :
    state.received + reply.waveforms.toNat ≤ r.waveforms.toNat := by
  obtain ⟨-, hexpected⟩ := h.frame
  obtain ⟨-, -, -, hsize⟩ :=
    StreamState.judgeReply_eq_chunk_iff.mp (StreamState.judge_eq_chunk hjudge)
  obtain ⟨-, hall, -⟩ := StreamState.sizeError_eq_none_iff.mp hsize
  exact hexpected ▸ hall

/-- A chunk that is let through has the right size for the reassembly. -/
theorem size_of_chunk (h : Books v r opened first messages state reassembly) {message : Bytes}
    {reply : ChunkReply} (hjudge : state.judge message = .chunk reply) :
    reassembly.layout.samplesIn? reply.waveforms.toNat = some reply.data.length := by
  obtain ⟨hlayout, -⟩ := h.frame
  obtain ⟨-, -, -, hsize⟩ :=
    StreamState.judgeReply_eq_chunk_iff.mp (StreamState.judge_eq_chunk hjudge)
  obtain ⟨-, -, hlength⟩ := StreamState.sizeError_eq_none_iff.mp hsize
  have hdue := h.due_of_chunk hjudge
  have hcount := r.samplesIn?_eq_some (show reply.waveforms.toNat ≤ r.waveforms.toNat by omega)
  rw [hlayout, hcount, Option.getD_some] at hlength
  rw [h.layout, hcount, hlength]

/-- A message that is no chunk for the stream keeps the books. -/
theorem pass (h : Books v r opened first messages state reassembly) {message : Bytes}
    (hnone : (state.judge message).chunk? = none) :
    Books v r opened first (messages ++ [message]) (state.hear message) reassembly := by
  obtain ⟨-, hlayout, -, hexpected⟩ := state.hear_frame message
  obtain ⟨hreceived, -, -⟩ := state.hear_counts message
  have hquiet : state.chunksIn [message] = [] := by
    rw [StreamState.chunksIn_singleton, hnone]
    rfl
  rw [hquiet] at hreceived
  refine ⟨h.regular, h.layout, ⟨hlayout.trans h.frame.1, hexpected.trans h.frame.2⟩, ?_⟩
  intro hsound
  obtain ⟨hstate, hwaveforms, hholds⟩ := h.sound hsound
  have hchunks := first.chunksIn_append messages [message]
  rw [← hstate, hquiet, List.append_nil] at hchunks
  refine ⟨?_, hwaveforms.trans hreceived.symm, ?_⟩
  · rw [List.foldl_append, ← hstate]
    rfl
  · rw [hchunks]
    exact hholds

/-- What the sinks hold after a chunk, when all of its samples were appended. -/
theorem holds_of_chunk (h : Books v r opened first messages state reassembly) {message : Bytes}
    {reply : ChunkReply} (hjudge : state.judge message = .chunk reply)
    (hsound : ∀ sink ∈ reassembly.sinks, ¬v.spoilt sink) (i : Nat) :
    (List.zipWith (· ++ ·) (reassembly.sinks.map v.holds)
        (reassembly.layout.allSamples reply.waveforms.toNat reply.data))[i]? =
      (opened.map v.holds)[i]?.map
        (· ++ r.gathered (first.chunksIn (messages ++ [message])) i) := by
  obtain ⟨hstate, -, hholds⟩ := h.sound hsound
  have hchunks := first.chunksIn_append messages [message]
  rw [← hstate, StreamState.chunksIn_singleton, hjudge] at hchunks
  have hheld := hholds i
  rw [hchunks, List.getElem?_zipWith, hheld, h.layout]
  cases hopened : (opened.map v.holds)[i]? with
  | none => rfl
  | some before =>
    rw [hopened] at hheld
    have hplace : i < r.layout.channels := by
      have hlt := (List.getElem?_eq_some_iff.mp hheld).1
      rw [List.length_map, ← h.regular.layout, h.layout] at hlt
      exact hlt
    simp [Layout.allSamples, hplace, Verdict.chunk?, AcquisitionRequest.gathered]

/-- **Taking a message keeps the books.** -/
theorem accept (h : Books v r opened first messages state reassembly) (message : Bytes) (w : ω) :
    Books v r opened first (messages ++ [message])
      (state.orAfter (state.accept message reassembly w).1)
      (state.accept message reassembly w).2.1 := by
  cases hjudge : state.judge message with
  | foreign =>
    have hpass := h.pass (show (state.judge message).chunk? = none by rw [hjudge]; rfl)
    rw [StreamState.hear, hjudge] at hpass
    rw [StreamState.accept_of_foreign hjudge]
    exact hpass
  | fatal e =>
    have hpass := h.pass (show (state.judge message).chunk? = none by rw [hjudge]; rfl)
    rw [StreamState.hear, hjudge] at hpass
    rw [StreamState.accept_of_fatal hjudge]
    exact hpass
  | chunk reply =>
    have hsize := h.size_of_chunk hjudge
    obtain ⟨-, hlayout, -⟩ :=
      Reassembly.append_frame reassembly reply.waveforms.toNat reply.data w
    rw [StreamState.accept_of_chunk hjudge]
    refine ⟨h.regular.append _ _ _, hlayout.trans h.layout, ?_, ?_⟩
    · cases (reassembly.append reply.waveforms.toNat reply.data w).1 with
      | some e => exact h.frame
      | none => exact h.frame
    · intro hsound
      obtain ⟨hnone, hcount, hgot, hbefore⟩ :=
        Reassembly.append_of_not_spoilt v h.regular hsize hsound
      obtain ⟨hstate, hwaveforms, -⟩ := h.sound hbefore
      have hafter : (messages ++ [message]).foldl StreamState.hear first = state.advance reply := by
        rw [List.foldl_append, ← hstate, List.foldl_cons, List.foldl_nil, StreamState.hear, hjudge]
      simp only [hnone, StreamState.orAfter]
      refine ⟨hafter.symm, ?_, ?_⟩
      · have hword : reassembly.waveforms.toNat + reply.waveforms.toNat < Word.size :=
          Word.lt_size_of_le (hwaveforms ▸ h.due_of_chunk hjudge)
        rw [hcount, Word.toNat_add_ofNat_eq_iff.mpr hword, hwaveforms]
        rfl
      · intro i
        rw [hgot]
        exact h.holds_of_chunk hjudge hbefore i

end Books

/-- **Whatever arrives, the loop keeps the books.** -/
theorem Books.meet {v : SinkView (TracedSink S) (Traced ω)} {r : AcquisitionRequest}
    {opened : List (TracedSink S)} {first : StreamState} {met : List Arrival}
    {loop : ChunkLoop S ω} (wait : Duration) (arrival : Arrival)
    (h : Books v r opened first (Arrival.messages met) loop.state loop.underway.reassembly) :
    Books v r opened first (Arrival.messages (met ++ [arrival])) (loop.meet wait arrival).state
      (loop.meet wait arrival).underway.reassembly := by
  have hmessages : Arrival.messages (met ++ [arrival]) =
      Arrival.messages met ++ arrival.message?.toList := by
    rw [Arrival.messages, List.filterMap_append]
    cases harrival : arrival.message? <;> simp [Arrival.messages, harrival]
  rw [hmessages]
  cases hmessage : arrival.message? with
  | none =>
    obtain ⟨hstate, hunderway⟩ := loop.meet_of_no_message wait hmessage
    rw [hstate, hunderway, Option.toList_none, List.append_nil]
    exact h
  | some octets =>
    obtain rfl := Arrival.eq_message hmessage
    rw [loop.meet_message]
    exact h.accept octets _

/-! ## 5. Acquisitions -/

/-- The loop of an acquisition after some arrivals, if it takes chunks then. -/
def loopAfter (c : AcquisitionConfig) (r : AcquisitionRequest) (label : String) (s : Surroundings)
    (factory : SinkFactory S ω) (world : ω) (met : Nat) : Option (ChunkLoop S ω) :=
  match Beginning.of c r s factory world with
  | .opened u => (ChunkLoop.start? c r label s u).bind (·.after c r s (s.arrivals.take met))
  | _ => none

/-- The accounts of a stream that began as `first` and was given messages, when its sinks held `before`
and now hold `after`. -/
structure Accounts (r : AcquisitionRequest) (first : StreamState) (messages : List Bytes)
    (before after : List (List UInt16)) (state : StreamState) : Prop where
  /-- Each sink got what the chunks hold for its channel. -/
  holds : ∀ i, after[i]? = before[i]?.map (· ++ r.gathered (first.chunksIn messages) i)
  /-- All sinks got equally much. -/
  gained : ∀ i : Nat, after[i]?.map List.length =
    before[i]?.map fun held => List.length held + state.received * r.samples.toNat
  received : state.received = waveformsIn (first.chunksIn messages)
  bounded : state.received ≤ r.waveforms.toNat
  chunks : state.chunks = (first.chunksIn messages).length
  discarded : state.discarded = first.discardedIn messages

/-- When no sink is spoilt, the books give the accounts. -/
theorem Books.accounts {v : SinkView S ω} {c : AcquisitionConfig} {r : AcquisitionRequest}
    {label : String} {opened : List S} {messages : List Bytes} {state : StreamState}
    {reassembly : Reassembly S}
    (h : Books v r opened (.start c r label) messages state reassembly)
    (hsound : ∀ sink ∈ reassembly.sinks, ¬v.spoilt sink) :
    reassembly.waveforms.toNat = state.received ∧
      Accounts r (.start c r label) messages (opened.map v.holds) (reassembly.sinks.map v.holds)
        state := by
  obtain ⟨hstate, hwaveforms, hholds⟩ := h.sound hsound
  obtain ⟨hreceived, hchunks, hdiscarded⟩ :=
    StreamState.foldl_hear_counts (.start c r label) messages
  have hbounded := StreamState.foldl_hear_received_le
    (s := .start c r label) (Nat.zero_le _) messages
  rw [← hstate] at hreceived hchunks hdiscarded hbounded
  have hzero : (StreamState.start c r label).received = 0 ∧
      (StreamState.start c r label).chunks = 0 ∧ (StreamState.start c r label).discarded = 0 :=
    ⟨rfl, rfl, rfl⟩
  rw [hzero.1, Nat.zero_add] at hreceived
  rw [hzero.2.1, Nat.zero_add] at hchunks
  rw [hzero.2.2, Nat.zero_add] at hdiscarded
  refine ⟨hwaveforms, hholds, ?_, hreceived, hbounded, hchunks, hdiscarded⟩
  intro i
  rw [hholds i, Option.map_map, hreceived]
  congr 1
  funext held
  simp [AcquisitionRequest.length_gathered]

/-- The books of a loop that has just started. -/
theorem Books.start (v : SinkView S ω) {c : AcquisitionConfig} {r : AcquisitionRequest}
    (label : String) {s : Surroundings} {factory : SinkFactory S ω} {world : ω} {u : Underway S ω}
    (h : Beginning.of c r s factory world = .opened u) :
    Books v.traced r u.reassembly.sinks (.start c r label) [] (.start c r label) u.reassembly := by
  obtain ⟨hregular, -, hlayout⟩ := Beginning.regular_opened h
  obtain ⟨sinks, -, hu⟩ := Beginning.of_eq_opened h
  refine ⟨hregular, hlayout, ⟨rfl, rfl⟩, fun _ => ⟨rfl, ?_, ?_⟩⟩
  · rw [hu]
    rfl
  · intro i
    simp only [StreamState.chunksIn, StreamState.verdicts, AcquisitionRequest.gathered,
      List.filterMap_nil, List.flatMap_nil, List.append_nil, Option.map_id']

section

variable {c : AcquisitionConfig} {r : AcquisitionRequest} {label : String} {s : Surroundings}
  {factory : SinkFactory S ω} {world : ω}

/-- An acquisition that takes chunks at some point has opened its sinks and sent its request. -/
theorem loopAfter_eq_some {met : Nat} {loop : ChunkLoop S ω}
    (h : loopAfter c r label s factory world met = some loop) :
    ∃ (u : Underway S ω) (first : ChunkLoop S ω),
      Beginning.of c r s factory world = .opened u ∧ first.state = .start c r label ∧
      first.underway.reassembly = u.reassembly ∧
      exchangeChunks c r label s u = first.run c r s s.arrivals ∧
      first.after c r s (s.arrivals.take met) = some loop := by
  unfold loopAfter at h
  cases hbegin : Beginning.of c r s factory world with
  | refused e =>
    rw [hbegin] at h
    cases h
  | unopened channel fault sinks w =>
    rw [hbegin] at h
    cases h
  | opened u =>
    rw [hbegin] at h
    obtain ⟨start, hstart, hloop⟩ := Option.bind_eq_some_iff.mp h
    rcases exchangeChunks_eq c r label s u with
      ⟨first, hfirst, -, hstate, hreassembly, hrun⟩ | ⟨e, u', hnone, -, -⟩
    · obtain rfl : start = first := Option.some.inj (hstart.symm.trans hfirst)
      exact ⟨u, start, rfl, hstate, hreassembly, hrun, hloop⟩
    · rw [hnone] at hstart
      cases hstart

/-- From every point, an acquisition goes on with what is still to come. -/
theorem acquire_eq_run_loopAfter (hmode : c.mode = .streaming) {met : Nat} {loop : ChunkLoop S ω}
    (h : loopAfter c r label s factory world met = some loop) :
    acquire c r label s factory world = (loop.run c r s (s.arrivals.drop met)).conclude := by
  obtain ⟨u, first, hbegin, -, -, hrun, hloop⟩ := loopAfter_eq_some h
  rw [acquire_eq, hbegin]
  simp only [exchange, hmode, hrun]
  rw [← ChunkLoop.run_append hloop, List.take_append_drop]

/-- With only the first of the arrivals, an acquisition waits exactly if its loop is there then. -/
theorem waits_iff_loopAfter (hmode : c.mode = .streaming) (met : Nat) :
    (acquire c r label { s with arrivals := s.arrivals.take met } factory world).outcome = none ↔
      (loopAfter c r label s factory world met).isSome := by
  have hbegins : Beginning.of c r { s with arrivals := s.arrivals.take met } factory world =
      Beginning.of c r s factory world := rfl
  rw [acquire_eq, loopAfter, hbegins]
  cases Beginning.of c r s factory world with
  | refused e => simp [Run.of]
  | unopened channel fault sinks w => simp [Run.of]
  | opened u =>
    simp only [exchange, hmode, Exchanged.outcome_conclude_eq_none_iff]
    rcases exchangeChunks_eq c r label { s with arrivals := s.arrivals.take met } u with
      ⟨first, hfirst, -, -, -, hrun⟩ | ⟨e, u', hnone, -, hrun⟩
    · have hstart : ChunkLoop.start? c r label s u = some first := hfirst
      rw [hrun, ChunkLoop.run_outcome_eq_none_iff, hstart, Option.bind_some,
        ChunkLoop.after_with_arrivals]
    · have hstart : ChunkLoop.start? c r label s u = none := hnone
      rw [hrun, hstart]
      simp

/-- The books are in order at every point. -/
theorem loopAfter_books (v : SinkView S ω) {met : Nat} {loop : ChunkLoop S ω}
    (h : loopAfter c r label s factory world met = some loop) :
    Books v.traced r (Beginning.of c r s factory world).sinks (.start c r label)
      (Arrival.messages (s.arrivals.take met)) loop.state loop.underway.reassembly := by
  obtain ⟨u, first, hbegin, hstate, hreassembly, -, hloop⟩ := loopAfter_eq_some h
  have hbooks := Books.start v label hbegin
  rw [← hreassembly, ← hstate] at hbooks
  have hafter := ChunkLoop.after_invariant
    (P := fun met state u => Books v.traced r first.underway.reassembly.sinks first.state
      (Arrival.messages met) state u.reassembly)
    (fun _ _ arrival h => h.meet _ arrival) [] hbooks hloop
  rw [hbegin, Beginning.sinks, ← hreassembly, ← hstate]
  exact hafter

/-- The books are in order after the exchange. -/
theorem exchangeChunks_books (v : SinkView S ω) (label : String) {u : Underway S ω}
    (hbegin : Beginning.of c r s factory world = .opened u) :
    ∃ state, Books v.traced r u.reassembly.sinks (.start c r label)
        (Arrival.messages (s.arrivals.take (exchangeChunks c r label s u).receives)) state
        (exchangeChunks c r label s u).underway.reassembly ∧
      ∀ summary, (exchangeChunks c r label s u).outcome = some (.ok summary) →
        summary = state.summary r (c.creditFor r) := by
  have hbooks := Books.start v label hbegin
  rcases exchangeChunks_eq c r label s u with
    ⟨first, -, hreceives, hstate, hreassembly, hrun⟩ | ⟨e, u', -, hreassembly, hrun⟩
  · rw [← hreassembly, ← hstate] at hbooks
    obtain ⟨taken, state, htaken, hcount, hend, hsummary⟩ := ChunkLoop.run_invariant
      (P := fun met state u => Books v.traced r first.underway.reassembly.sinks first.state
        (Arrival.messages met) state u.reassembly)
      (fun _ _ arrival h => h.meet _ arrival) [] first hbooks s.arrivals
    rw [hreceives, Nat.zero_add] at hcount
    have hprefix : s.arrivals.take taken.length = taken := by
      rw [htaken]
      exact List.take_left
    rw [hrun, hcount, hprefix, ← hreassembly, ← hstate]
    exact ⟨state, hend, hsummary⟩
  · refine ⟨.start c r label, ?_, ?_⟩
    · rw [hrun, hreassembly]
      exact hbooks
    · intro summary h
      rw [hrun] at h
      cases h

/-- Nothing was received before the first message. -/
theorem Accounts.start (c : AcquisitionConfig) (r : AcquisitionRequest) (label : String)
    (held : List (List UInt16)) :
    Accounts r (.start c r label) [] held held (.start c r label) where
  holds i := by
    simp only [StreamState.chunksIn, StreamState.verdicts, AcquisitionRequest.gathered,
      List.filterMap_nil, List.flatMap_nil, List.append_nil, Option.map_id']
  gained i := by
    simp only [StreamState.start, Nat.zero_mul, Nat.add_zero]
  received := rfl
  bounded := Nat.zero_le _
  chunks := rfl
  discarded := rfl

/-- The summary of a stream says what the stream has counted. -/
theorem StreamState.summary_completion {c : AcquisitionConfig} {r : AcquisitionRequest}
    {state : StreamState} (hexpected : state.expected = r.waveforms.toNat)
    (hbounded : state.received ≤ r.waveforms.toNat) :
    (state.summary r (c.creditFor r)).completion =
      if state.received = r.waveforms.toNat then .complete
      else .partialDelivery r.waveforms.toNat state.received := by
  rw [StreamState.summary, hexpected]
  by_cases h : state.received = r.waveforms.toNat
  · rw [if_pos h, if_neg (by omega)]
  · rw [if_neg h, if_pos (by omega)]

/-- The accounts at the end of an acquisition. -/
theorem acquire_accounts_end (v : SinkView S ω) (hmode : c.mode = .streaming)
    (hsound : ∀ sink ∈ (acquire c r label s factory world).sinks, ¬v.spoilt sink.2) :
    ∃ state, (∀ u, Beginning.of c r s factory world = .opened u →
        (exchange c r label s u).underway.reassembly.waveforms.toNat = state.received) ∧
      Accounts r (.start c r label)
        (Arrival.messages (s.arrivals.take (acquire c r label s factory world).receives))
        ((Beginning.of c r s factory world).sinks.map fun sink => v.holds sink.sink)
        ((acquire c r label s factory world).sinks.map fun sink => v.holds sink.2) state ∧
      ∀ summary, (acquire c r label s factory world).outcome = some (.ok summary) →
        summary = state.summary r (c.creditFor r) ∧ state.expected = r.waveforms.toNat := by
  rw [acquire_eq] at hsound ⊢
  cases hbegin : Beginning.of c r s factory world with
  | refused e =>
    refine ⟨.start c r label, ?_, Accounts.start c r label [], ?_⟩
    · intro u h
      cases h
    · intro summary h
      cases h
  | unopened channel fault sinks w =>
    have hsame : ((Run.of (some (.error (.sink channel fault))) sinks w 0 s.arrivals).sinks.map
        fun sink => v.holds sink.2) = sinks.map fun sink => v.holds sink.sink := List.map_map
    refine ⟨.start c r label, ?_, ?_, ?_⟩
    · intro u h
      cases h
    · simp only [hsame]
      exact Accounts.start c r label _
    · intro summary h
      cases h
  | opened u =>
    simp only [hbegin, exchange, hmode] at hsound ⊢
    obtain ⟨state, hbooks, hsummary⟩ := exchangeChunks_books v label hbegin
    obtain ⟨hwaveforms, haccounts⟩ := hbooks.accounts (Exchanged.spoilt_conclude v _ hsound)
    refine ⟨state, ?_, ?_, ?_⟩
    · intro u' h
      cases h
      exact hwaveforms
    · rw [Exchanged.holds_conclude, Exchanged.receives_conclude]
      exact haccounts
    · intro summary h
      exact ⟨hsummary summary (Exchanged.outcome_of_conclude_ok h), hbooks.frame.2⟩

/-- The accounts of an acquisition with chunks are in order, from its first message to its end. -/
structure AccountsKept (v : SinkView S ω) (c : AcquisitionConfig) (r : AcquisitionRequest)
    (label : String) (s : Surroundings) (factory : SinkFactory S ω) (world : ω) : Prop where
  /-- The points of a run are those at which it waits, having met the first of the arrivals. -/
  points : ∀ met,
    (acquire c r label { s with arrivals := s.arrivals.take met } factory world).outcome = none ↔
      (loopAfter c r label s factory world met).isSome
  /-- From each point the run goes on with the others. -/
  onward : ∀ met loop, loopAfter c r label s factory world met = some loop →
    acquire c r label s factory world = (loop.run c r s (s.arrivals.drop met)).conclude
  /-- At each point the accounts are in order, unless a sink is spoilt. -/
  at_point : ∀ met loop, loopAfter c r label s factory world met = some loop →
    (∀ sink ∈ loop.underway.reassembly.sinks, ¬v.spoilt sink.sink) →
      loop.underway.reassembly.waveforms.toNat = loop.state.received ∧
        Accounts r (.start c r label) (Arrival.messages (s.arrivals.take met))
          ((Beginning.of c r s factory world).sinks.map fun sink => v.holds sink.sink)
          (loop.underway.reassembly.sinks.map fun sink => v.holds sink.sink) loop.state
  /-- At the end the accounts are in order, unless a sink is spoilt, and so is the summary. -/
  at_end : (∀ sink ∈ (acquire c r label s factory world).sinks, ¬v.spoilt sink.2) →
    ∃ state, (∀ u, Beginning.of c r s factory world = .opened u →
        (exchange c r label s u).underway.reassembly.waveforms.toNat = state.received) ∧
      Accounts r (.start c r label)
        (Arrival.messages (s.arrivals.take (acquire c r label s factory world).receives))
        ((Beginning.of c r s factory world).sinks.map fun sink => v.holds sink.sink)
        ((acquire c r label s factory world).sinks.map fun sink => v.holds sink.2) state ∧
      ∀ summary, (acquire c r label s factory world).outcome = some (.ok summary) →
        summary.written = state.received ∧ summary.chunks = state.chunks ∧
          summary.discarded = state.discarded ∧
          summary.completion =
            if state.received = r.waveforms.toNat then .complete
            else .partialDelivery r.waveforms.toNat state.received
  /-- A message that is passed over, or answered with an error that is no sink's, changes nothing. -/
  unchanged : ∀ (state : StreamState) (message : Bytes) (reassembly : Reassembly S) (w : ω),
    (∀ step after,
      (state.accept message reassembly w).1 = .ok (step, after) → step = .discarded) →
    (∀ sink ∈ (state.accept message reassembly w).2.1.sinks, ¬v.spoilt sink) →
      (state.accept message reassembly w).2 = (reassembly, w) ∧
        (state.orAfter (state.accept message reassembly w).1).received = state.received ∧
        (state.orAfter (state.accept message reassembly w).1).chunks = state.chunks

/-- **The accounts of every acquisition with chunks are in order**: at every point at which it waits for
a message, and at its end, whatever that is, the sinks have got exactly the samples of the chunks that
were accepted so far; and a message that is not appended changes nothing. -/
theorem acquire_accounts (v : SinkView S ω) (c : AcquisitionConfig) (hmode : c.mode = .streaming)
    (r : AcquisitionRequest) (label : String) (s : Surroundings) (factory : SinkFactory S ω)
    (world : ω) : AccountsKept v c r label s factory world where
  points met := waits_iff_loopAfter hmode met
  onward met loop hloop := acquire_eq_run_loopAfter hmode hloop
  at_point met loop hloop hsound := (loopAfter_books v hloop).accounts hsound
  at_end hsound := by
    obtain ⟨state, hwaveforms, haccounts, hsummary⟩ := acquire_accounts_end v hmode hsound
    refine ⟨state, hwaveforms, haccounts, ?_⟩
    intro summary h
    obtain ⟨rfl, hexpected⟩ := hsummary summary h
    exact ⟨rfl, rfl, rfl, StreamState.summary_completion hexpected haccounts.bounded⟩
  unchanged state message reassembly w hstep hsound := StreamState.accept_unchanged v hstep hsound

end

/-- A request for two waveforms of one sample from each of two channels. -/
def pairRequest : AcquisitionRequest where
  channels := [3, 1]
  waveforms := 2
  samples := 1
  softwareTrigger := false
  acceptable := ⟨by decide, by simp [maxChannel], by decide, by decide, by decide, by decide⟩

/-- A chunk with some label. -/
def pairChunk (label : String) (waveforms : UInt32) (data : List UInt32) (isFinal : Bool) :
    ChunkReply :=
  { success := true, label := label, waveforms := waveforms, data := data, isFinal := isFinal }

/-- A chunk that arrives. -/
def Arrival.ofChunk (chunk : ChunkReply) : Arrival :=
  .message (Envelope.encodeRecord .chunkReply ChunkReply.schema chunk)

/-- What comes is nothing, a chunk of another acquisition, a chunk, and nothing again. -/
def pairSurroundings : Surroundings where
  arrivals :=
    [.quiet,
      .message (Envelope.encodeRecord .chunkReply ChunkReply.schema (pairChunk "b" 1 [9, 9] true)),
      .message (Envelope.encodeRecord .chunkReply ChunkReply.schema (pairChunk "a" 1 [1, 65538] false)),
      .quiet]

theorem acquire_accounts_pair :
    AccountsKept MemorySink.view {} pairRequest "a" pairSurroundings sureFactory () ∧
      (∃ loop, loopAfter {} pairRequest "a" pairSurroundings sureFactory () 3 = some loop ∧
        (∀ sink ∈ loop.underway.reassembly.sinks, ¬MemorySink.view.spoilt sink.sink) ∧
        (loop.underway.reassembly.sinks.map fun sink => sink.sink.samples) = [[1], [2]]) := by
  refine ⟨acquire_accounts MemorySink.view {} rfl pairRequest "a" pairSurroundings sureFactory (),
    _, rfl, ?_, ?_⟩
  · intro sink hsink
    rcases List.mem_pair.mp hsink with rfl | rfl <;> exact Bool.false_ne_true
  · rfl

end Readout

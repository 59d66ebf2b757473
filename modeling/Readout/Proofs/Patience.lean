/-
# How long chunks are waited for

An acquisition that takes chunks gives up when nothing of its own has come for too long.  Each chunk of
its own after which others are due makes it wait anew; nothing else does.

A chunk need not hold a waveform, and one without any makes it wait anew just as well.  The waveforms that
were asked for bound how often chunks with waveforms do; nothing bounds how often the others do.

* `ChunkLoop.waveformsIn_restarts` -- chunks that make the loop wait anew hold no more than is due;
* `acquire_patience_bounded` -- what makes an acquisition wait anew, and when it gives up;
* `empty_chunks_postpone` -- chunks without waveforms keep it waiting for as long as they come.
-/
import Readout.Proofs.Finishing
import Readout.Proofs.Foreign
import Readout.Proofs.Modes

namespace Readout

open Control

variable {S ω : Type} [SampleSink S ω]

/-! ## 1. Waiting anew -/

namespace StreamState

/-- Taking a message takes no more waveforms than are due. -/
theorem received_accept {s : StreamState} (hdue : s.received ≤ s.expected) (message : Bytes)
    (reassembly : Reassembly S) (w : ω) :
    let after := s.orAfter (s.accept message reassembly w).1
    s.received ≤ after.received ∧ after.received ≤ s.expected := by
  cases hjudge : s.judge message with
  | foreign =>
    rw [accept_of_foreign hjudge]
    exact ⟨Nat.le_refl _, hdue⟩
  | fatal e =>
    rw [accept_of_fatal hjudge]
    exact ⟨Nat.le_refl _, hdue⟩
  | chunk reply =>
    obtain ⟨-, -, -, hsize⟩ := judgeReply_eq_chunk_iff.mp (judge_eq_chunk hjudge)
    rw [accept_of_chunk hjudge]
    cases (reassembly.append reply.waveforms.toNat reply.data w).1 with
    | some e => exact ⟨Nat.le_refl _, hdue⟩
    | none => exact ⟨Nat.le_add_right _ _, (sizeError_eq_none_iff.mp hsize).2.1⟩

end StreamState

namespace ChunkLoop

variable {c : AcquisitionConfig} {r : AcquisitionRequest} {s : Surroundings}

/-- The chunk in an arrival that makes the loop wait anew, if it does. -/
def restartedBy (wait : Duration) (loop : ChunkLoop S ω) (arrival : Arrival) : Option ChunkReply :=
  if (loop.meet wait arrival).finding = .chunk then
    arrival.message?.bind fun message => (loop.state.judge message).chunk?
  else none

/-- The chunks that make the loop wait anew, in order. -/
def restarts (c : AcquisitionConfig) (r : AcquisitionRequest) (s : Surroundings) :
    ChunkLoop S ω → List Arrival → List ChunkReply
  | _, [] => []
  | loop, arrival :: left =>
    (loop.restartedBy c.chunkWait arrival).toList ++
      match loop.turn c r s arrival with
      | .onward next => restarts c r s next left
      | .ended _ _ => []

/-- What makes the loop wait anew is a chunk of its own after which others are due. -/
theorem restartedBy_of_chunk {loop : ChunkLoop S ω} {wait : Duration} {arrival : Arrival}
    (h : (loop.meet wait arrival).finding = .chunk) :
    ∃ chunk, loop.restartedBy wait arrival = some chunk ∧ chunk.label = loop.state.label ∧
      chunk.isFinal = false ∧ (loop.meet wait arrival).state = loop.state.advance chunk := by
  have hrestarted : loop.restartedBy wait arrival =
      arrival.message?.bind fun message => (loop.state.judge message).chunk? := if_pos h
  cases hmessage : arrival.message? with
  | none =>
    cases arrival with
    | message octets => cases hmessage
    | quiet => cases h
    | fails e => cases e <;> cases h
  | some octets =>
    obtain rfl := Arrival.eq_message hmessage
    rw [hrestarted, hmessage, Option.bind_some]
    rw [loop.meet_message] at h ⊢
    cases hjudge : loop.state.judge octets with
    | foreign =>
      rw [StreamState.accept_of_foreign hjudge] at h
      cases h
    | fatal e =>
      rw [StreamState.accept_of_fatal hjudge] at h
      cases h
    | chunk reply =>
      obtain ⟨-, hlabel, -⟩ :=
        StreamState.judgeReply_eq_chunk_iff.mp (StreamState.judge_eq_chunk hjudge)
      rw [StreamState.accept_of_chunk hjudge] at h ⊢
      cases happended : (loop.underway.reassembly.append reply.waveforms.toNat reply.data
          (loop.underway.world.did (.awaits wait))).1 with
      | some e =>
        rw [happended] at h
        cases h
      | none =>
        rw [happended] at h
        refine ⟨reply, rfl, hlabel, ?_, rfl⟩
        cases hfinal : reply.isFinal with
        | false => rfl
        | true =>
          rw [hfinal] at h
          cases h

theorem restartedBy_of_ne {loop : ChunkLoop S ω} {wait : Duration} {arrival : Arrival}
    (h : (loop.meet wait arrival).finding ≠ .chunk) : loop.restartedBy wait arrival = none :=
  if_neg h

/-- **A chunk of its own makes the loop wait anew, and nothing else does.** -/
theorem since_of_onward {loop next : ChunkLoop S ω} {arrival : Arrival}
    (h : loop.turn c r s arrival = .onward next) :
    next.since = if (loop.restartedBy c.chunkWait arrival).isSome then s.clock.after next.receives
      else loop.since := by
  obtain ⟨hreceives, -, -⟩ := turn_eq_onward h
  cases hfound : (loop.meet c.chunkWait arrival).finding with
  | failure e =>
    rw [turn_of_finding hfound] at h
    cases h
  | lastChunk =>
    rw [turn_of_finding hfound] at h
    cases h
  | chunk =>
    obtain ⟨chunk, hrestarted, -⟩ := restartedBy_of_chunk hfound
    rw [turn_of_finding hfound] at h
    simp only [unlessCancelled] at h
    rw [hrestarted, hreceives]
    split at h <;> cases h
    rfl
  | nothing =>
    have hnone : loop.restartedBy c.chunkWait arrival = none := by
      refine restartedBy_of_ne ?_
      rw [hfound]
      exact fun h => by cases h
    rw [turn_of_finding hfound] at h
    simp only [unlessCancelled] at h
    rw [hnone]
    split at h
    · cases h
    · split at h <;> cases h
      rfl

/-- Taking an arrival takes no more waveforms than are due. -/
theorem received_meet {loop : ChunkLoop S ω} (hdue : loop.state.received ≤ loop.state.expected)
    (wait : Duration) (arrival : Arrival) :
    let after := (loop.meet wait arrival).state
    loop.state.received ≤ after.received ∧ after.received ≤ loop.state.expected := by
  cases hmessage : arrival.message? with
  | none =>
    rw [(loop.meet_of_no_message wait hmessage).1]
    exact ⟨Nat.le_refl _, hdue⟩
  | some octets =>
    obtain rfl := Arrival.eq_message hmessage
    exact StreamState.received_accept hdue octets loop.underway.reassembly
      (loop.underway.world.did (.awaits wait))

/-- What a chunk that makes the loop wait anew holds is received. -/
theorem waveformsIn_restartedBy {loop : ChunkLoop S ω}
    (hdue : loop.state.received ≤ loop.state.expected) (wait : Duration) (arrival : Arrival) :
    loop.state.received + waveformsIn (loop.restartedBy wait arrival).toList ≤
      (loop.meet wait arrival).state.received := by
  by_cases hfound : (loop.meet wait arrival).finding = .chunk
  · obtain ⟨chunk, hrestarted, -, -, hstate⟩ := restartedBy_of_chunk hfound
    rw [hrestarted, hstate]
    exact Nat.le_refl _
  · rw [restartedBy_of_ne hfound]
    exact (received_meet hdue wait arrival).1

/-- **The chunks that make the loop wait anew hold no more waveforms than are due.** -/
theorem waveformsIn_restarts {loop : ChunkLoop S ω}
    (hdue : loop.state.received ≤ loop.state.expected) (arrivals : List Arrival) :
    loop.state.received + waveformsIn (loop.restarts c r s arrivals) ≤ loop.state.expected := by
  induction arrivals generalizing loop with
  | nil => exact hdue
  | cons arrival left ih =>
    have hstep := waveformsIn_restartedBy hdue c.chunkWait arrival
    have hafter := (received_meet hdue c.chunkWait arrival).2
    have hsame := (loop.meet_frame c.chunkWait arrival).2.2.2
    rw [restarts, waveformsIn_append]
    cases hturn : loop.turn c r s arrival with
    | onward next =>
      obtain ⟨-, hstate, -⟩ := turn_eq_onward hturn
      rw [← hstate] at hstep hafter hsame
      have hmore := ih (hsame ▸ hafter)
      simp only
      omega
    | ended outcome u =>
      simp only [waveformsIn]
      omega

/-- The chunks that make the loop wait anew are its own, and not the last. -/
theorem own_of_mem_restarts {loop : ChunkLoop S ω} {arrivals : List Arrival} {chunk : ChunkReply}
    (h : chunk ∈ loop.restarts c r s arrivals) :
    chunk.label = loop.state.label ∧ chunk.isFinal = false := by
  induction arrivals generalizing loop with
  | nil => cases h
  | cons arrival left ih =>
    rw [restarts] at h
    rcases List.mem_append.mp h with hfirst | hmore
    · by_cases hfound : (loop.meet c.chunkWait arrival).finding = .chunk
      · obtain ⟨other, hrestarted, hlabel, hfinal, -⟩ := restartedBy_of_chunk hfound
        rw [hrestarted] at hfirst
        obtain rfl := List.mem_singleton.mp hfirst
        exact ⟨hlabel, hfinal⟩
      · rw [restartedBy_of_ne hfound] at hfirst
        cases hfirst
    · cases hturn : loop.turn c r s arrival with
      | ended outcome u =>
        rw [hturn] at hmore
        cases hmore
      | onward next =>
        rw [hturn] at hmore
        obtain ⟨-, hstate, -⟩ := turn_eq_onward hturn
        rw [← (loop.meet_frame c.chunkWait arrival).1, ← hstate]
        exact ih hmore

/-! ## 2. Giving up -/

/-- **When only arrivals come that do not concern the loop, it gives up by the first at which it has
waited too long**, unless it is given up before. -/
theorem run_of_unconcerned {loop : ChunkLoop S ω} {idle : List Arrival}
    (hidle : ∀ arrival ∈ idle, arrival.concerns loop.state.label = false) {n : Nat}
    (hn : n < idle.length)
    (hlate : c.replyTimeout ≤ (s.clock.after (loop.receives + n + 1)).sub loop.since)
    (rest : List Arrival) :
    let e := loop.run c r s (idle ++ rest)
    (e.outcome = some (.error (.timeout c.replyTimeout)) ∨ e.outcome = some (.error .cancelled)) ∧
      e.receives ≤ loop.receives + n + 1 := by
  intro e
  simp only [e]
  induction idle generalizing loop n with
  | nil => cases hn
  | cons arrival idle ih =>
    obtain ⟨hfound, hstate, -⟩ :=
      loop.meet_of_unconcerned c.chunkWait (hidle arrival List.mem_cons_self)
    rw [List.cons_append, run_cons, turn_of_finding hfound]
    simp only [unlessCancelled]
    split
    · exact ⟨Or.inl rfl, by simp only [Turn.resume]; omega⟩
    · rename_i hearly
      split
      · exact ⟨Or.inr rfl, by simp only [Turn.resume]; omega⟩
      · cases n with
        | zero => exact absurd hlate hearly
        | succ n =>
          have hlabel : (loop.meet c.chunkWait arrival).state.label = loop.state.label := by
            rw [hstate]
          rw [← Nat.add_assoc, Nat.add_right_comm loop.receives] at hlate ⊢
          refine ih ?_ (Nat.lt_of_succ_lt_succ hn) hlate
          intro other hother
          rw [hlabel]
          exact hidle other (List.mem_cons_of_mem _ hother)

end ChunkLoop

/-! ## 3. Acquisitions -/

/-- How many chunks hold a waveform is no more than the waveforms they hold. -/
theorem countP_le_waveformsIn (chunks : List ChunkReply) :
    chunks.countP (fun chunk => chunk.waveforms != 0) ≤ waveformsIn chunks := by
  induction chunks with
  | nil => exact Nat.le_refl 0
  | cons chunk more ih =>
    rw [List.countP_cons, waveformsIn]
    by_cases hempty : chunk.waveforms = 0
    · simp [hempty, ih]
    · have hpos : 0 < chunk.waveforms.toNat :=
        Nat.pos_of_ne_zero fun h => hempty (UInt32.toNat_inj.mp h)
      simp only [bne_iff_ne, ne_eq, hempty, not_false_eq_true, if_true]
      omega

section

variable {c : AcquisitionConfig} {r : AcquisitionRequest} {label : String} {s : Surroundings}
  {factory : SinkFactory S ω} {world : ω}

/-- The chunks that make an acquisition wait anew, in order. -/
def restarts (c : AcquisitionConfig) (r : AcquisitionRequest) (label : String) (s : Surroundings)
    (factory : SinkFactory S ω) (world : ω) : List ChunkReply :=
  match loopAfter c r label s factory world 0 with
  | some loop => loop.restarts c r s s.arrivals
  | none => []

/-- The loop of an acquisition keeps its label. -/
theorem loopAfter_label {met : Nat} {loop : ChunkLoop S ω}
    (h : loopAfter c r label s factory world met = some loop) : loop.state.label = label := by
  obtain ⟨u, first, -, hstate, -, -, hloop⟩ := loopAfter_eq_some h
  have hkept := ChunkLoop.after_invariant
    (P := fun _ state _ => state.label = first.state.label)
    (fun _ loop arrival h => (loop.meet_frame c.chunkWait arrival).1.trans h) [] rfl hloop
  rw [hkept, hstate]
  rfl

/-- The loop of an acquisition has asked once for each arrival so far. -/
theorem loopAfter_receives {met : Nat} {loop : ChunkLoop S ω}
    (h : loopAfter c r label s factory world met = some loop) (hmet : met ≤ s.arrivals.length) :
    loop.receives = met := by
  obtain ⟨u, -, hbegin, -⟩ := loopAfter_eq_some h
  rw [loopAfter, hbegin] at h
  obtain ⟨first, hfirst, hloop⟩ := Option.bind_eq_some_iff.mp h
  have hasked := ChunkLoop.receives_after hloop
  rw [List.length_take, Nat.min_eq_left hmet] at hasked
  rcases exchangeChunks_eq c r label s u with ⟨start, hstart, hzero, -⟩ | ⟨e, u', hnone, -⟩
  · obtain rfl : first = start := Option.some.inj (hfirst.symm.trans hstart)
    rw [hasked, hzero, Nat.zero_add]
  · rw [hnone] at hfirst
    cases hfirst

/-- An acquisition with chunks waits with patience that is bounded: what makes it wait anew, how often
what holds waveforms does, and when it gives up. -/
structure PatienceBounded (c : AcquisitionConfig) (r : AcquisitionRequest) (label : String)
    (s : Surroundings) (factory : SinkFactory S ω) (world : ω) : Prop where
  /-- The chunks that make it wait anew hold no more than was asked for. -/
  waveforms : waveformsIn (restarts c r label s factory world) ≤ r.waveforms.toNat
  /-- Those that hold a waveform are no more than the waveforms that were asked for. -/
  carrying : (restarts c r label s factory world).countP (fun chunk => chunk.waveforms != 0) ≤
    r.waveforms.toNat
  /-- They are its own, and none says that it is the last. -/
  own : ∀ chunk ∈ restarts c r label s factory world, chunk.label = label ∧ chunk.isFinal = false
  /-- At every turn they are what it waits anew for, and nothing else is. -/
  anew : ∀ (loop next : ChunkLoop S ω) arrival, loop.turn c r s arrival = .onward next →
    next.since = if (loop.restartedBy c.chunkWait arrival).isSome then s.clock.after next.receives
      else loop.since
  /-- At every point: when nothing but foreign messages and waits come from there on, it gives up by the
  first after which it has waited too long. -/
  gives_up : ∀ met loop, loopAfter c r label s factory world met = some loop →
    ∀ idle rest n, s.arrivals.drop met = idle ++ rest →
      (∀ arrival ∈ idle, arrival.concerns label = false) → n < idle.length →
      c.replyTimeout ≤ (s.clock.after (met + n + 1)).sub loop.since →
      let run := acquire c r label s factory world
      (run.outcome = some (.error (.timeout c.replyTimeout)) ∨
          run.outcome = some (.error .cancelled)) ∧
        run.receives ≤ met + n + 1

/-- **Patience is bounded by what was asked for, but for chunks without waveforms.** -/
theorem acquire_patience_bounded (hmode : c.mode = .streaming) :
    PatienceBounded c r label s factory world := by
  have hwaveforms : waveformsIn (restarts c r label s factory world) ≤ r.waveforms.toNat := by
    unfold restarts
    cases hloop : loopAfter c r label s factory world 0 with
    | none => exact Nat.zero_le _
    | some loop =>
      obtain ⟨u, first, -, hstate, -, -, hafter⟩ := loopAfter_eq_some hloop
      rw [List.take_zero] at hafter
      obtain rfl : first = loop := Option.some.inj hafter
      have hdue : first.state.received ≤ first.state.expected := by
        rw [hstate]
        exact Nat.zero_le _
      have hall := ChunkLoop.waveformsIn_restarts (c := c) (r := r) (s := s) hdue s.arrivals
      rw [hstate] at hall
      exact Nat.le_trans (Nat.le_add_left _ _) hall
  refine ⟨hwaveforms, Nat.le_trans (countP_le_waveformsIn _) hwaveforms, ?_, ?_, ?_⟩
  · intro chunk hchunk
    unfold restarts at hchunk
    cases hloop : loopAfter c r label s factory world 0 with
    | none =>
      rw [hloop] at hchunk
      cases hchunk
    | some loop =>
      rw [hloop] at hchunk
      rw [← loopAfter_label hloop]
      exact ChunkLoop.own_of_mem_restarts hchunk
  · intro loop next arrival hturn
    exact ChunkLoop.since_of_onward hturn
  · intro met loop hloop idle rest n hdrop hidle hn hlate run
    have hrun : run = (loop.run c r s (s.arrivals.drop met)).conclude :=
      acquire_eq_run_loopAfter hmode hloop
    have hmet : met ≤ s.arrivals.length := by
      have hlength := congrArg List.length hdrop
      rw [List.length_drop, List.length_append] at hlength
      omega
    rw [← loopAfter_receives hloop hmet] at hlate ⊢
    rw [hdrop] at hrun
    obtain ⟨houtcome, hreceives⟩ := ChunkLoop.run_of_unconcerned
      (fun arrival harrival => (loopAfter_label hloop) ▸ hidle arrival harrival) hn hlate rest (r := r)
    rw [hrun, Exchanged.receives_conclude]
    refine ⟨?_, hreceives⟩
    rcases houtcome with htimeout | hcancelled
    · exact Or.inl (Exchanged.outcome_conclude_of_error htimeout)
    · exact Or.inr (Exchanged.outcome_conclude_of_error hcancelled)

/-! ## 4. Chunks without waveforms -/

section

variable {good : S → Prop} {chunk : ChunkReply}

/-- A loop takes chunks without waveforms for as long as they come, and waits anew after each. -/
theorem ChunkLoop.run_of_empty (v : SinkView S ω) (hgood : Reliable good) (hs : Undisturbed s)
    {hint : Nat} (hchunk : Fitting r label hint chunk) (hempty : chunk.waveforms = 0)
    (hmore : chunk.isFinal = false) (loop : ChunkLoop S ω)
    (hready : Ready good r label hint loop.state loop.underway.reassembly)
    (hdue : loop.state.received ≤ r.waveforms.toNat) (n : Nat) :
    let arrivals := List.replicate n (.message (chunkMessage chunk))
    (loop.run c r s arrivals).outcome = none ∧ (loop.restarts c r s arrivals).length = n := by
  intro arrivals
  simp only [arrivals]
  induction n generalizing loop with
  | zero => exact ⟨rfl, rfl⟩
  | succ n ih =>
    have hreceived : (loop.state.advance chunk).received = loop.state.received := by
      simp [StreamState.advance, hempty]
    have hroom : loop.state.received + chunk.waveforms.toNat ≤ r.waveforms.toNat := by
      rw [hempty]
      exact hdue
    have hfound : (loop.meet c.chunkWait (.message (chunkMessage chunk))).finding = .chunk := by
      obtain ⟨haccept, -⟩ := hready.takes hgood hchunk hroom
        (loop.underway.world.did (.awaits c.chunkWait))
      rw [loop.meet_message, haccept, hmore]
      rfl
    obtain ⟨other, hrestarted, -⟩ := restartedBy_of_chunk hfound
    obtain ⟨u, hnext, -, hturn⟩ := turn_of_chunk (v := v) (c := c) hgood hs hready hchunk hroom
    rw [hmore, if_neg Bool.false_ne_true] at hturn
    obtain ⟨houtcome, hlength⟩ := ih ⟨loop.receives + 1, s.clock.after (loop.receives + 1),
      loop.state.advance chunk, u⟩ hnext (by rw [hreceived]; exact hdue)
    rw [List.replicate_succ, run_cons, restarts, hturn, hrestarted]
    exact ⟨houtcome, by simp [hlength]⟩

/-- **Chunks without waveforms keep an acquisition waiting for as long as they come**, whatever the clock
shows: it does not give up, and has waited anew after each of them. -/
theorem empty_chunks_postpone (v : SinkView S ω) (hgood : Reliable good) (hmode : c.mode = .streaming)
    (hs : Undisturbed s) (hcheck : c.check r = .ok ()) (hopens : factory.OpensEach good r.channels)
    (hchunk : Fitting r label (c.hintFor r).toNat chunk) (hempty : chunk.waveforms = 0)
    (hmore : chunk.isFinal = false) {n : Nat}
    (harrivals : s.arrivals = List.replicate n (.message (chunkMessage chunk))) :
    (acquire c r label s factory world).outcome = none ∧
      (restarts c r label s factory world).length = n := by
  obtain ⟨u, hbegin, -, hsinks⟩ :=
    Beginning.of_eq_opened_of_opensEach world hs.uncancelled hcheck hopens
  obtain ⟨hregular, -, hlayout⟩ := Beginning.regular_opened hbegin
  have hready : Ready good r label (c.hintFor r).toNat (.start c r label) u.reassembly :=
    ⟨rfl, rfl, rfl, rfl, hregular, hlayout, hsinks⟩
  obtain ⟨houtcome, hlength⟩ := ChunkLoop.run_of_empty (c := c) v hgood hs hchunk hempty hmore
    ⟨0, s.clock.sent, .start c r label,
      (u.did (.setsCapacity (c.creditFor r))).did (.sends (c.requestMessage r label))⟩
    hready (Nat.zero_le _) n
  rw [← harrivals] at houtcome hlength
  constructor
  · rw [acquire_eq, hbegin]
    simp only [exchange, hmode, Exchanged.outcome_conclude_eq_none_iff]
    rw [exchangeChunks_of_undisturbed c r label hs]
    exact houtcome
  · have hstart : loopAfter c r label s factory world 0 = some ⟨0, s.clock.sent, .start c r label,
        (u.did (.setsCapacity (c.creditFor r))).did (.sends (c.requestMessage r label))⟩ := by
      rw [loopAfter, hbegin]
      simp [ChunkLoop.start?, hs.cancelledBy, hs.sent, ChunkLoop.after]
    rw [restarts, hstart]
    exact hlength

end

end

/-- A chunk, one without waveforms, and a wait in which nothing comes. -/
def sparseLine : Surroundings where
  arrivals :=
    [.ofChunk (pairChunk "a" 1 [1, 2] false), .ofChunk (pairChunk "a" 0 [] false), .quiet]

theorem patience_bounded_pair :
    PatienceBounded {} pairRequest "a" sparseLine sureFactory () ∧
      (restarts {} pairRequest "a" sparseLine sureFactory ()).map ChunkReply.waveforms = [1, 0] :=
  ⟨acquire_patience_bounded rfl, by decide +kernel⟩

/-- All that was asked for, then a chunk without waveforms, and then the last chunk, without any too; a
third of a minute passes before each. -/
def slowLine : Surroundings where
  arrivals :=
    [.ofChunk (pairChunk "a" 1 [5, 6] false), .ofChunk (pairChunk "a" 0 [] false),
      .ofChunk (pairChunk "a" 0 [] true)]
  clock := { after := fun count => .ofSeconds (20 * count) }

/-- **A chunk without waveforms makes an acquisition wait anew**: one waveform was asked for, and two
chunks make it wait anew; it ends well though it came to wait longer than it may since the only one with
a waveform. -/
theorem empty_chunk_exceeds_waveforms :
    firstTwo.waveforms = 1 ∧
      (restarts {} firstTwo "a" slowLine sureFactory ()).map ChunkReply.waveforms = [1, 0] ∧
      ({} : AcquisitionConfig).replyTimeout ≤ (slowLine.clock.after 3).sub (slowLine.clock.after 1) ∧
      ∃ summary,
        (acquire {} firstTwo "a" slowLine sureFactory ()).outcome = some (.ok summary) := by
  refine ⟨rfl, by decide +kernel, by decide +kernel, _, rfl⟩

end Readout

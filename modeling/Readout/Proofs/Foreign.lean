/-
# Foreign traffic

An acquisition that takes chunks shares its link with whatever else the device sends.  A message is
foreign to it if its kind is not known, or is not that of chunks, or if it is a chunk with another
label; besides, time passes in which nothing comes.

None of that has any influence: two acquisitions that meet the same arrivals but for those come to the
same, as long as neither waits for too long, and differ only in how many messages they passed over.

* `judge_eq_foreign_iff` -- the messages that are passed over are the foreign ones;
* `ChunkLoop.run_of_amid` -- a loop comes to the same with other arrivals that do not concern it;
* `foreign_traffic_ignored` -- so does an acquisition.
-/
import Readout.Proofs.Accounts

namespace Readout

open Control

/-! ## 1. Foreign messages -/

/-- What a message is that an acquisition with some label has nothing to do with. -/
inductive Foreign (label : String) (message : Bytes) : Prop
  /-- Its kind is not known. -/
  | unknownKind {code : Int32} (decoded : Envelope.decode message = .error (.unknownKind code))
  /-- Its kind is known, but not that of chunks. -/
  | otherKind {envelope : Envelope} (decoded : Envelope.decode message = .ok envelope)
      (kind : envelope.kind ≠ .chunkReply)
  /-- It is a chunk with another label, whatever else the chunk says. -/
  | otherLabel {envelope : Envelope} {chunk : ChunkReply}
      (decoded : Envelope.decode message = .ok envelope) (kind : envelope.kind = .chunkReply)
      (record : envelope.record ChunkReply.schema = .ok chunk) (label_ne : chunk.label ≠ label)

namespace StreamState

theorem judgeReply_eq_foreign_iff {s : StreamState} {reply : ChunkReply} :
    s.judgeReply reply = .foreign ↔ reply.label ≠ s.label := by
  unfold judgeReply
  split
  · rename_i h
    exact iff_of_true rfl h
  · rename_i h
    have hnever : ¬reply.label ≠ s.label := h
    split
    · simp [hnever]
    · split <;> simp [hnever]

/-- **The messages that are passed over are the foreign ones.** -/
theorem judge_eq_foreign_iff {s : StreamState} {message : Bytes} :
    s.judge message = .foreign ↔ Foreign s.label message := by
  constructor
  · intro h
    unfold judge at h
    split at h
    · rename_i code hdecode
      exact .unknownKind hdecode
    · cases h
    · rename_i envelope hdecode
      split at h
      · rename_i hkind
        exact .otherKind hdecode hkind
      · rename_i hkind
        split at h
        · cases h
        · rename_i reply hrecord
          exact .otherLabel hdecode (Decidable.not_not.mp hkind) hrecord
            (judgeReply_eq_foreign_iff.mp h)
  · rintro (hdecode | ⟨hdecode, hkind⟩ | ⟨hdecode, hkind, hrecord, hlabel⟩)
    · simp [judge, hdecode]
    · simp [judge, hdecode, hkind]
    · simp [judge, hdecode, hkind, hrecord, judgeReply_eq_foreign_iff, hlabel]

end StreamState

instance (label : String) (message : Bytes) : Decidable (Foreign label message) :=
  decidable_of_iff
    ((⟨label, ⟨0, 0⟩, 0, 0, 0, 0, 0⟩ : StreamState).judge message = .foreign)
    StreamState.judge_eq_foreign_iff

/-- Whether an arrival is anything to an acquisition with some label: neither a foreign message, nor a
wait in which nothing came. -/
def Arrival.concerns (label : String) : Arrival → Bool
  | message octets => !decide (Foreign label octets)
  | arrival => !arrival.lapses

/-- How many foreign messages there are among arrivals. -/
def foreignIn (label : String) (arrivals : List Arrival) : Nat :=
  (Arrival.messages arrivals).countP fun message => decide (Foreign label message)

theorem foreignIn_append (label : String) (first second : List Arrival) :
    foreignIn label (first ++ second) = foreignIn label first + foreignIn label second := by
  rw [foreignIn, Arrival.messages, List.filterMap_append, List.countP_append]
  rfl

/-- The same arrivals, but for such as do not concern an acquisition with some label: any number of
those may be in the one list and not in the other. -/
inductive Amid (label : String) : List Arrival → List Arrival → Prop
  | nil : Amid label [] []
  | both (arrival : Arrival) {before before' : List Arrival} (more : Amid label before before') :
      Amid label (arrival :: before) (arrival :: before')
  | left {arrival : Arrival} {before before' : List Arrival}
      (unconcerned : arrival.concerns label = false) (more : Amid label before before') :
      Amid label (arrival :: before) before'
  | right {arrival : Arrival} {before before' : List Arrival}
      (unconcerned : arrival.concerns label = false) (more : Amid label before before') :
      Amid label before (arrival :: before')

variable {S ω : Type}

/-! ## 2. Loops that differ in what they passed over -/

/-- A result regardless of how many messages were passed over. -/
def Summary.regardless (summary : Summary) : Summary := { summary with discarded := 0 }

/-- The same sinks in the same world, whatever was done on the link meanwhile. -/
structure Underway.Same (u other : Underway S ω) : Prop where
  reassembly : u.reassembly = other.reassembly
  world : u.world.world = other.world.world

/-- Two loops that differ only in how often and since when they ask, and in how many messages they
passed over. -/
structure ChunkLoop.Alike (loop other : ChunkLoop S ω) : Prop where
  state : other.state = { loop.state with discarded := other.state.discarded }
  underway : loop.underway.Same other.underway

theorem ChunkLoop.Alike.symm {loop other : ChunkLoop S ω} (h : loop.Alike other) :
    other.Alike loop where
  state := by
    rw [h.state]
  underway := ⟨h.underway.reassembly.symm, h.underway.world.symm⟩

/-- Two turns after which loops are alike, or that end alike. -/
inductive Turn.Alike : Turn S ω → Turn S ω → Prop
  | onward {loop other : ChunkLoop S ω} (alike : loop.Alike other) :
      Alike (.onward loop) (.onward other)
  | ended {outcome outcome' : Except AcquireError Summary} {u u' : Underway S ω}
      (regardless : outcome.map Summary.regardless = outcome'.map Summary.regardless)
      (same : u.Same u') : Alike (.ended outcome u) (.ended outcome' u')

/-- Two exchanges that came to the same, regardless of how many messages they passed over. -/
structure Exchanged.Alike (e other : Exchanged S ω) : Prop where
  outcome : e.outcome.map (Except.map Summary.regardless) =
    other.outcome.map (Except.map Summary.regardless)
  underway : e.underway.Same other.underway

section

variable [SampleSink S ω]

/-- Streams that differ in what they passed over take a message alike. -/
theorem StreamState.accept_alike {state other : StreamState}
    (hstate : other = { state with discarded := other.discarded }) (message : Bytes)
    (reassembly : Reassembly (TracedSink S)) (w w' : Traced ω) (hworld : w.world = w'.world) :
    Finding.ofAccepted (state.accept message reassembly w).1 =
        Finding.ofAccepted (other.accept message reassembly w').1 ∧
      other.orAfter (other.accept message reassembly w').1 =
        { state.orAfter (state.accept message reassembly w).1 with
          discarded := (other.orAfter (other.accept message reassembly w').1).discarded } ∧
      (state.accept message reassembly w).2.1 = (other.accept message reassembly w').2.1 ∧
      (state.accept message reassembly w).2.2.world =
        (other.accept message reassembly w').2.2.world := by
  have hjudge : other.judge message = state.judge message := by
    rw [hstate]
    rfl
  cases h : state.judge message with
  | foreign =>
    rw [h] at hjudge
    rw [accept_of_foreign h, accept_of_foreign hjudge]
    refine ⟨rfl, ?_, rfl, hworld⟩
    simp only [orAfter]
    rw [hstate]
  | fatal e =>
    rw [h] at hjudge
    rw [accept_of_fatal h, accept_of_fatal hjudge]
    exact ⟨rfl, hstate, rfl, hworld⟩
  | chunk reply =>
    rw [h] at hjudge
    obtain ⟨hfailure, hreassembly, hafter⟩ :=
      reassembly.append_congr reply.waveforms.toNat reply.data hworld
    rw [accept_of_chunk h, accept_of_chunk hjudge, ← hfailure]
    cases (reassembly.append reply.waveforms.toNat reply.data w).1 with
    | some e => exact ⟨rfl, hstate, hreassembly, hafter⟩
    | none =>
      refine ⟨?_, ?_, hreassembly, hafter⟩
      · cases reply.isFinal <;> rfl
      · simp only [orAfter]
        rw [hstate]
        rfl

namespace ChunkLoop

variable {c : AcquisitionConfig} {r : AcquisitionRequest} {label : String} {s t : Surroundings}

/-- Loops that are alike meet an arrival alike. -/
theorem meet_alike {loop other : ChunkLoop S ω} (h : loop.Alike other) (wait : Duration)
    (arrival : Arrival) :
    (loop.meet wait arrival).finding = (other.meet wait arrival).finding ∧
      (other.meet wait arrival).state = { (loop.meet wait arrival).state with
        discarded := (other.meet wait arrival).state.discarded } ∧
      (loop.meet wait arrival).underway.Same (other.meet wait arrival).underway := by
  cases hmessage : arrival.message? with
  | none =>
    obtain ⟨hstate, hunderway⟩ := loop.meet_of_no_message wait hmessage
    obtain ⟨hstate', hunderway'⟩ := other.meet_of_no_message wait hmessage
    rw [hstate, hunderway, hstate', hunderway']
    refine ⟨?_, h.state, h.underway.reassembly, h.underway.world⟩
    cases arrival with
    | message octets => cases hmessage
    | quiet => rfl
    | fails e => cases e <;> rfl
  | some octets =>
    obtain rfl := Arrival.eq_message hmessage
    obtain ⟨hfinding, hstate, hreassembly, hworld⟩ := StreamState.accept_alike h.state octets
      loop.underway.reassembly (loop.underway.world.did (.awaits wait))
      (other.underway.world.did (.awaits wait)) h.underway.world
    rw [loop.meet_message, other.meet_message, ← h.underway.reassembly]
    exact ⟨hfinding, hstate, hreassembly, hworld⟩

omit [SampleSink S ω] in
/-- Who has not given up goes on. -/
theorem unlessCancelled_of_none (hs : s.cancelAt = none) (loop : ChunkLoop S ω) :
    loop.unlessCancelled s = .onward loop := by
  rw [unlessCancelled, Surroundings.cancelledBy, hs]
  rfl

/-- Loops that are alike take a turn alike, unless time is up for one of them. -/
theorem turn_alike (hs : s.cancelAt = none) (ht : t.cancelAt = none) {loop other : ChunkLoop S ω}
    (h : loop.Alike other) (arrival : Arrival)
    (htime : ∀ after u, loop.turn c r s arrival ≠ .ended (.error (.timeout after)) u)
    (htime' : ∀ after u, other.turn c r t arrival ≠ .ended (.error (.timeout after)) u) :
    (loop.turn c r s arrival).Alike (other.turn c r t arrival) := by
  obtain ⟨hfinding, hstate, hunderway⟩ := meet_alike h c.chunkWait arrival
  cases hfound : (loop.meet c.chunkWait arrival).finding with
  | failure e =>
    rw [turn_of_finding hfound, turn_of_finding (hfinding ▸ hfound)]
    exact .ended rfl hunderway
  | lastChunk =>
    rw [turn_of_finding hfound, turn_of_finding (hfinding ▸ hfound)]
    refine .ended ?_ hunderway
    rw [hstate]
    rfl
  | chunk =>
    rw [turn_of_finding hfound, turn_of_finding (hfinding ▸ hfound), unlessCancelled_of_none hs,
      unlessCancelled_of_none ht]
    exact .onward ⟨hstate, hunderway⟩
  | nothing =>
    rw [turn_of_finding hfound] at htime ⊢
    rw [turn_of_finding (hfinding ▸ hfound)] at htime' ⊢
    simp only at htime htime' ⊢
    split at htime
    · exact absurd rfl (htime _ _)
    · split at htime'
      · exact absurd rfl (htime' _ _)
      · rename_i hleft hleft'
        rw [if_neg hleft, if_neg hleft', unlessCancelled_of_none hs, unlessCancelled_of_none ht]
        exact .onward ⟨hstate, hunderway⟩

/-- Every meeting counts the foreign messages. -/
theorem discarded_meet (loop : ChunkLoop S ω) (wait : Duration) (arrival : Arrival) :
    (loop.meet wait arrival).state.discarded =
      loop.state.discarded + foreignIn loop.state.label [arrival] := by
  cases hmessage : arrival.message? with
  | none =>
    rw [(loop.meet_of_no_message wait hmessage).1]
    simp [foreignIn, Arrival.messages, hmessage]
  | some octets =>
    obtain rfl := Arrival.eq_message hmessage
    have hcount : foreignIn loop.state.label [.message octets] =
        if loop.state.judge octets = .foreign then 1 else 0 := by
      simp [foreignIn, Arrival.messages, Arrival.message?, StreamState.judge_eq_foreign_iff,
        List.countP_cons]
    rw [loop.meet_message, hcount]
    cases hjudge : loop.state.judge octets with
    | foreign =>
      rw [StreamState.accept_of_foreign hjudge]
      rfl
    | fatal e =>
      rw [StreamState.accept_of_fatal hjudge]
      rfl
    | chunk reply =>
      rw [StreamState.accept_of_chunk hjudge]
      cases (loop.underway.reassembly.append reply.waveforms.toNat reply.data
        (loop.underway.world.did (.awaits wait))).1 <;> rfl

/-- An arrival that does not concern a loop is passed over. -/
theorem meet_of_unconcerned {loop : ChunkLoop S ω} (wait : Duration) {arrival : Arrival}
    (h : arrival.concerns loop.state.label = false) :
    (loop.meet wait arrival).finding = .nothing ∧
      (loop.meet wait arrival).state = { loop.state with
        discarded := (loop.meet wait arrival).state.discarded } ∧
      (loop.meet wait arrival).underway.Same loop.underway := by
  cases hmessage : arrival.message? with
  | none =>
    obtain ⟨hstate, hunderway⟩ := loop.meet_of_no_message wait hmessage
    rw [hstate, hunderway]
    refine ⟨?_, rfl, rfl, rfl⟩
    cases arrival with
    | message octets => cases hmessage
    | quiet => rfl
    | fails e => cases e <;> first | rfl | cases h
  | some octets =>
    obtain rfl := Arrival.eq_message hmessage
    have hforeign : Foreign loop.state.label octets := by simpa [Arrival.concerns] using h
    rw [loop.meet_message,
      StreamState.accept_of_foreign (StreamState.judge_eq_foreign_iff.mpr hforeign)]
    exact ⟨rfl, rfl, rfl, rfl⟩

/-- After an arrival that does not concern a loop, it goes on as before, unless time is up. -/
theorem turn_of_unconcerned (hs : s.cancelAt = none) {loop other : ChunkLoop S ω}
    (h : loop.Alike other) {arrival : Arrival} (hconcerns : arrival.concerns loop.state.label = false)
    (htime : ∀ after u, loop.turn c r s arrival ≠ .ended (.error (.timeout after)) u) :
    ∃ next, loop.turn c r s arrival = .onward next ∧ next.Alike other := by
  obtain ⟨hfinding, hstate, hunderway⟩ := meet_of_unconcerned c.chunkWait hconcerns
  rw [turn_of_finding hfinding] at htime ⊢
  simp only at htime ⊢
  split at htime
  · exact absurd rfl (htime _ _)
  · rename_i hleft
    rw [if_neg hleft, unlessCancelled_of_none hs]
    refine ⟨_, rfl, ?_, ?_, ?_⟩
    · rw [h.state, hstate]
    · exact hunderway.reassembly.trans h.underway.reassembly
    · exact hunderway.world.trans h.underway.world

/-! ## 3. Whole runs -/

/-- Loops that are alike and meet the same arrivals come to the same, and leave the same. -/
theorem run_of_alike (hs : s.cancelAt = none) (ht : t.cancelAt = none) {loop other : ChunkLoop S ω}
    (h : loop.Alike other) {arrivals : List Arrival}
    (htime : ∀ after, (loop.run c r s arrivals).outcome ≠ some (.error (.timeout after)))
    (htime' : ∀ after, (other.run c r t arrivals).outcome ≠ some (.error (.timeout after))) :
    (loop.run c r s arrivals).Alike (other.run c r t arrivals) ∧
      (loop.run c r s arrivals).left = (other.run c r t arrivals).left := by
  induction arrivals generalizing loop other with
  | nil => exact ⟨⟨rfl, h.underway⟩, rfl⟩
  | cons arrival more ih =>
    rw [run_cons] at htime htime' ⊢
    rw [run_cons]
    have halike := turn_alike (c := c) (r := r) hs ht h arrival
      (fun after u hturn => htime after (by rw [hturn]; rfl))
      (fun after u hturn => htime' after (by rw [hturn]; rfl))
    generalize loop.turn c r s arrival = turn at htime halike ⊢
    generalize other.turn c r t arrival = turn' at htime' halike ⊢
    cases halike with
    | onward hnext => exact ih hnext htime htime'
    | ended hregardless hsame => exact ⟨⟨congrArg some hregardless, hsame⟩, rfl⟩

/-- **Arrivals that do not concern a loop make no difference to it**: loops that are alike and meet the
same arrivals but for those come to the same.  If the first arrivals do not end the one loop, then both
leave the same of the rest. -/
theorem run_of_amid (hs : s.cancelAt = none) (ht : t.cancelAt = none) {before before' : List Arrival}
    (hamid : Amid label before before') (rest : List Arrival) {loop other : ChunkLoop S ω}
    (h : loop.Alike other) (hlabel : loop.state.label = label)
    (htime : ∀ after, (loop.run c r s (before ++ rest)).outcome ≠ some (.error (.timeout after)))
    (htime' : ∀ after,
      (other.run c r t (before' ++ rest)).outcome ≠ some (.error (.timeout after))) :
    (loop.run c r s (before ++ rest)).Alike (other.run c r t (before' ++ rest)) ∧
      ((loop.after c r s before).isSome →
        (loop.run c r s (before ++ rest)).left = (other.run c r t (before' ++ rest)).left) := by
  induction hamid generalizing loop other with
  | nil =>
    obtain ⟨halike, hleft⟩ := run_of_alike hs ht h htime htime'
    exact ⟨halike, fun _ => hleft⟩
  | both arrival more ih =>
    rw [List.cons_append, run_cons] at htime htime' ⊢
    rw [List.cons_append, run_cons, after]
    have halike := turn_alike (c := c) (r := r) hs ht h arrival
      (fun after u hturn => htime after (by rw [hturn]; rfl))
      (fun after u hturn => htime' after (by rw [hturn]; rfl))
    have hnext : ∀ next, loop.turn c r s arrival = .onward next → next.state.label = label := by
      intro next hturn
      rw [(turn_eq_onward hturn).2.1, (loop.meet_frame c.chunkWait arrival).1, hlabel]
    generalize loop.turn c r s arrival = turn at htime halike hnext ⊢
    generalize other.turn c r t arrival = turn' at htime' halike ⊢
    cases halike with
    | onward hlike => exact ih hlike (hnext _ rfl) htime htime'
    | ended hregardless hsame =>
      exact ⟨⟨congrArg some hregardless, hsame⟩, fun h => by cases h⟩
  | @left arrival _ _ unconcerned more ih =>
    rw [List.cons_append, run_cons] at htime ⊢
    rw [after]
    obtain ⟨next, hturn, hlike⟩ := turn_of_unconcerned (c := c) (r := r) hs h
      (hlabel ▸ unconcerned) (fun after u hturn => htime after (by rw [hturn]; rfl))
    have hnext : next.state.label = label := by
      rw [(turn_eq_onward hturn).2.1, (loop.meet_frame c.chunkWait arrival).1, hlabel]
    rw [hturn] at htime ⊢
    exact ih hlike hnext htime htime'
  | @right arrival _ _ unconcerned more ih =>
    rw [List.cons_append, run_cons] at htime' ⊢
    have hother : other.state.label = label := by rw [h.state, hlabel]
    obtain ⟨next, hturn, hlike⟩ := turn_of_unconcerned (c := c) (r := r) ht h.symm
      (hother ▸ unconcerned) (fun after u hturn => htime' after (by rw [hturn]; rfl))
    rw [hturn] at htime' ⊢
    exact ih hlike.symm hlabel htime htime'

/-- A result tells how many foreign messages were met. -/
theorem discarded_of_run (loop : ChunkLoop S ω) (arrivals : List Arrival) :
    ∃ taken, arrivals = taken ++ (loop.run c r s arrivals).left ∧
      ∀ summary, (loop.run c r s arrivals).outcome = some (.ok summary) →
        summary.discarded = loop.state.discarded + foreignIn loop.state.label taken := by
  obtain ⟨taken, state, htaken, -, ⟨-, hcount⟩, hsummary⟩ := run_invariant (c := c) (r := r) (s := s)
    (P := fun met state _ => state.label = loop.state.label ∧
      state.discarded = loop.state.discarded + foreignIn loop.state.label met)
    (by
      rintro met other arrival ⟨hlabel, hdiscarded⟩
      refine ⟨(other.meet_frame c.chunkWait arrival).1.trans hlabel, ?_⟩
      rw [other.discarded_meet, hdiscarded, hlabel, foreignIn_append, Nat.add_assoc])
    [] loop ⟨rfl, rfl⟩ arrivals
  refine ⟨taken, htaken, ?_⟩
  intro summary houtcome
  rw [hsummary summary houtcome]
  exact hcount

/-- When two loops leave the same of the rest, and the first arrivals did not end the one, then their
results differ by the foreign messages among the first arrivals. -/
theorem discarded_of_left_eq {loop other : ChunkLoop S ω} {before before' rest : List Arrival}
    (hlabel : loop.state.label = label) (hlabel' : other.state.label = label)
    (hstill : (loop.after c r s before).isSome)
    (hleft : (loop.run c r s (before ++ rest)).left = (other.run c r t (before' ++ rest)).left)
    {summary summary' : Summary}
    (hok : (loop.run c r s (before ++ rest)).outcome = some (.ok summary))
    (hok' : (other.run c r t (before' ++ rest)).outcome = some (.ok summary')) :
    summary'.discarded + (loop.state.discarded + foreignIn label before) =
      summary.discarded + (other.state.discarded + foreignIn label before') := by
  obtain ⟨taken, htaken, hcount⟩ := discarded_of_run (c := c) (r := r) (s := s) loop
    (before ++ rest)
  obtain ⟨taken', htaken', hcount'⟩ := discarded_of_run (c := c) (r := r) (s := t) other
    (before' ++ rest)
  -- The loop goes on after the first arrivals, so that both have taken the same of the rest.
  obtain ⟨later, hlater⟩ := Option.isSome_iff_exists.mp hstill
  obtain ⟨more, hmore, -⟩ := discarded_of_run (c := c) (r := r) (s := s) later rest
  rw [← run_append hlater] at hmore
  rw [← hleft] at htaken'
  have hdiscarded := hcount summary hok
  have hdiscarded' := hcount' summary' hok'
  generalize (loop.run c r s (before ++ rest)).left = left at hmore htaken htaken'
  subst hmore
  rw [← List.append_assoc] at htaken htaken'
  have hall : taken = before ++ more := (List.append_cancel_right htaken).symm
  have hall' : taken' = before' ++ more := (List.append_cancel_right htaken').symm
  rw [hall, foreignIn_append, hlabel] at hdiscarded
  rw [hall', foreignIn_append, hlabel'] at hdiscarded'
  omega

end ChunkLoop

/-! ## 4. Acquisitions -/

/-- Exchanges that came to the same make acquisitions that do. -/
theorem Exchanged.Alike.conclude {e other : Exchanged S ω} (h : e.Alike other) :
    e.conclude.outcome.map (Except.map Summary.regardless) =
        other.conclude.outcome.map (Except.map Summary.regardless) ∧
      e.conclude.sinks = other.conclude.sinks ∧ e.conclude.world = other.conclude.world := by
  obtain ⟨houtcome, hreassembly, hworld⟩ := h
  obtain ⟨hfailure, hsinks, hafter⟩ := e.underway.reassembly.close_congr hworld
  unfold Exchanged.conclude
  rw [← hreassembly]
  cases hend : e.outcome with
  | none =>
    rw [hend] at houtcome
    rw [Option.map_eq_none_iff.mp houtcome.symm]
    exact ⟨rfl, rfl, hworld⟩
  | some outcome =>
    rw [hend] at houtcome
    obtain ⟨outcome', hend', hsame⟩ := Option.map_eq_some_iff.mp houtcome.symm
    rw [hend']
    simp only [Run.of, hsinks, hafter, ← hfailure, Option.map_some, and_self, and_true]
    cases outcome with
    | error e =>
      cases outcome' with
      | error e' => exact congrArg some hsame.symm
      | ok summary => cases hsame
    | ok summary =>
      cases outcome' with
      | error e' => cases hsame
      | ok summary' =>
        cases (e.underway.reassembly.close e.underway.world).1 with
        | none => exact congrArg some hsame.symm
        | some failure => rfl

section

variable {c : AcquisitionConfig} {r : AcquisitionRequest} {label : String} {s t : Surroundings}
  {before before' rest : List Arrival}

/-- Exchanges that meet the same arrivals but for foreign ones come to the same.  If the first arrivals
do not end the one, then the results differ by the foreign messages among the first arrivals. -/
theorem exchangeChunks_of_amid (hs : Undisturbed s) (ht : Undisturbed t)
    (harrivals : s.arrivals = before ++ rest) (harrivals' : t.arrivals = before' ++ rest)
    (hamid : Amid label before before') (u : Underway S ω)
    (htime : ∀ after, (exchangeChunks c r label s u).outcome ≠ some (.error (.timeout after)))
    (htime' : ∀ after, (exchangeChunks c r label t u).outcome ≠ some (.error (.timeout after))) :
    (exchangeChunks c r label s u).Alike (exchangeChunks c r label t u) ∧
      ((exchangeChunks c r label { s with arrivals := before } u).outcome = none →
        ∀ summary summary', (exchangeChunks c r label s u).outcome = some (.ok summary) →
          (exchangeChunks c r label t u).outcome = some (.ok summary') →
          summary'.discarded + foreignIn label before =
            summary.discarded + foreignIn label before') := by
  have hknown : Undisturbed { s with arrivals := before } := ⟨hs.uncancelled, hs.sent⟩
  rw [exchangeChunks_of_undisturbed c r label hknown, ChunkLoop.run_outcome_eq_none_iff,
    ChunkLoop.after_with_arrivals]
  rw [exchangeChunks_of_undisturbed c r label hs, harrivals] at htime ⊢
  rw [exchangeChunks_of_undisturbed c r label ht, harrivals'] at htime' ⊢
  have hlike : ChunkLoop.Alike
      ⟨0, s.clock.sent, .start c r label,
        (u.did (.setsCapacity (c.creditFor r))).did (.sends (c.requestMessage r label))⟩
      ⟨0, t.clock.sent, .start c r label,
        (u.did (.setsCapacity (c.creditFor r))).did (.sends (c.requestMessage r label))⟩ :=
    ⟨rfl, rfl, rfl⟩
  obtain ⟨halike, hleft⟩ := ChunkLoop.run_of_amid (c := c) (r := r) hs.uncancelled ht.uncancelled
    hamid rest hlike rfl htime htime'
  refine ⟨halike, ?_⟩
  intro hstill summary summary' hok hok'
  have hlabel : (StreamState.start c r label).label = label := rfl
  have hcount := ChunkLoop.discarded_of_left_eq hlabel hlabel hstill (hleft hstill) hok hok'
  have hzero : (StreamState.start c r label).discarded = 0 := rfl
  simp only [hzero, Nat.zero_add] at hcount
  exact hcount

/-- **Foreign traffic is ignored**: two acquisitions with chunks that meet the same arrivals, but for
foreign messages and waits in which nothing came, have the same outcome and leave the same in their
sinks, as long as neither waits for too long.  Only the count of messages that were passed over differs:
by the foreign messages on the way to the one that ends the acquisitions. -/
theorem foreign_traffic_ignored (hmode : c.mode = .streaming) {factory : SinkFactory S ω} {world : ω}
    (hs : s.cancelAt = none) (ht : t.cancelAt = none) (hsend : s.sendFault = t.sendFault)
    (harrivals : s.arrivals = before ++ rest) (harrivals' : t.arrivals = before' ++ rest)
    (hamid : Amid label before before')
    (htime : ∀ after, (acquire c r label s factory world).outcome ≠ some (.error (.timeout after)))
    (htime' : ∀ after,
      (acquire c r label t factory world).outcome ≠ some (.error (.timeout after))) :
    let run := acquire c r label s factory world
    let other := acquire c r label t factory world
    run.outcome.map (Except.map Summary.regardless) =
        other.outcome.map (Except.map Summary.regardless) ∧
      run.sinks = other.sinks ∧ run.world = other.world ∧
      ((acquire c r label { s with arrivals := before } factory world).outcome = none →
        ∀ summary summary', run.outcome = some (.ok summary) → other.outcome = some (.ok summary') →
          summary'.discarded + foreignIn label before =
            summary.discarded + foreignIn label before') := by
  have hbegin : Beginning.of c r t factory world = Beginning.of c r s factory world := by
    unfold Beginning.of Surroundings.cancelledBy
    rw [hs, ht]
  have hknown : Beginning.of c r { s with arrivals := before } factory world =
      Beginning.of c r s factory world := rfl
  intro run other
  simp only [run, other] at htime htime' ⊢
  rw [acquire_eq] at htime htime' ⊢
  rw [acquire_eq c r label t, acquire_eq c r label { s with arrivals := before }, hknown]
  rw [hbegin] at htime' ⊢
  generalize Beginning.of c r s factory world = beginning at htime htime' ⊢
  cases beginning with
  | refused e => exact ⟨rfl, rfl, rfl, fun h => by cases h⟩
  | unopened channel fault sinks w => exact ⟨rfl, rfl, rfl, fun h => by cases h⟩
  | opened u =>
    simp only [exchange, hmode, Exchanged.outcome_conclude_eq_none_iff] at htime htime' ⊢
    rcases Option.eq_none_or_eq_some s.sendFault with hfault | ⟨e, hfault⟩
    · obtain ⟨halike, hcount⟩ := exchangeChunks_of_amid (c := c) (r := r) ⟨hs, hfault⟩
        ⟨ht, hsend ▸ hfault⟩ harrivals harrivals' hamid u
        (fun after h => htime after (Exchanged.outcome_conclude_of_error h))
        (fun after h => htime' after (Exchanged.outcome_conclude_of_error h))
      obtain ⟨houtcome, hsinks, hworld⟩ := halike.conclude
      refine ⟨houtcome, hsinks, hworld, ?_⟩
      intro hstill summary summary' hok hok'
      exact hcount hstill summary summary' (Exchanged.outcome_of_conclude_ok hok)
        (Exchanged.outcome_of_conclude_ok hok')
    · have hunseen : s.cancelledBy .opening = false := by
        rw [Surroundings.cancelledBy, hs]
        rfl
      have hunseen' : t.cancelledBy .opening = false := by
        rw [Surroundings.cancelledBy, ht]
        rfl
      rw [exchangeChunks_of_sendFault hunseen hfault,
        exchangeChunks_of_sendFault hunseen' (hsend ▸ hfault)]
      exact ⟨rfl, rfl, rfl, fun _ _ _ h => by cases h⟩

end

end

/-- Two chunks. -/
def quietLine : Surroundings where
  arrivals := [.ofChunk (pairChunk "a" 1 [1, 2] false)] ++ [.ofChunk (pairChunk "a" 1 [3, 4] true)]

/-- The same chunks behind a last chunk of another acquisition, a message of a kind that is not known, a
wait, and a command's answer. -/
def busyLine : Surroundings where
  arrivals :=
    [.ofChunk (pairChunk "b" 9 [7] true), .message (RawEnvelope.schema.write ⟨99, []⟩), .quiet,
      .message (Envelope.encode .softwareTrigger [1]), .ofChunk (pairChunk "a" 1 [1, 2] false)] ++
    [.ofChunk (pairChunk "a" 1 [3, 4] true)]

theorem foreign_traffic_ignored_pair :
    let run := acquire {} pairRequest "a" quietLine sureFactory ()
    let other := acquire {} pairRequest "a" busyLine sureFactory ()
    run.sinks = other.sinks ∧ (run.sinks.map fun sink => sink.2.samples) = [[1, 3], [2, 4]] ∧
      ∃ summary summary', run.outcome = some (.ok summary) ∧ other.outcome = some (.ok summary') ∧
        summary.regardless = summary'.regardless ∧ summary'.discarded = summary.discarded + 3 := by
  intro run other
  have hamid : Amid "a" [.ofChunk (pairChunk "a" 1 [1, 2] false)]
      [.ofChunk (pairChunk "b" 9 [7] true), .message (RawEnvelope.schema.write ⟨99, []⟩), .quiet,
        .message (Envelope.encode .softwareTrigger [1]), .ofChunk (pairChunk "a" 1 [1, 2] false)] :=
    .right (by decide +kernel) (.right (by decide +kernel) (.right (by decide +kernel)
      (.right (by decide +kernel) (.both _ .nil))))
  obtain ⟨summary, hok⟩ : ∃ summary, run.outcome = some (.ok summary) := ⟨_, rfl⟩
  obtain ⟨summary', hok'⟩ : ∃ summary, other.outcome = some (.ok summary) := ⟨_, rfl⟩
  have htime : ∀ after, (acquire {} pairRequest "a" quietLine sureFactory ()).outcome ≠
      some (.error (.timeout after)) := fun after h => by cases hok.symm.trans h
  have htime' : ∀ after, (acquire {} pairRequest "a" busyLine sureFactory ()).outcome ≠
      some (.error (.timeout after)) := fun after h => by cases hok'.symm.trans h
  obtain ⟨hregardless, hsinks, -, hdiscarded⟩ :=
    foreign_traffic_ignored (s := quietLine) (t := busyLine) rfl rfl rfl rfl rfl rfl hamid htime htime'
  have hcount := hdiscarded rfl summary summary' hok hok'
  have hforeign : foreignIn "a" [.ofChunk (pairChunk "a" 1 [1, 2] false)] = 0 := by decide +kernel
  have hforeign' : foreignIn "a" [.ofChunk (pairChunk "b" 9 [7] true),
      .message (RawEnvelope.schema.write ⟨99, []⟩), .quiet,
      .message (Envelope.encode .softwareTrigger [1]), .ofChunk (pairChunk "a" 1 [1, 2] false)] = 3 := by
    decide +kernel
  refine ⟨hsinks, rfl, summary, summary', hok, hok', ?_, ?_⟩
  · have hok'' := hregardless
    rw [show (acquire {} pairRequest "a" quietLine sureFactory ()).outcome = _ from hok,
      show (acquire {} pairRequest "a" busyLine sureFactory ()).outcome = _ from hok'] at hok''
    exact Except.ok.inj (Option.some.inj hok'')
  · omega

end Readout

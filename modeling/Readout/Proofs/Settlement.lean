/-
# What settles an exchange

An exchange with the device is settled when its result is known: with chunks, by what ends the stream; with
one answer, by the answer, by a link that fails, or by the time.  `Settles` says after how many arrivals that
is so, and an exchange stops there.

* `ChunkLoop.run_consumes` -- a loop stops at the first arrival that ends its stream;
* `awaitReply_consumes` -- the wait for the one answer stops where it is settled;
* `exchange_consumes` -- so does an exchange in either mode;
* `exchange_kept`, `exchange_takes` -- however it ends, the sinks have got what was accepted among the
  messages it took, and have taken all of it unless one failed.
-/
import Readout.Proofs.StreamEnds

namespace Readout

open Control

variable {S ω : Type} [SampleSink S ω]

/-! ## 1. What settles an exchange -/

/-- The result that the one answer determines. -/
def answerOutcome (r : AcquisitionRequest) (start : Reassembly S × ω) (message : Bytes) :
    Except AcquireError Summary :=
  match replyData r message with
  | .error e => .error e
  | .ok data =>
    match (start.1.append r.waveforms.toNat data start.2).1 with
    | some e => .error e
    | none => .ok (singleSummary r r.waveforms.toNat)

/-- **When the result of an exchange is known**, and what it is: after so many arrivals, of which the last
determines it. -/
inductive Settles (c : AcquisitionConfig) (r : AcquisitionRequest) (label : String) (s : Surroundings)
    (start : Reassembly S × ω) : Nat → Except AcquireError Summary → Prop
  /-- Something ends the stream of chunks. -/
  | stream {n : Nat} {arrival : Arrival} {outcome : Except AcquireError Summary}
      (mode : c.mode = .streaming) (next : s.arrivals[n]? = some arrival)
      (ends : Ends c r label s start n arrival outcome) : Settles c r label s start (n + 1) outcome
  /-- The one answer is there, after waits in which nothing came. -/
  | answer {n : Nat} {message : Bytes} (mode : c.mode = .single)
      (lapsed : ∀ arrival ∈ s.arrivals.take n, arrival.lapses = true)
      (next : s.arrivals[n]? = some (.message message)) :
      Settles c r label s start (n + 1) (answerOutcome r start message)
  /-- The link failed instead. -/
  | linkFails {n : Nat} {e : LinkError} (mode : c.mode = .single)
      (lapsed : ∀ arrival ∈ s.arrivals.take n, arrival.lapses = true)
      (next : s.arrivals[n]? = some (.fails e)) (notTimeout : ∀ after, e ≠ .timeout after) :
      Settles c r label s start (n + 1) (.error (.receive e))
  /-- The time for the one answer is up, before the first wait or after one in which nothing came. -/
  | tooLate {n : Nat} (mode : c.mode = .single)
      (lapsed : ∀ arrival ∈ s.arrivals.take n, arrival.lapses = true)
      (late : c.replyTimeout ≤ (s.clock.after n).sub s.clock.sent) :
      Settles c r label s start n (.error (.timeout c.replyTimeout))

/-- An exchange that takes what arrives until it is settled, and nothing that comes behind. -/
structure Consumed (c : AcquisitionConfig) (r : AcquisitionRequest) (label : String) (s : Surroundings)
    (start : Reassembly S × ω) (e : Exchanged S ω) : Prop where
  within : e.receives ≤ s.arrivals.length
  left : e.left = s.arrivals.drop e.receives
  kept : e.underway.bare = s.kept c r label start e.receives
  /-- Nothing settled it before. -/
  shortest : ∀ n < e.receives, ∀ outcome, ¬Settles c r label s start n outcome
  settled : s.cancelAt = none →
    ∀ outcome, Settles c r label s start e.receives outcome ↔ e.outcome = some outcome
  /-- Unless the caller has given up, its result is the one that settles it. -/
  known : ∀ outcome, e.outcome = some outcome →
    outcome = .error .cancelled ∨ Settles c r label s start e.receives outcome
  /-- A sink that fails settles it even if the caller has given up meanwhile. -/
  refused : ∀ channel fault, Settles c r label s start e.receives (.error (.sink channel fault)) →
    e.outcome = some (.error (.sink channel fault))
  /-- While it waits, it has taken all there is. -/
  waiting : e.outcome = none → e.receives = s.arrivals.length

section

variable {c : AcquisitionConfig} {r : AcquisitionRequest} {label : String} {s : Surroundings}
  {start : Reassembly S × ω} {n : Nat} {outcome : Except AcquireError Summary}

/-- With chunks, it is the last arrival that settles an exchange. -/
theorem settles_succ_iff (hmode : c.mode = .streaming) {arrival : Arrival}
    (harrival : s.arrivals[n]? = some arrival) :
    Settles c r label s start (n + 1) outcome ↔ Ends c r label s start n arrival outcome := by
  constructor
  · intro h
    cases h with
    | stream mode next ends =>
      rw [Option.some.inj (harrival.symm.trans next)]
      exact ends
    | answer mode => cases hmode.symm.trans mode
    | linkFails mode => cases hmode.symm.trans mode
    | tooLate mode => cases hmode.symm.trans mode
  · exact fun h => .stream hmode harrival h

theorem not_settles_zero (hmode : c.mode = .streaming) : ¬Settles c r label s start 0 outcome := by
  intro h
  cases h with
  | tooLate mode => cases hmode.symm.trans mode

/-- A loop that nothing has ended, and for which nothing more comes, has taken all there is. -/
theorem ChunkLoop.Tracks.consumed_of_waiting {loop : ChunkLoop S ω} (h : loop.Tracks c r label s start)
    (hall : loop.receives = s.arrivals.length)
    (hbefore : ∀ n ≤ loop.receives, ∀ outcome, ¬Settles c r label s start n outcome) :
    Consumed c r label s start ⟨none, loop.underway, loop.receives, []⟩ := by
  have hopen := hbefore _ (Nat.le_refl _)
  refine ⟨Nat.le_of_eq hall, ?_, h.kept, fun n hn => hbefore n (Nat.le_of_lt hn), ?_, ?_, ?_,
    fun _ => hall⟩
  · exact (List.drop_eq_nil_iff.mpr (Nat.le_of_eq hall.symm)).symm
  · exact fun _ outcome => iff_of_false (hopen outcome) (fun hnone => by cases hnone)
  · exact fun outcome hnone => by cases hnone
  · exact fun channel fault hsettles => absurd hsettles (hopen _)

/-- A loop whose stream an arrival ends is settled by that. -/
theorem ChunkLoop.Tracks.consumed_of_ends {loop : ChunkLoop S ω} {arrival : Arrival}
    (h : loop.Tracks c r label s start) (hmode : c.mode = .streaming)
    (harrival : s.arrivals[loop.receives]? = some arrival)
    (hbefore : ∀ n ≤ loop.receives, ∀ outcome, ¬Settles c r label s start n outcome)
    (hends : Ends c r label s start loop.receives arrival outcome) :
    ∃ u, loop.turn c r s arrival = .ended outcome u ∧
      Consumed c r label s start
        ⟨some outcome, u, loop.receives + 1, s.arrivals.drop (loop.receives + 1)⟩ := by
  obtain ⟨u, hturn, hkept⟩ := h.ends hmode harrival hends
  have hsettled : ∀ other, Settles c r label s start (loop.receives + 1) other ↔
      some outcome = some other := by
    intro other
    rw [settles_succ_iff hmode harrival]
    constructor
    · intro hends'
      obtain ⟨u', hturn', -⟩ := h.ends hmode harrival hends'
      exact congrArg some (Turn.ended.inj (hturn.symm.trans hturn')).1
    · intro hsame
      rw [← Option.some.inj hsame]
      exact hends
  exact ⟨u, hturn, (List.getElem?_eq_some_iff.mp harrival).1, rfl, hkept,
    fun n hn => hbefore n (Nat.le_of_lt_succ hn), fun _ => hsettled,
    fun other hother => Or.inr ((hsettled other).mpr hother), fun _ _ => (hsettled _).mp,
    fun hnone => by cases hnone⟩

/-- A loop that the caller ends, and nothing else, has taken what it needed to. -/
theorem ChunkLoop.Tracks.consumed_of_seen {loop : ChunkLoop S ω} (h : loop.Tracks c r label s start)
    (hwithin : loop.receives ≤ s.arrivals.length)
    (hbefore : ∀ n ≤ loop.receives, ∀ outcome, ¬Settles c r label s start n outcome)
    (hseen : s.cancelledBy (.receiving loop.receives) = true) :
    Consumed c r label s start
      ⟨some (.error .cancelled), loop.underway, loop.receives, s.arrivals.drop loop.receives⟩ := by
  refine ⟨hwithin, rfl, h.kept, fun n hn => hbefore n (Nat.le_of_lt hn), ?_, ?_, ?_,
    fun hnone => by cases hnone⟩
  · intro huncancelled
    rw [Surroundings.cancelledBy, huncancelled] at hseen
    cases hseen
  · exact fun outcome houtcome => Or.inl (Option.some.inj houtcome).symm
  · exact fun channel fault hsettles => absurd hsettles (hbefore _ (Nat.le_refl _) _)

/-- **A loop stops at the first arrival that ends its stream.** -/
theorem ChunkLoop.run_consumes {loop : ChunkLoop S ω} {left : List Arrival}
    (h : loop.Tracks c r label s start) (hmode : c.mode = .streaming)
    (hlayout : start.1.layout = r.layout) (hwithin : loop.receives ≤ s.arrivals.length)
    (hleft : s.arrivals.drop loop.receives = left)
    (hbefore : ∀ n ≤ loop.receives, ∀ outcome, ¬Settles c r label s start n outcome) :
    Consumed c r label s start (loop.run c r s left) := by
  induction left generalizing loop with
  | nil =>
    exact h.consumed_of_waiting (Nat.le_antisymm hwithin (List.drop_eq_nil_iff.mp hleft)) hbefore
  | cons arrival left ih =>
    have harrival := getElem?_of_drop hleft
    have hrest := drop_succ_of_drop hleft
    rw [run_cons]
    by_cases hover : ∃ outcome, Ends c r label s start loop.receives arrival outcome
    · obtain ⟨outcome, hends⟩ := hover
      obtain ⟨u, hturn, hconsumed⟩ := h.consumed_of_ends hmode harrival hbefore hends
      rw [hturn, ← hrest]
      exact hconsumed
    · have hgoing : ∀ outcome, ¬Ends c r label s start loop.receives arrival outcome :=
        not_exists.mp hover
      obtain ⟨later, hturn, hreceives, hlater⟩ := h.goes_on hmode hlayout harrival hgoing
      have hwithin' : later.receives ≤ s.arrivals.length := by
        rw [hreceives]
        exact (List.getElem?_eq_some_iff.mp harrival).1
      have hopen : ∀ n ≤ later.receives, ∀ outcome, ¬Settles c r label s start n outcome := by
        rw [hreceives]
        intro n hn outcome
        rcases Nat.lt_or_eq_of_le hn with hlt | rfl
        · exact hbefore n (Nat.le_of_lt_succ hlt) outcome
        · exact (settles_succ_iff hmode harrival).not.mpr (hgoing outcome)
      rw [← hreceives] at hrest
      rw [hturn, ← hreceives, Turn.resume_unlessCancelled]
      split
      · rename_i hseen
        rw [← hrest]
        exact hlater.consumed_of_seen hwithin' hopen hseen
      · exact ih hlater hwithin' hrest hopen

end

/-! ## 2. The one answer -/

section

variable {c : AcquisitionConfig} {r : AcquisitionRequest} {label : String} {s : Surroundings}
  {start : Reassembly S × ω} {n : Nat} {outcome : Except AcquireError Summary}

omit [SampleSink S ω] in
/-- While nothing comes, there is no message. -/
theorem Arrival.messages_of_lapses {arrivals : List Arrival}
    (h : ∀ arrival ∈ arrivals, arrival.lapses = true) : messages arrivals = [] := by
  refine List.filterMap_eq_nil_iff.mpr ?_
  intro arrival harrival
  cases arrival with
  | message octets => cases h _ harrival
  | fails e => rfl
  | quiet => rfl

/-- Without a message, nothing is in the sinks. -/
theorem kept_of_silence (h : Arrival.messages (s.arrivals.take n) = []) :
    s.kept c r label start n = start := by
  rw [Surroundings.kept, h, batchesIn_nil]
  rfl

/-- The answer's data is in the sinks. -/
theorem kept_of_answer (hmode : c.mode = .single) {message : Bytes}
    (h : ∀ arrival ∈ s.arrivals.take n, arrival.lapses = true)
    (hnext : s.arrivals[n]? = some (.message message)) :
    s.kept c r label start (n + 1) = Reassembly.appendEach
      ((replyData r message).toOption.map fun data => (r.waveforms.toNat, data)).toList start := by
  unfold Surroundings.kept batchesIn
  rw [hmode, Arrival.messages_take_succ hnext, Arrival.messages_of_lapses h]
  cases hdata : (replyData r message).toOption <;> simp [Arrival.message?, hdata]

/-- While nothing comes, it is the time that settles an exchange. -/
theorem settles_iff_of_lapses (hmode : c.mode = .single)
    (h : ∀ arrival ∈ s.arrivals.take n, arrival.lapses = true) :
    Settles c r label s start n outcome ↔
      c.replyTimeout ≤ (s.clock.after n).sub s.clock.sent ∧
        outcome = .error (.timeout c.replyTimeout) := by
  have hlast : ∀ {m : Nat} {arrival : Arrival}, n = m + 1 → s.arrivals[m]? = some arrival →
      arrival.lapses = true := by
    rintro m arrival rfl hnext
    exact h arrival (List.mem_of_getElem? (List.getElem?_take_of_succ.trans hnext))
  constructor
  · intro hsettles
    cases hsettles with
    | stream mode => cases hmode.symm.trans mode
    | answer mode lapsed next => cases hlast rfl next
    | @linkFails m e mode lapsed next notTimeout =>
      have hlapses := hlast rfl next
      cases e with
      | timeout after => exact absurd rfl (notTimeout after)
      | _ => cases hlapses
    | tooLate mode lapsed late => exact ⟨late, rfl⟩
  · rintro ⟨hlate, rfl⟩
    exact .tooLate hmode h hlate

/-- A wait in which nothing came is one more. -/
theorem lapses_take_succ {arrival : Arrival}
    (h : ∀ arrival ∈ s.arrivals.take n, arrival.lapses = true) (hnext : s.arrivals[n]? = some arrival)
    (hlapses : arrival.lapses = true) :
    ∀ arrival ∈ s.arrivals.take (n + 1), arrival.lapses = true := by
  intro other hother
  rw [List.take_add_one, hnext] at hother
  rcases List.mem_append.mp hother with hother | hother
  · exact h other hother
  · rw [Option.mem_toList.mp hother |> Option.some.inj |>.symm]
    exact hlapses

/-- What is no wait any more settles an exchange on its own. -/
theorem settles_succ_of_single (hmode : c.mode = .single) {arrival : Arrival}
    (h : ∀ arrival ∈ s.arrivals.take n, arrival.lapses = true) (hnext : s.arrivals[n]? = some arrival)
    (hlapses : arrival.lapses = false) :
    Settles c r label s start (n + 1) outcome ↔
      match arrival with
      | .message message => outcome = answerOutcome r start message
      | .fails e => outcome = .error (.receive e)
      | .quiet => False := by
  constructor
  · intro hsettles
    cases hsettles with
    | stream mode => cases hmode.symm.trans mode
    | answer mode lapsed next =>
      obtain rfl := Option.some.inj (hnext.symm.trans next)
      rfl
    | linkFails mode lapsed next =>
      obtain rfl := Option.some.inj (hnext.symm.trans next)
      rfl
    | tooLate mode lapsed =>
      have := lapsed arrival (List.mem_of_getElem? (List.getElem?_take_of_succ.trans hnext))
      cases hlapses.symm.trans this
  · intro houtcome
    cases arrival with
    | message message =>
      subst houtcome
      exact .answer hmode h hnext
    | fails e =>
      subst houtcome
      refine .linkFails hmode h hnext ?_
      rintro after rfl
      cases hlapses
    | quiet => cases houtcome

/-- With one answer, nothing comes before the arrival that settles an exchange. -/
theorem lapses_of_unsettled (hmode : c.mode = .single) (hwithin : n ≤ s.arrivals.length)
    (h : ∀ m < n, ∀ outcome, ¬Settles c r label s start m outcome) :
    ∀ arrival ∈ s.arrivals.take (n - 1), arrival.lapses = true := by
  have hall : ∀ m ≤ n - 1, ∀ arrival ∈ s.arrivals.take m, arrival.lapses = true := by
    intro m
    induction m with
    | zero =>
      intro _ arrival harrival
      cases harrival
    | succ m ih =>
      intro hm
      have hlapses := ih (by omega)
      obtain ⟨arrival, hnext⟩ : ∃ arrival, s.arrivals[m]? = some arrival :=
        ⟨_, List.getElem?_eq_getElem (by omega)⟩
      refine lapses_take_succ hlapses hnext ?_
      cases hlapse : arrival.lapses with
      | true => rfl
      | false =>
        have hunsettled := h (m + 1) (by omega)
        cases arrival with
        | message octets =>
          exact absurd ((settles_succ_of_single hmode hlapses hnext hlapse).mpr rfl) (hunsettled _)
        | fails e =>
          exact absurd ((settles_succ_of_single hmode hlapses hnext hlapse).mpr rfl) (hunsettled _)
        | quiet => cases hlapse
  exact hall (n - 1) (Nat.le_refl _)

/-- Why the one answer is not waited for any longer, when the caller has not given up. -/
theorem stopsWaiting?_of_patient (huncancelled : s.cancelAt = none) (n : Nat) :
    stopsWaiting? c s n =
      if c.replyTimeout ≤ (s.clock.after n).sub s.clock.sent then some (.timeout c.replyTimeout)
      else none := by
  rw [stopsWaiting?, Surroundings.cancelledBy, huncancelled]
  simp only [Option.any_none, Bool.false_eq_true, if_false, Duration.sub_eq_zero_iff]

/-- There is time left when the one answer is waited for. -/
theorem early_of_waiting (h : stopsWaiting? c s n = none) :
    ¬c.replyTimeout ≤ (s.clock.after n).sub s.clock.sent := by
  intro hlate
  unfold stopsWaiting? at h
  rw [if_pos (Duration.sub_eq_zero_iff.mpr hlate)] at h
  generalize s.cancelledBy (if n = 0 then .sending else .receiving n) = seen at h
  cases seen <;> cases h

/-- Why the one answer is not waited for any longer. -/
theorem stopsWaiting?_eq_some {e : AcquireError} (h : stopsWaiting? c s n = some e) :
    e = .cancelled ∨
      c.replyTimeout ≤ (s.clock.after n).sub s.clock.sent ∧ e = .timeout c.replyTimeout := by
  unfold stopsWaiting? at h
  generalize s.cancelledBy (if n = 0 then .sending else .receiving n) = seen at h
  cases seen with
  | true => exact Or.inl (Option.some.inj h).symm
  | false =>
    rw [if_neg Bool.false_ne_true] at h
    split at h
    · rename_i hleft
      exact Or.inr ⟨Duration.sub_eq_zero_iff.mp hleft, (Option.some.inj h).symm⟩
    · cases h

/-- A batch that is appended is counted. -/
theorem Reassembly.waveforms_append {r : Reassembly S} {waveforms : Nat} {data : List UInt32} {w : ω}
    (h : (r.append waveforms data w).1 = none) :
    (r.append waveforms data w).2.1.waveforms = r.waveforms + .ofNat waveforms := by
  unfold append at h ⊢
  cases hbatches : r.layout.demultiplex waveforms data with
  | error e =>
    rw [hbatches] at h
    cases h
  | ok batches =>
    rw [hbatches] at h
    simp only at h ⊢
    generalize writeEach r.channels r.sinks batches w = written at h ⊢
    obtain ⟨_ | failure, sinks, w'⟩ := written
    · rfl
    · cases h

/-- What taking the one answer comes to. -/
theorem takeReply_message (hnone : start.1.waveforms = 0) {u : Underway S ω} (hbare : u.bare = start)
    (message : Bytes) (receives : Nat) (left : List Arrival) :
    let e := takeReply r (some (.ok message), u, receives, left)
    e.outcome = some (answerOutcome r start message) ∧
      e.underway.bare = Reassembly.appendEach
        ((replyData r message).toOption.map fun data => (r.waveforms.toNat, data)).toList start ∧
      e.receives = receives ∧ e.left = left := by
  cases hdata : replyData r message with
  | error e =>
    simp only [takeReply, answerOutcome, hdata]
    exact ⟨trivial, hbare, trivial, trivial⟩
  | ok data =>
    have hsame := u.reassembly.bare_append r.waveforms.toNat data u.world
    have hstart : u.reassembly.bare.append r.waveforms.toNat data u.world.world =
        start.1.append r.waveforms.toNat data start.2 := hbare ▸ rfl
    rw [hstart] at hsame
    have hcount : (start.1.append r.waveforms.toNat data start.2).1 = none →
        (start.1.append r.waveforms.toNat data start.2).2.1.waveforms.toNat = r.waveforms.toNat := by
      intro htaken
      rw [Reassembly.waveforms_append htaken, hnone, Word.toNat_zero_add_ofNat]
    simp only [takeReply, answerOutcome, hdata]
    generalize u.reassembly.append r.waveforms.toNat data u.world = appended at hsame ⊢
    rw [hsame] at hcount
    rw [hsame]
    refine ⟨?_, ?_, trivial, trivial⟩
    · cases hfault : appended.1 with
      | some e => rfl
      | none => rw [← hcount hfault]; rfl
    · simp only [Except.toOption, Option.map_some, Option.toList_some, Reassembly.appendEach,
        List.foldl_cons, List.foldl_nil, hsame]
      rfl

/-- A wait that is stopped has taken what came before. -/
theorem consumed_of_stop (hmode : c.mode = .single) {u : Underway S ω} {left : List Arrival}
    {e : AcquireError} (hbare : u.bare = start)
    (hlapses : ∀ arrival ∈ s.arrivals.take n, arrival.lapses = true)
    (hwithin : n ≤ s.arrivals.length) (hleft : s.arrivals.drop n = left)
    (hbefore : ∀ m < n, ∀ outcome, ¬Settles c r label s start m outcome)
    (hstop : stopsWaiting? c s n = some e) :
    Consumed c r label s start ⟨some (.error e), u, n, left⟩ := by
  refine ⟨hwithin, hleft.symm, hbare.trans (kept_of_silence (Arrival.messages_of_lapses hlapses)).symm,
    hbefore, ?_, ?_, ?_, fun h => by cases h⟩
  · intro huncancelled outcome
    rw [stopsWaiting?_of_patient huncancelled] at hstop
    split at hstop
    · rename_i hlate
      cases hstop
      rw [settles_iff_of_lapses hmode hlapses, Option.some.injEq]
      exact ⟨fun h => h.2.symm, fun h => ⟨hlate, h.symm⟩⟩
    · cases hstop
  · intro outcome houtcome
    obtain rfl := Option.some.inj houtcome
    rcases stopsWaiting?_eq_some hstop with rfl | ⟨hlate, rfl⟩
    · exact Or.inl rfl
    · exact Or.inr (.tooLate hmode hlapses hlate)
  · intro channel fault hsettles
    cases ((settles_iff_of_lapses hmode hlapses).mp hsettles).2

/-- A link that failed while the one answer was awaited settles the exchange. -/
theorem consumed_of_linkFault (hmode : c.mode = .single) {u : Underway S ω} {left : List Arrival}
    {e : LinkError} (hbare : u.bare = start)
    (hlapses : ∀ arrival ∈ s.arrivals.take n, arrival.lapses = true)
    (hnext : s.arrivals[n]? = some (.fails e)) (hrest : s.arrivals.drop (n + 1) = left)
    (hbefore : ∀ m < n + 1, ∀ outcome, ¬Settles c r label s start m outcome)
    (hfault : ∀ after, e ≠ .timeout after) :
    Consumed c r label s start ⟨some (.error (.receive e)), u, n + 1, left⟩ := by
  have hover : (Arrival.fails e).lapses = false := by
    cases e with
    | timeout after => exact absurd rfl (hfault after)
    | _ => rfl
  have hsilence : Arrival.messages (s.arrivals.take (n + 1)) = [] := by
    rw [Arrival.messages_take_succ hnext, Arrival.messages_of_lapses hlapses]
    rfl
  refine ⟨(List.getElem?_eq_some_iff.mp hnext).1, hrest.symm,
    hbare.trans (kept_of_silence hsilence).symm, hbefore, ?_, ?_, ?_, fun h => by cases h⟩
  · intro _ outcome
    rw [settles_succ_of_single hmode hlapses hnext hover, Option.some.injEq]
    exact eq_comm
  · intro outcome houtcome
    exact Or.inr ((settles_succ_of_single hmode hlapses hnext hover).mpr (Option.some.inj houtcome).symm)
  · intro channel cause hsettles
    cases (settles_succ_of_single hmode hlapses hnext hover).mp hsettles

/-- A wait that goes on when nothing more comes has taken all there is. -/
theorem consumed_of_waiting (hmode : c.mode = .single) {u : Underway S ω} (hbare : u.bare = start)
    (hlapses : ∀ arrival ∈ s.arrivals.take n, arrival.lapses = true) (hall : n = s.arrivals.length)
    (hbefore : ∀ m < n, ∀ outcome, ¬Settles c r label s start m outcome)
    (hgoing : stopsWaiting? c s n = none) : Consumed c r label s start ⟨none, u, n, []⟩ := by
  have hopen : ∀ outcome, ¬Settles c r label s start n outcome := fun outcome hsettles =>
    early_of_waiting hgoing ((settles_iff_of_lapses hmode hlapses).mp hsettles).1
  refine ⟨Nat.le_of_eq hall, ?_, hbare.trans (kept_of_silence (Arrival.messages_of_lapses hlapses)).symm,
    hbefore, ?_, ?_, ?_, fun _ => hall⟩
  · exact (List.drop_eq_nil_iff.mpr (Nat.le_of_eq hall.symm)).symm
  · exact fun _ outcome => iff_of_false (hopen outcome) (fun h => by cases h)
  · exact fun outcome houtcome => by cases houtcome
  · exact fun channel fault hsettles => absurd hsettles (hopen _)

/-- The one answer settles the exchange. -/
theorem consumed_of_answer (hmode : c.mode = .single) (hnone : start.1.waveforms = 0) {u : Underway S ω}
    {message : Bytes} {left : List Arrival} (hbare : u.bare = start)
    (hlapses : ∀ arrival ∈ s.arrivals.take n, arrival.lapses = true)
    (hnext : s.arrivals[n]? = some (.message message)) (hrest : s.arrivals.drop (n + 1) = left)
    (hbefore : ∀ m < n + 1, ∀ outcome, ¬Settles c r label s start m outcome) :
    Consumed c r label s start (takeReply r (some (.ok message), u, n + 1, left)) := by
  obtain ⟨houtcome, hkept, hreceives, hleft⟩ := takeReply_message hnone hbare message (n + 1) left
  have hsettled : ∀ other, Settles c r label s start
        (takeReply r (some (.ok message), u, n + 1, left)).receives other ↔
      (takeReply r (some (.ok message), u, n + 1, left)).outcome = some other := by
    intro other
    rw [hreceives, houtcome, settles_succ_of_single hmode hlapses hnext rfl, Option.some.injEq]
    exact eq_comm
  refine ⟨?_, ?_, ?_, ?_, fun _ => hsettled, fun other hother => Or.inr ((hsettled other).mpr hother),
    fun _ _ => (hsettled _).mp, ?_⟩
  · exact Nat.le_trans (Nat.le_of_eq hreceives) (List.getElem?_eq_some_iff.mp hnext).1
  · exact hleft.trans (hrest.symm.trans (congrArg s.arrivals.drop hreceives.symm))
  · exact hkept.trans ((kept_of_answer hmode hlapses hnext).symm.trans
      (congrArg (s.kept c r label start) hreceives.symm))
  · exact fun m hm => hbefore m (Nat.lt_of_lt_of_eq hm hreceives)
  · exact fun h => by cases houtcome.symm.trans h

/-- **The wait for the one answer stops where it is settled.** -/
theorem awaitReply_consumes (hmode : c.mode = .single) (hnone : start.1.waveforms = 0) {n : Nat}
    {u : Underway S ω} {left : List Arrival} (hbare : u.bare = start)
    (hlapses : ∀ arrival ∈ s.arrivals.take n, arrival.lapses = true)
    (hwithin : n ≤ s.arrivals.length) (hleft : s.arrivals.drop n = left)
    (hbefore : ∀ m < n, ∀ outcome, ¬Settles c r label s start m outcome) :
    Consumed c r label s start (takeReply r (awaitReply c s n u left)) := by
  induction left generalizing n u with
  | nil =>
    cases hstop : stopsWaiting? c s n with
    | some e =>
      rw [awaitReply_of_stop hstop]
      exact consumed_of_stop hmode hbare hlapses hwithin hleft hbefore hstop
    | none =>
      have hall : n = s.arrivals.length := Nat.le_antisymm hwithin (List.drop_eq_nil_iff.mp hleft)
      rw [awaitReply_of_going hstop]
      exact consumed_of_waiting hmode hbare hlapses hall hbefore hstop
  | cons arrival left ih =>
    cases hstop : stopsWaiting? c s n with
    | some e =>
      rw [awaitReply_of_stop hstop]
      exact consumed_of_stop hmode hbare hlapses hwithin hleft hbefore hstop
    | none =>
      have hnext := getElem?_of_drop hleft
      have hrest := drop_succ_of_drop hleft
      have hwithin' : n + 1 ≤ s.arrivals.length := (List.getElem?_eq_some_iff.mp hnext).1
      have hbefore' : ∀ m < n + 1, ∀ outcome, ¬Settles c r label s start m outcome := by
        intro m hm outcome hsettles
        rcases Nat.lt_or_eq_of_le (Nat.le_of_lt_succ hm) with hlt | rfl
        · exact hbefore m hlt outcome hsettles
        · exact early_of_waiting hstop ((settles_iff_of_lapses hmode hlapses).mp hsettles).1
      rw [awaitReply_of_going hstop]
      cases arrival with
      | message message =>
        exact consumed_of_answer hmode hnone (u := u.did (.awaits (singleWait c s n))) hbare hlapses hnext
          hrest hbefore'
      | quiet =>
        exact ih hbare (lapses_take_succ hlapses hnext rfl) hwithin' hrest hbefore'
      | fails e =>
        cases e with
        | timeout after => exact ih hbare (lapses_take_succ hlapses hnext rfl) hwithin' hrest hbefore'
        | _ =>
          refine consumed_of_linkFault hmode hbare hlapses hnext hrest hbefore' ?_
          exact fun _ h => by cases h

end

/-! ## 3. Exchanges -/

section

variable {c : AcquisitionConfig} {r : AcquisitionRequest} {label : String} {s : Surroundings}

omit [SampleSink S ω] in
/-- What an acquisition does on the link before it sends its request leaves the sinks alone. -/
theorem bare_prepared (u : Underway S ω) : (prepared c r u).bare = u.bare := by
  unfold prepared
  cases c.mode <;> rfl

/-- **An exchange whose request is sent stops where it is settled.** -/
theorem exchange_consumes (label : String) (hunseen : s.cancelledBy .opening = false)
    (hsend : s.sendFault = none) {u : Underway S ω} (hlayout : u.reassembly.layout = r.layout)
    (hnone : u.reassembly.waveforms = 0) :
    Consumed c r label s u.bare (exchange c r label s u) := by
  have hbare : ((prepared c r u).did (.sends (c.requestMessage r label))).bare = u.bare :=
    bare_prepared u
  rw [exchange_of_unseen hunseen, hsend]
  unfold answered
  cases hmode : c.mode with
  | single =>
    refine awaitReply_consumes hmode hnone hbare ?_ (Nat.zero_le _) rfl ?_
    · intro arrival harrival
      cases harrival
    · intro m hm
      cases hm
  | streaming =>
    refine ChunkLoop.run_consumes ⟨rfl, rfl, ?_⟩ hmode hlayout (Nat.zero_le _) rfl ?_
    · exact hbare.trans (kept_of_silence rfl).symm
    · intro n hn outcome
      rw [Nat.le_zero.mp hn]
      exact not_settles_zero hmode

/-- An exchange whose request is not sent takes nothing; any other stops where it is settled. -/
theorem exchange_idle_or_consumed (label : String) {u : Underway S ω}
    (hlayout : u.reassembly.layout = r.layout) (hnone : u.reassembly.waveforms = 0) :
    (exchange c r label s u).receives = 0 ∧ (exchange c r label s u).underway.bare = u.bare ∨
      Consumed c r label s u.bare (exchange c r label s u) := by
  by_cases hseen : s.cancelledBy .opening = true
  · rw [exchange_of_seen hseen]
    exact Or.inl ⟨rfl, rfl⟩
  · have hunseen : s.cancelledBy .opening = false := Bool.eq_false_iff.mpr hseen
    cases hsend : s.sendFault with
    | none => exact Or.inr (exchange_consumes label hunseen hsend hlayout hnone)
    | some e =>
      rw [exchange_of_unseen hunseen, hsend]
      exact Or.inl ⟨rfl, bare_prepared u⟩

/-- However an exchange ends, the sinks have got what was accepted among the messages that it took. -/
theorem exchange_kept (label : String) {u : Underway S ω} (hlayout : u.reassembly.layout = r.layout)
    (hnone : u.reassembly.waveforms = 0) :
    (exchange c r label s u).underway.bare =
      s.kept c r label u.bare (exchange c r label s u).receives := by
  rcases exchange_idle_or_consumed label hlayout hnone with ⟨hzero, hbare⟩ | hconsumed
  · rw [hzero, hbare]
    exact (kept_of_silence rfl).symm
  · exact hconsumed.kept

end

/-! ## 4. Batches that the sinks take -/

namespace Reassembly

/-- The sinks take these batches, one after the other. -/
def Takes : List Batch → Reassembly S × ω → Prop
  | [], _ => True
  | batch :: more, before =>
    (before.1.append batch.1 batch.2 before.2).1 = none ∧
      Takes more (before.1.append batch.1 batch.2 before.2).2

theorem takes_snoc_iff {batches : List Batch} {batch : Batch} {before : Reassembly S × ω} :
    Takes (batches ++ [batch]) before ↔
      Takes batches before ∧
        ((appendEach batches before).1.append batch.1 batch.2 (appendEach batches before).2).1 = none := by
  induction batches generalizing before with
  | nil =>
    rw [List.nil_append]
    exact and_comm
  | cons first more ih =>
    rw [List.cons_append]
    exact (and_congr_right fun _ => ih).trans and_assoc.symm

end Reassembly

section

variable {c : AcquisitionConfig} {r : AcquisitionRequest} {label : String} {s : Surroundings}
  {start : Reassembly S × ω} {n : Nat}

/-- Unless a sink settles it, a stream's chunks are taken. -/
theorem takes_of_unrefused_streaming (hmode : c.mode = .streaming) (hlayout : start.1.layout = r.layout)
    (hwithin : n ≤ s.arrivals.length)
    (h : ∀ m ≤ n, ∀ channel fault, ¬Settles c r label s start m (.error (.sink channel fault))) :
    Reassembly.Takes (batchesIn c r label (Arrival.messages (s.arrivals.take n))) start := by
  induction n with
  | zero =>
    rw [List.take_zero, Arrival.messages, List.filterMap_nil, batchesIn_nil]
    trivial
  | succ n ih =>
    have hbefore := ih (Nat.le_of_lt hwithin) fun m hm => h m (Nat.le_succ_of_le hm)
    have hnext := List.getElem?_eq_getElem hwithin
    rw [Surroundings.batchesIn_succ hmode hnext]
    generalize s.arrivals[n] = arrival at hnext ⊢
    cases hchunk : arrival.message?.bind fun message =>
        ((s.heard c r label n).judge message).chunk? with
    | none => simpa using hbefore
    | some chunk =>
      obtain ⟨message, hmessage, hjudge⟩ := Option.bind_eq_some_iff.mp hchunk
      obtain rfl := Arrival.eq_message hmessage
      have hbelongs : Belongs (s.heard c r label n) message chunk := by
        refine StreamState.judge_eq_chunk_iff.mp ?_
        cases hverdict : (s.heard c r label n).judge message with
        | chunk other =>
          rw [hverdict] at hjudge
          exact congrArg Verdict.chunk (Option.some.inj hjudge)
        | foreign =>
          rw [hverdict] at hjudge
          cases hjudge
        | fatal e =>
          rw [hverdict] at hjudge
          cases hjudge
      refine Reassembly.takes_snoc_iff.mpr ⟨hbefore, ?_⟩
      refine Option.eq_none_iff_forall_ne_some.mpr ?_
      intro e hfault
      obtain ⟨channel, fault, rfl⟩ := Surroundings.appends_eq_sink hlayout hbelongs hfault
      exact h (n + 1) (Nat.le_refl _) channel fault (.stream hmode hnext (.sinkFails hbelongs hfault))

/-- Unless a sink settles it, the one answer is taken. -/
theorem takes_of_unrefused_single (hmode : c.mode = .single) (hlayout : start.1.layout = r.layout)
    (hwithin : n ≤ s.arrivals.length)
    (hlapses : ∀ arrival ∈ s.arrivals.take (n - 1), arrival.lapses = true)
    (h : ∀ channel fault, ¬Settles c r label s start n (.error (.sink channel fault))) :
    Reassembly.Takes (batchesIn c r label (Arrival.messages (s.arrivals.take n))) start := by
  cases n with
  | zero =>
    rw [List.take_zero, Arrival.messages, List.filterMap_nil, batchesIn_nil]
    trivial
  | succ n =>
    have hnext := List.getElem?_eq_getElem hwithin
    rw [Nat.add_sub_cancel] at hlapses
    unfold batchesIn
    rw [hmode, Arrival.messages_take_succ hnext, Arrival.messages_of_lapses hlapses, List.nil_append]
    generalize s.arrivals[n] = arrival at hnext ⊢
    cases arrival with
    | quiet => trivial
    | fails e => trivial
    | message message =>
      cases hdata : replyData r message with
      | error e => simp [Arrival.message?, hdata, Except.toOption, Reassembly.Takes]
      | ok data =>
        have htaken : (start.1.append r.waveforms.toNat data start.2).1 = none := by
          refine Option.eq_none_iff_forall_ne_some.mpr ?_
          intro e hfault
          have hsize := size_of_replyData hdata
          rw [← hlayout] at hsize
          obtain ⟨channel, fault, rfl⟩ := Reassembly.append_eq_sink hsize hfault
          refine h channel fault ?_
          have houtcome : answerOutcome r start message = .error (.sink channel fault) := by
            simp only [answerOutcome, hdata, hfault]
          rw [← houtcome]
          exact .answer hmode hlapses hnext
        simp [Arrival.message?, hdata, Except.toOption, Reassembly.Takes, htaken]

/-- **Unless a sink fails, the sinks take all that is accepted.** -/
theorem exchange_takes (label : String) {u : Underway S ω} (hlayout : u.reassembly.layout = r.layout)
    (hnone : u.reassembly.waveforms = 0)
    (hsink : ∀ channel fault,
      (exchange c r label s u).outcome ≠ some (.error (.sink channel fault))) :
    Reassembly.Takes
      (batchesIn c r label (Arrival.messages (s.arrivals.take (exchange c r label s u).receives)))
      u.bare := by
  rcases exchange_idle_or_consumed (c := c) (s := s) label hlayout hnone with ⟨hzero, -⟩ | hconsumed
  · rw [hzero, List.take_zero, Arrival.messages, List.filterMap_nil, batchesIn_nil]
    trivial
  · have hopen : ∀ channel fault, ¬Settles c r label s u.bare (exchange c r label s u).receives
        (.error (.sink channel fault)) := fun channel fault hsettles =>
      hsink channel fault (hconsumed.refused channel fault hsettles)
    cases hmode : c.mode with
    | single =>
      exact takes_of_unrefused_single hmode hlayout hconsumed.within
        (lapses_of_unsettled hmode hconsumed.within hconsumed.shortest) hopen
    | streaming =>
      refine takes_of_unrefused_streaming hmode hlayout hconsumed.within ?_
      intro m hm channel fault
      rcases Nat.lt_or_eq_of_le hm with hlt | rfl
      · exact hconsumed.shortest m hlt _
      · exact hopen channel fault

end

end Readout

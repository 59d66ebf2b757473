/-
# Where an error comes from

An error that an acquisition ends with has its cause either in the acquisition itself and in those who take
part in it on this side -- the request, the sinks, the caller, the link on which the request is sent -- or
in what arrives.  The former say so (`AcquireError.isOwn`).  All others are determined by the arrival that
settles the exchange: for a stream, `Fatal` and `Ends` say which arrival leads to which error; for the one
answer, that is `Unfit`.

* `replyData_eq_error_iff` -- when the one answer is at fault, and how;
* `answerOutcome_eq_error` -- the errors of the one answer;
* `acquire_error` -- where the error of an acquisition comes from, whenever the caller gives up.
-/
import Readout.Proofs.Consumption

namespace Readout

open Control

/-! ## 1. The one answer -/

/-- A message that holds one answer with all the data. -/
structure Replies (message : Bytes) (reply : DumpReply) : Prop where
  read : ∃ envelope, Envelope.decode message = .ok envelope ∧ envelope.kind = .dump ∧
    envelope.record DumpReply.schema = .ok reply

/-- Why the one answer is at fault. -/
inductive Unfit (r : AcquisitionRequest) (message : Bytes) : AcquireError → Prop
  /-- The envelope cannot be read, or its kind is not known. -/
  | envelope {e : ControlError} (unread : Envelope.decode message = .error e) :
      Unfit r message (.ofAnswer .dump e)
  /-- It is of another kind. -/
  | otherKind {envelope : Envelope} (decoded : Envelope.decode message = .ok envelope)
      (other : envelope.kind ≠ .dump) :
      Unfit r message (.unexpectedKind .dump envelope.kind.name)
  /-- Its payload cannot be read. -/
  | payload {envelope : Envelope} {e : ControlError} (decoded : Envelope.decode message = .ok envelope)
      (kind : envelope.kind = .dump) (unread : envelope.record DumpReply.schema = .error e) :
      Unfit r message (.decode e)
  /-- The device says that it failed. -/
  | refused {reply : DumpReply} (replies : Replies message reply) (failed : reply.success = false) :
      Unfit r message (.refused reply.message)
  /-- It has not as many samples as were asked for. -/
  | misshapen {reply : DumpReply} (replies : Replies message reply) (success : reply.success = true)
      (size : reply.data.length ≠ r.totalSamples) :
      Unfit r message (.sizeMismatch .replySamples r.totalSamples reply.data.length)

variable {r : AcquisitionRequest} {message : Bytes} {e : AcquireError}

/-- **When the one answer is at fault.** -/
theorem replyData_eq_error_iff : replyData r message = .error e ↔ Unfit r message e := by
  constructor
  · intro h
    unfold replyData at h
    split at h
    · rename_i cause hdecode
      cases h
      exact .envelope hdecode
    · rename_i envelope hdecode
      split at h
      · rename_i hkind
        cases h
        exact .otherKind hdecode hkind
      · rename_i hkind
        split at h
        · rename_i cause hrecord
          cases h
          exact .payload hdecode (Decidable.not_not.mp hkind) hrecord
        · rename_i reply hrecord
          have hreplies : Replies message reply :=
            ⟨envelope, hdecode, Decidable.not_not.mp hkind, hrecord⟩
          split at h
          · rename_i hfailed
            cases h
            exact .refused hreplies (by simpa using hfailed)
          · rename_i hsuccess
            split at h
            · rename_i hsize
              cases h
              exact .misshapen hreplies (by simpa using hsuccess) hsize
            · cases h
  · rintro (hdecode | ⟨hdecode, hkind⟩ | ⟨hdecode, hkind, hrecord⟩ |
      ⟨⟨envelope, hdecode, hkind, hrecord⟩, hfailed⟩ |
      ⟨⟨envelope, hdecode, hkind, hrecord⟩, hsuccess, hsize⟩)
    · simp [replyData, hdecode]
    · simp [replyData, hdecode, hkind]
    · simp [replyData, hdecode, hkind, hrecord]
    · simp [replyData, hdecode, hkind, hrecord, hfailed]
    · simp [replyData, hdecode, hkind, hrecord, hsuccess, hsize]

/-- An answer that is at fault was there in time. -/
theorem Unfit.ne_timeout (h : Unfit r message e) (span : Duration) : e ≠ .timeout span := by
  cases h with
  | @envelope cause unread => cases cause <;> exact fun h => by cases h
  | otherKind | payload | refused | misshapen => exact fun h => by cases h

variable {S ω : Type} [SampleSink S ω] {start : Reassembly S × ω}

/-- An answer that settles an exchange with an error is at fault, or a sink does not take it. -/
theorem answerOutcome_eq_error (hlayout : start.1.layout = r.layout)
    (h : answerOutcome r start message = .error e) :
    Unfit r message e ∨ ∃ channel fault, e = .sink channel fault := by
  unfold answerOutcome at h
  cases hdata : replyData r message with
  | error cause =>
    rw [hdata] at h
    cases h
    exact Or.inl (replyData_eq_error_iff.mp hdata)
  | ok data =>
    rw [hdata] at h
    simp only at h
    have hsize := size_of_replyData hdata
    rw [← hlayout] at hsize
    split at h
    · rename_i cause happended
      cases h
      exact Or.inr (Reassembly.append_eq_sink hsize happended)
    · cases h

/-! ## 2. Acquisitions -/

/-- Whether an error has its cause on this side, and not in what arrives. -/
def AcquireError.isOwn : AcquireError → Bool
  | invalidRequest _ => true
  | send _ => true
  | cancelled => true
  | sink _ _ => true
  | _ => false

section

variable {c : AcquisitionConfig} {label : String} {s : Surroundings} {factory : SinkFactory S ω} {world : ω}

omit [SampleSink S ω] in
/-- An acquisition is refused for its request, or for the caller's wish. -/
theorem Beginning.isOwn_of_refused (h : Beginning.of c r s factory world = .refused e) :
    e.isOwn = true := by
  unfold Beginning.of at h
  split at h
  · cases h
    rfl
  · split at h
    · rename_i cause hcheck
      cases h
      unfold AcquisitionConfig.check at hcheck
      simp only at hcheck
      split at hcheck <;> cases hcheck
      rfl
    · split at h <;> cases h

/-- **Where the error of an acquisition comes from**: from this side, or from what settles its exchange once
the request is sent. -/
theorem acquire_error (h : (acquire c r label s factory world).outcome = some (.error e)) :
    e.isOwn = true ∨ SendsRequest c r s factory world ∧
      Settles c r label s (factory.opened r world) (acquire c r label s factory world).receives (.error e) := by
  by_cases hown : e.isOwn = true
  · exact Or.inl hown
  refine Or.inr ?_
  rw [acquire_eq] at h ⊢
  cases hbegin : Beginning.of c r s factory world with
  | refused cause =>
    rw [hbegin] at h
    cases h
    exact absurd (Beginning.isOwn_of_refused hbegin) hown
  | unopened channel fault sinks w =>
    rw [hbegin] at h
    cases h
    exact absurd rfl hown
  | opened u =>
    rw [hbegin] at h
    have hexchange : (exchange c r label s u).outcome = some (.error e) := by
      refine Exchanged.outcome_of_conclude_error h ?_
      rintro channel fault rfl
      exact hown rfl
    by_cases hseen : s.cancelledBy .opening = true
    · rw [exchange_of_seen hseen] at hexchange
      cases hexchange
      exact absurd rfl hown
    · have hunseen : s.cancelledBy .opening = false := Bool.eq_false_iff.mpr hseen
      cases hsend : s.sendFault with
      | some cause =>
        rw [exchange_of_unseen hunseen, hsend] at hexchange
        cases hexchange
        exact absurd rfl hown
      | none =>
        obtain ⟨-, -, hlayout⟩ := Beginning.regular_opened hbegin
        have hconsumed := exchange_consumes (c := c) label hunseen hsend hlayout
          (Beginning.waveforms_opened hbegin)
        rw [Beginning.bare_opened hbegin] at hconsumed
        refine ⟨⟨hsend, u, hbegin⟩, ?_⟩
        simp only [Exchanged.receives_conclude]
        rcases hconsumed.known _ hexchange with hcancelled | hsettles
        · cases hcancelled
          exact absurd rfl hown
        · exact hsettles

end

end Readout

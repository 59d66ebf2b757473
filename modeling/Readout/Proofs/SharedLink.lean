/-
# Operations that share a link

Commands and acquisitions may follow one another on one link to a simulated device.  Answers to commands
and whole dumps carry no label, so that an operation can tell its answer by the kind alone; it is its own
nevertheless, as every operation takes all that the device has sent for it and leaves the link at rest.

Hence operations do not disturb each other: each comes to what it comes to alone on a fresh link
(`Operation.expected`), whatever went before.

* `SimulatedLink.Holding.execute`, `SimulatedLink.Holding.acquire` -- one operation on a link at rest;
* `Operation.perform_at_rest` -- it comes to what is expected, and the link is at rest again;
* `Operation.timedOut_iff` -- when its time is up;
* `operations_undisturbed` -- operations one after another.
-/
import Readout.Proofs.FurtherFields
import Readout.Proofs.SimulatedRuns

namespace Readout

open Control

/-! ## 1. One operation on a link at rest -/

namespace Command

/-- What a command comes to. -/
def expected (kind : Kind) (payload : Bytes) : Except AcquireError Envelope :=
  if Frame.defaultLimit < (Envelope.encode kind payload).length then
    .error (.send (.send (.tooLarge (Envelope.encode kind payload).length Frame.defaultLimit)))
  else .ok ⟨kind, CommandReply.schema.write ⟨true, kind.name ++ " ok"⟩⟩

/-- What is acknowledged went well. -/
theorem judge_acknowledgement {kind : Kind} (hset : kind ≠ .unspecified) :
    judge kind (Simulator.acknowledgement kind) =
      .ok ⟨kind, CommandReply.schema.write ⟨true, kind.name ++ " ok"⟩⟩ := by
  have hfits : (Simulator.acknowledgement kind).length < Word.size :=
    Nat.lt_of_le_of_lt (Simulator.length_acknowledgement_le kind) (by decide)
  have hpayload := Nat.lt_of_le_of_lt (length_payload_le kind _) hfits
  exact judge_of_head hset hfits (Wire.Schema.read_write CommandReply.lawful hpayload)

end Command

namespace SimulatedLink

variable {simulator : Simulator} {l : SimulatedLink}

/-- **A command on a link at rest gets its answer**, and the link is at rest again. -/
theorem Holding.execute (h : l.Holding simulator []) (kind : Kind) (hset : kind ≠ .unspecified)
    (hdump : kind ≠ .dump) (hchunks : kind ≠ .chunkRequest) (payload : Bytes) (timeout : Duration) :
    ∃ l', Command.execute kind payload timeout l = (Command.expected kind payload, l') ∧
      l'.Holding simulator [] := by
  have hsend : MessageChannel.send (Envelope.encode kind payload) l =
      l.send (Envelope.encode kind payload) := rfl
  unfold Command.expected
  by_cases hlarge : Frame.defaultLimit < (Envelope.encode kind payload).length
  · obtain ⟨l', hsent, hl'⟩ := h.send_of_large hlarge
    refine ⟨l', ?_, hl'⟩
    rw [Command.execute, hsend, hsent, if_pos hlarge]
  · obtain ⟨hreplies, hcopes⟩ :=
      simulator.replies_command hset hdump hchunks (Nat.le_of_not_lt hlarge)
    obtain ⟨asked, hsent, hasked⟩ := h.send (Nat.le_of_not_lt hlarge) hcopes
    rw [hreplies] at hasked
    obtain ⟨l', hreceive, hl'⟩ := hasked.receive timeout
    refine ⟨l', ?_, hl'⟩
    rw [if_neg hlarge, ← Command.judge_acknowledgement hset]
    exact Command.execute_of_answer (hsend.trans hsent) hreceive

/-- So does the software trigger. -/
theorem Holding.softwareTrigger (h : l.Holding simulator []) (timeout : Duration) :
    ∃ l', Command.softwareTrigger timeout l = (.ok "DO_SOFTWARE_TRIGGER ok", l') ∧
      l'.Holding simulator [] := by
  obtain ⟨l', hexecute, hl'⟩ := h.execute .softwareTrigger (by decide) (by decide)
    (by decide) (EmptyRequest.schema.write {}) timeout
  have hexpected : Command.expected .softwareTrigger (EmptyRequest.schema.write {}) =
      .ok ⟨.softwareTrigger, CommandReply.schema.write ⟨true, "DO_SOFTWARE_TRIGGER ok"⟩⟩ := by
    decide +kernel
  have hrecord : Envelope.record ⟨.softwareTrigger,
      CommandReply.schema.write ⟨true, "DO_SOFTWARE_TRIGGER ok"⟩⟩ CommandReply.schema =
        .ok ⟨true, "DO_SOFTWARE_TRIGGER ok"⟩ :=
    record_encodeRecord CommandReply.lawful (by decide +kernel)
  refine ⟨l', ?_, hl'⟩
  rw [Command.softwareTrigger, hexecute, hexpected]
  simp only [hrecord]

section

variable {S ω : Type} [SampleSink S ω] {good : S → Prop} {c : AcquisitionConfig}
  {r : AcquisitionRequest} {label : String} {factory : SinkFactory S ω} {world : ω}

/-- **An acquisition on a link at rest meets the device's answers**, and if it has taken them all, then the
link is at rest again. -/
theorem Holding.acquire (h : l.Holding simulator [])
    (hfits : (c.requestMessage r label).length ≤ Frame.defaultLimit)
    (hcopes : simulator.Copes (c.requestMessage r label)) (factory : SinkFactory S ω) (world : ω) :
    let run := Readout.acquire c r label
      (meeting c (simulator.replies (c.requestMessage r label))) factory world
    (l.acquire c r label none factory world).1 = run ∧
      (unused run.left = [] → (l.acquire c r label none factory world).2.Holding simulator []) := by
  intro run
  obtain ⟨asked, hsend, hasked⟩ := h.send hfits hcopes
  obtain ⟨taken, htake, htaken⟩ := hasked.takeAll
  unfold SimulatedLink.acquire
  simp only [hsend, htake]
  refine ⟨rfl, fun hleft => ?_⟩
  -- no effect puts anything on the link: what the request was answered with is taken
  have hleft : unused (Readout.acquire c r label
      ((rehearsal (simulator.replies (c.requestMessage r label)) .quiet none (.ok ())).surroundings c)
      factory world).left = [] := hleft
  refine List.foldlRecOn _ _ (motive := fun now => Holding simulator [] now) h fun now hnow effect _ => ?_
  cases effect with
  | setsCapacity capacity => exact hnow.setCapacity capacity
  | sends message =>
    simp only [hleft]
    exact htaken.putBack_nothing.setCapacity _
  | _ => exact hnow

end

end SimulatedLink

/-! ## 2. Operations -/

variable {S ω : Type}

/-- Something that a client does on a link. -/
inductive Operation (S ω : Type) where
  | command (kind : Kind) (payload : Bytes) (timeout : Duration)
  | trigger (timeout : Duration)
  /-- An acquisition, with the label of its chunks and the world of its sinks. -/
  | acquisition (config : AcquisitionConfig) (request : AcquisitionRequest) (label : String)
      (factory : SinkFactory S ω) (world : ω)

/-- What an operation comes to. -/
inductive Report (S ω : Type) where
  | command (answer : Except AcquireError Envelope)
  | trigger (answer : Except AcquireError String)
  /-- The result, if the acquisition is over, the sinks and their world. -/
  | acquisition (outcome : Option (Except AcquireError Summary)) (sinks : List (UInt32 × S))
      (world : ω)

/-- A result regardless of the label. -/
def Summary.unlabelled (summary : Summary) : Summary := { summary with label := none }

namespace Report

/-- A report regardless of the label. -/
def unlabelled : Report S ω → Report S ω
  | acquisition outcome sinks world =>
    acquisition (outcome.map (Except.map Summary.unlabelled)) sinks world
  | report => report

/-- The operation is over. -/
def IsOver : Report S ω → Prop
  | acquisition outcome _ _ => outcome ≠ none
  | _ => True

/-- The operation is over as its time was up. -/
def TimedOut : Report S ω → Prop
  | command answer => ∃ after, answer = .error (.timeout after)
  | trigger answer => ∃ after, answer = .error (.timeout after)
  | acquisition outcome _ _ => ∃ after, outcome = some (.error (.timeout after))

end Report

namespace Operation

/-- The same operation with another label. -/
def labelled (label : String) : Operation S ω → Operation S ω
  | acquisition config request _ factory world => acquisition config request label factory world
  | op => op

/-- Operations that are served: a command that is no request for a dump, or an acquisition whose answers
fit, with a short label and sinks that do not fail. -/
inductive Proper (good : S → Prop) : Operation S ω → Prop
  | command {kind : Kind} {payload : Bytes} {timeout : Duration} (set : kind ≠ .unspecified)
      (dump : kind ≠ .dump) (chunks : kind ≠ .chunkRequest) : Proper good (.command kind payload timeout)
  | trigger {timeout : Duration} : Proper good (.trigger timeout)
  | acquisition {config : AcquisitionConfig} {request : AcquisitionRequest} {label : String}
      {factory : SinkFactory S ω} {world : ω} (check : config.check request = .ok ())
      (limit : config.maxMessage ≤ Frame.defaultLimit) (short : Text.Utf8.length label ≤ 512)
      (opens : factory.OpensEach good request.channels) :
      Proper good (.acquisition config request label factory world)

theorem Proper.labelled {good : S → Prop} {op : Operation S ω} (h : op.Proper good) {label : String}
    (hlabel : Text.Utf8.length label ≤ 512) : (op.labelled label).Proper good := by
  cases h with
  | command set dump chunks => exact .command set dump chunks
  | trigger => exact .trigger
  | acquisition check limit _ opens => exact .acquisition check limit hlabel opens

/-- There is time for an operation. -/
def InTime (simulator : Simulator) : Operation S ω → Prop
  | acquisition config _ _ _ _ => simulator.InTime config
  | _ => True

section

variable [SampleSink S ω]

/-- Performs an operation on a link. -/
def perform (l : SimulatedLink) : Operation S ω → Report S ω × SimulatedLink
  | command kind payload timeout =>
    let (answer, l) := Command.execute kind payload timeout l
    (.command answer, l)
  | trigger timeout =>
    let (answer, l) := Command.softwareTrigger timeout l
    (.trigger answer, l)
  | acquisition config request label factory world =>
    let (run, l) := l.acquire config request label none factory world
    (.acquisition run.outcome run.sinks run.world, l)

/-- What an operation comes to, whatever went before. -/
def expected (simulator : Simulator) : Operation S ω → Report S ω
  | command kind payload _ => .command (Command.expected kind payload)
  | trigger _ => .trigger (.ok "DO_SOFTWARE_TRIGGER ok")
  | acquisition config request label factory world =>
    let filled := factory.filled request (simulator.batches config request) world
    .acquisition (some (simulator.result config request label)) (request.channels.zip filled.1)
      filled.2

variable {simulator : Simulator} {good : S → Prop} {l : SimulatedLink} {op : Operation S ω}

/-- **An operation on a link at rest comes to what is expected**, and the link is at rest again. -/
theorem perform_at_rest (hgood : Reliable good) (hbrief : simulator.Brief)
    (hl : l.Holding simulator []) (hop : op.Proper good) (htime : op.InTime simulator) :
    (op.perform l).1 = op.expected simulator ∧ (op.perform l).2.Holding simulator [] := by
  cases hop with
  | @command kind payload timeout set dump chunks =>
    obtain ⟨l', hexecute, hl'⟩ := hl.execute _ set dump chunks payload timeout
    simp only [perform, hexecute]
    exact ⟨rfl, hl'⟩
  | @trigger timeout =>
    obtain ⟨l', htrigger, hl'⟩ := hl.softwareTrigger timeout
    simp only [perform, htrigger]
    exact ⟨rfl, hl'⟩
  | @acquisition config request label factory world check limit short opens =>
    obtain ⟨hfits, hcopes⟩ := simulator.copes_with_request hbrief short check limit
    obtain ⟨hrun, hrest⟩ := hl.acquire hfits hcopes factory world
    obtain ⟨houtcome, hsinks, hworld, hleft⟩ :=
      acquire_from_device world hgood hbrief short check limit opens htime
    refine ⟨?_, hrest hleft⟩
    simp only [perform, expected, hrun]
    rw [houtcome, hsinks, hworld]

theorem expected_isOver : (op.expected simulator).IsOver := by
  cases op with
  | acquisition => exact Option.some_ne_none _
  | _ => trivial

theorem expected_not_timedOut : ¬(op.expected simulator).TimedOut := by
  cases op with
  | command kind payload timeout =>
    rintro ⟨after, h⟩
    unfold Command.expected at h
    split at h <;> cases h
  | trigger timeout => rintro ⟨after, h⟩; cases h
  | acquisition config request label factory world =>
    rintro ⟨after, h⟩
    have hresult := Option.some.inj h
    unfold Simulator.result at hresult
    split at hresult <;> cases hresult

/-- The label shows in the result only. -/
theorem expected_labelled (simulator : Simulator) (op : Operation S ω) (label : String) :
    ((op.labelled label).expected simulator).unlabelled = (op.expected simulator).unlabelled := by
  cases op with
  | acquisition config request other factory world =>
    have hresult : (simulator.result config request label).map Summary.unlabelled =
        (simulator.result config request other).map Summary.unlabelled := by
      unfold Simulator.result
      split <;> rfl
    simp only [labelled, expected, Report.unlabelled, Option.map_some, hresult]
  | _ => rfl

omit [SampleSink S ω] in
theorem inTime_labelled (simulator : Simulator) (op : Operation S ω) (label : String) :
    (op.labelled label).InTime simulator ↔ op.InTime simulator := by
  cases op <;> exact Iff.rfl

/-- **An operation on a link at rest is out of time exactly if there is none for it.** -/
theorem timedOut_iff (hgood : Reliable good) (hbrief : simulator.Brief)
    (hl : l.Holding simulator []) (hop : op.Proper good) :
    (op.perform l).1.TimedOut ↔ ¬op.InTime simulator := by
  constructor
  · intro htimed htime
    rw [(perform_at_rest hgood hbrief hl hop htime).1] at htimed
    exact expected_not_timedOut htimed
  · intro htime
    cases hop with
    | command => exact absurd trivial htime
    | trigger => exact absurd trivial htime
    | @acquisition config request label factory world check limit short opens =>
      obtain ⟨hfits, hcopes⟩ := simulator.copes_with_request hbrief short check limit
      obtain ⟨hrun, -⟩ := hl.acquire hfits hcopes factory world
      have hup := acquire_without_time world hbrief short check limit opens htime
      exact ⟨config.replyTimeout, (congrArg Run.outcome hrun).trans hup⟩

end

end Operation

/-! ## 3. Operations one after another -/

/-- Nothing is left of what the device has sent, and the device goes on. -/
structure SimulatedLink.AtRest (l : SimulatedLink) : Prop where
  /-- No message waits to be taken. -/
  queue : l.client.queue.items = []
  /-- Nothing has come that is not read, and the connection is open. -/
  unread : l.client.connection.inflow = ⟨[], none⟩
  /-- All that the device has sent has come. -/
  carried : l.session.link.connection.device.accepted = []
  running : l.session.ended = none

theorem SimulatedLink.Holding.atRest {simulator : Simulator} {l : SimulatedLink}
    (h : l.Holding simulator []) : l.AtRest :=
  ⟨h.client.nothing.1, h.client.nothing.2, h.device.tidy.carried, h.device.running⟩

section

variable [SampleSink S ω] {simulator : Simulator} {good : S → Prop} {l fresh : SimulatedLink}
  {ops : List (Operation S ω)} {label : String}

/-- What operations one after another come to, each with the link after it. -/
def performAll : List (Operation S ω) → SimulatedLink → List (Report S ω × SimulatedLink)
  | [], _ => []
  | op :: ops, l => op.perform l :: performAll ops (op.perform l).2

/-- Each operation comes to what is expected, and leaves the link at rest. -/
theorem performAll_at_rest (hgood : Reliable good) (hbrief : simulator.Brief)
    (hl : l.Holding simulator []) (hops : ∀ op ∈ ops, op.Proper good)
    (htime : ∀ op ∈ ops, op.InTime simulator) :
    (performAll ops l).map Prod.fst = ops.map (Operation.expected simulator) ∧
      ∀ done ∈ performAll ops l, done.2.Holding simulator [] := by
  induction ops generalizing l with
  | nil => exact ⟨rfl, fun _ h => absurd h List.not_mem_nil⟩
  | cons op ops ih =>
    obtain ⟨hop, hops⟩ := List.forall_mem_cons.mp hops
    obtain ⟨hopTime, htime⟩ := List.forall_mem_cons.mp htime
    obtain ⟨hreport, hafter⟩ := op.perform_at_rest hgood hbrief hl hop hopTime
    obtain ⟨hreports, hlinks⟩ := ih hafter hops htime
    rw [performAll, List.map_cons, List.map_cons, hreport, hreports, List.forall_mem_cons]
    exact ⟨rfl, hafter, hlinks⟩

/-- **Operations that share a link do not disturb each other**: if none of them runs out of time alone on a
fresh link, then each comes to the same there as behind the others, but for the label, and leaves the link
at rest. -/
theorem operations_undisturbed (hgood : Reliable good) (hbrief : simulator.Brief)
    {identity identity' : String} {config config' : LinkConfig}
    (hlimit : config.maxPayload = Frame.defaultLimit)
    (hlimit' : config'.maxPayload = Frame.defaultLimit)
    (hl : SimulatedLink.connect simulator identity config = .ok l)
    (hfresh : SimulatedLink.connect simulator identity' config' = .ok fresh)
    (hops : ∀ op ∈ ops, op.Proper good) (hlabel : Text.Utf8.length label ≤ 512)
    (htime : ∀ op ∈ ops, ¬((op.labelled label).perform fresh).1.TimedOut) :
    (performAll ops l).map (fun done => done.1.unlabelled) =
        ops.map (fun op => ((op.labelled label).perform fresh).1.unlabelled) ∧
      ∀ done ∈ performAll ops l, done.1.IsOver ∧ done.2.AtRest := by
  have hrest := SimulatedLink.holding_of_connect hlimit hl
  have hrest' := SimulatedLink.holding_of_connect hlimit' hfresh
  have hinTime : ∀ op ∈ ops, op.InTime simulator := by
    intro op hop
    have halone := Operation.timedOut_iff hgood hbrief hrest' ((hops op hop).labelled hlabel)
    exact (op.inTime_labelled simulator label).mp
      (Classical.not_not.mp fun h => htime op hop (halone.mpr h))
  obtain ⟨hreports, hlinks⟩ := performAll_at_rest hgood hbrief hrest hops hinTime
  have halone : ∀ op ∈ ops,
      (op.expected simulator).unlabelled = ((op.labelled label).perform fresh).1.unlabelled := by
    intro op hop
    have hreport := Operation.perform_at_rest hgood hbrief hrest' ((hops op hop).labelled hlabel)
      ((op.inTime_labelled simulator label).mpr (hinTime op hop))
    rw [hreport.1, op.expected_labelled simulator label]
  constructor
  · have hmap := congrArg (List.map Report.unlabelled) hreports
    rw [List.map_map, List.map_map] at hmap
    exact hmap.trans (List.map_congr_left halone)
  · intro done hdone
    refine ⟨?_, (hlinks done hdone).atRest⟩
    have hmem : done.1 ∈ ops.map (Operation.expected simulator) := by
      rw [← hreports]
      exact List.mem_map_of_mem hdone
    obtain ⟨op, -, hop⟩ := List.mem_map.mp hmem
    rw [← hop]
    exact op.expected_isOver

end

/-- A device that ends streams early and sends unrelated messages. -/
def noisyDevice : Simulator := { deliverLimit := some 1, noise := true }

/-- The trigger, an acquisition in chunks, a command, and an acquisition in one answer. -/
def mixedOperations : List (Operation MemorySink Unit) :=
  [.trigger (.ofSeconds 1),
    .acquisition {} pairRequest (Label.ofOctets [1, 2, 3]) sureFactory (),
    .command .readCurrentMonitor [8, 1] (.ofSeconds 1),
    .acquisition { mode := .single } pairRequest (Label.ofOctets [4, 5, 6]) sureFactory ()]

theorem operations_undisturbed_mixed :
    ∃ l fresh, SimulatedLink.connect noisyDevice "daq" {} = .ok l ∧
      SimulatedLink.connect noisyDevice "other" {} = .ok fresh ∧
      (performAll mixedOperations l).map (fun done => done.1.unlabelled) =
        mixedOperations.map (fun op =>
          ((op.labelled (Label.ofOctets [7])).perform fresh).1.unlabelled) ∧
      ∀ done ∈ performAll mixedOperations l, done.1.IsOver ∧ done.2.AtRest := by
  have hmade : ∀ identity ∈ ["daq", "other"],
      (SimulatedLink.connect noisyDevice identity {}).toBool = true := by decide +kernel
  have hconnect : ∀ identity ∈ ["daq", "other"],
      ∃ l, SimulatedLink.connect noisyDevice identity {} = .ok l := by
    intro identity hidentity
    have hok := hmade identity hidentity
    cases h : SimulatedLink.connect noisyDevice identity {} with
    | ok l => exact ⟨l, rfl⟩
    | error e =>
      rw [h] at hok
      cases hok
  obtain ⟨l, hl⟩ := hconnect "daq" (by decide)
  obtain ⟨fresh, hfresh⟩ := hconnect "other" (by decide)
  have hshort : ∀ octets, Text.Utf8.length (Label.ofOctets octets) ≤ 512 :=
    fun octets => Nat.le_trans (Label.length_ofOctets_le octets) (by decide)
  have hbrief : noisyDevice.Brief := nofun
  have hops : ∀ op ∈ mixedOperations, op.Proper MemorySink.Sure := by
    simp only [mixedOperations, List.forall_mem_cons]
    exact ⟨.trigger,
      .acquisition (by decide +kernel) (by decide) (hshort _) (sureFactory_opensEach _),
      .command (by decide) (by decide) (by decide),
      .acquisition (by decide +kernel) (by decide) (hshort _) (sureFactory_opensEach _), nofun⟩
  have hinTime : ∀ op ∈ mixedOperations, op.InTime noisyDevice := by
    simp only [mixedOperations, List.forall_mem_cons]
    exact ⟨trivial, .inl (by decide), trivial, .inl (by decide), nofun⟩
  have halone : fresh.Holding noisyDevice [] := SimulatedLink.holding_of_connect rfl hfresh
  refine ⟨l, fresh, hl, hfresh, operations_undisturbed MemorySink.reliable hbrief rfl rfl hl hfresh
    hops (hshort _) fun op hop htimed => ?_⟩
  exact (Operation.timedOut_iff MemorySink.reliable hbrief halone
    ((hops op hop).labelled (hshort _))).mp htimed ((op.inTime_labelled _ _).mpr (hinTime op hop))

end Readout

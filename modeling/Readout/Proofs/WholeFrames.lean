/-
# One send leaves one whole frame, or the front of it

What is done on a device while a frame is put there is a row of acts that decide nothing -- writes that
take some octets, interruptions -- and then one that decides it (`Device.Course`): a flush, a write that
takes nothing, or a fault that is no interruption.  The acts depend on the octets and on the outcomes
ahead of the device, and on nothing that was done before (`put_course`).

A `FrameWriter` clears its buffer before each frame.  So it does not matter which octets the buffer
held, how much room it had, and whether it is a new one: a send does on the device what `Device.send`
does (`FrameWriter.send_eq`).

* `FrameWriter.send_whole_or_front` -- hence what one send gives and leaves, whatever was sent before.
-/
import Readout.Proofs.FrameSending

namespace Readout

/-! ## 1. Acts that decide, and acts that do not -/

/-- What an act decides: nothing while it goes on, and else how it ended, by a fault or by none. -/
def DeviceAct.outcome : DeviceAct → Option (Option Fault)
  | .wrote [] => some (some Device.tookNothing)
  | .wrote (_ :: _) => none
  | .flushed => some none
  | .writeFailed source | .flushFailed source =>
    if source.kind = .interrupted then none else some (some source)

namespace DeviceAct

/-- The act is a failure with this fault. -/
def FailedBy (source : Fault) (act : DeviceAct) : Prop :=
  act = .writeFailed source ∨ act = .flushFailed source

/-- The act says that the connection takes nothing any more. -/
def SaysClosed (act : DeviceAct) : Prop :=
  act = .wrote [] ∨ ∃ source, act.FailedBy source ∧ source.kind = .writeZero

theorem FailedBy.outcome_eq {source : Fault} {act : DeviceAct} (h : act.FailedBy source) :
    act.outcome = if source.kind = .interrupted then none else some (some source) := by
  rcases h with rfl | rfl <;> rfl

/-- **What decides** is a flush, a write that took nothing, or a failure that is no interruption. -/
theorem outcome_eq_some {act : DeviceAct} {fault : Option Fault} (h : act.outcome = some fault) :
    (act = .flushed ∧ fault = none) ∨ (act = .wrote [] ∧ fault = some Device.tookNothing) ∨
      ∃ source, act.FailedBy source ∧ source.kind ≠ .interrupted ∧ fault = some source := by
  have hfailed {source : Fault} (hact : act.FailedBy source) :
      source.kind ≠ .interrupted ∧ fault = some source := by
    rw [hact.outcome_eq] at h
    split at h
    · cases h
    · rename_i hkind
      exact ⟨hkind, (Option.some.inj h).symm⟩
  cases act with
  | wrote octets =>
    cases octets with
    | nil => exact .inr (.inl ⟨rfl, (Option.some.inj h).symm⟩)
    | cons octet octets => cases h
  | writeFailed source => exact .inr (.inr ⟨source, .inl rfl, hfailed (.inl rfl)⟩)
  | flushed => exact .inl ⟨rfl, (Option.some.inj h).symm⟩
  | flushFailed source => exact .inr (.inr ⟨source, .inr rfl, hfailed (.inr rfl)⟩)

/-- An act that decides takes no octets. -/
theorem octets_of_outcome {act : DeviceAct} {fault : Option Fault} (h : act.outcome = some fault) :
    act.octets = [] := by
  rcases outcome_eq_some h with ⟨rfl, -⟩ | ⟨rfl, -⟩ | ⟨source, rfl | rfl, -⟩ <;> rfl

theorem SaysClosed.outcome_eq {act : DeviceAct} (h : act.SaysClosed) :
    ∃ source, act.outcome = some (some source) ∧ source.kind = .writeZero := by
  rcases h with rfl | ⟨source, hfailed, hkind⟩
  · exact ⟨Device.tookNothing, rfl, rfl⟩
  · refine ⟨source, ?_, hkind⟩
    rw [hfailed.outcome_eq, hkind]
    rfl

/-- An act that ends with a fault says that the connection is closed exactly if the fault does. -/
theorem saysClosed_iff {act : DeviceAct} {source : Fault} (h : act.outcome = some (some source)) :
    act.SaysClosed ↔ source.kind = .writeZero := by
  constructor
  · intro hclosed
    obtain ⟨own, hown, hkind⟩ := hclosed.outcome_eq
    obtain rfl : own = source := Option.some.inj (Option.some.inj (hown.symm.trans h))
    exact hkind
  · intro hkind
    rcases outcome_eq_some h with ⟨-, hnone⟩ | ⟨hnothing, -⟩ | ⟨own, hfailed, -, hown⟩
    · cases hnone
    · exact .inl hnothing
    · obtain rfl : source = own := Option.some.inj hown
      exact .inr ⟨source, hfailed, hkind⟩

end DeviceAct

theorem FrameError.ofDevice_eq_closed_iff {source : Fault} :
    FrameError.ofDevice source = .closed ↔ source.kind = .writeZero := by
  unfold FrameError.ofDevice
  split
  · rename_i hkind
    exact iff_of_true rfl hkind
  · rename_i hkind
    exact iff_of_false (fun h => by cases h) hkind

namespace Device

/-! ## 2. What is done while octets are put on a device -/

/-- Acts that decide nothing, and take octets from the front. -/
structure Tries (octets left : Bytes) (tried : List DeviceAct) : Prop where
  undecided : ∀ act ∈ tried, act.outcome = none
  taken : octets = tried.flatMap DeviceAct.octets ++ left

/-- Acts that decide nothing and take octets from the front, then one that decides.  Unless it does so
by a fault, all octets were taken. -/
structure Course (octets : Bytes) (tried : List DeviceAct) (last : DeviceAct) (fault : Option Fault) :
    Prop where
  decided : last.outcome = some fault
  tries : ∃ left, Tries octets left tried ∧ (fault = none → left = [])

section Tries

variable {octets more left : Bytes} {act : DeviceAct} {tried later : List DeviceAct}

theorem Tries.nil : Tries octets octets [] :=
  ⟨fun _ h => absurd h List.not_mem_nil, rfl⟩

theorem Tries.cons (hact : act.outcome = none) (h : Tries octets left tried) :
    Tries (act.octets ++ octets) left (act :: tried) := by
  constructor
  · intro other hother
    rcases List.mem_cons.mp hother with rfl | hother
    · exact hact
    · exact h.undecided other hother
  · rw [List.flatMap_cons, List.append_assoc, ← h.taken]

theorem Tries.append (h : Tries octets more tried) (hlater : Tries more left later) :
    Tries octets left (tried ++ later) := by
  constructor
  · intro act hact
    rcases List.mem_append.mp hact with hact | hact
    · exact h.undecided act hact
    · exact hlater.undecided act hact
  · rw [List.flatMap_append, List.append_assoc, ← hlater.taken]
    exact h.taken

end Tries

/-- What writing does: it tries until no octets are left, or a write decides that it ends there. -/
def Writing (writes : List WriteStep) (octets : Bytes) : Prop :=
  ∃ tried left rest, Tries octets left tried ∧
    ((left = [] ∧ ∀ acts, writeAll writes octets acts = (none, rest, tried.reverse ++ acts)) ∨
      ∃ last source, last.outcome = some (some source) ∧
        ∀ acts, writeAll writes octets acts = (some source, rest, last :: (tried.reverse ++ acts)))

/-- One more act in front, after which writing goes on. -/
theorem Writing.cons {step : WriteStep} {writes : List WriteStep} {act : DeviceAct} {next : Bytes}
    (hact : act.outcome = none) (h : Writing writes next)
    (hstep : ∀ acts, writeAll (step :: writes) (act.octets ++ next) acts =
      writeAll writes next (act :: acts)) :
    Writing (step :: writes) (act.octets ++ next) := by
  obtain ⟨tried, left, rest, htries, hend⟩ := h
  refine ⟨act :: tried, left, rest, htries.cons hact, ?_⟩
  simp only [hstep, List.reverse_cons, List.append_assoc, List.singleton_append]
  rcases hend with ⟨hleft, hwrite⟩ | ⟨last, source, hlast, hwrite⟩
  · exact .inl ⟨hleft, fun acts => hwrite (act :: acts)⟩
  · exact .inr ⟨last, source, hlast, fun acts => hwrite (act :: acts)⟩

/-- **Writing does so**, whatever the outcomes of the writes. -/
theorem writing (writes : List WriteStep) (octets : Bytes) : Writing writes octets := by
  induction writes generalizing octets with
  | nil =>
    cases octets with
    | nil => exact ⟨[], [], [], .nil, .inl ⟨rfl, fun _ => rfl⟩⟩
    | cons octet octets =>
      have hact : (DeviceAct.wrote (octet :: octets)).outcome = none := rfl
      have hall : Tries (octet :: octets ++ []) [] [.wrote (octet :: octets)] := Tries.nil.cons hact
      rw [List.append_nil] at hall
      exact ⟨_, [], [], hall, .inl ⟨rfl, fun _ => rfl⟩⟩
  | cons step writes ih =>
    cases octets with
    | nil => exact ⟨[], [], step :: writes, .nil, .inl ⟨rfl, fun _ => rfl⟩⟩
    | cons octet octets =>
      cases step with
      | fault source =>
        by_cases hkind : source.kind = .interrupted
        · have hact : (DeviceAct.writeFailed source).outcome = none := if_pos hkind
          exact (ih (octet :: octets)).cons hact fun acts => if_pos hkind
        · refine ⟨[], octet :: octets, writes, .nil, .inr ⟨.writeFailed source, source, ?_, ?_⟩⟩
          · exact if_neg hkind
          · exact fun acts => if_neg hkind
      | accept most =>
        cases most with
        | zero =>
          exact ⟨[], octet :: octets, writes, .nil, .inr ⟨.wrote [], tookNothing, rfl, fun _ => rfl⟩⟩
        | succ most =>
          have hact : (DeviceAct.wrote (octet :: octets.take most)).outcome = none := rfl
          have hsplit : octet :: octets =
              (DeviceAct.wrote (octet :: octets.take most)).octets ++ octets.drop most :=
            congrArg (octet :: ·) (List.take_append_drop most octets).symm
          rw [hsplit]
          refine (ih (octets.drop most)).cons hact fun acts => ?_
          rw [← hsplit]
          rfl

/-- **Flushing** tries until a flush decides. -/
theorem flushing (flushes : List (Option Fault)) :
    ∃ tried last fault rest, Tries [] [] tried ∧ last.outcome = some fault ∧
      ∀ acts, flushAll flushes acts = (fault, rest, last :: (tried.reverse ++ acts)) := by
  induction flushes with
  | nil => exact ⟨[], .flushed, none, [], .nil, rfl, fun _ => rfl⟩
  | cons flush flushes ih =>
    cases flush with
    | none => exact ⟨[], .flushed, none, flushes, .nil, rfl, fun _ => rfl⟩
    | some source =>
      by_cases hkind : source.kind = .interrupted
      · obtain ⟨tried, last, fault, rest, htries, hlast, hflush⟩ := ih
        have hact : (DeviceAct.flushFailed source).outcome = none := if_pos hkind
        refine ⟨.flushFailed source :: tried, last, fault, rest, htries.cons hact, hlast, ?_⟩
        intro acts
        rw [flushAll, if_pos hkind, hflush, List.reverse_cons, List.append_assoc]
        rfl
      · refine ⟨[], .flushFailed source, some source, flushes, .nil, if_neg hkind, ?_⟩
        intro acts
        exact if_neg hkind

/-- **What is done while octets are put on a device** depends on the outcomes ahead of it. -/
theorem put_course (writes : List WriteStep) (flushes : List (Option Fault)) (octets : Bytes) :
    ∃ tried last fault writes' flushes', Course octets tried last fault ∧
      ∀ acts, put ⟨writes, flushes, acts⟩ octets =
        (fault, ⟨writes', flushes', last :: (tried.reverse ++ acts)⟩) := by
  obtain ⟨tried, left, rest, htries, hend⟩ := writing writes octets
  rcases hend with ⟨rfl, hwrite⟩ | ⟨last, source, hlast, hwrite⟩
  · obtain ⟨later, last, fault, restFlushes, hlater, hlast, hflush⟩ := flushing flushes
    refine ⟨tried ++ later, last, fault, rest, restFlushes, ?_, ?_⟩
    · exact ⟨hlast, [], htries.append hlater, fun _ => rfl⟩
    · intro acts
      rw [put]
      dsimp only
      rw [hwrite]
      dsimp only
      rw [hflush, List.reverse_append, List.append_assoc]
  · refine ⟨tried, last, some source, rest, flushes, ⟨hlast, left, htries, fun h => by cases h⟩, ?_⟩
    intro acts
    rw [put]
    dsimp only
    rw [hwrite]

namespace Course

variable {octets : Bytes} {tried : List DeviceAct} {last : DeviceAct} {fault : Option Fault}

/-- What was taken is what the acts before the last took. -/
theorem octets_eq (h : Course octets tried last fault) :
    (tried ++ [last]).flatMap DeviceAct.octets = tried.flatMap DeviceAct.octets := by
  rw [List.flatMap_append, List.flatMap_singleton, DeviceAct.octets_of_outcome h.decided,
    List.append_nil]

theorem front (h : Course octets tried last fault) :
    (tried ++ [last]).flatMap DeviceAct.octets <+: octets := by
  obtain ⟨left, htries, -⟩ := h.tries
  exact ⟨left, by rw [h.octets_eq]; exact htries.taken.symm⟩

theorem whole (h : Course octets tried last none) :
    (tried ++ [last]).flatMap DeviceAct.octets = octets := by
  obtain ⟨left, htries, hall⟩ := h.tries
  rw [h.octets_eq, htries.taken, hall rfl, List.append_nil]

/-- Only the last act may say that the connection is closed. -/
theorem saysClosed_iff (h : Course octets tried last fault) :
    (∃ act ∈ tried ++ [last], act.SaysClosed) ↔ last.SaysClosed := by
  constructor
  · rintro ⟨act, hact, hclosed⟩
    rcases List.mem_append.mp hact with hact | hact
    · obtain ⟨left, htries, -⟩ := h.tries
      obtain ⟨source, hdecided, -⟩ := hclosed.outcome_eq
      cases (htries.undecided act hact).symm.trans hdecided
    · rwa [← List.mem_singleton.mp hact]
  · intro hclosed
    exact ⟨last, List.mem_append_right _ (List.mem_singleton.mpr rfl), hclosed⟩

end Course

end Device

/-! ## 3. One send -/

/-- What a send gives and what it does on the device. -/
structure SendsFrame (limit : Nat) (frame : Frame) (result : Except FrameError Unit)
    (acts : List DeviceAct) : Prop where
  /-- A payload is refused for its size exactly if it is too large. -/
  refused : (∃ size most, result = .error (.tooLarge size most)) ↔
    limit < frame.payload.length ∨ Frame.maxLength < frame.payload.length
  /-- For a refused payload nothing is done. -/
  untouched : (∃ size most, result = .error (.tooLarge size most)) → acts = []
  /-- A send that succeeds leaves the whole frame and ends with a flush. -/
  whole : result = .ok () →
    frame.encode = .ok (acts.flatMap DeviceAct.octets) ∧ acts.getLast? = some .flushed
  /-- No send leaves anything but the front of the frame. -/
  front : ∀ octets, frame.encode = .ok octets → acts.flatMap DeviceAct.octets <+: octets
  /-- An error is the closed connection exactly if a write took nothing or a fault said so. -/
  closed : result = .error .closed ↔ ∃ act ∈ acts, act.SaysClosed
  /-- Any other error is the fault of the last act, which is no interruption. -/
  own : ∀ e, result = .error e → (∃ size most, e = .tooLarge size most) ∨ e = .closed ∨
    ∃ source, e = .io source ∧ source.kind ≠ .interrupted ∧
      ∃ last, acts.getLast? = some last ∧ last.FailedBy source

namespace SendsFrame

variable {limit : Nat} {frame : Frame}

/-- A frame that is too large, and is refused. -/
theorem of_tooLarge {most : Nat}
    (h : limit < frame.payload.length ∨ Frame.maxLength < frame.payload.length) :
    SendsFrame limit frame (.error (.tooLarge frame.payload.length most)) [] where
  refused := iff_of_true ⟨_, _, rfl⟩ h
  untouched _ := rfl
  whole hok := by cases hok
  front _ _ := List.nil_prefix
  closed := by
    refine iff_of_false (fun hclosed => by cases hclosed) ?_
    rintro ⟨act, hact, -⟩
    exact absurd hact List.not_mem_nil
  own e he := .inl ⟨_, _, (Except.error.inj he).symm⟩

section

variable {tried : List DeviceAct} {last : DeviceAct} {source : Fault}

/-- Nothing but the front of the frame is taken. -/
theorem front_of_course {fault : Option Fault} (h : Device.Course frame.octets tried last fault)
    (octets : Bytes) (hencode : frame.encode = .ok octets) :
    (tried ++ [last]).flatMap DeviceAct.octets <+: octets := by
  obtain ⟨-, rfl⟩ := Frame.encode_eq_ok_iff.mp hencode
  exact h.front

/-- A frame that is put on a device and flushed. -/
theorem of_flushed (hlimit : ¬limit < frame.payload.length)
    (hmax : ¬Frame.maxLength < frame.payload.length)
    (h : Device.Course frame.octets tried last none) :
    SendsFrame limit frame (.ok ()) (tried ++ [last]) where
  refused := by
    refine iff_of_false ?_ fun hlarge => hlarge.elim hlimit hmax
    rintro ⟨size, most, hresult⟩
    cases hresult
  untouched := by
    rintro ⟨size, most, hresult⟩
    cases hresult
  whole _ := by
    rcases DeviceAct.outcome_eq_some h.decided with ⟨hflushed, -⟩ | ⟨-, hfault⟩ | ⟨_, -, -, hfault⟩
    · rw [h.whole, List.getLast?_concat, hflushed]
      exact ⟨Frame.encode_eq_ok_iff.mpr ⟨Nat.le_of_not_lt hmax, rfl⟩, rfl⟩
    · cases hfault
    · cases hfault
  front := front_of_course h
  closed := by
    refine iff_of_false (fun hresult => by cases hresult) ?_
    rw [h.saysClosed_iff]
    intro hclosed
    obtain ⟨source, hdecided, -⟩ := hclosed.outcome_eq
    cases h.decided.symm.trans hdecided
  own e he := by cases he

/-- A frame of which a device takes a part. -/
theorem of_fault (hlimit : ¬limit < frame.payload.length)
    (hmax : ¬Frame.maxLength < frame.payload.length)
    (h : Device.Course frame.octets tried last (some source)) :
    SendsFrame limit frame (.error (.ofDevice source)) (tried ++ [last]) := by
  have hsize (size most : Nat) :
      (.error (.ofDevice source) : Except FrameError Unit) ≠ .error (.tooLarge size most) := by
    intro hresult
    have hlarge := Except.error.inj hresult
    unfold FrameError.ofDevice at hlarge
    split at hlarge <;> cases hlarge
  refine ⟨?_, ?_, (fun hok => by cases hok), front_of_course h, ?_, ?_⟩
  · refine iff_of_false ?_ fun hlarge => hlarge.elim hlimit hmax
    rintro ⟨size, most, hresult⟩
    exact hsize size most hresult
  · rintro ⟨size, most, hresult⟩
    exact absurd hresult (hsize size most)
  · rw [h.saysClosed_iff, DeviceAct.saysClosed_iff h.decided, ← FrameError.ofDevice_eq_closed_iff]
    exact ⟨fun hclosed => Except.error.inj hclosed, fun hclosed => congrArg Except.error hclosed⟩
  · intro e he
    obtain rfl : FrameError.ofDevice source = e := Except.error.inj he
    by_cases hkind : source.kind = .writeZero
    · exact .inr (.inl (FrameError.ofDevice_eq_closed_iff.mpr hkind))
    · rcases DeviceAct.outcome_eq_some h.decided with ⟨-, hown⟩ | ⟨-, hown⟩ | ⟨own, hfailed, hno, hown⟩
      · cases hown
      · exact absurd (congrArg Fault.kind (Option.some.inj hown)) hkind
      · obtain rfl : source = own := Option.some.inj hown
        exact .inr (.inr ⟨source, if_neg hkind, hno, last, List.getLast?_concat, hfailed⟩)

end

end SendsFrame

/-- What a send does on a device depends on the outcomes ahead of it. -/
theorem Device.send_course (writes : List WriteStep) (flushes : List (Option Fault)) (limit : Nat)
    (frame : Frame) :
    ∃ result acts writes' flushes', SendsFrame limit frame result acts ∧
      (acts = [] → writes' = writes ∧ flushes' = flushes) ∧
      ∀ before, Device.send ⟨writes, flushes, before⟩ limit frame =
        (result, ⟨writes', flushes', acts.reverse ++ before⟩) := by
  by_cases hlimit : limit < frame.payload.length
  · exact ⟨_, [], writes, flushes, .of_tooLarge (.inl hlimit), fun _ => ⟨rfl, rfl⟩,
      fun before => if_pos hlimit⟩
  · by_cases hmax : Frame.maxLength < frame.payload.length
    · refine ⟨.error (.tooLarge frame.payload.length Frame.maxLength), [], writes, flushes,
        .of_tooLarge (.inr hmax), fun _ => ⟨rfl, rfl⟩, ?_⟩
      intro before
      rw [send, if_neg hlimit, Frame.encode, if_pos hmax]
      rfl
    · obtain ⟨tried, last, fault, writes', flushes', hcourse, hput⟩ :=
        put_course writes flushes frame.octets
      have hencode := Frame.encode_eq_ok_iff.mpr ⟨Nat.le_of_not_lt hmax, rfl⟩
      have hsome : tried ++ [last] = [] → writes' = writes ∧ flushes' = flushes :=
        fun hnone => absurd hnone (List.concat_ne_nil _ _)
      have hacts (before : List DeviceAct) : last :: (tried.reverse ++ before) =
          (tried ++ [last]).reverse ++ before := by
        rw [List.reverse_append]
        rfl
      cases fault with
      | none =>
        refine ⟨_, _, writes', flushes', .of_flushed hlimit hmax hcourse, hsome, fun before => ?_⟩
        rw [send, if_neg hlimit, hencode]
        dsimp only
        rw [hput, hacts]
      | some source =>
        refine ⟨_, _, writes', flushes', .of_fault hlimit hmax hcourse, hsome, fun before => ?_⟩
        rw [send, if_neg hlimit, hencode]
        dsimp only
        rw [hput, hacts]

namespace FrameWriter

/-- **The buffer has no part in a send**, nor has the room in it. -/
theorem send_eq (grown : Nat → Nat → Nat) (w : FrameWriter) (frame : Frame) :
    (w.send grown frame).1 = (w.device.send w.limit frame).1 ∧
      (w.send grown frame).2.device = (w.device.send w.limit frame).2 := by
  have hrelease (w : FrameWriter) : w.release.device = w.device := by
    unfold release
    split <;> rfl
  unfold send Device.send Frame.encodeOnto
  split
  · exact ⟨rfl, rfl⟩
  · cases frame.encode with
    | error e => exact ⟨rfl, rfl⟩
    | ok octets =>
      dsimp only [Except.map, clear, List.nil_append]
      cases w.device.put octets with
      | mk fault device =>
        cases fault with
        | none => exact ⟨rfl, hrelease _⟩
        | some source => exact ⟨rfl, hrelease _⟩

/-- **One send leaves one whole frame, or the front of it.**  For a writer in any state -- its buffer,
its limit and its device are what any earlier sends left -- there are acts that the send adds to those on
the device, and they and the result are as `SendsFrame` says.  A frame that is refused leaves the device
as it is.  Any other writer with this limit, and these outcomes ahead of its device, does the same acts
and gives the same result, so that nothing of an earlier frame is in them. -/
theorem send_whole_or_front (grown : Nat → Nat → Nat) (w : FrameWriter) (frame : Frame) :
    ∃ acts,
      (w.send grown frame).2.device.acts = acts.reverse ++ w.device.acts ∧
      SendsFrame w.limit frame (w.send grown frame).1 acts ∧
      (acts = [] → (w.send grown frame).2.device = w.device) ∧
      ∀ (grown' : Nat → Nat → Nat) (w' : FrameWriter), w'.limit = w.limit →
        w'.device.writes = w.device.writes → w'.device.flushes = w.device.flushes →
        (w'.send grown' frame).1 = (w.send grown frame).1 ∧
          (w'.send grown' frame).2.device.acts = acts.reverse ++ w'.device.acts := by
  obtain ⟨result, acts, writes, flushes, hsends, huntouched, hsend⟩ :=
    Device.send_course w.device.writes w.device.flushes w.limit frame
  obtain ⟨hresult, hdevice⟩ := w.send_eq grown frame
  rw [hsend] at hresult hdevice
  refine ⟨acts, by rw [hdevice], hresult ▸ hsends, ?_, ?_⟩
  · intro hnone
    obtain ⟨rfl, rfl⟩ := huntouched hnone
    rw [hdevice, hnone]
    rfl
  · intro grown' w' hlimit hwrites hflushes
    obtain ⟨hresult', hdevice'⟩ := w'.send_eq grown' frame
    have hahead : w'.device = ⟨w.device.writes, w.device.flushes, w'.device.acts⟩ := by
      rw [← hwrites, ← hflushes]
    rw [hlimit, hahead, hsend] at hresult' hdevice'
    exact ⟨hresult'.trans hresult.symm, by rw [hdevice']⟩

end FrameWriter

end Readout

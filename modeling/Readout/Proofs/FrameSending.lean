/-
# What a send leaves on a device

A send leaves the octets of its frame on the device, or a part of them: all of them if it succeeds, none
if the frame is refused, and as many as the device took before the fault otherwise.

* `Device.send_octets` -- a send leaves a part of its frame, from the front;
* `Device.sent_of_sendAll` -- so does each of the sends that follow one another, each behind the last;
* `Device.sent_restored` -- where nothing fails, a frame is left whole or refused.
-/
import Readout.Frame.Writer
import Readout.Proofs.FrameCodec

namespace Readout

/-- The octets that acts put on a device, the latest act being the first. -/
def octetsOf (acts : List DeviceAct) : Bytes := acts.reverse.flatMap DeviceAct.octets

@[simp] theorem octetsOf_cons (act : DeviceAct) (acts : List DeviceAct) :
    octetsOf (act :: acts) = octetsOf acts ++ act.octets := by
  simp [octetsOf]

theorem octets_wrote (octets : Bytes) : (DeviceAct.wrote octets).octets = octets := rfl

theorem octets_writeFailed (source : Fault) : (DeviceAct.writeFailed source).octets = [] := rfl

theorem octets_flushed : DeviceAct.flushed.octets = [] := rfl

theorem octets_flushFailed (source : Fault) : (DeviceAct.flushFailed source).octets = [] := rfl

/-- A write that takes octets, or is repeated. -/
def WriteStep.Harmless : WriteStep → Prop
  | accept most => 0 < most
  | fault source => source.kind = .interrupted

namespace Device

/-! ## 1. One frame -/

/-- Writing takes octets from the front, and all of them if no write fails. -/
theorem writeAll_octets (writes : List WriteStep) (octets : Bytes) (acts : List DeviceAct) :
    ∃ taken left, octets = taken ++ left ∧
      octetsOf (writeAll writes octets acts).2.2 = octetsOf acts ++ taken ∧
      ((writeAll writes octets acts).1 = none → left = []) := by
  fun_induction writeAll writes octets acts with
  | case1 writes acts => exact ⟨[], [], rfl, (List.append_nil _).symm, fun _ => rfl⟩
  | case2 octets acts hsome =>
    exact ⟨octets, [], (List.append_nil _).symm, octetsOf_cons _ _, fun _ => rfl⟩
  | case3 source writes octets acts hsome hinterrupted ih =>
    obtain ⟨taken, left, hoctets, hacts, hall⟩ := ih
    refine ⟨taken, left, hoctets, ?_, hall⟩
    rw [hacts, octetsOf_cons, octets_writeFailed, List.append_nil]
  | case4 source writes octets acts hsome hfault =>
    refine ⟨[], octets, rfl, ?_, fun h => nomatch h⟩
    rw [octetsOf_cons, octets_writeFailed]
  | case5 writes octets acts hsome =>
    refine ⟨[], octets, rfl, ?_, fun h => nomatch h⟩
    rw [octetsOf_cons, octets_wrote]
  | case6 most writes octets acts hsome hmost ih =>
    obtain ⟨taken, left, hoctets, hacts, hall⟩ := ih
    refine ⟨octets.take most ++ taken, left, ?_, ?_, hall⟩
    · rw [List.append_assoc, ← hoctets, List.take_append_drop]
    · rw [hacts, octetsOf_cons, octets_wrote, List.append_assoc]

/-- Flushing puts nothing on a device. -/
theorem flushAll_octets (flushes : List (Option Fault)) (acts : List DeviceAct) :
    octetsOf (flushAll flushes acts).2.2 = octetsOf acts := by
  fun_induction flushAll flushes acts with
  | case1 acts => rw [octetsOf_cons, octets_flushed, List.append_nil]
  | case2 flushes acts => rw [octetsOf_cons, octets_flushed, List.append_nil]
  | case3 source flushes acts hinterrupted ih =>
    rw [ih, octetsOf_cons, octets_flushFailed, List.append_nil]
  | case4 source flushes acts hfault => rw [octetsOf_cons, octets_flushFailed, List.append_nil]

theorem put_octets (d : Device) (octets : Bytes) :
    ∃ taken left, octets = taken ++ left ∧ (d.put octets).2.accepted = d.accepted ++ taken ∧
      ((d.put octets).1 = none → left = []) := by
  obtain ⟨taken, left, hoctets, hacts, hall⟩ := writeAll_octets d.writes octets d.acts
  refine ⟨taken, left, hoctets, ?_, ?_⟩
  · unfold put
    split
    · rename_i hwrite
      rw [hwrite] at hacts
      exact hacts
    · rename_i writes acts hwrite
      have hflush := flushAll_octets d.flushes acts
      rw [hwrite] at hacts
      exact hflush.trans hacts
  · intro hnone
    apply hall
    unfold put at hnone
    split at hnone
    · cases hnone
    · rename_i hwrite
      rw [hwrite]

/-- **A send leaves the octets of its frame on the device, or a part from their front**: all of them if
it succeeds, and none if the frame is larger than it may be. -/
theorem send_octets (d : Device) (limit : Nat) (frame : Frame) :
    ∃ taken left, frame.octets = taken ++ left ∧
      (d.send limit frame).2.accepted = d.accepted ++ taken ∧
      ((d.send limit frame).1 = .ok () → left = []) ∧
      (taken ≠ [] → frame.payload.length ≤ limit ∧ frame.payload.length ≤ Frame.maxLength) := by
  unfold send
  split
  · refine ⟨[], frame.octets, rfl, (List.append_nil _).symm, ?_, fun h => absurd rfl h⟩
    intro h
    cases h
  · rename_i hlimit
    split
    · refine ⟨[], frame.octets, rfl, (List.append_nil _).symm, ?_, fun h => absurd rfl h⟩
      intro h
      cases h
    · rename_i octets hencode
      obtain ⟨hmax, rfl⟩ := Frame.encode_eq_ok_iff.mp hencode
      obtain ⟨taken, left, hoctets, haccepted, hall⟩ := d.put_octets frame.octets
      have hsize := And.intro (Nat.le_of_not_lt hlimit) hmax
      split
      · rename_i source d' hput
        rw [hput] at haccepted
        refine ⟨taken, left, hoctets, haccepted, ?_, fun _ => hsize⟩
        intro h
        cases h
      · rename_i d' hput
        rw [hput] at haccepted hall
        exact ⟨taken, left, hoctets, haccepted, fun _ => hall rfl, fun _ => hsize⟩

/-! ## 2. A device on which nothing fails -/

/-- The device when nothing fails on it any more. -/
def restored (d : Device) : Device := { d with writes := [], flushes := [] }

theorem accepted_restored (d : Device) : d.restored.accepted = d.accepted := rfl

theorem put_restored (d : Device) (octets : Bytes) :
    (d.restored.put octets).1 = none ∧ (d.restored.put octets).2.restored =
      (d.restored.put octets).2 := by
  cases octets with
  | nil => exact ⟨rfl, rfl⟩
  | cons octet octets => exact ⟨rfl, rfl⟩

theorem send_restored (d : Device) {limit : Nat} {frame : Frame}
    (hlimit : frame.payload.length ≤ limit) (hmax : frame.payload.length ≤ Frame.maxLength) :
    (d.restored.send limit frame).1 = .ok () := by
  have hencode := Frame.encode_eq_ok_iff.mpr ⟨hmax, rfl⟩
  obtain ⟨hnone, -⟩ := d.put_restored frame.octets
  rw [send, if_neg (Nat.not_lt.mpr hlimit), hencode]
  dsimp only
  split
  · rename_i hput
    rw [hput] at hnone
    cases hnone
  · rfl

/-- Nothing fails after a send either. -/
theorem restored_send_restored (d : Device) (limit : Nat) (frame : Frame) :
    (d.restored.send limit frame).2.restored = (d.restored.send limit frame).2 := by
  unfold send
  split
  · rfl
  · split
    · rfl
    · rename_i octets hencode
      obtain ⟨-, hrestored⟩ := d.put_restored octets
      split
      · rename_i hput
        rw [hput] at hrestored
        exact hrestored
      · rename_i hput
        rw [hput] at hrestored
        exact hrestored

/-! ## 3. A device on which no write fails for good -/

/-- A device whose writes may fall short and be interrupted, but do not fail otherwise. -/
structure Sound (d : Device) : Prop where
  writes : ∀ step ∈ d.writes, step.Harmless
  flushes : ∀ source, some source ∈ d.flushes → source.kind = .interrupted

theorem sound_default : ({} : Device).Sound := ⟨nofun, nofun⟩

theorem writeAll_of_harmless {writes : List WriteStep} (h : ∀ step ∈ writes, step.Harmless)
    (octets : Bytes) (acts : List DeviceAct) :
    (writeAll writes octets acts).1 = none ∧
      ∀ step ∈ (writeAll writes octets acts).2.1, step.Harmless := by
  fun_induction writeAll writes octets acts with
  | case1 writes acts => exact ⟨rfl, h⟩
  | case2 octets acts hsome => exact ⟨rfl, fun _ h => nomatch h⟩
  | case3 source writes octets acts hsome hinterrupted ih =>
    exact ih fun step hstep => h step (List.mem_cons_of_mem _ hstep)
  | case4 source writes octets acts hsome hfault => exact absurd (h _ List.mem_cons_self) hfault
  | case5 writes octets acts hsome => exact absurd (h _ List.mem_cons_self) (Nat.lt_irrefl 0)
  | case6 most writes octets acts hsome hmost ih =>
    exact ih fun step hstep => h step (List.mem_cons_of_mem _ hstep)

theorem flushAll_of_harmless {flushes : List (Option Fault)}
    (h : ∀ source, some source ∈ flushes → source.kind = .interrupted) (acts : List DeviceAct) :
    (flushAll flushes acts).1 = none ∧
      ∀ source, some source ∈ (flushAll flushes acts).2.1 → source.kind = .interrupted := by
  fun_induction flushAll flushes acts with
  | case1 acts => exact ⟨rfl, fun _ h => nomatch h⟩
  | case2 flushes acts => exact ⟨rfl, fun source hsource => h source (List.mem_cons_of_mem _ hsource)⟩
  | case3 source flushes acts hinterrupted ih =>
    exact ih fun source hsource => h source (List.mem_cons_of_mem _ hsource)
  | case4 source flushes acts hfault => exact absurd (h source List.mem_cons_self) hfault

/-- A sound device takes all octets, and stays sound. -/
theorem put_of_sound {d : Device} (h : d.Sound) (octets : Bytes) :
    (d.put octets).1 = none ∧ (d.put octets).2.Sound ∧
      (d.put octets).2.accepted = d.accepted ++ octets := by
  obtain ⟨taken, left, hoctets, haccepted, hall⟩ := d.put_octets octets
  have hput : (d.put octets).1 = none ∧ (d.put octets).2.Sound := by
    obtain ⟨hnone, hwrites⟩ := writeAll_of_harmless h.writes octets d.acts
    unfold put
    generalize writeAll d.writes octets d.acts = written at hnone hwrites
    obtain ⟨_ | source, writes, acts⟩ := written
    · obtain ⟨hflushed, hflushes⟩ := flushAll_of_harmless h.flushes acts
      exact ⟨hflushed, hwrites, hflushes⟩
    · cases hnone
  rw [hall hput.1, List.append_nil] at hoctets
  exact ⟨hput.1, hput.2, hoctets ▸ haccepted⟩

/-- **On a sound device a frame is left whole, or refused for its size** and the device not touched. -/
theorem send_of_sound {d : Device} (h : d.Sound) (limit : Nat) (frame : Frame) :
    ((d.send limit frame).1 = .ok () ∧ (d.send limit frame).2.Sound ∧
        (d.send limit frame).2.accepted = d.accepted ++ frame.octets ∧
        frame.payload.length ≤ limit ∧ frame.payload.length ≤ Frame.maxLength) ∨
      ∃ most, (most = limit ∨ most = Frame.maxLength) ∧ most < frame.payload.length ∧
        d.send limit frame = (.error (.tooLarge frame.payload.length most), d) := by
  unfold send
  split
  · rename_i hlimit
    exact .inr ⟨limit, .inl rfl, hlimit, rfl⟩
  · rename_i hlimit
    by_cases hmax : frame.payload.length ≤ Frame.maxLength
    · have hencode := Frame.encode_eq_ok_iff.mpr ⟨hmax, rfl⟩
      obtain ⟨hnone, hsound, haccepted⟩ := put_of_sound h frame.octets
      rw [hencode]
      simp only
      generalize d.put frame.octets = result at hnone hsound haccepted
      obtain ⟨_ | source, after⟩ := result
      · exact .inl ⟨rfl, hsound, haccepted, Nat.le_of_not_lt hlimit, hmax⟩
      · cases hnone
    · have hlarge := Nat.lt_of_not_le hmax
      rw [Frame.encode, if_pos hlarge]
      exact .inr ⟨Frame.maxLength, .inr rfl, hlarge, rfl⟩

end Device

/-! ## 4. One send after another -/

/-- What came of a send. -/
structure Sent where
  frame : Frame
  result : Except FrameError Unit
  /-- What the device took of the frame. -/
  octets : Bytes

namespace Sent

/-- The send succeeded. -/
def isOk (s : Sent) : Bool := s.result.isOk

/-- The device took a part of the frame and no more. -/
def Torn (s : Sent) : Prop := s.octets ≠ [] ∧ s.octets ≠ s.frame.octets

/-- What a send may leave: a part from the front of its frame, all of it if the send succeeded, and none
if the frame is larger than it may be. -/
structure Lawful (limit : Nat) (s : Sent) : Prop where
  front : ∃ left, s.frame.octets = s.octets ++ left
  whole : s.isOk = true → s.octets = s.frame.octets
  fits : s.octets ≠ [] → s.frame.payload.length ≤ limit ∧ s.frame.payload.length ≤ Frame.maxLength

variable {limit : Nat} {s : Sent}

theorem Lawful.ne_nil_of_isOk (h : s.Lawful limit) (hok : s.isOk = true) : s.octets ≠ [] := by
  rw [h.whole hok]
  exact s.frame.octets_ne_nil

/-- A frame of which something was left can be read. -/
theorem Lawful.readable (h : s.Lawful limit) (hknown : s.frame.kind.isKnown = true)
    (hne : s.octets ≠ []) {most : Nat} (hmost : limit ≤ most) : s.frame.Readable most :=
  ⟨hknown, Nat.le_trans (h.fits hne).1 hmost, (h.fits hne).2⟩

end Sent

namespace Device

/-- Sends frames one after another, whatever comes of each. -/
def sendAll (limit : Nat) : Device → List Frame → List Sent × Device
  | d, [] => ([], d)
  | d, frame :: frames =>
    let sent := d.send limit frame
    let more := sendAll limit sent.2 frames
    (⟨frame, sent.1, sent.2.accepted.drop d.accepted.length⟩ :: more.1, more.2)

/-- What comes of one send. -/
theorem lawful_send (d : Device) (limit : Nat) (frame : Frame) :
    (Sent.mk frame (d.send limit frame).1
        ((d.send limit frame).2.accepted.drop d.accepted.length)).Lawful limit ∧
      (d.send limit frame).2.accepted =
        d.accepted ++ (d.send limit frame).2.accepted.drop d.accepted.length := by
  obtain ⟨taken, left, hoctets, haccepted, hall, hfits⟩ := d.send_octets limit frame
  have hdrop : (d.send limit frame).2.accepted.drop d.accepted.length = taken := by
    rw [haccepted, List.drop_left]
  rw [hdrop]
  refine ⟨⟨⟨left, hoctets⟩, ?_, hfits⟩, haccepted⟩
  intro hok
  have hleft : left = [] := by
    apply hall
    revert hok
    show (d.send limit frame).1.isOk = true → _
    cases (d.send limit frame).1 with
    | ok => exact fun _ => rfl
    | error e => exact fun h => Bool.noConfusion h
  rw [hleft, List.append_nil] at hoctets
  exact hoctets.symm

/-- **Each send leaves a part of its frame behind what was there.** -/
theorem sent_of_sendAll (limit : Nat) (d : Device) (frames : List Frame) :
    (sendAll limit d frames).1.map Sent.frame = frames ∧
      (∀ s ∈ (sendAll limit d frames).1, s.Lawful limit) ∧
      (sendAll limit d frames).2.accepted =
        d.accepted ++ (sendAll limit d frames).1.flatMap Sent.octets := by
  induction frames generalizing d with
  | nil => exact ⟨rfl, fun _ hs => absurd hs List.not_mem_nil, (List.append_nil _).symm⟩
  | cons frame frames ih =>
    obtain ⟨hframes, hlawful, haccepted⟩ := ih (d.send limit frame).2
    obtain ⟨hfirst, hput⟩ := d.lawful_send limit frame
    refine ⟨congrArg (frame :: ·) hframes, ?_, ?_⟩
    · intro s hs
      rcases List.mem_cons.mp hs with rfl | hs
      · exact hfirst
      · exact hlawful s hs
    · rw [sendAll, haccepted, hput, List.append_assoc, ← hput]
      rfl

/-- Where nothing fails, each frame that is not too large is sent. -/
theorem sent_restored (limit : Nat) (d : Device) (frames : List Frame) :
    ∀ s ∈ (sendAll limit d.restored frames).1, s.frame.payload.length ≤ limit →
      s.frame.payload.length ≤ Frame.maxLength → s.isOk = true := by
  induction frames generalizing d with
  | nil => exact fun _ hs => absurd hs List.not_mem_nil
  | cons frame frames ih =>
    intro s hs hlimit hmax
    rcases List.mem_cons.mp hs with rfl | hs
    · show (d.restored.send limit frame).1.isOk = true
      rw [d.send_restored hlimit hmax]
      rfl
    · have hmore := ih (d.restored.send limit frame).2
      rw [restored_send_restored] at hmore
      exact hmore s hs hlimit hmax

end Device

end Readout

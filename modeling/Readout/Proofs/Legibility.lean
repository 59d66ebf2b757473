/-
# What a peer reads after sends that failed

The octets on a device are legible if a peer reads in them frames that were sent, in the order in which
they were sent, among them each one whose send succeeded.

A send that fails may leave a part of its frame.  As long as nothing is put behind such a part, the peer
reads the frames before it and waits for the rest.  What is sent next takes the place of the rest: the
next send does not know of the part, and no mark tells the peer where the next frame begins.

* `Tidy.readAll` -- what is read while nothing is behind a part of a frame;
* `Legible.append` -- frames that are sent behind whole frames are read as well;
* `Legible.left_eq_nil` -- and they are not where octets wait for the rest of a frame;
* `legible_after_sends` -- so octets are legible, and stay so, exactly while no frame is torn.
-/
import Readout.Proofs.FrameSending

namespace Readout

/-- Nothing is behind a part of a frame. -/
def Tidy (history : List Sent) : Prop := history.Pairwise fun s later => s.Torn → later.octets = []

/-- A peer with the limit `most` on payloads reads frames that were sent, each that was sent with
success, and no fault. -/
def Legible (most : Nat) (history : List Sent) (octets : Bytes) : Prop :=
  (Frame.readAll most octets).error = none ∧
    ∃ kept : List Sent, (history.filter Sent.isOk).Sublist kept ∧ kept.Sublist history ∧
      (Frame.readAll most octets).frames = kept.map Sent.frame

variable {limit most : Nat} {history : List Sent}

/-! ## 1. Nothing behind a part of a frame -/

/-- Nothing changes with a send that left nothing. -/
theorem Legible.cons_of_nil {s : Sent} {octets : Bytes} (h : Legible most history octets)
    (hfailed : ¬s.isOk = true) : Legible most (s :: history) octets := by
  obtain ⟨herror, kept, hok, hkept, hframes⟩ := h
  refine ⟨herror, kept, ?_, hkept.cons s, hframes⟩
  rw [List.filter_cons_of_neg hfailed]
  exact hok

/-- A whole frame in front is read first. -/
theorem Legible.cons_of_whole {s : Sent} {octets : Bytes} (h : Legible most history octets)
    (hreadable : s.frame.Readable most) :
    Legible most (s :: history) (s.frame.octets ++ octets) ∧
      (Frame.readAll most (s.frame.octets ++ octets)).left = (Frame.readAll most octets).left := by
  obtain ⟨herror, kept, hok, hkept, hframes⟩ := h
  have hread := Frame.readAll_of_some (Frame.decode_octets_append hreadable octets)
  rw [Legible, hread]
  refine ⟨⟨herror, s :: kept, ?_, hkept.cons_cons s, congrArg (s.frame :: ·) hframes⟩, rfl⟩
  cases hsok : s.isOk with
  | true =>
    rw [List.filter_cons_of_pos hsok]
    exact hok.cons_cons s
  | false =>
    rw [List.filter_cons_of_neg (by rw [hsok]; exact Bool.false_ne_true)]
    exact hok.cons s

/-- A part of a frame is no frame yet, and nothing is read if nothing is behind it. -/
theorem legible_of_torn {s : Sent} (hs : s.Lawful limit) (htorn : s.Torn)
    (hreadable : s.frame.Readable most) (hlawful : ∀ t ∈ history, t.Lawful limit)
    (hbehind : ∀ t ∈ history, t.octets = []) :
    Legible most (s :: history) s.octets ∧ (Frame.readAll most s.octets).left = s.octets := by
  obtain ⟨left, hfront⟩ := hs.front
  have hleft : left ≠ [] := by
    rintro rfl
    rw [List.append_nil] at hfront
    exact htorn.2 hfront.symm
  have hread := Frame.readAll_of_none (Frame.decode_of_torn hreadable hfront hleft)
  have hfailed : (s :: history).filter Sent.isOk = [] := by
    rw [List.filter_eq_nil_iff]
    intro t ht hok
    rcases List.mem_cons.mp ht with rfl | ht
    · exact htorn.2 (hs.whole hok)
    · exact (hlawful t ht).ne_nil_of_isOk hok (hbehind t ht)
  rw [Legible, hread, hfailed]
  exact ⟨⟨rfl, [], .slnil, List.nil_sublist _, rfl⟩, rfl⟩

/-- **While nothing is behind a part of a frame, octets are legible**, and some of them are left exactly
if a frame is torn. -/
theorem Tidy.readAll (htidy : Tidy history) (hmost : limit ≤ most)
    (hlawful : ∀ s ∈ history, s.Lawful limit)
    (hknown : ∀ s ∈ history, s.frame.kind.isKnown = true) :
    Legible most history (history.flatMap Sent.octets) ∧
      ((Frame.readAll most (history.flatMap Sent.octets)).left = [] ↔ ∀ s ∈ history, ¬s.Torn) := by
  induction history with
  | nil =>
    have hnone : Frame.readAll most [] = ⟨[], [], none⟩ := Frame.readAll_of_none rfl
    rw [List.flatMap_nil, Legible, hnone]
    exact ⟨⟨rfl, [], .slnil, .slnil, rfl⟩, fun _ _ hs => absurd hs List.not_mem_nil, fun _ => rfl⟩
  | cons s history ih =>
    obtain ⟨hbehind, htidy'⟩ := List.pairwise_cons.mp htidy
    obtain ⟨hs, hlawful'⟩ := List.forall_mem_cons.mp hlawful
    obtain ⟨hsknown, hknown'⟩ := List.forall_mem_cons.mp hknown
    obtain ⟨hlegible, hleft⟩ := ih htidy' hlawful' hknown'
    rw [List.flatMap_cons, List.forall_mem_cons]
    by_cases hnil : s.octets = []
    · have hfailed : ¬s.isOk = true := fun h => hs.ne_nil_of_isOk h hnil
      rw [hnil, List.nil_append, hleft]
      exact ⟨hlegible.cons_of_nil hfailed, fun h => ⟨fun htorn => htorn.1 hnil, h⟩, And.right⟩
    · have hreadable := hs.readable hsknown hnil hmost
      by_cases hwhole : s.octets = s.frame.octets
      · obtain ⟨hcons, hsame⟩ := hlegible.cons_of_whole hreadable
        rw [hwhole, hsame, hleft]
        exact ⟨hcons, fun h => ⟨fun htorn => htorn.2 hwhole, h⟩, And.right⟩
      · have htorn : s.Torn := ⟨hnil, hwhole⟩
        have hempty : history.flatMap Sent.octets = [] :=
          List.flatMap_eq_nil_iff.mpr fun t ht => hbehind t ht htorn
        obtain ⟨hcons, hsame⟩ := legible_of_torn hs htorn hreadable hlawful' fun t ht =>
          hbehind t ht htorn
        rw [hempty, List.append_nil, hsame]
        exact ⟨hcons, fun h => absurd h hnil, fun h => absurd htorn h.1⟩

/-! ## 2. More frames behind whole frames -/

/-- What sends leave that succeed or leave nothing. -/
theorem flatMap_octets_of_settled {more : List Sent} (hlawful : ∀ s ∈ more, s.Lawful limit)
    (hsettled : ∀ s ∈ more, s.octets ≠ [] → s.isOk = true) :
    more.flatMap Sent.octets = ((more.filter Sent.isOk).map Sent.frame).flatMap Frame.octets := by
  induction more with
  | nil => rfl
  | cons s more ih =>
    obtain ⟨hs, hlawful'⟩ := List.forall_mem_cons.mp hlawful
    obtain ⟨hssettled, hsettled'⟩ := List.forall_mem_cons.mp hsettled
    rw [List.flatMap_cons, ih hlawful' hsettled']
    by_cases hok : s.isOk = true
    · rw [List.filter_cons_of_pos hok, List.map_cons, List.flatMap_cons, hs.whole hok]
    · have hnil : s.octets = [] := Decidable.of_not_not fun hne => hok (hssettled hne)
      rw [List.filter_cons_of_neg hok, hnil, List.nil_append]

/-- **Frames that are sent behind whole frames are read as well.** -/
theorem Legible.append {octets : Bytes} {more : List Sent} (h : Legible most history octets)
    (hleft : (Frame.readAll most octets).left = []) (hmost : limit ≤ most)
    (hlawful : ∀ s ∈ more, s.Lawful limit) (hknown : ∀ s ∈ more, s.frame.kind.isKnown = true)
    (hsettled : ∀ s ∈ more, s.octets ≠ [] → s.isOk = true) :
    Legible most (history ++ more) (octets ++ more.flatMap Sent.octets) := by
  obtain ⟨herror, kept, hok, hkept, hframes⟩ := h
  obtain ⟨hoctets, hreadable, -⟩ := @Frame.octets_of_readAll most octets
  have hmore : ∀ f ∈ (more.filter Sent.isOk).map Sent.frame, f.Readable most := by
    intro f hf
    obtain ⟨s, hs, rfl⟩ := List.mem_map.mp hf
    obtain ⟨hs, hsok⟩ := List.mem_filter.mp hs
    exact (hlawful s hs).readable (hknown s hs) ((hlawful s hs).ne_nil_of_isOk hsok) hmost
  have hwhole : octets ++ more.flatMap Sent.octets =
      ((Frame.readAll most octets).frames ++
        (more.filter Sent.isOk).map Sent.frame).flatMap Frame.octets ++ [] := by
    rw [hleft, List.append_nil] at hoctets
    rw [List.append_nil, List.flatMap_append, ← hoctets, flatMap_octets_of_settled hlawful hsettled]
  have hall : ∀ f ∈ (Frame.readAll most octets).frames ++
      (more.filter Sent.isOk).map Sent.frame, f.Readable most :=
    fun f hf => (List.mem_append.mp hf).elim (hreadable f) (hmore f)
  have hread := Frame.readAll_append hall []
  rw [Legible, hwhole, hread, Frame.readAll_of_none rfl]
  refine ⟨rfl, kept ++ more.filter Sent.isOk, ?_, hkept.append List.filter_sublist, ?_⟩
  · rw [List.filter_append]
    exact hok.append (List.Sublist.refl _)
  · rw [hframes, List.map_append, List.append_nil]

/-! ## 3. More frames behind a part of a frame -/

/-- A frame that holds nothing but its header. -/
def farewell : Frame := ⟨FrameKind.goodbye, []⟩

/-- The mark begins where `farewell` does, and nowhere else in it. -/
theorem octets_farewell : farewell.octets = 0x53 :: [0x42, 0, 0, 0, 0, 2, 0] := by decide

/-- Where octets wait for the rest of a frame, a frame in front of them and of more is the one they are a
part of. -/
theorem Frame.part_of_waiting {f : Frame} {waiting rest behind : Bytes}
    (hwaiting : Frame.decode most waiting = .ok none) (hf : f.Readable most)
    (h : waiting ++ rest = f.octets ++ behind) :
    ∃ missing, missing ≠ [] ∧ f.octets = waiting ++ missing ∧ rest = missing ++ behind := by
  have hnot : ∀ after, waiting ≠ f.octets ++ after := by
    rintro after rfl
    rw [Frame.decode_octets_append hf] at hwaiting
    cases hwaiting
  rcases List.append_eq_append_iff.mp h with ⟨missing, hmissing, hrest⟩ | ⟨after, hafter, -⟩
  · refine ⟨missing, ?_, hmissing, hrest⟩
    rintro rfl
    exact hnot [] (by rw [hmissing, List.append_nil, List.append_nil])
  · exact absurd hafter (hnot after)

/-- The octets of `farewell`, sent so many times. -/
def repeated (many : Nat) : Bytes := (List.replicate many farewell).flatMap Frame.octets

theorem repeated_succ (many : Nat) : repeated (many + 1) = farewell.octets ++ repeated many := rfl

section Waiting

variable {waiting : Bytes} {many : Nat}
variable (hwaiting : Frame.decode most waiting = .ok none)
include hwaiting

/-- Octets that wait for the rest of a frame keep the next one from being read as itself. -/
theorem first_behind_waiting {frames : List Frame} (hne : waiting ≠ []) (hmany : 0 < many)
    (h : (Frame.readAll most (waiting ++ repeated many)).frames = farewell :: frames) : False := by
  obtain ⟨hoctets, hreadable, -⟩ := @Frame.octets_of_readAll most (waiting ++ repeated many)
  obtain ⟨many, rfl⟩ := Nat.exists_eq_succ_of_ne_zero (Nat.ne_of_gt hmany)
  rw [h, List.flatMap_cons, List.append_assoc, repeated_succ] at hoctets
  rw [h] at hreadable
  obtain ⟨missing, hmissing, hwhole, hrest⟩ :=
    Frame.part_of_waiting hwaiting (hreadable farewell List.mem_cons_self) hoctets
  obtain ⟨octet, waiting, rfl⟩ := List.exists_cons_of_ne_nil hne
  obtain ⟨first, missing, rfl⟩ := List.exists_cons_of_ne_nil hmissing
  -- What is missing begins with the mark, but the mark is not inside the frame.
  rw [octets_farewell, List.cons_append, List.cons_append] at hrest
  rw [octets_farewell, List.cons_append, ← (List.cons.inj hrest).1] at hwhole
  have hinside : (0x53 : UInt8) ∈ [0x42, 0, 0, 0, 0, 2, 0] := by
    rw [(List.cons.inj hwhole).2]
    exact List.mem_append_right _ List.mem_cons_self
  exact absurd hinside (by decide)

/-- No frame is read between them and all of the next ones. -/
theorem between_waiting_and_more {frame : Frame} {frames : List Frame}
    (h : (Frame.readAll most (waiting ++ repeated many)).frames =
      frame :: frames ++ List.replicate many farewell) : False := by
  obtain ⟨hoctets, hreadable, -⟩ := @Frame.octets_of_readAll most (waiting ++ repeated many)
  rw [h, List.cons_append] at hreadable
  rw [h, List.cons_append, List.flatMap_cons, List.append_assoc] at hoctets
  obtain ⟨missing, hmissing, hwhole, -⟩ :=
    Frame.part_of_waiting hwaiting (hreadable frame List.mem_cons_self) hoctets
  have hpos := List.length_pos_iff.mpr hmissing
  have hlength := congrArg List.length hoctets
  rw [hwhole] at hlength
  simp only [List.length_append, List.flatMap_append, repeated] at hlength
  omega

/-- **Frames behind octets that wait for the rest of a frame are not all read**, whatever was read
before. -/
theorem not_all_read {before kept : List Frame} (hne : waiting ≠ []) (hmany : before.length < many)
    (h : before ++ (Frame.readAll most (waiting ++ repeated many)).frames =
      kept ++ List.replicate many farewell) : False := by
  have hpos : 0 < many := Nat.zero_lt_of_lt hmany
  rcases List.append_eq_append_iff.mp h with ⟨between, -, hframes⟩ | ⟨more, rfl, hreplicate⟩
  · cases between with
    | nil =>
      obtain ⟨many, rfl⟩ := Nat.exists_eq_succ_of_ne_zero (Nat.ne_of_gt hpos)
      exact first_behind_waiting hwaiting hne hpos hframes
    | cons frame frames => exact between_waiting_and_more hwaiting hframes
  · obtain ⟨hlength, -, hframes⟩ := List.append_eq_replicate_iff.mp hreplicate.symm
    rw [List.length_append] at hmany
    obtain ⟨rest, hrest⟩ := Nat.exists_eq_succ_of_ne_zero
      (n := (Frame.readAll most (waiting ++ repeated many)).frames.length) (by omega)
    rw [hrest] at hframes
    exact first_behind_waiting hwaiting hne hpos hframes

end Waiting

/-- **Octets that are left keep frames that are sent behind them from being read**: if all frames are
read however many follow, nothing is left. -/
theorem Legible.left_eq_nil {octets : Bytes} {more : List Sent} {many : Nat}
    (h : Legible most history octets) (hmore : Legible most (history ++ more) (octets ++ repeated many))
    (hframes : more.map Sent.frame = List.replicate many farewell)
    (hok : ∀ s ∈ more, s.isOk = true) (hmany : history.length < many) :
    (Frame.readAll most octets).left = [] := by
  obtain ⟨herror, kept, -, hkept, hread⟩ := h
  obtain ⟨hoctets, hreadable, hwaiting⟩ := @Frame.octets_of_readAll most octets
  obtain ⟨-, kept', hok', hkept', hread'⟩ := hmore
  obtain ⟨first, second, rfl, hfirst, hsecond⟩ := List.sublist_append_iff.mp hkept'
  -- There are as many successes among the frames read as among those sent, so all of `more` is read.
  have hall : second = more := by
    have hcount : history.countP Sent.isOk + more.countP Sent.isOk ≤
        first.countP Sent.isOk + second.countP Sent.isOk := by
      simpa [List.countP_filter, List.countP_append] using hok'.countP_le (p := Sent.isOk)
    have hbefore := hfirst.countP_le (p := Sent.isOk)
    have hbehind := List.countP_le_length (l := second) (p := Sent.isOk)
    have hevery := List.countP_eq_length.mpr hok
    have hlength := hsecond.length_le
    exact hsecond.eq_of_length (by omega)
  have hbefore : (Frame.readAll most octets).frames.length < many := by
    rw [hread, List.length_map]
    exact Nat.lt_of_le_of_lt hkept.length_le hmany
  have hboth : (Frame.readAll most (octets ++ repeated many)).frames =
      (Frame.readAll most octets).frames ++
        (Frame.readAll most ((Frame.readAll most octets).left ++ repeated many)).frames := by
    have happend := Frame.readAll_append hreadable ((Frame.readAll most octets).left ++ repeated many)
    rw [← List.append_assoc, ← hoctets] at happend
    exact congrArg Frame.Reading.frames happend
  rw [hboth, hall, List.map_append, hframes] at hread'
  exact Decidable.byContradiction fun hne => not_all_read (hwaiting herror) hne hbefore hread'

/-! ## 4. Sends on a device -/

/-- The octets on a device are legible, and stay so whatever frames are sent next, nothing failing any
more. -/
def StaysLegible (limit most : Nat) (history : List Sent) (d : Device) : Prop :=
  ∀ more : List Frame, (∀ f ∈ more, f.kind.isKnown = true) →
    Legible most (history ++ (d.restored.sendAll limit more).1)
      (d.restored.sendAll limit more).2.accepted

theorem known_of_sendAll {d : Device} {frames : List Frame}
    (hknown : ∀ f ∈ frames, f.kind.isKnown = true) :
    ∀ s ∈ (d.sendAll limit frames).1, s.frame.kind.isKnown = true := by
  obtain ⟨hframes, -, -⟩ := d.sent_of_sendAll limit frames
  intro s hs
  exact hknown s.frame (hframes ▸ List.mem_map_of_mem hs)

/-- **Octets stay legible exactly if they are so and nothing is left of them.** -/
theorem staysLegible_iff {d : Device} (hmost : limit ≤ most) :
    StaysLegible limit most history d ↔
      Legible most history d.accepted ∧ (Frame.readAll most d.accepted).left = [] := by
  constructor
  · intro h
    have hnow := h [] fun _ hf => absurd hf List.not_mem_nil
    rw [Device.sendAll, List.append_nil, Device.accepted_restored] at hnow
    refine ⟨hnow, ?_⟩
    have hknown : ∀ f ∈ List.replicate (history.length + 1) farewell, f.kind.isKnown = true := by
      intro f hf
      rw [List.eq_of_mem_replicate hf]
      rfl
    obtain ⟨hframes, hlawful, haccepted⟩ :=
      d.restored.sent_of_sendAll limit (List.replicate (history.length + 1) farewell)
    have hok : ∀ s ∈ (d.restored.sendAll limit (List.replicate (history.length + 1) farewell)).1,
        s.isOk = true := by
      intro s hs
      have hs' := List.mem_map_of_mem (f := Sent.frame) hs
      rw [hframes] at hs'
      refine d.sent_restored limit _ s hs ?_ ?_
      · rw [List.eq_of_mem_replicate hs']
        exact Nat.zero_le _
      · rw [List.eq_of_mem_replicate hs']
        exact Nat.zero_le _
    have hmore := h _ hknown
    rw [haccepted, flatMap_octets_of_settled hlawful fun s hs _ => hok s hs,
      List.filter_eq_self.mpr hok, hframes] at hmore
    exact hnow.left_eq_nil hmore hframes hok (Nat.lt_succ_self _)
  · rintro ⟨hlegible, hleft⟩ more hknown
    obtain ⟨-, hlawful, haccepted⟩ := d.restored.sent_of_sendAll limit more
    rw [haccepted]
    refine hlegible.append hleft hmost hlawful (known_of_sendAll hknown) ?_
    intro s hs hne
    obtain ⟨hlimit, hmax⟩ := (hlawful s hs).fits hne
    exact d.sent_restored limit more s hs hlimit hmax

/-- **What was sent is legible as long as nothing is behind a part of a frame, and it stays legible
exactly if no frame is torn**: behind a part of a frame the peer does not find the frames that are sent
next. -/
theorem legible_after_sends (hmost : limit ≤ most) (writes : List WriteStep)
    (flushes : List (Option Fault)) {frames : List Frame}
    (hknown : ∀ f ∈ frames, f.kind.isKnown = true) :
    let sent := (Device.mk writes flushes []).sendAll limit frames
    (Tidy sent.1 → Legible most sent.1 sent.2.accepted ∧
      (StaysLegible limit most sent.1 sent.2 ↔ ∀ s ∈ sent.1, ¬s.Torn)) ∧
    (StaysLegible limit most sent.1 sent.2 ↔
      Legible most sent.1 sent.2.accepted ∧ (Frame.readAll most sent.2.accepted).left = []) := by
  intro sent
  obtain ⟨-, hlawful, haccepted⟩ := (Device.mk writes flushes []).sent_of_sendAll limit frames
  refine ⟨?_, staysLegible_iff hmost⟩
  intro htidy
  obtain ⟨hlegible, hleft⟩ := htidy.readAll hmost hlawful (known_of_sendAll hknown)
  have hoctets : sent.2.accepted = sent.1.flatMap Sent.octets := haccepted
  rw [staysLegible_iff hmost, hoctets, hleft]
  exact ⟨hlegible, And.right, And.intro hlegible⟩

/-! ## 5. A frame that is torn -/

/-- A frame with one octet. -/
def letter (octet : UInt8) : Frame := ⟨FrameKind.message, [octet]⟩

/-- A device that takes four octets and then fails once. -/
def failsOnce : Device := { writes := [.accept 4, .fault ⟨.wouldBlock, "busy"⟩] }

theorem legible_after_torn_frame :
    Frame.defaultLimit ≤ Frame.defaultLimit ∧ (∀ f ∈ [letter 0x78], f.kind.isKnown = true) ∧
      Legible Frame.defaultLimit (failsOnce.sendAll Frame.defaultLimit [letter 0x78]).1
        (failsOnce.sendAll Frame.defaultLimit [letter 0x78]).2.accepted ∧
      ¬StaysLegible Frame.defaultLimit Frame.defaultLimit
        (failsOnce.sendAll Frame.defaultLimit [letter 0x78]).1
        (failsOnce.sendAll Frame.defaultLimit [letter 0x78]).2 := by
  have hknown : ∀ f ∈ [letter 0x78], f.kind.isKnown = true := by decide
  obtain ⟨htidy, -⟩ := legible_after_sends (Nat.le_refl Frame.defaultLimit)
    [.accept 4, .fault ⟨.wouldBlock, "busy"⟩] [] hknown
  obtain ⟨hlegible, hstays⟩ := htidy (List.pairwise_singleton _ _)
  refine ⟨Nat.le_refl _, hknown, hlegible, ?_⟩
  intro h
  refine hstays.mp h _ List.mem_cons_self ⟨?_, ?_⟩
  · decide +kernel
  · decide +kernel

/-- **A frame that is sent with success is not read**: it is behind a part of a frame, and the peer ends
with a fault. -/
theorem next_frame_is_lost :
    let sent := failsOnce.sendAll Frame.defaultLimit [letter 0x78, letter 0x79]
    sent.1.map Sent.isOk = [false, true] ∧
      (Frame.readAll Frame.defaultLimit sent.2.accepted).frames = [] ∧
      (Frame.readAll Frame.defaultLimit sent.2.accepted).error ≠ none ∧
      ¬Legible Frame.defaultLimit sent.1 sent.2.accepted := by
  intro sent
  have hdecode : Frame.decode Frame.defaultLimit sent.2.accepted =
      .error (.tooLarge 0x42530001 Frame.defaultLimit) := by rfl
  have hread := Frame.readAll_of_error hdecode
  refine ⟨by decide +kernel, by rw [hread], by rw [hread]; exact Option.some_ne_none _, ?_⟩
  rintro ⟨herror, -⟩
  rw [hread] at herror
  cases herror

end Readout

/-
# Reading channel files back

Acquisitions are made one after the other into the files of one folder, and each empties the files that it
writes, or appends to them.  What is read from a channel's file in the end is what was accepted for the channel
since the file was emptied last: the waveforms of chunks and answers, in order, whether their acquisition
succeeded or failed later.  An acquisition that accepts nothing empties nothing.

The octets of whole waveforms stand behind each other, so that reading commutes with appending
(`ChannelFile.read_appended`); `Filed` says what one acquisition leaves in files, and the history is an induction
over that.

* `acquire_filed` -- what an acquisition does to files, if no sink fails;
* `recordings_read_back` -- what is read in the end, after any recordings;
* `shared_file_reads_other` -- two channels with one file, of which one is not read back.
-/
import Mathlib.Data.List.Induction
import Readout.Proofs.ChannelPaths
import Readout.Proofs.Consumption
import Readout.Proofs.WholeFiles

namespace Readout

open Control

/-! ## 1. The waveforms of a channel -/

namespace Layout

/-- The waveforms of a channel in data of some waveforms, by the positions of their samples. -/
def channelWaveforms (l : Layout) (channel waveforms : Nat) (data : List UInt32) : List (List UInt16) :=
  (List.range waveforms).map fun w =>
    (List.range l.samples).map fun s => narrow (data.getD (l.index w channel s) 0)

theorem flatten_channelWaveforms (l : Layout) (channel waveforms : Nat) (data : List UInt32) :
    (l.channelWaveforms channel waveforms data).flatten = l.channelSamples channel waveforms data :=
  List.flatMap_def.symm

theorem length_channelWaveforms (l : Layout) (channel waveforms : Nat) (data : List UInt32) :
    (l.channelWaveforms channel waveforms data).length = waveforms := by
  simp [channelWaveforms]

theorem length_of_mem_channelWaveforms {l : Layout} {channel waveforms : Nat} {data : List UInt32}
    {waveform : List UInt16} (h : waveform ∈ l.channelWaveforms channel waveforms data) :
    waveform.length = l.samples := by
  obtain ⟨w, -, rfl⟩ := List.mem_map.mp h
  simp

/-- What distinct channels get, by channel. -/
theorem allSamples_eq_map {l : Layout} {channels : List UInt32} (hdistinct : channels.Nodup)
    (hlength : l.channels = channels.length) (waveforms : Nat) (data : List UInt32) :
    l.allSamples waveforms data =
      channels.map fun channel => l.channelSamples (channels.idxOf channel) waveforms data := by
  refine List.ext_getElem (by simp [hlength]) ?_
  intro i hi hi'
  simp only [allSamples, List.getElem_map, List.getElem_range]
  rw [hdistinct.idxOf_getElem]

end Layout

/-- How many waveforms there are in batches. -/
def waveformsInAll : List Batch → Nat
  | [] => 0
  | batch :: more => batch.1 + waveformsInAll more

/-- The waveforms of a channel in batches, for a request. -/
def AcquisitionRequest.waveformsOf (r : AcquisitionRequest) (batches : List Batch) (channel : UInt32) :
    List (List UInt16) :=
  if channel ∈ r.channels then
    batches.flatMap fun batch =>
      r.layout.channelWaveforms (r.channels.idxOf channel) batch.1 batch.2
  else []

namespace AcquisitionRequest

variable {r : AcquisitionRequest} {batches : List Batch} {channel : UInt32}

theorem waveformsOf_snoc (h : channel ∈ r.channels) (batch : Batch) :
    (r.waveformsOf (batches ++ [batch]) channel).flatten =
      (r.waveformsOf batches channel).flatten ++
        r.layout.channelSamples (r.channels.idxOf channel) batch.1 batch.2 := by
  simp [waveformsOf, h, Layout.flatten_channelWaveforms]

theorem length_of_mem_waveformsOf {waveform : List UInt16} (h : waveform ∈ r.waveformsOf batches channel) :
    waveform.length = r.samples.toNat := by
  unfold waveformsOf at h
  split at h
  · obtain ⟨batch, -, hmem⟩ := List.mem_flatMap.mp h
    exact Layout.length_of_mem_channelWaveforms hmem
  · cases h

/-- A channel that was asked for gets all waveforms. -/
theorem length_waveformsOf (h : channel ∈ r.channels) :
    (r.waveformsOf batches channel).length = waveformsInAll batches := by
  unfold waveformsOf
  rw [if_pos h]
  induction batches with
  | nil => rfl
  | cons batch more ih =>
    rw [List.flatMap_cons, List.length_append, ih, Layout.length_channelWaveforms, waveformsInAll]

theorem length_flatten_waveformsOf (h : channel ∈ r.channels) :
    (r.waveformsOf batches channel).flatten.length =
      r.samples.toNat * waveformsInAll batches := by
  rw [length_flatten_of_width fun _ hmem => length_of_mem_waveformsOf hmem, length_waveformsOf h]

end AcquisitionRequest

/-! ## 2. Batches in the sinks -/

namespace FileSinks

/-- What becomes of freshly opened sinks and their folder with batches: each sink has got its channel's
waveforms, and the files are there from the first batch on. -/
structure HaveTaken (f : FileSinks) (r : AcquisitionRequest) (all : List UInt32)
    (before world : Folder) (batches : List Batch) (state : Reassembly FileSink × Folder) : Prop where
  channels : state.1.channels = r.channels
  layout : state.1.layout = r.layout
  got : f.HaveGot all before world state.2
    (fun channel => (r.waveformsOf batches channel).flatten) r.channels state.1.sinks
  fresh : batches = [] → state.2 = before ∧ ∀ sink ∈ state.1.sinks, sink.file = none
  there : batches ≠ [] → ∀ sink ∈ state.1.sinks, sink.file ≠ none
  confined : f.Confined world r.channels before state.2

variable {f : FileSinks} {r : AcquisitionRequest} {all : List UInt32} {before world : Folder}
  {batches : List Batch} {state : Reassembly FileSink × Folder}

theorem haveTaken_nil (f : FileSinks) (r : AcquisitionRequest) (all : List UInt32)
    (before world : Folder) : f.HaveTaken r all before world [] (f.factory.opened r before) := by
  have hsinks : f.factory.opened r before =
      (.start r.channels r.samples.toNat (r.channels.map f.openSink), before) := by
    obtain ⟨-, hopened, hworld⟩ := openEach_files f r.channels ⟨before, []⟩
    rw [SinkFactory.opened, ← Reassembly.untraced_openEach f.factory r.channels ⟨before, []⟩, untraced,
      hopened, hworld]
  rw [hsinks]
  refine ⟨rfl, rfl, ?_, ?_, fun hne => absurd rfl hne, .refl ..⟩
  · refine HaveGot.of_eq (haveGot_opened f all before world r.channels) ?_
    intro channel hchannel
    simp [AcquisitionRequest.waveformsOf]
  · refine fun _ => ⟨rfl, ?_⟩
    intro sink hsink
    obtain ⟨channel, -, rfl⟩ := List.mem_map.mp hsink
    rfl

theorem grows_append {batch : Batch}
    (hnone : (state.1.append batch.1 batch.2 state.2).1 = none) :
    state.2.Grows (state.1.append batch.1 batch.2 state.2).2.2 :=
  grows_writeEach (Reassembly.writeEach_of_append_eq_none hnone)

/-- One more batch. -/
theorem HaveTaken.append (h : f.HaveTaken r all before world batches state)
    (hmem : ∀ channel ∈ r.channels, channel ∈ all) {batch : Batch}
    (hnone : (state.1.append batch.1 batch.2 state.2).1 = none)
    (hgrows : (state.1.append batch.1 batch.2 state.2).2.2.Grows world) :
    f.HaveTaken r all before world (batches ++ [batch])
      (state.1.append batch.1 batch.2 state.2).2 := by
  obtain ⟨hchannels, hlayout, -⟩ := state.1.append_frame batch.1 batch.2 state.2
  have hwrite := Reassembly.writeEach_of_append_eq_none hnone
  rw [h.channels, h.layout,
    Layout.allSamples_eq_map r.acceptable.distinct rfl] at hwrite
  obtain ⟨hgot, hthere, hconfined⟩ := h.got.writeEach r.acceptable.distinct hmem hgrows hwrite
  refine ⟨hchannels.trans h.channels, hlayout.trans h.layout, ?_, ?_, fun _ => hthere,
    h.confined.again hconfined⟩
  · refine HaveGot.of_eq hgot ?_
    exact fun channel hchannel => (AcquisitionRequest.waveformsOf_snoc hchannel batch).symm
  · exact fun hnil => absurd hnil (List.append_ne_nil_of_right_ne_nil _ (List.cons_ne_nil _ _))

/-- **All batches that the sinks take.** -/
theorem haveTaken_appendEach (hmem : ∀ channel ∈ r.channels, channel ∈ all)
    (htakes : Reassembly.Takes batches (f.factory.opened r before))
    (hgrows : (Reassembly.appendEach batches (f.factory.opened r before)).2.Grows world) :
    f.HaveTaken r all before world batches
      (Reassembly.appendEach batches (f.factory.opened r before)) := by
  induction batches using List.reverseRecOn with
  | nil => exact haveTaken_nil f r all before world
  | append_singleton batches batch ih =>
    obtain ⟨hearlier, hnone⟩ := Reassembly.takes_snoc_iff.mp htakes
    rw [Reassembly.appendEach, List.foldl_append] at hgrows ⊢
    exact (ih hearlier ((grows_append hnone).trans hgrows)).append hmem hnone hgrows

end FileSinks

/-! ## 3. One acquisition -/

/-- The batches that an acquisition accepts before it is over. -/
def acceptedBy (c : AcquisitionConfig) (r : AcquisitionRequest) (label : String) (s : Surroundings)
    (receives : Nat) : List Batch :=
  batchesIn c r label (Arrival.messages (s.arrivals.take receives))

/-- No operation of a sink failed in a run that is over. -/
def Run.isSound {S ω : Type} (run : Run S ω) : Bool :=
  match run.outcome with
  | none | some (.error (.sink _ _)) => false
  | _ => true

/-- What a run has done to files: the sinks have counted what was accepted, and the files of its channels have
it, behind what they keep. -/
structure Filed (f : FileSinks) (r : AcquisitionRequest) (all : List UInt32)
    (before world : Folder) (batches : List Batch) (run : Run FileSink Folder) : Prop where
  counts : ∀ sink ∈ run.sinks, sink.2.samples = r.samples.toNat * waveformsInAll batches
  fresh : batches = [] → run.world = before
  there : batches ≠ [] → ∀ channel ∈ r.channels, ∃ p, f.LeadsTo run.world channel p
  own : batches ≠ [] → ∀ channel ∈ r.channels, ∀ p, f.Owns all world channel p →
    run.world.file? p = some (before.opened f.append p ++
      FileSink.sampleOctets (r.waveformsOf batches channel).flatten)
  confined : f.Confined world r.channels before run.world

section

variable {f : FileSinks} {c : AcquisitionConfig} {r : AcquisitionRequest} {label : String}
  {s : Surroundings} {all : List UInt32} {before world : Folder}

theorem Run.isSound_iff {S ω : Type} {run : Run S ω} :
    run.isSound = true ↔ run.outcome ≠ none ∧
      ∀ channel fault, run.outcome ≠ some (.error (.sink channel fault)) := by
  unfold isSound
  split
  · rename_i hnone
    simp [hnone]
  · rename_i channel fault houtcome
    refine iff_of_false Bool.false_ne_true ?_
    exact fun h => h.2 channel fault houtcome
  · rename_i hsome hsink
    exact iff_of_true rfl ⟨hsome, hsink⟩

/-- A run in which nothing was accepted and no sink was opened. -/
theorem filed_of_nothing (outcome : Option (Except AcquireError Summary)) (left : List Arrival) :
    Filed f r all before world [] (.of outcome [] ⟨before, []⟩ 0 left) := by
  refine ⟨?_, fun _ => rfl, fun hne => absurd rfl hne, fun hne => absurd rfl hne, .refl ..⟩
  intro sink hsink
  cases hsink

/-- The world only grows when an exchange is concluded. -/
theorem Exchanged.grows_conclude {e : Exchanged FileSink Folder}
    {outcome : Except AcquireError Summary} (houtcome : e.outcome = some outcome) :
    e.underway.bare.2.Grows e.conclude.world := by
  have hfinished := (Exchanged.conclude_finished houtcome rfl).2
  have hgrows := FileSinks.grows_finishEach e.underway.reassembly.channels e.underway.bare.1.sinks
    e.underway.bare.2
  rw [← hfinished] at hgrows
  exact hgrows

/-- An exchange whose sinks took all that was accepted, and are finished. -/
theorem FileSinks.HaveTaken.filed {batches : List Batch} {e : Exchanged FileSink Folder}
    {outcome : Except AcquireError Summary}
    (h : f.HaveTaken r all before world batches e.underway.bare)
    (houtcome : e.outcome = some outcome) (hmem : ∀ channel ∈ r.channels, channel ∈ all)
    (hgrows : e.conclude.world.Grows world) :
    Filed f r all before world batches e.conclude := by
  have hfinished := (Exchanged.conclude_finished houtcome h.channels).2
  generalize hfinish : Reassembly.finishEach r.channels e.underway.bare.1.sinks e.underway.bare.2 =
    finished at hfinished
  obtain ⟨failure, after, g⟩ := finished
  obtain ⟨hsinks, hworld⟩ := Prod.mk.inj hfinished
  rw [hworld] at hgrows
  have hfilled := h.got.finishEach r.acceptable.distinct hmem hgrows hfinish
  refine ⟨?_, ?_, ?_, ?_, ?_⟩
  · intro sink hsink
    obtain ⟨channel, hchannel, hcount⟩ := hfilled.counts sink.2 (by
      rw [← hsinks]
      exact List.mem_map_of_mem hsink)
    rw [hcount, AcquisitionRequest.length_flatten_waveformsOf hchannel]
  · intro hnil
    obtain ⟨hsame, hnone⟩ := h.fresh hnil
    have hidle : ∀ sink ∈ e.underway.bare.1.sinks, sink.Idle := by
      intro sink hsink file hfile
      cases (hnone sink hsink).symm.trans hfile
    have hleft : (Reassembly.finishEach r.channels _ _).2.2 = _ :=
      Reassembly.finishEach_of_idle e.underway.bare.2 hidle
    rw [hfinish] at hleft
    rw [hworld, ← hsame]
    exact hleft
  · intro hne channel hchannel
    rw [hworld]
    exact (hfilled.holds (h.there hne) channel hchannel).1
  · intro hne channel hchannel
    rw [hworld]
    exact (hfilled.holds (h.there hne) channel hchannel).2
  · rw [hworld]
    exact h.confined.again hfilled.confined

/-- **What an acquisition does to files**, if no sink fails. -/
theorem acquire_filed (hmem : ∀ channel ∈ r.channels, channel ∈ all) :
    let run := acquire c r label s f.factory before
    run.isSound = true → run.world.Grows world →
      Filed f r all before world (acceptedBy c r label s run.receives) run := by
  intro run hsound hgrows
  have hrun : run = _ := acquire_eq c r label s f.factory before
  obtain ⟨hover, hsink⟩ := Run.isSound_iff.mp hsound
  rw [hrun] at hover hsink hgrows ⊢
  cases hbegin : Beginning.of c r s f.factory before with
  | refused e =>
    have hnone : acceptedBy c r label s 0 = [] := batchesIn_nil c r label
    simp only [Run.of, hnone]
    exact filed_of_nothing _ _
  | unopened channel fault sinks w =>
    rw [hbegin] at hsink
    exact absurd rfl (hsink channel fault)
  | opened u =>
    simp only [hbegin] at hover hsink hgrows ⊢
    obtain ⟨-, -, hlayout⟩ := Beginning.regular_opened hbegin
    have hnone : u.reassembly.waveforms = 0 := Beginning.waveforms_opened hbegin
    obtain ⟨outcome, houtcome⟩ := Option.ne_none_iff_exists'.mp
      (Exchanged.outcome_conclude_eq_none_iff.not.mp hover)
    have htakes := exchange_takes (c := c) (s := s) label hlayout hnone fun channel fault hfault =>
      hsink channel fault (Exchanged.outcome_conclude_of_error hfault)
    have hkept := exchange_kept (c := c) (s := s) label hlayout hnone
    rw [Beginning.bare_opened hbegin] at htakes hkept
    have hlater := (Exchanged.grows_conclude houtcome).trans hgrows
    rw [hkept] at hlater
    have htaken := FileSinks.haveTaken_appendEach hmem htakes hlater
    rw [Surroundings.kept] at hkept
    rw [← hkept] at htaken
    rw [Exchanged.receives_conclude]
    exact htaken.filed houtcome hmem hgrows

end

/-! ## 4. Reading files back -/

namespace ChannelFile

/-- A file of whole waveforms can be read. -/
theorem read_eq_ok {folder : Folder} {path : String} {p : Place} {content : Bytes} {samples : UInt32}
    (h : samples ≠ 0) (hfind : folder.find path = .ok (p, .file content))
    (hwhole : samples.toNat * 2 ∣ content.length) :
    read folder path samples.toNat = .ok (waveforms samples.toNat content) := by
  have hsome : samples.toNat ≠ 0 := fun hzero => h (UInt32.toNat_inj.mp hzero)
  have hread : folder.read path = .ok content := by
    rw [Folder.read, hfind]
    rfl
  have hcountable : samples.toNat < uncountableFrom := by
    have hlt := samples.toNat_lt
    unfold uncountableFrom
    omega
  rw [read_of_countable hread hsome hcountable, if_pos hwhole]

/-- **What is appended to whole waveforms is read behind them.** -/
theorem read_appended {folder : Folder} {path : String} {p : Place} {content : Bytes} {samples : UInt32}
    {more : List (List UInt16)} (h : samples ≠ 0)
    (hfind : folder.find path = .ok (p, .file (content ++ FileSink.sampleOctets more.flatten)))
    (hwhole : samples.toNat * 2 ∣ content.length)
    (hmore : ∀ waveform ∈ more, waveform.length = samples.toNat) :
    read folder path samples.toNat = .ok (waveforms samples.toNat content ++ more) := by
  have hsome : samples.toNat ≠ 0 := fun hzero => h (UInt32.toNat_inj.mp hzero)
  rw [read_eq_ok h hfind ?_, waveforms_append hsome hwhole hmore]
  rw [List.length_append, FileSink.length_sampleOctets, length_flatten_of_width hmore, Nat.mul_right_comm]
  exact Nat.dvd_add hwhole (Nat.dvd_mul_right ..)

end ChannelFile

/-! ## 5. Recordings, one after the other -/

/-- An acquisition into channel files, and what it meets. -/
structure Recording where
  config : AcquisitionConfig
  request : AcquisitionRequest
  label : String
  surroundings : Surroundings
  /-- Whether files that are there are appended to. -/
  append : Bool

/-- A recording that was made, and what it came to. -/
structure Made where
  recording : Recording
  run : Run FileSink Folder

/-- Makes a recording. -/
def Recording.make (x : Recording) (f : FileSinks) (folder : Folder) : Run FileSink Folder :=
  acquire x.config x.request x.label x.surroundings { f with append := x.append }.factory folder

/-- Makes recordings one after the other, and gives them with the folder at last. -/
def makeEach (f : FileSinks) : List Recording → Folder → List Made × Folder
  | [], folder => ([], folder)
  | x :: more, folder =>
    let run := x.make f folder
    let (made, final) := makeEach f more run.world
    (⟨x, run⟩ :: made, final)

theorem makeEach_cons (f : FileSinks) (x : Recording) (more : List Recording) (folder : Folder) :
    makeEach f (x :: more) folder =
      (⟨x, x.make f folder⟩ :: (makeEach f more (x.make f folder).world).1,
        (makeEach f more (x.make f folder).world).2) := rfl

namespace Made

/-- The batches that were accepted. -/
def accepted (m : Made) : List Batch :=
  acceptedBy m.recording.config m.recording.request m.recording.label m.recording.surroundings
    m.run.receives

/-- The waveforms of a channel that were accepted. -/
def waveforms (m : Made) (channel : UInt32) : List (List UInt16) :=
  m.recording.request.waveformsOf m.accepted channel

/-- The channel was asked for, and something was accepted. -/
def Records (m : Made) (channel : UInt32) : Prop :=
  channel ∈ m.recording.request.channels ∧ m.accepted ≠ []

/-- The file of the channel was emptied first. -/
def Empties (m : Made) (channel : UInt32) : Prop :=
  m.Records channel ∧ m.recording.append = false

instance (m : Made) (channel : UInt32) : Decidable (m.Records channel) :=
  inferInstanceAs (Decidable (_ ∧ _))

instance (m : Made) (channel : UInt32) : Decidable (m.Empties channel) :=
  inferInstanceAs (Decidable (_ ∧ _))

theorem waveforms_of_not_records {m : Made} {channel : UInt32} (h : ¬m.Records channel) :
    m.waveforms channel = [] := by
  unfold waveforms AcquisitionRequest.waveformsOf
  split
  · rename_i hmem
    rw [Decidable.not_not.mp fun hne => h ⟨hmem, hne⟩]
    rfl
  · rfl

/-- The octets of all waveforms of a channel in recordings. -/
def octets (made : List Made) (channel : UInt32) : Bytes :=
  FileSink.sampleOctets (made.flatMap fun m => m.waveforms channel).flatten

theorem octets_cons (m : Made) (made : List Made) (channel : UInt32) :
    octets (m :: made) channel =
      FileSink.sampleOctets (m.waveforms channel).flatten ++ octets made channel := by
  rw [octets, List.flatMap_cons, List.flatten_append, FileSink.sampleOctets_append]
  rfl

/-- What a recording leaves in a channel's file, of which it may find nothing. -/
def leaves (channel : UInt32) (found : Option Bytes) (m : Made) : Option Bytes :=
  if m.Records channel then
    some ((if m.recording.append then found.getD [] else []) ++
      FileSink.sampleOctets (m.waveforms channel).flatten)
  else found

/-- Recordings that do not empty the file append to it. -/
theorem foldl_leaves_of_kept {made : List Made} {channel : UInt32} (found : Option Bytes)
    (hkept : ∀ m ∈ made, ¬m.Empties channel) :
    (made.foldl (leaves channel) found).getD [] = found.getD [] ++ octets made channel := by
  induction made generalizing found with
  | nil => exact (List.append_nil _).symm
  | cons m made ih =>
    obtain ⟨hkeeps, hkept⟩ := List.forall_mem_cons.mp hkept
    rw [List.foldl_cons, ih _ hkept, octets_cons, ← List.append_assoc]
    refine congrArg (· ++ _) ?_
    unfold leaves
    split
    · rename_i hrecords
      have happend : m.recording.append = true :=
        Bool.of_not_eq_false fun hempties => hkeeps ⟨hrecords, hempties⟩
      rw [Option.getD_some, if_pos happend]
    · rename_i hnot
      rw [waveforms_of_not_records hnot]
      exact (List.append_nil _).symm

/-- Nothing is left of what was there before a recording that empties the file. -/
theorem foldl_leaves_of_emptied {earlier later : List Made} {last : Made} {channel : UInt32}
    (found : Option Bytes) (hlast : last.Empties channel) (hkept : ∀ m ∈ later, ¬m.Empties channel) :
    ((earlier ++ last :: later).foldl (leaves channel) found).getD [] =
      octets (last :: later) channel := by
  have happend : ¬last.recording.append = true := Bool.eq_false_iff.mp hlast.2
  rw [List.foldl_append, List.foldl_cons, foldl_leaves_of_kept _ hkept, octets_cons, leaves,
    if_pos hlast.1, if_neg happend, List.nil_append, Option.getD_some]

/-- Recordings in which nothing is accepted for the channel leave its file as it is. -/
theorem foldl_leaves_of_unrecorded {made : List Made} {channel : UInt32} (found : Option Bytes)
    (hnone : ∀ m ∈ made, ¬m.Records channel) : made.foldl (leaves channel) found = found := by
  induction made with
  | nil => rfl
  | cons m made ih =>
    obtain ⟨hnot, hnone⟩ := List.forall_mem_cons.mp hnone
    rw [List.foldl_cons, leaves, if_neg hnot, ih hnone]

end Made

/-- The channels that recordings ask for. -/
def requested (history : List Recording) : List UInt32 :=
  history.flatMap fun x => x.request.channels

section

variable {f : FileSinks} {history : List Recording} {folder world : Folder} {all : List UInt32}
  {channel : UInt32} {p : Place}

/-- One recording. -/
theorem Recording.filed {x : Recording} (hmem : ∀ channel ∈ x.request.channels, channel ∈ all)
    (hsound : (x.make f folder).isSound = true) (hgrows : (x.make f folder).world.Grows world) :
    Filed { f with append := x.append } x.request all folder world
      (Made.accepted ⟨x, x.make f folder⟩) (x.make f folder) :=
  acquire_filed hmem hsound hgrows

/-- The folder only grows while recordings are made. -/
theorem grows_makeEach (hsound : ∀ m ∈ (makeEach f history folder).1, m.run.isSound = true) :
    folder.Grows (makeEach f history folder).2 := by
  induction history generalizing folder with
  | nil => exact .refl folder
  | cons x more ih =>
    rw [makeEach_cons] at hsound ⊢
    have hfirst : (x.make f folder).isSound = true := hsound _ List.mem_cons_self
    have hfiled := x.filed (fun _ h => h) hfirst (.refl _)
    exact hfiled.confined.grows.trans (ih fun m hm => hsound m (List.mem_cons_of_mem _ hm))

/-- **What one recording does to a channel's own file.** -/
theorem Recording.file?_make {x : Recording} (hmem : ∀ channel ∈ x.request.channels, channel ∈ all)
    (hsound : (x.make f folder).isSound = true) (hgrows : (x.make f folder).world.Grows world)
    (howns : f.Owns all world channel p) :
    (x.make f folder).world.file? p =
      Made.leaves channel (folder.file? p) ⟨x, x.make f folder⟩ := by
  have hfiled := x.filed hmem hsound hgrows
  have howns' : { f with append := x.append }.Owns all world channel p := ⟨howns.leads, howns.alone⟩
  unfold Made.leaves
  split
  · rename_i hrecords
    exact hfiled.own hrecords.2 channel hrecords.1 p howns'
  · rename_i hnot
    by_cases hnone : Made.accepted ⟨x, x.make f folder⟩ = []
    · exact congrArg (Folder.file? · p) (hfiled.fresh hnone)
    · exact hfiled.confined.owned howns' hmem fun hmem => hnot ⟨hmem, hnone⟩

/-- **What recordings do to a channel's own file**: one after the other, what each of them does. -/
theorem file?_makeEach (hmem : ∀ x ∈ history, ∀ channel ∈ x.request.channels, channel ∈ all)
    (hsound : ∀ m ∈ (makeEach f history folder).1, m.run.isSound = true)
    (hgrows : (makeEach f history folder).2.Grows world) (howns : f.Owns all world channel p) :
    (makeEach f history folder).2.file? p =
      (makeEach f history folder).1.foldl (Made.leaves channel) (folder.file? p) := by
  induction history generalizing folder with
  | nil => rfl
  | cons x more ih =>
    rw [makeEach_cons] at hsound hgrows ⊢
    have hfirst : (x.make f folder).isSound = true := hsound _ List.mem_cons_self
    have hrest := fun m hm => hsound m (List.mem_cons_of_mem _ hm)
    have hlater := (grows_makeEach hrest).trans hgrows
    rw [ih (fun y hy => hmem y (List.mem_cons_of_mem _ hy)) hrest hgrows,
      Recording.file?_make (hmem x List.mem_cons_self) hfirst hlater howns]
    rfl

/-- Each recording was made in some folder, and what came of it is part of the folder at last. -/
theorem filed_of_mem_makeEach (hsound : ∀ m ∈ (makeEach f history folder).1, m.run.isSound = true)
    {m : Made} (hm : m ∈ (makeEach f history folder).1) :
    m.recording ∈ history ∧ m.run.world.Grows (makeEach f history folder).2 ∧
      ∃ before, Filed { f with append := m.recording.append } m.recording.request
        m.recording.request.channels before m.run.world m.accepted m.run := by
  induction history generalizing folder with
  | nil => cases hm
  | cons x more ih =>
    rw [makeEach_cons] at hsound hm ⊢
    have hfirst : (x.make f folder).isSound = true := hsound _ List.mem_cons_self
    have hrest := fun m hm => hsound m (List.mem_cons_of_mem _ hm)
    rcases List.mem_cons.mp hm with rfl | hm
    · exact ⟨List.mem_cons_self, grows_makeEach hrest, folder,
        x.filed (fun _ h => h) hfirst (.refl _)⟩
    · obtain ⟨hmem, hgrows, hfiled⟩ := ih hrest hm
      exact ⟨List.mem_cons_of_mem _ hmem, hgrows, hfiled⟩

/-! ## 6. Reading back -/

/-- **What is read from a channel's file at a place** after recordings, when it was in some folder before. -/
structure ReadsBack (f : FileSinks) (samples : UInt32) (channel : UInt32) (folder : Folder)
    (made : List Made) (final : Folder) (p : Place) : Prop where
  /-- What was accepted since the last recording that emptied the file, and in that one. -/
  emptied : ∀ earlier last later, made = earlier ++ last :: later → last.Empties channel →
    (∀ m ∈ later, ¬m.Empties channel) →
    ChannelFile.read final (f.pathFor channel) samples.toNat =
      .ok ((last :: later).flatMap fun m => m.waveforms channel)
  /-- If none did, everything that was accepted, behind what the file held before. -/
  kept : (∀ m ∈ made, ¬m.Empties channel) →
    samples.toNat * 2 ∣ ((folder.file? p).getD []).length →
    ChannelFile.read final (f.pathFor channel) samples.toNat =
      .ok (ChannelFile.waveforms samples.toNat ((folder.file? p).getD []) ++
        made.flatMap fun m => m.waveforms channel)
  /-- If nothing was recorded, there is no file that was not there before. -/
  untouched : (∀ m ∈ made, ¬m.Records channel) → final.file? p = folder.file? p

/-- The waveforms of recordings have the width that was asked for. -/
theorem length_of_mem_waveforms {samples : UInt32} (hall : ∀ x ∈ history, x.request.samples = samples)
    (hsound : ∀ m ∈ (makeEach f history folder).1, m.run.isSound = true) {made : List Made}
    (hmade : ∀ m ∈ made, m ∈ (makeEach f history folder).1) :
    ∀ waveform ∈ made.flatMap fun m => m.waveforms channel, waveform.length = samples.toNat := by
  intro waveform hwaveform
  obtain ⟨m, hm, hwaveform⟩ := List.mem_flatMap.mp hwaveform
  obtain ⟨hrecording, -⟩ := filed_of_mem_makeEach hsound (hmade m hm)
  rw [AcquisitionRequest.length_of_mem_waveformsOf hwaveform, hall m.recording hrecording]

/-- **A channel's own file reads back** after recordings. -/
theorem readsBack_of_owns {samples : UInt32} (hsamples : samples ≠ 0)
    (hall : ∀ x ∈ history, x.request.samples = samples)
    (hsound : ∀ m ∈ (makeEach f history folder).1, m.run.isSound = true)
    (howns : f.Owns (requested history) (makeEach f history folder).2 channel p) :
    ReadsBack f samples channel folder (makeEach f history folder).1 (makeEach f history folder).2
      p := by
  have hmem : ∀ x ∈ history, ∀ channel ∈ x.request.channels, channel ∈ requested history :=
    fun x hx channel hchannel => List.mem_flatMap.mpr ⟨x, hx, hchannel⟩
  have hleft := file?_makeEach hmem hsound (.refl _) howns
  obtain ⟨content, hfind⟩ := howns.leads
  obtain ⟨-, -, -, -, -, hfound⟩ := Folder.find_eq_file_iff.mp hfind
  have hcontent := congrArg (Option.getD · []) (hleft.symm.trans (Folder.file?_eq_some_iff.mpr hfound))
  simp only [Option.getD_some] at hcontent
  refine ⟨?_, ?_, fun hnone => hleft.trans (Made.foldl_leaves_of_unrecorded _ hnone)⟩
  · intro earlier last later hmade hlast hkept
    rw [hmade, Made.foldl_leaves_of_emptied _ hlast hkept] at hcontent
    rw [← hcontent, ← List.nil_append (Made.octets _ _)] at hfind
    have hmembers : ∀ m ∈ last :: later, m ∈ (makeEach f history folder).1 := by
      intro m hm
      rw [hmade]
      exact List.mem_append_right _ hm
    have hread := ChannelFile.read_appended hsamples hfind (Nat.dvd_zero _)
      (length_of_mem_waveforms hall hsound hmembers)
    rwa [ChannelFile.waveforms_nil, List.nil_append] at hread
  · intro hkept hwhole
    rw [← hcontent, Made.foldl_leaves_of_kept _ hkept] at hfind
    exact ChannelFile.read_appended hsamples hfind hwhole
      (length_of_mem_waveforms hall hsound fun _ hm => hm)

end

/-- **Channel files read back as what was accepted.**  Whatever recordings are made one after the other, if no
sink fails, each sink counts the samples that were accepted, and a channel's file holds the waveforms of its
channel, from the last recording on that emptied it or else behind what it held.  The file has to be the
channel's own, and is if the extension has no slash in it. -/
theorem recordings_read_back (f : FileSinks) (history : List Recording) (folder : Folder)
    {samples : UInt32} (hsamples : samples ≠ 0)
    (hall : ∀ x ∈ history, x.request.samples = samples)
    (hsound : ∀ m ∈ (makeEach f history folder).1, m.run.isSound = true) :
    let made := (makeEach f history folder).1
    let final := (makeEach f history folder).2
    (∀ m ∈ made, ∀ sink ∈ m.run.sinks,
        sink.2.samples = samples.toNat * waveformsInAll m.accepted) ∧
      ∀ channel,
        (∀ p, f.LeadsTo folder channel p → f.LeadsTo final channel p) ∧
        ((∃ m ∈ made, m.Records channel) → ∃ p, f.LeadsTo final channel p) ∧
        ('/' ∉ f.extension.toList → ∀ p, f.LeadsTo final channel p →
          f.Owns (requested history) final channel p) ∧
        ∀ p, f.Owns (requested history) final channel p →
          ReadsBack f samples channel folder made final p := by
  intro made final
  constructor
  · intro m hm sink hsink
    obtain ⟨hrecording, -, before, hfiled⟩ := filed_of_mem_makeEach hsound hm
    rw [hfiled.counts sink hsink, hall m.recording hrecording]
  · intro channel
    refine ⟨fun p hleads => hleads.later (grows_makeEach hsound), ?_,
      fun hplain p hleads => FileSinks.owns_of_plain hplain _ hleads,
      fun p howns => readsBack_of_owns hsamples hall hsound howns⟩
    rintro ⟨m, hm, hchannel, haccepted⟩
    obtain ⟨-, hgrows, before, hfiled⟩ := filed_of_mem_makeEach hsound hm
    obtain ⟨p, hleads⟩ := hfiled.there haccepted channel hchannel
    exact ⟨p, FileSinks.LeadsTo.later (f := f) hleads hgrows⟩

/-- A recording that gets a chunk for channels 0 and 1, and then nothing more. -/
def Recording.ofChunk (chunk : ChunkReply) (append : Bool) : Recording where
  config := {}
  request := firstTwo
  label := "a"
  surroundings := chunkThenGone chunk
  append := append

/-- A recording that appends, one that gets no chunk of its own, and one that empties the files; none of them
succeeds, as the device is gone behind the chunk. -/
def threeRecordings : List Recording :=
  [.ofChunk (pairChunk "a" 1 [2, 3] false) true, .ofChunk (pairChunk "b" 1 [9, 9] false) false,
    .ofChunk (pairChunk "a" 1 [4, 65541] false) false]

/-- With the last recording, channel 0 starts anew; without it, it keeps what was there. -/
theorem recordings_read_back_three :
    let three := makeEach (runFiles true) threeRecordings earlierRun
    let two := makeEach (runFiles true) (threeRecordings.take 2) earlierRun
    ChannelFile.read three.2 ((runFiles true).pathFor 0) 1 = .ok [[4]] ∧
      ChannelFile.read two.2 ((runFiles true).pathFor 0) 1 = .ok [[1], [2]] := by
  intro three two
  have hsome : (1 : UInt32) ≠ 0 := by decide
  have hbefore : (runFiles true).LeadsTo earlierRun 0 ["runs", "channel_0.dat"] :=
    ⟨[1, 0], by decide +kernel⟩
  have hplain : '/' ∉ (runFiles true).extension.toList := by decide
  constructor
  · obtain ⟨hkeeps, -, hown, hback⟩ := (recordings_read_back (runFiles true) threeRecordings
      earlierRun hsome (by decide +kernel) (by decide +kernel)).2 0
    have hreads := hback _ (hown hplain _ (hkeeps _ hbefore))
    refine (hreads.emptied (three.1.take 2) three.1[2] [] rfl ?_ ?_).trans (congrArg _ ?_)
    · decide +kernel
    · intro m hm
      cases hm
    · decide +kernel
  · obtain ⟨hkeeps, -, hown, hback⟩ := (recordings_read_back (runFiles true) (threeRecordings.take 2)
      earlierRun hsome (by decide +kernel) (by decide +kernel)).2 0
    have hreads := hback _ (hown hplain _ (hkeeps _ hbefore))
    refine (hreads.kept (by decide +kernel) (by decide +kernel)).trans (congrArg _ ?_)
    decide +kernel

/-- Channel files whose extension leads away from their names. -/
def sharing : FileSinks := { folder := "out", extension := "d/../x" }

/-- **Two channels can have one file**, which has what was accepted for the second; and no file can be read as
waveforms without samples. -/
theorem shared_file_reads_other :
    let done := makeEach sharing [.ofChunk (pairChunk "a" 1 [1, 2] true) false] {}
    (∀ m ∈ done.1, m.run.isSound = true ∧ m.Empties 0 ∧ m.waveforms 0 = [[1]]) ∧
      (ChannelFile.read done.2 (sharing.pathFor 0) 1).toOption = some [[2]] ∧
      (ChannelFile.read ⟨[(["channel_0.dat"], .file [])]⟩ "channel_0.dat" 0).toOption = none := by
  decide +kernel

end Readout

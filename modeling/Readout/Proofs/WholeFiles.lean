/-
# Files of whole waveforms

A channel file is read as waveforms of a number of samples that is said by whoever reads it, not by the file.
Reading takes exactly the files that hold a whole number of such waveforms: what it gives are the waveforms
whose octets, back to back, are the file, and any other file is not valid data.

The number is any that a word can hold, and the octets of one waveform are twice as many.  So the law has an
end: from `uncountableFrom` samples on these octets cannot be counted, and reading ends in a mistake that
nothing recovers from, whatever the file holds.

* `Holds` -- waveforms of one length whose octets are the file; `holds_iff` says that there is at most one such
  list of waveforms, and when there is one;
* `read_of_countable`, `read_of_uncountable` -- what reading comes to, on both sides of the limit;
* `reads_whole_iff` -- the law, exactly where it holds, and how an inspection ends.
-/
import Readout.Cli.Run
import Readout.Proofs.Positions

namespace Readout

/-! ## 1. Octets of samples -/

namespace FileSink

theorem length_sampleOctets (samples : List UInt16) :
    (sampleOctets samples).length = samples.length * 2 := by
  rw [sampleOctets, List.length_flatMap]
  simp only [Bytes.length_littleEndian, List.map_const', List.sum_replicate_nat]

/-- The octets of joined samples are those of each, joined. -/
theorem sampleOctets_flatten (waveforms : List (List UInt16)) :
    sampleOctets waveforms.flatten = waveforms.flatMap sampleOctets := by
  rw [sampleOctets, ← List.flatMap_id, List.flatMap_assoc]
  rfl

end FileSink

namespace ChannelFile

/-- A sample is read back from its octets. -/
theorem sampleOf_littleEndian (sample : UInt16) :
    sampleOf (Bytes.littleEndian 2 sample.toNat) = sample := by
  rw [sampleOf, Bytes.ofLittleEndian_littleEndian sample.toNat_lt]
  exact UInt16.ofNat_toNat

/-- Samples are read back from their octets. -/
theorem samples_read_back (samples : List UInt16) :
    (pieces 2 (FileSink.sampleOctets samples)).map sampleOf = samples := by
  induction samples with
  | nil => rfl
  | cons sample samples ih =>
    have hcons : FileSink.sampleOctets (sample :: samples) =
        Bytes.littleEndian 2 sample.toNat ++ FileSink.sampleOctets samples := rfl
    rw [hcons, pieces_of_first (by decide) (Bytes.length_littleEndian 2 _), List.map_cons,
      sampleOf_littleEndian, ih]

/-- Two octets are those of their sample. -/
theorem littleEndian_sampleOf {octets : Bytes} (h : octets.length = 2) :
    Bytes.littleEndian 2 (sampleOf octets).toNat = octets := by
  have hlt : Bytes.ofLittleEndian octets < UInt16.size := by
    have hbound := Bytes.ofLittleEndian_lt octets
    rwa [h] at hbound
  rw [sampleOf, UInt16.toNat_ofNat_of_lt' hlt]
  conv_lhs => rw [← h]
  exact Bytes.littleEndian_ofLittleEndian octets

/-- An even number of octets are those of their samples. -/
theorem sampleOctets_samples {octets : Bytes} (h : 2 ∣ octets.length) :
    FileSink.sampleOctets ((pieces 2 octets).map sampleOf) = octets := by
  have hpairs : ∀ pair ∈ pieces 2 octets, Bytes.littleEndian 2 (sampleOf pair).toNat = id pair :=
    fun pair hpair => littleEndian_sampleOf (length_of_mem_pieces (by decide) hpair)
  rw [FileSink.sampleOctets, List.flatMap_map, List.flatMap_congr hpairs, List.flatMap_id,
    pieces_flatten (by decide) h]

/-! ## 2. Octets of waveforms -/

theorem waveforms_nil (samples : Nat) : waveforms samples [] = [] := by
  rw [waveforms, pieces_nil, List.map_nil]

/-- **Waveforms are read back from their octets**, and before them what the file held. -/
theorem waveforms_append {samples : Nat} (h : samples ≠ 0) {content : Bytes}
    (hwhole : samples * 2 ∣ content.length) {more : List (List UInt16)}
    (hmore : ∀ waveform ∈ more, waveform.length = samples) :
    waveforms samples (content ++ FileSink.sampleOctets more.flatten) =
      waveforms samples content ++ more := by
  have hwidth : samples * 2 ≠ 0 := Nat.mul_ne_zero h (by decide)
  have hoctets : FileSink.sampleOctets more.flatten =
      (more.map FileSink.sampleOctets).flatten ++ [] := by
    rw [List.append_nil, FileSink.sampleOctets_flatten, List.flatMap_def]
  have hblocks : ∀ block ∈ more.map FileSink.sampleOctets, block.length = samples * 2 := by
    intro block hblock
    obtain ⟨waveform, hwaveform, rfl⟩ := List.mem_map.mp hblock
    rw [FileSink.length_sampleOctets, hmore waveform hwaveform]
  rw [waveforms, pieces_append hwidth hwhole, hoctets, pieces_flatten_append hwidth hblocks, pieces_nil,
    List.append_nil, List.map_append, List.map_map]
  refine congrArg _ ?_
  conv_rhs => rw [← List.map_id more]
  exact List.map_congr_left fun waveform _ => samples_read_back waveform

variable {samples : Nat} {content : Bytes}

theorem length_of_mem_waveforms (h : samples ≠ 0) {waveform : List UInt16}
    (hmem : waveform ∈ waveforms samples content) : waveform.length = samples := by
  obtain ⟨block, hblock, rfl⟩ := List.mem_map.mp hmem
  have hwidth : samples * 2 ≠ 0 := Nat.mul_ne_zero h (by decide)
  rw [List.length_map, length_pieces (by decide), length_of_mem_pieces hwidth hblock,
    Nat.mul_div_cancel _ (by decide)]

/-- The waveforms in whole octets have these octets. -/
theorem sampleOctets_waveforms (h : samples ≠ 0) (hwhole : samples * 2 ∣ content.length) :
    FileSink.sampleOctets (waveforms samples content).flatten = content := by
  have hwidth : samples * 2 ≠ 0 := Nat.mul_ne_zero h (by decide)
  have hblocks : ∀ block ∈ pieces (samples * 2) content,
      FileSink.sampleOctets ((pieces 2 block).map sampleOf) = id block := by
    intro block hblock
    refine sampleOctets_samples ?_
    rw [length_of_mem_pieces hwidth hblock]
    exact Nat.dvd_mul_left ..
  calc FileSink.sampleOctets (waveforms samples content).flatten
    _ = (waveforms samples content).flatMap FileSink.sampleOctets := FileSink.sampleOctets_flatten _
    _ = (pieces (samples * 2) content).flatMap id := by
      rw [waveforms, List.flatMap_map, List.flatMap_congr hblocks]
    _ = content := by rw [List.flatMap_id, pieces_flatten hwidth hwhole]

/-! ## 3. What a file holds -/

/-- A file holds waveforms of so many samples: their octets, back to back, and nothing else. -/
def Holds (samples : Nat) (content : Bytes) (waveforms : List (List UInt16)) : Prop :=
  (∀ waveform ∈ waveforms, waveform.length = samples) ∧
    FileSink.sampleOctets waveforms.flatten = content

/-- **A file holds at most one list of waveforms**, and one exactly if their length divides its own. -/
theorem holds_iff (h : samples ≠ 0) {found : List (List UInt16)} :
    Holds samples content found ↔
      samples * 2 ∣ content.length ∧ found = waveforms samples content := by
  constructor
  · rintro ⟨hlengths, rfl⟩
    constructor
    · rw [FileSink.length_sampleOctets, length_flatten_of_width hlengths, Nat.mul_right_comm]
      exact Nat.dvd_mul_right ..
    · have hnone : samples * 2 ∣ ([] : Bytes).length := Nat.dvd_zero _
      have hback := waveforms_append h hnone hlengths
      rw [waveforms_nil, List.nil_append, List.nil_append] at hback
      exact hback.symm
  · rintro ⟨hwhole, rfl⟩
    exact ⟨fun _ hmem => length_of_mem_waveforms h hmem, sampleOctets_waveforms h hwhole⟩

/-! ## 4. What reading comes to -/

/-- From this many samples on, the octets of a waveform cannot be counted. -/
def uncountableFrom : Nat := 0x8000000000000000

theorem mul?_two_of_countable (h : samples < uncountableFrom) :
    Word.mul? samples 2 = some (samples * 2) := by
  refine Word.mul?_eq_some_iff.mpr ⟨rfl, ?_⟩
  unfold uncountableFrom at h
  unfold Word.size
  omega

theorem mul?_two_of_uncountable (h : uncountableFrom ≤ samples) : Word.mul? samples 2 = none := by
  refine Word.mul?_eq_none_iff.mpr ?_
  unfold uncountableFrom at h
  unfold Word.size
  omega

/-- What is said of a file that does not hold whole waveforms. -/
def partialFault (path : String) (samples length : Nat) : Fault :=
  ⟨.invalidData, path ++ ": " ++ toString length ++ " bytes is not a whole number of " ++
    toString samples ++ "-sample waveforms"⟩

variable {folder : Folder} {path : String}

theorem read_of_countable (hread : folder.read path = .ok content) (hsome : samples ≠ 0)
    (hcountable : samples < uncountableFrom) :
    read folder path samples =
      if samples * 2 ∣ content.length then .ok (waveforms samples content)
      else .error (.fault (partialFault path samples content.length)) := by
  rw [read, if_neg hsome, hread]
  simp only [mul?_two_of_countable hcountable, Nat.dvd_iff_mod_eq_zero, ne_eq, ite_not]
  rfl

theorem read_of_uncountable (hread : folder.read path = .ok content) (hsome : samples ≠ 0)
    (huncountable : uncountableFrom ≤ samples) : read folder path samples = .error .uncountable := by
  rw [read, if_neg hsome, hread]
  simp only [mul?_two_of_uncountable huncountable]

/-- **Reading takes whole waveforms, and nothing else.** -/
structure ReadsWhole (folder : Folder) (path : String) (samples : Nat) (content : Bytes) : Prop where
  /-- The octets of a waveform are counted, and are not none. -/
  counted : ∃ width, Word.mul? samples 2 = some width ∧ width ≠ 0
  /-- Files are taken by their length. -/
  whole_iff : (∃ found, read folder path samples = .ok found) ↔ 2 * samples ∣ content.length
  /-- What is read is what the file holds. -/
  holds_iff : ∀ found, read folder path samples = .ok found ↔ Holds samples content found
  /-- Any other file is not valid. -/
  not_whole : ¬2 * samples ∣ content.length →
    read folder path samples = .error (.fault (partialFault path samples content.length))

theorem readsWhole_of_countable (hread : folder.read path = .ok content) (hsome : samples ≠ 0)
    (hcountable : samples < uncountableFrom) : ReadsWhole folder path samples content := by
  have hresult := read_of_countable hread hsome hcountable
  refine ⟨⟨_, mul?_two_of_countable hcountable, Nat.mul_ne_zero hsome (by decide)⟩, ?_, ?_, ?_⟩
  · rw [hresult, Nat.mul_comm 2 samples]
    split <;> simp_all
  · intro found
    rw [ChannelFile.holds_iff hsome, hresult]
    split <;> simp_all [eq_comm]
  · intro hpartial
    rw [Nat.mul_comm 2 samples] at hpartial
    rw [hresult, if_neg hpartial]

theorem ReadsWhole.countable (h : ReadsWhole folder path samples content) :
    samples < uncountableFrom := by
  obtain ⟨width, hwidth, -⟩ := h.counted
  by_contra huncountable
  cases hwidth.symm.trans (mul?_two_of_uncountable (Nat.le_of_not_lt huncountable))

/-! ## 5. The law and its end -/

/-- How an inspection ends. -/
theorem code_inspect {h : Cli.Host} (hread : h.folder.read path = .ok content) (hsome : samples ≠ 0)
    (format : Cli.Format) :
    (h.inspect path samples format).code =
      if uncountableFrom ≤ samples then .crashed
      else if 2 * samples ∣ content.length then .success else .invalidData := by
  rw [Cli.Host.inspect, if_neg hsome, Nat.mul_comm 2 samples]
  by_cases hlimit : uncountableFrom ≤ samples
  · rw [read_of_uncountable hread hsome hlimit, if_pos hlimit]
  · rw [read_of_countable hread hsome (Nat.lt_of_not_le hlimit), if_neg hlimit]
    by_cases hwhole : samples * 2 ∣ content.length
    · rw [if_pos hwhole, if_pos hwhole]
      rfl
    · rw [if_neg hwhole, if_neg hwhole]
      rfl

/-- **A file is read exactly if it holds whole waveforms, as long as the octets of a waveform can be
counted.**  From there on no file is read, and none is refused. -/
theorem reads_whole_iff (hread : folder.read path = .ok content) (hsome : samples ≠ 0) :
    (ReadsWhole folder path samples content ↔ samples < uncountableFrom) ∧
      (uncountableFrom ≤ samples → read folder path samples = .error .uncountable) ∧
      ∀ (h : Cli.Host) (format : Cli.Format), h.folder = folder →
        (h.inspect path samples format).code =
          if uncountableFrom ≤ samples then .crashed
          else if 2 * samples ∣ content.length then .success else .invalidData := by
  refine ⟨⟨ReadsWhole.countable, readsWhole_of_countable hread hsome⟩,
    read_of_uncountable hread hsome, ?_⟩
  rintro h format rfl
  exact code_inspect hread hsome format

/-- A folder with one file, of two octets. -/
def oneSample : Folder := .ofFiles [("x", [1, 2])]

/-- A sample that stands alone is read as a waveform of one. -/
theorem reads_whole_one :
    oneSample.read "x" = .ok [1, 2] ∧ 1 ≠ 0 ∧ ReadsWhole oneSample "x" 1 [1, 2] := by
  have hread : oneSample.read "x" = .ok [1, 2] := by decide +kernel
  exact ⟨hread, by decide, (reads_whole_iff hread (by decide)).1.mpr (by decide)⟩

/-- A host with this folder. -/
def oneSampleHost : Cli.Host where
  folder := oneSample
  label := ""
  freePort := 0
  build := ⟨"", "", ""⟩

/-- **Waveforms whose octets cannot be counted**: the file is not whole, and is not refused.  The command line
that asks for it is understood. -/
theorem uncountable_waveforms_crash :
    oneSample.read "x" = .ok [1, 2] ∧ ¬2 * 0x8000000000000000 ∣ [1, 2].length ∧
      read oneSample "x" 0x8000000000000000 = .error .uncountable ∧
      ¬ReadsWhole oneSample "x" 0x8000000000000000 [1, 2] ∧
      (oneSampleHost.run ["inspect", "x", "-l", "9223372036854775808"]).code = .crashed := by
  have hread : oneSample.read "x" = .ok [1, 2] := by decide +kernel
  refine ⟨hread, by decide, read_of_uncountable hread (by decide) (by decide), ?_, by decide +kernel⟩
  exact fun h => absurd h.countable (by decide)

end ChannelFile

end Readout

/-
# Taking data apart loses nothing

`Layout.index` says at which position a sample lies.  `Layout.origin` says of a position which sample
lies there, and the two are inverse to each other: each position is that of one waveform, channel and
place, and every one of these has its position (`Layout.bijOn_position`).

So what `Layout.demultiplex` gives to the channels can be put together again (`Layout.interleave`), and
nothing is missing then but the high halves of the samples.

* `Layout.demultiplex_eq_error_iff` -- when data is refused, and why;
* `Layout.interleave_allSamples` -- putting together undoes taking apart;
* `demultiplex_exact` -- all of this.
-/
import Mathlib.Data.Set.Function
import Mathlib.Order.Interval.Set.Defs
import Readout.Proofs.Positions

namespace Readout

namespace Layout

/-! ## 1. Positions and where they come from -/

/-- Where a sample comes from. -/
structure Origin where
  waveform : Nat
  /-- The place of its channel. -/
  channel : Nat
  /-- Its place in the waveform. -/
  sample : Nat
  deriving DecidableEq, Repr

/-- Where the samples of some waveforms come from. -/
def origins (l : Layout) (waveforms : Nat) : Set Origin :=
  {o | o.waveform < waveforms ∧ o.channel < l.channels ∧ o.sample < l.samples}

/-- The position of the sample that comes from somewhere. -/
def position (l : Layout) (o : Origin) : Nat := l.index o.waveform o.channel o.sample

/-- Where the sample at a position comes from. -/
def origin (l : Layout) (position : Nat) : Origin where
  waveform := position / l.samples / l.channels
  channel := position / l.samples % l.channels
  sample := position % l.samples

variable {l : Layout}

theorem position_origin (l : Layout) (p : Nat) : l.position (l.origin p) = p := by
  rw [position, index, origin, Nat.div_add_mod', Nat.div_add_mod']

/-- The row of an item, by its position in rows of one width. -/
theorem div_of_row {row width i : Nat} (h : i < width) : (row * width + i) / width = row := by
  rw [Nat.mul_comm, Nat.mul_add_div (Nat.zero_lt_of_lt h), Nat.div_eq_of_lt h, Nat.add_zero]

theorem origin_position {o : Origin} (hchannel : o.channel < l.channels)
    (hsample : o.sample < l.samples) : l.origin (l.position o) = o := by
  rw [origin, position, index, div_of_row hsample, div_of_row hchannel,
    Nat.mul_add_mod_of_lt hsample, Nat.mul_add_mod_of_lt hchannel]

/-- The sample at a position within some waveforms comes from one of them. -/
theorem origin_mem {waveforms p : Nat} (h : p < l.channels * l.samples * waveforms) :
    l.origin p ∈ l.origins waveforms := by
  have hpos : 0 < l.channels * l.samples * waveforms := Nat.zero_lt_of_lt h
  have hstride : 0 < l.channels * l.samples := Nat.pos_of_mul_pos_right hpos
  have hchannels : 0 < l.channels := Nat.pos_of_mul_pos_right hstride
  have hsamples : 0 < l.samples := Nat.pos_of_mul_pos_left hstride
  refine ⟨?_, Nat.mod_lt _ hchannels, Nat.mod_lt _ hsamples⟩
  show p / l.samples / l.channels < waveforms
  rw [Nat.div_div_eq_div_mul, Nat.div_lt_iff_lt_mul (Nat.mul_pos hsamples hchannels)]
  rwa [Nat.mul_comm l.samples, Nat.mul_comm waveforms]

/-- **Each position is that of one sample, and each sample has one.** -/
theorem bijOn_position (l : Layout) (waveforms : Nat) :
    Set.BijOn l.position (l.origins waveforms) (Set.Iio (l.channels * l.samples * waveforms)) := by
  have hinverse : Set.InvOn l.origin l.position (l.origins waveforms)
      (Set.Iio (l.channels * l.samples * waveforms)) := by
    constructor
    · rintro o ⟨-, hchannel, hsample⟩
      exact origin_position hchannel hsample
    · intro p _
      exact l.position_origin p
  refine hinverse.bijOn ?_ ?_
  · rintro o ⟨hwaveform, hchannel, hsample⟩
    exact index_lt hwaveform hchannel hsample
  · intro p hp
    exact origin_mem hp

/-! ## 2. Putting together again -/

/-- The sample that comes from somewhere, in the list of its channel. -/
def sampleOf? (l : Layout) (lists : List (List UInt16)) (o : Origin) : Option UInt16 :=
  lists[o.channel]?.bind fun list => list[o.waveform * l.samples + o.sample]?

/-- The samples of all channels in one list, each at its position. -/
def interleave (l : Layout) (waveforms : Nat) (lists : List (List UInt16)) : List UInt16 :=
  (List.range (l.channels * l.samples * waveforms)).map fun p =>
    (l.sampleOf? lists (l.origin p)).getD 0

variable {waveforms : Nat} {data : List UInt32}

/-- **What the channels get has each sample where it belongs.** -/
theorem sampleOf?_allSamples (h : data.length = l.channels * l.samples * waveforms) {o : Origin}
    (ho : o ∈ l.origins waveforms) :
    l.sampleOf? (l.allSamples waveforms data) o = data[l.position o]?.map narrow := by
  obtain ⟨hwaveform, hchannel, hsample⟩ := ho
  have hposition : l.position o < data.length := h ▸ index_lt hwaveform hchannel hsample
  have hlist : (l.allSamples waveforms data)[o.channel]? =
      some (l.channelSamples o.channel waveforms data) := by
    rw [allSamples, List.getElem?_map, List.getElem?_range hchannel]
    rfl
  have hplace : o.waveform * l.samples + o.sample < (l.channelSamples o.channel waveforms data).length := by
    rw [length_channelSamples]
    exact Nat.lt_of_lt_of_le (Nat.add_lt_add_left hsample _) (row_le l.samples hwaveform)
  have hsampled : (l.channelSamples o.channel waveforms data).getD (o.waveform * l.samples + o.sample) 0 =
      narrow (data.getD (l.position o) 0) := by
    have hwidth : ∀ w ∈ List.range waveforms,
        ((List.range l.samples).map fun s => narrow (data.getD (l.index w o.channel s) 0)).length =
          l.samples := by
      intro w _
      rw [List.length_map, List.length_range]
    have hrow : o.waveform < (List.range waveforms).length := by rwa [List.length_range]
    rw [channelSamples, getD_flatMap 0 hwidth hrow hsample]
    simp [List.getD_eq_getElem?_getD, hsample, position]
  rw [sampleOf?, hlist, Option.bind_some, List.getElem?_eq_getElem hplace, List.getElem?_eq_getElem hposition,
    Option.map_some, ← List.getD_eq_getElem _ 0 hplace, ← List.getD_eq_getElem _ 0 hposition, hsampled]

/-- **Putting together undoes taking apart.** -/
theorem interleave_allSamples (h : data.length = l.channels * l.samples * waveforms) :
    l.interleave waveforms (l.allSamples waveforms data) = data.map narrow := by
  apply List.ext_getElem
  · rw [interleave, List.length_map, List.length_range, List.length_map, h]
  · intro p hp hp'
    have hp : p < l.channels * l.samples * waveforms := by simpa [interleave] using hp
    have hdata : p < data.length := h ▸ hp
    simp only [interleave, List.getElem_map, List.getElem_range]
    rw [sampleOf?_allSamples h (origin_mem hp), position_origin, List.getElem?_eq_getElem hdata]
    rfl

/-! ## 3. What is taken apart -/

theorem exists_demultiplex_iff :
    (∃ lists, l.demultiplex waveforms data = .ok lists) ↔ l.samplesIn? waveforms = some data.length := by
  constructor
  · rintro ⟨lists, h⟩
    exact samplesIn?_of_demultiplex h
  · intro h
    exact ⟨_, demultiplex_eq_ok h⟩

/-- **Data is refused where it cannot be counted, or where its length is not what is expected.** -/
theorem demultiplex_eq_error_iff {e : LayoutError} :
    l.demultiplex waveforms data = .error e ↔
      l.samplesIn? waveforms = none ∧ e = .overflow waveforms ∨
        ∃ expected, l.samplesIn? waveforms = some expected ∧ data.length ≠ expected ∧
          e = .lengthMismatch expected data.length := by
  rw [demultiplex]
  cases hcount : l.samplesIn? waveforms with
  | none => simp [eq_comm]
  | some expected =>
    by_cases hlength : data.length = expected
    · simp [hlength]
    · constructor
      · intro h
        have herror := (if_pos hlength).symm.trans h
        exact Or.inr ⟨expected, rfl, hlength, (Except.error.inj herror).symm⟩
      · rintro (⟨hnone, -⟩ | ⟨count, hsome, -, rfl⟩)
        · cases hnone
        · obtain rfl := Option.some.inj hsome
          exact if_pos hlength

theorem length_of_mem_allSamples {list : List UInt16} (h : list ∈ l.allSamples waveforms data) :
    list.length = waveforms * l.samples := by
  obtain ⟨channel, -, rfl⟩ := List.mem_map.mp h
  exact length_channelSamples l channel waveforms data

end Layout

theorem toNat_narrow (sample : UInt32) : (narrow sample).toNat = sample.toNat % 0x10000 :=
  UInt32.toNat_toUInt16 sample

/-- **Taking data apart loses nothing but the high halves of its samples.**  Data is taken apart exactly
if it is as long as the layout says, and is refused for its length or because that cannot be counted.
Each channel then has a list with its samples of every waveform; the positions of the data are those of
the samples, one each; and what the lists hold at them, read in order, is the data. -/
theorem demultiplex_exact (l : Layout) (waveforms : Nat) (data : List UInt32) :
    ((∃ lists, l.demultiplex waveforms data = .ok lists) ↔
        l.samplesIn? waveforms = some data.length) ∧
      (∀ e, l.demultiplex waveforms data = .error e ↔
        l.samplesIn? waveforms = none ∧ e = .overflow waveforms ∨
          ∃ expected, l.samplesIn? waveforms = some expected ∧ data.length ≠ expected ∧
            e = .lengthMismatch expected data.length) ∧
      (∀ count, l.samplesIn? waveforms = some count ↔
        l.channels * l.samples < Word.size ∧ count = l.channels * l.samples * waveforms ∧
          l.channels * l.samples * waveforms < Word.size) ∧
      (∀ lists, l.demultiplex waveforms data = .ok lists →
        lists.length = l.channels ∧
        (∀ list ∈ lists, list.length = waveforms * l.samples) ∧
        Set.BijOn l.position (l.origins waveforms) (Set.Iio data.length) ∧
        (∀ o ∈ l.origins waveforms, l.sampleOf? lists o = data[l.position o]?.map narrow) ∧
        l.interleave waveforms lists = data.map narrow) ∧
      ∀ sample : UInt32, (narrow sample).toNat = sample.toNat % 0x10000 := by
  refine ⟨Layout.exists_demultiplex_iff, fun e => Layout.demultiplex_eq_error_iff,
    fun count => Layout.samplesIn?_eq_some_iff, ?_, toNat_narrow⟩
  intro lists h
  have hcount := Layout.samplesIn?_of_demultiplex h
  have hlength := (Layout.samplesIn?_eq_some_iff.mp hcount).2.1
  obtain rfl : l.allSamples waveforms data = lists :=
    Except.ok.inj ((Layout.demultiplex_eq_ok hcount).symm.trans h)
  refine ⟨l.length_allSamples waveforms data, ?_, ?_, ?_, Layout.interleave_allSamples hlength⟩
  · intro list hlist
    exact Layout.length_of_mem_allSamples hlist
  · rw [hlength]
    exact l.bijOn_position waveforms
  · intro o ho
    exact Layout.sampleOf?_allSamples hlength ho

/-- Two waveforms of two channels with two samples each, of which one does not fit in 16 bits. -/
theorem demultiplex_exact_pair :
    (∃ lists, (⟨2, 2⟩ : Layout).demultiplex 2 [1, 2, 3, 4, 5, 0x10006, 7, 8] = .ok lists) ∧
      (⟨2, 2⟩ : Layout).demultiplex 2 [1, 2, 3] = .error (.lengthMismatch 8 3) ∧
      (⟨2, 2⟩ : Layout).sampleOf? [[1, 2, 5, 6], [3, 4, 7, 8]] ⟨1, 0, 1⟩ = some 6 ∧
      (⟨2, 2⟩ : Layout).interleave 2 [[1, 2, 5, 6], [3, 4, 7, 8]] = [1, 2, 3, 4, 5, 6, 7, 8] := by
  obtain ⟨hok, -, -, htaken, -⟩ := demultiplex_exact ⟨2, 2⟩ 2 [1, 2, 3, 4, 5, 0x10006, 7, 8]
  obtain ⟨-, hrefused, -, -, -⟩ := demultiplex_exact ⟨2, 2⟩ 2 [1, 2, 3]
  obtain ⟨-, -, -, hsample, hwhole⟩ := htaken [[1, 2, 5, 6], [3, 4, 7, 8]] (by decide)
  exact ⟨hok.mpr (by decide), (hrefused _).mpr (Or.inr ⟨8, by decide, by decide, rfl⟩),
    hsample ⟨1, 0, 1⟩ ⟨by decide, by decide, by decide⟩, hwhole⟩

end Readout

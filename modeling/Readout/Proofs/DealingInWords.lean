/-
# Taking data apart in words

`Layout.demultiplex` counts in natural numbers and deals whole waveforms at once.  A machine works in words and
deals piece by piece: it multiplies two words to know how long the list of a channel becomes, makes room for
the lists, cuts the data at a width, and finds the channel of a piece by the remainder of the piece's number.
Every one of these operations can go wrong in a way that nothing recovers from (`Mishap`);
`Layout.demultiplexInWords` makes each of them where the machine does.

Only the count of all samples is checked beforehand.  It has the length of one channel's list as a factor, and
so bounds it, unless the other factor is zero: a layout without channels has no samples, however many
waveforms of however many samples it is said to have, and the length of the lists it does not have need not
be a word.  Cutting and dealing never go wrong: there is nothing to cut where the width is zero, and nothing
to deal where there are no channels.

* `dealInTurn_flatten` -- dealing in turn is dealing waveform by waveform;
* `demultiplexInWords_eq` -- what taking apart comes to in words;
* `safe_in_words_iff` -- where it is safe, what goes wrong elsewhere, and that nothing else does.
-/
import Readout.Proofs.Positions

namespace Readout

variable {α β : Type}

/-! ## 1. Operations that can go wrong -/

/-- What ends a computation for good. -/
inductive Mishap where
  /-- A product or a sum is not a word. -/
  | overflow
  /-- A list is to have room for more than any memory holds. -/
  | room
  /-- A remainder is taken by zero. -/
  | divisor
  /-- A list is cut into pieces of no items. -/
  | width
  /-- There is nothing at a place. -/
  | place
  deriving DecidableEq, Repr

/-- The octets of a list are fewer: half a word counts them. -/
def roomEnd : Nat := 0x8000000000000000

/-- How many octets a list takes in a list of lists. -/
def octetsPerList : Nat := 24

/-- How many octets a sample takes that was narrowed. -/
def octetsPerNarrow : Nat := 2

/-- The product of two words. -/
def wordProduct (a b : Nat) : Except Mishap Nat :=
  match Word.mul? a b with
  | none => .error .overflow
  | some n => .ok n

/-- An empty list that has room for so many items. -/
def emptyList (octetsPerItem count : Nat) : Except Mishap (List α) :=
  if count * octetsPerItem < roomEnd then .ok [] else .error .room

/-- So many empty lists, each with room for so many samples. -/
def emptyLists (room : Nat) : Nat → Except Mishap (List (List UInt16))
  | 0 => .ok []
  | count + 1 => do
    let list ← emptyList octetsPerNarrow room
    let lists ← emptyLists room count
    return list :: lists

/-- An empty list for each channel, in a list that has room for them. -/
def channelLists (room channels : Nat) : Except Mishap (List (List UInt16)) := do
  let _ : List (List UInt16) ← emptyList octetsPerList channels
  emptyLists room channels

/-- The pieces of a width. -/
def piecesOfWidth (width : Nat) (items : List α) : Except Mishap (List (List α)) :=
  if width = 0 then .error .width else .ok (pieces width items)

/-- Adds each block to the list whose turn it is: that of the remainder of the block's number. -/
def dealInTurn (channels : Nat) : (turn : Nat) → List (List α) → List (List α) →
    Except Mishap (List (List α))
  | _, [], lists => .ok lists
  | turn, block :: blocks, lists =>
    if channels = 0 then .error .divisor
    else
      match lists[turn % channels]? with
      | none => .error .place
      | some list => dealInTurn channels (turn + 1) blocks (lists.set (turn % channels) (list ++ block))

/-- Cuts data and deals it; there is nothing to cut where waveforms have no samples. -/
def Layout.dealInWords (l : Layout) (data : List UInt32) (lists : List (List UInt16)) :
    Except Mishap (List (List UInt16)) :=
  if l.samples = 0 then .ok lists
  else do
    let blocks ← piecesOfWidth l.samples data
    dealInTurn l.channels 0 (blocks.map (List.map narrow)) lists

/-- Taking data apart, operation by operation. -/
def Layout.demultiplexInWords (l : Layout) (waveforms : Nat) (data : List UInt32) :
    Except Mishap (Except LayoutError (List (List UInt16))) :=
  match l.samplesIn? waveforms with
  | none => .ok (.error (.overflow waveforms))
  | some expected =>
    if data.length ≠ expected then .ok (.error (.lengthMismatch expected data.length))
    else do
      let perChannel ← wordProduct waveforms l.samples
      let lists ← channelLists perChannel l.channels
      let dealt ← l.dealInWords data lists
      return .ok dealt

/-! ## 2. Room -/

theorem emptyLists_eq (room count : Nat) :
    emptyLists room count =
      if count ≠ 0 ∧ roomEnd ≤ room * octetsPerNarrow then .error .room
      else .ok (List.replicate count []) := by
  induction count with
  | zero => rfl
  | succ count ih =>
    rw [emptyLists, emptyList]
    by_cases h : room * octetsPerNarrow < roomEnd
    · have hall : ¬(count ≠ 0 ∧ roomEnd ≤ room * octetsPerNarrow) := fun hno => Nat.not_le_of_lt h hno.2
      have hmore : ¬(count + 1 ≠ 0 ∧ roomEnd ≤ room * octetsPerNarrow) := fun hno => Nat.not_le_of_lt h hno.2
      rw [ih, if_pos h, if_neg hall, if_neg hmore]
      rfl
    · rw [if_neg h, if_pos ⟨Nat.succ_ne_zero count, Nat.le_of_not_lt h⟩]
      rfl

/-- The octets of all lists together, or of what one of them is to hold, are more than any memory holds. -/
def NoRoom (room channels : Nat) : Prop :=
  roomEnd ≤ channels * octetsPerList ∨ channels ≠ 0 ∧ roomEnd ≤ room * octetsPerNarrow

instance (room channels : Nat) : Decidable (NoRoom room channels) :=
  inferInstanceAs (Decidable (_ ∨ _))

theorem channelLists_eq (room channels : Nat) :
    channelLists room channels =
      if NoRoom room channels then .error .room else .ok (List.replicate channels []) := by
  rw [channelLists, emptyList]
  by_cases houter : channels * octetsPerList < roomEnd
  · have hinner : NoRoom room channels ↔ channels ≠ 0 ∧ roomEnd ≤ room * octetsPerNarrow :=
      or_iff_right (Nat.not_le_of_lt houter)
    rw [if_pos houter, if_congr hinner rfl rfl]
    exact emptyLists_eq room channels
  · have hnone : NoRoom room channels := Or.inl (Nat.le_of_not_lt houter)
    rw [if_neg houter, if_pos hnone]
    rfl

/-! ## 3. Turns -/

theorem pieces_map (f : α → β) (width : Nat) (items : List α) :
    pieces width (items.map f) = (pieces width items).map (List.map f) := by
  by_cases h : width = 0
  · rw [pieces, pieces, if_pos h, if_pos h]
    rfl
  · rw [pieces_eq_map h, pieces_eq_map h, List.length_map, List.map_map]
    refine List.map_congr_left fun i _ => ?_
    rw [Function.comp_apply, List.map_take, List.map_drop]

/-- **The blocks of one waveform go to one list each.**  The induction is on the lists that have not had
their turn. -/
theorem dealInTurn_round {channels : Nat} (row : Nat) (served : List (List α))
    {lists blocks : List (List α)} (hblocks : blocks.length = lists.length)
    (hchannels : served.length + lists.length = channels) (rest : List (List α)) :
    dealInTurn channels (row * channels + served.length) (blocks ++ rest) (served ++ lists) =
      dealInTurn channels ((row + 1) * channels) rest (served ++ List.zipWith (· ++ ·) lists blocks) := by
  induction lists generalizing served blocks with
  | nil =>
    obtain rfl := List.length_eq_zero_iff.mp hblocks
    have hend : row * channels + served.length = (row + 1) * channels := by
      rw [Nat.succ_mul, ← hchannels, List.length_nil, Nat.add_zero]
    rw [hend]
    rfl
  | cons list lists ih =>
    cases blocks with
    | nil => cases hblocks
    | cons block blocks =>
      have hturn : served.length < channels := by
        rw [← hchannels, List.length_cons]
        omega
      have hplace : (row * channels + served.length) % channels = served.length :=
        Nat.mul_add_mod_of_lt hturn
      have hfound : (served ++ list :: lists)[served.length]? = some list := by simp
      have hset : (served ++ list :: lists).set served.length (list ++ block) =
          (served ++ [list ++ block]) ++ lists := by simp
      have hnext : row * channels + served.length + 1 =
          row * channels + (served ++ [list ++ block]).length := by
        rw [List.length_append, List.length_singleton, Nat.add_assoc]
      have hserved : (served ++ [list ++ block]).length + lists.length = channels := by
        rw [← hchannels, List.length_append, List.length_singleton, List.length_cons]
        omega
      rw [List.cons_append, dealInTurn, if_neg (Nat.ne_of_gt (Nat.zero_lt_of_lt hturn)), hplace, hfound]
      show dealInTurn channels _ _ ((served ++ list :: lists).set served.length (list ++ block)) = _
      rw [hset, hnext, ih _ (Nat.succ.inj hblocks) hserved, List.zipWith_cons_cons, List.append_assoc,
        List.singleton_append]

/-- Adding nothing to every list. -/
theorem zipWith_append_replicate_nil (lists : List (List α)) :
    List.zipWith (· ++ ·) lists (List.replicate lists.length []) = lists := by
  induction lists with
  | nil => rfl
  | cons list lists ih =>
    rw [List.length_cons, List.replicate_succ, List.zipWith_cons_cons, ih, List.append_nil]

/-- Adding every list to nothing. -/
theorem zipWith_replicate_nil_append (lists : List (List α)) :
    List.zipWith (· ++ ·) (List.replicate lists.length []) lists = lists := by
  induction lists with
  | nil => rfl
  | cons list lists ih =>
    rw [List.length_cons, List.replicate_succ, List.zipWith_cons_cons, ih, List.nil_append]

/-- **Dealing in turn is dealing waveform by waveform.** -/
theorem dealInTurn_flatten {channels : Nat} (row : Nat) {waveforms : List (List (List α))}
    (hwaveforms : ∀ blocks ∈ waveforms, blocks.length = channels) {lists : List (List α)}
    (hlists : lists.length = channels) :
    dealInTurn channels (row * channels) waveforms.flatten lists =
      .ok (List.zipWith (· ++ ·) lists (deal channels waveforms)) := by
  induction waveforms generalizing row lists with
  | nil =>
    have hdeal : deal channels ([] : List (List (List α))) = List.replicate lists.length [] := by
      rw [hlists]
      rfl
    rw [hdeal, zipWith_append_replicate_nil]
    rfl
  | cons blocks waveforms ih =>
    obtain ⟨hblocks, hrest⟩ := List.forall_mem_cons.mp hwaveforms
    have hround : dealInTurn channels (row * channels) (blocks ++ waveforms.flatten) lists =
        dealInTurn channels ((row + 1) * channels) waveforms.flatten
          (List.zipWith (· ++ ·) lists blocks) :=
      dealInTurn_round row [] (hblocks.trans hlists.symm) ((Nat.zero_add _).trans hlists) waveforms.flatten
    have hadded : (List.zipWith (· ++ ·) lists blocks).length = channels := by
      rw [List.length_zipWith, hlists, hblocks, Nat.min_self]
    rw [List.flatten_cons, hround, ih (row + 1) hrest hadded, zipWith_append_assoc]
    rfl

namespace Layout

variable {l : Layout} {waveforms : Nat} {data : List UInt32}

/-- **Counted data is cut and dealt whatever the layout is.**  Without channels there is no piece. -/
theorem dealInWords_eq (h : data.length = l.channels * l.samples * waveforms) :
    l.dealInWords data (List.replicate l.channels []) =
      .ok (deal l.channels (pieces l.channels (pieces l.samples (data.map narrow)))) := by
  rw [dealInWords, piecesOfWidth]
  by_cases hsamples : l.samples = 0
  · have hnone : pieces l.samples (data.map narrow) = [] := if_pos hsamples
    rw [if_pos hsamples, hnone, pieces_nil]
    rfl
  rw [if_neg hsamples, if_neg hsamples]
  show dealInTurn l.channels 0 ((pieces l.samples data).map (List.map narrow)) _ = _
  rw [← pieces_map]
  by_cases hchannels : l.channels = 0
  · have hnone : data = [] := by
      rw [hchannels, Nat.zero_mul, Nat.zero_mul] at h
      exact List.length_eq_zero_iff.mp h
    rw [hnone, List.map_nil, pieces_nil, pieces_nil, dealInTurn]
    rfl
  · have hcount : (pieces l.samples (data.map narrow)).length = l.channels * waveforms := by
      rw [length_pieces hsamples, List.length_map, h, Nat.mul_right_comm,
        Nat.mul_div_cancel _ (Nat.pos_of_ne_zero hsamples)]
    have hwhole : l.channels ∣ (pieces l.samples (data.map narrow)).length := hcount ▸ Nat.dvd_mul_right ..
    have hrows : ∀ blocks ∈ pieces l.channels (pieces l.samples (data.map narrow)),
        blocks.length = l.channels := fun blocks hblocks => length_of_mem_pieces hchannels hblocks
    have hdealt := dealInTurn_flatten 0 hrows (List.length_replicate (n := l.channels) (a := []))
    have hlength : (deal l.channels (pieces l.channels (pieces l.samples (data.map narrow)))).length =
        l.channels := by
      rw [deal_eq_map hrows, List.length_map, List.length_range]
    have hadded := zipWith_replicate_nil_append
      (deal l.channels (pieces l.channels (pieces l.samples (data.map narrow))))
    rw [hlength] at hadded
    rwa [pieces_flatten hchannels hwhole, Nat.zero_mul, hadded] at hdealt

/-! ## 4. What taking apart comes to -/

/-- What goes wrong with counted data, if something does. -/
def mishap? (l : Layout) (waveforms : Nat) : Option Mishap :=
  if Word.size ≤ l.perChannel waveforms then some .overflow
  else if NoRoom (l.perChannel waveforms) l.channels then some .room
  else none

theorem wordProduct_eq_ok (h : l.perChannel waveforms < Word.size) :
    wordProduct waveforms l.samples = .ok (l.perChannel waveforms) := by
  rw [wordProduct, Word.mul?_eq_some_iff.mpr ⟨rfl, h⟩]
  rfl

/-- Data that is refused is refused by its count. -/
theorem demultiplexInWords_of_refused (h : l.samplesIn? waveforms ≠ some data.length) :
    l.demultiplexInWords waveforms data = .ok (l.demultiplex waveforms data) := by
  rw [demultiplexInWords, demultiplex]
  cases hcount : l.samplesIn? waveforms with
  | none => rfl
  | some expected =>
    have hlength : data.length ≠ expected := fun heq => h (hcount.trans (congrArg some heq.symm))
    simp only [if_pos hlength]

/-- **Counted data is taken apart, unless the lists of the channels are too long or too many.** -/
theorem demultiplexInWords_of_counted (h : l.samplesIn? waveforms = some data.length) :
    l.demultiplexInWords waveforms data =
      match l.mishap? waveforms with
      | some m => .error m
      | none => .ok (l.demultiplex waveforms data) := by
  have hdeal := dealInWords_eq (samplesIn?_eq_some_iff.mp h).2.1
  have hlists := channelLists_eq (l.perChannel waveforms) l.channels
  rw [demultiplexInWords, demultiplex, h, mishap?]
  simp only [ne_eq, not_true_eq_false, if_false]
  by_cases hproduct : Word.size ≤ l.perChannel waveforms
  · rw [if_pos hproduct, wordProduct, Word.mul?_eq_none_iff.mpr hproduct]
    rfl
  · rw [wordProduct_eq_ok (Nat.lt_of_not_le hproduct), if_neg hproduct]
    show (channelLists (l.perChannel waveforms) l.channels >>= fun lists =>
      l.dealInWords data lists >>= _) = _
    by_cases hroom : NoRoom (l.perChannel waveforms) l.channels
    · rw [hlists, if_pos hroom, if_pos hroom]
      rfl
    · rw [hlists, if_neg hroom, if_neg hroom]
      show (l.dealInWords data (List.replicate l.channels []) >>= _) = _
      rw [hdeal]
      rfl

variable {m : Mishap}

theorem demultiplexInWords_eq_error_iff :
    l.demultiplexInWords waveforms data = .error m ↔
      l.samplesIn? waveforms = some data.length ∧ l.mishap? waveforms = some m := by
  by_cases h : l.samplesIn? waveforms = some data.length
  · rw [demultiplexInWords_of_counted h]
    cases l.mishap? waveforms <;> simp [h]
  · rw [demultiplexInWords_of_refused h]
    simp [h]

theorem demultiplexInWords_eq_ok_iff {r : Except LayoutError (List (List UInt16))} :
    l.demultiplexInWords waveforms data = .ok r ↔
      r = l.demultiplex waveforms data ∧
        ¬(l.samplesIn? waveforms = some data.length ∧ l.mishap? waveforms ≠ none) := by
  by_cases h : l.samplesIn? waveforms = some data.length
  · rw [demultiplexInWords_of_counted h]
    cases l.mishap? waveforms <;> simp [h, eq_comm]
  · rw [demultiplexInWords_of_refused h]
    simp [h, eq_comm]

/-! ## 5. Where it is safe -/

/-- The count of all samples bounds the list of one channel, if there is one. -/
theorem perChannel_le_of_counted {count : Nat} (h : l.samplesIn? waveforms = some count)
    (hchannels : l.channels ≠ 0) : l.perChannel waveforms ≤ count ∧ count < Word.size := by
  obtain ⟨-, rfl, hword⟩ := samplesIn?_eq_some_iff.mp h
  refine ⟨?_, hword⟩
  calc l.perChannel waveforms = l.samples * waveforms := Nat.mul_comm ..
    _ ≤ l.channels * (l.samples * waveforms) := Nat.le_mul_of_pos_left _ (Nat.pos_of_ne_zero hchannels)
    _ = l.channels * l.samples * waveforms := (Nat.mul_assoc ..).symm

/-- Without channels there are no samples, and that is always a count. -/
theorem samplesIn?_of_no_channels (h : l.channels = 0) : l.samplesIn? waveforms = some 0 := by
  have hnone : l.channels * l.samples = 0 := by rw [h, Nat.zero_mul]
  refine samplesIn?_eq_some_iff.mpr ⟨?_, ?_, ?_⟩ <;> rw [hnone]
  · decide
  · rw [Nat.zero_mul]
  · rw [Nat.zero_mul]
    decide

theorem mishap?_eq_some_iff :
    l.mishap? waveforms = some m ↔
      m = .overflow ∧ Word.size ≤ l.perChannel waveforms ∨
        m = .room ∧ l.perChannel waveforms < Word.size ∧ NoRoom (l.perChannel waveforms) l.channels := by
  rw [mishap?]
  by_cases hproduct : Word.size ≤ l.perChannel waveforms
  · simp [hproduct, Nat.not_lt_of_le hproduct, eq_comm]
  · by_cases hroom : NoRoom (l.perChannel waveforms) l.channels
    · simp [hproduct, hroom, Nat.lt_of_not_le hproduct, eq_comm]
    · simp [hproduct, hroom]

/-- **Words are left where there are no channels, and only there.** -/
theorem demultiplexInWords_eq_overflow_iff :
    l.demultiplexInWords waveforms data = .error .overflow ↔
      l.channels = 0 ∧ data = [] ∧ Word.size ≤ l.perChannel waveforms := by
  rw [demultiplexInWords_eq_error_iff, mishap?_eq_some_iff]
  constructor
  · rintro ⟨hcount, ⟨-, hproduct⟩ | ⟨hroom, -⟩⟩
    · have hchannels : l.channels = 0 := by
        by_contra hchannels
        obtain ⟨hle, hlt⟩ := perChannel_le_of_counted hcount hchannels
        omega
      have hlength := Option.some.inj ((samplesIn?_of_no_channels hchannels).symm.trans hcount)
      exact ⟨hchannels, List.length_eq_zero_iff.mp hlength.symm, hproduct⟩
    · cases hroom
  · rintro ⟨hchannels, rfl, hproduct⟩
    exact ⟨samplesIn?_of_no_channels hchannels, Or.inl ⟨rfl, hproduct⟩⟩

theorem demultiplexInWords_eq_room_iff :
    l.demultiplexInWords waveforms data = .error .room ↔
      l.samplesIn? waveforms = some data.length ∧ l.perChannel waveforms < Word.size ∧
        NoRoom (l.perChannel waveforms) l.channels := by
  rw [demultiplexInWords_eq_error_iff, mishap?_eq_some_iff]
  simp

/-- Nothing but a product and the room for the lists ever goes wrong. -/
theorem overflow_or_room (h : l.demultiplexInWords waveforms data = .error m) :
    m = .overflow ∨ m = .room :=
  (mishap?_eq_some_iff.mp (demultiplexInWords_eq_error_iff.mp h).2).imp And.left And.left

/-- Data that memory holds leaves room for the list of each channel. -/
theorem demultiplexInWords_of_held (hchannels : l.channels ≠ 0)
    (hlists : l.channels * octetsPerList < roomEnd) (hheld : data.length * octetsPerNarrow < roomEnd) :
    l.demultiplexInWords waveforms data = .ok (l.demultiplex waveforms data) := by
  refine demultiplexInWords_eq_ok_iff.mpr ⟨rfl, ?_⟩
  rintro ⟨hcount, hmishap⟩
  obtain ⟨hle, hlt⟩ := perChannel_le_of_counted hcount hchannels
  obtain ⟨m, hm⟩ := Option.ne_none_iff_exists'.mp hmishap
  rcases mishap?_eq_some_iff.mp hm with ⟨-, hproduct⟩ | ⟨-, -, houter | ⟨-, hinner⟩⟩
  · omega
  · omega
  · have := Nat.mul_le_mul_right octetsPerNarrow hle
    omega

/-- **Once all samples are counted, the sizes that are computed later are right**, and no data makes one of
the operations leave the words, divide by zero or cut at the width zero. -/
structure SafeInWords (l : Layout) (waveforms : Nat) : Prop where
  perChannel : ∀ count, l.samplesIn? waveforms = some count →
    wordProduct waveforms l.samples = .ok (l.perChannel waveforms)
  operations : ∀ data, l.demultiplexInWords waveforms data ≠ .error .overflow ∧
    l.demultiplexInWords waveforms data ≠ .error .divisor ∧
    l.demultiplexInWords waveforms data ≠ .error .width ∧
    l.demultiplexInWords waveforms data ≠ .error .place

theorem safeInWords_of_bounded (h : l.channels = 0 → l.perChannel waveforms < Word.size) :
    l.SafeInWords waveforms := by
  constructor
  · intro count hcount
    refine wordProduct_eq_ok ?_
    by_cases hchannels : l.channels = 0
    · exact h hchannels
    · obtain ⟨hle, hlt⟩ := perChannel_le_of_counted hcount hchannels
      exact Nat.lt_of_le_of_lt hle hlt
  · intro data
    refine ⟨fun hoverflow => ?_, fun hm => ?_, fun hm => ?_, fun hm => ?_⟩
    · obtain ⟨hchannels, -, hproduct⟩ := demultiplexInWords_eq_overflow_iff.mp hoverflow
      exact Nat.not_le_of_lt (h hchannels) hproduct
    all_goals rcases overflow_or_room hm with hother | hother <;> cases hother

theorem SafeInWords.bounded (h : l.SafeInWords waveforms) (hchannels : l.channels = 0) :
    l.perChannel waveforms < Word.size := by
  by_contra hproduct
  exact (h.operations []).1 (demultiplexInWords_eq_overflow_iff.mpr
    ⟨hchannels, rfl, Nat.le_of_not_lt hproduct⟩)

/-- **Counting all samples makes the rest safe, except where there are no channels.**  There the length of the
lists has to be a word by itself; where it is not, taking the empty data apart goes wrong.  Apart from that only
the room for the lists can be missing.  Where nothing goes wrong, what is given in words is what
`demultiplex` gives. -/
theorem safe_in_words_iff (l : Layout) (waveforms : Nat) :
    (l.SafeInWords waveforms ↔ (l.channels = 0 → l.perChannel waveforms < Word.size)) ∧
      ∀ data : List UInt32,
        (l.demultiplexInWords waveforms data = .error .overflow ↔
          l.channels = 0 ∧ data = [] ∧ Word.size ≤ l.perChannel waveforms) ∧
        (l.demultiplexInWords waveforms data = .error .room ↔
          l.samplesIn? waveforms = some data.length ∧ l.perChannel waveforms < Word.size ∧
            NoRoom (l.perChannel waveforms) l.channels) ∧
        (∀ m, l.demultiplexInWords waveforms data = .error m → m = .overflow ∨ m = .room) ∧
        (∀ r, l.demultiplexInWords waveforms data = .ok r → r = l.demultiplex waveforms data) ∧
        (l.channels ≠ 0 → l.channels * octetsPerList < roomEnd →
          data.length * octetsPerNarrow < roomEnd →
          l.demultiplexInWords waveforms data = .ok (l.demultiplex waveforms data)) := by
  refine ⟨⟨SafeInWords.bounded, safeInWords_of_bounded⟩, fun data => ⟨demultiplexInWords_eq_overflow_iff,
    demultiplexInWords_eq_room_iff, fun m => overflow_or_room, ?_, demultiplexInWords_of_held⟩⟩
  intro r hr
  exact (demultiplexInWords_eq_ok_iff.mp hr).1

/-- **Waveforms of no channels that leave the words**: all their samples are counted, and are none; the length
of a list is counted and is not a word. -/
theorem channelless_lists_leave_words :
    (⟨0, 0x100000000⟩ : Layout).samplesIn? 0x100000000 = some 0 ∧
      (⟨0, 0x100000000⟩ : Layout).demultiplex 0x100000000 [] = .ok [] ∧
      (⟨0, 0x100000000⟩ : Layout).demultiplexInWords 0x100000000 [] = .error .overflow ∧
      ¬(⟨0, 0x100000000⟩ : Layout).SafeInWords 0x100000000 := by
  refine ⟨by decide, by decide, by decide, fun h => ?_⟩
  exact absurd (h.bounded rfl) (by decide)

end Layout

end Readout

/-
# What comes into channel files

A channel file is written through a buffer, beside the files of other channels.  Whatever the buffer does and
whenever it writes out, the file and what waits for it together hold what the file held when it was opened,
and everything that was written since (`BufferedFile.Holds`); when the sink is finished, nothing waits any
more.  Other files stay as they are.

A path leads to its file from the moment at which the file is created.  So a file belongs to one channel
alone if the paths of the others do not lead there at last (`FileSinks.Owns`): the world at last stands beside
the folder of the moment in what follows, and is any folder that this one grows into.

* `BufferedFile.Holds.write`, `BufferedFile.Holds.flush` -- a buffer loses nothing and keeps the order;
* `FileSinks.HaveGot.writeEach` -- a batch that is written is behind what the sinks have got before;
* `FileSinks.HaveGot.finishEach` -- what the sinks have got is in the files of their channels.
-/
import Mathlib.Data.List.Forall2
import Readout.Proofs.FilesKept

namespace Readout

/-! ## 1. Changes to one file -/

namespace Folder

/-- A folder becomes another one, and no file changes but the one at a place. -/
structure ChangesOnly (p : Place) (f g : Folder) : Prop where
  grows : f.Grows g
  others : ∀ q, q ≠ p → g.file? q = f.file? q

theorem ChangesOnly.refl (p : Place) (f : Folder) : ChangesOnly p f f := ⟨.refl f, fun _ _ => rfl⟩

theorem ChangesOnly.trans {p : Place} {f g h : Folder} (hfg : ChangesOnly p f g)
    (hgh : ChangesOnly p g h) : ChangesOnly p f h :=
  ⟨hfg.grows.trans hgh.grows, fun q hq => (hgh.others q hq).trans (hfg.others q hq)⟩

theorem changesOnly_put {f : Folder} {p : Place} {before after : Bytes}
    (h : f.file? p = some before) : ChangesOnly p f (f.put p (.file after)) := by
  have hne : f.found? p ≠ some .folder := by
    rw [file?_eq_some_iff.mp h]
    exact fun hsame => by cases hsame
  refine ⟨grows_put_file hne, ?_⟩
  intro q hq
  rw [file?, file?, found?_put_of_ne hq]

theorem changesOnly_write (f : Folder) (p : Place) (position : Option Nat) (octets : Bytes) :
    ChangesOnly p f (f.write p position octets) := by
  unfold write
  split
  · exact .refl p f
  · rename_i content hfile
    exact changesOnly_put hfile

theorem overlay_length (content octets : Bytes) :
    overlay content content.length octets = content ++ octets := by
  simp [overlay]

/-- What is written at the end of a file comes behind what is in it. -/
theorem file?_write {f : Folder} {p : Place} {content : Bytes} {position : Option Nat}
    (hfile : f.file? p = some content) (hend : position = none ∨ position = some content.length)
    (octets : Bytes) : (f.write p position octets).file? p = some (content ++ octets) := by
  have hne : f.found? p ≠ some .folder := by
    rw [file?_eq_some_iff.mp hfile]
    exact fun hsame => by cases hsame
  have hput : ∀ after : Bytes, (f.put p (.file after)).file? p = some after := by
    intro after
    refine file?_eq_some_iff.mpr ?_
    rw [found?_put hne, if_pos rfl]
  unfold write
  rw [hfile]
  rcases hend with rfl | rfl
  · exact hput _
  · rw [← overlay_length]
    exact hput _

end Folder

/-! ## 2. A file behind a buffer -/

namespace BufferedFile

/-- A file holds a content once what waits is written to its end. -/
def Holds (b : BufferedFile) (g : Folder) (content : Bytes) : Prop :=
  ∃ written, g.file? b.place = some written ∧
    (b.position = none ∨ b.position = some written.length) ∧ written ++ b.waiting = content

variable {b : BufferedFile} {g : Folder} {content : Bytes}

@[simp] theorem place_flush (b : BufferedFile) (g : Folder) : (b.flush g).1.place = b.place := by
  unfold flush
  split <;> rfl

/-- The ways of taking octets in. -/
theorem write_eq (b : BufferedFile) (octets : Bytes) (g : Folder) :
    b.write octets g =
      if octets.length < capacity - b.waiting.length then
        ({ b with waiting := b.waiting ++ octets }, g)
      else if capacity - b.waiting.length < octets.length then
        if capacity ≤ octets.length then (b.flush g).1.writeThrough octets (b.flush g).2
        else ({ (b.flush g).1 with waiting := (b.flush g).1.waiting ++ octets }, (b.flush g).2)
      else if capacity ≤ octets.length then b.writeThrough octets g
      else ({ b with waiting := b.waiting ++ octets }, g) := by
  unfold write
  by_cases hover : capacity - b.waiting.length < octets.length
  · simp only [if_pos hover]
  · simp only [if_neg hover]

@[simp] theorem place_write (b : BufferedFile) (octets : Bytes) (g : Folder) :
    (b.write octets g).1.place = b.place := by
  rw [write_eq]
  split
  · rfl
  · split
    · split <;> exact place_flush b g
    · split <;> rfl

theorem changesOnly_flush (b : BufferedFile) (g : Folder) :
    Folder.ChangesOnly b.place g (b.flush g).2 := by
  unfold flush
  split
  · exact .refl _ g
  · exact Folder.changesOnly_write g b.place _ _

theorem changesOnly_write (b : BufferedFile) (octets : Bytes) (g : Folder) :
    Folder.ChangesOnly b.place g (b.write octets g).2 := by
  have hthrough : ∀ (b : BufferedFile) (g : Folder),
      Folder.ChangesOnly b.place g (b.writeThrough octets g).2 :=
    fun b g => Folder.changesOnly_write g b.place _ _
  have hflushed : Folder.ChangesOnly b.place g ((b.flush g).1.writeThrough octets (b.flush g).2).2 := by
    have hsecond := hthrough (b.flush g).1 (b.flush g).2
    rw [place_flush] at hsecond
    exact (changesOnly_flush b g).trans hsecond
  rw [write_eq]
  split
  · exact .refl _ g
  · split <;> split
    · exact hflushed
    · exact changesOnly_flush b g
    · exact hthrough b g
    · exact .refl _ g

/-- What is written past an empty buffer comes behind what the file holds. -/
theorem Holds.writeThrough (h : b.Holds g content) (hempty : b.waiting = []) (octets : Bytes) :
    (b.writeThrough octets g).1.Holds (b.writeThrough octets g).2 (content ++ octets) := by
  obtain ⟨written, hfile, hend, hcontent⟩ := h
  rw [hempty, List.append_nil] at hcontent
  refine ⟨written ++ octets, Folder.file?_write hfile hend octets, ?_, ?_⟩
  · rcases hend with hend | hend
    · left
      simp [BufferedFile.writeThrough, hend]
    · right
      simp [BufferedFile.writeThrough, hend]
  · rw [hcontent]
    simp [BufferedFile.writeThrough, hempty]

/-- Writing out what waits changes nothing of what the file holds, and leaves nothing that waits. -/
theorem Holds.flush (h : b.Holds g content) :
    (b.flush g).1.Holds (b.flush g).2 content ∧ (b.flush g).1.waiting = [] := by
  unfold BufferedFile.flush
  split
  · rename_i hempty
    exact ⟨h, hempty⟩
  · obtain ⟨written, hfile, hend, rfl⟩ := h
    have hbefore : ({ b with waiting := [] } : BufferedFile).Holds g written :=
      ⟨written, hfile, hend, List.append_nil written⟩
    exact ⟨hbefore.writeThrough rfl b.waiting, rfl⟩

/-- What is taken into the buffer comes behind what the file holds. -/
theorem Holds.buffer (h : b.Holds g content) (octets : Bytes) :
    ({ b with waiting := b.waiting ++ octets } : BufferedFile).Holds g (content ++ octets) := by
  obtain ⟨written, hfile, hend, rfl⟩ := h
  exact ⟨written, hfile, hend, (List.append_assoc ..).symm⟩

/-- **What is written comes behind what the file holds**, whether it waits or not. -/
theorem Holds.write (h : b.Holds g content) (octets : Bytes) :
    (b.write octets g).1.Holds (b.write octets g).2 (content ++ octets) := by
  obtain ⟨hflushed, hempty⟩ := h.flush
  rw [write_eq]
  split
  · exact h.buffer octets
  · rename_i hfull
    split <;> rename_i hover <;> split <;> rename_i hlarge
    · exact hflushed.writeThrough hempty octets
    · exact hflushed.buffer octets
    · -- What fills the buffer alone finds it empty if it was not written out.
      refine h.writeThrough ?_ octets
      refine List.eq_nil_of_length_eq_zero ?_
      unfold capacity at hfull hover hlarge
      omega
    · exact h.buffer octets

/-- When nothing waits, the file has it all. -/
theorem Holds.file (h : b.Holds g content) (hempty : b.waiting = []) :
    g.file? b.place = some content := by
  obtain ⟨written, hfile, -, rfl⟩ := h
  rw [hfile, hempty, List.append_nil]

/-- What happens elsewhere does not matter. -/
theorem Holds.congr {g' : Folder} (h : b.Holds g content) (hsame : g'.file? b.place = g.file? b.place) :
    b.Holds g' content := by
  obtain ⟨written, hfile, hend, hcontent⟩ := h
  exact ⟨written, hsame.trans hfile, hend, hcontent⟩

end BufferedFile

/-! ## 3. A file sink -/

namespace FileSink

/-- What the file of a sink at a place holds once what waits is written to it.  Before it is created, that is
what creating it leaves there. -/
def Holds (s : FileSink) (g : Folder) (p : Place) (content : Bytes) : Prop :=
  match s.file with
  | none => g.opened s.append p = content
  | some file => file.place = p ∧ file.Holds g content

/-- The path of a sink leads to its file, if it has one. -/
def Leads (s : FileSink) (g : Folder) : Prop :=
  ∀ file, s.file = some file → ∃ content, g.find s.path = .ok (file.place, .file content)

theorem Leads.later {s : FileSink} {g g' : Folder} (h : s.Leads g) (hgrows : g.Grows g') :
    s.Leads g' := by
  intro file hfile
  obtain ⟨content, hfind⟩ := h file hfile
  exact hgrows.find hfind

theorem Holds.congr {s : FileSink} {g g' : Folder} {p : Place} {content : Bytes}
    (h : s.Holds g p content) (hsame : g'.file? p = g.file? p) : s.Holds g' p content := by
  unfold Holds at h ⊢
  cases hfile : s.file with
  | none =>
    rw [hfile] at h
    simp only [Folder.opened, hsame] at h ⊢
    exact h
  | some file =>
    rw [hfile] at h
    obtain ⟨rfl, hholds⟩ := h
    exact ⟨rfl, hholds.congr hsame⟩

/-- **A file that is created holds what creating leaves in it.** -/
theorem holds_create {s : FileSink} {folder after : Folder} {file : BufferedFile}
    (h : s.create folder = (.ok file, after)) :
    file.Holds after (folder.opened s.append file.place) := by
  obtain ⟨hempty, -, -, hfiles⟩ := create_eq_ok h
  refine ⟨folder.opened s.append file.place, by rw [hfiles, if_pos rfl], ?_, ?_⟩
  · unfold create at h
    split at h
    · cases h
    · split at h
      · cases h
      · cases h
        unfold Folder.opened
        cases s.append with
        | true => exact Or.inl rfl
        | false => exact Or.inr rfl
  · rw [hempty, List.append_nil]

/-- What writing samples to a sink comes to: it has its file then, and only this file has changed. -/
structure Wrote (s : FileSink) (samples : List UInt16) (g : Folder) (sink : FileSink) (g' : Folder)
    (file : BufferedFile) : Prop where
  becomes : sink = { s with file := some file, samples := s.samples + samples.length }
  grows : g.Grows g'
  leads : s.Leads g → sink.Leads g'
  others : ∀ q, q ≠ file.place → g'.file? q = g.file? q
  holds : ∀ content, s.Holds g file.place content →
    file.Holds g' (content ++ sampleOctets samples)

theorem wrote_of_write {s sink : FileSink} {samples : List UInt16} {g g' : Folder}
    (h : SampleSink.write s samples g = (none, sink, g')) : ∃ file, s.Wrote samples g sink g' file := by
  simp only [SampleSink.write, write] at h
  cases hfile : s.file with
  | some file =>
    simp only [hfile] at h
    have hchanges := file.changesOnly_write (sampleOctets samples) g
    have hplace := file.place_write (sampleOctets samples) g
    have hwritten : ∀ content, file.Holds g content →
        (file.write (sampleOctets samples) g).1.Holds (file.write (sampleOctets samples) g).2
          (content ++ sampleOctets samples) := fun content hholds => hholds.write _
    generalize file.write (sampleOctets samples) g = written at h hchanges hplace hwritten
    obtain ⟨file', after⟩ := written
    cases h
    refine ⟨file', rfl, hchanges.grows, ?_, ?_, ?_⟩
    · intro hleads other hother
      cases hother
      obtain ⟨content, hfind⟩ := hleads file hfile
      rw [hplace]
      exact hchanges.grows.find hfind
    · rw [hplace]
      exact hchanges.others
    · intro content hholds
      rw [Holds, hfile] at hholds
      exact hwritten content hholds.2
  | none =>
    simp only [hfile] at h
    cases hcreate : s.create g with
    | mk created between =>
      rw [hcreate] at h
      cases created with
      | error fault => cases h
      | ok file =>
        obtain ⟨-, hgrows, hfind, hfiles⟩ := create_eq_ok hcreate
        have hchanges := file.changesOnly_write (sampleOctets samples) between
        have hplace := file.place_write (sampleOctets samples) between
        have hwritten := (holds_create hcreate).write (sampleOctets samples)
        simp only at h
        generalize file.write (sampleOctets samples) between = written at h hchanges hplace hwritten
        obtain ⟨file', after⟩ := written
        cases h
        refine ⟨file', rfl, hgrows.trans hchanges.grows, ?_, ?_, ?_⟩
        · intro _ other hother
          cases hother
          rw [hplace]
          exact hchanges.grows.find hfind
        · intro q hq
          rw [hplace] at hq
          rw [hchanges.others q hq, hfiles, if_neg hq]
        · intro content hholds
          rw [Holds, hfile, hplace] at hholds
          rw [← hholds]
          exact hwritten

theorem sampleOctets_append (first second : List UInt16) :
    sampleOctets (first ++ second) = sampleOctets first ++ sampleOctets second :=
  List.flatMap_append

/-- What finishing a sink comes to: only its file changes, and has all that the sink holds then. -/
structure Finished (s : FileSink) (g : Folder) (fault : Option Fault) (sink : FileSink) (g' : Folder) :
    Prop where
  succeeds : fault = none
  samples : sink.samples = s.samples
  grows : g.Grows g'
  others : ∀ q, (∀ file, s.file = some file → q ≠ file.place) → g'.file? q = g.file? q
  holds : s.file ≠ none → ∀ p content, s.Holds g p content → g'.file? p = some content

theorem finished_of_finish {s sink : FileSink} {g g' : Folder} {fault : Option Fault}
    (h : SampleSink.finish s g = (fault, sink, g')) : s.Finished g fault sink g' := by
  simp only [SampleSink.finish, flush] at h
  cases hfile : s.file with
  | none =>
    simp only [hfile] at h
    cases h
    exact ⟨rfl, rfl, .refl g, fun _ _ => rfl, fun hnone => absurd hfile hnone⟩
  | some file =>
    have hchanges := file.changesOnly_flush g
    have hplace := file.place_flush g
    have hflushed : ∀ content, file.Holds g content →
        (file.flush g).2.file? file.place = some content := by
      intro content hholds
      obtain ⟨hlater, hempty⟩ := hholds.flush
      rw [← hplace]
      exact hlater.file hempty
    simp only [hfile] at h
    cases h
    refine ⟨rfl, rfl, hchanges.grows, ?_, ?_⟩
    · intro q hq
      exact hchanges.others q (hq file hfile)
    · intro _ p content hholds
      rw [Holds, hfile] at hholds
      obtain ⟨rfl, hholds⟩ := hholds
      exact hflushed content hholds

end FileSink

/-! ## 4. The sinks of all channels -/

namespace FileSinks

/-- The path of a channel leads to the file at a place. -/
def LeadsTo (f : FileSinks) (g : Folder) (channel : UInt32) (p : Place) : Prop :=
  ∃ content, g.find (f.pathFor channel) = .ok (p, .file content)

/-- The file at a place is the one that the path of a channel leads to, and no other of some channels. -/
structure Owns (f : FileSinks) (channels : List UInt32) (g : Folder) (channel : UInt32) (p : Place) :
    Prop where
  leads : f.LeadsTo g channel p
  alone : ∀ other ∈ channels, f.LeadsTo g other p → other = channel

/-- A folder becomes another one, and no file changes but those to which the paths of some channels lead in the
world at last. -/
structure Confined (f : FileSinks) (world : Folder) (channels : List UInt32) (g g' : Folder) : Prop where
  grows : g.Grows g'
  others : ∀ p, (∀ channel ∈ channels, ¬f.LeadsTo world channel p) → g'.file? p = g.file? p

section

variable {f : FileSinks} {channels more all : List UInt32} {before world g g' g'' : Folder}
  {channel : UInt32} {p q : Place} {samples : List UInt16} {sink : FileSink}

theorem LeadsTo.later (h : f.LeadsTo g channel p) (hgrows : g.Grows g') : f.LeadsTo g' channel p := by
  obtain ⟨content, hfind⟩ := h
  exact hgrows.find hfind

theorem LeadsTo.unique (hp : f.LeadsTo g channel p) (hq : f.LeadsTo g channel q) : p = q := by
  obtain ⟨content, hfind⟩ := hp
  obtain ⟨content', hfind'⟩ := hq
  cases hfind.symm.trans hfind'
  rfl

theorem Confined.refl (f : FileSinks) (world : Folder) (channels : List UInt32) (g : Folder) :
    f.Confined world channels g g := ⟨.refl g, fun _ _ => rfl⟩

theorem Confined.trans (hfirst : f.Confined world channels g g')
    (hrest : f.Confined world more g' g'') : f.Confined world (channels ++ more) g g'' := by
  refine ⟨hfirst.grows.trans hrest.grows, ?_⟩
  intro p hp
  rw [hrest.others p fun channel hchannel => hp channel (List.mem_append_right _ hchannel)]
  exact hfirst.others p fun channel hchannel => hp channel (List.mem_append_left _ hchannel)

theorem Confined.again (hfirst : f.Confined world channels g g')
    (hrest : f.Confined world channels g' g'') : f.Confined world channels g g'' :=
  ⟨hfirst.grows.trans hrest.grows, fun p hp => (hrest.others p hp).trans (hfirst.others p hp)⟩

/-- What changes only the files of some channels leaves a file alone that is another channel's own. -/
theorem Confined.owned (h : f.Confined world channels g g') (howns : f.Owns all world channel p)
    (hmem : ∀ other ∈ channels, other ∈ all) (hnot : channel ∉ channels) : g'.file? p = g.file? p := by
  refine h.others p ?_
  intro other hother hleads
  rw [howns.alone other (hmem other hother) hleads] at hother
  exact hnot hother

/-- What changes only the file at a place to which the path of a channel leads. -/
theorem confined_of_place (hplace : f.LeadsTo world channel q) (hgrows : g.Grows g')
    (hothers : ∀ p, p ≠ q → g'.file? p = g.file? p) : f.Confined world [channel] g g' := by
  refine ⟨hgrows, ?_⟩
  intro p hp
  refine hothers p ?_
  rintro rfl
  exact hp channel List.mem_cons_self hplace

/-- A sink has got samples for a channel since an acquisition began with a folder: it has counted them and, if
its file is the channel's own in the world at last, what it holds is what was there and these samples. -/
structure HasGot (f : FileSinks) (all : List UInt32) (before world g : Folder) (channel : UInt32)
    (samples : List UInt16) (sink : FileSink) : Prop where
  path : sink.path = f.pathFor channel
  append : sink.append = f.append
  leads : sink.Leads g
  count : sink.samples = samples.length
  holds : ∀ p, f.Owns all world channel p →
    sink.Holds g p (before.opened f.append p ++ FileSink.sampleOctets samples)

theorem HasGot.later (h : f.HasGot all before world g channel samples sink) (hgrows : g.Grows g')
    (hsame : ∀ p, f.Owns all world channel p → g'.file? p = g.file? p) :
    f.HasGot all before world g' channel samples sink :=
  ⟨h.path, h.append, h.leads.later hgrows, h.count, fun p hp => (h.holds p hp).congr (hsame p hp)⟩

/-- The path of a channel leads to its sink's file. -/
theorem HasGot.leadsTo (h : f.HasGot all before world g channel samples sink) {file : BufferedFile}
    (hfile : sink.file = some file) : f.LeadsTo g channel file.place := by
  obtain ⟨content, hfind⟩ := h.leads file hfile
  rw [h.path] at hfind
  exact ⟨content, hfind⟩

/-- Writing more samples to a sink. -/
theorem HasGot.write {added : List UInt16} {sink' : FileSink} {file : BufferedFile}
    (h : f.HasGot all before world g channel samples sink)
    (hwrote : sink.Wrote added g sink' g' file) (hgrows : g'.Grows world) :
    f.Confined world [channel] g g' ∧ f.HasGot all before world g' channel (samples ++ added) sink' := by
  have hsink := hwrote.becomes
  have hplace : f.LeadsTo world channel file.place := by
    obtain ⟨content, hfind⟩ := hwrote.leads h.leads file (by rw [hsink])
    have hpath : sink'.path = f.pathFor channel := by rw [hsink, ← h.path]
    rw [hpath] at hfind
    exact hgrows.find hfind
  refine ⟨confined_of_place hplace hwrote.grows hwrote.others, ?_, ?_, hwrote.leads h.leads, ?_, ?_⟩
  · rw [hsink]
    exact h.path
  · rw [hsink]
    exact h.append
  · rw [hsink, List.length_append, h.count]
  · intro p hp
    obtain rfl := hplace.unique hp.leads
    have hholds := hwrote.holds _ (h.holds _ hp)
    rw [List.append_assoc, ← FileSink.sampleOctets_append] at hholds
    rw [hsink]
    exact ⟨rfl, hholds⟩

/-- Finishing a sink. -/
theorem HasGot.finish {fault : Option Fault} {sink' : FileSink}
    (h : f.HasGot all before world g channel samples sink)
    (hfinished : sink.Finished g fault sink' g') (hgrows : g'.Grows world) :
    f.Confined world [channel] g g' := by
  refine ⟨hfinished.grows, ?_⟩
  intro p hp
  refine hfinished.others p ?_
  rintro file hfile rfl
  exact hp channel List.mem_cons_self ((h.leadsTo hfile).later (hfinished.grows.trans hgrows))

/-- The world only grows when samples are written. -/
theorem grows_writeEach {sinks after : List FileSink} {batches : List (List UInt16)}
    (h : Reassembly.writeEach channels sinks batches g = (none, after, g')) : g.Grows g' := by
  fun_induction Reassembly.writeEach channels sinks batches g generalizing after g' with
  | case1 => cases h
  | case2 channel channels sink sinks samples more g sink' between hwrite failure sinks' g'' hrest ih =>
    cases h
    obtain ⟨file, hwrote⟩ := FileSink.wrote_of_write hwrite
    exact hwrote.grows.trans (ih hrest)
  | case3 =>
    cases h
    exact .refl _

/-- The world only grows when sinks are finished. -/
theorem grows_finishEach (channels : List UInt32) (sinks : List FileSink) (g : Folder) :
    g.Grows (Reassembly.finishEach channels sinks g).2.2 := by
  fun_induction Reassembly.finishEach channels sinks g with
  | case1 channel channels sink sinks g fault after between hfinish failure sinks' g' hrest ih =>
    rw [hrest] at ih
    exact (FileSink.finished_of_finish hfinish).grows.trans ih
  | case2 => exact .refl _

end

/-- The sinks of channels have got samples for them. -/
abbrev HaveGot (f : FileSinks) (all : List UInt32) (before world g : Folder)
    (samples : UInt32 → List UInt16) : List UInt32 → List FileSink → Prop :=
  List.Forall₂ fun channel => f.HasGot all before world g channel (samples channel)

variable {f : FileSinks} {all channels : List UInt32} {before world g g' : Folder}
  {samples : UInt32 → List UInt16} {sinks after : List FileSink}

/-- A change to the file of another channel does not matter. -/
theorem HaveGot.later (h : f.HaveGot all before world g samples channels sinks) {other : UInt32}
    (hconfined : f.Confined world [other] g g') (hmem : other ∈ all) (hfresh : other ∉ channels) :
    f.HaveGot all before world g' samples channels sinks := by
  have hapart : ∀ channel ∈ channels, channel ∉ [other] := by
    intro channel hchannel hsame
    rw [List.mem_singleton.mp hsame] at hchannel
    exact hfresh hchannel
  refine ((List.forall₂_and_left _ _).mpr ⟨hapart, h⟩).imp ?_
  rintro channel sink ⟨hnot, hgot⟩
  refine hgot.later hconfined.grows ?_
  exact fun p hp => hconfined.owned hp (List.forall_mem_singleton.mpr hmem) hnot

theorem HaveGot.of_eq {samples' : UInt32 → List UInt16}
    (h : f.HaveGot all before world g samples channels sinks)
    (hsame : ∀ channel ∈ channels, samples channel = samples' channel) :
    f.HaveGot all before world g samples' channels sinks := by
  refine ((List.forall₂_and_left _ _).mpr ⟨hsame, h⟩).imp ?_
  rintro channel sink ⟨heq, hgot⟩
  simpa only [heq] using hgot

/-- Sinks that were just opened have got nothing. -/
theorem haveGot_opened (f : FileSinks) (all : List UInt32) (before world : Folder)
    (channels : List UInt32) :
    f.HaveGot all before world before (fun _ => []) channels (channels.map f.openSink) := by
  refine List.forall₂_map_right_iff.mpr (List.forall₂_same.mpr ?_)
  intro channel hchannel
  refine ⟨rfl, rfl, ?_, rfl, fun p _ => (List.append_nil _).symm⟩
  intro file hfile
  cases hfile

/-- **Writing a batch gives every channel's file its samples.** -/
theorem HaveGot.writeEach {added : UInt32 → List UInt16}
    (h : f.HaveGot all before world g samples channels sinks) (hdistinct : channels.Nodup)
    (hmem : ∀ channel ∈ channels, channel ∈ all) (hgrows : g'.Grows world)
    (hwrite : Reassembly.writeEach channels sinks (channels.map added) g = (none, after, g')) :
    f.HaveGot all before world g' (fun channel => samples channel ++ added channel) channels after ∧
      (∀ sink ∈ after, sink.file ≠ none) ∧ f.Confined world channels g g' := by
  induction channels generalizing sinks after g with
  | nil =>
    cases h
    cases hwrite
    refine ⟨.nil, ?_, .refl ..⟩
    intro sink hsink
    cases hsink
  | cons channel channels ih =>
    cases h with
    | @cons _ sink _ sinks hsink hsinks =>
      rw [List.map_cons, Reassembly.writeEach] at hwrite
      split at hwrite
      · cases hwrite
      · rename_i sink' between hfirst
        simp only at hwrite
        generalize hrest : Reassembly.writeEach channels sinks (channels.map added) between = result
          at hwrite
        obtain ⟨failure, rest, last⟩ := result
        cases hwrite
        obtain ⟨hfresh, hdistinct⟩ := List.nodup_cons.mp hdistinct
        obtain ⟨hown, hmore⟩ := List.forall_mem_cons.mp hmem
        obtain ⟨file, hwrote⟩ := FileSink.wrote_of_write hfirst
        have hlater := grows_writeEach hrest
        obtain ⟨hconfined, hgot⟩ := hsink.write hwrote (hlater.trans hgrows)
        have hkept := HaveGot.later hsinks hconfined hown hfresh
        obtain ⟨hall, hfiles, hothers⟩ := ih hkept hdistinct hmore hrest
        refine ⟨.cons ?_ hall, ?_, hconfined.trans hothers⟩
        · exact hgot.later hlater fun p hp => hothers.owned hp hmore hfresh
        · refine List.forall_mem_cons.mpr ⟨?_, hfiles⟩
          rw [hwrote.becomes]
          exact Option.some_ne_none _

/-- What finishing the sinks of channels comes to, when they have got samples: every sink has counted them, and
every file has them if it is there and the channel's own. -/
structure Filled (f : FileSinks) (all : List UInt32) (before world : Folder)
    (samples : UInt32 → List UInt16) (channels : List UInt32) (sinks : List FileSink) (g : Folder)
    (failure : Option (UInt32 × Fault)) (after : List FileSink) (g' : Folder) : Prop where
  succeeds : failure = none
  counts : ∀ sink ∈ after, ∃ channel ∈ channels, sink.samples = (samples channel).length
  confined : f.Confined world channels g g'
  holds : (∀ sink ∈ sinks, sink.file ≠ none) → ∀ channel ∈ channels,
    (∃ p, f.LeadsTo g' channel p) ∧
      ∀ p, f.Owns all world channel p →
        g'.file? p = some (before.opened f.append p ++ FileSink.sampleOctets (samples channel))

/-- **Finishing the sinks fills every channel's file.** -/
theorem HaveGot.finishEach {failure : Option (UInt32 × Fault)}
    (h : f.HaveGot all before world g samples channels sinks) (hdistinct : channels.Nodup)
    (hmem : ∀ channel ∈ channels, channel ∈ all) (hgrows : g'.Grows world)
    (hfinish : Reassembly.finishEach channels sinks g = (failure, after, g')) :
    f.Filled all before world samples channels sinks g failure after g' := by
  induction channels generalizing sinks after g failure with
  | nil =>
    cases h
    cases hfinish
    refine ⟨rfl, ?_, .refl .., ?_⟩
    · intro sink hsink
      cases hsink
    · intro _ channel hchannel
      cases hchannel
  | cons channel channels ih =>
    cases h with
    | @cons _ sink _ sinks hsink hsinks =>
      rw [Reassembly.finishEach] at hfinish
      generalize hfirst : SampleSink.finish sink g = first at hfinish
      obtain ⟨fault, sink', between⟩ := first
      simp only at hfinish
      generalize hrest : Reassembly.finishEach channels sinks between = result at hfinish
      obtain ⟨failure', rest, last⟩ := result
      cases hfinish
      obtain ⟨hfresh, hdistinct⟩ := List.nodup_cons.mp hdistinct
      obtain ⟨hown, hmore⟩ := List.forall_mem_cons.mp hmem
      have hfinished := FileSink.finished_of_finish hfirst
      have hlater := grows_finishEach channels sinks between
      rw [hrest] at hlater
      have hconfined := hsink.finish hfinished (hlater.trans hgrows)
      have hkept := HaveGot.later hsinks hconfined hown hfresh
      have hfilled := ih hkept hdistinct hmore hrest
      refine ⟨?_, ?_, hconfined.trans hfilled.confined, ?_⟩
      · rw [hfinished.succeeds, hfilled.succeeds]
        rfl
      · intro other hother
        rcases List.mem_cons.mp hother with rfl | hother
        · exact ⟨channel, List.mem_cons_self, hfinished.samples.trans hsink.count⟩
        · obtain ⟨owner, howner, hcount⟩ := hfilled.counts other hother
          exact ⟨owner, List.mem_cons_of_mem _ howner, hcount⟩
      · intro hfiles
        obtain ⟨hfile, hfiles⟩ := List.forall_mem_cons.mp hfiles
        refine List.forall_mem_cons.mpr ⟨⟨?_, ?_⟩, hfilled.holds hfiles⟩
        · obtain ⟨file, hfile⟩ := Option.ne_none_iff_exists'.mp hfile
          exact ⟨file.place, (hsink.leadsTo hfile).later (hfinished.grows.trans hlater)⟩
        · intro p hp
          rw [hfilled.confined.owned hp hmore hfresh]
          exact hfinished.holds hfile p _ (hsink.holds p hp)

end FileSinks

end Readout

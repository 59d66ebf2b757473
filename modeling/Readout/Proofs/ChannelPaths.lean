/-
# The paths of channel files

The name of a channel's file has the channel's number in it, and no two numbers are written alike.  So files
of different channels lie at different places, as long as it is this name that a path ends in: the extension
must not have a slash in it, which would put another name behind.

* `FileSinks.name_inj` -- the names of two channels' files differ;
* `FileSinks.owns_of_plain` -- without a slash in the extension, no two channels' paths lead to one file.
-/
import Readout.Proofs.FileWriting

namespace Readout

/-! ## 1. The last name of a path -/

namespace Text

/-- A text without a separator is one part. -/
theorem parts_of_not_mem {separator : Char} {cs : List Char} (h : separator ∉ cs) :
    parts separator cs = [cs] := by
  induction cs with
  | nil => rfl
  | cons c cs ih =>
    have hne : c ≠ separator := fun heq => h (heq ▸ List.mem_cons_self)
    rw [parts, if_neg hne, ih fun hmem => h (List.mem_cons_of_mem _ hmem)]

/-- The parts on either side of a separator. -/
theorem parts_append (separator : Char) (front back : List Char) :
    parts separator (front ++ separator :: back) = parts separator front ++ parts separator back := by
  induction front with
  | nil => simp [parts]
  | cons c front ih =>
    rw [List.cons_append, parts, parts, ih]
    cases hparts : parts separator front with
    | nil => exact absurd hparts (parts_ne_nil separator front)
    | cons part more =>
      split <;> rfl

end Text

namespace Path

/-- The name behind the last slash is the last one. -/
theorem names_getLast? {path : String} {front name : List Char} (hname : '/' ∉ name) (hne : name ≠ [])
    (hpath : path.toList = name ∨ path.toList = front ++ '/' :: name) :
    (names path).getLast? = some (String.ofList name) := by
  have hkept : (String.ofList name != "") = true := by
    refine bne_iff_ne.mpr ?_
    intro hempty
    exact hne (by simpa using congrArg String.toList hempty)
  unfold names parts
  rcases hpath with hpath | hpath
  · rw [hpath, Text.parts_of_not_mem hname]
    simp [hkept]
  · rw [hpath, Text.parts_append, Text.parts_of_not_mem hname]
    simp [List.filter_append, hkept]

/-- A path that ends in a slash, by its characters. -/
theorem endsInSlash_iff {path : String} :
    endsInSlash path = true ↔ ∃ front, path.toList = front ++ ['/'] := by
  rw [endsInSlash, String.endsWith_eq_endsWith_toSlice, String.Slice.endsWith_string_iff,
    String.copy_toSlice]
  exact exists_congr fun front => eq_comm

/-- Where a name comes to stand when it is joined to a path. -/
theorem toList_join (front back : String) :
    (join front back).toList = back.toList ∨
      ∃ before, (join front back).toList = before ++ '/' :: back.toList := by
  unfold join
  split
  · exact Or.inl rfl
  · split
    · rename_i hslash
      obtain ⟨before, hfront⟩ := endsInSlash_iff.mp hslash
      exact Or.inr ⟨before, by simp [hfront]⟩
    · exact Or.inr ⟨front.toList, by simp⟩

end Path

/-! ## 2. The names of channel files -/

namespace Folder

/-- The name at which a walk ends is the last one of its path. -/
theorem getLast?_of_walk {g : Folder} {path name : String} {p : Place} {slash : Bool}
    (h : g.walk path = .ok (.name p name slash)) : (Path.names path).getLast? = some name := by
  unfold walk at h
  cases hcheck : Path.check path with
  | error fault =>
    rw [hcheck] at h
    cases h
  | ok done =>
    cases hwalked : (Path.names path).dropLast.foldlM g.enter (Place.startOf path) with
    | error fault =>
      simp only [hcheck, hwalked] at h
      cases h
    | ok reached =>
      simp only [hcheck, hwalked, bind, Except.bind] at h
      split at h
      · cases h
      · cases h
      · cases h
      · rename_i hlast
        cases h
        exact hlast

end Folder

namespace FileSinks

/-- The name of a channel's file. -/
def nameFor (f : FileSinks) (channel : UInt32) : String :=
  "channel_" ++ toString channel.toNat ++ "." ++ f.extension

theorem pathFor_eq (f : FileSinks) (channel : UInt32) :
    f.pathFor channel = Path.join f.folder (f.nameFor channel) := rfl

theorem toList_nameFor (f : FileSinks) (channel : UInt32) :
    (f.nameFor channel).toList =
      "channel_".toList ++ (Nat.toDigits 10 channel.toNat ++ '.' :: f.extension.toList) := by
  simp [nameFor, Nat.toString_eq_repr]

/-- **The names of two channels' files differ.** -/
theorem name_inj {f : FileSinks} {channel other : UInt32} (h : f.nameFor channel = f.nameFor other) :
    channel = other := by
  have hlists := congrArg String.toList h
  rw [toList_nameFor, toList_nameFor, List.append_cancel_left_eq, List.append_cancel_right_eq] at hlists
  have hnumbers := congrArg (fun digits => Nat.ofDigitChars 10 digits 0) hlists
  simp only [Nat.ofDigitChars_ten_toDigits] at hnumbers
  exact UInt32.toNat_inj.mp hnumbers

/-- Without a slash in the extension, there is none in the name. -/
theorem slash_not_mem_nameFor {f : FileSinks} (h : '/' ∉ f.extension.toList) (channel : UInt32) :
    '/' ∉ (f.nameFor channel).toList := by
  rw [toList_nameFor]
  intro hmem
  rcases List.mem_append.mp hmem with hmem | hmem
  · exact absurd hmem (by decide)
  · rcases List.mem_append.mp hmem with hmem | hmem
    · have hdigit := Nat.isDigit_of_mem_toDigits (by decide) (by decide) hmem
      exact absurd hdigit (by decide)
    · rcases List.mem_cons.mp hmem with hdot | hmem
      · exact absurd hdot (by decide)
      · exact h hmem

/-- A path that leads to a file leads to one with the channel's name. -/
theorem LeadsTo.getLast? {f : FileSinks} (hplain : '/' ∉ f.extension.toList) {g : Folder}
    {channel : UInt32} {p : Place} (h : f.LeadsTo g channel p) :
    p.getLast? = some (f.nameFor channel) := by
  obtain ⟨content, hfind⟩ := h
  obtain ⟨q, name, hwalk, -, rfl, -⟩ := Folder.find_eq_file_iff.mp hfind
  have hname := Folder.getLast?_of_walk hwalk
  have hne : (f.nameFor channel).toList ≠ [] := by
    rw [toList_nameFor]
    exact fun hnil => by cases hnil
  have hplace : ∃ front, (f.pathFor channel).toList = (f.nameFor channel).toList ∨
      (f.pathFor channel).toList = front ++ '/' :: (f.nameFor channel).toList := by
    rw [pathFor_eq]
    rcases Path.toList_join f.folder (f.nameFor channel) with hjoin | ⟨before, hjoin⟩
    · exact ⟨[], Or.inl hjoin⟩
    · exact ⟨before, Or.inr hjoin⟩
  obtain ⟨front, hplace⟩ := hplace
  rw [Path.names_getLast? (slash_not_mem_nameFor hplain channel) hne hplace, String.ofList_toList] at hname
  rw [List.getLast?_concat, ← hname]

/-- **Without a slash in the extension, a path leads to its channel's own file.** -/
theorem owns_of_plain {f : FileSinks} (hplain : '/' ∉ f.extension.toList) (channels : List UInt32)
    {g : Folder} {channel : UInt32} {p : Place} (h : f.LeadsTo g channel p) :
    f.Owns channels g channel p := by
  refine ⟨h, ?_⟩
  intro other _ hother
  have hsame := (LeadsTo.getLast? hplain hother).symm.trans (LeadsTo.getLast? hplain h)
  exact name_inj (Option.some.inj hsame)

end FileSinks

end Readout

import Mathlib
import ResolverScaffold.Generation
import ResolverScaffold.Proofs.Autobind.OwnFiles
import ResolverScaffold.Proofs.Disk

/-!
# Writing files

Files are written one after the other.  A file that could not be written has changed
no file, unless the device has cut it short.  So the files that changed are those with
the outcome `written`, and the one that stopped the writing if it was cut.

* `write_eq_ok` and `write_eq_error`: what one file changes.
* `altersOnly_writeAll`: what a list of files changes.
* `look_of_exists?`: a file that is not to be replaced stays as it was.
-/

namespace ResolverScaffold

open Generation (pathsWith)

namespace GeneratedFile

variable {disk later : Disk} {file : GeneratedFile}

/-- A failure to write is about a file or about the directory of that file. -/
def Concerns (file : GeneratedFile) (e : WriteError) : Prop :=
  e.path = file.path ∨ Path.parent? file.path = some e.path

theorem altersOnly_makeParent (disk : Disk) (file : GeneratedFile) :
    Disk.AltersOnly disk (file.makeParent disk).1 [] := by
  rw [makeParent]
  split
  · exact .refl disk []
  · next parent hParent => exact Disk.altersOnly_makeDirectories disk parent

theorem concerns_of_makeParent {e : WriteError} (h : (file.makeParent disk).2 = some e) :
    file.Concerns e := by
  rw [makeParent] at h
  split at h
  · cases h
  · next parent hParent =>
    obtain ⟨reason, -, rfl⟩ := Option.map_eq_some_iff.1 h
    exact .inr hParent

/-- The device has taken a part of a file and no more, and the file holds that part. -/
structure CutShort (file : GeneratedFile) (disk later : Disk) (e : WriteError) : Prop where
  path : e.path = file.path
  device : ∃ before after bytes, disk.device before after = .cut bytes e.reason
  part : ∃ node, later.look file.path = .ok node ∧ node.IsPart file.contents
  alters : Disk.AltersOnly disk later [disk.destination file.path]

theorem store_eq_none (h : file.store disk = (later, none)) :
    ∃ made, file.makeParent disk = (made, none)
      ∧ made.writeText file.path file.contents = .ok later := by
  rw [store] at h
  split at h
  · cases h
  · next made hMade =>
    refine ⟨made, hMade, ?_⟩
    rcases made.save_cases file.path file.contents with ⟨written, hWritten, hSave⟩
      | ⟨reason, hSave⟩ | ⟨written, bytes, reason, part, -, -, hSave⟩
    · rw [hSave] at h
      cases h
      exact hWritten
    · rw [hSave] at h
      cases h
    · rw [hSave] at h
      cases h

theorem altersOnly_store (h : file.store disk = (later, none)) :
    Disk.AltersOnly disk later [disk.destination file.path] := by
  obtain ⟨made, hMade, hWritten⟩ := store_eq_none h
  have hParent := altersOnly_makeParent disk file
  rw [hMade] at hParent
  rw [← hParent.destination_eq]
  exact hParent.trans (Disk.altersOnly_of_writeNode hWritten)

theorem store_eq_error {e : WriteError} (h : file.store disk = (later, some e)) :
    (Disk.AltersOnly disk later [] ∨ file.CutShort disk later e) ∧ file.Concerns e := by
  have hParent := altersOnly_makeParent disk file
  rw [store] at h
  split at h
  · next made e' hMade =>
    cases h
    rw [hMade] at hParent
    exact ⟨.inl hParent, concerns_of_makeParent (by rw [hMade])⟩
  · next made hMade =>
    rw [hMade] at hParent
    rcases made.save_cases file.path file.contents with ⟨written, -, hSave⟩ | ⟨reason, hSave⟩
      | ⟨written, bytes, reason, part, hCut, hPart, hSave⟩
    · rw [hSave] at h
      cases h
    · rw [hSave] at h
      cases h
      exact ⟨.inl hParent, .inl rfl⟩
    · rw [hSave] at h
      cases h
      refine ⟨.inr ⟨rfl, ⟨made.nodes, written, bytes, ?_⟩, ?_, ?_⟩, .inl rfl⟩
      · rw [← hParent.device]
        exact hCut
      · exact ⟨_, Disk.look_of_writeNode hPart, DiskNode.isPart_firstBytes file.contents bytes⟩
      · rw [← hParent.destination_eq]
        exact hParent.trans (Disk.altersOnly_of_writeNode hPart)

theorem write_eq_ok {outcome : WriteOutcome} (h : file.write disk = (later, .ok outcome)) :
    Disk.AltersOnly disk later
      (if outcome = .written then [disk.destination file.path] else []) := by
  rw [write] at h
  split_ifs at h with hSkip hCurrent
  · cases h
    exact .refl disk []
  · cases h
    exact .refl disk []
  · split at h
    · next written hStore =>
      cases h
      exact altersOnly_store hStore
    · cases h

theorem write_eq_error {e : WriteError} (h : file.write disk = (later, .error e)) :
    (Disk.AltersOnly disk later [] ∨ file.CutShort disk later e) ∧ file.Concerns e := by
  rw [write] at h
  split_ifs at h with hSkip hCurrent
  · cases h
  · cases h
  · split at h
    · cases h
    · next written e' hStore =>
      cases h
      exact store_eq_error hStore

theorem write_of_exists? (hExists : disk.exists? file.path = true) (hKeep : file.overwrite = false) :
    file.write disk = (disk, .ok .skipped) := by
  rw [write, hExists, hKeep]
  rfl

end GeneratedFile

/-! ### One file after the other -/

section

variable {disk : Disk} {files : List GeneratedFile}

theorem Generation.pathsWith_cons (outcome : WriteOutcome) (path : String) (outcome' : WriteOutcome)
    (outcomes : List (String × WriteOutcome)) :
    pathsWith outcome ((path, outcome') :: outcomes)
      = if outcome' = outcome then path :: pathsWith outcome outcomes
        else pathsWith outcome outcomes := by
  rw [pathsWith, List.filter_cons]
  split_ifs <;> simp_all [pathsWith]

theorem Generation.mem_pathsWith_iff {outcome : WriteOutcome} {path : String}
    {outcomes : List (String × WriteOutcome)} :
    path ∈ pathsWith outcome outcomes ↔ (path, outcome) ∈ outcomes := by
  simp [pathsWith]

theorem Generation.pathsWith_sublist (outcome : WriteOutcome)
    (outcomes : List (String × WriteOutcome)) :
    (pathsWith outcome outcomes).Sublist (outcomes.map (·.1)) :=
  List.filter_sublist.map _

/-- If all files are written, those that changed have the outcome `written`. -/
theorem altersOnly_writeAll (h : (writeAll disk files).error = none) :
    Disk.AltersOnly disk (writeAll disk files).disk
      ((pathsWith .written (writeAll disk files).outcomes).map disk.destination) := by
  induction files generalizing disk with
  | nil => exact .refl disk _
  | cons file rest ih =>
    rw [writeAll] at h ⊢
    split at h
    · cases h
    · next written outcome hWrite =>
      have hFirst := GeneratedFile.write_eq_ok hWrite
      have hDestination : written.destination = disk.destination := funext hFirst.destination_eq
      have hBoth := hFirst.trans (ih h)
      rw [hDestination] at hBoth
      rw [Generation.pathsWith_cons]
      split_ifs at hBoth ⊢ <;> exact hBoth

theorem outcomes_of_writeAll (h : (writeAll disk files).error = none) :
    (writeAll disk files).outcomes.map (·.1) = files.map (·.path) := by
  induction files generalizing disk with
  | nil => rfl
  | cons file rest ih =>
    rw [writeAll] at h ⊢
    split at h
    · cases h
    · next written outcome hWrite => exact congrArg (file.path :: ·) (ih h)

/-- Writing stops at the first file that cannot be written. -/
theorem writeAll_eq_error {e : WriteError} (h : (writeAll disk files).error = some e) :
    ∃ before file after, files = before ++ file :: after ∧ (writeAll disk before).error = none
      ∧ file.write (writeAll disk before).disk = ((writeAll disk files).disk, .error e) := by
  induction files generalizing disk with
  | nil => cases h
  | cons first rest ih =>
    rw [writeAll] at h ⊢
    split at h
    · next written e' hWrite =>
      cases h
      exact ⟨[], first, rest, rfl, rfl, hWrite⟩
    · next written outcome hWrite =>
      obtain ⟨before, file, after, rfl, hBefore, hFile⟩ := ih h
      refine ⟨first :: before, file, after, rfl, ?_, ?_⟩
      · rw [writeAll, hWrite]
        exact hBefore
      · rw [writeAll, hWrite]
        exact hFile

/-- A file that was there before and is not to be replaced is still there when its turn comes. -/
theorem skipped_of_exists? {i : Nat} {file : GeneratedFile} {found : String × WriteOutcome}
    (hFile : files[i]? = some file) (hKeep : file.overwrite = false)
    (hExists : disk.exists? file.path = true)
    (hFound : (writeAll disk files).outcomes[i]? = some found) : found.2 = .skipped := by
  induction files generalizing disk i with
  | nil => cases hFile
  | cons first rest ih =>
    rw [writeAll] at hFound
    split at hFound
    · cases hFound
    · next written outcome hWrite =>
      cases i with
      | zero =>
        cases hFile
        cases hFound
        rw [GeneratedFile.write_of_exists? hExists hKeep] at hWrite
        cases hWrite
        rfl
      | succ i =>
        have hStill := (GeneratedFile.write_eq_ok hWrite).exists?_eq_true hExists
        exact ih hFile hStill hFound

theorem index_eq_of_destination_eq {i j : Nat} {file other : GeneratedFile}
    (hDistinct : (files.map fun f => disk.destination f.path).Nodup)
    (hOther : files[j]? = some other) (hFile : files[i]? = some file)
    (hSame : disk.destination other.path = disk.destination file.path) : j = i := by
  have hPlaces : (files.map fun f => disk.destination f.path)[j]?
      = (files.map fun f => disk.destination f.path)[i]? := by
    rw [List.getElem?_map, List.getElem?_map, hOther, hFile, Option.map_some, Option.map_some, hSame]
  have hBound : j < (files.map fun f => disk.destination f.path).length := by
    rw [List.length_map]
    exact (List.getElem?_eq_some_iff.1 hOther).1
  exact (List.getElem?_inj hBound hDistinct).1 hPlaces

/-- A file that was there before and is not to be replaced is as it was, if no other file of the
list is written in its place. -/
theorem look_of_exists? {i : Nat} {file : GeneratedFile}
    (hDistinct : (files.map fun f => disk.destination f.path).Nodup)
    (hDone : (writeAll disk files).error = none) (hFile : files[i]? = some file)
    (hKeep : file.overwrite = false) (hExists : disk.exists? file.path = true) :
    file.path ∈ pathsWith .skipped (writeAll disk files).outcomes
      ∧ (writeAll disk files).disk.look file.path = disk.look file.path := by
  have hPaths : ∀ j : Nat, ((writeAll disk files).outcomes[j]?).map (·.1) = files[j]?.map (·.path) := by
    intro j
    rw [← List.getElem?_map, outcomes_of_writeAll hDone, List.getElem?_map]
  have hHere := hPaths i
  rw [hFile, Option.map_some, Option.map_eq_some_iff] at hHere
  obtain ⟨found, hFound, hPath⟩ := hHere
  have hSkipped := skipped_of_exists? hFile hKeep hExists hFound
  have hEntry : found = (file.path, .skipped) := Prod.ext hPath hSkipped
  rw [hEntry] at hFound
  refine ⟨Generation.mem_pathsWith_iff.2 (List.mem_of_getElem? hFound), ?_⟩
  obtain ⟨node, hLook⟩ := Disk.exists?_eq_true_iff.1 hExists
  rw [hLook]
  refine (altersOnly_writeAll hDone).look_eq_ok (fun hTouched => ?_) hLook
  -- a written file in the same place has another position in the list
  obtain ⟨path, hWritten, hSame⟩ := List.mem_map.1 hTouched
  obtain ⟨j, hj⟩ := List.mem_iff_getElem?.1 (Generation.mem_pathsWith_iff.1 hWritten)
  have hThere := hPaths j
  rw [hj, Option.map_some, eq_comm, Option.map_eq_some_iff] at hThere
  obtain ⟨other, hOther, rfl⟩ := hThere
  have hIndex : j = i := index_eq_of_destination_eq hDistinct hOther hFile hSame
  rw [hIndex, hFound] at hj
  simp at hj

end

end ResolverScaffold

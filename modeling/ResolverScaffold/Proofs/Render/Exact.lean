import ResolverScaffold.Proofs.Disk.Downward
import ResolverScaffold.Proofs.Render.Files

/-!
# Files are written exactly

A file that is to be replaced holds its contents in the end, a file that is there and is not
to be replaced stays as it was, and writing the same files again changes nothing.  Whether
something is there is asked of the path when the turn of the file comes, though, and not of
the place before the first file is written.  So there are two exceptions: a file before it
may have needed a directory in its place, and a path that goes through a directory that is
not there yet does not lead to the file that is there.

* `GeneratedFile.Exact`: what is expected of a file that was written.
* `GeneratedFile.exact_iff`: a file is exact unless it is `Displaced` or `Missed`.
* `not_displaced` and `not_missed`: neither happens to paths without `..`, if no other file
  goes below a file that is not to be replaced.
* `writeAll_exact_iff`: what holds of every list of files.
-/

namespace ResolverScaffold

/-! ### One file -/

namespace GeneratedFile

variable {disk turn written later : Disk} {file : GeneratedFile} {outcome : WriteOutcome}

/-- What becomes of a file, with all that each outcome says of the disk. -/
inductive Writes (file : GeneratedFile) (disk : Disk) : Disk → WriteOutcome → Prop
  | skipped : file.overwrite = false → disk.exists? file.path = true →
      Writes file disk disk .skipped
  | unchanged : disk.look file.path = .ok (.text file.contents) → Writes file disk disk .unchanged
  | written {later : Disk} : (disk.exists? file.path = true → file.overwrite = true) →
      disk.look file.path ≠ .ok (.text file.contents) →
      Disk.AltersOnly disk later [disk.destination file.path] →
      later.look file.path = .ok (.text file.contents) → Writes file disk later .written

theorem isCurrent_iff :
    file.isCurrent disk = true ↔ disk.look file.path = .ok (.text file.contents) := by
  rw [isCurrent, ← Disk.readText_eq_ok_iff]
  split
  · next text hText =>
    rw [hText, beq_iff_eq]
    exact ⟨congrArg _, Except.ok.inj⟩
  · next e hError => simp [hError]

theorem look_of_store (h : file.store disk = (later, none)) :
    later.look file.path = .ok (.text file.contents) := by
  obtain ⟨made, -, hWritten⟩ := store_eq_none h
  exact Disk.look_of_writeNode hWritten

theorem writes_of_write (h : file.write disk = (later, .ok outcome)) :
    Writes file disk later outcome := by
  rw [write] at h
  split_ifs at h with hSkip hCurrent
  · cases h
    rw [Bool.and_eq_true, Bool.not_eq_true'] at hSkip
    exact .skipped hSkip.2 hSkip.1
  · cases h
    exact .unchanged (isCurrent_iff.1 hCurrent)
  · split at h
    · next stored hStore =>
      cases h
      refine .written (fun hExists => ?_) (mt isCurrent_iff.2 hCurrent) (altersOnly_store hStore)
        (look_of_store hStore)
      simpa [hExists] using hSkip
    · cases h

theorem makesOnly_makeParent (disk : Disk) (hDown : Path.GoesDown file.path) :
    Disk.MakesOnly disk (file.makeParent disk).1 [disk.destination file.path] := by
  rw [makeParent]
  split
  · exact .refl disk _
  · next parent hParent =>
    refine (Disk.makesOnly_makeDirectories disk (hDown.parent? hParent)).mono ?_
    simpa using Disk.destination_parent?_isPrefix hDown hParent

/-- A file makes directories on the way to its place only, also where it cannot be written. -/
theorem makesOnly_write (disk : Disk) (hDown : Path.GoesDown file.path) :
    Disk.MakesOnly disk (file.write disk).1 [disk.destination file.path] := by
  have hParent := makesOnly_makeParent disk hDown
  have hStore : Disk.MakesOnly disk (file.store disk).1 [disk.destination file.path] := by
    rw [store]
    split
    · next made e hMade =>
      rw [hMade] at hParent
      exact hParent
    · next made hMade =>
      rw [hMade] at hParent
      exact hParent.trans (made.makesOnly_save file.path file.contents)
  rw [write]
  split_ifs
  · exact .refl disk _
  · exact .refl disk _
  · split
    · next written hWritten =>
      rw [hWritten] at hStore
      exact hStore
    · next written e hWritten =>
      rw [hWritten] at hStore
      exact hStore

theorem Writes.exists?_eq_true (h : Writes file disk later outcome) :
    later.exists? file.path = true := by
  cases h with
  | skipped _ hExists => exact hExists
  | unchanged hLook => exact Disk.exists?_eq_true_iff.2 ⟨_, hLook⟩
  | written _ _ _ hLook => exact Disk.exists?_eq_true_iff.2 ⟨_, hLook⟩

theorem Writes.look_eq_ok (h : Writes file disk later outcome) (hReplace : file.overwrite = true) :
    later.look file.path = .ok (.text file.contents) := by
  cases h with
  | skipped hKeep _ => rw [hReplace] at hKeep; cases hKeep
  | unchanged hLook => exact hLook
  | written _ _ _ hLook => exact hLook

/-- What is expected of a file of which `outcome` is told, from the disk before to the one after:
it holds its contents, or what it held before if it was there and is not to be replaced, and it
counts as written if and only if that is a change. -/
structure Exact (file : GeneratedFile) (disk later : Disk) (outcome : WriteOutcome) : Prop where
  holds : file.overwrite = true ∨ disk.node? (disk.destination file.path) = none →
    later.node? (disk.destination file.path) = some (.text file.contents)
  keeps : file.overwrite = false → disk.node? (disk.destination file.path) ≠ none →
    later.node? (disk.destination file.path) = disk.node? (disk.destination file.path)
  written_iff : outcome = .written ↔
    later.file? (disk.destination file.path) ≠ disk.file? (disk.destination file.path)

/-- Nothing stood in the place of a file that is not to replace anything, but when its turn came
there was a directory. -/
def Displaced (file : GeneratedFile) (disk turn : Disk) : Prop :=
  file.overwrite = false ∧ disk.node? (disk.destination file.path) = none
    ∧ turn.node? (disk.destination file.path) = some .directory

/-- Something stood in the place of a file that is to stay, or is as it should be, but when the turn
of the file came its path did not lead there. -/
def Missed (file : GeneratedFile) (disk turn : Disk) : Prop :=
  turn.exists? file.path = false ∧ ∃ node, disk.node? (disk.destination file.path) = some node
    ∧ (file.overwrite = false ∨ node = .text file.contents)

theorem not_displaced_of_node? {node : DiskNode}
    (hThere : disk.node? (disk.destination file.path) = some node) : ¬file.Displaced disk turn := by
  rintro ⟨-, hNone, -⟩
  rw [hThere] at hNone
  cases hNone

theorem not_missed_of_exists? (hExists : turn.exists? file.path = true) :
    ¬file.Missed disk turn := by
  rintro ⟨hLost, -⟩
  rw [hExists] at hLost
  cases hLost

/-- What is not touched and may stay as it is, is exact. -/
theorem exact_of_kept {node : DiskNode}
    (hThere : disk.node? (disk.destination file.path) = some node)
    (hLater : later.node? (disk.destination file.path) = some node)
    (hRight : file.overwrite = false ∨ node = .text file.contents) (hOutcome : outcome ≠ .written) :
    file.Exact disk later outcome where
  holds hHolds := by
    rw [hThere] at hHolds
    rcases hRight with hKeep | rfl
    · simp [hKeep] at hHolds
    · exact hLater
  keeps _ _ := hLater.trans hThere.symm
  written_iff := by
    refine iff_of_false hOutcome fun hChange => hChange ?_
    rw [Disk.file?, Disk.file?, hLater, hThere]

section Turn

/-! The disk `turn` is the one that a file finds when its turn comes, and `written` is the one that it
leaves.  Nothing is written in its place before or after. -/

variable {before after : List Location} (hBefore : Disk.AltersOnly disk turn before)
  (hAfter : Disk.AltersOnly written later after)
  (hOutBefore : disk.destination file.path ∉ before)
  (hOutAfter : disk.destination file.path ∉ after)

include hBefore hOutBefore

/-- What is there at the turn of a file and was not there before is a directory. -/
theorem eq_directory_of_node? {node : DiskNode}
    (hNone : disk.node? (disk.destination file.path) = none)
    (hNode : turn.node? (disk.destination file.path) = some node) : node = .directory := by
  by_contra hFile
  have hSame := hBefore.files _ hOutBefore
  rw [Disk.file?_of_node?_eq_some hNode hFile, Disk.file?, hNone] at hSame
  cases hSame

include hAfter hOutAfter

theorem exact_iff_of_skipped (hKeep : file.overwrite = false)
    (hExists : turn.exists? file.path = true) (hSame : written = turn) :
    file.Exact disk later .skipped ↔ ¬file.Displaced disk turn ∧ ¬file.Missed disk turn := by
  subst hSame
  obtain ⟨node, hLook⟩ := Disk.exists?_eq_true_iff.1 hExists
  have hNode := (Disk.look_eq_ok_iff.1 hLook).2
  rw [hBefore.destination_eq] at hNode
  have hLater := hAfter.node?_eq_some hOutAfter hNode
  cases hThere : disk.node? (disk.destination file.path) with
  | none =>
    -- the file cannot hold its contents where a directory is
    obtain rfl := eq_directory_of_node? hBefore hOutBefore hThere hNode
    refine iff_of_false (fun hExact => ?_) fun hNot => hNot.1 ⟨hKeep, hThere, hNode⟩
    have hHolds := hExact.holds (.inr hThere)
    rw [hLater] at hHolds
    cases hHolds
  | some there =>
    rw [hBefore.node?_eq_some hOutBefore hThere, Option.some.injEq] at hNode
    subst hNode
    exact iff_of_true (exact_of_kept hThere hLater (.inl hKeep) (by decide))
      ⟨not_displaced_of_node? hThere, not_missed_of_exists? hExists⟩

theorem exact_of_unchanged (hLook : turn.look file.path = .ok (.text file.contents))
    (hSame : written = turn) :
    file.Exact disk later .unchanged ∧ ¬file.Displaced disk turn ∧ ¬file.Missed disk turn := by
  subst hSame
  have hNode := (Disk.look_eq_ok_iff.1 hLook).2
  rw [hBefore.destination_eq] at hNode
  have hThere : disk.node? (disk.destination file.path) = some (.text file.contents) := by
    rw [← Disk.file?_eq_some_text_iff, ← hBefore.files _ hOutBefore,
      Disk.file?_eq_some_text_iff]
    exact hNode
  exact ⟨exact_of_kept hThere (hAfter.node?_eq_some hOutAfter hNode) (.inr rfl) (by decide),
    not_displaced_of_node? hThere,
    not_missed_of_exists? (Disk.exists?_eq_true_iff.2 ⟨_, hLook⟩)⟩

theorem exact_iff_of_written (hReplace : turn.exists? file.path = true → file.overwrite = true)
    (hStale : turn.look file.path ≠ .ok (.text file.contents))
    (hWritten : Disk.AltersOnly turn written [turn.destination file.path])
    (hLook : written.look file.path = .ok (.text file.contents)) :
    file.Exact disk later .written ↔ ¬file.Displaced disk turn ∧ ¬file.Missed disk turn := by
  have hNode := (Disk.look_eq_ok_iff.1 hLook).2
  rw [hWritten.destination_eq, hBefore.destination_eq] at hNode
  have hLater := hAfter.node?_eq_some hOutAfter hNode
  have hFree : ¬file.Displaced disk turn := by
    rintro ⟨-, -, hDirectory⟩
    rw [hWritten.directories _ hDirectory] at hNode
    cases hNode
  -- a path that led somewhere led to something else than the contents
  have hFound : turn.exists? file.path = true →
      disk.node? (disk.destination file.path) ≠ some (.text file.contents) := by
    intro hExists hThere
    obtain ⟨node, hOld⟩ := Disk.exists?_eq_true_iff.1 hExists
    have hHere := (Disk.look_eq_ok_iff.1 hOld).2
    rw [hBefore.destination_eq, hBefore.node?_eq_some hOutBefore hThere] at hHere
    exact hStale (Option.some.inj hHere ▸ hOld)
  have hChange : later.file? (disk.destination file.path)
        ≠ disk.file? (disk.destination file.path) ↔
      disk.node? (disk.destination file.path) ≠ some (.text file.contents) := by
    rw [Disk.file?_eq_some_text_iff.2 hLater, ne_comm, ne_eq, Disk.file?_eq_some_text_iff]
  constructor
  · rintro ⟨-, hKeeps, hWrittenIff⟩
    have hOther := hChange.1 (hWrittenIff.1 rfl)
    refine ⟨hFree, ?_⟩
    rintro ⟨-, node, hThere, hKeep | rfl⟩
    · refine hOther ?_
      rw [← hKeeps hKeep (by rw [hThere]; exact Option.some_ne_none node), hLater]
    · exact hOther hThere
  · rintro ⟨-, hMissed⟩
    have hOld : ∀ node, disk.node? (disk.destination file.path) = some node →
        file.overwrite = true ∧ node ≠ .text file.contents := by
      intro node hThere
      cases hExists : turn.exists? file.path with
      | true =>
        refine ⟨hReplace hExists, ?_⟩
        rintro rfl
        exact hFound hExists hThere
      | false =>
        refine ⟨?_, fun hSame => hMissed ⟨hExists, node, hThere, .inr hSame⟩⟩
        rw [← Bool.not_eq_false]
        exact fun hKeep => hMissed ⟨hExists, node, hThere, .inl hKeep⟩
    refine ⟨fun _ => hLater, fun hKeep hSome => ?_, iff_of_true rfl (hChange.2 fun hThere => ?_)⟩
    · obtain ⟨node, hThere⟩ := Option.ne_none_iff_exists'.1 hSome
      rw [(hOld node hThere).1] at hKeep
      cases hKeep
    · exact (hOld _ hThere).2 rfl

/-- **The files that are exact.** -/
theorem exact_iff (h : Writes file turn written outcome) :
    file.Exact disk later outcome ↔ ¬file.Displaced disk turn ∧ ¬file.Missed disk turn := by
  cases h with
  | skipped hKeep hExists =>
    exact exact_iff_of_skipped hBefore hAfter hOutBefore hOutAfter hKeep hExists rfl
  | unchanged hLook =>
    obtain ⟨hExact, hNot⟩ := exact_of_unchanged hBefore hAfter hOutBefore hOutAfter hLook rfl
    exact iff_of_true hExact hNot
  | written hReplace hStale hWritten hLook =>
    exact exact_iff_of_written hBefore hAfter hOutBefore hOutAfter hReplace hStale hWritten hLook

end Turn

/-- A path that goes down is not missed. -/
theorem not_missed {before : List Location} (hBefore : Disk.AltersOnly disk turn before)
    (h : Writes file turn written outcome) (hDown : Path.GoesDown file.path) :
    ¬file.Missed disk turn := by
  cases h with
  | skipped _ hExists => exact not_missed_of_exists? hExists
  | unchanged hLook => exact not_missed_of_exists? (Disk.exists?_eq_true_iff.2 ⟨_, hLook⟩)
  | written _ _ hWritten hLook =>
    intro hMissed
    obtain ⟨-, node, hThere, -⟩ := id hMissed
    have hTurn : turn.node? (turn.destination file.path) ≠ none := by
      rw [hBefore.destination_eq, ← Option.isSome_iff_ne_none]
      exact hBefore.present _ (by rw [hThere]; rfl)
    exact not_missed_of_exists? (Disk.exists?_of_goesDown hDown hLook hWritten.workDir hTurn) hMissed

/-- A file is not displaced if no directory was made on the way to something below it. -/
theorem not_displaced {places : List Location} (hMakes : Disk.MakesOnly disk turn places)
    (hBelow : file.overwrite = false → ∀ place ∈ places, ¬disk.destination file.path <+: place) :
    ¬file.Displaced disk turn := by
  rintro ⟨hKeep, hNone, hDirectory⟩
  rcases hMakes _ hDirectory with hThere | ⟨place, hPlace, hPrefix⟩
  · rw [hNone] at hThere
    cases hThere
  · exact hBelow hKeep place hPlace hPrefix

end GeneratedFile

/-! ### One file after the other -/

section

variable {disk : Disk} {files : List GeneratedFile} {file : GeneratedFile}

/-- When its turn comes, a file finds what the files before it have left. -/
theorem exists_turn (hDone : (writeAll disk files).error = none) {i : Nat}
    (hFile : files[i]? = some file) :
    (writeAll disk (files.take i)).error = none ∧ ∃ written outcome,
      GeneratedFile.Writes file (writeAll disk (files.take i)).disk written outcome
      ∧ (writeAll disk files).outcomes[i]? = some (file.path, outcome)
      ∧ (writeAll written (files.drop (i + 1))).error = none
      ∧ (writeAll disk files).disk = (writeAll written (files.drop (i + 1))).disk := by
  induction files generalizing disk i with
  | nil => cases hFile
  | cons first rest ih =>
    rw [writeAll] at hDone ⊢
    split at hDone
    · cases hDone
    · next written outcome hWrite =>
      cases i with
      | zero =>
        cases hFile
        exact ⟨rfl, written, outcome, GeneratedFile.writes_of_write hWrite, rfl, hDone, rfl⟩
      | succ i =>
        rw [List.take_succ_cons, writeAll, hWrite]
        exact ih hDone hFile

/-- Files that are all written change at most the places of the list. -/
theorem altersOnly_destinations (hDone : (writeAll disk files).error = none) :
    Disk.AltersOnly disk (writeAll disk files).disk (files.map fun f => disk.destination f.path) := by
  refine (altersOnly_writeAll hDone).mono fun location hMem => ?_
  obtain ⟨path, hPath, rfl⟩ := List.mem_map.1 hMem
  have hListed := (Generation.pathsWith_sublist _ _).subset hPath
  rw [outcomes_of_writeAll hDone] at hListed
  obtain ⟨f, hf, rfl⟩ := List.mem_map.1 hListed
  exact List.mem_map_of_mem hf

theorem makesOnly_writeAll (disk : Disk) (hDown : ∀ f ∈ files, Path.GoesDown f.path) :
    Disk.MakesOnly disk (writeAll disk files).disk
      (files.map fun f => disk.destination f.path) := by
  induction files generalizing disk with
  | nil => exact .refl disk _
  | cons first rest ih =>
    obtain ⟨hFirst, hRest⟩ := List.forall_mem_cons.1 hDown
    have hWay := GeneratedFile.makesOnly_write disk hFirst
    rw [writeAll]
    split
    · next written e hWrite =>
      rw [hWrite] at hWay
      exact hWay.mono (by simp)
    · next written outcome hWrite =>
      rw [hWrite] at hWay
      have hDestination : written.destination = disk.destination :=
        funext (GeneratedFile.write_eq_ok hWrite).destination_eq
      have hLater := ih written hRest
      rw [hDestination] at hLater
      exact hWay.trans hLater

/-- Where nothing has to be done, nothing is done. -/
theorem writeAll_eq_self (h : ∀ f ∈ files, disk.exists? f.path = true
      ∧ (f.overwrite = true → disk.look f.path = .ok (.text f.contents))) :
    writeAll disk files
      = ⟨disk, files.map fun f => (f.path, if f.overwrite then .unchanged else .skipped), none⟩ := by
  induction files with
  | nil => rfl
  | cons first rest ih =>
    obtain ⟨⟨hExists, hLook⟩, hRest⟩ := List.forall_mem_cons.1 h
    have hFirst : first.write disk
        = (disk, .ok (if first.overwrite then .unchanged else .skipped)) := by
      cases hReplace : first.overwrite with
      | false => exact GeneratedFile.write_of_exists? hExists hReplace
      | true =>
        rw [GeneratedFile.write, hReplace, GeneratedFile.isCurrent_iff.2 (hLook hReplace)]
        simp
    rw [writeAll, hFirst]
    dsimp only
    rw [ih hRest, List.map_cons]

variable (hDistinct : (files.map fun f => disk.destination f.path).Nodup)

include hDistinct

/-- No other file of the list has the place of a file. -/
theorem destination_notMem {i : Nat} (hFile : files[i]? = some file) :
    disk.destination file.path ∉ (files.take i).map (fun f => disk.destination f.path)
      ∧ disk.destination file.path ∉ (files.drop (i + 1)).map fun f => disk.destination f.path := by
  have hSplit : files = files.take i ++ file :: files.drop (i + 1) := by
    obtain ⟨hBound, rfl⟩ := List.getElem?_eq_some_iff.1 hFile
    rw [List.getElem_cons_drop, List.take_append_drop]
  rw [hSplit, List.map_append, List.map_cons, List.nodup_middle, List.nodup_cons, List.mem_append,
    not_or] at hDistinct
  exact hDistinct.1

variable (hDone : (writeAll disk files).error = none)

include hDone

/-- A file at its turn, with what changes before and after it. -/
theorem exists_turn_of_nodup {i : Nat} (hFile : files[i]? = some file) :
    ∃ written outcome before after,
      GeneratedFile.Writes file (writeAll disk (files.take i)).disk written outcome
      ∧ (writeAll disk files).outcomes[i]? = some (file.path, outcome)
      ∧ Disk.AltersOnly disk (writeAll disk (files.take i)).disk before
      ∧ Disk.AltersOnly written (writeAll disk files).disk after
      ∧ disk.destination file.path ∉ before ∧ disk.destination file.path ∉ after
      ∧ written.destination = disk.destination := by
  obtain ⟨hBefore, written, outcome, hWrites, hOutcome, hAfter, hDisk⟩ := exists_turn hDone hFile
  have hAltersBefore := altersOnly_destinations hBefore
  have hAltersAfter := altersOnly_destinations hAfter
  have hDestination : written.destination = disk.destination := by
    funext path
    rw [← hAltersBefore.destination_eq]
    cases hWrites with
    | skipped => rfl
    | unchanged => rfl
    | written _ _ hWritten _ => exact hWritten.destination_eq path
  rw [hDestination, ← hDisk] at hAltersAfter
  obtain ⟨hOutBefore, hOutAfter⟩ := destination_notMem hDistinct hFile
  exact ⟨written, outcome, _, _, hWrites, hOutcome, hAltersBefore, hAltersAfter, hOutBefore,
    hOutAfter, hDestination⟩

/-- **All files are there in the end**, those that are to be replaced with their contents. -/
theorem exists?_and_look_of_mem {f : GeneratedFile} (hf : f ∈ files) :
    (writeAll disk files).disk.exists? f.path = true
      ∧ (f.overwrite = true →
        (writeAll disk files).disk.look f.path = .ok (.text f.contents)) := by
  obtain ⟨i, hFile⟩ := List.mem_iff_getElem?.1 hf
  obtain ⟨written, outcome, before, after, hWrites, -, -, hAfter, -, hOut, hDestination⟩ :=
    exists_turn_of_nodup hDistinct hDone hFile
  refine ⟨hAfter.exists?_eq_true hWrites.exists?_eq_true, fun hReplace => ?_⟩
  exact hAfter.look_eq_ok (hDestination ▸ hOut) (hWrites.look_eq_ok hReplace)

/-- **Paths that go down are neither missed nor displaced**, if no file of the list goes below a file
that is not to be replaced. -/
theorem not_displaced_and_not_missed (hDown : ∀ f ∈ files, Path.GoesDown f.path)
    (hBelow : ∀ f ∈ files, f.overwrite = false → ∀ g ∈ files,
      disk.destination f.path <+: disk.destination g.path →
        disk.destination g.path = disk.destination f.path)
    {i : Nat} (hFile : files[i]? = some file) :
    ¬file.Displaced disk (writeAll disk (files.take i)).disk
      ∧ ¬file.Missed disk (writeAll disk (files.take i)).disk := by
  obtain ⟨written, outcome, before, after, hWrites, -, hBefore, -, -, -, -⟩ :=
    exists_turn_of_nodup hDistinct hDone hFile
  have hMem := List.mem_of_getElem? hFile
  refine ⟨GeneratedFile.not_displaced (makesOnly_writeAll disk fun f hf =>
    hDown f (List.mem_of_mem_take hf)) fun hKeep place hPlace hPrefix => ?_,
    GeneratedFile.not_missed hBefore hWrites (hDown file hMem)⟩
  refine (destination_notMem hDistinct hFile).1 ?_
  obtain ⟨g, hg, rfl⟩ := List.mem_map.1 hPlace
  rw [← hBelow file hMem hKeep g (List.mem_of_mem_take hg) hPrefix]
  exact hPlace

/-- **What writing files does**, if they have different places and all of them are written.  Each
outcome stands with its path.  What is to be replaced holds its contents, what could be found and is
not to be replaced is as it was, and no other file changes.  A file is exact unless a directory was
made in its place or its path did not lead there when its turn came, which paths that go down can
avoid.  Writing the files again finds nothing to do. -/
theorem writeAll_exact_iff :
    (writeAll disk files).outcomes.map (·.1) = files.map (·.path)
    ∧ (∀ f ∈ files, f.overwrite = true →
      (writeAll disk files).disk.readText f.path = .ok f.contents)
    ∧ (∀ f ∈ files, f.overwrite = false → disk.exists? f.path = true →
      (writeAll disk files).disk.look f.path = disk.look f.path)
    ∧ (∀ location, location ∉ files.map (fun f => disk.destination f.path) →
      (writeAll disk files).disk.file? location = disk.file? location)
    ∧ (∀ (i : Nat) (f : GeneratedFile), files[i]? = some f →
      ∃ outcome, (writeAll disk files).outcomes[i]? = some (f.path, outcome)
        ∧ (f.Exact disk (writeAll disk files).disk outcome ↔
          ¬f.Displaced disk (writeAll disk (files.take i)).disk
          ∧ ¬f.Missed disk (writeAll disk (files.take i)).disk))
    ∧ ((∀ f ∈ files, Path.GoesDown f.path) →
      (∀ f ∈ files, f.overwrite = false → ∀ g ∈ files,
        disk.destination f.path <+: disk.destination g.path →
          disk.destination g.path = disk.destination f.path) →
      ∀ (i : Nat) (f : GeneratedFile), files[i]? = some f →
        ¬f.Displaced disk (writeAll disk (files.take i)).disk
        ∧ ¬f.Missed disk (writeAll disk (files.take i)).disk)
    ∧ writeAll (writeAll disk files).disk files
      = ⟨(writeAll disk files).disk,
        files.map fun f => (f.path, if f.overwrite then .unchanged else .skipped), none⟩ := by
  refine ⟨outcomes_of_writeAll hDone, fun f hf hReplace => ?_, fun f hf hKeep hExists => ?_,
    (altersOnly_destinations hDone).files, fun i f hFile => ?_, fun hDown hBelow i f => ?_, ?_⟩
  · exact Disk.readText_eq_ok_iff.2 ((exists?_and_look_of_mem hDistinct hDone hf).2 hReplace)
  · obtain ⟨i, hFile⟩ := List.mem_iff_getElem?.1 hf
    exact (look_of_exists? hDistinct hDone hFile hKeep hExists).2
  · obtain ⟨written, outcome, before, after, hWrites, hOutcome, hBefore, hAfter, hOutBefore, hOutAfter,
      -⟩ := exists_turn_of_nodup hDistinct hDone hFile
    exact ⟨outcome, hOutcome,
      GeneratedFile.exact_iff hBefore hAfter hOutBefore hOutAfter hWrites⟩
  · exact not_displaced_and_not_missed hDistinct hDone hDown hBelow
  · exact writeAll_eq_self fun f hf => exists?_and_look_of_mem hDistinct hDone hf

end

/-! ### Two lists of files -/

namespace Sample

/-- A file in a new directory, and one beside that directory that is only written if it is
missing. -/
def moduleFiles : List GeneratedFile := [⟨"a/b/owned.rs", "x\n", true⟩, ⟨"a/mod.rs", "y\n", false⟩]

/-- The first file needs a directory in the place of the second. -/
def nestedFiles : List GeneratedFile := [⟨"a/b", "x\n", true⟩, ⟨"a", "y\n", false⟩]

def oldFiles : List GeneratedFile := [⟨"b", "old\n", true⟩]

/-- The same place by way of a directory that is missing. -/
def roundaboutFiles : List GeneratedFile := [⟨"a/../b", "new\n", false⟩]

def oldDisk : Disk := (writeAll .empty oldFiles).disk

end Sample

/-- On an empty disk both files are written exactly, and a second time nothing is done. -/
theorem writeAll_moduleFiles :
    (Sample.moduleFiles.map fun f => Disk.empty.destination f.path).Nodup
    ∧ (writeAll .empty Sample.moduleFiles).error = none
    ∧ (∀ (i : Nat) (f : GeneratedFile), Sample.moduleFiles[i]? = some f →
      ∃ outcome, (writeAll .empty Sample.moduleFiles).outcomes[i]? = some (f.path, outcome)
        ∧ f.Exact .empty (writeAll .empty Sample.moduleFiles).disk outcome)
    ∧ (writeAll (writeAll .empty Sample.moduleFiles).disk Sample.moduleFiles).outcomes
      = [("a/b/owned.rs", .unchanged), ("a/mod.rs", .skipped)] := by
  have hDistinct : (Sample.moduleFiles.map fun f => Disk.empty.destination f.path).Nodup := by
    decide
  have hDone : (writeAll .empty Sample.moduleFiles).error = none := by decide
  obtain ⟨-, -, -, -, hExact, hDown, hAgain⟩ := writeAll_exact_iff hDistinct hDone
  refine ⟨hDistinct, hDone, fun i f hFile => ?_, by rw [hAgain]; rfl⟩
  obtain ⟨outcome, hOutcome, hIff⟩ := hExact i f hFile
  exact ⟨outcome, hOutcome, hIff.2 (hDown (by decide) (by decide) i f hFile)⟩

/-- **Files that are written without an error, but not exactly.**  In the first list the second file
is missing and is passed over, since the first has made a directory in its place.  In the second list
a file that is there is replaced although it is to stay, since its path goes through a directory that
is missing. -/
theorem writeAll_not_exact :
    ((Sample.nestedFiles.map fun f => Disk.empty.destination f.path).Nodup
      ∧ (writeAll .empty Sample.nestedFiles).error = none
      ∧ Disk.empty.node? ["a"] = none
      ∧ (writeAll .empty Sample.nestedFiles).outcomes = [("a/b", .written), ("a", .skipped)]
      ∧ (writeAll .empty Sample.nestedFiles).disk.node? ["a"] = some .directory)
    ∧ (Sample.roundaboutFiles.map fun f => Sample.oldDisk.destination f.path) = [["b"]]
      ∧ (writeAll Sample.oldDisk Sample.roundaboutFiles).error = none
      ∧ Sample.oldDisk.node? ["b"] = some (.text "old\n")
      ∧ (writeAll Sample.oldDisk Sample.roundaboutFiles).outcomes = [("a/../b", .written)]
      ∧ (writeAll Sample.oldDisk Sample.roundaboutFiles).disk.node? ["b"]
        = some (.text "new\n") := by
  decide

end ResolverScaffold

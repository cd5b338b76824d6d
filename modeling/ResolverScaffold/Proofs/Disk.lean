import Mathlib
import ResolverScaffold.Disk
import ResolverScaffold.Proofs.Outcome

/-!
# What a write changes

There are no links on a disk, so a path leads to the same location whatever stands
there: `destination`.  A write puts a text at the destination of its path, or a part of
it, and nothing anywhere else, and directories are only made where nothing stood.

* `AltersOnly`: from one disk to a later one, files changed at some locations only.
* `follow_eq_ok`: a walk that succeeds ends at the destination.
* `save_cases`: all ways a write can end.
* `altersOnly_of_writeNode` and `altersOnly_makeDirectories`: what a write and new
  directories change.
* `look_of_writeNode`: what was written is read back.
-/

namespace ResolverScaffold

/-- Where one piece of a path leads. -/
def Location.enter (location : Location) (piece : String) : Location :=
  if piece = "" ∨ piece = "." then location
  else if piece = ".." then location.dropLast
  else location ++ [piece]

/-- A file with a first part of a text; its bytes are no text where the part ends within a
character. -/
def DiskNode.IsPart (content : String) : DiskNode → Prop
  | .text front => front.toList <+: content.toList
  | .bytes => True
  | .directory => False

theorem DiskNode.isPart_firstBytes (content : String) (bytes : Nat) :
    (firstBytes content bytes).IsPart content := by
  rw [firstBytes]
  split
  · next hFront =>
    rw [IsPart, String.toList_ofList]
    exact Text.isPrefix_of_takeBytes? hFront
  · trivial

namespace Disk

/-- The location that a path means. -/
def destination (disk : Disk) (path : String) : Location :=
  (disk.start path).2.foldl Location.enter (disk.start path).1

/-- What a file holds; directories hold nothing. -/
def file? (disk : Disk) (location : Location) : Option DiskNode :=
  (disk.node? location).filter (· ≠ .directory)

/-- From `disk` to `later`, files changed at the locations `touched` only: directories stay,
nothing is taken away, and what is new anywhere else is a directory. -/
structure AltersOnly (disk later : Disk) (touched : List Location) : Prop where
  workDir : later.workDir = disk.workDir
  device : later.device = disk.device
  directories : ∀ l, disk.node? l = some .directory → later.node? l = some .directory
  present : ∀ l, (disk.node? l).isSome → (later.node? l).isSome
  files : ∀ l, l ∉ touched → later.file? l = disk.file? l

variable {disk middle later : Disk} {path : String} {location parent : Location} {name : String}
  {touched touched' : List Location}

theorem file?_of_node?_eq_some {node : DiskNode}
    (h : disk.node? location = some node) (hFile : node ≠ .directory) :
    disk.file? location = some node := by
  rw [file?, h]
  simp [hFile]

theorem file?_eq_some_text_iff {content : String} :
    disk.file? location = some (.text content) ↔ disk.node? location = some (.text content) := by
  simp [file?, Option.filter_eq_some_iff]

namespace AltersOnly

theorem refl (disk : Disk) (touched : List Location) : AltersOnly disk disk touched :=
  ⟨rfl, rfl, fun _ h => h, fun _ h => h, fun _ _ => rfl⟩

theorem trans (h : AltersOnly disk middle touched) (h' : AltersOnly middle later touched') :
    AltersOnly disk later (touched ++ touched') where
  workDir := h'.workDir.trans h.workDir
  device := h'.device.trans h.device
  directories l hDir := h'.directories l (h.directories l hDir)
  present l hSome := h'.present l (h.present l hSome)
  files l hOut := by
    rw [List.mem_append, not_or] at hOut
    exact (h'.files l hOut.2).trans (h.files l hOut.1)

theorem mono (h : AltersOnly disk later touched) (hSubset : touched ⊆ touched') :
    AltersOnly disk later touched' :=
  { h with files := fun l hOut => h.files l fun hIn => hOut (hSubset hIn) }

theorem destination_eq (h : AltersOnly disk later touched) (path : String) :
    later.destination path = disk.destination path := by
  rw [destination, destination, start, start, h.workDir]

/-- A walk through directories goes on as before, since they all stay. -/
theorem follow_eq_ok (h : AltersOnly disk later touched) {pieces : List String} {found : Location}
    (hFollow : disk.follow location pieces = .ok found) :
    later.follow location pieces = .ok found := by
  induction pieces generalizing location with
  | nil => exact hFollow
  | cons piece rest ih =>
    cases hNode : disk.node? location with
    | none => rw [follow, hNode] at hFollow; cases hFollow
    | some node =>
      cases node with
      | directory =>
        rw [follow, hNode] at hFollow
        rw [follow, h.directories location hNode]
        dsimp only at hFollow ⊢
        split_ifs at hFollow ⊢ <;> exact ih hFollow
      | text content => rw [follow, hNode] at hFollow; cases hFollow
      | bytes => rw [follow, hNode] at hFollow; cases hFollow

theorem locate_eq_ok (h : AltersOnly disk later touched) {found : Location}
    (hLocate : disk.locate path = .ok found) : later.locate path = .ok found := by
  rw [locate] at hLocate ⊢
  split_ifs at hLocate ⊢
  rw [start] at hLocate ⊢
  rw [h.workDir]
  exact h.follow_eq_ok hLocate

end AltersOnly

/-! ### Following a path -/

theorem follow_eq_ok {pieces : List String} {found : Location}
    (h : disk.follow location pieces = .ok found) : found = pieces.foldl Location.enter location := by
  induction pieces generalizing location with
  | nil => exact (Except.ok.inj h).symm
  | cons piece rest ih =>
    rw [follow] at h
    rw [List.foldl_cons, Location.enter]
    split at h
    · cases h
    · split_ifs at h ⊢ <;> exact ih h
    · cases h

theorem locate_eq_ok (h : disk.locate path = .ok location) : location = disk.destination path := by
  rw [locate] at h
  split_ifs at h
  exact follow_eq_ok h

theorem look_eq_ok_iff {node : DiskNode} :
    disk.look path = .ok node ↔
      disk.locate path = .ok (disk.destination path)
        ∧ disk.node? (disk.destination path) = some node := by
  rw [look, bind_eq_ok_iff]
  constructor
  · rintro ⟨location, hLocate, h⟩
    obtain rfl := locate_eq_ok hLocate
    refine ⟨hLocate, ?_⟩
    split at h
    · rw [← Except.ok.inj h]
      assumption
    · cases h
  · rintro ⟨hLocate, hNode⟩
    exact ⟨_, hLocate, by rw [hNode]⟩

theorem readText_eq_ok_iff {content : String} :
    disk.readText path = .ok content ↔ disk.look path = .ok (.text content) := by
  rw [readText, bind_eq_ok_iff]
  constructor
  · rintro ⟨node, hLook, h⟩
    cases node with
    | text text => rw [hLook, Except.ok.inj h]
    | directory => cases h
    | bytes => cases h
  · exact fun hLook => ⟨_, hLook, rfl⟩

theorem exists?_eq_true_iff : disk.exists? path = true ↔ ∃ node, disk.look path = .ok node := by
  rw [exists?]
  cases disk.look path <;> simp

theorem exists?_of_readText {content : String} (h : disk.readText path = .ok content) :
    disk.exists? path = true :=
  exists?_eq_true_iff.2 ⟨_, readText_eq_ok_iff.1 h⟩

theorem foldl_enter_of_empty {pieces : List String} (h : ∀ piece ∈ pieces, piece = "")
    (location : Location) : pieces.foldl Location.enter location = location := by
  induction pieces with
  | nil => rfl
  | cons piece rest ih =>
    rw [List.foldl_cons, h piece List.mem_cons_self, Location.enter, if_pos (.inl rfl)]
    exact ih fun other hOther => h other (List.mem_cons_of_mem _ hOther)

theorem AltersOnly.exists?_eq_true (h : AltersOnly disk later touched)
    (hExists : disk.exists? path = true) : later.exists? path = true := by
  obtain ⟨node, hLook⟩ := exists?_eq_true_iff.1 hExists
  obtain ⟨hLocate, hNode⟩ := look_eq_ok_iff.1 hLook
  have hPresent := h.present (disk.destination path) (by rw [hNode]; rfl)
  obtain ⟨node', hNode'⟩ := Option.isSome_iff_exists.1 hPresent
  refine exists?_eq_true_iff.2 ⟨node', look_eq_ok_iff.2 ?_⟩
  rw [h.destination_eq]
  exact ⟨h.locate_eq_ok hLocate, hNode'⟩

/-- What stands at a location stays there unless the location is touched. -/
theorem AltersOnly.node?_eq_some (h : AltersOnly disk later touched) (hOut : location ∉ touched)
    {node : DiskNode} (hNode : disk.node? location = some node) :
    later.node? location = some node := by
  by_cases hDir : node = .directory
  · subst hDir
    exact h.directories _ hNode
  · have hFile := file?_of_node?_eq_some hNode hDir
    rw [← h.files _ hOut] at hFile
    exact (Option.filter_eq_some_iff.1 hFile).1

/-- What stands at a path is the same later unless the path leads to a touched location. -/
theorem AltersOnly.look_eq_ok (h : AltersOnly disk later touched)
    (hOut : disk.destination path ∉ touched) {node : DiskNode} (hLook : disk.look path = .ok node) :
    later.look path = .ok node := by
  obtain ⟨hLocate, hNode⟩ := look_eq_ok_iff.1 hLook
  rw [look_eq_ok_iff, h.destination_eq]
  exact ⟨h.locate_eq_ok hLocate, h.node?_eq_some hOut hNode⟩

/-- A path is what comes before its last piece that counts, that piece, and empty pieces. -/
theorem exists_of_lastPiece? {pieces before : List String} {last : String} {slash : Bool}
    (h : lastPiece? pieces = some (before, last, slash)) :
    ∃ after, pieces = before ++ [last] ++ after ∧ (∀ piece ∈ after, piece = "") ∧ last ≠ ""
      ∧ (slash = false → after = []) := by
  rw [lastPiece?] at h
  cases hDrop : pieces.reverse.dropWhile (· == "") with
  | nil => simp [hDrop] at h
  | cons head tail =>
    rw [hDrop] at h
    cases h
    have hSplit := List.takeWhile_append_dropWhile (p := (· == "")) (l := pieces.reverse)
    rw [hDrop] at hSplit
    have hPieces : pieces = tail.reverse ++ [last]
        ++ (pieces.reverse.takeWhile (· == "")).reverse := by
      rw [← List.reverse_inj]
      simpa using hSplit.symm
    have hEmpty : ∀ piece ∈ (pieces.reverse.takeWhile (· == "")).reverse, piece = "" := by
      intro piece hPiece
      rw [List.mem_reverse] at hPiece
      simpa using List.mem_takeWhile_imp hPiece
    refine ⟨_, hPieces, hEmpty, ?_, fun hSlash => ?_⟩
    · intro hLast
      have hHead := List.head?_dropWhile_not (· == "") pieces.reverse
      rw [hDrop] at hHead
      simp [hLast] at hHead
    · -- an empty piece at the end would be the slash
      by_contra hSome
      have hEnd := List.getLast?_eq_some_getLast hSome
      have hLast : pieces.getLast? = some "" := by
        rw [hPieces, List.getLast?_append, hEnd, Option.some_or, hEmpty _ (List.getLast_mem hSome)]
      rw [hLast] at hSlash
      cases hSlash

/-- The pieces after the last one that counts lead nowhere. -/
theorem foldl_enter_of_lastPiece? {pieces before : List String} {last : String} {slash : Bool}
    (h : lastPiece? pieces = some (before, last, slash)) (location : Location) :
    last ≠ "" ∧ pieces.foldl Location.enter location
      = (before.foldl Location.enter location).enter last := by
  obtain ⟨after, rfl, hEmpty, hLast, -⟩ := exists_of_lastPiece? h
  refine ⟨hLast, ?_⟩
  rw [List.foldl_append, List.foldl_append, foldl_enter_of_empty hEmpty]
  rfl

theorem target_eq_ok {slash : Bool} (h : disk.target path = .ok (some (parent, name, slash))) :
    disk.destination path = parent ++ [name] := by
  rw [target] at h
  split_ifs at h
  dsimp only at h
  split at h
  · cases h
  · next before last slash' hLast =>
    obtain ⟨found, hFollow, h⟩ := bind_eq_ok_iff.1 h
    split_ifs at h with hDots
    · cases h
    · cases h
      rw [not_or] at hDots
      obtain ⟨hName, hPieces⟩ := foldl_enter_of_lastPiece? hLast (disk.start path).1
      have hParent := follow_eq_ok hFollow
      rw [List.foldl_append] at hParent
      rw [destination, hPieces, hParent, Location.enter, if_neg (by simp [hName, hDots.1]),
        if_neg hDots.2]
      rfl

theorem follow_append (disk : Disk) (location : Location) (front back : List String) :
    disk.follow location (front ++ back)
      = disk.follow location front >>= fun middle => disk.follow middle back := by
  induction front generalizing location with
  | nil => rfl
  | cons piece front ih =>
    rw [List.cons_append, follow, follow]
    split
    · rfl
    · split_ifs <;> exact ih _
    · rfl

/-- A path that does not end in a slash leads to the entry that can be written there. -/
theorem locate_of_target (h : disk.target path = .ok (some (parent, name, false))) :
    disk.locate path = .ok (parent ++ [name]) := by
  rw [target] at h
  split_ifs at h with hEmpty
  dsimp only at h
  split at h
  · cases h
  · next before last slash hLast =>
    obtain ⟨found, hFollow, h⟩ := bind_eq_ok_iff.1 h
    split_ifs at h with hDots
    · cases h
    · cases h
      rw [not_or] at hDots
      obtain ⟨after, hPieces, -, hName, hNone⟩ := exists_of_lastPiece? hLast
      rw [hNone rfl, List.append_nil] at hPieces
      rw [follow_append, bind_eq_ok_iff] at hFollow
      obtain ⟨middle, hFront, hDot⟩ := hFollow
      rw [locate, if_neg hEmpty]
      show disk.follow (disk.start path).1 (disk.start path).2 = _
      rw [hPieces, follow_append, hFront]
      show disk.follow middle [name] = _
      rw [follow] at hDot ⊢
      split at hDot
      · cases hDot
      · obtain rfl : middle = parent := by simpa [follow] using hDot
        simp [hName, hDots.1, hDots.2, follow]
      · cases hDot

/-! ### Writes -/

theorem node?_put {node : DiskNode} (hParent : disk.node? parent = some .directory)
    (hKeep : node = .directory ∨ disk.node? (parent ++ [name]) ≠ some .directory) (l : Location) :
    (disk.put parent name node hParent hKeep).node? l
      = if l = parent ++ [name] then some node else disk.node? l := by
  split_ifs with hSame
  · subst hSame
    cases hCase : parent ++ [name] with
    | nil => simp at hCase
    | cons first rest => simp [node?, put, DiskNode.at?, hCase]
  · exact at?_insert_of_ne hSame

theorem altersOnly_put {node : DiskNode} (hParent : disk.node? parent = some .directory)
    (hKeep : node = .directory ∨ disk.node? (parent ++ [name]) ≠ some .directory) :
    AltersOnly disk (disk.put parent name node hParent hKeep) [parent ++ [name]] where
  workDir := rfl
  device := rfl
  directories l hDir := by
    rw [node?_put]
    split_ifs with hSame
    · subst hSame
      rcases hKeep with hNode | hNot
      · rw [hNode]
      · exact absurd hDir hNot
    · exact hDir
  present l hSome := by
    rw [node?_put]
    split_ifs
    · rfl
    · exact hSome
  files l hOut := by
    rw [file?, file?, node?_put, if_neg (by simpa using hOut)]

theorem writeNode_of_target {node : DiskNode}
    (hTarget : disk.target path = .ok (some (parent, name, false)))
    (hParent : disk.node? parent = some .directory)
    (hKeep : disk.node? (parent ++ [name]) ≠ some .directory) :
    disk.writeNode path node = .ok (disk.put parent name node hParent (.inr hKeep)) := by
  refine bind_eq_ok_iff.2 ⟨_, hTarget, ?_⟩
  dsimp only
  rw [if_neg (by decide), dif_pos hParent, dif_neg hKeep]

theorem writeNode_eq_ok {node : DiskNode} (h : disk.writeNode path node = .ok later) :
    ∃ parent name hParent hKeep, disk.target path = .ok (some (parent, name, false))
      ∧ later = disk.put parent name node hParent (.inr hKeep) := by
  rw [writeNode] at h
  obtain ⟨found, hTarget, h⟩ := bind_eq_ok_iff.1 h
  split at h
  · cases h
  · next parent name slash =>
    split_ifs at h with hSlash hParent hKeep
    obtain rfl : slash = false := by simpa using hSlash
    exact ⟨parent, name, hParent, hKeep, hTarget, (Except.ok.inj h).symm⟩

theorem altersOnly_of_writeNode {node : DiskNode} (h : disk.writeNode path node = .ok later) :
    AltersOnly disk later [disk.destination path] := by
  obtain ⟨parent, name, hParent, hKeep, hTarget, rfl⟩ := writeNode_eq_ok h
  rw [target_eq_ok hTarget]
  exact altersOnly_put hParent (.inr hKeep)

/-- **What was written is read back.** -/
theorem look_of_writeNode {node : DiskNode} (h : disk.writeNode path node = .ok later) :
    later.look path = .ok node := by
  have hAlters := altersOnly_of_writeNode h
  obtain ⟨parent, name, hParent, hKeep, hTarget, rfl⟩ := writeNode_eq_ok h
  rw [look_eq_ok_iff, hAlters.destination_eq, target_eq_ok hTarget]
  exact ⟨hAlters.locate_eq_ok (locate_of_target hTarget), by rw [node?_put, if_pos rfl]⟩

/-- **How a write ends**: well, with nothing changed, or with a part of the text. -/
theorem save_cases (disk : Disk) (path content : String) :
    (∃ written, disk.writeText path content = .ok written
        ∧ disk.save path content = (written, none))
      ∨ (∃ reason, disk.save path content = (disk, some reason))
      ∨ ∃ written bytes reason part, disk.device disk.nodes written = .cut bytes reason
        ∧ disk.writeNode path (.firstBytes content bytes) = .ok part
        ∧ disk.save path content = (part, some reason) := by
  rw [save]
  split
  · exact .inr (.inl ⟨_, rfl⟩)
  · next written hWritten =>
    split
    · exact .inl ⟨written, hWritten, rfl⟩
    · exact .inr (.inl ⟨_, rfl⟩)
    · next bytes reason hCut =>
      split
      · next part hPart => exact .inr (.inr ⟨written.nodes, bytes, reason, part, hCut, hPart, rfl⟩)
      · exact .inr (.inl ⟨_, rfl⟩)

/-! ### New directories -/

theorem makeDirectory_eq_ok (h : disk.makeDirectory path = .ok later) :
    ∃ parent name hParent, disk.destination path = parent ++ [name]
      ∧ disk.node? (parent ++ [name]) = none
      ∧ later = disk.put parent name .directory hParent (.inl rfl) := by
  rw [makeDirectory] at h
  obtain ⟨found, hTarget, h⟩ := bind_eq_ok_iff.1 h
  split at h
  · cases h
  · next parent name slash =>
    split_ifs at h with hSome hParent
    dsimp only at h
    split at h
    · exact ⟨parent, name, hParent, target_eq_ok hTarget, Option.not_isSome_iff_eq_none.1 hSome,
        (Except.ok.inj h).symm⟩
    · cases h
    · cases h

theorem altersOnly_of_makeDirectory (h : disk.makeDirectory path = .ok later) :
    AltersOnly disk later [] := by
  obtain ⟨parent, name, hParent, -, hNone, rfl⟩ := makeDirectory_eq_ok h
  refine { altersOnly_put hParent (.inl rfl) with files := fun l _ => ?_ }
  rw [file?, file?, node?_put]
  split_ifs with hSame
  · -- nothing stood where the directory is made, and it is no file
    rw [hSame, hNone]
    rfl
  · rfl

theorem altersOnly_ensureDirectory (disk : Disk) (path : String) :
    AltersOnly disk (disk.ensureDirectory path).1 [] := by
  rw [ensureDirectory]
  split
  · next made hMade => exact altersOnly_of_makeDirectory hMade
  · exact .refl disk []

theorem altersOnly_makeDirectoriesWithin (depth : Nat) (disk : Disk) (path : String) :
    AltersOnly disk (makeDirectoriesWithin depth disk path).1 [] := by
  induction depth generalizing path with
  | zero => exact .refl disk []
  | succ depth ih =>
    rw [makeDirectoriesWithin]
    split
    · exact .refl disk []
    split
    · next made hMade => exact altersOnly_of_makeDirectory hMade
    · split
      · exact .refl disk []
      next parent hParent =>
      have hWay := ih parent
      split
      · next made hMade =>
        rw [hMade] at hWay
        exact hWay.trans (altersOnly_ensureDirectory made path)
      · next made e hMade =>
        rw [hMade] at hWay
        exact hWay
    · exact .refl disk []

theorem altersOnly_makeDirectories (disk : Disk) (path : String) :
    AltersOnly disk (disk.makeDirectories path).1 [] :=
  altersOnly_makeDirectoriesWithin _ disk path

end Disk

end ResolverScaffold

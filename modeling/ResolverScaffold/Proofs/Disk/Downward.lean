import ResolverScaffold.Proofs.Disk
import ResolverScaffold.Proofs.Path

/-!
# Paths that go down

A path without `..` leads to the names in it, one below the other.  Such a path leads to
whatever stands in its place, since all that is on the way has to be there (`GoesDown.follow_eq_ok`),
and the directories that are made for it are on the way to its place
(`makesOnly_makeDirectories`).
-/

namespace ResolverScaffold

namespace Path

/-- No piece of the path goes back. -/
def GoesDown (path : String) : Prop := ".." ∉ names path.toList

instance (path : String) : Decidable (GoesDown path) := inferInstanceAs (Decidable (_ ∉ _))

theorem goesDown_iff {path : String} :
    GoesDown path ↔ ".." ∉ (pieces path.toList).map String.ofList := by
  rw [GoesDown, names, List.mem_filter, and_iff_left (by decide)]

/-! ### Parents -/

theorem getLast?_trimTail {cs : List Char} (h : cs.getLast? = some '/') :
    (trimTail cs).getLast? = some '/' := by
  fun_induction trimTail cs with
  | case1 => rfl
  | case2 rest hNot ih =>
    refine ih ?_
    cases rest with
    | nil => exact (hNot rfl).elim
    | cons c rest => simpa using h
  | case3 rest ih => exact ih (by simpa using h)
  | case4 => exact h

theorem trimTail_suffix (cs : List Char) : trimTail cs <:+ cs := by
  fun_induction trimTail cs with
  | case1 => exact List.suffix_rfl
  | case2 rest _ ih => exact ih.trans (List.suffix_cons _ _)
  | case3 rest ih => exact ih.trans (List.suffix_cons _ _)
  | case4 => exact List.suffix_rfl

theorem getLast?_dropWhile_slash {cs : List Char} (h : cs.getLast? = some '/') :
    (cs.dropWhile (· ≠ '/')).getLast? = some '/' := by
  obtain ⟨front, rfl⟩ := List.getLast?_eq_some_iff.1 h
  rw [List.dropWhile_append]
  split
  · rfl
  · exact List.getLast?_concat

/-- What is left of a path without its last component. -/
theorem parent?_eq_some {path parent : String} (h : parent? path = some parent) :
    parent.toList = (trimTail ((trimTail path.toList.reverse).dropWhile (· ≠ '/'))).reverse := by
  rw [parent?, last?] at h
  split at h
  · cases h
  · cases h
  · cases h
    exact String.toList_ofList

/-- A parent starts where the path starts. -/
theorem isAbsolute_of_parent? {path parent : String} (h : parent? path = some parent) :
    isAbsolute parent = isAbsolute path := by
  have hParent := parent?_eq_some h
  rw [isAbsolute, isAbsolute, Bool.eq_iff_iff, beq_iff_eq, beq_iff_eq, hParent, List.head?_reverse,
    ← List.getLast?_reverse]
  constructor
  · intro hLast
    obtain ⟨front, hFront⟩ := ((trimTail_suffix _).trans (List.dropWhile_suffix _)).trans
      (trimTail_suffix path.toList.reverse)
    rw [← hFront, List.getLast?_append, hLast, Option.some_or]
  · exact fun hLast => getLast?_trimTail (getLast?_dropWhile_slash (getLast?_trimTail hLast))

/-- The names of a parent are the first of the path. -/
theorem names_parent?_isPrefix {path parent : String} (h : parent? path = some parent) :
    names parent.toList <+: names path.toList := by
  have hPath : names path.toList = names (trimTail path.toList.reverse).reverse := by
    rw [names_trimTail, List.reverse_reverse]
  rw [parent?_eq_some h, names_trimTail, hPath]
  nth_rewrite 2 [← List.takeWhile_append_dropWhile (p := (· ≠ '/'))
    (l := trimTail path.toList.reverse)]
  rw [names_ends (Text.dropWhile_ne_cases '/' _)]
  exact List.prefix_append _ _

theorem GoesDown.parent? {path parent : String} (hDown : GoesDown path)
    (h : Path.parent? path = some parent) : GoesDown parent :=
  fun hMem => hDown ((names_parent?_isPrefix h).subset hMem)

end Path

namespace Disk

variable {disk middle later : Disk} {path : String} {location : Location}

/-! ### The way to a place -/

/-- What stands somewhere stands in directories all the way. -/
theorem node?_eq_directory {front : Location} {name : String} {more : List String}
    (h : disk.node? (front ++ name :: more) ≠ none) : disk.node? front = some .directory := by
  induction more using List.reverseRecOn with
  | nil =>
    refine disk.rooted front name ?_
    rw [Dict.contains, Option.isSome_iff_ne_none]
    cases front <;> exact h
  | append_singleton more last ih =>
    refine ih ?_
    have hOuter : disk.node? (front ++ name :: more) = some .directory := by
      refine disk.rooted _ last ?_
      rw [Dict.contains, Option.isSome_iff_ne_none]
      rw [← List.cons_append, ← List.append_assoc] at h
      cases front <;> exact h
    rw [hOuter]
    exact Option.some_ne_none _

/-- Only the pieces that name something lead somewhere. -/
theorem foldl_enter_filter (pieces : List String) (location : Location) :
    (pieces.filter fun piece => !piece.isEmpty && piece != ".").foldl Location.enter location
      = pieces.foldl Location.enter location := by
  induction pieces generalizing location with
  | nil => rfl
  | cons piece rest ih =>
    rw [List.filter_cons, List.foldl_cons]
    split
    · rw [List.foldl_cons, ih]
    · next hOut =>
      have hSame : piece = "" ∨ piece = "." := by
        simpa [-not_and, not_and_or] using hOut
      rw [ih, Location.enter, if_pos hSame]

theorem destination_eq (disk : Disk) (path : String) :
    disk.destination path
      = (Path.names path.toList).foldl Location.enter
        (if Path.isAbsolute path then [] else disk.workDir) :=
  (foldl_enter_filter _ _).symm

/-- **All spellings of a path lead to one place.** -/
theorem destination_eq_of_same {a b : String} (h : Path.same a b = true) :
    disk.destination a = disk.destination b := by
  have hSame : Path.components a = Path.components b := beq_iff_eq.1 h
  rw [destination_eq, destination_eq, Path.names_eq_filter, Path.names_eq_filter, hSame,
    Path.isAbsolute_eq_of_components_eq hSame]

theorem foldl_enter_eq {pieces : List String} (h : ".." ∉ pieces) (location : Location) :
    pieces.foldl Location.enter location
      = location ++ pieces.filter fun piece => !piece.isEmpty && piece != "." := by
  induction pieces generalizing location with
  | nil => simp
  | cons piece rest ih =>
    rw [List.mem_cons, not_or] at h
    rw [List.foldl_cons, ih h.2, Location.enter]
    by_cases hSame : piece = "" ∨ piece = "."
    · have hOut : (!piece.isEmpty && piece != ".") = false := by
        rcases hSame with rfl | rfl <;> decide
      rw [if_pos hSame, List.filter_cons, if_neg (by rw [hOut]; decide)]
    · have hIn : (!piece.isEmpty && piece != ".") = true := by
        rw [not_or] at hSame
        simp [hSame.1, hSame.2]
      rw [if_neg hSame, if_neg (Ne.symm h.1), List.filter_cons, if_pos hIn, List.append_assoc]
      rfl

/-- **A path that goes down leads to the names in it.** -/
theorem destination_of_goesDown (hDown : Path.GoesDown path) :
    disk.destination path
      = (if Path.isAbsolute path then [] else disk.workDir) ++ Path.names path.toList :=
  foldl_enter_eq (Path.goesDown_iff.1 hDown) _

theorem destination_parent?_isPrefix {parent : String} (hDown : Path.GoesDown path)
    (h : Path.parent? path = some parent) :
    disk.destination parent <+: disk.destination path := by
  rw [destination_of_goesDown hDown, destination_of_goesDown (hDown.parent? h),
    Path.isAbsolute_of_parent? h, List.prefix_append_right_inj]
  exact Path.names_parent?_isPrefix h

/-- A walk that goes down to a file on one disk does so on every disk with all directories on the
way. -/
theorem follow_of_directories {pieces : List String} {found : Location} (hDown : ".." ∉ pieces)
    (hFollow : later.follow location pieces = .ok found)
    (hFile : later.node? found ≠ some .directory)
    (hWay : ∀ front, front <+: found → front ≠ found → disk.node? front = some .directory) :
    disk.follow location pieces = .ok found := by
  induction pieces generalizing location with
  | nil => exact hFollow
  | cons piece rest ih =>
    have hFound := Disk.follow_eq_ok hFollow
    rw [foldl_enter_eq hDown] at hFound
    rw [List.mem_cons, not_or] at hDown
    rw [follow] at hFollow
    split at hFollow
    · cases hFollow
    · next hNode =>
      have hHere : disk.node? location = some .directory := by
        refine hWay location (hFound ▸ List.prefix_append _ _) ?_
        rintro rfl
        exact hFile hNode
      rw [follow, hHere]
      dsimp only
      split_ifs at hFollow ⊢ <;> exact ih hDown.2 hFollow
    · cases hFollow

/-- **A path that goes down leads to whatever stands in its place**, if on some disk it leads to a
file there. -/
theorem exists?_of_goesDown (hDown : Path.GoesDown path) {content : String}
    (hLater : later.look path = .ok (.text content)) (hDir : later.workDir = disk.workDir)
    (hThere : disk.node? (disk.destination path) ≠ none) : disk.exists? path = true := by
  obtain ⟨hLocate, hNode⟩ := look_eq_ok_iff.1 hLater
  have hPlace : later.destination path = disk.destination path := by
    rw [destination, destination, start, start, hDir]
  rw [hPlace] at hLocate hNode
  obtain ⟨node, hSome⟩ := Option.ne_none_iff_exists'.1 hThere
  refine exists?_eq_true_iff.2 ⟨node, look_eq_ok_iff.2 ⟨?_, hSome⟩⟩
  rw [locate] at hLocate ⊢
  split_ifs at hLocate ⊢
  rw [start, hDir] at hLocate
  refine follow_of_directories (Path.goesDown_iff.1 hDown) hLocate (by rw [hNode]; simp) ?_
  rintro front ⟨rest, hRest⟩ hNe
  rw [← hRest] at hThere
  cases rest with
  | nil => exact absurd (by simpa using hRest) hNe
  | cons name more => exact node?_eq_directory hThere

/-! ### New directories -/

/-- From `disk` to `later`, new directories are on the way to one of the places only. -/
def MakesOnly (disk later : Disk) (places : List Location) : Prop :=
  ∀ l, later.node? l = some .directory →
    disk.node? l = some .directory ∨ ∃ place ∈ places, l <+: place

variable {places places' : List Location}

namespace MakesOnly

theorem refl (disk : Disk) (places : List Location) : MakesOnly disk disk places :=
  fun _ h => .inl h

theorem trans (h : MakesOnly disk middle places) (h' : MakesOnly middle later places') :
    MakesOnly disk later (places ++ places') := by
  intro l hDir
  simp only [List.mem_append, or_and_right, exists_or]
  rcases h' l hDir with hMiddle | hNew
  · exact (h l hMiddle).imp_right .inl
  · exact .inr (.inr hNew)

theorem mono (h : MakesOnly disk later places)
    (hBelow : ∀ place ∈ places, ∃ place' ∈ places', place <+: place') :
    MakesOnly disk later places' := by
  intro l hDir
  refine (h l hDir).imp_right ?_
  rintro ⟨place, hPlace, hPrefix⟩
  obtain ⟨place', hPlace', hLonger⟩ := hBelow place hPlace
  exact ⟨place', hPlace', hPrefix.trans hLonger⟩

end MakesOnly

theorem makesOnly_of_writeNode {node : DiskNode} (hFile : node ≠ .directory)
    (h : disk.writeNode path node = .ok later) : MakesOnly disk later [] := by
  obtain ⟨parent, name, hParent, hKeep, -, rfl⟩ := writeNode_eq_ok h
  intro l hDir
  rw [node?_put] at hDir
  split_ifs at hDir
  · exact absurd (Option.some.inj hDir) hFile
  · exact .inl hDir

/-- A write makes no directory, however it ends. -/
theorem makesOnly_save (disk : Disk) (path content : String) :
    MakesOnly disk (disk.save path content).1 [] := by
  rcases save_cases disk path content with ⟨written, hWritten, hSave⟩ | ⟨reason, hSave⟩
    | ⟨written, bytes, reason, part, -, hPart, hSave⟩
  · rw [hSave]
    exact makesOnly_of_writeNode (by simp) hWritten
  · rw [hSave]
    exact .refl disk _
  · rw [hSave]
    refine makesOnly_of_writeNode (fun hDirectory => ?_) hPart
    have hPart := DiskNode.isPart_firstBytes content bytes
    rw [hDirectory] at hPart
    exact hPart

theorem makesOnly_of_makeDirectory (h : disk.makeDirectory path = .ok later) :
    MakesOnly disk later [disk.destination path] := by
  obtain ⟨parent, name, hParent, hPath, -, rfl⟩ := makeDirectory_eq_ok h
  intro l hDir
  rw [node?_put] at hDir
  split_ifs at hDir with hSame
  · rw [hSame, hPath]
    exact .inr ⟨_, List.mem_singleton_self _, List.prefix_rfl⟩
  · exact .inl hDir

theorem makesOnly_ensureDirectory (disk : Disk) (path : String) :
    MakesOnly disk (disk.ensureDirectory path).1 [disk.destination path] := by
  rw [ensureDirectory]
  split
  · next made hMade => exact makesOnly_of_makeDirectory hMade
  · exact .refl disk _

theorem makesOnly_makeDirectoriesWithin (depth : Nat) (disk : Disk) (hDown : Path.GoesDown path) :
    MakesOnly disk (makeDirectoriesWithin depth disk path).1 [disk.destination path] := by
  induction depth generalizing path with
  | zero => exact .refl disk _
  | succ depth ih =>
    rw [makeDirectoriesWithin]
    split
    · exact .refl disk _
    split
    · next made hMade => exact makesOnly_of_makeDirectory hMade
    · split
      · exact .refl disk _
      next parent hParent =>
      have hAlters := altersOnly_makeDirectoriesWithin depth disk parent
      have hWay : MakesOnly disk (makeDirectoriesWithin depth disk parent).1
          [disk.destination path] := by
        refine (ih (hDown.parent? hParent)).mono ?_
        simpa using destination_parent?_isPrefix hDown hParent
      split
      · next made hMade =>
        rw [hMade] at hWay hAlters
        have hLast := makesOnly_ensureDirectory made path
        rw [hAlters.destination_eq] at hLast
        exact (hWay.trans hLast).mono (by simp)
      · next made e hMade =>
        rw [hMade] at hWay
        exact hWay
    · exact .refl disk _

/-- **The directories that are made for a path are on the way to its place.** -/
theorem makesOnly_makeDirectories (disk : Disk) (hDown : Path.GoesDown path) :
    MakesOnly disk (disk.makeDirectories path).1 [disk.destination path] :=
  makesOnly_makeDirectoriesWithin _ disk hDown

end Disk

end ResolverScaffold

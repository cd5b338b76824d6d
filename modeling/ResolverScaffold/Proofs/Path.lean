import Mathlib.Data.List.Basic
import ResolverScaffold.Path
import ResolverScaffold.Proofs.Text.Parts

/-!
# Components of paths

A path is read from its front into components and from its back for its file name.
Both come down to the same list: the pieces between slashes that name something.

* `components_eq`: the components are those names, after what the path starts at.
* `fileName?_eq`: the file name is the last of them.
* `components_join`: a name that is joined to a path is one component more.
-/

namespace ResolverScaffold.Path

/-! ### Pieces -/

theorem pieces_ne_nil (cs : List Char) : pieces cs ≠ [] := by
  fun_cases pieces cs <;> simp

theorem pieces_cons_of_ne {c : Char} (h : c ≠ '/') (cs : List Char) :
    ∃ piece more, pieces cs = piece :: more ∧ pieces (c :: cs) = (c :: piece) :: more := by
  obtain ⟨piece, more, hPieces⟩ := List.exists_cons_of_ne_nil (pieces_ne_nil cs)
  refine ⟨piece, more, hPieces, ?_⟩
  rw [pieces, hPieces]
  exact h

theorem pieces_append_slash (xs ys : List Char) :
    pieces (xs ++ '/' :: ys) = pieces xs ++ pieces ys := by
  induction xs with
  | nil => rfl
  | cons c xs ih =>
    by_cases h : c = '/'
    · subst h
      exact congrArg ([] :: ·) ih
    · obtain ⟨piece, more, hRest, hAll⟩ := pieces_cons_of_ne h xs
      obtain ⟨piece', more', hRest', hAll'⟩ := pieces_cons_of_ne h (xs ++ '/' :: ys)
      rw [ih, hRest, List.cons_append] at hRest'
      obtain ⟨rfl, rfl⟩ := List.cons.inj hRest'
      rw [List.cons_append, hAll', hAll, List.cons_append]

theorem pieces_of_notMem {cs : List Char} (h : '/' ∉ cs) : pieces cs = [cs] := by
  induction cs with
  | nil => rfl
  | cons c cs ih =>
    rw [List.mem_cons, not_or] at h
    obtain ⟨piece, more, hRest, hAll⟩ := pieces_cons_of_ne (Ne.symm h.1) cs
    rw [ih h.2] at hRest
    obtain ⟨rfl, rfl⟩ := List.cons.inj hRest
    exact hAll

theorem slash_notMem_of_mem_pieces {cs : List Char} :
    ∀ {piece : List Char}, piece ∈ pieces cs → '/' ∉ piece := by
  induction cs with
  | nil =>
    intro piece h
    rw [pieces, List.mem_singleton] at h
    simp [h]
  | cons c cs ih =>
    intro piece h
    by_cases hSlash : c = '/'
    · subst hSlash
      rcases List.mem_cons.1 h with rfl | h
      · simp
      · exact ih h
    · obtain ⟨first, more, hRest, hAll⟩ := pieces_cons_of_ne hSlash cs
      rw [hAll] at h
      rcases List.mem_cons.1 h with rfl | h
      · have hFirst : '/' ∉ first := ih (by rw [hRest]; exact List.mem_cons_self)
        simp [Ne.symm hSlash, hFirst]
      · exact ih (by rw [hRest]; exact List.mem_cons_of_mem _ h)

/-! ### Names -/

/-- The pieces of a path that name something. -/
def names (cs : List Char) : List String :=
  ((pieces cs).map String.ofList).filter fun piece => !piece.isEmpty && piece != "."

@[simp] theorem names_nil : names [] = [] := by decide

@[simp] theorem names_dot : names ['.'] = [] := by decide

@[simp] theorem names_append_slash (xs ys : List Char) :
    names (xs ++ '/' :: ys) = names xs ++ names ys := by
  rw [names, pieces_append_slash, List.map_append, List.filter_append, names, names]

theorem names_of_notMem {cs : List Char} (h : '/' ∉ cs) (hNe : cs ≠ []) (hDot : cs ≠ ['.']) :
    names cs = [String.ofList cs] := by
  rw [names, pieces_of_notMem h]
  have hDot' : String.ofList cs ≠ "." := by
    intro hSame
    exact hDot (by simpa using congrArg String.toList hSame)
  simp [hNe, hDot']

theorem notMem_of_mem_names {cs : List Char} {name : String} (h : name ∈ names cs) :
    '/' ∉ name.toList ∧ name ≠ "." := by
  rw [names, List.mem_filter, List.mem_map] at h
  obtain ⟨⟨piece, hPiece, rfl⟩, hKeep⟩ := h
  rw [Bool.and_eq_true, bne_iff_ne] at hKeep
  refine ⟨?_, hKeep.2⟩
  rw [String.toList_ofList]
  exact slash_notMem_of_mem_pieces hPiece

/-! ### Components -/

/-- What a path starts at: the root, the place where it is, or nothing. -/
def anchor (path : String) : List String :=
  if isAbsolute path then ["/"]
  else if ((pieces path.toList).map String.ofList).head? == some "." then ["."]
  else []

theorem components_eq (path : String) : components path = anchor path ++ names path.toList := by
  show (if isAbsolute path then "/" :: names path.toList
    else if ((pieces path.toList).map String.ofList).head? == some "." then
      "." :: names path.toList
    else names path.toList) = _
  rw [anchor]
  split
  · rfl
  · split <;> rfl

/-- No name looks like the start of a path, so the names can be read off the components. -/
theorem names_eq_filter (path : String) :
    names path.toList = (components path).filter fun c => c ≠ "/" ∧ c ≠ "." := by
  have hAnchor : (anchor path).filter (fun c => c ≠ "/" ∧ c ≠ ".") = [] := by
    rw [anchor]
    split
    · rfl
    · split <;> rfl
  have hNames : (names path.toList).filter (fun c => c ≠ "/" ∧ c ≠ ".") = names path.toList := by
    refine List.filter_eq_self.2 fun name hMem => decide_eq_true ⟨?_, (notMem_of_mem_names hMem).2⟩
    rintro rfl
    exact (notMem_of_mem_names hMem).1 (by decide)
  rw [components_eq, List.filter_append, hAnchor, hNames, List.nil_append]

theorem isAbsolute_eq_of_components_eq {a b : String} (h : components a = components b) :
    isAbsolute a = isAbsolute b := by
  -- only a path that starts at the root has it as a component
  have hRoot : ∀ path, isAbsolute path = true ↔ "/" ∈ components path := by
    intro path
    have hNames : "/" ∉ names path.toList := fun hMem =>
      (notMem_of_mem_names hMem).1 (by decide)
    rw [components_eq, List.mem_append, or_iff_left hNames, anchor]
    split
    · next hAbsolute => simpa using hAbsolute
    · next hRelative => split <;> simpa using hRelative
  rw [Bool.eq_iff_iff, hRoot, hRoot, h]

/-! ### File names -/

theorem names_trimTail (cs : List Char) : names (trimTail cs).reverse = names cs.reverse := by
  fun_induction trimTail cs with
  | case1 => rfl
  | case2 rest _ ih => simp [ih]
  | case3 rest ih =>
    rw [ih]
    simp
  | case4 => rfl

/-- What is left is nothing, the root, or a path that ends in a component. -/
theorem trimTail_cases (cs : List Char) :
    trimTail cs = [] ∨ trimTail cs = ['/']
      ∨ ∃ c rest, trimTail cs = c :: rest ∧ c ≠ '/' ∧ (c = '.' → rest.head? ≠ some '/') := by
  fun_induction trimTail cs with
  | case1 => exact .inr (.inl rfl)
  | case2 rest _ ih => exact ih
  | case3 rest ih => exact ih
  | case4 cs hRoot hSlash hDot =>
    cases cs with
    | nil => exact .inl rfl
    | cons c rest =>
      refine .inr (.inr ⟨c, rest, rfl, ?_, ?_⟩)
      · rintro rfl
        exact hSlash rest rfl
      · rintro rfl hHead
        cases rest with
        | nil => cases hHead
        | cons c rest =>
          cases hHead
          exact hDot rest rfl

theorem names_ends {name after : List Char}
    (hAfter : after = [] ∨ ∃ more, after = '/' :: more) :
    names (name ++ after).reverse = names after.reverse ++ names name.reverse := by
  rcases hAfter with rfl | ⟨more, rfl⟩ <;> simp

/-- The last component of a path is read off its end. -/
theorem exists_last?_eq {path : String} {c : Char} {rest : List Char}
    (hTail : trimTail path.toList.reverse = c :: rest) (hSlash : c ≠ '/') :
    ∃ name after, c :: rest = c :: name ++ after ∧ '/' ∉ c :: name
      ∧ (after = [] ∨ ∃ more, after = '/' :: more)
      ∧ ∃ before, last? path = some (String.ofList (c :: name).reverse, before) := by
  have hTake : (c :: rest).takeWhile (· ≠ '/') = c :: rest.takeWhile (· ≠ '/') :=
    List.takeWhile_cons_of_pos (decide_eq_true hSlash)
  refine ⟨rest.takeWhile (· ≠ '/'), rest.dropWhile (· ≠ '/'), ?_, ?_, ?_, ?_⟩
  · rw [List.cons_append, List.takeWhile_append_dropWhile]
  · rw [← hTake]
    intro hMem
    have hAll := List.all_takeWhile (p := (· ≠ '/')) (l := c :: rest)
    exact absurd rfl (of_decide_eq_true (List.all_eq_true.1 hAll _ hMem))
  · exact Text.dropWhile_ne_cases '/' rest
  · rw [last?, hTail]
    split
    · rename_i hNil
      cases hNil
    · rename_i hRoot
      cases hRoot
      exact absurd rfl hSlash
    · rw [hTake]
      exact ⟨_, rfl⟩

/-- **The file name of a path is the last of its names**, unless that goes back. -/
theorem fileName?_eq (path : String) :
    fileName? path = (names path.toList).getLast?.filter (· ≠ "..") := by
  have hNames := names_trimTail path.toList.reverse
  rw [List.reverse_reverse] at hNames
  rw [← hNames, fileName?]
  rcases trimTail_cases path.toList.reverse with hTail | hTail | ⟨c, rest, hTail, hSlash, hDot⟩
  · rw [last?, hTail]
    rfl
  · rw [last?, hTail]
    decide
  · obtain ⟨name, after, hRest, hName, hAfter, before, hLast⟩ := exists_last?_eq hTail hSlash
    rw [hLast, hTail, hRest, names_ends hAfter]
    by_cases hPoint : (c :: name).reverse = ['.']
    · -- a dot that is left is the whole path
      obtain ⟨rfl, rfl⟩ : c = '.' ∧ name = [] := by simpa using congrArg List.reverse hPoint
      obtain rfl : rest = after := by simpa using hRest
      have hNil : rest = [] := by
        refine hAfter.resolve_right ?_
        rintro ⟨more, rfl⟩
        exact hDot rfl rfl
      subst hNil
      simp
    · have hNot : String.ofList (c :: name).reverse ≠ "." := by
        intro hSame
        exact hPoint (by simpa using congrArg String.toList hSame)
      rw [names_of_notMem (mt List.mem_reverse.1 hName) (by simp) hPoint, List.getLast?_concat,
        Option.filter_some]
      simp only [hNot, false_or, ne_eq, decide_not, Bool.not_eq_eq_eq_not, Bool.not_true,
        decide_eq_false_iff_not, ite_not]

theorem fileName?_eq_of_components_eq {a b : String} (h : components a = components b) :
    fileName? a = fileName? b := by
  rw [fileName?_eq, fileName?_eq, names_eq_filter, names_eq_filter, h]

/-! ### Joined paths -/

/-- There is one slash between the two paths, written now or before. -/
theorem join_cases (left : String) {right : String} (h : isAbsolute right = false) :
    (left = "" ∧ join left right = right)
    ∨ ∃ front, (join left right).toList = front ++ '/' :: right.toList
      ∧ ((left.toList = front ∧ front ≠ []) ∨ left.toList = front ++ ['/']) := by
  by_cases hEmpty : left = ""
  · subst hEmpty
    exact .inl ⟨rfl, by simp [join]⟩
  · have hNe : left.toList ≠ [] := mt String.toList_eq_nil_iff.1 hEmpty
    refine .inr ?_
    rw [join, h, Bool.false_or, if_neg (mt String.isEmpty_iff.1 hEmpty)]
    split
    · rename_i hLast
      have hFront := List.dropLast_append_getLast? _ (beq_iff_eq.1 hLast)
      refine ⟨left.toList.dropLast, ?_, .inr hFront.symm⟩
      rw [String.toList_append]
      nth_rewrite 1 [← hFront]
      simp
    · exact ⟨left.toList, by simp, .inl ⟨rfl, hNe⟩⟩

theorem names_join {left right : String} (h : isAbsolute right = false) :
    names (join left right).toList = names left.toList ++ names right.toList := by
  rcases join_cases left h with ⟨rfl, hJoin⟩ | ⟨front, hJoin, ⟨hLeft, -⟩ | hLeft⟩
  · simp [hJoin]
  · rw [hJoin, hLeft, names_append_slash]
  · rw [hJoin, hLeft, names_append_slash, names_append_slash, names_nil, List.append_nil]

theorem fileName?_join {left right name : String} (h : fileName? right = some name) :
    fileName? (join left right) = some name := by
  cases hRoot : isAbsolute right with
  | true => rw [join, hRoot, Bool.true_or, if_pos rfl, h]
  | false =>
    rw [fileName?_eq, Option.filter_eq_some_iff] at h
    rw [fileName?_eq, names_join hRoot, List.getLast?_append, h.1, Option.some_or,
      Option.filter_eq_some_iff]
    exact ⟨rfl, h.2⟩

/-- A path starts where its part before a slash starts. -/
theorem anchor_eq_of_front {path left : String} {front rest : List Char}
    (hPath : path.toList = front ++ '/' :: rest)
    (hLeft : (left.toList = front ∧ front ≠ []) ∨ left.toList = front ++ ['/']) :
    anchor path = anchor left := by
  have hHead : path.toList.head? = left.toList.head? := by
    rw [hPath]
    rcases hLeft with ⟨hLeft, hNe⟩ | hLeft
    · rw [hLeft, List.head?_append_of_ne_nil _ hNe]
    · rw [hLeft]
      cases front <;> rfl
  have hFirst : (pieces path.toList).head? = (pieces left.toList).head? := by
    rw [hPath, pieces_append_slash, List.head?_append_of_ne_nil _ (pieces_ne_nil _)]
    rcases hLeft with ⟨hLeft, -⟩ | hLeft
    · rw [hLeft]
    · rw [hLeft, pieces_append_slash, List.head?_append_of_ne_nil _ (pieces_ne_nil _)]
  rw [anchor, anchor, isAbsolute, isAbsolute, hHead, List.head?_map, List.head?_map, hFirst]

/-- A text that can be the name of a file or directory. -/
structure IsPlain (name : String) : Prop where
  nonempty : name ≠ ""
  notDot : name ≠ "."
  noSlash : '/' ∉ name.toList

theorem IsPlain.isAbsolute {name : String} (h : IsPlain name) : isAbsolute name = false := by
  rw [Path.isAbsolute, beq_eq_false_iff_ne]
  intro hHead
  exact h.noSlash (List.mem_of_head? hHead)

theorem IsPlain.names {name : String} (h : IsPlain name) : names name.toList = [name] := by
  have hDot : name.toList ≠ ['.'] := by
    intro hSame
    exact h.notDot (String.toList_inj.1 hSame)
  rw [names_of_notMem h.noSlash (mt String.toList_eq_nil_iff.1 h.nonempty) hDot,
    String.ofList_toList]

/-- **A name that is joined to a path is one component more.** -/
theorem components_join {left name : String} (h : IsPlain name) :
    components (join left name) = components left ++ [name] := by
  rcases join_cases left h.isAbsolute with ⟨rfl, hJoin⟩ | ⟨front, hJoin, hLeft⟩
  · have hAnchor : anchor name = [] := by
      rw [anchor, h.isAbsolute, pieces_of_notMem h.noSlash]
      simp [h.notDot]
    rw [hJoin, components_eq, hAnchor, h.names]
    rfl
  · rw [components_eq, components_eq, anchor_eq_of_front hJoin hLeft, names_join h.isAbsolute,
      h.names, List.append_assoc]

end ResolverScaffold.Path

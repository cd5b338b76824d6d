import ResolverScaffold.Proofs.Text.Lines
import ResolverScaffold.Resolver.RetainedBlock

/-!
# Retained blocks read back

A retained block is written with `render` and found again with `scan`.  The two
cut texts into lines by the same rule, but the declaration passes through it
twice: once as it stands and once as comments.

* `isKey_of_mem_scanChars`: every block that is found has a key without line
  feeds and without blank characters at its ends.
* `scanLines_comments`: inside a block, comment lines add their contents, up to
  a line that is the closing mark.
* `scanChars_renderChars`: what is left to read of a written block after its
  first line.
* `scan_render_eq_singleton_iff`: exactly which blocks are read back as they were.
* `scanChars_append_emptyLine`: an empty line makes the scanner start afresh, so
  that what stands before it cannot swallow a block after it.
* `scanChars_eq_nil`: a text without the word of the opening mark has no blocks.
-/

namespace ResolverScaffold.RetainedBlock

open Text

/-! ### One line -/

@[simp] theorem scanLines_nil (inside : Option (List Char × List (List Char))) :
    scanLines inside [] = [] := by
  cases inside <;> rfl

theorem scanLines_none_cons (line : List Char) (rest : List (List Char)) :
    scanLines none (line :: rest) = match after? beginMark (trimStart line) with
      | some key => scanLines (some (trim key, [])) rest
      | none => scanLines none rest := rfl

theorem scanLines_some_cons (key : List Char) (body : List (List Char)) (line : List Char)
    (rest : List (List Char)) :
    scanLines (some (key, body)) (line :: rest) =
      if trimEnd (trimStart line) = endMark then
        if key.isEmpty then scanLines none rest else ofLines key body :: scanLines none rest
      else
        match content? (trimStart line) with
        | some content => scanLines (some (key, content :: body)) rest
        | none => scanLines none rest := rfl

/-! ### Keys -/

/-- A key that a block can have. -/
structure IsKey (key : List Char) : Prop where
  ne_nil : key ≠ []
  notMem : '\n' ∉ key
  trimmed : Trimmed key

/-- Every block has a key, if the key of the block that is being read is none with line feeds or
blanks at its ends. -/
theorem isKey_of_mem_scanLines : ∀ (rest : List (List Char))
    (inside : Option (List Char × List (List Char))),
    (∀ line ∈ rest, '\n' ∉ line) →
    (∀ key body, inside = some (key, body) → '\n' ∉ key ∧ Trimmed key) →
    ∀ block ∈ scanLines inside rest, IsKey block.key.toList := by
  intro rest
  induction rest with
  | nil => intro inside _ _ block h; simp at h
  | cons line rest ih =>
    intro inside hLines hInside block h
    have hRest : ∀ l ∈ rest, '\n' ∉ l := fun l hl => hLines l (List.mem_cons_of_mem _ hl)
    have hNone := ih none hRest (fun _ _ hn => by cases hn)
    cases inside with
    | none =>
      rw [scanLines_none_cons] at h
      split at h
      · rename_i key hKey
        refine ih _ hRest ?_ block h
        intro key' body hSome
        cases hSome
        refine ⟨fun hm => ?_, trimmed_trim key⟩
        have hLine : '\n' ∈ trimStart line := by
          rw [after?_eq_some_iff.1 hKey]
          exact List.mem_append_right _ (mem_of_mem_trim hm)
        exact hLines line List.mem_cons_self ((List.dropWhile_suffix _).subset hLine)
      · exact hNone block h
    | some state =>
      obtain ⟨key, body⟩ := state
      have hKey := hInside key body rfl
      rw [scanLines_some_cons] at h
      split at h
      · split at h
        · exact hNone block h
        · rename_i hNonempty
          rcases List.mem_cons.1 h with rfl | h
          · refine ⟨?_, ?_, ?_⟩
            · simpa [ofLines] using hNonempty
            · simpa [ofLines] using hKey.1
            · simpa [ofLines] using hKey.2
          · exact hNone block h
      · split at h
        · refine ih _ hRest ?_ block h
          intro key' body' hSome
          cases hSome
          exact hKey
        · exact hNone block h

/-- **Every block that is found has a key.** -/
theorem isKey_of_mem_scanChars {source : List Char} {block : RetainedBlock}
    (h : block ∈ scanChars source) : IsKey block.key.toList :=
  isKey_of_mem_scanLines _ none (fun _ hl => notMem_of_mem_lines hl) (fun _ _ hn => by cases hn)
    block h

/-! ### The lines of a block -/

/-- What the closing mark says. -/
def endWord : List Char := "lambdagen:end".toList

theorem endMark_eq : endMark = "// ".toList ++ endWord := by decide

theorem trimStart_beginMark_append (key : List Char) :
    trimStart (beginMark ++ key) = beginMark ++ key :=
  trimStart_cons_of_not (c := '/') (by decide)

theorem scanLines_beginMark (key : List Char) (rest : List (List Char)) :
    scanLines none ((beginMark ++ key) :: rest) = scanLines (some (trim key, [])) rest := by
  rw [scanLines_none_cons, trimStart_beginMark_append, after?_eq_some_iff.2 rfl]

theorem scanLines_endMark (key : List Char) (body rest : List (List Char)) (hKey : key ≠ [])
    {line : List Char} (hStart : trimStart line = line) (hEnd : trimEnd line = endMark) :
    scanLines (some (key, body)) (line :: rest) = ofLines key body :: scanLines none rest := by
  rw [scanLines_some_cons, hStart, if_pos hEnd, if_neg (by simpa using hKey)]

theorem dropReturn_commentLine_cons (c : Char) (line : List Char) :
    dropReturn (commentLine (c :: line)) = "// ".toList ++ dropReturn (c :: line) :=
  dropReturn_append_of_ne "// ".toList (by simp)

theorem trimStart_dropReturn_commentLine (line : List Char) :
    trimStart (dropReturn (commentLine line)) = dropReturn (commentLine line) := by
  cases line with
  | nil => decide
  | cons c line =>
    rw [dropReturn_commentLine_cons]
    exact trimStart_cons_of_not (c := '/') (by decide)

/-- A comment line is the closing mark if what it comments is what the mark says. -/
theorem trimEnd_dropReturn_commentLine_eq_iff (line : List Char) :
    trimEnd (dropReturn (commentLine line)) = endMark ↔ trimEnd line = endWord := by
  rw [trimEnd_dropReturn]
  cases line with
  | nil => decide
  | cons c line =>
    have hComment : commentLine (c :: line) = "// ".toList ++ (c :: line) := rfl
    rw [hComment, trimEnd_append, endMark_eq]
    by_cases hBlank : trimEnd (c :: line) = []
    · rw [if_pos hBlank, hBlank]
      decide
    · rw [if_neg hBlank]
      exact List.append_right_inj _

theorem content?_dropReturn_commentLine (line : List Char) :
    content? (dropReturn (commentLine line)) = some (dropReturn line) := by
  cases line with
  | nil => decide
  | cons c line => rw [dropReturn_commentLine_cons, content?, after?_eq_some_iff.2 rfl]

/-- A comment line inside a block adds its content. -/
theorem scanLines_commentLine {line : List Char} (h : trimEnd line ≠ endWord) (key : List Char)
    (body rest : List (List Char)) :
    scanLines (some (key, body)) (dropReturn (commentLine line) :: rest)
      = scanLines (some (key, dropReturn line :: body)) rest := by
  rw [scanLines_some_cons, trimStart_dropReturn_commentLine,
    if_neg (fun hEnd => h ((trimEnd_dropReturn_commentLine_eq_iff line).1 hEnd)),
    content?_dropReturn_commentLine]

/-- **Comment lines inside a block add their contents**, none of them being the closing mark. -/
theorem scanLines_comments : ∀ (comments : List (List Char)),
    (∀ line ∈ comments, trimEnd line ≠ endWord) → ∀ (key : List Char) (body rest : List (List Char)),
    scanLines (some (key, body)) (comments.map (fun line => dropReturn (commentLine line)) ++ rest)
      = scanLines (some (key, (comments.map dropReturn).reverse ++ body)) rest := by
  intro comments
  induction comments with
  | nil => intro _ key body rest; rfl
  | cons line comments ih =>
    intro h key body rest
    rw [List.map_cons, List.cons_append, scanLines_commentLine (h line List.mem_cons_self),
      ih fun l hl => h l (List.mem_cons_of_mem _ hl)]
    simp

/-! ### Reading back what was written -/

/-- The lines of a block and of what it is written as. -/
theorem lines_renderChars {key : List Char} (hKey : IsKey key) (declaration : List Char) :
    lines (renderChars key declaration) = (beginMark ++ key)
      :: ((lines declaration).map fun line => dropReturn (commentLine line)) ++ [endMark] := by
  have hFront : ∀ l ∈ (beginMark ++ key) :: (lines declaration).map commentLine, '\n' ∉ l := by
    intro l hl
    rcases List.mem_cons.1 hl with rfl | hl
    · intro hm
      rcases List.mem_append.1 hm with hm | hm
      · exact absurd hm (by decide)
      · exact hKey.notMem hm
    · obtain ⟨line, hLine, rfl⟩ := List.mem_map.1 hl
      have hNot := notMem_of_mem_lines hLine
      cases line with
      | nil => decide
      | cons c line =>
        intro hm
        rcases List.mem_append.1 hm with hm | hm
        · exact absurd hm (by decide)
        · exact hNot hm
  have hPlain : dropReturn (beginMark ++ key) = beginMark ++ key := by
    apply dropReturn_eq_self
    rw [List.getLast?_append]
    cases hLast : key.getLast? with
    | none => exact absurd (List.getLast?_eq_none_iff.1 hLast) hKey.ne_nil
    | some c =>
      intro hReturn
      have hBlank := hKey.trimmed.2 c hLast
      rw [Option.some_or, Option.some.injEq] at hReturn
      rw [hReturn] at hBlank
      exact absurd hBlank (by decide)
  rw [renderChars, renderLines, lines_intercalate hFront (by decide) (by decide), List.map_cons,
    hPlain, List.map_map]
  rfl

/-- What is left to read of a written block after its first line. -/
theorem scanChars_renderChars {key : List Char} (hKey : IsKey key) (declaration : List Char) :
    scanChars (renderChars key declaration) = scanLines (some (key, []))
      (((lines declaration).map fun line => dropReturn (commentLine line)) ++ [endMark]) := by
  rw [scanChars, lines_renderChars hKey, List.cons_append, scanLines_beginMark,
    trim_of_trimmed hKey.trimmed]

/-- Without a closing mark in the declaration, its lines are read back. -/
theorem scanChars_renderChars_of_unmarked {key declaration : List Char} (hKey : IsKey key)
    (hMark : ∀ line ∈ lines declaration, trimEnd line ≠ endWord) :
    scanChars (renderChars key declaration)
      = [⟨String.ofList key, String.ofList (rejoin declaration)⟩] := by
  rw [scanChars_renderChars hKey, scanLines_comments _ hMark,
    scanLines_endMark key _ [] hKey.ne_nil (by decide) (by decide), scanLines_nil, ofLines,
    List.append_nil, List.reverse_reverse, rejoin]

/-- A closing mark in the declaration ends the block that is read back, and what is read has
fewer lines. -/
theorem length_lines_lt_of_marked {key declaration : List Char} (hKey : IsKey key)
    {line : List Char} (hMem : line ∈ lines declaration) (hMark : trimEnd line = endWord) :
    ∃ first rest, scanChars (renderChars key declaration) = first :: rest ∧
      (lines first.declaration.toList).length < (lines declaration).length := by
  have hSome : ((lines declaration).find? fun l => trimEnd l = endWord).isSome = true := by
    rw [List.find?_isSome]
    exact ⟨line, hMem, by simpa using hMark⟩
  obtain ⟨mark, hFind⟩ := Option.isSome_iff_exists.1 hSome
  obtain ⟨hIsMark, front, back, hSplit, hFront⟩ := List.find?_eq_some_iff_append.1 hFind
  have hUnmarked : ∀ l ∈ front, trimEnd l ≠ endWord := fun l hl => by simpa using hFront l hl
  have hEnd : trimEnd (dropReturn (commentLine mark)) = endMark :=
    (trimEnd_dropReturn_commentLine_eq_iff mark).2 (by simpa using hIsMark)
  refine ⟨ofLines key (front.map dropReturn).reverse, scanLines none
    ((back.map fun l => dropReturn (commentLine l)) ++ [endMark]), ?_, ?_⟩
  · rw [scanChars_renderChars hKey, hSplit, List.map_append, List.append_assoc,
      scanLines_comments _ hUnmarked, List.map_cons, List.cons_append, List.append_nil,
      scanLines_endMark key _ _ hKey.ne_nil (trimStart_dropReturn_commentLine mark) hEnd]
  · have hNoFeed : ∀ l ∈ front.map dropReturn, '\n' ∉ l := by
      intro l hl hm
      obtain ⟨l', hl', rfl⟩ := List.mem_map.1 hl
      have hIn : l' ∈ lines declaration := by
        rw [hSplit]
        exact List.mem_append_left _ hl'
      exact notMem_of_mem_lines hIn (mem_of_mem_dropReturn hm)
    have hLess := length_lines_intercalate_le hNoFeed
    rw [hSplit]
    simp only [ofLines, List.reverse_reverse, String.toList_ofList, List.length_append,
      List.length_cons]
    rw [List.length_map] at hLess
    omega

theorem scan_render (key declaration : String) :
    scan (render key declaration) = scanChars (renderChars key.toList declaration.toList) := by
  rw [scan, render, String.toList_ofList]

/-- **Which blocks are read back as they were**: those whose key has no line feed and is not
blank at either end, and whose declaration has no line end other than a line feed between two
lines and no line that says what the closing mark says. -/
theorem scan_render_eq_singleton_iff (key declaration : String) :
    scan (render key declaration) = [⟨key, declaration⟩] ↔
      (key ≠ "" ∧ '\n' ∉ key.toList
        ∧ (∀ c, key.toList.head? = some c → isBlank c = false)
        ∧ ∀ c, key.toList.getLast? = some c → isBlank c = false)
      ∧ ¬['\r', '\n'] <:+: declaration.toList
      ∧ declaration.toList.getLast? ≠ some '\n' ∧ declaration.toList.getLast? ≠ some '\r'
      ∧ ∀ line ∈ lines declaration.toList, trimEnd line ≠ "lambdagen:end".toList := by
  rw [scan_render]
  constructor
  · intro h
    have hMem : ⟨key, declaration⟩ ∈ scanChars (renderChars key.toList declaration.toList) := by
      rw [h]
      exact List.mem_singleton_self _
    have hKey : IsKey key.toList := isKey_of_mem_scanChars hMem
    have hMark : ∀ line ∈ lines declaration.toList, trimEnd line ≠ endWord := by
      intro line hMem hMark
      obtain ⟨first, rest, hScan, hLess⟩ := length_lines_lt_of_marked hKey hMem hMark
      rw [h] at hScan
      cases hScan
      exact absurd hLess (Nat.lt_irrefl _)
    rw [scanChars_renderChars_of_unmarked hKey hMark, List.cons.injEq, RetainedBlock.mk.injEq] at h
    have hSame : rejoin declaration.toList = declaration.toList := by
      rw [← String.toList_ofList (l := rejoin declaration.toList), h.1.2]
    obtain ⟨hPair, hFeed, hReturn⟩ := (rejoin_eq_self_iff _).1 hSame
    refine ⟨⟨?_, hKey.notMem, hKey.trimmed⟩, hPair, hFeed, hReturn, hMark⟩
    intro hEmpty
    exact hKey.ne_nil (by rw [hEmpty]; rfl)
  · intro ⟨⟨hne, hFeedless, hTrimmed⟩, hPair, hFeed, hReturn, hMark⟩
    have hKey : IsKey key.toList := ⟨by simpa using hne, hFeedless, hTrimmed⟩
    rw [scanChars_renderChars_of_unmarked hKey hMark,
      (rejoin_eq_self_iff _).2 ⟨hPair, hFeed, hReturn⟩, String.ofList_toList, String.ofList_toList]

/-- A block shows its key, if the key is on one line. -/
theorem eq_of_render_eq {key key' declaration declaration' : String} (hKey : '\n' ∉ key.toList)
    (hKey' : '\n' ∉ key'.toList) (h : render key declaration = render key' declaration') :
    key = key' := by
  have hFirst : ∀ {k d : String}, '\n' ∉ k.toList →
      (render k d).toList.takeWhile (· ≠ '\n') = beginMark ++ k.toList := by
    intro k d hk
    have hFeed : '\n' ∉ beginMark := by decide
    have hMark : ∀ c ∈ beginMark ++ k.toList, decide (c ≠ '\n') = true := by
      intro c hc
      apply decide_eq_true
      rintro rfl
      rcases List.mem_append.1 hc with hc | hc
      · exact hFeed hc
      · exact hk hc
    rw [render, String.toList_ofList, renderChars, renderLines, List.cons_append,
      List.intercalate_cons_of_ne_nil (by simp), List.append_assoc, List.takeWhile_append_of_pos hMark]
    simp
  have hSame := (hFirst hKey).symm.trans ((congrArg (fun text : String =>
    text.toList.takeWhile (· ≠ '\n')) h).trans (hFirst hKey'))
  exact String.toList_inj.1 (List.append_cancel_left hSame)

/-! ### Blocks in a longer text -/

/-- An empty line ends what is being read. -/
theorem scanLines_append_empty : ∀ (front back : List (List Char))
    (inside : Option (List Char × List (List Char))),
    scanLines inside (front ++ [] :: back) = scanLines inside front ++ scanLines none back := by
  intro front back
  induction front with
  | nil => intro inside; cases inside <;> rfl
  | cons line front ih =>
    intro inside
    cases inside with
    | none =>
      rw [List.cons_append, scanLines_none_cons, scanLines_none_cons]
      split
      · exact ih _
      · exact ih _
    | some state =>
      obtain ⟨key, body⟩ := state
      rw [List.cons_append, scanLines_some_cons, scanLines_some_cons]
      split
      · split
        · exact ih _
        · rw [ih, List.cons_append]
      · split
        · exact ih _
        · exact ih _

theorem scanLines_cons_congr {a b : List (List Char)}
    (h : ∀ inside, scanLines inside a = scanLines inside b) (line : List Char) :
    ∀ inside, scanLines inside (line :: a) = scanLines inside (line :: b) := by
  intro inside
  cases inside with
  | none => simp only [scanLines_none_cons, h]
  | some state =>
    obtain ⟨key, body⟩ := state
    simp only [scanLines_some_cons, h]

/-- The end of a text is as good as a line feed. -/
theorem scanLines_lines_append_feed (text : List Char) :
    ∀ inside, scanLines inside (lines (text ++ ['\n'])) = scanLines inside (lines text) := by
  induction text using lines_induction with
  | last l hl =>
    intro inside
    by_cases hne : l = []
    · subst hne
      cases inside <;> rfl
    · rw [lines_append_feed hl, lines_of_notMem hl hne]
      cases inside with
      | none =>
        rw [scanLines_none_cons, scanLines_none_cons]
        split <;> split <;> simp
      | some state =>
        obtain ⟨key, body⟩ := state
        have hTrim : trimEnd (trimStart (dropReturn l)) = trimEnd (trimStart l) := trim_dropReturn l
        rw [scanLines_some_cons, scanLines_some_cons, hTrim]
        split
        · rfl
        · split <;> split <;> rfl
  | feed l rest hl ih =>
    intro inside
    rw [List.append_assoc, List.cons_append, lines_append_feed hl, lines_append_feed hl]
    exact scanLines_cons_congr ih _ inside

theorem scanChars_append_feed (text : List Char) :
    scanChars (text ++ ['\n']) = scanChars text :=
  scanLines_lines_append_feed text none

/-- **An empty line parts a text for the scanner.** -/
theorem scanChars_append_emptyLine (a b : List Char) :
    scanChars (a ++ '\n' :: '\n' :: b) = scanChars a ++ scanChars b := by
  rw [scanChars, lines_append_feed_append, lines_feed_cons, scanLines_append_empty,
    scanLines_lines_append_feed, scanChars, scanChars]

/-- Lines none of which opens a block hold none. -/
theorem scanLines_none_eq_nil {rest : List (List Char)}
    (h : ∀ line ∈ rest, after? beginMark (trimStart line) = none) : scanLines none rest = [] := by
  induction rest with
  | nil => rfl
  | cons line rest ih =>
    rw [scanLines_none_cons, h line List.mem_cons_self]
    exact ih fun l hl => h l (List.mem_cons_of_mem _ hl)

/-- The word that the opening mark has. -/
def beginWord : List Char := "lambdagen:deprecated".toList

/-- A text without the word of the opening mark has no blocks. -/
theorem scanChars_eq_nil {source : List Char} (h : ¬beginWord <:+: source) :
    scanChars source = [] := by
  apply scanLines_none_eq_nil
  intro line hLine
  cases hAfter : after? beginMark (trimStart line) with
  | none => rfl
  | some key =>
    have hMark : beginWord <:+: beginMark := ⟨"// ".toList, " ".toList, rfl⟩
    have hStart : beginMark <:+: trimStart line := by
      rw [after?_eq_some_iff.1 hAfter]
      exact (List.prefix_append _ _).isInfix
    have hIn := (hMark.trans hStart).trans (List.dropWhile_suffix _).isInfix
    exact absurd (hIn.trans (infix_of_mem_lines hLine)) h

end ResolverScaffold.RetainedBlock

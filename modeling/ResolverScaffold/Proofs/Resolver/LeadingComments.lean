import Mathlib
import ResolverScaffold.Proofs.Resolver.Position

/-!
# The comments above a declaration

A declaration takes the plain comment lines directly above it along: as many as stand
there in a row, and none if something else stands before it on its line.  `StartsAt` says
so of the text before the declaration, and `leadingCommentsStart?` finds the place by going
up line by line, cutting the text at offsets that are all between characters.

* `commentsStart?_line`: one line up.
* `commentsStart?_fromLines`: a run of plain comments is passed as a whole.
* `comments_are_maximal`: the start that is found is the one that `StartsAt` describes.
-/

namespace ResolverScaffold.Text

/-! ### Plain comments -/

theorem startsWith_eq_true_iff {beginning text : List Char} :
    startsWith beginning text = true ↔ beginning <+: text := by
  rw [startsWith, Option.isSome_iff_exists]
  simp only [after?_eq_some_iff, List.IsPrefix]
  exact exists_congr fun _ => eq_comm

/-- A line that is a comment, but neither a doc comment nor a mark of a retained block. -/
structure PlainComment (line : List Char) : Prop where
  comment : "//".toList <+: trim line
  notOuter : ¬"///".toList <+: trim line
  notInner : ¬"//!".toList <+: trim line
  notMark : ¬"// lambdagen:".toList <+: trim line

theorem isPlainComment_iff {line : List Char} : isPlainComment line = true ↔ PlainComment line := by
  simp only [isPlainComment, Bool.and_eq_true, Bool.not_eq_true', ← Bool.not_eq_true,
    startsWith_eq_true_iff]
  constructor
  · rintro ⟨⟨⟨hComment, hOuter⟩, hInner⟩, hMark⟩
    exact ⟨hComment, hOuter, hInner, hMark⟩
  · intro h
    exact ⟨⟨⟨h.comment, h.notOuter⟩, h.notInner⟩, h.notMark⟩

/-! ### Runs of comments -/

/-- The text of lines, each with a line feed. -/
def fromLines (lines : List (List Char)) : List Char := lines.flatMap (· ++ ['\n'])

/-- The last line of whole lines is a plain comment. -/
def EndsInComment (head : List Char) : Prop :=
  ∃ front line, head = front ++ line ++ ['\n'] ∧ WholeLines front ∧ '\n' ∉ line ∧ PlainComment line

/-- Where a declaration starts, given the text before it: where it stands, or at the topmost of
the plain comment lines that end directly above its line. -/
inductive StartsAt : (before : List Char) → (start : Nat) → Prop
  /-- Something stands before it on its line, or no plain comment stands on the line above. -/
  | alone {head line : List Char} : WholeLines head → '\n' ∉ line →
      isBlankText line = false ∨ ¬EndsInComment head →
      StartsAt (head ++ line) (byteLength (head ++ line))
  /-- There are comments above it, and no more above these. -/
  | commented {rest line : List Char} {run : List (List Char)} : WholeLines rest →
      ¬EndsInComment rest → run ≠ [] → (∀ l ∈ run, '\n' ∉ l ∧ PlainComment l) → '\n' ∉ line →
      isBlankText line = true → StartsAt (rest ++ fromLines run ++ line) (byteLength rest)

variable {head front rest line : List Char} {run : List (List Char)}

theorem fromLines_concat (run : List (List Char)) (line : List Char) :
    fromLines (run ++ [line]) = fromLines run ++ line ++ ['\n'] := by
  simp [fromLines]

theorem wholeLines_append_fromLines (hRest : WholeLines rest) (run : List (List Char)) :
    WholeLines (rest ++ fromLines run) := by
  rcases List.eq_nil_or_concat run with rfl | ⟨above, line, rfl⟩
  · rwa [fromLines, List.flatMap_nil, List.append_nil]
  · rw [List.concat_eq_append, fromLines_concat, ← List.append_assoc]
    exact .feed _

/-- Whole lines end in as many plain comments as there are in a row. -/
theorem exists_run (hHead : WholeLines head) :
    ∃ rest run, head = rest ++ fromLines run ∧ WholeLines rest ∧ ¬EndsInComment rest
      ∧ ∀ l ∈ run, '\n' ∉ l ∧ PlainComment l := by
  induction hLength : head.length using Nat.strongRecOn generalizing head with
  | ind n ih =>
    by_cases hEnds : EndsInComment head
    · obtain ⟨front, line, rfl, hFront, hLine, hPlain⟩ := hEnds
      have hShorter : front.length < n := by
        rw [← hLength, List.length_append, List.length_append, List.length_singleton]
        omega
      obtain ⟨rest, run, rfl, hRest, hNot, hRun⟩ := ih front.length hShorter hFront rfl
      refine ⟨rest, run ++ [line], ?_, hRest, hNot, ?_⟩
      · rw [fromLines_concat, List.append_assoc rest, List.append_assoc rest]
      · exact List.forall_mem_append.2 ⟨hRun, List.forall_mem_singleton.2 ⟨hLine, hPlain⟩⟩
    · exact ⟨head, [], by simp [fromLines], hHead, hEnds, by simp⟩

theorem exists_startsAt (before : List Char) : ∃ start, StartsAt before start := by
  obtain ⟨head, line, rfl, hHead, hLine⟩ := exists_lastLine before
  by_cases hAlone : isBlankText line = false ∨ ¬EndsInComment head
  · exact ⟨_, .alone hHead hLine hAlone⟩
  · rw [not_or, Bool.not_eq_false, not_not] at hAlone
    obtain ⟨rest, run, rfl, hRest, hNot, hRun⟩ := exists_run hHead
    have hSome : run ≠ [] := by
      rintro rfl
      exact hNot (by simpa [fromLines] using hAlone.2)
    exact ⟨_, .commented hRest hNot hSome hRun hLine hAlone.1⟩

/-! ### Going up -/

theorem commentsStart?_zero (text : List Char) : commentsStart? text 0 = some 0 := by
  rw [commentsStart?, if_pos rfl]

/-- One line up. -/
theorem commentsStart?_line (hFront : WholeLines front) (hLine : '\n' ∉ line) (after : List Char) :
    commentsStart? (front ++ line ++ ['\n'] ++ after) (byteLength (front ++ line ++ ['\n']))
      = if isPlainComment line then
          commentsStart? (front ++ line ++ ['\n'] ++ after) (byteLength front)
        else some (byteLength (front ++ line ++ ['\n'])) := by
  have hFeed : byteLength (front ++ line ++ ['\n']) = byteLength (front ++ line) + 1 := by
    rw [byteLength_append (front ++ line)]
    rfl
  have hTake : takeBytes? (byteLength (front ++ line)) (front ++ line ++ ['\n'] ++ after)
      = some (front ++ line) := by
    rw [List.append_assoc (front ++ line)]
    exact takeBytes?_append _ _
  have hSlice : slice? (front ++ line ++ ['\n'] ++ after) (byteLength front)
      (byteLength (front ++ line)) = some line := by
    rw [List.append_assoc (front ++ line)]
    exact slice?_append _ _ _
  rw [commentsStart?, hFeed, if_neg (Nat.succ_ne_zero _), Nat.add_sub_cancel]
  split
  · next hNone =>
    rw [hTake] at hNone
    cases hNone
  · next before hBefore =>
    rw [hTake] at hBefore
    cases hBefore
    rw [lastLineStart_append hFront hLine, hSlice]

/-- Nothing is passed that is no plain comment. -/
theorem commentsStart?_of_not_endsInComment (hRest : WholeLines rest) (hNot : ¬EndsInComment rest)
    (after : List Char) : commentsStart? (rest ++ after) (byteLength rest) = some (byteLength rest) := by
  rcases hRest with rfl | ⟨above, rfl⟩
  · exact commentsStart?_zero _
  · obtain ⟨front, line, rfl, hFront, hLine⟩ := exists_lastLine above
    have hOther : isPlainComment line = false := by
      rw [Bool.eq_false_iff, ne_eq, isPlainComment_iff]
      exact fun hPlain => hNot ⟨front, line, rfl, hFront, hLine, hPlain⟩
    rw [commentsStart?_line hFront hLine, hOther, if_neg Bool.false_ne_true]

/-- **A run of plain comments is passed as a whole.** -/
theorem commentsStart?_fromLines (hRest : WholeLines rest) (hNot : ¬EndsInComment rest)
    (hRun : ∀ l ∈ run, '\n' ∉ l ∧ PlainComment l) (after : List Char) :
    commentsStart? (rest ++ fromLines run ++ after) (byteLength (rest ++ fromLines run))
      = some (byteLength rest) := by
  induction run using List.reverseRecOn generalizing after with
  | nil =>
    rw [fromLines, List.flatMap_nil, List.append_nil]
    exact commentsStart?_of_not_endsInComment hRest hNot after
  | append_singleton run line ih =>
    obtain ⟨hAbove, hLast⟩ := List.forall_mem_append.1 hRun
    obtain ⟨hLine, hPlain⟩ := hLast line List.mem_cons_self
    have hStep := commentsStart?_line (wholeLines_append_fromLines hRest run) hLine after
    rw [if_pos (isPlainComment_iff.2 hPlain)] at hStep
    rw [fromLines_concat, ← List.append_assoc, ← List.append_assoc, hStep, List.append_assoc _ line,
      List.append_assoc _ (line ++ ['\n'])]
    exact ih hAbove _

theorem leadingCommentsStart?_append (hHead : WholeLines head) (hLine : '\n' ∉ line)
    (after : List Char) :
    leadingCommentsStart? (head ++ line ++ after) (byteLength (head ++ line))
      = if isBlankText line then
          (commentsStart? (head ++ line ++ after) (byteLength head)).map fun first =>
            if first = byteLength head then byteLength (head ++ line) else first
        else some (byteLength (head ++ line)) := by
  rw [leadingCommentsStart?, takeBytes?_append]
  dsimp only [Option.bind_eq_bind, Option.bind_some]
  rw [lastLineStart_append hHead hLine, slice?_append]
  dsimp only [Option.bind_some]
  split
  · cases commentsStart? (head ++ line ++ after) (byteLength head) <;> rfl
  · rfl

theorem StartsAt.eq_some {before : List Char} {start : Nat} (h : StartsAt before start)
    (after : List Char) :
    leadingCommentsStart? (before ++ after) (byteLength before) = some start := by
  cases h with
  | @alone head line hHead hLine hAlone =>
    rw [leadingCommentsStart?_append hHead hLine]
    rcases hAlone with hBlank | hNot
    · rw [hBlank, if_neg Bool.false_ne_true]
    · rw [List.append_assoc, commentsStart?_of_not_endsInComment hHead hNot, Option.map_some,
        if_pos rfl, ite_self]
  | @commented rest line run hRest hNot hSome hRun hLine hBlank =>
    have hUp := commentsStart?_fromLines hRest hNot hRun (line ++ after)
    -- the run is not empty, so its start is not the line of the declaration
    have hLess : byteLength rest ≠ byteLength (rest ++ fromLines run) := by
      obtain ⟨above, last, rfl⟩ := (List.eq_nil_or_concat run).resolve_left hSome
      rw [List.concat_eq_append, fromLines_concat, byteLength_append, byteLength_append]
      have hFeed : byteLength ['\n'] = 1 := rfl
      omega
    rw [leadingCommentsStart?_append (wholeLines_append_fromLines hRest run) hLine, if_pos hBlank,
      List.append_assoc _ line, hUp, Option.map_some, if_neg hLess]

/-- **A declaration takes the longest run of plain comments above it along.**  Wherever it stands
in whatever text, all cuts are made between characters, and the start that is found is the one
place where the declaration starts with its comments. -/
theorem comments_are_maximal (before after : List Char) :
    ∃ start, leadingCommentsStart? (before ++ after) (byteLength before) = some start
      ∧ ∀ n, StartsAt before n ↔ n = start := by
  obtain ⟨start, hStart⟩ := exists_startsAt before
  have hFound := hStart.eq_some after
  refine ⟨start, hFound, fun n => ⟨fun h => ?_, ?_⟩⟩
  · have hSame := h.eq_some after
    rw [hFound] at hSame
    exact (Option.some.inj hSame).symm
  · rintro rfl
    exact hStart

end ResolverScaffold.Text

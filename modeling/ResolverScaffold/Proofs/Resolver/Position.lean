import Mathlib
import ResolverScaffold.Code.Function
import ResolverScaffold.Proofs.Resolver.SourceCache
import ResolverScaffold.Proofs.Text.Parts

/-!
# Positions lead back

A reader of sources names a place by its line and its column, and what stands there is
cut out by offsets in bytes.  A place stands for what precedes it: `lineOf` and `columnOf`
read line and column off that text, and `offset?` takes them back to its length.

* `WholeLines`: a text that no line reaches out of.
* `offset?_append`: line and column lead back to the offset.
* `positions_cut_out`: two places cut out of a file what stands between them.
-/

namespace ResolverScaffold

namespace Text

/-! ### The last line of a text -/

/-- A text that is empty or ends in a line feed. -/
def WholeLines (text : List Char) : Prop := text = [] ∨ ∃ front, text = front ++ ['\n']

variable {head line text : List Char}

theorem WholeLines.feed (front : List Char) : WholeLines (front ++ ['\n']) := .inr ⟨front, rfl⟩

theorem WholeLines.reverse (h : WholeLines head) :
    head.reverse.takeWhile (· ≠ '\n') = [] ∧ head.reverse.dropWhile (· ≠ '\n') = head.reverse := by
  rcases h with rfl | ⟨front, rfl⟩
  · exact ⟨rfl, rfl⟩
  · simp

/-- The last line of a text, read from its end. -/
theorem takeWhile_reverse (hHead : WholeLines head) (hLine : '\n' ∉ line) :
    (head ++ line).reverse.takeWhile (· ≠ '\n') = line.reverse := by
  rw [List.reverse_append, List.takeWhile_append_of_pos, hHead.reverse.1, List.append_nil]
  intro c hc
  exact decide_eq_true fun hFeed => hLine (hFeed ▸ List.mem_reverse.1 hc)

theorem dropWhile_reverse (hHead : WholeLines head) (hLine : '\n' ∉ line) :
    (head ++ line).reverse.dropWhile (· ≠ '\n') = head.reverse := by
  rw [List.reverse_append, List.dropWhile_append_of_pos, hHead.reverse.2]
  intro c hc
  exact decide_eq_true fun hFeed => hLine (hFeed ▸ List.mem_reverse.1 hc)

/-- Every text is whole lines and the beginning of one more. -/
theorem exists_lastLine (text : List Char) :
    ∃ head line, text = head ++ line ∧ WholeLines head ∧ '\n' ∉ line := by
  refine ⟨(text.reverse.dropWhile (· ≠ '\n')).reverse, (text.reverse.takeWhile (· ≠ '\n')).reverse,
    ?_, ?_, ?_⟩
  · rw [← List.reverse_append, List.takeWhile_append_dropWhile, List.reverse_reverse]
  · rcases dropWhile_ne_cases '\n' text.reverse with hDrop | ⟨rest, hDrop⟩
    · exact .inl (by rw [hDrop, List.reverse_nil])
    · exact .inr ⟨rest.reverse, by rw [hDrop, List.reverse_cons]⟩
  · intro hMem
    have hAll := List.mem_takeWhile_imp (List.mem_reverse.1 hMem)
    simp at hAll

theorem lastLineStart_append (hHead : WholeLines head) (hLine : '\n' ∉ line) :
    lastLineStart (head ++ line) = byteLength head := by
  rw [lastLineStart, dropWhile_reverse hHead hLine, List.reverse_reverse]

/-! ### Lines and columns -/

/-- The number of the line in which a text ends, counted from one. -/
def lineOf (before : List Char) : Nat := 1 + before.count '\n'

/-- How many characters of its last line a text has. -/
def columnOf (before : List Char) : Nat := (before.reverse.takeWhile (· ≠ '\n')).length

theorem columnOf_append (hHead : WholeLines head) (hLine : '\n' ∉ line) :
    columnOf (head ++ line) = line.length := by
  rw [columnOf, takeWhile_reverse hHead hLine, List.length_reverse]

theorem feedEnds_append (offset : Nat) (a b : List Char) :
    feedEnds offset (a ++ b) = feedEnds offset a ++ feedEnds (offset + byteLength a) b := by
  induction a generalizing offset with
  | nil => rfl
  | cons c a ih =>
    rw [List.cons_append, feedEnds, feedEnds, ih, byteLength, Nat.add_assoc]
    split <;> rfl

theorem length_feedEnds (offset : Nat) (a : List Char) :
    (feedEnds offset a).length = a.count '\n' := by
  induction a generalizing offset with
  | nil => rfl
  | cons c a ih =>
    rw [feedEnds, List.count_cons]
    split
    · next hFeed => rw [List.length_cons, ih, if_pos (by simpa using hFeed)]
    · next hFeed => rw [ih, if_neg (by simpa using hFeed), Nat.add_zero]

/-- The line after some whole lines starts where they end. -/
theorem getElem?_lineStarts (hHead : WholeLines head) (rest : List Char) :
    (lineStarts (head ++ rest))[head.count '\n']? = some (byteLength head) := by
  rcases hHead with rfl | ⟨front, rfl⟩
  · rfl
  · have hCount : (front ++ ['\n']).count '\n' = (feedEnds 0 front).length + 1 := by
      rw [length_feedEnds, List.count_append]
      rfl
    have hStarts : lineStarts (front ++ ['\n'] ++ rest)
        = 0 :: (feedEnds 0 front ++ byteLength (front ++ ['\n'])
          :: feedEnds (byteLength (front ++ ['\n'])) rest) := by
      rw [lineStarts, feedEnds_append, feedEnds_append, Nat.zero_add, List.append_assoc,
        byteLength_append, Nat.zero_add]
      rfl
    rw [hCount, hStarts, List.getElem?_cons_succ, List.getElem?_append_right (Nat.le_refl _),
      Nat.sub_self]
    rfl

/-- **Line and column lead back to the offset.** -/
theorem offset?_append (before after : List Char) :
    offset? (before ++ after) (lineOf before) (columnOf before) = some (byteLength before) := by
  obtain ⟨head, line, rfl, hHead, hLine⟩ := exists_lastLine before
  have hLineOf : lineOf (head ++ line) = head.count '\n' + 1 := by
    rw [lineOf, List.count_append, List.count_eq_zero.2 hLine]
    omega
  have hStart := getElem?_lineStarts hHead (line ++ after)
  rw [offset?, columnOf_append hHead hLine, hLineOf, List.append_assoc,
    if_neg (Nat.succ_ne_zero _), Nat.add_sub_cancel, hStart]
  show ((dropBytes? (byteLength head) (head ++ (line ++ after))).bind fun rest =>
    if line.length ≤ rest.length then some (byteLength head + byteLength (rest.take line.length))
    else none) = _
  rw [dropBytes?_append, Option.bind_some, if_pos (by simp), List.take_left, byteLength_append]

example : offset? "ab\nçd\n".toList 2 1 = some 5 := by decide

/-! ### What stands between two places -/

theorem byteLength_eq_size (cs : List Char) :
    byteLength cs = (String.ofList cs).toByteArray.size := by
  induction cs with
  | nil => rfl
  | cons c cs ih =>
    rw [byteLength, ih, String.size_toByteArray, String.size_toByteArray,
      String.utf8ByteSize_ofList, String.utf8ByteSize_ofList, String.utf8Len_cons, Nat.add_comm]

/-- Offsets count the bytes of a text as it is encoded. -/
theorem extract_eq_part (front part after : List Char) :
    (String.ofList (front ++ part ++ after)).toByteArray.extract (byteLength front)
      (byteLength (front ++ part)) = (String.ofList part).toByteArray := by
  rw [String.ofList_append, String.ofList_append, String.toByteArray_append,
    String.toByteArray_append, ByteArray.append_assoc, byteLength_append, byteLength_eq_size,
    byteLength_eq_size]
  have hRest := ByteArray.extract_append_size_add (a := (String.ofList front).toByteArray)
    (b := (String.ofList part).toByteArray ++ (String.ofList after).toByteArray) (i := 0)
    (j := (String.ofList part).toByteArray.size)
  rw [Nat.add_zero] at hRest
  rw [hRest, ByteArray.extract_append_eq_left rfl]

end Text

namespace Code

/-- Before what follows it stands a byte order mark, or nothing. -/
theorem withoutMark_cases (text : List Char) :
    ∃ mark, text = mark ++ (withoutMark text).2 ∧ (withoutMark text).1 = Text.byteLength mark
      ∧ mark = if text.head? = some orderMark then [orderMark] else [] := by
  cases text with
  | nil => exact ⟨[], rfl, rfl, rfl⟩
  | cons c rest =>
    rw [withoutMark, List.head?_cons]
    by_cases hMark : c = orderMark
    · subst hMark
      rw [if_pos rfl, if_pos rfl]
      exact ⟨_, rfl, rfl, rfl⟩
    · rw [if_neg hMark, if_neg (by simpa using hMark)]
      exact ⟨_, rfl, rfl, rfl⟩

end Code

/-- **Positions lead back to offsets.**  The line and the column of a place, counted in line feeds
and characters, give the offset of the place in bytes, wherever it stands in whatever text.  In a
source, what stands before the places may be a byte order mark: with its length added, the offsets
of two places are those of the source, and the part of the file between them is what the source
has there, byte for byte, whatever was read before. -/
theorem Recovery.positions_cut_out :
    (∀ before after, Text.offset? (before ++ after) (Text.lineOf before) (Text.columnOf before)
        = some (Text.byteLength before))
      ∧ ∀ (source : String) (before part after : List Char),
        (Code.withoutMark source.toList).2 = before ++ part ++ after →
        ∃ mark start stop,
          source.toList = mark ++ before ++ part ++ after
            ∧ mark = (if source.toList.head? = some Code.orderMark then [Code.orderMark] else [])
            ∧ Text.offset? (before ++ part ++ after) (Text.lineOf before) (Text.columnOf before)
              = some start
            ∧ Text.offset? (before ++ part ++ after) (Text.lineOf (before ++ part))
              (Text.columnOf (before ++ part)) = some stop
            ∧ (Code.withoutMark source.toList).1 = Text.byteLength mark
            ∧ Text.byteLength mark + start = Text.byteLength (mark ++ before)
            ∧ source.toByteArray.extract (Text.byteLength mark + start)
              (Text.byteLength mark + stop) = (String.ofList part).toByteArray
            ∧ ∀ (disk : Disk) (sources : SourceCache disk) (path signature : String),
              disk.readText path = .ok source →
              ∃ later, sources.slice signature (.within path (Text.byteLength mark + start)
                (Text.byteLength mark + stop)) = .ok (String.ofList part, later) := by
  refine ⟨Text.offset?_append, fun source before part after hRest => ?_⟩
  obtain ⟨mark, hSource, hBase, hMark⟩ := Code.withoutMark_cases source.toList
  rw [hRest, ← List.append_assoc, ← List.append_assoc] at hSource
  have hString : source = String.ofList (mark ++ before ++ part ++ after) := by
    rw [← hSource, String.ofList_toList]
  have hStart : Text.byteLength mark + Text.byteLength before = Text.byteLength (mark ++ before) :=
    (Text.byteLength_append mark before).symm
  have hStop : Text.byteLength mark + Text.byteLength (before ++ part)
      = Text.byteLength (mark ++ before ++ part) := by
    rw [List.append_assoc, Text.byteLength_append mark]
  refine ⟨mark, _, _, hSource, hMark, ?_, Text.offset?_append (before ++ part) after, hBase,
    hStart, ?_, ?_⟩
  · rw [List.append_assoc]
    exact Text.offset?_append before (part ++ after)
  · rw [hStart, hStop, hString]
    exact Text.extract_eq_part (mark ++ before) part after
  · intro disk sources path signature hRead
    refine sources.exists_slice signature hRead (Span.cuts_within hRead ?_)
    rw [hStart, hStop, Text.sliceOf?, hSource, Text.slice?_append, Option.map_some]

end ResolverScaffold

import Mathlib
import ResolverScaffold.Naming
import ResolverScaffold.Proofs.Schema.Names
import ResolverScaffold.Proofs.Text.Lines
import ResolverScaffold.Text.Layout

/-!
# Identifiers and doc comments

The names of a schema are identifiers, and they stay so with a word and an underscore
in front.  A description becomes one doc comment a line, but only a line feed ends a
line: a carriage return with something after it stays where it is.

* `isIdentifier_append`: when a name makes an identifier behind a word.
* `exists_mem_lines_iff`: the texts with a carriage return inside a line.
* `forall_docLines_iff`: the descriptions that become doc comments.
-/

namespace ResolverScaffold

/-! ### Carriage returns inside lines -/

namespace Text

/-- Whether a carriage return is followed, in its line, by a character that is not blank. -/
def hasStrayReturn : List Char → Bool
  | [] => false
  | c :: rest =>
    c == '\r' && (rest.takeWhile (· != '\n')).any (!isBlank ·) || hasStrayReturn rest

theorem takeWhile_line {l : List Char} (h : '\n' ∉ l) (rest : List Char) :
    (l ++ '\n' :: rest).takeWhile (· != '\n') = l := by
  induction l with
  | nil => rfl
  | cons c l ih =>
    rw [List.mem_cons, not_or] at h
    rw [List.cons_append, List.takeWhile_cons, if_pos (by simpa using Ne.symm h.1), ih h.2]

theorem takeWhile_lastLine {l : List Char} (h : '\n' ∉ l) : l.takeWhile (· != '\n') = l := by
  refine List.takeWhile_eq_self_iff.2 fun c hc => ?_
  rw [bne_iff_ne]
  rintro rfl
  exact h hc

/-- A line feed parts what is before it from what is after it. -/
theorem hasStrayReturn_append_feed {l : List Char} (h : '\n' ∉ l) (rest : List Char) :
    hasStrayReturn (l ++ '\n' :: rest) = (hasStrayReturn l || hasStrayReturn rest) := by
  induction l with
  | nil => rfl
  | cons c l ih =>
    rw [List.mem_cons, not_or] at h
    rw [List.cons_append, hasStrayReturn, hasStrayReturn, takeWhile_line h.2, takeWhile_lastLine h.2,
      ih h.2, Bool.or_assoc]

theorem trimEnd_eq_nil_iff {l : List Char} : trimEnd l = [] ↔ l.any (!isBlank ·) = false := by
  simp [trimEnd, List.dropWhile_eq_nil_iff]

theorem return_mem_trimEnd_iff {l : List Char} (h : '\n' ∉ l) :
    '\r' ∈ trimEnd l ↔ hasStrayReturn l = true := by
  induction l with
  | nil => simp [trimEnd, hasStrayReturn]
  | cons c l ih =>
    rw [List.mem_cons, not_or] at h
    have hCons : trimEnd (c :: l) = if trimEnd l = [] then trimEnd [c] else c :: trimEnd l :=
      trimEnd_append [c] l
    rw [hCons, hasStrayReturn, takeWhile_lastLine h.2]
    by_cases hBlank : trimEnd l = []
    · -- all after the first character is blank, and a carriage return is blank itself
      have hRest : hasStrayReturn l = false := by
        rw [Bool.eq_false_iff, ne_eq, ← ih h.2, hBlank]
        exact List.not_mem_nil
      rw [if_pos hBlank, trimEnd_eq_nil_iff.1 hBlank, hRest, Bool.and_false, Bool.or_false]
      refine iff_of_false (fun hMem => ?_) (by decide)
      have hReturn : '\r' = c := by simpa using (trimEnd_isPrefix [c]).subset hMem
      rw [← hReturn] at hMem
      exact absurd hMem (by decide)
    · have hSome : l.any (!isBlank ·) = true := by
        rw [trimEnd_eq_nil_iff, Bool.not_eq_false] at hBlank
        exact hBlank
      rw [if_neg hBlank, hSome, Bool.and_true, Bool.or_eq_true, beq_iff_eq, List.mem_cons, ih h.2,
        eq_comm]

/-- **The texts with a carriage return inside a line**, blanks at the end of the line aside. -/
theorem exists_mem_lines_iff (text : List Char) :
    (∃ line ∈ lines text, '\r' ∈ trimEnd line) ↔ hasStrayReturn text = true := by
  induction text using lines_induction with
  | last l hl =>
    by_cases hNil : l = []
    · simp [hNil, hasStrayReturn]
    · simp [lines_of_notMem hl hNil, return_mem_trimEnd_iff hl]
  | feed l rest hl ih =>
    rw [lines_append_feed hl, hasStrayReturn_append_feed hl, Bool.or_eq_true, ← ih,
      ← return_mem_trimEnd_iff hl, ← trimEnd_dropReturn]
    simp

/-- Neither a line feed nor a carriage return. -/
def OneLine (s : String) : Prop := '\n' ∉ s.toList ∧ '\r' ∉ s.toList

instance (s : String) : Decidable (OneLine s) := inferInstanceAs (Decidable (_ ∧ _))

theorem OneLine.append {s t : String} (hs : OneLine s) (ht : OneLine t) : OneLine (s ++ t) := by
  rw [OneLine, String.toList_append, List.mem_append, List.mem_append, not_or, not_or]
  exact ⟨⟨hs.1, ht.1⟩, hs.2, ht.2⟩

theorem oneLine_commaList {texts : List String} (h : ∀ text ∈ texts, OneLine text) :
    OneLine (commaList texts) := by
  induction texts with
  | nil => decide
  | cons text texts ih =>
    obtain ⟨hFirst, hMore⟩ := List.forall_mem_cons.1 h
    by_cases hNil : texts = []
    · subst hNil
      exact hFirst
    · rw [commaList, String.intercalate_cons_of_ne_nil hNil]
      exact (hFirst.append (by decide)).append (ih hMore)

theorem oneLine_of_isName {s : String} (h : Schema.isName s = true) : OneLine s :=
  ⟨Schema.notMem_of_isName h (by decide) (by decide),
    Schema.notMem_of_isName h (by decide) (by decide)⟩

end Text

namespace Naming

/-! ### Identifiers -/

/-- Whether a text is an identifier that uses ASCII only. -/
def isIdentifier (s : String) : Bool :=
  match s.toList with
  | [] => false
  | c :: cs => (isIdentChar c && !c.isDigit) && cs.all isIdentChar

theorem isIdentChar_of_isNameStart {c : Char} (h : Schema.Statement.isNameStart c = true) :
    isIdentChar c = true ∧ c.isDigit = false := by
  rw [Schema.Statement.isNameStart, Bool.or_eq_true, beq_iff_eq] at h
  rcases h with h | rfl
  · refine ⟨by simp [isIdentChar, Char.isAlphanum, h], ?_⟩
    rw [Bool.eq_false_iff]
    intro hDigit
    simp only [Char.isAlpha, Char.isDigit, Char.isUpper, Char.isLower, Bool.or_eq_true,
      Bool.and_eq_true, decide_eq_true_eq, UInt32.le_iff_toNat_le] at hDigit h
    have hNine : c.val.toNat ≤ 57 := hDigit.2
    rcases h with h | h
    · have hUpper : 65 ≤ c.val.toNat := h.1
      omega
    · have hLower : 97 ≤ c.val.toNat := h.1
      omega
  · decide

theorem isIdentifier_of_isName {s : String} (h : Schema.isName s = true) : isIdentifier s = true := by
  rw [Schema.isName] at h
  rw [isIdentifier]
  cases hChars : s.toList with
  | nil => rw [hChars] at h; cases h
  | cons c cs =>
    rw [hChars, Bool.and_eq_true] at h
    obtain ⟨hFirst, hDigit⟩ := isIdentChar_of_isNameStart h.1
    simp only [hFirst, hDigit, Bool.not_false, Bool.and_true, Bool.true_and]
    exact h.2

theorem all_isIdentChar_of_isIdentifier {s : String} (h : isIdentifier s = true) :
    s.toList.all isIdentChar = true := by
  rw [isIdentifier] at h
  cases hChars : s.toList with
  | nil => rfl
  | cons c cs =>
    rw [hChars] at h
    simp only [Bool.and_eq_true] at h
    rw [List.all_cons, h.1.1, h.2]
    rfl

/-- Behind an identifier and an underscore, a name may also start with a digit or be empty. -/
theorem isIdentifier_append {word : String} (h : isIdentifier word = true) (name : String) :
    isIdentifier (word ++ "_" ++ name) = name.toList.all isIdentChar := by
  rw [isIdentifier] at h
  rw [isIdentifier, String.toList_append, String.toList_append]
  cases hChars : word.toList with
  | nil => rw [hChars] at h; cases h
  | cons c cs =>
    rw [hChars] at h
    simp only [Bool.and_eq_true] at h
    simp only [List.cons_append, h.1.1, h.1.2, Bool.and_true, Bool.true_and, List.all_append, h.2]
    rfl

/-! ### Doc comments -/

/-- A text that starts like the comment of what follows it, and does so with three slashes only. -/
def StartsDoc (line : String) : Prop :=
  "///".toList <+: line.toList ∧ ¬"////".toList <+: line.toList

instance (line : String) : Decidable (StartsDoc line) := inferInstanceAs (Decidable (_ ∧ _))

/-- A doc comment on one line. -/
def IsDocComment (line : String) : Prop := StartsDoc line ∧ Text.OneLine line

instance (line : String) : Decidable (IsDocComment line) := inferInstanceAs (Decidable (_ ∧ _))

theorem startsDoc_append (text : String) : StartsDoc ("/// " ++ text) := by
  have hText : ("/// " ++ text).toList = "///".toList ++ ' ' :: text.toList := by
    rw [String.toList_append]
    rfl
  have hFour : "////".toList = "///".toList ++ ['/'] := rfl
  rw [StartsDoc, hText, hFour, List.prefix_append_right_inj]
  exact ⟨List.prefix_append _ _, by simp⟩

theorem startsDoc_docLine (line : List Char) : StartsDoc (docLine line) := by
  rw [docLine]
  split
  · decide
  · exact startsDoc_append _

theorem mem_docLine_iff {line : List Char} {c : Char} (hSlash : c ≠ '/') (hSpace : c ≠ ' ') :
    c ∈ (docLine line).toList ↔ c ∈ Text.trimEnd line := by
  rw [docLine]
  split
  · next hNil => simp [hNil, hSlash]
  · simp [hSlash, hSpace]

theorem feed_notMem_docLine {text line : List Char} (h : line ∈ Text.lines text) :
    '\n' ∉ (docLine line).toList := by
  rw [mem_docLine_iff (by decide) (by decide)]
  exact fun hMem => Text.notMem_of_mem_lines h ((Text.trimEnd_isPrefix line).subset hMem)

/-- Whatever the description is, its comments start like comments and hold no line feed. -/
theorem startsDoc_of_mem_docLines {description : Option String} {line : String}
    (h : line ∈ docLines description) : StartsDoc line ∧ '\n' ∉ line.toList := by
  cases description with
  | none => cases h
  | some text =>
    obtain ⟨chars, hChars, rfl⟩ := List.mem_map.1 h
    exact ⟨startsDoc_docLine chars, feed_notMem_docLine hChars⟩

/-- **The descriptions that become doc comments.** -/
theorem forall_docLines_iff (description : Option String) :
    (∀ line ∈ docLines description, IsDocComment line) ↔ ∀ text, description = some text →
      Text.hasStrayReturn (Text.trim text.toList) = false := by
  cases description with
  | none => simp [docLines]
  | some text =>
    have hReturn : ∀ line, '\r' ∈ (docLine line).toList ↔ '\r' ∈ Text.trimEnd line :=
      fun line => mem_docLine_iff (by decide) (by decide)
    have hLines := Text.exists_mem_lines_iff (Text.trim text.toList)
    constructor
    · rintro hAll _ ⟨⟩
      rw [← Bool.not_eq_true, ← hLines]
      rintro ⟨line, hLine, hMem⟩
      exact (hAll _ (List.mem_map_of_mem hLine)).2.2 ((hReturn line).2 hMem)
    · intro hNone line hLine
      obtain ⟨hStarts, hFeed⟩ := startsDoc_of_mem_docLines hLine
      refine ⟨hStarts, hFeed, fun hMem => ?_⟩
      obtain ⟨chars, hChars, rfl⟩ := List.mem_map.1 hLine
      have hStray := hLines.1 ⟨chars, hChars, (hReturn chars).1 hMem⟩
      rw [hNone text rfl] at hStray
      cases hStray

end Naming

end ResolverScaffold

import ResolverScaffold.Text.Lines

/-!
# Lines of a text

What `lines` does, said line by line rather than character by character.

* `lines_append_feed`: a line and a line feed in front of a text put one line in
  front of its lines, less a carriage return at its end (`dropReturn`).
* `lines_of_notMem`: a text without line feeds is one line.
* `lines_intercalate`: the lines of lines put together.
* `lines_append_feed_append`: a line feed parts the lines before it from those
  after it.
* `lines_induction`: a text is a line, or a line and a line feed before a text.

`rejoin` puts the lines of a text together again, each without the carriage
return it may still end in.  `rejoin_eq_self_iff` says which texts survive this.
-/

namespace ResolverScaffold.Text

/-! ### One line -/

/-- A line without the carriage return at its end. -/
def dropReturn : List Char → List Char
  | [] => []
  | c :: rest => if c = '\r' ∧ rest = [] then [] else c :: dropReturn rest

@[simp] theorem dropReturn_nil : dropReturn [] = [] := rfl

theorem dropReturn_cons_of_ne {c : Char} {l : List Char} (h : l ≠ []) :
    dropReturn (c :: l) = c :: dropReturn l := by
  rw [dropReturn, if_neg (fun hc => h hc.2)]

theorem dropReturn_append_of_ne (a : List Char) {b : List Char} (h : b ≠ []) :
    dropReturn (a ++ b) = a ++ dropReturn b := by
  induction a with
  | nil => rfl
  | cons c a ih =>
    rw [List.cons_append, dropReturn_cons_of_ne (by simp [h]), ih, List.cons_append]

theorem dropReturn_eq_self {l : List Char} (h : l.getLast? ≠ some '\r') : dropReturn l = l := by
  induction l with
  | nil => rfl
  | cons c l ih =>
    cases l with
    | nil =>
      have hc : c ≠ '\r' := by simpa using h
      simp [dropReturn, hc]
    | cons d l =>
      rw [dropReturn_cons_of_ne (by simp), ih]
      rw [List.getLast?_cons_cons] at h
      exact h

theorem eq_dropReturn_or (l : List Char) : l = dropReturn l ∨ l = dropReturn l ++ ['\r'] := by
  induction l with
  | nil => exact .inl rfl
  | cons c l ih =>
    rw [dropReturn]
    split
    · rename_i h
      rw [h.1, h.2]
      exact .inr rfl
    · rcases ih with h | h
      · exact .inl (congrArg _ h)
      · exact .inr (congrArg _ h)

theorem dropReturn_isPrefix (l : List Char) : dropReturn l <+: l := by
  rcases eq_dropReturn_or l with h | h
  · exact ⟨[], (List.append_nil _).trans h.symm⟩
  · exact ⟨['\r'], h.symm⟩

theorem length_dropReturn_le (l : List Char) : (dropReturn l).length ≤ l.length :=
  (dropReturn_isPrefix l).length_le

theorem mem_of_mem_dropReturn {c : Char} {l : List Char} (h : c ∈ dropReturn l) : c ∈ l :=
  (dropReturn_isPrefix l).subset h

theorem length_dropReturn_lt {l : List Char} (h : l.getLast? = some '\r') :
    (dropReturn l).length < l.length := by
  induction l with
  | nil => simp at h
  | cons c l ih =>
    cases l with
    | nil =>
      have hc : c = '\r' := by simpa using h
      simp [dropReturn, hc]
    | cons d l =>
      rw [List.getLast?_cons_cons] at h
      have hLess := ih h
      rw [dropReturn_cons_of_ne (by simp), List.length_cons, List.length_cons]
      omega

/-! ### The lines of a text -/

@[simp] theorem lines_nil : lines [] = [] := rfl

theorem lines_feed_cons (rest : List Char) : lines ('\n' :: rest) = [] :: lines rest := rfl

theorem lines_return_feed_cons (rest : List Char) :
    lines ('\r' :: '\n' :: rest) = [] :: lines rest := rfl

theorem lines_cons {c : Char} {rest : List Char} (hFeed : c ≠ '\n')
    (hReturn : c = '\r' → rest.head? ≠ some '\n') :
    lines (c :: rest) = (c :: (lines rest).headD []) :: (lines rest).tail := by
  rw [lines]
  · cases lines rest <;> rfl
  · exact hFeed
  · intro more hc hMore
    refine hReturn hc ?_
    rw [hMore]
    rfl

/-- **A line feed ends a line.** -/
theorem lines_append_feed {l : List Char} (h : '\n' ∉ l) (rest : List Char) :
    lines (l ++ '\n' :: rest) = dropReturn l :: lines rest := by
  induction l with
  | nil => rw [List.nil_append, lines_feed_cons, dropReturn_nil]
  | cons c l ih =>
    have hc : c ≠ '\n' := fun same => h (same ▸ List.mem_cons_self)
    have hl : '\n' ∉ l := fun hm => h (List.mem_cons_of_mem _ hm)
    cases l with
    | nil =>
      by_cases hr : c = '\r'
      · subst hr
        simp [lines_return_feed_cons, dropReturn]
      · rw [List.cons_append, List.nil_append, lines_cons hc (fun same => absurd same hr),
          lines_feed_cons]
        simp [dropReturn, hr]
    | cons d l =>
      have hd : d ≠ '\n' := fun same => hl (same ▸ List.mem_cons_self)
      rw [List.cons_append, lines_cons hc (fun _ => by simpa using hd), ih hl,
        dropReturn_cons_of_ne (c := c) (by simp)]
      rfl

/-- A text without line feeds is one line. -/
theorem lines_of_notMem {l : List Char} (h : '\n' ∉ l) (hne : l ≠ []) : lines l = [l] := by
  induction l with
  | nil => exact absurd rfl hne
  | cons c l ih =>
    have hc : c ≠ '\n' := fun same => h (same ▸ List.mem_cons_self)
    have hl : '\n' ∉ l := fun hm => h (List.mem_cons_of_mem _ hm)
    have hHead : l.head? ≠ some '\n' := fun hh => hl (List.mem_of_head? hh)
    rw [lines_cons hc (fun _ => hHead)]
    cases l with
    | nil => rfl
    | cons d l =>
      rw [ih hl (by simp)]
      rfl

/-- A text is a line, or a line and a line feed before a text. -/
theorem lines_induction {motive : List Char → Prop}
    (last : ∀ l, '\n' ∉ l → motive l)
    (feed : ∀ l rest, '\n' ∉ l → motive rest → motive (l ++ '\n' :: rest)) :
    ∀ text, motive text := by
  intro text
  induction hn : text.length using Nat.strongRecOn generalizing text with
  | ind n ih =>
    by_cases h : '\n' ∈ text
    · obtain ⟨l, rest, rfl, hl⟩ := List.eq_append_cons_of_mem h
      refine feed l rest hl (ih rest.length ?_ rest rfl)
      rw [← hn, List.length_append, List.length_cons]
      omega
    · exact last text h

theorem lines_eq_nil_iff {text : List Char} : lines text = [] ↔ text = [] := by
  induction text using lines_induction with
  | last l hl =>
    by_cases hne : l = []
    · simp [hne]
    · simp [lines_of_notMem hl hne, hne]
  | feed l rest hl _ => simp [lines_append_feed hl]

theorem notMem_of_mem_lines {text line : List Char} (h : line ∈ lines text) : '\n' ∉ line := by
  induction text using lines_induction with
  | last l hl =>
    by_cases hne : l = []
    · simp [hne] at h
    · rw [lines_of_notMem hl hne, List.mem_singleton] at h
      exact h ▸ hl
  | feed l rest hl ih =>
    rw [lines_append_feed hl] at h
    rcases List.mem_cons.1 h with rfl | h
    · exact fun hm => hl (mem_of_mem_dropReturn hm)
    · exact ih h

/-- A line stands in its text. -/
theorem infix_of_mem_lines {text line : List Char} (h : line ∈ lines text) : line <:+: text := by
  induction text using lines_induction with
  | last l hl =>
    by_cases hne : l = []
    · simp [hne] at h
    · rw [lines_of_notMem hl hne, List.mem_singleton] at h
      exact h ▸ List.infix_rfl
  | feed l rest hl ih =>
    rw [lines_append_feed hl, List.mem_cons] at h
    rcases h with rfl | h
    · exact (dropReturn_isPrefix l).isInfix.trans (List.prefix_append _ _).isInfix
    · exact (ih h).trans ((List.suffix_cons _ _).trans (List.suffix_append _ _)).isInfix

/-- A line feed parts the lines before it from those after it. -/
theorem lines_append_feed_append (a b : List Char) :
    lines (a ++ '\n' :: b) = lines (a ++ ['\n']) ++ lines b := by
  induction a using lines_induction with
  | last l hl => rw [lines_append_feed hl, lines_append_feed hl]; rfl
  | feed l rest hl ih =>
    rw [List.append_assoc, List.append_assoc, List.cons_append, List.cons_append,
      lines_append_feed hl, lines_append_feed hl, ih]
    rfl

/-- The lines of lines put together. -/
theorem lines_intercalate {front : List (List Char)} {last : List Char}
    (hFront : ∀ l ∈ front, '\n' ∉ l) (hLast : '\n' ∉ last) (hne : last ≠ []) :
    lines (List.intercalate ['\n'] (front ++ [last])) = front.map dropReturn ++ [last] := by
  induction front with
  | nil => simpa using lines_of_notMem hLast hne
  | cons l front ih =>
    have hl := hFront l List.mem_cons_self
    have hMore := ih fun m hm => hFront m (List.mem_cons_of_mem _ hm)
    rw [List.cons_append, List.intercalate_cons_of_ne_nil (by simp), List.append_assoc,
      List.singleton_append, lines_append_feed hl, hMore]
    rfl

/-- Pieces without line feeds put together have at most as many lines. -/
theorem length_lines_intercalate_le {pieces : List (List Char)} (h : ∀ l ∈ pieces, '\n' ∉ l) :
    (lines (List.intercalate ['\n'] pieces)).length ≤ pieces.length := by
  induction pieces with
  | nil => simp
  | cons l pieces ih =>
    have hl := h l List.mem_cons_self
    have hMore := ih fun m hm => h m (List.mem_cons_of_mem _ hm)
    cases pieces with
    | nil =>
      rw [List.intercalate_singleton]
      by_cases hne : l = []
      · simp [hne]
      · simp [lines_of_notMem hl hne]
    | cons m pieces =>
      rw [List.intercalate_cons_cons, List.append_assoc, List.singleton_append,
        lines_append_feed hl, List.length_cons, List.length_cons]
      omega

/-! ### Lines put together again -/

/-- The lines of a text put together again, each without a carriage return at its end. -/
def rejoin (text : List Char) : List Char :=
  List.intercalate ['\n'] ((lines text).map dropReturn)

theorem rejoin_of_notMem {l : List Char} (h : '\n' ∉ l) : rejoin l = dropReturn l := by
  by_cases hne : l = []
  · simp [hne, rejoin]
  · simp [rejoin, lines_of_notMem h hne]

theorem rejoin_append_feed {l : List Char} (h : '\n' ∉ l) (rest : List Char) :
    rejoin (l ++ '\n' :: rest)
      = dropReturn (dropReturn l) ++ if rest = [] then [] else '\n' :: rejoin rest := by
  rw [rejoin, lines_append_feed h, List.map_cons]
  split
  · rename_i hRest
    simp [hRest]
  · rename_i hRest
    have hLines : (lines rest).map dropReturn ≠ [] := by simpa [lines_eq_nil_iff] using hRest
    rw [List.intercalate_cons_of_ne_nil hLines, List.append_assoc]
    rfl

theorem length_rejoin_le (text : List Char) : (rejoin text).length ≤ text.length := by
  induction text using lines_induction with
  | last l hl =>
    rw [rejoin_of_notMem hl]
    exact length_dropReturn_le l
  | feed l rest hl ih =>
    have hOnce := length_dropReturn_le l
    have hTwice := length_dropReturn_le (dropReturn l)
    rw [rejoin_append_feed hl, List.length_append, List.length_append, List.length_cons]
    split
    · simp only [List.length_nil]
      omega
    · simp only [List.length_cons]
      omega

/-- A carriage return stands before a line feed where a line ends in one. -/
theorem returnFeed_infix_append_feed {l : List Char} (h : '\n' ∉ l) (rest : List Char) :
    ['\r', '\n'] <:+: l ++ '\n' :: rest ↔ l.getLast? = some '\r' ∨ ['\r', '\n'] <:+: rest := by
  induction l with
  | nil =>
    rw [List.nil_append, List.infix_cons_iff]
    simp
  | cons c l ih =>
    have hl : '\n' ∉ l := fun hm => h (List.mem_cons_of_mem _ hm)
    rw [List.cons_append, List.infix_cons_iff, ih hl]
    cases l with
    | nil => simp [eq_comm]
    | cons d l =>
      have hd : '\n' ≠ d := fun same => hl (same ▸ List.mem_cons_self)
      simp [hd]

/-- No carriage return stands before a line feed or at the end, and no line feed at the end. -/
def EndsPlainly (text : List Char) : Prop :=
  ¬['\r', '\n'] <:+: text ∧ text.getLast? ≠ some '\n' ∧ text.getLast? ≠ some '\r'

/-- **The texts that survive being cut into lines twice.** -/
theorem rejoin_eq_self_iff (text : List Char) : rejoin text = text ↔ EndsPlainly text := by
  induction text using lines_induction with
  | last l hl =>
    have hPair : ¬['\r', '\n'] <:+: l := fun h => hl (h.subset (by simp))
    have hEnd : l.getLast? ≠ some '\n' := fun h => hl (List.mem_of_getLast? h)
    rw [rejoin_of_notMem hl, EndsPlainly]
    constructor
    · intro h
      refine ⟨hPair, hEnd, fun hReturn => ?_⟩
      have hLess := length_dropReturn_lt hReturn
      rw [h] at hLess
      omega
    · intro h
      exact dropReturn_eq_self h.2.2
  | feed l rest hl ih =>
    rw [EndsPlainly, returnFeed_infix_append_feed hl, rejoin_append_feed hl]
    by_cases hRest : rest = []
    · -- a line feed at the end is lost
      subst hRest
      simp only [if_true, List.append_nil]
      refine ⟨fun h => ?_, fun h => absurd (by simp) h.2.1⟩
      have hLength := congrArg List.length h
      have hOnce := length_dropReturn_le l
      have hTwice := length_dropReturn_le (dropReturn l)
      simp only [List.length_append, List.length_cons] at hLength
      omega
    · have hEnd : (l ++ '\n' :: rest).getLast? = rest.getLast? := by
        cases rest with
        | nil => exact absurd rfl hRest
        | cons c rest => simp [List.getLast?_cons]
      rw [if_neg hRest, hEnd]
      constructor
      · intro h
        have hPlain : l.getLast? ≠ some '\r' := by
          intro hReturn
          have hLength := congrArg List.length h
          have hOnce := length_dropReturn_lt hReturn
          have hTwice := length_dropReturn_le (dropReturn l)
          have hMore := length_rejoin_le rest
          simp only [List.length_append, List.length_cons] at hLength
          omega
        rw [dropReturn_eq_self hPlain, dropReturn_eq_self hPlain] at h
        have hSame : rejoin rest = rest := by simpa using h
        have hRestPlain := ih.1 hSame
        exact ⟨fun hPair => hPair.elim hPlain hRestPlain.1, hRestPlain.2⟩
      · intro ⟨hPair, hEnds⟩
        have hPlain : l.getLast? ≠ some '\r' := fun hReturn => hPair (.inl hReturn)
        have hSame := ih.2 ⟨fun h => hPair (.inr h), hEnds⟩
        rw [dropReturn_eq_self hPlain, dropReturn_eq_self hPlain, hSame]

/-! ### Trimming -/

theorem trimStart_cons_of_not {c : Char} {l : List Char} (h : isBlank c = false) :
    trimStart (c :: l) = c :: l := by
  rw [trimStart, List.dropWhile_cons, if_neg (by simp [h])]

theorem trimEnd_append (a b : List Char) :
    trimEnd (a ++ b) = if trimEnd b = [] then trimEnd a else a ++ trimEnd b := by
  rw [trimEnd, List.reverse_append, List.dropWhile_append, trimEnd, trimEnd]
  by_cases h : List.dropWhile isBlank b.reverse = [] <;> simp [h]

theorem trimEnd_isPrefix (l : List Char) : trimEnd l <+: l := by
  have h : List.dropWhile isBlank l.reverse <:+ l.reverse := List.dropWhile_suffix _
  rw [← List.reverse_prefix, List.reverse_reverse] at h
  exact h

/-- No blank character stands at either end. -/
def Trimmed (l : List Char) : Prop :=
  (∀ c, l.head? = some c → isBlank c = false) ∧ ∀ c, l.getLast? = some c → isBlank c = false

theorem trim_of_trimmed {l : List Char} (h : Trimmed l) : trim l = l := by
  have hStart : trimStart l = l := by
    cases l with
    | nil => rfl
    | cons c l => exact trimStart_cons_of_not (h.1 c rfl)
  have hEnd : List.dropWhile isBlank l.reverse = l.reverse := by
    cases hl : l.reverse with
    | nil => rfl
    | cons c rest =>
      have hLast : l.getLast? = some c := by rw [← List.head?_reverse, hl]; rfl
      exact trimStart_cons_of_not (h.2 c hLast)
  rw [trim, hStart, trimEnd, hEnd, List.reverse_reverse]

theorem trimmed_trim (l : List Char) : Trimmed (trim l) := by
  refine ⟨fun c h => ?_, fun c h => ?_⟩
  · obtain ⟨rest, hRest⟩ := trimEnd_isPrefix (trimStart l)
    have hHead : (trimStart l).head? = some c := by
      rw [← hRest, List.head?_append]
      rw [trim] at h
      rw [h]
      rfl
    have hNot := List.head?_dropWhile_not isBlank l
    rw [trimStart] at hHead
    rw [hHead] at hNot
    simpa using hNot
  · rw [trim, trimEnd, List.getLast?_reverse] at h
    have hNot := List.head?_dropWhile_not isBlank (trimStart l).reverse
    rw [h] at hNot
    simpa using hNot

theorem mem_of_mem_trim {c : Char} {l : List Char} (h : c ∈ trim l) : c ∈ l :=
  (List.dropWhile_suffix _).subset ((trimEnd_isPrefix _).subset h)

/-- A carriage return is blank, so it makes no difference to the end of a line. -/
theorem trimEnd_dropReturn (l : List Char) : trimEnd (dropReturn l) = trimEnd l := by
  rcases eq_dropReturn_or l with h | h
  · rw [← h]
  · conv => rhs; rw [h, trimEnd_append, if_pos (by decide)]

/-- Nor to the line without blanks at its ends. -/
theorem trim_dropReturn (l : List Char) : trim (dropReturn l) = trim l := by
  rcases eq_dropReturn_or l with h | h
  · rw [← h]
  · conv => rhs; rw [h, trim, trimStart, List.dropWhile_append]
    split
    · rename_i hBlank
      rw [trim, trimStart, List.isEmpty_iff.1 hBlank]
      decide
    · rw [trimEnd_append, if_pos (by decide)]
      rfl

end ResolverScaffold.Text

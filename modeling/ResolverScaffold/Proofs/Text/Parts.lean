import ResolverScaffold.Text.Bytes
import ResolverScaffold.Text.Layout

/-!
# Parts of texts

How a text that stands somewhere in a longer one is found there.

* `infix_append_cons_iff`: a word does not reach over a character that it lacks.
* `append_cons_eq_append_cons_cases`: the ways in which a mark can divide a text.
* `exists_infix_of_infix_ofLines`: a word that stands in a text made of lines
  stands in one of the lines.
* `slice?_append`: the part between two offsets is the part that takes these
  bytes.
-/

namespace ResolverScaffold.Text

/-! ### Words in texts -/

/-- A text is passed up to a mark, or as a whole. -/
theorem dropWhile_ne_cases (mark : Char) (text : List Char) :
    text.dropWhile (· ≠ mark) = [] ∨ ∃ rest, text.dropWhile (· ≠ mark) = mark :: rest := by
  cases hDrop : text.dropWhile (· ≠ mark) with
  | nil => exact .inl rfl
  | cons c rest =>
    have hHead := List.head?_dropWhile_not (· ≠ mark) text
    rw [hDrop] at hHead
    obtain rfl : c = mark := by simpa using hHead
    exact .inr ⟨rest, rfl⟩

theorem eq_nil_of_prefix_cons {word b : List Char} {c : Char} (h : c ∉ word)
    (hStart : word <+: c :: b) : word = [] := by
  rcases List.prefix_cons_iff.1 hStart with rfl | ⟨rest, rfl, -⟩
  · rfl
  · exact absurd List.mem_cons_self h

/-- A word does not reach over a character that it lacks. -/
theorem infix_append_cons_iff {word : List Char} {c : Char} (h : c ∉ word) (a b : List Char) :
    word <:+: a ++ c :: b ↔ word <:+: a ∨ word <:+: b := by
  constructor
  · intro hIn
    rcases List.infix_append_iff.1 hIn with hIn | hIn | ⟨front, back, rfl, hEnd, hStart⟩
    · exact .inl hIn
    · rcases List.infix_cons_iff.1 hIn with hStart | hIn
      · rw [eq_nil_of_prefix_cons h hStart]
        exact .inl List.nil_infix
      · exact .inr hIn
    · -- the word ends where the character stands
      have hBack := eq_nil_of_prefix_cons (fun hm => h (List.mem_append_right _ hm)) hStart
      rw [hBack, List.append_nil]
      exact .inl hEnd.isInfix
  · rintro (hIn | hIn)
    · exact hIn.trans (List.prefix_append _ _).isInfix
    · exact hIn.trans ((List.suffix_cons _ _).trans (List.suffix_append _ _)).isInfix

/-- A word does not end in a character other than its last one. -/
theorem infix_of_infix_concat {word a : List Char} {c : Char} (h : word.getLast? ≠ some c)
    (hIn : word <:+: a ++ [c]) : word <:+: a := by
  rcases List.infix_concat_iff.1 hIn with ⟨before, hEnd⟩ | hIn
  · have hLast := congrArg List.getLast? hEnd
    rw [List.getLast?_append, List.getLast?_concat] at hLast
    cases hWord : word.getLast? with
    | none => rw [List.getLast?_eq_none_iff.1 hWord]; exact List.nil_infix
    | some d =>
      rw [hWord, Option.some_or] at hLast
      exact absurd (hWord.trans hLast) h
  · exact hIn

/-- Where two texts are joined by a mark in two ways, the parts are the same or the mark stands in
one of them too. -/
theorem append_cons_eq_append_cons_cases {mark : Char} {a b a' b' : List Char}
    (h : a ++ mark :: b = a' ++ mark :: b') :
    (a = a' ∧ b = b') ∨ (∃ more, a' = a ++ mark :: more ∧ b = more ++ mark :: b')
      ∨ ∃ more, a = a' ++ mark :: more ∧ b' = more ++ mark :: b := by
  rcases List.append_eq_append_iff.1 h with ⟨between, hLong, hRest⟩ | ⟨between, hLong, hRest⟩
  · cases between with
    | nil => exact .inl ⟨by simpa using hLong.symm, by simpa using hRest⟩
    | cons c between =>
      obtain ⟨rfl, hTail⟩ := List.cons.inj hRest
      exact .inr (.inl ⟨between, hLong, hTail⟩)
  · cases between with
    | nil => exact .inl ⟨by simpa using hLong, by simpa using hRest.symm⟩
    | cons c between =>
      obtain ⟨rfl, hTail⟩ := List.cons.inj hRest
      exact .inr (.inr ⟨between, hLong, hTail⟩)

/-- A mark that stands in neither front divides a text in one way. -/
theorem append_cons_inj {mark : Char} {a b a' b' : List Char} (ha : mark ∉ a) (ha' : mark ∉ a')
    (h : a ++ mark :: b = a' ++ mark :: b') : a = a' ∧ b = b' := by
  rcases append_cons_eq_append_cons_cases h with hSame | ⟨more, rfl, -⟩ | ⟨more, rfl, -⟩
  · exact hSame
  · simp at ha'
  · simp at ha

/-! ### Texts from lines -/

@[simp] theorem ofLines_nil : ofLines [] = "" := rfl

@[simp] theorem ofLines_cons (line : String) (lines : List String) :
    ofLines (line :: lines) = line ++ "\n" ++ ofLines lines := by
  rw [ofLines, List.map_cons, String.join_cons, ofLines]

theorem ofLines_append (front back : List String) :
    ofLines (front ++ back) = ofLines front ++ ofLines back := by
  induction front with
  | nil => simp
  | cons line front ih =>
    rw [List.cons_append, ofLines_cons, ofLines_cons, ih]
    simp only [String.append_assoc]

/-- The last line is ended too. -/
theorem exists_toList_ofLines_eq_concat {lines : List String} (h : lines ≠ []) :
    ∃ front, (ofLines lines).toList = front ++ ['\n'] := by
  rcases List.eq_nil_or_concat lines with rfl | ⟨init, last, rfl⟩
  · exact absurd rfl h
  · refine ⟨(ofLines init ++ last).toList, ?_⟩
    rw [List.concat_eq_append, ofLines_append]
    simp

/-- A line stands in the text. -/
theorem ofLines_of_mem {lines : List String} {line : String} (h : line ∈ lines) :
    ∃ before after, ofLines lines = before ++ line ++ "\n" ++ after := by
  obtain ⟨front, back, rfl⟩ := List.append_of_mem h
  refine ⟨ofLines front, ofLines back, ?_⟩
  rw [ofLines_append, ofLines_cons]
  simp only [String.append_assoc]

/-- A word without line feeds that stands in a text stands in one of its lines. -/
theorem exists_infix_of_infix_ofLines {word : List Char} (hFeed : '\n' ∉ word) (hne : word ≠ []) :
    ∀ {lines : List String}, word <:+: (ofLines lines).toList →
    ∃ line ∈ lines, word <:+: line.toList := by
  intro lines
  induction lines with
  | nil => intro h; exact absurd (List.infix_nil.1 h) hne
  | cons line lines ih =>
    intro h
    rw [ofLines_cons, String.toList_append, String.toList_append, List.append_assoc] at h
    rcases (infix_append_cons_iff hFeed _ _).1 h with h | h
    · exact ⟨line, List.mem_cons_self, h⟩
    · obtain ⟨line', hMem, h⟩ := ih h
      exact ⟨line', List.mem_cons_of_mem _ hMem, h⟩

/-! ### Offsets -/

theorem dropBytes?_append (a b : List Char) : dropBytes? (byteLength a) (a ++ b) = some b := by
  induction a with
  | nil => rw [byteLength, dropBytes?, List.nil_append]
  | cons c a ih =>
    obtain ⟨n, hn⟩ : ∃ n, byteLength (c :: a) = n + 1 :=
      Nat.exists_eq_succ_of_ne_zero (by have := c.utf8Size_pos; rw [byteLength]; omega)
    rw [hn, List.cons_append, dropBytes?, ← hn, byteLength, if_pos (Nat.le_add_right _ _),
      Nat.add_sub_cancel_left, ih]

theorem takeBytes?_append (a b : List Char) : takeBytes? (byteLength a) (a ++ b) = some a := by
  induction a with
  | nil => rw [byteLength, takeBytes?]
  | cons c a ih =>
    obtain ⟨n, hn⟩ : ∃ n, byteLength (c :: a) = n + 1 :=
      Nat.exists_eq_succ_of_ne_zero (by have := c.utf8Size_pos; rw [byteLength]; omega)
    rw [hn, List.cons_append, takeBytes?, ← hn, byteLength, if_pos (Nat.le_add_right _ _),
      Nat.add_sub_cancel_left, ih]
    rfl

/-- **The part between the offsets of its ends.** -/
theorem slice?_append (before part after : List Char) :
    slice? (before ++ part ++ after) (byteLength before) (byteLength (before ++ part))
      = some part := by
  rw [slice?, List.append_assoc, dropBytes?_append, byteLength_append,
    if_pos (Nat.le_add_right _ _), Nat.add_sub_cancel_left]
  exact takeBytes?_append part after

theorem sliceOf?_append (before part after : String) :
    sliceOf? (before ++ part ++ after) (byteLength before.toList)
      (byteLength (before ++ part).toList) = some part := by
  rw [sliceOf?, String.toList_append, String.toList_append, slice?_append, Option.map_some,
    String.ofList_toList]

end ResolverScaffold.Text

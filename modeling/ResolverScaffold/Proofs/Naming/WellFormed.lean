import Mathlib
import ResolverScaffold.Proofs.Naming.Clashes

/-!
# Well-formed names

What `identifier` and `snakeCase` promise about every name.  An identifier is a word that
the language takes for a name, either as it is or in its raw form.  Snake case is the
same as cutting the name into words, writing each in lower case and joining them with
underscores (`snakeFrom_eq_joined`); a word ends exactly where `Breaks` says.

* `usable_identifier`: every text has a usable identifier.
* `cutAt_words_iff`: where a name is cut into words.
* `isSnakeCase_snakeCase`: what snake case keeps, changes and adds.
-/

namespace ResolverScaffold.Naming

/-! ### Usable identifiers -/

/-- An identifier that is no word of the language; `_` is one of the reserved words. -/
def Plain (s : String) : Prop := isIdentifier s = true ∧ s ∉ keywords ∧ s ∉ reserved

instance (s : String) : Decidable (Plain s) := inferInstanceAs (Decidable (_ ∧ _))

/-- The raw form of a keyword that has one. -/
def Raw (s : String) : Prop := ∃ word ∈ keywords, word ∉ reserved ∧ s = "r#" ++ word

instance (s : String) : Decidable (Raw s) := inferInstanceAs (Decidable (∃ word ∈ keywords, _))

/-- What may stand for a name in the code. -/
def Usable (s : String) : Prop := Plain s ∨ Raw s

instance (s : String) : Decidable (Usable s) := inferInstanceAs (Decidable (_ ∨ _))

theorem isIdentifier_ofList_cons (c : Char) (rest : List Char) :
    isIdentifier (String.ofList (c :: rest))
      = ((isIdentChar c && !c.isDigit) && rest.all isIdentChar) := by
  rw [isIdentifier, String.toList_ofList]

theorem isIdentifier_identifierChars (name : List Char) :
    isIdentifier (String.ofList (identifierChars name)) = true := by
  have hClean : ∀ c, isIdentChar (if isIdentChar c then c else '_') = true := by
    intro c
    split
    · assumption
    · decide
  have hAll : (name.map fun c => if isIdentChar c then c else '_').all isIdentChar = true := by
    simp only [List.all_map, List.all_eq_true, Function.comp_apply]
    exact fun c _ => hClean c
  rw [identifierChars]
  cases hChars : name.map fun c => if isIdentChar c then c else '_' with
  | nil => decide
  | cons c rest =>
    rw [hChars, List.all_cons, Bool.and_eq_true] at hAll
    dsimp only
    split
    · rw [isIdentifier_ofList_cons, List.all_cons, hAll.1, hAll.2]
      decide
    · next hDigit =>
      rw [isIdentifier_ofList_cons, hAll.1, hAll.2, Bool.eq_false_iff.2 hDigit]
      rfl

theorem length_le_identifierChars (name : List Char) :
    name.length ≤ (identifierChars name).length := by
  have hMap : (name.map fun c => if isIdentChar c then c else '_').length = name.length :=
    List.length_map _
  rw [identifierChars, ← hMap]
  cases name.map fun c => if isIdentChar c then c else '_' with
  | nil => exact Nat.zero_le _
  | cons c rest =>
    dsimp only
    split
    · exact Nat.le_succ _
    · exact Nat.le_refl _

/-- A text becomes an identifier that is no shorter, and words of the language are set apart. -/
theorem exists_identifier_eq (s : String) :
    ∃ word, isIdentifier word = true ∧ s.length ≤ word.length ∧ identifier s =
      if word ∈ reserved then word ++ "_" else if word ∈ keywords then "r#" ++ word else word := by
  refine ⟨_, isIdentifier_identifierChars s.toList, ?_, ?_⟩
  · rw [String.length_ofList, ← String.length_toList]
    exact length_le_identifierChars s.toList
  · simp only [identifier, List.contains_iff_mem]

theorem plain_of_mem_reserved {word : String} (h : word ∈ reserved) : Plain (word ++ "_") := by
  revert word
  decide

/-- **Every text has a usable identifier.** -/
theorem usable_identifier (s : String) : Usable (identifier s) := by
  obtain ⟨word, hWord, -, hEq⟩ := exists_identifier_eq s
  rw [hEq]
  split
  · next hReserved => exact .inl (plain_of_mem_reserved hReserved)
  · next hFree =>
    split
    · next hKeyword => exact .inr ⟨word, hKeyword, hFree, rfl⟩
    · next hOther => exact .inl ⟨hWord, hOther, hFree⟩

/-- The texts that are their own identifiers. -/
theorem identifier_eq_self_iff (s : String) : identifier s = s ↔ Plain s := by
  constructor
  · intro hSame
    obtain ⟨word, hWord, hLength, hEq⟩ := exists_identifier_eq s
    rw [hSame] at hEq
    -- a word of the language would have made the text longer
    split at hEq
    · rw [hEq, String.length_append] at hLength
      exact absurd hLength (Nat.not_succ_le_self _)
    · next hFree =>
      split at hEq
      · rw [hEq, String.length_append] at hLength
        have hHash : "r#".length = 2 := rfl
        omega
      · next hOther => exact hEq ▸ ⟨hWord, hOther, hFree⟩
  · rintro ⟨hWord, hKeyword, hReserved⟩
    rw [identifier_of_isIdentifier hWord, if_neg hReserved, if_neg hKeyword]

/-! ### Where words end -/

/-- A word of a name ends between two parts of it: an upper-case letter follows a lower-case one
or a digit, or it is the last of several and a lower-case one follows it. -/
def Breaks (left right : List Char) : Prop :=
  ∃ p c rest, left.getLast? = some p ∧ right = c :: rest ∧ Text.isUpper c = true
    ∧ (Text.isLower p = true ∨ p.isDigit = true
      ∨ Text.isUpper p = true ∧ rest.head?.any Text.isLower = true)

theorem startsWord_iff {p : Char} {next : Option Char} :
    startsWord (some p) next = true ↔ Text.isLower p = true ∨ p.isDigit = true
      ∨ Text.isUpper p = true ∧ next.any Text.isLower = true := by
  cases hLower : Text.isLower p <;> cases hDigit : p.isDigit <;> cases hUpper : Text.isUpper p <;>
    simp [startsWord, hLower, hDigit, hUpper]

theorem not_breaks_nil (right : List Char) : ¬Breaks [] right := by
  rintro ⟨p, c, rest, hLast, -⟩
  cases hLast

theorem not_breaks_nil_right (left : List Char) : ¬Breaks left [] := by
  rintro ⟨p, c, rest, -, hRight, -⟩
  cases hRight

theorem breaks_singleton_iff {p c : Char} {rest : List Char} :
    Breaks [p] (c :: rest) ↔ (Text.isUpper c && startsWord (some p) rest.head?) = true := by
  simp [Breaks, startsWord_iff]

theorem breaks_cons_cons_iff {p q : Char} {left right : List Char} :
    Breaks (p :: q :: left) right ↔ Breaks (q :: left) right := by
  rw [Breaks, List.getLast?_cons_cons, Breaks]

/-- The places where words of a name end, its first character taken off: one may end after it. -/
theorem append_eq_and_breaks_iff {c d : Char} {rest left right : List Char} :
    left ++ right = c :: d :: rest ∧ Breaks left right
      ↔ ∃ left', left = c :: left' ∧ (left' = [] ∧ right = d :: rest ∧ Breaks [c] (d :: rest)
        ∨ left' ++ right = d :: rest ∧ Breaks left' right) := by
  rcases left with _ | ⟨p, _ | ⟨q, left⟩⟩
  · simp [not_breaks_nil]
  · constructor
    · rintro ⟨⟨⟩, hBreaks⟩
      exact ⟨[], rfl, .inl ⟨rfl, rfl, hBreaks⟩⟩
    · rintro ⟨_, ⟨⟩, ⟨-, rfl, hBreaks⟩ | ⟨-, hBreaks⟩⟩
      · exact ⟨rfl, hBreaks⟩
      · exact absurd hBreaks (not_breaks_nil right)
  · simp [breaks_cons_cons_iff, and_assoc]

/-- A word neither ends nor starts with an underscore where it is cut. -/
theorem Breaks.apart {left right : List Char} (h : Breaks left right) :
    left.getLast? ≠ some '_' ∧ right.head? ≠ some '_' := by
  obtain ⟨p, c, rest, hLast, rfl, hUpper, hBefore⟩ := h
  have hClass : Text.isLower '_' = false ∧ Char.isDigit '_' = false ∧ Text.isUpper '_' = false := by
    decide
  rw [hLast, List.head?_cons]
  constructor
  · rintro ⟨⟩
    simp [hClass] at hBefore
  · rintro ⟨⟩
    simp [hClass] at hUpper

/-! ### Cutting a name into words -/

/-- The words of a name. -/
def words : List Char → List (List Char)
  | [] => []
  | [c] => [[c]]
  | c :: d :: rest =>
    if Text.isUpper d && startsWord (some c) rest.head? then [c] :: words (d :: rest)
    else (words (d :: rest)).modifyHead (c :: ·)

/-- A list of words has one that ends between two parts of the whole. -/
inductive CutAt : List (List Char) → List Char → List Char → Prop
  | first (word next : List Char) (more : List (List Char)) :
      CutAt (word :: next :: more) word (next :: more).flatten
  | later (word : List Char) {more : List (List Char)} {left right : List Char} :
      CutAt more left right → CutAt (word :: more) (word ++ left) right

/-- The first of the words has the first character, and none is empty. -/
theorem exists_words_cons (c : Char) (rest : List Char) :
    ∃ word more, words (c :: rest) = (c :: word) :: more ∧ [] ∉ more := by
  induction rest generalizing c with
  | nil => exact ⟨[], [], rfl, List.not_mem_nil⟩
  | cons d rest ih =>
    obtain ⟨word, more, hWords, hMore⟩ := ih d
    rw [words, hWords]
    split
    · exact ⟨[], _, rfl, by simpa using hMore⟩
    · exact ⟨d :: word, more, rfl, hMore⟩

theorem words_cons_ne_nil (c : Char) (rest : List Char) : words (c :: rest) ≠ [] := by
  obtain ⟨word, more, hWords, -⟩ := exists_words_cons c rest
  rw [hWords]
  exact List.cons_ne_nil _ _

theorem nil_notMem_words (name : List Char) : [] ∉ words name := by
  cases name with
  | nil => exact List.not_mem_nil
  | cons c rest =>
    obtain ⟨word, more, hWords, hMore⟩ := exists_words_cons c rest
    simpa [hWords] using hMore

theorem flatten_words (name : List Char) : (words name).flatten = name := by
  fun_induction words name with
  | case1 => rfl
  | case2 => rfl
  | case3 c d rest hBreak ih => rw [List.flatten_cons, ih, List.singleton_append]
  | case4 c d rest hBreak ih =>
    obtain ⟨word, more, hWords, -⟩ := exists_words_cons d rest
    rw [hWords] at ih ⊢
    rw [List.modifyHead_cons, List.flatten_cons, List.cons_append, ← List.flatten_cons, ih]

/-- One more character in the first word moves every cut by it. -/
theorem cutAt_cons_iff {c : Char} {word left right : List Char} {more : List (List Char)} :
    CutAt ((c :: word) :: more) left right
      ↔ ∃ left', left = c :: left' ∧ CutAt (word :: more) left' right := by
  constructor
  · intro h
    cases h with
    | first _ next more => exact ⟨word, rfl, .first word next more⟩
    | later _ h => exact ⟨_, rfl, .later word h⟩
  · rintro ⟨left', rfl, h⟩
    cases h with
    | first _ next more => exact .first (c :: word) next more
    | later _ h => exact .later (c :: word) h

/-- Behind an empty word, a cut stands at the start or is one of the others. -/
theorem cutAt_nil_cons_iff {left right : List Char} {more : List (List Char)} (hMore : more ≠ []) :
    CutAt ([] :: more) left right ↔ left = [] ∧ right = more.flatten ∨ CutAt more left right := by
  constructor
  · intro h
    cases h with
    | first _ next more => exact .inl ⟨rfl, rfl⟩
    | later _ h => exact .inr h
  · rintro (⟨rfl, rfl⟩ | h)
    · obtain ⟨next, more, rfl⟩ := List.exists_cons_of_ne_nil hMore
      exact .first [] next more
    · exact .later [] h

/-- **A name is cut exactly where a word ends.** -/
theorem cutAt_words_iff (name left right : List Char) :
    CutAt (words name) left right ↔ left ++ right = name ∧ Breaks left right := by
  fun_induction words name generalizing left with
  | case1 =>
    refine iff_of_false (by rintro ⟨⟩) ?_
    rintro ⟨hName, hBreaks⟩
    rw [(List.append_eq_nil_iff.1 hName).1] at hBreaks
    exact not_breaks_nil right hBreaks
  | case2 c =>
    refine iff_of_false ?_ ?_
    · rintro (_ | ⟨_, h⟩)
      cases h
    · rintro ⟨hName, hBreaks⟩
      rcases List.append_eq_singleton_iff.1 hName with ⟨rfl, -⟩ | ⟨-, rfl⟩
      · exact not_breaks_nil right hBreaks
      · exact not_breaks_nil_right left hBreaks
  | case3 c d rest hBreak ih =>
    rw [cutAt_cons_iff, append_eq_and_breaks_iff]
    simp only [cutAt_nil_cons_iff (words_cons_ne_nil d rest), flatten_words, ih,
      breaks_singleton_iff.2 hBreak, and_true]
  | case4 c d rest hBreak ih =>
    obtain ⟨word, more, hWords, -⟩ := exists_words_cons d rest
    rw [hWords] at ih ⊢
    rw [List.modifyHead_cons, cutAt_cons_iff, append_eq_and_breaks_iff]
    simp only [ih, mt breaks_singleton_iff.1 hBreak, and_false, false_or]

example : words "getHTTPMethod".toList = ["get".toList, "HTTP".toList, "Method".toList] := by decide

/-! ### Joining the words -/

/-- Words in lower case with an underscore between them. -/
def joined (words : List (List Char)) : List Char :=
  ['_'].intercalate (words.map (List.map Char.toLower))

theorem joined_cons_cons (c : Char) (word : List Char) (more : List (List Char)) :
    joined ((c :: word) :: more) = c.toLower :: joined (word :: more) := by
  cases more with
  | nil => simp [joined, List.intercalate_singleton]
  | cons next more => simp [joined, List.intercalate_cons_cons]

theorem joined_nil_cons {more : List (List Char)} (hMore : more ≠ []) :
    joined ([] :: more) = '_' :: joined more := by
  rw [joined, List.map_cons, List.intercalate_cons_of_ne_nil (by simpa using hMore), joined]
  rfl

/-- Joining words adds underscores only. -/
theorem filter_joined (words : List (List Char)) :
    (joined words).filter (· ≠ '_') = fold words.flatten := by
  induction words with
  | nil => rfl
  | cons word more ih =>
    rw [List.flatten_cons, fold_append, ← ih]
    cases more with
    | nil => simp [joined, fold, List.intercalate_singleton]
    | cons next more => simp [joined, fold, List.intercalate_cons_cons]

/-- Joining words loses none of their characters. -/
theorem map_flatten_sublist_joined (words : List (List Char)) :
    (words.flatten.map Char.toLower).Sublist (joined words) := by
  induction words with
  | nil => exact List.Sublist.refl []
  | cons word more ih =>
    rw [List.flatten_cons, List.map_append]
    cases more with
    | nil => simp [joined, List.intercalate_singleton]
    | cons next more =>
      rw [joined, List.map_cons, List.map_cons, List.intercalate_cons_cons, List.append_assoc]
      exact (List.Sublist.refl _).append (ih.trans (List.sublist_append_right _ _))

/-- What one more character at the start of a name adds to its words. -/
theorem joined_words_cons_cons (c d : Char) (rest : List Char) :
    joined (words (c :: d :: rest)) = c.toLower
      :: ((if Text.isUpper d && startsWord (some c) rest.head? then ['_'] else [])
        ++ joined (words (d :: rest))) := by
  rw [words]
  split
  · rw [joined_cons_cons, joined_nil_cons (words_cons_ne_nil d rest)]
    rfl
  · obtain ⟨word, more, hWords, -⟩ := exists_words_cons d rest
    rw [hWords, List.modifyHead_cons, joined_cons_cons]
    rfl

/-- Behind an underscore no word starts, so it need not be asked whether one is there already. -/
theorem startsWord_and_not_gap (before next : Option Char) :
    (startsWord before next && !(before == some '_')) = startsWord before next := by
  by_cases hGap : before = some '_'
  · subst hGap
    rfl
  · rw [beq_eq_false_iff_ne.2 hGap, Bool.not_false, Bool.and_true]

/-- **Snake case joins the words of a name**, from any place of the name on.  The text so far ends
in an underscore if and only if the name does so before that place. -/
theorem snakeFrom_eq_joined {c : Char} {rest : List Char} (h : (c :: rest).all isIdentChar = true)
    (before : Option Char) :
    snakeFrom before (before == some '_') (c :: rest)
      = (if Text.isUpper c && startsWord before rest.head? then ['_'] else [])
        ++ joined (words (c :: rest)) := by
  induction rest generalizing c before with
  | nil =>
    rw [List.all_cons, Bool.and_eq_true] at h
    rw [snakeFrom_cons h.1, startsWord_and_not_gap]
    rfl
  | cons d rest ih =>
    rw [List.all_cons, Bool.and_eq_true] at h
    have hRest : snakeFrom (some c) (c == '_') (d :: rest)
        = (if Text.isUpper d && startsWord (some c) rest.head? then ['_'] else [])
          ++ joined (words (d :: rest)) := ih h.2 (some c)
    rw [snakeFrom_cons h.1, startsWord_and_not_gap, hRest, joined_words_cons_cons]

theorem toList_snakeCase {name : String} (h : isIdentifier name = true) :
    (snakeCase name).toList = joined (words name.toList) := by
  have hAll := all_isIdentChar_of_isIdentifier h
  rw [snakeCase, String.toList_ofList]
  cases hChars : name.toList with
  | nil => rfl
  | cons c rest =>
    rw [hChars] at hAll
    have hJoined := snakeFrom_eq_joined hAll none
    rwa [startsWord, Bool.and_false, if_neg Bool.false_ne_true, List.nil_append] at hJoined

theorem snakeFrom_of_lower {text : List Char} (h : ∀ c ∈ text, Text.isUpper c = false)
    (before : Option Char) (gap : Bool) : snakeFrom before gap text = text := by
  induction text generalizing before gap with
  | nil => rfl
  | cons c rest ih =>
    obtain ⟨hFirst, hMore⟩ := List.forall_mem_cons.1 h
    rw [snakeFrom, hFirst, if_neg Bool.false_ne_true, ih hMore]

/-! ### Snake case -/

/-- A name cut into words. -/
structure IsCut (name : List Char) (words : List (List Char)) : Prop where
  flatten : words.flatten = name
  nil_notMem : [] ∉ words
  /-- No underscore stands next to a cut. -/
  apart : ∀ left right, CutAt words left right → left.getLast? ≠ some '_' ∧ right.head? ≠ some '_'
  /-- The cuts are where a word ends, and all of them are there. -/
  cutAt_iff : ∀ left right, CutAt words left right ↔ left ++ right = name ∧ Breaks left right

/-- A text is the snake case of a name. -/
structure IsSnakeCase (name text : List Char) : Prop where
  lower : ∀ c ∈ text, Text.isUpper c = false
  /-- Without underscores, the text is the name in lower case. -/
  letters : text.filter (· ≠ '_') = fold name
  /-- All characters of the name are still there, its underscores among them. -/
  kept : (name.map Char.toLower).Sublist text
  /-- What was added is one underscore at each cut: none at the start, and none next to another. -/
  cut : ∃ words, IsCut name words ∧ text = joined words

theorem isCut_words (name : List Char) : IsCut name (words name) where
  flatten := flatten_words name
  nil_notMem := nil_notMem_words name
  apart left right hCut := ((cutAt_words_iff name left right).1 hCut).2.apart
  cutAt_iff := cutAt_words_iff name

theorem isSnakeCase_snakeCase {name : String} (h : isIdentifier name = true) :
    IsSnakeCase name.toList (snakeCase name).toList := by
  have hLetters : (snakeCase name).toList.filter (· ≠ '_') = fold name.toList := by
    rw [toList_snakeCase h, filter_joined, flatten_words]
  refine ⟨fun c hc => ?_, hLetters, ?_, words name.toList, isCut_words name.toList,
    toList_snakeCase h⟩
  · by_cases hUnderscore : c = '_'
    · subst hUnderscore
      decide
    · -- any other character is one of the name, in lower case
      have hFold : c ∈ fold name.toList := by
        rw [← hLetters, List.mem_filter, decide_eq_true_eq]
        exact ⟨hc, hUnderscore⟩
      obtain ⟨d, hd, rfl⟩ := List.mem_map.1 (List.mem_filter.1 hFold).1
      have hIdent := List.all_eq_true.1 (all_isIdentChar_of_isIdentifier h) d hd
      exact (isUpper_toLower_of_isIdentChar hIdent).1
  · have hKept := map_flatten_sublist_joined (words name.toList)
    rwa [flatten_words, ← toList_snakeCase h] at hKept

/-- **Every name gets a well-formed identifier.**  Any text has a usable identifier and field
identifier, and is its own identifier if and only if it is a plain one; and snake case turns a name
of the schema into its words in lower case, which a second time changes nothing. -/
theorem names_are_well_formed :
    (∀ s, Usable (identifier s) ∧ Usable (fieldIdentifier s) ∧ (identifier s = s ↔ Plain s))
    ∧ ∀ name, Schema.isName name = true →
      IsSnakeCase name.toList (snakeCase name).toList
      ∧ snakeCase (snakeCase name) = snakeCase name := by
  refine ⟨fun s => ⟨usable_identifier s, ?_, identifier_eq_self_iff s⟩, fun name hName => ?_⟩
  · rw [fieldIdentifier]
    exact usable_identifier (snakeCase s)
  · have hSnake := isSnakeCase_snakeCase (isIdentifier_of_isName hName)
    refine ⟨hSnake, ?_⟩
    rw [snakeCase, snakeFrom_of_lower hSnake.lower, String.ofList_toList]

/-- A name with a digit, an acronym and an underscore of its own. -/
theorem method_name_is_well_formed :
    Schema.isName "page2Size_HTTPMethod" = true
    ∧ IsSnakeCase "page2Size_HTTPMethod".toList "page2_size_http_method".toList
    ∧ snakeCase "page2_size_http_method" = "page2_size_http_method"
    ∧ Usable (identifier "2fa-type") := by
  have hName : Schema.isName "page2Size_HTTPMethod" = true := by decide
  have hText : snakeCase "page2Size_HTTPMethod" = "page2_size_http_method" := by decide
  have hSnake := names_are_well_formed.2 _ hName
  rw [hText] at hSnake
  exact ⟨hName, hSnake.1, hSnake.2, (names_are_well_formed.1 "2fa-type").1⟩

end ResolverScaffold.Naming

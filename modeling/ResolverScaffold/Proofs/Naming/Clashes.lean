import Mathlib
import ResolverScaffold.Proofs.Naming

/-!
# Names with the same identifier

A name of the schema becomes an identifier in two steps, and both can bring names
together.  Snake case forgets letter case and puts underscores in (`fold_snakeFrom` says
that it forgets nothing else), and a reserved word is written with an underscore at its
end, which may be a name of its own (`identifier_eq_iff`).

* `nodup_map_identifier_iff`: the lists of words with different identifiers.
* `fold_eq_of_fieldIdentifier_eq`: names with the same identifier differ in letter case and
  underscores only.
-/

namespace ResolverScaffold.Naming

/-! ### Characters of identifiers -/

theorem toNat_lt_of_isIdentChar {c : Char} (h : isIdentChar c = true) : c.toNat < 128 := by
  rw [isIdentChar, Char.isAlphanum, Char.isAlpha, Bool.or_eq_true, Bool.or_eq_true,
    Bool.or_eq_true, beq_iff_eq] at h
  rcases h with ((h | h) | h) | rfl
  · simp only [Char.isUpper, decide_eq_true_eq, UInt32.le_iff_toNat_le] at h
    exact Nat.lt_of_le_of_lt h.2 (by decide)
  · simp only [Char.isLower, Bool.and_eq_true, decide_eq_true_eq, UInt32.le_iff_toNat_le] at h
    exact Nat.lt_of_le_of_lt h.2 (by decide)
  · simp only [Char.isDigit, Bool.and_eq_true, decide_eq_true_eq, UInt32.le_iff_toNat_le] at h
    exact Nat.lt_of_le_of_lt h.2 (by decide)
  · decide

/-- What holds of all ASCII characters holds of those of identifiers. -/
theorem of_isIdentChar {P : Char → Prop} (hAll : ∀ n < 128, P (Char.ofNat n)) {c : Char}
    (h : isIdentChar c = true) : P c := by
  have hSame : Char.ofNat c.toNat = c := Char.ofNat_toNat c
  exact hSame ▸ hAll c.toNat (toNat_lt_of_isIdentChar h)

/-- Lower case keeps the characters of identifiers, and which of them are digits. -/
theorem toLower_of_isIdentChar {c : Char} (h : isIdentChar c = true) :
    isIdentChar c.toLower = true ∧ c.toLower.isDigit = c.isDigit
      ∧ c.toLower.toLower = c.toLower := by
  have hAll : ∀ n < 128, isIdentChar (Char.ofNat n) = true →
      isIdentChar (Char.ofNat n).toLower = true
        ∧ (Char.ofNat n).toLower.isDigit = (Char.ofNat n).isDigit
        ∧ (Char.ofNat n).toLower.toLower = (Char.ofNat n).toLower := by
    decide +kernel
  exact of_isIdentChar (P := fun c => isIdentChar c = true → isIdentChar c.toLower = true
    ∧ c.toLower.isDigit = c.isDigit ∧ c.toLower.toLower = c.toLower) hAll h h

/-- Lower case leaves no upper case, and changes nothing else. -/
theorem isUpper_toLower_of_isIdentChar {c : Char} (h : isIdentChar c = true) :
    Text.isUpper c.toLower = false ∧ (Text.isUpper c = false → c.toLower = c) :=
  of_isIdentChar (P := fun c => Text.isUpper c.toLower = false
    ∧ (Text.isUpper c = false → c.toLower = c)) (by decide +kernel) h

/-! ### Snake case -/

/-- A name without its underscores, in lower case. -/
def fold (name : List Char) : List Char := (name.map Char.toLower).filter (· ≠ '_')

theorem fold_append (a b : List Char) : fold (a ++ b) = fold a ++ fold b := by
  rw [fold, List.map_append, List.filter_append, fold, fold]

theorem fold_cons (c : Char) (rest : List Char) : fold (c :: rest) = fold [c] ++ fold rest :=
  fold_append [c] rest

/-- One character of snake case: it is written in lower case, and an underscore stands before it
if it starts a word and the text so far does not end in one. -/
theorem snakeFrom_cons {c : Char} (hc : isIdentChar c = true) (before : Option Char) (gap : Bool)
    (rest : List Char) :
    snakeFrom before gap (c :: rest)
      = (if Text.isUpper c && (startsWord before rest.head? && !gap) then ['_'] else [])
        ++ c.toLower :: snakeFrom (some c) (c == '_') rest := by
  rw [snakeFrom]
  cases hUpper : Text.isUpper c with
  | true =>
    have hGap : (c == '_') = false := by
      rw [beq_eq_false_iff_ne]
      rintro rfl
      exact absurd hUpper (by decide)
    simp only [if_true, Bool.true_and, hGap, Text.toLower, toNat_lt_of_isIdentChar hc,
      List.append_assoc, List.cons_append, List.nil_append]
  | false =>
    rw [(isUpper_toLower_of_isIdentChar hc).2 hUpper]
    rfl

theorem all_snakeFrom {name : List Char} (h : name.all isIdentChar = true) (before : Option Char)
    (gap : Bool) : (snakeFrom before gap name).all isIdentChar = true := by
  induction name generalizing before gap with
  | nil => rfl
  | cons c rest ih =>
    rw [List.all_cons, Bool.and_eq_true] at h
    rw [snakeFrom_cons h.1, List.all_append, List.all_cons, (toLower_of_isIdentChar h.1).1, ih h.2]
    split <;> rfl

/-- **Snake case forgets letter case and underscores only.** -/
theorem fold_snakeFrom {name : List Char} (h : name.all isIdentChar = true) (before : Option Char)
    (gap : Bool) : fold (snakeFrom before gap name) = fold name := by
  induction name generalizing before gap with
  | nil => rfl
  | cons c rest ih =>
    rw [List.all_cons, Bool.and_eq_true] at h
    have hChar : fold [c.toLower] = fold [c] := by
      simp only [fold, List.map_cons, (toLower_of_isIdentChar h.1).2.2]
    rw [snakeFrom_cons h.1, fold_append, fold_cons, hChar, ih h.2, ← fold_cons]
    split <;> rfl

theorem isIdentifier_snakeCase {name : String} (h : isIdentifier name = true) :
    isIdentifier (snakeCase name) = true := by
  have hAll := all_snakeFrom (all_isIdentChar_of_isIdentifier h) none false
  rw [isIdentifier] at h
  rw [isIdentifier, snakeCase, String.toList_ofList]
  cases hChars : name.toList with
  | nil => rw [hChars] at h; cases h
  | cons c rest =>
    rw [hChars] at h hAll
    rw [Bool.and_eq_true, Bool.and_eq_true] at h
    -- no word starts before the first character
    have hCons : snakeFrom none false (c :: rest)
        = c.toLower :: snakeFrom (some c) (c == '_') rest := by
      simp [snakeFrom_cons h.1.1, startsWord]
    have hDigit : c.toLower.isDigit = false := by
      rw [(toLower_of_isIdentChar h.1.1).2.1]
      simpa using h.1.2
    rw [hCons] at hAll ⊢
    rw [List.all_cons, Bool.and_eq_true] at hAll
    simp only [hAll.1, hDigit, hAll.2, Bool.not_false, Bool.and_true]

/-! ### Identifiers -/

variable {s t : String}

/-- A text that is an identifier stays as it is, unless it is a word of the language. -/
theorem identifier_of_isIdentifier (h : isIdentifier s = true) :
    identifier s = if s ∈ reserved then s ++ "_" else if s ∈ keywords then "r#" ++ s else s := by
  have hSame : s.toList.map (fun c => if isIdentChar c then c else '_') = s.toList := by
    refine (List.map_congr_left fun c hc => if_pos ?_).trans (List.map_id _)
    exact List.all_eq_true.1 (all_isIdentChar_of_isIdentifier h) c hc
  have hChars : identifierChars s.toList = s.toList := by
    rw [isIdentifier] at h
    rw [identifierChars, hSame]
    cases hText : s.toList with
    | nil => rw [hText] at h; cases h
    | cons c rest =>
      rw [hText, Bool.and_eq_true, Bool.and_eq_true, Bool.not_eq_true'] at h
      exact if_neg (Bool.eq_false_iff.1 h.1.2)
  simp only [identifier, hChars, String.ofList_toList, List.contains_iff_mem]

/-- One word is reserved, and the other is it with an underscore at its end. -/
def Suffixed (word other : String) : Prop := word ∈ reserved ∧ other = word ++ "_"

theorem isIdentifier_of_mem_reserved (h : s ∈ reserved) : isIdentifier (s ++ "_") = true := by
  revert s
  decide

theorem ne_hash_append (h : isIdentifier s = true) (word : String) : s ≠ "r#" ++ word := by
  rintro rfl
  have hAll := all_isIdentChar_of_isIdentifier h
  rw [String.toList_append, List.all_append, Bool.and_eq_true] at hAll
  exact absurd hAll.1 (by decide)

theorem eq_or_suffixed (hs : isIdentifier s = true) (ht : isIdentifier t = true)
    (h : identifier s = identifier t) : s = t ∨ Suffixed s t ∨ Suffixed t s := by
  rw [identifier_of_isIdentifier hs, identifier_of_isIdentifier ht] at h
  split at h <;> rename_i hReserved
  · split at h <;> rename_i hReserved'
    · exact .inl ((String.append_left_inj _).1 h)
    · split at h
      · exact absurd h (ne_hash_append (isIdentifier_of_mem_reserved hReserved) t)
      · exact .inr (.inl ⟨hReserved, h.symm⟩)
  · split at h
    · split at h <;> rename_i hReserved'
      · exact absurd h.symm (ne_hash_append (isIdentifier_of_mem_reserved hReserved') s)
      · split at h
        · exact .inl ((String.append_right_inj _).1 h)
        · exact absurd h.symm (ne_hash_append ht s)
    · split at h <;> rename_i hReserved'
      · exact .inr (.inr ⟨hReserved', h⟩)
      · split at h
        · exact absurd h (ne_hash_append hs t)
        · exact .inl h

/-- What a reserved word is written as is not changed any more. -/
theorem identifier_of_suffixed (h : Suffixed s t) : identifier s = identifier t := by
  obtain ⟨hReserved, rfl⟩ := h
  revert s
  decide

/-- **Two identifiers are written alike** if they are the same, or one is a reserved word and the
other is what that word is written as. -/
theorem identifier_eq_iff (hs : isIdentifier s = true) (ht : isIdentifier t = true) :
    identifier s = identifier t ↔ s = t ∨ Suffixed s t ∨ Suffixed t s := by
  refine ⟨eq_or_suffixed hs ht, ?_⟩
  rintro (rfl | hSuffixed | hSuffixed)
  · rfl
  · exact identifier_of_suffixed hSuffixed
  · exact (identifier_of_suffixed hSuffixed).symm

/-- No word of a list is reserved and has its form with an underscore in the list too. -/
def Unsuffixed (words : List String) : Prop := ∀ word ∈ reserved, word ∈ words → word ++ "_" ∉ words

instance (words : List String) : Decidable (Unsuffixed words) :=
  inferInstanceAs (Decidable (∀ word ∈ reserved, _ → _))

/-- **The lists of words with different identifiers.** -/
theorem nodup_map_identifier_iff {words : List String} (h : ∀ w ∈ words, isIdentifier w = true) :
    (words.map identifier).Nodup ↔ words.Nodup ∧ Unsuffixed words := by
  constructor
  · intro hNodup
    have hWords : words.Nodup := hNodup.of_map
    refine ⟨hWords, fun word hReserved hWord hOther => ?_⟩
    have hSame := List.inj_on_of_nodup_map hNodup hWord hOther
      ((identifier_eq_iff (h _ hWord) (h _ hOther)).2 (.inr (.inl ⟨hReserved, rfl⟩)))
    have hLength := congrArg String.length hSame
    simp at hLength
  · rintro ⟨hWords, hUnsuffixed⟩
    refine hWords.map_on fun s hs t ht hSame => ?_
    rcases (identifier_eq_iff (h s hs) (h t ht)).1 hSame with
      hEq | ⟨hReserved, rfl⟩ | ⟨hReserved, rfl⟩
    · exact hEq
    · exact absurd ht (hUnsuffixed s hReserved hs)
    · exact absurd hs (hUnsuffixed t hReserved ht)

/-- **The names with different field identifiers.** -/
theorem nodup_map_fieldIdentifier_iff {names : List String}
    (h : ∀ name ∈ names, isIdentifier name = true) :
    (names.map fieldIdentifier).Nodup
      ↔ (names.map snakeCase).Nodup ∧ Unsuffixed (names.map snakeCase) := by
  have hSnake : ∀ w ∈ names.map snakeCase, isIdentifier w = true :=
    List.forall_mem_map.2 fun name hName => isIdentifier_snakeCase (h name hName)
  have hWords : names.map fieldIdentifier = (names.map snakeCase).map identifier := by
    rw [List.map_map]
    exact List.map_congr_left fun name _ => by rw [fieldIdentifier, Function.comp_apply]
  rw [hWords, nodup_map_identifier_iff hSnake]

/-- **Names with the same field identifier differ in letter case and underscores only.** -/
theorem fold_eq_of_fieldIdentifier_eq (hs : isIdentifier s = true) (ht : isIdentifier t = true)
    (h : fieldIdentifier s = fieldIdentifier t) : fold s.toList = fold t.toList := by
  have hFold : ∀ {name : String}, isIdentifier name = true →
      fold (snakeCase name).toList = fold name.toList := fun hName => by
    rw [snakeCase, String.toList_ofList]
    exact fold_snakeFrom (all_isIdentChar_of_isIdentifier hName) none false
  have hSuffix : ∀ word : String, fold (word ++ "_").toList = fold word.toList := fun word => by
    rw [String.toList_append, fold_append]
    exact List.append_nil _
  rw [← hFold hs, ← hFold ht]
  rcases (identifier_eq_iff (isIdentifier_snakeCase hs) (isIdentifier_snakeCase ht)).1 h with
    hSame | ⟨-, hSame⟩ | ⟨-, hSame⟩
  · rw [hSame]
  · rw [hSame, hSuffix]
  · rw [hSame, hSuffix]

/-- Identifiers for names that stand together, as the fields of a struct or the parameters of a
function do.  They differ if and only if the names differ in snake case and none of them is a
reserved word next to its form with an underscore; so they do if the names differ in more than
letter case and underscores. -/
structure Identifies (names idents : List String) : Prop where
  eq_map : idents = names.map fieldIdentifier
  nodup_iff : idents.Nodup ↔ (names.map snakeCase).Nodup ∧ Unsuffixed (names.map snakeCase)
  nodup_of_fold : (names.map fun name => fold name.toList).Nodup → idents.Nodup

theorem identifies_map {names : List String} (h : ∀ name ∈ names, isIdentifier name = true) :
    Identifies names (names.map fieldIdentifier) where
  eq_map := rfl
  nodup_iff := nodup_map_fieldIdentifier_iff h
  nodup_of_fold hFold := hFold.of_map.map_on fun s hs t ht hSame =>
    List.inj_on_of_nodup_map hFold hs ht (fold_eq_of_fieldIdentifier_eq (h s hs) (h t ht) hSame)

end ResolverScaffold.Naming

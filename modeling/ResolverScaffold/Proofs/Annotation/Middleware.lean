import Mathlib
import ResolverScaffold.Annotation.Middleware
import ResolverScaffold.Proofs.Annotation.StringList

/-!
# Annotations in descriptions

A description is text with annotations in it.  The text between them may hold
anything but the start of an annotation, and it may well end in the middle of one:
since `@` stands only at the front of the mark, no mark begins in the text and ends
in the annotation after it (`not_mark_prefix_append`).  The content of an
annotation may hold marks, which are passed over with it.
-/

namespace ResolverScaffold

/-! ### Closing parentheses in lists -/

namespace StringList

theorem HexDigit.ne_parenthesis {c : Char} {n : ℕ} (h : HexDigit c n) : c ≠ ')' := by
  rintro rfl
  rcases h with h | h
  · exact absurd (List.mem_of_getElem? h) (by decide)
  · exact absurd (List.mem_of_getElem? h) (by decide)

theorem HexText.parenthesis_notMem {digits : List Char} {n : ℕ} (h : HexText digits n) :
    ')' ∉ digits := by
  cases h with
  | digits ha hb hc hd =>
    simp [ha.ne_parenthesis.symm, hb.ne_parenthesis.symm, hc.ne_parenthesis.symm,
      hd.ne_parenthesis.symm]

/-- Only a closing parenthesis is written with one. -/
theorem CharText.parenthesis_notMem {text : List Char} {c : Char} (h : CharText text c)
    (hc : c ≠ ')') : ')' ∉ text := by
  cases h with
  | plain _ _ _ => simpa using hc.symm
  | escaped hEscape =>
    have hLetter : ∀ p ∈ escapes, ')' ≠ p.1 := by decide
    simpa using hLetter _ hEscape
  | unit hDigits => simpa using hDigits.parenthesis_notMem
  | pair hDigits hDigits' _ _ _ _ _ =>
    simpa using ⟨hDigits.parenthesis_notMem, hDigits'.parenthesis_notMem⟩

theorem BodyText.parenthesis_notMem {body chars : List Char} (h : BodyText body chars)
    (hChars : ')' ∉ chars) : ')' ∉ body := by
  induction h with
  | nil => exact List.not_mem_nil
  | cons hChar _ ih =>
    rw [List.mem_cons, not_or] at hChars
    rw [List.mem_append, not_or]
    exact ⟨hChar.parenthesis_notMem (Ne.symm hChars.1), ih hChars.2⟩

theorem TokenText.parenthesis_notMem {text : List Char} {token : Token} (h : TokenText text token)
    (hToken : ∀ s, token = .string s → ')' ∉ s.toList) : ')' ∉ text := by
  cases h with
  | opening => decide
  | closing => decide
  | comma => decide
  | @string body s hBody =>
    have hInside := hBody.parenthesis_notMem (hToken s rfl)
    simpa using hInside

theorem Written.parenthesis_notMem {text : List Char} {tokens : List Token}
    (h : Written text tokens) (hTokens : ∀ s, .string s ∈ tokens → ')' ∉ s.toList) :
    ')' ∉ text := by
  have hGap : ∀ {gap}, Gap gap → ')' ∉ gap := fun hGap hIn => absurd (hGap _ hIn) (by decide)
  induction h with
  | nil hOnly => exact hGap hOnly
  | @cons gap text rest token tokens hBefore hToken _ ih =>
    have hFirst : ∀ s, token = .string s → ')' ∉ s.toList :=
      fun s hs => hTokens s (hs ▸ List.mem_cons_self)
    have hRest := ih fun s hs => hTokens s (List.mem_cons_of_mem _ hs)
    simp only [List.mem_append, not_or]
    exact ⟨⟨hGap hBefore, hToken.parenthesis_notMem hFirst⟩, hRest⟩

theorem mem_of_mem_tokensOf {names : List String} {s : String}
    (h : Token.string s ∈ tokensOf names) : s ∈ names := by
  have hItems : Token.string s ∈ (names.map Token.string).intersperse .comma := by
    simpa [tokensOf] using h
  clear h
  induction names with
  | nil => cases hItems
  | cons name names ih =>
    cases names with
    | nil => simpa using hItems
    | cons next names =>
      simp only [List.map_cons, List.intersperse_cons_cons, List.mem_cons, Token.string.injEq,
        reduceCtorEq, false_or] at hItems
      rcases hItems with rfl | hItems
      · exact List.mem_cons_self
      · exact List.mem_cons_of_mem _ (ih (by simpa using hItems))

theorem Encodes.parenthesis_notMem {text : List Char} {names : List String}
    (h : Encodes text names) (hNames : ∀ name ∈ names, ')' ∉ name.toList) : ')' ∉ text :=
  Written.parenthesis_notMem h fun s hs => hNames s (mem_of_mem_tokensOf hs)

theorem Encodes.ne_nil {text : List Char} {names : List String} (h : Encodes text names) :
    text ≠ [] := by
  rintro rfl
  have hRead := read?_eq_some_iff.2 h
  cases hRead

end StringList

namespace Middleware

open StringList (Encodes)

/-- The names that the content of an annotation stands for: those of a list without closing
parentheses, or none where the content is no list. -/
inductive Decodes : List Char → List String → Prop
  | listed {content : List Char} {names : List String} : Encodes content names →
      (∀ name ∈ names, ')' ∉ name.toList) → Decodes content names
  | malformed {content : List Char} : content ≠ [] → ')' ∉ content →
      (∀ names, ¬Encodes content names) → Decodes content []

/-- An annotation with what it stands for, and the text that follows it. -/
structure Annotated where
  content : List Char
  names : List String
  filler : List Char

def Annotated.text (a : Annotated) : List Char := mark ++ a.content ++ ')' :: a.filler

theorem Decodes.ne_nil {content : List Char} {names : List String} (h : Decodes content names) :
    content ≠ [] := by
  cases h with
  | listed hEncodes _ => exact hEncodes.ne_nil
  | malformed hSome _ _ => exact hSome

theorem Decodes.parenthesis_notMem {content : List Char} {names : List String}
    (h : Decodes content names) : ')' ∉ content := by
  cases h with
  | listed hEncodes hNames => exact hEncodes.parenthesis_notMem hNames
  | malformed _ hFree _ => exact hFree

theorem Decodes.getD_read? {content : List Char} {names : List String}
    (h : Decodes content names) : (StringList.read? content).getD [] = names := by
  cases h with
  | listed hEncodes _ => rw [StringList.read?_eq_some_iff.2 hEncodes, Option.getD_some]
  | malformed _ _ hNot =>
    have hNone : StringList.read? content = none :=
      Option.eq_none_iff_forall_ne_some.2 fun names hRead =>
        hNot names (StringList.read?_eq_some_iff.1 hRead)
    rw [hNone, Option.getD_none]

/-! ### Text between annotations -/

/-- No mark begins in a text without marks, if what follows the text starts with a mark. -/
theorem not_mark_prefix_append {c : Char} {filler rest : List Char}
    (hFiller : ¬mark <:+: c :: filler) (hRest : rest = [] ∨ mark <+: rest) :
    ¬mark <+: c :: filler ++ rest := by
  rintro ⟨more, hMore⟩
  rcases List.append_eq_append_iff.1 hMore with ⟨tail, hTail, -⟩ | ⟨tail, hTail, hRest'⟩
  · exact hFiller ⟨[], tail, by simpa using hTail.symm⟩
  · cases tail with
    | nil => exact hFiller ⟨[], [], by simpa using hTail⟩
    | cons first tail =>
      -- what follows starts in the middle of the mark, where there is no other `@`
      have hFirst : first = '@' := by
        rcases hRest with rfl | ⟨later, rfl⟩
        · cases hRest'
        · exact (List.cons.inj hRest').1.symm
      have hInside : '@' ∈ mark.tail := by
        rw [hTail, hFirst]
        simp
      exact absurd hInside (by decide)

theorem contentAt?_eq_none {text : List Char} (h : ¬mark <+: text) : contentAt? text = none := by
  have hAfter : Text.after? mark text = none :=
    Option.eq_none_iff_forall_ne_some.2 fun body hBody =>
      h ⟨body, (Text.after?_eq_some_iff.1 hBody).symm⟩
  rw [contentAt?, hAfter]
  rfl

theorem contents_cons_of_contentAt?_eq_none {c : Char} {cs : List Char}
    (h : contentAt? (c :: cs) = none) : contents (c :: cs) = contents cs := by
  rw [contents]
  split
  · rename_i hAt
    rw [h] at hAt
    cases hAt
  · rfl

/-- Text without marks is passed over. -/
theorem contents_filler_append {filler rest : List Char} (hFiller : ¬mark <:+: filler)
    (hRest : rest = [] ∨ mark <+: rest) : contents (filler ++ rest) = contents rest := by
  induction filler with
  | nil => rfl
  | cons c filler ih =>
    have hNone := contentAt?_eq_none (not_mark_prefix_append hFiller hRest)
    rw [List.cons_append] at hNone ⊢
    rw [contents_cons_of_contentAt?_eq_none hNone]
    exact ih fun hIn => hFiller (List.infix_cons hIn)

/-! ### Annotations -/

theorem contentAt?_mark {content : List Char} (hSome : content ≠ []) (hFree : ')' ∉ content)
    (rest : List Char) : contentAt? (mark ++ content ++ ')' :: rest) = some (content, rest) := by
  have hAll : ∀ c ∈ content, decide (c ≠ ')') = true := by
    intro c hc
    refine decide_eq_true ?_
    rintro rfl
    exact hFree hc
  have hAfter : Text.after? mark (mark ++ content ++ ')' :: rest) = some (content ++ ')' :: rest) :=
    Text.after?_eq_some_iff.2 (List.append_assoc ..)
  have hTake : (content ++ ')' :: rest).takeWhile (· ≠ ')') = content := by
    rw [List.takeWhile_append_of_pos hAll, List.takeWhile_cons_of_neg (by simp), List.append_nil]
  have hDrop : (content ++ ')' :: rest).dropWhile (· ≠ ')') = ')' :: rest := by
    rw [List.dropWhile_append_of_pos hAll, List.dropWhile_cons_of_neg (by simp)]
  obtain ⟨c, content, rfl⟩ := List.exists_cons_of_ne_nil hSome
  rw [contentAt?, hAfter, Option.bind_eq_bind, Option.bind_some, hTake, hDrop]

/-- **The contents of a description** are those of its annotations, from left to right. -/
theorem contents_annotated {first : List Char} {annotated : List Annotated}
    (hFirst : ¬mark <:+: first)
    (hAnnotated : ∀ a ∈ annotated, Decodes a.content a.names ∧ ¬mark <:+: a.filler) :
    contents (first ++ annotated.flatMap Annotated.text) = annotated.map (·.content) := by
  induction annotated generalizing first with
  | nil =>
    rw [List.flatMap_nil, contents_filler_append hFirst (.inl rfl), contents, List.map_nil]
  | cons a annotated ih =>
    obtain ⟨⟨hDecodes, hFiller⟩, hMore⟩ := List.forall_mem_cons.1 hAnnotated
    have hText : (a :: annotated).flatMap Annotated.text
        = mark ++ a.content ++ ')' :: (a.filler ++ annotated.flatMap Annotated.text) := by
      simp [Annotated.text]
    have hMark : mark <+: (a :: annotated).flatMap Annotated.text :=
      ⟨a.content ++ ')' :: (a.filler ++ annotated.flatMap Annotated.text), by simp [hText]⟩
    have hAt := contentAt?_mark hDecodes.ne_nil hDecodes.parenthesis_notMem
      (a.filler ++ annotated.flatMap Annotated.text)
    rw [contents_filler_append hFirst (.inr hMark), hText, contents_of_contentAt? hAt,
      ih hFiller hMore, List.map_cons]

/-- **Annotations decode exactly.**  Take a description of texts without marks and annotations
between them.  Its names are those that the annotations list, in their order; an annotation whose
content is no list adds none and hides none. -/
theorem annotations_decode_exactly (first : List Char) (annotated : List Annotated)
    (hFirst : ¬mark <:+: first)
    (hAnnotated : ∀ a ∈ annotated, Decodes a.content a.names ∧ ¬mark <:+: a.filler)
    (description : String)
    (hText : description.toList = first ++ annotated.flatMap Annotated.text) :
    names (some description) = annotated.flatMap (·.names) := by
  rw [names, namesIn, hText, contents_annotated hFirst hAnnotated, List.flatMap_map]
  refine List.flatMap_congr fun a ha => ?_
  exact (hAnnotated a ha).1.getD_read?

end Middleware

/-! ### A description with two annotations

The text before the first ends like a mark, the first is no list, and a name of the second holds a
mark.
-/

namespace Sample

def looseContent : List Char := "auth, admin".toList

def listContent : List Char := " [\"@middleware(\" , \"\\u0041\\n\\uD83D\\uDE00\" ]".toList

def twoAnnotations : List Middleware.Annotated :=
  [⟨looseContent, [], " and @middleware".toList⟩,
   ⟨listContent, ["@middleware(", "A\n😀"], " (both)".toList⟩]

def twoDescription : String :=
  "Use @middle@middleware(auth, admin) and @middleware@middleware( [\"@middleware(\" , "
    ++ "\"\\u0041\\n\\uD83D\\uDE00\" ]) (both)"

theorem read?_looseContent : StringList.read? looseContent = none := by decide

theorem read?_listContent :
    StringList.read? listContent = some ["@middleware(", "A\n😀"] := by cbv

theorem decodes_twoAnnotations : ∀ a ∈ twoAnnotations,
    Middleware.Decodes a.content a.names ∧ ¬Middleware.mark <:+: a.filler := by
  simp only [twoAnnotations, List.forall_mem_cons]
  refine ⟨⟨.malformed (by decide) (by decide) fun names hEncodes => ?_, by decide⟩,
    ⟨.listed (StringList.read?_eq_some_iff.1 read?_listContent) (by decide), by decide⟩, nofun⟩
  have hRead := StringList.read?_eq_some_iff.2 hEncodes
  rw [read?_looseContent] at hRead
  cases hRead

end Sample

theorem Middleware.annotations_decode_two :
    (∀ a ∈ Sample.twoAnnotations, Decodes a.content a.names ∧ ¬mark <:+: a.filler)
    ∧ names (some Sample.twoDescription) = ["@middleware(", "A\n😀"] :=
  ⟨Sample.decodes_twoAnnotations,
    annotations_decode_exactly "Use @middle".toList Sample.twoAnnotations (by decide)
      Sample.decodes_twoAnnotations Sample.twoDescription (by decide)⟩

end ResolverScaffold

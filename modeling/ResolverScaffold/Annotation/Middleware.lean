import ResolverScaffold.Annotation.StringList
import ResolverScaffold.Text.Lines

/-!
# Middleware annotations

A description may say `@middleware(["auth", "admin"])`.  `Middleware.names`
gives the names of all annotations of a description in order; an annotation
whose content is not a list of strings adds nothing.
-/

namespace ResolverScaffold.Middleware

def mark : List Char := "@middleware(".toList

/-- The content of an annotation that starts the text, and what follows it.  The content ends
at the first closing parenthesis and is not empty. -/
def contentAt? (text : List Char) : Option (List Char × List Char) := do
  let body ← Text.after? mark text
  match body.takeWhile (· ≠ ')'), body.dropWhile (· ≠ ')') with
  | c :: content, _ :: rest => some (c :: content, rest)
  | _, _ => none

theorem length_lt_of_contentAt? {text content rest : List Char}
    (h : contentAt? text = some (content, rest)) : rest.length < text.length := by
  rw [contentAt?] at h
  cases hBody : Text.after? mark text with
  | none => simp [hBody] at h
  | some body =>
    have hText := Text.after?_eq_some_iff.1 hBody
    have hSplit : body.takeWhile (· ≠ ')') ++ body.dropWhile (· ≠ ')') = body :=
      List.takeWhile_append_dropWhile
    simp only [hBody, Option.bind_eq_bind, Option.bind_some] at h
    split at h
    · rename_i c content' closing rest' hTake hDrop
      rw [hTake, hDrop] at hSplit
      simp only [Option.some.injEq, Prod.mk.injEq] at h
      rw [hText, ← hSplit, ← h.2]
      simp only [List.length_append, List.length_cons]
      omega
    · simp at h

/-- The contents of all annotations of a text, from left to right. -/
def contents (text : List Char) : List (List Char) :=
  match text with
  | [] => []
  | c :: cs =>
    match _h : contentAt? (c :: cs) with
    | some (content, rest) => content :: contents rest
    | none => contents cs
termination_by text.length
decreasing_by
  · exact length_lt_of_contentAt? _h
  · simp

theorem contents_of_contentAt? {text content rest : List Char}
    (h : contentAt? text = some (content, rest)) : contents text = content :: contents rest := by
  cases text with
  | nil => cases h
  | cons c cs =>
    rw [contents]
    split
    · rename_i hAt
      rw [h] at hAt
      cases hAt
      rfl
    · rename_i hAt
      rw [h] at hAt
      cases hAt

def namesIn (text : List Char) : List String :=
  (contents text).flatMap fun content => (StringList.read? content).getD []

/-- The names of a text that is one annotation. -/
theorem namesIn_of_contentAt? {text content : List Char} {listed : List String}
    (hAt : contentAt? text = some (content, [])) (hRead : StringList.read? content = some listed) :
    namesIn text = listed := by
  rw [namesIn, contents_of_contentAt? hAt, contents, List.flatMap_singleton, hRead]
  rfl

def names (description : Option String) : List String :=
  match description with
  | none => []
  | some text => namesIn text.toList

end ResolverScaffold.Middleware

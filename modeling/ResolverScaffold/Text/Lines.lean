import ResolverScaffold.Text.Blank

/-!
# Lines and trimming

A text is worked on as its list of characters.  `lines` cuts it at line feeds,
`trim` and its two halves take blank characters off its ends, and `after?`
reads a fixed beginning.
-/

namespace ResolverScaffold.Text

/-- The lines of a text.  A line feed ends a line and is dropped with one carriage return
before it; after a last line feed no empty line follows. -/
def lines : List Char → List (List Char)
  | [] => []
  | '\n' :: rest => [] :: lines rest
  | '\r' :: '\n' :: rest => [] :: lines rest
  | c :: rest =>
    match lines rest with
    | [] => [[c]]
    | line :: more => (c :: line) :: more

/-- The text without the blank characters at its start. -/
def trimStart (cs : List Char) : List Char := cs.dropWhile isBlank

/-- The text without the blank characters at its end. -/
def trimEnd (cs : List Char) : List Char := (cs.reverse.dropWhile isBlank).reverse

/-- The text without the blank characters at both ends. -/
def trim (cs : List Char) : List Char := trimEnd (trimStart cs)

/-- Whether a text has only blank characters. -/
def isBlankText (cs : List Char) : Bool := cs.all isBlank

/-- What follows `beginning` in a text that starts with it. -/
def after? : (beginning text : List Char) → Option (List Char)
  | [], text => some text
  | _ :: _, [] => none
  | b :: bs, c :: cs => if b = c then after? bs cs else none

def startsWith (beginning text : List Char) : Bool := (after? beginning text).isSome

theorem after?_eq_some_iff {beginning text rest : List Char} :
    after? beginning text = some rest ↔ text = beginning ++ rest := by
  induction beginning generalizing text with
  | nil => simp [after?]
  | cons b bs ih =>
    cases text with
    | nil => simp [after?]
    | cons c cs =>
      rw [after?]
      split
      · rename_i h
        subst h
        rw [ih]
        simp
      · rename_i h
        simp [Ne.symm h]

/-- What precedes and what follows the first occurrence of a mark. -/
def cut? (mark : List Char) : List Char → Option (List Char × List Char)
  | [] => (after? mark []).map fun rest => ([], rest)
  | c :: cs =>
    match after? mark (c :: cs) with
    | some rest => some ([], rest)
    | none => (cut? mark cs).map fun parts => (c :: parts.1, parts.2)

/-- The text with the first occurrence of `old` replaced, if there is one. -/
def replaceFirst? (old new text : List Char) : Option (List Char) :=
  (cut? old text).map fun parts => parts.1 ++ new ++ parts.2

/-- The rest of a text with every occurrence of `old` replaced, once `skip` characters of an
occurrence have been passed over. -/
def replaceFrom (old new : List Char) : (skip : Nat) → List Char → List Char
  | _, [] => []
  | skip + 1, _ :: cs => replaceFrom old new skip cs
  | 0, c :: cs =>
    if startsWith old (c :: cs) then new ++ replaceFrom old new (old.length - 1) cs
    else c :: replaceFrom old new 0 cs

/-- The text with every occurrence of the non-empty `old` replaced, from left to right. -/
def replaceAll (old new text : List Char) : List Char := replaceFrom old new 0 text

/-- The parts of a text between the occurrences of the non-empty `mark`, once `skip` characters
of an occurrence have been passed over. -/
def splitFrom (mark : List Char) : (skip : Nat) → List Char → List (List Char)
  | _, [] => [[]]
  | skip + 1, _ :: cs => splitFrom mark skip cs
  | 0, c :: cs =>
    if startsWith mark (c :: cs) then [] :: splitFrom mark (mark.length - 1) cs
    else
      match splitFrom mark 0 cs with
      | [] => [[c]]
      | part :: more => (c :: part) :: more

/-- The parts of a text between the occurrences of the non-empty `mark`. -/
def splitAt (mark text : List Char) : List (List Char) := splitFrom mark 0 text

/-- Whether a string has only blank characters. -/
def isBlankString (s : String) : Bool := isBlankText s.toList

/-- What follows `beginning` in a string that starts with it. -/
def afterOf? (beginning s : String) : Option String :=
  (after? beginning.toList s.toList).map String.ofList

/-- A string with every occurrence of `old` replaced. -/
def replaceAllOf (old new s : String) : String :=
  String.ofList (replaceAll old.toList new.toList s.toList)

end ResolverScaffold.Text

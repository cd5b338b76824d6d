import ResolverScaffold.Markup.Cursor
import ResolverScaffold.Markup.Token

/-!
# Anchors, tags and directives of a YAML text
-/

namespace ResolverScaffold.Markup

def anchorName (c : Cursor) : Option (String × Cursor) :=
  let (name, c) := (c.skip 1).takeWhile isNameChar
  let ends := match c.rest.head? with
    | none => true
    | some ch => isBlankEnd (some ch) || "?:,]\x7d%@".toList.contains ch || ch.toNat == 0x60
  if name.isEmpty || !ends then none else some (String.ofList name, c)

/-- The byte of an escape with a percent sign. -/
def escapedByte? : List Char → Option (UInt8 × List Char)
  | '%' :: a :: b :: rest => do
    let digit (c : Char) : Option Nat :=
      if c.isDigit then some (c.toNat - 48)
      else if 'a' ≤ c ∧ c ≤ 'f' then some (c.toNat - 87)
      else if 'A' ≤ c ∧ c ≤ 'F' then some (c.toNat - 55)
      else none
    return (((← digit a) * 16 + (← digit b)).toUInt8, rest)
  | _ => none

/-- So many escaped bytes, each of which goes on a character. -/
def escapedTail? : (count : Nat) → List Char → Option (List UInt8)
  | 0, _ => some []
  | count + 1, rest => do
    let (byte, rest) ← escapedByte? rest
    if 0x80 ≤ byte ∧ byte < 0xC0 then (byte :: ·) <$> escapedTail? count rest else none

/-- The bytes of a character that is escaped byte by byte.  The first byte says how many there
are; whether they write a character is not asked. -/
def escapedBytes? (rest : List Char) : Option (List UInt8) := do
  let (byte, more) ← escapedByte? rest
  let tail ←
    if byte < 0x80 then some []
    else if byte < 0xC0 then none
    else if byte < 0xE0 then escapedTail? 1 more
    else if byte < 0xF0 then escapedTail? 2 more
    else if byte < 0xF8 then escapedTail? 3 more
    else none
  return byte :: tail

/-- Whether a character may stand in a tag. -/
def isTagChar (whole : Bool) (c : Char) : Bool :=
  isNameChar c || ";/?:@&=+$.%!~*'()".toList.contains c || (whole && ",[]".toList.contains c)

def tagBytes (whole : Bool) : (steps : Nat) → Cursor → Option (List UInt8 × Cursor)
  | 0, c => some ([], c)
  | steps + 1, c =>
    match c.rest with
    | [] => some ([], c)
    | ch :: _ =>
      if ch == '%' then do
        let bytes ← escapedBytes? c.rest
        let (more, c) ← tagBytes whole steps (c.skip (3 * bytes.length))
        return (bytes ++ more, c)
      else if isTagChar whole ch then do
        let (more, c) ← tagBytes whole steps (c.skip 1)
        return (ch.toNat.toUInt8 :: more, c)
      else some ([], c)

/-- The rest of a tag after a beginning, which may not both be empty. -/
def tagUri (whole : Bool) (beginning : List Char) (c : Cursor) : Option (Tag × Cursor) := do
  let (bytes, after) ← tagBytes whole (c.rest.length + 1) c
  if beginning.isEmpty && bytes.isEmpty then none
  else some (.ofBytes ((Tag.ofText (String.ofList (beginning.drop 1))).bytes ++ bytes), after)

/-- The handle a tag starts with: an exclamation mark, a name, and perhaps another mark. -/
def tagHandle (c : Cursor) : Option (List Char × Cursor) :=
  if c.rest.head? != some '!' then none
  else
    let (name, c) := (c.skip 1).takeWhile isNameChar
    if c.rest.head? == some '!' then some ('!' :: name ++ ['!'], c.skip 1)
    else some ('!' :: name, c)

/-- Whether a handle stands between two marks. -/
def isClosedHandle (handle : List Char) : Bool :=
  handle.length ≥ 2 && handle.getLast? == some '!'

def tag (inFlow : Bool) (c : Cursor) : Option (Token × Cursor) := do
  let (token, c) ←
    if c.peek? 1 == some '<' then do
      let (uri, c) ← tagUri true [] (c.skip 2)
      if c.rest.head? == some '>' then some (Token.tag "" uri, c.skip 1) else none
    else do
      let (handle, c) ← tagHandle c
      if isClosedHandle handle then
        let (suffix, c) ← tagUri false [] c
        some (.tag (String.ofList handle) suffix, c)
      else
        let (suffix, c) ← tagUri false handle c
        some (if suffix.isEmpty then .tag "" (.ofText "!") else .tag "!" suffix, c)
  if isBlankEnd c.rest.head? || (inFlow && c.rest.head? == some ',') then some (token, c) else none

def versionNumber (c : Cursor) : Option (Nat × Cursor) :=
  let (digits, c) := c.takeWhile Char.isDigit
  if digits.isEmpty || digits.length > 9 then none
  else some (digits.foldl (fun n d => n * 10 + (d.toNat - 48)) 0, c)

def versionDirective (c : Cursor) : Option (Token × Cursor) := do
  let (major, c) ← versionNumber (c.skipWhile isGap)
  if c.rest.head? != some '.' then none
  else
    let (minor, c) ← versionNumber (c.skip 1)
    some (.versionDirective major minor, c)

/-- The handle and the beginning of tags that a directive names. -/
def tagDirective (c : Cursor) : Option (Token × Cursor) := do
  let (handle, c) ← tagHandle (c.skipWhile isGap)
  if !isClosedHandle handle && handle != ['!'] then none
  else if !c.rest.head?.any isGap then none
  else
    let (uri, c) ← tagUri true [] (c.skipWhile isGap)
    if isBlankEnd c.rest.head? then some (.tagDirective (String.ofList handle) uri, c) else none

/-- A directive and the rest of its line. -/
def directive (c : Cursor) : Option (Token × Cursor) := do
  let (name, c) := (c.skip 1).takeWhile isNameChar
  if name.isEmpty || !isBlankEnd c.rest.head? then none
  else
    let (token, c) ←
      if name = "YAML".toList then versionDirective c
      else if name = "TAG".toList then tagDirective c
      else none
    let c := c.skipWhile isGap
    let c := if c.rest.head? == some '#' then c.skipWhile fun ch => !isBreak ch else c
    if isLineEnd c.rest.head? then some (token, c.skipLine) else none

end ResolverScaffold.Markup

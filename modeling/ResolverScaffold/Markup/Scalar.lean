import ResolverScaffold.Markup.Cursor

/-!
# Scalars of a YAML text

The three ways to write a scalar: plain, in quotes, and as a block of lines.
In the first two a line end inside the scalar is folded: one becomes a space,
and of several all but the first stay.
-/

namespace ResolverScaffold.Markup

/-! ### Folding -/

/-- The blank characters inside a scalar. -/
structure Gap where
  /-- The gaps before the first line end. -/
  spaces : List Char
  /-- The first line end. -/
  first : Option (List Char)
  /-- The line ends after it. -/
  more : List Char

/-- No blank characters. -/
def Gap.none : Gap := ⟨[], Option.none, []⟩

/-- What blank characters stand for. -/
def Gap.fold (g : Gap) : List Char :=
  match g.first with
  | Option.none => g.spaces
  | some first =>
    if first = ['\n'] then (if g.more.isEmpty then [' '] else g.more) else first ++ g.more

/-- Take blank characters, at most so many.  After a line end no tab may stand before the
column `limit`. -/
def Gap.scan (limit : Nat) : (steps : Nat) → Gap → Cursor → Option (Gap × Cursor)
  | 0, g, c => some (g, c)
  | steps + 1, g, c =>
    match c.rest with
    | [] => some (g, c)
    | ch :: _ =>
      if isGap ch then
        match g.first with
        | Option.none => Gap.scan limit steps { g with spaces := g.spaces ++ [ch] } (c.skip 1)
        | some _ =>
          if ch == '\t' && c.column < limit then Option.none else Gap.scan limit steps g (c.skip 1)
      else if isBreak ch then
        let (ending, c) := c.readLine
        match g.first with
        | Option.none => Gap.scan limit steps ⟨[], some ending, []⟩ c
        | some _ => Gap.scan limit steps { g with more := g.more ++ ending } c
      else some (g, c)

/-- Take all blank characters ahead. -/
def Gap.scanAll (limit : Nat) (start : Gap) (c : Cursor) : Option (Gap × Cursor) :=
  Gap.scan limit (c.rest.length + 1) start c

/-! ### Plain scalars -/

/-- Whether a character ends a plain scalar inside brackets. -/
def isFlowEnd (c : Char) : Bool := c == ',' || c == '[' || c == ']' || c == '\x7b' || c == '\x7d'

/-- The characters of a plain scalar up to a blank or to what ends it.  Inside brackets a colon
may not stand before another indicator. -/
def plainRun (inFlow : Bool) : List Char → Option (List Char)
  | [] => some []
  | c :: rest =>
    if isGap c || isBreak c then some []
    else if inFlow && c == ':' && rest.head?.any (fun n => isFlowEnd n || n == '?') then none
    else if (c == ':' && isBlankEnd rest.head?) || (inFlow && isFlowEnd c) then some []
    else (c :: ·) <$> plainRun inFlow rest

/-- A plain scalar: its text, whether a line end was passed over after it, and the cursor.
`indent` is the least column of its further lines. -/
def plainFrom (inFlow : Bool) (indent : Nat) :
    (steps : Nat) → List Char → Gap → Cursor → Option (List Char × Bool × Cursor)
  | 0, _, _, _ => none
  | steps + 1, text, gap, c =>
    if c.atDocumentMark || c.rest.head? == some '#' then some (text, gap.first.isSome, c)
    else do
      let run ← plainRun inFlow c.rest
      if run.isEmpty then some (text, gap.first.isSome, c)
      else
        let text := text ++ gap.fold ++ run
        let c := c.skip run.length
        if c.rest.isEmpty || !isBlankEnd c.rest.head? then some (text, false, c)
        else
          let (gap, c) ← Gap.scanAll indent .none c
          if !inFlow && c.column < indent then some (text, gap.first.isSome, c)
          else plainFrom inFlow indent steps text gap c

def plain (inFlow : Bool) (indent : Nat) (c : Cursor) : Option (List Char × Bool × Cursor) :=
  plainFrom inFlow indent (c.rest.length + 1) [] .none c

/-! ### Scalars in quotes -/

/-- The number that hexadecimal digits write. -/
def hexNumber? : (count : Nat) → (value : Nat) → List Char → Option Nat
  | 0, value, _ => some value
  | _ + 1, _, [] => none
  | count + 1, value, c :: rest =>
    if c.isDigit then hexNumber? count (value * 16 + (c.toNat - 48)) rest
    else if 'a' ≤ c ∧ c ≤ 'f' then hexNumber? count (value * 16 + (c.toNat - 87)) rest
    else if 'A' ≤ c ∧ c ≤ 'F' then hexNumber? count (value * 16 + (c.toNat - 55)) rest
    else none

/-- A character written by its number in so many digits, and how much was read. -/
def numbered? (count : Nat) (rest : List Char) : Option (Char × Nat) := do
  let n ← hexNumber? count 0 rest
  if (0xD800 ≤ n ∧ n ≤ 0xDFFF) ∨ 0x10FFFF < n then none else some (Char.ofNat n, count + 1)

/-- The character after a backslash, and how much was read. -/
def escape? : List Char → Option (Char × Nat)
  | [] => none
  | c :: rest =>
    match c with
    | '0' => some (Char.ofNat 0, 1)
    | 'a' => some ('\x07', 1)
    | 'b' => some ('\x08', 1)
    | 't' | '\t' => some ('\t', 1)
    | 'n' => some ('\n', 1)
    | 'v' => some ('\x0b', 1)
    | 'f' => some ('\x0c', 1)
    | 'r' => some ('\r', 1)
    | 'e' => some ('\x1b', 1)
    | ' ' => some (' ', 1)
    | '"' => some ('"', 1)
    | '/' => some ('/', 1)
    | '\\' => some ('\\', 1)
    | 'N' => some ('\u0085', 1)
    | '_' => some ('\u00a0', 1)
    | 'L' => some ('\u2028', 1)
    | 'P' => some ('\u2029', 1)
    | 'x' => numbered? 2 rest
    | 'u' => numbered? 4 rest
    | 'U' => numbered? 8 rest
    | _ => none

/-- The characters of a quoted scalar up to a blank or the closing quote, last one first, and
whether an escaped line end stopped them. -/
def quotedRun (single : Bool) : (steps : Nat) → List Char → Cursor →
    Option (List Char × Bool × Cursor)
  | 0, text, c => some (text, false, c)
  | steps + 1, text, c =>
    match c.rest with
    | [] => some (text, false, c)
    | ch :: rest =>
      if isGap ch || isBreak ch then some (text, false, c)
      else if single then
        if ch != '\'' then quotedRun single steps (ch :: text) (c.skip 1)
        else if rest.head? == some '\'' then quotedRun single steps ('\'' :: text) (c.skip 2)
        else some (text, false, c)
      else if ch == '"' then some (text, false, c)
      else if ch == '\\' then
        if rest.head?.any isBreak then some (text, true, (c.skip 1).skipLine)
        else do
          let (ch, count) ← escape? rest
          quotedRun single steps (ch :: text) (c.skip (1 + count))
      else quotedRun single steps (ch :: text) (c.skip 1)

/-- A scalar in quotes, after the opening one. -/
def quotedFrom (single : Bool) : (steps : Nat) → List Char → Cursor → Option (List Char × Cursor)
  | 0, _, _ => none
  | steps + 1, text, c =>
    if c.atDocumentMark || c.rest.isEmpty then none
    else do
      let (run, escaped, c) ← quotedRun single (c.rest.length + 1) [] c
      let text := text ++ run.reverse
      if c.rest.head? == some (if single then '\'' else '"') then some (text, c.skip 1)
      else
        let (gap, c) ← Gap.scanAll 0 ⟨[], if escaped then some [] else none, []⟩ c
        quotedFrom single steps (text ++ gap.fold) c

def quoted (single : Bool) (c : Cursor) : Option (List Char × Cursor) :=
  quotedFrom single (c.rest.length + 1) [] (c.skip 1)

/-! ### Block scalars -/

/-- What becomes of the line ends at the end of a block. -/
inductive Chomping where
  | strip
  | clip
  | keep
  deriving DecidableEq

/-- Take empty lines and the indent of the first line that is not empty.  An indent of zero is
not known yet and is set by that line. -/
def blockBreaks (parent : Int) : (steps : Nat) → (indent widest : Nat) → List Char → Cursor →
    Option (Nat × List Char × Cursor)
  | 0, indent, _, breaks, c => some (indent, breaks, c)
  | steps + 1, indent, widest, breaks, c =>
    let spaces := (c.rest.takeWhile (· == ' ')).length
    let c := c.skip (if indent = 0 then spaces else min spaces (indent - c.column))
    let widest := max widest c.column
    if (indent = 0 || c.column < indent) && c.rest.head? == some '\t' then none
    else if c.rest.head?.any isBreak then
      let (ending, c) := c.readLine
      blockBreaks parent steps indent widest (breaks ++ ending) c
    else
      let found := if indent = 0 then max (max widest (parent + 1).toNat) 1 else indent
      some (found, breaks, c)

def blockLines (literal : Bool) (parent : Int) (indent : Nat) : (steps : Nat) →
    (text leading trailing : List Char) → (leadingGap : Bool) → Cursor →
    Option (List Char × List Char × List Char × Cursor)
  | 0, text, leading, trailing, _, c => some (text, leading, trailing, c)
  | steps + 1, text, leading, trailing, leadingGap, c =>
    if c.column ≠ indent ∨ c.rest.isEmpty then some (text, leading, trailing, c)
    else do
      let startsWithGap := c.rest.head?.any isGap
      let joined :=
        if !literal && leading = ['\n'] && !leadingGap && !startsWithGap then
          (if trailing.isEmpty then [' '] else [])
        else leading
      let (line, c) := c.takeWhile fun ch => !isBreak ch
      let text := text ++ joined ++ trailing ++ line
      let (leading, c) := c.readLine
      let (_, trailing, c) ← blockBreaks parent (c.rest.length + 1) indent 0 [] c
      blockLines literal parent indent steps text leading trailing startsWithGap c

/-- The chomping and the indent that the head of a block names. -/
def blockHead (c : Cursor) : Option (Chomping × Nat × Cursor) :=
  let chomping? (ch : Option Char) : Option Chomping :=
    if ch == some '+' then some .keep else if ch == some '-' then some .strip else none
  let digit? (ch : Option Char) : Option Nat :=
    match ch with
    | some d => if d.isDigit then some (d.toNat - 48) else none
    | none => none
  match chomping? (c.peek? 0) with
  | some chomping =>
    match digit? (c.peek? 1) with
    | some 0 => none
    | some n => some (chomping, n, c.skip 2)
    | none => some (chomping, 0, c.skip 1)
  | none =>
    match digit? (c.peek? 0) with
    | some 0 => none
    | some n =>
      match chomping? (c.peek? 1) with
      | some chomping => some (chomping, n, c.skip 2)
      | none => some (.clip, n, c.skip 1)
    | none => some (.clip, 0, c)

/-- A scalar written as a block.  `parent` is the indent of what holds it. -/
def blockScalar (literal : Bool) (parent : Int) (c : Cursor) : Option (List Char × Cursor) := do
  let (chomping, increment, c) ← blockHead (c.skip 1)
  let c := c.skipWhile isGap
  let c := if c.rest.head? == some '#' then c.skipWhile fun ch => !isBreak ch else c
  if !isLineEnd c.rest.head? then none
  else
    let c := c.skipLine
    let indent := if increment = 0 then 0 else (max parent 0).toNat + increment
    let (indent, trailing, c) ← blockBreaks parent (c.rest.length + 1) indent 0 [] c
    let (text, leading, trailing, c) ←
      blockLines literal parent indent (c.rest.length + 1) [] [] trailing false c
    let ending :=
      match chomping with
      | .strip => []
      | .clip => leading
      | .keep => leading ++ trailing
    some (text ++ ending, c)

end ResolverScaffold.Markup

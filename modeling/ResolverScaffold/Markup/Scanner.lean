import ResolverScaffold.Markup.Name
import ResolverScaffold.Markup.Scalar

/-!
# The tokens of a YAML text

`Token.scanAll?` cuts a text into tokens.  Indentation becomes tokens too: a
deeper column opens a block and a shallower one closes it.  A key is known as
a key only when its colon comes, so the scanner remembers where a key could
have started and puts the key token there afterwards.
-/

namespace ResolverScaffold.Markup

/-- A place where a key may have started. -/
structure KeyPlace where
  /-- Whether a key can still be there. -/
  possible : Bool
  required : Bool
  /-- How many tokens came before. -/
  position : Nat
  index : Nat
  line : Nat
  column : Nat

def KeyPlace.none : KeyPlace := ⟨false, false, 0, 0, 0, 0⟩

/-- What is known while tokens are read. -/
structure Scanner where
  cursor : Cursor
  tokens : Array Token
  /-- How many brackets are open. -/
  flowLevel : Nat
  /-- The column of the innermost block; -1 outside all blocks. -/
  indent : Int
  /-- The columns of the blocks around it. -/
  indents : List Int
  /-- Whether a key may start here. -/
  keyAllowed : Bool
  /-- The key place of the innermost brackets. -/
  keyPlace : KeyPlace
  /-- The key places outside of them. -/
  outerPlaces : List KeyPlace

namespace Scanner

def start (text : List Char) : Scanner :=
  ⟨.start text, #[], 0, -1, [], true, .none, []⟩

/-- Whether brackets are open. -/
def inFlow (s : Scanner) : Bool := s.flowLevel > 0

def push (s : Scanner) (t : Token) : Scanner := { s with tokens := s.tokens.push t }

def insertAt (s : Scanner) (position : Nat) (t : Token) : Scanner :=
  { s with tokens := s.tokens.extract 0 position ++ #[t] ++ s.tokens.extract position s.tokens.size }

/-- Pass over gaps, comments and line ends.  Tabs count as gaps only where no key may start, and
a byte order mark only at the start of a line. -/
def skipBlank : (steps : Nat) → Scanner → Scanner
  | 0, s => s
  | steps + 1, s =>
    let c := s.cursor
    let c := if c.column = 0 && c.rest.head? == some '\ufeff' then c.skip 1 else c
    let tabs := s.inFlow || !s.keyAllowed
    let c := c.skipWhile fun ch => ch == ' ' || (tabs && ch == '\t')
    let c := if c.rest.head? == some '#' then c.skipWhile fun ch => !isBreak ch else c
    if c.rest.head?.any isBreak then
      skipBlank steps { s with cursor := c.skipLine, keyAllowed := s.keyAllowed || !s.inFlow }
    else { s with cursor := c }

/-- Whether a key place is too far away: on an earlier line or more than 1024 bytes ago. -/
def isStale (s : Scanner) (k : KeyPlace) : Bool :=
  k.possible && (k.line < s.cursor.line || k.index + 1024 < s.cursor.index)

/-- Forget a key place that is too far away.  A required key may not be missing. -/
def refresh (s : Scanner) (k : KeyPlace) : Option KeyPlace :=
  if s.isStale k then (if k.required then none else some { k with possible := false }) else some k

/-- Forget the key places that are too far away. -/
def refreshAll (s : Scanner) : Option Scanner := do
  return { s with keyPlace := ← s.refresh s.keyPlace, outerPlaces := ← s.outerPlaces.mapM s.refresh }

/-- Close the blocks that are deeper than a column. -/
def unroll (column : Int) : (steps : Nat) → Scanner → Scanner
  | 0, s => s
  | steps + 1, s =>
    if s.inFlow || s.indent ≤ column then s
    else
      unroll column steps
        { s.push .blockEnd with indent := s.indents.headD (-1), indents := s.indents.drop 1 }

/-- Close the blocks that are deeper than a column. -/
def unrollTo (s : Scanner) (column : Int) : Scanner := unroll column (s.indents.length + 1) s

/-- Open a block at a column that is deeper, its token at the given position or at the end. -/
def roll (s : Scanner) (column : Nat) (position : Option Nat) (t : Token) : Scanner :=
  if s.inFlow || (column : Int) ≤ s.indent then s
  else
    let s := { s with indents := s.indent :: s.indents, indent := column }
    match position with
    | none => s.push t
    | some position => s.insertAt position t

/-- Forget the key place.  A required key may not be missing. -/
def dropKey (s : Scanner) : Option Scanner :=
  if s.keyPlace.possible && s.keyPlace.required then none
  else some { s with keyPlace := { s.keyPlace with possible := false } }

/-- Remember that a key may start here. -/
def saveKey (s : Scanner) : Option Scanner :=
  if s.keyAllowed then do
    let required := !s.inFlow && s.indent == (s.cursor.column : Int)
    let s ← s.dropKey
    return { s with
      keyPlace := ⟨true, required, s.tokens.size, s.cursor.index, s.cursor.line, s.cursor.column⟩ }
  else some s

/-- Pass over the next characters and add a token for them. -/
def take (s : Scanner) (count : Nat) (t : Token) : Scanner :=
  { s with cursor := s.cursor.skip count }.push t

def fetchEnd (s : Scanner) : Option Scanner := do
  let s ← (s.unrollTo (-1)).dropKey
  return { s.push .streamEnd with keyAllowed := false }

def fetchDirective (s : Scanner) : Option Scanner := do
  let s ← (s.unrollTo (-1)).dropKey
  let (token, cursor) ← directive s.cursor
  return { s with cursor, keyAllowed := false }.push token

def fetchMark (s : Scanner) (t : Token) : Option Scanner := do
  let s ← (s.unrollTo (-1)).dropKey
  return { s with keyAllowed := false }.take 3 t

def fetchOpening (s : Scanner) (t : Token) : Option Scanner := do
  let s ← s.saveKey
  return { s with
    outerPlaces := s.keyPlace :: s.outerPlaces, keyPlace := .none
    flowLevel := s.flowLevel + 1, keyAllowed := true }.take 1 t

def fetchClosing (s : Scanner) (t : Token) : Option Scanner := do
  let s ← s.dropKey
  let s := if s.inFlow then
      { s with flowLevel := s.flowLevel - 1, keyPlace := s.outerPlaces.headD .none
               outerPlaces := s.outerPlaces.drop 1 }
    else s
  return { s with keyAllowed := false }.take 1 t

def fetchComma (s : Scanner) : Option Scanner := do
  let s ← s.dropKey
  return { s with keyAllowed := true }.take 1 .flowEntry

/-- Open a block for an indicator, which needs a place where a key may start. -/
def openBlock (s : Scanner) (t : Token) : Option Scanner :=
  if s.inFlow then some s
  else if s.keyAllowed then some (s.roll s.cursor.column none t)
  else none

def fetchDash (s : Scanner) : Option Scanner := do
  let s ← (← s.openBlock .blockSequenceStart).dropKey
  return { s with keyAllowed := true }.take 1 .blockEntry

def fetchKey (s : Scanner) : Option Scanner := do
  let s ← (← s.openBlock .blockMappingStart).dropKey
  return { s with keyAllowed := !s.inFlow }.take 1 .key

def fetchValue (s : Scanner) : Option Scanner := do
  let k := s.keyPlace
  if k.possible then
    let s := (s.insertAt k.position .key).roll k.column (some k.position) .blockMappingStart
    return { s with keyPlace := { k with possible := false }, keyAllowed := false }.take 1 .value
  else
    let s ← s.openBlock .blockMappingStart
    return { s with keyAllowed := !s.inFlow }.take 1 .value

def fetchAnchor (s : Scanner) (t : String → Token) : Option Scanner := do
  let s ← s.saveKey
  let (name, cursor) ← anchorName s.cursor
  return { s with cursor, keyAllowed := false }.push (t name)

def fetchTag (s : Scanner) : Option Scanner := do
  let s ← s.saveKey
  let (token, cursor) ← tag s.inFlow s.cursor
  return { s with cursor, keyAllowed := false }.push token

def fetchBlock (s : Scanner) (literal : Bool) : Option Scanner := do
  let s ← s.dropKey
  let (text, cursor) ← blockScalar literal s.indent s.cursor
  return { s with cursor, keyAllowed := true }.push (.scalar (String.ofList text) false)

def fetchQuoted (s : Scanner) (single : Bool) : Option Scanner := do
  let s ← s.saveKey
  let (text, cursor) ← quoted single s.cursor
  return { s with cursor, keyAllowed := false }.push (.scalar (String.ofList text) false)

def fetchPlain (s : Scanner) : Option Scanner := do
  let s ← s.saveKey
  let (text, newLine, cursor) ← plain s.inFlow (s.indent + 1).toNat s.cursor
  return { s with cursor, keyAllowed := newLine }.push (.scalar (String.ofList text) true)

def isIndicator (c : Char) : Bool :=
  "-?:,[]\x7b\x7d#&*!|>'\"%@".toList.contains c || c.toNat == 0x60

def startsPlain (s : Scanner) (c : Char) (next : Option Char) : Bool :=
  !(isGap c || isBreak c || isIndicator c) || (c == '-' && !next.any isGap)
    || (!s.inFlow && (c == '?' || c == ':') && !isBlankEnd next)

/-- Read the next token. -/
def fetch (s : Scanner) : Option Scanner := do
  let s := skipBlank (s.cursor.rest.length + 1) s
  let s ← s.refreshAll
  let s := s.unrollTo s.cursor.column
  let next := s.cursor.peek? 1
  match s.cursor.rest with
  | [] => s.fetchEnd
  | c :: _ =>
    if s.cursor.column = 0 && c == '%' then s.fetchDirective
    else if s.cursor.atMark "---" then s.fetchMark .documentStart
    else if s.cursor.atMark "..." then s.fetchMark .documentEnd
    else if c == '[' then s.fetchOpening .flowSequenceStart
    else if c == '\x7b' then s.fetchOpening .flowMappingStart
    else if c == ']' then s.fetchClosing .flowSequenceEnd
    else if c == '\x7d' then s.fetchClosing .flowMappingEnd
    else if c == ',' then s.fetchComma
    else if c == '-' && isBlankEnd next then s.fetchDash
    else if c == '?' && (s.inFlow || isBlankEnd next) then s.fetchKey
    else if c == ':' && (s.inFlow || isBlankEnd next) then s.fetchValue
    else if c == '*' then s.fetchAnchor .alias
    else if c == '&' then s.fetchAnchor .anchor
    else if c == '!' then s.fetchTag
    else if c == '|' && !s.inFlow then s.fetchBlock true
    else if c == '>' && !s.inFlow then s.fetchBlock false
    else if c == '\'' then s.fetchQuoted true
    else if c == '"' then s.fetchQuoted false
    else if s.startsPlain c next then s.fetchPlain
    else none

/-- Read tokens up to the end of the text. -/
def fetchAll : (steps : Nat) → Scanner → Option (List Token)
  | 0, _ => none
  | steps + 1, s => do
    let s ← s.fetch
    if s.tokens.back? == some .streamEnd then some s.tokens.toList else fetchAll steps s

end Scanner

/-- The tokens of a text; none if it is malformed. -/
def Token.scanAll? (text : List Char) : Option (List Token) :=
  if text.all isAllowed then Scanner.fetchAll (text.length + 2) (.start text) else none

end ResolverScaffold.Markup

import Mathlib
import ResolverScaffold.Annotation.StringList

/-!
# How lists of strings are written

`Encodes text names` is the grammar: the tokens of the list in their order, with
blanks before, between and after them.  A character of a string stands for itself
or is escaped, by a letter, by the four digits of its number, or by those of the
two halves of a pair.  There are many texts for one list.

`read?_eq_some_iff` says that reading is the inverse of writing in any of these
ways: a text is read as a list if and only if it is one of the texts of that list.
The reader works in two rounds, and so does the proof: a string is first cut into
pieces (`PiecesText`), and only then are the halves of pairs put together.
-/

namespace ResolverScaffold.StringList

/-! ### The grammar -/

def hexDigits : List Char :=
  ['0', '1', '2', '3', '4', '5', '6', '7', '8', '9', 'a', 'b', 'c', 'd', 'e', 'f']

def upperHexDigits : List Char :=
  ['0', '1', '2', '3', '4', '5', '6', '7', '8', '9', 'A', 'B', 'C', 'D', 'E', 'F']

def HexDigit (c : Char) (n : ℕ) : Prop := hexDigits[n]? = some c ∨ upperHexDigits[n]? = some c

/-- A number written with four digits of base sixteen. -/
inductive HexText : List Char → ℕ → Prop
  | digits {a b c d : Char} {i j k l : ℕ} : HexDigit a i → HexDigit b j → HexDigit c k →
      HexDigit d l → HexText [a, b, c, d] (i * 16 ^ 3 + j * 16 ^ 2 + k * 16 + l)

/-- The letters that may follow a backslash, each with what it stands for. -/
def escapes : List (Char × Char) :=
  [('"', '"'), ('\\', '\\'), ('/', '/'), ('b', '\x08'), ('f', '\x0c'), ('n', '\n'), ('r', '\r'),
    ('t', '\t')]

/-- How a character is written in a string. -/
inductive CharText : List Char → Char → Prop
  | plain {c : Char} : c ≠ '"' → c ≠ '\\' → 0x20 ≤ c.toNat → CharText [c] c
  | escaped {e c : Char} : (e, c) ∈ escapes → CharText ['\\', e] c
  | unit {digits : List Char} {c : Char} : HexText digits c.toNat →
      CharText ('\\' :: 'u' :: digits) c
  | pair {digits digits' : List Char} {high low : ℕ} {c : Char} : HexText digits high →
      HexText digits' low → 0xD800 ≤ high → high < 0xDC00 → 0xDC00 ≤ low → low < 0xE000 →
      c.toNat = 0x10000 + (high - 0xD800) * 0x400 + (low - 0xDC00) →
      CharText ('\\' :: 'u' :: digits ++ '\\' :: 'u' :: digits') c

/-- How the characters of a string are written, without its quotes. -/
inductive BodyText : List Char → List Char → Prop
  | nil : BodyText [] []
  | cons {text body : List Char} {c : Char} {chars : List Char} : CharText text c →
      BodyText body chars → BodyText (text ++ body) (c :: chars)

inductive TokenText : List Char → Token → Prop
  | opening : TokenText ['['] .opening
  | closing : TokenText [']'] .closing
  | comma : TokenText [','] .comma
  | string {body : List Char} {s : String} : BodyText body s.toList →
      TokenText ('"' :: body ++ ['"']) (.string s)

def Gap (text : List Char) : Prop := ∀ c ∈ text, c ∈ [' ', '\t', '\n', '\r']

/-- How tokens are written one after the other. -/
inductive Written : List Char → List Token → Prop
  | nil {gap : List Char} : Gap gap → Written gap []
  | cons {gap text rest : List Char} {token : Token} {tokens : List Token} : Gap gap →
      TokenText text token → Written rest tokens → Written (gap ++ text ++ rest) (token :: tokens)

def tokensOf (names : List String) : List Token :=
  .opening :: (names.map Token.string).intersperse .comma ++ [.closing]

/-- **A text of a list of strings.** -/
def Encodes (text : List Char) (names : List String) : Prop := Written text (tokensOf names)

/-! ### Digits and escapes -/

theorem of_toNat_between (low high : ℕ) {P : Char → Prop}
    (h : ∀ n, low ≤ n → n ≤ high → P (Char.ofNat n)) {c : Char}
    (hLow : low ≤ c.toNat) (hHigh : c.toNat ≤ high) : P c := by
  have hc := h c.toNat hLow hHigh
  rwa [Char.ofNat_toNat] at hc

theorem hexDigit_of_hexValue? {c : Char} {n : ℕ} (h : hexValue? c = some n) : HexDigit c n := by
  rw [hexValue?] at h
  split at h
  · rename_i hDigit
    cases h
    refine of_toNat_between 48 57 (P := fun c => HexDigit c (c.toNat - 48)) ?_ hDigit.1 hDigit.2
    intro k hLow hHigh
    interval_cases k <;> exact .inl rfl
  · split at h
    · rename_i hDigit
      cases h
      refine of_toNat_between 97 102 (P := fun c => HexDigit c (c.toNat - 97 + 10)) ?_ hDigit.1
        hDigit.2
      intro k hLow hHigh
      interval_cases k <;> exact .inl rfl
    · split at h
      · rename_i hDigit
        cases h
        refine of_toNat_between 65 70 (P := fun c => HexDigit c (c.toNat - 65 + 10)) ?_ hDigit.1
          hDigit.2
        intro k hLow hHigh
        interval_cases k <;> exact .inr rfl
      · cases h

theorem HexDigit.lt {c : Char} {n : ℕ} (h : HexDigit c n) : n < 16 := by
  rcases h with h | h
  · exact (List.getElem?_eq_some_iff.1 h).1
  · exact (List.getElem?_eq_some_iff.1 h).1

theorem hexValue?_eq_some_iff {c : Char} {n : ℕ} : hexValue? c = some n ↔ HexDigit c n := by
  refine ⟨hexDigit_of_hexValue?, fun hDigit => ?_⟩
  have hLess := hDigit.lt
  rcases hDigit with h | h
  · interval_cases n <;> cases h <;> rfl
  · interval_cases n <;> cases h <;> rfl

theorem hexUnit?_eq_some_iff {a b c d : Char} {n : ℕ} :
    hexUnit? a b c d = some n ↔ HexText [a, b, c, d] n := by
  simp only [hexUnit?, Option.bind_eq_bind, Option.bind_eq_some_iff, Option.pure_def,
    Option.some.injEq, hexValue?_eq_some_iff]
  constructor
  · rintro ⟨i, ha, j, hb, k, hc, l, hd, rfl⟩
    have hSum : ((i * 16 + j) * 16 + k) * 16 + l = i * 16 ^ 3 + j * 16 ^ 2 + k * 16 + l := by ring
    rw [hSum]
    exact .digits ha hb hc hd
  · intro h
    cases h with
    | @digits _ _ _ _ i j k l ha hb hc hd => exact ⟨i, ha, j, hb, k, hc, l, hd, by ring⟩

theorem escaped?_eq_some_iff {e c : Char} : escaped? e = some c ↔ (e, c) ∈ escapes := by
  constructor
  · intro h
    rw [escaped?.eq_def] at h
    split at h <;> cases h <;> decide
  · have hAll : ∀ p ∈ escapes, escaped? p.1 = some p.2 := by decide
    exact hAll (e, c)

/-! ### Pieces -/

inductive PieceText : List Char → Piece → Prop
  | plain {c : Char} : c ≠ '"' → c ≠ '\\' → 0x20 ≤ c.toNat → PieceText [c] (.char c)
  | escaped {e c : Char} : (e, c) ∈ escapes → PieceText ['\\', e] (.char c)
  | unit {digits : List Char} {n : ℕ} : HexText digits n →
      PieceText ('\\' :: 'u' :: digits) (.unit n)

inductive PiecesText : List Char → List Piece → Prop
  | nil : PiecesText [] []
  | cons {text body : List Char} {piece : Piece} {pieces : List Piece} : PieceText text piece →
      PiecesText body pieces → PiecesText (text ++ body) (piece :: pieces)

theorem isHigh_iff {n : ℕ} : isHigh n = true ↔ 0xD800 ≤ n ∧ n < 0xDC00 := by
  rw [isHigh, Bool.and_eq_true, decide_eq_true_iff, decide_eq_true_iff]
  omega

theorem isLow_iff {n : ℕ} : isLow n = true ↔ 0xDC00 ≤ n ∧ n < 0xE000 := by
  rw [isLow, Bool.and_eq_true, decide_eq_true_iff, decide_eq_true_iff]
  omega

/-- No character has the number of a half. -/
theorem not_half_of_toNat (c : Char) : isHigh c.toNat = false ∧ isLow c.toNat = false := by
  have hValid : c.toNat < 0xD800 ∨ 0xDFFF < c.toNat ∧ c.toNat < 0x110000 := c.valid
  rw [← Bool.not_eq_true, ← Bool.not_eq_true, isHigh_iff, isLow_iff]
  omega

theorem toNat_ofNat_of_valid {n : ℕ} (h : n < 0xD800 ∨ 0xDFFF < n ∧ n < 0x110000) :
    (Char.ofNat n).toNat = n := by
  have hValid : n.isValidChar := h
  rw [Char.ofNat, dif_pos hValid]
  rfl

/-- A unit that is no half stands alone, whatever follows it. -/
theorem chars?_unit {n : ℕ} (hHigh : isHigh n = false) (hLow : isLow n = false)
    (pieces : List Piece) :
    chars? (.unit n :: pieces) = (chars? pieces).map (Char.ofNat n :: ·) := by
  cases pieces with
  | nil => simp [chars?, hHigh, hLow]
  | cons piece pieces =>
    cases piece with
    | char c => simp [chars?, hHigh, hLow]
    | unit low => simp [chars?, hHigh, hLow]

theorem chars?_pair {high low : ℕ} (hHigh : isHigh high = true) (hLow : isLow low = true)
    (pieces : List Piece) :
    chars? (.unit high :: .unit low :: pieces) = (chars? pieces).map
      (Char.ofNat (0x10000 + (high - 0xD800) * 0x400 + (low - 0xDC00)) :: ·) := by
  simp [chars?, hHigh, hLow]

theorem exists_pieces_of_bodyText {body chars : List Char} (h : BodyText body chars) :
    ∃ pieces, PiecesText body pieces ∧ chars? pieces = some chars := by
  induction h with
  | nil => exact ⟨[], .nil, rfl⟩
  | @cons text body c chars hChar _ ih =>
    obtain ⟨pieces, hPieces, hChars⟩ := ih
    cases hChar with
    | plain hQuote hSlash hLow =>
      exact ⟨_, .cons (.plain hQuote hSlash hLow) hPieces, congrArg (Option.map (c :: ·)) hChars⟩
    | escaped hEscape =>
      exact ⟨_, .cons (.escaped hEscape) hPieces, congrArg (Option.map (c :: ·)) hChars⟩
    | unit hDigits =>
      obtain ⟨hHigh, hLow⟩ := not_half_of_toNat c
      refine ⟨_, .cons (.unit hDigits) hPieces, ?_⟩
      rw [chars?_unit hHigh hLow, hChars, Char.ofNat_toNat]
      rfl
    | @pair _ _ high low _ hDigits hDigits' hHigh hHigh' hLow hLow' hNumber =>
      refine ⟨.unit high :: .unit low :: pieces, ?_, ?_⟩
      · rw [List.append_assoc]
        exact .cons (.unit hDigits) (.cons (.unit hDigits') hPieces)
      · rw [chars?_pair (isHigh_iff.2 ⟨hHigh, hHigh'⟩) (isLow_iff.2 ⟨hLow, hLow'⟩), hChars,
          ← hNumber, Char.ofNat_toNat]
        rfl

theorem PieceText.charText {text : List Char} {c : Char} (h : PieceText text (.char c)) :
    CharText text c := by
  cases h with
  | plain hQuote hSlash hLow => exact .plain hQuote hSlash hLow
  | escaped hEscape => exact .escaped hEscape

theorem HexText.lt {digits : List Char} {n : ℕ} (h : HexText digits n) : n < 0x10000 := by
  cases h with
  | digits ha hb hc hd =>
    have := ha.lt
    have := hb.lt
    have := hc.lt
    have := hd.lt
    omega

theorem PieceText.charText_unit {text : List Char} {n : ℕ} (h : PieceText text (.unit n))
    (hHigh : ¬isHigh n = true) (hLow : ¬isLow n = true) : CharText text (Char.ofNat n) := by
  cases h with
  | unit hDigits =>
    have hLess := hDigits.lt
    rw [isHigh_iff] at hHigh
    rw [isLow_iff] at hLow
    refine .unit ?_
    rw [toNat_ofNat_of_valid (by omega)]
    exact hDigits

theorem charText_pair {text text' : List Char} {high low : ℕ} (h : PieceText text (.unit high))
    (h' : PieceText text' (.unit low)) (hHigh : isHigh high = true) (hLow : isLow low = true) :
    CharText (text ++ text')
      (Char.ofNat (0x10000 + (high - 0xD800) * 0x400 + (low - 0xDC00))) := by
  rw [isHigh_iff] at hHigh
  rw [isLow_iff] at hLow
  cases h with
  | unit hDigits =>
    cases h' with
    | unit hDigits' =>
      refine .pair hDigits hDigits' hHigh.1 hHigh.2 hLow.1 hLow.2 ?_
      exact toNat_ofNat_of_valid (by omega)

theorem bodyText_of_pieces {body : List Char} {pieces : List Piece} {chars : List Char}
    (h : PiecesText body pieces) (hChars : chars? pieces = some chars) : BodyText body chars := by
  fun_induction chars? pieces generalizing body chars with
  | case1 =>
    cases hChars
    cases h
    exact .nil
  | case2 c rest ih =>
    obtain ⟨more, hMore, rfl⟩ := Option.map_eq_some_iff.1 hChars
    cases h with
    | cons hPiece hRest => exact .cons hPiece.charText (ih hRest hMore)
  | case3 high low rest hHigh hLow ih =>
    obtain ⟨more, hMore, rfl⟩ := Option.map_eq_some_iff.1 hChars
    cases h with
    | cons hPiece hRest =>
      cases hRest with
      | cons hPiece' hRest =>
        rw [← List.append_assoc]
        exact .cons (charText_pair hPiece hPiece' hHigh hLow) (ih hRest hMore)
  | case4 high low rest hHigh hLow => cases hChars
  | case5 high low rest hHigh hLow => cases hChars
  | case6 high low rest hHigh hLow ih =>
    obtain ⟨more, hMore, rfl⟩ := Option.map_eq_some_iff.1 hChars
    cases h with
    | cons hPiece hRest => exact .cons (hPiece.charText_unit hHigh hLow) (ih hRest hMore)
  | case7 n rest _ hHalf => cases hChars
  | case8 n rest _ hHalf ih =>
    rw [Bool.or_eq_true, not_or] at hHalf
    obtain ⟨more, hMore, rfl⟩ := Option.map_eq_some_iff.1 hChars
    cases h with
    | cons hPiece hRest => exact .cons (hPiece.charText_unit hHalf.1 hHalf.2) (ih hRest hMore)

/-! ### Tokens -/

section Steps

variable (pieces : List Piece) (rest : List Char)

theorem tokens?_opening : tokens? none ('[' :: rest) = (tokens? none rest).map (.opening :: ·) :=
  rfl

theorem tokens?_closing : tokens? none (']' :: rest) = (tokens? none rest).map (.closing :: ·) :=
  rfl

theorem tokens?_comma : tokens? none (',' :: rest) = (tokens? none rest).map (.comma :: ·) := rfl

theorem tokens?_quote : tokens? none ('"' :: rest) = tokens? (some []) rest := rfl

theorem tokens?_endQuote : tokens? (some pieces) ('"' :: rest)
    = (chars? pieces.reverse).bind fun s =>
      (tokens? none rest).map (.string (String.ofList s) :: ·) := rfl

theorem tokens?_unit (a b c d : Char) :
    tokens? (some pieces) ('\\' :: 'u' :: a :: b :: c :: d :: rest)
      = (hexUnit? a b c d).bind fun n => tokens? (some (.unit n :: pieces)) rest := rfl

theorem tokens?_escape {e : Char} (h : e ≠ 'u') : tokens? (some pieces) ('\\' :: e :: rest)
    = (escaped? e).bind fun c => tokens? (some (.char c :: pieces)) rest := by
  rw [tokens?]
  · rfl
  · intro a b c d more hUnit
    exact absurd hUnit h

theorem tokens?_gap {gap : List Char} (h : Gap gap) :
    tokens? none (gap ++ rest) = tokens? none rest := by
  induction gap with
  | nil => rfl
  | cons c gap ih =>
    obtain ⟨hFirst, hGap⟩ := List.forall_mem_cons.1 h
    rw [List.cons_append, ← ih hGap]
    simp only [List.mem_cons, List.not_mem_nil, or_false] at hFirst
    rcases hFirst with rfl | rfl | rfl | rfl <;> rfl

theorem tokens?_piece {text : List Char} {piece : Piece} (h : PieceText text piece) :
    tokens? (some pieces) (text ++ rest) = tokens? (some (piece :: pieces)) rest := by
  cases h with
  | @plain c hQuote hSlash hLow =>
    rw [List.singleton_append, tokens?]
    · rw [if_neg hQuote, if_neg (by rw [not_or]; exact ⟨hSlash, by omega⟩)]
    · simp [hSlash]
    · simp [hSlash]
  | escaped hEscape =>
    have hLetter : ∀ p ∈ escapes, p.1 ≠ 'u' := by decide
    rw [List.cons_append, List.singleton_append, tokens?_escape _ _ (hLetter _ hEscape),
      escaped?_eq_some_iff.2 hEscape, Option.bind_some]
  | unit hDigits =>
    cases hDigits with
    | digits ha hb hc hd =>
      have hUnit := hexUnit?_eq_some_iff.2 (.digits ha hb hc hd)
      rw [List.cons_append, List.cons_append, List.cons_append, List.cons_append, List.cons_append,
        List.cons_append, List.nil_append, tokens?_unit, hUnit, Option.bind_some]

end Steps

theorem tokens?_pieces {body : List Char} {pieces : List Piece} (h : PiecesText body pieces)
    (before : List Piece) (rest : List Char) :
    tokens? (some before) (body ++ rest) = tokens? (some (pieces.reverse ++ before)) rest := by
  induction h generalizing before with
  | nil => rfl
  | cons hPiece _ ih =>
    rw [List.append_assoc, tokens?_piece _ _ hPiece, ih, List.reverse_cons, List.append_assoc,
      List.singleton_append]

theorem tokens?_of_written {text : List Char} {tokens : List Token} (h : Written text tokens) :
    tokens? none text = some tokens := by
  induction h with
  | @nil gap hGap =>
    have hEnd := tokens?_gap [] hGap
    rw [List.append_nil] at hEnd
    rw [hEnd]
    rfl
  | @cons gap text rest token tokens hGap hToken _ ih =>
    rw [List.append_assoc, tokens?_gap _ hGap]
    cases hToken with
    | opening => rw [List.singleton_append, tokens?_opening, ih, Option.map_some]
    | closing => rw [List.singleton_append, tokens?_closing, ih, Option.map_some]
    | comma => rw [List.singleton_append, tokens?_comma, ih, Option.map_some]
    | @string body s hBody =>
      obtain ⟨pieces, hPieces, hChars⟩ := exists_pieces_of_bodyText hBody
      rw [List.cons_append, List.cons_append, List.append_assoc, List.singleton_append,
        tokens?_quote, tokens?_pieces hPieces, tokens?_endQuote, List.append_nil,
        List.reverse_reverse, hChars, Option.bind_some, ih, Option.map_some, String.ofList_toList]

/-- What is still to be read, inside a string with the pieces that were read of it or outside. -/
def Left : Option (List Piece) → List Char → List Token → Prop
  | none, text, tokens => Written text tokens
  | some before, text, tokens => ∃ body pieces chars rest more,
      text = body ++ '"' :: rest ∧ PiecesText body pieces
      ∧ chars? (before.reverse ++ pieces) = some chars ∧ Written rest more
      ∧ tokens = .string (String.ofList chars) :: more

theorem gap_nil : Gap [] := fun _ hc => absurd hc List.not_mem_nil

theorem Written.gap {text : List Char} {tokens : List Token} (h : Written text tokens) {c : Char}
    (hc : isGap c = true) : Written (c :: text) tokens := by
  have hFirst : c ∈ [' ', '\t', '\n', '\r'] := by
    simpa [isGap, or_assoc] using hc
  cases h with
  | nil hGap => exact .nil (List.forall_mem_cons.2 ⟨hFirst, hGap⟩)
  | cons hGap hToken hRest => exact .cons (List.forall_mem_cons.2 ⟨hFirst, hGap⟩) hToken hRest

theorem Written.token {text rest : List Char} {token : Token} {tokens : List Token}
    (h : Written rest tokens) (hToken : TokenText text token) :
    Written (text ++ rest) (token :: tokens) :=
  .cons gap_nil hToken h

theorem Left.piece {before : List Piece} {text rest : List Char} {piece : Piece}
    {tokens : List Token} (h : Left (some (piece :: before)) rest tokens)
    (hPiece : PieceText text piece) : Left (some before) (text ++ rest) tokens := by
  obtain ⟨body, pieces, chars, rest, more, rfl, hPieces, hChars, hMore, rfl⟩ := h
  refine ⟨text ++ body, piece :: pieces, chars, rest, more, ?_, .cons hPiece hPieces, ?_, hMore,
    rfl⟩
  · rw [List.append_assoc]
  · rw [← hChars, List.reverse_cons, List.append_assoc, List.singleton_append]

theorem left_of_tokens? {inside : Option (List Piece)} {text : List Char} {tokens : List Token}
    (h : tokens? inside text = some tokens) : Left inside text tokens := by
  fun_induction tokens? inside text generalizing tokens with
  | case1 =>
    cases h
    exact .nil gap_nil
  | case2 => cases h
  | case3 c rest hGap ih => exact (ih h).gap hGap
  | case4 rest _ ih =>
    obtain ⟨more, hMore, rfl⟩ := Option.map_eq_some_iff.1 h
    exact (ih hMore).token .opening
  | case5 rest _ _ ih =>
    obtain ⟨more, hMore, rfl⟩ := Option.map_eq_some_iff.1 h
    exact (ih hMore).token .closing
  | case6 rest _ _ _ ih =>
    obtain ⟨more, hMore, rfl⟩ := Option.map_eq_some_iff.1 h
    exact (ih hMore).token .comma
  | case7 rest _ _ _ _ ih =>
    obtain ⟨body, pieces, chars, rest, more, rfl, hPieces, hChars, hMore, rfl⟩ := ih h
    have hBody := bodyText_of_pieces hPieces hChars
    rw [← String.toList_ofList (l := chars)] at hBody
    have hText := hMore.token (.string hBody)
    rwa [List.cons_append, List.cons_append, List.append_assoc, List.singleton_append] at hText
  | case8 => cases h
  | case9 before a b c d rest ih =>
    obtain ⟨n, hUnit, h⟩ := Option.bind_eq_some_iff.1 h
    exact (ih n h).piece (.unit (hexUnit?_eq_some_iff.1 hUnit))
  | case10 before e rest _ ih =>
    obtain ⟨c, hEscape, h⟩ := Option.bind_eq_some_iff.1 h
    exact (ih c h).piece (.escaped (escaped?_eq_some_iff.1 hEscape))
  | case11 before rest _ _ ih =>
    obtain ⟨chars, hChars, h⟩ := Option.bind_eq_some_iff.1 h
    obtain ⟨more, hMore, rfl⟩ := Option.map_eq_some_iff.1 h
    exact ⟨[], [], chars, rest, more, rfl, .nil, by rw [List.append_nil]; exact hChars, ih hMore,
      rfl⟩
  | case12 => cases h
  | case13 before c rest _ _ hQuote hPlain ih =>
    rw [not_or] at hPlain
    exact (ih h).piece (.plain hQuote hPlain.1 (by omega))

/-- **Cutting a text into tokens is the inverse of writing them.** -/
theorem tokens?_eq_some_iff {text : List Char} {tokens : List Token} :
    tokens? none text = some tokens ↔ Written text tokens :=
  ⟨left_of_tokens?, tokens?_of_written⟩

/-! ### Lists -/

theorem items?_eq_some_iff {tokens : List Token} {names : List String} :
    items? tokens = some names ↔
      names ≠ [] ∧ tokens = (names.map Token.string).intersperse .comma ++ [.closing] := by
  constructor
  · intro h
    fun_induction items? tokens generalizing names with
    | case1 s =>
      cases h
      exact ⟨by simp, rfl⟩
    | case2 s rest ih =>
      obtain ⟨more, hMore, rfl⟩ := Option.map_eq_some_iff.1 h
      obtain ⟨hSome, rfl⟩ := ih hMore
      obtain ⟨next, more, rfl⟩ := List.exists_cons_of_ne_nil hSome
      exact ⟨by simp, rfl⟩
    | case3 => cases h
  · rintro ⟨hSome, rfl⟩
    induction names with
    | nil => exact absurd rfl hSome
    | cons name names ih =>
      cases names with
      | nil => rfl
      | cons next names =>
        show (items? (((next :: names).map Token.string).intersperse .comma ++ [.closing])).map
          (name :: ·) = _
        rw [ih (by simp), Option.map_some]

theorem ofTokens?_eq_some_iff {tokens : List Token} {names : List String} :
    ofTokens? tokens = some names ↔ tokens = tokensOf names := by
  constructor
  · intro h
    rw [ofTokens?.eq_def] at h
    split at h
    · cases h
      rfl
    · obtain ⟨-, rfl⟩ := items?_eq_some_iff.1 h
      rfl
    · cases h
  · rintro rfl
    cases names with
    | nil => rfl
    | cons name names =>
      -- the first string keeps what follows the bracket from being a closing one
      have hItems := items?_eq_some_iff.2 ⟨List.cons_ne_nil name names, rfl⟩
      cases names <;> exact hItems

/-- **A text is read as a list if and only if it is a text of that list.** -/
theorem read?_eq_some_iff {text : List Char} {names : List String} :
    read? text = some names ↔ Encodes text names := by
  rw [read?, Option.bind_eq_bind, Option.bind_eq_some_iff]
  simp only [tokens?_eq_some_iff, ofTokens?_eq_some_iff, exists_eq_right]
  rfl

end ResolverScaffold.StringList

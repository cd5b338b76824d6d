/-!
# Readers of lists

A `ListReader σ α` takes a value off the front of a list or refuses it.  Choice
is ordered: `p <|> q` reads with `q` what `p` refuses, from the same place.
`many` takes as many items as it can and never gives one back; `readWhile` goes
on as long as a condition holds and refuses if an item is refused.
-/

namespace ResolverScaffold

/-- Takes a value off the front of a list. -/
abbrev ListReader (σ : Type) := StateT (List σ) Option

namespace ListReader

variable {σ α : Type}

/-- What `p` reads, or nothing. -/
def optional? (p : ListReader σ α) : ListReader σ (Option α) := fun items =>
  match p items with
  | some (a, rest) => some (some a, rest)
  | none => some (none, items)

def tryRead (p : ListReader σ α) : ListReader σ Bool := do return (← optional? p).isSome

/-- Succeeds without reading where `p` refuses. -/
def refuses (p : ListReader σ α) : ListReader σ Unit := fun items =>
  match p items with
  | some _ => none
  | none => some ((), items)

/-- As many items as there are; an item that reads nothing ends the repetition. -/
def repeated (p : ListReader σ α) (items : List σ) : List α × List σ :=
  match p items with
  | none => ([], items)
  | some (a, rest) =>
    if rest.length < items.length then
      let (more, last) := repeated p rest
      (a :: more, last)
    else ([], items)
termination_by items.length

/-- As many items as there are. -/
def many (p : ListReader σ α) : ListReader σ (List α) := fun items => some (repeated p items)

def many1 (p : ListReader σ α) : ListReader σ (List α) := do
  let first ← p
  let more ← many p
  return first :: more

/-- Items as long as `go` holds of what is left; each has to be there and to read something. -/
def readWhile (go : List σ → Bool) (p : ListReader σ α) : ListReader σ (List α) := fun items =>
  if go items then
    match p items with
    | none => none
    | some (a, rest) =>
      if rest.length < items.length then
        match readWhile go p rest with
        | none => none
        | some (more, last) => some (a :: more, last)
      else none
  else some ([], items)
termination_by items => items.length

/-- How much is left, as a bound on how deep it can nest. -/
def depth : ListReader σ Nat := do return (← get).length

/-- Succeeds at the end of the list. -/
def atEnd : ListReader σ Unit := fun items => if items.isEmpty then some ((), items) else none

/-- Whether something is left. -/
def more : ListReader σ Bool := do return !(← get).isEmpty

/-- Whether a condition holds of what is left. -/
def sees (p : List σ → Bool) : ListReader σ Bool := do return p (← get)

/-- Pass over an item. -/
def skip : ListReader σ Unit := fun items =>
  match items with
  | [] => none
  | _ :: rest => some ((), rest)

end ListReader

end ResolverScaffold

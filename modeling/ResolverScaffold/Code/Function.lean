import ResolverScaffold.Code.Item
import ResolverScaffold.Resolver.Recovery

/-!
# Functions of a source

Where the functions of a Rust source stand.  A function comes with the comment
lines directly above it.
-/

namespace ResolverScaffold.Code

/-- What follows a byte order mark at the start of a text, and how many bytes it takes. -/
def withoutMark (text : List Char) : Nat × List Char :=
  match text with
  | [] => (0, [])
  | c :: rest => if c = orderMark then (c.utf8Size, rest) else (0, c :: rest)

def Place.offset? (text : List Char) (place : Place) : Option Nat :=
  Text.offset? text place.line place.column

/-- The function of an item, in a text that stands so many bytes after the start of its
file. -/
def function? (path : String) (base : Nat) (text : List Char) : Item → Option (Option FunctionDecl)
  | .function name start opened closed stop => do
    let start ← start.offset? text
    let first ← Text.leadingCommentsStart? text start
    let stop ← stop.offset? text
    let opened ← opened.offset? text
    let closed ← closed.offset? text
    return some
      { name
        declaration := .within path (base + first) (base + stop)
        body := .within path (base + opened) (base + closed) }
  | _ => some none

/-- The functions of a text, if it is a Rust source. -/
def functions? (path : String) (text : List Char) : Option (List FunctionDecl) := do
  let (base, rest) := withoutMark text
  let found ← (← Item.readAll? rest).mapM (function? path base rest)
  return found.filterMap id

/-- Lists the functions of Rust sources. -/
def functions : Enumerator := fun path text =>
  match functions? path text.toList with
  | some found => .ok found
  | none => .error (.malformed path)

end ResolverScaffold.Code

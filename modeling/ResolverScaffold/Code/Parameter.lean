import ResolverScaffold.Code.Expression

/-!
# Parameters of functions

A function has patterns with their types.  The first may be the value that a
method is called on, and dots at the end stand for more of them.
-/

namespace ResolverScaffold.Code

open ListReader

/-- The value that a method is called on.  A path that starts with `self` is none. -/
def receiver : Grammar Unit := do
  let byRef ← mark? "&"
  if byRef && (← sees seesLifetime) then skip
  let _ ← keyword? "mut"
  keyword "self"
  if ← sees (seesMark "::") then failure
  if !byRef && (← mark? ":") then source.anyType

/-- A parameter.  Only the first can be the value that a method is called on. -/
def parameter (isFirst : Bool) : Grammar Unit := do
  source.outerAttributes
  if ← mark? "..." then endOfParameters
  else if ← tryRead receiver then
    if !isFirst then failure
  else if ← sees fun nodes => seesName nodes && seesMark "<" (nodes.drop 1) then source.anyType
  else
    source.anyPattern
    mark ":"
    if ← mark? "..." then endOfParameters else source.anyType

def parameters : Grammar Unit := do
  if ← more then
    parameter true
    let _ ← readWhile (fun nodes => !nodes.isEmpty) do
      mark ","
      if ← more then parameter false

end ResolverScaffold.Code

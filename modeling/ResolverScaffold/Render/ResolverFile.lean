import ResolverScaffold.Render.Stub
import ResolverScaffold.Settings

/-!
# Resolver files

The file of a kind of resolvers: its stubs, and after them as comments the
recovered declarations that the tree no longer asks for.
-/

namespace ResolverScaffold

/-- A stub as it stands in a file. -/
structure StubText where
  docs : List String
  code : String
  deriving DecidableEq, Repr

/-- The content of a resolver file. -/
structure ResolverFile where
  execModule : String
  stubs : List StubText
  /-- The retained blocks. -/
  blocks : List String
  deriving DecidableEq, Repr

namespace ResolverFile

def ofKind (settings : Settings) (tree : Tree) (stubs : List Stub) (recovered : Recovered)
    (kind : ResolverKind) : ResolverFile :=
  { execModule := settings.execFileModule
    stubs := (stubs.filter (·.kind == kind)).map fun s => ⟨s.docs, s.code recovered⟩
    blocks := (recovered.deprecated.entries.filter fun e =>
      (Signature.classify e.1 tree).kind == kind).map fun e => RetainedBlock.render e.1 e.2 }

def headLines (execModule : String) : List String :=
  ["// Code generated by lambdagen.",
   "// Function bodies are kept when regenerating; signatures and doc comments are not.",
   "#![allow(non_snake_case, unused_imports, unused_variables)]",
   "",
   "use " ++ execModule ++ "::\x7bAuthHeader, Event, LambdaError, MiddlewareData\x7d;"]

def stubLines (s : StubText) : List String := "" :: s.docs ++ [s.code]

def lines (file : ResolverFile) : List String :=
  headLines file.execModule ++ file.stubs.flatMap stubLines
    ++ file.blocks.flatMap fun block => ["", block]

def render (file : ResolverFile) : String := Text.ofLines file.lines

end ResolverFile

end ResolverScaffold

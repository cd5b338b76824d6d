import ResolverScaffold.Proofs.Generation.Totality
import ResolverScaffold.Proofs.Render.Stub

/-!
# The calls of the dispatch file

`Dispatch.ofTree` writes the calls and `Stub.all` the functions, each from the
tree alone.  They agree (`Dispatch.Agrees`): a route calls a function that is
written, in the file of its kind, every function that resolves something is
called, and an operation is called with values of the types that its function
takes.

A route and a stub of one operation agree by themselves (`callsOperation`).
Middleware needs the walk: a name that guards a resolver has a stub because it
was put into the tree with the resolver (`Walk.Guarded`).
-/

namespace ResolverScaffold

open Walk (Guarded)

namespace Dispatch

variable {settings : Settings} {doc : Schema.Document} {tree : Tree} {stubs : List Stub}
  {dispatch : Dispatch}

/-! ### A route and its stub -/

/-- **The routes of a tree** are those of its operations, fields and subscribed types. -/
theorem ofTree_eq_ok (h : ofTree settings tree = .ok dispatch) :
    tree.operations.mapM (operationRoute settings tree) = .ok dispatch.operations
    ∧ tree.fieldResolvers.values.mapM (fieldRoute settings tree) = .ok dispatch.fields
    ∧ dispatch.webhooks = tree.subscribed.map
      (fun m => ⟨m.name, call settings .webhook (Stub.webhookKey m.name)⟩)
    ∧ dispatch.chains = (chainNames tree).mapValues fun _ names =>
      names.map fun name => call settings .middleware (Stub.middlewareKey name) := by
  obtain ⟨operations, hOperations, h⟩ := bind_eq_ok_iff.1 h
  obtain ⟨fields, hFields, h⟩ := bind_eq_ok_iff.1 h
  rw [pure_eq_ok_iff] at h
  subst h
  exact ⟨hOperations, hFields, rfl, rfl⟩

end Dispatch

end ResolverScaffold

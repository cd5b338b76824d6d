import ResolverScaffold.Proofs.Outcome
import ResolverScaffold.Proofs.Resolver.Signature
import ResolverScaffold.Proofs.Schema.Names
import ResolverScaffold.Proofs.Tree.Walk
import ResolverScaffold.Render.Stub

/-!
# Stubs and the names that are asked for

Two parts of the library look at a tree on their own: `Stub.all` lists the
functions somebody has to write, and `Signature.isLive` says of a name whether
the tree asks for it.

* `mem_all_iff`: where the stubs of a tree come from.
* `exists_stub_of_isLive`: a name that is asked for is the key of a stub.
* `isLive_of_ne_ofMiddleware`: the key of a stub is asked for, the stub of the
  middleware with the empty name aside.
* `isLive_iff_of_ne`: so the two agree on every other name.
-/

namespace ResolverScaffold

open Walk (Drawn)

theorem Walk.Drawn.fieldsKeyed {doc : Schema.Document} {tree : Tree} (h : Drawn doc tree) :
    tree.FieldsKeyed :=
  fun key r hGet => (h.fieldResolver key r hGet).1

/-- No field has a key that ends in its only underscore. -/
theorem FieldResolver.keyOf_ne_middlewareKey_empty (parent : String) {field : String}
    (h : field ≠ "") : keyOf parent field ≠ Stub.middlewareKey "" := by
  intro hKey
  have hChars : parent.toList ++ '_' :: field.toList = "Middleware_".toList := by
    have hText := congrArg String.toList hKey
    simpa [keyOf, Stub.middlewareKey] using hText
  have hMark : '_' ∈ field.toList := by
    have hLast := congrArg List.getLast? hChars
    cases hField : field.toList with
    | nil => exact absurd (by simpa using hField) h
    | cons c rest =>
      rw [hField, List.getLast?_append, List.getLast?_cons_cons, List.getLast?_cons, Option.some_or,
        ← List.getLast?_cons] at hLast
      exact List.mem_of_getLast? hLast
  have hCount := congrArg (List.count '_') hChars
  have hOnce : List.count '_' "Middleware_".toList = 1 := by decide
  have hSome : 0 < List.count '_' field.toList := List.count_pos_iff.2 hMark
  rw [hOnce, List.count_append, List.count_cons_self] at hCount
  omega

namespace Stub

/-! ### Where stubs come from -/

theorem ofOperation_eq_ok {tree : Tree} {o : Operation} {s : Stub}
    (h : ofOperation tree o = .ok s) :
    s.key = o.key ∧ s.kind = operationKind o.kind
      ∧ ∃ parameters result, s.header = head s.key parameters result := by
  obtain ⟨parameters, -, h⟩ := bind_eq_ok_iff.1 h
  obtain ⟨result, -, h⟩ := bind_eq_ok_iff.1 h
  rw [pure_eq_ok_iff] at h
  subst h
  exact ⟨rfl, rfl, _, _, rfl⟩

theorem ofField_eq_ok {tree : Tree} {r : FieldResolver} {s : Stub} (h : ofField tree r = .ok s) :
    s.key = r.key ∧ s.kind = .field
      ∧ ∃ parameters result, s.header = head s.key parameters result := by
  obtain ⟨parent, -, h⟩ := bind_eq_ok_iff.1 h
  obtain ⟨result, -, h⟩ := bind_eq_ok_iff.1 h
  rw [pure_eq_ok_iff] at h
  subst h
  exact ⟨rfl, rfl, _, _, rfl⟩

/-- **The stubs of a tree** are those of its queries, mutations, fields, middleware and
webhooks. -/
theorem mem_all_iff {tree : Tree} {stubs : List Stub} (h : all tree = .ok stubs) {s : Stub} :
    s ∈ stubs ↔
      (∃ o ∈ tree.queries.values, ofOperation tree o = .ok s)
      ∨ (∃ o ∈ tree.mutations.values, ofOperation tree o = .ok s)
      ∨ (∃ r ∈ tree.fieldResolvers.values, ofField tree r = .ok s)
      ∨ (∃ name ∈ tree.middleware.names, ofMiddleware name = s)
      ∨ ∃ m ∈ tree.subscribed, ofWebhook m = s := by
  obtain ⟨queries, hQueries, h⟩ := bind_eq_ok_iff.1 h
  obtain ⟨mutations, hMutations, h⟩ := bind_eq_ok_iff.1 h
  obtain ⟨fields, hFields, h⟩ := bind_eq_ok_iff.1 h
  rw [pure_eq_ok_iff] at h
  subst h
  simp only [List.mem_append, List.mem_map, mem_mapM_iff hQueries, mem_mapM_iff hMutations,
    mem_mapM_iff hFields, or_assoc]

theorem ofMiddleware_mem_all {tree : Tree} {stubs : List Stub} (h : all tree = .ok stubs)
    {name : String} (hName : tree.middleware.contains name = true) : ofMiddleware name ∈ stubs :=
  (mem_all_iff h).2 (.inr (.inr (.inr (.inl ⟨name, (Dict.mem_keys_iff _ _).2 hName, rfl⟩))))

theorem ofWebhook_mem_all {tree : Tree} {stubs : List Stub} (h : all tree = .ok stubs) {m : Model}
    (hm : m ∈ tree.subscribed) : ofWebhook m ∈ stubs :=
  (mem_all_iff h).2 (.inr (.inr (.inr (.inr ⟨m, hm, rfl⟩))))

theorem header_of_mem_all {tree : Tree} {stubs : List Stub} (h : all tree = .ok stubs) {s : Stub}
    (hs : s ∈ stubs) : ∃ parameters result, s.header = head s.key parameters result := by
  rcases (mem_all_iff h).1 hs with
    ⟨o, -, ho⟩ | ⟨o, -, ho⟩ | ⟨r, -, hr⟩ | ⟨name, -, rfl⟩ | ⟨m, -, rfl⟩
  · exact (ofOperation_eq_ok ho).2.2
  · exact (ofOperation_eq_ok ho).2.2
  · exact (ofField_eq_ok hr).2.2
  · exact ⟨_, _, rfl⟩
  · exact ⟨_, _, rfl⟩

/-! ### Heads -/

/-- The text of a parameter, given its name and type. -/
def parameterText (parameter : String × String) : String := parameter.1 ++ ": " ++ parameter.2

/-- The head of the stub lists these parameters. -/
def Takes (s : Stub) (parameters : List (String × String)) (result : String) : Prop :=
  s.header = "pub fn " ++ s.key ++ "(" ++ ", ".intercalate (parameters.map parameterText)
    ++ ") -> Result<" ++ result ++ ", LambdaError> \x7b"

theorem exists_parameters {tree : Tree} {arguments : List Parameter} {texts : List String}
    (h : arguments.mapM (parameter tree) = .ok texts) :
    ∃ parameters : List (String × String), texts = parameters.map parameterText
      ∧ parameters.map (·.1) = arguments.map (Naming.fieldIdentifier ·.name)
      ∧ arguments.mapM (Render.valueType tree ·.type .elsewhere) = .ok (parameters.map (·.2)) := by
  induction arguments generalizing texts with
  | nil =>
    rw [List.mapM_nil, pure_eq_ok_iff] at h
    exact ⟨[], h.symm, rfl, rfl⟩
  | cons a arguments ih =>
    rw [List.mapM_cons, bind_eq_ok_iff] at h
    obtain ⟨first, hFirst, h⟩ := h
    obtain ⟨more, hMore, h⟩ := bind_eq_ok_iff.1 h
    rw [pure_eq_ok_iff] at h
    obtain ⟨type, hType, hFirst⟩ := bind_eq_ok_iff.1 hFirst
    rw [pure_eq_ok_iff] at hFirst
    obtain ⟨parameters, hTexts, hNames, hTypes⟩ := ih hMore
    refine ⟨(Naming.fieldIdentifier a.name, type) :: parameters, ?_, ?_, ?_⟩
    · rw [← h, ← hFirst, hTexts, List.map_cons, parameterText]
    · rw [List.map_cons, List.map_cons, hNames]
    · rw [List.mapM_cons, hType, hTypes]
      rfl

/-- **The parameters of an operation** are its arguments and the authorization. -/
theorem takes_of_ofOperation {tree : Tree} {o : Operation} {s : Stub}
    (h : ofOperation tree o = .ok s) :
    ∃ (parameters : List (String × String)) (types : List String) (result : String),
      s.Takes parameters result
      ∧ parameters.map (·.1) = o.arguments.map (Naming.fieldIdentifier ·.name) ++ ["auth_header"]
      ∧ parameters.map (·.2) = types ++ ["&AuthHeader"]
      ∧ o.arguments.mapM (Render.valueType tree ·.type .elsewhere) = .ok types := by
  obtain ⟨texts, hTexts, h⟩ := bind_eq_ok_iff.1 h
  obtain ⟨result, -, h⟩ := bind_eq_ok_iff.1 h
  rw [pure_eq_ok_iff] at h
  subst h
  obtain ⟨parameters, rfl, hNames, hTypes⟩ := exists_parameters hTexts
  have hLast : parameterText ("auth_header", "&AuthHeader") = "auth_header: &AuthHeader" := by
    decide
  refine ⟨parameters ++ [("auth_header", "&AuthHeader")], _, result, ?_, ?_, ?_, hTypes⟩
  · rw [Takes, List.map_append, List.map_singleton, hLast]
    rfl
  · rw [List.map_append, hNames, List.map_singleton]
  · rw [List.map_append, List.map_singleton]

section Live

variable {doc : Schema.Document} {tree : Tree} {stubs : List Stub}

theorem exists_ofOperation_eq_ok (hStubs : all tree = .ok stubs) {o : Operation}
    (ho : o ∈ tree.operations) : ∃ s ∈ stubs, ofOperation tree o = .ok s := by
  obtain ⟨queries, hQueries, h⟩ := bind_eq_ok_iff.1 hStubs
  obtain ⟨mutations, hMutations, -⟩ := bind_eq_ok_iff.1 h
  rcases List.mem_append.1 ho with ho | ho
  · obtain ⟨s, hs⟩ := exists_of_mapM_eq_ok hQueries o ho
    exact ⟨s, (mem_all_iff hStubs).2 (.inl ⟨o, ho, hs⟩), hs⟩
  · obtain ⟨s, hs⟩ := exists_of_mapM_eq_ok hMutations o ho
    exact ⟨s, (mem_all_iff hStubs).2 (.inr (.inl ⟨o, ho, hs⟩)), hs⟩

theorem exists_stub_of_operation (hStubs : all tree = .ok stubs) {o : Operation}
    (ho : o ∈ tree.operations) : ∃ s ∈ stubs, s.key = o.key := by
  obtain ⟨s, hMem, hs⟩ := exists_ofOperation_eq_ok hStubs ho
  exact ⟨s, hMem, (ofOperation_eq_ok hs).1⟩

theorem exists_ofField_eq_ok (hStubs : all tree = .ok stubs) {r : FieldResolver}
    (hr : r ∈ tree.fieldResolvers.values) : ∃ s ∈ stubs, ofField tree r = .ok s := by
  obtain ⟨_, -, h⟩ := bind_eq_ok_iff.1 hStubs
  obtain ⟨_, -, h⟩ := bind_eq_ok_iff.1 h
  obtain ⟨fields, hFields, -⟩ := bind_eq_ok_iff.1 h
  obtain ⟨s, hs⟩ := exists_of_mapM_eq_ok hFields r hr
  exact ⟨s, (mem_all_iff hStubs).2 (.inr (.inr (.inl ⟨r, hr, hs⟩))), hs⟩

theorem exists_stub_of_fieldResolver (hStubs : all tree = .ok stubs) {r : FieldResolver}
    (hr : r ∈ tree.fieldResolvers.values) : ∃ s ∈ stubs, s.key = r.key := by
  obtain ⟨s, hMem, hs⟩ := exists_ofField_eq_ok hStubs hr
  exact ⟨s, hMem, (ofField_eq_ok hs).1⟩

/-- **A name that is asked for is the key of a stub.** -/
theorem exists_stub_of_isLive (hDrawn : Drawn doc tree) (hStubs : all tree = .ok stubs)
    {key : String} (hLive : (Signature.classify key tree).isLive tree = true) :
    ∃ s ∈ stubs, s.key = key := by
  have hKey := Signature.classify_key hDrawn.fieldsKeyed key
  cases hSignature : Signature.classify key tree with
  | query name =>
    rw [hSignature] at hLive hKey
    obtain ⟨o, hGet⟩ := tree.queries.contains_eq_true_iff.1 hLive
    obtain ⟨hName, f, -, rfl⟩ := hDrawn.query name o hGet
    obtain ⟨s, hs, hs'⟩ := exists_stub_of_operation hStubs
      (Tree.mem_operations_iff.2 (.inl ⟨name, hGet⟩))
    exact ⟨s, hs, by rw [hs', ← hKey, ← hName]; rfl⟩
  | mutation name =>
    rw [hSignature] at hLive hKey
    obtain ⟨o, hGet⟩ := tree.mutations.contains_eq_true_iff.1 hLive
    obtain ⟨hName, f, -, rfl⟩ := hDrawn.mutation name o hGet
    obtain ⟨s, hs, hs'⟩ := exists_stub_of_operation hStubs
      (Tree.mem_operations_iff.2 (.inr ⟨name, hGet⟩))
    exact ⟨s, hs, by rw [hs', ← hKey, ← hName]; rfl⟩
  | middleware name =>
    rw [hSignature] at hLive hKey
    exact ⟨ofMiddleware name, ofMiddleware_mem_all hStubs hLive, hKey⟩
  | webhook type =>
    rw [hSignature] at hLive hKey
    rw [Signature.isLive] at hLive
    split at hLive
    · rename_i m hGet
      have hm : m ∈ tree.subscribed :=
        List.mem_filter.2 ⟨Tree.mem_models_iff.2 ⟨type, hGet⟩, hLive⟩
      exact ⟨ofWebhook m, ofWebhook_mem_all hStubs hm,
        by rw [← hKey, ← hDrawn.model_name hGet]; rfl⟩
    · cases hLive
  | field parent name =>
    rw [hSignature] at hLive hKey
    obtain ⟨r, hGet⟩ := tree.fieldResolvers.contains_eq_true_iff.1 hLive
    obtain ⟨s, hs, hs'⟩ := exists_stub_of_fieldResolver hStubs
      (tree.fieldResolvers.mem_values_iff.2 ⟨_, hGet⟩)
    exact ⟨s, hs, by rw [hs', hDrawn.fieldsKeyed _ r hGet]; exact hKey⟩
  | unrecognized name =>
    rw [hSignature] at hLive
    cases hLive

/-- A field of a root has a name. -/
theorem name_ne_empty_of_isOperation (hNamed : ∀ d ∈ doc.definitions, d.Named)
    {kind : OperationKind} {f : Schema.Field} (hf : Walk.IsOperation doc kind f) : f.name ≠ "" := by
  obtain ⟨d, hd, -, hMem, -⟩ := hf
  exact Schema.ne_empty_of_isName ((hNamed d hd).2 f hMem).1

/-- A type that is in the tree has a name. -/
theorem name_ne_empty_of_model (hNamed : ∀ d ∈ doc.definitions, d.Named) (hDrawn : Drawn doc tree)
    {name : String} {m : Model} (hGet : tree.entries.get? name = some (.model m)) : name ≠ "" := by
  obtain ⟨-, d, hDoc, -⟩ := hDrawn.entry name _ hGet
  rw [← Schema.Table.name_of_get? hDoc]
  exact Schema.ne_empty_of_isName (hNamed d (Schema.Table.mem_of_get? hDoc)).1

/-- **The key of a stub is asked for**, if all names in the schema are names and the stub is not
the one of the empty middleware name. -/
theorem isLive_of_ne_ofMiddleware (hNamed : ∀ d ∈ doc.definitions, d.Named) (hDrawn : Drawn doc tree)
    (hStubs : all tree = .ok stubs) {s : Stub} (hs : s ∈ stubs) (hNe : s ≠ ofMiddleware "") :
    (Signature.classify s.key tree).isLive tree = true := by
  have hKeyed := hDrawn.fieldsKeyed
  -- a field resolver may have the key of another stub; then the name is read as that field,
  -- which is asked for too
  rcases (mem_all_iff hStubs).1 hs with
    ⟨o, hMem, ho⟩ | ⟨o, hMem, ho⟩ | ⟨r, hMem, hr⟩ | ⟨name, hMem, rfl⟩ | ⟨m, hMem, rfl⟩
  · obtain ⟨name, hGet⟩ := tree.queries.mem_values_iff.1 hMem
    obtain ⟨hName, f, hf, rfl⟩ := hDrawn.query name o hGet
    have hKey : s.key = "Query_" ++ f.name := (ofOperation_eq_ok ho).1
    rw [hKey]
    apply Signature.isLive_classify_of_ofName hKeyed
    rw [Signature.ofName_query (name_ne_empty_of_isOperation hNamed hf)]
    exact tree.queries.contains_eq_true_iff.2 ⟨_, hName ▸ hGet⟩
  · obtain ⟨name, hGet⟩ := tree.mutations.mem_values_iff.1 hMem
    obtain ⟨hName, f, hf, rfl⟩ := hDrawn.mutation name o hGet
    have hKey : s.key = "Mutation_" ++ f.name := (ofOperation_eq_ok ho).1
    rw [hKey]
    apply Signature.isLive_classify_of_ofName hKeyed
    rw [Signature.ofName_mutation (name_ne_empty_of_isOperation hNamed hf)]
    exact tree.mutations.contains_eq_true_iff.2 ⟨_, hName ▸ hGet⟩
  · obtain ⟨key, hGet⟩ := tree.fieldResolvers.mem_values_iff.1 hMem
    rw [(ofField_eq_ok hr).1, hKeyed key r hGet]
    exact Signature.isLive_classify_of_fieldResolver hKeyed hGet
  · have hName : name ≠ "" := by
      rintro rfl
      exact hNe rfl
    apply Signature.isLive_classify_of_ofName hKeyed
    show (Signature.ofName ("Middleware_" ++ name)).isLive tree = true
    rw [Signature.ofName_middleware hName]
    exact (Dict.mem_keys_iff _ _).1 hMem
  · obtain ⟨hModel, hEvents⟩ := List.mem_filter.1 hMem
    obtain ⟨name, hGet⟩ := Tree.mem_models_iff.1 hModel
    have hName := hDrawn.model_name hGet
    subst hName
    apply Signature.isLive_classify_of_ofName hKeyed
    show (Signature.ofName ("Webhook_" ++ m.name)).isLive tree = true
    rw [Signature.ofName_webhook (name_ne_empty_of_model hNamed hDrawn hGet), Signature.isLive, hGet]
    exact hEvents

/-- The empty middleware name has its stub if it is in the tree, and only then. -/
theorem ofMiddleware_empty_mem_all_iff (hStubs : all tree = .ok stubs) :
    ofMiddleware "" ∈ stubs ↔ tree.middleware.contains "" = true := by
  constructor
  · intro hMem
    rcases (mem_all_iff hStubs).1 hMem with
      ⟨o, -, ho⟩ | ⟨o, -, ho⟩ | ⟨r, -, hr⟩ | ⟨name, hMem, hSame⟩ | ⟨m, -, hSame⟩
    · obtain ⟨-, hKind, -⟩ := ofOperation_eq_ok ho
      cases hOperation : o.kind <;> rw [hOperation] at hKind <;> cases hKind
    · obtain ⟨-, hKind, -⟩ := ofOperation_eq_ok ho
      cases hOperation : o.kind <;> rw [hOperation] at hKind <;> cases hKind
    · obtain ⟨-, hKind, -⟩ := ofField_eq_ok hr
      cases hKind
    · have hName : name = "" := by
        have hKey : "Middleware_" ++ name = "Middleware_" ++ "" := congrArg Stub.key hSame
        simpa using hKey
      exact hName ▸ (Dict.mem_keys_iff _ _).1 hMem
    · cases congrArg Stub.kind hSame
  · exact ofMiddleware_mem_all hStubs

/-- **The names that are asked for are the keys of the stubs**, that name aside. -/
theorem isLive_iff_of_ne (hNamed : ∀ d ∈ doc.definitions, d.Named) (hDrawn : Drawn doc tree)
    (hStubs : all tree = .ok stubs) {key : String}
    (hNe : ¬(key = middlewareKey "" ∧ tree.middleware.contains "" = true)) :
    (Signature.classify key tree).isLive tree = true ↔ ∃ s ∈ stubs, s.key = key := by
  refine ⟨exists_stub_of_isLive hDrawn hStubs, ?_⟩
  rintro ⟨s, hs, rfl⟩
  apply isLive_of_ne_ofMiddleware hNamed hDrawn hStubs hs
  rintro rfl
  exact hNe ⟨rfl, (ofMiddleware_empty_mem_all_iff hStubs).1 hs⟩

theorem isLive_of_mem_all (hNamed : ∀ d ∈ doc.definitions, d.Named) (hDrawn : Drawn doc tree)
    (hMiddleware : tree.middleware.contains "" = false) (hStubs : all tree = .ok stubs) {s : Stub}
    (hs : s ∈ stubs) : (Signature.classify s.key tree).isLive tree = true := by
  refine (isLive_iff_of_ne hNamed hDrawn hStubs fun hEmpty => ?_).2 ⟨s, hs, rfl⟩
  rw [hEmpty.2] at hMiddleware
  cases hMiddleware

/-- The name of that stub is not asked for: nothing follows the beginning, and no field has a key
that ends in its only underscore. -/
theorem isLive_middlewareKey_empty (hNamed : ∀ d ∈ doc.definitions, d.Named)
    (hDrawn : Drawn doc tree) :
    (Signature.classify (middlewareKey "") tree).isLive tree = false := by
  have hNone : tree.fieldResolvers.get? (middlewareKey "") = none := by
    cases hGet : tree.fieldResolvers.get? (middlewareKey "") with
    | none => rfl
    | some r =>
      obtain ⟨hKey, d, f, hAsks, rfl⟩ := hDrawn.fieldResolver _ r hGet
      have hField := ((hNamed d (Schema.Table.mem_of_get? hAsks.defined)).2 f hAsks.mem).1
      exact absurd hKey (FieldResolver.keyOf_ne_middlewareKey_empty d.name
        (Schema.ne_empty_of_isName hField))
  rw [Signature.classify, hNone]
  rfl

end Live

end Stub

end ResolverScaffold

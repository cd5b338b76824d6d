import Mathlib
import ResolverScaffold.Proofs.Generation.Totality
import ResolverScaffold.Proofs.Render.Stub
import ResolverScaffold.Proofs.Tree.FieldKeys

/-!
# When two functions share a key

A body that was recovered finds its function by the key.  The keys of queries,
mutations, middleware and webhooks start with a word of their own, so no two of
them are the same (`nodup_wordedKeys`), and neither are the keys of two fields.
But the key of a field starts with the name of its type, and a type may be called
like one of the four words.  The keys of a tree are distinct if and only if no
field takes the key of another stub (`nodup_keys_iff`).

`Sample.ringTree` has a type `Middleware` with a field `auth`, and a middleware
`auth`.
-/

namespace ResolverScaffold

open Walk (Drawn)

/-! ### A word and what follows its underscore -/

namespace FieldResolver

/-- A type whose field has a key that starts with a word is called like the word, or like the word
and more after an underscore. -/
theorem keyOf_eq_word_cases {parent word field name : String} (hWord : '_' ∉ word.toList)
    (h : keyOf parent field = keyOf word name) :
    (parent = word ∧ field = name) ∨ ∃ more, parent = keyOf word more := by
  rcases keyOf_eq_keyOf_cases h with hSame | ⟨more, rfl, -⟩ | ⟨more, hMore, -⟩
  · exact .inl hSame
  · -- the word would hold the underscore after the name of the type
    rw [toList_keyOf] at hWord
    simp at hWord
  · exact .inr ⟨more, hMore⟩

theorem eq_of_keyOf_eq {word word' name name' : String} (hWord : '_' ∉ word.toList)
    (hWord' : '_' ∉ word'.toList) (h : keyOf word name = keyOf word' name') :
    word = word' ∧ name = name' := by
  rcases keyOf_eq_word_cases hWord' h with hSame | ⟨more, rfl⟩
  · exact hSame
  · rw [toList_keyOf] at hWord
    simp at hWord

end FieldResolver

namespace Stub

open FieldResolver (keyOf)

/-! ### Keys with a word -/

/-- The words that keys start with, and the names that follow them. -/
def wordedNames (tree : Tree) : List (String × List String) :=
  [("Query", tree.queries.keys), ("Mutation", tree.mutations.keys),
    ("Middleware", tree.middleware.names), ("Webhook", tree.subscribed.map (·.name))]

def wordedKeys (tree : Tree) : List String :=
  (wordedNames tree).flatMap fun group => group.2.map (keyOf group.1)

def words : List String := ["Query", "Mutation", "Middleware", "Webhook"]

variable {doc : Schema.Document} {tree : Tree} {stubs : List Stub}

theorem notMem_of_mem_words {word : String} (h : word ∈ words) : '_' ∉ word.toList := by
  simp only [words, List.mem_cons, List.not_mem_nil, or_false] at h
  rcases h with rfl | rfl | rfl | rfl <;> decide

theorem mem_words {group : String × List String} (h : group ∈ wordedNames tree) :
    group.1 ∈ words := List.mem_map_of_mem (f := Prod.fst) h

theorem nodup_subscribed (hDrawn : Drawn doc tree) : (tree.subscribed.map (·.name)).Nodup :=
  ((List.filter_sublist.map _).trans hDrawn.sublist_models).nodup tree.entries.nodup_keys

/-- **Keys with a word do not clash.** -/
theorem nodup_wordedKeys (hDrawn : Drawn doc tree) : (wordedKeys tree).Nodup := by
  have hNames : ∀ group ∈ wordedNames tree, group.2.Nodup := by
    simp only [wordedNames, List.forall_mem_cons]
    exact ⟨tree.queries.nodup_keys, tree.mutations.nodup_keys, tree.middleware.nodup_keys,
      nodup_subscribed hDrawn, by simp⟩
  have hWords : (wordedNames tree).Pairwise fun group group' => group.1 ≠ group'.1 := by
    have hDistinct : ((wordedNames tree).map Prod.fst).Nodup := by
      show words.Nodup
      decide
    exact List.pairwise_map.1 hDistinct
  rw [wordedKeys, List.nodup_iff_pairwise_ne, List.pairwise_flatMap]
  refine ⟨fun group hGroup => ?_, ?_⟩
  · have hWord := notMem_of_mem_words (mem_words hGroup)
    rw [List.pairwise_map]
    exact (hNames group hGroup).imp fun hNe hSame =>
      hNe (FieldResolver.eq_of_keyOf_eq hWord hWord hSame).2
  · refine hWords.imp_of_mem fun {group group'} hGroup hGroup' hNe key hKey key' hKey' hSame => ?_
    obtain ⟨name, -, rfl⟩ := List.mem_map.1 hKey
    obtain ⟨name', -, rfl⟩ := List.mem_map.1 hKey'
    exact hNe (FieldResolver.eq_of_keyOf_eq (notMem_of_mem_words (mem_words hGroup))
      (notMem_of_mem_words (mem_words hGroup')) hSame).1

/-! ### The keys of all stubs -/

theorem key_of_query (hDrawn : Drawn doc tree) {name : String} {o : Operation}
    (hGet : tree.queries.get? name = some o) : o.key = keyOf "Query" name := by
  obtain ⟨rfl, f, -, rfl⟩ := hDrawn.query name o hGet
  rfl

theorem key_of_mutation (hDrawn : Drawn doc tree) {name : String} {o : Operation}
    (hGet : tree.mutations.get? name = some o) : o.key = keyOf "Mutation" name := by
  obtain ⟨rfl, f, -, rfl⟩ := hDrawn.mutation name o hGet
  rfl

/-- **The keys of the stubs of a tree**, in their order. -/
theorem keys_all (hDrawn : Drawn doc tree) (hStubs : all tree = .ok stubs) :
    stubs.map (·.key) = tree.queries.keys.map (keyOf "Query")
      ++ tree.mutations.keys.map (keyOf "Mutation") ++ tree.fieldResolvers.keys
      ++ tree.middleware.names.map (keyOf "Middleware")
      ++ (tree.subscribed.map (·.name)).map (keyOf "Webhook") := by
  obtain ⟨queries, hQueries, h⟩ := bind_eq_ok_iff.1 hStubs
  obtain ⟨mutations, hMutations, h⟩ := bind_eq_ok_iff.1 h
  obtain ⟨fields, hFields, h⟩ := bind_eq_ok_iff.1 h
  rw [pure_eq_ok_iff] at h
  subst h
  have hQueryKeys : queries.map (·.key) = tree.queries.keys.map (keyOf "Query") := by
    rw [map_eq_of_mapM_eq_ok hQueries fun o _ s hs => (ofOperation_eq_ok hs).1]
    exact tree.queries.map_values_eq fun name o hGet => key_of_query hDrawn hGet
  have hMutationKeys : mutations.map (·.key) = tree.mutations.keys.map (keyOf "Mutation") := by
    rw [map_eq_of_mapM_eq_ok hMutations fun o _ s hs => (ofOperation_eq_ok hs).1]
    exact tree.mutations.map_values_eq fun name o hGet => key_of_mutation hDrawn hGet
  have hFieldKeys : fields.map (·.key) = tree.fieldResolvers.keys := by
    rw [map_eq_of_mapM_eq_ok hFields fun r _ s hs => (ofField_eq_ok hs).1,
      tree.fieldResolvers.map_values_eq (g := id) hDrawn.fieldsKeyed, List.map_id]
  have hMiddlewareKeys : (tree.middleware.names.map ofMiddleware).map (·.key)
      = tree.middleware.names.map (keyOf "Middleware") := by
    rw [List.map_map]
    exact List.map_congr_left fun name _ => rfl
  have hWebhookKeys : (tree.subscribed.map ofWebhook).map (·.key)
      = (tree.subscribed.map (·.name)).map (keyOf "Webhook") := by
    rw [List.map_map, List.map_map]
    exact List.map_congr_left fun m _ => rfl
  simp only [List.map_append, hQueryKeys, hMutationKeys, hFieldKeys, hMiddlewareKeys, hWebhookKeys]

theorem operationKind_ne_field (kind : OperationKind) : operationKind kind ≠ .field := by
  cases kind <;> decide

/-- The keys with a word are those of the stubs that resolve no field. -/
theorem mem_wordedKeys_iff (hDrawn : Drawn doc tree) (hStubs : all tree = .ok stubs)
    {key : String} : key ∈ wordedKeys tree ↔ ∃ s ∈ stubs, s.kind ≠ .field ∧ s.key = key := by
  simp only [wordedKeys, wordedNames, List.flatMap_cons, List.flatMap_nil, List.append_nil,
    List.mem_append, List.mem_map, Dict.mem_keys_iff, Dict.contains_eq_true_iff]
  constructor
  · have hOperation : ∀ o, ((∃ name, tree.queries.get? name = some o)
        ∨ ∃ name, tree.mutations.get? name = some o) →
        ∃ s ∈ stubs, s.kind ≠ .field ∧ s.key = o.key := by
      intro o ho
      obtain ⟨s, hs, hOk⟩ := exists_ofOperation_eq_ok hStubs (Tree.mem_operations_iff.2 ho)
      obtain ⟨hKey, hKind, -⟩ := ofOperation_eq_ok hOk
      exact ⟨s, hs, hKind ▸ operationKind_ne_field _, hKey⟩
    rintro (⟨name, ⟨o, hGet⟩, rfl⟩ | ⟨name, ⟨o, hGet⟩, rfl⟩ | ⟨name, hName, rfl⟩
      | ⟨name, ⟨m, hm, rfl⟩, rfl⟩)
    · obtain ⟨s, hs, hKind, hKey⟩ := hOperation o (.inl ⟨name, hGet⟩)
      exact ⟨s, hs, hKind, hKey.trans (key_of_query hDrawn hGet)⟩
    · obtain ⟨s, hs, hKind, hKey⟩ := hOperation o (.inr ⟨name, hGet⟩)
      exact ⟨s, hs, hKind, hKey.trans (key_of_mutation hDrawn hGet)⟩
    · exact ⟨ofMiddleware name, ofMiddleware_mem_all hStubs ((Dict.mem_keys_iff _ _).1 hName),
        by simp [ofMiddleware], rfl⟩
    · exact ⟨ofWebhook m, ofWebhook_mem_all hStubs hm, by simp [ofWebhook], rfl⟩
  · rintro ⟨s, hs, hKind, rfl⟩
    rcases (mem_all_iff hStubs).1 hs with
      ⟨o, ho, hOk⟩ | ⟨o, ho, hOk⟩ | ⟨r, -, hOk⟩ | ⟨name, hName, rfl⟩ | ⟨m, hm, rfl⟩
    · obtain ⟨name, hGet⟩ := tree.queries.mem_values_iff.1 ho
      have hKey := (ofOperation_eq_ok hOk).1.trans (key_of_query hDrawn hGet)
      exact .inl ⟨name, ⟨o, hGet⟩, hKey.symm⟩
    · obtain ⟨name, hGet⟩ := tree.mutations.mem_values_iff.1 ho
      have hKey := (ofOperation_eq_ok hOk).1.trans (key_of_mutation hDrawn hGet)
      exact .inr (.inl ⟨name, ⟨o, hGet⟩, hKey.symm⟩)
    · exact absurd (ofField_eq_ok hOk).2.1 hKind
    · exact .inr (.inr (.inl ⟨name, hName, rfl⟩))
    · exact .inr (.inr (.inr ⟨m.name, ⟨m, hm, rfl⟩, rfl⟩))

/-- **The keys are distinct if and only if no field takes the key of another stub.** -/
theorem nodup_keys_iff (hDrawn : Drawn doc tree) (hStubs : all tree = .ok stubs) :
    (stubs.map (·.key)).Nodup ↔ ∀ r ∈ tree.fieldResolvers.values, ∀ s ∈ stubs,
      s.kind ≠ .field → s.key ≠ r.key := by
  have hPerm : (stubs.map (·.key)).Perm (wordedKeys tree ++ tree.fieldResolvers.keys) := by
    rw [keys_all hDrawn hStubs, wordedKeys, wordedNames]
    simp only [List.flatMap_cons, List.flatMap_nil, List.append_nil, List.append_assoc]
    refine (List.Perm.append_left _ (List.Perm.append_left _ ?_))
    rw [← List.append_assoc (List.map _ tree.middleware.names)]
    exact List.perm_append_comm
  rw [hPerm.nodup_iff, List.nodup_append]
  constructor
  · rintro ⟨-, -, hApart⟩ r hr s hs hKind hSame
    obtain ⟨key, hGet⟩ := tree.fieldResolvers.mem_values_iff.1 hr
    have hKey : r.key ∈ tree.fieldResolvers.keys := by
      rw [hDrawn.fieldsKeyed key r hGet, Dict.mem_keys_iff]
      exact tree.fieldResolvers.contains_eq_true_iff.2 ⟨r, hGet⟩
    exact hApart _ ((mem_wordedKeys_iff hDrawn hStubs).2 ⟨s, hs, hKind, rfl⟩) _ hKey hSame
  · intro hApart
    refine ⟨nodup_wordedKeys hDrawn, tree.fieldResolvers.nodup_keys, ?_⟩
    intro key hKey key' hKey' hSame
    obtain ⟨s, hs, hKind, rfl⟩ := (mem_wordedKeys_iff hDrawn hStubs).1 hKey
    obtain ⟨r, hGet⟩ := tree.fieldResolvers.contains_eq_true_iff.1 ((Dict.mem_keys_iff _ _).1 hKey')
    refine hApart r (tree.fieldResolvers.mem_values_iff.2 ⟨key', hGet⟩) s hs hKind ?_
    rw [hSame, hDrawn.fieldsKeyed key' r hGet]

/-- A type whose field takes the key of another stub is called like one of the four words, or like
the word and more after an underscore. -/
theorem word_of_key_eq (hDrawn : Drawn doc tree) (hStubs : all tree = .ok stubs)
    {r : FieldResolver} {s : Stub} (hs : s ∈ stubs) (hKind : s.kind ≠ .field)
    (hKey : s.key = r.key) :
    ∃ word ∈ words, r.parent = word ∨ ∃ more, r.parent = keyOf word more := by
  have hMem := (mem_wordedKeys_iff hDrawn hStubs).2 ⟨s, hs, hKind, hKey⟩
  obtain ⟨group, hGroup, hMem⟩ := List.mem_flatMap.1 hMem
  obtain ⟨name, -, hName⟩ := List.mem_map.1 hMem
  have hWord := mem_words hGroup
  refine ⟨group.1, hWord, ?_⟩
  exact (FieldResolver.keyOf_eq_word_cases (notMem_of_mem_words hWord) hName.symm).imp_left And.left

/-- **When the keys of a bound tree are distinct.**  Only a field can take the key of another stub,
and only if its type is called like one of the words that keys start with. -/
theorem keys_distinct_iff {introspect : Introspector} {home : ModelHome}
    {sources : List BindSource} {bound : Tree} (hTree : Tree.ofDocument doc = .ok tree)
    (hBound : Autobind.bindAll introspect home sources tree = .ok bound) :
    ∃ stubs, all bound = .ok stubs
      ∧ ((stubs.map (·.key)).Nodup ↔ ∀ r ∈ bound.fieldResolvers.values, ∀ s ∈ stubs,
        s.kind ≠ .field → s.key ≠ r.key)
      ∧ ∀ r ∈ bound.fieldResolvers.values, ∀ s ∈ stubs, s.kind ≠ .field → s.key = r.key →
        ∃ word ∈ ["Query", "Mutation", "Middleware", "Webhook"],
          r.parent = word ∨ ∃ more, r.parent = word ++ "_" ++ more := by
  obtain ⟨hDrawn, hDecided⟩ := Autobind.drawn_and_decided hTree hBound
  obtain ⟨stubs, hStubs⟩ := exists_stubs hDrawn hDecided
  exact ⟨stubs, hStubs, nodup_keys_iff hDrawn hStubs,
    fun r _ s hs hKind hKey => word_of_key_eq hDrawn hStubs hs hKind hKey⟩

end Stub

/-! ### A type called `Middleware` -/

namespace Sample

def ringTexts : List String :=
  ["type Query\x7b\"@middleware([\\\"auth\\\"])\"user(id:ID!):User@lambda\x7d",
   "type User implements Node@lambdaOnMutate(add:true)\x7bfriend:User@lambda\x7d",
   "interface Node\x7bowner:Any\x7d",
   "union Any=Middleware",
   "type Middleware\x7bauth:Int@lambda\x7d"]

def ringSources : List Schema.Source := ringTexts.map (⟨"schema.graphql", ·⟩)

theorem load_ringSources : Schema.Document.load ringSources = .ok ringDocument := by
  have hRead : ∀ e ∈ ringTexts.zip (ringDefinitions.map Schema.Statement.define),
      Schema.Statement.readAll? "schema.graphql" false e.1 = some [e.2] := by
    simp only [ringTexts, ringDefinitions, List.map_cons, List.map_nil, List.zip_cons_cons,
      List.zip_nil_right, List.forall_mem_cons]
    refine ⟨?_, ?_, ?_, ?_, ?_, by simp⟩ <;> cbv
  exact Schema.Document.load_of_readAll? hRead rfl rfl

end Sample

namespace Stub

/-- The keys of the ring are not distinct, and the type that takes a key is `Middleware`. -/
theorem keys_of_ring :
    Tree.ofDocument Sample.ringDocument = .ok Sample.ringTree
    ∧ Autobind.bindAll Sample.noPackage Sample.ringHome [] Sample.ringTree = .ok Sample.ringBound
    ∧ ∃ stubs, all Sample.ringBound = .ok stubs ∧ ¬(stubs.map (·.key)).Nodup
      ∧ ∀ r ∈ Sample.ringBound.fieldResolvers.values, ∀ s ∈ stubs, s.kind ≠ .field →
        s.key = r.key → r.parent = "Middleware" := by
  obtain ⟨stubs, hStubs, hDistinct, hWord⟩ :=
    keys_distinct_iff Sample.ofDocument_ringDocument Sample.bindAll_ringTree
  have hFields : Sample.ringBound.fieldResolvers.values
      = [⟨"Middleware", Walk.field "Middleware" Sample.authField, []⟩,
        ⟨"User", Walk.field "User" Sample.friendField, []⟩] := rfl
  refine ⟨Sample.ofDocument_ringDocument, Sample.bindAll_ringTree, stubs, hStubs, ?_, ?_⟩
  · intro hNodup
    have hGuard : ofMiddleware "auth" ∈ stubs := ofMiddleware_mem_all hStubs (by decide)
    exact hDistinct.1 hNodup _ (by rw [hFields]; exact List.mem_cons_self) _ hGuard (by decide) rfl
  · intro r hr s hs hKind hKey
    have hCases := hWord r hr s hs hKind hKey
    rw [hFields, List.mem_cons, List.mem_singleton] at hr
    rcases hr with rfl | rfl
    · rfl
    · -- `User` is none of the words, and it holds no underscore
      obtain ⟨word, hMem, hSame | ⟨more, hMore⟩⟩ := hCases
      · subst hSame
        exact absurd hMem (by decide)
      · have hMark : '_' ∈ "User".toList := by
          rw [show "User" = word ++ "_" ++ more from hMore]
          simp
        exact absurd hMark (by decide)

/-- **Two functions can share a key.**  The schema is accepted and its types are bound, but the field
`auth` of the type `Middleware` and the middleware `auth` have one key, and a body that is recovered
under it stands in both functions. -/
theorem field_takes_key_of_middleware :
    Schema.Document.load Sample.ringSources = .ok Sample.ringDocument
    ∧ Tree.ofDocument Sample.ringDocument = .ok Sample.ringTree
    ∧ Autobind.bindAll Sample.noPackage Sample.ringHome [] Sample.ringTree = .ok Sample.ringBound
    ∧ ∃ stubs, all Sample.ringBound = .ok stubs ∧ ¬(stubs.map (·.key)).Nodup
      ∧ ∃ field ∈ stubs, ∃ guard ∈ stubs, field.kind = .field ∧ guard.kind = .middleware
        ∧ ∀ recovered body, recovered.bodies.get? "Middleware_auth" = some body →
          field.code recovered = field.header ++ body ++ "\x7d"
          ∧ guard.code recovered = guard.header ++ body ++ "\x7d" := by
  obtain ⟨hDrawn, hDecided⟩ :=
    Autobind.drawn_and_decided Sample.ofDocument_ringDocument Sample.bindAll_ringTree
  obtain ⟨stubs, hStubs⟩ := exists_stubs hDrawn hDecided
  have hKeys : stubs.map (·.key) = ["Query_user", "Middleware_auth", "User_friend",
      "Middleware_auth", "Webhook_User"] := keys_all hDrawn hStubs
  obtain ⟨field, hField, hOk⟩ := exists_ofField_eq_ok hStubs
    (r := ⟨"Middleware", Walk.field "Middleware" Sample.authField, []⟩) (by decide)
  obtain ⟨hKey, hKind, -⟩ := ofField_eq_ok hOk
  refine ⟨Sample.load_ringSources, Sample.ofDocument_ringDocument, Sample.bindAll_ringTree, stubs,
    hStubs, by rw [hKeys]; decide, field, hField, ofMiddleware "auth", ?_, hKind, rfl, ?_⟩
  · exact ofMiddleware_mem_all hStubs (by decide)
  · intro recovered body hGet
    have hFieldKey : field.key = "Middleware_auth" := hKey
    have hGuardKey : (ofMiddleware "auth").key = "Middleware_auth" := rfl
    constructor
    · rw [code, Stub.body, hFieldKey, hGet, Option.getD_some]
    · rw [code, Stub.body, hGuardKey, hGet, Option.getD_some]

end Stub

end ResolverScaffold

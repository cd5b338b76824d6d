import ResolverScaffold.Proofs.Generation.Declared
import ResolverScaffold.Proofs.Generation.Keys
import ResolverScaffold.Proofs.Generation.Liveness
import ResolverScaffold.Proofs.Naming

/-!
# Stubs that can be read again

The next run reads the functions that this one wrote, so their names have to be
identifiers and their comments have to end with the line.  Names of the schema see to
the first, and cutting descriptions at line feeds to the second, with two exceptions:
the name of a middleware is any string, and a carriage return alone ends no line.

* `readable_iff`: the bound trees whose stubs can all be read again.
* `Sample.looseTree`: one with neither.
-/

namespace ResolverScaffold

/-- The descriptions that become comments of stubs. -/
def Tree.descriptions (tree : Tree) : List String :=
  tree.operations.filterMap (·.description)
    ++ tree.fieldResolvers.values.filterMap (·.field.description)

theorem Tree.mem_descriptions_iff {tree : Tree} {text : String} :
    text ∈ tree.descriptions ↔ (∃ o ∈ tree.operations, o.description = some text)
      ∨ ∃ r ∈ tree.fieldResolvers.values, r.field.description = some text := by
  rw [descriptions, List.mem_append, List.mem_filterMap, List.mem_filterMap]

namespace Stub

open Walk (Drawn)

/-- The name is an identifier, and each comment is a doc comment on one line. -/
def IsReadable (s : Stub) : Prop :=
  Naming.isIdentifier s.key = true ∧ ∀ line ∈ s.docs, Naming.IsDocComment line

variable {doc : Schema.Document} {tree : Tree} {stubs : List Stub} {s : Stub}

/-! ### Names -/

theorem isIdentifier_keyOf {word name : String} (hWord : Naming.isIdentifier word = true)
    (hName : Schema.isName name = true) :
    Naming.isIdentifier (FieldResolver.keyOf word name) = true := by
  rw [FieldResolver.keyOf, Naming.isIdentifier_append hWord]
  exact Naming.all_isIdentChar_of_isIdentifier (Naming.isIdentifier_of_isName hName)

theorem isName_of_isOperation (hNamed : ∀ d ∈ doc.definitions, d.Named) {kind : OperationKind}
    {f : Schema.Field} (hf : Walk.IsOperation doc kind f) : Schema.isName f.name = true := by
  obtain ⟨d, hd, -, hMem, -⟩ := hf
  exact ((hNamed d hd).2 f hMem).1

theorem isIdentifier_of_operation (hNamed : ∀ d ∈ doc.definitions, d.Named)
    (hDrawn : Drawn doc tree) {o : Operation} (ho : o ∈ tree.operations) :
    Naming.isIdentifier o.key = true := by
  rcases Tree.mem_operations_iff.1 ho with ⟨name, hGet⟩ | ⟨name, hGet⟩
  · obtain ⟨rfl, f, hf, rfl⟩ := hDrawn.query name o hGet
    have hWord : Naming.isIdentifier "Query" = true := by decide
    exact isIdentifier_keyOf hWord (isName_of_isOperation hNamed hf)
  · obtain ⟨rfl, f, hf, rfl⟩ := hDrawn.mutation name o hGet
    have hWord : Naming.isIdentifier "Mutation" = true := by decide
    exact isIdentifier_keyOf hWord (isName_of_isOperation hNamed hf)

theorem isIdentifier_of_fieldResolver (hNamed : ∀ d ∈ doc.definitions, d.Named)
    (hDrawn : Drawn doc tree) {r : FieldResolver} (hr : r ∈ tree.fieldResolvers.values) :
    Naming.isIdentifier r.key = true := by
  obtain ⟨key, hGet⟩ := tree.fieldResolvers.mem_values_iff.1 hr
  obtain ⟨-, d, f, hAsks, rfl⟩ := hDrawn.fieldResolver key r hGet
  have hDefinition := hNamed d (Schema.Table.mem_of_get? hAsks.defined)
  exact isIdentifier_keyOf (Naming.isIdentifier_of_isName hDefinition.1)
    (hDefinition.2 f hAsks.mem).1

theorem isName_of_subscribed (hNamed : ∀ d ∈ doc.definitions, d.Named) (hDrawn : Drawn doc tree)
    {m : Model} (hm : m ∈ tree.subscribed) : Schema.isName m.name = true := by
  obtain ⟨name, hGet⟩ := Tree.mem_models_iff.1 (List.mem_filter.1 hm).1
  obtain ⟨-, d, hDoc, -⟩ := hDrawn.entry name _ hGet
  rw [hDrawn.model_name hGet, ← Schema.Table.name_of_get? hDoc]
  exact (hNamed d (Schema.Table.mem_of_get? hDoc)).1

/-! ### One stub -/

theorem docs_of_ofOperation {o : Operation} (h : ofOperation tree o = .ok s) :
    s.docs = Naming.docLines o.description := by
  obtain ⟨parameters, -, h⟩ := bind_eq_ok_iff.1 h
  obtain ⟨result, -, h⟩ := bind_eq_ok_iff.1 h
  rw [pure_eq_ok_iff] at h
  subst h
  rfl

theorem docs_of_ofField {r : FieldResolver} (h : ofField tree r = .ok s) :
    s.docs = Naming.docLines r.field.description := by
  obtain ⟨parent, -, h⟩ := bind_eq_ok_iff.1 h
  obtain ⟨result, -, h⟩ := bind_eq_ok_iff.1 h
  rw [pure_eq_ok_iff] at h
  subst h
  rfl

theorem isReadable_ofMiddleware_iff (name : String) :
    (ofMiddleware name).IsReadable ↔ name.toList.all Naming.isIdentChar = true := by
  have hKey : Naming.isIdentifier (ofMiddleware name).key = name.toList.all Naming.isIdentChar :=
    Naming.isIdentifier_append (show Naming.isIdentifier "Middleware" = true by decide) name
  rw [IsReadable, hKey]
  simp [ofMiddleware]

theorem oneLine_name (event : LifecycleEvent) : Text.OneLine event.name := by
  cases event <;> decide

theorem isReadable_ofWebhook {m : Model} (hName : Schema.isName m.name = true) :
    (ofWebhook m).IsReadable := by
  have hKey : (ofWebhook m).key = FieldResolver.keyOf "Webhook" m.name := rfl
  have hIdentifier := isIdentifier_keyOf (show Naming.isIdentifier "Webhook" = true by decide) hName
  refine ⟨hKey ▸ hIdentifier, fun line hLine => ?_⟩
  obtain rfl := List.mem_singleton.1 hLine
  constructor
  · have hStart : "/// Called after " = "/// " ++ "Called after " := rfl
    rw [hStart, String.append_assoc, String.append_assoc, String.append_assoc]
    exact Naming.startsDoc_append _
  · have hEvents : Text.OneLine (Text.commaList (m.events.map (·.name))) :=
      Text.oneLine_commaList (List.forall_mem_map.2 fun event _ => oneLine_name event)
    have hStart : Text.OneLine "/// Called after " := by decide
    have hOf : Text.OneLine " of " := by decide
    exact ((hStart.append hEvents).append hOf).append (Text.oneLine_of_isName hName)

theorem isReadable_of_ofOperation_iff (hNamed : ∀ d ∈ doc.definitions, d.Named)
    (hDrawn : Drawn doc tree) {o : Operation} (ho : o ∈ tree.operations)
    (h : ofOperation tree o = .ok s) :
    s.IsReadable ↔ ∀ text, o.description = some text →
      Text.hasStrayReturn (Text.trim text.toList) = false := by
  rw [IsReadable, (ofOperation_eq_ok h).1, docs_of_ofOperation h, Naming.forall_docLines_iff]
  exact and_iff_right (isIdentifier_of_operation hNamed hDrawn ho)

theorem isReadable_of_ofField_iff (hNamed : ∀ d ∈ doc.definitions, d.Named)
    (hDrawn : Drawn doc tree) {r : FieldResolver} (hr : r ∈ tree.fieldResolvers.values)
    (h : ofField tree r = .ok s) :
    s.IsReadable ↔ ∀ text, r.field.description = some text →
      Text.hasStrayReturn (Text.trim text.toList) = false := by
  rw [IsReadable, (ofField_eq_ok h).1, docs_of_ofField h, Naming.forall_docLines_iff]
  exact and_iff_right (isIdentifier_of_fieldResolver hNamed hDrawn hr)

/-! ### All stubs -/

theorem isIdentifier_of_mem_all (hNamed : ∀ d ∈ doc.definitions, d.Named) (hDrawn : Drawn doc tree)
    (hStubs : all tree = .ok stubs) (hs : s ∈ stubs) (hKind : s.kind ≠ .middleware) :
    Naming.isIdentifier s.key = true := by
  rcases (mem_all_iff hStubs).1 hs with
    ⟨o, ho, hOk⟩ | ⟨o, ho, hOk⟩ | ⟨r, hr, hOk⟩ | ⟨name, -, rfl⟩ | ⟨m, hm, rfl⟩
  · rw [(ofOperation_eq_ok hOk).1]
    exact isIdentifier_of_operation hNamed hDrawn (List.mem_append_left _ ho)
  · rw [(ofOperation_eq_ok hOk).1]
    exact isIdentifier_of_operation hNamed hDrawn (List.mem_append_right _ ho)
  · rw [(ofField_eq_ok hOk).1]
    exact isIdentifier_of_fieldResolver hNamed hDrawn hr
  · exact absurd rfl hKind
  · exact (isReadable_ofWebhook (isName_of_subscribed hNamed hDrawn hm)).1

theorem startsDoc_of_mem_all (hNamed : ∀ d ∈ doc.definitions, d.Named) (hDrawn : Drawn doc tree)
    (hStubs : all tree = .ok stubs) (hs : s ∈ stubs) {line : String} (hLine : line ∈ s.docs) :
    Naming.StartsDoc line ∧ '\n' ∉ line.toList := by
  rcases (mem_all_iff hStubs).1 hs with
    ⟨o, -, hOk⟩ | ⟨o, -, hOk⟩ | ⟨r, -, hOk⟩ | ⟨name, -, rfl⟩ | ⟨m, hm, rfl⟩
  · exact Naming.startsDoc_of_mem_docLines (docs_of_ofOperation hOk ▸ hLine)
  · exact Naming.startsDoc_of_mem_docLines (docs_of_ofOperation hOk ▸ hLine)
  · exact Naming.startsDoc_of_mem_docLines (docs_of_ofField hOk ▸ hLine)
  · cases hLine
  · have hDoc := (isReadable_ofWebhook (isName_of_subscribed hNamed hDrawn hm)).2 line hLine
    exact ⟨hDoc.1, hDoc.2.1⟩

theorem forall_isReadable_iff (hNamed : ∀ d ∈ doc.definitions, d.Named) (hDrawn : Drawn doc tree)
    (hStubs : all tree = .ok stubs) :
    (∀ s ∈ stubs, s.IsReadable) ↔
      (∀ name, tree.middleware.contains name = true →
        name.toList.all Naming.isIdentChar = true)
      ∧ ∀ text ∈ tree.descriptions, Text.hasStrayReturn (Text.trim text.toList) = false := by
  simp only [Tree.mem_descriptions_iff]
  constructor
  · intro hAll
    refine ⟨fun name hName => ?_, ?_⟩
    · exact (isReadable_ofMiddleware_iff name).1 (hAll _ (ofMiddleware_mem_all hStubs hName))
    · rintro text (⟨o, ho, hText⟩ | ⟨r, hr, hText⟩)
      · obtain ⟨s, hs, hOk⟩ := exists_ofOperation_eq_ok hStubs ho
        exact (isReadable_of_ofOperation_iff hNamed hDrawn ho hOk).1 (hAll s hs) text hText
      · obtain ⟨s, hs, hOk⟩ := exists_ofField_eq_ok hStubs hr
        exact (isReadable_of_ofField_iff hNamed hDrawn hr hOk).1 (hAll s hs) text hText
  · rintro ⟨hNames, hTexts⟩ s hs
    have hOperation : ∀ o ∈ tree.operations, ofOperation tree o = .ok s → s.IsReadable :=
      fun o ho hOk => (isReadable_of_ofOperation_iff hNamed hDrawn ho hOk).2
        fun text hText => hTexts text (.inl ⟨o, ho, hText⟩)
    rcases (mem_all_iff hStubs).1 hs with
      ⟨o, ho, hOk⟩ | ⟨o, ho, hOk⟩ | ⟨r, hr, hOk⟩ | ⟨name, hName, rfl⟩ | ⟨m, hm, rfl⟩
    · exact hOperation o (List.mem_append_left _ ho) hOk
    · exact hOperation o (List.mem_append_right _ ho) hOk
    · exact (isReadable_of_ofField_iff hNamed hDrawn hr hOk).2
        fun text hText => hTexts text (.inr ⟨r, hr, hText⟩)
    · exact (isReadable_ofMiddleware_iff name).2 (hNames name ((Dict.mem_keys_iff _ _).1 hName))
    · exact isReadable_ofWebhook (isName_of_subscribed hNamed hDrawn hm)

/-- **The bound trees whose stubs can be read again.**  A stub that is not of a middleware has an
identifier for its name, and all comments start like doc comments and hold no line feed.  All stubs
can be read again if and only if each middleware has a name of identifier characters and no
description has a carriage return inside a line. -/
theorem readable_iff {bound : Tree} (hBound : bound.IsBound) :
    ∃ stubs, all bound = .ok stubs
      ∧ (∀ s ∈ stubs, s.kind ≠ .middleware → Naming.isIdentifier s.key = true)
      ∧ (∀ s ∈ stubs, ∀ line ∈ s.docs, Naming.StartsDoc line ∧ '\n' ∉ line.toList)
      ∧ ((∀ s ∈ stubs, s.IsReadable) ↔
        (∀ name, bound.middleware.contains name = true →
          name.toList.all Naming.isIdentChar = true)
        ∧ ∀ text ∈ bound.descriptions,
          Text.hasStrayReturn (Text.trim text.toList) = false) := by
  obtain ⟨doc, hNamed, hDrawn, hDecided⟩ := hBound.exists_document
  obtain ⟨stubs, hStubs⟩ := exists_stubs hDrawn hDecided
  exact ⟨stubs, hStubs, fun s hs => isIdentifier_of_mem_all hNamed hDrawn hStubs hs,
    fun s hs line => startsDoc_of_mem_all hNamed hDrawn hStubs hs,
    forall_isReadable_iff hNamed hDrawn hStubs⟩

/-- The stubs of the ring can all be read again. -/
theorem ring_is_readable :
    Sample.ringBound.IsBound ∧ ∃ stubs, all Sample.ringBound = .ok stubs ∧ stubs.length = 5
      ∧ ∀ s ∈ stubs, s.IsReadable := by
  obtain ⟨stubs, hStubs, -, -, hReadable⟩ := readable_iff Sample.isBound_ringBound
  have hKeys : stubs.map (·.key) = ["Query_user", "Middleware_auth", "User_friend",
      "Middleware_auth", "Webhook_User"] :=
    keys_all (Autobind.drawn_and_decided Sample.ofDocument_ringDocument Sample.bindAll_ringTree).1
      hStubs
  refine ⟨Sample.isBound_ringBound, stubs, hStubs, ?_, hReadable.2 ⟨fun name hName => ?_, ?_⟩⟩
  · simpa using congrArg List.length hKeys
  · have hMem : name ∈ ["auth"] := (Dict.mem_keys_iff _ _).2 hName
    rw [List.mem_singleton.1 hMem]
    decide
  · have hTexts : Sample.ringBound.descriptions = ["@middleware([\"auth\"])"] := rfl
    rw [hTexts]
    decide

end Stub

/-! ### A middleware with a blank in its name -/

namespace Sample

def looseText : String := "@middleware([\r\"a b\"])"

def looseSource : Schema.Source :=
  ⟨"schema.graphql", "type Query\x7b\"@middleware([\\r\\\"a b\\\"])\"a:Int@lambda\x7d"⟩

def looseTree : Tree := describedTree (some looseText) ["a b"]

theorem load_looseSource :
    Schema.Document.load [looseSource] = .ok (describedDocument (some looseText)) := by
  have hRead : ∀ e ∈ [(looseSource.text,
      Schema.Statement.define (describedDefinition (some looseText)))],
      Schema.Statement.readAll? looseSource.name false e.1 = some [e.2] := by
    simp only [List.forall_mem_singleton]
    cbv
  exact Schema.Document.load_of_readAll? hRead rfl rfl

theorem names_looseText : Middleware.names (some looseText) = ["a b"] := by
  have hAt : Middleware.contentAt? looseText.toList = some ("[\r\"a b\"]".toList, []) := by
    decide
  have hRead : StringList.read? "[\r\"a b\"]".toList = some ["a b"] := by cbv
  exact Middleware.namesIn_of_contentAt? hAt hRead

theorem bindAll_looseTree :
    Autobind.bindAll noPackage ringHome [] looseTree = .ok looseTree := rfl

end Sample

/-- **Stubs that cannot be read again.**  The schema is accepted and its types are bound, but one
function has a name with a blank in it, and the comment of another holds a carriage return. -/
theorem Stub.loose_is_unreadable :
    Schema.Document.load [Sample.looseSource]
        = .ok (Sample.describedDocument (some Sample.looseText))
      ∧ Tree.ofDocument (Sample.describedDocument (some Sample.looseText)) = .ok Sample.looseTree
      ∧ Autobind.bindAll Sample.noPackage Sample.ringHome [] Sample.looseTree
        = .ok Sample.looseTree
      ∧ ∃ stubs, all Sample.looseTree = .ok stubs
        ∧ (∃ s ∈ stubs, s.key = "Middleware_a b" ∧ Naming.isIdentifier s.key = false)
        ∧ ∃ s ∈ stubs, s.docs = ["/// @middleware([\r\"a b\"])"]
          ∧ ∃ line ∈ s.docs, ¬Naming.IsDocComment line := by
  obtain ⟨hDrawn, hDecided⟩ := Autobind.drawn_and_decided
    (Sample.ofDocument_described Sample.names_looseText) Sample.bindAll_looseTree
  obtain ⟨stubs, hStubs⟩ := exists_stubs hDrawn hDecided
  obtain ⟨s, hs, hOk⟩ := exists_ofOperation_eq_ok hStubs
    (o := ⟨.query, "a", some Sample.looseText, [], ⟨"Int", false, false⟩, ["a b"]⟩)
    List.mem_cons_self
  have hDocs : s.docs = ["/// @middleware([\r\"a b\"])"] := docs_of_ofOperation hOk
  refine ⟨Sample.load_looseSource, Sample.ofDocument_described Sample.names_looseText,
    Sample.bindAll_looseTree, stubs, hStubs, ⟨ofMiddleware "a b", ?_, rfl, by decide⟩, s, hs, hDocs,
    ?_⟩
  · exact ofMiddleware_mem_all hStubs rfl
  · rw [hDocs]
    exact ⟨_, List.mem_cons_self, by decide⟩

end ResolverScaffold

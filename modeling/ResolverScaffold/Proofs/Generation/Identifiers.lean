import ResolverScaffold.Proofs.Generation.Keys
import ResolverScaffold.Proofs.Naming.Clashes
import ResolverScaffold.Proofs.Render.ModelFile

/-!
# Identifiers that stand together

The fields of a struct, the variants of an enum and the parameters of a function have to
differ.  Their names differ in the schema, but they are not written as they stand there:
fields and parameters are put in snake case, reserved words get an underscore, and every
query and mutation has one parameter more.

* `identifiers_distinct_iff`: the structs, enums and functions whose identifiers differ.
* `Sample.twinTree`: one of each whose identifiers do not.
-/

namespace ResolverScaffold

open Walk (Drawn)

/-- The names of fields, of values and of the arguments of each field differ. -/
structure Schema.Definition.Apart (d : Schema.Definition) : Prop where
  fields : (d.fields.map (·.name)).Nodup
  values : (d.values.map (·.name)).Nodup
  arguments : ∀ f ∈ d.fields, (f.arguments.map (·.name)).Nodup

theorem Schema.Definition.apart_iff {d : Schema.Definition} :
    d.Apart ↔ (d.fields.map (·.name)).Nodup ∧ (d.values.map (·.name)).Nodup
      ∧ ∀ f ∈ d.fields, (f.arguments.map (·.name)).Nodup :=
  ⟨fun h => ⟨h.fields, h.values, h.arguments⟩, fun h => ⟨h.1, h.2.1, h.2.2⟩⟩

instance (d : Schema.Definition) : Decidable d.Apart :=
  decidable_of_iff' _ Schema.Definition.apart_iff

variable {doc : Schema.Document} {tree : Tree}

/-! ### Structs and enums -/

namespace ModelFile

variable {file : ModelFile}

/-- An item of the file is that of an entry, and the entry that of a definition. -/
theorem exists_definition_of_mem_items {items : List ModelItem} (hDrawn : Drawn doc tree)
    (hItems : ModelFile.items tree = .ok items) {i : ModelItem} (hi : i ∈ items) :
    ∃ d, doc.get? i.name = some d ∧ item tree (Walk.entry doc d) = .ok i := by
  obtain ⟨e, he, hItem⟩ := (mem_mapM_iff hItems i).1 hi
  obtain ⟨name, hGet⟩ := tree.entries.mem_values_iff.1 (List.mem_filter.1 he).1
  obtain ⟨-, d, hDefined, hEntry⟩ := hDrawn.entry name e hGet
  refine ⟨d, ?_, hEntry ▸ hItem⟩
  rw [name_item hItem, hDrawn.entry_name hGet, hDefined]

theorem idents_of_struct (hDrawn : Drawn doc tree) (hFile : ofTree tree = .ok file)
    {s : StructItem} (hs : s ∈ file.structs) :
    ∃ d, doc.get? s.name = some d
      ∧ s.fields.map (·.ident) = (d.fields.map (·.name)).map Naming.fieldIdentifier := by
  obtain ⟨items, hItems, rfl⟩ := ofTree_eq_ok hFile
  obtain ⟨d, hDefined, hItem⟩ :=
    exists_definition_of_mem_items hDrawn hItems (mem_structs_iff.1 hs)
  obtain ⟨m, hModel, hFields⟩ := model_of_item_eq_struct hItem
  have hSame : m.fields = d.fields.map (Walk.field d.name) := by
    rw [Walk.entry] at hModel
    split at hModel <;> cases hModel <;> rfl
  refine ⟨d, hDefined, ?_⟩
  rw [map_eq_of_mapM_eq_ok hFields fun f _ field hField => (fieldItem_eq_ok hField).1, hSame,
    List.map_map, List.map_map]
  exact List.map_congr_left fun f _ => by rw [Function.comp_apply, Function.comp_apply, Walk.field]

/-- A model that has to be generated has its struct. -/
theorem exists_struct (hFile : ofTree tree = .ok file) {m : Model}
    (hm : .model m ∈ tree.entries.values) (hGenerated : isGenerated tree (.model m) = true) :
    ∃ s ∈ file.structs, s.fields.map (·.ident) = m.fields.map (Naming.fieldIdentifier ·.name) := by
  obtain ⟨items, hItems, rfl⟩ := ofTree_eq_ok hFile
  obtain ⟨i, hi, hItem⟩ := exists_mem_of_mapM_eq_ok hItems (List.mem_filter.2 ⟨hm, hGenerated⟩)
  obtain ⟨fields, hFields, rfl⟩ := item_model hItem
  exact ⟨_, mem_structs_iff.2 hi,
    map_eq_of_mapM_eq_ok hFields fun f _ field hField => (fieldItem_eq_ok hField).1⟩

theorem idents_of_enum (hDrawn : Drawn doc tree) (hFile : ofTree tree = .ok file)
    {e : EnumItem} (he : e ∈ file.enums) :
    ∃ d, doc.get? e.name = some d
      ∧ e.variants.map (·.ident) = (d.values.map (·.name)).map Naming.identifier := by
  obtain ⟨items, hItems, rfl⟩ := ofTree_eq_ok hFile
  obtain ⟨d, hDefined, hItem⟩ :=
    exists_definition_of_mem_items hDrawn hItems (mem_enums_iff.1 he)
  obtain ⟨enum, hEnum, hVariants⟩ := enum_of_item_eq_enum hItem
  have hSame : enum.values = d.values := by
    rw [Walk.entry] at hEnum
    split at hEnum <;> cases hEnum
    rfl
  refine ⟨d, hDefined, ?_⟩
  rw [hVariants, hSame, List.map_map, List.map_map]
  exact List.map_congr_left fun v _ => by rw [Function.comp_apply, Function.comp_apply, variantItem]

/-- An enum that has to be generated has its item. -/
theorem exists_enum (hFile : ofTree tree = .ok file) {enum : Enum}
    (hEnum : .enum enum ∈ tree.entries.values)
    (hGenerated : isGenerated tree (.enum enum) = true) :
    ∃ e ∈ file.enums, e.variants.map (·.ident) = enum.values.map (Naming.identifier ·.name) := by
  obtain ⟨items, hItems, rfl⟩ := ofTree_eq_ok hFile
  obtain ⟨i, hi, hItem⟩ := exists_mem_of_mapM_eq_ok hItems (List.mem_filter.2 ⟨hEnum, hGenerated⟩)
  cases hItem
  refine ⟨_, mem_enums_iff.2 hi, ?_⟩
  rw [List.map_map]
  exact List.map_congr_left fun v _ => by rw [Function.comp_apply, variantItem]

end ModelFile

/-! ### Parameters -/

namespace Stub

variable {stubs : List Stub} {s : Stub}

theorem operation_of_mem_all (hDrawn : Drawn doc tree) (hStubs : all tree = .ok stubs)
    (hs : s ∈ stubs) {kind : OperationKind} (hKind : s.kind = operationKind kind) :
    ∃ f, Walk.IsOperation doc kind f ∧ ofOperation tree (Walk.operation kind f) = .ok s := by
  rcases (mem_all_iff hStubs).1 hs with
    ⟨o, ho, hOk⟩ | ⟨o, ho, hOk⟩ | ⟨r, -, hOk⟩ | ⟨name, -, rfl⟩ | ⟨m, -, rfl⟩
  · obtain ⟨name, hGet⟩ := tree.queries.mem_values_iff.1 ho
    obtain ⟨-, f, hf, rfl⟩ := hDrawn.query name o hGet
    rw [(ofOperation_eq_ok hOk).2.1] at hKind
    cases kind with
    | query => exact ⟨f, hf, hOk⟩
    | mutation => cases hKind
  · obtain ⟨name, hGet⟩ := tree.mutations.mem_values_iff.1 ho
    obtain ⟨-, f, hf, rfl⟩ := hDrawn.mutation name o hGet
    rw [(ofOperation_eq_ok hOk).2.1] at hKind
    cases kind with
    | query => cases hKind
    | mutation => exact ⟨f, hf, hOk⟩
  · rw [(ofField_eq_ok hOk).2.1] at hKind
    cases kind <;> cases hKind
  · cases kind <;> cases hKind
  · cases kind <;> cases hKind

end Stub

/-! ### All of them -/

namespace Generation

open Naming (Identifies Unsuffixed)

theorem isIdentifier_of_fields {d : Schema.Definition} (hNamed : d.Named) :
    ∀ name ∈ d.fields.map (·.name), Naming.isIdentifier name = true :=
  List.forall_mem_map.2 fun f hf => Naming.isIdentifier_of_isName (hNamed.fields f hf).1

theorem isIdentifier_of_values {d : Schema.Definition} (hNamed : d.Named) :
    ∀ name ∈ d.values.map (·.name), Naming.isIdentifier name = true :=
  List.forall_mem_map.2 fun v hv => Naming.isIdentifier_of_isName (hNamed.values v hv)

theorem isIdentifier_of_arguments {d : Schema.Definition} (hNamed : d.Named) {f : Schema.Field}
    (hf : f ∈ d.fields) :
    ∀ name ∈ f.arguments.map (·.name) ++ ["auth_header"], Naming.isIdentifier name = true := by
  rw [List.forall_mem_append, List.forall_mem_singleton]
  refine ⟨List.forall_mem_map.2 fun a ha => ?_, by decide⟩
  exact Naming.isIdentifier_of_isName ((hNamed.fields f hf).2 a ha)

/-- **When identifiers that stand together differ.**  The names of a schema differ within each type
and field.  The variants of an enum then differ unless a reserved word is a value and its form with
an underscore is another.  Fields and parameters are put in snake case, and they differ if and only
if the names still do so then, next to `auth_header` for parameters, and no reserved word stands
next to its form with an underscore. -/
theorem identifiers_distinct_iff {sources : List Schema.Source} {introspect : Introspector}
    {home : ModelHome} {packages : List BindSource} {bound : Tree}
    (hLoad : Schema.Document.load sources = .ok doc) (hTree : Tree.ofDocument doc = .ok tree)
    (hBound : Autobind.bindAll introspect home packages tree = .ok bound)
    (hApart : ∀ d ∈ doc.definitions, d.Apart) :
    ∃ file stubs, ModelFile.ofTree bound = .ok file ∧ Stub.all bound = .ok stubs
      ∧ (∀ s ∈ file.structs, ∃ d, doc.get? s.name = some d
        ∧ Identifies (d.fields.map (·.name)) (s.fields.map (·.ident)))
      ∧ (∀ e ∈ file.enums, ∃ d, doc.get? e.name = some d
        ∧ e.variants.map (·.ident) = (d.values.map (·.name)).map Naming.identifier
        ∧ ((e.variants.map (·.ident)).Nodup ↔ Unsuffixed (d.values.map (·.name))))
      ∧ ∀ s ∈ stubs, ∀ kind, s.kind = Stub.operationKind kind →
        ∃ (f : Schema.Field) (parameters : List (String × String)) (result : String),
          Walk.IsOperation doc kind f ∧ s.key = (Walk.operation kind f).key
          ∧ s.Takes parameters result
          ∧ Identifies (f.arguments.map (·.name) ++ ["auth_header"]) (parameters.map (·.1)) := by
  have hNamed := Schema.Document.named_of_load hLoad
  obtain ⟨hDrawn, hDecided⟩ := Autobind.drawn_and_decided hTree hBound
  obtain ⟨file, hFile⟩ := exists_modelFile hDrawn hDecided
  obtain ⟨stubs, hStubs⟩ := exists_stubs hDrawn hDecided
  refine ⟨file, stubs, hFile, hStubs, fun s hs => ?_, fun e he => ?_, fun s hs kind hKind => ?_⟩
  · obtain ⟨d, hDefined, hIdents⟩ := ModelFile.idents_of_struct hDrawn hFile hs
    have hNames := isIdentifier_of_fields (hNamed d (Schema.Table.mem_of_get? hDefined))
    exact ⟨d, hDefined, hIdents ▸ Naming.identifies_map hNames⟩
  · obtain ⟨d, hDefined, hIdents⟩ := ModelFile.idents_of_enum hDrawn hFile he
    have hMem := Schema.Table.mem_of_get? hDefined
    refine ⟨d, hDefined, hIdents, ?_⟩
    rw [hIdents, Naming.nodup_map_identifier_iff (isIdentifier_of_values (hNamed d hMem))]
    exact and_iff_right (hApart d hMem).values
  · obtain ⟨f, hf, hOk⟩ := Stub.operation_of_mem_all hDrawn hStubs hs hKind
    obtain ⟨parameters, -, result, hTakes, hIdents, -, -⟩ := Stub.takes_of_ofOperation hOk
    obtain ⟨d, hMem, -, hField, -⟩ := id hf
    have hKept : Naming.fieldIdentifier "auth_header" = "auth_header" := by decide
    have hNames : parameters.map (·.1)
        = (f.arguments.map (·.name) ++ ["auth_header"]).map Naming.fieldIdentifier := by
      rw [hIdents, Walk.operation, List.map_append, List.map_map, List.map_map, List.map_singleton,
        hKept]
      rfl
    refine ⟨f, parameters, result, hf, (Stub.ofOperation_eq_ok hOk).1, hTakes, ?_⟩
    exact hNames ▸ Naming.identifies_map (isIdentifier_of_arguments (hNamed d hMem) hField)

/-- The parameters of the query of the ring differ. -/
theorem ring_has_distinct_parameters :
    Schema.Document.load Sample.ringSources = .ok Sample.ringDocument
    ∧ Tree.ofDocument Sample.ringDocument = .ok Sample.ringTree
    ∧ Autobind.bindAll Sample.noPackage Sample.ringHome [] Sample.ringTree = .ok Sample.ringBound
    ∧ (∀ d ∈ Sample.ringDocument.definitions, d.Apart)
    ∧ ∃ stubs, Stub.all Sample.ringBound = .ok stubs ∧ ∀ s ∈ stubs, s.kind = .query →
      ∃ (parameters : List (String × String)) (result : String), s.Takes parameters result
        ∧ parameters.map (·.1) = ["id", "auth_header"] ∧ (parameters.map (·.1)).Nodup := by
  have hApart : ∀ d ∈ Sample.ringDocument.definitions, d.Apart := by decide
  obtain ⟨-, stubs, -, hStubs, -, -, hParameters⟩ := identifiers_distinct_iff
    Sample.load_ringSources Sample.ofDocument_ringDocument Sample.bindAll_ringTree hApart
  refine ⟨Sample.load_ringSources, Sample.ofDocument_ringDocument, Sample.bindAll_ringTree, hApart,
    stubs, hStubs, fun s hs hKind => ?_⟩
  obtain ⟨f, parameters, result, hf, -, hTakes, hIdentifies⟩ := hParameters s hs .query hKind
  have hOnly : f.arguments.map (·.name) = ["id"] := by
    obtain ⟨d, hd, hRoot, hField, hAsks⟩ := hf
    have hAll : ∀ d ∈ Sample.ringDocument.definitions, some d.name = some "Query" →
        ∀ f ∈ d.fields, f.arguments.map (·.name) = ["id"] := by decide
    exact hAll d hd hRoot f hField
  rw [hOnly] at hIdentifies
  exact ⟨parameters, result, hTakes, hIdentifies.eq_map.trans (by decide),
    hIdentifies.nodup_iff.2 (by decide)⟩

end Generation

/-! ### Names that clash -/

namespace Sample

def twinTexts : List String :=
  ["type Query\x7ba(authHeader:Int):T@lambda\x7d",
   "type T\x7buserId:Int user_id:Int e:E\x7d",
   "enum E\x7bSelf Self_\x7d"]

def twinSources : List Schema.Source := twinTexts.map (⟨"schema.graphql", ·⟩)

def twinQuery : Schema.Field :=
  { askedField "a" ⟨"T", false, false⟩ with
    arguments := [⟨"authHeader", none, ⟨"Int", false, false⟩⟩] }

def twinField (name type : String) : Schema.Field :=
  { askedField name ⟨type, false, false⟩ with directives := [] }

def twinFields : List Schema.Field :=
  [twinField "userId" "Int", twinField "user_id" "Int", twinField "e" "E"]

def twinValues : List Schema.EnumValue := [⟨"Self", none⟩, ⟨"Self_", none⟩]

def twinDefinitions : List Schema.Definition :=
  [{ objectNamed "Query" with fields := [twinQuery] },
   { objectNamed "T" with fields := twinFields },
   { objectNamed "E" with kind := .enum, values := twinValues }]

theorem nodup_twins :
    ((Schema.Prelude.definitions ++ twinDefinitions).map (·.name)).Nodup := by decide

def twinDocument : Schema.Document := documentOf _ nodup_twins "Query"

def twinModel : Model where
  name := "T"
  description := none
  fields := twinFields.map (Walk.field "T")
  implements := []
  events := []

def twinOperation : Operation where
  kind := .query
  name := "a"
  description := none
  arguments := [⟨"authHeader", ⟨"Int", false, false⟩⟩]
  returns := ⟨"T", false, false⟩
  middleware := []

def twinTree : Tree where
  entries := .ofList [("T", .model twinModel), ("E", .enum ⟨"E", none, twinValues⟩)]
  fieldResolvers := .empty
  queries := .ofList [("a", twinOperation)]
  mutations := .empty
  middleware := .empty
  bindings := .ofList
    [("T", .pending "T"), ("E", .pending "E"), ("Int", .primitive "Int" "i64")]

def twinBound : Tree :=
  { twinTree with
    bindings := twinTree.bindings.mapValues fun _ b => b.bind (.generated "crate::model") }

theorem load_twinSources : Schema.Document.load twinSources = .ok twinDocument := by
  have hRead : ∀ e ∈ twinTexts.zip (twinDefinitions.map Schema.Statement.define),
      Schema.Statement.readAll? "schema.graphql" false e.1 = some [e.2] := by
    simp only [twinTexts, twinDefinitions, List.map_cons, List.map_nil, List.zip_cons_cons,
      List.zip_nil_right, List.forall_mem_cons]
    refine ⟨?_, ?_, ?_, by simp⟩ <;> cbv
  exact Schema.Document.load_of_readAll? hRead rfl rfl

theorem ofDocument_twinDocument : Tree.ofDocument twinDocument = .ok twinTree := by
  have hSeeds : twinDocument.definitions.flatMap (Walk.seedTasks twinDocument)
      = [.need "T" "Query.a", .need "Int" "Query.a(authHeader)", .operation .query twinQuery,
        .need "E" "E"] := rfl
  rw [Tree.ofDocument, hSeeds]
  iterate 7 refine (Walk.run_of_step rfl).trans ?_
  show Walk.run twinDocument twinTree [] = .ok twinTree
  rw [Walk.run]

theorem bindAll_twinTree :
    Autobind.bindAll noPackage ringHome [] twinTree = .ok twinBound := rfl

end Sample

/-- **Identifiers that stand together can be the same.**  All names of the schema differ, but a struct
has one field twice, an enum one variant twice and a function one parameter twice. -/
theorem Generation.twins_share_identifiers :
    Schema.Document.load Sample.twinSources = .ok Sample.twinDocument
    ∧ Tree.ofDocument Sample.twinDocument = .ok Sample.twinTree
    ∧ Autobind.bindAll Sample.noPackage Sample.ringHome [] Sample.twinTree = .ok Sample.twinBound
    ∧ (∀ d ∈ Sample.twinDocument.definitions, d.Apart)
    ∧ ∃ file stubs, ModelFile.ofTree Sample.twinBound = .ok file
      ∧ Stub.all Sample.twinBound = .ok stubs
      ∧ (∃ s ∈ file.structs, s.fields.map (·.ident) = ["user_id", "user_id", "e"]
        ∧ ¬(s.fields.map (·.ident)).Nodup)
      ∧ (∃ e ∈ file.enums, e.variants.map (·.ident) = ["Self_", "Self_"]
        ∧ ¬(e.variants.map (·.ident)).Nodup)
      ∧ ∃ s ∈ stubs, s.kind = .query
        ∧ ∃ (parameters : List (String × String)) (result : String), s.Takes parameters result
          ∧ parameters.map (·.1) = ["auth_header", "auth_header"]
          ∧ ¬(parameters.map (·.1)).Nodup := by
  obtain ⟨hDrawn, hDecided⟩ :=
    Autobind.drawn_and_decided Sample.ofDocument_twinDocument Sample.bindAll_twinTree
  obtain ⟨file, hFile⟩ := exists_modelFile hDrawn hDecided
  obtain ⟨stubs, hStubs⟩ := exists_stubs hDrawn hDecided
  obtain ⟨t, ht, hFields⟩ := ModelFile.exists_struct hFile (m := Sample.twinModel)
    (.tail _ (.head _)) rfl
  obtain ⟨e, he, hVariants⟩ := ModelFile.exists_enum hFile
    (show .enum ⟨"E", none, Sample.twinValues⟩ ∈ Sample.twinBound.entries.values from .head _) rfl
  obtain ⟨s, hs, hOk⟩ := Stub.exists_ofOperation_eq_ok hStubs (o := Sample.twinOperation) (.head _)
  obtain ⟨parameters, -, result, hTakes, hNames, -, -⟩ := Stub.takes_of_ofOperation hOk
  obtain ⟨-, hKind, -⟩ := Stub.ofOperation_eq_ok hOk
  have hIdents : t.fields.map (·.ident) = ["user_id", "user_id", "e"] := hFields.trans (by decide)
  have hTwins : e.variants.map (·.ident) = ["Self_", "Self_"] := hVariants.trans (by decide)
  have hParameters : parameters.map (·.1) = ["auth_header", "auth_header"] :=
    hNames.trans (by decide)
  refine ⟨Sample.load_twinSources, Sample.ofDocument_twinDocument, Sample.bindAll_twinTree,
    by decide, file, stubs, hFile, hStubs, ⟨t, ht, hIdents, ?_⟩, ⟨e, he, hTwins, ?_⟩, s, hs, hKind,
    parameters, result, hTakes, hParameters, ?_⟩
  · rw [hIdents]
    decide
  · rw [hTwins]
    decide
  · rw [hParameters]
    decide

end ResolverScaffold

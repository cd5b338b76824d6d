import Mathlib
import ResolverScaffold.Proofs.Generation.Declared

/-!
# What belongs to an interface

A model is recorded with the interfaces and unions it belongs to, whichever of them the walk met
first.  An interface brings its objects with it and a union its members, so a model that should be
there is never missed.  `IsVariant` says from the schema alone which models belong to an interface,
and `exists_model_iff` that the tree has these.

Nothing checks what stands after `implements`.  A type may list a union there, and an extension may
let an input list an interface: such a type belongs to what it lists, but only if something else
brings it into the tree (`Belongs.stray`).
-/

namespace ResolverScaffold.Walk

open Schema (Document Definition)

variable {doc : Document} {tree bound : Tree} {i : Interface} {d : Definition} {name : String}

inductive Belongs (doc : Document) (i : Interface) (d : Definition) : Prop
  /-- An object that lists the interface. -/
  | implementor : i.isUnion = false → d.kind = .object → i.name ∈ d.implements →
      d.name ≠ doc.query → some d.name ≠ doc.mutation → Belongs doc i d
  /-- A member of the union. -/
  | member {u : Definition} : i.isUnion = true → d.kind = .object ∨ d.kind = .input →
      u ∈ doc.definitions → u.name = i.name → u.kind = .union → d.name ∈ u.members →
      Belongs doc i d
  /-- A type that lists what it cannot implement. -/
  | stray : (i.isUnion = true ∧ d.kind = .object) ∨ d.kind = .input → i.name ∈ d.implements →
      Reachable doc d.name → Belongs doc i d

/-- The type of a name belongs to an interface or union, and it is generated as a model. -/
def IsVariant (doc : Document) (i : Interface) (name : String) : Prop :=
  primitive? name = none ∧ ∃ d ∈ doc.definitions, d.name = name ∧ Belongs doc i d

/-! ### Entries by kind -/

theorem entry_eq_model {m : Model} (h : entry doc d = .model m) :
    (d.kind = .object ∨ d.kind = .input) ∧ m.implements = parents doc d := by
  rw [entry] at h
  split at h <;> cases h
  · rename_i hKind
    exact ⟨.inl hKind, rfl⟩
  · rename_i hKind
    exact ⟨.inr hKind, rfl⟩

theorem exists_entry_eq_model (doc : Document) (h : d.kind = .object ∨ d.kind = .input) :
    ∃ m, entry doc d = .model m ∧ m.implements = parents doc d := by
  rw [entry]
  rcases h with h | h <;> rw [h] <;> exact ⟨_, rfl, rfl⟩

theorem entry_eq_interface (h : entry doc d = .interface i) :
    d.name = i.name ∧ d.kind = if i.isUnion then .union else .interface := by
  rw [entry] at h
  split at h <;> cases h
  all_goals
    rename_i hKind
    exact ⟨rfl, hKind⟩

/-! ### Models and interfaces of the tree of a schema -/

/-- A model of the tree is an object or input that can be reached. -/
theorem exists_model_iff (hTree : Tree.ofDocument doc = .ok tree)
    {parent : String} :
    (∃ m ∈ tree.models, m.name = name ∧ parent ∈ m.implements) ↔
      Reachable doc name ∧ primitive? name = none ∧ ∃ d ∈ doc.definitions, d.name = name
        ∧ (d.kind = .object ∨ d.kind = .input) ∧ parent ∈ parents doc d := by
  have hDrawn := drawn_of_ofDocument hTree
  constructor
  · rintro ⟨m, hm, rfl, hParent⟩
    obtain ⟨key, hGet⟩ := Tree.mem_models_iff.1 hm
    obtain rfl := hDrawn.model_name hGet
    obtain ⟨hReachable, hNot⟩ :=
      (contains_entries_iff hTree).1 (tree.entries.contains_eq_true_iff.2 ⟨_, hGet⟩)
    obtain ⟨-, d, hDoc, hEntry⟩ := hDrawn.entry _ _ hGet
    obtain ⟨hKind, hImplements⟩ := entry_eq_model hEntry.symm
    rw [hImplements] at hParent
    exact ⟨hReachable, hNot, d, Schema.Table.mem_of_get? hDoc, Schema.Table.name_of_get? hDoc, hKind, hParent⟩
  · rintro ⟨hReachable, hNot, d, hd, rfl, hKind, hParent⟩
    obtain ⟨e, hGet⟩ :=
      tree.entries.contains_eq_true_iff.1 ((contains_entries_iff hTree).2 ⟨hReachable, hNot⟩)
    obtain ⟨-, d', hDoc, rfl⟩ := hDrawn.entry _ _ hGet
    obtain rfl := Document.eq_of_name_eq (Schema.Table.mem_of_get? hDoc) hd (Schema.Table.name_of_get? hDoc)
    obtain ⟨m, hModel, hImplements⟩ := exists_entry_eq_model doc hKind
    rw [hModel] at hGet
    rw [← hImplements] at hParent
    exact ⟨m, Tree.mem_models_iff.2 ⟨_, hGet⟩, hDrawn.model_name hGet, hParent⟩

theorem exists_definition_of_mem_interfaces (hTree : Tree.ofDocument doc = .ok tree)
    (hi : i ∈ tree.interfaces) :
    Reachable doc i.name ∧ primitive? i.name = none ∧ ∃ d, doc.get? i.name = some d
      ∧ d.kind = if i.isUnion then .union else .interface := by
  obtain ⟨key, hGet⟩ := Tree.mem_interfaces_iff.1 hi
  obtain rfl := (drawn_of_ofDocument hTree).entry_name hGet
  obtain ⟨hReachable, hNot⟩ :=
    (contains_entries_iff hTree).1 (tree.entries.contains_eq_true_iff.2 ⟨_, hGet⟩)
  obtain ⟨-, d, hDoc, hEntry⟩ := (drawn_of_ofDocument hTree).entry _ _ hGet
  exact ⟨hReachable, hNot, d, hDoc, (entry_eq_interface hEntry.symm).2⟩

section Tree

variable (hTree : Tree.ofDocument doc = .ok tree)
  (hi : i ∈ tree.interfaces)

include hTree hi

/-- What belongs to an interface of the tree can be reached: the interface brings it along. -/
theorem Belongs.reachable (hd : d ∈ doc.definitions) (h : Belongs doc i d) :
    Reachable doc d.name := by
  obtain ⟨hReachable, hNot, e, hDoc, hKind⟩ := exists_definition_of_mem_interfaces hTree hi
  have hName := Schema.Table.name_of_get? hDoc
  cases h with
  | implementor hUnion hObject hMem hQuery hMutation =>
    rw [hUnion] at hKind
    rw [← hName] at hMem
    exact .edge hReachable ⟨hNot, e, hDoc, .implementor hKind hd hObject hMem
      (isOperationRoot_eq_false_iff.2 ⟨hQuery, hMutation⟩)⟩
  | member hUnion _ hu hSame _ hMem =>
    rw [hUnion] at hKind
    obtain rfl := Document.eq_of_name_eq (Schema.Table.mem_of_get? hDoc) hu (hName.trans hSame.symm)
    exact .edge hReachable ⟨hNot, e, hDoc, .member hKind hMem⟩
  | stray _ _ hSelf => exact hSelf

theorem belongs_iff (hd : d ∈ doc.definitions) (hNot : primitive? d.name = none) :
    Belongs doc i d ↔ Reachable doc d.name ∧ (d.kind = .object ∨ d.kind = .input)
      ∧ i.name ∈ parents doc d := by
  constructor
  · intro h
    refine ⟨h.reachable hTree hi hd, ?_⟩
    rw [mem_parents_iff]
    cases h with
    | implementor _ hObject hMem => exact ⟨.inl hObject, .inl hMem⟩
    | member _ hKind hu hSame hUnion hMem => exact ⟨hKind, .inr ⟨_, hu, hUnion, hMem, hSame⟩⟩
    | stray hCases hMem => exact ⟨hCases.imp_left And.right, .inl hMem⟩
  · rintro ⟨hReachable, hKind, hParent⟩
    obtain ⟨-, -, e, hDoc, hInterface⟩ := exists_definition_of_mem_interfaces hTree hi
    rcases mem_parents_iff.1 hParent with hMem | ⟨u, hu, hUnion, hMem, hSame⟩
    · rcases hKind with hObject | hInput
      · cases hCase : i.isUnion with
        | true => exact .stray (.inl ⟨hCase, hObject⟩) hMem hReachable
        | false =>
          have hUsable := (explored_of_ofDocument hTree).usable d.name
            ((contains_bindings_iff hTree).2 hReachable)
          obtain ⟨-, hQuery, hMutation⟩ := hUsable hNot
          exact .implementor hCase hObject hMem hQuery hMutation
      · exact .stray (.inr hInput) hMem hReachable
    · -- the union is the definition of the interface, there is no other of that name
      obtain rfl := Document.eq_of_name_eq (Schema.Table.mem_of_get? hDoc) hu
        ((Schema.Table.name_of_get? hDoc).trans hSame.symm)
      have hCase : i.isUnion = true := by
        rw [hUnion] at hInterface
        cases hCase : i.isUnion with
        | true => rfl
        | false => rw [hCase] at hInterface; cases hInterface
      exact .member hCase hKind hu hSame hUnion hMem

/-- **The models that belong to an interface of the tree are its variants.** -/
theorem exists_model_iff_isVariant :
    (∃ m ∈ tree.models, m.name = name ∧ i.name ∈ m.implements) ↔ IsVariant doc i name := by
  rw [exists_model_iff hTree, IsVariant]
  constructor
  · rintro ⟨hReachable, hNot, d, hd, rfl, hKind, hParent⟩
    have hBelongs := (belongs_iff hTree hi hd hNot).2 ⟨hReachable, hKind, hParent⟩
    exact ⟨hNot, d, hd, rfl, hBelongs⟩
  · rintro ⟨hNot, d, hd, rfl, hBelongs⟩
    obtain ⟨hReachable, hKind, hParent⟩ := (belongs_iff hTree hi hd hNot).1 hBelongs
    exact ⟨hReachable, hNot, d, hd, rfl, hKind, hParent⟩

end Tree

end ResolverScaffold.Walk

/-! ### Variants in the model file -/

namespace ResolverScaffold.ModelFile

variable {doc : Schema.Document} {tree bound : Tree} {i : Interface} {file : ModelFile}

/-- The names of the models that belong to an interface. -/
def memberNames (tree : Tree) (name : String) : List String := (membersOf tree name).map (·.name)

theorem mem_memberNames_iff {name parent : String} :
    name ∈ memberNames tree parent ↔ ∃ m ∈ tree.models, m.name = name ∧ parent ∈ m.implements := by
  simp only [memberNames, membersOf, List.mem_map, List.mem_filter, List.contains_iff_mem]
  constructor
  · rintro ⟨m, ⟨hm, hParent⟩, hName⟩
    exact ⟨m, hm, hName, hParent⟩
  · rintro ⟨m, hm, hName, hParent⟩
    exact ⟨m, ⟨hm, hParent⟩, hName⟩

theorem pairwise_memberNames (hDrawn : Walk.Drawn doc tree) (name : String) :
    (memberNames tree name).Pairwise (· < ·) := by
  have hSublist : List.Sublist (memberNames tree name) tree.entries.keys :=
    (List.filter_sublist.map _).trans hDrawn.sublist_models
  exact tree.entries.pairwise_keys.sublist hSublist

/-- **How an interface is declared**: as a newtype if nothing belongs to it, otherwise as a union
over what does. -/
theorem declared_interface (hFile : ofTree bound = .ok file) (hi : i ∈ bound.interfaces)
    (hGenerated : (bound.bindings.get? i.name).any (·.isGenerated) = true) :
    (memberNames bound i.name = [] →
      ⟨i.name, Naming.docLines i.description⟩ ∈ file.newtypes)
    ∧ (memberNames bound i.name ≠ [] → ∃ u ∈ file.unions, u.name = i.name
      ∧ u.members.map (·.ident) = (memberNames bound i.name).map Naming.identifier
      ∧ u.members.map (.ok ·.type)
        = (memberNames bound i.name).map (Render.baseType bound · .models)) := by
  obtain ⟨items, hItems, rfl⟩ := ofTree_eq_ok hFile
  obtain ⟨key, hGet⟩ := Tree.mem_interfaces_iff.1 hi
  have hEntry : Entry.interface i ∈ bound.entries.values.filter (isGenerated bound) :=
    List.mem_filter.2 ⟨bound.entries.mem_values_iff.2 ⟨key, hGet⟩, hGenerated⟩
  obtain ⟨it, hMem, hItem⟩ := exists_mem_of_mapM_eq_ok hItems hEntry
  obtain ⟨members, hMembers, rfl⟩ := item_interface hItem
  have hIdents : members.map (·.ident) = (memberNames bound i.name).map Naming.identifier := by
    rw [memberNames, List.map_map]
    exact map_eq_of_mapM_eq_ok hMembers fun m _ member hMember => (memberItem_eq_ok hMember).1
  have hTypes : members.map (.ok ·.type)
      = (memberNames bound i.name).map (Render.baseType bound · .models) := by
    rw [memberNames, List.map_map]
    exact map_eq_of_mapM_eq_ok hMembers fun m _ member hMember => (memberItem_eq_ok hMember).2.symm
  have hEmpty : members.isEmpty = true ↔ memberNames bound i.name = [] := by
    rw [List.isEmpty_iff, ← List.map_eq_nil_iff (f := (·.ident)), hIdents, List.map_eq_nil_iff]
  constructor
  · intro hNone
    rw [if_pos (hEmpty.2 hNone)] at hMem
    exact mem_newtypes_iff.2 hMem
  · intro hSome
    rw [if_neg (mt hEmpty.1 hSome)] at hMem
    exact ⟨_, mem_unions_iff.2 hMem, rfl, hIdents, hTypes⟩

/-- **Interfaces and unions are complete.**  The models of a tree that belong to one are those that
the schema says, and they are the variants of the generated type: each once and by name.  If there
are none, the type is a newtype. -/
theorem variants_are_complete (hTree : Tree.ofDocument doc = .ok tree) (hi : i ∈ tree.interfaces) :
    (∀ name, (∃ m ∈ tree.models, m.name = name ∧ i.name ∈ m.implements) ↔
      Walk.IsVariant doc i name)
    ∧ ∀ introspect home places bound, Autobind.bindAll introspect home places tree = .ok bound →
      (bound.bindings.get? i.name).any (·.isGenerated) = true →
      ∃ file names, ofTree bound = .ok file ∧ file.declared.count i.name = 1
        ∧ names.Pairwise (· < ·) ∧ (∀ name, name ∈ names ↔ Walk.IsVariant doc i name)
        ∧ (names = [] → ⟨i.name, Naming.docLines i.description⟩ ∈ file.newtypes)
        ∧ (names ≠ [] → ∃ u ∈ file.unions, u.name = i.name
          ∧ u.members.map (·.ident) = names.map Naming.identifier
          ∧ u.members.map (.ok ·.type) = names.map (Render.baseType bound · .models)) := by
  refine ⟨fun name => Walk.exists_model_iff_isVariant hTree hi, ?_⟩
  intro introspect home places bound hBound hGenerated
  obtain ⟨hDrawn, hDecided⟩ := Autobind.drawn_and_decided hTree hBound
  obtain ⟨file, hFile⟩ := exists_modelFile hDrawn hDecided
  have hCount := count_declared_of_bound hTree hBound hFile i.name
  rw [if_pos hGenerated] at hCount
  have hEntries := Autobind.entries_bindAll hBound
  have hInterfaces : bound.interfaces = tree.interfaces := by
    rw [Tree.interfaces, hEntries, Tree.interfaces]
  have hModels : bound.models = tree.models := by
    rw [Tree.models, hEntries, Tree.models]
  refine ⟨file, memberNames bound i.name, hFile, hCount, pairwise_memberNames hDrawn i.name, ?_,
    declared_interface hFile (hInterfaces ▸ hi) hGenerated⟩
  intro name
  rw [mem_memberNames_iff, hModels, Walk.exists_model_iff_isVariant hTree hi]

/-- In the ring `Middleware` belongs to `Any` and `User` does not. -/
theorem variants_in_ring :
    Schema.Document.load Sample.ringSources = .ok Sample.ringDocument
    ∧ Tree.ofDocument Sample.ringDocument = .ok Sample.ringTree
    ∧ Autobind.bindAll Sample.noPackage Sample.ringHome [] Sample.ringTree = .ok Sample.ringBound
    ∧ ∃ i ∈ Sample.ringTree.interfaces, i.name = "Any"
      ∧ Walk.IsVariant Sample.ringDocument i "Middleware"
      ∧ ¬Walk.IsVariant Sample.ringDocument i "User"
      ∧ ∃ file, ofTree Sample.ringBound = .ok file ∧ file.declared.count "Any" = 1
        ∧ ∃ u ∈ file.unions, u.name = "Any" ∧ "Middleware" ∈ u.members.map (·.ident) := by
  have hAny : (⟨"Any", none, true, []⟩ : Interface) ∈ Sample.ringTree.interfaces := by decide
  obtain ⟨hModels, hVariants⟩ := variants_are_complete
    Sample.ofDocument_ringDocument hAny
  obtain ⟨file, names, hFile, hCount, -, hNames, -, hUnion⟩ :=
    hVariants _ _ _ _ Sample.bindAll_ringTree rfl
  have hVariant := (hModels "Middleware").1 (by decide)
  have hMem := (hNames "Middleware").2 hVariant
  obtain ⟨u, hu, hName, hIdents, -⟩ := hUnion (List.ne_nil_of_mem hMem)
  refine ⟨Sample.load_ringSources, Sample.ofDocument_ringDocument, Sample.bindAll_ringTree, _, hAny,
    rfl, hVariant, mt (hModels "User").2 (by decide), file, hFile, hCount, u, hu, hName, ?_⟩
  rw [hIdents]
  exact List.mem_map.2 ⟨_, hMem, by decide⟩

end ResolverScaffold.ModelFile

/-! ### Types that list what they cannot implement -/

namespace ResolverScaffold.Sample

def strayTexts : List String :=
  ["interface I\x7bx:Int\x7d", "input F\x7bx:Int\x7d", "extend type F implements I",
   "union U=A", "type A\x7bx:Int\x7d", "type B implements U\x7bf:F@lambda\x7d"]

def straySources : List Schema.Source := strayTexts.map (⟨"schema.graphql", ·⟩)

def plainField : Schema.Field :=
  { askedField "x" ⟨"Int", false, false⟩ with directives := [] }

def inputField : Schema.Field := askedField "f" ⟨"F", false, false⟩

def strayStatements : List Schema.Statement :=
  [.define { objectNamed "I" with kind := .interface, fields := [plainField] },
   .define { objectNamed "F" with kind := .input, fields := [plainField] },
   .extend { objectNamed "F" with implements := ["I"] },
   .define { objectNamed "U" with kind := .union, members := ["A"] },
   .define { objectNamed "A" with fields := [plainField] },
   .define { objectNamed "B" with implements := ["U"], fields := [inputField] }]

def strayDefinitions : List Schema.Definition :=
  [{ objectNamed "I" with kind := .interface, fields := [plainField] },
   { objectNamed "F" with kind := .input, fields := [plainField], implements := ["I"] },
   { objectNamed "U" with kind := .union, members := ["A"] },
   { objectNamed "A" with fields := [plainField] },
   { objectNamed "B" with implements := ["U"], fields := [inputField] }]

theorem nodup_stray : ((Schema.Prelude.definitions ++ strayDefinitions
    ++ [Schema.Draft.emptyQuery]).map (·.name)).Nodup := by decide

def strayDocument : Schema.Document := documentOf _ nodup_stray "Query"

def strayTree : Tree where
  entries := .ofList
    [("I", .interface ⟨"I", none, false, [Walk.field "I" plainField]⟩),
     ("F", ringModel "F" [] ["I"] plainField),
     ("U", .interface ⟨"U", none, true, []⟩),
     ("A", ringModel "A" [] ["U"] plainField),
     ("B", ringModel "B" [] ["U"] inputField)]
  fieldResolvers := .ofList [("B_f", ⟨"B", Walk.field "B" inputField, []⟩)]
  queries := .empty
  mutations := .empty
  middleware := .empty
  bindings := .ofList
    [("I", .pending "I"), ("F", .pending "F"), ("U", .pending "U"), ("A", .pending "A"),
     ("B", .pending "B"), ("Int", .primitive "Int" "i64")]

def strayBound : Tree :=
  { strayTree with
    bindings := strayTree.bindings.mapValues fun _ b => b.bind (.generated "crate::model") }

theorem load_straySources : Schema.Document.load straySources = .ok strayDocument := by
  have hRead : ∀ e ∈ strayTexts.zip strayStatements,
      Schema.Statement.readAll? "schema.graphql" false e.1 = some [e.2] := by
    simp only [strayTexts, strayStatements, List.zip_cons_cons, List.zip_nil_right,
      List.forall_mem_cons]
    refine ⟨?_, ?_, ?_, ?_, ?_, ?_, by simp⟩ <;> cbv
  exact Schema.Document.load_of_readAll? hRead rfl rfl

theorem ofDocument_strayDocument : Tree.ofDocument strayDocument = .ok strayTree := by
  have hSeeds : strayDocument.definitions.flatMap (Walk.seedTasks strayDocument)
      = [.need "B" "B"] := rfl
  rw [Tree.ofDocument, hSeeds]
  iterate 10 refine (Walk.run_of_step rfl).trans ?_
  show Walk.run strayDocument strayTree [] = .ok strayTree
  rw [Walk.run]

theorem bindAll_strayTree : Autobind.bindAll noPackage ringHome [] strayTree = .ok strayBound := rfl

end ResolverScaffold.Sample

namespace ResolverScaffold.ModelFile

/-- **A variant can be neither an implementing object nor a member.**  The input `F` has got the
interface `I` by an extension, and `B` lists the union `U` among its interfaces; both become
variants. -/
theorem stray_types_are_variants :
    Schema.Document.load Sample.straySources = .ok Sample.strayDocument
    ∧ Tree.ofDocument Sample.strayDocument = .ok Sample.strayTree
    ∧ Autobind.bindAll Sample.noPackage Sample.ringHome [] Sample.strayTree = .ok Sample.strayBound
    ∧ (∀ d ∈ Sample.strayDocument.definitions, d.kind = .object → "I" ∉ d.implements)
    ∧ (∀ d ∈ Sample.strayDocument.definitions, "B" ∉ d.members)
    ∧ ∃ file, ofTree Sample.strayBound = .ok file
      ∧ file.unions.map (fun u => (u.name, u.members.map (·.ident)))
        = [("I", ["F"]), ("U", ["A", "B"])] := by
  exact ⟨Sample.load_straySources, Sample.ofDocument_strayDocument, Sample.bindAll_strayTree,
    by decide, by decide, _, rfl, by decide⟩

end ResolverScaffold.ModelFile

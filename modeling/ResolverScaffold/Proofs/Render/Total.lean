import ResolverScaffold.Proofs.Autobind
import ResolverScaffold.Proofs.Outcome
import ResolverScaffold.Render.Files

/-!
# Rendering a bound tree succeeds

A type can be written once its name has a decided binding (`exists_baseType`).
In a tree that was drawn from a schema and bound, every name that rendering asks
for has one: the types of fields, arguments and results because binding looked at
them, and the parents of field resolvers and the members of unions because they
are entries.  So all files can be rendered (`exists_renderAll`).
-/

namespace ResolverScaffold

open Autobind (Decided isBound)
open Walk (Drawn)

/-! ### Types -/

theorem exists_baseType {tree : Tree} {name : String} (h : isBound tree name = true)
    (scope : Render.Scope) : ∃ type, Render.baseType tree name scope = .ok type := by
  rw [isBound] at h
  rw [Render.baseType]
  cases hGet : tree.bindings.get? name with
  | none => simp [hGet] at h
  | some b =>
    obtain ⟨_, ident, placement⟩ := b
    cases placement with
    | pending => simp [hGet, Binding.isResolved] at h
    | primitive => exact ⟨_, rfl⟩
    | external module => exact ⟨_, rfl⟩
    | generated module => exact ⟨_, rfl⟩

theorem exists_valueType {tree : Tree} {type : TypeRef} (h : isBound tree type.name = true)
    (scope : Render.Scope) : ∃ text, Render.valueType tree type scope = .ok text := by
  obtain ⟨base, hBase⟩ := exists_baseType h scope
  exact ⟨_, by rw [Render.valueType, hBase]; rfl⟩

theorem exists_fieldType {tree : Tree} {type : TypeRef} (h : isBound tree type.name = true)
    (scope : Render.Scope) : ∃ text, Render.fieldType tree type scope = .ok text := by
  obtain ⟨base, hBase⟩ := exists_baseType h scope
  exact ⟨_, by rw [Render.fieldType, hBase]; rfl⟩

/-! ### Names that are bound -/

theorem isBound_of_contains {tree : Tree} (h : Decided tree) {name : String}
    (hName : tree.bindings.contains name = true) : isBound tree name = true := by
  obtain ⟨b, hGet⟩ := tree.bindings.contains_eq_true_iff.1 hName
  rw [isBound, hGet]
  exact h.settled name b hGet

theorem isBound_of_model {tree : Tree} (h : Decided tree) {m : Model} (hm : m ∈ tree.models)
    {f : Field} (hf : f ∈ m.fields) : isBound tree f.type.name = true := by
  refine h.reference (m.name ++ "." ++ f.name, f.type) ?_
  rw [Tree.references, List.mem_append, List.mem_append]
  exact .inl (.inl (List.mem_flatMap.2 ⟨m, hm, List.mem_map.2 ⟨f, hf, rfl⟩⟩))

theorem isBound_of_interface {tree : Tree} (h : Decided tree) {i : Interface}
    (hi : i ∈ tree.interfaces) {f : Field} (hf : f ∈ i.fields) :
    isBound tree f.type.name = true := by
  refine h.reference (i.name ++ "." ++ f.name, f.type) ?_
  rw [Tree.references, List.mem_append, List.mem_append]
  exact .inl (.inr (List.mem_flatMap.2 ⟨i, hi, List.mem_map.2 ⟨f, hf, rfl⟩⟩))

theorem isBound_of_operation {tree : Tree} (h : Decided tree) {o : Operation}
    (ho : o ∈ tree.operations) {place : String} {type : TypeRef}
    (hType : (place, type) ∈ Tree.operationReferences o) : isBound tree type.name = true := by
  refine h.reference (place, type) ?_
  rw [Tree.references, List.mem_append]
  exact .inr (List.mem_flatMap.2 ⟨o, ho, hType⟩)

theorem isBound_returns {tree : Tree} (h : Decided tree) {o : Operation}
    (ho : o ∈ tree.operations) : isBound tree o.returns.name = true :=
  isBound_of_operation h ho List.mem_cons_self

theorem isBound_argument {tree : Tree} (h : Decided tree) {o : Operation}
    (ho : o ∈ tree.operations) {a : Parameter} (ha : a ∈ o.arguments) :
    isBound tree a.type.name = true :=
  isBound_of_operation h ho (List.mem_cons_of_mem _ (List.mem_map.2 ⟨a, ha, rfl⟩))

/-- The parent of a field resolver is an entry with the field, so both have a binding. -/
theorem isBound_of_fieldResolver {doc : Schema.Document} {tree : Tree} (hDrawn : Drawn doc tree)
    (hDecided : Decided tree) {r : FieldResolver} (hr : r ∈ tree.fieldResolvers.values) :
    isBound tree r.parent = true ∧ isBound tree r.field.type.name = true := by
  obtain ⟨key, hGet⟩ := tree.fieldResolvers.mem_values_iff.1 hr
  obtain ⟨-, d, f, hAsks, rfl⟩ := hDrawn.fieldResolver key r hGet
  obtain ⟨hParent, -⟩ := hDrawn.entry d.name _ hAsks.entered
  refine ⟨isBound_of_contains hDecided hParent, ?_⟩
  have hField : Walk.field d.name f ∈ d.fields.map (Walk.field d.name) :=
    List.mem_map.2 ⟨f, hAsks.mem, rfl⟩
  have hEntered := hAsks.entered
  have hKind := hAsks.hasFields
  rw [Walk.entry] at hEntered
  cases hCase : d.kind <;> rw [hCase] at hEntered hKind
  case object => exact isBound_of_model hDecided (Tree.mem_models_iff.2 ⟨_, hEntered⟩) hField
  case input => exact isBound_of_model hDecided (Tree.mem_models_iff.2 ⟨_, hEntered⟩) hField
  case interface => exact isBound_of_interface hDecided (Tree.mem_interfaces_iff.2 ⟨_, hEntered⟩) hField
  all_goals cases hKind

/-! ### Files -/

section Bound

variable {doc : Schema.Document} {tree : Tree}

theorem exists_stubOfOperation (hDecided : Decided tree) {o : Operation}
    (ho : o ∈ tree.operations) : ∃ stub, Stub.ofOperation tree o = .ok stub := by
  have hParameter : ∀ a ∈ o.arguments, ∃ text, Stub.parameter tree a = .ok text := by
    intro a ha
    obtain ⟨type, hType⟩ := exists_valueType (isBound_argument hDecided ho ha) .elsewhere
    exact ⟨_, by rw [Stub.parameter, hType]; rfl⟩
  obtain ⟨parameters, hParameters⟩ := exists_mapM_eq_ok hParameter
  obtain ⟨result, hResult⟩ := exists_valueType (isBound_returns hDecided ho) .elsewhere
  exact ⟨_, by rw [Stub.ofOperation, hParameters, hResult]; rfl⟩

theorem exists_stubOfField (hDrawn : Drawn doc tree) (hDecided : Decided tree) {r : FieldResolver}
    (hr : r ∈ tree.fieldResolvers.values) : ∃ stub, Stub.ofField tree r = .ok stub := by
  obtain ⟨hParent, hType⟩ := isBound_of_fieldResolver hDrawn hDecided hr
  obtain ⟨parent, hParent⟩ := exists_baseType hParent .elsewhere
  obtain ⟨result, hResult⟩ := exists_valueType hType .elsewhere
  exact ⟨_, by rw [Stub.ofField, hParent, hResult]; rfl⟩

/-- All stubs can be written. -/
theorem exists_stubs (hDrawn : Drawn doc tree) (hDecided : Decided tree) :
    ∃ stubs, Stub.all tree = .ok stubs := by
  obtain ⟨queries, hQueries⟩ := exists_mapM_eq_ok (f := Stub.ofOperation tree)
    (l := tree.queries.values)
    fun o ho => exists_stubOfOperation hDecided (List.mem_append_left _ ho)
  obtain ⟨mutations, hMutations⟩ := exists_mapM_eq_ok (f := Stub.ofOperation tree)
    (l := tree.mutations.values)
    fun o ho => exists_stubOfOperation hDecided (List.mem_append_right _ ho)
  obtain ⟨fields, hFields⟩ := exists_mapM_eq_ok (f := Stub.ofField tree)
    (l := tree.fieldResolvers.values) fun r hr => exists_stubOfField hDrawn hDecided hr
  exact ⟨_, by rw [Stub.all, hQueries, hMutations, hFields]; rfl⟩

theorem exists_modelItem (hDrawn : Drawn doc tree) (hDecided : Decided tree) {e : Entry}
    (he : e ∈ tree.entries.values) : ∃ item, ModelFile.item tree e = .ok item := by
  cases e with
  | enum e => exact ⟨_, rfl⟩
  | scalar s => exact ⟨_, rfl⟩
  | interface i =>
    have hMember : ∀ m ∈ ModelFile.membersOf tree i.name,
        ∃ item, ModelFile.memberItem tree m = .ok item := by
      intro m hm
      obtain ⟨name, hGet⟩ := Tree.mem_models_iff.1 (List.mem_filter.1 hm).1
      obtain ⟨hContains, -⟩ := hDrawn.entry name _ hGet
      obtain ⟨type, hType⟩ := exists_baseType (isBound_of_contains hDecided hContains) .models
      exact ⟨_, by rw [ModelFile.memberItem, hDrawn.model_name hGet, hType]; rfl⟩
    obtain ⟨members, hMembers⟩ := exists_mapM_eq_ok hMember
    rw [ModelFile.item, hMembers]
    cases members with
    | nil => exact ⟨_, rfl⟩
    | cons first more => exact ⟨_, rfl⟩
  | model m =>
    have hm : m ∈ tree.models := List.mem_filterMap.2 ⟨_, he, rfl⟩
    have hField : ∀ f ∈ m.fields, ∃ item, ModelFile.fieldItem tree f = .ok item := by
      intro f hf
      obtain ⟨type, hType⟩ := exists_fieldType (isBound_of_model hDecided hm hf) .models
      exact ⟨_, by rw [ModelFile.fieldItem, hType]; rfl⟩
    obtain ⟨fields, hFields⟩ := exists_mapM_eq_ok hField
    exact ⟨_, by rw [ModelFile.item, hFields]; rfl⟩

theorem exists_modelFile (hDrawn : Drawn doc tree) (hDecided : Decided tree) :
    ∃ file, ModelFile.ofTree tree = .ok file := by
  obtain ⟨items, hItems⟩ := exists_mapM_eq_ok (f := ModelFile.item tree)
    (l := tree.entries.values.filter (ModelFile.isGenerated tree))
    fun e he => exists_modelItem hDrawn hDecided (List.mem_filter.1 he).1
  exact ⟨_, by rw [ModelFile.ofTree, ModelFile.items, hItems]; rfl⟩

theorem exists_dispatch (hDrawn : Drawn doc tree) (hDecided : Decided tree) (settings : Settings) :
    ∃ dispatch, Dispatch.ofTree settings tree = .ok dispatch := by
  have hOperation : ∀ o ∈ tree.operations,
      ∃ route, Dispatch.operationRoute settings tree o = .ok route := by
    intro o ho
    have hArgument : ∀ a ∈ o.arguments, ∃ route, Dispatch.argumentRoute tree a = .ok route := by
      intro a ha
      obtain ⟨type, hType⟩ := exists_valueType (isBound_argument hDecided ho ha) .elsewhere
      exact ⟨_, by rw [Dispatch.argumentRoute, hType]; rfl⟩
    obtain ⟨arguments, hArguments⟩ := exists_mapM_eq_ok hArgument
    exact ⟨_, by rw [Dispatch.operationRoute, hArguments]; rfl⟩
  have hField : ∀ r ∈ tree.fieldResolvers.values,
      ∃ route, Dispatch.fieldRoute settings tree r = .ok route := by
    intro r hr
    obtain ⟨parent, hParent⟩ :=
      exists_baseType (isBound_of_fieldResolver hDrawn hDecided hr).1 .elsewhere
    exact ⟨_, by rw [Dispatch.fieldRoute, hParent]; rfl⟩
  obtain ⟨operations, hOperations⟩ := exists_mapM_eq_ok hOperation
  obtain ⟨fields, hFields⟩ := exists_mapM_eq_ok hField
  exact ⟨_, by rw [Dispatch.ofTree, hOperations, hFields]; rfl⟩

/-- **All files of a bound tree can be rendered**, and what was recovered shows in the resolver
files only. -/
theorem exists_renderAll (hDrawn : Drawn doc tree) (hDecided : Decided tree) (settings : Settings)
    {stubs : List Stub} (hStubs : Stub.all tree = .ok stubs) :
    ∃ model rest, ∀ recovered, GeneratedFile.renderAll settings tree recovered = .ok (model
      :: ResolverKind.all.map (GeneratedFile.ofResolvers settings tree stubs recovered)
      ++ rest) := by
  obtain ⟨model, hModel⟩ := exists_modelFile hDrawn hDecided
  obtain ⟨dispatch, hDispatch⟩ := exists_dispatch hDrawn hDecided settings
  refine ⟨{ path := settings.modelFile, contents := model.render, overwrite := true },
    [{ path := settings.execFile, contents := dispatch.render, overwrite := true },
      GeneratedFile.moduleList settings], fun recovered => ?_⟩
  rw [GeneratedFile.renderAll, hModel, hStubs, hDispatch]
  rfl

end Bound

end ResolverScaffold

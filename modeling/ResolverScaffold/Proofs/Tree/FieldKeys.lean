import Mathlib
import ResolverScaffold.Proofs.Tree.Annotations

/-!
# When two fields share a key

The key of a field resolver is the name of its type, an underscore and the name of
the field.  Both names may hold underscores, so two fields can have one key, and
the one that is recorded last takes the entry of the other.  That happens only if
one type is called like the other and more after an underscore
(`FieldResolver.keyOf_eq_keyOf_cases`).

`Sample.clashDocument` has a type `A` with a field `b_c` and a type `A_b` with a
field `c`.
-/

namespace ResolverScaffold

namespace FieldResolver

theorem toList_keyOf (parent field : String) :
    (keyOf parent field).toList = parent.toList ++ '_' :: field.toList := by
  simp [keyOf]

theorem eq_keyOf_of_toList_eq {s : String} {front back : List Char}
    (h : s.toList = front ++ '_' :: back) : s = keyOf (String.ofList front) (String.ofList back) := by
  rw [← String.toList_inj, toList_keyOf, String.toList_ofList, String.toList_ofList, h]

/-- **Two fields that share a key are the same, or one type is called like the other and more after
an underscore.** -/
theorem keyOf_eq_keyOf_cases {parent parent' field field' : String}
    (h : keyOf parent field = keyOf parent' field') :
    (parent = parent' ∧ field = field')
      ∨ (∃ more, parent' = keyOf parent more ∧ field = keyOf more field')
      ∨ ∃ more, parent = keyOf parent' more ∧ field' = keyOf more field := by
  have hChars := congrArg String.toList h
  rw [toList_keyOf, toList_keyOf] at hChars
  rcases Text.append_cons_eq_append_cons_cases hChars with
    ⟨hParent, hField⟩ | ⟨more, hParent, hField⟩ | ⟨more, hParent, hField⟩
  · exact .inl ⟨String.toList_inj.1 hParent, String.toList_inj.1 hField⟩
  · exact .inr (.inl ⟨String.ofList more, by simpa using eq_keyOf_of_toList_eq hParent,
      by simpa using eq_keyOf_of_toList_eq hField⟩)
  · exact .inr (.inr ⟨String.ofList more, by simpa using eq_keyOf_of_toList_eq hParent,
      by simpa using eq_keyOf_of_toList_eq hField⟩)

end FieldResolver

/-- The tree has a resolver of a field of a type. -/
def Tree.Resolves (tree : Tree) (parent field : String) : Prop :=
  ∃ r ∈ tree.fieldResolvers.values, r.parent = parent ∧ r.field.name = field

namespace Walk

open Schema (Document Definition)
open FieldResolver (keyOf)

variable {doc : Document} {tree : Tree}

/-- A resolver stands under the key of its field. -/
theorem resolves_iff (h : Tree.ofDocument doc = .ok tree) {parent field : String} :
    tree.Resolves parent field ↔ ∃ r, tree.fieldResolvers.get? (keyOf parent field) = some r
      ∧ r.parent = parent ∧ r.field.name = field := by
  constructor
  · rintro ⟨r, hr, rfl, rfl⟩
    obtain ⟨key, hGet⟩ := tree.fieldResolvers.mem_values_iff.1 hr
    have hKey : keyOf r.parent r.field.name = key :=
      ((drawn_of_ofDocument h).fieldResolver key r hGet).1
    exact ⟨r, hKey ▸ hGet, rfl, rfl⟩
  · rintro ⟨r, hGet, hParent, hField⟩
    exact ⟨r, tree.fieldResolvers.mem_values_iff.2 ⟨_, hGet⟩, hParent, hField⟩

/-- Under the key of an annotated field stands the resolver of an annotated field with that key. -/
theorem exists_get?_fieldResolvers (h : Tree.ofDocument doc = .ok tree) {d : Definition}
    {f : Schema.Field} (hf : Annotated doc d f) :
    ∃ e g, Annotated doc e g ∧ keyOf e.name g.name = keyOf d.name f.name
      ∧ tree.fieldResolvers.get? (keyOf d.name f.name) = some (fieldResolver e.name g) := by
  obtain ⟨r, hGet⟩ := tree.fieldResolvers.contains_eq_true_iff.1
    ((contains_fieldResolvers_iff h).2 ⟨d, f, hf, rfl⟩)
  obtain ⟨hKey, e, g, hAsks, rfl⟩ := (drawn_of_ofDocument h).fieldResolver _ r hGet
  exact ⟨e, g, (hAsks.annotated (explored_of_ofDocument h)).1, hKey, hGet⟩

/-- **When every annotated field keeps its resolver.**  One that loses it has its key taken by a
field of another type, and one of the two types is called like the other and more after an
underscore. -/
theorem annotated_fields_keep_resolvers_iff (h : Tree.ofDocument doc = .ok tree) :
    ((∀ d f, Annotated doc d f → tree.Resolves d.name f.name) ↔
      ∀ d f e g, Annotated doc d f → Annotated doc e g →
        keyOf d.name f.name = keyOf e.name g.name → d.name = e.name ∧ f.name = g.name)
    ∧ ∀ d f, Annotated doc d f → ¬tree.Resolves d.name f.name →
      ∃ e g, Annotated doc e g ∧ tree.Resolves e.name g.name
        ∧ keyOf e.name g.name = keyOf d.name f.name
        ∧ ((∃ more, e.name = d.name ++ "_" ++ more) ∨ ∃ more, d.name = e.name ++ "_" ++ more) := by
  refine ⟨⟨fun hKeep d f e g hf hg hKey => ?_, fun hApart d f hf => ?_⟩, fun d f hf hLost => ?_⟩
  · obtain ⟨r, hGet, hParent, hField⟩ := (resolves_iff h).1 (hKeep d f hf)
    obtain ⟨r', hGet', hParent', hField'⟩ := (resolves_iff h).1 (hKeep e g hg)
    rw [← hKey, hGet] at hGet'
    cases hGet'
    exact ⟨hParent.symm.trans hParent', hField.symm.trans hField'⟩
  · obtain ⟨e, g, hg, hKey, hGet⟩ := exists_get?_fieldResolvers h hf
    obtain ⟨hName, hField⟩ := hApart e g d f hg hf hKey
    exact (resolves_iff h).2 ⟨_, hGet, hName, hField⟩
  · obtain ⟨e, g, hg, hKey, hGet⟩ := exists_get?_fieldResolvers h hf
    refine ⟨e, g, hg, (resolves_iff h).2 ⟨_, hKey ▸ hGet, rfl, rfl⟩, hKey, ?_⟩
    rcases FieldResolver.keyOf_eq_keyOf_cases hKey with
      ⟨hName, hField⟩ | ⟨more, hd, -⟩ | ⟨more, he, -⟩
    · exact absurd ((resolves_iff h).2 ⟨_, hGet, hName, hField⟩) hLost
    · exact .inr ⟨more, hd⟩
    · exact .inl ⟨more, he⟩

theorem eq_of_keyOf_eq_in_ring (d : Definition) (f : Schema.Field) (e : Definition)
    (g : Schema.Field) (hf : Annotated Sample.ringDocument d f)
    (hg : Annotated Sample.ringDocument e g) :
    keyOf d.name f.name = keyOf e.name g.name → d.name = e.name ∧ f.name = g.name := by
  have hApart : ∀ d ∈ Sample.ringDocument.definitions, ∀ f ∈ d.fields,
      ∀ e ∈ Sample.ringDocument.definitions, ∀ g ∈ e.fields,
      keyOf d.name f.name = keyOf e.name g.name → d.name = e.name ∧ f.name = g.name := by decide
  exact hApart d (Schema.Table.mem_of_get? hf.defined) f hf.mem e (Schema.Table.mem_of_get? hg.defined) g hg.mem

/-- The annotated fields of the ring keep their resolvers. -/
theorem annotated_fields_keep_resolvers_in_ring :
    Tree.ofDocument Sample.ringDocument = .ok Sample.ringTree
    ∧ ∀ d f, Annotated Sample.ringDocument d f → Sample.ringTree.Resolves d.name f.name :=
  ⟨Sample.ofDocument_ringDocument,
    (annotated_fields_keep_resolvers_iff Sample.ofDocument_ringDocument).1.2 eq_of_keyOf_eq_in_ring⟩

end Walk

/-! ### Types called `A` and `A_b` -/

namespace Sample

def clashTexts : List String :=
  ["type A\x7bb_c:Int@lambda\x7d", "type A_b\x7bc:Int@lambda\x7d"]

def clashSources : List Schema.Source := clashTexts.map (⟨"schema.graphql", ·⟩)

def longField : Schema.Field := askedField "b_c" ⟨"Int", false, false⟩

def shortField : Schema.Field := askedField "c" ⟨"Int", false, false⟩

def clashDefinitions : List Schema.Definition :=
  [{ objectNamed "A" with fields := [longField] },
   { objectNamed "A_b" with fields := [shortField] }]

theorem nodup_clash : ((Schema.Prelude.definitions ++ clashDefinitions
    ++ [Schema.Draft.emptyQuery]).map (·.name)).Nodup := by decide

def clashDocument : Schema.Document := documentOf _ nodup_clash "Query"

def clashTree : Tree where
  entries := .ofList
    [("A", ringModel "A" [] [] longField), ("A_b", ringModel "A_b" [] [] shortField)]
  fieldResolvers := .ofList [("A_b_c", ⟨"A_b", Walk.field "A_b" shortField, []⟩)]
  queries := .empty
  mutations := .empty
  middleware := .empty
  bindings := .ofList
    [("A", .pending "A"), ("A_b", .pending "A_b"), ("Int", .primitive "Int" "i64")]

theorem load_clashSources : Schema.Document.load clashSources = .ok clashDocument := by
  have hRead : ∀ e ∈ clashTexts.zip (clashDefinitions.map Schema.Statement.define),
      Schema.Statement.readAll? "schema.graphql" false e.1 = some [e.2] := by
    simp only [clashTexts, clashDefinitions, List.map_cons, List.map_nil, List.zip_cons_cons,
      List.zip_nil_right, List.forall_mem_cons]
    refine ⟨?_, ?_, by simp⟩ <;> cbv
  exact Schema.Document.load_of_readAll? hRead rfl rfl

theorem ofDocument_clashDocument : Tree.ofDocument clashDocument = .ok clashTree := by
  have hSeeds : clashDocument.definitions.flatMap (Walk.seedTasks clashDocument)
      = [.need "A" "A", .need "A_b" "A_b"] := rfl
  rw [Tree.ofDocument, hSeeds]
  iterate 6 refine (Walk.run_of_step rfl).trans ?_
  show Walk.run clashDocument clashTree [] = .ok clashTree
  rw [Walk.run]

end Sample

namespace Walk

/-- **An annotated field can lose its resolver.**  The schema is accepted and the field `b_c` of `A`
is annotated, but the field `c` of `A_b` has taken its key. -/
theorem annotated_field_loses_resolver :
    Schema.Document.load Sample.clashSources = .ok Sample.clashDocument
    ∧ Tree.ofDocument Sample.clashDocument = .ok Sample.clashTree
    ∧ ∃ d f, Annotated Sample.clashDocument d f ∧ d.name = "A" ∧ f.name = "b_c"
      ∧ ¬Sample.clashTree.Resolves d.name f.name := by
  refine ⟨Sample.load_clashSources, Sample.ofDocument_clashDocument,
    { Sample.objectNamed "A" with fields := [Sample.longField] }, Sample.longField,
    ⟨?_, rfl, rfl, rfl, List.mem_singleton_self _, rfl⟩, rfl, rfl, ?_⟩
  · exact (contains_bindings_iff Sample.ofDocument_clashDocument).1 rfl
  · rintro ⟨r, hr, hParent, -⟩
    have hValues : Sample.clashTree.fieldResolvers.values
        = [⟨"A_b", Walk.field "A_b" Sample.shortField, []⟩] := rfl
    rw [hValues, List.mem_singleton] at hr
    subst hr
    exact absurd hParent (by decide)

end Walk

end ResolverScaffold

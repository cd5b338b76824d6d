import ResolverScaffold.Proofs.Dict
import ResolverScaffold.Resolver.Signature

/-!
# Names and their signatures

Reading a name loses nothing: the key of its signature is the name again
(`classify_key`).  This needs field resolvers that stand under their own keys
(`Tree.FieldsKeyed`), since a name under which a resolver stands is read as that
resolver's field.

A name with one of the four beginnings says what the beginning says
(`ofName_query` and its like), and what it says by itself is asked for only if it
is asked for in the tree (`isLive_classify_of_ofName`).
-/

namespace ResolverScaffold

/-- Every field resolver stands under its key. -/
def Tree.FieldsKeyed (tree : Tree) : Prop :=
  ∀ key r, tree.fieldResolvers.get? key = some r → r.key = key

namespace Signature

/-- A beginning and what follows it are the name. -/
theorem append_of_rest? {beginning name rest : String}
    (h : rest? beginning.toList name.toList = some rest) : beginning ++ rest = name := by
  rw [rest?] at h
  split at h
  · rename_i c cs hAfter
    cases h
    apply String.toList_inj.1
    rw [String.toList_append, String.toList_ofList, Text.after?_eq_some_iff.1 hAfter]
  · cases h

/-- What follows a beginning is read, if there is something. -/
theorem rest?_append (beginning : String) {rest : String} (h : rest ≠ "") :
    rest? beginning.toList (beginning ++ rest).toList = some rest := by
  have hRest : rest.toList ≠ [] := by simpa using h
  rw [rest?, String.toList_append, Text.after?_eq_some_iff.2 rfl]
  cases hCs : rest.toList with
  | nil => exact absurd hCs hRest
  | cons c cs =>
    simp only
    rw [← hCs, String.ofList_toList]

/-- The parts of a name around its first underscore are the name. -/
theorem keyOf_of_split {name : String} {p n : Char} {parent field : List Char} {u : Char}
    (hParent : name.toList.takeWhile (· ≠ '_') = p :: parent)
    (hField : name.toList.dropWhile (· ≠ '_') = u :: n :: field) :
    FieldResolver.keyOf (String.ofList (p :: parent)) (String.ofList (n :: field)) = name := by
  have hMark : u = '_' := by
    have hNot := List.head?_dropWhile_not (fun c : Char => decide (c ≠ '_')) name.toList
    rw [hField] at hNot
    simpa using hNot
  have hSplit := List.takeWhile_append_dropWhile (p := fun c : Char => decide (c ≠ '_'))
    (l := name.toList)
  rw [hParent, hField, hMark] at hSplit
  apply String.toList_inj.1
  rw [← hSplit, FieldResolver.keyOf]
  simp

/-- A name is the key of what it says by itself. -/
theorem ofName_key (name : String) : (ofName name).key = name := by
  rw [ofName]
  split
  · rename_i h; exact append_of_rest? h
  · split
    · rename_i h; exact append_of_rest? h
    · split
      · rename_i h; exact append_of_rest? h
      · split
        · rename_i h; exact append_of_rest? h
        · split
          · rename_i hParent hField
            exact keyOf_of_split hParent hField
          · rfl

/-- **A name is the key of what it says in a tree.** -/
theorem classify_key {tree : Tree} (hKeyed : tree.FieldsKeyed) (name : String) :
    (classify name tree).key = name := by
  rw [classify]
  split
  · rename_i r hr
    exact hKeyed name r hr
  · exact ofName_key name

/-! ### The four beginnings -/

theorem ofName_query {name : String} (h : name ≠ "") : ofName ("Query_" ++ name) = .query name := by
  rw [ofName, rest?_append _ h]

theorem ofName_mutation {name : String} (h : name ≠ "") :
    ofName ("Mutation_" ++ name) = .mutation name := by
  have hQuery : rest? "Query_".toList ("Mutation_" ++ name).toList = none := by
    rw [String.toList_append]; rfl
  rw [ofName, hQuery, rest?_append _ h]

theorem ofName_middleware {name : String} (h : name ≠ "") :
    ofName ("Middleware_" ++ name) = .middleware name := by
  have hQuery : rest? "Query_".toList ("Middleware_" ++ name).toList = none := by
    rw [String.toList_append]; rfl
  have hMutation : rest? "Mutation_".toList ("Middleware_" ++ name).toList = none := by
    rw [String.toList_append]; rfl
  rw [ofName, hQuery, hMutation, rest?_append _ h]

theorem ofName_webhook {type : String} (h : type ≠ "") :
    ofName ("Webhook_" ++ type) = .webhook type := by
  have hQuery : rest? "Query_".toList ("Webhook_" ++ type).toList = none := by
    rw [String.toList_append]; rfl
  have hMutation : rest? "Mutation_".toList ("Webhook_" ++ type).toList = none := by
    rw [String.toList_append]; rfl
  have hMiddleware : rest? "Middleware_".toList ("Webhook_" ++ type).toList = none := by
    rw [String.toList_append]; rfl
  rw [ofName, hQuery, hMutation, hMiddleware, rest?_append _ h]

/-! ### Names that are asked for -/

theorem isLive_classify_of_fieldResolver {tree : Tree} (hKeyed : tree.FieldsKeyed) {key : String}
    {r : FieldResolver} (h : tree.fieldResolvers.get? key = some r) :
    (classify key tree).isLive tree = true := by
  have hKey : FieldResolver.keyOf r.parent r.field.name = key := hKeyed key r h
  rw [classify, h]
  show tree.fieldResolvers.contains (FieldResolver.keyOf r.parent r.field.name) = true
  rw [hKey]
  exact tree.fieldResolvers.contains_eq_true_iff.2 ⟨r, h⟩

/-- A name that is asked for by itself is asked for, also if a field resolver has it. -/
theorem isLive_classify_of_ofName {tree : Tree} (hKeyed : tree.FieldsKeyed) {key : String}
    (h : (ofName key).isLive tree = true) : (classify key tree).isLive tree = true := by
  cases hGet : tree.fieldResolvers.get? key with
  | some r => exact isLive_classify_of_fieldResolver hKeyed hGet
  | none => rw [classify, hGet]; exact h

end Signature

end ResolverScaffold

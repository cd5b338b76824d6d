import Mathlib
import ResolverScaffold.Proofs.Generation.Keys
import ResolverScaffold.Proofs.Generation.Totality
import ResolverScaffold.Proofs.Render.ModelFile
import ResolverScaffold.Proofs.Tree.Order

/-!
# The model file is closed

Three things are made at different times: bindings when a name is met and when it
is bound, entries when a definition is opened, items when the file is rendered.
They agree: a name whose type is to be generated has an entry (`binding_cases`),
the entry has one item, and the item has its name.  So a name that stands in the
file without a module in front is a primitive or is declared there.
-/

namespace ResolverScaffold

variable {doc : Schema.Document} {tree bound : Tree}

/-- A Rust type that stands for a primitive of the tree. -/
def Tree.HasPrimitive (tree : Tree) (rustType : String) : Prop :=
  ∃ name b, tree.bindings.get? name = some b ∧ b.isPrimitive = true ∧ b.ident = rustType

/-! ### Bindings of a bound tree -/

section Bound

variable {introspect : Introspector} {home : ModelHome} {places : List BindSource}

theorem Autobind.entries_bindAll (h : bindAll introspect home places tree = .ok bound) :
    bound.entries = tree.entries := by
  obtain ⟨listed, own, rfl, -⟩ := bindAll_eq_ok h
  rfl

/-- **A binding is that of a primitive, or its name is that of an entry.** -/
theorem Autobind.binding_cases (hTree : Tree.ofDocument doc = .ok tree)
    (hBound : bindAll introspect home places tree = .ok bound) {name : String} {b : Binding}
    (hGet : bound.bindings.get? name = some b) :
    (b.isPrimitive = true ∧ primitive? name = some b.ident)
      ∨ (b.isPrimitive = false ∧ b.ident = name ∧ bound.entries.contains name = true) := by
  have hEntries := entries_bindAll hBound
  obtain ⟨listed, own, rfl, -⟩ := bindAll_eq_ok hBound
  rw [get?_decideAll, Option.map_eq_some_iff] at hGet
  obtain ⟨before, hBefore, rfl⟩ := hGet
  have hReachable := (Walk.contains_bindings_iff hTree).1
    (tree.bindings.contains_eq_true_iff.2 ⟨_, hBefore⟩)
  obtain rfl := Walk.eq_bindingOf hTree hBefore
  cases hPrimitive : primitive? name with
  | some rustType =>
    have hBinding : Walk.bindingOf name = .primitive name rustType := by
      rw [Walk.bindingOf, hPrimitive]
    rw [hBinding]
    exact .inl ⟨rfl, rfl⟩
  | none =>
    have hBinding : Walk.bindingOf name = .pending name := by
      rw [Walk.bindingOf, hPrimitive]
    rw [hBinding]
    refine .inr ⟨?_, rfl, ?_⟩
    · show (placement home listed own name == .primitive) = false
      rw [placement]
      split
      · rfl
      · split <;> rfl
    · rw [hEntries]
      exact (Walk.contains_entries_iff hTree).2 ⟨hReachable, hPrimitive⟩

theorem Autobind.entered_of_isGenerated (hTree : Tree.ofDocument doc = .ok tree)
    (hBound : bindAll introspect home places tree = .ok bound) {name : String} {b : Binding}
    (hGet : bound.bindings.get? name = some b) (h : b.isGenerated = true) :
    b.ident = name ∧ bound.entries.contains name = true := by
  rcases binding_cases hTree hBound hGet with ⟨hPrimitive, -⟩ | ⟨-, hEntered⟩
  · -- no binding is both
    obtain ⟨_, _, placement⟩ := b
    cases placement <;> cases hPrimitive
    cases h
  · exact hEntered

end Bound

/-- How a base type of the model file is written. -/
theorem Render.baseType_eq_ok {name base : String} (h : baseType tree name .models = .ok base) :
    ∃ b, tree.bindings.get? name = some b
      ∧ ((b.isPrimitive = true ∧ base = b.ident) ∨ (∃ module, base = module ++ "::" ++ b.ident)
        ∨ (b.isGenerated = true ∧ base = b.ident)) := by
  rw [baseType] at h
  split at h
  · cases h
  · rename_i b hGet
    refine ⟨b, hGet, ?_⟩
    obtain ⟨_, ident, placement⟩ := b
    cases placement with
    | pending => cases h
    | primitive =>
      cases h
      exact .inl ⟨rfl, rfl⟩
    | external module =>
      cases h
      exact .inr (.inl ⟨module, rfl⟩)
    | generated module =>
      cases h
      exact .inr (.inr ⟨rfl, rfl⟩)

/-- The Rust type of a primitive is a path or holds no angle bracket. -/
theorem colon_mem_or_of_primitive? {name rustType : String} (h : primitive? name = some rustType) :
    ':' ∈ rustType.toList ∨ '<' ∉ rustType.toList := by
  unfold primitive? at h
  split at h <;> cases h <;> decide

/-- A name that can be read off a text is the base of the text, if that is a path or holds no angle
bracket. -/
theorem Render.Wraps.eq_of_isName {base other text : String} (h : Wraps base text)
    (hOther : Wraps other text) (hName : Schema.isName other = true)
    (hBase : ':' ∈ base.toList ∨ '<' ∉ base.toList) : other = base := by
  have hNoBracket : '<' ∉ other.toList := Schema.notMem_of_isName hName (by decide) (by decide)
  have hNoColon : ':' ∉ other.toList := Schema.notMem_of_isName hName (by decide) (by decide)
  rcases hBase with hColon | hBracket
  · exact absurd (hOther.colon_mem_iff.1 (h.colon_mem_iff.2 hColon)) hNoColon
  · exact hOther.unique h hNoBracket hBracket

/-! ### Declared names -/

namespace ModelFile

open Render (Wraps)

theorem map_name_eq_filter (hDrawn : Walk.Drawn doc tree) {l : List ModelItem}
    (hItems : items tree = .ok l) :
    l.map ModelItem.name
      = tree.entries.keys.filter fun name => (tree.bindings.get? name).any (·.isGenerated) := by
  rw [map_name_items hItems, ← hDrawn.names_eq, List.filter_map]
  rfl

section Bound

variable {introspect : Introspector} {home : ModelHome} {places : List BindSource}
  {file : ModelFile} (hTree : Tree.ofDocument doc = .ok tree)
  (hBound : Autobind.bindAll introspect home places tree = .ok bound)
  (hFile : ofTree bound = .ok file)

include hTree hBound hFile

theorem count_declared_of_bound (name : String) :
    file.declared.count name
      = if (bound.bindings.get? name).any (·.isGenerated) then 1 else 0 := by
  obtain ⟨hDrawn, -⟩ := Autobind.drawn_and_decided hTree hBound
  obtain ⟨items, hItems, rfl⟩ := ofTree_eq_ok hFile
  rw [count_declared, map_name_eq_filter hDrawn hItems,
    (bound.entries.nodup_keys.filter _).count]
  refine if_congr (List.mem_filter.trans (and_iff_right_of_imp fun hGenerated => ?_)) rfl rfl
  obtain ⟨b, hGet, hb⟩ := (Option.any_eq_true ..).1 hGenerated
  rw [Dict.mem_keys_iff]
  exact (Autobind.entered_of_isGenerated hTree hBound hGet hb).2

theorem mem_declared_of_isGenerated {name : String} {b : Binding}
    (hGet : bound.bindings.get? name = some b) (hb : b.isGenerated = true) :
    name ∈ file.declared := by
  have hOne := count_declared_of_bound hTree hBound hFile name
  rw [hGet, Option.any_some, if_pos hb] at hOne
  exact List.count_pos_iff.1 (by omega)

/-- **What stands for a type in a field or a variant** is a declared name, a primitive or a path, in
wrappers, and no other name can be read off it. -/
theorem exists_base_of_mem_uses (hNamed : ∀ d ∈ doc.definitions, d.Named) {text : String}
    (hText : text ∈ file.uses) :
    ∃ base, Wraps base text
      ∧ (base ∈ file.declared ∨ bound.HasPrimitive base
        ∨ ∃ module ident, base = module ++ "::" ++ ident)
      ∧ ∀ other, Wraps other text → Schema.isName other = true → other = base := by
  obtain ⟨name, base, hBase, hWraps⟩ := exists_baseType_of_mem_uses hFile hText
  refine ⟨base, hWraps, ?_⟩
  obtain ⟨b, hGet, ⟨hb, rfl⟩ | ⟨module, rfl⟩ | ⟨hb, rfl⟩⟩ := Render.baseType_eq_ok hBase
  · refine ⟨.inr (.inl ⟨name, b, hGet, hb, rfl⟩), fun other hOther hName => ?_⟩
    rcases Autobind.binding_cases hTree hBound hGet with ⟨-, hPrimitive⟩ | ⟨hNot, -⟩
    · exact hWraps.eq_of_isName hOther hName (colon_mem_or_of_primitive? hPrimitive)
    · rw [hb] at hNot
      cases hNot
  · refine ⟨.inr (.inr ⟨module, b.ident, rfl⟩), fun other hOther hName => ?_⟩
    exact hWraps.eq_of_isName hOther hName (.inl (by simp))
  · obtain ⟨hIdent, hEntered⟩ := Autobind.entered_of_isGenerated hTree hBound hGet hb
    obtain ⟨e, hEntry⟩ := bound.entries.contains_eq_true_iff.1 hEntered
    obtain ⟨-, d, hDoc, -⟩ := (Autobind.drawn_and_decided hTree hBound).1.entry name e hEntry
    have hName : Schema.isName name = true := by
      rw [← Schema.Table.name_of_get? hDoc]
      exact (hNamed d (Schema.Table.mem_of_get? hDoc)).1
    rw [hIdent] at hWraps ⊢
    have hBracket : '<' ∉ name.toList := Schema.notMem_of_isName hName (by decide) (by decide)
    refine ⟨.inl (mem_declared_of_isGenerated hTree hBound hFile hGet hb), ?_⟩
    intro other hOther hRead
    exact hWraps.eq_of_isName hOther hRead (.inr hBracket)

end Bound

/-- **The model file declares each generated type once, and nothing in it dangles.**  A name that
stands in a field or a variant without a module in front is declared, or it is a primitive. -/
theorem generated_types_declared_once (h : bound.IsBound) :
    ∃ file, ofTree bound = .ok file
      ∧ (∀ name, file.declared.count name
        = if (bound.bindings.get? name).any (·.isGenerated) then 1 else 0)
      ∧ ∀ text ∈ file.uses,
        (∃ base, Wraps base text ∧ (base ∈ file.declared ∨ bound.HasPrimitive base
          ∨ ∃ module ident, base = module ++ "::" ++ ident))
        ∧ ∀ base, Wraps base text → Schema.isName base = true → ¬bound.HasPrimitive base →
          base ∈ file.declared := by
  obtain ⟨sources, doc, tree, introspect, home, places, hLoad, hTree, hBound⟩ := h
  obtain ⟨hDrawn, hDecided⟩ := Autobind.drawn_and_decided hTree hBound
  obtain ⟨file, hFile⟩ := exists_modelFile hDrawn hDecided
  refine ⟨file, hFile, count_declared_of_bound hTree hBound hFile, fun text hText => ?_⟩
  obtain ⟨base, hWraps, hCases, hOnly⟩ := exists_base_of_mem_uses hTree hBound hFile
    (Schema.Document.named_of_load hLoad) hText
  refine ⟨⟨base, hWraps, hCases⟩, fun other hOther hName hNot => ?_⟩
  obtain rfl := hOnly other hOther hName
  rcases hCases with hDeclared | hPrimitive | ⟨module, ident, rfl⟩
  · exact hDeclared
  · exact absurd hPrimitive hNot
  · -- a path is no name
    exact absurd (by simp) (Schema.notMem_of_isName (c := ':') hName (by decide) (by decide))

end ModelFile

theorem Sample.isBound_ringBound : ringBound.IsBound :=
  ⟨_, _, _, _, _, _, load_ringSources, ofDocument_ringDocument, bindAll_ringTree⟩

/-- The four types of the ring are declared, its primitives are not. -/
theorem ModelFile.declared_in_ring :
    Sample.ringBound.IsBound
    ∧ ∃ file, ofTree Sample.ringBound = .ok file
      ∧ (∀ name ∈ ["Any", "Middleware", "Node", "User"], file.declared.count name = 1)
      ∧ file.declared.count "Int" = 0
      ∧ ∀ text ∈ file.uses, ∀ base, Render.Wraps base text → Schema.isName base = true →
        ¬Sample.ringBound.HasPrimitive base → base ∈ file.declared := by
  obtain ⟨file, hFile, hCount, hUses⟩ := generated_types_declared_once Sample.isBound_ringBound
  refine ⟨Sample.isBound_ringBound, file, hFile, ?_, hCount "Int", fun text hText =>
    (hUses text hText).2⟩
  intro name hName
  fin_cases hName <;> exact hCount _

end ResolverScaffold

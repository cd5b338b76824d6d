import ResolverScaffold.Proofs.Outcome
import ResolverScaffold.Proofs.Text.Parts
import ResolverScaffold.Render.ModelFile

/-!
# What a model file declares and uses

An item of the model file is named like its entry (`name_item`), and sorting the items by their
kinds loses none and repeats none (`count_declared`).  A type that stands in a field or a member is
some type of the tree in wrappers (`exists_baseType_of_mem_uses`), and a name can be read off such a
text in one way only (`Wraps.unique`).
-/

namespace ResolverScaffold

variable {tree : Tree}

namespace Render

/-! ### Types in wrappers -/

def wrappers : List String := ["Option", "Vec", "Box"]

/-- A text is a type with wrappers around it. -/
inductive Wraps (base : String) : String → Prop
  | bare : Wraps base base
  | wrap {wrapper text : String} : wrapper ∈ wrappers → Wraps base text →
      Wraps base (wrapper ++ "<" ++ text ++ ">")

variable {base other text : String}

theorem notMem_of_mem_wrappers {wrapper : String} (h : wrapper ∈ wrappers) :
    '<' ∉ wrapper.toList ∧ ':' ∉ wrapper.toList := by
  simp only [wrappers, List.mem_cons, List.not_mem_nil, or_false] at h
  rcases h with rfl | rfl | rfl <;> decide

theorem toList_wrap (wrapper text : String) :
    (wrapper ++ "<" ++ text ++ ">").toList = wrapper.toList ++ '<' :: (text.toList ++ ['>']) := by
  simp

theorem Wraps.cases (h : Wraps base text) : text = base ∨ ∃ wrapper ∈ wrappers, ∃ inner,
    Wraps base inner ∧ text = wrapper ++ "<" ++ inner ++ ">" := by
  cases h with
  | bare => exact .inl rfl
  | wrap hWrapper hInner => exact .inr ⟨_, hWrapper, _, hInner, rfl⟩

/-- Wrappers have no colon, so a path shows through them. -/
theorem Wraps.colon_mem_iff (h : Wraps base text) : ':' ∈ text.toList ↔ ':' ∈ base.toList := by
  induction h with
  | bare => rfl
  | wrap hWrapper _ ih => simp [(notMem_of_mem_wrappers hWrapper).2, ih]

/-- **A text wraps one name at most.** -/
theorem Wraps.unique (h : Wraps base text) (h' : Wraps other text) (hBase : '<' ∉ base.toList)
    (hOther : '<' ∉ other.toList) : base = other := by
  induction h with
  | bare =>
    rcases h'.cases with hSame | ⟨wrapper, -, inner, -, rfl⟩
    · exact hSame
    · simp at hBase
  | @wrap wrapper inner hWrapper _ ih =>
    rcases h'.cases with hSame | ⟨wrapper', hWrapper', inner', hInner', hSame⟩
    · rw [← hSame] at hOther
      simp at hOther
    · have hChars := congrArg String.toList hSame
      rw [toList_wrap, toList_wrap] at hChars
      obtain ⟨-, hRest⟩ := Text.append_cons_inj (notMem_of_mem_wrappers hWrapper).1
        (notMem_of_mem_wrappers hWrapper').1 hChars
      obtain rfl : inner = inner' := String.toList_inj.1 (List.append_cancel_right hRest)
      exact ih hInner'

theorem Wraps.optional (h : Wraps base text) (required : Bool) :
    Wraps base (optional text required) := by
  rw [Render.optional]
  split
  · exact h
  · exact .wrap (show "Option" ∈ wrappers by decide) h

theorem fieldType_eq_ok {type : TypeRef} {scope : Scope}
    (h : fieldType tree type scope = .ok text) :
    ∃ base, baseType tree type.name scope = .ok base ∧ Wraps base text := by
  obtain ⟨base, hBase, h⟩ := bind_eq_ok_iff.1 h
  rw [pure_eq_ok_iff] at h
  subst h
  refine ⟨base, hBase, Wraps.optional ?_ _⟩
  split
  · exact .wrap (show "Vec" ∈ wrappers by decide) .bare
  · split
    · exact .wrap (show "Box" ∈ wrappers by decide) .bare
    · exact .bare

end Render

/-! ### Items -/

namespace ModelItem

def name : ModelItem → String
  | .enum e => e.name
  | .newtype n => n.name
  | .union u => u.name
  | .struct s => s.name

def enum? : ModelItem → Option EnumItem
  | .enum e => some e
  | _ => none

def newtype? : ModelItem → Option NewtypeItem
  | .newtype n => some n
  | _ => none

def union? : ModelItem → Option UnionItem
  | .union u => some u
  | _ => none

def struct? : ModelItem → Option StructItem
  | .struct s => some s
  | _ => none

end ModelItem

namespace ModelFile

open Render (Wraps)

/-- The file of some items. -/
def ofItems (items : List ModelItem) : ModelFile where
  enums := items.filterMap ModelItem.enum?
  newtypes := items.filterMap ModelItem.newtype?
  unions := items.filterMap ModelItem.union?
  structs := items.filterMap ModelItem.struct?

/-- The names of all types that a file declares. -/
def declared (file : ModelFile) : List String :=
  file.enums.map (·.name) ++ file.newtypes.map (·.name) ++ file.unions.map (·.name)
    ++ file.structs.map (·.name)

/-- The types that stand in the fields of structs and in the variants of unions. -/
def uses (file : ModelFile) : List String :=
  file.structs.flatMap (fun s => s.fields.map (·.type))
    ++ file.unions.flatMap (fun u => u.members.map (·.type))

variable {file : ModelFile} {items : List ModelItem}

theorem ofTree_eq_ok (h : ofTree tree = .ok file) :
    ∃ items, ModelFile.items tree = .ok items ∧ file = ofItems items := by
  obtain ⟨items, hItems, h⟩ := bind_eq_ok_iff.1 h
  rw [pure_eq_ok_iff] at h
  exact ⟨items, hItems, h.symm⟩

theorem item_model {m : Model} {i : ModelItem} (h : item tree (.model m) = .ok i) :
    ∃ fields, m.fields.mapM (fieldItem tree) = .ok fields
      ∧ i = .struct { name := m.name, docs := Naming.docLines m.description, fields } := by
  obtain ⟨fields, hFields, h⟩ := bind_eq_ok_iff.1 h
  rw [pure_eq_ok_iff] at h
  exact ⟨fields, hFields, h.symm⟩

theorem item_interface {i : Interface} {it : ModelItem} (h : item tree (.interface i) = .ok it) :
    ∃ members, (membersOf tree i.name).mapM (memberItem tree) = .ok members
      ∧ it = if members.isEmpty then
          .newtype { name := i.name, docs := Naming.docLines i.description }
        else .union { name := i.name, docs := Naming.docLines i.description, members } := by
  obtain ⟨members, hMembers, h⟩ := bind_eq_ok_iff.1 h
  refine ⟨members, hMembers, ?_⟩
  split at h <;> rename_i hEmpty <;> rw [pure_eq_ok_iff] at h
  · rw [if_pos hEmpty, h]
  · rw [if_neg hEmpty, h]

/-- An item has the name of its entry. -/
theorem name_item {e : Entry} {i : ModelItem} (h : item tree e = .ok i) : i.name = e.name := by
  cases e with
  | enum e => cases h; rfl
  | scalar s => cases h; rfl
  | model m =>
    obtain ⟨fields, -, rfl⟩ := item_model h
    rfl
  | interface i =>
    obtain ⟨members, -, rfl⟩ := item_interface h
    split <;> rfl

theorem map_name_items (h : ModelFile.items tree = .ok items) :
    items.map ModelItem.name
      = (tree.entries.values.filter (isGenerated tree)).map Entry.name :=
  map_eq_of_mapM_eq_ok h fun _ _ _ => name_item

/-- **A file declares each of its items once.** -/
theorem count_declared (items : List ModelItem) (name : String) :
    (ofItems items).declared.count name = (items.map ModelItem.name).count name := by
  simp only [declared, ofItems, List.count_append]
  induction items with
  | nil => rfl
  | cons item items ih =>
    cases item <;>
      simp only [List.filterMap_cons, ModelItem.enum?, ModelItem.newtype?, ModelItem.union?,
        ModelItem.struct?, ModelItem.name, List.map_cons, List.count_cons] <;> omega

/-! ### Types in use -/

theorem mem_filterMap_iff {β : Type} {part : ModelItem → Option β} {whole : β → ModelItem}
    (h : ∀ i b, part i = some b ↔ i = whole b) {b : β} :
    b ∈ items.filterMap part ↔ whole b ∈ items := by
  simp [List.mem_filterMap, h]

theorem mem_enums_iff {e : EnumItem} : e ∈ (ofItems items).enums ↔ .enum e ∈ items :=
  mem_filterMap_iff fun i e => by cases i <;> simp [ModelItem.enum?]

theorem mem_structs_iff {s : StructItem} : s ∈ (ofItems items).structs ↔ .struct s ∈ items :=
  mem_filterMap_iff fun i s => by cases i <;> simp [ModelItem.struct?]

theorem mem_unions_iff {u : UnionItem} : u ∈ (ofItems items).unions ↔ .union u ∈ items :=
  mem_filterMap_iff fun i u => by cases i <;> simp [ModelItem.union?]

theorem mem_newtypes_iff {n : NewtypeItem} : n ∈ (ofItems items).newtypes ↔ .newtype n ∈ items :=
  mem_filterMap_iff fun i n => by cases i <;> simp [ModelItem.newtype?]

theorem model_of_item_eq_struct {e : Entry} {s : StructItem} (h : item tree e = .ok (.struct s)) :
    ∃ m : Model, e = .model m ∧ m.fields.mapM (fieldItem tree) = .ok s.fields := by
  cases e with
  | enum e => cases h
  | scalar s => cases h
  | interface i =>
    obtain ⟨members, -, hItem⟩ := item_interface h
    split at hItem <;> cases hItem
  | model m =>
    obtain ⟨fields, hFields, hItem⟩ := item_model h
    cases hItem
    exact ⟨m, rfl, hFields⟩

theorem enum_of_item_eq_enum {e : Entry} {item : EnumItem}
    (h : ModelFile.item tree e = .ok (.enum item)) :
    ∃ enum : Enum, e = .enum enum ∧ item.variants = enum.values.map variantItem := by
  cases e with
  | enum enum => cases h; exact ⟨enum, rfl, rfl⟩
  | scalar s => cases h
  | model m =>
    obtain ⟨fields, -, hItem⟩ := item_model h
    cases hItem
  | interface i =>
    obtain ⟨members, -, hItem⟩ := item_interface h
    split at hItem <;> cases hItem

theorem interface_of_item_eq_union {e : Entry} {u : UnionItem}
    (h : item tree e = .ok (.union u)) :
    ∃ i : Interface, e = .interface i
      ∧ (membersOf tree i.name).mapM (memberItem tree) = .ok u.members := by
  cases e with
  | enum e => cases h
  | scalar s => cases h
  | model m =>
    obtain ⟨fields, -, hItem⟩ := item_model h
    cases hItem
  | interface i =>
    obtain ⟨members, hMembers, hItem⟩ := item_interface h
    split at hItem <;> cases hItem
    exact ⟨i, rfl, hMembers⟩

theorem memberItem_eq_ok {m : Model} {member : MemberItem}
    (h : memberItem tree m = .ok member) :
    member.ident = Naming.identifier m.name
      ∧ Render.baseType tree m.name .models = .ok member.type := by
  obtain ⟨type, hType, h⟩ := bind_eq_ok_iff.1 h
  rw [pure_eq_ok_iff] at h
  subst h
  exact ⟨rfl, hType⟩

theorem fieldItem_eq_ok {f : Field} {field : FieldItem} (h : fieldItem tree f = .ok field) :
    field.ident = Naming.fieldIdentifier f.name
      ∧ Render.fieldType tree f.type .models = .ok field.type := by
  obtain ⟨type, hType, h⟩ := bind_eq_ok_iff.1 h
  rw [pure_eq_ok_iff] at h
  subst h
  refine ⟨?_, hType⟩
  dsimp only

/-- **A type in use is a type of the tree in wrappers.** -/
theorem exists_baseType_of_mem_uses (h : ofTree tree = .ok file) {text : String}
    (hText : text ∈ file.uses) :
    ∃ name base, Render.baseType tree name .models = .ok base ∧ Wraps base text := by
  obtain ⟨items, hItems, rfl⟩ := ofTree_eq_ok h
  rw [uses, List.mem_append, List.mem_flatMap, List.mem_flatMap] at hText
  rcases hText with ⟨s, hs, hText⟩ | ⟨u, hu, hText⟩
  · obtain ⟨field, hField, rfl⟩ := List.mem_map.1 hText
    obtain ⟨e, -, he⟩ := (mem_mapM_iff hItems _).1 (mem_structs_iff.1 hs)
    obtain ⟨m, -, hFields⟩ := model_of_item_eq_struct he
    obtain ⟨f, -, hf⟩ := (mem_mapM_iff hFields field).1 hField
    obtain ⟨base, hBase, hWraps⟩ := Render.fieldType_eq_ok (fieldItem_eq_ok hf).2
    exact ⟨f.type.name, base, hBase, hWraps⟩
  · obtain ⟨member, hMember, rfl⟩ := List.mem_map.1 hText
    obtain ⟨e, -, he⟩ := (mem_mapM_iff hItems _).1 (mem_unions_iff.1 hu)
    obtain ⟨i, -, hMembers⟩ := interface_of_item_eq_union he
    obtain ⟨m, -, hm⟩ := (mem_mapM_iff hMembers member).1 hMember
    exact ⟨m.name, member.type, (memberItem_eq_ok hm).2, .bare⟩

end ModelFile

end ResolverScaffold

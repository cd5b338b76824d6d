import ResolverScaffold.Naming
import ResolverScaffold.Render.TypeName
import ResolverScaffold.Text.Layout

/-!
# The model file

The types to generate: enums, structs, unions over the models that belong to an
interface, and newtypes around any value for scalars and for interfaces nothing
belongs to.  `ModelFile.ofTree` collects them and `ModelFile.render` writes the
file.
-/

namespace ResolverScaffold

structure VariantItem where
  ident : String
  /-- The name of the value in the schema. -/
  value : String
  docs : List String
  deriving DecidableEq, Repr

structure EnumItem where
  name : String
  docs : List String
  variants : List VariantItem
  deriving DecidableEq, Repr

structure NewtypeItem where
  name : String
  docs : List String
  deriving DecidableEq, Repr

/-- A model of a generated union. -/
structure MemberItem where
  ident : String
  type : String
  deriving DecidableEq, Repr

structure UnionItem where
  name : String
  docs : List String
  members : List MemberItem
  deriving DecidableEq, Repr

structure FieldItem where
  ident : String
  type : String
  /-- The name of the field in the schema. -/
  rename : String
  /-- The name of the field in the database. -/
  otherName : String
  docs : List String
  deriving DecidableEq, Repr

structure StructItem where
  name : String
  docs : List String
  fields : List FieldItem
  deriving DecidableEq, Repr

inductive ModelItem where
  | enum (e : EnumItem)
  | newtype (n : NewtypeItem)
  | union (u : UnionItem)
  | struct (s : StructItem)
  deriving DecidableEq, Repr

/-- The items of the model file, each kind by name. -/
structure ModelFile where
  enums : List EnumItem
  newtypes : List NewtypeItem
  unions : List UnionItem
  structs : List StructItem
  deriving DecidableEq, Repr

namespace ModelFile

open Naming (docLines identifier fieldIdentifier)
open Text (block indent inQuotes)

def variantItem (v : Schema.EnumValue) : VariantItem :=
  { ident := identifier v.name, value := v.name, docs := docLines v.description }

/-- The models that belong to an interface or union. -/
def membersOf (tree : Tree) (name : String) : List Model :=
  tree.models.filter fun m => m.implements.contains name

def memberItem (tree : Tree) (m : Model) : Except RenderError MemberItem := do
  return { ident := identifier m.name, type := ← Render.baseType tree m.name .models }

def fieldItem (tree : Tree) (f : Field) : Except RenderError FieldItem := do
  return { ident := fieldIdentifier f.name, type := ← Render.fieldType tree f.type .models
           rename := f.name, otherName := f.predicate, docs := docLines f.description }

def item (tree : Tree) : Entry → Except RenderError ModelItem
  | .enum e => .ok (.enum
      { name := e.name, docs := docLines e.description, variants := e.values.map variantItem })
  | .scalar s => .ok (.newtype { name := s.name, docs := docLines s.description })
  | .interface i => do
    let members ← (membersOf tree i.name).mapM (memberItem tree)
    if members.isEmpty then
      return .newtype { name := i.name, docs := docLines i.description }
    else return .union { name := i.name, docs := docLines i.description, members }
  | .model m => do
    let fields ← m.fields.mapM (fieldItem tree)
    return .struct { name := m.name, docs := docLines m.description, fields }

def isGenerated (tree : Tree) (e : Entry) : Bool :=
  (tree.bindings.get? e.name).any (·.isGenerated)

/-- The items of the entries to generate, by name. -/
def items (tree : Tree) : Except RenderError (List ModelItem) :=
  (tree.entries.values.filter (isGenerated tree)).mapM (item tree)

def ofTree (tree : Tree) : Except RenderError ModelFile := do
  let items ← items tree
  return {
    enums := items.filterMap fun | .enum e => some e | _ => none
    newtypes := items.filterMap fun | .newtype n => some n | _ => none
    unions := items.filterMap fun | .union u => some u | _ => none
    structs := items.filterMap fun | .struct s => some s | _ => none }

/-! ### Text -/

def variantLines (v : VariantItem) : List String :=
  v.docs ++ (if v.ident = v.value then [] else ["#[serde(rename = " ++ inQuotes v.value ++ ")]"])
    ++ [v.ident ++ ","]

def enumLines (e : EnumItem) : List String :=
  "" :: e.docs
    ++ ["#[derive(Debug, Clone, Copy, PartialEq, Eq, Hash, Serialize, Deserialize)]"]
    ++ block ("pub enum " ++ e.name) (e.variants.flatMap variantLines)

def newtypeLines (n : NewtypeItem) : List String :=
  "" :: n.docs
    ++ ["#[derive(Debug, Clone, PartialEq, Serialize, Deserialize)]", "#[serde(transparent)]",
        "pub struct " ++ n.name ++ "(pub serde_json::Value);"]

/-- The lines of the conversion from a member, after an empty one. -/
def conversionLines (union : String) (m : MemberItem) : List String :=
  "" :: block ("impl From<" ++ m.type ++ "> for " ++ union)
    (block ("fn from(value: " ++ m.type ++ ") -> Self")
      [union ++ "::" ++ m.ident ++ "(Box::new(value))"])

def unionLines (u : UnionItem) : List String :=
  "" :: u.docs
    ++ ["#[derive(Debug, Clone, Serialize, Deserialize)]", "#[serde(untagged)]"]
    ++ block ("pub enum " ++ u.name)
      (u.members.map fun m => m.ident ++ "(Box<" ++ m.type ++ ">),")
    ++ u.members.flatMap (conversionLines u.name)

def fieldLines (f : FieldItem) : List String :=
  f.docs
    ++ ["#[serde(rename = " ++ inQuotes f.rename ++ ", alias = " ++ inQuotes f.otherName ++ ")]",
        "pub " ++ f.ident ++ ": " ++ f.type ++ ","]

def structLines (s : StructItem) : List String :=
  "" :: s.docs
    ++ ["#[derive(Debug, Clone, Serialize, Deserialize)]"]
    ++ block ("pub struct " ++ s.name) (s.fields.flatMap fieldLines)

def head : List String :=
  ["// Code generated by lambdagen. DO NOT EDIT.",
   "#![allow(non_camel_case_types, unused_imports, clippy::large_enum_variant)]",
   "",
   "use serde::\x7bDeserialize, Serialize\x7d;"]

def render (file : ModelFile) : String :=
  Text.ofLines (head ++ file.enums.flatMap enumLines ++ file.newtypes.flatMap newtypeLines
    ++ file.unions.flatMap unionLines ++ file.structs.flatMap structLines)

end ModelFile

end ResolverScaffold

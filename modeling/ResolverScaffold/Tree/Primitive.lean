/-!
# Primitive types

The scalars that are types of the Rust language or of a library every project has.
-/

namespace ResolverScaffold

/-- The Rust type of a primitive scalar. -/
def primitive? (name : String) : Option String :=
  match name with
  | "ID" | "String" | "Password" => some "String"
  | "Boolean" => some "bool"
  | "Int" | "Int64" => some "i64"
  | "Float" => some "f64"
  | "DateTime" => some "chrono::DateTime<chrono::Utc>"
  | "Point" | "Polygon" | "MultiPolygon" => some "serde_json::Value"
  | _ => none

end ResolverScaffold

import QueryAlgebra.SetupError
import QueryAlgebra.Table

/-!
# Catalogs

A catalog holds tables in the order in which they were added, at most one under each name and
schema.
-/

namespace QueryAlgebra

/-- The tables in the order of their addition. -/
structure Catalog where
  tables : List Table := []

namespace Catalog

/-- The table with the name in the schema, where no schema is a place of its own. -/
def find? (catalog : Catalog) (name : String) (schema : Option String) : Option Table :=
  catalog.tables.find? fun table => table.name == name && table.schema == schema

/-- Whether the schema has a table with the name. -/
def contains (catalog : Catalog) (name : String) (schema : Option String) : Bool :=
  (catalog.find? name schema).isSome

/-- Adds a table: the outcome, and the catalog behind the addition. A table whose name is taken is
refused, and the catalog stays as it is. -/
def add (catalog : Catalog) (table : Table) : Except SetupError Unit × Catalog :=
  if catalog.contains table.name table.schema then
    (.error (.duplicateTable table.display), catalog)
  else
    (.ok (), { tables := catalog.tables ++ [table] })

/-- The catalog with all tables added in order, or the error of the first that is refused. -/
def addAll (catalog : Catalog) : List Table → Except SetupError Catalog
  | [] => .ok catalog
  | table :: rest =>
    match catalog.add table with
    | (.ok (), extended) => extended.addAll rest
    | (.error error, _) => .error error

/-- The names of the tables in the schema. -/
def names (catalog : Catalog) (schema : Option String) : List String :=
  (catalog.tables.filter (·.schema == schema)).map (·.name)

/-- The tables in the schema, each looked up by its name. -/
def tablesIn (catalog : Catalog) (schema : Option String) : List Table :=
  (catalog.names schema).filterMap (catalog.find? · schema)

end Catalog

end QueryAlgebra

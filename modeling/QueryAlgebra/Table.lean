import QueryAlgebra.DataType
import QueryAlgebra.KeyedList

/-!
# Tables

A table has named and typed columns and may live in a schema. Column names may repeat: only the
first column of a name is reached by the name.

A few small tables are there to try queries on.
-/

namespace QueryAlgebra

/-- A column of a table. -/
structure Column where
  name : String
  type : DataType

/-- Columns are equal when names and types are. -/
instance : BEq Column where
  beq left right := left.name == right.name && left.type == right.type

/-- A name within an optional schema. -/
structure QualifiedName where
  name : String
  schema : Option String := none
  deriving DecidableEq

/-- The name, preceded by the schema if there is one. -/
def QualifiedName.display (name : QualifiedName) : String :=
  match name.schema with
  | some schema => schema ++ "." ++ name.name
  | none => name.name

/-- A physical table with its columns in declared order. -/
structure Table extends QualifiedName where
  columns : List Column

namespace Table

/-- Tables are equal when names, schemas and columns are. -/
instance : BEq Table where
  beq left right :=
    left.toQualifiedName == right.toQualifiedName && left.columns == right.columns

/-- The columns under their names. -/
def columnsByName (table : Table) : KeyedList String Column :=
  .ofList table.columns fun column => some column.name

/-- The first column with the name. -/
def column? (table : Table) (name : String) : Option Column :=
  table.columnsByName.find? name

/-- The names that several columns share, in the order of their code points. -/
def ambiguousColumns (table : Table) : List String :=
  table.columnsByName.ambiguous.mergeSort

end Table

namespace Sample

/-- Events with a name and a value. -/
def events : Table where
  name := "events"
  columns := [⟨"id", .integer⟩, ⟨"name", .text⟩, ⟨"value", .integer⟩]

/-- Contacts with their addresses. -/
def contacts : Table where
  name := "contacts"
  columns := [⟨"id", .integer⟩, ⟨"address", .text⟩, ⟨"city", .text⟩, ⟨"country", .text⟩]

/-- One column for each type of literal. -/
def data : Table where
  name := "data"
  columns := [⟨"i", .integer⟩, ⟨"t", .text⟩, ⟨"b", .boolean⟩]

end Sample

end QueryAlgebra

import QueryAlgebra.Catalog
import QueryAlgebra.Dialect.Definition
import QueryAlgebra.Yaml.Decode

/-!
# Documents

The YAML forms of a catalog and of a dialect definition, and the files that hold them.

A catalog is a list of tables, whose columns have their types by name. A record may leave out its
optional fields but holds no fields of other names. Looking at the disk is left to the caller, who
says what a path leads to.
-/

namespace QueryAlgebra

open Yaml

/-! ## Catalogs -/

/-- A column with the name of its type. -/
def Column.ofNode? (node : Node) : Option Column := do
  let fields ← node.fields? ["name", "data_type"]
  let name ← (← fields.lookup "name").text?
  let type ← (← fields.lookup "data_type").text?
  return { name, type := DataType.parse type }

/-- A table, by default without a schema and without columns. -/
def Table.ofNode? (node : Node) : Option Table := do
  let fields ← node.fields? ["name", "schema", "columns"]
  let field (name : String) := (fields.lookup name).getD .absent
  let name ← (← fields.lookup "name").text?
  let schema ← (field "schema").optional? Node.text?
  let columns ← (field "columns").list? Column.ofNode?
  return { name, schema, columns }

/-- The tables that a document lists. -/
def Catalog.tablesOfNode? (node : Node) : Option (List Table) := do
  let fields ← node.fields? ["tables"]
  ((fields.lookup "tables").getD .absent).list? Table.ofNode?

/-- The catalog that a document holds, its tables added in the order of the list. -/
def Catalog.ofYaml (text : String) : Except SetupError Catalog :=
  match (Node.parse? text).bind Catalog.tablesOfNode? with
  | some tables => Catalog.addAll {} tables
  | none => .error .malformedCatalog

/-! ## Dialect definitions -/

/-- A signature: the lists of argument types and the type of the result. -/
def SignatureText.ofNode? (node : Node) : Option SignatureText := do
  let fields ← node.fields? ["arguments", "returns"]
  let arguments ← (← fields.lookup "arguments").list? Node.text?
  let returns ← (← fields.lookup "returns").text?
  return { arguments, returns }

/-- An associativity by its name. -/
def Associativity.ofNode? (node : Node) : Option Associativity := do
  match ← node.choice? with
  | "left" => some .left
  | "right" => some .right
  | _ => none

/-- What is said about one operator. -/
def OperatorChange.ofNode? (node : Node) : Option OperatorChange := do
  let fields ← node.fields? ["symbol", "precedence", "associativity", "signatures"]
  let field (name : String) := (fields.lookup name).getD .absent
  let symbol ← (field "symbol").optional? Node.text?
  let precedence ← (field "precedence").optional? Node.int32?
  let associativity ← (field "associativity").optional? Associativity.ofNode?
  let signatures ← (field "signatures").optional? (Node.list? SignatureText.ofNode?)
  return { symbol, precedence, associativity, signatures }

/-- A whole definition. -/
def DialectDefinition.ofNode? (node : Node) : Option DialectDefinition := do
  let fields ← node.fields? ["name", "binary_operators", "unary_operators", "functions"]
  let field (name : String) := (fields.lookup name).getD .absent
  let name ← (← fields.lookup "name").text?
  let binary ← (field "binary_operators").map? OperatorChange.ofNode?
  let unary ← (field "unary_operators").map? OperatorChange.ofNode?
  let functions ← (field "functions").map? (Node.list? SignatureText.ofNode?)
  return { name, binary, unary, functions }

/-- The definition that a document holds. -/
def DialectDefinition.ofYaml (text : String) : Except SetupError DialectDefinition :=
  match (Node.parse? text).bind DialectDefinition.ofNode? with
  | some definition => .ok definition
  | none => .error .malformedDialect

/-! ## Files -/

/-- What there is at a path. -/
inductive FileEntry where
  | missing
  | directory
  | file (bytes : ByteArray)

/-- The text of the file at a path. -/
def FileEntry.text (path : String) : FileEntry → Except SetupError String
  | .missing => .error (.fileNotFound path)
  | .directory => .error (.unreadable path .directory)
  | .file bytes =>
    match String.fromUTF8? bytes with
    | some text => .ok text
    | none => .error (.unreadable path .notUnicode)

/-- The catalog in the file at a path. -/
def Catalog.load (path : String) (entry : FileEntry) : Except SetupError Catalog := do
  Catalog.ofYaml (← entry.text path)

/-- The dialect definition in the file at a path. -/
def DialectDefinition.load (path : String) (entry : FileEntry) :
    Except SetupError DialectDefinition := do
  DialectDefinition.ofYaml (← entry.text path)

end QueryAlgebra

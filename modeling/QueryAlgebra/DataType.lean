import Std.Data.HashSet
import QueryAlgebra.Text.Unicode

/-!
# Data types

A data type is a name within a dialect. Beside the named types there is the error type, the outcome
of an expression that has no type, which carries the reason. The reason is for the reader only: two
error types are equal whatever their reasons.

A type is written by its name in any letter case, with blanks around it and parameters behind it:
`varchar(32)` is the same type as `TEXT`. A name that is not one of the built-in types names itself.
-/

namespace QueryAlgebra

/-- The name of the dialect that the built-in types and operators belong to. -/
def standardName : String := "default"

/-- A named type, or the error type with the reason for it. -/
inductive DataType where
  | named (dialect : String) (name : String)
  | error (reason : String)

namespace DataType

/-- The type with this name in the standard dialect. -/
def ofName (name : String) : DataType := .named standardName name

/-- The type of `NULL`. -/
def null : DataType := ofName "NULL"

/-- The parameter type that accepts every argument. -/
def any : DataType := ofName "ANY"

/-- The type of truth values. -/
def boolean : DataType := ofName "BOOLEAN"

/-- The type of whole numbers. -/
def integer : DataType := ofName "INTEGER"

/-- The type of floating-point numbers. -/
def double : DataType := ofName "DOUBLE"

/-- The type of character strings. -/
def text : DataType := ofName "TEXT"

instance : Inhabited DataType := ⟨null⟩

/-- The name of the type within its dialect. -/
def name : DataType → String
  | .named _ name => name
  | .error _ => "ERROR"

/-- The dialect that the type belongs to. -/
def dialect : DataType → String
  | .named dialect _ => dialect
  | .error _ => standardName

/-- Whether the type is the error type. -/
def isError : DataType → Bool
  | .named _ _ => false
  | .error _ => true

/-- The reason that an error type carries. -/
def reason? : DataType → Option String
  | .named _ _ => none
  | .error reason => some reason

/-- Types are equal when dialect, name and being an error agree. -/
instance : BEq DataType where
  beq left right :=
    left.dialect == right.dialect && left.name == right.name && left.isError == right.isError

/-- The hash reads what equality compares. -/
instance : Hashable DataType where
  hash type := mixHash (hash type.dialect) (mixHash (hash type.name) (hash type.isError))

/-- Whether the type is the type of `NULL`. -/
def isNull (type : DataType) : Bool := type == null

/-- Whether the type is the parameter type that accepts every argument. -/
def isAny (type : DataType) : Bool := type == any

/-- The name preceded by the dialect. -/
def qualifiedName (type : DataType) : String :=
  type.dialect ++ "." ++ type.name

/-- The type as it is shown to the user: its name, and the reason if it is an error. -/
def display (type : DataType) : String :=
  match type.reason? with
  | some reason => type.name ++ "(" ++ reason ++ ")"
  | none => type.name

/-- The set of the types in a list. -/
def toSet (types : List DataType) : Std.HashSet DataType :=
  Std.HashSet.ofList types

/-- Equality of types is that of what they show but the reason. -/
theorem beq_iff {left right : DataType} :
    left == right ↔
      left.dialect = right.dialect ∧ left.name = right.name ∧ left.isError = right.isError := by
  simp [BEq.beq, and_assoc]

instance : EquivBEq DataType where
  rfl := beq_iff.2 ⟨rfl, rfl, rfl⟩
  symm h := let ⟨hd, hn, he⟩ := beq_iff.1 h; beq_iff.2 ⟨hd.symm, hn.symm, he.symm⟩
  trans h h' :=
    let ⟨hd, hn, he⟩ := beq_iff.1 h
    let ⟨hd', hn', he'⟩ := beq_iff.1 h'
    beq_iff.2 ⟨hd.trans hd', hn.trans hn', he.trans he'⟩

instance : LawfulHashable DataType where
  hash_eq left right h := by
    obtain ⟨hd, hn, he⟩ := beq_iff.1 h
    simp only [hash, hd, hn, he]

/-! ## Reading names -/

/-- The names of the built-in types. -/
def builtins : List (String × DataType) :=
  [("BOOL", boolean), ("BOOLEAN", boolean),
   ("INT", integer), ("INTEGER", integer), ("INT4", integer), ("BIGINT", integer),
   ("INT8", integer), ("SMALLINT", integer), ("TINYINT", integer),
   ("DOUBLE", double), ("DOUBLE PRECISION", double), ("FLOAT", double), ("FLOAT8", double),
   ("REAL", double),
   ("TEXT", text), ("VARCHAR", text), ("STRING", text), ("CHAR", text),
   ("CHARACTER VARYING", text)]

/-- The name as it is looked up: without outer blanks and in upper case. -/
def canonical (name : String) : String :=
  Text.upper (Text.trim name)

/-- What precedes the parameters of a name that has some. -/
def base? (name : String) : Option String :=
  let base := name.toList.takeWhile (· != '(')
  if base ≠ [] ∧ base ≠ name.toList ∧ name.toList.getLast? = some ')' then
    some (String.ofList base)
  else
    none

/-- The built-in type with the canonical name, or else the type named so. -/
def ofCanonical (name : String) : DataType :=
  (builtins.lookup name).getD (ofName name)

/-- The type that a name stands for. Parameters do not change the type. -/
def parse (name : String) : DataType :=
  let whole := canonical name
  match builtins.lookup whole, base? whole with
  | none, some base => ofCanonical (canonical base)
  | _, _ => ofCanonical whole

end DataType

end QueryAlgebra

import Std.Data.TreeMap
import QueryAlgebra.Dialect
import QueryAlgebra.SetupError

/-!
# Dialect definitions

A dialect is defined by what it changes in the standard operator tables, and by its functions. A
change to a standard operator replaces the fields it gives; any other name introduces an operator,
which needs at least a symbol.

Names are visited in the order of their code points, so the first fault is well defined.
-/

namespace QueryAlgebra

/-- A signature written with the names of types. -/
structure SignatureText where
  arguments : List String
  returns : String
  deriving DecidableEq

/-- The signature that the names stand for. -/
def SignatureText.signature (text : SignatureText) : Signature where
  parameters := text.arguments.map DataType.parse
  result := DataType.parse text.returns

/-- What a dialect says about one operator. -/
structure OperatorChange where
  symbol : Option String := none
  precedence : Option Int32 := none
  associativity : Option Associativity := none
  signatures : Option (List SignatureText) := none
  deriving DecidableEq

namespace OperatorChange

/-- The first signature with other than `arity` arguments, as a fault of the operator. -/
def arityFault? (change : OperatorChange) (name : String) (arity : Nat) : Option DialectFault :=
  ((change.signatures.getD []).find? (·.arguments.length != arity)).map fun text =>
    .wrongArity name arity text.arguments.length

/-- The operator with the given fields replaced. -/
def revise (change : OperatorChange) (operator : Operator) : Operator where
  symbol := change.symbol.getD operator.symbol
  signatures :=
    match change.signatures with
    | some texts => texts.map SignatureText.signature
    | none => operator.signatures
  precedence := change.precedence.getD operator.precedence
  associativity := change.associativity.getD operator.associativity

/-- The changed or new operator, where `current` is the operator that has the name so far. -/
def apply (change : OperatorChange) (name : String) (arity : Nat) (current : Option Operator) :
    Except DialectFault Operator :=
  match change.arityFault? name arity, current, change.symbol with
  | some fault, _, _ => .error fault
  | none, some operator, _ => .ok (change.revise operator)
  | none, none, some symbol => .ok (change.revise { symbol })
  | none, none, none => .error (.missingSymbol name)

end OperatorChange

/-- The table after the changes, in order, or the first fault among them. -/
def OperatorTable.change (table : OperatorTable) (arity : Nat) :
    List (String × OperatorChange) → Except DialectFault OperatorTable
  | [] => .ok table
  | (name, change) :: rest => do
    let operator ← change.apply name arity (table.find? name)
    (table.insert name operator).change arity rest

/-- A name, the changes to the standard operators, and the signatures of functions. -/
structure DialectDefinition where
  name : String
  binary : Std.TreeMap String OperatorChange := {}
  unary : Std.TreeMap String OperatorChange := {}
  functions : Std.TreeMap String (List SignatureText) := {}

/-- The dialect so defined. -/
def DialectDefinition.build (definition : DialectDefinition) : Except DialectFault Dialect := do
  if Text.trim definition.name = "" then
    throw .blankName
  let binary ← OperatorTable.standardBinary.change 2 definition.binary.toList
  let unary ← OperatorTable.standardUnary.change 1 definition.unary.toList
  return {
    name := definition.name
    binary? := binary.find?
    unary? := unary.find?
    functions := fun name =>
      (definition.functions.getD name []).map SignatureText.signature }

end QueryAlgebra

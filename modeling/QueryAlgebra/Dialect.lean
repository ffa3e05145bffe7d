import QueryAlgebra.DataType

/-!
# Dialects

A dialect decides how operators are spelled, how tightly they bind and which argument types they
and the functions accept. A tree refers to operators and functions by name, and rendering and typing
know a dialect by its look-ups of names only.

A signature says which argument types an operator or function accepts and what type it then
returns. Of several signatures, the first that accepts the arguments decides. The tables below give
the operators that every dialect starts from.
-/

namespace QueryAlgebra

/-! ## Signatures -/

/-- The types of the parameters and of the result. -/
structure Signature where
  parameters : List DataType
  result : DataType

namespace Signature

/-- Whether the arguments are as many as the parameters and each fits its parameter. -/
def accepts (signature : Signature) (arguments : List DataType) : Bool :=
  signature.parameters.length == arguments.length &&
    (signature.parameters.zip arguments).all fun (parameter, argument) =>
      parameter.isAny || parameter == argument

/-- The parameters in brackets and the result behind an arrow. -/
def display (signature : Signature) : String :=
  "[" ++ ", ".intercalate (signature.parameters.map DataType.display) ++ "] -> " ++
    signature.result.display

/-- The result of the first signature that accepts the arguments. -/
def resolve? (signatures : List Signature) (arguments : List DataType) : Option DataType :=
  (signatures.find? (·.accepts arguments)).map Signature.result

end Signature

/-! ## Operators -/

/-- How operators of one precedence group. -/
inductive Associativity where
  | left
  | right
  deriving DecidableEq

/-- An operator as a dialect knows it. Of two operators the one with the higher precedence binds
tighter. -/
structure Operator where
  symbol : String
  signatures : List Signature := []
  precedence : Int32 := 0
  associativity : Associativity := .left

/-- The type of the operator applied to arguments of the given types. -/
def Operator.resolve? (operator : Operator) (arguments : List DataType) : Option DataType :=
  Signature.resolve? operator.signatures arguments

/-- Operators by name. -/
abbrev OperatorTable := List (String × Operator)

namespace OperatorTable

/-- The operator with the name. -/
def find? (table : OperatorTable) (name : String) : Option Operator :=
  table.lookup name

/-- The table in which the name stands for the operator. -/
def insert (table : OperatorTable) (name : String) (operator : Operator) : OperatorTable :=
  (name, operator) :: table.filter (·.1 != name)

open DataType

private def arithmetic : List Signature :=
  [⟨[integer, integer], integer⟩, ⟨[double, double], double⟩, ⟨[integer, double], double⟩,
   ⟨[double, integer], double⟩]

private def bitwise : List Signature := [⟨[integer, integer], integer⟩]

private def logical : List Signature := [⟨[boolean, boolean], boolean⟩]

private def textual : List Signature := [⟨[text, text], text⟩]

/-- The binary operators of the standard dialect. -/
def standardBinary : OperatorTable :=
  [("exp", ⟨"^", arithmetic, 160, .left⟩),
   ("shl", ⟨"<<", bitwise, 160, .left⟩),
   ("shr", ⟨">>", bitwise, 160, .left⟩),
   ("mul", ⟨"*", arithmetic, 150, .left⟩),
   ("div", ⟨"/", arithmetic, 150, .left⟩),
   ("mod", ⟨"%", arithmetic, 150, .left⟩),
   ("bitand", ⟨"&", bitwise, 150, .left⟩),
   ("add", ⟨"+", arithmetic, 140, .left⟩),
   ("sub", ⟨"-", arithmetic, 140, .left⟩),
   ("bitor", ⟨"|", bitwise, 140, .left⟩),
   ("bitxor", ⟨"#", bitwise, 140, .left⟩),
   ("concat", ⟨"||", textual, 140, .left⟩),
   ("eq", ⟨"=", logical, 130, .left⟩),
   ("ne", ⟨"!=", logical, 130, .left⟩),
   ("lt", ⟨"<", logical, 130, .left⟩),
   ("le", ⟨"<=", logical, 130, .left⟩),
   ("gt", ⟨">", logical, 130, .left⟩),
   ("ge", ⟨">=", logical, 130, .left⟩),
   ("like", ⟨"LIKE", textual, 130, .left⟩),
   ("and", ⟨"AND", logical, 110, .left⟩),
   ("or", ⟨"OR", logical, 110, .right⟩)]

/-- The unary operators of the standard dialect. -/
def standardUnary : OperatorTable :=
  [("neg", ⟨"-", [⟨[integer], integer⟩, ⟨[double], double⟩], 0, .left⟩),
   ("not", ⟨"NOT", [⟨[boolean], boolean⟩], 0, .left⟩),
   ("bitnot", ⟨"~", [⟨[integer], integer⟩], 0, .left⟩)]

/-- Only the inserted name changes its operator. -/
@[simp] theorem find?_insert (table : OperatorTable) (name other : String) (operator : Operator) :
    (table.insert name operator).find? other =
      if other = name then some operator else table.find? other := by
  unfold insert find?
  by_cases h : other = name
  · simp [h]
  · simp only [List.lookup_cons, beq_eq_false_iff_ne.2 h, h, if_false]
    induction table with
    | nil => rfl
    | cons entry rest ih =>
      obtain ⟨key, value⟩ := entry
      by_cases hkey : key = name
      · simp [hkey, List.lookup_cons, beq_eq_false_iff_ne.2 h, ih]
      · by_cases hother : other = key <;> simp [hkey, List.lookup_cons, hother, ih]

end OperatorTable

/-! ## Dialects -/

/-- The look-ups that make up a dialect; an unknown function has no signatures. -/
structure Dialect where
  name : String
  binary? : String → Option Operator
  unary? : String → Option Operator
  functions : String → List Signature := fun _ => []

namespace Dialect

/-- The dialect with the built-in operators and no functions. -/
def standard : Dialect where
  name := standardName
  binary? := OperatorTable.standardBinary.find?
  unary? := OperatorTable.standardUnary.find?

/-- The spelling of conjunction between the predicates of one clause. -/
def conjunction (dialect : Dialect) : String :=
  match dialect.binary? "and" with
  | some operator => operator.symbol
  | none => "AND"

end Dialect

end QueryAlgebra

import QueryAlgebra.Expression

/-!
# Writing expressions

Literals stand for expressions, and the arithmetic, bitwise, comparison and logical operators build
applications of the operators of that meaning.
-/

namespace QueryAlgebra.Expression

instance : Coe Int64 Expression := ⟨.integer⟩

instance : Coe String Expression := ⟨.text⟩

instance : Coe Bool Expression := ⟨.boolean⟩

/-- A literal that may be missing: no value is `NULL`. -/
def ofOption {α : Type} (literal : α → Expression) : Option α → Expression
  | some value => literal value
  | none => .null

instance : Add Expression := ⟨.binary "add"⟩

instance : Sub Expression := ⟨.binary "sub"⟩

instance : Mul Expression := ⟨.binary "mul"⟩

instance : Div Expression := ⟨.binary "div"⟩

instance : Mod Expression := ⟨.binary "mod"⟩

instance : AndOp Expression := ⟨.binary "bitand"⟩

instance : OrOp Expression := ⟨.binary "bitor"⟩

instance : Neg Expression := ⟨.unary "neg"⟩

/-- Negation of a truth value. -/
def not (operand : Expression) : Expression := .unary "not" operand

/-- Whether the values are equal. -/
def equals (left right : Expression) : Expression := .binary "eq" left right

/-- Whether the values differ. -/
def notEquals (left right : Expression) : Expression := .binary "ne" left right

/-- Whether the left value is less. -/
def lt (left right : Expression) : Expression := .binary "lt" left right

/-- Whether the left value is at most the right one. -/
def le (left right : Expression) : Expression := .binary "le" left right

/-- Whether the left value is greater. -/
def gt (left right : Expression) : Expression := .binary "gt" left right

/-- Whether the left value is at least the right one. -/
def ge (left right : Expression) : Expression := .binary "ge" left right

/-- Whether both hold. -/
def and (left right : Expression) : Expression := .binary "and" left right

/-- Whether one of the two holds. -/
def or (left right : Expression) : Expression := .binary "or" left right

/-- The texts joined. -/
def concat (left right : Expression) : Expression := .binary "concat" left right

/-- Whether the text matches the pattern. -/
def like (text pattern : Expression) : Expression := .binary "like" text pattern

end QueryAlgebra.Expression

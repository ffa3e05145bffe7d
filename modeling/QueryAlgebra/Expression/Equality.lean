import QueryAlgebra.Expression

/-!
# Equality of trees

Two trees are equal when they have the same shape and the same labels. The types of table columns
are compared as types, so two error types in the same place do not tell trees apart.
-/

namespace QueryAlgebra

mutual

/-- Equality of expressions. -/
def Expression.beq : Expression → Expression → Bool
  | .null, .null => true
  | .integer value, .integer value' => value == value'
  | .text value, .text value' => value == value'
  | .boolean value, .boolean value' => value == value'
  | .binary operator left right, .binary operator' left' right' =>
    operator == operator' && left.beq left' && right.beq right'
  | .unary operator operand, .unary operator' operand' =>
    operator == operator' && operand.beq operand'
  | .call function arguments, .call function' arguments' =>
    function == function' && Expression.beqList arguments arguments'
  | .parameter name, .parameter name' => name == name'
  | .named expression name, .named expression' name' => expression.beq expression' && name == name'
  | .reference target, .reference target' => target.beq target'
  | .error cause, .error cause' => cause == cause'
  | _, _ => false
termination_by structural e => e

/-- Equality of lists of expressions. -/
def Expression.beqList : List Expression → List Expression → Bool
  | [], [] => true
  | e :: es, e' :: es' => e.beq e' && Expression.beqList es es'
  | _, _ => false
termination_by structural es => es

/-- Equality of lists of lists of expressions. -/
def Expression.beqLists : List (List Expression) → List (List Expression) → Bool
  | [], [] => true
  | es :: ess, es' :: ess' => Expression.beqList es es' && Expression.beqLists ess ess'
  | _, _ => false
termination_by structural ess => ess

/-- Equality of optional expressions. -/
def Expression.beqOption : Option Expression → Option Expression → Bool
  | none, none => true
  | some e, some e' => e.beq e'
  | _, _ => false
termination_by structural e => e

/-- Equality of references. -/
def AttributeReference.beq : AttributeReference → AttributeReference → Bool
  | ⟨index, name, owner⟩, ⟨index', name', owner'⟩ =>
    index == index' && name == name' && owner.beq owner'
termination_by structural reference => reference

/-- Equality of grouping elements. -/
def Grouping.beq : Grouping → Grouping → Bool
  | .single expression, .single expression' => expression.beq expression'
  | .sets lists, .sets lists' => Expression.beqLists lists lists'
  | .cube expressions, .cube expressions' => Expression.beqList expressions expressions'
  | .rollup expressions, .rollup expressions' => Expression.beqList expressions expressions'
  | _, _ => false
termination_by structural element => element

/-- Equality of lists of grouping elements. -/
def Grouping.beqList : List Grouping → List Grouping → Bool
  | [], [] => true
  | element :: elements, element' :: elements' =>
    element.beq element' && Grouping.beqList elements elements'
  | _, _ => false
termination_by structural elements => elements

/-- Equality of relations. -/
def Relation.beq : Relation → Relation → Bool
  | .none, .none => true
  | .table table, .table table' => table == table'
  | .projection columns input, .projection columns' input' =>
    Expression.beqList columns columns' && input.beq input'
  | .selection predicate input, .selection predicate' input' =>
    predicate.beq predicate' && input.beq input'
  | .renaming name input, .renaming name' input' => name == name' && input.beq input'
  | .join kind left right condition, .join kind' left' right' condition' =>
    kind == kind' && left.beq left' && right.beq right' &&
      Expression.beqOption condition condition'
  | .group grouping aggregates input, .group grouping' aggregates' input' =>
    Grouping.beqList grouping grouping' && Expression.beqList aggregates aggregates' &&
      input.beq input'
  | .error input cause, .error input' cause' => input.beq input' && cause == cause'
  | _, _ => false
termination_by structural relation => relation

end

instance : BEq Expression := ⟨Expression.beq⟩

instance : BEq AttributeReference := ⟨AttributeReference.beq⟩

instance : BEq Grouping := ⟨Grouping.beq⟩

instance : BEq Relation := ⟨Relation.beq⟩

end QueryAlgebra

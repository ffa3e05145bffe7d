import QueryAlgebra.Expression

/-!
# Induction over the trees

Expressions, references, grouping elements and relations are defined together, so the induction
that comes with them speaks about all four at once. The principles below follow one kind of edge
only: from an expression to its operands and arguments, and from a relation to its inputs.
-/

namespace QueryAlgebra

/-- Operands and arguments are smaller than the expression they are part of. -/
theorem Expression.sizeOf_lt_of_mem_children {expression child : Expression}
    (h : child ∈ expression.children) : sizeOf child < sizeOf expression := by
  cases expression with
  | binary operator left right =>
    simp only [Expression.children, List.mem_cons, List.not_mem_nil, or_false] at h
    simp only [Expression.binary.sizeOf_spec]
    rcases h with rfl | rfl <;> omega
  | unary operator operand =>
    obtain rfl := List.mem_singleton.1 h
    simp only [Expression.unary.sizeOf_spec]
    omega
  | call function arguments =>
    have := List.sizeOf_lt_of_mem (show child ∈ arguments from h)
    simp only [Expression.call.sizeOf_spec]
    omega
  | named expression name =>
    obtain rfl := List.mem_singleton.1 h
    simp only [Expression.named.sizeOf_spec]
    omega
  | _ => simp [Expression.children] at h

/-- Induction over an expression by its children, whatever its kind. -/
@[elab_as_elim]
theorem Expression.childInduction {motive : Expression → Prop}
    (step : ∀ expression, (∀ child ∈ expression.children, motive child) → motive expression)
    (expression : Expression) : motive expression := by
  induction hsize : sizeOf expression using Nat.strongRecOn generalizing expression with
  | ind size ih =>
    subst hsize
    exact step expression fun child hchild =>
      ih _ (Expression.sizeOf_lt_of_mem_children hchild) child rfl

/-- Induction over an expression by its operands and arguments, with a case for each kind. The
relation that a reference leads to is not entered. -/
@[elab_as_elim, induction_eliminator]
theorem Expression.operandInduction {motive : Expression → Prop}
    (null : motive .null)
    (integer : ∀ value, motive (.integer value))
    (text : ∀ value, motive (.text value))
    (boolean : ∀ value, motive (.boolean value))
    (binary : ∀ operator left right, motive left → motive right →
      motive (.binary operator left right))
    (unary : ∀ operator operand, motive operand → motive (.unary operator operand))
    (call : ∀ function arguments, (∀ argument ∈ arguments, motive argument) →
      motive (.call function arguments))
    (parameter : ∀ name, motive (.parameter name))
    (named : ∀ expression name, motive expression → motive (.named expression name))
    (reference : ∀ target, motive (.reference target))
    (error : ∀ cause, motive (.error cause)) (expression : Expression) : motive expression := by
  induction expression using Expression.childInduction with
  | step expression ih =>
    cases expression with
    | null => exact null
    | integer value => exact integer value
    | text value => exact text value
    | boolean value => exact boolean value
    | binary operator left right =>
      exact binary operator left right (ih left (by simp [Expression.children]))
        (ih right (by simp [Expression.children]))
    | unary operator operand =>
      exact unary operator operand (ih operand (by simp [Expression.children]))
    | call function arguments => exact call function arguments ih
    | parameter name => exact parameter name
    | named expression name =>
      exact named expression name (ih expression (by simp [Expression.children]))
    | reference target => exact reference target
    | error cause => exact error cause

/-- Induction over a relation by its inputs. The relations that its expressions refer to are not
entered. -/
@[elab_as_elim, induction_eliminator]
theorem Relation.inputInduction {motive : Relation → Prop}
    (none : motive .none)
    (table : ∀ base, motive (.table base))
    (projection : ∀ columns input, motive input → motive (.projection columns input))
    (selection : ∀ predicate input, motive input → motive (.selection predicate input))
    (renamed : ∀ name input, motive input → motive (.renaming name input))
    (join : ∀ kind left right condition, motive left → motive right →
      motive (.join kind left right condition))
    (group : ∀ grouping aggregates input, motive input → motive (.group grouping aggregates input))
    (error : ∀ input cause, motive input → motive (.error input cause))
    (relation : Relation) : motive relation := by
  induction hsize : sizeOf relation using Nat.strongRecOn generalizing relation with
  | ind size ih =>
    subst hsize
    cases relation with
    | none => exact none
    | table base => exact table base
    | projection columns input =>
      refine projection columns input (ih _ ?_ input rfl)
      simp only [Relation.projection.sizeOf_spec]
      omega
    | selection predicate input =>
      refine selection predicate input (ih _ ?_ input rfl)
      simp only [Relation.selection.sizeOf_spec]
      omega
    | «renaming» name input =>
      refine renamed name input (ih _ ?_ input rfl)
      simp only [Relation.renaming.sizeOf_spec]
      omega
    | join kind left right condition =>
      refine join kind left right condition (ih _ ?_ left rfl) (ih _ ?_ right rfl) <;>
        simp only [Relation.join.sizeOf_spec] <;> omega
    | group grouping aggregates input =>
      refine group grouping aggregates input (ih _ ?_ input rfl)
      simp only [Relation.group.sizeOf_spec]
      omega
    | error input cause =>
      refine error input cause (ih _ ?_ input rfl)
      simp only [Relation.error.sizeOf_spec]
      omega

end QueryAlgebra

import QueryAlgebra.Proofs.NodeErrors

/-!
# The order of rendering

Rendering a relation visits expressions: the columns before the input, the predicates behind it, and
the grouping expressions a second time, in their clause. What it reports are the errors of these
expressions in the order of the visits. Text of its own, names that are given and names that are
dropped add no errors and hide none.
-/

namespace QueryAlgebra

variable (dialect : Dialect)

namespace Expression

/-- The name that a grouping expression is written without has no errors. -/
@[simp] theorem errors_renderGrouping (expression : Expression) :
    (expression.renderGrouping dialect).errors = (expression.render dialect).errors := by
  cases expression <;> simp [renderGrouping, render]

/-- A list of expressions has the errors of its members in order. -/
@[simp] theorem errors_renderList (expressions : List Expression) :
    (renderList dialect expressions).errors =
      expressions.flatMap fun expression => (expression.render dialect).errors := by
  simp [renderList, List.flatMap_map]

/-- A clause has the errors of its predicates in order. -/
@[simp] theorem errors_renderFilters (keyword : String) (predicates : List Expression) :
    (renderFilters dialect keyword predicates).errors =
      predicates.flatMap fun predicate => (predicate.render dialect).errors := by
  match predicates with
  | [] => rfl
  | [_] => simp [renderFilters]
  | _ :: _ :: _ => simp [renderFilters, List.flatMap_map]

end Expression

namespace Grouping

/-- Grouping expressions have their errors in order. -/
@[simp] theorem errors_renderSet (expressions : List Expression) :
    (renderSet dialect expressions).errors =
      expressions.flatMap fun expression => (expression.render dialect).errors := by
  simp [renderSet, List.flatMap_map]

/-- An element has the errors of the expressions written in it. -/
@[simp] theorem errors_render (element : Grouping) :
    (element.render dialect).errors =
      element.written.flatMap fun expression => (expression.render dialect).errors := by
  cases element with
  | sets lists =>
    rw [written, ← List.flatMap_id, List.flatMap_assoc]
    simp [render, List.flatMap_map]
  | _ => simp [render, written]

/-- The clause has the errors of the expressions written in its elements. -/
@[simp] theorem errors_renderClause (grouping : List Grouping) :
    (renderClause dialect grouping).errors =
      (grouping.flatMap written).flatMap fun expression => (expression.render dialect).errors := by
  cases grouping with
  | nil => rfl
  | cons element rest => simp [renderClause, List.flatMap_map, List.flatMap_assoc]

end Grouping

namespace Relation

/-- The expressions in the order in which rendering visits them. An error node is visited as the
error that it stands for, and its input is not. -/
def visited : Relation → List Expression
  | .none => []
  | .table _ => []
  | .projection columns input => columns ++ input.visited
  | .selection predicate input => input.visited ++ [predicate]
  | .renaming _ input => input.visited
  | .join _ left right condition => left.visited ++ right.visited ++ condition.toList
  | .group grouping aggregates input =>
    Grouping.columns grouping aggregates ++ input.visited ++ grouping.flatMap Grouping.written
  | .error _ cause => [.error cause]
termination_by structural relation => relation

/-- A `FROM` clause has the errors of the input. -/
@[simp] theorem errors_fromClause (input : Relation) :
    (input.fromClause (input.renderFiltered dialect [])).errors =
      (input.renderFiltered dialect []).errors := by
  cases input with
  | none => rfl
  | _ => simp [fromClause, isNone]

/-- Rendering reports the errors of the expressions in the order of the visits; those of the filters
come last. -/
theorem errors_renderFiltered (relation : Relation) (filters : List Expression) :
    (relation.renderFiltered dialect filters).errors =
      (relation.visited ++ filters).flatMap fun expression =>
        (expression.render dialect).errors := by
  induction relation generalizing filters with
  | none => simp [renderFiltered, withFilters, visited]
  | table base => simp [renderFiltered, withFilters, visited]
  | projection columns input ih => simp [renderFiltered, withFilters, visited, ih]
  | selection predicate input ih => simp [renderFiltered, visited, ih]
  | renamed name input ih => simp [renderFiltered, withFilters, visited, ih]
  | join kind left right condition ihl ihr =>
    cases condition <;> simp [renderFiltered, withFilters, visited, ihl, ihr]
  | group grouping aggregates input ih => simp [renderFiltered, withFilters, visited, ih]
  | error input cause ih => simp [renderFiltered, withFilters, visited, Expression.render]

/-- Rendering reports the errors of the expressions in the order of the visits. -/
theorem errors_render (relation : Relation) :
    (relation.render dialect).errors =
      relation.visited.flatMap fun expression => (expression.render dialect).errors := by
  rw [render, errors_renderFiltered, List.append_nil]

end Relation

end QueryAlgebra

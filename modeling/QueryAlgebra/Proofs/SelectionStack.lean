import QueryAlgebra.Proofs.RenderedLaws
import QueryAlgebra.Render

/-!
# Stacks of selections

Selections that are stacked on a relation hand their predicates down to it, the innermost first. The
relation then writes its own text and puts one clause behind it for all of them.
-/

namespace QueryAlgebra.Relation

/-- Whether the relation is a selection. -/
def isSelection : Relation → Bool
  | .selection _ _ => true
  | _ => false

/-- The relation with one selection for each predicate, the first of them innermost. -/
def selectEach (relation : Relation) (predicates : List Expression) : Relation :=
  predicates.foldl select relation

/-- Selections pass the attributes on. -/
theorem attributes_selectEach (relation : Relation) (predicates : List Expression) :
    (relation.selectEach predicates).attributes = relation.attributes := by
  induction predicates generalizing relation with
  | nil => rfl
  | cons predicate rest ih => exact ih (relation.select predicate)

/-- Selections put their predicates in front of the filters that stand above them. -/
theorem renderFiltered_selectEach (dialect : Dialect) (relation : Relation)
    (predicates filters : List Expression) :
    (relation.selectEach predicates).renderFiltered dialect filters =
      relation.renderFiltered dialect (predicates ++ filters) := by
  induction predicates generalizing relation with
  | nil => rfl
  | cons predicate rest ih =>
    rw [selectEach, List.foldl_cons]
    exact (ih (relation.select predicate)).trans (by rw [select, renderFiltered, List.cons_append])

/-- A relation that is no selection has its own text and behind it the clause of the filters. -/
theorem renderFiltered_eq_render {relation : Relation} (hbase : relation.isSelection = false)
    (dialect : Dialect) (filters : List Expression) :
    relation.renderFiltered dialect filters =
      relation.render dialect ++
        Expression.renderFilters dialect relation.filterKeyword filters := by
  cases relation with
  | selection predicate input => cases hbase
  | _ => exact congrArg (· ++ _) (Rendered.append_empty _).symm

end QueryAlgebra.Relation

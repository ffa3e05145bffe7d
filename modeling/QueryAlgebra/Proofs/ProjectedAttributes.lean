import QueryAlgebra.Proofs.NameResolution
import QueryAlgebra.Proofs.NodeErrors
import QueryAlgebra.Proofs.Pipelines

/-!
# Projecting all attributes

The projection of all attributes numbers them anew, by their names. It uses each of them once, so it
adds to the errors of the relation those of the attributes that cannot be used, and it has a text
exactly if the relation has one and all attributes are usable.

A join may list two attributes of one name that are usable as long as each is known by its side.
Projected they share the name and are ambiguous, and they stay so when they are projected again.
-/

namespace QueryAlgebra

/-- A reference as an expression has the error that it stands for. -/
theorem Expression.attributeErrors_reference (target : AttributeReference) :
    (Expression.reference target).attributeErrors = target.error?.toList := by
  rw [attributeErrors_root]
  exact List.append_nil _

/-- A reference has a text exactly if it is usable. -/
theorem Expression.isFailure_render_reference (dialect : Dialect) (target : AttributeReference) :
    ((Expression.reference target).render dialect).isFailure = false ↔ target.error? = none := by
  rw [render, AttributeReference.isFailure_render, Option.isSome_eq_false_iff,
    Option.isNone_iff_eq_none]

namespace Relation

/-- The columns that project all attributes have the names of these. -/
theorem map_displayName_attributeExpressions (relation : Relation) :
    relation.attributeExpressions.map Expression.displayName = relation.attributeNames := by
  rw [attributeExpressions, List.map_map]
  rfl

/-- All attributes projected are numbered anew, by the names that they had before. -/
theorem attributes_projectAll (relation : Relation) :
    relation.projectAll.attributes = relation.attributeNames.mapIdx fun position name =>
      { index := indexAmong relation.attributeNames position
        name
        owner := relation.projectAll } := by
  change AttributeReference.collect relation.attributeExpressions relation.projectAll = _
  rw [AttributeReference.collect_eq_mapIdx, map_displayName_attributeExpressions]
  refine List.ext_getElem (by simp [attributeExpressions, attributeNames]) fun i h h' => ?_
  simp [attributeExpressions, attributeNames, Expression.displayName]

/-- Projected twice, all attributes have the indexes that they have when they are projected once. -/
theorem map_index_projectAll_projectAll (relation : Relation) :
    relation.projectAll.projectAll.attributes.map AttributeReference.index =
      relation.projectAll.attributes.map AttributeReference.index := by
  have honce := map_index_attributes (show relation.projectAll.showsColumns from rfl)
  have htwice := map_index_attributes (show relation.projectAll.projectAll.showsColumns from rfl)
  rw [attributeNames_projectAll] at htwice
  exact htwice.trans honce.symm

/-- To project all attributes adds the errors of those that cannot be used. -/
theorem errors_projectAll (relation : Relation) :
    relation.projectAll.errors =
      relation.errors ++ relation.attributes.filterMap AttributeReference.error? := by
  rw [projectAll, errors, attributeExpressions, List.flatMap_map, List.filterMap_eq_flatMap_toList]
  exact congrArg _ (List.flatMap_congr fun reference _ =>
    Expression.attributeErrors_reference reference)

/-- All attributes projected have a text exactly if the relation has one and all are usable. -/
theorem exists_render_projectAll_iff (relation : Relation) (dialect : Dialect) :
    (∃ content, relation.projectAll.render dialect = .text content) ↔
      (∃ content, relation.render dialect = .text content) ∧
        ∀ reference ∈ relation.attributes, reference.error? = Option.none := by
  rw [← Rendered.isFailure_eq_false_iff, ← Rendered.isFailure_eq_false_iff, render, render,
    isFailure_renderFiltered, isFailure_renderFiltered, List.append_nil, List.append_nil,
    projectAll, expressions, List.forall_mem_append, hasErrorNode, and_assoc, attributeExpressions,
    List.forall_mem_map]
  simp only [Expression.isFailure_render_reference]

/-- To project all attributes gives each the index that the names decide, the name that it had and
the projection as owner, and to do so again changes neither names nor indexes. The errors are those
of the relation and, behind them, those of the attributes, and there is a text exactly if the
relation has one and none of its attributes stands for an error. -/
theorem projectAll_stable (relation : Relation) :
    relation.projectAll.attributes = relation.attributeNames.mapIdx (fun position name =>
        { index := indexAmong relation.attributeNames position
          name
          owner := relation.projectAll }) ∧
      relation.projectAll.projectAll.attributeNames = relation.projectAll.attributeNames ∧
      relation.projectAll.projectAll.attributes.map AttributeReference.index =
        relation.projectAll.attributes.map AttributeReference.index ∧
      relation.projectAll.errors =
        relation.errors ++ relation.attributes.filterMap AttributeReference.error? ∧
      ∀ dialect : Dialect,
        (∃ content, relation.projectAll.render dialect = .text content) ↔
          (∃ content, relation.render dialect = .text content) ∧
            ∀ reference ∈ relation.attributes, reference.error? = Option.none :=
  ⟨attributes_projectAll relation, attributeNames_projectAll relation.projectAll,
    map_index_projectAll_projectAll relation, errors_projectAll relation,
    exists_render_projectAll_iff relation⟩

/-- Two tables with a column of one name may be joined and projected, but only once. -/
example :
    let joined := (Relation.table Sample.events).joinWith (.table Sample.contacts)
    (joined.projectAll.render .standard).isFailure = false ∧
      (joined.projectAll.projectAll.render .standard).isFailure = true := by
  decide +kernel

end Relation

end QueryAlgebra

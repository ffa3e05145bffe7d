import Mathlib.Data.List.Perm.Basic
import QueryAlgebra.Proofs.EqualTrees
import QueryAlgebra.Proofs.RenderingOrder

/-!
# Errors of a relation

The errors of a relation are collected in two ways. The tree itself is asked for all of them,
innermost first and each distinct grouping expression of an element once; and rendering reports them
where it meets them, the columns of a relation before its input and grouping expressions both as
columns and in their clause. Rendering looks at no input of an error node. With such inputs pruned
away the two ways find the same errors, and without groups each of them equally often.
-/

namespace QueryAlgebra

variable (dialect : Dialect)

/-- The columns and the clause of a group together report what the distinct expressions of the
elements and the aggregates do. -/
theorem Grouping.mem_attributeErrors_columns_iff (grouping : List Grouping)
    (aggregates : List Expression) (cause : AttributeError) :
    cause ∈ (Grouping.columns grouping aggregates).flatMap Expression.attributeErrors ∨
        cause ∈ (grouping.flatMap written).flatMap Expression.attributeErrors ↔
      cause ∈ grouping.flatMap (·.expressions.flatMap Expression.attributeErrors) ∨
        cause ∈ aggregates.flatMap Expression.attributeErrors := by
  have hwritten : cause ∈ grouping.flatMap (·.expressions.flatMap Expression.attributeErrors) ↔
      cause ∈ (grouping.flatMap written).flatMap Expression.attributeErrors := by
    rw [List.flatMap_assoc, List.mem_flatMap, List.mem_flatMap]
    exact exists_congr fun element => and_congr_right fun _ => mem_attributeErrors_iff
  rw [hwritten, ← List.mem_append, ← List.mem_append, ← List.flatMap_append, ← List.flatMap_append,
    List.mem_flatMap, List.mem_flatMap]
  exact exists_congr fun expression =>
    and_congr_left fun _ => List.mem_append.trans mem_columns_or_written

namespace Relation

/-! ## The order of rendering -/

/-- The errors in the order in which rendering meets them. -/
def reports : Relation → List AttributeError
  | .none => []
  | .table _ => []
  | .projection columns input => columns.flatMap Expression.attributeErrors ++ input.reports
  | .selection predicate input => input.reports ++ predicate.attributeErrors
  | .renaming _ input => input.reports
  | .join _ left right condition =>
    left.reports ++ right.reports ++ condition.toList.flatMap Expression.attributeErrors
  | .group grouping aggregates input =>
    (Grouping.columns grouping aggregates).flatMap Expression.attributeErrors ++ input.reports ++
      (grouping.flatMap Grouping.written).flatMap Expression.attributeErrors
  | .error _ cause => [cause]
termination_by structural relation => relation

/-- These are the errors of the expressions that rendering visits. -/
theorem reports_eq_flatMap_visited (relation : Relation) :
    relation.reports = relation.visited.flatMap Expression.attributeErrors := by
  induction relation with
  | none => rfl
  | table base => rfl
  | projection columns input ih => simp [reports, visited, ih]
  | selection predicate input ih => simp [reports, visited, ih]
  | renamed name input ih => exact ih
  | join kind left right condition ihl ihr => simp [reports, visited, ihl, ihr]
  | group grouping aggregates input ih => simp [reports, visited, ih]
  | error input cause ih => rfl

/-- Rendering reports the errors in that order, in every dialect. -/
theorem causes_render (relation : Relation) :
    (relation.render dialect).causes = relation.reports := by
  rw [Rendered.causes, errors_render, List.filterMap_flatMap, reports_eq_flatMap_visited]
  exact List.flatMap_congr fun expression _ => Expression.causes_render dialect expression

/-! ## Pruned relations -/

/-- The relation without the inputs of its error nodes. -/
def pruned : Relation → Relation
  | .none => .none
  | .table base => .table base
  | .projection columns input => .projection columns input.pruned
  | .selection predicate input => .selection predicate input.pruned
  | .renaming name input => .renaming name input.pruned
  | .join kind left right condition => .join kind left.pruned right.pruned condition
  | .group grouping aggregates input => .group grouping aggregates input.pruned
  | .error _ cause => .error .none cause
termination_by structural relation => relation

/-- Whether there is a group among the relation and its inputs. -/
def hasGroup : Relation → Bool
  | .none => false
  | .table _ => false
  | .projection _ input => input.hasGroup
  | .selection _ input => input.hasGroup
  | .renaming _ input => input.hasGroup
  | .join _ left right _ => left.hasGroup || right.hasGroup
  | .group _ _ _ => true
  | .error input _ => input.hasGroup
termination_by structural relation => relation

/-- Pruning leaves no relation to be no relation. -/
theorem fromClause_pruned (input : Relation) (rendered : Rendered) :
    input.pruned.fromClause rendered = input.fromClause rendered := by
  cases input <;> rfl

/-- Rendering does not see what is pruned away. -/
theorem renderFiltered_pruned (relation : Relation) (filters : List Expression) :
    relation.pruned.renderFiltered dialect filters = relation.renderFiltered dialect filters := by
  induction relation generalizing filters with
  | none => rfl
  | table base => rfl
  | projection columns input ih =>
    simp only [pruned, renderFiltered, withFilters, filterKeyword, fromClause_pruned, ih]
  | selection predicate input ih => simp only [pruned, renderFiltered, ih]
  | renamed name input ih => simp only [pruned, renderFiltered, withFilters, filterKeyword, ih]
  | join kind left right condition ihl ihr =>
    simp only [pruned, renderFiltered, withFilters, filterKeyword, ihl, ihr]
  | group grouping aggregates input ih =>
    simp only [pruned, renderFiltered, withFilters, filterKeyword, fromClause_pruned, ih]
  | error input cause ih => rfl

/-- The errors met in rendering are those of the pruned relation. -/
theorem mem_reports_iff (relation : Relation) (cause : AttributeError) :
    cause ∈ relation.reports ↔ cause ∈ relation.pruned.errors := by
  induction relation with
  | none => rfl
  | table base => rfl
  | projection columns input ih =>
    rw [reports, pruned, errors, List.mem_append, List.mem_append, ih, or_comm]
  | selection predicate input ih =>
    rw [reports, pruned, errors, List.mem_append, List.mem_append, ih]
  | renamed name input ih => exact ih
  | join kind left right condition ihl ihr =>
    simp only [reports, pruned, errors, List.mem_append, ihl, ihr]
  | group grouping aggregates input ih =>
    have hcolumns := Grouping.mem_attributeErrors_columns_iff grouping aggregates cause
    simp only [reports, pruned, errors, List.mem_append, ih]
    tauto
  | error input cause' ih => simp [reports, pruned, errors]

/-- Without groups, the errors met in rendering are those of the pruned relation, each as often. -/
theorem reports_perm {relation : Relation} (h : relation.hasGroup = false) :
    relation.reports.Perm relation.pruned.errors := by
  induction relation with
  | none => exact .nil
  | table base => exact .nil
  | projection columns input ih => exact List.perm_append_comm.trans ((ih h).append_right _)
  | selection predicate input ih => exact (ih h).append_right _
  | renamed name input ih => exact ih h
  | join kind left right condition ihl ihr =>
    obtain ⟨hl, hr⟩ := Bool.or_eq_false_iff.1 h
    exact ((ihl hl).append (ihr hr)).append_right _
  | group grouping aggregates input ih => cases h
  | error input cause ih => exact .refl _

/-- What is pruned away has no part in rendering. -/
theorem reports_pruned (relation : Relation) : relation.pruned.reports = relation.reports := by
  rw [← causes_render .standard, ← causes_render .standard, render, render, renderFiltered_pruned]

/-- There is nothing to report exactly when there is no error node among the inputs and the
expressions computed with have no attribute errors. -/
theorem reports_eq_nil_iff (relation : Relation) :
    relation.reports = [] ↔ relation.hasErrorNode = false ∧
      ∀ expression ∈ relation.expressions, expression.attributeErrors = [] := by
  induction relation with
  | none => simp [reports, hasErrorNode, expressions]
  | table base => simp [reports, hasErrorNode, expressions]
  | projection columns input ih =>
    simp only [reports, hasErrorNode, expressions, List.append_eq_nil_iff, List.flatMap_eq_nil_iff,
      List.forall_mem_append, ih]
    tauto
  | selection predicate input ih =>
    simp only [reports, hasErrorNode, expressions, List.append_eq_nil_iff, List.forall_mem_append,
      List.forall_mem_singleton, ih]
    tauto
  | renamed name input ih => exact ih
  | join kind left right condition ihl ihr =>
    simp only [reports, hasErrorNode, expressions, List.append_eq_nil_iff, List.flatMap_eq_nil_iff,
      List.forall_mem_append, Bool.or_eq_false_iff, ihl, ihr]
    tauto
  | group grouping aggregates input ih =>
    have hcolumns := @Grouping.forall_mem_columns_and_written grouping aggregates
      fun expression => expression.attributeErrors = []
    simp only [reports, hasErrorNode, expressions, List.append_eq_nil_iff, ih, List.append_assoc,
      List.forall_mem_append, List.flatMap_eq_nil_iff] at hcolumns ⊢
    tauto
  | error input cause ih => simp [reports, hasErrorNode]

end Relation

/-! ## What keeps an expression from rendering -/

/-- The dialect knows all operators in the expression, and there is no bind parameter in it. -/
structure Expression.Supported (expression : Expression) : Prop where
  binary : ∀ name left right, .binary name left right ∈ expression.nodes →
    (dialect.binary? name).isSome
  unary : ∀ name operand, .unary name operand ∈ expression.nodes → (dialect.unary? name).isSome
  parameter : ∀ name, .parameter name ∉ expression.nodes

/-- An expression has a text exactly when it has no attribute errors and the dialect supports it. -/
theorem Expression.isFailure_render_eq_false_iff (expression : Expression) :
    (expression.render dialect).isFailure = false ↔
      expression.attributeErrors = [] ∧ expression.Supported dialect := by
  constructor
  · intro h
    have hnil := attributeErrors_eq_nil dialect h
    rw [isFailure_render, List.any_eq_false] at h
    refine ⟨hnil, fun name left right hnode => ?_, fun name operand hnode => ?_,
      fun name hnode => ?_⟩
    · simpa [fault?, Option.isSome_iff_ne_none] using h _ hnode
    · simpa [fault?, Option.isSome_iff_ne_none] using h _ hnode
    · simpa [fault?] using h _ hnode
  · rintro ⟨hnil, hsupported⟩
    rw [isFailure_render, List.any_eq_false]
    intro node hnode
    have herror := List.filterMap_eq_nil_iff.1 hnil node hnode
    cases node with
    | binary name left right => simp [fault?, hsupported.binary name left right hnode]
    | unary name operand => simp [fault?, hsupported.unary name operand hnode]
    | parameter name => exact absurd hnode (hsupported.parameter name)
    | reference target => simpa [fault?] using herror
    | error cause => cases herror
    | _ => simp [fault?]

/-- Rendering a relation and asking the pruned tree for its errors give the same attribute errors,
and without groups they give each of them equally often. There is a text exactly when the pruned
tree has no errors and the dialect supports all expressions that it computes with. -/
theorem Relation.render_reports_errors (relation : Relation) :
    (∀ cause, .unresolved cause ∈ (relation.render dialect).errors ↔
        cause ∈ relation.pruned.errors) ∧
      (relation.hasGroup = false →
        (relation.render dialect).causes.Perm relation.pruned.errors) ∧
      ((∃ content, relation.render dialect = .text content) ↔
        relation.pruned.errors = [] ∧
          ∀ expression ∈ relation.pruned.expressions, expression.Supported dialect) := by
  have hreports := causes_render dialect relation
  have hmem (cause : AttributeError) : cause ∈ relation.reports ↔ cause ∈ relation.pruned.errors :=
    mem_reports_iff relation cause
  refine ⟨fun cause => ?_, fun hgroup => ?_, ?_⟩
  · rw [← hmem, ← hreports, Rendered.mem_causes]
  · rw [hreports]
    exact reports_perm hgroup
  -- the pruned tree renders alike, and has an error exactly when rendering it meets one
  · have hnil : relation.pruned.errors = [] ↔ relation.pruned.reports = [] := by
      rw [reports_pruned, List.eq_nil_iff_forall_not_mem, List.eq_nil_iff_forall_not_mem]
      exact forall_congr' fun cause => not_congr (hmem cause).symm
    rw [hnil, reports_eq_nil_iff, ← Rendered.isFailure_eq_false_iff, render,
      ← renderFiltered_pruned, isFailure_renderFiltered, List.append_nil]
    simp only [Expression.isFailure_render_eq_false_iff, imp_and, forall_and, and_assoc]

/-- Events joined with what could not be formed of them, on a column that they do not have. -/
def Sample.brokenJoin : Relation :=
  let events := Relation.table Sample.events
  let unformed := Relation.error (events.select (events.column "nowhere"))
    (.ambiguous "name" "events")
  (events.joinWith unformed .inner
    (some (.binary "eq" (events.column "missing") (.parameter "limit")))).project
      [events.column "absent", events.column "id"]

/-- The join above has no groups, so rendering it reports the errors of the pruned tree, with the
column of the projection first. -/
theorem Relation.render_reports_errors_brokenJoin :
    Sample.brokenJoin.hasGroup = false ∧
      Sample.brokenJoin.pruned.errors =
        [.ambiguous "name" "events", .unknown "missing" "events", .unknown "absent" "events"] ∧
      (Sample.brokenJoin.render .standard).causes.Perm Sample.brokenJoin.pruned.errors :=
  ⟨rfl, rfl, (render_reports_errors .standard Sample.brokenJoin).2.1 rfl⟩

end QueryAlgebra

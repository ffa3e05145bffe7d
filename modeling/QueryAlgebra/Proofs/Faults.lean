import Mathlib.Tactic.Tauto
import QueryAlgebra.Proofs.RenderedLaws
import QueryAlgebra.Proofs.TreeInduction
import QueryAlgebra.Render

/-!
# Faults

A node of an expression is at fault when it has no text whatever its operands are. An expression
renders exactly when none of its nodes is at fault, and a relation renders exactly when there is no
error node among its inputs and all expressions that it and its inputs compute with render.

Grouping expressions are rendered twice, once as distinct columns and once as written. Since the
columns are among the expressions written, the clause alone decides about failure.
-/

namespace QueryAlgebra

/-- The error that keeps the node itself from being rendered. -/
def Expression.fault? (dialect : Dialect) : Expression → Option RenderError
  | .binary name _ _ =>
    if (dialect.binary? name).isSome then none else some (.unknownBinary name)
  | .unary name _ => if (dialect.unary? name).isSome then none else some (.unknownUnary name)
  | .parameter name => some (.unsupportedParameter name)
  | .reference target => target.error?.map .unresolved
  | .error cause => some (.unresolved cause)
  | _ => none

/-- The expressions of the element as they are written, repetitions included. -/
def Grouping.written : Grouping → List Expression
  | .single expression => [expression]
  | .sets lists => lists.flatten
  | .cube expressions => expressions
  | .rollup expressions => expressions

/-- The expressions that the relation and its inputs compute with, innermost first. -/
def Relation.expressions : Relation → List Expression
  | .none => []
  | .table _ => []
  | .projection columns input => input.expressions ++ columns
  | .selection predicate input => input.expressions ++ [predicate]
  | .renaming _ input => input.expressions
  | .join _ left right condition => left.expressions ++ right.expressions ++ condition.toList
  | .group grouping aggregates input =>
    input.expressions ++ grouping.flatMap Grouping.written ++ aggregates
  | .error input _ => input.expressions
termination_by structural relation => relation

/-- Whether there is an error node among the relation and its inputs. -/
def Relation.hasErrorNode : Relation → Bool
  | .none => false
  | .table _ => false
  | .projection _ input => input.hasErrorNode
  | .selection _ input => input.hasErrorNode
  | .renaming _ input => input.hasErrorNode
  | .join _ left right _ => left.hasErrorNode || right.hasErrorNode
  | .group _ _ input => input.hasErrorNode
  | .error _ _ => true
termination_by structural relation => relation

variable (dialect : Dialect)

/-! ## Expressions -/

/-- Rendering fails exactly when some node is at fault. -/
theorem Expression.isFailure_render (expression : Expression) :
    (expression.render dialect).isFailure =
      expression.nodes.any fun node => (node.fault? dialect).isSome := by
  induction expression with
  | null => rfl
  | integer value => rfl
  | text value => rfl
  | boolean value => cases value <;> rfl
  | binary operator left right ihl ihr =>
    cases h : dialect.binary? operator <;>
      simp [Expression.render, Expression.nodes, Expression.fault?, h, ihl, ihr]
  | unary operator operand ih =>
    cases h : dialect.unary? operator <;>
      simp [Expression.render, Expression.nodes, Expression.fault?, h, ih]
  | call function arguments ih =>
    have harguments : (arguments.map (Expression.render dialect)).any Rendered.isFailure =
        (arguments.flatMap Expression.nodes).any fun node => (node.fault? dialect).isSome := by
      rw [List.any_map, List.any_flatMap, Bool.eq_iff_iff, List.any_eq_true, List.any_eq_true]
      exact exists_congr fun argument => and_congr_right fun hargument =>
        Bool.eq_iff_iff.1 (ih argument hargument)
    simp [Expression.render, Expression.nodes, Expression.fault?, Expression.renderAll_eq_map,
      Expression.nodesOf_eq_flatMap, harguments]
  | parameter name => rfl
  | named expression name ih => simp [Expression.render, Expression.nodes, Expression.fault?, ih]
  | reference target => simp [Expression.render, Expression.nodes, Expression.fault?]
  | error cause => rfl

/-- An expression without faults has no attribute errors. -/
theorem Expression.attributeErrors_eq_nil {expression : Expression}
    (h : (expression.render dialect).isFailure = false) : expression.attributeErrors = [] := by
  rw [Expression.isFailure_render, List.any_eq_false] at h
  refine List.filterMap_eq_nil_iff.2 fun node hnode => ?_
  have hfault := h node hnode
  cases node <;> simp_all [Expression.fault?]

/-- The name given to a grouping expression does not decide about failure. -/
@[simp] theorem Expression.isFailure_renderGrouping (expression : Expression) :
    (expression.renderGrouping dialect).isFailure = (expression.render dialect).isFailure := by
  cases expression <;> simp [Expression.renderGrouping, Expression.render]

/-- A list of expressions fails exactly when one of them does. -/
@[simp] theorem Expression.isFailure_renderList (expressions : List Expression) :
    (Expression.renderList dialect expressions).isFailure =
      expressions.any fun expression => (expression.render dialect).isFailure := by
  simp [Expression.renderList, Function.comp_def]

/-- A clause of filters fails exactly when one of the filters does. -/
@[simp] theorem Expression.isFailure_renderFilters (keyword : String)
    (filters : List Expression) :
    (Expression.renderFilters dialect keyword filters).isFailure =
      filters.any fun filter => (filter.render dialect).isFailure := by
  match filters with
  | [] => rfl
  | [filter] => simp [Expression.renderFilters]
  | first :: second :: rest => simp [Expression.renderFilters, Function.comp_def]

/-! ## Grouping elements -/

/-- Every column of an element is written in it. -/
theorem Grouping.mem_written {element : Grouping} {expression : Expression}
    (h : expression ∈ element.expressions) : expression ∈ element.written := by
  cases element with
  | single e => exact h
  | sets lists => exact (Expression.distinct_sublist _).subset h
  | cube es => exact h
  | rollup es => exact h

/-- Every column of a group is written in one of its elements or is an aggregate. -/
theorem Grouping.mem_written_of_mem_columns {grouping : List Grouping}
    {aggregates : List Expression} {expression : Expression}
    (h : expression ∈ Grouping.columns grouping aggregates) :
    expression ∈ grouping.flatMap Grouping.written ++ aggregates := by
  rcases List.mem_append.1 h with h | h
  · obtain ⟨element, helement, he⟩ :=
      List.mem_flatMap.1 ((Expression.distinct_sublist _).subset h)
    exact List.mem_append_left _
      (List.mem_flatMap.2 ⟨element, helement, Grouping.mem_written he⟩)
  · exact List.mem_append_right _ h

/-- The columns and what is written in the elements are together what is written and the
aggregates. -/
theorem Grouping.mem_columns_or_written {grouping : List Grouping} {aggregates : List Expression}
    {expression : Expression} :
    expression ∈ Grouping.columns grouping aggregates ∨
        expression ∈ grouping.flatMap Grouping.written ↔
      expression ∈ grouping.flatMap Grouping.written ++ aggregates := by
  constructor
  · rintro (hcolumn | hwritten)
    · exact Grouping.mem_written_of_mem_columns hcolumn
    · exact List.mem_append_left _ hwritten
  · intro h
    rcases List.mem_append.1 h with hwritten | haggregate
    · exact .inr hwritten
    · exact .inl (List.mem_append_right _ haggregate)

/-- What holds of all columns and of all that is written in the elements holds of all that is
written and of the aggregates. -/
theorem Grouping.forall_mem_columns_and_written {grouping : List Grouping}
    {aggregates : List Expression} {P : Expression → Prop} :
    (∀ column ∈ Grouping.columns grouping aggregates, P column) ∧
        (∀ expression ∈ grouping.flatMap Grouping.written, P expression) ↔
      ∀ expression ∈ grouping.flatMap Grouping.written ++ aggregates, P expression := by
  simp only [← Grouping.mem_columns_or_written, or_imp, forall_and]

/-- An element fails exactly when one of the expressions written in it does. -/
theorem Grouping.isFailure_render (element : Grouping) :
    (element.render dialect).isFailure =
      element.written.any fun expression => (expression.render dialect).isFailure := by
  cases element <;>
    simp [Grouping.render, Grouping.renderSet, Grouping.written, Function.comp_def]

/-- The clause fails exactly when one of the expressions written in it does. -/
theorem Grouping.isFailure_renderClause (grouping : List Grouping) :
    (Grouping.renderClause dialect grouping).isFailure =
      (grouping.flatMap Grouping.written).any fun expression =>
        (expression.render dialect).isFailure := by
  cases grouping with
  | nil => rfl
  | cons element rest =>
    simp [Grouping.renderClause, Function.comp_def, Grouping.isFailure_render]

/-! ## Relations -/

/-- A `FROM` clause fails exactly when the input does. -/
theorem Relation.isFailure_fromClause (input : Relation) :
    (input.fromClause (input.renderFiltered dialect [])).isFailure =
      (input.renderFiltered dialect []).isFailure := by
  by_cases h : input.isNone
  · cases input with
    | none => rfl
    | _ => simp [Relation.isNone] at h
  · simp [Relation.fromClause, h]

/-- There is a text exactly when there is no error node among the inputs and all expressions
computed with have texts, those of the filters above included. -/
theorem Relation.isFailure_renderFiltered (relation : Relation) (filters : List Expression) :
    (relation.renderFiltered dialect filters).isFailure = false ↔
      relation.hasErrorNode = false ∧
        ∀ expression ∈ relation.expressions ++ filters,
          (expression.render dialect).isFailure = false := by
  induction relation generalizing filters with
  | none =>
    simp [Relation.renderFiltered, Relation.withFilters, Relation.expressions,
      Relation.hasErrorNode]
  | table base =>
    simp [Relation.renderFiltered, Relation.withFilters, Relation.expressions,
      Relation.hasErrorNode]
  | projection columns input ih =>
    simp only [Relation.renderFiltered, Relation.withFilters, Rendered.isFailure_append,
      Rendered.isFailure_text, Expression.isFailure_renderList, Relation.isFailure_fromClause,
      Expression.isFailure_renderFilters, Bool.or_eq_false_iff, List.any_eq_false,
      Bool.not_eq_true, ih, Relation.hasErrorNode, Relation.expressions, List.forall_mem_append,
      List.append_nil]
    tauto
  | selection predicate input ih =>
    simp only [Relation.renderFiltered, ih, Relation.hasErrorNode, Relation.expressions,
      List.append_assoc, List.singleton_append]
  | renamed name input ih =>
    simp only [Relation.renderFiltered, Relation.withFilters, Rendered.isFailure_append,
      Rendered.isFailure_text, Expression.isFailure_renderFilters, Bool.or_eq_false_iff,
      List.any_eq_false, Bool.not_eq_true, ih, Relation.hasErrorNode, Relation.expressions,
      List.append_nil, List.forall_mem_append]
    tauto
  | join kind left right condition ihl ihr =>
    cases condition <;>
      simp only [Relation.renderFiltered, Relation.withFilters, Rendered.isFailure_append,
        Rendered.isFailure_text, Rendered.isFailure_empty, Expression.isFailure_renderFilters,
        Bool.or_eq_false_iff, List.any_eq_false, Bool.not_eq_true, ihl, ihr,
        Relation.hasErrorNode, Relation.expressions, Option.toList_none, Option.toList_some,
        List.append_nil, List.forall_mem_append, List.forall_mem_singleton] <;>
      tauto
  | group grouping aggregates input ih =>
    have hcolumns := @Grouping.forall_mem_columns_and_written grouping aggregates
      fun expression => (expression.render dialect).isFailure = false
    simp only [Relation.renderFiltered, Relation.withFilters, Rendered.isFailure_append,
      Rendered.isFailure_text, Expression.isFailure_renderList, Relation.isFailure_fromClause,
      Expression.isFailure_renderFilters, Grouping.isFailure_renderClause, Bool.or_eq_false_iff,
      List.any_eq_false, Bool.not_eq_true, ih, Relation.hasErrorNode, Relation.expressions,
      List.append_assoc, List.append_nil, List.forall_mem_append] at hcolumns ⊢
    tauto
  | error input cause ih =>
    simp [Relation.renderFiltered, Relation.withFilters, Relation.hasErrorNode]

/-- Without error nodes among the inputs, a relation whose expressions render has no errors. -/
theorem Relation.errors_eq_nil {relation : Relation} (hnode : relation.hasErrorNode = false)
    (hrender : ∀ expression ∈ relation.expressions,
      (expression.render dialect).isFailure = false) : relation.errors = [] := by
  have hflat {expressions : List Expression}
      (h : ∀ expression ∈ expressions, (expression.render dialect).isFailure = false) :
      expressions.flatMap Expression.attributeErrors = [] :=
    List.flatMap_eq_nil_iff.2 fun expression hexpression =>
      Expression.attributeErrors_eq_nil dialect (h expression hexpression)
  induction relation with
  | none => rfl
  | table base => rfl
  | projection columns input ih =>
    obtain ⟨hinput, hcolumns⟩ := List.forall_mem_append.1 hrender
    rw [Relation.errors, ih hnode hinput, hflat hcolumns, List.append_nil]
  | selection predicate input ih =>
    obtain ⟨hinput, hpredicate⟩ := List.forall_mem_append.1 hrender
    have := Expression.attributeErrors_eq_nil dialect (hpredicate predicate List.mem_cons_self)
    rw [Relation.errors, ih hnode hinput, this, List.append_nil]
  | renamed name input ih => exact ih hnode hrender
  | join kind left right condition ihl ihr =>
    obtain ⟨hinputs, hcondition⟩ := List.forall_mem_append.1 hrender
    obtain ⟨hleft, hright⟩ := List.forall_mem_append.1 hinputs
    obtain ⟨hnodel, hnoder⟩ := Bool.or_eq_false_iff.1 hnode
    rw [Relation.errors, ihl hnodel hleft, ihr hnoder hright, hflat hcondition,
      List.append_nil, List.append_nil]
  | group grouping aggregates input ih =>
    obtain ⟨hinput, haggregates⟩ := List.forall_mem_append.1 hrender
    obtain ⟨hinput, hgrouping⟩ := List.forall_mem_append.1 hinput
    have hexpressions : (grouping.flatMap fun element =>
        element.expressions.flatMap Expression.attributeErrors) = [] :=
      List.flatMap_eq_nil_iff.2 fun element helement => hflat fun expression hexpression =>
        hgrouping expression
          (List.mem_flatMap.2 ⟨element, helement, Grouping.mem_written hexpression⟩)
    rw [Relation.errors, ih hnode hinput, hexpressions, hflat haggregates, List.append_nil,
      List.append_nil]
  | error input cause ih => simp [Relation.hasErrorNode] at hnode

end QueryAlgebra

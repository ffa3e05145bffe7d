import Mathlib.Data.List.Basic
import QueryAlgebra.Proofs.Faults

/-!
# Errors of an expression

Rendering an expression visits its nodes from the outside in and from left to right, and reports the
fault of each node that has one. Nothing stops the visit, so no fault hides another, and no fault is
reported twice.

The errors that concern attributes are also collected without rendering, from the whole expression,
from its error nodes and from its references. All these walks agree.
-/

namespace QueryAlgebra

/-- The attribute error that the error reports, if it reports one. -/
def RenderError.cause? : RenderError → Option AttributeError
  | .unresolved cause => some cause
  | _ => none

/-- The attribute errors among the errors. -/
def Rendered.causes (rendered : Rendered) : List AttributeError :=
  rendered.errors.filterMap RenderError.cause?

/-- An attribute error is reported as such. -/
theorem Rendered.mem_causes {rendered : Rendered} {cause : AttributeError} :
    cause ∈ rendered.causes ↔ .unresolved cause ∈ rendered.errors := by
  rw [causes, List.mem_filterMap]
  constructor
  · rintro ⟨error, herror, hcause⟩
    cases error with
    | unresolved found => rwa [← Option.some.inj hcause]
    | _ => cases hcause
  · intro herror
    exact ⟨_, herror, rfl⟩

namespace Expression

variable (dialect : Dialect)

/-- What is picked from the nodes of an expression is picked from its root and then from the nodes
of its children. -/
theorem filterMap_nodes {β : Type} (pick : Expression → Option β) (expression : Expression) :
    expression.nodes.filterMap pick =
      (pick expression).toList ++
        expression.children.flatMap fun child => child.nodes.filterMap pick := by
  rw [nodes_eq_cons, List.filterMap_cons, List.filterMap_flatMap]
  cases pick expression <;> rfl

/-- Rendering reports the fault of the root and then the errors of the children in order. -/
theorem errors_render_root (expression : Expression) :
    (expression.render dialect).errors =
      (expression.fault? dialect).toList ++
        expression.children.flatMap fun child => (child.render dialect).errors := by
  cases expression with
  | boolean value => cases value <;> rfl
  | binary operator left right =>
    cases h : dialect.binary? operator <;> simp [render, fault?, children, h]
  | unary operator operand =>
    cases h : dialect.unary? operator <;> simp [render, fault?, children, h]
  | call function arguments =>
    simp [render, fault?, children, renderAll_eq_map, List.flatMap_map]
  | named expression name => simp [render, fault?, children]
  | reference target => simp [render, fault?, children]
  | _ => rfl

/-- Rendering reports the faults of all nodes in order. -/
theorem errors_render (expression : Expression) :
    (expression.render dialect).errors = expression.nodes.filterMap (fault? dialect) := by
  induction expression using childInduction with
  | step expression ih =>
    rw [errors_render_root, filterMap_nodes]
    exact congrArg _ (List.flatMap_congr ih)

/-- The attribute error that the node itself stands for. -/
def attributeError? : Expression → Option AttributeError
  | .error cause => some cause
  | .reference target => target.error?
  | _ => none

/-- The attribute errors of an expression are picked from its nodes in order. -/
theorem attributeErrors_eq_filterMap (expression : Expression) :
    expression.attributeErrors = expression.nodes.filterMap attributeError? :=
  List.filterMap_congr fun node _ => by cases node <;> rfl

/-- The attribute errors of an expression are that of its root and those of its children. -/
theorem attributeErrors_root (expression : Expression) :
    expression.attributeErrors =
      expression.attributeError?.toList ++ expression.children.flatMap attributeErrors := by
  rw [attributeErrors_eq_filterMap, filterMap_nodes]
  exact congrArg _
    (List.flatMap_congr fun child _ => (attributeErrors_eq_filterMap child).symm)

/-- A node that stands for an attribute error is at fault for that reason, and no other node is. -/
theorem bind_cause?_fault? (expression : Expression) :
    (expression.fault? dialect).bind RenderError.cause? = expression.attributeError? := by
  cases expression with
  | binary operator left right =>
    cases h : dialect.binary? operator <;> simp [fault?, attributeError?, h, RenderError.cause?]
  | unary operator operand =>
    cases h : dialect.unary? operator <;> simp [fault?, attributeError?, h, RenderError.cause?]
  | reference target =>
    cases h : target.error? <;> simp [fault?, attributeError?, h, RenderError.cause?]
  | _ => rfl

/-- The attribute errors that rendering reports are those of the expression. -/
theorem causes_render (expression : Expression) :
    (expression.render dialect).causes = expression.attributeErrors := by
  rw [Rendered.causes, errors_render, List.filterMap_filterMap, attributeErrors_eq_filterMap]
  exact List.filterMap_congr fun node _ => bind_cause?_fault? dialect node

/-- The attribute errors of an expression are those of its error nodes and of its references. -/
theorem attributeErrors_perm (expression : Expression) :
    expression.attributeErrors.Perm
      (expression.errors ++ expression.references.filterMap AttributeReference.error?) := by
  rw [attributeErrors, errors, references, List.filterMap_filterMap]
  induction expression.nodes with
  | nil => exact .nil
  | cons node rest ih =>
    cases node with
    | error cause => exact ih.cons cause
    | reference target =>
      cases h : target.error? with
      | none => simpa [h] using ih
      | some cause => simpa [h] using (ih.cons cause).trans List.perm_middle.symm
    | _ => exact ih

/-- No node is at fault for internal reasons. -/
theorem internal_ne_fault? (expression : Expression) (message : String) :
    expression.fault? dialect ≠ some (.internal message) := by
  cases expression with
  | binary operator left right => cases h : dialect.binary? operator <;> simp [fault?, h]
  | unary operator operand => cases h : dialect.unary? operator <;> simp [fault?, h]
  | reference target => cases h : target.error? <;> simp [fault?, h]
  | _ => simp [fault?]

/-- Rendering an expression reports exactly the faults of its nodes, each node before its operands
and these from left to right. There is a text exactly when no node is at fault, a failure always
carries errors, and none of them is internal. The attribute errors among them are, in order, those
of the projection that computes the expression from no relation, and, whatever their order, those
of the error nodes and those of the references. -/
theorem render_reports_faults (expression : Expression) :
    (expression.render dialect).errors = expression.nodes.filterMap (fault? dialect) ∧
      ((∃ content, expression.render dialect = .text content) ↔
        expression.nodes.filterMap (fault? dialect) = []) ∧
      expression.render dialect ≠ .failure [] ∧
      (∀ message, .internal message ∉ (expression.render dialect).errors) ∧
      (expression.render dialect).causes = (Relation.none.project [expression]).errors ∧
      (expression.render dialect).causes.Perm
        (expression.errors ++ expression.references.filterMap AttributeReference.error?) := by
  have herrors := errors_render dialect expression
  have htext : (∃ content, expression.render dialect = .text content) ↔
      expression.nodes.filterMap (fault? dialect) = [] := by
    rw [← Rendered.isFailure_eq_false_iff, isFailure_render, List.any_eq_false,
      List.filterMap_eq_nil_iff]
    simp
  refine ⟨herrors, htext, fun hfailure => ?_, fun message hinternal => ?_, ?_, ?_⟩
  · have hnil : expression.nodes.filterMap (fault? dialect) = [] := by
      rw [← herrors, hfailure]
      rfl
    obtain ⟨content, hcontent⟩ := htext.2 hnil
    cases hcontent.symm.trans hfailure
  · rw [herrors, List.mem_filterMap] at hinternal
    obtain ⟨node, _, hfault⟩ := hinternal
    exact internal_ne_fault? dialect node message hfault
  · rw [causes_render]
    simp [Relation.project, Relation.errors]
  · rw [causes_render]
    exact attributeErrors_perm expression

end Expression

end QueryAlgebra

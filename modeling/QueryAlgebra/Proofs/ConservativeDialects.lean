import QueryAlgebra.Proofs.DialectMerge
import QueryAlgebra.Proofs.RenderingOrder

/-!
# What a definition adds to a dialect

The changes of a definition bring in operators and change the fields of those that are there. None
of them takes an operator away, so the only faults of a tree on which the dialect that is built and
the standard one can disagree are applications of the operators that are brought in: these are
faults of the tree in the standard dialect alone.

All other changes are a matter of text. What stands in parentheses and by what symbol an operator is
written decides neither about errors nor about their order.
-/

namespace QueryAlgebra

/-- Whether the changes bring in an operator of the name that the table has not. -/
def OperatorTable.gains (table : OperatorTable) (changes : Std.TreeMap String OperatorChange)
    (name : String) : Bool :=
  changes.contains name && (table.find? name).isNone

/-- Merging keeps the operators of the table, and adds those that the changes bring in. -/
theorem OperatorTable.MergedInto.isSome_eq {table : OperatorTable} {arity : Nat}
    {changes : Std.TreeMap String OperatorChange} {lookup : String → Option Operator}
    (h : table.MergedInto arity changes lookup) (name : String) :
    (lookup name).isSome = ((table.find? name).isSome || table.gains changes name) := by
  rw [gains, Std.TreeMap.contains_eq_isSome_getElem?]
  cases hchange : changes[name]? with
  | none => simp [h.unchanged name hchange]
  | some change =>
    cases hoperator : table.find? name with
    | none =>
      obtain ⟨symbol, -, hnew⟩ := h.introduced name change hchange hoperator
      simp [hnew]
    | some operator => simp [h.revised name change operator hchange hoperator]

/-- Whether the error is that of an unknown operator which the definition brings in. -/
def DialectDefinition.resolves (definition : DialectDefinition) : RenderError → Bool
  | .unknownBinary name => OperatorTable.standardBinary.gains definition.binary name
  | .unknownUnary name => OperatorTable.standardUnary.gains definition.unary name
  | _ => false

/-- Whether an outcome of rendering has, in order, the errors of another one but those of the
operators that the definition brings in, and a text if the other one has a text. -/
structure DialectDefinition.Conserves (definition : DialectDefinition)
    (before after : Rendered) : Prop where
  errors_eq : after.errors = before.errors.filter fun error => !definition.resolves error
  sublist : after.errors.Sublist before.errors
  exists_text : (∃ content, before = .text content) → ∃ content, after = .text content

variable {definition : DialectDefinition} {dialect : Dialect}

/-- A dialect that is built knows the standard binary operators and those that are brought in. -/
theorem DialectDefinition.isSome_binary? (hbuild : definition.build = .ok dialect) (name : String) :
    (dialect.binary? name).isSome =
      ((Dialect.standard.binary? name).isSome ||
        OperatorTable.standardBinary.gains definition.binary name) := by
  obtain ⟨binary, unary, hbinary, -, rfl⟩ := exists_of_build hbuild
  exact (OperatorTable.mergedInto_of_change_eq_ok hbinary
    (OperatorTable.arity_of_find? OperatorTable.arity_standardBinary)).isSome_eq name

/-- A dialect that is built knows the standard unary operators and those that are brought in. -/
theorem DialectDefinition.isSome_unary? (hbuild : definition.build = .ok dialect) (name : String) :
    (dialect.unary? name).isSome =
      ((Dialect.standard.unary? name).isSome ||
        OperatorTable.standardUnary.gains definition.unary name) := by
  obtain ⟨binary, unary, -, hunary, rfl⟩ := exists_of_build hbuild
  exact (OperatorTable.mergedInto_of_change_eq_ok hunary
    (OperatorTable.arity_of_find? OperatorTable.arity_standardUnary)).isSome_eq name

namespace Expression

/-- A node keeps its fault, unless that is an operator which is brought in. -/
theorem fault?_of_build (hbuild : definition.build = .ok dialect) (node : Expression) :
    node.fault? dialect =
      (node.fault? .standard).filter fun error => !definition.resolves error := by
  cases node with
  | binary name left right =>
    rw [fault?, fault?, definition.isSome_binary? hbuild]
    cases hknown : (Dialect.standard.binary? name).isSome with
    | true => rfl
    | false =>
      cases hgains : OperatorTable.standardBinary.gains definition.binary name <;>
        simp [Option.filter, DialectDefinition.resolves, hgains]
  | unary name operand =>
    rw [fault?, fault?, definition.isSome_unary? hbuild]
    cases hknown : (Dialect.standard.unary? name).isSome with
    | true => rfl
    | false =>
      cases hgains : OperatorTable.standardUnary.gains definition.unary name <;>
        simp [Option.filter, DialectDefinition.resolves, hgains]
  | reference target =>
    cases hfault : target.error? <;>
      simp [fault?, hfault, Option.filter, DialectDefinition.resolves]
  | _ => rfl

/-- An expression loses the errors of the operators that are brought in and keeps the others. -/
theorem errors_render_of_build (hbuild : definition.build = .ok dialect) (expression : Expression) :
    (expression.render dialect).errors =
      (expression.render .standard).errors.filter fun error => !definition.resolves error := by
  rw [errors_render, errors_render, List.filter_filterMap]
  exact List.filterMap_congr fun node _ => fault?_of_build hbuild node

/-- An expression that has a text in the standard dialect has one in a dialect that is built. -/
theorem isFailure_render_of_build (hbuild : definition.build = .ok dialect)
    {expression : Expression} (h : (expression.render .standard).isFailure = false) :
    (expression.render dialect).isFailure = false := by
  rw [isFailure_render, List.any_eq_false] at h ⊢
  intro node hnode
  have hnone : node.fault? .standard = none := by simpa using h node hnode
  rw [fault?_of_build hbuild, hnone]
  exact Bool.false_ne_true

end Expression

/-- The errors of a tree in a dialect that is built are, in order, its errors in the standard
dialect but those of the operators that the definition brings in. So whatever has a text in the
standard dialect has one in every dialect. -/
theorem render_conservative (hbuild : definition.build = .ok dialect) :
    (∀ expression : Expression,
        definition.Conserves (expression.render .standard) (expression.render dialect)) ∧
      ∀ relation : Relation,
        definition.Conserves (relation.render .standard) (relation.render dialect) := by
  have hexpression (expression : Expression) := Expression.errors_render_of_build hbuild expression
  have hrelation (relation : Relation) : (relation.render dialect).errors =
      (relation.render .standard).errors.filter fun error => !definition.resolves error := by
    rw [Relation.errors_render, Relation.errors_render, List.filter_flatMap]
    exact List.flatMap_congr fun expression _ => hexpression expression
  refine ⟨fun expression => ⟨hexpression expression, ?_, fun htext => ?_⟩,
    fun relation => ⟨hrelation relation, ?_, fun htext => ?_⟩⟩
  · rw [hexpression]
    exact List.filter_sublist
  · rw [← Rendered.isFailure_eq_false_iff] at htext ⊢
    exact Expression.isFailure_render_of_build hbuild htext
  · rw [hrelation]
    exact List.filter_sublist
  · -- Nothing in `Rendered` rules out a failure without errors, so `hrelation` does not decide this.
    rw [← Rendered.isFailure_eq_false_iff, Relation.render,
      Relation.isFailure_renderFiltered] at htext ⊢
    obtain ⟨hnode, htexts⟩ := htext
    exact ⟨hnode, fun expression hmem =>
      Expression.isFailure_render_of_build hbuild (htexts expression hmem)⟩

/-- A power of an operation that no dialect here knows, for the events with an absolute value. -/
def Sample.poweredEvents : Relation :=
  let events := Relation.table Sample.events
  (events.select (.unary "abs" (.parameter "limit"))).project
    [.binary "pow" (events.column "id") (.binary "nop" (events.column "value") (.integer 2))]

/-- The dialect with powers and absolute values resolves two of the four errors above. -/
theorem render_conservative_poweredEvents :
    Sample.powers.build = .ok Sample.powersDialect ∧
      Sample.powers.Conserves (Sample.poweredEvents.render .standard)
        (Sample.poweredEvents.render Sample.powersDialect) ∧
      (Sample.poweredEvents.render .standard).errors =
        [.unknownBinary "pow", .unknownBinary "nop", .unknownUnary "abs",
          .unsupportedParameter "limit"] ∧
      (Sample.poweredEvents.render Sample.powersDialect).errors =
        [.unknownBinary "nop", .unsupportedParameter "limit"] := by
  have hbuild : Sample.powers.build = .ok Sample.powersDialect :=
    DialectDefinition.build_eq_getD (by rfl) .standard
  exact ⟨hbuild, (render_conservative hbuild).2 Sample.poweredEvents, by decide +kernel,
    by decide +kernel⟩

end QueryAlgebra

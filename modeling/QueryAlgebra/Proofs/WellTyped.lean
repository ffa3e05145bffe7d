import QueryAlgebra.Proofs.Faults
import QueryAlgebra.Proofs.StrictTyping

/-!
# What has a type has a text

Typing and rendering walk the trees on their own and fail for reasons of their own. In a dialect
without the wildcard the reasons of the one include those of the other: a node at fault has no type,
and a node without a type leaves no type to the expression around it.
-/

namespace QueryAlgebra

variable {dialect : Dialect}

/-- A node that has a type is not at fault. -/
theorem Expression.fault?_eq_none {expression : Expression}
    (h : (expression.infer dialect).isError = false) : expression.fault? dialect = none := by
  cases expression with
  | binary name left right =>
    rw [Expression.infer] at h
    cases hoperator : dialect.binary? name with
    | none => simp [hoperator, DataType.isError] at h
    | some operator => simp [Expression.fault?, hoperator]
  | unary name operand =>
    rw [Expression.infer] at h
    cases hoperator : dialect.unary? name with
    | none => simp [hoperator, DataType.isError] at h
    | some operator => simp [Expression.fault?, hoperator]
  | parameter name => simp [Expression.infer, DataType.isError] at h
  | reference target =>
    rw [Expression.infer, AttributeReference.infer] at h
    cases hresolve : target.resolve with
    | error cause => simp [hresolve, DataType.isError] at h
    | ok place => simp [Expression.fault?, AttributeReference.error?, hresolve]
  | error cause => simp [Expression.infer, DataType.isError] at h
  | _ => rfl

/-- In a strict dialect an expression that has a type has a text. -/
theorem Expression.isFailure_render_of_infer (hstrict : dialect.Strict) {expression : Expression}
    (h : (expression.infer dialect).isError = false) :
    (expression.render dialect).isFailure = false := by
  rw [Expression.isFailure_render, List.any_eq_false]
  intro node hnode
  rw [Expression.fault?_eq_none (Expression.isError_infer_node hstrict hnode h)]
  simp

/-- Trees that have types have texts, in the standard dialect and in every dialect that is defined
without the wildcard. A relation is typed if there is no error node among its inputs and all
expressions that it and its inputs compute with have types; then it has no errors either. -/
theorem renders_of_typed
    (h : dialect = .standard ∨
      ∃ definition : DialectDefinition, definition.AvoidsAny ∧ definition.build = .ok dialect) :
    (∀ expression : Expression, (expression.infer dialect).isError = false →
      ∃ content, expression.render dialect = .text content) ∧
    ∀ relation : Relation, relation.hasErrorNode = false →
      (∀ expression ∈ relation.expressions, (expression.infer dialect).isError = false) →
      (∃ content, relation.render dialect = .text content) ∧ relation.errors = [] := by
  have hstrict := Dialect.strict_of_avoidsAny h
  refine ⟨fun expression htype => ?_, fun relation hnode htypes => ?_⟩
  · exact Rendered.isFailure_eq_false_iff.1 (Expression.isFailure_render_of_infer hstrict htype)
  · have hrender : ∀ expression ∈ relation.expressions,
        (expression.render dialect).isFailure = false :=
      fun expression hexpression =>
        Expression.isFailure_render_of_infer hstrict (htypes expression hexpression)
    refine ⟨Rendered.isFailure_eq_false_iff.1 ?_, Relation.errors_eq_nil dialect hnode hrender⟩
    refine (Relation.isFailure_renderFiltered dialect relation []).2 ⟨hnode, ?_⟩
    rwa [List.append_nil]

namespace Sample

/-- A dialect that compares numbers and counts them. -/
def counting : DialectDefinition where
  name := "counting"
  binary := Std.TreeMap.empty.insert "eq" { signatures := some [⟨["int", "int"], "bool"⟩] }
  functions := Std.TreeMap.empty.insert "count" [⟨["int"], "int"⟩]

/-- The dialect so defined. -/
def countingDialect : Dialect :=
  counting.build.toOption.getD .standard

/-- The definition is accepted. -/
theorem build_counting : counting.build = .ok countingDialect :=
  DialectDefinition.build_eq_getD (by rfl) .standard

/-- The events that exactly one contact shares its number with. -/
def singleContacts : Relation :=
  let events := Relation.table events
  let contacts := (Relation.table contacts).renamed "c"
  let joined := events.joinWith contacts .leftOuter
    (some (.binary "eq" (events.column "id") (contacts.column "id")))
  let grouped := joined.groupBy
    [.sets [[events.column "id", events.column "name"], [events.column "id"]]]
    [.named (.call "count" [contacts.column "id"]) "n"]
  grouped.select (.binary "eq" (grouped.column "n") (.integer 1))

end Sample

/-- The relation above is typed in the dialect above, and so has a text and no errors. -/
theorem renders_of_typed_singleContacts :
    Sample.counting.AvoidsAny ∧ Sample.singleContacts.hasErrorNode = false ∧
      (∀ expression ∈ Sample.singleContacts.expressions,
        (expression.infer Sample.countingDialect).isError = false) ∧
      (∃ content, Sample.singleContacts.render Sample.countingDialect = .text content) ∧
      Sample.singleContacts.errors = [] := by
  have hany : Sample.counting.AvoidsAny := by decide +kernel
  have hnode : Sample.singleContacts.hasErrorNode = false := by decide
  have htypes : ∀ expression ∈ Sample.singleContacts.expressions,
      (expression.infer Sample.countingDialect).isError = false := by decide +kernel
  exact ⟨hany, hnode, htypes,
    (renders_of_typed (.inr ⟨_, hany, Sample.build_counting⟩)).2 _ hnode htypes⟩

end QueryAlgebra

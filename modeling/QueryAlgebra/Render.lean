import QueryAlgebra.Dialect
import QueryAlgebra.Relation
import QueryAlgebra.Rendered
import QueryAlgebra.Text.Quoted

/-!
# Rendering

Trees as SQL text in the spelling of a dialect.

A left operand that is itself a binary application is put in parentheses when its operator binds
looser; right operands stand bare. Selections that are stacked on one another share one clause, in
which the predicate of the innermost comes first.
-/

namespace QueryAlgebra

/-- Whether the expression is a binary application whose operator has a precedence with the given
property. -/
def Expression.hasPrecedence (dialect : Dialect) (property : Int32 → Bool) : Expression → Bool
  | .binary operator _ _ => (dialect.binary? operator).any (property ·.precedence)
  | _ => false

/-- The text of a reference: its name, behind that of the owner if the owner has one. A reference
that is no error has a name, so a missing one would be an internal error. -/
def AttributeReference.render (reference : AttributeReference) : Rendered :=
  match reference.error?, reference.name, reference.owner.qualifiedName? with
  | some cause, _, _ => .fail (.unresolved cause)
  | none, none, _ =>
    .fail (.internal ("attribute " ++ reference.display ++ " resolved without a name"))
  | none, some name, some owner => (owner.name ++ "." ++ name : String)
  | none, some name, none => name

/-- A reference that is no error has a text, since its name is there. -/
theorem AttributeReference.exists_render_eq_text {reference : AttributeReference}
    (husable : reference.error? = none) : ∃ content, reference.render = .text content := by
  obtain ⟨position, name, -, hname⟩ := error?_eq_none_iff.1 husable
  cases howner : reference.owner.qualifiedName? with
  | none => exact ⟨name, by simp [render, husable, hname, howner]⟩
  | some owner => exact ⟨owner.name ++ "." ++ name, by simp [render, husable, hname, howner]⟩

/-- Rendering a reference reports the error that it stands for and nothing else, so that no name is
ever found missing. -/
@[simp] theorem AttributeReference.errors_render (reference : AttributeReference) :
    reference.render.errors = (reference.error?.map RenderError.unresolved).toList := by
  cases herror : reference.error? with
  | some cause => simp [render, herror, Rendered.fail, Rendered.errors]
  | none =>
    obtain ⟨content, hcontent⟩ := exists_render_eq_text herror
    simp [hcontent, Rendered.errors]

/-- A reference has a text unless it stands for an error. -/
@[simp] theorem AttributeReference.isFailure_render (reference : AttributeReference) :
    reference.render.isFailure = reference.error?.isSome := by
  cases herror : reference.error? with
  | some cause => simp [render, herror, Rendered.fail, Rendered.isFailure]
  | none =>
    obtain ⟨content, hcontent⟩ := exists_render_eq_text herror
    simp [hcontent, Rendered.isFailure]

mutual

/-- The text of an expression. -/
def Expression.render (dialect : Dialect) : Expression → Rendered
  | .null => "NULL"
  | .integer value => value.toInt.repr
  | .text value => Text.literal value
  | .boolean value => if value then "true" else "false"
  | .binary name left right =>
    match dialect.binary? name with
    | some operator =>
      (left.render dialect).parenthesizedIf
          (left.hasPrecedence dialect (· < operator.precedence)) ++
        " " ++ operator.symbol ++ " " ++ right.render dialect
    | none => .fail (.unknownBinary name) ++ left.render dialect ++ right.render dialect
  | .unary name operand =>
    match dialect.unary? name with
    | some operator => (operator.symbol ++ " " : String) ++ operand.render dialect
    | none => .fail (.unknownUnary name) ++ operand.render dialect
  | .call function arguments =>
    (function ++ "(" : String) ++ .join ", " (Expression.renderAll dialect arguments) ++ ")"
  | .parameter name => .fail (.unsupportedParameter name)
  | .named expression name => expression.render dialect ++ " AS " ++ name
  | .reference target => target.render
  | .error cause => .fail (.unresolved cause)
termination_by structural expression => expression

/-- The texts of several expressions. -/
def Expression.renderAll (dialect : Dialect) : List Expression → List Rendered
  | [] => []
  | expression :: rest => expression.render dialect :: Expression.renderAll dialect rest
termination_by structural expressions => expressions

end

/-- Each expression of a list is rendered on its own. -/
theorem Expression.renderAll_eq_map (dialect : Dialect) (expressions : List Expression) :
    Expression.renderAll dialect expressions = expressions.map (Expression.render dialect) := by
  induction expressions with
  | nil => rfl
  | cons expression rest ih => simp [Expression.renderAll, ih]

/-- The texts of the expressions, with commas between them. -/
def Expression.renderList (dialect : Dialect) (expressions : List Expression) : Rendered :=
  .join ", " (expressions.map (Expression.render dialect))

/-- A grouping expression is written without the name given to it. -/
def Expression.renderGrouping (dialect : Dialect) : Expression → Rendered
  | .named expression _ => expression.render dialect
  | expression => expression.render dialect

/-- Grouping expressions, with commas between them and in parentheses. -/
def Grouping.renderSet (dialect : Dialect) (expressions : List Expression) : Rendered :=
  .join ", " (expressions.map (Expression.renderGrouping dialect))

/-- An element of a `GROUP BY` clause. -/
def Grouping.render (dialect : Dialect) : Grouping → Rendered
  | .single expression => expression.renderGrouping dialect
  | .sets lists =>
    "GROUPING SETS (" ++
      .join ", " (lists.map fun set => (Grouping.renderSet dialect set).enclose "(" ")") ++ ")"
  | .cube expressions => "CUBE (" ++ Grouping.renderSet dialect expressions ++ ")"
  | .rollup expressions => "ROLLUP (" ++ Grouping.renderSet dialect expressions ++ ")"

/-- The `GROUP BY` clause, which is left out when nothing is grouped by. -/
def Grouping.renderClause (dialect : Dialect) : List Grouping → Rendered
  | [] => .empty
  | elements => " GROUP BY " ++ .join ", " (elements.map (Grouping.render dialect))

/-- The keyword of a join. -/
def JoinKind.keyword : JoinKind → String
  | .inner => "JOIN"
  | .leftOuter => "LEFT OUTER JOIN"
  | .rightOuter => "RIGHT OUTER JOIN"
  | .fullOuter => "FULL OUTER JOIN"

/-- Whether a predicate needs parentheses as one of several in a clause: it is an application of a
known operator other than `and` that binds no tighter than `and` does. -/
def Expression.needsParentheses (dialect : Dialect) : Expression → Bool
  | .binary "and" _ _ => false
  | predicate =>
    (dialect.binary? "and").any fun conjunction =>
      predicate.hasPrecedence dialect (· ≤ conjunction.precedence)

/-- The clause behind `keyword` that requires all the predicates; no clause for no predicates. -/
def Expression.renderFilters (dialect : Dialect) (keyword : String) : List Expression → Rendered
  | [] => .empty
  | [predicate] => keyword ++ predicate.render dialect
  | predicates =>
    keyword ++ .join (" " ++ dialect.conjunction ++ " ") (predicates.map fun predicate =>
      (predicate.render dialect).parenthesizedIf (predicate.needsParentheses dialect))

namespace Relation

/-- The keyword of the clause that filters the rows of the relation. -/
def filterKeyword : Relation → String
  | .group _ _ _ => " HAVING "
  | _ => " WHERE "

/-- Whether the relation is no relation, which has no `FROM` clause. -/
def isNone : Relation → Bool
  | .none => true
  | _ => false

/-- The text of the relation followed by the clause of its filters. -/
def withFilters (dialect : Dialect) (relation : Relation) (filters : List Expression)
    (rendered : Rendered) : Rendered :=
  rendered ++ Expression.renderFilters dialect relation.filterKeyword filters

/-- The `FROM` clause over an input with the given text; no clause for no relation. -/
def fromClause (input : Relation) (rendered : Rendered) : Rendered :=
  if input.isNone then .empty else " FROM " ++ rendered

/-- The text of a relation under the filters of the selections above it, innermost first. -/
def renderFiltered (dialect : Dialect) (relation : Relation) (filters : List Expression) :
    Rendered :=
  match relation with
  | .selection predicate input => input.renderFiltered dialect (predicate :: filters)
  | .none => relation.withFilters dialect filters .empty
  | .table base => relation.withFilters dialect filters base.name
  | .projection columns input =>
    relation.withFilters dialect filters ("SELECT " ++ Expression.renderList dialect columns ++
      input.fromClause (input.renderFiltered dialect []))
  | .renaming name input =>
    relation.withFilters dialect filters (input.renderFiltered dialect [] ++ " AS " ++ name)
  | .join kind left right condition =>
    relation.withFilters dialect filters (left.renderFiltered dialect [] ++ " " ++ kind.keyword ++
      " " ++ right.renderFiltered dialect [] ++
      match condition with
      | some predicate => " ON " ++ predicate.render dialect
      | Option.none => .empty)
  | .group grouping aggregates input =>
    relation.withFilters dialect filters ("SELECT " ++
      Expression.renderList dialect (Grouping.columns grouping aggregates) ++
      input.fromClause (input.renderFiltered dialect []) ++
      Grouping.renderClause dialect grouping)
  | .error _ cause => relation.withFilters dialect filters (.fail (.unresolved cause))
termination_by structural relation

/-- The text of a relation. -/
def render (dialect : Dialect) (relation : Relation) : Rendered :=
  relation.renderFiltered dialect []

end Relation

/-- The renderer for a dialect as it is shown to a developer. -/
def Dialect.rendererLabel (dialect : Dialect) : String :=
  "Compiler \x7b dialect: " ++ Text.quoted dialect.name ++ " \x7d"

end QueryAlgebra

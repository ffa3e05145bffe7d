import QueryAlgebra.Expression.Operators
import QueryAlgebra.Proofs.DialectChanges
import QueryAlgebra.Proofs.SelectionStack
import QueryAlgebra.Proofs.TreeInduction

/-!
# Conjoined selections

Two selections on top of one another and one selection on the conjunction of their predicates are
written by different rules: the one joins the predicates of a clause, the other writes a binary
application. Both put parentheses around some operators, but neither does around an operator that
binds tighter than `and`. For such predicates, therefore, the two relations have the same text, or
the same errors, whatever stands below them.
-/

namespace QueryAlgebra

variable {dialect : Dialect}

namespace Expression

variable (dialect) in
/-- Whether the predicate stands bare next to a conjunction: it is no binary application, or one of
`and`, of an operator that is not known, or of one that binds tighter than `and`. -/
def conjoinsBare : Expression → Bool
  | .binary operator _ _ =>
    operator == "and" || (dialect.binary? operator).all fun inner =>
      (dialect.binary? "and").any (·.precedence < inner.precedence)
  | _ => true

variable (dialect) in
/-- The predicate as one of several in a clause. -/
def renderConjunct (predicate : Expression) : Rendered :=
  (predicate.render dialect).parenthesizedIf (predicate.needsParentheses dialect)

/-- The clause of several predicates joins them as conjuncts. -/
theorem renderFilters_of_two_le (keyword : String) {predicates : List Expression}
    (h : 2 ≤ predicates.length) :
    renderFilters dialect keyword predicates =
      keyword ++ .join (" " ++ dialect.conjunction ++ " ")
        (predicates.map (renderConjunct dialect)) := by
  match predicates, h with
  | _ :: _ :: _, _ => rfl

/-- A known operator other than `and` that stands bare next to a conjunction binds tighter. -/
theorem precedence_lt_of_conjoinsBare {operator : String} {left right : Expression}
    (hbare : (Expression.binary operator left right).conjoinsBare dialect = true)
    (hother : operator ≠ "and") {conjunction inner : Operator}
    (hand : dialect.binary? "and" = some conjunction)
    (hinner : dialect.binary? operator = some inner) :
    conjunction.precedence < inner.precedence := by
  simpa [conjoinsBare, hother, hand, hinner] using hbare

/-- What stands bare next to a conjunction needs no parentheses in a clause. -/
theorem needsParentheses_of_conjoinsBare {conjunction : Operator}
    (hand : dialect.binary? "and" = some conjunction) {predicate : Expression}
    (hbare : predicate.conjoinsBare dialect = true) :
    predicate.needsParentheses dialect = false := by
  unfold needsParentheses
  split
  · rfl
  · next hother =>
    rw [hand, Option.any_some]
    cases predicate with
    | binary operator left right =>
      have hne : operator ≠ "and" := fun heq => hother left right (by rw [heq])
      cases hinner : dialect.binary? operator with
      | none => rw [hasPrecedence, hinner, Option.any_none]
      | some inner =>
        have hlt := precedence_lt_of_conjoinsBare hbare hne hand hinner
        rw [hasPrecedence, hinner, Option.any_some]
        exact decide_eq_false (Int32.not_le.2 hlt)
    | _ => rfl

/-- What stands bare next to a conjunction is no left operand that a conjunction puts in
parentheses. -/
theorem hasPrecedence_of_conjoinsBare {conjunction : Operator}
    (hand : dialect.binary? "and" = some conjunction) {predicate : Expression}
    (hbare : predicate.conjoinsBare dialect = true) :
    predicate.hasPrecedence dialect (· < conjunction.precedence) = false := by
  cases predicate with
  | binary operator left right =>
    cases hinner : dialect.binary? operator with
    | none => rw [hasPrecedence, hinner, Option.any_none]
    | some inner =>
      rw [hasPrecedence, hinner, Option.any_some]
      by_cases hoperator : operator = "and"
      · subst hoperator
        obtain rfl := Option.some.inj (hand.symm.trans hinner)
        exact decide_eq_false Int32.lt_irrefl
      · have hlt := precedence_lt_of_conjoinsBare hbare hoperator hand hinner
        exact decide_eq_false (Int32.lt_asymm hlt)
  | _ => rfl

/-- The conjunction of predicates that stand bare is written as they are next to each other in a
clause. -/
theorem render_and {conjunction : Operator} (hand : dialect.binary? "and" = some conjunction)
    {first second : Expression} (hfirst : first.conjoinsBare dialect = true)
    (hsecond : second.conjoinsBare dialect = true) :
    (first.and second).render dialect =
      .join (" " ++ dialect.conjunction ++ " ")
        [first.renderConjunct dialect, second.renderConjunct dialect] := by
  have hspelled : dialect.conjunction = conjunction.symbol := by rw [Dialect.conjunction, hand]
  rw [and, render, hand]
  simp only [hasPrecedence_of_conjoinsBare hand hfirst, renderConjunct,
    needsParentheses_of_conjoinsBare hand hfirst, needsParentheses_of_conjoinsBare hand hsecond,
    Rendered.parenthesizedIf, Rendered.encloseIf, Bool.false_eq_true, if_false, hspelled,
    Rendered.join, ← Rendered.text_append_text, Rendered.append_assoc]

/-- In a clause two predicates that stand bare may be conjoined, whatever stands in front of
them. -/
theorem renderFilters_and {conjunction : Operator}
    (hand : dialect.binary? "and" = some conjunction) {first second : Expression}
    (hfirst : first.conjoinsBare dialect = true) (hsecond : second.conjoinsBare dialect = true)
    (keyword : String) (front : List Expression) :
    renderFilters dialect keyword (front ++ [first, second]) =
      renderFilters dialect keyword (front ++ [first.and second]) := by
  have hrender := render_and hand hfirst hsecond
  rw [renderFilters_of_two_le keyword (by simp)]
  cases front with
  | nil =>
    rw [List.nil_append, List.nil_append, renderFilters, hrender]
    rfl
  | cons predicate rest =>
    -- a conjunction is put in no parentheses of its own
    have hconjunct : (first.and second).renderConjunct dialect =
        (first.and second).render dialect := rfl
    rw [renderFilters_of_two_le keyword (by simp), List.map_append, List.map_append,
      Rendered.join_append _ (by simp) (by simp), Rendered.join_append _ (by simp) (by simp),
      List.map_singleton, Rendered.join, hconjunct, hrender]
    rfl

end Expression

/-- Every dialect that is built knows conjunction. -/
theorem DialectDefinition.exists_conjunction {definition : DialectDefinition}
    (hbuild : definition.build = .ok dialect) :
    ∃ conjunction, dialect.binary? "and" = some conjunction := by
  have hkept : "and" = "and" → (dialect.binary? "and").isSome = true :=
    binary?_of_build (motive := fun name operator => name = "and" → operator.isSome = true) hbuild
      (fun name hname => hname ▸ rfl) (fun _ _ _ _ _ _ _ _ => rfl) "and"
  exact Option.isSome_iff_exists.1 (hkept rfl)

/-- The standard dialect and every dialect that is built know conjunction. -/
theorem Dialect.exists_conjunction
    (hdialect : dialect = .standard ∨
      ∃ definition : DialectDefinition, definition.build = .ok dialect) :
    ∃ conjunction, dialect.binary? "and" = some conjunction := by
  obtain rfl | ⟨definition, hbuild⟩ := hdialect
  · exact ⟨_, rfl⟩
  · exact definition.exists_conjunction hbuild

namespace Relation

/-- Two selections whose predicates stand bare are written as one on the conjunction. -/
theorem renderFiltered_and {conjunction : Operator}
    (hand : dialect.binary? "and" = some conjunction) {first second : Expression}
    (hfirst : first.conjoinsBare dialect = true) (hsecond : second.conjoinsBare dialect = true)
    (relation : Relation) (front : List Expression) :
    relation.renderFiltered dialect (front ++ [first, second]) =
      relation.renderFiltered dialect (front ++ [first.and second]) := by
  induction relation generalizing front with
  | selection predicate input ih => exact ih (predicate :: front)
  | _ =>
    rw [renderFiltered_eq_render rfl, renderFiltered_eq_render rfl,
      Expression.renderFilters_and hand hfirst hsecond]

/-- In the standard dialect and in every dialect that is built, to select twice and to select once
on the conjunction render alike if both predicates stand bare next to a conjunction. -/
theorem render_select_select
    (hdialect : dialect = .standard ∨
      ∃ definition : DialectDefinition, definition.build = .ok dialect)
    (relation : Relation) {first second : Expression}
    (hfirst : first.conjoinsBare dialect = true) (hsecond : second.conjoinsBare dialect = true) :
    ((relation.select first).select second).render dialect =
      (relation.select (first.and second)).render dialect := by
  obtain ⟨conjunction, hand⟩ := Dialect.exists_conjunction hdialect
  exact renderFiltered_and hand hfirst hsecond relation []

end Relation

namespace Sample

/-- A dialect in which disjunction binds tighter than conjunction. -/
def disjunctive : DialectDefinition where
  name := "disjunctive"
  binary := Std.TreeMap.empty.insert "or" { precedence := some 120 }

/-- The dialect so defined. -/
def disjunctiveDialect : Dialect :=
  disjunctive.build.toOption.getD .standard

/-- The definition is accepted. -/
theorem build_disjunctive : disjunctive.build = .ok disjunctiveDialect :=
  DialectDefinition.build_eq_getD (by rfl) .standard

/-- The events of one name. -/
def namedEvents : Relation :=
  let events := Relation.table events
  events.select ((events.column "name").equals (.text "start"))

/-- A disjunction. -/
def disjunction : Expression := .or (.boolean false) (.boolean true)

/-- A conjunction with a disjunction on its left. -/
def conjunction : Expression := .and disjunction (.boolean true)

end Sample

/-- In the dialect above the disjunction and the conjunction may be required one after the other or
at once. -/
theorem Relation.render_select_select_namedEvents :
    Sample.disjunction.conjoinsBare Sample.disjunctiveDialect = true ∧
      Sample.conjunction.conjoinsBare Sample.disjunctiveDialect = true ∧
      ((Sample.namedEvents.select Sample.disjunction).select Sample.conjunction).render
          Sample.disjunctiveDialect =
        (Sample.namedEvents.select (Sample.disjunction.and Sample.conjunction)).render
          Sample.disjunctiveDialect ∧
      (Sample.namedEvents.select (Sample.disjunction.and Sample.conjunction)).render
          Sample.disjunctiveDialect =
        .text ("events WHERE events.name = \x27start\x27" ++
          " AND false OR true AND false OR true AND true") := by
  have hdisjunction : Sample.disjunction.conjoinsBare Sample.disjunctiveDialect = true := by rfl
  have hconjunction : Sample.conjunction.conjoinsBare Sample.disjunctiveDialect = true := by rfl
  exact ⟨hdisjunction, hconjunction,
    Relation.render_select_select (.inr ⟨_, Sample.build_disjunctive⟩) Sample.namedEvents
      hdisjunction hconjunction, by rfl⟩

end QueryAlgebra

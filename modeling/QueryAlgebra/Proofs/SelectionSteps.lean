import QueryAlgebra.Proofs.ConjoinedSelections
import QueryAlgebra.Proofs.RenderingOrder

/-!
# Selections one at a time

Stacked selections are written together. On the way down to the relation below them their
predicates are met from the outermost to the innermost; turned around, they form the one clause
behind that relation, and their number decides whether any of them is put in parentheses.

Yet a selection on top only adds to what is there. The errors of its predicate come last, and from
the third predicate on the text grows at its end, by the conjunction and the predicate.
-/

namespace QueryAlgebra

variable {dialect : Dialect}

namespace Expression

variable (dialect) in
/-- The predicates of a clause with the conjunction between them. A predicate that is one of several
may need parentheses. -/
def renderConjuncts (predicates : List Expression) : Rendered :=
  .join (" " ++ dialect.conjunction ++ " ") (predicates.map fun predicate =>
    (predicate.render dialect).parenthesizedIf
      (decide (1 < predicates.length) && predicate.needsParentheses dialect))

/-- Several predicates are written as conjuncts. -/
theorem renderConjuncts_of_two_le {predicates : List Expression} (h : 2 ≤ predicates.length) :
    renderConjuncts dialect predicates =
      .join (" " ++ dialect.conjunction ++ " ") (predicates.map (renderConjunct dialect)) := by
  have hseveral : decide (1 < predicates.length) = true := decide_eq_true h
  simp only [renderConjuncts, hseveral, Bool.true_and]
  rfl

/-- Behind several predicates, one more is written as a conjunct. -/
theorem renderConjuncts_append {predicates : List Expression} (h : 2 ≤ predicates.length)
    (next : Expression) :
    renderConjuncts dialect (predicates ++ [next]) =
      renderConjuncts dialect predicates ++ (" " ++ dialect.conjunction ++ " " : String) ++
        next.renderConjunct dialect := by
  have hmore : 2 ≤ (predicates ++ [next]).length := by
    rw [List.length_append]
    omega
  have hne : predicates.map (renderConjunct dialect) ≠ [] := by
    rw [← List.length_pos_iff, List.length_map]
    omega
  rw [renderConjuncts_of_two_le hmore, renderConjuncts_of_two_le h, List.map_append,
    Rendered.join_append _ hne (by simp), List.map_singleton, Rendered.join]

/-- A clause is the keyword and the predicates behind it. -/
theorem renderFilters_eq_append (keyword : String) {predicates : List Expression}
    (h : predicates ≠ []) :
    renderFilters dialect keyword predicates =
      keyword ++ renderConjuncts dialect predicates := by
  match predicates, h with
  | [_], _ => rfl
  | _ :: _ :: _, _ =>
    rw [renderFilters_of_two_le keyword (by simp), renderConjuncts_of_two_le (by simp)]

/-- Where conjunction is known, what does not stand bare next to it needs parentheses. -/
theorem needsParentheses_eq_not_conjoinsBare {conjunction : Operator}
    (hand : dialect.binary? "and" = some conjunction) (predicate : Expression) :
    predicate.needsParentheses dialect = !predicate.conjoinsBare dialect := by
  cases hbare : predicate.conjoinsBare dialect with
  | true => exact needsParentheses_of_conjoinsBare hand hbare
  | false =>
    cases predicate with
    | binary operator left right =>
      obtain ⟨hother, hloose⟩ := Bool.or_eq_false_iff.1 hbare
      unfold needsParentheses
      split
      · next heq =>
        cases heq
        cases hother
      · cases hinner : dialect.binary? operator with
        | none =>
          rw [hinner] at hloose
          cases hloose
        | some inner =>
          rw [hinner, hand, Option.all_some, Option.any_some] at hloose
          rw [hand, Option.any_some, hasPrecedence, hinner, Option.any_some]
          exact decide_eq_true (Int32.not_lt.1 (of_decide_eq_false hloose))
    | _ => cases hbare

end Expression

namespace Relation

/-- The relation below the selections on top. -/
def unselected (relation : Relation) : Relation :=
  match relation with
  | .selection _ input => input.unselected
  | _ => relation
termination_by structural relation

/-- The predicates of the selections on top, the innermost first. -/
def stackedPredicates : Relation → List Expression
  | .selection predicate input => input.stackedPredicates ++ [predicate]
  | _ => []
termination_by structural relation => relation

/-- The way down from a selection: the predicates met so far, in the order in which they are met,
and the relation at which it ends. -/
def descend (met : List Expression) (relation : Relation) : List Expression × Relation :=
  match relation with
  | .selection predicate input => input.descend (met ++ [predicate])
  | _ => (met, relation)
termination_by structural relation

/-- On the way down the predicates are met from the outermost to the innermost. -/
theorem descend_eq (met : List Expression) (relation : Relation) :
    relation.descend met = (met ++ relation.stackedPredicates.reverse, relation.unselected) := by
  induction relation generalizing met with
  | selection predicate input ih =>
    rw [descend, ih, stackedPredicates, unselected, List.reverse_append, List.reverse_singleton,
      List.append_assoc]
  | _ => exact Prod.ext (List.append_nil met).symm rfl

/-- What is below the selections is none. -/
theorem isSelection_unselected (relation : Relation) :
    relation.unselected.isSelection = false := by
  induction relation with
  | selection predicate input ih => exact ih
  | _ => rfl

/-- A relation is made of what is below its selections by putting these on again. -/
theorem selectEach_stackedPredicates (relation : Relation) :
    relation.unselected.selectEach relation.stackedPredicates = relation := by
  induction relation with
  | selection predicate input ih =>
    rw [unselected, stackedPredicates, selectEach, List.foldl_append]
    exact congrArg (select · predicate) ih
  | _ => rfl

/-- A relation has the text of what is below its selections, and the clause of their predicates
behind it. -/
theorem render_eq_append (relation : Relation) :
    relation.render dialect =
      relation.unselected.render dialect ++
        Expression.renderFilters dialect relation.unselected.filterKeyword
          relation.stackedPredicates := by
  have hfiltered := renderFiltered_selectEach dialect relation.unselected
    relation.stackedPredicates []
  rw [selectEach_stackedPredicates, List.append_nil] at hfiltered
  rw [← renderFiltered_eq_render relation.isSelection_unselected]
  exact hfiltered

/-- Selections put on a relation are found on top of those that it has. -/
theorem stackedPredicates_selectEach (base : Relation) (predicates : List Expression) :
    (base.selectEach predicates).stackedPredicates = base.stackedPredicates ++ predicates := by
  induction predicates generalizing base with
  | nil => exact (List.append_nil _).symm
  | cons predicate rest ih =>
    rw [selectEach, List.foldl_cons]
    exact (ih (base.select predicate)).trans
      (by rw [select, stackedPredicates, List.append_assoc, List.singleton_append])

/-- One more selection on several leaves the text and adds the conjunction and its predicate. -/
theorem render_select_of_two_le {relation : Relation}
    (h : 2 ≤ relation.stackedPredicates.length) (next : Expression) :
    (relation.select next).render dialect =
      relation.render dialect ++ (" " ++ dialect.conjunction ++ " " : String) ++
        next.renderConjunct dialect := by
  have hne : relation.stackedPredicates ≠ [] := by
    rw [← List.length_pos_iff]
    omega
  rw [render_eq_append (relation.select next), select, unselected, stackedPredicates,
    Expression.renderFilters_eq_append _ (by simp), Expression.renderConjuncts_append h,
    render_eq_append relation, Expression.renderFilters_eq_append _ hne]
  simp only [Rendered.append_assoc]

/-- The errors of the predicate of a selection come behind those of the relation. -/
theorem errors_render_select (relation : Relation) (next : Expression) :
    ((relation.select next).render dialect).errors =
      (relation.render dialect).errors ++ (next.render dialect).errors := by
  rw [render_eq_append (relation.select next), select, unselected, stackedPredicates,
    render_eq_append relation, Rendered.errors_append, Rendered.errors_append,
    Expression.errors_renderFilters, Expression.errors_renderFilters, List.flatMap_append,
    List.flatMap_singleton, List.append_assoc]

/-- The keyword of a clause speaks of groups exactly behind a group. -/
theorem filterKeyword_eq_having_iff (relation : Relation) :
    relation.filterKeyword = " HAVING " ↔
      ∃ grouping aggregates input, relation = .group grouping aggregates input := by
  cases relation <;> simp [filterKeyword]

/-- There are two keywords. -/
theorem filterKeyword_cases (relation : Relation) :
    relation.filterKeyword = " HAVING " ∨ relation.filterKeyword = " WHERE " := by
  cases relation <;> simp [filterKeyword]

/-- A selection has the text of the relation at which the way down from it ends, the keyword for
that relation, and the predicates met on the way, turned around. -/
theorem render_select_eq_descend (relation : Relation) (next : Expression) :
    (relation.select next).render dialect =
      relation.unselected.render dialect ++ relation.unselected.filterKeyword ++
        Expression.renderConjuncts dialect (relation.descend [next]).1.reverse := by
  rw [render_eq_append (relation.select next), select, unselected, stackedPredicates,
    Expression.renderFilters_eq_append _ (by simp), descend_eq, List.reverse_append,
    List.reverse_reverse, List.reverse_singleton, Rendered.append_assoc]

/-- In the standard dialect and in every dialect that is built, one more selection on at least two
adds to the text the conjunction and its predicate, in parentheses unless this stands bare next to a
conjunction. In every dialect and over every relation its errors come behind those of the relation,
and the clause is that of all predicates met on the way down, behind the keyword for groups exactly
if the way ends at a group. -/
theorem render_select_next (dialect : Dialect) :
    ((dialect = .standard ∨ ∃ definition : DialectDefinition, definition.build = .ok dialect) →
      ∃ conjunction, dialect.binary? "and" = some conjunction ∧
        ∀ (base : Relation) (predicates : List Expression) (next : Expression),
          2 ≤ predicates.length →
            ((base.selectEach predicates).select next).render dialect =
              (base.selectEach predicates).render dialect ++
                (" " ++ conjunction.symbol ++ " " : String) ++
                (next.render dialect).parenthesizedIf (!next.conjoinsBare dialect)) ∧
      ∀ (relation : Relation) (next : Expression),
        ((relation.select next).render dialect).errors =
            (relation.render dialect).errors ++ (next.render dialect).errors ∧
          ∃ keyword : String,
            (keyword = " HAVING " ∨ keyword = " WHERE ") ∧
              (keyword = " HAVING " ↔
                ∃ grouping aggregates input,
                  relation.unselected = .group grouping aggregates input) ∧
              (relation.select next).render dialect =
                relation.unselected.render dialect ++ keyword ++
                  Expression.renderConjuncts dialect (relation.descend [next]).1.reverse := by
  refine ⟨fun hdialect => ?_, fun relation next => ⟨errors_render_select relation next, _,
    filterKeyword_cases _, filterKeyword_eq_having_iff _, render_select_eq_descend relation next⟩⟩
  obtain ⟨conjunction, hand⟩ := Dialect.exists_conjunction hdialect
  have hspelled : dialect.conjunction = conjunction.symbol := by rw [Dialect.conjunction, hand]
  refine ⟨conjunction, hand, fun base predicates next h => ?_⟩
  have hstack : 2 ≤ (base.selectEach predicates).stackedPredicates.length := by
    rw [stackedPredicates_selectEach, List.length_append]
    omega
  rw [render_select_of_two_le hstack, Expression.renderConjunct,
    Expression.needsParentheses_eq_not_conjoinsBare hand, hspelled]

end Relation

namespace Sample

/-- A dialect with a spelling of its own for conjunction. -/
def symbolic : DialectDefinition where
  name := "symbolic"
  binary := Std.TreeMap.empty.insert "and" { symbol := some "&&" }

/-- The dialect so defined. -/
def symbolicDialect : Dialect :=
  symbolic.build.toOption.getD .standard

/-- The definition is accepted. -/
theorem build_symbolic : symbolic.build = .ok symbolicDialect :=
  DialectDefinition.build_eq_getD (by rfl) .standard

/-- Events counted by their names. -/
def countedEvents : Relation :=
  let events := Relation.table events
  events.groupBy [.single (events.column "name")] [.named (.call "count" [events.column "id"]) "n"]

end Sample

/-- In the dialect above a third selection over a group adds its predicate, a disjunction, in
parentheses. -/
theorem Relation.render_select_next_countedEvents :
    2 ≤ [Sample.conjunction, Sample.conjunction].length ∧
      ∃ conjunction, Sample.symbolicDialect.binary? "and" = some conjunction ∧
        ((Sample.countedEvents.selectEach [Sample.conjunction, Sample.conjunction]).select
            Sample.disjunction).render Sample.symbolicDialect =
          (Sample.countedEvents.selectEach [Sample.conjunction, Sample.conjunction]).render
              Sample.symbolicDialect ++ (" " ++ conjunction.symbol ++ " " : String) ++
            (Sample.disjunction.render Sample.symbolicDialect).parenthesizedIf
              (!Sample.disjunction.conjoinsBare Sample.symbolicDialect) ∧
        ((Sample.countedEvents.selectEach [Sample.conjunction, Sample.conjunction]).select
            Sample.disjunction).render Sample.symbolicDialect =
          .text ("SELECT events.name, count(events.id) AS n FROM events GROUP BY events.name" ++
            " HAVING false OR true && true && false OR true && true && (false OR true)") := by
  obtain ⟨conjunction, hand, hnext⟩ :=
    (Relation.render_select_next Sample.symbolicDialect).1 (.inr ⟨_, Sample.build_symbolic⟩)
  exact ⟨by decide, conjunction, hand, hnext _ _ _ (by decide), by rfl⟩

end QueryAlgebra

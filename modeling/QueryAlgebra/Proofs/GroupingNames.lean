import QueryAlgebra.Proofs.Faults

/-!
# Names of grouping expressions

An element of a `GROUP BY` clause writes an expression without the name given to it last. A name
that was given before stays, so giving one more name to an expression that already has one brings
the earlier name into the clause.

What an element writes around an expression does not depend on it. Two elements that differ in one
expression therefore read alike exactly if the expression reads alike, or if something in them keeps
both from being written.
-/

namespace QueryAlgebra

namespace Rendered

/-- Around one of several joined outcomes stands what does not depend on it. -/
theorem exists_join_around (separator : String) (front back : List Rendered) :
    ∃ left right : Rendered, ∀ item,
      join separator (front ++ item :: back) = left ++ item ++ right := by
  have hback : ∃ right : Rendered, ∀ item, join separator (item :: back) = item ++ right := by
    by_cases hnil : back = []
    · exact ⟨empty, fun item => by rw [hnil, append_empty, join]⟩
    · exact ⟨separator ++ join separator back, fun item => by
        rw [join_cons separator item hnil, append_assoc]⟩
  obtain ⟨right, hright⟩ := hback
  by_cases hnil : front = []
  · exact ⟨empty, right, fun item => by rw [hnil, List.nil_append, hright, empty_append]⟩
  · refine ⟨join separator front ++ separator, right, fun item => ?_⟩
    rw [join_append separator hnil (List.cons_ne_nil item back), hright, ← append_assoc]

/-- A text put in makes a difference unless it is empty or there is no text to put it into. -/
theorem insert_text_eq_iff (left middle right : Rendered) (inserted : String) :
    left ++ (middle ++ (inserted : Rendered)) ++ right = left ++ middle ++ right ↔
      inserted = "" ∨ (left ++ middle ++ right).isFailure = true := by
  cases left with
  | failure errors => cases middle <;> cases right <;> simp [isFailure]
  | text before =>
    cases middle with
    | failure errors => cases right <;> simp [isFailure]
    | text content =>
      cases right with
      | failure errors => simp [isFailure]
      | text behind =>
        simp only [text_append_text, text.injEq, isFailure_text, Bool.false_eq_true, or_false]
        rw [String.append_left_inj, String.append_right_inj, String.append_eq_left_iff]

end Rendered

namespace Expression

/-- Whether the expression is one that was given a name. -/
def isNamed : Expression → Bool
  | .named _ _ => true
  | _ => false

/-- The expression without the name that was given to it last, if it was given one. -/
def unnamed : Expression → Expression
  | .named expression _ => expression
  | expression => expression

/-- The expression without all the names that were given to it. -/
def bare : Expression → Expression
  | .named expression _ => expression.bare
  | expression => expression
termination_by structural expression => expression

/-- What stands behind the expression for the name that was given to it last. -/
def lastNameText : Expression → String
  | .named _ name => " AS " ++ name
  | _ => ""

/-- What stands behind the bare expression for all the names, the first one first. -/
def namesText : Expression → String
  | .named expression name => expression.namesText ++ (" AS " ++ name)
  | _ => ""
termination_by structural expression => expression

variable (dialect : Dialect)

/-- A grouping expression is written without the name that was given to it last. -/
theorem renderGrouping_eq (expression : Expression) :
    expression.renderGrouping dialect = expression.unnamed.render dialect := by
  cases expression <;> rfl

/-- An expression is written as it is without its last name, with this name behind it. -/
theorem render_eq_unnamed_append (expression : Expression) :
    expression.render dialect =
      expression.unnamed.render dialect ++ (expression.lastNameText : Rendered) := by
  cases expression with
  | named expression name =>
    rw [render, Rendered.append_assoc]
    rfl
  | _ => exact (Rendered.append_empty _).symm

/-- Nothing stands behind an expression exactly if it was given no name. -/
theorem lastNameText_eq_empty_iff (expression : Expression) :
    expression.lastNameText = "" ↔ expression.isNamed = false := by
  cases expression <;> simp [lastNameText, isNamed]

/-- The bare expression has no name to be written without. -/
theorem unnamed_bare (expression : Expression) : expression.bare.unnamed = expression.bare := by
  induction expression with
  | named expression name ih => exact ih
  | _ => rfl

/-- Without the last name an expression is as bare as without all names. -/
theorem bare_unnamed (expression : Expression) : expression.unnamed.bare = expression.bare := by
  cases expression <;> rfl

/-- Nothing stands behind the bare expression exactly if it was given no name. -/
theorem namesText_eq_empty_iff (expression : Expression) :
    expression.namesText = "" ↔ expression.isNamed = false := by
  cases expression <;> simp [namesText, isNamed]

/-- An expression is written as the bare one with its names behind it. -/
theorem render_eq_bare_append (expression : Expression) :
    expression.render dialect =
      expression.bare.render dialect ++ (expression.namesText : Rendered) := by
  induction expression with
  | named expression name ih =>
    rw [render, bare, namesText, ih, Rendered.append_assoc, Rendered.append_assoc]
    rfl
  | _ => exact (Rendered.append_empty _).symm

end Expression

namespace Grouping

/-- A place for an expression in an element. -/
inductive Place where
  | single
  | sets (before : List (List Expression)) (front back : List Expression)
      (behind : List (List Expression))
  | cube (front back : List Expression)
  | rollup (front back : List Expression)

/-- The element with the expression at the place. -/
def Place.fill (expression : Expression) : Place → Grouping
  | .single => .single expression
  | .sets before front back behind => .sets (before ++ (front ++ expression :: back) :: behind)
  | .cube front back => .cube (front ++ expression :: back)
  | .rollup front back => .rollup (front ++ expression :: back)

/-- Each expression written in an element stands at a place of it. -/
theorem mem_written_iff_exists_place {element : Grouping} {expression : Expression} :
    expression ∈ element.written ↔ ∃ place : Place, element = place.fill expression := by
  constructor
  · intro h
    cases element with
    | single e =>
      obtain rfl := List.mem_singleton.1 h
      exact ⟨.single, rfl⟩
    | sets lists =>
      obtain ⟨set, hset, hmem⟩ := List.mem_flatten.1 h
      obtain ⟨before, behind, rfl⟩ := List.append_of_mem hset
      obtain ⟨front, back, rfl⟩ := List.append_of_mem hmem
      exact ⟨.sets before front back behind, rfl⟩
    | cube es =>
      obtain ⟨front, back, rfl⟩ := List.append_of_mem (show expression ∈ es from h)
      exact ⟨.cube front back, rfl⟩
    | rollup es =>
      obtain ⟨front, back, rfl⟩ := List.append_of_mem (show expression ∈ es from h)
      exact ⟨.rollup front back, rfl⟩
  · rintro ⟨place, rfl⟩
    cases place <;> simp [Place.fill, written]

variable (dialect : Dialect)

/-- Around one of several grouping expressions stands what does not depend on it. -/
theorem exists_renderSet_around (front back : List Expression) :
    ∃ left right : Rendered, ∀ expression : Expression,
      renderSet dialect (front ++ expression :: back) =
        left ++ expression.renderGrouping dialect ++ right := by
  obtain ⟨left, right, haround⟩ := Rendered.exists_join_around ", "
    (front.map (Expression.renderGrouping dialect)) (back.map (Expression.renderGrouping dialect))
  refine ⟨left, right, fun expression => ?_⟩
  rw [renderSet, List.map_append, List.map_cons, haround]

/-- Around the expression at a place an element writes what does not depend on it. -/
theorem Place.exists_render_around (place : Place) :
    ∃ left right : Rendered, ∀ expression : Expression,
      (place.fill expression).render dialect =
        left ++ expression.renderGrouping dialect ++ right := by
  cases place with
  | single => exact ⟨.empty, .empty, fun expression => by simp [fill, render]⟩
  | sets before front back behind =>
    obtain ⟨left, right, haround⟩ := exists_renderSet_around dialect front back
    obtain ⟨outerLeft, outerRight, houter⟩ := Rendered.exists_join_around ", "
      (before.map fun set => (renderSet dialect set).enclose "(" ")")
      (behind.map fun set => (renderSet dialect set).enclose "(" ")")
    refine ⟨"GROUPING SETS (" ++ (outerLeft ++ ("(" ++ left)), right ++ ")" ++ outerRight ++ ")",
      fun expression => ?_⟩
    rw [fill, render, List.map_append, List.map_cons, houter, haround, Rendered.enclose_eq_append]
    simp only [Rendered.append_assoc]
  | cube front back =>
    obtain ⟨left, right, haround⟩ := exists_renderSet_around dialect front back
    refine ⟨"CUBE (" ++ left, right ++ ")", fun expression => ?_⟩
    rw [fill, render, haround]
    simp only [Rendered.append_assoc]
  | rollup front back =>
    obtain ⟨left, right, haround⟩ := exists_renderSet_around dialect front back
    refine ⟨"ROLLUP (" ++ left, right ++ ")", fun expression => ?_⟩
    rw [fill, render, haround]
    simp only [Rendered.append_assoc]

/-- Elements that write one expression with more text behind it read alike only if there is no such
text or they are not written at all. -/
theorem Place.render_fill_eq_iff (place : Place) {expression other : Expression} {inserted : String}
    (h : expression.renderGrouping dialect =
      other.renderGrouping dialect ++ (inserted : Rendered)) :
    (place.fill expression).render dialect = (place.fill other).render dialect ↔
      inserted = "" ∨ ((place.fill other).render dialect).isFailure = true := by
  obtain ⟨left, right, haround⟩ := place.exists_render_around dialect
  rw [haround, haround, h]
  exact Rendered.insert_text_eq_iff _ _ _ _

/-- One more name leaves an element as it is exactly if the expression had none before, or if the
element is not written at all. -/
theorem Place.render_fill_named_iff (place : Place) (expression : Expression) (name : String) :
    (place.fill (.named expression name)).render dialect =
        (place.fill expression).render dialect ↔
      expression.isNamed = false ∨ ((place.fill expression).render dialect).isFailure = true := by
  have htexts : (Expression.named expression name).renderGrouping dialect =
      expression.renderGrouping dialect ++ (expression.lastNameText : Rendered) := by
    rw [Expression.renderGrouping_eq, Expression.renderGrouping_eq,
      ← Expression.render_eq_unnamed_append]
    rfl
  rw [place.render_fill_eq_iff dialect htexts, Expression.lastNameText_eq_empty_iff]

/-- An element writes an expression bare exactly if it was given one name at most, or if the element
is not written at all. -/
theorem Place.render_fill_bare_iff (place : Place) (expression : Expression) :
    (place.fill expression).render dialect = (place.fill expression.bare).render dialect ↔
      expression.unnamed.isNamed = false ∨
        ((place.fill expression.bare).render dialect).isFailure = true := by
  have htexts : expression.renderGrouping dialect =
      expression.bare.renderGrouping dialect ++ (expression.unnamed.namesText : Rendered) := by
    rw [Expression.renderGrouping_eq, Expression.renderGrouping_eq,
      Expression.render_eq_bare_append, Expression.bare_unnamed, Expression.unnamed_bare]
  rw [place.render_fill_eq_iff dialect htexts, Expression.namesText_eq_empty_iff]

/-- The clause of at least one element lists the elements. -/
theorem renderClause_append_cons (before behind : List Grouping) (element : Grouping) :
    renderClause dialect (before ++ element :: behind) =
      " GROUP BY " ++ .join ", " (before.map (render dialect) ++
        element.render dialect :: behind.map (render dialect)) := by
  cases before with
  | nil => rfl
  | cons first rest => simp [renderClause]

end Grouping

/-- Each element of a group has its part in the clause behind the columns and the input, and each
expression of an element has its place in that part. One more name for the expression leaves the
part as it is exactly if the expression had no name before; and what is written of the expression is
the bare expression exactly if it has one name at most. Nothing makes a difference to a part that is
not written at all. -/
theorem Relation.group_names_iff (dialect : Dialect) :
    (∀ (input : Relation) (before behind : List Grouping) (element : Grouping)
        (aggregates : List Expression),
        (input.groupBy (before ++ element :: behind) aggregates).render dialect =
          "SELECT " ++
            Expression.renderList dialect
              (Grouping.columns (before ++ element :: behind) aggregates) ++
            input.fromClause (input.render dialect) ++
            (" GROUP BY " ++ Rendered.join ", " (before.map (Grouping.render dialect) ++
              element.render dialect :: behind.map (Grouping.render dialect)))) ∧
      (∀ (element : Grouping) (expression : Expression),
        expression ∈ element.written ↔
          ∃ place : Grouping.Place, element = place.fill expression) ∧
      ∀ (place : Grouping.Place) (expression : Expression),
        (∀ name : String,
          (place.fill (.named expression name)).render dialect =
              (place.fill expression).render dialect ↔
            expression.isNamed = false ∨
              ((place.fill expression).render dialect).isFailure = true) ∧
        ((place.fill expression).render dialect = (place.fill expression.bare).render dialect ↔
          expression.unnamed.isNamed = false ∨
            ((place.fill expression.bare).render dialect).isFailure = true) := by
  refine ⟨fun input before behind element aggregates => ?_,
    fun element expression => Grouping.mem_written_iff_exists_place,
    fun place expression => ⟨place.render_fill_named_iff dialect expression,
      place.render_fill_bare_iff dialect expression⟩⟩
  rw [groupBy, render, renderFiltered, withFilters, Grouping.renderClause_append_cons,
    Expression.renderFilters, Rendered.append_empty]
  rfl

/-- The number of an event under a name. -/
def Sample.namedNumber : Expression :=
  .named ((Relation.table Sample.events).column "id") "a"

/-- With a second name for the number above, the first name stands in the clause. So it is not true
that names of grouping expressions never matter to the clause. -/
theorem Relation.group_by_second_name :
    ((Relation.table Sample.events).groupBy [.single Sample.namedNumber] []).render .standard =
        .text "SELECT events.id AS a FROM events GROUP BY events.id" ∧
      ((Relation.table Sample.events).groupBy [.single (.named Sample.namedNumber "b")] []).render
          .standard =
        .text "SELECT events.id AS a AS b FROM events GROUP BY events.id AS a" ∧
      ¬ ∀ (dialect : Dialect) (place : Grouping.Place) (expression : Expression) (name : String),
        (place.fill (.named expression name)).render dialect =
          (place.fill expression).render dialect := by
  refine ⟨by decide +kernel, by decide +kernel, fun h => ?_⟩
  have hsame := h .standard .single Sample.namedNumber "b"
  revert hsame
  decide +kernel

end QueryAlgebra

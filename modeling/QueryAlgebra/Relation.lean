import QueryAlgebra.Expression.Equality
import QueryAlgebra.Reference

/-!
# Relations

The attributes of a relation, the expressions that compute them, the relations it is derived from,
its errors, and the combinators that derive one relation from others. All are read off the shape of
the tree.

Tables, projections and groups own their attributes, and a renaming owns those of its input anew.
Selections and joins pass on the attributes of their inputs. The columns of a grouped relation are
the distinct grouping expressions, in the order in which they are first written, followed by the
aggregates.

Errors are values in the tree. They are collected from the innermost relation outwards: those of
the inputs first, then those of the expressions that the relation itself computes with.
-/

namespace QueryAlgebra

/-! ## Grouping -/

/-- The expressions without those that equal an earlier one. -/
def Expression.distinct : List Expression → List Expression
  | [] => []
  | e :: es => e :: (Expression.distinct es).filter fun later => !(e == later)

/-- The expressions of the element in the order of writing; grouping sets are flattened and name
each expression once. -/
def Grouping.expressions : Grouping → List Expression
  | .single expression => [expression]
  | .sets lists => Expression.distinct lists.flatten
  | .cube expressions => expressions
  | .rollup expressions => expressions

/-- The expressions that compute the columns of a grouped relation. -/
def Grouping.columns (grouping : List Grouping) (aggregates : List Expression) :
    List Expression :=
  Expression.distinct (grouping.flatMap Grouping.expressions) ++ aggregates

/-- Repetitions are dropped and nothing is added. -/
theorem Expression.distinct_sublist (es : List Expression) :
    (Expression.distinct es).Sublist es := by
  induction es with
  | nil => exact .slnil
  | cons e es ih => exact (List.filter_sublist.trans ih).cons_cons e

namespace Relation

/-! ## Attributes -/

/-- References to the attributes in order. -/
def attributes (relation : Relation) : List AttributeReference :=
  match relation with
  | .none => []
  | .table base =>
    base.columns.mapIdx fun position column => ⟨.concrete position, some column.name, relation⟩
  | .projection columns _ => AttributeReference.collect columns relation
  | .selection _ input => input.attributes
  | .renaming _ input => input.attributes.map (·.withOwner relation)
  | .join _ left right _ => left.attributes ++ right.attributes
  | .group grouping aggregates _ =>
    AttributeReference.collect (Grouping.columns grouping aggregates) relation
  | .error _ _ => []
termination_by structural relation

/-- Attributes are owned by the relation or by one below it. -/
theorem sizeOf_owner_le {relation : Relation} {reference : AttributeReference}
    (h : reference ∈ relation.attributes) : sizeOf reference.owner ≤ sizeOf relation := by
  fun_induction attributes relation with
  | case1 => simp at h
  | case2 base =>
    obtain ⟨i, hi, rfl⟩ := List.mem_mapIdx.1 h
    exact Nat.le_refl _
  | case3 columns input => simp [AttributeReference.owner_of_mem_collect h]
  | case4 predicate input ih =>
    have := ih h
    simp only [Relation.selection.sizeOf_spec]
    omega
  | case5 name input ih =>
    obtain ⟨inner, _, rfl⟩ := List.mem_map.1 h
    exact Nat.le_refl _
  | case6 kind left right condition ihl ihr =>
    simp only [Relation.join.sizeOf_spec]
    rcases List.mem_append.1 h with h | h
    · have := ihl h
      omega
    · have := ihr h
      omega
  | case7 grouping aggregates input => simp [AttributeReference.owner_of_mem_collect h]
  | case8 => simp at h

/-- The attributes as expressions, ready to derive another relation from. -/
def attributeExpressions (relation : Relation) : List Expression :=
  relation.attributes.map .reference

/-- The expressions that compute the attributes. -/
def projectedExpressions (relation : Relation) : List Expression :=
  match relation with
  | .none => []
  | .table _ => relation.attributeExpressions
  | .projection columns _ => columns
  | .selection _ input => input.projectedExpressions
  | .renaming _ input => input.projectedExpressions
  | .join _ left right _ => left.projectedExpressions ++ right.projectedExpressions
  | .group grouping aggregates _ => Grouping.columns grouping aggregates
  | .error _ _ => []
termination_by structural relation

/-! ## Origins -/

/-- The relations from which this one is derived without passing a name: tables and renamings are
their own. -/
def immediateRelations (relation : Relation) : List Relation :=
  match relation with
  | .none => []
  | .table _ => [relation]
  | .projection _ input => input.immediateRelations
  | .selection _ input => input.immediateRelations
  | .renaming _ _ => [relation]
  | .join _ left right _ => left.immediateRelations ++ right.immediateRelations
  | .group _ _ input => input.immediateRelations
  | .error _ _ => []
termination_by structural relation

/-- The tables from which this relation is derived in the end. -/
def baseRelations (relation : Relation) : List Relation :=
  match relation with
  | .none => []
  | .table _ => [relation]
  | .projection _ input => input.baseRelations
  | .selection _ input => input.baseRelations
  | .renaming _ input => input.baseRelations
  | .join _ left right _ => left.baseRelations ++ right.baseRelations
  | .group _ _ input => input.baseRelations
  | .error _ _ => []
termination_by structural relation

/-! ## Combinators -/

/-- The first attribute with the name, or an unknown reference to it. -/
def attributeNamed (relation : Relation) (name : String) : AttributeReference :=
  match relation.attributes.find? (·.name == some name) with
  | some reference => reference
  | Option.none => ⟨.unknown, some name, relation⟩

/-- The attribute with the name as an expression. -/
def column (relation : Relation) (name : String) : Expression :=
  .reference (relation.attributeNamed name)

/-- All attributes projected. -/
def projectAll (relation : Relation) : Relation :=
  .projection relation.attributeExpressions relation

/-- The expressions projected. -/
def project (relation : Relation) (columns : List Expression) : Relation :=
  .projection columns relation

/-- The relation under another name. -/
def renamed (relation : Relation) (name : String) : Relation :=
  .renaming name relation

/-- The rows that satisfy the predicate. -/
def select (relation : Relation) (predicate : Expression) : Relation :=
  .selection predicate relation

/-- The join of two relations, by default an inner join of all pairs of rows. -/
def joinWith (left right : Relation) (kind : JoinKind := .inner)
    (condition : Option Expression := Option.none) : Relation :=
  .join kind left right condition

/-- The groups of rows that the elements form, with the aggregates computed over each. -/
def groupBy (relation : Relation) (grouping : List Grouping) (aggregates : List Expression) :
    Relation :=
  .group grouping aggregates relation

end Relation

/-! ## Errors -/

/-- The causes of error nodes and of unusable references, in the order of the nodes. -/
def Expression.attributeErrors (expression : Expression) : List AttributeError :=
  expression.nodes.filterMap fun
    | .error cause => some cause
    | .reference target => target.error?
    | _ => none

/-- All errors in the tree. -/
def Relation.errors : Relation → List AttributeError
  | .none => []
  | .table _ => []
  | .projection columns input => input.errors ++ columns.flatMap Expression.attributeErrors
  | .selection predicate input => input.errors ++ predicate.attributeErrors
  | .renaming _ input => input.errors
  | .join _ left right condition =>
    left.errors ++ right.errors ++ condition.toList.flatMap Expression.attributeErrors
  | .group grouping aggregates input =>
    input.errors ++ grouping.flatMap (·.expressions.flatMap Expression.attributeErrors) ++
      aggregates.flatMap Expression.attributeErrors
  | .error input cause => input.errors ++ [cause]
termination_by structural relation => relation

end QueryAlgebra

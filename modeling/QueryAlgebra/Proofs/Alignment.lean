import Mathlib.Data.List.Forall2
import QueryAlgebra.Proofs.ReferenceTyping
import QueryAlgebra.Proofs.TreeInduction

/-!
# Attributes and the expressions that compute them

The attributes of a relation and the expressions that compute them are listed separately: a
renaming gives the attributes a new owner and passes the expressions on, a group lists its distinct
grouping expressions, and a join puts both sides one behind the other. The two lists agree, position
by position, in names and, as far as a reference has a type, in types.
-/

namespace QueryAlgebra

variable (dialect : Dialect)

/-- Whether the expression computes the attribute: they have the same name, and the same type if
the reference has one. -/
def AttributeReference.Computed (reference : AttributeReference) (expression : Expression) :
    Prop :=
  reference.name = expression.displayName ∧
    ((reference.infer dialect).isError = true ∨
      reference.infer dialect = expression.infer dialect)

/-- Every reference is computed by itself as an expression. -/
theorem AttributeReference.computed_self (reference : AttributeReference) :
    reference.Computed dialect (.reference reference) :=
  ⟨rfl, .inr (by rw [Expression.infer])⟩

/-- The references to the columns that a relation computes itself are computed by those columns. -/
theorem AttributeReference.collect_computed (owner : Relation) (howner : owner.computesColumns) :
    List.Forall₂ (Computed dialect) (collect owner.projectedExpressions owner)
      owner.projectedExpressions := by
  refine List.forall₂_iff_get.2 ⟨length_collect _ owner, fun i h h' => ?_⟩
  rw [List.get_eq_getElem, List.get_eq_getElem]
  have hcollect := getElem_collect _ owner i h h'
  generalize (collect _ owner)[i] = reference at hcollect
  refine ⟨by rw [hcollect], ?_⟩
  cases hresolve : reference.resolve with
  | error cause => exact .inl (isError_infer_of_resolve hresolve)
  | ok place =>
    obtain ⟨position, name⟩ := place
    have hindex := (eq_of_resolve hresolve).1
    rw [hcollect] at hindex
    -- a shared name leaves no position, so the position is that of the column
    have hposition : i = position := by
      split at hindex
      · cases hindex
      · exact AttributeIndex.concrete.inj hindex
    subst hposition
    refine .inr (infer_of_computesColumns ?_ hresolve ?_)
    · rw [hcollect]
      exact howner
    · rw [hcollect]
      exact List.getElem?_eq_getElem h'

/-- What computes an attribute of a relation computes it under a new name of the relation, too. -/
theorem AttributeReference.Computed.renamed {label : String} {input : Relation}
    {reference : AttributeReference} {expression : Expression}
    (hmem : reference ∈ input.attributes) (h : reference.Computed dialect expression) :
    (reference.withOwner (.renaming label input)).Computed dialect expression := by
  refine ⟨h.1, ?_⟩
  obtain herror | ⟨source, hlike, hinfer⟩ :=
    infer_renaming dialect (reference.withOwner (.renaming label input)) rfl
  · exact .inl herror
  · have hself : reference ∈ input.attributesLike (reference.withOwner (.renaming label input)) :=
      List.mem_filter.2 ⟨hmem, by simp [withOwner]⟩
    rw [hlike] at hself
    obtain rfl := List.mem_singleton.1 hself
    rw [hinfer]
    exact h.2

/-- The attributes of a relation are computed by its projected expressions, in the same order. -/
theorem Relation.attributes_computed (relation : Relation) :
    List.Forall₂ (AttributeReference.Computed dialect) relation.attributes
      relation.projectedExpressions := by
  induction relation with
  | none => exact .nil
  | table base =>
    rw [Relation.projectedExpressions, Relation.attributeExpressions, List.forall₂_map_right_iff]
    exact List.forall₂_same.2 fun reference _ => reference.computed_self dialect
  | projection columns input ih =>
    exact AttributeReference.collect_computed dialect (.projection columns input) rfl
  | selection predicate input ih => exact ih
  | renamed label input ih =>
    rw [Relation.attributes, List.forall₂_map_left_iff]
    have hmembers := (List.forall₂_and_left _ _).2 ⟨fun reference hmem => hmem, ih⟩
    exact hmembers.imp fun reference expression h => h.2.renamed dialect h.1
  | join kind left right condition ihl ihr => exact List.rel_append ihl ihr
  | group grouping aggregates input ih =>
    exact AttributeReference.collect_computed dialect (.group grouping aggregates input) rfl
  | error input cause ih => exact .nil

/-- A relation has as many attributes as expressions that compute them. At every position they
have the same name, and the attribute has the type of the expression or an error type. -/
theorem Relation.attributes_aligned (relation : Relation) :
    relation.attributes.length = relation.projectedExpressions.length ∧
      ∀ (i : Nat) (reference : AttributeReference) (expression : Expression),
        relation.attributes[i]? = some reference →
        relation.projectedExpressions[i]? = some expression →
        reference.name = expression.displayName ∧
          (((Expression.reference reference).infer dialect).isError = true ∨
            (Expression.reference reference).infer dialect = expression.infer dialect) := by
  have hcomputed := relation.attributes_computed dialect
  refine ⟨hcomputed.length_eq, fun i reference expression hreference hexpression => ?_⟩
  obtain ⟨h, rfl⟩ := List.getElem?_eq_some_iff.1 hreference
  obtain ⟨h', rfl⟩ := List.getElem?_eq_some_iff.1 hexpression
  rw [Expression.infer]
  exact hcomputed.get h h'

/-- Events joined with contacts, under one name. -/
def Sample.renamedJoin : Relation :=
  ((Relation.table Sample.events).joinWith (.table Sample.contacts)).renamed "j"

/-- The name of an event, referred to through the renamed join, is computed by that of the table. -/
theorem Relation.attributes_aligned_renamedJoin :
    Sample.renamedJoin.attributes[1]? = some ⟨.concrete 1, some "name", Sample.renamedJoin⟩ ∧
      Sample.renamedJoin.projectedExpressions[1]? =
        some (.reference ⟨.concrete 1, some "name", .table Sample.events⟩) ∧
      (((Expression.reference ⟨.concrete 1, some "name", Sample.renamedJoin⟩).infer
            .standard).isError = true ∨
        (Expression.reference ⟨.concrete 1, some "name", Sample.renamedJoin⟩).infer .standard =
          (Expression.reference ⟨.concrete 1, some "name", .table Sample.events⟩).infer
            .standard) :=
  ⟨rfl, rfl, ((Sample.renamedJoin.attributes_aligned .standard).2 1 _ _ rfl rfl).2⟩

end QueryAlgebra

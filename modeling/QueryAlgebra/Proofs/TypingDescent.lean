import QueryAlgebra.Proofs.ReferenceTyping
import QueryAlgebra.Proofs.TreeInduction

/-!
# The descent of typing

Typing goes from an expression to its operands and arguments, from a reference into a projection or
a group to the column at its position, and from a reference into a renaming to an attribute of the
renamed relation. Each of these steps leads to a smaller tree, which gives an induction that follows
typing wherever it goes.
-/

namespace QueryAlgebra

/-- Columns that a relation computes itself are smaller than the relation. -/
theorem Relation.sizeOf_lt_of_mem_projectedExpressions {relation : Relation}
    (hcomputes : relation.computesColumns) {column : Expression}
    (h : column ∈ relation.projectedExpressions) : sizeOf column < sizeOf relation := by
  cases relation with
  | projection columns input =>
    have := List.sizeOf_lt_of_mem (show column ∈ columns from h)
    simp only [Relation.projection.sizeOf_spec]
    omega
  | group grouping aggregates input =>
    have := Grouping.sizeOf_lt_of_mem_columns h
    simp only [Relation.group.sizeOf_spec]
    omega
  | _ => cases hcomputes

/-- What holds of an expression if it holds of its children and of its reference, and of a reference
if it holds of all columns of an owner that computes columns and of all attributes of the relation
that an owner renames, holds of all expressions and references. -/
theorem typingInduction {motive : Expression → Prop} {reached : AttributeReference → Prop}
    (expression : ∀ expression, (∀ child ∈ expression.children, motive child) →
      (∀ target, expression = .reference target → reached target) → motive expression)
    (reference : ∀ reference : AttributeReference,
      (reference.owner.computesColumns →
        ∀ column ∈ reference.owner.projectedExpressions, motive column) →
      (∀ label input, reference.owner = .renaming label input →
        ∀ source ∈ input.attributes, reached source) → reached reference) :
    (∀ expression, motive expression) ∧ ∀ reference, reached reference := by
  have hall (size : Nat) : (∀ expression, sizeOf expression = size → motive expression) ∧
      ∀ reference : AttributeReference, sizeOf reference.owner = size → reached reference := by
    induction size using Nat.strongRecOn with
    | ind size ih =>
      have hmotive {e : Expression} (h : sizeOf e < size) : motive e := (ih _ h).1 e rfl
      have hreached {source : AttributeReference} (h : sizeOf source.owner < size) :
          reached source := (ih _ h).2 source rfl
      refine ⟨?_, ?_⟩
      · rintro e rfl
        refine expression e (fun child hchild => ?_) fun target htarget => ?_
        · exact hmotive (Expression.sizeOf_lt_of_mem_children hchild)
        · subst htarget
          obtain ⟨index, name, owner⟩ := target
          refine hreached ?_
          simp only [Expression.reference.sizeOf_spec, AttributeReference.mk.sizeOf_spec]
          omega
      · rintro target rfl
        refine reference target (fun hcomputes column hcolumn => ?_)
          fun label input howner source hsource => ?_
        · exact hmotive (Relation.sizeOf_lt_of_mem_projectedExpressions hcomputes hcolumn)
        · refine hreached ?_
          have := Relation.sizeOf_owner_le hsource
          simp only [howner, Relation.renaming.sizeOf_spec]
          omega
  exact ⟨fun e => (hall _).1 e rfl, fun target => (hall _).2 target rfl⟩

/-- The type of a reference whose attribute cannot be found. -/
def AttributeReference.missingType (reference : AttributeReference) : DataType :=
  .error ("Cannot resolve attribute " ++ reference.display)

/-- The type of a usable reference with the given position in its owner. -/
def AttributeReference.typeIn (dialect : Dialect) (reference : AttributeReference)
    (position : Nat) : Relation → DataType
  | .table base => (base.columns[position]?).elim reference.missingType Column.type
  | .projection columns _ =>
    (columns[position]?).elim reference.missingType (Expression.infer dialect)
  | .group grouping aggregates _ =>
    ((Grouping.columns grouping aggregates)[position]?).elim reference.missingType
      (Expression.infer dialect)
  | .renaming _ input =>
    match input.attributesLike reference with
    | [] => reference.missingType
    | [source] => source.infer dialect
    | _ => .error ("Attribute " ++ reference.display ++ " is ambiguous through rename")
  | _ => reference.missingType

/-- Typing a reference without regard to why it ends: an error for a reference that is not usable,
and otherwise what the owner has at the position. -/
theorem AttributeReference.infer_eq (dialect : Dialect) (reference : AttributeReference) :
    reference.infer dialect =
      match reference.resolve with
      | .error cause => .error cause.message
      | .ok (position, _) => reference.typeIn dialect position reference.owner := by
  rw [infer]
  cases reference.resolve with
  | error cause => rfl
  | ok place =>
    obtain ⟨position, name⟩ := place
    obtain ⟨index, key, owner⟩ := reference
    cases owner with
    | projection columns input =>
      simp only [typeIn]
      split <;> simp_all [missingType]
    | group grouping aggregates input =>
      simp only [typeIn]
      split <;> simp_all [missingType]
    | «renaming» label input =>
      simp only [typeIn]
      split <;> simp_all [missingType]
    | _ => rfl

end QueryAlgebra

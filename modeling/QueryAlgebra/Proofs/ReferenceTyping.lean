import QueryAlgebra.Typing

/-!
# The type of a reference

A usable reference is typed through its owner. A projection or a group leads to the expression at
the position, and a renaming leads to the one attribute of the renamed relation that agrees in index
and name. Where there is no such expression or attribute, the type is an error.
-/

namespace QueryAlgebra

/-- Whether the relation computes its attributes from columns of its own. -/
def Relation.computesColumns : Relation → Bool
  | .projection _ _ => true
  | .group _ _ _ => true
  | _ => false

namespace AttributeReference

variable {dialect : Dialect} {reference : AttributeReference}

/-- The references to a list of columns take their names from the columns and their positions from
the list, but those that share their name have no position. -/
theorem getElem_collect (columns : List Expression) (owner : Relation) (i : Nat)
    (h : i < (collect columns owner).length) (h' : i < columns.length) :
    (collect columns owner)[i] =
      { index :=
          if columns[i].displayName.any (KeyedList.ofList columns Expression.displayName).isAmbiguous
          then .ambiguous else .concrete i
        name := columns[i].displayName
        owner } := by
  simp only [collect, List.getElem_mapIdx, KeyedList.ofList, List.getElem_map]
  rfl

/-- A reference resolves to its own position and name. -/
theorem eq_of_resolve {position : Nat} {name : String}
    (h : reference.resolve = .ok (position, name)) :
    reference.index = .concrete position ∧ reference.name = some name := by
  obtain ⟨index, key, owner⟩ := reference
  cases index <;> cases key <;> simp_all [resolve]

/-- A position and a name make a reference usable. -/
theorem resolve_eq {position : Nat} {name : String} (hindex : reference.index = .concrete position)
    (hname : reference.name = some name) : reference.resolve = .ok (position, name) := by
  simp only [resolve, hindex, hname]

/-- A reference that is not usable has an error type. -/
theorem isError_infer_of_resolve {cause : AttributeError} (h : reference.resolve = .error cause) :
    (reference.infer dialect).isError = true := by
  rw [AttributeReference.infer, h]
  rfl

/-- A reference into a table has the declared type of the column at its position. -/
theorem infer_of_table {base : Table} {column : Column} {position : Nat} {name : String}
    (howner : reference.owner = .table base) (hresolve : reference.resolve = .ok (position, name))
    (hcolumn : base.columns[position]? = some column) :
    reference.infer dialect = column.type := by
  obtain ⟨index, key, owner⟩ := reference
  obtain rfl : owner = .table base := howner
  rw [AttributeReference.infer, hresolve]
  dsimp only
  rw [hcolumn]
  rfl

/-- A reference into a projection or a group has the type of the column at its position. -/
theorem infer_of_computesColumns {column : Expression} {position : Nat} {name : String}
    (howner : reference.owner.computesColumns)
    (hresolve : reference.resolve = .ok (position, name))
    (hcolumn : reference.owner.projectedExpressions[position]? = some column) :
    reference.infer dialect = column.infer dialect := by
  obtain ⟨index, key, owner⟩ := reference
  rw [AttributeReference.infer, hresolve]
  cases owner with
  | projection columns input =>
    dsimp only
    split
    · next found hfound => rw [Option.some.inj (hcolumn.symm.trans hfound)]
    · next hmissing => cases hcolumn.symm.trans hmissing
  | group grouping aggregates input =>
    dsimp only
    split
    · next found hfound => rw [Option.some.inj (hcolumn.symm.trans hfound)]
    · next hmissing => cases hcolumn.symm.trans hmissing
  | _ => cases howner

/-- A reference into a renaming has an error type, or the type of the only attribute of the renamed
relation that agrees with it in index and name. -/
theorem infer_renaming (dialect : Dialect) (reference : AttributeReference) {label : String}
    {input : Relation} (howner : reference.owner = .renaming label input) :
    (reference.infer dialect).isError = true ∨
      ∃ source, input.attributesLike reference = [source] ∧
        reference.infer dialect = source.infer dialect := by
  obtain ⟨index, key, owner⟩ := reference
  obtain rfl : owner = .renaming label input := howner
  rw [AttributeReference.infer]
  split
  · exact .inl rfl
  · dsimp only
    split
    · exact .inl rfl
    · next source hsource => exact .inr ⟨source, hsource, rfl⟩
    · exact .inl rfl

/-- A usable reference into a renaming has the type of the attribute that it singles out. -/
theorem infer_of_attributesLike {label : String} {input : Relation} {position : Nat} {name : String}
    {source : AttributeReference} (howner : reference.owner = .renaming label input)
    (hresolve : reference.resolve = .ok (position, name))
    (hlike : input.attributesLike reference = [source]) :
    reference.infer dialect = source.infer dialect := by
  obtain ⟨index, key, owner⟩ := reference
  obtain rfl : owner = .renaming label input := howner
  rw [AttributeReference.infer, hresolve]
  dsimp only
  split
  · next hnone => cases hlike.symm.trans hnone
  · next found hfound => rw [List.singleton_inj.1 (hlike.symm.trans hfound)]
  · next hmany => exact absurd hlike (hmany source)

end AttributeReference

end QueryAlgebra

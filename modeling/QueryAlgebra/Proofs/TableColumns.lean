import Mathlib.Order.Bounds.Basic
import QueryAlgebra.Proofs.KeyedLookups
import QueryAlgebra.Proofs.Ownership
import QueryAlgebra.Proofs.SelectionStack

/-!
# Columns of a table by their names

A name leads to a column of a table in two ways. The table looks it up in the index of its columns.
The relation that the table makes up searches the attributes, and typing goes back from the position
of the attribute to the column.

Both ways search the same list of names for the first occurrence, so they lead to the same column
even where names repeat. Selections stand in neither way.
-/

namespace QueryAlgebra

namespace Table

variable {base : Table} {name : String}

/-- The index of the columns leads to the first position of a name among their names. -/
theorem position?_columnsByName (base : Table) (name : String) :
    base.columnsByName.position? name = base.columns.findIdx? (·.name == name) := by
  rw [columnsByName, KeyedList.position?_ofList, List.findIdx?_map]
  rfl

/-- A name is looked up at the least position of a column of the name. -/
theorem position?_eq_some_iff {position : Nat} :
    base.columnsByName.position? name = some position ↔
      IsLeast {i | ∃ column, base.columns[i]? = some column ∧ column.name = name} position := by
  have hindexes := KeyedList.indexes_ofList base.columns fun column => some column.name
  rw [columnsByName, hindexes.position?_eq_some_iff]
  simp [positionsWhere]

/-- The column of a name is the one at the position of the name. -/
theorem column?_eq_bind (base : Table) (name : String) :
    base.column? name = (base.columnsByName.position? name).bind (base.columns[·]?) := by
  rw [column?, columnsByName, KeyedList.find?_ofList, ← columnsByName, position?_columnsByName,
    ← List.find?_eq_bind_findIdx?_getElem?]
  rfl

/-- A name has a position, and the column there is found, or it has neither. -/
theorem found_or_missing (base : Table) (name : String) :
    (∃ position column, base.columnsByName.position? name = some position ∧
        base.columns[position]? = some column ∧ base.column? name = some column) ∨
      base.columnsByName.position? name = none ∧ base.column? name = none := by
  rw [column?_eq_bind]
  cases hfound : base.columnsByName.position? name with
  | none => exact .inr ⟨rfl, rfl⟩
  | some position =>
    obtain ⟨⟨column, hcolumn, -⟩, -⟩ := position?_eq_some_iff.1 hfound
    exact .inl ⟨position, column, rfl, hcolumn, hcolumn⟩

end Table

namespace Relation

variable {base : Table} {name : String}

/-- The attributes of a table have the names of its columns. -/
theorem attributeNames_table (base : Table) :
    (Relation.table base).attributeNames = base.columns.map fun column => some column.name :=
  List.ext_getElem (by simp [attributeNames, attributes])
    fun i h h' => by simp [attributeNames, attributes]

/-- The search among the attributes ends where the name stands first among their names. -/
theorem find?_attributes (relation : Relation) (name : String) :
    relation.attributes.find? (·.name == some name) =
      (relation.attributeNames.findIdx? (· == some name)).bind (relation.attributes[·]?) := by
  rw [List.find?_eq_bind_findIdx?_getElem?, attributeNames, List.findIdx?_map]
  rfl

/-- The search among the attributes of a table ends where the index of its columns leads to. -/
theorem find?_attributes_table (base : Table) (name : String) :
    (Relation.table base).attributes.find? (·.name == some name) =
      (base.columnsByName.position? name).map fun position =>
        ⟨.concrete position, some name, .table base⟩ := by
  have hposition : (Relation.table base).attributeNames.findIdx? (· == some name) =
      base.columnsByName.position? name := by
    rw [attributeNames_table, Table.position?_columnsByName, List.findIdx?_map]
    rfl
  rw [find?_attributes, hposition]
  cases hfound : base.columnsByName.position? name with
  | none => rfl
  | some position =>
    obtain ⟨⟨column, hcolumn, rfl⟩, -⟩ := Table.position?_eq_some_iff.1 hfound
    rw [Option.bind_some, attributes, List.getElem?_mapIdx, hcolumn]
    rfl

/-- A name that has a position leads to the attribute at this position of the table. -/
theorem attributeNamed_of_position? (predicates : List Expression) {position : Nat}
    (h : base.columnsByName.position? name = some position) :
    ((Relation.table base).selectEach predicates).attributeNamed name =
      ⟨.concrete position, some name, .table base⟩ := by
  rw [attributeNamed, attributes_selectEach, find?_attributes_table, h]
  rfl

/-- A name that has no position leads to an unknown attribute. -/
theorem attributeNamed_of_position?_eq_none (predicates : List Expression)
    (h : base.columnsByName.position? name = Option.none) :
    ((Relation.table base).selectEach predicates).attributeNamed name =
      ⟨.unknown, some name, (Relation.table base).selectEach predicates⟩ := by
  rw [attributeNamed, attributes_selectEach, find?_attributes_table, h]
  rfl

/-- In a table, seen through any selections, a name leads to the attribute at the position that the
index of the columns gives for it, which is the least position of a column of the name. It leads to
an unknown attribute exactly if the table has no column of the name. The type of what it leads to is
the declared type of the column that the table finds, and an error if there is none. -/
theorem columns_by_name (base : Table) (predicates : List Expression) (name : String) :
    (∀ position, ((Relation.table base).selectEach predicates).attributeNamed name =
        ⟨.concrete position, some name, .table base⟩ ↔
      base.columnsByName.position? name = some position) ∧
      (∀ position, base.columnsByName.position? name = some position ↔
        IsLeast {i | ∃ column, base.columns[i]? = some column ∧ column.name = name} position) ∧
      ((((Relation.table base).selectEach predicates).attributeNamed name).index = .unknown ↔
        base.column? name = Option.none) ∧
      ∀ dialect, match base.column? name with
        | some column =>
          (((Relation.table base).selectEach predicates).column name).infer dialect = column.type
        | Option.none =>
          ((((Relation.table base).selectEach predicates).column name).infer dialect).isError := by
  rcases Table.found_or_missing base name with
    ⟨found, column, hfound, hat, hcolumn⟩ | ⟨hmissing, hcolumn⟩
  · have hnamed := attributeNamed_of_position? predicates hfound
    refine ⟨fun position => ?_, fun position => Table.position?_eq_some_iff, ?_, fun dialect => ?_⟩
    · rw [hnamed, hfound]
      simp
    · rw [hnamed, hcolumn]
      simp
    · rw [hcolumn, Relation.column, hnamed, Expression.infer]
      exact AttributeReference.infer_of_table rfl (AttributeReference.resolve_eq rfl rfl) hat
  · have hnamed := attributeNamed_of_position?_eq_none predicates hmissing
    refine ⟨fun position => ?_, fun position => Table.position?_eq_some_iff, ?_, fun dialect => ?_⟩
    · rw [hnamed, hmissing]
      simp
    · rw [hnamed, hcolumn]
      simp
    · rw [hcolumn, Relation.column, hnamed, Expression.infer]
      exact AttributeReference.isError_infer_of_resolve rfl

end Relation

end QueryAlgebra

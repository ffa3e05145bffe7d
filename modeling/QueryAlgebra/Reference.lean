import QueryAlgebra.Expression

/-!
# Attribute references

A reference is usable when it has a position and a name. Every other reference stands for an error,
which can be read off it together with the description of the relation that owns it.
-/

namespace QueryAlgebra

namespace Relation

/-- The name by which expressions refer to the relation. Tables and renamings have one. -/
def qualifiedName? : Relation → Option QualifiedName
  | .table base => some base.toQualifiedName
  | .renaming name _ => some { name }
  | _ => Option.none

/-- The relation as it appears in messages. -/
def description (relation : Relation) : String :=
  match relation.qualifiedName? with
  | some name => name.display
  | Option.none => "(anonymous)"

end Relation

namespace AttributeReference

/-- The position and name of a usable reference, or the error that the reference stands for. -/
def resolve (reference : AttributeReference) : Except AttributeError (Nat × String) :=
  let name := reference.name.getD "(unnamed)"
  let relation := reference.owner.description
  match reference.index, reference.name with
  | .concrete position, some name => .ok (position, name)
  | .concrete position, none => .error (.anonymous position relation)
  | .ambiguous, _ => .error (.ambiguous name relation)
  | .unknown, _ => .error (.unknown name relation)

/-- The error that the reference stands for. -/
def error? (reference : AttributeReference) : Option AttributeError :=
  match reference.resolve with
  | .ok _ => none
  | .error cause => some cause

/-- The reference as it appears in messages: the owner and, behind a dot, the name, with a note in
brackets unless the reference is usable. -/
def display (reference : AttributeReference) : String :=
  reference.owner.description ++ "." ++
    match reference.index, reference.name with
    | .concrete _, some name => name
    | .concrete position, none => "[" ++ position.repr ++ "]"
    | .ambiguous, some name => "[ambiguous `" ++ name ++ "`]"
    | .ambiguous, none => "[ambiguous]"
    | .unknown, some name => "[unknown `" ++ name ++ "`]"
    | .unknown, none => "[unknown]"

/-- The same index and name under another owner. -/
def withOwner (reference : AttributeReference) (owner : Relation) : AttributeReference :=
  { reference with owner }

/-- References to the columns that the expressions compute for their owner. A name that several
columns share is ambiguous in each of them. -/
def collect (expressions : List Expression) (owner : Relation) : List AttributeReference :=
  let columns := KeyedList.ofList expressions Expression.displayName
  columns.entries.mapIdx fun position (name, _) =>
    { index := if name.any columns.isAmbiguous then .ambiguous else .concrete position
      name
      owner }

/-- A reference is an error exactly when it is not usable. -/
theorem error?_eq_none_iff {reference : AttributeReference} :
    reference.error? = none ↔
      ∃ position name, reference.index = .concrete position ∧ reference.name = some name := by
  obtain ⟨index, name, owner⟩ := reference
  cases index <;> cases name <;> simp [error?, resolve]

/-- There is one reference for each expression. -/
@[simp] theorem length_collect (expressions : List Expression) (owner : Relation) :
    (collect expressions owner).length = expressions.length := by
  simp [collect, KeyedList.ofList]

/-- All references have the given owner. -/
theorem owner_of_mem_collect {expressions : List Expression} {owner : Relation}
    {reference : AttributeReference} (h : reference ∈ collect expressions owner) :
    reference.owner = owner := by
  obtain ⟨i, hi, rfl⟩ := List.mem_mapIdx.1 h
  rfl

end AttributeReference

end QueryAlgebra

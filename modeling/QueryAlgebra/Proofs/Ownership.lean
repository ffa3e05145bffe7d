import Mathlib.Data.List.Perm.Basic
import QueryAlgebra.Proofs.KeyIndexing
import QueryAlgebra.Proofs.ReferenceTyping
import QueryAlgebra.Proofs.TreeInduction

/-!
# Ownership of attributes

Every attribute of a relation is owned by a relation at or below it: by one that numbers its
attributes itself, or by a renaming, which takes over the indexes of the relation it renames. The
owner lists the attribute as its own, and an owner that has a name is in scope.

Whether a name is ambiguous is decided where the attributes are numbered. The namesake stays beside
the attribute from there on, since every relation above passes all attributes of an input on.
-/

namespace QueryAlgebra

/-- A value that is counted at least twice stands at some position other than the given one. -/
theorem exists_getElem?_ne {α : Type} [BEq α] [LawfulBEq α] {values : List α} {value : α}
    (h : 2 ≤ values.count value) (i : Nat) : ∃ j, j ≠ i ∧ values[j]? = some value := by
  refine List.mem_eraseIdx_iff_getElem?.1 (List.count_pos_iff.1 ?_)
  by_cases hi : i < values.length
  · have hcount := (List.getElem_cons_eraseIdx_perm hi).count_eq value
    rw [List.count_cons] at hcount
    split at hcount <;> omega
  · rw [List.eraseIdx_of_length_le (by omega)]
    omega

namespace AttributeReference

/-- References to columns have the names of the columns. -/
theorem map_name_collect (columns : List Expression) (owner : Relation) :
    (collect columns owner).map name = columns.map Expression.displayName := by
  refine List.ext_getElem (by simp) fun i h h' => ?_
  rw [List.length_map] at h h'
  rw [List.getElem_map, List.getElem_map, getElem_collect columns owner i h h']

/-- A reference to a column has the position of the column, unless several columns share its
name. -/
theorem index_collect (columns : List Expression) (owner : Relation) {i : Nat}
    (h : i < (collect columns owner).length) :
    (collect columns owner)[i].index = .concrete i ∨
      (collect columns owner)[i].index = .ambiguous ∧
        ∃ shared, (collect columns owner)[i].name = some shared ∧
          2 ≤ ((collect columns owner).map name).count (some shared) := by
  have h' : i < columns.length := by simpa using h
  rw [map_name_collect, getElem_collect columns owner i h h']
  split
  · next hshared =>
    obtain ⟨shared, hname, hambiguous⟩ := (Option.any_eq_true _ _).1 hshared
    exact .inr ⟨rfl, shared, hname, (KeyedList.isAmbiguous_ofList _ _ _).1 hambiguous⟩
  · exact .inl rfl

end AttributeReference

namespace Relation

/-- Whether the relation numbers its attributes itself. -/
def numbersAttributes : Relation → Bool
  | .table _ => true
  | .projection _ _ => true
  | .group _ _ _ => true
  | _ => false

/-- Whether the relation owns its attributes. -/
def ownsAttributes : Relation → Bool
  | .renaming _ _ => true
  | relation => relation.numbersAttributes

/-- The names of the attributes in order; an attribute may have none. -/
def attributeNames (relation : Relation) : List (Option String) :=
  relation.attributes.map AttributeReference.name

/-- A new name of the relation leaves those of its attributes. -/
@[simp] theorem attributeNames_renaming (label : String) (input : Relation) :
    (Relation.renaming label input).attributeNames = input.attributeNames := by
  simp [attributeNames, attributes, AttributeReference.withOwner, Function.comp_def]

/-- A selection leaves the names of the attributes. -/
@[simp] theorem attributeNames_selection (predicate : Expression) (input : Relation) :
    (Relation.selection predicate input).attributeNames = input.attributeNames := rfl

/-- A join has the names of both sides. -/
@[simp] theorem attributeNames_join (kind : JoinKind) (left right : Relation)
    (condition : Option Expression) :
    (Relation.join kind left right condition).attributeNames =
      left.attributeNames ++ right.attributeNames :=
  List.map_append

/-- What numbers its attributes owns them. -/
theorem ownsAttributes_of_numbersAttributes {relation : Relation}
    (h : relation.numbersAttributes) : relation.ownsAttributes := by
  cases relation with
  | «renaming» label input => rfl
  | _ => exact h

/-- Where attributes are numbered, each is owned by the relation and has its position as index,
unless its name is shared. -/
theorem index_of_numbersAttributes {relation : Relation} (hnumbers : relation.numbersAttributes)
    {i : Nat} {reference : AttributeReference} (h : relation.attributes[i]? = some reference) :
    reference.owner = relation ∧
      (reference.index = .concrete i ∨
        reference.index = .ambiguous ∧
          ∃ shared, reference.name = some shared ∧
            2 ≤ relation.attributeNames.count (some shared)) := by
  obtain ⟨hi, rfl⟩ := List.getElem?_eq_some_iff.1 h
  cases relation with
  | table base => simp [attributes]
  | projection columns input =>
    exact ⟨AttributeReference.owner_of_mem_collect (List.getElem_mem hi),
      AttributeReference.index_collect _ _ hi⟩
  | group grouping aggregates input =>
    exact ⟨AttributeReference.owner_of_mem_collect (List.getElem_mem hi),
      AttributeReference.index_collect _ _ hi⟩
  | _ => cases hnumbers

/-- Induction over the way by which an attribute comes to a relation: the relation numbers it
itself, takes it over from the relation it renames, or passes it on from an input. -/
@[elab_as_elim]
theorem attributeInduction
    {motive : ∀ (relation : Relation) (reference : AttributeReference),
      reference ∈ relation.attributes → Prop}
    (numbered : ∀ relation reference, relation.numbersAttributes →
      ∀ h : reference ∈ relation.attributes, motive relation reference h)
    (renamed : ∀ label input reference (h : reference ∈ input.attributes),
      motive input reference h →
        motive (.renaming label input) (reference.withOwner (.renaming label input))
          (List.mem_map_of_mem h))
    (selected : ∀ predicate input reference (h : reference ∈ input.attributes),
      motive input reference h → motive (.selection predicate input) reference h)
    (joinedLeft : ∀ kind left right condition reference (h : reference ∈ left.attributes),
      motive left reference h →
        motive (.join kind left right condition) reference (List.mem_append_left _ h))
    (joinedRight : ∀ kind left right condition reference (h : reference ∈ right.attributes),
      motive right reference h →
        motive (.join kind left right condition) reference (List.mem_append_right _ h))
    {relation : Relation} {reference : AttributeReference} (h : reference ∈ relation.attributes) :
    motive relation reference h := by
  induction relation generalizing reference with
  | none => cases h
  | table base => exact numbered _ _ rfl h
  | projection columns input ih => exact numbered _ _ rfl h
  | selection predicate input ih => exact selected predicate input reference h (ih h)
  | renamed label input ih =>
    obtain ⟨inner, hinner, rfl⟩ := List.mem_map.1 h
    exact renamed _ _ _ hinner (ih hinner)
  | join kind left right condition ihl ihr =>
    rcases List.mem_append.1 h with h | h
    · exact joinedLeft _ _ _ _ _ h (ihl h)
    · exact joinedRight _ _ _ _ _ h (ihr h)
  | group grouping aggregates input ih => exact numbered _ _ rfl h
  | error input cause ih => cases h

variable {relation : Relation} {reference : AttributeReference}

/-- No attribute of a relation is unknown to it. -/
theorem index_ne_unknown (h : reference ∈ relation.attributes) : reference.index ≠ .unknown := by
  induction h using attributeInduction with
  | numbered relation reference hnumbers h =>
    obtain ⟨i, hi⟩ := List.mem_iff_getElem?.1 h
    rcases (index_of_numbersAttributes hnumbers hi).2 with hindex | ⟨hindex, _⟩ <;> simp [hindex]
  | renamed label input reference h ih => exact ih
  | selected predicate input reference h ih => exact ih
  | joinedLeft kind left right condition reference h ih => exact ih
  | joinedRight kind left right condition reference h ih => exact ih

/-- The owner of an attribute lists it among its own. -/
theorem mem_attributes_owner (h : reference ∈ relation.attributes) :
    reference.owner.ownsAttributes ∧ reference ∈ reference.owner.attributes := by
  induction h using attributeInduction with
  | numbered relation reference hnumbers h =>
    obtain ⟨i, hi⟩ := List.mem_iff_getElem?.1 h
    rw [(index_of_numbersAttributes hnumbers hi).1]
    exact ⟨ownsAttributes_of_numbersAttributes hnumbers, h⟩
  | renamed label input reference h ih => exact ⟨rfl, List.mem_map_of_mem h⟩
  | selected predicate input reference h ih => exact ih
  | joinedLeft kind left right condition reference h ih => exact ih
  | joinedRight kind left right condition reference h ih => exact ih

/-- An owner that numbers its attributes has them at their positions. -/
theorem getElem?_attributes_owner (h : reference ∈ relation.attributes)
    (hnumbers : reference.owner.numbersAttributes) {i : Nat}
    (hindex : reference.index = .concrete i) :
    reference.owner.attributes[i]? = some reference := by
  obtain ⟨j, hj⟩ := List.mem_iff_getElem?.1 (mem_attributes_owner h).2
  rcases (index_of_numbersAttributes hnumbers hj).2 with hj' | ⟨hj', _⟩
  · obtain rfl : j = i := AttributeIndex.concrete.inj (hj'.symm.trans hindex)
    exact hj
  · cases hj'.symm.trans hindex

/-- An owner that has a name is one of the relations from which the attributes are derived. -/
theorem owner_mem_immediateRelations (h : reference ∈ relation.attributes)
    (hname : reference.owner.qualifiedName?.isSome) :
    reference.owner ∈ relation.immediateRelations := by
  induction h using attributeInduction with
  | numbered relation reference hnumbers h =>
    obtain ⟨i, hi⟩ := List.mem_iff_getElem?.1 h
    rw [(index_of_numbersAttributes hnumbers hi).1] at hname ⊢
    -- of the relations that number their attributes, only tables have names
    cases relation with
    | table base => exact List.mem_singleton_self _
    | projection columns input => cases hname
    | group grouping aggregates input => cases hname
    | _ => cases hnumbers
  | renamed label input reference h ih => exact List.mem_singleton_self _
  | selected predicate input reference h ih => exact ih hname
  | joinedLeft kind left right condition reference h ih =>
    exact List.mem_append_left _ (ih hname)
  | joinedRight kind left right condition reference h ih =>
    exact List.mem_append_right _ (ih hname)

/-- The name of an ambiguous attribute is that of several attributes. -/
theorem two_le_count_name (h : reference ∈ relation.attributes)
    (hambiguous : reference.index = .ambiguous) :
    ∃ shared, reference.name = some shared ∧
      2 ≤ relation.attributeNames.count (some shared) := by
  induction h using attributeInduction with
  | numbered relation reference hnumbers h =>
    obtain ⟨i, hi⟩ := List.mem_iff_getElem?.1 h
    rcases (index_of_numbersAttributes hnumbers hi).2 with hindex | ⟨_, hshared⟩
    · cases hindex.symm.trans hambiguous
    · exact hshared
  | renamed label input reference h ih =>
    rw [attributeNames_renaming]
    exact ih hambiguous
  | selected predicate input reference h ih => exact ih hambiguous
  | joinedLeft kind left right condition reference h ih =>
    obtain ⟨shared, hname, hcount⟩ := ih hambiguous
    refine ⟨shared, hname, ?_⟩
    rw [attributeNames_join, List.count_append]
    omega
  | joinedRight kind left right condition reference h ih =>
    obtain ⟨shared, hname, hcount⟩ := ih hambiguous
    refine ⟨shared, hname, ?_⟩
    rw [attributeNames_join, List.count_append]
    omega

/-- An attribute at a position of a relation is not unknown, and it belongs to a relation that owns
its attributes and lists this one among them, at the position that the index gives unless the owner
is a renaming. If the attribute is ambiguous, an attribute at another position has the same name. If
the owner has a name, it is one of the relations from which this one is derived. -/
theorem attributes_owned {relation : Relation} {position : Nat} {reference : AttributeReference}
    (h : relation.attributes[position]? = some reference) :
    reference.index ≠ .unknown ∧
      reference.owner.ownsAttributes ∧
      reference ∈ reference.owner.attributes ∧
      (∀ i, reference.index = .concrete i → reference.owner.numbersAttributes →
        reference.owner.attributes[i]? = some reference) ∧
      (reference.index = .ambiguous →
        ∃ shared other namesake, reference.name = some shared ∧ other ≠ position ∧
          relation.attributes[other]? = some namesake ∧ namesake.name = some shared) ∧
      (reference.owner.qualifiedName?.isSome →
        reference.owner ∈ relation.immediateRelations) := by
  have hmem : reference ∈ relation.attributes := List.mem_of_getElem? h
  obtain ⟨howns, hlisted⟩ := mem_attributes_owner hmem
  refine ⟨index_ne_unknown hmem, howns, hlisted, fun i hindex hnumbers => ?_,
    fun hambiguous => ?_, owner_mem_immediateRelations hmem⟩
  · exact getElem?_attributes_owner hmem hnumbers hindex
  · obtain ⟨shared, hname, hcount⟩ := two_le_count_name hmem hambiguous
    obtain ⟨other, hother, hnamesake⟩ := exists_getElem?_ne hcount position
    rw [attributeNames, List.getElem?_map] at hnamesake
    obtain ⟨namesake, hnamesake, hshared⟩ := Option.map_eq_some_iff.1 hnamesake
    exact ⟨shared, other, namesake, hname, hother, hnamesake, hshared⟩

end Relation

namespace Sample

/-- The events under another name. -/
def renamedEvents : Relation :=
  (Relation.table events).renamed "e"

/-- Cities and countries of contacts, both under one name. -/
def places : Relation :=
  let contacts := Relation.table contacts
  contacts.project [contacts.column "city", .named (contacts.column "country") "city"]

/-- Events joined with places. -/
def eventPlaces : Relation :=
  renamedEvents.joinWith places

end Sample

/-- Where events are joined with places, the renaming that owns the name of an event is in scope,
and the second place has a namesake. -/
theorem Relation.attributes_owned_eventPlaces :
    Sample.eventPlaces.attributes[1]? = some ⟨.concrete 1, some "name", Sample.renamedEvents⟩ ∧
      Sample.renamedEvents ∈ Sample.eventPlaces.immediateRelations ∧
      Sample.eventPlaces.attributes[4]? = some ⟨.ambiguous, some "city", Sample.places⟩ ∧
      ∃ shared other namesake, some "city" = some shared ∧ other ≠ 4 ∧
        Sample.eventPlaces.attributes[other]? = some namesake ∧ namesake.name = some shared := by
  have hname : Sample.eventPlaces.attributes[1]? =
      some ⟨.concrete 1, some "name", Sample.renamedEvents⟩ := rfl
  have hcity : Sample.eventPlaces.attributes[4]? =
      some ⟨.ambiguous, some "city", Sample.places⟩ := rfl
  exact ⟨hname, (attributes_owned hname).2.2.2.2.2 rfl, hcity,
    (attributes_owned hcity).2.2.2.2.1 rfl⟩

end QueryAlgebra

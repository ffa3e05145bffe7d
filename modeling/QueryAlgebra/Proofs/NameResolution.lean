import QueryAlgebra.Proofs.Ownership

/-!
# Attributes by their names

Where attributes are numbered, their names decide about the indexes: a name that stands at several
positions is ambiguous at each of them, and everything else, named or not, has the position at which
it stands.

Selections and renamings above leave names and indexes as they are. A name that is looked up there
leads to the only attribute that carries it, to an ambiguous one if several do, and to an unknown
one if there is none.
-/

namespace QueryAlgebra

/-- Whether the name at a position stands at another position as well. What has no name shares
none. -/
def HasNamesake (names : List (Option String)) (position : Nat) : Prop :=
  ∃ shared, names[position]? = some (some shared) ∧
    ∃ other, other ≠ position ∧ names[other]? = some (some shared)

/-- A name has a namesake exactly if it occurs at least twice. -/
theorem hasNamesake_iff_two_le_count {names : List (Option String)} {position : Nat} {name : String}
    (h : names[position]? = some (some name)) :
    HasNamesake names position ↔ 2 ≤ names.count (some name) := by
  constructor
  · rintro ⟨shared, hshared, other, hother, hnamesake⟩
    obtain rfl : name = shared := Option.some.inj (Option.some.inj (h.symm.trans hshared))
    obtain ⟨hposition, hname⟩ := List.getElem?_eq_some_iff.1 h
    -- the namesake is counted apart from the name itself
    have hrest : some name ∈ names.eraseIdx position :=
      List.mem_eraseIdx_iff_getElem?.2 ⟨other, hother, hnamesake⟩
    have hcount := (List.getElem_cons_eraseIdx_perm hposition).count_eq (some name)
    rw [hname, List.count_cons_self] at hcount
    have hpositive := List.count_pos_iff.2 hrest
    omega
  · intro hcount
    obtain ⟨other, hother, hnamesake⟩ := exists_getElem?_ne hcount position
    exact ⟨name, h, other, hother, hnamesake⟩

/-- What has no name has no namesake. -/
theorem not_hasNamesake {names : List (Option String)} {position : Nat}
    (h : ∀ name, names[position]? ≠ some (some name)) : ¬ HasNamesake names position :=
  fun ⟨name, hname, _⟩ => h name hname

instance (names : List (Option String)) (position : Nat) : Decidable (HasNamesake names position) :=
  match h : names[position]? with
  | some (some _) => decidable_of_iff _ (hasNamesake_iff_two_le_count h).symm
  | some none => isFalse (not_hasNamesake fun _ hname => by cases h.symm.trans hname)
  | none => isFalse (not_hasNamesake fun _ hname => by cases h.symm.trans hname)

/-- The index of the attribute at a position of a list with the given names. -/
def indexAmong (names : List (Option String)) (position : Nat) : AttributeIndex :=
  if HasNamesake names position then .ambiguous else .concrete position

namespace AttributeReference

/-- The references to columns have the names of the columns, the indexes that these names give them
and the owner. -/
theorem collect_eq_mapIdx (columns : List Expression) (owner : Relation) :
    collect columns owner = columns.mapIdx fun position column =>
      { index := indexAmong (columns.map Expression.displayName) position
        name := column.displayName
        owner } := by
  refine List.ext_getElem (by simp) fun i h h' => ?_
  have hi : i < columns.length := by simpa using h
  have hname : (columns.map Expression.displayName)[i]? = some columns[i].displayName := by
    rw [List.getElem?_map, List.getElem?_eq_getElem hi, Option.map_some]
  rw [getElem_collect columns owner i h hi, List.getElem_mapIdx, indexAmong]
  congr 1
  cases hdisplay : columns[i].displayName with
  | none =>
    rw [hdisplay] at hname
    rw [if_neg (not_hasNamesake fun name hsome => by cases hname.symm.trans hsome)]
    rfl
  | some name =>
    rw [hdisplay] at hname
    refine if_congr ?_ rfl rfl
    rw [hasNamesake_iff_two_le_count hname, Option.any_some]
    exact KeyedList.isAmbiguous_ofList _ _ _

/-- The indexes of references to columns are decided by the names of the columns. -/
theorem map_index_collect (columns : List Expression) (owner : Relation) :
    (collect columns owner).map index =
      ((collect columns owner).map name).mapIdx fun position _ =>
        indexAmong ((collect columns owner).map name) position := by
  rw [map_name_collect, collect_eq_mapIdx]
  exact List.ext_getElem (by simp) fun i h h' => by simp

end AttributeReference

namespace Relation

/-- Whether the attributes are columns of a projection or a group, seen through selections and
renamings only. -/
def showsColumns : Relation → Bool
  | .projection _ _ => true
  | .group _ _ _ => true
  | .selection _ input => input.showsColumns
  | .renaming _ input => input.showsColumns
  | _ => false
termination_by structural relation => relation

/-- The attributes that carry the name. -/
def attributesNamed (relation : Relation) (name : String) : List AttributeReference :=
  relation.attributes.filter (·.name == some name)

/-- As many attributes carry a name as it occurs among the names. -/
theorem length_attributesNamed (relation : Relation) (name : String) :
    (relation.attributesNamed name).length = relation.attributeNames.count (some name) := by
  rw [attributesNamed, ← List.countP_eq_length_filter, attributeNames, List.count, List.countP_map]
  rfl

/-- The first of the attributes that carry the name is found, and an unknown one if there is none. -/
theorem attributeNamed_eq (relation : Relation) (name : String) :
    relation.attributeNamed name =
      (relation.attributesNamed name).head?.getD ⟨.unknown, some name, relation⟩ := by
  rw [attributeNamed, attributesNamed, List.head?_filter]
  cases relation.attributes.find? (·.name == some name) <;> rfl

/-- Columns keep the indexes that their names give them through selections and renamings. -/
theorem map_index_attributes {relation : Relation} (h : relation.showsColumns) :
    relation.attributes.map AttributeReference.index =
      relation.attributeNames.mapIdx fun position _ =>
        indexAmong relation.attributeNames position := by
  induction relation with
  | projection columns input ih => exact AttributeReference.map_index_collect _ _
  | group grouping aggregates input ih => exact AttributeReference.map_index_collect _ _
  | selection predicate input ih => exact ih h
  | renamed label input ih =>
    rw [attributeNames_renaming, attributes, List.map_map]
    exact ih h
  | _ => cases h

variable {relation : Relation} {reference : AttributeReference} {name : String}

/-- An attribute that carries a name has the index that the names give to its position. -/
theorem exists_position (h : relation.showsColumns)
    (hmem : reference ∈ relation.attributesNamed name) :
    reference.name = some name ∧
      ∃ position, relation.attributeNames[position]? = some (some name) ∧
        reference.index = indexAmong relation.attributeNames position := by
  obtain ⟨hattribute, hcarries⟩ := List.mem_filter.1 hmem
  have hname : reference.name = some name := eq_of_beq hcarries
  obtain ⟨position, hposition⟩ := List.mem_iff_getElem?.1 hattribute
  have hnames : relation.attributeNames[position]? = some (some name) := by
    rw [attributeNames, List.getElem?_map, hposition, Option.map_some, hname]
  have hindex := congrArg (·[position]?) (map_index_attributes h)
  simp only [List.getElem?_map, List.getElem?_mapIdx, hposition, hnames, Option.map_some,
    Option.some.injEq] at hindex
  exact ⟨hname, position, hnames, hindex⟩

/-- The only attribute that carries a name is usable. -/
theorem error?_of_attributesNamed_eq_singleton (h : relation.showsColumns)
    (honly : relation.attributesNamed name = [reference]) : reference.error? = Option.none := by
  have hmem : reference ∈ relation.attributesNamed name := honly ▸ List.mem_singleton_self reference
  obtain ⟨hname, position, hposition, hindex⟩ := exists_position h hmem
  have hcount : relation.attributeNames.count (some name) = 1 := by
    rw [← length_attributesNamed, honly, List.length_singleton]
  rw [indexAmong, if_neg (by rw [hasNamesake_iff_two_le_count hposition]; omega)] at hindex
  exact AttributeReference.error?_eq_none_iff.2 ⟨position, name, hindex, hname⟩

/-- An attribute that shares its name is ambiguous. -/
theorem ambiguous_of_two_le_length (h : relation.showsColumns)
    (hseveral : 2 ≤ (relation.attributesNamed name).length)
    (hmem : reference ∈ relation.attributesNamed name) :
    reference.index = .ambiguous ∧
      reference.error? = some (.ambiguous name reference.owner.description) := by
  obtain ⟨hname, position, hposition, hindex⟩ := exists_position h hmem
  rw [length_attributesNamed] at hseveral
  rw [indexAmong, if_pos ((hasNamesake_iff_two_le_count hposition).2 hseveral)] at hindex
  refine ⟨hindex, ?_⟩
  rw [AttributeReference.error?, AttributeReference.resolve, hindex, hname]
  rfl

/-- References to columns have the owner, the names of the columns and their positions, but those
that share a name are ambiguous. Through selections and renamings, therefore, a name leads to the
attribute that alone carries it, and this is usable; if several attributes carry it, to one that is
ambiguous for that reason; and if none does, to an unknown attribute of the relation itself. -/
theorem names_resolve :
    (∀ (columns : List Expression) (owner : Relation),
      AttributeReference.collect columns owner = columns.mapIdx fun position column =>
        { index := indexAmong (columns.map Expression.displayName) position
          name := column.displayName
          owner }) ∧
      ∀ (relation : Relation) (name : String), relation.showsColumns →
        (∀ reference, relation.attributesNamed name = [reference] →
          relation.attributeNamed name = reference ∧ reference.error? = Option.none) ∧
        (2 ≤ (relation.attributesNamed name).length →
          (relation.attributeNamed name).index = .ambiguous ∧
            (relation.attributeNamed name).error? =
              some (.ambiguous name (relation.attributeNamed name).owner.description)) ∧
        (relation.attributesNamed name = [] →
          relation.attributeNamed name = ⟨.unknown, some name, relation⟩) := by
  refine ⟨AttributeReference.collect_eq_mapIdx, fun relation name h => ⟨fun reference honly => ?_,
    fun hseveral => ?_, fun hnone => ?_⟩⟩
  · refine ⟨?_, error?_of_attributesNamed_eq_singleton h honly⟩
    rw [attributeNamed_eq, honly]
    rfl
  · obtain ⟨first, rest, hfirst⟩ :=
      List.exists_cons_of_length_pos (Nat.lt_of_lt_of_le Nat.zero_lt_two hseveral)
    have hfound : relation.attributeNamed name = first := by
      rw [attributeNamed_eq, hfirst]
      rfl
    rw [hfound]
    exact ambiguous_of_two_le_length h hseveral (hfirst ▸ List.mem_cons_self)
  · rw [attributeNamed_eq, hnone]
    rfl

end Relation

namespace Sample

/-- Columns of contacts, two of which share a name and one of which has none, seen through a
selection and a renaming. -/
def mixedColumns : Relation :=
  let contacts := Relation.table contacts
  let mixed := contacts.project [contacts.column "id", contacts.column "city", .integer 1,
    .named (contacts.column "country") "city"]
  (mixed.select (.boolean true)).renamed "m"

end Sample

/-- Of the columns above one is usable by its name, two are ambiguous, and a third name is unknown. -/
theorem Relation.names_resolve_mixedColumns :
    Sample.mixedColumns.showsColumns ∧
      Sample.mixedColumns.attributesNamed "id" = [⟨.concrete 0, some "id", Sample.mixedColumns⟩] ∧
      Sample.mixedColumns.attributeNamed "id" = ⟨.concrete 0, some "id", Sample.mixedColumns⟩ ∧
      2 ≤ (Sample.mixedColumns.attributesNamed "city").length ∧
      (Sample.mixedColumns.attributeNamed "city").error? =
        some (.ambiguous "city" (Sample.mixedColumns.attributeNamed "city").owner.description) ∧
      Sample.mixedColumns.attributesNamed "country" = [] ∧
      Sample.mixedColumns.attributeNamed "country" =
        ⟨.unknown, some "country", Sample.mixedColumns⟩ := by
  have hshows : Sample.mixedColumns.showsColumns := rfl
  have hid : Sample.mixedColumns.attributesNamed "id" =
      [⟨.concrete 0, some "id", Sample.mixedColumns⟩] := rfl
  have hcity : 2 ≤ (Sample.mixedColumns.attributesNamed "city").length := by decide
  have hcountry : Sample.mixedColumns.attributesNamed "country" = [] := rfl
  exact ⟨hshows, hid, ((names_resolve.2 _ "id" hshows).1 _ hid).1, hcity,
    ((names_resolve.2 _ "city" hshows).2.1 hcity).2, hcountry,
    (names_resolve.2 _ "country" hshows).2.2 hcountry⟩

end QueryAlgebra

import QueryAlgebra.Proofs.Ownership

/-!
# The relations that a relation is derived from

A relation is derived from tables and renamings, its immediate relations, which lend their names to
its attributes. A renaming hides what it renames. The base relations are the tables that are reached
when renamings are looked through as well.

Either listing stops at relations that list themselves, so it may be taken again of what it lists.
What is immediate stands between the relation and its base relations: looking through the immediate
relations one after the other gives the same tables, in the same order and as often.
-/

namespace QueryAlgebra.Relation

variable {relation source : Relation}

/-- Immediate relations are tables or renamings. -/
theorem table_or_renaming_of_mem (h : source ∈ relation.immediateRelations) :
    (∃ base, source = .table base) ∨ ∃ label input, source = .renaming label input := by
  induction relation with
  | none => cases h
  | table base => exact .inl ⟨base, List.mem_singleton.1 h⟩
  | projection columns input ih => exact ih h
  | selection predicate input ih => exact ih h
  | renamed label input ih => exact .inr ⟨label, input, List.mem_singleton.1 h⟩
  | join kind left right condition ihl ihr => exact (List.mem_append.1 h).elim ihl ihr
  | group grouping aggregates input ih => exact ih h
  | error input cause ih => cases h

/-- Base relations are tables. -/
theorem table_of_mem (h : source ∈ relation.baseRelations) : ∃ base, source = .table base := by
  induction relation with
  | none => cases h
  | table base => exact ⟨base, List.mem_singleton.1 h⟩
  | projection columns input ih => exact ih h
  | selection predicate input ih => exact ih h
  | renamed label input ih => exact ih h
  | join kind left right condition ihl ihr => exact (List.mem_append.1 h).elim ihl ihr
  | group grouping aggregates input ih => exact ih h
  | error input cause ih => cases h

/-- Tables and renamings are the relations that are their only immediate relation. -/
theorem immediateRelations_eq_self_iff :
    relation.immediateRelations = [relation] ↔
      (∃ base, relation = .table base) ∨ ∃ label input, relation = .renaming label input := by
  constructor
  · intro hself
    have hmem : relation ∈ relation.immediateRelations := by
      rw [hself]
      exact List.mem_singleton_self relation
    exact table_or_renaming_of_mem hmem
  · rintro (⟨base, rfl⟩ | ⟨label, input, rfl⟩)
    · rfl
    · rfl

/-- Tables are the relations that are their only base relation. -/
theorem baseRelations_eq_self_iff :
    relation.baseRelations = [relation] ↔ ∃ base, relation = .table base := by
  constructor
  · intro hself
    have hmem : relation ∈ relation.baseRelations := by
      rw [hself]
      exact List.mem_singleton_self relation
    exact table_of_mem hmem
  · rintro ⟨base, rfl⟩
    rfl

/-- A listing that is taken of relations that list themselves only changes nothing. -/
theorem flatMap_eq_self {listing : Relation → List Relation} {sources : List Relation}
    (h : ∀ source ∈ sources, listing source = [source]) : sources.flatMap listing = sources := by
  rw [List.flatMap_congr h]
  exact List.flatMap_singleton' sources

/-- The base relations are those of the immediate relations in turn. -/
theorem baseRelations_eq_flatMap (relation : Relation) :
    relation.baseRelations = relation.immediateRelations.flatMap baseRelations := by
  induction relation with
  | none => rfl
  | table base => rfl
  | projection columns input ih => exact ih
  | selection predicate input ih => exact ih
  -- the two listings part here, and the renaming looks through to its input once more
  | renamed label input ih => rw [immediateRelations, List.flatMap_singleton]
  | join kind left right condition ihl ihr =>
    rw [baseRelations, immediateRelations, List.flatMap_append, ihl, ihr]
  | group grouping aggregates input ih => exact ih
  | error input cause ih => rfl

/-- A relation is immediately derived from tables and renamings, and in the end from tables, and
these are the relations that are derived from themselves only. The base relations are those of the
immediate relations in turn, and neither listing changes if it is taken again of each relation that
it lists. -/
theorem derivation_consistent (relation : Relation) :
    (∀ source ∈ relation.immediateRelations,
      (∃ base, source = .table base) ∨ ∃ label input, source = .renaming label input) ∧
      (relation.immediateRelations = [relation] ↔
        (∃ base, relation = .table base) ∨ ∃ label input, relation = .renaming label input) ∧
      (∀ source ∈ relation.baseRelations, ∃ base, source = .table base) ∧
      (relation.baseRelations = [relation] ↔ ∃ base, relation = .table base) ∧
      relation.baseRelations = relation.immediateRelations.flatMap baseRelations ∧
      relation.immediateRelations.flatMap immediateRelations = relation.immediateRelations ∧
      relation.baseRelations.flatMap baseRelations = relation.baseRelations := by
  refine ⟨fun source h => table_or_renaming_of_mem h, immediateRelations_eq_self_iff,
    fun source h => table_of_mem h, baseRelations_eq_self_iff, baseRelations_eq_flatMap relation,
    ?_, ?_⟩
  · exact flatMap_eq_self fun source h =>
      immediateRelations_eq_self_iff.2 (table_or_renaming_of_mem h)
  · exact flatMap_eq_self fun source h => baseRelations_eq_self_iff.2 (table_of_mem h)

end QueryAlgebra.Relation

namespace QueryAlgebra

namespace Sample

/-- Events joined with themselves under another name. -/
def pairedEvents : Relation :=
  (Relation.table events).joinWith renamedEvents

end Sample

/-- Where events are joined with themselves under another name, the renaming is one of the immediate
relations, and the events are a base relation twice. -/
theorem Relation.derivation_consistent_pairedEvents :
    Sample.renamedEvents ∈ Sample.pairedEvents.immediateRelations ∧
      ((∃ base, Sample.renamedEvents = .table base) ∨
        ∃ label input, Sample.renamedEvents = .renaming label input) ∧
      .table Sample.events ∈ Sample.pairedEvents.baseRelations ∧
      (∃ base, Relation.table Sample.events = .table base) ∧
      [.table Sample.events, .table Sample.events] =
        Sample.pairedEvents.immediateRelations.flatMap baseRelations := by
  have himmediate : Sample.renamedEvents ∈ Sample.pairedEvents.immediateRelations :=
    List.mem_cons_of_mem _ List.mem_cons_self
  have hbase : .table Sample.events ∈ Sample.pairedEvents.baseRelations := List.mem_cons_self
  obtain ⟨hnamed, -, htable, -, hthrough, -⟩ := derivation_consistent Sample.pairedEvents
  exact ⟨himmediate, hnamed _ himmediate, hbase, htable _ hbase, hthrough⟩

end QueryAlgebra

import Mathlib.Data.List.Nodup
import QueryAlgebra.Proofs.Ownership

/-!
# Pipelines

To project all attributes, to give the relation another name and to filter its rows are steps that
put a relation around another and leave its attributes what they are. A run of such steps keeps the
names. Where the names are distinct, it keeps the types as well, and every attribute is usable: an
ambiguous attribute would have a namesake, and a renaming finds by its name the attribute that it
renames.
-/

namespace QueryAlgebra

/-- A step that puts a relation around another. -/
inductive PipelineStep where
  | project
  | rename (name : String)
  | filter (predicate : Expression)

namespace Relation

/-- The relation that a step puts around another. -/
def step (relation : Relation) : PipelineStep → Relation
  | .project => relation.projectAll
  | .rename name => relation.renamed name
  | .filter predicate => relation.select predicate

/-- The relation after a run of steps. -/
def pipeline (relation : Relation) (steps : List PipelineStep) : Relation :=
  steps.foldl step relation

/-- The types of the attributes in order. -/
def attributeTypes (relation : Relation) (dialect : Dialect) : List DataType :=
  relation.attributes.map fun reference => (Expression.reference reference).infer dialect

/-- Every attribute has a name, and no two have the same. -/
structure DistinctlyNamed (relation : Relation) : Prop where
  named : ∀ name ∈ relation.attributeNames, name.isSome
  distinct : relation.attributeNames.Nodup

instance (relation : Relation) : Decidable relation.DistinctlyNamed :=
  decidable_of_iff (_ ∧ _) ⟨fun ⟨hnamed, hdistinct⟩ => ⟨hnamed, hdistinct⟩,
    fun ⟨hnamed, hdistinct⟩ => ⟨hnamed, hdistinct⟩⟩

/-- All attributes projected have the names they had before. -/
@[simp] theorem attributeNames_projectAll (relation : Relation) :
    relation.projectAll.attributeNames = relation.attributeNames := by
  rw [attributeNames, projectAll, attributes, AttributeReference.map_name_collect,
    attributeExpressions, List.map_map]
  rfl

/-- A step keeps the names of the attributes. -/
theorem attributeNames_step (relation : Relation) (step : PipelineStep) :
    (relation.step step).attributeNames = relation.attributeNames := by
  cases step with
  | project => exact attributeNames_projectAll relation
  | rename name => exact attributeNames_renaming name relation
  | filter predicate => exact attributeNames_selection predicate relation

namespace DistinctlyNamed

variable {relation : Relation} {reference : AttributeReference}

/-- Distinctness depends on the names only. -/
theorem congr {other : Relation} (h : relation.DistinctlyNamed)
    (hnames : other.attributeNames = relation.attributeNames) : other.DistinctlyNamed :=
  ⟨hnames ▸ h.named, hnames ▸ h.distinct⟩

/-- Distinct names exclude ambiguous attributes, so all attributes are usable. -/
theorem usable (h : relation.DistinctlyNamed) (hmem : reference ∈ relation.attributes) :
    ∃ position name, reference.index = .concrete position ∧ reference.name = some name := by
  obtain ⟨name, hname⟩ :=
    Option.isSome_iff_exists.1 (h.named _ (List.mem_map_of_mem hmem))
  cases hindex : reference.index with
  | concrete position => exact ⟨position, name, rfl, hname⟩
  | ambiguous =>
    obtain ⟨shared, _, hcount⟩ := two_le_count_name hmem hindex
    have hle := List.nodup_iff_count_le_one.1 h.distinct (some shared)
    omega
  | unknown => exact absurd hindex (index_ne_unknown hmem)

/-- Distinct names single out each attribute among all. -/
theorem attributesLike_eq (h : relation.DistinctlyNamed) (hmem : reference ∈ relation.attributes) :
    relation.attributesLike reference = [reference] := by
  have hnodup : relation.attributes.Nodup := List.Nodup.of_map _ h.distinct
  have hmembers (candidate : AttributeReference) :
      candidate ∈ relation.attributesLike reference ↔ candidate ∈ [reference] := by
    rw [attributesLike, List.mem_filter, List.mem_singleton]
    constructor
    · rintro ⟨hcandidate, hlike⟩
      have hname : candidate.name = reference.name := eq_of_beq (Bool.and_eq_true_iff.1 hlike).2
      exact List.inj_on_of_nodup_map h.distinct hcandidate hmem hname
    · rintro rfl
      exact ⟨hmem, by simp⟩
  exact List.perm_singleton.1
    ((List.perm_ext_iff_of_nodup (hnodup.filter _) (List.nodup_singleton _)).2 hmembers)

/-- An attribute keeps its type under a new name of the relation. -/
theorem infer_renamed (h : relation.DistinctlyNamed) (hmem : reference ∈ relation.attributes)
    (dialect : Dialect) (label : String) :
    (reference.withOwner (.renaming label relation)).infer dialect = reference.infer dialect := by
  obtain ⟨position, name, hindex, hname⟩ := h.usable hmem
  exact AttributeReference.infer_of_attributesLike rfl
    (AttributeReference.resolve_eq hindex hname) (h.attributesLike_eq hmem)

/-- An attribute keeps its type when all attributes are projected. -/
theorem infer_projectAll (h : relation.DistinctlyNamed) (dialect : Dialect) {i : Nat}
    (hi : i < relation.attributes.length) (hi' : i < relation.projectAll.attributes.length) :
    relation.projectAll.attributes[i].infer dialect = relation.attributes[i].infer dialect := by
  obtain ⟨howner, hnumbered⟩ := index_of_numbersAttributes
    (show relation.projectAll.numbersAttributes from rfl) (List.getElem?_eq_getElem hi')
  obtain ⟨position, name, hindex, hname⟩ :=
    (h.congr (attributeNames_projectAll relation)).usable (List.getElem_mem hi')
  -- distinct names leave no index ambiguous, so the column is found at its own position
  have hposition : position = i := by
    rcases hnumbered with hconcrete | ⟨hambiguous, _⟩
    · exact AttributeIndex.concrete.inj (hindex.symm.trans hconcrete)
    · cases hindex.symm.trans hambiguous
  subst hposition
  have hcolumn : relation.projectAll.projectedExpressions[position]? =
      some (.reference relation.attributes[position]) := by
    rw [projectAll, projectedExpressions, attributeExpressions, List.getElem?_map,
      List.getElem?_eq_getElem hi]
    rfl
  rw [← howner] at hcolumn
  have hcomputes : relation.projectAll.attributes[position].owner.computesColumns := by
    rw [howner]
    rfl
  rw [AttributeReference.infer_of_computesColumns hcomputes
    (AttributeReference.resolve_eq hindex hname) hcolumn, Expression.infer]

/-- Attributes keep their types when all of them are projected. -/
theorem attributeTypes_projectAll (h : relation.DistinctlyNamed) (dialect : Dialect) :
    relation.projectAll.attributeTypes dialect = relation.attributeTypes dialect := by
  have hlength : relation.projectAll.attributes.length = relation.attributes.length := by
    simpa [attributeNames] using congrArg List.length (attributeNames_projectAll relation)
  refine List.ext_getElem (by simpa [attributeTypes] using hlength) fun i hi hi' => ?_
  simp only [attributeTypes, List.length_map, List.getElem_map, Expression.infer] at hi hi' ⊢
  exact h.infer_projectAll dialect hi' hi

/-- Attributes keep their types under a new name of the relation. -/
theorem attributeTypes_renamed (h : relation.DistinctlyNamed) (dialect : Dialect)
    (label : String) :
    (relation.renamed label).attributeTypes dialect = relation.attributeTypes dialect := by
  rw [attributeTypes, renamed, attributes, List.map_map]
  refine List.map_congr_left fun reference hmem => ?_
  simp only [Function.comp_apply, Expression.infer]
  exact h.infer_renamed hmem dialect label

/-- Attributes keep their types in a step. -/
theorem attributeTypes_step (h : relation.DistinctlyNamed) (dialect : Dialect)
    (step : PipelineStep) :
    (relation.step step).attributeTypes dialect = relation.attributeTypes dialect := by
  cases step with
  | project => exact h.attributeTypes_projectAll dialect
  | rename name => exact h.attributeTypes_renamed dialect name
  | filter predicate => rfl

/-- Attributes keep their names and types in a run of steps. -/
theorem attributes_pipeline (h : relation.DistinctlyNamed) (dialect : Dialect)
    (steps : List PipelineStep) :
    (relation.pipeline steps).attributeNames = relation.attributeNames ∧
      (relation.pipeline steps).attributeTypes dialect = relation.attributeTypes dialect := by
  induction steps generalizing relation with
  | nil => exact ⟨rfl, rfl⟩
  | cons step rest ih =>
    have hnames := attributeNames_step relation step
    have htypes := h.attributeTypes_step dialect step
    obtain ⟨hrestNames, hrestTypes⟩ := ih (h.congr hnames)
    exact ⟨hrestNames.trans hnames, hrestTypes.trans htypes⟩

end DistinctlyNamed

/-- A pipeline over a relation with distinctly named attributes keeps the names and the types of the
attributes in their order, and all of them stay usable. -/
theorem pipeline_preserves {relation : Relation} (h : relation.DistinctlyNamed)
    (dialect : Dialect) (steps : List PipelineStep) :
    (relation.pipeline steps).attributeNames = relation.attributeNames ∧
      (∀ reference ∈ (relation.pipeline steps).attributes,
        reference.error? = Option.none) ∧
      (relation.pipeline steps).attributeTypes dialect = relation.attributeTypes dialect := by
  obtain ⟨hnames, htypes⟩ := h.attributes_pipeline dialect steps
  refine ⟨hnames, fun reference hmem => ?_, htypes⟩
  exact AttributeReference.error?_eq_none_iff.2 ((h.congr hnames).usable hmem)

end Relation

namespace Sample

/-- Events and the addresses of contacts, the columns of both sides under names of their own. -/
def addressedEvents : Relation :=
  let contacts := Relation.table contacts
  (Relation.table events).joinWith
    (contacts.project
      [.named (contacts.column "id") "contact", contacts.column "address"])

/-- Steps of every kind. -/
def wrapping : List PipelineStep :=
  [.project, .rename "a", .filter (.boolean true), .project, .rename "b"]

end Sample

/-- Through the steps above, the relation above keeps names and types, and all is usable. -/
theorem Relation.pipeline_preserves_addressedEvents :
    Sample.addressedEvents.DistinctlyNamed ∧
      (Sample.addressedEvents.pipeline Sample.wrapping).attributeNames =
        Sample.addressedEvents.attributeNames ∧
      (∀ reference ∈ (Sample.addressedEvents.pipeline Sample.wrapping).attributes,
        reference.error? = Option.none) ∧
      (Sample.addressedEvents.pipeline Sample.wrapping).attributeTypes .standard =
        Sample.addressedEvents.attributeTypes .standard := by
  have hdistinct : Sample.addressedEvents.DistinctlyNamed := by decide
  exact ⟨hdistinct, pipeline_preserves hdistinct .standard Sample.wrapping⟩

end QueryAlgebra

import QueryAlgebra.Proofs.Alignment
import QueryAlgebra.Proofs.Ownership
import QueryAlgebra.Proofs.ReferenceLeads

/-!
# Typing through a renaming

A renaming keeps the index and the name of an attribute but not the relation that owned it, so the
attribute has to be found again among those of the renamed relation. It is found exactly if it is
usable and no attribute at another position looks like it. Then it has the type that it had before,
and in every other case an error type.

A usable attribute of a relation always leads somewhere: to a column of its owner, or to an
attribute of the renamed relation, which is usable again.
-/

namespace QueryAlgebra

/-- A filter keeps nothing exactly if it keeps the element at no position. -/
theorem filter_eq_nil_iff_getElem? {α : Type} {values : List α} {keeps : α → Bool} :
    values.filter keeps = [] ↔
      ∀ (j : Nat) (other : α), values[j]? = some other → ¬ keeps other = true := by
  rw [List.filter_eq_nil_iff]
  constructor
  · intro hnone j other hother
    exact hnone other (List.mem_of_getElem? hother)
  · intro hnone other hmem
    obtain ⟨j, hj⟩ := List.mem_iff_getElem?.1 hmem
    exact hnone j other hj

/-- A filter keeps the element at a position as the only one exactly if it keeps none at any other
position. -/
theorem filter_eq_singleton_iff {α : Type} {values : List α} {keeps : α → Bool} {i : Nat}
    {value : α} (h : values[i]? = some value) (hkept : keeps value = true) :
    values.filter keeps = [value] ↔
      ∀ (j : Nat) (other : α), values[j]? = some other → keeps other = true → j = i := by
  obtain ⟨hi, rfl⟩ := List.getElem?_eq_some_iff.1 h
  have hsplit : values.filter keeps =
      (values.take i).filter keeps ++ values[i] :: (values.drop (i + 1)).filter keeps := by
    rw [← List.filter_cons_of_pos hkept, ← List.drop_eq_getElem_cons hi, ← List.filter_append,
      List.take_append_drop]
  have hrest : values.filter keeps = [values[i]] ↔
      (values.take i).filter keeps = [] ∧ (values.drop (i + 1)).filter keeps = [] := by
    rw [hsplit, List.append_eq_singleton_iff]
    simp
  rw [hrest, filter_eq_nil_iff_getElem?, filter_eq_nil_iff_getElem?]
  constructor
  · rintro ⟨hfront, hback⟩ j other hother hkeeps
    rcases Nat.lt_trichotomy j i with hlt | heq | hgt
    · exact absurd hkeeps (hfront j other ((List.getElem?_take_of_lt hlt).trans hother))
    · exact heq
    · refine absurd hkeeps (hback (j - (i + 1)) other ?_)
      rw [List.getElem?_drop, Nat.add_sub_cancel' hgt, hother]
  · intro hunique
    constructor
    · intro j other hother hkeeps
      rw [List.getElem?_take] at hother
      split at hother
      · have := hunique j other hother hkeeps
        omega
      · cases hother
    · intro j other hother hkeeps
      rw [List.getElem?_drop] at hother
      have := hunique (i + 1 + j) other hother hkeeps
      omega

namespace Relation

variable {relation : Relation} {reference : AttributeReference} {i : Nat}

/-- What computes its columns numbers its attributes. -/
theorem numbersAttributes_of_computesColumns (h : relation.computesColumns = true) :
    relation.numbersAttributes = true := by
  cases relation with
  | projection columns input => rfl
  | group grouping aggregates input => rfl
  | _ => cases h

/-- Whether no attribute at another position has the index and the name of the reference. -/
def SinglesOut (relation : Relation) (i : Nat) (reference : AttributeReference) : Prop :=
  ∀ (j : Nat) (other : AttributeReference), relation.attributes[j]? = some other →
    other.index = reference.index → other.name = reference.name → j = i

/-- An attribute is among those that look like it. -/
theorem mem_attributesLike_self (h : reference ∈ relation.attributes) :
    reference ∈ relation.attributesLike reference :=
  List.mem_filter.2 ⟨h, by simp⟩

/-- An attribute is singled out exactly if it is the only one that looks like it. -/
theorem attributesLike_eq_singleton_iff (h : relation.attributes[i]? = some reference) :
    relation.attributesLike reference = [reference] ↔ relation.SinglesOut i reference := by
  rw [attributesLike, filter_eq_singleton_iff h (by simp)]
  simp only [Bool.and_eq_true, beq_iff_eq, and_imp]
  rfl

/-- An attribute that is usable and singled out keeps its type under a new name of the relation. -/
theorem infer_withOwner_of_singlesOut (dialect : Dialect) (label : String)
    (h : relation.attributes[i]? = some reference) (husable : reference.error? = Option.none)
    (hsingle : relation.SinglesOut i reference) :
    (reference.withOwner (.renaming label relation)).infer dialect = reference.infer dialect := by
  obtain ⟨position, name, hindex, hname⟩ := AttributeReference.error?_eq_none_iff.1 husable
  exact AttributeReference.infer_of_attributesLike rfl
    (AttributeReference.resolve_eq hindex hname) ((attributesLike_eq_singleton_iff h).2 hsingle)

/-- An attribute that is not usable has an error type under a new name of the relation, too. -/
theorem isError_infer_withOwner_of_error {cause : AttributeError} (dialect : Dialect)
    (label : String) (herror : reference.error? = some cause) :
    ((reference.withOwner (.renaming label relation)).infer dialect).isError = true := by
  cases hresolve : (reference.withOwner (.renaming label relation)).resolve with
  | error fault => exact AttributeReference.isError_infer_of_resolve hresolve
  | ok place =>
    obtain ⟨position, name⟩ := place
    obtain ⟨hindex, hname⟩ := AttributeReference.eq_of_resolve hresolve
    have husable : reference.error? = Option.none :=
      AttributeReference.error?_eq_none_iff.2 ⟨position, name, hindex, hname⟩
    cases herror.symm.trans husable

/-- An attribute that is not singled out has an error type under a new name of the relation. -/
theorem isError_infer_withOwner_of_not_singlesOut (dialect : Dialect) (label : String)
    (h : relation.attributes[i]? = some reference) (hmany : ¬ relation.SinglesOut i reference) :
    ((reference.withOwner (.renaming label relation)).infer dialect).isError = true := by
  obtain herror | ⟨source, hlike, -⟩ := AttributeReference.infer_renaming dialect
    (reference.withOwner (.renaming label relation)) rfl
  · exact herror
  · have hlike : relation.attributesLike reference = [source] := hlike
    have hself := mem_attributesLike_self (List.mem_of_getElem? h)
    rw [hlike, List.mem_singleton] at hself
    rw [← hself] at hlike
    exact absurd ((attributesLike_eq_singleton_iff h).1 hlike) hmany

end Relation

namespace AttributeReference

variable {relation : Relation} {reference visited : AttributeReference}

/-- The references that resolution goes through from a reference: the reference itself, and as long
as a renaming owns it, the one attribute of the renamed relation that looks like it. -/
inductive ResolvesThrough : AttributeReference → AttributeReference → Prop where
  | self (reference : AttributeReference) : ResolvesThrough reference reference
  | renamed {reference source visited : AttributeReference} {label : String} {input : Relation}
      (howner : reference.owner = .renaming label input)
      (hlike : input.attributesLike reference = [source])
      (h : ResolvesThrough source visited) : ResolvesThrough reference visited

/-- A reference that looks like a usable one is usable. -/
theorem error?_of_mem_attributesLike {source : AttributeReference}
    (h : source ∈ relation.attributesLike reference) (husable : reference.error? = none) :
    source.error? = none := by
  obtain ⟨-, hlike⟩ := List.mem_filter.1 h
  obtain ⟨hindex, hname⟩ := Bool.and_eq_true_iff.1 hlike
  obtain ⟨position, name, hindex', hname'⟩ := error?_eq_none_iff.1 husable
  exact error?_eq_none_iff.2
    ⟨position, name, (eq_of_beq hindex).trans hindex', (eq_of_beq hname).trans hname'⟩

/-- Resolution goes from usable attributes of relations to usable attributes of relations. -/
theorem ResolvesThrough.usable (h : reference.ResolvesThrough visited)
    (hmem : reference ∈ relation.attributes) (husable : reference.error? = none) :
    (∃ origin : Relation, visited ∈ origin.attributes) ∧ visited.error? = none := by
  induction h generalizing relation with
  | self reference => exact ⟨⟨relation, hmem⟩, husable⟩
  | @renamed reference source visited label input howner hlike h ih =>
    have hsource : source ∈ input.attributesLike reference := by simp [hlike]
    exact ih (List.mem_filter.1 hsource).1 (error?_of_mem_attributesLike hsource husable)

/-- Where the owner of an attribute numbers its attributes, the index is one of their positions. -/
theorem position_lt_length {position : Nat} (hmem : reference ∈ relation.attributes)
    (hindex : reference.index = .concrete position)
    (hnumbers : reference.owner.numbersAttributes = true) :
    position < reference.owner.attributes.length :=
  (List.getElem?_eq_some_iff.1 (Relation.getElem?_attributes_owner hmem hnumbers hindex)).1

/-- An attribute with a position leads on to a column if its owner computes columns. -/
theorem exists_lead_of_computesColumns {position : Nat} (hmem : reference ∈ relation.attributes)
    (hindex : reference.index = .concrete position)
    (hcomputes : reference.owner.computesColumns = true) :
    ∃ lead, reference.lead? = some lead := by
  have hnumbers := Relation.numbersAttributes_of_computesColumns hcomputes
  have hposition := position_lt_length hmem hindex hnumbers
  rw [(Relation.attributes_computed .standard reference.owner).length_eq] at hposition
  refine ⟨.onward reference.owner.projectedExpressions[position], ?_⟩
  rw [lead?_of_computesColumns hcomputes hindex, List.getElem?_eq_getElem hposition,
    Option.map_some]

/-- An attribute of a renaming leads on to one of the renamed relation, or is found to be
ambiguous. -/
theorem exists_lead_of_renaming {position : Nat} {label : String} {input : Relation}
    (hlisted : reference ∈ (Relation.renaming label input).attributes)
    (hindex : reference.index = .concrete position) :
    ∃ lead, reference.lead? = some lead := by
  obtain ⟨source, hsource, rfl⟩ := List.mem_map.1 hlisted
  -- the attribute that the renaming took over is one that looks like it
  have hlike : source ∈
      input.attributesLike (source.withOwner (.renaming label input)) :=
    Relation.mem_attributesLike_self hsource
  rw [lead?, hindex]
  simp only [withOwner] at hlike ⊢
  generalize input.attributesLike _ = sources at hlike
  rcases sources with _ | ⟨first, _ | ⟨next, rest⟩⟩
  · cases hlike
  · exact ⟨_, rfl⟩
  · exact ⟨_, rfl⟩

/-- A usable attribute of a relation leads somewhere. -/
theorem exists_lead (hmem : reference ∈ relation.attributes) (husable : reference.error? = none) :
    ∃ lead, reference.lead? = some lead := by
  obtain ⟨position, name, hindex, hname⟩ := error?_eq_none_iff.1 husable
  obtain ⟨howns, hlisted⟩ := Relation.mem_attributes_owner hmem
  have hposition := position_lt_length hmem hindex
  cases howner : reference.owner with
  | table base =>
    rw [howner] at hposition
    have hposition : position < base.columns.length := by
      simpa [Relation.attributes] using hposition rfl
    refine ⟨.settled base.columns[position].type, ?_⟩
    rw [lead?, hindex]
    simp only [howner, List.getElem?_eq_getElem hposition, Option.map_some]
  | projection columns input =>
    exact exists_lead_of_computesColumns hmem hindex (by rw [howner]; rfl)
  | group grouping aggregates input =>
    exact exists_lead_of_computesColumns hmem hindex (by rw [howner]; rfl)
  | «renaming» label input => exact exists_lead_of_renaming (howner ▸ hlisted) hindex
  | _ =>
    rw [howner] at howns
    cases howns

/-- Resolution of a usable attribute of a relation finds a type wherever it goes. -/
theorem ResolvesThrough.exists_type (dialect : Dialect) (h : reference.ResolvesThrough visited)
    (hmem : reference ∈ relation.attributes) (husable : reference.error? = none) :
    ∃ type, visited.attributeType? dialect = some type ∧ visited.infer dialect = type := by
  obtain ⟨⟨origin, horigin⟩, hvisited⟩ := h.usable hmem husable
  obtain ⟨lead, hlead⟩ := exists_lead horigin hvisited
  have htype : visited.attributeType? dialect = some (lead.infer dialect) := by
    rw [attributeType?, hlead, Option.map_some]
  exact ⟨_, htype, infer_eq_of_attributeType? hvisited htype⟩

end AttributeReference

/-- Under a new name of the relation an attribute has the type it had before if it is usable and
singled out, and otherwise an error type. A usable attribute leads to a type, and so does every
reference through which its resolution goes. -/
theorem Relation.infer_renamed_attribute (dialect : Dialect) {relation : Relation} {i : Nat}
    {reference : AttributeReference} (label : String)
    (h : relation.attributes[i]? = some reference) :
    ∃ renamed, (relation.renamed label).attributes[i]? = some renamed ∧
      (reference.error? = Option.none ∧ relation.SinglesOut i reference →
        (Expression.reference renamed).infer dialect =
          (Expression.reference reference).infer dialect) ∧
      (¬ (reference.error? = Option.none ∧ relation.SinglesOut i reference) →
        ((Expression.reference renamed).infer dialect).isError = true) ∧
      (reference.error? = Option.none → ∀ visited, reference.ResolvesThrough visited →
        ∃ type, visited.attributeType? dialect = some type ∧ visited.infer dialect = type) := by
  refine ⟨reference.withOwner (.renaming label relation), ?_, ?_, ?_, ?_⟩
  · rw [Relation.renamed, attributes, List.getElem?_map, h]
    rfl
  · rintro ⟨husable, hsingle⟩
    rw [Expression.infer, Expression.infer]
    exact infer_withOwner_of_singlesOut dialect label h husable hsingle
  · intro hother
    rw [Expression.infer]
    cases herror : reference.error? with
    | none =>
      refine isError_infer_withOwner_of_not_singlesOut dialect label h fun hsingle => ?_
      exact hother ⟨herror, hsingle⟩
    | some cause => exact isError_infer_withOwner_of_error dialect label herror
  · intro husable visited hvisited
    exact hvisited.exists_type dialect (List.mem_of_getElem? h) husable

/-- Under yet another name the renamed join of events and contacts keeps the type of the name of an
event, which is found behind both renamings. Its number looks like that of a contact and has an
error type. -/
theorem Relation.infer_renamed_attribute_renamedJoin :
    Sample.renamedJoin.attributes[1]? = some ⟨.concrete 1, some "name", Sample.renamedJoin⟩ ∧
      Sample.renamedJoin.SinglesOut 1 ⟨.concrete 1, some "name", Sample.renamedJoin⟩ ∧
      (Expression.reference ⟨.concrete 1, some "name", Sample.renamedJoin.renamed "k"⟩).infer
          .standard =
        (Expression.reference ⟨.concrete 1, some "name", Sample.renamedJoin⟩).infer .standard ∧
      (∃ type, AttributeReference.attributeType? .standard
          ⟨.concrete 1, some "name", .table Sample.events⟩ = some type ∧
        AttributeReference.infer .standard ⟨.concrete 1, some "name", .table Sample.events⟩ =
          type) ∧
      ¬ Sample.renamedJoin.SinglesOut 0 ⟨.concrete 0, some "id", Sample.renamedJoin⟩ ∧
      ((Expression.reference ⟨.concrete 0, some "id", Sample.renamedJoin.renamed "k"⟩).infer
        .standard).isError = true := by
  have hname : Sample.renamedJoin.attributes[1]? =
      some ⟨.concrete 1, some "name", Sample.renamedJoin⟩ := rfl
  have hid : Sample.renamedJoin.attributes[0]? =
      some ⟨.concrete 0, some "id", Sample.renamedJoin⟩ := rfl
  have hsingle : Sample.renamedJoin.SinglesOut 1
      ⟨.concrete 1, some "name", Sample.renamedJoin⟩ :=
    (attributesLike_eq_singleton_iff hname).1 rfl
  have hmany : ¬ Sample.renamedJoin.SinglesOut 0
      ⟨.concrete 0, some "id", Sample.renamedJoin⟩ := by
    intro hsingle
    have hcontact : Sample.renamedJoin.attributes[3]? =
        some ⟨.concrete 0, some "id", Sample.renamedJoin⟩ := rfl
    cases hsingle 3 _ hcontact rfl rfl
  have hthrough : AttributeReference.ResolvesThrough
      ⟨.concrete 1, some "name", Sample.renamedJoin⟩
      ⟨.concrete 1, some "name", .table Sample.events⟩ := .renamed rfl rfl (.self _)
  obtain ⟨renamed, hrenamed, hkept, -, htypes⟩ :=
    infer_renamed_attribute .standard "k" hname
  obtain rfl := Option.some.inj hrenamed
  obtain ⟨renamedId, hrenamedId, -, herror, -⟩ := infer_renamed_attribute .standard "k" hid
  obtain rfl := Option.some.inj hrenamedId
  exact ⟨hname, hsingle, hkept ⟨rfl, hsingle⟩, htypes rfl _ hthrough, hmany,
    herror fun hboth => hmany hboth.2⟩

end QueryAlgebra

import QueryAlgebra.Proofs.Alignment
import QueryAlgebra.Proofs.Ownership
import QueryAlgebra.Proofs.ReferenceLeads

/-!
# Termination of typing

Typing leaves the tree that it was given: behind a reference into a renaming it goes on with an
attribute that is listed anew, and that the tree need not contain. The owner of such an attribute is
the renamed relation or one below it, so typing descends all the same. Every reference leads to
smaller ones, also if it was made by hand and its owner has no such attribute.

To say so of the recursion itself, typing is run with a bound on the depth of its calls. There is no
answer where the bound is reached. The size of an expression is bound enough.
-/

namespace QueryAlgebra

/-! ## Smaller owners -/

namespace Relation

/-- The relation and the relations below it. -/
def subrelations (relation : Relation) : List Relation :=
  match relation with
  | .none => [relation]
  | .table _ => [relation]
  | .projection _ input => relation :: input.subrelations
  | .selection _ input => relation :: input.subrelations
  | .renaming _ input => relation :: input.subrelations
  | .join _ left right _ => relation :: (left.subrelations ++ right.subrelations)
  | .group _ _ input => relation :: input.subrelations
  | .error input _ => relation :: input.subrelations
termination_by structural relation

variable {relation : Relation} {reference : AttributeReference}

/-- A relation is one of its own. -/
theorem mem_subrelations_self (relation : Relation) : relation ∈ relation.subrelations := by
  cases relation <;> exact List.mem_cons_self

/-- The owner of an attribute is the relation or one below it. -/
theorem owner_mem_subrelations (h : reference ∈ relation.attributes) :
    reference.owner ∈ relation.subrelations := by
  induction h using attributeInduction with
  | numbered relation reference hnumbers h =>
    obtain ⟨i, hi⟩ := List.mem_iff_getElem?.1 h
    rw [(index_of_numbersAttributes hnumbers hi).1]
    exact mem_subrelations_self relation
  | renamed label input reference h ih => exact mem_subrelations_self _
  | selected predicate input reference h ih => exact List.mem_cons_of_mem _ ih
  | joinedLeft kind left right condition reference h ih =>
    exact List.mem_cons_of_mem _ (List.mem_append_left _ ih)
  | joinedRight kind left right condition reference h ih =>
    exact List.mem_cons_of_mem _ (List.mem_append_right _ ih)

end Relation

namespace Expression

/-- The nodes of an expression are no larger than the expression. -/
theorem sizeOf_le_of_mem_nodes {expression node : Expression} (h : node ∈ expression.nodes) :
    sizeOf node ≤ sizeOf expression := by
  induction expression using childInduction with
  | step expression ih =>
    rw [nodes_eq_cons] at h
    rcases List.mem_cons.1 h with rfl | h
    · exact Nat.le_refl _
    · obtain ⟨child, hchild, hnode⟩ := List.mem_flatMap.1 h
      have := ih child hchild hnode
      have := sizeOf_lt_of_mem_children hchild
      omega

/-- The owners of the references in an expression are smaller than the expression. -/
theorem sizeOf_owner_lt_of_mem_references {expression : Expression}
    {reference : AttributeReference} (h : reference ∈ expression.references) :
    sizeOf reference.owner < sizeOf expression := by
  obtain ⟨node, hnode, hreference⟩ := List.mem_filterMap.1 h
  have hle := sizeOf_le_of_mem_nodes hnode
  cases node with
  | reference target =>
    obtain rfl : target = reference := Option.some.inj hreference
    obtain ⟨index, name, owner⟩ := target
    simp only [Expression.reference.sizeOf_spec, AttributeReference.mk.sizeOf_spec] at hle
    dsimp only
    omega
  | _ => cases hreference

end Expression

namespace AttributeReference

variable {reference : AttributeReference}

/-- A column that the owner of a reference computes refers to smaller owners only. -/
theorem sizeOf_owner_lt_of_computesColumns {column : Expression} {inner : AttributeReference}
    (hcomputes : reference.owner.computesColumns = true)
    (hcolumn : column ∈ reference.owner.projectedExpressions)
    (hinner : inner ∈ column.references) : sizeOf inner.owner < sizeOf reference.owner := by
  have hlt := Expression.sizeOf_owner_lt_of_mem_references hinner
  exact Nat.lt_trans hlt (Relation.sizeOf_lt_of_mem_projectedExpressions hcomputes hcolumn)

/-- An attribute of the renamed relation has a smaller owner than a reference into the renaming. -/
theorem sizeOf_owner_lt_of_renaming {label : String} {input : Relation}
    {source : AttributeReference} (howner : reference.owner = .renaming label input)
    (hsource : source ∈ input.attributes) : sizeOf source.owner < sizeOf reference.owner := by
  have hle := Relation.sizeOf_owner_le hsource
  rw [howner, Relation.renaming.sizeOf_spec]
  omega

/-- What a reference leads on to is smaller than the reference as an expression. -/
theorem sizeOf_onward_lt {expression : Expression}
    (h : reference.lead? = some (.onward expression)) :
    sizeOf expression < sizeOf (Expression.reference reference) := by
  obtain ⟨hcomputes, hcolumn⟩ | ⟨label, input, source, howner, hlike, rfl⟩ := onward_cases h
  · have hlt := Relation.sizeOf_lt_of_mem_projectedExpressions hcomputes hcolumn
    obtain ⟨index, name, owner⟩ := reference
    simp only [Expression.reference.sizeOf_spec, AttributeReference.mk.sizeOf_spec]
    dsimp only at hlt
    omega
  · have hsource : source ∈ input.attributesLike reference := by simp [hlike]
    obtain ⟨hmem, hlooks⟩ := List.mem_filter.1 hsource
    obtain ⟨hindex, hname⟩ := Bool.and_eq_true_iff.1 hlooks
    have hlt := sizeOf_owner_lt_of_renaming howner hmem
    obtain ⟨index, name, owner⟩ := reference
    obtain ⟨sourceIndex, sourceName, sourceOwner⟩ := source
    -- the two differ in nothing but their owners
    obtain rfl : sourceIndex = index := eq_of_beq hindex
    obtain rfl : sourceName = name := eq_of_beq hname
    simp only [Expression.reference.sizeOf_spec, AttributeReference.mk.sizeOf_spec]
    dsimp only at hlt
    omega

end AttributeReference

/-! ## Typing with bounded depth -/

/-- The type of an expression, unless calls nest deeper than the bound. -/
def Expression.inferWithin (dialect : Dialect) : Nat → Expression → Option DataType
  | 0, _ => none
  | _ + 1, .null => some .null
  | _ + 1, .integer _ => some .integer
  | _ + 1, .text _ => some .text
  | _ + 1, .boolean _ => some .boolean
  | depth + 1, .binary name left right =>
    match dialect.binary? name with
    | some operator => do
      let leftType ← left.inferWithin dialect depth
      let rightType ← right.inferWithin dialect depth
      return Signature.resultType "binary operator" name operator.signatures [leftType, rightType]
    | none => some (.error ("Unknown binary operator '" ++ name ++ "'"))
  | depth + 1, .unary name operand =>
    match dialect.unary? name with
    | some operator => do
      let operandType ← operand.inferWithin dialect depth
      return Signature.resultType "unary operator" name operator.signatures [operandType]
    | none => some (.error ("Unknown unary operator '" ++ name ++ "'"))
  | depth + 1, .call function arguments => do
    let argumentTypes ← arguments.mapM (Expression.inferWithin dialect depth)
    return Signature.resultType "function" function (dialect.functions function) argumentTypes
  | _ + 1, .parameter name => some (.error ("Bind parameter '" ++ name ++ "' has no type"))
  | depth + 1, .named expression _ => expression.inferWithin dialect depth
  | depth + 1, .reference target =>
    match target.error? with
    | some cause => some (.error cause.message)
    | none =>
      match target.lead? with
      | none => some target.missingType
      | some (.settled type) => some type
      | some (.onward expression) => expression.inferWithin dialect depth
  | _ + 1, .error cause => some (.error cause.message)

/-- If every item has an answer, so has the list. -/
theorem mapM_eq_some {α β : Type} {answer : α → Option β} {value : α → β} {items : List α}
    (h : ∀ item ∈ items, answer item = some (value item)) :
    items.mapM answer = some (items.map value) := by
  induction items with
  | nil => rfl
  | cons item rest ih =>
    rw [List.mapM_cons, h item List.mem_cons_self,
      ih fun other hother => h other (List.mem_cons_of_mem _ hother)]
    rfl

/-- The size of an expression bounds the depth of the calls that typing makes. -/
theorem Expression.inferWithin_eq_some (dialect : Dialect) {depth : Nat} {expression : Expression}
    (h : sizeOf expression ≤ depth) :
    expression.inferWithin dialect depth = some (expression.infer dialect) := by
  induction depth generalizing expression with
  | zero => cases expression <;> simp at h
  | succ depth ih =>
    have hchildren : ∀ child ∈ expression.children,
        child.inferWithin dialect depth = some (child.infer dialect) := by
      intro child hchild
      have := sizeOf_lt_of_mem_children hchild
      exact ih (by omega)
    cases expression with
    | binary name left right =>
      have hleft := hchildren left (by simp [children])
      have hright := hchildren right (by simp [children])
      rw [inferWithin, infer]
      cases dialect.binary? name with
      | none => rfl
      | some operator => simp only [hleft, hright]; rfl
    | unary name operand =>
      have hoperand := hchildren operand (by simp [children])
      rw [inferWithin, infer]
      cases dialect.unary? name with
      | none => rfl
      | some operator => simp only [hoperand]; rfl
    | call function arguments =>
      have harguments : arguments.mapM (inferWithin dialect depth) =
          some (arguments.map (infer dialect)) := mapM_eq_some hchildren
      rw [inferWithin, infer, harguments]
      rfl
    | named inner name =>
      rw [inferWithin, infer]
      exact hchildren inner (by simp [children])
    | reference target =>
      rw [inferWithin, infer, AttributeReference.infer_eq_attributeType?]
      cases target.error? with
      | some cause => rfl
      | none =>
        rw [AttributeReference.attributeType?]
        cases hlead : target.lead? with
        | none => rfl
        | some lead =>
          cases lead with
          | settled type => rfl
          | onward expression =>
            have := AttributeReference.sizeOf_onward_lt hlead
            exact ih (by omega)
    | _ => rw [inferWithin, infer]

/-- Typing ends on every expression, with calls no deeper than its size. A reference into a
projection or a group leads on to a column all of whose references have smaller owners. A reference
into a renaming leads on to an attribute that the renamed relation or one below it owns, and so has
a smaller owner, too. No other reference leads on. -/
theorem typing_terminates :
    (∀ (dialect : Dialect) (expression : Expression) (spare : Nat),
      expression.inferWithin dialect (sizeOf expression + spare) =
        some (expression.infer dialect)) ∧
      ∀ (reference : AttributeReference) (expression : Expression),
        reference.lead? = some (.onward expression) →
          (reference.owner.computesColumns = true ∧
              expression ∈ reference.owner.projectedExpressions ∧
              ∀ inner ∈ expression.references, sizeOf inner.owner < sizeOf reference.owner) ∨
            ∃ label input source, reference.owner = .renaming label input ∧
              expression = .reference source ∧ source ∈ input.attributes ∧
              source.owner ∈ input.subrelations ∧
              sizeOf source.owner < sizeOf reference.owner := by
  refine ⟨fun dialect expression spare => ?_, fun reference expression hlead => ?_⟩
  · exact expression.inferWithin_eq_some dialect (Nat.le_add_right _ spare)
  · obtain ⟨hcomputes, hcolumn⟩ | ⟨label, input, source, howner, hlike, hsource⟩ :=
      AttributeReference.onward_cases hlead
    · exact .inl ⟨hcomputes, hcolumn, fun inner hinner =>
        AttributeReference.sizeOf_owner_lt_of_computesColumns hcomputes hcolumn hinner⟩
    · have hmem : source ∈ input.attributesLike reference := by simp [hlike]
      have hmem : source ∈ input.attributes := (List.mem_filter.1 hmem).1
      exact .inr ⟨label, input, source, howner, hsource, hmem,
        Relation.owner_mem_subrelations hmem,
        AttributeReference.sizeOf_owner_lt_of_renaming howner hmem⟩

/-- A reference made by hand leads into the projection of places under whatever name, and one into
the renamed join leads below it; both owners there are smaller. -/
theorem typing_terminates_places :
    AttributeReference.lead? ⟨.concrete 0, some "nowhere", Sample.places⟩ =
        some (.onward (.reference ⟨.concrete 2, some "city", .table Sample.contacts⟩)) ∧
      sizeOf (Relation.table Sample.contacts) < sizeOf Sample.places ∧
      AttributeReference.lead? ⟨.concrete 1, some "name", Sample.renamedJoin⟩ =
        some (.onward (.reference ⟨.concrete 1, some "name", .table Sample.events⟩)) ∧
      sizeOf (Relation.table Sample.events) < sizeOf Sample.renamedJoin := by
  have hplace : AttributeReference.lead? ⟨.concrete 0, some "nowhere", Sample.places⟩ =
      some (.onward (.reference ⟨.concrete 2, some "city", .table Sample.contacts⟩)) := rfl
  have hname : AttributeReference.lead? ⟨.concrete 1, some "name", Sample.renamedJoin⟩ =
      some (.onward (.reference ⟨.concrete 1, some "name", .table Sample.events⟩)) := rfl
  refine ⟨hplace, ?_, hname, ?_⟩
  · obtain ⟨-, -, hinner⟩ | ⟨label, input, source, howner, -⟩ :=
      typing_terminates.2 _ _ hplace
    · exact hinner ⟨.concrete 2, some "city", .table Sample.contacts⟩
        (List.mem_singleton_self _)
    · cases howner
  · obtain ⟨hcomputes, -⟩ | ⟨label, input, source, -, hsource, -, -, hlt⟩ :=
      typing_terminates.2 _ _ hname
    · cases hcomputes
    · obtain rfl := Expression.reference.inj hsource
      exact hlt

end QueryAlgebra

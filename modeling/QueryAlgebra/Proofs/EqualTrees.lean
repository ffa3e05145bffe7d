import Mathlib.Data.List.Forall2
import QueryAlgebra.Proofs.NodeErrors

/-!
# Equal trees

Equality of trees compares the types of table columns only up to the reasons of error types, so
equal trees need not be identical. What equal expressions say about attributes is the same: equal
relations have the same description, and equal expressions have the same errors. So an expression
that is dropped as a repetition has its errors reported by the one that is kept.
-/

namespace QueryAlgebra

/-- Equal tables have the same qualified name. -/
theorem Table.toQualifiedName_of_beq {table table' : Table} (h : table == table') :
    table.toQualifiedName = table'.toQualifiedName :=
  eq_of_beq (Bool.and_eq_true_iff.1 h).1

/-- Equal relations are described by the same words. -/
theorem Relation.description_of_beq {relation relation' : Relation} (h : relation == relation') :
    relation.description = relation'.description := by
  cases relation with
  | table base =>
    cases relation' with
    | table base' => simp [description, qualifiedName?, Table.toQualifiedName_of_beq h]
    | _ => cases h
  | «renaming» name input =>
    cases relation' with
    | «renaming» name' input' =>
      have hname : name = name' := eq_of_beq (Bool.and_eq_true_iff.1 h).1
      simp [description, qualifiedName?, hname]
    | _ => cases h
  -- no other kind has a name, and relations of different kinds are not equal
  | _ => cases relation' <;> first | rfl | cases h

/-- Equal references stand for the same error. -/
theorem AttributeReference.error?_of_beq {reference reference' : AttributeReference}
    (h : reference == reference') : reference.error? = reference'.error? := by
  obtain ⟨index, name, owner⟩ := reference
  obtain ⟨index', name', owner'⟩ := reference'
  obtain ⟨h, howner⟩ := Bool.and_eq_true_iff.1 h
  obtain ⟨hindex, hname⟩ := Bool.and_eq_true_iff.1 h
  obtain rfl : index = index' := eq_of_beq hindex
  obtain rfl : name = name' := eq_of_beq hname
  simp only [error?, resolve, Relation.description_of_beq howner]

namespace Expression

/-- Equal lists have equal members in the same places. -/
theorem forall₂_of_beqList {es es' : List Expression} (h : beqList es es') :
    List.Forall₂ (fun e e' => e == e') es es' := by
  induction es generalizing es' with
  | nil =>
    cases es' with
    | nil => exact .nil
    | cons e' es' => cases h
  | cons e es ih =>
    cases es' with
    | nil => cases h
    | cons e' es' =>
      obtain ⟨hhead, htail⟩ := Bool.and_eq_true_iff.1 h
      exact .cons hhead (ih htail)

/-- The roots of equal expressions stand for the same error, and their children are equal. -/
theorem root_of_beq {expression expression' : Expression} (h : expression == expression') :
    expression.attributeError? = expression'.attributeError? ∧
      List.Forall₂ (fun child child' => child == child') expression.children
        expression'.children := by
  cases expression with
  | binary operator left right =>
    cases expression' with
    | binary operator' left' right' =>
      obtain ⟨h, hright⟩ := Bool.and_eq_true_iff.1 h
      obtain ⟨_, hleft⟩ := Bool.and_eq_true_iff.1 h
      exact ⟨rfl, .cons hleft (.cons hright .nil)⟩
    | _ => cases h
  | unary operator operand =>
    cases expression' with
    | unary operator' operand' =>
      obtain ⟨_, hoperand⟩ := Bool.and_eq_true_iff.1 h
      exact ⟨rfl, .cons hoperand .nil⟩
    | _ => cases h
  | call function arguments =>
    cases expression' with
    | call function' arguments' =>
      obtain ⟨_, harguments⟩ := Bool.and_eq_true_iff.1 h
      exact ⟨rfl, forall₂_of_beqList harguments⟩
    | _ => cases h
  | named expression name =>
    cases expression' with
    | named expression' name' =>
      obtain ⟨hexpression, _⟩ := Bool.and_eq_true_iff.1 h
      exact ⟨rfl, .cons hexpression .nil⟩
    | _ => cases h
  | reference target =>
    cases expression' with
    | reference target' => exact ⟨AttributeReference.error?_of_beq h, .nil⟩
    | _ => cases h
  | error cause =>
    cases expression' with
    | error cause' => exact ⟨congrArg some (eq_of_beq h), .nil⟩
    | _ => cases h
  | _ => cases expression' <;> first | exact ⟨rfl, .nil⟩ | cases h

/-- Equal expressions have the same attribute errors. -/
theorem attributeErrors_of_beq {expression expression' : Expression}
    (h : expression == expression') :
    expression.attributeErrors = expression'.attributeErrors := by
  induction expression using childInduction generalizing expression' with
  | step expression ih =>
    obtain ⟨hroot, hchildren⟩ := root_of_beq h
    rw [attributeErrors_root, attributeErrors_root, hroot, List.flatMap_def, List.flatMap_def]
    have hmembers := (List.forall₂_and_left _ _).2 ⟨fun child hchild => hchild, hchildren⟩
    have hlists : List.Forall₂ (· = ·) (expression.children.map attributeErrors)
        (expression'.children.map attributeErrors) := by
      rw [List.forall₂_map_left_iff, List.forall₂_map_right_iff]
      exact hmembers.imp fun child child' hchild => ih child hchild.1 hchild.2
    rw [List.forall₂_eq_eq_eq] at hlists
    rw [hlists]

/-- What equal expressions agree in is found among the distinct ones. -/
theorem exists_mem_distinct {β : Type} {property : Expression → β}
    (hproperty : ∀ e e' : Expression, e == e' → property e = property e') {es : List Expression}
    {e : Expression} (h : e ∈ es) : ∃ kept ∈ distinct es, property kept = property e := by
  induction es with
  | nil => cases h
  | cons first rest ih =>
    rcases List.mem_cons.1 h with rfl | h
    · exact ⟨e, List.mem_cons_self, rfl⟩
    · obtain ⟨kept, hkept, hsame⟩ := ih h
      cases hrepeats : first == kept with
      | true =>
        exact ⟨first, List.mem_cons_self, (hproperty first kept hrepeats).trans hsame⟩
      | false =>
        exact ⟨kept, List.mem_cons_of_mem _ (List.mem_filter.2 ⟨hkept, by simp [hrepeats]⟩), hsame⟩

end Expression

/-- Dropping repetitions within an element loses no attribute error. -/
theorem Grouping.mem_attributeErrors_iff {element : Grouping} {cause : AttributeError} :
    cause ∈ element.expressions.flatMap Expression.attributeErrors ↔
      cause ∈ element.written.flatMap Expression.attributeErrors := by
  rw [List.mem_flatMap, List.mem_flatMap]
  constructor
  · rintro ⟨expression, hexpression, hcause⟩
    exact ⟨expression, Grouping.mem_written hexpression, hcause⟩
  · rintro ⟨expression, hexpression, hcause⟩
    cases element with
    | sets lists =>
      obtain ⟨kept, hkept, hsame⟩ := Expression.exists_mem_distinct
        (fun _ _ => Expression.attributeErrors_of_beq) hexpression
      exact ⟨kept, hkept, hsame ▸ hcause⟩
    | _ => exact ⟨expression, hexpression, hcause⟩

end QueryAlgebra

import QueryAlgebra.Relation

/-!
# Trees without reasons

The reason of an error type is the only part of a tree that equality passes over. With all reasons
erased, equal trees are identical, so equality of trees is an equivalence, and whatever does not
depend on the reasons is the same for equal trees.

Erasing goes through the whole tree: it also reaches the tables behind the references of an
expression.
-/

namespace QueryAlgebra

/-- The type without the reason of an error. -/
def DataType.erased : DataType → DataType
  | .named dialect name => .named dialect name
  | .error _ => .error ""

/-- The column without the reason of an error type. -/
def Column.erased (column : Column) : Column :=
  { column with type := column.type.erased }

/-- The table without the reasons of error types. -/
def Table.erased (table : Table) : Table :=
  { table with columns := table.columns.map Column.erased }

mutual

/-- The expression without the reasons of error types. -/
def Expression.erased : Expression → Expression
  | .null => .null
  | .integer value => .integer value
  | .text value => .text value
  | .boolean value => .boolean value
  | .binary operator left right => .binary operator left.erased right.erased
  | .unary operator operand => .unary operator operand.erased
  | .call function arguments => .call function (Expression.erasedList arguments)
  | .parameter name => .parameter name
  | .named expression name => .named expression.erased name
  | .reference target => .reference target.erased
  | .error cause => .error cause
termination_by structural e => e

/-- The members of a list, erased. -/
def Expression.erasedList : List Expression → List Expression
  | [] => []
  | e :: es => e.erased :: Expression.erasedList es
termination_by structural es => es

/-- The lists of a list, erased. -/
def Expression.erasedLists : List (List Expression) → List (List Expression)
  | [] => []
  | es :: ess => Expression.erasedList es :: Expression.erasedLists ess
termination_by structural ess => ess

/-- The expression, erased, if there is one. -/
def Expression.erasedOption : Option Expression → Option Expression
  | none => none
  | some e => some e.erased
termination_by structural e => e

/-- The reference without the reasons of error types in its owner. -/
def AttributeReference.erased : AttributeReference → AttributeReference
  | ⟨index, name, owner⟩ => ⟨index, name, owner.erased⟩
termination_by structural reference => reference

/-- The grouping element without the reasons of error types. -/
def Grouping.erased : Grouping → Grouping
  | .single expression => .single expression.erased
  | .sets lists => .sets (Expression.erasedLists lists)
  | .cube expressions => .cube (Expression.erasedList expressions)
  | .rollup expressions => .rollup (Expression.erasedList expressions)
termination_by structural element => element

/-- The elements of a list, erased. -/
def Grouping.erasedList : List Grouping → List Grouping
  | [] => []
  | element :: elements => element.erased :: Grouping.erasedList elements
termination_by structural elements => elements

/-- The relation without the reasons of error types. -/
def Relation.erased : Relation → Relation
  | .none => .none
  | .table base => .table base.erased
  | .projection columns input => .projection (Expression.erasedList columns) input.erased
  | .selection predicate input => .selection predicate.erased input.erased
  | .renaming name input => .renaming name input.erased
  | .join kind left right condition =>
    .join kind left.erased right.erased (Expression.erasedOption condition)
  | .group grouping aggregates input =>
    .group (Grouping.erasedList grouping) (Expression.erasedList aggregates) input.erased
  | .error input cause => .error input.erased cause
termination_by structural relation => relation

end

/-! ## Erasing member by member -/

/-- The expressions of a list are erased one by one. -/
@[simp] theorem Expression.erasedList_eq_map (es : List Expression) :
    erasedList es = es.map erased := by
  induction es with
  | nil => rfl
  | cons e es ih => simp [erasedList, ih]

/-- The lists of a list are erased one by one. -/
@[simp] theorem Expression.erasedLists_eq_map (ess : List (List Expression)) :
    erasedLists ess = ess.map (List.map erased) := by
  induction ess with
  | nil => rfl
  | cons es ess ih => simp [erasedLists, ih]

/-- An optional expression is erased if it is there. -/
@[simp] theorem Expression.erasedOption_eq_map (e : Option Expression) :
    erasedOption e = e.map erased := by
  cases e <;> rfl

/-- The elements of a list are erased one by one. -/
@[simp] theorem Grouping.erasedList_eq_map (elements : List Grouping) :
    erasedList elements = elements.map erased := by
  induction elements with
  | nil => rfl
  | cons element elements ih => simp [erasedList, ih]

/-! ## Equality is identity of what is erased -/

/-- Lists are equal when the images of their members are identical, if this holds of members. -/
theorem list_beq_iff_map {α β : Type} [BEq α] {f : α → β}
    (h : ∀ {a b : α}, a == b ↔ f a = f b) {as bs : List α} : as == bs ↔ as.map f = bs.map f := by
  induction as generalizing bs with
  | nil => cases bs <;> simp
  | cons a as ih =>
    cases bs with
    | nil => simp
    | cons b bs => simp [h, ih]

/-- Types are equal when they are identical up to the reasons. -/
theorem DataType.beq_iff_erased {type type' : DataType} :
    type == type' ↔ type.erased = type'.erased := by
  cases type <;> cases type' <;> simp [beq_iff, erased, DataType.dialect, DataType.name, isError]

/-- Columns are equal when they are identical up to the reasons. -/
theorem Column.beq_iff_erased {column column' : Column} :
    column == column' ↔ column.erased = column'.erased := by
  obtain ⟨name, type⟩ := column
  obtain ⟨name', type'⟩ := column'
  change (name == name' && type == type') = true ↔ _
  simp [erased, DataType.beq_iff_erased]

/-- Tables are equal when they are identical up to the reasons. -/
theorem Table.beq_iff_erased {table table' : Table} :
    table == table' ↔ table.erased = table'.erased := by
  obtain ⟨name, columns⟩ := table
  obtain ⟨name', columns'⟩ := table'
  change (name == name' && columns == columns') = true ↔ _
  rw [Bool.and_eq_true_iff, list_beq_iff_map Column.beq_iff_erased]
  simp [erased]

mutual

/-- The walk over two expressions finds them equal when they are identical up to the reasons. -/
theorem Expression.beq_erased (e e' : Expression) : e.beq e' = true ↔ e.erased = e'.erased := by
  cases e with
  | binary operator left right =>
    cases e' <;>
      simp [Expression.beq, Expression.erased, Expression.beq_erased left,
        Expression.beq_erased right, and_assoc]
  | unary operator operand =>
    cases e' <;> simp [Expression.beq, Expression.erased, Expression.beq_erased operand]
  | call function arguments =>
    cases e' <;> simp [Expression.beq, Expression.erased, Expression.beqList_erased arguments]
  | named expression name =>
    cases e' <;> simp [Expression.beq, Expression.erased, Expression.beq_erased expression]
  | reference target =>
    cases e' <;> simp [Expression.beq, Expression.erased, AttributeReference.beq_erased target]
  | _ => cases e' <;> simp [Expression.beq, Expression.erased]
termination_by structural e

/-- The walk over two lists finds them equal when their members are identical up to the reasons. -/
theorem Expression.beqList_erased (es es' : List Expression) :
    Expression.beqList es es' = true ↔ es.map Expression.erased = es'.map Expression.erased := by
  cases es with
  | nil => cases es' <;> simp [Expression.beqList]
  | cons e es =>
    cases es' <;>
      simp [Expression.beqList, Expression.beq_erased e, Expression.beqList_erased es]
termination_by structural es

/-- The walk over two lists of lists finds them equal when all members are identical up to the
reasons. -/
theorem Expression.beqLists_erased (ess ess' : List (List Expression)) :
    Expression.beqLists ess ess' = true ↔
      ess.map (List.map Expression.erased) = ess'.map (List.map Expression.erased) := by
  cases ess with
  | nil => cases ess' <;> simp [Expression.beqLists]
  | cons es ess =>
    cases ess' <;>
      simp [Expression.beqLists, Expression.beqList_erased es, Expression.beqLists_erased ess]
termination_by structural ess

/-- Optional expressions are found equal when they are identical up to the reasons. -/
theorem Expression.beqOption_erased (e e' : Option Expression) :
    Expression.beqOption e e' = true ↔ e.map Expression.erased = e'.map Expression.erased := by
  cases e with
  | none => cases e' <;> simp [Expression.beqOption]
  | some e => cases e' <;> simp [Expression.beqOption, Expression.beq_erased e]
termination_by structural e

/-- References are found equal when they are identical up to the reasons. -/
theorem AttributeReference.beq_erased (reference reference' : AttributeReference) :
    reference.beq reference' = true ↔ reference.erased = reference'.erased := by
  obtain ⟨index, name, owner⟩ := reference
  obtain ⟨index', name', owner'⟩ := reference'
  simp [AttributeReference.beq, AttributeReference.erased, Relation.beq_erased owner, and_assoc]
termination_by structural reference

/-- Grouping elements are found equal when they are identical up to the reasons. -/
theorem Grouping.beq_erased (element element' : Grouping) :
    element.beq element' = true ↔ element.erased = element'.erased := by
  cases element with
  | single expression =>
    cases element' <;> simp [Grouping.beq, Grouping.erased, Expression.beq_erased expression]
  | sets lists =>
    cases element' <;> simp [Grouping.beq, Grouping.erased, Expression.beqLists_erased lists]
  | cube expressions =>
    cases element' <;> simp [Grouping.beq, Grouping.erased, Expression.beqList_erased expressions]
  | rollup expressions =>
    cases element' <;> simp [Grouping.beq, Grouping.erased, Expression.beqList_erased expressions]
termination_by structural element

/-- The walk over two lists of grouping elements finds them equal when their members are identical
up to the reasons. -/
theorem Grouping.beqList_erased (elements elements' : List Grouping) :
    Grouping.beqList elements elements' = true ↔
      elements.map Grouping.erased = elements'.map Grouping.erased := by
  cases elements with
  | nil => cases elements' <;> simp [Grouping.beqList]
  | cons element elements =>
    cases elements' <;>
      simp [Grouping.beqList, Grouping.beq_erased element, Grouping.beqList_erased elements]
termination_by structural elements

/-- The walk over two relations finds them equal when they are identical up to the reasons. -/
theorem Relation.beq_erased (relation relation' : Relation) :
    relation.beq relation' = true ↔ relation.erased = relation'.erased := by
  cases relation with
  | none => cases relation' <;> simp [Relation.beq, Relation.erased]
  | table base => cases relation' <;> simp [Relation.beq, Relation.erased, Table.beq_iff_erased]
  | projection columns input =>
    cases relation' <;>
      simp [Relation.beq, Relation.erased, Expression.beqList_erased columns,
        Relation.beq_erased input]
  | selection predicate input =>
    cases relation' <;>
      simp [Relation.beq, Relation.erased, Expression.beq_erased predicate,
        Relation.beq_erased input]
  | «renaming» name input =>
    cases relation' <;> simp [Relation.beq, Relation.erased, Relation.beq_erased input]
  | join kind left right condition =>
    cases relation' <;>
      simp [Relation.beq, Relation.erased, Relation.beq_erased left, Relation.beq_erased right,
        Expression.beqOption_erased condition, and_assoc]
  | group grouping aggregates input =>
    cases relation' <;>
      simp [Relation.beq, Relation.erased, Grouping.beqList_erased grouping,
        Expression.beqList_erased aggregates, Relation.beq_erased input, and_assoc]
  | error input cause =>
    cases relation' <;> simp [Relation.beq, Relation.erased, Relation.beq_erased input]
termination_by structural relation

end

/-- Expressions are equal when they are identical up to the reasons. -/
theorem Expression.beq_iff_erased {e e' : Expression} : e == e' ↔ e.erased = e'.erased :=
  beq_erased e e'

/-- References are equal when they are identical up to the reasons. -/
theorem AttributeReference.beq_iff_erased {reference reference' : AttributeReference} :
    reference == reference' ↔ reference.erased = reference'.erased :=
  beq_erased reference reference'

/-- Relations are equal when they are identical up to the reasons. -/
theorem Relation.beq_iff_erased {relation relation' : Relation} :
    relation == relation' ↔ relation.erased = relation'.erased :=
  beq_erased relation relation'

/-! ## Erasing again -/

/-- A table that is erased has nothing left to erase. -/
@[simp] theorem Table.erased_erased (table : Table) : table.erased.erased = table.erased := by
  have hcolumn : Column.erased ∘ Column.erased = Column.erased := by
    funext column
    obtain ⟨name, type⟩ := column
    cases type <;> rfl
  simp [erased, hcolumn]

mutual

/-- An expression that is erased has nothing left to erase. -/
theorem Expression.erased_erased (e : Expression) : e.erased.erased = e.erased := by
  cases e with
  | binary operator left right =>
    simp [Expression.erased, Expression.erased_erased left, Expression.erased_erased right]
  | unary operator operand => simp [Expression.erased, Expression.erased_erased operand]
  | call function arguments =>
    simpa [Expression.erased] using Expression.erased_erased_mem arguments
  | named expression name => simp [Expression.erased, Expression.erased_erased expression]
  | reference target => simp [Expression.erased, AttributeReference.erased_erased target]
  | _ => rfl
termination_by structural e

/-- The members of a list have nothing left to erase. -/
theorem Expression.erased_erased_mem (es : List Expression) :
    ∀ e ∈ es, e.erased.erased = e.erased := by
  cases es with
  | nil => simp
  | cons e es => simpa [Expression.erased_erased e] using Expression.erased_erased_mem es
termination_by structural es

/-- The members of the lists of a list have nothing left to erase. -/
theorem Expression.erased_erased_mem_mem (ess : List (List Expression)) :
    ∀ es ∈ ess, ∀ e ∈ es, e.erased.erased = e.erased := by
  cases ess with
  | nil => simp
  | cons es ess =>
    rw [List.forall_mem_cons]
    exact ⟨Expression.erased_erased_mem es, Expression.erased_erased_mem_mem ess⟩
termination_by structural ess

/-- An optional expression has nothing left to erase. -/
theorem Expression.erased_erased_option (e : Option Expression) :
    (e.map Expression.erased).map Expression.erased = e.map Expression.erased := by
  cases e with
  | none => rfl
  | some e => simp [Expression.erased_erased e]
termination_by structural e

/-- A reference that is erased has nothing left to erase. -/
theorem AttributeReference.erased_erased (reference : AttributeReference) :
    reference.erased.erased = reference.erased := by
  obtain ⟨index, name, owner⟩ := reference
  simp [AttributeReference.erased, Relation.erased_erased owner]
termination_by structural reference

/-- A grouping element that is erased has nothing left to erase. -/
theorem Grouping.erased_erased (element : Grouping) : element.erased.erased = element.erased := by
  cases element with
  | single expression => simp [Grouping.erased, Expression.erased_erased expression]
  | sets lists => simpa [Grouping.erased] using Expression.erased_erased_mem_mem lists
  | cube expressions => simpa [Grouping.erased] using Expression.erased_erased_mem expressions
  | rollup expressions => simpa [Grouping.erased] using Expression.erased_erased_mem expressions
termination_by structural element

/-- The grouping elements of a list have nothing left to erase. -/
theorem Grouping.erased_erased_mem (elements : List Grouping) :
    ∀ element ∈ elements, element.erased.erased = element.erased := by
  cases elements with
  | nil => simp
  | cons element elements =>
    simpa [Grouping.erased_erased element] using Grouping.erased_erased_mem elements
termination_by structural elements

/-- A relation that is erased has nothing left to erase. -/
theorem Relation.erased_erased (relation : Relation) :
    relation.erased.erased = relation.erased := by
  cases relation with
  | none => rfl
  | table base => simp [Relation.erased]
  | projection columns input =>
    simpa [Relation.erased, Relation.erased_erased input] using
      Expression.erased_erased_mem columns
  | selection predicate input =>
    simp [Relation.erased, Relation.erased_erased input, Expression.erased_erased predicate]
  | «renaming» name input => simp [Relation.erased, Relation.erased_erased input]
  | join kind left right condition =>
    simpa [Relation.erased, Relation.erased_erased left, Relation.erased_erased right] using
      Expression.erased_erased_option condition
  | group grouping aggregates input =>
    simpa [Relation.erased, Relation.erased_erased input] using
      ⟨Grouping.erased_erased_mem grouping, Expression.erased_erased_mem aggregates⟩
  | error input cause => simp [Relation.erased, Relation.erased_erased input]
termination_by structural relation

end

/-! ## Equality is an equivalence -/

/-- Equality that is identity of images is an equivalence. -/
theorem equivBEq_of_iff {α β : Type} [BEq α] {f : α → β} (h : ∀ {a b : α}, a == b ↔ f a = f b) :
    EquivBEq α where
  rfl := h.2 rfl
  symm hab := h.2 (h.1 hab).symm
  trans hab hbc := h.2 ((h.1 hab).trans (h.1 hbc))

instance : EquivBEq Table := equivBEq_of_iff Table.beq_iff_erased

instance : EquivBEq Expression := equivBEq_of_iff Expression.beq_iff_erased

instance : EquivBEq AttributeReference := equivBEq_of_iff AttributeReference.beq_iff_erased

instance : EquivBEq Relation := equivBEq_of_iff Relation.beq_iff_erased

end QueryAlgebra

import QueryAlgebra.Dialect
import QueryAlgebra.Relation
import QueryAlgebra.Text.Quoted

/-!
# Typing

The type of an expression under a dialect. Operators and functions are typed by the first signature
that accepts the types of the arguments, and an attribute by the expression that computes it in its
owner. An expression without a type has an error type, which says why.

A reference leads to an expression inside its owner, or, for a renaming, to an attribute of the
renamed relation, whose owner is smaller still. This is why the search for a type ends.
-/

namespace QueryAlgebra

/-- The result of the first signature that accepts the arguments, or an error that names what was
applied. -/
def Signature.resultType (kind name : String) (signatures : List Signature)
    (arguments : List DataType) : DataType :=
  match Signature.resolve? signatures arguments with
  | some result => result
  | none =>
    .error ("No signature of " ++ kind ++ " '" ++ name ++ "' accepts [" ++
      ", ".intercalate (arguments.map DataType.display) ++ "]")

/-- The attributes of the relation that agree with the reference in index and name. -/
def Relation.attributesLike (relation : Relation) (reference : AttributeReference) :
    List AttributeReference :=
  relation.attributes.filter fun candidate =>
    candidate.index == reference.index && candidate.name == reference.name

/-- Expressions written in a grouping element are smaller than the element. -/
theorem Grouping.sizeOf_lt_of_mem_expressions {element : Grouping} {expression : Expression}
    (h : expression ∈ element.expressions) : sizeOf expression < sizeOf element := by
  cases element with
  | single e =>
    obtain rfl := List.mem_singleton.1 h
    simp only [Grouping.single.sizeOf_spec]
    omega
  | sets lists =>
    obtain ⟨es, hes, he⟩ := List.mem_flatten.1 ((Expression.distinct_sublist _).subset h)
    have := List.sizeOf_lt_of_mem hes
    have := List.sizeOf_lt_of_mem he
    simp only [Grouping.sets.sizeOf_spec]
    omega
  | cube es =>
    change expression ∈ es at h
    have := List.sizeOf_lt_of_mem h
    simp only [Grouping.cube.sizeOf_spec]
    omega
  | rollup es =>
    change expression ∈ es at h
    have := List.sizeOf_lt_of_mem h
    simp only [Grouping.rollup.sizeOf_spec]
    omega

/-- Expressions that compute the columns of a group are smaller than the group. -/
theorem Grouping.sizeOf_lt_of_mem_columns {grouping : List Grouping} {aggregates : List Expression}
    {expression : Expression} (h : expression ∈ Grouping.columns grouping aggregates) :
    sizeOf expression < sizeOf grouping + sizeOf aggregates := by
  rcases List.mem_append.1 h with h | h
  · obtain ⟨element, helement, he⟩ :=
      List.mem_flatMap.1 ((Expression.distinct_sublist _).subset h)
    have := List.sizeOf_lt_of_mem helement
    have := Grouping.sizeOf_lt_of_mem_expressions he
    omega
  · have := List.sizeOf_lt_of_mem h
    omega

mutual

/-- The type of an expression. -/
def Expression.infer (dialect : Dialect) : Expression → DataType
  | .null => .null
  | .integer _ => .integer
  | .text _ => .text
  | .boolean _ => .boolean
  | .binary name left right =>
    match dialect.binary? name with
    | some operator =>
      Signature.resultType "binary operator" name operator.signatures
        [left.infer dialect, right.infer dialect]
    | none => .error ("Unknown binary operator '" ++ name ++ "'")
  | .unary name operand =>
    match dialect.unary? name with
    | some operator =>
      Signature.resultType "unary operator" name operator.signatures [operand.infer dialect]
    | none => .error ("Unknown unary operator '" ++ name ++ "'")
  | .call function arguments =>
    Signature.resultType "function" function (dialect.functions function)
      (arguments.map fun argument => argument.infer dialect)
  | .parameter name => .error ("Bind parameter '" ++ name ++ "' has no type")
  | .named expression _ => expression.infer dialect
  | .reference target => target.infer dialect
  | .error cause => .error cause.message
termination_by expression => sizeOf expression
decreasing_by
  · simp only [Expression.binary.sizeOf_spec]
    omega
  · simp only [Expression.binary.sizeOf_spec]
    omega
  · simp only [Expression.unary.sizeOf_spec]
    omega
  · rename_i hargument
    have := List.sizeOf_lt_of_mem hargument
    simp only [Expression.call.sizeOf_spec]
    omega
  · simp only [Expression.named.sizeOf_spec]
    omega
  · obtain ⟨index, name, owner⟩ := target
    simp only [Expression.reference.sizeOf_spec, AttributeReference.mk.sizeOf_spec]
    omega

/-- The type of the attribute that a reference leads to. -/
def AttributeReference.infer (dialect : Dialect) (reference : AttributeReference) : DataType :=
  let missing := DataType.error ("Cannot resolve attribute " ++ reference.display)
  match reference.resolve with
  | .error cause => .error cause.message
  | .ok (position, _) =>
    match _howner : reference.owner with
    | .table base => (base.columns[position]?).elim missing Column.type
    | .projection columns _ =>
      match _hcolumn : columns[position]? with
      | some expression => expression.infer dialect
      | none => missing
    | .group grouping aggregates _ =>
      match _hcolumn : (Grouping.columns grouping aggregates)[position]? with
      | some expression => expression.infer dialect
      | none => missing
    | .renaming _ input =>
      match _hsources : input.attributesLike reference with
      | [] => missing
      | [source] => source.infer dialect
      | _ => .error ("Attribute " ++ reference.display ++ " is ambiguous through rename")
    | _ => missing
termination_by sizeOf reference.owner
decreasing_by
  · have := List.sizeOf_lt_of_mem (List.mem_of_getElem? _hcolumn)
    simp only [_howner, Relation.projection.sizeOf_spec]
    omega
  · have := Grouping.sizeOf_lt_of_mem_columns (List.mem_of_getElem? _hcolumn)
    simp only [_howner, Relation.group.sizeOf_spec]
    omega
  · have hsource : source ∈ input.attributesLike reference := by simp [_hsources]
    have := Relation.sizeOf_owner_le (List.mem_filter.1 hsource).1
    simp only [_howner, Relation.renaming.sizeOf_spec]
    omega

end

/-- The type inference for a dialect as it is shown to a developer. -/
def Dialect.inspectorLabel (dialect : Dialect) : String :=
  "TypeInspector \x7b dialect: " ++ Text.quoted dialect.name ++ " \x7d"

end QueryAlgebra

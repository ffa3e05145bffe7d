import QueryAlgebra.Proofs.TypingDescent

/-!
# Where a reference leads

A reference with a position is typed by what its owner has there. A table settles the type, and so
does a renaming of several attributes that look alike, by an error. A projection, a group and a
renaming of a single attribute lead on to an expression that has yet to be typed. Elsewhere the
reference leads nowhere.

A reference that leads nowhere is not yet a type: only the last step of typing makes an error of it.
-/

namespace QueryAlgebra

/-- What a reference leads to: a type that is settled, or an expression to be typed. -/
inductive Lead where
  | settled (type : DataType)
  | onward (expression : Expression)

/-- The type at the end of a lead. -/
def Lead.infer (dialect : Dialect) : Lead → DataType
  | .settled type => type
  | .onward expression => expression.infer dialect

namespace AttributeReference

/-- What the reference leads to, if its owner has anything at its position. -/
def lead? (reference : AttributeReference) : Option Lead :=
  match reference.index with
  | .concrete position =>
    match reference.owner with
    | .table base => (base.columns[position]?).map fun column => .settled column.type
    | .projection columns _ => (columns[position]?).map .onward
    | .group grouping aggregates _ =>
      ((Grouping.columns grouping aggregates)[position]?).map .onward
    | .renaming _ input =>
      match input.attributesLike reference with
      | [] => none
      | [source] => some (.onward (.reference source))
      | _ =>
        some (.settled (.error ("Attribute " ++ reference.display ++
          " is ambiguous through rename")))
    | _ => none
  | _ => none

/-- The type that the reference leads to, if it leads anywhere. -/
def attributeType? (dialect : Dialect) (reference : AttributeReference) : Option DataType :=
  reference.lead?.map (Lead.infer dialect)

/-- A reference into a projection or a group leads on to the column at its position. -/
theorem lead?_of_computesColumns {reference : AttributeReference} {position : Nat}
    (hcomputes : reference.owner.computesColumns = true)
    (hindex : reference.index = .concrete position) :
    reference.lead? = (reference.owner.projectedExpressions[position]?).map .onward := by
  rw [lead?, hindex]
  obtain ⟨index, key, owner⟩ := reference
  cases owner with
  | projection columns input => rfl
  | group grouping aggregates input => rfl
  | _ => cases hcomputes

/-- A reference leads on to a column that its owner computes, or to the one attribute of the renamed
relation that looks like it. -/
theorem onward_cases {reference : AttributeReference} {expression : Expression}
    (h : reference.lead? = some (.onward expression)) :
    (reference.owner.computesColumns = true ∧
        expression ∈ reference.owner.projectedExpressions) ∨
      ∃ label input source, reference.owner = .renaming label input ∧
        input.attributesLike reference = [source] ∧ expression = .reference source := by
  cases hindex : reference.index with
  | concrete position =>
    by_cases hcomputes : reference.owner.computesColumns = true
    · rw [lead?_of_computesColumns hcomputes hindex] at h
      obtain ⟨column, hcolumn, hlead⟩ := Option.map_eq_some_iff.1 h
      obtain rfl := Lead.onward.inj hlead
      exact .inl ⟨hcomputes, List.mem_of_getElem? hcolumn⟩
    · obtain ⟨index, key, owner⟩ := reference
      obtain rfl : index = .concrete position := hindex
      cases owner with
      | table base =>
        obtain ⟨column, -, hlead⟩ := Option.map_eq_some_iff.1 h
        cases hlead
      | «renaming» label input =>
        refine .inr ⟨label, input, ?_⟩
        simp only [lead?] at h
        generalize input.attributesLike _ = sources at h ⊢
        rcases sources with _ | ⟨source, _ | ⟨next, rest⟩⟩
        · cases h
        · exact ⟨source, rfl, rfl, (Lead.onward.inj (Option.some.inj h)).symm⟩
        · cases Option.some.inj h
      | projection columns input => exact absurd rfl hcomputes
      | group grouping aggregates input => exact absurd rfl hcomputes
      | _ => cases h
  | _ =>
    rw [lead?, hindex] at h
    cases h

/-- A reference with an error has that error as its type. Any other has the type that it leads to,
and the type of a missing attribute only if it leads nowhere. -/
theorem infer_eq_attributeType? (dialect : Dialect) (reference : AttributeReference) :
    reference.infer dialect =
      match reference.error? with
      | some cause => .error cause.message
      | none => (reference.attributeType? dialect).getD reference.missingType := by
  rw [infer_eq, error?]
  cases hresolve : reference.resolve with
  | error cause => rfl
  | ok place =>
    obtain ⟨position, name⟩ := place
    have hindex : reference.index = .concrete position := (eq_of_resolve hresolve).1
    simp only [attributeType?, lead?, hindex]
    obtain ⟨index, key, owner⟩ := reference
    cases owner with
    | table base => cases h : base.columns[position]? <;> simp [typeIn, h, Lead.infer]
    | projection columns input => cases h : columns[position]? <;> simp [typeIn, h, Lead.infer]
    | group grouping aggregates input =>
      cases h : (Grouping.columns grouping aggregates)[position]? <;> simp [typeIn, h, Lead.infer]
    | «renaming» label input =>
      simp only [typeIn]
      generalize input.attributesLike _ = sources
      rcases sources with _ | ⟨source, _ | ⟨next, rest⟩⟩
      · rfl
      · simp only [Option.map_some, Option.getD_some, Lead.infer, Expression.infer]
      · rfl
    | _ => rfl

/-- A usable reference has the type that it leads to. -/
theorem infer_eq_of_attributeType? {dialect : Dialect} {reference : AttributeReference}
    {type : DataType} (husable : reference.error? = none)
    (htype : reference.attributeType? dialect = some type) : reference.infer dialect = type := by
  rw [infer_eq_attributeType?, husable, htype]
  rfl

end AttributeReference

end QueryAlgebra

import QueryAlgebra.Proofs.DialectChanges
import QueryAlgebra.Proofs.OverloadResolution
import QueryAlgebra.Proofs.TreeInduction

/-!
# Strict typing

A parameter that is neither the wildcard nor an error type accepts no argument of an error type. In
a dialect all of whose parameters are such, an expression that has a type has only nodes that have
one. The standard dialect is of this kind, and so is every dialect whose definition does not bring
in the wildcard: a type that is written by its name is never an error type.
-/

namespace QueryAlgebra

/-- A type that is named is no error type. -/
theorem DataType.isError_ofCanonical (name : String) : (ofCanonical name).isError = false := by
  unfold ofCanonical
  cases h : builtins.lookup name with
  | none => rfl
  | some type =>
    exact (by decide : ∀ entry ∈ builtins, entry.2.isError = false) _ (mem_of_lookup h)

/-- A type that is read from its name is no error type. -/
theorem DataType.isError_parse (name : String) : (parse name).isError = false := by
  simp only [parse]
  split <;> exact isError_ofCanonical _

/-- No parameter of the signature accepts an error type. -/
def Signature.Strict (signature : Signature) : Prop :=
  ∀ parameter ∈ signature.parameters, parameter.isAny = false ∧ parameter.isError = false

instance (signature : Signature) : Decidable signature.Strict :=
  inferInstanceAs (Decidable (∀ parameter ∈ signature.parameters, _ ∧ _))

/-- The arguments that a strict signature accepts have types. -/
theorem Signature.Strict.isError_eq_false {signature : Signature} (h : signature.Strict)
    {arguments : List DataType} (haccepts : signature.accepts arguments) :
    ∀ argument ∈ arguments, argument.isError = false := by
  intro argument hargument
  obtain ⟨harity, hpositions⟩ := accepts_iff_fits.1 haccepts
  obtain ⟨i, hi, rfl⟩ := List.mem_iff_getElem.1 hargument
  have hi' : i < signature.parameters.length := harity ▸ hi
  have hstrict := h _ (List.getElem_mem hi')
  have hfits := hpositions i _ _ (List.getElem?_eq_getElem hi') (List.getElem?_eq_getElem hi)
  rcases hfits with hany | hequal
  · exact absurd hany (Bool.eq_false_iff.1 hstrict.1)
  · rw [← (DataType.beq_iff.1 hequal).2.2]
    exact hstrict.2

/-- No signature of the dialect accepts an error type. -/
structure Dialect.Strict (dialect : Dialect) : Prop where
  binary : ∀ name operator, dialect.binary? name = some operator →
    ∀ signature ∈ operator.signatures, signature.Strict
  unary : ∀ name operator, dialect.unary? name = some operator →
    ∀ signature ∈ operator.signatures, signature.Strict
  functions : ∀ name, ∀ signature ∈ dialect.functions name, signature.Strict

/-- An operator that a table of strict operators has is strict. -/
theorem OperatorTable.strict_of_find? {table : OperatorTable}
    (h : ∀ entry ∈ table, ∀ signature ∈ entry.2.signatures, signature.Strict) {name : String}
    {operator : Operator} (hfind : table.find? name = some operator) :
    ∀ signature ∈ operator.signatures, signature.Strict :=
  h _ (mem_of_find? hfind)

/-- The standard binary operators are strict. -/
theorem OperatorTable.standardBinary_strict {name : String} {operator : Operator}
    (h : standardBinary.find? name = some operator) :
    ∀ signature ∈ operator.signatures, signature.Strict :=
  strict_of_find? (by decide) h

/-- The standard unary operators are strict. -/
theorem OperatorTable.standardUnary_strict {name : String} {operator : Operator}
    (h : standardUnary.find? name = some operator) :
    ∀ signature ∈ operator.signatures, signature.Strict :=
  strict_of_find? (by decide) h

/-- The standard dialect is strict. -/
theorem Dialect.standard_strict : Dialect.standard.Strict where
  binary _ _ h := OperatorTable.standardBinary_strict h
  unary _ _ h := OperatorTable.standardUnary_strict h
  functions name signature h := by simp [Dialect.standard] at h

/-! ## Definitions without the wildcard -/

/-- All signatures that the definition writes, of binary and unary operators and of functions. -/
def DialectDefinition.signatureTexts (definition : DialectDefinition) : List SignatureText :=
  (definition.binary.toList ++ definition.unary.toList).flatMap
      (fun entry => entry.2.signatures.getD []) ++
    definition.functions.toList.flatMap Prod.snd

/-- Whether no parameter that the definition writes is the wildcard. -/
def DialectDefinition.AvoidsAny (definition : DialectDefinition) : Prop :=
  ∀ text ∈ definition.signatureTexts, ∀ argument ∈ text.arguments,
    (DataType.parse argument).isAny = false

instance (definition : DialectDefinition) : Decidable definition.AvoidsAny :=
  inferInstanceAs (Decidable (∀ text ∈ definition.signatureTexts, ∀ argument ∈ text.arguments, _))

variable {definition : DialectDefinition} {dialect : Dialect}

/-- Signatures of a definition without the wildcard are strict. -/
theorem DialectDefinition.AvoidsAny.signature_strict (h : definition.AvoidsAny)
    {text : SignatureText} (htext : text ∈ definition.signatureTexts) :
    text.signature.Strict := by
  intro parameter hparameter
  obtain ⟨argument, hargument, rfl⟩ := List.mem_map.1 hparameter
  exact ⟨h text htext argument hargument, DataType.isError_parse argument⟩

/-- A change whose signatures are strict makes a strict operator of a strict one. -/
theorem OperatorChange.strict_of_apply {change : OperatorChange} {name : String} {arity : Nat}
    {current : Option Operator} {operator : Operator}
    (h : change.apply name arity current = .ok operator)
    (htexts : ∀ text ∈ change.signatures.getD [], text.signature.Strict)
    (hcurrent : ∀ previous, current = some previous →
      ∀ signature ∈ previous.signatures, signature.Strict) :
    ∀ signature ∈ operator.signatures, signature.Strict := by
  have hrevise (previous : Operator)
      (hprevious : ∀ signature ∈ previous.signatures, signature.Strict) :
      ∀ signature ∈ (change.revise previous).signatures, signature.Strict := by
    unfold OperatorChange.revise
    cases hsignatures : change.signatures with
    | none => exact hprevious
    | some texts =>
      intro signature hsignature
      obtain ⟨text, htext, rfl⟩ := List.mem_map.1 hsignature
      exact htexts text (by simpa [hsignatures] using htext)
  obtain ⟨previous, hprevious, rfl⟩ | ⟨_, symbol, _, rfl⟩ := OperatorChange.apply_eq_ok h
  · exact hrevise previous (hcurrent previous hprevious)
  · exact hrevise { symbol } (by simp)

/-- A dialect built from a definition without the wildcard is strict. -/
theorem DialectDefinition.AvoidsAny.strict (h : definition.AvoidsAny)
    (hbuild : definition.build = .ok dialect) : dialect.Strict where
  binary := by
    refine DialectDefinition.binary?_of_build (motive := fun _ current => ∀ operator,
      current = some operator → ∀ signature ∈ operator.signatures, signature.Strict) hbuild
      (fun _ _ => OperatorTable.standardBinary_strict) ?_
    rintro name change current operator hmem hcurrent happly _ ⟨⟩
    refine OperatorChange.strict_of_apply happly (fun text htext => ?_) hcurrent
    exact h.signature_strict (List.mem_append_left _ (List.mem_flatMap.2
      ⟨(name, change), List.mem_append_left _ hmem, htext⟩))
  unary := by
    refine DialectDefinition.unary?_of_build (motive := fun _ current => ∀ operator,
      current = some operator → ∀ signature ∈ operator.signatures, signature.Strict) hbuild
      (fun _ _ => OperatorTable.standardUnary_strict) ?_
    rintro name change current operator hmem hcurrent happly _ ⟨⟩
    refine OperatorChange.strict_of_apply happly (fun text htext => ?_) hcurrent
    exact h.signature_strict (List.mem_append_left _ (List.mem_flatMap.2
      ⟨(name, change), List.mem_append_right _ hmem, htext⟩))
  functions := by
    intro name signature hsignature
    obtain ⟨binary, unary, _, _, rfl⟩ := DialectDefinition.exists_of_build hbuild
    obtain ⟨text, htext, rfl⟩ := List.mem_map.1 hsignature
    refine h.signature_strict (List.mem_append_right _ (List.mem_flatMap.2 ?_))
    rw [Std.TreeMap.getD_eq_getD_getElem?] at htext
    cases hfunction : definition.functions[name]? with
    | none => simp [hfunction] at htext
    | some texts =>
      rw [hfunction] at htext
      exact ⟨(name, texts), Std.TreeMap.mem_toList_iff_getElem?_eq_some.2 hfunction, htext⟩

/-- The standard dialect is strict, and so is every dialect that is defined without the wildcard. -/
theorem Dialect.strict_of_avoidsAny
    (h : dialect = .standard ∨
      ∃ definition : DialectDefinition, definition.AvoidsAny ∧ definition.build = .ok dialect) :
    dialect.Strict := by
  obtain rfl | ⟨definition, havoids, hbuild⟩ := h
  · exact standard_strict
  · exact havoids.strict hbuild

/-! ## Error types spread upwards -/

/-- The outcome of strict signatures is a type only if all arguments have types. -/
theorem Signature.isError_of_resultType {kind name : String} {signatures : List Signature}
    (hstrict : ∀ signature ∈ signatures, signature.Strict) {arguments : List DataType}
    (h : (Signature.resultType kind name signatures arguments).isError = false) :
    ∀ argument ∈ arguments, argument.isError = false := by
  unfold Signature.resultType Signature.resolve? at h
  cases hfind : signatures.find? (·.accepts arguments) with
  | none =>
    rw [hfind] at h
    cases h
  | some signature =>
    exact (hstrict signature (List.mem_of_find?_eq_some hfind)).isError_eq_false
      (by simpa using List.find?_some hfind)

/-- In a strict dialect the children of an expression that has a type have types. -/
theorem Expression.isError_infer_child (hstrict : dialect.Strict) {expression child : Expression}
    (hchild : child ∈ expression.children) (h : (expression.infer dialect).isError = false) :
    (child.infer dialect).isError = false := by
  cases expression with
  | binary name left right =>
    rw [Expression.infer] at h
    cases hoperator : dialect.binary? name with
    | none => simp [hoperator, DataType.isError] at h
    | some operator =>
      rw [hoperator] at h
      have htypes := Signature.isError_of_resultType (hstrict.binary name operator hoperator) h
      simp only [Expression.children, List.mem_cons, List.not_mem_nil, or_false] at hchild
      rcases hchild with rfl | rfl
      · exact htypes _ (by simp)
      · exact htypes _ (by simp)
  | unary name operand =>
    rw [Expression.infer] at h
    cases hoperator : dialect.unary? name with
    | none => simp [hoperator, DataType.isError] at h
    | some operator =>
      rw [hoperator] at h
      obtain rfl := List.mem_singleton.1 hchild
      exact Signature.isError_of_resultType (hstrict.unary name operator hoperator) h _ (by simp)
  | call function arguments =>
    rw [Expression.infer] at h
    exact Signature.isError_of_resultType (hstrict.functions function) h _
      (List.mem_map_of_mem hchild)
  | named expression name =>
    rw [Expression.infer] at h
    obtain rfl := List.mem_singleton.1 hchild
    exact h
  | _ => simp [Expression.children] at hchild

/-- In a strict dialect all nodes of an expression that has a type have types. -/
theorem Expression.isError_infer_node (hstrict : dialect.Strict) {expression node : Expression}
    (hnode : node ∈ expression.nodes) (h : (expression.infer dialect).isError = false) :
    (node.infer dialect).isError = false := by
  induction expression using Expression.childInduction with
  | step expression ih =>
    rw [Expression.nodes_eq_cons] at hnode
    rcases List.mem_cons.1 hnode with rfl | hbelow
    · exact h
    · obtain ⟨child, hchild, hnode⟩ := List.mem_flatMap.1 hbelow
      exact ih child hchild hnode (Expression.isError_infer_child hstrict hchild h)

end QueryAlgebra

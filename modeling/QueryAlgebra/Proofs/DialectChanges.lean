import QueryAlgebra.Dialect.Definition
import QueryAlgebra.Proofs.KeyIndexing

/-!
# What a definition keeps of the standard operators

A dialect is built by visiting the changes one after the other. Whatever holds of the standard
operators under their names, and is kept by each change that is visited, holds of the operators of
the dialect.
-/

namespace QueryAlgebra

/-- An operator that is found is an entry of the table. -/
theorem OperatorTable.mem_of_find? {table : OperatorTable} {name : String} {operator : Operator}
    (h : table.find? name = some operator) : (name, operator) ∈ table :=
  mem_of_lookup h

/-- A change that succeeds revises the operator of the name, or else a new one with the symbol that
the change gives. -/
theorem OperatorChange.apply_eq_ok {change : OperatorChange} {name : String} {arity : Nat}
    {current : Option Operator} {operator : Operator}
    (h : change.apply name arity current = .ok operator) :
    (∃ previous, current = some previous ∧ operator = change.revise previous) ∨
      (current = none ∧ ∃ symbol, change.symbol = some symbol ∧
        operator = change.revise { symbol }) := by
  unfold OperatorChange.apply at h
  split at h
  · cases h
  · exact .inl ⟨_, rfl, (Except.ok.inj h).symm⟩
  · next hsymbol => exact .inr ⟨rfl, _, hsymbol, (Except.ok.inj h).symm⟩
  · cases h

/-- What holds of every name in a table, and is kept by each of the changes, holds of every name in
the changed table. -/
theorem OperatorTable.find?_change {motive : String → Option Operator → Prop}
    {table result : OperatorTable} {arity : Nat} {changes : List (String × OperatorChange)}
    (h : table.change arity changes = .ok result)
    (hstart : ∀ name, motive name (table.find? name))
    (hstep : ∀ name change current operator, (name, change) ∈ changes → motive name current →
      change.apply name arity current = .ok operator → motive name (some operator)) :
    ∀ name, motive name (result.find? name) := by
  induction changes generalizing table with
  | nil =>
    obtain rfl : table = result := Except.ok.inj h
    exact hstart
  | cons entry rest ih =>
    obtain ⟨name, change⟩ := entry
    rw [OperatorTable.change] at h
    cases hoperator : change.apply name arity (table.find? name) with
    | error fault =>
      rw [hoperator] at h
      cases h
    | ok operator =>
      rw [hoperator] at h
      refine ih h (fun other => ?_) fun other change current operator hmem =>
        hstep other change current operator (List.mem_cons_of_mem _ hmem)
      rw [OperatorTable.find?_insert]
      split
      · next hname =>
        subst hname
        exact hstep _ change _ operator List.mem_cons_self (hstart _) hoperator
      · exact hstart other

namespace DialectDefinition

variable {definition : DialectDefinition} {dialect : Dialect}

/-- A definition that is accepted makes its dialect, whatever stands in for the dialect of one that
is refused. -/
theorem build_eq_getD (haccepted : definition.build.toOption.isSome = true) (other : Dialect) :
    definition.build = .ok (definition.build.toOption.getD other) := by
  cases hbuild : definition.build with
  | error fault =>
    rw [hbuild] at haccepted
    cases haccepted
  | ok dialect => rfl

/-- A dialect that is built looks its operators up in the changed standard tables. -/
theorem exists_of_build (h : definition.build = .ok dialect) :
    ∃ binary unary,
      OperatorTable.standardBinary.change 2 definition.binary.toList = .ok binary ∧
      OperatorTable.standardUnary.change 1 definition.unary.toList = .ok unary ∧
      dialect = {
        name := definition.name
        binary? := binary.find?
        unary? := unary.find?
        functions := fun name =>
          (definition.functions.getD name []).map SignatureText.signature } := by
  unfold build at h
  split at h
  · cases h
  · cases hbinary : OperatorTable.standardBinary.change 2 definition.binary.toList with
    | error fault =>
      rw [hbinary] at h
      cases h
    | ok binary =>
      cases hunary : OperatorTable.standardUnary.change 1 definition.unary.toList with
      | error fault =>
        rw [hbinary, hunary] at h
        cases h
      | ok unary =>
        rw [hbinary, hunary] at h
        exact ⟨binary, unary, rfl, rfl, (Except.ok.inj h).symm⟩

/-- What holds of the standard binary operators and is kept by each change holds of the binary
operators of the dialect. -/
theorem binary?_of_build {motive : String → Option Operator → Prop}
    (h : definition.build = .ok dialect)
    (hstart : ∀ name, motive name (OperatorTable.standardBinary.find? name))
    (hstep : ∀ name change current operator, (name, change) ∈ definition.binary.toList →
      motive name current → change.apply name 2 current = .ok operator →
      motive name (some operator)) (name : String) : motive name (dialect.binary? name) := by
  obtain ⟨binary, unary, hbinary, hunary, rfl⟩ := exists_of_build h
  exact OperatorTable.find?_change hbinary hstart hstep name

/-- What holds of the standard unary operators and is kept by each change holds of the unary
operators of the dialect. -/
theorem unary?_of_build {motive : String → Option Operator → Prop}
    (h : definition.build = .ok dialect)
    (hstart : ∀ name, motive name (OperatorTable.standardUnary.find? name))
    (hstep : ∀ name change current operator, (name, change) ∈ definition.unary.toList →
      motive name current → change.apply name 1 current = .ok operator →
      motive name (some operator)) (name : String) : motive name (dialect.unary? name) := by
  obtain ⟨binary, unary, hbinary, hunary, rfl⟩ := exists_of_build h
  exact OperatorTable.find?_change hunary hstart hstep name

end DialectDefinition

end QueryAlgebra

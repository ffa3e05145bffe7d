import QueryAlgebra.Proofs.DialectChanges
import QueryAlgebra.Proofs.Reader

/-!
# Dialects in standard spelling

A dialect that keeps the standard symbols and adds no binary operators may still assign any
precedences. Its symbols are words, and as no two standard operators share a symbol, each of them is
read back as the operator that it was written for.
-/

namespace QueryAlgebra

/-- Whether a change to the named operator leaves it a standard operator with its symbol. -/
def OperatorChange.keepsSymbol (change : OperatorChange) (name : String) : Bool :=
  (OperatorTable.standardBinary.find? name).any fun operator =>
    change.symbol.getD operator.symbol == operator.symbol

/-- Definitions that add no binary operators and keep the symbols of the standard ones. -/
def DialectDefinition.KeepsSymbols (definition : DialectDefinition) : Prop :=
  ∀ entry ∈ definition.binary.toList, entry.2.keepsSymbol entry.1 = true

instance (definition : DialectDefinition) : Decidable definition.KeepsSymbols :=
  inferInstanceAs (Decidable (∀ entry ∈ definition.binary.toList, _))

/-- Dialects with the standard binary operators, in their standard spelling. -/
def Dialect.SpellsStandard (dialect : Dialect) : Prop :=
  ∀ name, (dialect.binary? name).map (·.symbol) =
    (OperatorTable.standardBinary.find? name).map (·.symbol)

/-- The standard dialect is spelled as itself. -/
theorem Dialect.standard_spellsStandard : Dialect.standard.SpellsStandard := fun _ => rfl

/-- A definition that keeps the symbols makes a dialect in the standard spelling. -/
theorem DialectDefinition.KeepsSymbols.spellsStandard {definition : DialectDefinition}
    {dialect : Dialect} (hkeeps : definition.KeepsSymbols)
    (hbuild : definition.build = .ok dialect) : dialect.SpellsStandard := by
  refine binary?_of_build (motive := fun name operator => operator.map (·.symbol) =
    (OperatorTable.standardBinary.find? name).map (·.symbol)) hbuild (fun _ => rfl) ?_
  intro name change current operator hmem hcurrent happly
  have hkeep := hkeeps _ hmem
  rw [OperatorChange.keepsSymbol, Option.any_eq_true] at hkeep
  obtain ⟨standard, hstandard, hsymbol⟩ := hkeep
  rw [hstandard, Option.map_some] at hcurrent ⊢
  obtain ⟨previous, rfl, rfl⟩ | ⟨rfl, -⟩ := OperatorChange.apply_eq_ok happly
  · have hprevious : previous.symbol = standard.symbol := Option.some.inj hcurrent
    rw [Option.map_some, OperatorChange.revise, hprevious, eq_of_beq hsymbol]
  · cases hcurrent

namespace Dialect.SpellsStandard

variable {dialect : Dialect} (hspells : dialect.SpellsStandard) {name : String}
  {operator : Operator}

include hspells

/-- An operator of the dialect has the symbol of a standard operator of its name. -/
theorem exists_standard (hoperator : dialect.binary? name = some operator) :
    ∃ standard, (name, standard) ∈ OperatorTable.standardBinary ∧
      standard.symbol = operator.symbol := by
  have hsymbol := hspells name
  rw [hoperator, Option.map_some] at hsymbol
  obtain ⟨standard, hstandard, heq⟩ := Option.map_eq_some_iff.1 hsymbol.symm
  exact ⟨standard, OperatorTable.mem_of_find? hstandard, heq⟩

/-- Symbols are looked up as in the standard dialect. -/
theorem operator?_eq (symbol : String) :
    Reader.operator? dialect symbol = Reader.operator? .standard symbol := by
  have hany (operator : Option Operator) : operator.any (·.symbol == symbol) =
      (operator.map (·.symbol)).any (· == symbol) := by
    cases operator <;> rfl
  rw [Reader.operator?, Reader.operator?]
  congr 1
  funext name
  rw [hany, hspells name, hany]
  rfl

/-- The symbol of an operator is read as the operator. -/
theorem operator?_symbol (hoperator : dialect.binary? name = some operator) :
    Reader.operator? dialect operator.symbol = some name := by
  have hstandard : ∀ entry ∈ OperatorTable.standardBinary,
      Reader.operator? .standard entry.2.symbol = some entry.1 := by decide +kernel
  obtain ⟨standard, hmem, hsymbol⟩ := hspells.exists_standard hoperator
  rw [hspells.operator?_eq, ← hsymbol]
  exact hstandard _ hmem

/-- The symbol of an operator is a word. -/
theorem scans_symbol (hoperator : dialect.binary? name = some operator) :
    Reader.Scans operator.symbol [.word operator.symbol] := by
  have hstandard : ∀ entry ∈ OperatorTable.standardBinary,
      entry.2.symbol.toList.all Reader.isWordChar = true ∧ entry.2.symbol.toList ≠ [] := by
    decide +kernel
  obtain ⟨standard, hmem, hsymbol⟩ := hspells.exists_standard hoperator
  rw [← hsymbol]
  obtain ⟨hword, hne⟩ := hstandard _ hmem
  exact Reader.scans_word hword hne

end Dialect.SpellsStandard

end QueryAlgebra

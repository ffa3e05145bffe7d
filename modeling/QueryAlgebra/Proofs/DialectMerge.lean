import Mathlib.Data.List.TakeWhile
import Mathlib.Data.String.Basic
import QueryAlgebra.Proofs.DialectChanges

/-!
# Dialects as merges

The changes of a definition are visited one after the other, each on the table that the ones before
have left. A name is visited once, so each change meets the standard operator of its name, and the
outcome can be told name by name: where nothing is changed, what a changed operator keeps, what a
new one starts from.

A definition is refused for the first change that cannot be made. A change is judged on its own, by
its name and by whether the standard table has an operator of the name.
-/

namespace QueryAlgebra

/-- Nothing is left of a text without the blanks at its ends exactly if it has nothing else. -/
theorem Text.trim_eq_empty_iff (text : String) :
    trim text = "" ↔ ∀ c ∈ text.toList, isBlank c = true := by
  rw [trim, String.ofList_eq_empty_iff, List.reverse_eq_nil_iff, List.dropWhile_eq_nil_iff]
  constructor
  · intro hrest c hmem
    rw [← List.takeWhile_append_dropWhile (p := isBlank) (l := text.toList)] at hmem
    obtain hmem | hmem := List.mem_append.1 hmem
    · exact List.mem_takeWhile_imp hmem
    · exact hrest c (List.mem_reverse.2 hmem)
  · intro hall c hmem
    exact hall c ((List.dropWhile_sublist isBlank).mem (List.mem_reverse.1 hmem))

namespace OperatorChange

variable {change : OperatorChange} {name : String} {arity : Nat} {current : Option Operator}

/-- The listed signatures have as many arguments as the operator takes. -/
def FitsArity (change : OperatorChange) (arity : Nat) : Prop :=
  ∀ text ∈ change.signatures.getD [], text.arguments.length = arity

/-- Whether the change can be made: its signatures have the arity, and there is a symbol for an
operator that is not there yet. -/
def Acceptable (change : OperatorChange) (arity : Nat) (current : Option Operator) : Prop :=
  change.FitsArity arity ∧ (current = none → change.symbol ≠ none)

/-- Why the change cannot be made. The first signature of another arity is reported before a missing
symbol. -/
inductive Offends (change : OperatorChange) (name : String) (arity : Nat)
    (current : Option Operator) : DialectFault → Prop where
  | wrongArity (before : List SignatureText) (text : SignatureText) (behind : List SignatureText)
      (hsignatures : change.signatures = some (before ++ text :: behind))
      (hbefore : ∀ earlier ∈ before, earlier.arguments.length = arity)
      (harity : text.arguments.length ≠ arity) :
      Offends change name arity current (.wrongArity name arity text.arguments.length)
  | missingSymbol (harity : change.FitsArity arity) (hnew : current = none)
      (hsymbol : change.symbol = none) :
      Offends change name arity current (.missingSymbol name)

/-- There is no fault in the signatures exactly if they have the arity. -/
theorem arityFault?_eq_none_iff :
    change.arityFault? name arity = none ↔ change.FitsArity arity := by
  rw [arityFault?, Option.map_eq_none_iff, List.find?_eq_none]
  exact forall₂_congr fun text _ => by rw [bne_iff_ne, not_not]

/-- The fault in the signatures is that of the first one of another arity. -/
theorem offends_of_arityFault? {fault : DialectFault}
    (h : change.arityFault? name arity = some fault) : change.Offends name arity current fault := by
  rw [arityFault?, Option.map_eq_some_iff] at h
  obtain ⟨text, hfound, rfl⟩ := h
  obtain ⟨harity, before, behind, hsplit, hbefore⟩ := List.find?_eq_some_iff_append.1 hfound
  refine .wrongArity before text behind ?_ (fun earlier hmem => ?_) (bne_iff_ne.1 harity)
  · cases hsignatures : change.signatures with
    | none =>
      rw [hsignatures] at hsplit
      exact absurd hsplit.symm (List.append_ne_nil_of_right_ne_nil _ (List.cons_ne_nil _ _))
    | some texts =>
      rw [hsignatures] at hsplit
      exact congrArg some hsplit
  · exact of_not_not fun hne => by simpa [hne] using hbefore earlier hmem

/-- A change that is refused offends by its fault. -/
theorem offends_of_apply {fault : DialectFault}
    (h : change.apply name arity current = .error fault) :
    change.Offends name arity current fault := by
  unfold apply at h
  split at h
  · next hfault =>
    obtain rfl := Except.error.inj h
    exact offends_of_arityFault? hfault
  · cases h
  · cases h
  · next hfits hsymbol =>
    obtain rfl := Except.error.inj h
    exact .missingSymbol (arityFault?_eq_none_iff.1 hfits) rfl hsymbol

/-- A change that is made is acceptable. -/
theorem acceptable_of_apply {operator : Operator}
    (h : change.apply name arity current = .ok operator) : change.Acceptable arity current := by
  unfold apply at h
  split at h
  · cases h
  · next hfits =>
    exact ⟨arityFault?_eq_none_iff.1 hfits, fun hnone => nomatch hnone⟩
  · next hfits hsymbol =>
    exact ⟨arityFault?_eq_none_iff.1 hfits, fun _ hnone => nomatch hsymbol.symm.trans hnone⟩
  · cases h

/-- A change that offends is not acceptable. -/
theorem Offends.not_acceptable {fault : DialectFault}
    (h : change.Offends name arity current fault) : ¬change.Acceptable arity current := by
  rintro ⟨hfits, hgiven⟩
  cases h with
  | wrongArity before text behind hsignatures hbefore harity =>
    refine harity (hfits text ?_)
    rw [hsignatures]
    exact List.mem_append_right _ List.mem_cons_self
  | missingSymbol harity hnew hsymbol => exact hgiven hnew hsymbol

/-- A change that offends is refused by the fault. -/
theorem Offends.apply_eq {fault : DialectFault} (h : change.Offends name arity current fault) :
    change.apply name arity current = .error fault := by
  cases h with
  | wrongArity before text behind hsignatures hbefore harity =>
    have hfound : (change.signatures.getD []).find? (·.arguments.length != arity) = some text := by
      rw [hsignatures]
      refine List.find?_eq_some_iff_append.2 ⟨bne_iff_ne.2 harity, before, behind, rfl, ?_⟩
      intro earlier hmem
      rw [hbefore earlier hmem, bne_self_eq_false, Bool.not_false]
    have hfault : change.arityFault? name arity =
        some (.wrongArity name arity text.arguments.length) := by
      rw [arityFault?, hfound, Option.map_some]
    simp only [apply, hfault]
  | missingSymbol harity hnew hsymbol =>
    have hfits : change.arityFault? name arity = none := arityFault?_eq_none_iff.2 harity
    simp only [apply, hfits, hnew, hsymbol]

/-- A revised operator has the given fields and keeps the others. -/
theorem revise_eq (change : OperatorChange) (operator : Operator) :
    change.revise operator = {
      symbol := change.symbol.getD operator.symbol
      signatures :=
        (change.signatures.map (·.map SignatureText.signature)).getD operator.signatures
      precedence := change.precedence.getD operator.precedence
      associativity := change.associativity.getD operator.associativity } := by
  unfold revise
  cases change.signatures with
  | none => rfl
  | some texts => rfl

/-- Signatures of one arity are revised to signatures of that arity. -/
theorem arity_of_revise {operator : Operator} (hfits : change.FitsArity arity)
    (hcurrent : ∀ signature ∈ operator.signatures, signature.parameters.length = arity) :
    ∀ signature ∈ (change.revise operator).signatures, signature.parameters.length = arity := by
  unfold revise
  rw [FitsArity] at hfits
  cases hsignatures : change.signatures with
  | none => exact hcurrent
  | some texts =>
    intro signature hmem
    obtain ⟨text, htext, rfl⟩ := List.mem_map.1 hmem
    rw [hsignatures] at hfits
    rw [SignatureText.signature, List.length_map]
    exact hfits text htext

end OperatorChange

namespace OperatorTable

variable {table result : OperatorTable} {arity : Nat} {changes : List (String × OperatorChange)}

/-- An inserted operator is not met by changes under other names. -/
theorem find?_insert_of_ne {name : String} {operator : Operator}
    (hdistinct : ∀ entry ∈ changes, name ≠ entry.1) {entry : String × OperatorChange}
    (hmem : entry ∈ changes) :
    (table.insert name operator).find? entry.1 = table.find? entry.1 := by
  rw [find?_insert, if_neg (hdistinct entry hmem).symm]

/-- Where all changes are made, each is made to the operator that the table had under its name, and
the other names keep theirs. -/
theorem find?_of_change_eq_ok (hdistinct : changes.Pairwise fun entry other => entry.1 ≠ other.1)
    (h : table.change arity changes = .ok result) :
    (∀ entry ∈ changes, ∃ operator,
        entry.2.apply entry.1 arity (table.find? entry.1) = .ok operator ∧
          result.find? entry.1 = some operator) ∧
      ∀ name, (∀ entry ∈ changes, entry.1 ≠ name) → result.find? name = table.find? name := by
  induction changes generalizing table with
  | nil =>
    obtain rfl : table = result := Except.ok.inj h
    exact ⟨fun entry hmem => absurd hmem List.not_mem_nil, fun name _ => rfl⟩
  | cons entry rest ih =>
    obtain ⟨name, change⟩ := entry
    obtain ⟨hhead, hrest⟩ := List.pairwise_cons.1 hdistinct
    rw [OperatorTable.change] at h
    cases hoperator : change.apply name arity (table.find? name) with
    | error fault =>
      rw [hoperator] at h
      cases h
    | ok operator =>
      rw [hoperator] at h
      -- The rest runs on the table with the operator inserted, whose name it does not visit again.
      obtain ⟨hchanged, hkept⟩ := ih hrest h
      constructor
      · intro entry hmem
        obtain rfl | hmem := List.mem_cons.1 hmem
        · refine ⟨operator, hoperator, ?_⟩
          rw [hkept name fun entry hmem => (hhead entry hmem).symm, find?_insert, if_pos rfl]
        · rw [← find?_insert_of_ne hhead hmem]
          exact hchanged entry hmem
      · intro other hother
        have hne : name ≠ other := hother (name, change) List.mem_cons_self
        rw [hkept other fun entry hmem => hother entry (List.mem_cons_of_mem _ hmem), find?_insert,
          if_neg hne.symm]

/-- Where a change is refused, all changes before it are made, and each of them as well as the
refused one meets the operator that the table had under its name. -/
theorem exists_of_change_eq_error {fault : DialectFault}
    (hdistinct : changes.Pairwise fun entry other => entry.1 ≠ other.1)
    (h : table.change arity changes = .error fault) :
    ∃ before entry behind, changes = before ++ entry :: behind ∧
      entry.2.apply entry.1 arity (table.find? entry.1) = .error fault ∧
      ∀ earlier ∈ before, ∃ operator,
        earlier.2.apply earlier.1 arity (table.find? earlier.1) = .ok operator := by
  induction changes generalizing table with
  | nil => cases h
  | cons entry rest ih =>
    obtain ⟨name, change⟩ := entry
    obtain ⟨hhead, hrest⟩ := List.pairwise_cons.1 hdistinct
    rw [OperatorTable.change] at h
    cases hoperator : change.apply name arity (table.find? name) with
    | error other =>
      rw [hoperator] at h
      obtain rfl : other = fault := Except.error.inj h
      refine ⟨[], (name, change), rest, rfl, hoperator, fun earlier hmem => ?_⟩
      exact absurd hmem List.not_mem_nil
    | ok operator =>
      rw [hoperator] at h
      obtain ⟨before, entry, behind, rfl, hrefused, hmade⟩ := ih hrest h
      refine ⟨(name, change) :: before, entry, behind, rfl, ?_, ?_⟩
      · rwa [find?_insert_of_ne hhead (List.mem_append_right _ List.mem_cons_self)] at hrefused
      · intro earlier hmem
        obtain rfl | hmem := List.mem_cons.1 hmem
        · exact ⟨operator, hoperator⟩
        · rw [← find?_insert_of_ne hhead (List.mem_append_left _ hmem)]
          exact hmade earlier hmem

end OperatorTable

/-- The first change, in the order of the code points of the names, that cannot be made, and why. -/
def OperatorTable.FirstOffence (table : OperatorTable) (arity : Nat)
    (changes : Std.TreeMap String OperatorChange) (fault : DialectFault) : Prop :=
  ∃ (name : String) (change : OperatorChange), changes[name]? = some change ∧
    change.Offends name arity (table.find? name) fault ∧
    ∀ (earlier : String) (other : OperatorChange), earlier < name →
      changes[earlier]? = some other → other.Acceptable arity (table.find? earlier)

/-- Whether every change can be made. -/
def OperatorTable.Accepts (table : OperatorTable) (arity : Nat)
    (changes : Std.TreeMap String OperatorChange) : Prop :=
  ∀ (name : String) (change : OperatorChange), changes[name]? = some change →
    change.Acceptable arity (table.find? name)

/-- The look-up answers by the table with the changes merged into it. -/
structure OperatorTable.MergedInto (table : OperatorTable) (arity : Nat)
    (changes : Std.TreeMap String OperatorChange) (lookup : String → Option Operator) : Prop where
  /-- A name without a change has the operator of the table. -/
  unchanged : ∀ name : String, changes[name]? = none → lookup name = table.find? name
  /-- An operator of the table has the fields that its change gives, and keeps the others. -/
  revised : ∀ (name : String) (change : OperatorChange) (operator : Operator),
    changes[name]? = some change → table.find? name = some operator →
    lookup name = some {
      symbol := change.symbol.getD operator.symbol
      signatures :=
        (change.signatures.map (·.map SignatureText.signature)).getD operator.signatures
      precedence := change.precedence.getD operator.precedence
      associativity := change.associativity.getD operator.associativity }
  /-- A new operator has the symbol that its change gives, and defaults for what it does not. -/
  introduced : ∀ (name : String) (change : OperatorChange),
    changes[name]? = some change → table.find? name = none →
    ∃ symbol, change.symbol = some symbol ∧ lookup name = some {
      symbol
      signatures := (change.signatures.map (·.map SignatureText.signature)).getD []
      precedence := change.precedence.getD 0
      associativity := change.associativity.getD .left }
  /-- All signatures have the arity. -/
  arity_eq : ∀ (name : String) (operator : Operator), lookup name = some operator →
    ∀ signature ∈ operator.signatures, signature.parameters.length = arity

namespace OperatorTable

variable {table result : OperatorTable} {arity : Nat} {changes : Std.TreeMap String OperatorChange}

/-- The names of a definition come in the order of their code points. -/
theorem ordered_toList (changes : Std.TreeMap String OperatorChange) :
    changes.toList.Pairwise fun entry other => entry.1 < other.1 :=
  Std.TreeMap.ordered_keys_toList.imp compare_lt_iff_lt.1

/-- A definition visits no name twice. -/
theorem distinct_toList (changes : Std.TreeMap String OperatorChange) :
    changes.toList.Pairwise fun entry other => entry.1 ≠ other.1 :=
  (ordered_toList changes).imp ne_of_lt

/-- Where all changes are made, each is made to the operator that the table had under its name. -/
theorem exists_apply_of_change_eq_ok (h : table.change arity changes.toList = .ok result)
    {name : String} {change : OperatorChange} (hchange : changes[name]? = some change) :
    ∃ operator, change.apply name arity (table.find? name) = .ok operator ∧
      result.find? name = some operator :=
  (find?_of_change_eq_ok (distinct_toList changes) h).1 (name, change)
    (Std.TreeMap.mem_toList_iff_getElem?_eq_some.2 hchange)

/-- Only one fault is that of the first offence. -/
theorem FirstOffence.unique {fault other : DialectFault}
    (h : table.FirstOffence arity changes fault) (h' : table.FirstOffence arity changes other) :
    fault = other := by
  obtain ⟨name, change, hchange, hoffends, hearlier⟩ := h
  obtain ⟨name', change', hchange', hoffends', hearlier'⟩ := h'
  obtain hlt | rfl | hgt := lt_trichotomy name name'
  · exact absurd (hearlier' name change hlt hchange) hoffends.not_acceptable
  · obtain rfl : change = change' := Option.some.inj (hchange.symm.trans hchange')
    exact Except.error.inj (hoffends.apply_eq.symm.trans hoffends'.apply_eq)
  · exact absurd (hearlier name' change' hgt hchange') hoffends'.not_acceptable

/-- A first offence leaves the changes not all acceptable. -/
theorem FirstOffence.not_accepts {fault : DialectFault}
    (h : table.FirstOffence arity changes fault) : ¬table.Accepts arity changes := by
  obtain ⟨name, change, hchange, hoffends, -⟩ := h
  exact fun haccepts => hoffends.not_acceptable (haccepts name change hchange)

/-- Where a change is refused, the fault is that of the first offence. -/
theorem firstOffence_of_change_eq_error {fault : DialectFault}
    (h : table.change arity changes.toList = .error fault) :
    table.FirstOffence arity changes fault := by
  obtain ⟨before, ⟨name, change⟩, behind, hsplit, hrefused, hmade⟩ :=
    exists_of_change_eq_error (distinct_toList changes) h
  have hordered := ordered_toList changes
  rw [hsplit] at hordered
  have hbehind := (List.pairwise_cons.1 (List.pairwise_append.1 hordered).2.1).1
  have hmem : (name, change) ∈ changes.toList := by
    rw [hsplit]
    exact List.mem_append_right _ List.mem_cons_self
  refine ⟨name, change, Std.TreeMap.mem_toList_iff_getElem?_eq_some.1 hmem,
    OperatorChange.offends_of_apply hrefused, fun earlier other hlt hother => ?_⟩
  have hvisited := Std.TreeMap.mem_toList_iff_getElem?_eq_some.2 hother
  rw [hsplit] at hvisited
  obtain hvisited | hvisited := List.mem_append.1 hvisited
  · obtain ⟨operator, hoperator⟩ := hmade _ hvisited
    exact OperatorChange.acceptable_of_apply hoperator
  · obtain heq | hvisited := List.mem_cons.1 hvisited
    · exact absurd hlt (by rw [(Prod.mk.inj heq).1]; exact lt_irrefl name)
    · exact absurd hlt (lt_asymm (hbehind _ hvisited))

/-- The changes are made exactly if each of them can be. -/
theorem exists_change_eq_ok_iff :
    (∃ result, table.change arity changes.toList = .ok result) ↔ table.Accepts arity changes := by
  constructor
  · rintro ⟨result, h⟩ name change hchange
    obtain ⟨operator, hoperator, -⟩ := exists_apply_of_change_eq_ok h hchange
    exact OperatorChange.acceptable_of_apply hoperator
  · intro haccepts
    cases h : table.change arity changes.toList with
    | ok result => exact ⟨result, rfl⟩
    | error fault => exact absurd haccepts (firstOffence_of_change_eq_error h).not_accepts

/-- The changes are refused exactly by the fault of the first offence. -/
theorem change_eq_error_iff {fault : DialectFault} :
    table.change arity changes.toList = .error fault ↔ table.FirstOffence arity changes fault := by
  constructor
  · exact firstOffence_of_change_eq_error
  · intro hfirst
    cases h : table.change arity changes.toList with
    | ok result => exact absurd (exists_change_eq_ok_iff.1 ⟨result, h⟩) hfirst.not_accepts
    | error other => rw [(firstOffence_of_change_eq_error h).unique hfirst]

/-- What all entries of a table have for signatures, the operators that it finds have. -/
theorem arity_of_find? (hentries : ∀ entry ∈ table, ∀ signature ∈ entry.2.signatures,
      signature.parameters.length = arity) (name : String) (operator : Operator)
    (h : table.find? name = some operator) :
    ∀ signature ∈ operator.signatures, signature.parameters.length = arity :=
  hentries (name, operator) (mem_of_find? h)

/-- The standard binary operators have signatures with two parameters. -/
theorem arity_standardBinary : ∀ entry ∈ standardBinary, ∀ signature ∈ entry.2.signatures,
    signature.parameters.length = 2 := by
  decide

/-- The standard unary operators have signatures with one parameter. -/
theorem arity_standardUnary : ∀ entry ∈ standardUnary, ∀ signature ∈ entry.2.signatures,
    signature.parameters.length = 1 := by
  decide

/-- Changes that are made are merged into the table. -/
theorem mergedInto_of_change_eq_ok (h : table.change arity changes.toList = .ok result)
    (harity : ∀ name operator, table.find? name = some operator →
      ∀ signature ∈ operator.signatures, signature.parameters.length = arity) :
    table.MergedInto arity changes result.find? := by
  refine ⟨?_, ?_, ?_, ?_⟩
  · intro name hnone
    refine (find?_of_change_eq_ok (distinct_toList changes) h).2 name fun entry hmem hname => ?_
    have hsome := Std.TreeMap.mem_toList_iff_getElem?_eq_some.1 hmem
    rw [hname, hnone] at hsome
    cases hsome
  · intro name change operator hchange hoperator
    obtain ⟨revised, hrevised, hfound⟩ := exists_apply_of_change_eq_ok h hchange
    obtain ⟨previous, hprevious, rfl⟩ | ⟨hnew, -⟩ := OperatorChange.apply_eq_ok hrevised
    · obtain rfl : operator = previous := Option.some.inj (hoperator.symm.trans hprevious)
      rw [hfound, OperatorChange.revise_eq]
    · cases hoperator.symm.trans hnew
  · intro name change hchange hnone
    obtain ⟨revised, hrevised, hfound⟩ := exists_apply_of_change_eq_ok h hchange
    obtain ⟨previous, hprevious, -⟩ | ⟨-, symbol, hsymbol, rfl⟩ :=
      OperatorChange.apply_eq_ok hrevised
    · cases hnone.symm.trans hprevious
    · refine ⟨symbol, hsymbol, ?_⟩
      rw [hfound, OperatorChange.revise_eq, hsymbol, Option.getD_some]
  · refine find?_change (motive := fun _ current => ∀ operator, current = some operator →
      ∀ signature ∈ operator.signatures, signature.parameters.length = arity) h harity ?_
    intro name change current operator _ hcurrent happly other hother
    obtain rfl : operator = other := Option.some.inj hother
    have hfits := (OperatorChange.acceptable_of_apply happly).1
    obtain ⟨previous, hprevious, rfl⟩ | ⟨-, symbol, -, rfl⟩ := OperatorChange.apply_eq_ok happly
    · exact OperatorChange.arity_of_revise hfits (hcurrent previous hprevious)
    · exact OperatorChange.arity_of_revise hfits fun signature hmem => absurd hmem List.not_mem_nil

end OperatorTable

namespace DialectDefinition

open OperatorTable

/-- Whether the name has nothing but blanks. -/
def Blank (definition : DialectDefinition) : Prop :=
  ∀ c ∈ definition.name.toList, Text.isBlank c = true

/-- A definition is built by merging its changes into the standard tables, unless its name is
blank. -/
theorem build_eq (definition : DialectDefinition) :
    definition.build =
      if Text.trim definition.name = "" then .error .blankName
      else
        (standardBinary.change 2 definition.binary.toList).bind fun binary =>
          (standardUnary.change 1 definition.unary.toList).bind fun unary =>
            .ok {
              name := definition.name
              binary? := binary.find?
              unary? := unary.find?
              functions := fun name =>
                (definition.functions.getD name []).map SignatureText.signature } := by
  unfold build
  by_cases hblank : Text.trim definition.name = ""
  · rw [if_pos hblank, if_pos hblank]
    rfl
  · rw [if_neg hblank, if_neg hblank]
    rfl

/-- A definition is accepted exactly if its name is not blank and all its changes can be made. -/
theorem exists_build_eq_ok_iff (definition : DialectDefinition) :
    (∃ dialect, definition.build = .ok dialect) ↔
      ¬definition.Blank ∧ standardBinary.Accepts 2 definition.binary ∧
        standardUnary.Accepts 1 definition.unary := by
  rw [build_eq, Blank, ← Text.trim_eq_empty_iff, ← exists_change_eq_ok_iff,
    ← exists_change_eq_ok_iff]
  by_cases hblank : Text.trim definition.name = ""
  · simp [hblank]
  · rw [if_neg hblank]
    cases standardBinary.change 2 definition.binary.toList with
    | error fault => simp [Except.bind]
    | ok binary =>
      cases standardUnary.change 1 definition.unary.toList with
      | error fault => simp [Except.bind]
      | ok unary => simp [hblank, Except.bind]

/-- A definition is refused for a blank name, or else for the first binary change that cannot be
made, or else for the first unary one. -/
theorem build_eq_error_iff (definition : DialectDefinition) (fault : DialectFault) :
    definition.build = .error fault ↔
      (definition.Blank ∧ fault = .blankName) ∨
        (¬definition.Blank ∧ standardBinary.FirstOffence 2 definition.binary fault) ∨
          (¬definition.Blank ∧ standardBinary.Accepts 2 definition.binary ∧
            standardUnary.FirstOffence 1 definition.unary fault) := by
  rw [build_eq, Blank, ← Text.trim_eq_empty_iff, ← exists_change_eq_ok_iff,
    ← change_eq_error_iff, ← change_eq_error_iff]
  by_cases hblank : Text.trim definition.name = ""
  · simp [hblank, eq_comm]
  · rw [if_neg hblank]
    cases standardBinary.change 2 definition.binary.toList with
    | error other => simp [hblank, Except.bind]
    | ok binary =>
      cases standardUnary.change 1 definition.unary.toList with
      | error other => simp [hblank, Except.bind]
      | ok unary => simp [hblank, Except.bind]

/-- A dialect is built exactly if its name is not blank and all changes can be made. It is then the
merge of the changes into the standard tables, and otherwise the fault is the first in the order of
the visits. -/
theorem build_merges (definition : DialectDefinition) :
    ((∃ dialect, definition.build = .ok dialect) ↔
        ¬definition.Blank ∧ standardBinary.Accepts 2 definition.binary ∧
          standardUnary.Accepts 1 definition.unary) ∧
      (∀ dialect, definition.build = .ok dialect →
        dialect.name = definition.name ∧
          standardBinary.MergedInto 2 definition.binary dialect.binary? ∧
          standardUnary.MergedInto 1 definition.unary dialect.unary? ∧
          ∀ name : String, dialect.functions name =
            (definition.functions[name]?.getD []).map SignatureText.signature) ∧
      ∀ fault, definition.build = .error fault ↔
        (definition.Blank ∧ fault = .blankName) ∨
          (¬definition.Blank ∧ standardBinary.FirstOffence 2 definition.binary fault) ∨
            (¬definition.Blank ∧ standardBinary.Accepts 2 definition.binary ∧
              standardUnary.FirstOffence 1 definition.unary fault) := by
  refine ⟨definition.exists_build_eq_ok_iff, fun dialect hbuild => ?_,
    definition.build_eq_error_iff⟩
  obtain ⟨binary, unary, hbinary, hunary, rfl⟩ := exists_of_build hbuild
  have hmergedBinary :=
    mergedInto_of_change_eq_ok hbinary (arity_of_find? arity_standardBinary)
  have hmergedUnary := mergedInto_of_change_eq_ok hunary (arity_of_find? arity_standardUnary)
  refine ⟨rfl, hmergedBinary, hmergedUnary, fun name => ?_⟩
  rw [← Std.TreeMap.getD_eq_getD_getElem?]

end DialectDefinition

namespace Sample

/-- A definition with a changed operator, two new ones and a function. -/
def powers : DialectDefinition where
  name := "powers"
  binary := (Std.TreeMap.empty.insert "eq" { signatures := some [⟨["int", "int"], "bool"⟩] }).insert
    "pow" { symbol := some "**", precedence := some 170, associativity := some .right }
  unary := Std.TreeMap.empty.insert "abs" { symbol := some "@" }
  functions := Std.TreeMap.empty.insert "count" [⟨["int"], "int"⟩]

/-- The same definition with faults in all its changes. -/
def faultyPowers : DialectDefinition where
  name := "powers"
  binary := (Std.TreeMap.empty.insert "eq" { signatures := some [⟨["int"], "bool"⟩] }).insert
    "pow" { precedence := some 170 }
  unary := Std.TreeMap.empty.insert "abs" {}

/-- The dialect of the first definition. -/
def powersDialect : Dialect :=
  powers.build.toOption.getD .standard

/-- The first definition is accepted, and the second refused for its first change. -/
theorem build_merges_powers :
    OperatorTable.standardBinary.MergedInto 2 powers.binary powersDialect.binary? ∧
      (powersDialect.binary? "pow").map Operator.precedence = some 170 ∧
      OperatorTable.standardBinary.FirstOffence 2 faultyPowers.binary (.wrongArity "eq" 2 1) := by
  have hbuild : powers.build = .ok powersDialect :=
    DialectDefinition.build_eq_getD (by rfl) .standard
  have houtcome : faultyPowers.build.map (fun _ => ()) = .error (.wrongArity "eq" 2 1) := by
    decide +kernel
  have hfault : faultyPowers.build = .error (.wrongArity "eq" 2 1) := by
    cases hrefused : faultyPowers.build with
    | error fault =>
      rw [hrefused] at houtcome
      exact congrArg Except.error (Except.error.inj houtcome)
    | ok dialect =>
      rw [hrefused] at houtcome
      cases houtcome
  have hmerges := (DialectDefinition.build_merges powers).2.1 powersDialect hbuild
  refine ⟨hmerges.2.1, by decide +kernel, ?_⟩
  obtain ⟨-, hblank⟩ | ⟨-, hfirst⟩ | ⟨-, -, name, change, -, hoffends, -⟩ :=
    ((DialectDefinition.build_merges faultyPowers).2.2 _).1 hfault
  · cases hblank
  · exact hfirst
  · cases hoffends

end Sample

end QueryAlgebra

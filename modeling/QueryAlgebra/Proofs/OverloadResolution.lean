import QueryAlgebra.Typing

/-!
# Overload resolution

An operator or a function may have several signatures. Which of them types an application is said
here by positions alone: a signature fits the arguments if there is one for each parameter, and each
parameter is the wildcard or equal to the argument at its position. The signature that is chosen is
the one of least index that fits.

Resolution returns the result of the chosen signature, for operators and functions alike, and type
inference gives an application the type that resolution returns for the types of its operands.
Nothing that stands behind the chosen signature makes a difference.
-/

namespace QueryAlgebra

namespace Signature

/-- There is one argument for each parameter, and each parameter is the wildcard or equal to the
argument at its position. -/
structure Fits (signature : Signature) (arguments : List DataType) : Prop where
  arity : signature.parameters.length = arguments.length
  positions : ∀ (i : Nat) parameter argument, signature.parameters[i]? = some parameter →
    arguments[i]? = some argument → parameter == DataType.any ∨ parameter == argument

/-- The signature stands at the position and fits the arguments, and none before it does. -/
structure Chosen (signatures : List Signature) (arguments : List DataType) (position : Nat)
    (signature : Signature) : Prop where
  stands : signatures[position]? = some signature
  fits : signature.Fits arguments
  least : ∀ earlier < position, ∀ other, signatures[earlier]? = some other → ¬ other.Fits arguments

variable {signatures others : List Signature} {arguments : List DataType} {position : Nat}
  {signature : Signature} {result : DataType}

/-- A signature accepts exactly the arguments that it fits. Where there are as many arguments as
parameters, the pairs are the positions. -/
theorem accepts_iff_fits : signature.accepts arguments ↔ signature.Fits arguments := by
  rw [accepts, Bool.and_eq_true, beq_iff_eq, List.all_eq_true]
  constructor
  · rintro ⟨harity, hpairs⟩
    refine ⟨harity, fun i parameter argument hparameter hargument => ?_⟩
    have hpair : (parameter, argument) ∈ signature.parameters.zip arguments :=
      List.mem_of_getElem? (List.getElem?_zip_eq_some.2 ⟨hparameter, hargument⟩)
    exact Bool.or_eq_true_iff.1 (hpairs _ hpair)
  · rintro ⟨harity, hpositions⟩
    refine ⟨harity, fun pair hpair => ?_⟩
    obtain ⟨i, hi⟩ := List.mem_iff_getElem?.1 hpair
    obtain ⟨hparameter, hargument⟩ := List.getElem?_zip_eq_some.1 hi
    exact Bool.or_eq_true_iff.2 (hpositions i _ _ hparameter hargument)

instance (signature : Signature) (arguments : List DataType) :
    Decidable (signature.Fits arguments) :=
  decidable_of_iff _ accepts_iff_fits

/-- The search for a signature that accepts the arguments ends at the chosen one. -/
theorem find?_eq_some_iff_chosen :
    signatures.find? (·.accepts arguments) = some signature ↔
      ∃ position, Chosen signatures arguments position signature := by
  rw [List.find?_eq_some_iff_getElem]
  constructor
  · rintro ⟨haccepts, position, hposition, rfl, hbefore⟩
    refine ⟨position, List.getElem?_eq_getElem hposition, accepts_iff_fits.1 haccepts, ?_⟩
    intro earlier hearlier other hother hfits
    obtain ⟨_, rfl⟩ := List.getElem?_eq_some_iff.1 hother
    have hrefused := hbefore earlier hearlier
    rw [accepts_iff_fits.2 hfits] at hrefused
    cases hrefused
  · rintro ⟨position, hstands, hfits, hleast⟩
    obtain ⟨hposition, rfl⟩ := List.getElem?_eq_some_iff.1 hstands
    refine ⟨accepts_iff_fits.2 hfits, position, hposition, rfl, fun earlier hearlier => ?_⟩
    have hearlier' : earlier < signatures.length := Nat.lt_trans hearlier hposition
    have hunfit := hleast earlier hearlier _ (List.getElem?_eq_getElem hearlier')
    rw [Bool.not_eq_true', Bool.eq_false_iff, Ne, accepts_iff_fits]
    exact hunfit

/-- Resolution returns the result of the chosen signature. -/
theorem resolve?_eq_some_iff :
    resolve? signatures arguments = some result ↔
      ∃ position signature, Chosen signatures arguments position signature ∧
        signature.result = result := by
  rw [resolve?, Option.map_eq_some_iff]
  constructor
  · rintro ⟨signature, hfind, hresult⟩
    obtain ⟨position, hchosen⟩ := find?_eq_some_iff_chosen.1 hfind
    exact ⟨position, signature, hchosen, hresult⟩
  · rintro ⟨position, signature, hchosen, hresult⟩
    exact ⟨signature, find?_eq_some_iff_chosen.2 ⟨position, hchosen⟩, hresult⟩

/-- Resolution returns nothing exactly if no signature fits. -/
theorem resolve?_eq_none_iff :
    resolve? signatures arguments = none ↔
      ∀ signature ∈ signatures, ¬ signature.Fits arguments := by
  rw [resolve?, Option.map_eq_none_iff, List.find?_eq_none]
  simp only [accepts_iff_fits]

/-- The chosen signature is resolved to its result. -/
theorem Chosen.resolve?_eq (h : Chosen signatures arguments position signature) :
    resolve? signatures arguments = some signature.result :=
  resolve?_eq_some_iff.2 ⟨position, signature, h, rfl⟩

/-- Signatures that agree up to the chosen one choose the same. -/
theorem Chosen.of_take_eq (h : Chosen signatures arguments position signature)
    (htake : others.take (position + 1) = signatures.take (position + 1)) :
    Chosen others arguments position signature := by
  have hsame (i : Nat) (hi : i < position + 1) : others[i]? = signatures[i]? := by
    rw [← List.getElem?_take_of_lt hi, htake, List.getElem?_take_of_lt hi]
  refine ⟨?_, h.fits, fun earlier hearlier other hother => ?_⟩
  · rw [hsame position (Nat.lt_succ_self position)]
    exact h.stands
  · rw [hsame earlier (Nat.lt_succ_of_lt hearlier)] at hother
    exact h.least earlier hearlier other hother

/-- Resolution by the first signature that fits. Signatures may be added to a list that resolves,
and the signatures behind the chosen one may be deleted, reordered or replaced. -/
structure ByFirstFit (resolve : List Signature → List DataType → Option DataType) : Prop where
  eq_some_iff : ∀ signatures arguments result, resolve signatures arguments = some result ↔
    ∃ position signature, Chosen signatures arguments position signature ∧
      signature.result = result
  eq_none_iff : ∀ signatures arguments, resolve signatures arguments = none ↔
    ∀ signature ∈ signatures, ¬ signature.Fits arguments
  append : ∀ signatures arguments, (resolve signatures arguments).isSome →
    ∀ more, resolve (signatures ++ more) arguments = resolve signatures arguments
  behind : ∀ signatures arguments position signature,
    Chosen signatures arguments position signature → ∀ others,
      others.take (position + 1) = signatures.take (position + 1) →
      resolve others arguments = resolve signatures arguments

/-- Lists of signatures are resolved by the first that fits. -/
theorem byFirstFit_resolve? : ByFirstFit resolve? where
  eq_some_iff _ _ _ := resolve?_eq_some_iff
  eq_none_iff _ _ := resolve?_eq_none_iff
  append signatures arguments h more := by
    obtain ⟨result, hresult⟩ := Option.isSome_iff_exists.1 h
    obtain ⟨position, signature, hchosen, rfl⟩ := resolve?_eq_some_iff.1 hresult
    have hposition : position + 1 ≤ signatures.length :=
      (List.getElem?_eq_some_iff.1 hchosen.stands).1
    rw [hresult]
    exact (hchosen.of_take_eq (List.take_append_of_le_length hposition)).resolve?_eq
  behind signatures arguments position signature hchosen others htake := by
    rw [hchosen.resolve?_eq, (hchosen.of_take_eq htake).resolve?_eq]

end Signature

/-- The type is the one that was resolved, or an error if none was. -/
def DataType.Answers (type : DataType) : Option DataType → Prop
  | some resolved => type = resolved
  | none => type.isError

/-- Type inference takes the type that a list of signatures resolves to, or else an error. -/
theorem Signature.resultType_answers (kind name : String) (signatures : List Signature)
    (arguments : List DataType) :
    (resultType kind name signatures arguments).Answers (resolve? signatures arguments) := by
  rw [resultType]
  cases resolve? signatures arguments with
  | none => rfl
  | some result => rfl

/-- The expression applies what has the signatures in the dialect to the operands. -/
inductive Expression.Applies (dialect : Dialect) :
    Expression → List Signature → List Expression → Prop where
  | binary {name : String} {operator : Operator} {left right : Expression}
      (hknown : dialect.binary? name = some operator) :
      Applies dialect (.binary name left right) operator.signatures [left, right]
  | unary {name : String} {operator : Operator} {operand : Expression}
      (hknown : dialect.unary? name = some operator) :
      Applies dialect (.unary name operand) operator.signatures [operand]
  | call {function : String} {arguments : List Expression} :
      Applies dialect (.call function arguments) (dialect.functions function) arguments

/-- An application is typed by resolution on the types of its operands. -/
theorem Expression.Applies.infer_answers {dialect : Dialect} {expression : Expression}
    {signatures : List Signature} {operands : List Expression}
    (h : expression.Applies dialect signatures operands) :
    (expression.infer dialect).Answers
      (Signature.resolve? signatures (operands.map (·.infer dialect))) := by
  cases h with
  | binary hknown =>
    rw [Expression.infer, hknown]
    exact Signature.resultType_answers _ _ _ _
  | unary hknown =>
    rw [Expression.infer, hknown]
    exact Signature.resultType_answers _ _ _ _
  | call =>
    rw [Expression.infer]
    exact Signature.resultType_answers _ _ _ _

/-- An application has the type that the chosen signature returns. -/
theorem Expression.Applies.infer_eq {dialect : Dialect} {expression : Expression}
    {signatures : List Signature} {operands : List Expression} {position : Nat}
    {signature : Signature} (h : expression.Applies dialect signatures operands)
    (hchosen : Signature.Chosen signatures (operands.map (·.infer dialect)) position signature) :
    expression.infer dialect = signature.result := by
  have hanswers := h.infer_answers
  rw [hchosen.resolve?_eq] at hanswers
  exact hanswers

/-- An application of a known operator has the type that the operator resolves the types of the
operands to, and an error type if it resolves them to none. A call is typed likewise by the
signatures of the function. Operators and lists of signatures are resolved by the first signature
that fits. An application keeps its type in every dialect that agrees on the signatures up to the
chosen one, as long as its operands keep theirs. -/
theorem Dialect.resolves_by_first_fit (dialect : Dialect) :
    (∀ name operator left right, dialect.binary? name = some operator →
        ((Expression.binary name left right).infer dialect).Answers
          (operator.resolve? [left.infer dialect, right.infer dialect])) ∧
      (∀ name operator operand, dialect.unary? name = some operator →
        ((Expression.unary name operand).infer dialect).Answers
          (operator.resolve? [operand.infer dialect])) ∧
      (∀ function arguments, ((Expression.call function arguments).infer dialect).Answers
        (Signature.resolve? (dialect.functions function) (arguments.map (·.infer dialect)))) ∧
      (∀ operator : Operator,
        Signature.ByFirstFit fun signatures => { operator with signatures }.resolve?) ∧
      Signature.ByFirstFit Signature.resolve? ∧
      ∀ (other : Dialect) (expression : Expression) signatures others operands position signature,
        expression.Applies dialect signatures operands →
        expression.Applies other others operands →
        operands.map (·.infer other) = operands.map (·.infer dialect) →
        Signature.Chosen signatures (operands.map (·.infer dialect)) position signature →
        others.take (position + 1) = signatures.take (position + 1) →
        expression.infer other = expression.infer dialect := by
  refine ⟨fun name operator left right hknown => ?_, fun name operator operand hknown => ?_,
    fun function arguments => ?_, fun operator => ?_, Signature.byFirstFit_resolve?, ?_⟩
  · exact (Expression.Applies.binary hknown).infer_answers
  · exact (Expression.Applies.unary hknown).infer_answers
  · exact Expression.Applies.call.infer_answers
  · -- an operator leaves the search to its list of signatures
    exact Signature.byFirstFit_resolve?
  · intro other expression signatures others operands position signature happlies happlies' htypes
      hchosen htake
    have hchosen' := hchosen.of_take_eq htake
    rw [← htypes] at hchosen'
    rw [happlies.infer_eq hchosen, happlies'.infer_eq hchosen']

namespace Sample

/-- The overloads of a choice between something and a number. The last is never chosen, since the
one before it fits whatever it fits. -/
def choices : List Signature :=
  [⟨[.integer, .integer], .integer⟩, ⟨[.any, .integer], .double⟩, ⟨[.null, .integer], .integer⟩]

/-- The standard dialect with a function of the given signatures. -/
def choosing (signatures : List Signature) : Dialect :=
  { Dialect.standard with
    functions := fun name => if name = "coalesce" then signatures else [] }

/-- The choice between nothing and a number. -/
def choice : Expression := .call "coalesce" [.null, .integer 1]

/-- Nothing and a number choose the second overload. -/
theorem chosen_choices :
    Signature.Chosen choices [.null, .integer] 1 ⟨[.any, .integer], .double⟩ where
  stands := rfl
  fits := by decide
  least := by
    intro earlier hearlier other hother
    obtain rfl := Nat.lt_one_iff.1 hearlier
    obtain rfl := Option.some.inj hother
    decide

end Sample

/-- In the dialect above a number and nothing have no sum, a number has a negative, and the choice
is made by the second overload. It is still so with one more overload, and without the last. -/
theorem Dialect.resolves_by_first_fit_choosing :
    (∃ operator, (Sample.choosing Sample.choices).binary? "add" = some operator ∧
        operator.resolve? [.integer, .null] = none ∧
        ((Expression.binary "add" (.integer 1) .null).infer
          (Sample.choosing Sample.choices)).isError) ∧
      (∃ operator, (Sample.choosing Sample.choices).unary? "neg" = some operator ∧
        operator.resolve? [.integer] = some .integer ∧
        (Expression.unary "neg" (.integer 1)).infer (Sample.choosing Sample.choices) = .integer) ∧
      (Signature.resolve? Sample.choices [.null, .integer]).isSome ∧
      Signature.resolve? (Sample.choices ++ [⟨[.null, .integer], .text⟩]) [.null, .integer] =
        Signature.resolve? Sample.choices [.null, .integer] ∧
      Signature.Chosen Sample.choices [.null, .integer] 1 ⟨[.any, .integer], .double⟩ ∧
      (Sample.choices.take 2).take 2 = Sample.choices.take 2 ∧
      Sample.choice.infer (Sample.choosing (Sample.choices.take 2)) =
        Sample.choice.infer (Sample.choosing Sample.choices) := by
  obtain ⟨hbinary, hunary, -, -, hlists, hchange⟩ :=
    resolves_by_first_fit (Sample.choosing Sample.choices)
  have hnull (dialect : Dialect) : Expression.null.infer dialect = .null := by rw [Expression.infer]
  have hone (dialect : Dialect) : (Expression.integer 1).infer dialect = .integer := by
    rw [Expression.infer]
  have hoperands (dialect : Dialect) :
      [Expression.null, .integer 1].map (·.infer dialect) = [.null, .integer] := by
    rw [List.map_cons, List.map_cons, List.map_nil, hnull, hone]
  have hsum := hbinary "add" _ (.integer 1) .null rfl
  have hnegative := hunary "neg" _ (.integer 1) rfl
  have hresolves : (Signature.resolve? Sample.choices [.null, .integer]).isSome := by decide
  have htake : (Sample.choices.take 2).take 2 = Sample.choices.take 2 := rfl
  have hchosen := Sample.chosen_choices
  rw [← hoperands (Sample.choosing Sample.choices)] at hchosen
  rw [hone, hnull] at hsum
  rw [hone] at hnegative
  refine ⟨⟨_, rfl, rfl, hsum⟩, ⟨_, rfl, rfl, hnegative⟩, hresolves,
    hlists.append _ _ hresolves _, Sample.chosen_choices, htake, ?_⟩
  refine hchange _ _ _ _ _ _ _ .call .call ?_ hchosen htake
  rw [hoperands, hoperands]

end QueryAlgebra

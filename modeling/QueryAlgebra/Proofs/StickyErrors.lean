import QueryAlgebra.Proofs.StrictTyping

/-!
# Errors of parts

Whether a part of an expression has a type is decided before the whole is typed. A name passes the
type of what it names on, and signatures without the wildcard accept no argument of an error type:
even a parameter of a type that is named like the error type does not equal it. So an error stays
visible from the part at which it arises up to the whole expression, however deep the part lies.
-/

namespace QueryAlgebra

/-- Being an expression or a part of one: a child, a child of a child, and so on. -/
inductive Expression.Within (part : Expression) : Expression → Prop where
  | self : Within part part
  | child {child whole : Expression} (hchild : child ∈ whole.children) (h : Within part child) :
      Within part whole

variable {dialect : Dialect}

/-- In a strict dialect an expression one of whose children has an error type has one itself. -/
theorem Expression.isError_infer_of_child (hstrict : dialect.Strict) {whole child : Expression}
    (hchild : child ∈ whole.children) (herror : (child.infer dialect).isError = true) :
    (whole.infer dialect).isError = true := by
  cases htype : (whole.infer dialect).isError with
  | true => rfl
  | false =>
    rw [isError_infer_child hstrict hchild htype] at herror
    cases herror

/-- In the standard dialect and in every dialect that is defined without the wildcard, an expression
any part of which has an error type has one itself. -/
theorem Expression.isError_infer_of_within
    (hdialect : dialect = .standard ∨
      ∃ definition : DialectDefinition, definition.AvoidsAny ∧ definition.build = .ok dialect)
    {part whole : Expression} (hwithin : part.Within whole)
    (herror : (part.infer dialect).isError = true) : (whole.infer dialect).isError = true := by
  have hstrict := Dialect.strict_of_avoidsAny hdialect
  induction hwithin with
  | self => exact herror
  | child hchild hwithin ih => exact isError_infer_of_child hstrict hchild ih

namespace Sample

/-- A dialect with a type that is named like the error type, and with a function that takes it. -/
def alarming : DialectDefinition where
  name := "alarming"
  functions := (Std.TreeMap.empty.insert "alarm" [⟨[], "error"⟩]).insert "level"
    [⟨["error"], "int"⟩]

/-- The dialect so defined. -/
def alarmingDialect : Dialect :=
  alarming.build.toOption.getD .standard

/-- The definition is accepted. -/
theorem build_alarming : alarming.build = .ok alarmingDialect :=
  DialectDefinition.build_eq_getD (by rfl) .standard

/-- The negated level of something. -/
def negatedLevel (argument : Expression) : Expression :=
  .named (.unary "neg" (.call "level" [.named argument "a"])) "n"

end Sample

/-- In the dialect above the level of an alarm has a type, and that of a bind parameter has none, so
neither has anything that is computed from it. -/
theorem Expression.isError_infer_of_within_negatedLevel :
    ((Sample.negatedLevel (.call "alarm" [])).infer Sample.alarmingDialect).isError = false ∧
      Sample.alarming.AvoidsAny ∧
      (Expression.parameter "p").Within (Sample.negatedLevel (.parameter "p")) ∧
      ((Expression.parameter "p").infer Sample.alarmingDialect).isError = true ∧
      ((Sample.negatedLevel (.parameter "p")).infer Sample.alarmingDialect).isError = true := by
  have havoids : Sample.alarming.AvoidsAny := by decide +kernel
  have hwithin : (Expression.parameter "p").Within (Sample.negatedLevel (.parameter "p")) :=
    .child List.mem_cons_self (.child List.mem_cons_self (.child List.mem_cons_self
      (.child List.mem_cons_self .self)))
  have herror : ((Expression.parameter "p").infer Sample.alarmingDialect).isError = true := by
    rw [infer]
    rfl
  exact ⟨by decide +kernel, havoids, hwithin, herror,
    isError_infer_of_within (.inr ⟨_, havoids, Sample.build_alarming⟩) hwithin herror⟩

end QueryAlgebra

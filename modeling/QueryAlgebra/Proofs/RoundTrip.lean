import QueryAlgebra.Proofs.Spelling
import QueryAlgebra.Render

/-!
# Rendered chains read back

In a chain every right operand is a literal, so that chains nest to the left only. Parentheses are
written where the operator of a left operand binds looser, and these are the very places where a
reader would group otherwise, whatever precedences a dialect assigns.
-/

namespace QueryAlgebra

open Reader

namespace Expression

variable {dialect : Dialect}

/-- Whether the expression is a literal. -/
def isLiteral : Expression → Bool
  | .null | .integer _ | .text _ | .boolean _ => true
  | _ => false

/-- The literals, and the applications of binary operators of the dialect to a chain and a
literal. -/
inductive IsChain (dialect : Dialect) : Expression → Prop where
  | literal {expression : Expression} (hliteral : expression.isLiteral = true) :
    IsChain dialect expression
  | application {operator : String} {left right : Expression}
    (hoperator : (dialect.binary? operator).isSome = true) (hleft : IsChain dialect left)
    (hright : right.isLiteral = true) : IsChain dialect (.binary operator left right)

/-- Whether the expression is an application whose operator binds looser than the given one. -/
def bindsLooser (dialect : Dialect) (operator : String) : Expression → Bool
  | .binary inner _ _ => Reader.bindsLooser dialect inner operator
  | _ => false

/-- What reading a chain makes of the operand that is due: a left operand that binds looser is read
as one operand, and any other goes on from what is pending. -/
def grow (dialect : Dialect) (pending : Pending) : Expression → Spine
  | .binary operator left right =>
    (if left.bindsLooser dialect operator then pending.fill dialect left
      else left.grow dialect pending).extend dialect operator right
  | expression => pending.fill dialect expression
termination_by structural expression => expression

/-- The renderer puts a left operand in parentheses if it binds looser. -/
theorem hasPrecedence_lt_eq {name : String} {operator : Operator}
    (hoperator : dialect.binary? name = some operator) (left : Expression) :
    left.hasPrecedence dialect (· < operator.precedence) = left.bindsLooser dialect name := by
  cases left with
  | binary inner innerLeft innerRight =>
    rw [hasPrecedence, bindsLooser, Reader.bindsLooser, hoperator, Option.any_some]
  | _ => rfl

/-- A literal grows nothing but the operand that is due. -/
theorem grow_of_isLiteral {expression : Expression} (hliteral : expression.isLiteral = true)
    (pending : Pending) : expression.grow dialect pending = pending.fill dialect expression := by
  cases expression with
  | binary operator left right => cases hliteral
  | _ => rfl

/-- The text of a literal is read as the literal. -/
theorem reads_literal (dialect : Dialect) {expression : Expression}
    (hliteral : expression.isLiteral = true) :
    ∃ content, expression.render dialect = .text content ∧
      Reads dialect content (·.fill dialect expression) := by
  cases expression with
  | null => exact ⟨_, rfl, reads_word (scans_word (by decide) (by decide)) rfl⟩
  | integer value => exact ⟨_, rfl, reads_word (scans_repr _) (literal?_repr value)⟩
  | text value => exact ⟨_, rfl, reads_token (scans_literal value) fun _ _ => rfl⟩
  | boolean value =>
    cases value with
    | true => exact ⟨_, rfl, reads_word (scans_word (by decide) (by decide)) rfl⟩
    | false => exact ⟨_, rfl, reads_word (scans_word (by decide) (by decide)) rfl⟩
  | _ => cases hliteral

/-- The spine of an expression whose right operand is not opened. -/
def spine : Expression → Spine
  | .binary operator left right => .application operator left (.operand right)
  | expression => .operand expression

/-- Closing the spine gives the expression back. -/
theorem expression_spine (expression : Expression) : expression.spine.expression = expression := by
  cases expression <;> rfl

/-- An operator takes a whole expression to its left, unless the expression binds looser. -/
theorem extend_spine {left : Expression} {operator : String}
    (hlooser : left.bindsLooser dialect operator = false) (right : Expression) :
    left.spine.extend dialect operator right = .application operator left (.operand right) := by
  cases left with
  | binary inner innerLeft innerRight =>
    rw [bindsLooser] at hlooser
    rw [spine, Spine.extend, hlooser, if_neg Bool.false_ne_true, Spine.expression]
  | _ => rfl

/-- At the start of a group a chain grows its own spine. -/
theorem IsChain.grow_start {expression : Expression} (hchain : expression.IsChain dialect) :
    expression.grow dialect .start = expression.spine := by
  induction hchain with
  | literal hliteral =>
    rw [grow_of_isLiteral hliteral, Pending.fill]
    cases ‹Expression› with
    | binary operator left right => cases hliteral
    | _ => rfl
  | @application operator left right hoperator hleft hright ih =>
    rw [grow, spine]
    split
    · rw [Pending.fill, Spine.extend]
    · next hlooser => rw [ih, extend_spine (Bool.eq_false_iff.2 hlooser)]

/-- The text of a chain is read as what the chain grows. -/
theorem IsChain.reads_render (hspells : dialect.SpellsStandard) {expression : Expression}
    (hchain : expression.IsChain dialect) :
    ∃ content, expression.render dialect = .text content ∧
      Reads dialect content (fun pending => expression.grow dialect pending) := by
  induction hchain with
  | @literal expression hliteral =>
    obtain ⟨content, hrender, hreads⟩ := reads_literal dialect hliteral
    refine ⟨content, hrender, ?_⟩
    simpa only [grow_of_isLiteral hliteral] using hreads
  | @application name left right hoperator hleft hright ih =>
    obtain ⟨operator, hoperator⟩ := Option.isSome_iff_exists.1 hoperator
    obtain ⟨leftContent, hleftRender, hleftReads⟩ := ih
    obtain ⟨rightContent, hrightRender, hrightReads⟩ := reads_literal dialect hright
    have hsymbol := hspells.scans_symbol hoperator
    have hread := hspells.operator?_symbol hoperator
    rw [render, hoperator]
    simp only [hasPrecedence_lt_eq hoperator, hleftRender, hrightRender]
    cases hlooser : left.bindsLooser dialect name with
    | true =>
      -- the parentheses open a group of their own, in which the left operand is read from the start
      have hgroup := hleftReads.parenthesized
      rw [hleft.grow_start, expression_spine] at hgroup
      refine ⟨_, rfl, ?_⟩
      simp only [grow, hlooser, if_true]
      exact hgroup.apply hsymbol hread hrightReads
    | false =>
      refine ⟨_, rfl, ?_⟩
      simp only [grow, hlooser, Bool.false_eq_true, if_false]
      exact hleftReads.apply hsymbol hread hrightReads

/-- In every dialect with the standard binary operators in their standard spelling, whatever their
precedences, the text of a chain is read as the chain. -/
theorem read_render
    (hdialect : dialect = .standard ∨
      ∃ definition : DialectDefinition, definition.KeepsSymbols ∧ definition.build = .ok dialect)
    {expression : Expression} (hchain : expression.IsChain dialect) :
    ∃ content, expression.render dialect = .text content ∧
      Reader.read dialect content = some expression := by
  have hspells : dialect.SpellsStandard := by
    obtain rfl | ⟨definition, hkeeps, hbuild⟩ := hdialect
    · exact Dialect.standard_spellsStandard
    · exact hkeeps.spellsStandard hbuild
  obtain ⟨content, hrender, hreads⟩ := hchain.reads_render hspells
  refine ⟨content, hrender, ?_⟩
  rw [hreads.read_eq, hchain.grow_start, expression_spine]

end Expression

namespace Sample

/-- A dialect in which conjunction binds tightest and multiplication loosest. -/
def inverted : DialectDefinition where
  name := "inverted"
  binary := (Std.TreeMap.empty.insert "and" { precedence := some 2147483647 }).insert "mul"
    { symbol := some "*", precedence := some (-2147483648) }

/-- The dialect so defined. -/
def invertedDialect : Dialect :=
  inverted.build.toOption.getD .standard

/-- The definition is accepted. -/
theorem build_inverted : inverted.build = .ok invertedDialect :=
  DialectDefinition.build_eq_getD (by rfl) .standard

/-- A chain with a quoted text that looks like a condition, and a negative number behind a minus. -/
def invertedChain : Expression :=
  .binary "and" (.binary "mul" (.binary "sub" (.text "it\x27s (1 - 2)") (.integer (-7))) .null)
    (.boolean true)

/-- Its operators are known to the dialect above. -/
theorem invertedChain_isChain : invertedChain.IsChain invertedDialect :=
  .application (by rfl) (.application (by rfl) (.application (by rfl) (.literal rfl) rfl) rfl) rfl

end Sample

/-- The chain above, whose product the dialect above puts in parentheses, is read back. -/
theorem Expression.read_render_invertedChain :
    Sample.inverted.KeepsSymbols ∧ Sample.invertedChain.IsChain Sample.invertedDialect ∧
      Sample.invertedChain.render Sample.invertedDialect =
        .text "(\x27it\x27\x27s (1 - 2)\x27 - -7 * NULL) AND true" ∧
      Reader.read Sample.invertedDialect "(\x27it\x27\x27s (1 - 2)\x27 - -7 * NULL) AND true" =
        some Sample.invertedChain := by
  have hkeeps : Sample.inverted.KeepsSymbols := by decide
  have hrender : Sample.invertedChain.render Sample.invertedDialect =
      .text "(\x27it\x27\x27s (1 - 2)\x27 - -7 * NULL) AND true" := by rfl
  obtain ⟨content, hcontent, hread⟩ := Expression.read_render
    (.inr ⟨_, hkeeps, Sample.build_inverted⟩) Sample.invertedChain_isChain
  rw [hrender] at hcontent
  obtain rfl := Rendered.text.inj hcontent
  exact ⟨hkeeps, Sample.invertedChain_isChain, hrender, hread⟩

end QueryAlgebra

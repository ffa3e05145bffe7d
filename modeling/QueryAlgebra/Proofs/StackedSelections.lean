import Mathlib.Data.List.Induction
import QueryAlgebra.Proofs.RoundTrip
import QueryAlgebra.Proofs.SelectionStack

/-!
# Stacked selections

Stacked selections share one clause, with `AND` between their predicates. There a disjunction is put
in parentheses and a conjunction is not, although a disjunction may stand bare at the left end of
it. As `AND` and `OR` bind equally tight, all that stands in front of such a predicate is then taken
into the left operand of its disjunction.

The clause means the conjunction of the predicates unless the right operand of such a disjunction
overrides a predicate in front of it that is false.
-/

namespace QueryAlgebra

open Reader

/-- Conjunctions and disjunctions of truth values that nest to the left. -/
inductive Condition where
  | literal (value : Bool)
  | and (left : Condition) (right : Bool)
  | or (left : Condition) (right : Bool)

namespace Condition

/-- The condition as a predicate. -/
def expression : Condition → Expression
  | .literal value => .boolean value
  | .and left right => .binary "and" left.expression (.boolean right)
  | .or left right => .binary "or" left.expression (.boolean right)

/-- The truth value of the condition. -/
def value : Condition → Bool
  | .literal value => value
  | .and left right => left.value && right
  | .or left right => left.value || right

/-- The truth value of the condition when `front` is conjoined to its first literal. -/
def after (front : Bool) : Condition → Bool
  | .literal value => front && value
  | .and left right => left.after front && right
  | .or left right => left.after front || right

/-- The truth value of a clause with the condition behind what has the value `front`. -/
def conjoin (front : Bool) : Condition → Bool
  | .or left right => front && (left.value || right)
  | condition => condition.after front

/-- Whether the condition is a conjunction that holds even behind what is false. -/
def overrides : Condition → Bool
  | .and left right => left.after false && right
  | _ => false

/-- Behind what is true a condition keeps its value. -/
theorem after_true (condition : Condition) : condition.after true = condition.value := by
  induction condition with
  | literal value => exact Bool.true_and value
  | and left right ih => rw [after, ih, value]
  | or left right ih => rw [after, ih, value]

/-- In a clause, too, a condition keeps its value behind what is true. -/
theorem conjoin_true (condition : Condition) : condition.conjoin true = condition.value := by
  cases condition with
  | or left right => exact Bool.true_and _
  | literal value => exact after_true _
  | and left right => exact after_true _

/-- Behind what is false the clause holds only if the condition overrides it. -/
theorem conjoin_false (condition : Condition) : condition.conjoin false = condition.overrides := by
  cases condition <;> rfl

/-- What holds behind what is false holds behind what is true. -/
theorem after_true_of_after_false (condition : Condition) (h : condition.after false = true) :
    condition.after true = true := by
  induction condition with
  | literal value => cases h
  | and left right ih =>
    obtain ⟨hleft, hright⟩ := (Bool.and_eq_true _ _).mp h
    rw [after, ih hleft, hright, Bool.and_self]
  | or left right ih =>
    obtain hleft | hright := (Bool.or_eq_true _ _).mp h
    · rw [after, ih hleft, Bool.true_or]
    · rw [after, hright, Bool.or_true]

/-- A condition that overrides what is false makes the clause hold behind everything. -/
theorem conjoin_of_overrides {condition : Condition} (h : condition.overrides = true)
    (front : Bool) : condition.conjoin front = true := by
  cases front with
  | false => rw [conjoin_false, h]
  | true =>
    cases condition with
    | and left right => exact after_true_of_after_false (.and left right) h
    | literal value => cases h
    | or left right => cases h

/-- Predicates that all hold keep what is true. -/
theorem foldl_conjoin_of_all {conditions : List Condition} (h : conditions.all value = true) :
    conditions.foldl conjoin true = true := by
  induction conditions with
  | nil => rfl
  | cons condition rest ih =>
    rw [List.all_cons, Bool.and_eq_true] at h
    rw [List.foldl_cons, conjoin_true, h.1, ih h.2]

/-- A clause holds although a predicate is false exactly if one that overrides stands behind it, and
all that follow hold. -/
theorem foldl_conjoin_and_not_all_iff (conditions : List Condition) :
    conditions.foldl conjoin true = true ∧ conditions.all value = false ↔
      ∃ earlier condition later, conditions = earlier ++ condition :: later ∧
        condition.overrides = true ∧ later.all value = true ∧ earlier.all value = false := by
  constructor
  · rintro ⟨hclause, hall⟩
    induction conditions using List.reverseRecOn with
    | nil => cases hall
    | append_singleton front last ih =>
      rw [List.foldl_append, List.foldl_cons, List.foldl_nil] at hclause
      cases hfront : front.foldl conjoin true with
      | false =>
        rw [hfront, conjoin_false] at hclause
        have hearlier : front.all value = false := by
          refine Bool.eq_false_iff.2 fun hfrontAll => ?_
          rw [foldl_conjoin_of_all hfrontAll] at hfront
          cases hfront
        exact ⟨front, last, [], rfl, hclause, rfl, hearlier⟩
      | true =>
        rw [hfront, conjoin_true] at hclause
        rw [List.all_append, List.all_cons, hclause, List.all_nil, Bool.and_true,
          Bool.and_true] at hall
        obtain ⟨earlier, condition, later, rfl, hoverrides, hlater, hearlier⟩ := ih hfront hall
        refine ⟨earlier, condition, later ++ [last], by simp, hoverrides, ?_, hearlier⟩
        rw [List.all_append, hlater, List.all_cons, hclause, List.all_nil]
        rfl
  · rintro ⟨earlier, condition, later, rfl, hoverrides, hlater, hearlier⟩
    refine ⟨?_, ?_⟩
    · rw [List.foldl_append, List.foldl_cons, conjoin_of_overrides hoverrides,
        foldl_conjoin_of_all hlater]
    · rw [List.all_append, hearlier, Bool.false_and]

/-- A clause has the value of the conjunction unless a predicate overrides a false one. -/
theorem foldl_conjoin_eq_all_iff (conditions : List Condition) :
    conditions.foldl conjoin true = conditions.all value ↔
      ¬ ∃ earlier condition later, conditions = earlier ++ condition :: later ∧
        condition.overrides = true ∧ later.all value = true ∧ earlier.all value = false := by
  rw [← foldl_conjoin_and_not_all_iff]
  cases hall : conditions.all value with
  | true => simp [foldl_conjoin_of_all hall]
  | false => simp

end Condition

/-- The truth value of conjunctions and disjunctions of truth values. -/
def Expression.truth? : Expression → Option Bool
  | .boolean value => some value
  | .binary "and" left right => return (← left.truth?) && (← right.truth?)
  | .binary "or" left right => return (← left.truth?) || (← right.truth?)
  | _ => none
termination_by structural expression => expression

namespace Reader

/-- The truth value of what stands in front of a predicate. Nothing does at the start of a group. -/
def Pending.truth? : Pending → Option Bool
  | .start => some true
  | .behind spine "and" => spine.expression.truth?
  | _ => none

/-- No standard operator binds looser than conjunction and disjunction. -/
theorem bindsLooser_logical {operator : String} (hlogical : operator = "and" ∨ operator = "or")
    (inner : String) : bindsLooser .standard inner operator = false := by
  have hlowest : ∀ entry ∈ OperatorTable.standardBinary, ¬ entry.2.precedence < 110 := by decide
  have hequal : ∃ outer,
      Dialect.standard.binary? operator = some outer ∧ outer.precedence = 110 := by
    obtain rfl | rfl := hlogical
    · exact ⟨_, rfl, rfl⟩
    · exact ⟨_, rfl, rfl⟩
  obtain ⟨outer, houter, hprecedence⟩ := hequal
  cases hinner : Dialect.standard.binary? inner with
  | none =>
    rw [bindsLooser, houter, hinner]
    rfl
  | some found =>
    have hfound := hlowest _ (OperatorTable.mem_of_find? hinner)
    rw [← hprecedence] at hfound
    rw [bindsLooser, houter, hinner, Option.any_some, Option.any_some]
    exact decide_eq_false hfound

/-- Conjunction and disjunction take all that was read of the group as their left operand. -/
theorem Spine.extend_logical {operator : String} (hlogical : operator = "and" ∨ operator = "or")
    (spine : Spine) (operand : Expression) :
    spine.extend .standard operator operand =
      .application operator spine.expression (.operand operand) := by
  cases spine with
  | operand expression => rfl
  | application inner left right =>
    rw [Spine.extend, bindsLooser_logical hlogical, if_neg Bool.false_ne_true, Spine.expression]

/-- An operand with a truth value is conjoined to what stands in front of it. -/
theorem Pending.truth?_fill {pending : Pending} {front value : Bool} {operand : Expression}
    (hfront : pending.truth? = some front) (hoperand : operand.truth? = some value) :
    (pending.fill .standard operand).expression.truth? = some (front && value) := by
  unfold Pending.truth? at hfront
  split at hfront
  · obtain rfl := Option.some.inj hfront
    rw [Pending.fill, Spine.expression, hoperand, Bool.true_and]
  · rw [Pending.fill, Spine.extend_logical (.inl rfl), Spine.expression, Spine.expression,
      Expression.truth?, hfront, hoperand]
    rfl
  · cases hfront

end Reader

namespace Condition

/-- A condition has its truth value as a predicate. -/
theorem truth?_expression (condition : Condition) :
    condition.expression.truth? = some condition.value := by
  induction condition with
  | literal value => rfl
  | and left right ih =>
    rw [expression, Expression.truth?, ih, value]
    rfl
  | or left right ih =>
    rw [expression, Expression.truth?, ih, value]
    rfl

/-- A condition is a chain of standard operators. -/
theorem isChain_expression (condition : Condition) : condition.expression.IsChain .standard := by
  induction condition with
  | literal value => exact .literal rfl
  | and left right ih => exact .application rfl ih rfl
  | or left right ih => exact .application rfl ih rfl

/-- No condition is put in parentheses as a left operand of conjunction or disjunction. -/
theorem bindsLooser_expression {operator : String}
    (hlogical : operator = "and" ∨ operator = "or") (condition : Condition) :
    condition.expression.bindsLooser .standard operator = false := by
  cases condition with
  | literal value => rfl
  | and left right => exact bindsLooser_logical hlogical "and"
  | or left right => exact bindsLooser_logical hlogical "or"

/-- A bare condition lets what stands in front of it into its first literal. -/
theorem truth?_grow {pending : Pending} {front : Bool} (hfront : pending.truth? = some front)
    (condition : Condition) :
    (condition.expression.grow .standard pending).expression.truth? =
      some (condition.after front) := by
  induction condition with
  | literal value => exact Pending.truth?_fill hfront rfl
  | and left right ih =>
    rw [expression, Expression.grow, bindsLooser_expression (.inl rfl), if_neg Bool.false_ne_true,
      Spine.extend_logical (.inl rfl), Spine.expression, Expression.truth?, ih]
    rfl
  | or left right ih =>
    rw [expression, Expression.grow, bindsLooser_expression (.inr rfl), if_neg Bool.false_ne_true,
      Spine.extend_logical (.inr rfl), Spine.expression, Expression.truth?, ih]
    rfl

/-- The condition as one of several predicates in a clause. -/
def renderPart (condition : Condition) : Rendered :=
  (condition.expression.render .standard).parenthesizedIf
    (condition.expression.needsParentheses .standard)

/-- A predicate of a clause with several is read as the condition, conjoined to what stands in front
of it. -/
theorem exists_reads (condition : Condition) :
    ∃ content grow,
      condition.renderPart = .text content ∧ Reads .standard content grow ∧
        ∀ pending front, pending.truth? = some front →
          (grow pending).expression.truth? = some (condition.conjoin front) := by
  have hchain := condition.isChain_expression
  obtain ⟨content, hrender, hreads⟩ := hchain.reads_render Dialect.standard_spellsStandard
  cases condition with
  | or left right =>
    have hgroup := hreads.parenthesized
    rw [hchain.grow_start, Expression.expression_spine] at hgroup
    refine ⟨_, _, ?_, hgroup, fun pending front hfront => ?_⟩
    · rw [renderPart, hrender]
      rfl
    · exact Pending.truth?_fill hfront (truth?_expression (.or left right))
  | literal value =>
    exact ⟨content, _, hrender, hreads, fun pending front hfront =>
      truth?_grow hfront (.literal value)⟩
  | and left right =>
    exact ⟨content, _, hrender, hreads, fun pending front hfront =>
      truth?_grow hfront (.and left right)⟩

/-- Predicates with `AND` between them are read as the conditions, each conjoined to what stands in
front of it. -/
theorem exists_reads_join (first : Condition) (rest : List Condition) :
    ∃ content grow,
      Rendered.join " AND " ((first :: rest).map renderPart) = .text content ∧
        Reads .standard content grow ∧
        ∀ pending front, pending.truth? = some front →
          (grow pending).expression.truth? = some ((first :: rest).foldl conjoin front) := by
  induction rest generalizing first with
  | nil => exact first.exists_reads
  | cons next rest ih =>
    obtain ⟨content, grow, hrender, hreads, hgrow⟩ := first.exists_reads
    obtain ⟨contents, further, hrenders, hreadsFurther, hfurther⟩ := ih next
    have hand : Dialect.standard.binary? "and" =
        some ⟨"AND", [⟨[.boolean, .boolean], .boolean⟩], 110, .left⟩ := rfl
    have hspells := Dialect.standard_spellsStandard
    refine ⟨_, _, ?_, hreads.apply (hspells.scans_symbol hand) (hspells.operator?_symbol hand)
      hreadsFurther, fun pending front hfront => ?_⟩
    · rw [List.map_cons, Rendered.join, hrender, hrenders]
      · simp [String.append_assoc]
      · simp
    · exact hfurther _ _ (hgrow pending front hfront)

/-- The clause of a non-empty list of conditions is read as a predicate that has the value of the
conditions, each conjoined to what stands in front of it. -/
theorem exists_clause (keyword : String) (first : Condition) (rest : List Condition) :
    ∃ clause,
      Expression.renderFilters .standard keyword ((first :: rest).map expression) =
          .text (keyword ++ clause) ∧
        (Reader.read .standard clause).bind Expression.truth? =
          some ((first :: rest).foldl conjoin true) := by
  cases rest with
  | nil =>
    -- a single predicate stands bare, at the start of the clause
    obtain ⟨clause, hrender, hreads⟩ :=
      first.isChain_expression.reads_render Dialect.standard_spellsStandard
    refine ⟨clause, ?_, ?_⟩
    · rw [List.map_cons, List.map_nil, Expression.renderFilters, hrender]
      rfl
    · rw [hreads.read_eq, Option.bind_some, truth?_grow rfl, after_true, List.foldl_cons,
        List.foldl_nil, conjoin_true]
  | cons next rest =>
    obtain ⟨clause, grow, hrender, hreads, hgrow⟩ := exists_reads_join first (next :: rest)
    refine ⟨clause, ?_, ?_⟩
    · have hjoin : Expression.renderFilters .standard keyword
          ((first :: next :: rest).map expression) =
          keyword ++ Rendered.join " AND " (((first :: next :: rest).map expression).map
            fun predicate => (predicate.render .standard).parenthesizedIf
              (predicate.needsParentheses .standard)) := rfl
      rw [hjoin, List.map_map]
      exact congrArg (Rendered.text keyword ++ ·) hrender
    · rw [hreads.read_eq, Option.bind_some]
      exact hgrow .start true rfl

end Condition

namespace Relation

/-- In the standard dialect the clause of stacked selections is read as a predicate. It has the value
of the conjunction of the conditions unless one of them overrides a false condition in front of it
and all behind it hold. -/
theorem selections_conjoin_iff {base : Relation} {content : String}
    (hbase : base.isSelection = false) (hrender : base.render .standard = .text content)
    (first : Condition) (rest : List Condition) :
    ∃ clause value,
      (base.selectEach ((first :: rest).map Condition.expression)).render .standard =
          .text (content ++ base.filterKeyword ++ clause) ∧
        (Reader.read .standard clause).bind Expression.truth? = some value ∧
        (value = (first :: rest).all Condition.value ↔
          ¬ ∃ earlier condition later, first :: rest = earlier ++ condition :: later ∧
            condition.overrides = true ∧ later.all Condition.value = true ∧
            earlier.all Condition.value = false) := by
  obtain ⟨clause, hclause, hread⟩ := Condition.exists_clause base.filterKeyword first rest
  refine ⟨clause, _, ?_, hread, Condition.foldl_conjoin_eq_all_iff _⟩
  rw [render, renderFiltered_selectEach, List.append_nil, renderFiltered_eq_render hbase, hrender,
    hclause, Rendered.text_append_text, String.append_assoc]

end Relation

namespace Sample

/-- The numbers of the events, each once. -/
def eventNumbers : Relation :=
  (Relation.table events).groupBy [.single ((Relation.table events).column "id")] []

/-- A disjunction and a conjunction. -/
def plainConditions : List Condition := [.or (.literal true) false, .and (.literal true) false]

/-- A false condition, and a conjunction that overrides it. -/
def overridingConditions : List Condition :=
  [.literal false, .and (.or (.literal false) true) true]

end Sample

/-- The clause behind a group means the conjunction, as no condition overrides another. -/
theorem Relation.selections_conjoin_iff_eventNumbers :
    Sample.eventNumbers.isSelection = false ∧
      Sample.eventNumbers.render .standard =
        .text "SELECT events.id FROM events GROUP BY events.id" ∧
      ∃ clause value,
        (Sample.eventNumbers.selectEach (Sample.plainConditions.map Condition.expression)).render
            .standard =
          .text ("SELECT events.id FROM events GROUP BY events.id" ++ " HAVING " ++ clause) ∧
        (Reader.read .standard clause).bind Expression.truth? = some value ∧
        value = Sample.plainConditions.all Condition.value := by
  have hbase : Sample.eventNumbers.isSelection = false := rfl
  have hrender : Sample.eventNumbers.render .standard =
      .text "SELECT events.id FROM events GROUP BY events.id" := by rfl
  obtain ⟨clause, value, hclause, hread, hvalue⟩ :=
    Relation.selections_conjoin_iff hbase hrender (.or (.literal true) false)
      [.and (.literal true) false]
  refine ⟨hbase, hrender, clause, value, hclause, hread, hvalue.2 ?_⟩
  rw [← Condition.foldl_conjoin_eq_all_iff]
  rfl

/-- The clause of the overriding conditions holds although the first of them is false. -/
theorem Relation.overridden_selection :
    ((Relation.table Sample.events).selectEach
          (Sample.overridingConditions.map Condition.expression)).render .standard =
        .text "events WHERE false AND false OR true AND true" ∧
      (Reader.read .standard "false AND false OR true AND true").bind Expression.truth? =
        some true ∧
      Sample.overridingConditions.all Condition.value = false := by
  decide +kernel

end QueryAlgebra

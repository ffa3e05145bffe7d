import Mathlib.Data.List.Induction
import QueryAlgebra.Proofs.EqualTrees
import QueryAlgebra.Proofs.ErasedReasons
import QueryAlgebra.Proofs.Faults
import QueryAlgebra.Proofs.NameResolution

/-!
# Columns of a group

Repeated grouping expressions are dropped in two stages, within the grouping sets of an element and
then over all elements. Together the stages keep what a single pass keeps: of the expressions as
they are written, each one that equals none before it.

The first stage cannot be told from the columns. It leaves an element with an expression for each
one that is written, and what it drops the second stage would have dropped.
-/

namespace QueryAlgebra

namespace Expression

/-- The expressions that equal none at an earlier position. -/
def firstOccurrences (es : List Expression) : List Expression :=
  (es.zipIdx.filter fun entry => !(es.take entry.2).any (· == entry.1)).map Prod.fst

/-- A last expression is kept unless it equals one before it. -/
theorem firstOccurrences_concat (es : List Expression) (e : Expression) :
    firstOccurrences (es ++ [e]) =
      firstOccurrences es ++ if es.any (· == e) then [] else [e] := by
  -- What stands before a position of `es` is the same in both lists.
  have hbefore : (es.zipIdx.filter fun entry => !((es ++ [e]).take entry.2).any (· == entry.1)) =
      es.zipIdx.filter fun entry => !(es.take entry.2).any (· == entry.1) := by
    refine List.filter_congr fun entry hmem => ?_
    have hi : entry.2 < es.length := (List.mem_zipIdx' hmem).1
    rw [List.take_append_of_le_length (Nat.le_of_lt hi)]
  rw [firstOccurrences, List.zipIdx_append, List.filter_append, hbefore, List.map_append,
    List.zipIdx_singleton, Nat.zero_add, List.filter_singleton, List.take_left]
  cases es.any (· == e) <;> rfl

/-- Behind other expressions, those are kept that equal none of them. -/
theorem distinct_append (es later : List Expression) :
    distinct (es ++ later) =
      distinct es ++ (distinct later).filter fun e => !es.any (· == e) := by
  induction es with
  | nil => simp [distinct]
  | cons e es ih =>
    rw [List.cons_append, distinct, distinct, ih, List.filter_append, List.filter_filter,
      List.cons_append]
    simp only [List.any_cons, Bool.not_or]

/-- One pass keeps the first occurrences. -/
theorem distinct_eq_firstOccurrences (es : List Expression) :
    distinct es = firstOccurrences es := by
  -- From the end: whether an expression is kept depends on those before it.
  induction es using List.reverseRecOn with
  | nil => rfl
  | append_singleton es e ih =>
    rw [distinct_append, firstOccurrences_concat, ih]
    cases hrepeats : es.any (· == e) <;> simp [distinct, hrepeats]

/-- No two of the expressions that are kept are equal. -/
theorem pairwise_distinct (es : List Expression) :
    (distinct es).Pairwise fun e later => (e == later) = false := by
  induction es with
  | nil => exact .nil
  | cons e es ih =>
    refine .cons (fun later hlater => ?_) (ih.sublist List.filter_sublist)
    simpa using (List.mem_filter.1 hlater).2

/-- Where no two expressions are equal, all are kept. -/
theorem distinct_eq_self {es : List Expression}
    (h : es.Pairwise fun e later => (e == later) = false) : distinct es = es := by
  induction es with
  | nil => rfl
  | cons e es ih =>
    obtain ⟨hhead, htail⟩ := List.pairwise_cons.1 h
    rw [distinct, ih htail, List.filter_eq_self.2 fun later hlater => by simp [hhead later hlater]]

/-- Each expression is represented by one that is kept. -/
theorem exists_mem_distinct_beq {es : List Expression} {e : Expression} (h : e ∈ es) :
    ∃ kept ∈ distinct es, kept == e := by
  obtain ⟨kept, hkept, herased⟩ := exists_mem_distinct (fun _ _ => beq_iff_erased.1) h
  exact ⟨kept, hkept, beq_iff_erased.2 herased⟩

/-- What equals an expression equals one that is kept. -/
theorem any_distinct (es : List Expression) (e : Expression) :
    (distinct es).any (· == e) = es.any (· == e) := by
  rw [Bool.eq_iff_iff, List.any_eq_true, List.any_eq_true]
  constructor
  · rintro ⟨kept, hkept, hequal⟩
    exact ⟨kept, (distinct_sublist es).subset hkept, hequal⟩
  · rintro ⟨e', he', hequal⟩
    obtain ⟨kept, hkept, hrepresents⟩ := exists_mem_distinct_beq he'
    exact ⟨kept, hkept, BEq.trans hrepresents hequal⟩

end Expression

namespace Grouping

open Expression

/-- A pass over an element as a whole makes up for the pass within its grouping sets. -/
theorem distinct_expressions (element : Grouping) :
    distinct element.expressions = distinct element.written := by
  cases element with
  | sets lists => exact distinct_eq_self (pairwise_distinct lists.flatten)
  | _ => rfl

/-- What is written in an element equals one of the expressions that the element has. -/
theorem any_expressions (element : Grouping) (e : Expression) :
    element.expressions.any (· == e) = element.written.any (· == e) := by
  cases element with
  | sets lists => exact any_distinct lists.flatten e
  | _ => rfl

/-- A pass over all elements makes up for the passes within the grouping sets. -/
theorem distinct_flatMap_expressions (grouping : List Grouping) :
    distinct (grouping.flatMap expressions) = distinct (grouping.flatMap written) := by
  induction grouping with
  | nil => rfl
  | cons element rest ih =>
    rw [List.flatMap_cons, List.flatMap_cons, distinct_append, distinct_append, ih,
      distinct_expressions]
    simp only [any_expressions]

/-- The expressions written in the elements, each at its first occurrence only. -/
def firstWritten (grouping : List Grouping) : List Expression :=
  firstOccurrences (grouping.flatMap written)

/-- One pass over what is written gives the grouping columns. -/
theorem distinct_eq_firstWritten (grouping : List Grouping) :
    distinct (grouping.flatMap expressions) = firstWritten grouping := by
  rw [distinct_flatMap_expressions, distinct_eq_firstOccurrences, firstWritten]

end Grouping

/-- The columns of a group are the expressions written in its elements, each at its first
occurrence, and the aggregates behind them. No two of the former are equal, each expression that is
written is represented among them, and they are the same without the pass within the grouping sets.
The group has an attribute for each column, in the order of the columns. -/
theorem Relation.group_columns_first_written (input : Relation) (grouping : List Grouping)
    (aggregates : List Expression) :
    Grouping.columns grouping aggregates = Grouping.firstWritten grouping ++ aggregates ∧
      (Grouping.firstWritten grouping).Pairwise (fun e later => (e == later) = false) ∧
      (∀ e ∈ grouping.flatMap Grouping.written, ∃ kept ∈ Grouping.firstWritten grouping,
        kept == e) ∧
      Expression.distinct (grouping.flatMap Grouping.expressions) =
        Expression.distinct (grouping.flatMap Grouping.written) ∧
      (input.groupBy grouping aggregates).projectedExpressions =
        Grouping.firstWritten grouping ++ aggregates ∧
      (input.groupBy grouping aggregates).attributes =
        (Grouping.firstWritten grouping ++ aggregates).mapIdx fun position column =>
          { index := indexAmong
              ((Grouping.firstWritten grouping ++ aggregates).map Expression.displayName) position
            name := column.displayName
            owner := input.groupBy grouping aggregates } := by
  have hkept := Grouping.distinct_eq_firstWritten grouping
  have hcolumns : Grouping.columns grouping aggregates =
      Grouping.firstWritten grouping ++ aggregates := by
    rw [Grouping.columns, hkept]
  refine ⟨hcolumns, ?_, fun e he => ?_, Grouping.distinct_flatMap_expressions grouping,
    hcolumns, ?_⟩
  · rw [← hkept]
    exact Expression.pairwise_distinct _
  · rw [← hkept, Grouping.distinct_flatMap_expressions]
    exact Expression.exists_mem_distinct_beq he
  · rw [← hcolumns]
    exact AttributeReference.collect_eq_mapIdx _ _

namespace Sample

/-- Elements of all kinds in which the columns of the events are repeated. -/
def repeatedGrouping : List Grouping :=
  let events := Relation.table events
  [.sets [[events.column "id", events.column "name"], [], [events.column "id"]],
    .single (events.column "name"),
    .cube [events.column "value", events.column "value"],
    .rollup [events.column "id", .named (events.column "id") "id"]]

end Sample

/-- Of the eight expressions written above four are kept. The last of them, the first one under a
name, is no repetition; the two columns named alike are ambiguous. -/
theorem Relation.group_columns_first_written_repeated :
    (Relation.table Sample.events).column "value" ∈
        Sample.repeatedGrouping.flatMap Grouping.written ∧
      (∃ kept ∈ Grouping.firstWritten Sample.repeatedGrouping,
        kept == (Relation.table Sample.events).column "value") ∧
      (((Relation.table Sample.events).groupBy Sample.repeatedGrouping
          [.call "count" []]).attributes.map fun reference => (reference.index, reference.name)) =
        [(.ambiguous, some "id"), (.concrete 1, some "name"), (.concrete 2, some "value"),
          (.ambiguous, some "id"), (.concrete 4, Option.none)] := by
  have hwritten : (Relation.table Sample.events).column "value" ∈
      Sample.repeatedGrouping.flatMap Grouping.written :=
    List.mem_flatMap.2 ⟨_, List.mem_cons_of_mem _ (List.mem_cons_of_mem _ List.mem_cons_self),
      List.mem_cons_self⟩
  obtain ⟨-, -, hrepresented, -⟩ := Relation.group_columns_first_written
    (.table Sample.events) Sample.repeatedGrouping [.call "count" []]
  exact ⟨hwritten, hrepresented _ hwritten, by decide +kernel⟩

end QueryAlgebra

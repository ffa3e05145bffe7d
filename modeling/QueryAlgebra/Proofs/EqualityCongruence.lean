import QueryAlgebra.Proofs.EqualTrees
import QueryAlgebra.Proofs.ErasedReasons
import QueryAlgebra.Proofs.TypingDescent

/-!
# Equality is a congruence

Rendering, names and errors do not read the types of columns, so equal trees agree in them. Typing
does read them, but it compares types only by the equality that passes over reasons, so equal
expressions have equal types, though an error type may give another reason.

Each fact is shown between a tree and what is left of it when the reasons are erased.
-/

namespace QueryAlgebra

/-! ## Names -/

/-- Erasing keeps the name of a relation. -/
@[simp] theorem Relation.qualifiedName?_erased (relation : Relation) :
    relation.erased.qualifiedName? = relation.qualifiedName? := by
  cases relation <;> rfl

/-- Erasing keeps the description of a relation. -/
@[simp] theorem Relation.description_erased (relation : Relation) :
    relation.erased.description = relation.description := by
  simp [description]

namespace AttributeReference

/-- Erasing keeps the index of a reference. -/
@[simp] theorem index_erased (reference : AttributeReference) :
    reference.erased.index = reference.index := by
  cases reference
  rfl

/-- Erasing keeps the name of a reference. -/
@[simp] theorem name_erased (reference : AttributeReference) :
    reference.erased.name = reference.name := by
  cases reference
  rfl

/-- Erasing a reference erases its owner. -/
@[simp] theorem owner_erased (reference : AttributeReference) :
    reference.erased.owner = reference.owner.erased := by
  cases reference
  rfl

/-- Erasing keeps what a reference resolves to. -/
@[simp] theorem resolve_erased (reference : AttributeReference) :
    reference.erased.resolve = reference.resolve := by
  simp [resolve]

/-- Erasing keeps the error that a reference stands for. -/
@[simp] theorem error?_erased (reference : AttributeReference) :
    reference.erased.error? = reference.error? := by
  simp [error?]

/-- Erasing keeps how a reference appears in messages. -/
@[simp] theorem display_erased (reference : AttributeReference) :
    reference.erased.display = reference.display := by
  simp [display]

/-- Erasing keeps the text of a reference. -/
@[simp] theorem render_erased (reference : AttributeReference) :
    reference.erased.render = reference.render := by
  simp [render]

end AttributeReference

namespace Expression

/-- Erasing keeps the name of an expression. -/
@[simp] theorem displayName_erased (e : Expression) : e.erased.displayName = e.displayName := by
  cases e with
  | reference target => exact target.name_erased
  | _ => rfl

/-- An expression equals what is left of it. -/
theorem erased_beq (e : Expression) : e.erased == e :=
  beq_iff_erased.2 (erased_erased e)

end Expression

/-! ## Grouping -/

/-- Erased expressions equal each other when the expressions do. -/
@[simp] theorem Expression.erased_beq_erased (e e' : Expression) :
    (e.erased == e'.erased) = (e == e') := by
  rw [Bool.eq_iff_iff, beq_iff_erased, beq_iff_erased, erased_erased, erased_erased]

/-- The same repetitions are dropped among erased expressions. -/
theorem Expression.distinct_map_erased (es : List Expression) :
    distinct (es.map erased) = (distinct es).map erased := by
  induction es with
  | nil => rfl
  | cons e es ih => simp [distinct, ih, List.filter_map, Function.comp_def]

/-- Erasing an element erases its expressions. -/
theorem Grouping.expressions_erased (element : Grouping) :
    element.erased.expressions = element.expressions.map Expression.erased := by
  cases element with
  | sets lists =>
    simp [erased, expressions, ← Expression.distinct_map_erased, List.map_flatten]
  | _ => simp [erased, expressions]

/-- Erasing a group erases its columns. -/
theorem Grouping.columns_erased (grouping : List Grouping) (aggregates : List Expression) :
    columns (grouping.map erased) (aggregates.map Expression.erased) =
      (columns grouping aggregates).map Expression.erased := by
  simp [columns, List.flatMap_map, expressions_erased, ← List.map_flatMap,
    Expression.distinct_map_erased]

/-! ## Rendering -/

variable (dialect : Dialect)

namespace Expression

/-- Erasing keeps the operator at the root. -/
@[simp] theorem hasPrecedence_erased (property : Int32 → Bool) (e : Expression) :
    e.erased.hasPrecedence dialect property = e.hasPrecedence dialect property := by
  cases e <;> rfl

/-- Erasing keeps the operator at the root. -/
@[simp] theorem needsParentheses_erased (e : Expression) :
    e.erased.needsParentheses dialect = e.needsParentheses dialect := by
  cases e with
  | binary operator left right =>
    by_cases hand : operator = "and"
    · subst hand
      rfl
    · simp [erased, needsParentheses, hand, hasPrecedence]
  | _ => rfl

/-- Erasing keeps the text of an expression. -/
@[simp] theorem render_erased (e : Expression) : e.erased.render dialect = e.render dialect := by
  induction e with
  | binary operator left right ihl ihr => simp [erased, render, ihl, ihr]
  | unary operator operand ih => simp [erased, render, ih]
  | call function arguments ih =>
    have harguments : (arguments.map erased).map (render dialect) =
        arguments.map (render dialect) := by simpa using ih
    simp only [erased, render, erasedList_eq_map, renderAll_eq_map, harguments]
  | named e name ih => simp [erased, render, ih]
  | reference target => simp [erased, render]
  | _ => rfl

/-- Erasing keeps the text of a grouping expression. -/
@[simp] theorem renderGrouping_erased (e : Expression) :
    e.erased.renderGrouping dialect = e.renderGrouping dialect := by
  cases e with
  | named e name => exact render_erased dialect e
  | _ => exact render_erased dialect _

/-- Erasing keeps the texts of a list. -/
@[simp] theorem renderList_erased (es : List Expression) :
    renderList dialect (es.map erased) = renderList dialect es := by
  simp [renderList, Function.comp_def]

/-- Erasing keeps the text of a clause of filters. -/
@[simp] theorem renderFilters_erased (keyword : String) (filters : List Expression) :
    renderFilters dialect keyword (filters.map erased) =
      renderFilters dialect keyword filters := by
  match filters with
  | [] => rfl
  | [filter] => simp [renderFilters]
  | first :: second :: rest => simp [renderFilters, Function.comp_def]

end Expression

/-- Erasing keeps the text of a grouping element. -/
@[simp] theorem Grouping.render_erased (element : Grouping) :
    element.erased.render dialect = element.render dialect := by
  cases element <;> simp [erased, render, renderSet, Function.comp_def]

/-- Erasing keeps the text of the clause. -/
@[simp] theorem Grouping.renderClause_erased (grouping : List Grouping) :
    renderClause dialect (grouping.map erased) = renderClause dialect grouping := by
  cases grouping <;> simp [renderClause, Function.comp_def]

namespace Relation

/-- Erasing leaves no relation to be no relation. -/
@[simp] theorem fromClause_erased (input : Relation) (rendered : Rendered) :
    input.erased.fromClause rendered = input.fromClause rendered := by
  cases input <;> rfl

/-- Erasing keeps the text of a relation, under filters that are erased as well. -/
theorem renderFiltered_erased (relation : Relation) (filters : List Expression) :
    relation.erased.renderFiltered dialect (filters.map Expression.erased) =
      relation.renderFiltered dialect filters := by
  have hnone {input : Relation}
      (ih : ∀ filters, input.erased.renderFiltered dialect (filters.map Expression.erased) =
        input.renderFiltered dialect filters) :
      input.erased.renderFiltered dialect [] = input.renderFiltered dialect [] := ih []
  induction relation generalizing filters with
  | none => simp [erased, renderFiltered, withFilters]
  | table base => simp [erased, renderFiltered, withFilters, filterKeyword, Table.erased]
  | projection columns input ih =>
    simp [erased, renderFiltered, withFilters, filterKeyword, hnone ih]
  | selection predicate input ih =>
    simpa [erased, renderFiltered] using ih (predicate :: filters)
  | renamed name input ih =>
    simp [erased, renderFiltered, withFilters, filterKeyword, hnone ih]
  | join kind left right condition ihl ihr =>
    cases condition <;>
      simp [erased, renderFiltered, withFilters, filterKeyword, hnone ihl, hnone ihr]
  | group grouping aggregates input ih =>
    simp [erased, renderFiltered, withFilters, filterKeyword, hnone ih, Grouping.columns_erased]
  | error input cause ih => simp [erased, renderFiltered, withFilters, filterKeyword]

/-- Erasing keeps the text of a relation. -/
@[simp] theorem render_erased (relation : Relation) :
    relation.erased.render dialect = relation.render dialect :=
  relation.renderFiltered_erased dialect []

end Relation

/-! ## Attributes and errors -/

/-- Erasing columns erases the references to them. -/
theorem AttributeReference.collect_erased (columns : List Expression) (owner : Relation) :
    collect (columns.map Expression.erased) owner.erased =
      (collect columns owner).map erased := by
  have hnames : (columns.map Expression.erased).map Expression.displayName =
      columns.map Expression.displayName := by simp [Function.comp_def]
  have hambiguous :
      (KeyedList.ofList (columns.map Expression.erased) Expression.displayName).isAmbiguous =
        (KeyedList.ofList columns Expression.displayName).isAmbiguous := by
    funext name
    simp only [KeyedList.isAmbiguous, KeyedList.ambiguous, KeyedList.ofList, hnames]
  refine List.ext_getElem (by simp) fun i h h' => ?_
  have hi : i < columns.length := by simpa using h
  rw [List.getElem_map, getElem_collect _ _ i h (by simpa using hi),
    getElem_collect columns owner i (by simpa using hi) hi]
  simp [erased, hambiguous]

namespace Relation

/-- Erasing a relation erases its attributes. -/
theorem attributes_erased (relation : Relation) :
    relation.erased.attributes = relation.attributes.map AttributeReference.erased := by
  induction relation with
  | none => rfl
  | table base =>
    refine List.ext_getElem (by simp [erased, attributes, Table.erased]) fun i h h' => ?_
    simp [erased, attributes, Table.erased, Column.erased, AttributeReference.erased]
  | projection columns input ih =>
    simpa [erased, attributes] using
      AttributeReference.collect_erased columns (.projection columns input)
  | selection predicate input ih => exact ih
  | renamed name input ih =>
    simp [erased, attributes, ih, AttributeReference.withOwner, AttributeReference.erased]
  | join kind left right condition ihl ihr => simp [erased, attributes, ihl, ihr]
  | group grouping aggregates input ih =>
    simpa [erased, attributes, Grouping.columns_erased] using
      AttributeReference.collect_erased _ (.group grouping aggregates input)
  | error input cause ih => rfl

/-- Erasing keeps the errors of a relation. -/
theorem errors_erased (relation : Relation) : relation.erased.errors = relation.errors := by
  have hattribute (e : Expression) : e.erased.attributeErrors = e.attributeErrors :=
    Expression.attributeErrors_of_beq e.erased_beq
  induction relation with
  | none => rfl
  | table base => rfl
  | projection columns input ih => simp [erased, errors, ih, List.flatMap_map, hattribute]
  | selection predicate input ih => simp [erased, errors, ih, hattribute]
  | renamed name input ih => exact ih
  | join kind left right condition ihl ihr =>
    cases condition <;> simp [erased, errors, ihl, ihr, hattribute]
  | group grouping aggregates input ih =>
    simp [erased, errors, ih, List.flatMap_map, Grouping.expressions_erased, hattribute]
  | error input cause ih => simp [erased, errors, ih]

end Relation

/-! ## Typing -/

/-- Whether a signature accepts arguments does not depend on the reasons of error types. -/
theorem Signature.accepts_map_erased (signature : Signature) (arguments : List DataType) :
    signature.accepts (arguments.map DataType.erased) = signature.accepts arguments := by
  have hfits (parameter argument : DataType) :
      (parameter == argument.erased) = (parameter == argument) := by
    rw [Bool.eq_iff_iff, DataType.beq_iff_erased, DataType.beq_iff_erased]
    cases argument <;> rfl
  simp [accepts, List.zip_map_right, Function.comp_def, hfits]

/-- Arguments that are identical up to the reasons give results that are. -/
theorem Signature.erased_resultType {kind name : String} {signatures : List Signature}
    {arguments arguments' : List DataType}
    (h : arguments.map DataType.erased = arguments'.map DataType.erased) :
    (resultType kind name signatures arguments).erased =
      (resultType kind name signatures arguments').erased := by
  have haccepts (signature : Signature) :
      signature.accepts arguments = signature.accepts arguments' := by
    rw [← accepts_map_erased, h, accepts_map_erased]
  have hresolve : resolve? signatures arguments = resolve? signatures arguments' := by
    simp only [resolve?, haccepts]
  rw [resultType, resultType, hresolve]
  cases resolve? signatures arguments' <;> rfl

/-- The attributes that agree with an erased reference are those that agree with the reference,
erased. -/
theorem Relation.attributesLike_erased (relation : Relation) (reference : AttributeReference) :
    relation.erased.attributesLike reference.erased =
      (relation.attributesLike reference).map AttributeReference.erased := by
  simp [attributesLike, attributes_erased, List.filter_map, Function.comp_def]

/-- Erasing keeps the type of a usable reference up to its reason, if it keeps the types that it is
found from. -/
theorem AttributeReference.erased_typeIn {reference : AttributeReference} {owner : Relation}
    (hcolumns : owner.computesColumns → ∀ column ∈ owner.projectedExpressions,
      (column.erased.infer dialect).erased = (column.infer dialect).erased)
    (hsources : ∀ label input, owner = .renaming label input → ∀ source ∈ input.attributes,
      (source.erased.infer dialect).erased = (source.infer dialect).erased) (position : Nat) :
    (reference.erased.typeIn dialect position owner.erased).erased =
      (reference.typeIn dialect position owner).erased := by
  cases owner with
  | table base =>
    simp only [Relation.erased, typeIn, Table.erased, List.getElem?_map]
    cases base.columns[position]? with
    | none => rfl
    | some column => obtain ⟨name, type⟩ := column; cases type <;> rfl
  | projection columns input =>
    simp only [Relation.erased, typeIn, Expression.erasedList_eq_map, List.getElem?_map]
    cases hcolumn : columns[position]? with
    | none => rfl
    | some column => exact hcolumns rfl column (List.mem_of_getElem? hcolumn)
  | group grouping aggregates input =>
    simp only [Relation.erased, typeIn, Expression.erasedList_eq_map, Grouping.erasedList_eq_map,
      Grouping.columns_erased, List.getElem?_map]
    cases hcolumn : (Grouping.columns grouping aggregates)[position]? with
    | none => rfl
    | some column => exact hcolumns rfl column (List.mem_of_getElem? hcolumn)
  | «renaming» label input =>
    simp only [Relation.erased, typeIn, Relation.attributesLike_erased]
    cases hlike : input.attributesLike reference with
    | nil => rfl
    | cons source rest =>
      cases rest with
      | nil =>
        have hmem : source ∈ input.attributesLike reference := by
          rw [hlike]
          exact List.mem_cons_self
        exact hsources label input rfl source (List.mem_filter.1 hmem).1
      | cons second others => rfl
  | _ => rfl

/-- Erasing an expression or a reference keeps its type up to the reason. -/
theorem erased_infer :
    (∀ e : Expression, (e.erased.infer dialect).erased = (e.infer dialect).erased) ∧
      ∀ reference : AttributeReference,
        (reference.erased.infer dialect).erased = (reference.infer dialect).erased := by
  refine typingInduction (fun e ihchildren ihtarget => ?_) fun reference ihcolumns ihsources => ?_
  · cases e with
    | binary name left right =>
      have hleft := ihchildren left (by simp [Expression.children])
      have hright := ihchildren right (by simp [Expression.children])
      simp only [Expression.erased, Expression.infer]
      cases dialect.binary? name with
      | none => rfl
      | some operator => exact Signature.erased_resultType (by simp [hleft, hright])
    | unary name operand =>
      have hoperand := ihchildren operand (by simp [Expression.children])
      simp only [Expression.erased, Expression.infer]
      cases dialect.unary? name with
      | none => rfl
      | some operator => exact Signature.erased_resultType (by simp [hoperand])
    | call function arguments =>
      have harguments : ∀ argument ∈ arguments,
          (argument.erased.infer dialect).erased = (argument.infer dialect).erased := ihchildren
      simp only [Expression.erased, Expression.infer, Expression.erasedList_eq_map]
      exact Signature.erased_resultType (by simpa using harguments)
    | named expression name =>
      simp only [Expression.erased, Expression.infer]
      exact ihchildren expression (by simp [Expression.children])
    | reference target =>
      simp only [Expression.erased, Expression.infer]
      exact ihtarget target rfl
    | _ => rfl
  · rw [AttributeReference.infer_eq, AttributeReference.infer_eq,
      AttributeReference.resolve_erased, AttributeReference.owner_erased]
    cases reference.resolve with
    | error cause => rfl
    | ok place =>
      exact AttributeReference.erased_typeIn dialect ihcolumns ihsources place.1

/-! ## Congruence -/

/-- Equality of types, tables, references, expressions and relations is an equivalence, and types
are equal when they agree in dialect, in name and in being an error. Equal expressions have the same
text or the same errors of rendering, the same name and equal types. Equal relations have the same
text or the same errors of rendering, equal attributes in the same places and the same errors. -/
theorem equality_congruence :
    (∀ type type' : DataType, type == type' ↔
      type.dialect = type'.dialect ∧ type.name = type'.name ∧ type.isError = type'.isError) ∧
    (Equivalence fun type type' : DataType => type == type') ∧
    (Equivalence fun table table' : Table => table == table') ∧
    (Equivalence fun reference reference' : AttributeReference => reference == reference') ∧
    (Equivalence fun e e' : Expression => e == e') ∧
    (Equivalence fun relation relation' : Relation => relation == relation') ∧
    (∀ e e' : Expression, e == e' →
      e.render dialect = e'.render dialect ∧ e.displayName = e'.displayName ∧
        e.infer dialect == e'.infer dialect) ∧
    ∀ relation relation' : Relation, relation == relation' →
      relation.render dialect = relation'.render dialect ∧
        List.Forall₂ (fun reference reference' => reference == reference') relation.attributes
          relation'.attributes ∧
        relation.errors = relation'.errors := by
  have hequivalence {α : Type} [BEq α] [EquivBEq α] : Equivalence fun a b : α => a == b :=
    ⟨fun a => BEq.rfl, BEq.symm, BEq.trans⟩
  refine ⟨fun _ _ => DataType.beq_iff, hequivalence, hequivalence, hequivalence, hequivalence,
    hequivalence, fun e e' h => ?_, fun relation relation' h => ?_⟩
  · have herased := Expression.beq_iff_erased.1 h
    refine ⟨?_, ?_, DataType.beq_iff_erased.2 ?_⟩
    · rw [← e.render_erased, herased, e'.render_erased]
    · rw [← e.displayName_erased, herased, e'.displayName_erased]
    · rw [← (erased_infer dialect).1 e, herased, (erased_infer dialect).1 e']
  · have herased := Relation.beq_iff_erased.1 h
    refine ⟨?_, ?_, ?_⟩
    · rw [← relation.render_erased, herased, relation'.render_erased]
    · have hattributes := congrArg Relation.attributes herased
      rw [Relation.attributes_erased, Relation.attributes_erased, ← List.forall₂_eq_eq_eq,
        List.forall₂_map_left_iff, List.forall₂_map_right_iff] at hattributes
      exact hattributes.imp fun _ _ => AttributeReference.beq_iff_erased.2
    · rw [← relation.errors_erased, herased, relation'.errors_erased]

namespace Sample

/-- Readings whose only column has no type, for the given reason. -/
def readings (reason : String) : Relation :=
  .table { name := "readings", columns := [⟨"value", .error reason⟩] }

/-- A value read, under another name of the readings. -/
def reading (reason : String) : Expression :=
  ((readings reason).renamed "r").column "value"

/-- The readings grouped by their value, which is written once for each of two reasons. -/
def groupedReadings (reason reason' : String) : Relation :=
  ((readings reason).renamed "r").groupBy [.single (reading reason), .single (reading reason')]
    [.named (.call "count" [reading reason]) "n"]

end Sample

/-- Readings that lack a type for different reasons are equal and hence render alike, though their
types tell the reasons apart. -/
theorem equality_congruence_readings :
    Sample.reading "lost" == Sample.reading "late" ∧
      ((Sample.reading "lost").infer .standard).reason? = some "lost" ∧
      ((Sample.reading "late").infer .standard).reason? = some "late" ∧
      ((Sample.reading "lost").render .standard = (Sample.reading "late").render .standard ∧
        (Sample.reading "lost").displayName = (Sample.reading "late").displayName ∧
        (Sample.reading "lost").infer .standard == (Sample.reading "late").infer .standard) ∧
      Sample.groupedReadings "lost" "late" == Sample.groupedReadings "late" "late" ∧
      (Sample.groupedReadings "lost" "late").render .standard =
        (Sample.groupedReadings "late" "late").render .standard ∧
      List.Forall₂ (fun reference reference' => reference == reference')
        (Sample.groupedReadings "lost" "late").attributes
        (Sample.groupedReadings "late" "late").attributes ∧
      (Sample.groupedReadings "lost" "late").errors =
        (Sample.groupedReadings "late" "late").errors := by
  obtain ⟨_, _, _, _, _, _, hexpression, hrelation⟩ := equality_congruence .standard
  have hreading : Sample.reading "lost" == Sample.reading "late" := by decide
  have hgrouped : Sample.groupedReadings "lost" "late" == Sample.groupedReadings "late" "late" := by
    decide
  exact ⟨hreading, by decide +kernel, by decide +kernel, hexpression _ _ hreading, hgrouped,
    hrelation _ _ hgrouped⟩

end QueryAlgebra

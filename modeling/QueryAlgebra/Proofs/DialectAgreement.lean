import QueryAlgebra.Proofs.DialectMerge
import QueryAlgebra.Proofs.Faults
import QueryAlgebra.Proofs.Ownership
import QueryAlgebra.Proofs.TypingDescent

/-!
# What a dialect is read for

Rendering looks up the operators that a tree applies, and `and` to join the predicates of a clause.
Of each it reads the symbol and the precedence. Typing looks up the operators and functions that an
expression applies, and those behind its references, and reads their signatures.

Two dialects that agree there cannot be told apart by the tree, whatever else they have.
-/

namespace QueryAlgebra

/-- What rendering reads of an operator. -/
def Operator.spelling (operator : Operator) : String × Int32 :=
  (operator.symbol, operator.precedence)

variable {dialect other : Dialect}

/-! ## Rendering -/

namespace Expression

variable (dialect other) in
/-- Whether the dialects agree in the spelling of the operator at the root, if there is one. -/
def RootSpelledAlike : Expression → Prop
  | .binary name _ _ =>
    (dialect.binary? name).map Operator.spelling = (other.binary? name).map Operator.spelling
  | .unary name _ =>
    (dialect.unary? name).map Operator.spelling = (other.unary? name).map Operator.spelling
  | _ => True

variable (dialect other) in
/-- Whether the dialects agree in the spelling of all operators of the expression: each is unknown
to both, or has one symbol and one precedence. -/
def SpelledAlike (expression : Expression) : Prop :=
  ∀ node ∈ expression.nodes, node.RootSpelledAlike dialect other

/-- An expression is the first of its nodes. -/
theorem mem_nodes_self (expression : Expression) : expression ∈ expression.nodes := by
  rw [nodes_eq_cons]
  exact List.mem_cons_self

/-- The nodes of a child are nodes of the expression. -/
theorem nodes_subset_of_mem_children {expression child : Expression}
    (hchild : child ∈ expression.children) : child.nodes ⊆ expression.nodes := by
  intro node hnode
  rw [nodes_eq_cons]
  exact List.mem_cons_of_mem _ (List.mem_flatMap.2 ⟨child, hchild, hnode⟩)

/-- The children of an expression that is spelled alike are spelled alike. -/
theorem SpelledAlike.child {expression child : Expression}
    (h : expression.SpelledAlike dialect other) (hchild : child ∈ expression.children) :
    child.SpelledAlike dialect other :=
  fun node hnode => h node (nodes_subset_of_mem_children hchild hnode)

/-- The precedence of an operator is read off its spelling. -/
theorem hasPrecedence_binary (dialect : Dialect) (property : Int32 → Bool) (name : String)
    (left right : Expression) :
    (Expression.binary name left right).hasPrecedence dialect property =
      ((dialect.binary? name).map Operator.spelling).any fun spelling => property spelling.2 := by
  rw [hasPrecedence, Option.any_map]
  rfl

/-- An operator that is spelled alike has one precedence. -/
theorem hasPrecedence_congr {expression : Expression}
    (h : expression.RootSpelledAlike dialect other) (property : Int32 → Bool) :
    expression.hasPrecedence dialect property = expression.hasPrecedence other property := by
  cases expression with
  | binary name left right =>
    have hspelling : (dialect.binary? name).map Operator.spelling =
        (other.binary? name).map Operator.spelling := h
    rw [hasPrecedence_binary, hasPrecedence_binary, hspelling]
  | _ => rfl

/-- A binary application is written by the spelling of its operator. -/
theorem render_binary (dialect : Dialect) (name : String) (left right : Expression) :
    (Expression.binary name left right).render dialect =
      match (dialect.binary? name).map Operator.spelling with
      | some (symbol, precedence) =>
        (left.render dialect).parenthesizedIf (left.hasPrecedence dialect (· < precedence)) ++
          " " ++ symbol ++ " " ++ right.render dialect
      | none => .fail (.unknownBinary name) ++ left.render dialect ++ right.render dialect := by
  rw [render]
  cases dialect.binary? name with
  | none => rfl
  | some operator => rfl

/-- A unary application is written by the spelling of its operator. -/
theorem render_unary (dialect : Dialect) (name : String) (operand : Expression) :
    (Expression.unary name operand).render dialect =
      match (dialect.unary? name).map Operator.spelling with
      | some (symbol, _) => (symbol ++ " " : String) ++ operand.render dialect
      | none => .fail (.unknownUnary name) ++ operand.render dialect := by
  rw [render]
  cases dialect.unary? name with
  | none => rfl
  | some operator => rfl

/-- An expression that is spelled alike has one text. -/
theorem render_congr {expression : Expression} (h : expression.SpelledAlike dialect other) :
    expression.render dialect = expression.render other := by
  induction expression with
  | binary name left right ihl ihr =>
    have hleft : left.SpelledAlike dialect other := h.child List.mem_cons_self
    have hright : right.SpelledAlike dialect other :=
      h.child (List.mem_cons_of_mem _ List.mem_cons_self)
    have hspelling : (dialect.binary? name).map Operator.spelling =
        (other.binary? name).map Operator.spelling := h _ (mem_nodes_self _)
    have hprecedence := hasPrecedence_congr (hleft _ (mem_nodes_self left))
    simp only [render_binary, ihl hleft, ihr hright, hspelling, hprecedence]
  | unary name operand ih =>
    have hspelling : (dialect.unary? name).map Operator.spelling =
        (other.unary? name).map Operator.spelling := h _ (mem_nodes_self _)
    rw [render_unary, render_unary, ih (h.child List.mem_cons_self), hspelling]
  | call function arguments ih =>
    have harguments : arguments.map (render dialect) = arguments.map (render other) :=
      List.map_congr_left fun argument hmem => ih argument hmem (h.child hmem)
    rw [render, render, renderAll_eq_map, renderAll_eq_map, harguments]
  | named expression name ih =>
    rw [render, render, ih (h.child List.mem_cons_self)]
  | _ => rfl

/-- Expressions that are spelled alike have one list of texts. -/
theorem renderList_congr {expressions : List Expression}
    (h : ∀ expression ∈ expressions, expression.SpelledAlike dialect other) :
    renderList dialect expressions = renderList other expressions := by
  have htexts : expressions.map (render dialect) = expressions.map (render other) :=
    List.map_congr_left fun expression hmem => render_congr (h expression hmem)
  rw [renderList, renderList, htexts]

/-- A grouping expression that is spelled alike has one text. -/
theorem renderGrouping_congr {expression : Expression} (h : expression.SpelledAlike dialect other) :
    expression.renderGrouping dialect = expression.renderGrouping other := by
  cases expression with
  | named inner name => exact render_congr (h.child List.mem_cons_self)
  | _ => exact render_congr h

end Expression

namespace Grouping

/-- Expressions that are spelled alike make one set of grouping expressions. -/
theorem renderSet_congr {expressions : List Expression}
    (h : ∀ expression ∈ expressions, expression.SpelledAlike dialect other) :
    renderSet dialect expressions = renderSet other expressions := by
  have htexts : expressions.map (Expression.renderGrouping dialect) =
      expressions.map (Expression.renderGrouping other) :=
    List.map_congr_left fun expression hmem => Expression.renderGrouping_congr (h expression hmem)
  rw [renderSet, renderSet, htexts]

/-- An element whose expressions are spelled alike has one text. -/
theorem render_congr {element : Grouping}
    (h : ∀ expression ∈ element.written, expression.SpelledAlike dialect other) :
    element.render dialect = element.render other := by
  cases element with
  | single expression => exact Expression.renderGrouping_congr (h expression List.mem_cons_self)
  | sets lists =>
    have hsets : (lists.map fun set => (renderSet dialect set).enclose "(" ")") =
        lists.map fun set => (renderSet other set).enclose "(" ")" := by
      refine List.map_congr_left fun set hset => ?_
      rw [renderSet_congr fun expression hmem =>
        h expression (List.mem_flatten.2 ⟨set, hset, hmem⟩)]
    rw [render, render, hsets]
  | cube expressions =>
    have hset : renderSet dialect expressions = renderSet other expressions := renderSet_congr h
    rw [render, render, hset]
  | rollup expressions =>
    have hset : renderSet dialect expressions = renderSet other expressions := renderSet_congr h
    rw [render, render, hset]

/-- A clause whose expressions are spelled alike has one text. -/
theorem renderClause_congr {grouping : List Grouping}
    (h : ∀ expression ∈ grouping.flatMap written, expression.SpelledAlike dialect other) :
    renderClause dialect grouping = renderClause other grouping := by
  have htexts : grouping.map (render dialect) = grouping.map (render other) := by
    refine List.map_congr_left fun element helement => render_congr fun expression hmem => ?_
    exact h expression (List.mem_flatMap.2 ⟨element, helement, hmem⟩)
  cases grouping with
  | nil => rfl
  | cons element rest => simp only [renderClause, htexts]

end Grouping

variable (dialect other) in
/-- Whether the dialects agree in the spelling of `and`. -/
def AndSpelledAlike : Prop :=
  (dialect.binary? "and").map Operator.spelling = (other.binary? "and").map Operator.spelling

/-- Predicates are joined by the symbol of `and`. -/
theorem Dialect.conjunction_congr (hand : AndSpelledAlike dialect other) :
    dialect.conjunction = other.conjunction := by
  have hspelling (dialect : Dialect) : dialect.conjunction =
      ((dialect.binary? "and").map Operator.spelling).elim "AND" Prod.fst := by
    rw [conjunction]
    cases dialect.binary? "and" with
    | none => rfl
    | some operator => rfl
  rw [hspelling, hspelling, hand]

/-- Whether a predicate needs parentheses depends on the precedences of `and` and of its own
operator. -/
theorem Expression.needsParentheses_congr (hand : AndSpelledAlike dialect other)
    {predicate : Expression} (h : predicate.RootSpelledAlike dialect other) :
    predicate.needsParentheses dialect = predicate.needsParentheses other := by
  have hjoined : ((dialect.binary? "and").any fun conjunction =>
        predicate.hasPrecedence dialect (· ≤ conjunction.precedence)) =
      (other.binary? "and").any fun conjunction =>
        predicate.hasPrecedence other (· ≤ conjunction.precedence) := by
    have hspelling (dialect : Dialect) : ((dialect.binary? "and").any fun conjunction =>
          predicate.hasPrecedence dialect (· ≤ conjunction.precedence)) =
        ((dialect.binary? "and").map Operator.spelling).any fun spelling =>
          predicate.hasPrecedence dialect (· ≤ spelling.2) := by
      rw [Option.any_map]
      rfl
    rw [hspelling, hspelling, hand]
    simp only [hasPrecedence_congr h]
  unfold needsParentheses
  split
  · rfl
  · exact hjoined

/-- Predicates that are spelled alike make one clause. -/
theorem Expression.renderFilters_congr (hand : AndSpelledAlike dialect other) (keyword : String)
    {filters : List Expression} (h : ∀ filter ∈ filters, filter.SpelledAlike dialect other) :
    renderFilters dialect keyword filters = renderFilters other keyword filters := by
  match filters with
  | [] => rfl
  | [filter] => rw [renderFilters, renderFilters, render_congr (h filter List.mem_cons_self)]
  | first :: second :: rest =>
    have htexts : ((first :: second :: rest).map fun predicate =>
          (predicate.render dialect).parenthesizedIf (predicate.needsParentheses dialect)) =
        (first :: second :: rest).map fun predicate =>
          (predicate.render other).parenthesizedIf (predicate.needsParentheses other) := by
      refine List.map_congr_left fun predicate hmem => ?_
      have hpredicate := h predicate hmem
      rw [render_congr hpredicate,
        needsParentheses_congr hand (hpredicate _ (mem_nodes_self predicate))]
    simp only [renderFilters, htexts, Dialect.conjunction_congr hand]

namespace Relation

/-- A relation whose expressions and filters are spelled alike has one text. -/
theorem renderFiltered_congr (hand : AndSpelledAlike dialect other) {relation : Relation}
    {filters : List Expression}
    (h : ∀ expression ∈ relation.expressions, expression.SpelledAlike dialect other)
    (hfilters : ∀ filter ∈ filters, filter.SpelledAlike dialect other) :
    relation.renderFiltered dialect filters = relation.renderFiltered other filters := by
  have hnone : ∀ filter ∈ ([] : List Expression), filter.SpelledAlike dialect other :=
    fun filter hmem => absurd hmem List.not_mem_nil
  induction relation generalizing filters with
  | none =>
    rw [renderFiltered, renderFiltered, withFilters, withFilters,
      Expression.renderFilters_congr hand _ hfilters]
  | table base =>
    rw [renderFiltered, renderFiltered, withFilters, withFilters,
      Expression.renderFilters_congr hand _ hfilters]
  | projection columns input ih =>
    obtain ⟨hinput, hcolumns⟩ := List.forall_mem_append.1 h
    rw [renderFiltered, renderFiltered, withFilters, withFilters,
      Expression.renderFilters_congr hand _ hfilters, Expression.renderList_congr hcolumns,
      ih hinput hnone]
  | selection predicate input ih =>
    obtain ⟨hinput, hpredicate⟩ := List.forall_mem_append.1 h
    change input.renderFiltered dialect (predicate :: filters) =
      input.renderFiltered other (predicate :: filters)
    exact ih hinput (List.forall_mem_cons.2 ⟨hpredicate predicate List.mem_cons_self, hfilters⟩)
  | renamed name input ih =>
    rw [renderFiltered, renderFiltered, withFilters, withFilters,
      Expression.renderFilters_congr hand _ hfilters, ih h hnone]
  | join kind left right condition ihl ihr =>
    obtain ⟨hinputs, hcondition⟩ := List.forall_mem_append.1 h
    obtain ⟨hleft, hright⟩ := List.forall_mem_append.1 hinputs
    have hclause (keyword : String) := Expression.renderFilters_congr hand keyword hfilters
    cases condition with
    | none => simp only [renderFiltered, withFilters, hclause, ihl hleft hnone, ihr hright hnone]
    | some predicate =>
      have htext := Expression.render_congr (hcondition predicate List.mem_cons_self)
      simp only [renderFiltered, withFilters, hclause, ihl hleft hnone, ihr hright hnone, htext]
  | group grouping aggregates input ih =>
    rw [expressions, List.append_assoc] at h
    obtain ⟨hinput, hgroup⟩ := List.forall_mem_append.1 h
    obtain ⟨hcolumns, hwritten⟩ := Grouping.forall_mem_columns_and_written.2 hgroup
    rw [renderFiltered, renderFiltered, withFilters, withFilters,
      Expression.renderFilters_congr hand _ hfilters, Expression.renderList_congr hcolumns,
      Grouping.renderClause_congr hwritten, ih hinput hnone]
  | error input cause ih =>
    rw [renderFiltered, renderFiltered, withFilters, withFilters,
      Expression.renderFilters_congr hand _ hfilters]

end Relation

/-! ## Typing -/

namespace Expression

variable (dialect other) in
/-- Whether the dialects agree in the signatures of what is applied at the root, if anything is. -/
def RootTypedAlike : Expression → Prop
  | .binary name _ _ =>
    (dialect.binary? name).map Operator.signatures = (other.binary? name).map Operator.signatures
  | .unary name _ =>
    (dialect.unary? name).map Operator.signatures = (other.unary? name).map Operator.signatures
  | .call function _ => dialect.functions function = other.functions function
  | _ => True

/-- What an expression leads to: its own nodes, and whatever the expressions lead to that are
computed with by a relation that it refers to or by an input of one. -/
inductive Reaches : Expression → Expression → Prop where
  | node {expression node : Expression} (hnode : node ∈ expression.nodes) :
      Reaches expression node
  | owner {expression inner node : Expression} {target : AttributeReference}
      (htarget : .reference target ∈ expression.nodes)
      (hinner : inner ∈ target.owner.expressions) (hreaches : Reaches inner node) :
      Reaches expression node

variable (dialect other) in
/-- Whether the dialects agree in all operators and functions that the expression leads to: in
whether they have them, and in their signatures. -/
def TypedAlike (expression : Expression) : Prop :=
  ∀ node, expression.Reaches node → node.RootTypedAlike dialect other

/-- What a child leads to, the expression leads to. -/
theorem Reaches.of_child {expression child node : Expression}
    (hchild : child ∈ expression.children) (h : child.Reaches node) : expression.Reaches node := by
  have hsubset := nodes_subset_of_mem_children hchild
  cases h with
  | node hnode => exact .node (hsubset hnode)
  | owner htarget hinner hreaches => exact .owner (hsubset htarget) hinner hreaches

/-- The children of an expression that is typed alike are typed alike. -/
theorem TypedAlike.child {expression child : Expression} (h : expression.TypedAlike dialect other)
    (hchild : child ∈ expression.children) : child.TypedAlike dialect other :=
  fun node hreaches => h node (hreaches.of_child hchild)

/-- What the relation behind a reference that is typed alike computes with is typed alike. -/
theorem TypedAlike.owner {target : AttributeReference}
    (h : (Expression.reference target).TypedAlike dialect other) :
    ∀ inner ∈ target.owner.expressions, inner.TypedAlike dialect other :=
  fun _ hinner node hreaches => h node (.owner (mem_nodes_self _) hinner hreaches)

/-- A binary application is typed by the signatures of its operator. -/
theorem infer_binary (dialect : Dialect) (name : String) (left right : Expression) :
    (Expression.binary name left right).infer dialect =
      match (dialect.binary? name).map Operator.signatures with
      | some signatures =>
        Signature.resultType "binary operator" name signatures
          [left.infer dialect, right.infer dialect]
      | none => .error ("Unknown binary operator '" ++ name ++ "'") := by
  rw [infer]
  cases dialect.binary? name with
  | none => rfl
  | some operator => rfl

/-- A unary application is typed by the signatures of its operator. -/
theorem infer_unary (dialect : Dialect) (name : String) (operand : Expression) :
    (Expression.unary name operand).infer dialect =
      match (dialect.unary? name).map Operator.signatures with
      | some signatures =>
        Signature.resultType "unary operator" name signatures [operand.infer dialect]
      | none => .error ("Unknown unary operator '" ++ name ++ "'") := by
  rw [infer]
  cases dialect.unary? name with
  | none => rfl
  | some operator => rfl

/-- An expression that is typed alike has one type, if its children and its reference have. -/
theorem infer_congr_of_children {expression : Expression}
    (h : expression.TypedAlike dialect other)
    (hchildren : ∀ child ∈ expression.children, child.infer dialect = child.infer other)
    (htarget : ∀ target, expression = .reference target →
      target.infer dialect = target.infer other) :
    expression.infer dialect = expression.infer other := by
  have hroot := h expression (.node (mem_nodes_self expression))
  cases expression with
  | binary name left right =>
    have hsignatures : (dialect.binary? name).map Operator.signatures =
        (other.binary? name).map Operator.signatures := hroot
    have hleft := hchildren left List.mem_cons_self
    have hright := hchildren right (List.mem_cons_of_mem _ List.mem_cons_self)
    rw [infer_binary, infer_binary, hsignatures, hleft, hright]
  | unary name operand =>
    have hsignatures : (dialect.unary? name).map Operator.signatures =
        (other.unary? name).map Operator.signatures := hroot
    rw [infer_unary, infer_unary, hsignatures, hchildren operand List.mem_cons_self]
  | call function arguments =>
    have hsignatures : dialect.functions function = other.functions function := hroot
    have harguments : (arguments.map fun argument => argument.infer dialect) =
        arguments.map fun argument => argument.infer other := List.map_congr_left hchildren
    rw [infer, infer, hsignatures, harguments]
  | named expression name =>
    rw [infer, infer, hchildren expression List.mem_cons_self]
  | reference target =>
    rw [infer, infer, htarget target rfl]
  | _ => rw [infer, infer]

end Expression

namespace Relation

/-- Columns that a relation computes itself are among the expressions it computes with. -/
theorem mem_expressions_of_mem_projectedExpressions {relation : Relation}
    (hcomputes : relation.computesColumns) {column : Expression}
    (h : column ∈ relation.projectedExpressions) : column ∈ relation.expressions := by
  cases relation with
  | projection columns input => exact List.mem_append_right _ h
  | group grouping aggregates input =>
    rw [expressions, List.append_assoc]
    exact List.mem_append_right _ (Grouping.mem_written_of_mem_columns h)
  | _ => cases hcomputes

/-- The owner of an attribute computes with nothing that the relation does not compute with. -/
theorem expressions_owner_subset {relation : Relation} {reference : AttributeReference}
    (h : reference ∈ relation.attributes) :
    reference.owner.expressions ⊆ relation.expressions := by
  induction h using attributeInduction with
  | numbered relation reference hnumbers h =>
    obtain ⟨i, hi⟩ := List.mem_iff_getElem?.1 h
    rw [(index_of_numbersAttributes hnumbers hi).1]
    exact List.Subset.refl _
  | renamed label input reference h ih => exact List.Subset.refl _
  | selected predicate input reference h ih =>
    exact List.Subset.trans ih (List.subset_append_left _ _)
  | joinedLeft kind left right condition reference h ih =>
    have hleft := List.Subset.trans ih (List.subset_append_left _ right.expressions)
    exact List.Subset.trans hleft (List.subset_append_left _ _)
  | joinedRight kind left right condition reference h ih =>
    have hright := List.Subset.trans ih (List.subset_append_right left.expressions _)
    exact List.Subset.trans hright (List.subset_append_left _ _)

end Relation

/-- A usable reference has one type, if the types that it is found from are the same. -/
theorem AttributeReference.typeIn_congr {reference : AttributeReference} {owner : Relation}
    (hcolumns : owner.computesColumns → ∀ column ∈ owner.projectedExpressions,
      column.infer dialect = column.infer other)
    (hsources : ∀ label input, owner = .renaming label input → ∀ source ∈ input.attributes,
      source.infer dialect = source.infer other) (position : Nat) :
    reference.typeIn dialect position owner = reference.typeIn other position owner := by
  cases owner with
  | projection columns input =>
    simp only [typeIn]
    cases hcolumn : columns[position]? with
    | none => rfl
    | some column => exact hcolumns rfl column (List.mem_of_getElem? hcolumn)
  | group grouping aggregates input =>
    simp only [typeIn]
    cases hcolumn : (Grouping.columns grouping aggregates)[position]? with
    | none => rfl
    | some column => exact hcolumns rfl column (List.mem_of_getElem? hcolumn)
  | «renaming» label input =>
    simp only [typeIn]
    cases hlike : input.attributesLike reference with
    | nil => rfl
    | cons source rest =>
      cases rest with
      | nil =>
        have hmem : source ∈ input.attributesLike reference := by
          rw [hlike]
          exact List.mem_cons_self
        exact hsources label input rfl source (List.mem_filter.1 hmem).1
      | cons second others => rfl
  | _ => rfl

/-- An expression that is typed alike has one type, and so has a reference whose owner computes
with expressions that are typed alike. -/
theorem infer_congr :
    (∀ expression : Expression, expression.TypedAlike dialect other →
      expression.infer dialect = expression.infer other) ∧
    ∀ reference : AttributeReference,
      (∀ inner ∈ reference.owner.expressions, inner.TypedAlike dialect other) →
      reference.infer dialect = reference.infer other := by
  refine typingInduction (fun expression ihchildren ihtarget h => ?_)
    fun reference ihcolumns ihsources h => ?_
  · refine Expression.infer_congr_of_children h (fun child hchild => ?_) fun target htarget => ?_
    · exact ihchildren child hchild (h.child hchild)
    · subst htarget
      exact ihtarget target rfl h.owner
  · rw [AttributeReference.infer_eq, AttributeReference.infer_eq]
    cases reference.resolve with
    | error cause => rfl
    | ok place =>
      refine AttributeReference.typeIn_congr (fun hcomputes column hcolumn => ?_)
        (fun label input howner source hsource => ?_) place.1
      · exact ihcolumns hcomputes column hcolumn
          (h column (Relation.mem_expressions_of_mem_projectedExpressions hcomputes hcolumn))
      · -- the attributes of a renamed relation are owned at or below it
        rw [howner] at h
        exact ihsources label input howner source hsource fun inner hinner =>
          h inner (Relation.expressions_owner_subset hsource hinner)

/-- Two dialects write an expression alike if they agree in the spelling of its operators, and a
relation if they agree in that of `and` and of the operators in its expressions and in those of its
inputs. They give an expression one type, with one reason if it is an error, if they agree in the
signatures of all operators and functions that it leads to. -/
theorem dialect_agreement (dialect other : Dialect) :
    (∀ expression : Expression, expression.SpelledAlike dialect other →
      expression.render dialect = expression.render other) ∧
    (∀ relation : Relation, AndSpelledAlike dialect other →
      (∀ expression ∈ relation.expressions, expression.SpelledAlike dialect other) →
      relation.render dialect = relation.render other) ∧
    ∀ expression : Expression, expression.TypedAlike dialect other →
      expression.infer dialect = expression.infer other := by
  refine ⟨fun expression h => Expression.render_congr h, fun relation hand h => ?_, infer_congr.1⟩
  exact Relation.renderFiltered_congr hand h fun filter hmem => absurd hmem List.not_mem_nil

namespace Sample

/-- The standard dialect under another name, with one operator more and all associativities
changed. -/
def terse : Dialect where
  name := "terse"
  binary? := fun name =>
    if name = "pow" then some { symbol := "**", precedence := 170 }
    else (Dialect.standard.binary? name).map ({ · with associativity := .right })
  unary? := Dialect.standard.unary?

/-- The events with their values doubled. -/
def doubled : Relation :=
  (Relation.table events).project
    [.named (.binary "mul" (.reference ⟨.concrete 2, some "value", .table events⟩) (.integer 2))
      "double"]

/-- One more than the doubled value. -/
def successor : Expression :=
  .binary "add" (.reference ⟨.concrete 0, some "double", doubled⟩) (.integer 1)

/-- The events whose doubled values are large. -/
def large : Relation :=
  doubled.select (.binary "gt" successor (.integer 9))

/-- Whether the expression applies the operator that only one of the dialects has. -/
def isPower : Expression → Bool
  | .binary name _ _ => name == "pow"
  | _ => false

/-- The dialects agree wherever that operator is not applied. -/
theorem alike_of_isPower {node : Expression} (h : isPower node = false) :
    node.RootSpelledAlike .standard terse ∧ node.RootTypedAlike .standard terse := by
  cases node with
  | binary name left right =>
    have hname : name ≠ "pow" := beq_eq_false_iff_ne.1 h
    have hoperator : terse.binary? name =
        (Dialect.standard.binary? name).map ({ · with associativity := .right }) := if_neg hname
    constructor
    · rw [Expression.RootSpelledAlike, hoperator, Option.map_map]
      rfl
    · rw [Expression.RootTypedAlike, hoperator, Option.map_map]
      rfl
  | unary name operand => exact ⟨rfl, rfl⟩
  | call function arguments => exact ⟨trivial, rfl⟩
  | _ => exact ⟨trivial, trivial⟩

/-- Nothing that the successor leads to applies that operator. -/
theorem isPower_of_reaches {node : Expression} (h : successor.Reaches node) :
    isPower node = false := by
  have hown : ∀ node ∈ successor.nodes, isPower node = false := by decide
  have hbehind : ∀ inner ∈ doubled.expressions, ∀ node ∈ inner.nodes, isPower node = false := by
    decide
  cases h with
  | node hnode => exact hown node hnode
  | owner htarget hinner hreaches =>
    obtain rfl : _ = AttributeReference.mk (.concrete 0) (some "double") doubled := by
      simpa [successor, Expression.nodes] using htarget
    cases hreaches with
    | node hnode => exact hbehind _ hinner node hnode
    | owner htarget hinnermost hreaches =>
      -- a table computes with no expressions
      obtain rfl := List.mem_singleton.1 hinner
      obtain rfl : _ = AttributeReference.mk (.concrete 2) (some "value") (.table events) := by
        simpa [Expression.nodes] using htarget
      cases hinnermost

/-- The two dialects cannot be told apart by the relation nor by the expression. -/
theorem dialect_agreement_terse :
    (∀ expression ∈ large.expressions, expression.SpelledAlike .standard terse) ∧
      successor.TypedAlike .standard terse ∧
      successor.render .standard = successor.render terse ∧
      large.render .standard = large.render terse ∧
      successor.infer .standard = successor.infer terse := by
  have hspelled : ∀ expression ∈ large.expressions, expression.SpelledAlike .standard terse := by
    intro expression hmem node hnode
    have hpower : ∀ expression ∈ large.expressions, ∀ node ∈ expression.nodes,
        isPower node = false := by
      decide
    exact (alike_of_isPower (hpower expression hmem node hnode)).1
  have hsuccessor : successor.SpelledAlike .standard terse := by
    intro node hnode
    have hpower : ∀ node ∈ successor.nodes, isPower node = false := by decide
    exact (alike_of_isPower (hpower node hnode)).1
  have htyped : successor.TypedAlike .standard terse :=
    fun node hreaches => (alike_of_isPower (isPower_of_reaches hreaches)).2
  obtain ⟨hexpression, hrelation, htype⟩ := dialect_agreement .standard terse
  exact ⟨hspelled, htyped, hexpression successor hsuccessor, hrelation large rfl hspelled,
    htype successor htyped⟩

end Sample

end QueryAlgebra

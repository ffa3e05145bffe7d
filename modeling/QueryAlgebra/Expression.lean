import QueryAlgebra.Table

/-!
# Expressions and relations

The trees of a query. An expression computes a value, a relation computes rows; a relation holds
the expressions it computes with, and an expression refers to an attribute together with the
relation that owns it. Operators and functions are known by name alone: their spelling and typing
are the business of a dialect.

Composition never fails. What could not be formed stays in the tree as an error node.
-/

namespace QueryAlgebra

/-- Why an attribute of the described relation cannot be referred to. -/
inductive AttributeError where
  | ambiguous (name : String) (relation : String)
  | unknown (name : String) (relation : String)
  | anonymous (position : Nat) (relation : String)
  deriving DecidableEq

/-- The error in words. -/
def AttributeError.message : AttributeError → String
  | .ambiguous name relation => "Ambiguous attribute '" ++ name ++ "' in " ++ relation
  | .unknown name relation => "Unknown attribute '" ++ name ++ "' in " ++ relation
  | .anonymous position relation =>
    "Anonymous attribute #" ++ position.repr ++ " in " ++ relation

/-- Where an attribute stands in the list of its owner: at a position, or nowhere, because its name
is shared or because there is none of its name. -/
inductive AttributeIndex where
  | concrete (position : Nat)
  | ambiguous
  | unknown
  deriving DecidableEq

/-- Which unmatched rows a join keeps. -/
inductive JoinKind where
  | inner
  | leftOuter
  | rightOuter
  | fullOuter
  deriving DecidableEq

mutual

/-- A scalar expression. -/
inductive Expression where
  | null
  | integer (value : Int64)
  | text (value : String)
  | boolean (value : Bool)
  | binary (operator : String) (left right : Expression)
  | unary (operator : String) (operand : Expression)
  | call (function : String) (arguments : List Expression)
  | parameter (name : String)
  | named (expression : Expression) (name : String)
  | reference (reference : AttributeReference)
  | error (cause : AttributeError)

/-- An attribute by its index and name in the relation that owns it. -/
structure AttributeReference where
  index : AttributeIndex
  name : Option String
  owner : Relation

/-- An element of a `GROUP BY` clause. -/
inductive Grouping where
  | single (expression : Expression)
  | sets (lists : List (List Expression))
  | cube (expressions : List Expression)
  | rollup (expressions : List Expression)

/-- A relation: no relation at all, a table, or one that is derived from others. -/
inductive Relation where
  | none
  | table (table : Table)
  | projection (columns : List Expression) (input : Relation)
  | selection (predicate : Expression) (input : Relation)
  | renaming (name : String) (input : Relation)
  | join (kind : JoinKind) (left right : Relation) (condition : Option Expression)
  | group (grouping : List Grouping) (aggregates : List Expression) (input : Relation)
  | error (input : Relation) (cause : AttributeError)

end

instance : Inhabited Expression := ⟨.null⟩

instance : Inhabited Relation := ⟨.none⟩

namespace Expression

/-- Whether the node stands for what could not be formed. -/
def isError : Expression → Bool
  | .error _ => true
  | _ => false

/-- The name by which the expression is known as a column: the name given to it, or that of the
attribute it refers to. -/
def displayName : Expression → Option String
  | .named _ name => some name
  | .reference target => target.name
  | _ => none

/-- The operands and arguments. A relation that is referred to is not part of the expression. -/
def children : Expression → List Expression
  | .binary _ left right => [left, right]
  | .unary _ operand => [operand]
  | .call _ arguments => arguments
  | .named expression _ => [expression]
  | _ => []

mutual

/-- The expression and all below it, each node before its children, left to right. -/
def nodes : Expression → List Expression
  | e@(.binary _ left right) => e :: (left.nodes ++ right.nodes)
  | e@(.unary _ operand) => e :: operand.nodes
  | e@(.call _ arguments) => e :: nodesOf arguments
  | e@(.named expression _) => e :: expression.nodes
  | e => [e]
termination_by structural e => e

/-- The nodes of several expressions in turn. -/
def nodesOf : List Expression → List Expression
  | [] => []
  | e :: es => e.nodes ++ nodesOf es
termination_by structural es => es

end

/-- The causes of the error nodes, in the order of the nodes. -/
def errors (expression : Expression) : List AttributeError :=
  expression.nodes.filterMap fun
    | .error cause => some cause
    | _ => none

/-- The references to attributes, in the order of the nodes. -/
def references (expression : Expression) : List AttributeReference :=
  expression.nodes.filterMap fun
    | .reference target => some target
    | _ => none

/-- The nodes of a list are those of its members in turn. -/
theorem nodesOf_eq_flatMap (es : List Expression) : nodesOf es = es.flatMap nodes := by
  induction es with
  | nil => rfl
  | cons e es ih => simp [nodesOf, ih]

/-- An expression comes before its children's nodes. -/
theorem nodes_eq_cons (e : Expression) : e.nodes = e :: e.children.flatMap nodes := by
  cases e <;> simp [nodes, children, nodesOf_eq_flatMap]

end Expression

end QueryAlgebra

import QueryAlgebra.Proofs.RenderedLaws

/-!
# Compositions

Outcomes are put together by writing one behind the other, by putting brackets around one, and by
joining several with a separator between them. A composition is a tree of such operations, and a
build-up is a list of compositions, each of which may use the outcome of those before it.

However deep the operations nest, the outcome is that of its parts written one behind the other:
the leaves, and between them the separators and brackets that the operations insert. It fails
exactly when some leaf fails, and then it has the errors of the leaves in order.
-/

namespace QueryAlgebra

/-- What an outcome is composed of: an outcome that was put in, the outcome so far, two compositions
one behind the other, one between brackets if the condition holds, or several with a separator. -/
inductive Composition where
  | leaf (rendered : Rendered)
  | soFar
  | append (left right : Composition)
  | enclose (condition : Bool) (left right : String) (inner : Composition)
  | join (separator : String) (items : List Composition)

/-- A part of a composed outcome: a leaf, or a text that an operation inserts. -/
inductive Part where
  | leaf (rendered : Rendered)
  | inserted (text : String)

namespace Part

/-- The part as an outcome. -/
def rendered : Part → Rendered
  | .leaf rendered => rendered
  | .inserted text => text

/-- The text of the part; a failure has none. -/
def text : Part → String
  | .leaf (.text content) => content
  | .leaf (.failure _) => ""
  | .inserted text => text

/-- The outcome that was put in, unless the part was inserted. -/
def leaf? : Part → Option Rendered
  | .leaf rendered => some rendered
  | .inserted _ => none

/-- The parts written one behind the other. -/
def concat (parts : List Part) : Rendered :=
  parts.foldr (fun part rest => part.rendered ++ rest) .empty

/-- The leaves among the parts. -/
def leaves (parts : List Part) : List Rendered :=
  parts.filterMap leaf?

/-- Behind its first part a list of parts goes on with the others. -/
@[simp] theorem concat_cons (part : Part) (rest : List Part) :
    concat (part :: rest) = part.rendered ++ concat rest := rfl

/-- A single part stands for itself. -/
@[simp] theorem concat_singleton (part : Part) : concat [part] = part.rendered :=
  Rendered.append_empty _

/-- Lists of parts may be written one behind the other. -/
@[simp] theorem concat_append (front back : List Part) :
    concat (front ++ back) = concat front ++ concat back := by
  induction front with
  | nil => exact (Rendered.empty_append _).symm
  | cons part rest ih =>
    rw [List.cons_append, concat_cons, ih, concat_cons, Rendered.append_assoc]

/-- To join is to insert the separator between the lists of parts. -/
theorem concat_intercalate (separator : String) (lists : List (List Part)) :
    concat ([inserted separator].intercalate lists) =
      .join separator (lists.map concat) := by
  induction lists with
  | nil => rfl
  | cons parts rest ih =>
    cases rest with
    | nil => rw [List.intercalate_singleton]; rfl
    | cons next rest =>
      rw [List.intercalate_cons_cons, concat_append, concat_append, ih, concat_singleton]
      rfl

/-- Parts fail together exactly when one of the leaves fails. -/
theorem isFailure_concat (parts : List Part) :
    (concat parts).isFailure = (leaves parts).any Rendered.isFailure := by
  induction parts with
  | nil => rfl
  | cons part rest ih =>
    rw [concat_cons, Rendered.isFailure_append, ih]
    cases part <;> rfl

/-- The errors of parts are those of the leaves in order. -/
theorem errors_concat (parts : List Part) :
    (concat parts).errors = (leaves parts).flatMap Rendered.errors := by
  induction parts with
  | nil => rfl
  | cons part rest ih =>
    rw [concat_cons, Rendered.errors_append, ih]
    cases part <;> rfl

/-- Parts that do not fail have their texts one behind the other. -/
theorem concat_eq_text {parts : List Part} (h : (concat parts).isFailure = false) :
    concat parts = .text (String.join (parts.map text)) := by
  induction parts with
  | nil => rfl
  | cons part rest ih =>
    rw [concat_cons, Rendered.isFailure_append, Bool.or_eq_false_iff] at h
    obtain ⟨content, hcontent⟩ := Rendered.isFailure_eq_false_iff.1 h.1
    have htext : part.rendered = .text part.text := by
      cases part with
      | leaf rendered =>
        obtain rfl : rendered = .text content := hcontent
        rfl
      | inserted inserted => rfl
    rw [concat_cons, ih h.2, htext, Rendered.text_append_text, List.map_cons, String.join_cons]

/-- Parts whose failing leaves all have errors have errors if they fail. -/
theorem concat_ne_failure_nil {parts : List Part} (h : ∀ leaf ∈ leaves parts, leaf ≠ .failure []) :
    concat parts ≠ .failure [] := by
  intro hconcat
  have hfails : (leaves parts).any Rendered.isFailure = true := by
    rw [← isFailure_concat, hconcat]
    rfl
  have herrors : (leaves parts).flatMap Rendered.errors = [] := by
    rw [← errors_concat, hconcat]
    rfl
  obtain ⟨leaf, hleaf, hfailure⟩ := List.any_eq_true.1 hfails
  have hnone : leaf.errors = [] := List.flatMap_eq_nil_iff.1 herrors leaf hleaf
  cases leaf with
  | text content => cases hfailure
  | failure errors =>
    obtain rfl : errors = [] := hnone
    exact h _ hleaf rfl

end Part

namespace Composition

mutual

/-- The outcome of a composition that starts from the outcome so far. -/
def outcome (before : Rendered) : Composition → Rendered
  | .leaf rendered => rendered
  | .soFar => before
  | .append left right => left.outcome before ++ right.outcome before
  | .enclose condition left right inner => (inner.outcome before).encloseIf condition left right
  | .join separator items => .join separator (outcomes before items)
termination_by structural composition => composition

/-- The outcomes of several compositions. -/
def outcomes (before : Rendered) : List Composition → List Rendered
  | [] => []
  | composition :: rest => composition.outcome before :: outcomes before rest
termination_by structural compositions => compositions

end

mutual

/-- The parts of a composition in the order of writing. The outcome so far has parts as well. -/
def parts (before : List Part) : Composition → List Part
  | .leaf rendered => [.leaf rendered]
  | .soFar => before
  | .append left right => left.parts before ++ right.parts before
  | .enclose condition left right inner =>
    if condition then .inserted left :: inner.parts before ++ [.inserted right]
    else inner.parts before
  | .join separator items => [Part.inserted separator].intercalate (partLists before items)
termination_by structural composition => composition

/-- The parts of each of several compositions. -/
def partLists (before : List Part) : List Composition → List (List Part)
  | [] => []
  | composition :: rest => composition.parts before :: partLists before rest
termination_by structural compositions => compositions

end

mutual

/-- The outcome of a composition is that of its parts. -/
theorem outcome_eq_concat (before : List Part) (composition : Composition) :
    composition.outcome (Part.concat before) = Part.concat (composition.parts before) := by
  match composition with
  | .leaf rendered => exact (Part.concat_singleton (.leaf rendered)).symm
  | .soFar => rfl
  | .append left right =>
    rw [outcome, outcome_eq_concat before left, outcome_eq_concat before right, parts,
      Part.concat_append]
  | .enclose true left right inner =>
    rw [outcome, outcome_eq_concat before inner, parts, if_pos rfl, Part.concat_append,
      Part.concat_cons, Part.concat_singleton]
    exact Rendered.enclose_eq_append left right _
  | .enclose false left right inner => exact outcome_eq_concat before inner
  | .join separator items =>
    rw [outcome, outcomes_eq_map_concat before items, parts, Part.concat_intercalate]
termination_by structural composition

/-- The outcomes of several compositions are those of their parts. -/
theorem outcomes_eq_map_concat (before : List Part) (compositions : List Composition) :
    outcomes (Part.concat before) compositions =
      (partLists before compositions).map Part.concat := by
  match compositions with
  | [] => rfl
  | composition :: rest =>
    rw [outcomes, outcome_eq_concat before composition, outcomes_eq_map_concat before rest,
      partLists, List.map_cons]
termination_by structural compositions

end

/-- The outcome after a list of compositions, each of which starts from the outcome before it. -/
def run (start : Rendered) (steps : List Composition) : Rendered :=
  steps.foldl outcome start

/-- The parts after a list of compositions, the first of which starts from a leaf. -/
def runParts (start : Rendered) (steps : List Composition) : List Part :=
  steps.foldl parts [.leaf start]

/-- The outcome of a run is that of its parts. -/
theorem run_eq_concat (start : Rendered) (steps : List Composition) :
    run start steps = Part.concat (runParts start steps) := by
  have hrun (before : List Part) :
      steps.foldl outcome (Part.concat before) = Part.concat (steps.foldl parts before) := by
    induction steps generalizing before with
    | nil => rfl
    | cons step rest ih => rw [List.foldl_cons, outcome_eq_concat, ih, List.foldl_cons]
  have hstart : start = Part.concat [.leaf start] := (Part.concat_singleton (.leaf start)).symm
  rw [run, runParts, ← hrun, ← hstart]

end Composition

/-- Outcomes form a monoid with the empty text as unit. To join is to write the items one behind the
other with the separator in front of each but the first, so joined lists are joined by the
separator, and brackets are written around what they enclose. A build-up fails exactly when one of
its leaves fails. Its errors are those of the leaves in order, and without failures its text is that
of its parts in order. It is a failure without errors only if a leaf is. -/
theorem composition_laws :
    (∀ first second third : Rendered, first ++ second ++ third = first ++ (second ++ third)) ∧
      (∀ rendered : Rendered, .text "" ++ rendered = rendered ∧ rendered ++ .text "" = rendered) ∧
      (∀ separator items, Rendered.join separator items =
        items.zipIdx.foldl (Rendered.joinStep separator) (.text "")) ∧
      (∀ separator front back, front ≠ [] → back ≠ [] →
        Rendered.join separator (front ++ back) =
          .join separator front ++ separator ++ .join separator back) ∧
      (∀ left right (rendered : Rendered),
        rendered.encloseIf true left right = left ++ rendered ++ right) ∧
      ∀ start steps,
        ((Composition.run start steps).isFailure = true ↔
          ∃ leaf ∈ Part.leaves (Composition.runParts start steps), leaf.isFailure = true) ∧
        (Composition.run start steps).errors =
          (Part.leaves (Composition.runParts start steps)).flatMap Rendered.errors ∧
        ((Composition.run start steps).isFailure = false →
          Composition.run start steps =
            .text (String.join ((Composition.runParts start steps).map Part.text))) ∧
        ((∀ leaf ∈ Part.leaves (Composition.runParts start steps), leaf ≠ .failure []) →
          Composition.run start steps ≠ .failure []) := by
  refine ⟨Rendered.append_assoc, fun rendered => ?_, Rendered.join_eq_foldl,
    fun separator front back hfront hback => Rendered.join_append separator hfront hback,
    Rendered.enclose_eq_append, fun start steps => ?_⟩
  · exact ⟨Rendered.empty_append rendered, Rendered.append_empty rendered⟩
  · rw [Composition.run_eq_concat]
    refine ⟨?_, Part.errors_concat _, Part.concat_eq_text, Part.concat_ne_failure_nil⟩
    rw [Part.isFailure_concat, List.any_eq_true]

namespace Sample

/-- Two items in brackets. -/
def bracketed : List Composition :=
  [.append .soFar (.leaf "a"), .join ", " [.soFar, .leaf "b"], .enclose true "(" ")" .soFar]

/-- The items in brackets between two items that fail. -/
def faultyBracketed : List Composition :=
  bracketed ++
    [.join ", " [.leaf (.fail (.unknownBinary "x")), .soFar, .leaf (.fail (.unknownUnary "y"))]]

end Sample

/-- The items in brackets have the text of its parts, and beside them failures leave errors. -/
theorem composition_laws_bracketed :
    (Composition.run .empty Sample.bracketed).isFailure = false ∧
      Composition.run .empty Sample.bracketed = .text "(a, b)" ∧
      (∀ leaf ∈ Part.leaves (Composition.runParts .empty Sample.faultyBracketed),
        leaf ≠ .failure []) ∧
      Composition.run .empty Sample.faultyBracketed ≠ .failure [] ∧
      Rendered.join ", " ([.text "a", .fail (.unknownBinary "x")] ++ [.text "b"]) =
        .join ", " [.text "a", .fail (.unknownBinary "x")] ++ ", " ++ .join ", " [.text "b"] := by
  obtain ⟨-, -, -, hjoin, -, hrun⟩ := composition_laws
  have htext : (Composition.run .empty Sample.bracketed).isFailure = false := by decide
  have hleaves : ∀ leaf ∈ Part.leaves (Composition.runParts .empty Sample.faultyBracketed),
      leaf ≠ .failure [] := by decide
  exact ⟨htext, (hrun _ _).2.2.1 htext, hleaves, (hrun _ _).2.2.2 hleaves,
    hjoin _ _ _ (List.cons_ne_nil _ _) (List.cons_ne_nil _ _)⟩

end QueryAlgebra

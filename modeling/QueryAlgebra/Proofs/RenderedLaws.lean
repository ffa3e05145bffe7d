import QueryAlgebra.Rendered

/-!
# Laws of rendered text

Outcomes of rendering form a monoid under concatenation, with the empty text as unit. A composed
outcome has a text exactly when each of its parts has one, and its errors are those of its parts in
order.
-/

namespace QueryAlgebra.Rendered

/-- An outcome is no failure exactly when it is a text. -/
theorem isFailure_eq_false_iff {rendered : Rendered} :
    rendered.isFailure = false ↔ ∃ content, rendered = .text content := by
  cases rendered <;> simp [isFailure]

/-- A text never fails. -/
@[simp] theorem isFailure_text (content : String) : (text content).isFailure = false := rfl

/-- The empty text never fails. -/
@[simp] theorem isFailure_empty : empty.isFailure = false := rfl

/-- A single error is a failure. -/
@[simp] theorem isFailure_fail (error : RenderError) : (fail error).isFailure = true := rfl

/-- One part that fails makes the whole fail. -/
@[simp] theorem isFailure_append (left right : Rendered) :
    (left ++ right).isFailure = (left.isFailure || right.isFailure) := by
  cases left <;> cases right <;> rfl

/-- Brackets do not decide about failure. -/
@[simp] theorem isFailure_enclose (left right : String) (rendered : Rendered) :
    (rendered.enclose left right).isFailure = rendered.isFailure := by
  cases rendered <;> rfl

/-- Parentheses do not decide about failure. -/
@[simp] theorem isFailure_parenthesizedIf (condition : Bool) (rendered : Rendered) :
    (rendered.parenthesizedIf condition).isFailure = rendered.isFailure := by
  cases condition
  · rfl
  · exact isFailure_enclose _ _ _

/-- A joined outcome fails exactly when one of its items does. -/
@[simp] theorem isFailure_join (separator : String) (items : List Rendered) :
    (join separator items).isFailure = items.any isFailure := by
  induction items with
  | nil => rfl
  | cons item rest ih =>
    cases rest with
    | nil => simp [join]
    | cons next rest => simp [join, ih]

/-- A text has no errors. -/
@[simp] theorem errors_text (content : String) : (text content).errors = [] := rfl

/-- The empty text has no errors. -/
@[simp] theorem errors_empty : empty.errors = [] := rfl

/-- The failure with a single error has that error. -/
@[simp] theorem errors_fail (error : RenderError) : (fail error).errors = [error] := rfl

/-- Brackets keep the errors. -/
@[simp] theorem errors_enclose (left right : String) (rendered : Rendered) :
    (rendered.enclose left right).errors = rendered.errors := by
  cases rendered <;> rfl

/-- Parentheses keep the errors. -/
@[simp] theorem errors_parenthesizedIf (condition : Bool) (rendered : Rendered) :
    (rendered.parenthesizedIf condition).errors = rendered.errors := by
  cases condition
  · rfl
  · exact errors_enclose _ _ _

/-- Separators add no errors to those of the items. -/
@[simp] theorem errors_join (separator : String) (items : List Rendered) :
    (join separator items).errors = items.flatMap errors := by
  induction items with
  | nil => rfl
  | cons item rest ih =>
    cases rest with
    | nil => simp [join]
    | cons next rest => simp [join, ih]

/-- Nothing changes in front of the empty text. -/
@[simp] theorem append_empty (rendered : Rendered) : rendered ++ empty = rendered := by
  cases rendered with
  | text content => simp [empty]
  | failure errors => rfl

/-- Nothing changes behind the empty text. -/
@[simp] theorem empty_append (rendered : Rendered) : empty ++ rendered = rendered := by
  cases rendered with
  | text content => simp [empty]
  | failure errors => rfl

/-- Outcomes may be put together in any grouping. -/
theorem append_assoc (first second third : Rendered) :
    first ++ second ++ third = first ++ (second ++ third) := by
  cases first <;> cases second <;> cases third <;> simp [String.append_assoc]

/-- Brackets are put on like any other text. -/
theorem enclose_eq_append (left right : String) (rendered : Rendered) :
    rendered.enclose left right = left ++ rendered ++ right := by
  cases rendered <;> rfl

/-- In front of further items an item is followed by the separator. -/
theorem join_cons (separator : String) (item : Rendered) {rest : List Rendered}
    (hrest : rest ≠ []) :
    join separator (item :: rest) = item ++ separator ++ join separator rest := by
  cases rest with
  | nil => exact absurd rfl hrest
  | cons next rest => rfl

/-- Where a joined list is cut in two, the separator stands between the parts. -/
theorem join_append (separator : String) {front back : List Rendered} (hfront : front ≠ [])
    (hback : back ≠ []) :
    join separator (front ++ back) =
      join separator front ++ separator ++ join separator back := by
  induction front with
  | nil => exact absurd rfl hfront
  | cons item rest ih =>
    rw [List.cons_append, join_cons separator item (List.append_ne_nil_of_right_ne_nil rest hback)]
    cases rest with
    | nil => rfl
    | cons next rest =>
      rw [ih (List.cons_ne_nil next rest), join_cons separator item (List.cons_ne_nil next rest)]
      simp only [append_assoc]

/-- What stands in front of the first item stands in front of the joined text. -/
theorem join_append_cons (separator : String) (front item : Rendered) (rest : List Rendered) :
    join separator ((front ++ item) :: rest) = front ++ join separator (item :: rest) := by
  cases rest with
  | nil => rfl
  | cons next rest => simp only [join, append_assoc]

/-- The item at a position put behind what was joined so far. -/
def joinStep (separator : String) (before : Rendered) (item : Rendered × Nat) : Rendered :=
  (if 0 < item.2 then before ++ (separator : Rendered) else before) ++ item.1

/-- All items but the first are put behind a separator. -/
theorem foldl_joinStep_succ (separator : String) (before : Rendered) (items : List Rendered)
    (i : Nat) :
    (items.zipIdx (i + 1)).foldl (joinStep separator) before =
      join separator (before :: items) := by
  induction items generalizing before i with
  | nil => rfl
  | cons item rest ih =>
    rw [List.zipIdx_cons, List.foldl_cons, joinStep, if_pos (Nat.succ_pos i), ih,
      join_append_cons]
    rfl

/-- Joining puts the items one after another behind the empty text, with the separator in front of
each but the first. -/
theorem join_eq_foldl (separator : String) (items : List Rendered) :
    join separator items = items.zipIdx.foldl (joinStep separator) empty := by
  cases items with
  | nil => rfl
  | cons item rest =>
    rw [List.zipIdx_cons, List.foldl_cons, foldl_joinStep_succ, joinStep,
      if_neg (Nat.lt_irrefl 0), empty_append]

end QueryAlgebra.Rendered

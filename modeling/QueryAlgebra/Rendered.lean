import QueryAlgebra.Expression

/-!
# Rendered text

The outcome of rendering is a text, or the errors that stood in its way. Putting two outcomes
together keeps all errors of both, so a failure in one place hides none in another. The empty text
is neutral.
-/

namespace QueryAlgebra

/-- Why a node has no text. -/
inductive RenderError where
  | unknownBinary (operator : String)
  | unknownUnary (operator : String)
  | unresolved (cause : AttributeError)
  | unsupportedParameter (name : String)
  | internal (message : String)
  deriving DecidableEq

/-- The error in words, behind its code. -/
def RenderError.message : RenderError → String
  | .unknownBinary operator => "[R001] Unknown binary operator '" ++ operator ++ "'"
  | .unknownUnary operator => "[R002] Unknown unary operator '" ++ operator ++ "'"
  | .unresolved cause => "[R003] " ++ cause.message
  | .unsupportedParameter name => "[R004] Bind parameter '" ++ name ++ "' is not supported"
  | .internal message => "[R005] Internal error: " ++ message

/-- A text, or errors in the order in which they were met. -/
inductive Rendered where
  | text (content : String)
  | failure (errors : List RenderError)
  deriving DecidableEq

namespace Rendered

instance : Coe String Rendered := ⟨.text⟩

/-- The failure with a single error. -/
def fail (error : RenderError) : Rendered := .failure [error]

/-- The empty text. -/
def empty : Rendered := .text ""

instance : Inhabited Rendered := ⟨empty⟩

/-- Whether there is no text. -/
def isFailure : Rendered → Bool
  | .text _ => false
  | .failure _ => true

/-- The errors; a text has none. -/
def errors : Rendered → List RenderError
  | .text _ => []
  | .failure errors => errors

/-- The text, unless there are errors. -/
def toExcept : Rendered → Except (List RenderError) String
  | .text content => .ok content
  | .failure errors => .error errors

/-- The outcome that holds a given text or given errors. -/
def ofExcept : Except (List RenderError) String → Rendered
  | .ok content => .text content
  | .error errors => .failure errors

/-- Texts are joined, and errors win over texts. -/
protected def append : Rendered → Rendered → Rendered
  | .text left, .text right => .text (left ++ right)
  | .text _, .failure errors => .failure errors
  | .failure errors, .text _ => .failure errors
  | .failure left, .failure right => .failure (left ++ right)

instance : Append Rendered := ⟨Rendered.append⟩

/-- A text between `left` and `right`; a failure stays as it is. -/
def enclose (left right : String) : Rendered → Rendered
  | .text content => .text (left ++ content ++ right)
  | .failure errors => .failure errors

/-- The outcome enclosed if the condition holds. -/
def encloseIf (condition : Bool) (left right : String) (rendered : Rendered) : Rendered :=
  if condition then rendered.enclose left right else rendered

/-- The outcome in parentheses if the condition holds. -/
def parenthesizedIf (condition : Bool) (rendered : Rendered) : Rendered :=
  rendered.encloseIf condition "(" ")"

/-- The outcomes in order, with the separator between neighbours. -/
def join (separator : String) : List Rendered → Rendered
  | [] => empty
  | [rendered] => rendered
  | rendered :: rest => rendered ++ separator ++ join separator rest

/-- Two texts make one. -/
@[simp] theorem text_append_text (left right : String) :
    Rendered.text left ++ Rendered.text right = .text (left ++ right) := rfl

/-- A text in front of a failure is lost. -/
@[simp] theorem text_append_failure (left : String) (errors : List RenderError) :
    Rendered.text left ++ Rendered.failure errors = .failure errors := rfl

/-- A text behind a failure is lost. -/
@[simp] theorem failure_append_text (errors : List RenderError) (right : String) :
    Rendered.failure errors ++ Rendered.text right = .failure errors := rfl

/-- Two failures make one that has the errors of both. -/
@[simp] theorem failure_append_failure (left right : List RenderError) :
    Rendered.failure left ++ Rendered.failure right = .failure (left ++ right) := rfl

/-- Errors add up from left to right. -/
@[simp] theorem errors_append (left right : Rendered) :
    (left ++ right).errors = left.errors ++ right.errors := by
  cases left <;> cases right <;> simp [errors]

end Rendered

end QueryAlgebra

import QueryAlgebra.Dialect
import QueryAlgebra.Expression
import QueryAlgebra.Proofs.Scanner

/-!
# Reading conditions

Texts of literals, binary operators and parentheses are read as a dialect means them. Parentheses
group, an operator of higher precedence binds tighter, and operators of equal precedence group to
the left; the associativity of an operator plays no part.

A word stands for a literal where an operand is due, and for an operator otherwise, so that the sign
of a number is never taken for the symbol of subtraction.
-/

namespace QueryAlgebra.Reader

/-- The number that is written with the decimal digits, of which there is at least one. -/
def natural? (digits : List Char) : Option Nat :=
  if digits ≠ [] ∧ digits.all Char.isDigit then some (Nat.ofDigitChars 10 digits 0) else none

/-- The number that is written with decimal digits, behind a sign if it is negative. -/
def integer? : List Char → Option Int
  | '-' :: digits => (natural? digits).map fun n => -n
  | digits => (natural? digits).map fun n => n

/-- The literal that is written as the word; integers have 64 bits. -/
def literal? (word : String) : Option Expression :=
  match integer? word.toList with
  | some value =>
    if (Int64.ofInt value).toInt = value then some (.integer (Int64.ofInt value)) else none
  | none =>
    if word = "NULL" then some .null
    else if word = "true" then some (.boolean true)
    else if word = "false" then some (.boolean false)
    else none

/-- The operator that the dialect spells with the symbol. -/
def operator? (dialect : Dialect) (symbol : String) : Option String :=
  (OperatorTable.standardBinary.map Prod.fst).find? fun name =>
    (dialect.binary? name).any (·.symbol == symbol)

/-- Whether the operator `inner` has a lower precedence than `outer`. -/
def bindsLooser (dialect : Dialect) (inner outer : String) : Bool :=
  (dialect.binary? outer).any fun operator =>
    (dialect.binary? inner).any (·.precedence < operator.precedence)

/-- What was read of a group: an operand, or an application whose right operand may still grow. -/
inductive Spine where
  | operand (expression : Expression)
  | application (operator : String) (left : Expression) (right : Spine)

namespace Spine

/-- The expression that was read, if nothing follows. -/
def expression : Spine → Expression
  | .operand expression => expression
  | .application operator left right => .binary operator left right.expression

/-- An operator and its right operand follow. The operator takes its left operand out of the
applications that bind looser, and takes all others as a whole. -/
def extend (dialect : Dialect) (operator : String) (operand : Expression) : Spine → Spine
  | .operand expression => .application operator expression (.operand operand)
  | .application inner left right =>
    if bindsLooser dialect inner operator then
      .application inner left (right.extend dialect operator operand)
    else
      .application operator (.binary inner left right.expression) (.operand operand)

end Spine

/-- What an operand is due for: the start of a group, or an operator behind what was read. -/
inductive Pending where
  | start
  | behind (spine : Spine) (operator : String)

/-- The operand is read. -/
def Pending.fill (dialect : Dialect) (operand : Expression) : Pending → Spine
  | .start => .operand operand
  | .behind spine operator => spine.extend dialect operator operand

/-- Where reading stands, inside the groups of `outer`, innermost first. -/
inductive State where
  | beforeOperand (outer : List Pending) (pending : Pending)
  | afterOperand (outer : List Pending) (spine : Spine)

/-- Read one token. -/
def step (dialect : Dialect) : State → Token → Option State
  | .beforeOperand outer pending, .opening => some (.beforeOperand (pending :: outer) .start)
  | .beforeOperand outer pending, .quoted text =>
    some (.afterOperand outer (pending.fill dialect (.text text)))
  | .beforeOperand outer pending, .word word =>
    (literal? word).map fun operand => .afterOperand outer (pending.fill dialect operand)
  | .afterOperand outer spine, .word symbol =>
    (operator? dialect symbol).map fun operator => .beforeOperand outer (.behind spine operator)
  | .afterOperand (pending :: outer) spine, .closing =>
    some (.afterOperand outer (pending.fill dialect spine.expression))
  | _, _ => none

/-- Read tokens in order. -/
def run (dialect : Dialect) (state : State) (tokens : List Token) : Option State :=
  tokens.foldlM (step dialect) state

/-- The expression that was read; every group has to be closed and every operator to have its right
operand. -/
def State.result? : State → Option Expression
  | .afterOperand [] spine => some spine.expression
  | _ => none

/-- The expression that the text stands for in the dialect. -/
def read (dialect : Dialect) (text : String) : Option Expression :=
  (scan text.toList).bind fun tokens =>
    (run dialect (.beforeOperand [] .start) tokens).bind State.result?

/-- Tokens are read part by part. -/
theorem run_append (dialect : Dialect) (state : State) (before behind : List Token) :
    run dialect state (before ++ behind) =
      (run dialect state before).bind (run dialect · behind) :=
  List.foldlM_append

/-- Whether reading the text where an operand is due turns what is pending into the given spine,
inside any groups. -/
def Reads (dialect : Dialect) (text : String) (grow : Pending → Spine) : Prop :=
  ∃ tokens, Scans text tokens ∧ ∀ outer pending,
    run dialect (.beforeOperand outer pending) tokens = some (.afterOperand outer (grow pending))

variable {dialect : Dialect} {text left right : String} {grow further : Pending → Spine}

/-- A text that is read as a whole stands for the expression that it makes of nothing. -/
theorem Reads.read_eq (h : Reads dialect text grow) :
    read dialect text = some (grow .start).expression := by
  obtain ⟨tokens, hscans, hrun⟩ := h
  rw [read, hscans.scan_toList, Option.bind_some, hrun, Option.bind_some, State.result?]

/-- A text of one token is read as the operand that the token stands for. -/
theorem reads_token {token : Token} {operand : Expression} (hscans : Scans text [token])
    (hstep : ∀ outer pending, step dialect (.beforeOperand outer pending) token =
      some (.afterOperand outer (pending.fill dialect operand))) :
    Reads dialect text (·.fill dialect operand) :=
  ⟨[token], hscans, fun outer pending => by simp [run, hstep]⟩

/-- A word that stands for a literal is read as it. -/
theorem reads_word {operand : Expression} (hscans : Scans text [.word text])
    (hliteral : literal? text = some operand) : Reads dialect text (·.fill dialect operand) :=
  reads_token hscans fun outer pending => by rw [step, hliteral, Option.map_some]

/-- A text in parentheses is read as one operand. -/
theorem Reads.parenthesized (h : Reads dialect text grow) :
    Reads dialect ("(" ++ text ++ ")") (·.fill dialect (grow .start).expression) := by
  obtain ⟨tokens, hscans, hrun⟩ := h
  refine ⟨_, hscans.parenthesized, fun outer pending => ?_⟩
  calc run dialect (.beforeOperand outer pending) (.opening :: tokens ++ [.closing])
      = run dialect (.beforeOperand (pending :: outer) .start) (tokens ++ [.closing]) := rfl
    _ = run dialect (.afterOperand (pending :: outer) (grow .start)) [.closing] := by
      rw [run_append, hrun, Option.bind_some]
    _ = some (.afterOperand outer (pending.fill dialect (grow .start).expression)) := rfl

/-- What is read behind an operator goes on from what is read in front of it. -/
theorem Reads.apply {symbol operator : String} (hleft : Reads dialect left grow)
    (hsymbol : Scans symbol [.word symbol]) (hoperator : operator? dialect symbol = some operator)
    (hright : Reads dialect right further) :
    Reads dialect (left ++ " " ++ symbol ++ " " ++ right)
      (fun pending => further (.behind (grow pending) operator)) := by
  obtain ⟨before, hscansBefore, hrunBefore⟩ := hleft
  obtain ⟨behind, hscansBehind, hrunBehind⟩ := hright
  refine ⟨_, (hscansBefore.spaced hsymbol).spaced hscansBehind, fun outer pending => ?_⟩
  have hstep : run dialect (.afterOperand outer (grow pending)) [.word symbol] =
      some (.beforeOperand outer (.behind (grow pending) operator)) := by
    rw [run, List.foldlM_cons, step, hoperator]
    rfl
  rw [run_append, run_append, hrunBefore, Option.bind_some, hstep, Option.bind_some, hrunBehind]

/-- The decimal digits of a number are read back. -/
theorem natural?_toDigits (n : Nat) : natural? (Nat.toDigits 10 n) = some n := by
  have hdigits : (Nat.toDigits 10 n).all Char.isDigit = true :=
    List.all_eq_true.2 fun _ hc => Nat.isDigit_of_mem_toDigits (by omega) (by omega) hc
  rw [natural?, if_pos ⟨Nat.toDigits_ne_nil, hdigits⟩, Nat.ofDigitChars_ten_toDigits]

/-- No digit is a sign. -/
theorem sign_notMem_toDigits (n : Nat) : '-' ∉ Nat.toDigits 10 n := fun hmem =>
  absurd (Nat.isDigit_of_mem_toDigits (by omega) (by omega) hmem) (by decide)

/-- A number in decimal is read back, with its sign. -/
theorem integer?_repr (value : Int) : integer? value.repr.toList = some value := by
  cases value with
  | ofNat n =>
    rw [Int.repr, Nat.toList_repr]
    have hsign := sign_notMem_toDigits n
    have hread := natural?_toDigits n
    revert hsign hread
    generalize Nat.toDigits 10 n = digits
    intro hsign hread
    rw [integer?, hread]
    · rfl
    · rintro rest rfl
      exact hsign List.mem_cons_self
  | negSucc n =>
    have hsign : ("-" ++ (n + 1).repr).toList = '-' :: Nat.toDigits 10 (n + 1) := by
      rw [String.toList_append, Nat.toList_repr]
      rfl
    rw [Int.repr, hsign, integer?, natural?_toDigits]
    rfl

/-- An integer of 64 bits in decimal is read as the literal that it is. -/
theorem literal?_repr (value : Int64) : literal? value.toInt.repr = some (.integer value) := by
  rw [literal?, integer?_repr]
  simp

/-- A number in decimal is a word. -/
theorem scans_repr (value : Int) : Scans value.repr [.word value.repr] := by
  have hdigits (n : Nat) : (Nat.toDigits 10 n).all isWordChar = true := by
    refine List.all_eq_true.2 fun c hc => ?_
    have hdigit := Nat.isDigit_of_mem_toDigits (by omega) (by omega) hc
    simp only [isWordChar, Bool.and_eq_true, bne_iff_ne]
    refine ⟨⟨⟨?_, ?_⟩, ?_⟩, ?_⟩
    all_goals rintro rfl
    all_goals exact absurd hdigit (by decide)
  cases value with
  | ofNat n =>
    refine scans_word ?_ ?_
    · rw [Int.repr, Nat.toList_repr]
      exact hdigits n
    · rw [Int.repr, Nat.toList_repr]
      exact Nat.toDigits_ne_nil
  | negSucc n =>
    refine scans_word ?_ ?_
    · rw [Int.repr, String.toList_append, List.all_append, Nat.toList_repr, hdigits]
      rfl
    · simp [Int.repr]

end QueryAlgebra.Reader

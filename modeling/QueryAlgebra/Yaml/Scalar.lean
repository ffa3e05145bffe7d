import QueryAlgebra.Yaml.Mark

/-!
# Scalars

The forms in which YAML writes a text: plain, between single or double quotes, and as a block.
Each reader takes the text from the scalar on and returns the characters that the scalar stands
for, with the text behind it.
-/

namespace QueryAlgebra.Yaml

/-- The form in which a scalar is written. -/
inductive ScalarStyle where
  | plain
  | quoted
  | literal
  | folded
  deriving DecidableEq

/-- The blanks between two words of a scalar: spaces before the first line break, that break, and
the breaks after it. Spaces after a break are indentation. -/
structure Gap where
  spaces : List Char := []
  first : List Char := []
  further : List Char := []
  broken : Bool := false

namespace Gap

/-- The gap with another space. -/
def addSpace (gap : Gap) (c : Char) : Gap :=
  if gap.broken then gap else { gap with spaces := gap.spaces ++ [c] }

/-- The gap with another line break. -/
def addBreak (gap : Gap) (c : Char) : Gap :=
  if gap.broken then
    { gap with further := gap.further ++ [c] }
  else
    { gap with spaces := [], first := [c], broken := true }

/-- A line break that stands for nothing. -/
def escaped : Gap := { broken := true }

/-- What the gap stands for: a single line break for a space, several for all but the first. -/
def fold (gap : Gap) : List Char :=
  if gap.broken then
    match gap.first, gap.further with
    | ['\n'], [] => [' ']
    | ['\n'], further => further
    | first, further => first ++ further
  else
    gap.spaces

end Gap

/-- Whether the character separates the entries of a flow collection. -/
def isFlowIndicator (c : Char) : Bool :=
  c = ',' || c = '[' || c = ']' || c = '{' || c = '}'

/-- Whether a plain scalar can start here. -/
def startsPlain (flow : Bool) : List Mark → Bool
  | [] => false
  | m :: rest =>
    if m.char = '-' then !atBlank rest
    else if m.char = '?' || m.char = ':' then !flow && !atBlank rest
    else
      !isSpace m.char && !isBreak m.char && !isFlowIndicator m.char &&
        !("#&*!|>\x27\"%@`".toList.contains m.char)

/-- A plain scalar, behind `gap` from its last word. It ends before a colon with a blank behind it,
before a comment, at the start or end of a document, before an indicator of the flow collection it
is in, and before a line that does not reach column `floor`. The blanks at its end are passed; the
result tells whether there is a line break among them. -/
def plain (flow : Bool) (floor : Nat) (gap : Gap) :
    List Mark → Option (List Char × Bool × List Mark)
  | [] => some ([], gap.broken, [])
  | m :: rest =>
    if isBreak m.char then plain flow floor (gap.addBreak m.char) rest
    else if isSpace m.char then
      if gap.broken && m.char = '\t' && m.column < floor then none
      else plain flow floor (gap.addSpace m.char) rest
    else if (!flow && gap.broken && m.column < floor) || atDocumentBoundary (m :: rest) ||
        (m.char = '#' && (gap.broken || !gap.spaces.isEmpty)) ||
        atIndicator ':' (m :: rest) || (flow && isFlowIndicator m.char) then
      some ([], gap.broken, m :: rest)
    else if flow && m.char = ':' &&
        rest.head?.any (fun next => isFlowIndicator next.char || next.char = '?') then
      none
    else do
      let (chars, broken, after) ← plain flow floor {} rest
      some (gap.fold ++ m.char :: chars, broken, after)

/-- The rest of a scalar between single quotes, in which a quote is written twice. -/
def singleQuoted (gap : Gap) : List Mark → Option (List Char × List Mark)
  | [] => none
  | m :: rest =>
    if isBreak m.char then singleQuoted (gap.addBreak m.char) rest
    else if isSpace m.char then singleQuoted (gap.addSpace m.char) rest
    else if atDocumentBoundary (m :: rest) then none
    else if m.char = '\x27' then
      match rest with
      | next :: rest' =>
        if next.char = '\x27' then do
          let (chars, after) ← singleQuoted {} rest'
          some (gap.fold ++ '\x27' :: chars, after)
        else
          some (gap.fold, rest)
      | [] => some (gap.fold, rest)
    else do
      let (chars, after) ← singleQuoted {} rest
      some (gap.fold ++ m.char :: chars, after)

/-- The character that a single letter behind a backslash stands for. -/
def simpleEscape? (c : Char) : Option Char :=
  [('0', '\x00'), ('a', '\x07'), ('b', '\x08'), ('t', '\t'), ('\t', '\t'), ('n', '\n'),
   ('v', '\x0b'), ('f', '\x0c'), ('r', '\x0d'), ('e', '\x1b'), (' ', ' '), ('"', '"'),
   ('/', '/'), ('\\', '\\'), ('N', '\u0085'), ('_', '\u00a0'), ('L', '\u2028'),
   ('P', '\u2029')].lookup c

/-- How many hexadecimal digits follow a letter behind a backslash. -/
def escapeDigits? (c : Char) : Option Nat :=
  [('x', 2), ('u', 4), ('U', 8)].lookup c

/-- The value of a hexadecimal digit. -/
def hexDigit? (c : Char) : Option Nat :=
  if '0' ≤ c ∧ c ≤ '9' then some (c.toNat - '0'.toNat)
  else if 'a' ≤ c ∧ c ≤ 'f' then some (c.toNat - 'a'.toNat + 10)
  else if 'A' ≤ c ∧ c ≤ 'F' then some (c.toNat - 'A'.toNat + 10)
  else none

/-- The character with the hexadecimal code. -/
def hexChar? (digits : List Char) : Option Char := do
  let code ← digits.foldlM (fun code digit => return 16 * code + (← hexDigit? digit)) 0
  if code.isValidChar then some (Char.ofNat code) else none

/-- The rest of a scalar between double quotes, in which a backslash starts an escape. -/
def doubleQuoted (gap : Gap) (marks : List Mark) : Option (List Char × List Mark) :=
  match marks with
  | [] => none
  | m :: rest =>
    if isBreak m.char then doubleQuoted (gap.addBreak m.char) rest
    else if isSpace m.char then doubleQuoted (gap.addSpace m.char) rest
    else if atDocumentBoundary (m :: rest) then none
    else if m.char = '"' then some (gap.fold, rest)
    else if m.char = '\\' then
      match rest with
      | [] => none
      | next :: rest' =>
        if isBreak next.char then do
          let (chars, after) ← doubleQuoted Gap.escaped rest'
          some (gap.fold ++ chars, after)
        else
          match simpleEscape? next.char, escapeDigits? next.char with
          | some c, _ => do
            let (chars, after) ← doubleQuoted {} rest'
            some (gap.fold ++ c :: chars, after)
          | none, some count =>
            if count ≤ rest'.length then do
              let c ← hexChar? ((rest'.take count).map Mark.char)
              let (chars, after) ← doubleQuoted {} (rest'.drop count)
              some (gap.fold ++ c :: chars, after)
            else
              none
          | none, none => none
    else do
      let (chars, after) ← doubleQuoted {} rest
      some (gap.fold ++ m.char :: chars, after)
termination_by marks.length
decreasing_by
  all_goals simp only [List.length_cons, List.length_drop]
  all_goals omega

/-! ## Block scalars -/

/-- What becomes of the line breaks at the end of a block. -/
inductive Chomping where
  | strip
  | clip
  | keep

/-- The indicators behind the sign of a block: chomping and depth, in either order. -/
def blockIndicators : List Mark → Option (Chomping × Option Nat × List Mark)
  | m :: rest =>
    match chomping? m.char, depth? m.char with
    | some chomping, _ =>
      match rest with
      | next :: rest' =>
        match depth? next.char with
        | some depth => some (chomping, some depth, rest')
        | none => if next.char = '0' then none else some (chomping, none, rest)
      | [] => some (chomping, none, rest)
    | none, some depth =>
      match rest with
      | next :: rest' =>
        match chomping? next.char with
        | some chomping => some (chomping, some depth, rest')
        | none => some (.clip, some depth, rest)
      | [] => some (.clip, some depth, rest)
    | none, none => if m.char = '0' then none else some (.clip, none, m :: rest)
  | [] => some (.clip, none, [])
where
  chomping? (c : Char) : Option Chomping :=
    if c = '+' then some .keep else if c = '-' then some .strip else none
  depth? (c : Char) : Option Nat :=
    if '1' ≤ c ∧ c ≤ '9' then hexDigit? c else none

/-- The text behind the line, on which nothing but blanks and a comment may be left. -/
def endLine? (marks : List Mark) : Option (List Mark) :=
  match skipSpaces marks with
  | [] => some []
  | m :: rest =>
    if isBreak m.char then some rest
    else if m.char = '#' then some ((rest.dropWhile (!isBreak ·.char)).drop 1)
    else none

/-- The empty lines of a block: the deepest indentation among them and of the line behind them, up
to `depth` if that is known, the line breaks, and the text behind them. -/
def blockBreaks (depth : Option Nat) (deepest : Nat) :
    List Mark → Option (Nat × List Char × List Mark)
  | [] => some (deepest, [], [])
  | m :: rest =>
    if depth.all (m.column < ·) && m.char = ' ' then
      blockBreaks depth (max deepest (m.column + 1)) rest
    else if depth.all (m.column < ·) && m.char = '\t' then
      none
    else if isBreak m.char then do
      let (deepest, breaks, after) ← blockBreaks depth deepest rest
      some (deepest, m.char :: breaks, after)
    else
      some (deepest, [], m :: rest)

/-- The lines of a block that are indented to `depth`, where `first` and `further` are the line
breaks before the next of them and `spaced` tells whether the last line starts with a space. -/
def blockLines (folded : Bool) (depth : Nat) (fuel : Nat) (first further : List Char)
    (spaced : Bool) (marks : List Mark) :
    Option (List Char × List Char × List Char × List Mark) :=
  match fuel, marks with
  | fuel + 1, m :: rest =>
    if m.column = depth then do
      let joined :=
        if folded && first == ['\n'] && !spaced && !isSpace m.char then
          if further.isEmpty then [' '] else further
        else
          first ++ further
      let line := ((m :: rest).takeWhile (!isBreak ·.char)).map Mark.char
      let behind := (m :: rest).dropWhile (!isBreak ·.char)
      let (_, breaks, next) ← blockBreaks (some depth) 0 (behind.drop 1)
      let (chars, first', further', after) ←
        blockLines folded depth fuel ((behind.take 1).map Mark.char) breaks (isSpace m.char) next
      some (joined ++ line ++ chars, first', further', after)
    else
      some ([], first, further, marks)
  | _, _ => some ([], first, further, marks)

/-- A block from behind its sign on. Without an explicit depth, that of its first line counts, but
at least column `floor`. -/
def block (folded : Bool) (floor : Nat) (marks : List Mark) : Option (List Char × List Mark) := do
  let (chomping, explicit, marks) ← blockIndicators marks
  let marks ← endLine? marks
  let given := explicit.map fun depth => floor - 1 + depth
  let (deepest, breaks, marks) ← blockBreaks given 0 marks
  let depth := given.getD (max deepest (max floor 1))
  let (chars, first, further, after) ←
    blockLines folded depth marks.length [] breaks false marks
  match chomping with
  | .strip => some (chars, after)
  | .clip => some (chars ++ first, after)
  | .keep => some (chars ++ first ++ further, after)

end QueryAlgebra.Yaml

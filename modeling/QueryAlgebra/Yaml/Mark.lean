/-!
# Marked characters

In a YAML document the place of a character matters as much as the character: block collections are
told apart by columns, a key ends on the line on which it begins, and the length of a key is
limited. A document is therefore read as a list of characters that know their place.
-/

namespace QueryAlgebra.Yaml

/-- A character with its place: the line, the column on it, and the bytes of UTF-8 before it. -/
structure Mark where
  char : Char
  line : Nat
  column : Nat
  offset : Nat

/-- Whether the character ends a line. -/
def isBreak (c : Char) : Bool :=
  c = '\n' || c = '\x0d' || c = '\u0085' || c = '\u2028' || c = '\u2029'

/-- Whether the character separates words on a line. -/
def isSpace (c : Char) : Bool :=
  c = ' ' || c = '\t'

/-- Whether a document may hold the character: no control characters but tab, line breaks and the
next-line character, no deletion character and no non-characters of the first plane. -/
def isAllowed (c : Char) : Bool :=
  c = '\t' || c = '\n' || c = '\x0d' || c = '\u0085' ||
    (' ' ≤ c && c ≤ '~') || (0xA0 ≤ c.toNat && c.toNat ≤ 0xFFFD) || 0x10000 ≤ c.toNat

/-- The characters from the given place on. A carriage return, alone or with the line feed behind
it, and the next-line character count as a line feed. -/
def mark (line column offset : Nat) : List Char → List Mark
  | [] => []
  | '\x0d' :: '\n' :: rest => ⟨'\n', line, column, offset⟩ :: mark (line + 1) 0 (offset + 2) rest
  | c :: rest =>
    if c = '\u2028' || c = '\u2029' then
      ⟨c, line, column, offset⟩ :: mark (line + 1) 0 (offset + c.utf8Size) rest
    else if isBreak c then
      ⟨'\n', line, column, offset⟩ :: mark (line + 1) 0 (offset + c.utf8Size) rest
    else
      ⟨c, line, column, offset⟩ :: mark line (column + 1) (offset + c.utf8Size) rest

/-- The characters of a document in their places, or `none` if one of them is not allowed. -/
def marks? (text : String) : Option (List Mark) :=
  if text.toList.all isAllowed then some (mark 0 0 0 text.toList) else none

/-- Whether the text ends or goes on with a space or a line break. -/
def atBlank : List Mark → Bool
  | [] => true
  | m :: _ => isSpace m.char || isBreak m.char

/-- Whether the text goes on with the indicator and a blank behind it. -/
def atIndicator (indicator : Char) : List Mark → Bool
  | m :: rest => m.char = indicator && atBlank rest
  | [] => false

/-- Whether the text goes on with a line that starts or ends a document, made of three copies of
the given character. -/
def atBoundary (boundary : Char) : List Mark → Bool
  | m :: m' :: m'' :: rest =>
    m.column = 0 && m.char = boundary && m'.char = boundary && m''.char = boundary && atBlank rest
  | _ => false

/-- Whether the text goes on with the start or the end of a document. -/
def atDocumentBoundary (marks : List Mark) : Bool :=
  atBoundary '-' marks || atBoundary '.' marks

/-- The text from the next token on, and whether a key may start there, given whether one may start
here. A key may start on every new line outside flow collections. Comments are passed, as are tabs
where no key may start and a byte-order mark at the start of a line, which takes up a column. -/
def skipGap (flow fresh comment : Bool) : List Mark → Bool × List Mark
  | [] => (fresh, [])
  | m :: rest =>
    if isBreak m.char then skipGap flow (fresh || !flow) false rest
    else if comment || m.char = ' ' || (m.char = '\t' && (flow || !fresh)) ||
        (m.char = '\ufeff' && m.column = 0) then
      skipGap flow fresh comment rest
    else if m.char = '#' then skipGap flow fresh true rest
    else (fresh, m :: rest)

/-- The text without the spaces in front. -/
def skipSpaces (marks : List Mark) : List Mark :=
  marks.dropWhile (isSpace ·.char)

end QueryAlgebra.Yaml

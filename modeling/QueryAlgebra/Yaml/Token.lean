import QueryAlgebra.Yaml.Scalar

/-!
# YAML tokens

A document as a list of tokens: what is written, and the places where block collections start and
end, which are not written but follow from the columns.

Only a colon shows that the text before it is a key. The place of a possible key is therefore kept,
and when the colon comes, the key and the mapping that may start with it are entered there. A
possible key is given up at the end of its line and after 1024 bytes.
-/

namespace QueryAlgebra.Yaml

/-- The smallest parts of a document that have a meaning of their own. -/
inductive Token where
  | version
  | handle (name replacement : String)
  | documentStart
  | documentEnd
  | blockSequence
  | blockMapping
  | blockEnd
  | flowSequence
  | flowSequenceEnd
  | flowMapping
  | flowMappingEnd
  | item
  | comma
  | key
  | value
  | anchor (name : String)
  | alias (name : String)
  | tag (handle suffix : String)
  | scalar (style : ScalarStyle) (text : String)
  deriving DecidableEq

/-! ## Names, tags and directives -/

/-- Whether the character may stand in the name of an anchor, a handle or a directive. -/
def isWord (c : Char) : Bool :=
  c.isAlphanum || c = '_' || c = '-'

/-- The word at the front, which may be empty, and the text behind it. -/
def word (marks : List Mark) : String × List Mark :=
  (String.ofList ((marks.takeWhile (isWord ·.char)).map Mark.char), marks.dropWhile (isWord ·.char))

/-- Whether the text goes on with one of the characters. -/
def startsWith (chars : List Char) (marks : List Mark) : Bool :=
  marks.head?.any (chars.contains ·.char)

/-- The name of an anchor or an alias. -/
def anchorName? (marks : List Mark) : Option (String × List Mark) :=
  let (name, after) := word marks
  if name ≠ "" && (atBlank after || startsWith "?:,]\x7d%@`".toList after) then
    some (name, after)
  else
    none

/-- Whether the character may stand in a tag; some may only where its end is marked. -/
def isUri (marked : Bool) (c : Char) : Bool :=
  isWord c || ";/?:@&=+$.!~*\x27()".toList.contains c || (marked && ",[]".toList.contains c)

/-- The bytes of a tag. A percent sign stands before the two digits of a byte. -/
def uriBytes (marked : Bool) : List Mark → Option (List UInt8 × List Mark)
  | [] => some ([], [])
  | m :: rest =>
    if m.char = '%' then
      match rest with
      | high :: low :: rest' => do
        let byte := 16 * (← hexDigit? high.char) + (← hexDigit? low.char)
        let (bytes, after) ← uriBytes marked rest'
        some (UInt8.ofNat byte :: bytes, after)
      | _ => none
    else if isUri marked m.char then do
      let (bytes, after) ← uriBytes marked rest
      some (m.char.toUInt8 :: bytes, after)
    else
      some ([], m :: rest)

/-- A part of a tag as text. -/
def uri? (marked : Bool) (marks : List Mark) : Option (String × List Mark) := do
  let (bytes, after) ← uriBytes marked marks
  some (← String.fromUTF8? ⟨bytes.toArray⟩, after)

/-- A handle behind its exclamation mark, if it ends in another one. -/
def handle? (marks : List Mark) : Option (String × List Mark) :=
  let (name, after) := word marks
  if startsWith ['!'] after then some ("!" ++ name ++ "!", after.drop 1) else none

/-- A tag behind its exclamation mark: in angle brackets, with a handle, or with the exclamation
mark as its handle. The exclamation mark alone is a tag too. -/
def tag? (marks : List Mark) : Option (Token × List Mark) :=
  if startsWith ['<'] marks then do
    let (suffix, after) ← uri? true (marks.drop 1)
    if suffix ≠ "" && startsWith ['>'] after then some (.tag "" suffix, after.drop 1) else none
  else
    match handle? marks with
    | some (handle, rest) => do
      let (suffix, after) ← uri? false rest
      if suffix ≠ "" then some (.tag handle suffix, after) else none
    | none => do
      let (suffix, after) ← uri? false marks
      some (if suffix = "" then .tag "" "!" else .tag "!" suffix, after)

/-- A number of at most nine digits. -/
def shortNumber? (marks : List Mark) : Option (Nat × List Mark) :=
  let digits := marks.takeWhile (·.char.isDigit)
  if digits ≠ [] && digits.length ≤ 9 then
    some (digits.foldl (fun number m => 10 * number + (m.char.toNat - '0'.toNat)) 0,
      marks.dropWhile (·.char.isDigit))
  else
    none

/-- The version behind its directive, which is 1.1 or 1.2. -/
def version? (marks : List Mark) : Option (Token × List Mark) := do
  let (major, after) ← shortNumber? (skipSpaces marks)
  if startsWith ['.'] after then
    let (minor, after) ← shortNumber? (after.drop 1)
    if major = 1 && (minor = 1 || minor = 2) then some (.version, after) else none
  else
    none

/-- The handle and its replacement behind their directive. -/
def replacement? (marks : List Mark) : Option (Token × List Mark) :=
  match skipSpaces marks with
  | m :: rest =>
    if m.char = '!' then do
      let (handle, after) := (handle? rest).getD ("!", rest)
      let (replacement, after') ← uri? true (skipSpaces after)
      if startsWith [' ', '\t'] after && replacement ≠ "" && atBlank after' then
        some (.handle handle replacement, after')
      else
        none
    else
      none
  | [] => none

/-- A directive behind its percent sign, up to the end of its line. -/
def directive? (marks : List Mark) : Option (Token × List Mark) := do
  let (name, rest) := word marks
  let (token, after) ←
    match name with
    | "YAML" => if atBlank rest then version? rest else none
    | "TAG" => if atBlank rest then replacement? rest else none
    | _ => none
  some (token, ← endLine? after)

/-! ## Layout -/

/-- The place of a possible key: where it is written, how many tokens precede it, and whether a key
is required there because the entries of a block mapping start in its column. -/
structure KeyPlace where
  start : Mark
  index : Nat
  required : Bool

/-- Whether it is too late for a colon at `m`. -/
def KeyPlace.isPast (place : KeyPlace) (m : Mark) : Bool :=
  place.start.line < m.line || place.start.offset + 1024 < m.offset

/-- What is known between two tokens: the columns of the block collections that are open, innermost
first, the possible key of the innermost collection and of those around the open flow collections,
whether a key may start next, and the tokens so far, last first. -/
structure Layout where
  columns : List Nat := []
  key : Option KeyPlace := none
  outerKeys : List (Option KeyPlace) := []
  fresh : Bool := true
  tokens : List Token := []

namespace Layout

/-- Whether a flow collection is open. -/
def inFlow (layout : Layout) : Bool :=
  !layout.outerKeys.isEmpty

/-- The first column that belongs to the innermost block collection. -/
def floor (layout : Layout) : Nat :=
  (layout.columns.head?.map (· + 1)).getD 0

/-- The layout behind another token. -/
def emit (layout : Layout) (token : Token) : Layout :=
  { layout with tokens := token :: layout.tokens }

/-- The layout with a token entered behind the first `index` tokens. -/
def insert (layout : Layout) (index : Nat) (token : Token) : Layout :=
  { layout with tokens := layout.tokens.insertIdx (layout.tokens.length - index) token }

/-- The layout with the places past `m` given up, unless one of them requires a key. -/
def expire (layout : Layout) (m : Mark) : Option Layout :=
  let isPast (place : KeyPlace) := place.isPast m
  if (layout.key :: layout.outerKeys).any (·.any fun place => place.isPast m && place.required) then
    none
  else
    some { layout with
      key := layout.key.filter (!isPast ·)
      outerKeys := layout.outerKeys.map (·.filter (!isPast ·)) }

/-- The layout without the possible key, which must not be required. -/
def dropKey (layout : Layout) : Option Layout :=
  if layout.key.any (·.required) then none else some { layout with key := none }

/-- The layout with a possible key at `m`, if one may start there. -/
def saveKey (layout : Layout) (m : Mark) : Option Layout :=
  if layout.fresh then do
    let required := !layout.inFlow && layout.columns.head? = some m.column
    let layout ← layout.dropKey
    some { layout with key := some ⟨m, layout.tokens.length, required⟩ }
  else
    some layout

/-- The layout with a block collection opened in the column, if it is deeper than all others. Its
token is entered behind the first `index` tokens. -/
def openBlock (layout : Layout) (column index : Nat) (token : Token) : Layout :=
  if !layout.inFlow && layout.columns.head?.all (· < column) then
    { layout.insert index token with columns := column :: layout.columns }
  else
    layout

/-- The layout with the innermost block collections closed as long as `ends` holds of their
columns. -/
def closeBlocks (layout : Layout) (ends : Nat → Bool) : Layout :=
  if layout.inFlow then
    layout
  else
    { layout with
      columns := layout.columns.dropWhile ends
      tokens := (layout.columns.takeWhile ends).map (fun _ => .blockEnd) ++ layout.tokens }

/-- The layout with all blocks closed, as at the start or end of a document. -/
def leave (layout : Layout) : Option Layout := do
  let layout ← (layout.closeBlocks fun _ => true).dropKey
  some { layout with fresh := false }

/-- The layout behind the opening bracket at `m`. -/
def openFlow (layout : Layout) (m : Mark) (token : Token) : Option Layout := do
  let layout ← layout.saveKey m
  some { layout.emit token with
    key := none
    outerKeys := layout.key :: layout.outerKeys
    fresh := true }

/-- The layout behind a closing bracket. -/
def closeFlow (layout : Layout) (token : Token) : Option Layout := do
  let layout ← layout.dropKey
  some { layout.emit token with
    key := layout.outerKeys.head?.getD none
    outerKeys := layout.outerKeys.tail
    fresh := false }

/-- The layout behind an indicator at `m` that starts an item or a key. Outside flow collections it
stands only where a key may start, and may open a block. -/
def openEntry (layout : Layout) (m : Mark) (block token : Token) : Option Layout :=
  if layout.inFlow || layout.fresh then
    ((layout.openBlock m.column layout.tokens.length block).emit token).dropKey
  else
    none

/-- The layout behind the colon at `m`. -/
def value (layout : Layout) (m : Mark) : Option Layout :=
  match layout.key with
  | some place =>
    let keyed := layout.insert place.index .key
    let opened := keyed.openBlock place.start.column place.index .blockMapping
    some { opened.emit .value with key := none, fresh := false }
  | none => do
    let layout ← layout.openEntry m .blockMapping .value
    some { layout with fresh := !layout.inFlow }

/-- The layout behind a scalar, an alias or a property that is written from `m` on. -/
def content (layout : Layout) (m : Mark) (token : Token) : Option Layout := do
  let layout ← layout.saveKey m
  some { layout.emit token with fresh := false }

/-- The layout behind the token with which the text starts, and the text behind it. -/
def next (layout : Layout) : List Mark → Option (Layout × List Mark)
  | [] => none
  | m :: rest =>
    let flow := layout.inFlow
    if m.char = '%' && m.column = 0 then do
      let (token, after) ← directive? rest
      some ((← layout.leave).emit token, after)
    else if atBoundary '-' (m :: rest) then do
      some ((← layout.leave).emit .documentStart, rest.drop 2)
    else if atBoundary '.' (m :: rest) then do
      some ((← layout.leave).emit .documentEnd, rest.drop 2)
    else if m.char = '[' then do some (← layout.openFlow m .flowSequence, rest)
    else if m.char = '{' then do some (← layout.openFlow m .flowMapping, rest)
    else if m.char = ']' then do some (← layout.closeFlow .flowSequenceEnd, rest)
    else if m.char = '}' then do some (← layout.closeFlow .flowMappingEnd, rest)
    else if m.char = ',' then do
      some ({ (← layout.dropKey).emit .comma with fresh := true }, rest)
    else if m.char = '-' && atBlank rest then do
      some ({ ← layout.openEntry m .blockSequence .item with fresh := true }, rest)
    else if m.char = '?' && (flow || atBlank rest) then do
      some ({ ← layout.openEntry m .blockMapping .key with fresh := !flow }, rest)
    else if m.char = ':' && (flow || atBlank rest) then do some (← layout.value m, rest)
    else if m.char = '*' then do
      let (name, after) ← anchorName? rest
      some (← layout.content m (.alias name), after)
    else if m.char = '&' then do
      let (name, after) ← anchorName? rest
      some (← layout.content m (.anchor name), after)
    else if m.char = '!' then do
      let (token, after) ← tag? rest
      if atBlank after || (flow && startsWith [','] after) then
        some (← layout.content m token, after)
      else
        none
    else if (m.char = '|' || m.char = '>') && !flow then do
      let folded : Bool := m.char = '>'
      let (chars, after) ← block folded layout.floor rest
      let token := .scalar (if folded then .folded else .literal) (String.ofList chars)
      some ({ (← layout.dropKey).emit token with fresh := true }, after)
    else if m.char = '\x27' then do
      let (chars, after) ← singleQuoted {} rest
      some (← layout.content m (.scalar .quoted (String.ofList chars)), after)
    else if m.char = '"' then do
      let (chars, after) ← doubleQuoted {} rest
      some (← layout.content m (.scalar .quoted (String.ofList chars)), after)
    else if startsPlain flow (m :: rest) then do
      let (chars, broken, after) ← plain flow layout.floor {} (m :: rest)
      let token := .scalar .plain (String.ofList chars)
      some ({ ← layout.content m token with fresh := broken }, after)
    else
      none

/-- All tokens, those of the text added to those of the layout. Each step passes a character, so the
length of the text and one more is enough fuel. -/
def scan? (fuel : Nat) (layout : Layout) (marks : List Mark) : Option (List Token) :=
  match fuel with
  | 0 => none
  | fuel + 1 =>
    match skipGap layout.inFlow layout.fresh false marks with
    | (_, []) => layout.leave.map (·.tokens.reverse)
    | (fresh, m :: rest) => do
      let layout ← { layout with fresh }.expire m
      let (layout, after) ← (layout.closeBlocks (m.column < ·)).next (m :: rest)
      scan? fuel layout after

end Layout

/-- The tokens of a text. -/
def tokens? (marks : List Mark) : Option (List Token) :=
  Layout.scan? (marks.length + 1) {} marks

end QueryAlgebra.Yaml

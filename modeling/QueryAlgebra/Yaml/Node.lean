import QueryAlgebra.Yaml.Token

/-!
# YAML documents

A document is a tree of scalars, sequences and mappings, read by descent from its tokens. An alias
stands for the node that carries its anchor. Tags matter for scalars only and are kept there; files
of several documents are not part of the format read here.

The readers call each other in turn and are given fuel. Of three calls in a row one passes a token,
so three times the number of tokens is enough.
-/

namespace QueryAlgebra.Yaml

/-- A node of a document. The style and the tag of a scalar are kept, because they decide whether it
can mean something other than its text. -/
inductive Node where
  | scalar (style : ScalarStyle) (tag : Option String) (text : String)
  | sequence (items : List Node)
  | mapping (entries : List (Node × Node))

namespace Node

/-- The node that stands where nothing is written. -/
def absent : Node := .scalar .plain none ""

instance : Inhabited Node := ⟨absent⟩

end Node

/-- What is left to read: the tokens, what the handles of tags stand for, and the nodes that carry
anchors, latest first. A node that is not yet complete is not there for its own aliases. -/
structure Source where
  tokens : List Token
  handles : List (String × String)
  anchors : List (String × Option Node) := []

/-- A reader of a part of a document. -/
abbrev Reader := StateT Source Option

namespace Reader

/-- The next token. -/
def peek? : Reader (Option Token) :=
  return (← get).tokens.head?

/-- Pass the next token. -/
def skip : Reader Unit :=
  modify fun source => { source with tokens := source.tokens.tail }

/-- Enter what an anchor stands for. -/
def define (anchor : Option String) (node : Option Node) : Reader Unit :=
  modify fun source =>
    { source with anchors := (anchor.toList.map fun name => (name, node)) ++ source.anchors }

/-- The node with the anchor. -/
def target (name : String) : Reader Node := do
  match (← get).anchors.lookup name with
  | some (some node) => return node
  | _ => failure

/-- The tag with its handle replaced. -/
def expand (handle suffix : String) : Reader String := do
  if handle = "" then
    return suffix
  else
    match (← get).handles.lookup handle with
    | some replacement => return replacement ++ suffix
    | none => failure

/-- The anchor and the tag of the next node, which are written in either order. -/
def properties : Reader (Option String × Option String) := do
  match ← peek? with
  | some (.anchor name) =>
    skip
    match ← peek? with
    | some (.tag handle suffix) =>
      skip
      return (some name, some (← expand handle suffix))
    | _ => return (some name, none)
  | some (.tag handle suffix) =>
    skip
    let tag ← expand handle suffix
    match ← peek? with
    | some (.anchor name) =>
      skip
      return (some name, some tag)
    | _ => return (none, some tag)
  | _ => return (none, none)

/-- The node that `read` reads, or no node before one of the tokens. -/
def unlessBefore (tokens : List Token) (read : Reader Node) : Reader Node := do
  if (← peek?).any tokens.contains then return .absent else read

mutual

/-- A node. Outside flow collections it may be a block collection, and as part of an entry of a
mapping also a sequence that is not indented. -/
def node (fuel : Nat) (block unindented : Bool) : Reader Node :=
  match fuel with
  | 0 => failure
  | fuel + 1 => do
    if let some (.alias name) ← peek? then
      skip
      target name
    else
      let (anchor, tag) ← properties
      define anchor none
      let node ←
        match ← peek?, block, unindented with
        | some (.scalar style text), _, _ => do
          skip
          pure (.scalar style (tag.filter (· ≠ "!")) text)
        | some .flowSequence, _, _ => do
          skip
          pure (.sequence (← flowItems fuel true))
        | some .flowMapping, _, _ => do
          skip
          pure (.mapping (← flowEntries fuel true))
        | some .blockSequence, true, _ => do
          skip
          pure (.sequence (← blockItems fuel))
        | some .blockMapping, true, _ => do
          skip
          pure (.mapping (← blockEntries fuel))
        | some .item, _, true => do pure (.sequence (← unindentedItems fuel))
        | _, _, _ =>
          if anchor.isSome || tag.isSome then pure (.scalar .plain tag "") else failure
      define anchor (some node)
      return node

/-- The items of a block sequence up to its end. -/
def blockItems (fuel : Nat) : Reader (List Node) :=
  match fuel with
  | 0 => failure
  | fuel + 1 => do
    match ← peek? with
    | some .item =>
      skip
      let item ← unlessBefore [.item, .blockEnd] (node fuel true false)
      return item :: (← blockItems fuel)
    | some .blockEnd =>
      skip
      return []
    | _ => failure

/-- The items of a sequence in the column of the mapping around it. -/
def unindentedItems (fuel : Nat) : Reader (List Node) :=
  match fuel with
  | 0 => failure
  | fuel + 1 => do
    match ← peek? with
    | some .item =>
      skip
      let item ← unlessBefore [.item, .key, .value, .blockEnd] (node fuel true false)
      return item :: (← unindentedItems fuel)
    | _ => return []

/-- The entries of a block mapping up to its end. -/
def blockEntries (fuel : Nat) : Reader (List (Node × Node)) :=
  match fuel with
  | 0 => failure
  | fuel + 1 => do
    match ← peek? with
    | some .key =>
      skip
      let entry ← pair fuel true [.key, .value, .blockEnd]
      return entry :: (← blockEntries fuel)
    | some .blockEnd =>
      skip
      return []
    | _ => failure

/-- The items of a flow sequence up to its closing bracket. Behind the first each follows a comma,
and a pair is a mapping of its own. -/
def flowItems (fuel : Nat) (first : Bool) : Reader (List Node) :=
  match fuel with
  | 0 => failure
  | fuel + 1 => do
    if !first && (← peek?) = some .comma then
      skip
    else if !first && (← peek?) ≠ some .flowSequenceEnd then
      failure
    match ← peek? with
    | some .flowSequenceEnd =>
      skip
      return []
    | some .key =>
      skip
      let entry ← pair fuel false [.value, .comma, .flowSequenceEnd]
      return .mapping [entry] :: (← flowItems fuel false)
    | _ =>
      let item ← node fuel false false
      return item :: (← flowItems fuel false)

/-- The entries of a flow mapping up to its closing bracket. Behind the first each follows a comma,
and a node on its own is a key. -/
def flowEntries (fuel : Nat) (first : Bool) : Reader (List (Node × Node)) :=
  match fuel with
  | 0 => failure
  | fuel + 1 => do
    if !first && (← peek?) = some .comma then
      skip
    else if !first && (← peek?) ≠ some .flowMappingEnd then
      failure
    match ← peek? with
    | some .flowMappingEnd =>
      skip
      return []
    | some .key =>
      skip
      let entry ← pair fuel false [.value, .comma, .flowMappingEnd]
      return entry :: (← flowEntries fuel false)
    | _ =>
      let key ← node fuel false false
      return (key, .absent) :: (← flowEntries fuel false)

/-- A key and its value, either of which is left out before one of the tokens in `ends`. -/
def pair (fuel : Nat) (block : Bool) (ends : List Token) : Reader (Node × Node) :=
  match fuel with
  | 0 => failure
  | fuel + 1 => do
    let key ← unlessBefore ends (node fuel block block)
    if (← peek?) = some .value then
      skip
      return (key, ← unlessBefore ends (node fuel block block))
    else
      return (key, .absent)

end

end Reader

/-- Whether the token belongs in front of a document. -/
def Token.isDirective : Token → Bool
  | .version => true
  | .handle _ _ => true
  | _ => false

/-- The handles that the tokens declare. -/
def Token.handles (tokens : List Token) : List (String × String) :=
  tokens.filterMap fun
    | .handle name replacement => some (name, replacement)
    | _ => none

/-- The handles that need no declaration. -/
def standardHandles : List (String × String) :=
  [("!", "!"), ("!!", "tag:yaml.org,2002:")]

namespace Node

/-- The root of the document that the tokens make up, or `none` if they are not one document. Where
its start is written, nothing needs to follow. -/
def ofTokens? (tokens : List Token) : Option Node := do
  let directives := tokens.takeWhile Token.isDirective
  let handles := Token.handles directives
  let isNone (token : Option Token) := token.all fun token =>
    token.isDirective || token = .documentStart || token = .documentEnd
  let (root, rest) ←
    match tokens.dropWhile Token.isDirective with
    | .documentStart :: content =>
      if isNone content.head? then some (absent, content) else read content handles
    | [] => if directives.isEmpty then some (absent, []) else none
    | content => if directives.isEmpty then read content handles else none
  if directives.count .version ≤ 1 && (handles.map Prod.fst).Nodup &&
      (rest.dropWhile (· = .documentEnd)).isEmpty then
    some root
  else
    none
where
  read (content : List Token) (handles : List (String × String)) : Option (Node × List Token) := do
    let source := { tokens := content, handles := handles ++ standardHandles }
    let (root, source) ← Reader.node (3 * content.length + 3) true false source
    some (root, source.tokens)

/-- The root of the document that the text holds. -/
def parse? (text : String) : Option Node := do
  ofTokens? (← tokens? (← marks? text))

end Node

end QueryAlgebra.Yaml

import Std.Data.TreeMap
import QueryAlgebra.Yaml.Node

/-!
# Reading values out of documents

Readers from the nodes of a document to values. A text is any scalar as it is written, so a plain
`1.50` or `true` is the text of these characters, whatever its tag. Where nothing is written, a
list, a record or a map is empty and an optional value is left out.
-/

namespace QueryAlgebra.Yaml.Node

variable {α : Type}

/-- The tag of a scalar that is no value. -/
def nullTag : String := "tag:yaml.org,2002:null"

/-- The tag of a scalar that is a whole number. -/
def intTag : String := "tag:yaml.org,2002:int"

/-- Whether the text of a plain scalar says that there is no value. -/
def isNullText (text : String) : Bool :=
  ["~", "null", "Null", "NULL"].contains text

/-- The text of a scalar. -/
def text? : Node → Option String
  | .scalar _ _ text => some text
  | _ => none

/-- The name of a choice: a text, or else a tag that starts with an exclamation mark and has no
value behind it. -/
def choice? : Node → Option String
  | .scalar style (some tag) text =>
    match tag.toList with
    | '!' :: name =>
      if style = .plain && (text = "" || isNullText text) then some (String.ofList name) else none
    | _ => some text
  | node => node.text?

/-- A value that may be left out. Only a plain scalar can say so, and with a tag it says so by that
tag alone. -/
def optional? (read : Node → Option α) (node : Node) : Option (Option α) :=
  match node with
  | .scalar .plain none text =>
    if text = "" || isNullText text then some none else (read node).map some
  | .scalar .plain (some tag) text =>
    if tag ≠ nullTag then (read node).map some
    else if isNullText text then some none
    else none
  | _ => (read node).map some

/-- A list of values. -/
def list? (read : Node → Option α) : Node → Option (List α)
  | .sequence items => items.mapM read
  | .scalar .plain _ "" => some []
  | _ => none

/-- The entries of a mapping, the keys as they are written. -/
def entries? : Node → Option (List (String × Node))
  | .mapping entries => entries.mapM fun (key, value) => return (← key.text?, value)
  | .scalar .plain _ "" => some []
  | _ => none

/-- The fields of a record, all of them among `names` and none repeated. -/
def fields? (names : List String) (node : Node) : Option (List (String × Node)) := do
  let fields ← node.entries?
  let keys := fields.map Prod.fst
  if keys.all names.contains && keys.eraseDups.length = keys.length then some fields else none

/-- A map of values in the order of the keys. The last entry of a key wins. -/
def map? (read : Node → Option α) (node : Node) : Option (Std.TreeMap String α) := do
  let entries ← (← node.entries?).mapM fun (key, value) => return (key, ← read value)
  return Std.TreeMap.ofList entries

/-- The number that the digits stand for in the base. -/
def ofDigits? (base : Nat) (digits : List Char) : Option Nat := do
  if digits.isEmpty then none
  digits.foldlM (fun number digit => do
    let value ← hexDigit? digit
    if value < base then some (base * number + value) else none) 0

/-- A whole number without a sign: in base 16, 8 or 2 behind a mark, or in base 10 without leading
zeros. -/
def natural? : List Char → Option Nat
  | '0' :: 'x' :: digits => ofDigits? 16 digits
  | '0' :: 'o' :: digits => ofDigits? 8 digits
  | '0' :: 'b' :: digits => ofDigits? 2 digits
  | '0' :: _ :: _ => none
  | digits => ofDigits? 10 digits

/-- A whole number as it is written. -/
def int? (text : String) : Option Int :=
  match text.toList with
  | '-' :: digits => (natural? digits).map fun (n : Nat) => -(n : Int)
  | '+' :: digits => (natural? digits).map Int.ofNat
  | digits => (natural? digits).map Int.ofNat

/-- A whole number of 32 bits. Only a plain scalar can be one, or a literal block with the tag for
it. -/
def int32? : Node → Option Int32
  | .scalar style tag text => do
    let number ← int? text
    if (style = .plain || (style = .literal && tag = some intTag)) &&
        Int32.minValue.toInt ≤ number && number ≤ Int32.maxValue.toInt then
      some (Int32.ofInt number)
    else
      none
  | _ => none

end QueryAlgebra.Yaml.Node

/-!
# Keyed lists

A list whose elements may carry a key. Elements keep their order, a key leads to the first element
that carries it, and the keys carried by several elements are remembered as ambiguous.

The index behind the look-ups is filled in one pass and plays no part in equality.
-/

namespace QueryAlgebra

variable {κ α : Type}

/-- Where each key occurs first, and which keys occur again. -/
structure KeyIndex (κ : Type) where
  first : List (κ × Nat) := []
  repeated : List κ := []

/-- Enter the key of the element at `position`, if it has one. -/
def KeyIndex.enter [BEq κ] (index : KeyIndex κ) (position : Nat) : Option κ → KeyIndex κ
  | none => index
  | some key =>
    if (index.first.lookup key).isNone then
      { index with first := index.first ++ [(key, position)] }
    else if index.repeated.contains key then
      index
    else
      { index with repeated := index.repeated ++ [key] }

/-- Enter the keys of consecutive elements, the first of them at `position`. -/
def KeyIndex.enterAll [BEq κ] (index : KeyIndex κ) (position : Nat) : List (Option κ) → KeyIndex κ
  | [] => index
  | key :: keys => (index.enter position key).enterAll (position + 1) keys

/-- A list of elements with optional keys, and the index of the keys. -/
structure KeyedList (κ α : Type) where
  entries : List (Option κ × α) := []
  index : KeyIndex κ := {}

namespace KeyedList

instance : Inhabited (KeyedList κ α) := ⟨{}⟩

/-- Equal lists have equal entries. -/
instance [BEq κ] [BEq α] : BEq (KeyedList κ α) := ⟨fun list other => list.entries == other.entries⟩

/-- The list of `values`, each under the key that `key` gives it. -/
def ofList [BEq κ] (values : List α) (key : α → Option κ) : KeyedList κ α where
  entries := values.map fun value => (key value, value)
  index := KeyIndex.enterAll {} 0 (values.map key)

/-- The number of elements, those without a key included. -/
def length (list : KeyedList κ α) : Nat :=
  list.entries.length

/-- Whether there are no elements. -/
def isEmpty (list : KeyedList κ α) : Bool :=
  list.entries.isEmpty

/-- The elements in order. -/
def values (list : KeyedList κ α) : List α :=
  list.entries.map Prod.snd

/-- The element at a position. -/
def at? (list : KeyedList κ α) (position : Nat) : Option α :=
  list.entries[position]?.map Prod.snd

/-- The key of the element at a position. -/
def keyAt? (list : KeyedList κ α) (position : Nat) : Option κ :=
  list.entries[position]?.bind Prod.fst

/-- The keys in order, repeated ones as often as they occur. -/
def keys (list : KeyedList κ α) : List κ :=
  list.entries.filterMap Prod.fst

/-- Whether some element has no key. -/
def hasAnonymous (list : KeyedList κ α) : Bool :=
  list.entries.any (·.1.isNone)

/-- The keys that several elements carry, each once. -/
def ambiguous (list : KeyedList κ α) : List κ :=
  list.index.repeated

/-- The position of the first element with the key. -/
def position? [BEq κ] (list : KeyedList κ α) (key : κ) : Option Nat :=
  list.index.first.lookup key

/-- The first element with the key. -/
def find? [BEq κ] (list : KeyedList κ α) (key : κ) : Option α :=
  (list.position? key).bind list.at?

/-- Whether several elements carry the key. -/
def isAmbiguous [BEq κ] (list : KeyedList κ α) (key : κ) : Bool :=
  list.ambiguous.contains key

end KeyedList

end QueryAlgebra

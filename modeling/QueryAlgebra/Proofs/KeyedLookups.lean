import Mathlib.Data.List.Forall2
import Mathlib.Data.List.Perm.Basic
import Mathlib.Order.Bounds.Basic
import QueryAlgebra.DataType
import QueryAlgebra.Proofs.KeyIndexing

/-!
# Look-ups in a keyed list

What a keyed list answers is decided by its entries alone. A key leads to the first value that has
it, and is ambiguous if it stands at several positions. The answers are read off the index, but the
index is filled from the entries, and so lists with equal entries give equal answers.

Keys are compared by an equivalence, which may be coarser than identity. How values are compared
does not matter.
-/

namespace QueryAlgebra

variable {κ α : Type}

/-! ## Positions in a list -/

/-- The positions of the values with a property. -/
def positionsWhere (property : α → Bool) (values : List α) : Set Nat :=
  {i | ∃ value, values[i]? = some value ∧ property value}

/-- The search for a property ends at the least position that has it. -/
theorem findIdx?_eq_some_iff_isLeast {property : α → Bool} {values : List α} {i : Nat} :
    values.findIdx? property = some i ↔ IsLeast (positionsWhere property values) i := by
  rw [List.findIdx?_eq_some_iff_getElem]
  constructor
  · rintro ⟨hi, hproperty, hbefore⟩
    refine ⟨⟨_, List.getElem?_eq_getElem hi, hproperty⟩, ?_⟩
    rintro j ⟨value, hvalue, hother⟩
    obtain ⟨hj, rfl⟩ := List.getElem?_eq_some_iff.1 hvalue
    by_contra hlt
    exact hbefore j (Nat.lt_of_not_le hlt) hother
  · rintro ⟨⟨value, hvalue, hproperty⟩, hleast⟩
    obtain ⟨hi, rfl⟩ := List.getElem?_eq_some_iff.1 hvalue
    refine ⟨hi, hproperty, fun j hj hother => ?_⟩
    have hle := hleast ⟨_, List.getElem?_eq_getElem (Nat.lt_trans hj hi), hother⟩
    omega

/-- The values with a property are the one at a position and those apart from it. -/
theorem countP_eq_countP_eraseIdx_add_one {property : α → Bool} {values : List α} {i : Nat}
    {value : α} (hvalue : values[i]? = some value) (hproperty : property value) :
    values.countP property = (values.eraseIdx i).countP property + 1 := by
  obtain ⟨hi, rfl⟩ := List.getElem?_eq_some_iff.1 hvalue
  have hperm := List.getElem_cons_eraseIdx_perm hi
  rw [← hperm.countP_eq property, List.countP_cons_of_pos hproperty]

/-- At least two values have a property exactly if two positions have it. -/
theorem two_le_countP_iff {property : α → Bool} {values : List α} :
    2 ≤ values.countP property ↔
      ∃ i ∈ positionsWhere property values, ∃ j ∈ positionsWhere property values, j ≠ i := by
  constructor
  · intro hcount
    obtain ⟨value, hmem, hproperty⟩ := List.countP_pos_iff.1 (Nat.lt_of_lt_of_le Nat.two_pos hcount)
    obtain ⟨i, hvalue⟩ := List.mem_iff_getElem?.1 hmem
    -- the second value is found where the first is taken out
    rw [countP_eq_countP_eraseIdx_add_one hvalue hproperty] at hcount
    obtain ⟨other, hother, hproperty'⟩ := List.countP_pos_iff.1 (Nat.le_of_succ_le_succ hcount)
    obtain ⟨j, hne, hother⟩ := List.mem_eraseIdx_iff_getElem?.1 hother
    exact ⟨i, ⟨value, hvalue, hproperty⟩, j, ⟨other, hother, hproperty'⟩, hne⟩
  · rintro ⟨i, ⟨value, hvalue, hproperty⟩, j, ⟨other, hother, hproperty'⟩, hne⟩
    have hmem : other ∈ values.eraseIdx i := List.mem_eraseIdx_iff_getElem?.2 ⟨j, hne, hother⟩
    have hpositive := List.countP_pos_iff.2 ⟨other, hmem, hproperty'⟩
    rw [countP_eq_countP_eraseIdx_add_one hvalue hproperty]
    omega

/-! ## What a list answers -/

namespace KeyedList

/-- A list has anonymous values exactly if it has fewer keys than entries. -/
theorem hasAnonymous_iff (list : KeyedList κ α) :
    list.hasAnonymous ↔ list.keys.length < list.length := by
  rw [keys, length, List.length_filterMap_lt_length_iff_exists, hasAnonymous, List.any_eq_true]
  simp

variable [BEq κ]

/-- What a list answers that holds the values under the given keys. -/
structure Indexes (list : KeyedList κ α) (values : List α) (key : α → Option κ) : Prop where
  entries_eq : list.entries = values.map fun value => (key value, value)
  position?_eq_some_iff : ∀ k i, list.position? k = some i ↔
    IsLeast (positionsWhere (key · == some k) values) i
  position?_eq_none_iff : ∀ k, list.position? k = none ↔
    ∀ value ∈ values, (key value == some k) = false
  find?_eq_some : ∀ k i, list.position? k = some i →
    ∃ value, values[i]? = some value ∧ list.at? i = some value ∧ list.find? k = some value
  find?_eq_none_iff : ∀ k, list.find? k = none ↔ list.position? k = none
  isAmbiguous_iff : ∀ k, list.isAmbiguous k ↔
    ∃ i ∈ positionsWhere (key · == some k) values,
      ∃ j ∈ positionsWhere (key · == some k) values, j ≠ i
  ambiguous_distinct : list.ambiguous.Pairwise fun k other => (k == other) = false
  keys_eq : list.keys = values.filterMap key
  hasAnonymous_iff : list.hasAnonymous ↔ list.keys.length < list.length

/-- The element at a position is the value there. -/
theorem at?_ofList (values : List α) (key : α → Option κ) (i : Nat) :
    (ofList values key).at? i = values[i]? := by
  simp [at?, ofList, Function.comp_def]

variable [EquivBEq κ]

/-- The index of a list records the keys of its entries. -/
theorem records_ofList (values : List α) (key : α → Option κ) :
    (ofList values key).index.Records ((ofList values key).entries.map Prod.fst) := by
  have hkeys : (ofList values key).entries.map Prod.fst = values.map key := by
    simp [ofList, Function.comp_def]
  rw [hkeys]
  exact KeyIndex.Records.nil.enterAll (values.map key)

/-- A list made of values under keys leads from the keys to the values. -/
theorem indexes_ofList (values : List α) (key : α → Option κ) :
    (ofList values key).Indexes values key := by
  have hposition (k : κ) :
      (ofList values key).position? k = values.findIdx? (key · == some k) := by
    rw [position?_ofList, List.findIdx?_map]
    rfl
  have hfind (k : κ) (i : Nat) (hi : (ofList values key).position? k = some i) :
      ∃ value, values[i]? = some value ∧ (ofList values key).at? i = some value ∧
        (ofList values key).find? k = some value := by
    rw [hposition] at hi
    obtain ⟨⟨value, hvalue, -⟩, -⟩ := findIdx?_eq_some_iff_isLeast.1 hi
    have hat := (at?_ofList values key i).trans hvalue
    refine ⟨value, hvalue, hat, ?_⟩
    rw [find?, hposition, hi, Option.bind_some, hat]
  refine ⟨rfl, fun k i => ?_, fun k => ?_, hfind, fun k => ?_, fun k => ?_,
    (records_ofList values key).distinct, ?_, hasAnonymous_iff _⟩
  · rw [hposition, findIdx?_eq_some_iff_isLeast]
  · rw [hposition, List.findIdx?_eq_none_iff]
  · cases hi : (ofList values key).position? k with
    | none => simp [find?, hi]
    | some i =>
      obtain ⟨value, -, -, hvalue⟩ := hfind k i hi
      simp [hvalue]
  · rw [isAmbiguous_ofList, List.count_eq_countP, List.countP_map, two_le_countP_iff]
    rfl
  · simp [keys, ofList, List.filterMap_map]

end KeyedList

/-! ## Equal lists -/

/-- Lists are equal if their values are, position by position. -/
theorem beq_iff_forall₂ [BEq α] {values others : List α} :
    values == others ↔ List.Forall₂ (fun value other => value == other) values others := by
  induction values generalizing others with
  | nil => cases others <;> simp
  | cons value values ih =>
    cases others with
    | nil => simp
    | cons other others => simp [ih]

/-- Equal lists have equal values at each position, or none. -/
theorem getElem?_beq [BEq α] {values others : List α} (h : values == others) (i : Nat) :
    values[i]? == others[i]? := by
  have h := beq_iff_forall₂.1 h
  induction h generalizing i with
  | nil => rfl
  | cons hhead htail ih =>
    cases i with
    | zero => exact hhead
    | succ i => exact ih (beq_iff_forall₂.2 htail) i

variable [BEq κ]

/-- Indexes lead a key to the same position, and find it repeated alike, if it is equal to the same
ones of the keys that they record. -/
theorem KeyIndex.Records.congr {index index' : KeyIndex κ} {keys keys' : List (Option κ)}
    (h : index.Records keys) (h' : index'.Records keys') {key : κ}
    (hsame : keys.map (· == some key) = keys'.map (· == some key)) :
    index.first.lookup key = index'.first.lookup key ∧
      index.repeated.contains key = index'.repeated.contains key := by
  have hfind (keys : List (Option κ)) :
      keys.findIdx? (· == some key) = (keys.map (· == some key)).findIdx? id := by
    rw [List.findIdx?_map]
    rfl
  have hcount (keys : List (Option κ)) :
      keys.count (some key) = (keys.map (· == some key)).countP id := by
    rw [List.countP_map]
    rfl
  constructor
  · rw [h.first, h'.first, hfind, hfind, hsame]
  · rw [Bool.eq_iff_iff, h.repeated, h'.repeated, hcount, hcount, hsame]

namespace KeyedList

variable [BEq α]

/-- The lists give equal answers to every question. -/
structure AnswersAlike (list other : KeyedList κ α) : Prop where
  length : list.length = other.length
  at? : ∀ i, list.at? i == other.at? i
  find? : ∀ k, list.find? k == other.find? k
  position? : ∀ k, list.position? k = other.position? k
  isAmbiguous : ∀ k, list.isAmbiguous k = other.isAmbiguous k
  keys : list.keys == other.keys
  keyAt? : ∀ i, list.keyAt? i == other.keyAt? i
  entries : list.entries == other.entries

/-- Equal entries have equal keys, or none. -/
theorem rel_fst_of_beq {entry entry' : Option κ × α} (h : entry == entry') :
    Option.Rel (fun key key' : κ => key == key') entry.1 entry'.1 := by
  have hkey : entry.1 == entry'.1 := (Bool.and_eq_true_iff.1 h).1
  cases hleft : entry.1 <;> cases hright : entry'.1 <;> rw [hleft, hright] at hkey
  · exact .none
  · cases hkey
  · cases hkey
  · exact .some hkey

/-- Entries that are equal, or missing alike, have equal values. -/
theorem map_snd_beq {entry entry' : Option (Option κ × α)} (h : entry == entry') :
    entry.map Prod.snd == entry'.map Prod.snd := by
  cases entry <;> cases entry'
  · rfl
  · cases h
  · cases h
  · exact (Bool.and_eq_true_iff.1 h).2

/-- Entries that are equal, or missing alike, have equal keys. -/
theorem bind_fst_beq {entry entry' : Option (Option κ × α)} (h : entry == entry') :
    entry.bind Prod.fst == entry'.bind Prod.fst := by
  cases entry <;> cases entry'
  · rfl
  · cases h
  · cases h
  · exact (Bool.and_eq_true_iff.1 h).1

variable [EquivBEq κ]

/-- Equal lists whose indexes record their keys give equal answers. -/
theorem answersAlike_of_beq {list other : KeyedList κ α}
    (hlist : list.index.Records (list.entries.map Prod.fst))
    (hother : other.index.Records (other.entries.map Prod.fst)) (h : list == other) :
    list.AnswersAlike other := by
  have hentries := beq_iff_forall₂.1 h
  have hsame (k : κ) : (list.entries.map Prod.fst).map (· == some k) =
      (other.entries.map Prod.fst).map (· == some k) := by
    rw [List.map_map, List.map_map, ← List.forall₂_eq_eq_eq]
    exact List.rel_map (fun _ _ h => BEq.congr_left (Bool.and_eq_true_iff.1 h).1) hentries
  have hrecords (k : κ) := hlist.congr hother (hsame k)
  have hposition (k : κ) : list.position? k = other.position? k := (hrecords k).1
  have hat (i : Nat) : list.at? i == other.at? i := map_snd_beq (getElem?_beq h i)
  have hfind (k : κ) : list.find? k == other.find? k := by
    rw [find?, find?, hposition]
    cases other.position? k with
    | none => rfl
    | some i => exact hat i
  have hkeys : list.keys == other.keys :=
    beq_iff_forall₂.2 (List.rel_filterMap (fun _ _ => rel_fst_of_beq) hentries)
  exact ⟨hentries.length_eq, hat, hfind, hposition, fun k => (hrecords k).2, hkeys,
    fun i => bind_fst_beq (getElem?_beq h i), h⟩

/-- A list of values under keys is indexed by the keys, and the empty list is that of no values. Two
such lists give equal answers if they are equal. -/
theorem answers_of_entries :
    (∀ (values : List α) (key : α → Option κ), (ofList values key).Indexes values key) ∧
      (∀ key : α → Option κ, ({} : KeyedList κ α) = ofList [] key) ∧
      ∀ (values others : List α) (key otherKey : α → Option κ),
        ofList values key == ofList others otherKey →
          (ofList values key).AnswersAlike (ofList others otherKey) :=
  ⟨indexes_ofList, fun _ => rfl, fun values others key otherKey =>
    answersAlike_of_beq (records_ofList values key) (records_ofList others otherKey)⟩

end KeyedList

namespace Sample

/-- Types some of which could not be inferred, for the given reasons. -/
def inferred (reason other : String) : List DataType :=
  [.integer, .error reason, .null, .error other, .integer]

/-- Every type is its own key, but the type of `NULL` has none. -/
def typeKey (type : DataType) : Option DataType :=
  if type.isNull then none else some type

end Sample

/-- The types above are equal whatever the reasons, which are no part of a key either. -/
theorem KeyedList.answers_of_entries_inferred :
    IsLeast (positionsWhere (Sample.typeKey · == some (.error "c")) (Sample.inferred "a" "b")) 1 ∧
      (ofList (Sample.inferred "a" "b") Sample.typeKey).position? (.error "c") = some 1 ∧
      (ofList (Sample.inferred "a" "b") Sample.typeKey).isAmbiguous (.error "c") ∧
      ofList (Sample.inferred "a" "b") Sample.typeKey ==
        ofList (Sample.inferred "c" "d") Sample.typeKey ∧
      (ofList (Sample.inferred "a" "b") Sample.typeKey).AnswersAlike
        (ofList (Sample.inferred "c" "d") Sample.typeKey) := by
  obtain ⟨hindexes, -, halike⟩ := @answers_of_entries DataType DataType _ _ _
  have hposition : (ofList (Sample.inferred "a" "b") Sample.typeKey).position? (.error "c") =
      some 1 := by decide
  have hequal : ofList (Sample.inferred "a" "b") Sample.typeKey ==
      ofList (Sample.inferred "c" "d") Sample.typeKey := by decide
  exact ⟨((hindexes _ _).position?_eq_some_iff _ _).1 hposition, hposition, by decide, hequal,
    halike _ _ _ _ hequal⟩

end QueryAlgebra

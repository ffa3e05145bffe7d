import QueryAlgebra.KeyedList

/-!
# The index of a keyed list

The index is filled in one pass. After each key it leads to the first position of every key entered
so far, and it remembers as repeated, each once, exactly the keys that were entered at least twice.

Keys are compared by an equivalence. It may be coarser than identity.
-/

namespace QueryAlgebra

variable {κ α : Type} [BEq κ]

/-- What is looked up is an entry under its key. -/
theorem mem_of_lookup [LawfulBEq κ] {entries : List (κ × α)} {key : κ} {value : α}
    (h : entries.lookup key = some value) : (key, value) ∈ entries := by
  obtain ⟨before, behind, rfl, -⟩ := List.lookup_eq_some_iff.1 h
  exact List.mem_append_right _ List.mem_cons_self

/-- Optional keys are compared as the keys are. -/
instance equivBEq_option [EquivBEq κ] : EquivBEq (Option κ) where
  symm {key other} h := by
    cases key <;> cases other <;> simp_all [BEq.comm]
  trans {key other third} h h' := by
    cases key <;> cases other <;> cases third <;> simp_all
    exact BEq.trans h h'
  rfl {key} := by cases key <;> simp

/-- What the index says of the keys entered so far, which stand in the order of their positions. -/
structure KeyIndex.Records (index : KeyIndex κ) (keys : List (Option κ)) : Prop where
  first : ∀ key, index.first.lookup key = keys.findIdx? (· == some key)
  repeated : ∀ key, index.repeated.contains key ↔ 2 ≤ keys.count (some key)
  distinct : index.repeated.Pairwise fun key other => (key == other) = false

namespace KeyIndex.Records

variable {index : KeyIndex κ} {keys : List (Option κ)}

/-- The empty index records no keys. -/
theorem nil : ({} : KeyIndex κ).Records [] where
  first key := rfl
  repeated key := by simp
  distinct := .nil

/-- A key has no position exactly as long as it was not entered. -/
theorem isNone_lookup (h : index.Records keys) (key : κ) :
    (index.first.lookup key).isNone ↔ ∀ entered ∈ keys, (entered == some key) = false := by
  rw [h.first, Option.isNone_iff_eq_none, List.findIdx?_eq_none_iff]

variable [EquivBEq κ]

/-- A key that was not entered before has its first position now. -/
theorem enter_new (h : index.Records keys) {key : κ}
    (hnew : ∀ entered ∈ keys, (entered == some key) = false) :
    KeyIndex.Records { index with first := index.first ++ [(key, keys.length)] }
      (keys ++ [some key]) where
  first other := by
    rw [List.lookup_append, h.first, List.findIdx?_append, List.lookup_cons, BEq.comm]
    cases hother : key == other <;> simp [hother]
  repeated other := by
    rw [h.repeated, List.count_append, List.count_singleton]
    split
    · next hother =>
      have hcount : keys.count (some other) = 0 := by
        refine List.countP_eq_zero.2 fun entered hentered hsame => ?_
        have hkey : (entered == some key) = true := BEq.trans hsame (BEq.symm hother)
        rw [hnew entered hentered] at hkey
        cases hkey
      omega
    · omega
  distinct := h.distinct

/-- A key that was entered was entered under every key that is equal to it. -/
theorem exists_entered_of_beq {key other : κ}
    (hold : ∃ entered ∈ keys, (entered == some key) = true) (hsame : key == other) :
    ∃ entered ∈ keys, (entered == some other) = true := by
  obtain ⟨entered, hentered, hkey⟩ := hold
  exact ⟨entered, hentered, BEq.trans hkey (by simpa using hsame)⟩

/-- A key that was entered before keeps its first position and is repeated now. -/
theorem enter_old (h : index.Records keys) {key : κ}
    (hold : ∃ entered ∈ keys, (entered == some key) = true) {repeated : List κ}
    (hrepeated : ∀ other, repeated.contains other ↔ index.repeated.contains other ∨ key == other)
    (hdistinct : repeated.Pairwise fun key other => (key == other) = false) :
    KeyIndex.Records { index with repeated } (keys ++ [some key]) where
  first other := by
    rw [h.first, List.findIdx?_append]
    cases hother : key == other with
    | false => simp [hother]
    | true =>
      have hfound : (keys.findIdx? (· == some other)).isSome := by
        rw [List.findIdx?_isSome, List.any_eq_true]
        exact exists_entered_of_beq hold hother
      rw [Option.or_of_isSome hfound]
  repeated other := by
    rw [hrepeated, h.repeated, List.count_append, List.count_singleton]
    cases hother : key == other with
    | false => simp [hother]
    | true =>
      have hcount : 0 < keys.count (some other) :=
        List.countP_pos_iff.2 (exists_entered_of_beq hold hother)
      simp only [Option.some_beq_some, hother, or_true, true_iff, if_true]
      omega
  distinct := hdistinct

/-- Entering the next key, or none, records it behind the others. -/
theorem enter (h : index.Records keys) (key : Option κ) :
    (index.enter keys.length key).Records (keys ++ [key]) := by
  cases key with
  | none =>
    refine ⟨fun key => ?_, fun key => ?_, h.distinct⟩
    · simp [KeyIndex.enter, h.first, List.findIdx?_append]
    · simp [KeyIndex.enter, h.repeated, List.count_singleton]
  | some key =>
    rw [KeyIndex.enter]
    split
    · next hnew => exact h.enter_new ((h.isNone_lookup key).1 hnew)
    · next hold =>
      have hold : ∃ entered ∈ keys, (entered == some key) = true := by
        simpa [h.isNone_lookup] using hold
      split
      · next hcontains =>
        refine h.enter_old hold (fun other => ⟨.inl, ?_⟩) h.distinct
        rintro (hother | hsame)
        · exact hother
        · rwa [← List.contains_congr hsame]
      · next hcontains =>
        refine h.enter_old hold (fun other => by simp [BEq.comm]) ?_
        refine List.pairwise_append.2 ⟨h.distinct, List.pairwise_singleton _ _, ?_⟩
        intro other hother last hlast
        obtain rfl := List.mem_singleton.1 hlast
        refine Bool.eq_false_iff.2 fun hsame => hcontains ?_
        exact List.contains_iff_exists_mem_beq.2 ⟨other, hother, BEq.symm hsame⟩

/-- Entering several keys records them behind the others. -/
theorem enterAll (h : index.Records keys) (later : List (Option κ)) :
    (index.enterAll keys.length later).Records (keys ++ later) := by
  induction later generalizing index keys with
  | nil => simpa [KeyIndex.enterAll] using h
  | cons key rest ih => simpa [KeyIndex.enterAll] using ih (h.enter key)

end KeyIndex.Records

/-- The index leads to the first position at which the key is carried. -/
theorem KeyedList.position?_ofList [EquivBEq κ] (values : List α) (key : α → Option κ) (k : κ) :
    (ofList values key).position? k = (values.map key).findIdx? (· == some k) :=
  (KeyIndex.Records.nil.enterAll (values.map key)).first k

/-- The element that the index leads to is the first one that carries the key. -/
theorem KeyedList.find?_ofList [EquivBEq κ] (values : List α) (key : α → Option κ) (k : κ) :
    (ofList values key).find? k = values.find? (key · == some k) := by
  have hat : (ofList values key).at? = (values[·]?) := by
    funext position
    simp [at?, ofList, Function.comp_def]
  rw [KeyedList.find?, position?_ofList, List.findIdx?_map, hat,
    List.find?_eq_bind_findIdx?_getElem?]
  rfl

/-- A key is ambiguous exactly when at least two elements carry it. -/
theorem KeyedList.isAmbiguous_ofList [EquivBEq κ] (values : List α) (key : α → Option κ) (k : κ) :
    (ofList values key).isAmbiguous k ↔ 2 ≤ (values.map key).count (some k) := by
  exact (KeyIndex.Records.nil.enterAll (values.map key)).repeated k

end QueryAlgebra

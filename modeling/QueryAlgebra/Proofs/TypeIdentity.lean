import Mathlib.Data.Finset.Card
import QueryAlgebra.DataType

/-!
# The identity of types

Types are equal when dialect, name and being an error agree. The user tells them apart by the
qualified name, in which a dot joins dialect and name. Nothing marks this dot off against the dots
within the two, so a qualified name that has more than one dot is that of more than one type.
-/

namespace QueryAlgebra.DataType

variable {left right type : DataType}

/-- What equality of types compares. -/
def parts (type : DataType) : String × String × Bool :=
  (type.dialect, type.name, type.isError)

/-- What types are told apart by. -/
def identity (type : DataType) : String × Bool :=
  (type.qualifiedName, type.isError)

/-- Whether the types are told apart by nothing, although their qualified names are joined at
different dots. -/
def Clash (left right : DataType) : Prop :=
  left.identity = right.identity ∧ left.dialect.length ≠ right.dialect.length

instance (left right : DataType) : Decidable (Clash left right) :=
  inferInstanceAs (Decidable (_ ∧ _))

/-! ## Pairs of types -/

/-- Equal types have equal parts. -/
theorem beq_iff_parts : left == right ↔ left.parts = right.parts := by
  simp only [beq_iff, parts, Prod.mk.injEq]

/-- A dot joins dialect and name. -/
theorem toList_qualifiedName (type : DataType) :
    type.qualifiedName.toList = type.dialect.toList ++ '.' :: type.name.toList := by
  rw [qualifiedName, String.toList_append, String.toList_append, List.append_assoc]
  rfl

/-- The same text that is joined at the same dot has the same parts. -/
theorem parts_eq_iff :
    left.parts = right.parts ↔
      left.identity = right.identity ∧ left.dialect.length = right.dialect.length := by
  simp only [parts, identity, Prod.mk.injEq]
  constructor
  · intro h
    rw [qualifiedName, qualifiedName, h.1, h.2.1]
    exact ⟨⟨rfl, h.2.2⟩, rfl⟩
  · intro h
    have hchars := congrArg String.toList h.1.1
    rw [toList_qualifiedName, toList_qualifiedName] at hchars
    have hsplit := List.append_inj hchars h.2
    exact ⟨String.toList_inj.1 hsplit.1, String.toList_inj.1 (List.cons.inj hsplit.2).2, h.1.2⟩

/-- Types that do not clash are equal if nothing tells them apart. -/
theorem beq_iff_identity_iff :
    ((left == right) = true ↔
      left.qualifiedName = right.qualifiedName ∧ left.isError = right.isError) ↔
      ¬ Clash left right := by
  have hidentity : left.identity = right.identity ↔
      left.qualifiedName = right.qualifiedName ∧ left.isError = right.isError := Prod.mk_inj
  rw [beq_iff_parts, parts_eq_iff, ← hidentity, Clash]
  tauto

/-! ## Dots -/

/-- A text that is split at two different separators has one within the parts. -/
theorem mem_of_split_twice {α : Type} {sep : α} {first second first' second' : List α}
    (h : first ++ sep :: second = first' ++ sep :: second') (hne : first.length ≠ first'.length) :
    sep ∈ first ∨ sep ∈ second := by
  rcases List.append_eq_append_iff.1 h with ⟨between, hlonger, hrest⟩ | ⟨between, hshorter, hrest⟩
  · cases between with
    | nil => exact absurd (by rw [hlonger, List.append_nil]) hne
    | cons c between =>
      rw [(List.cons.inj hrest).2]
      exact .inr (List.mem_append_right _ List.mem_cons_self)
  · cases between with
    | nil => exact absurd (by rw [hshorter, List.append_nil]) hne
    | cons c between =>
      rw [hshorter, (List.cons.inj hrest).1]
      exact .inl (List.mem_append_right _ List.mem_cons_self)

/-- A type clashes with none unless it has a dot in its dialect or in its name. -/
theorem Clash.dotted (h : Clash left right) :
    left.isError = false ∧ ('.' ∈ left.dialect.toList ∨ '.' ∈ left.name.toList) := by
  obtain ⟨hidentity, hlength⟩ := h
  obtain ⟨hname, herror⟩ := Prod.mk.inj hidentity
  constructor
  · cases left with
    | named dialect name => rfl
    | error reason =>
      cases right with
      | named dialect name => cases herror
      | error reason => exact absurd rfl hlength
  · have hchars := congrArg String.toList hname
    rw [toList_qualifiedName, toList_qualifiedName] at hchars
    exact mem_of_split_twice hchars hlength

/-- What a dot stands in is split in two by it. -/
theorem exists_split_at_dot {text : String} (h : '.' ∈ text.toList) :
    ∃ before after, text = before ++ "." ++ after := by
  obtain ⟨before, after, hsplit⟩ := List.append_of_mem h
  refine ⟨.ofList before, .ofList after, ?_⟩
  rw [← String.toList_inj, hsplit]
  simp

/-- A text is longer than what precedes a dot in it. -/
theorem length_lt_of_dot (before after : String) :
    before.length < (before ++ "." ++ after).length := by
  have hdot : ".".length = 1 := rfl
  rw [String.length_append, String.length_append]
  omega

/-- A dot may as well be the one that dialect and name are joined at. -/
theorem exists_clash_of_dot {dialect name : String}
    (h : '.' ∈ dialect.toList ∨ '.' ∈ name.toList) : ∃ other, Clash (named dialect name) other := by
  rcases h with hdialect | hname
  · obtain ⟨before, after, rfl⟩ := exists_split_at_dot hdialect
    refine ⟨named before (after ++ "." ++ name), Prod.ext ?_ rfl, ?_⟩
    · simp only [identity, qualifiedName, DataType.dialect, DataType.name, String.append_assoc]
    · exact (length_lt_of_dot before after).ne'
  · obtain ⟨before, after, rfl⟩ := exists_split_at_dot hname
    refine ⟨named (dialect ++ "." ++ before) after, Prod.ext ?_ rfl, ?_⟩
    · simp only [identity, qualifiedName, DataType.dialect, DataType.name, String.append_assoc]
    · exact (length_lt_of_dot dialect before).ne

/-- The types that have a clash are the named types with another dot in the qualified name. -/
theorem exists_clash_iff (type : DataType) :
    (∃ other, Clash type other) ↔
      type.isError = false ∧ ('.' ∈ type.dialect.toList ∨ '.' ∈ type.name.toList) := by
  constructor
  · rintro ⟨other, hclash⟩
    exact hclash.dotted
  · rintro ⟨hnamed, hdot⟩
    cases type with
    | named dialect name => exact exists_clash_of_dot hdot
    | error reason => cases hnamed

/-! ## Sets of types -/

/-- A type is among others if its parts are among theirs. -/
theorem contains_iff_parts (types : List DataType) :
    types.contains type ↔ type.parts ∈ types.map parts := by
  rw [List.contains_eq_any_beq, List.any_eq_true, List.mem_map]
  refine exists_congr fun other => and_congr_right fun _ => ?_
  rw [beq_iff_parts, eq_comm]

/-- Types among which the same types are have the same parts. -/
theorem parts_subset {types others : List DataType}
    (h : ∀ type, types.contains type = others.contains type) :
    types.map parts ⊆ others.map parts := by
  intro parts hparts
  obtain ⟨type, htype, rfl⟩ := List.mem_map.1 hparts
  rw [← contains_iff_parts, ← h, contains_iff_parts]
  exact List.mem_map_of_mem htype

/-- A set has as many members as there are parts of its types. -/
theorem size_toSet (types : List DataType) :
    (toSet types).size = (types.map parts).toFinset.card := by
  have hcontains : ∀ type, (toSet types).toList.contains type = types.contains type := by
    intro type
    rw [Std.HashSet.contains_toList, toSet, Std.HashSet.contains_ofList]
  have hsame : ((toSet types).toList.map parts).toFinset = (types.map parts).toFinset := by
    ext parts
    rw [List.mem_toFinset, List.mem_toFinset]
    exact ⟨@parts_subset _ _ hcontains parts,
      @parts_subset _ _ (fun type => (hcontains type).symm) parts⟩
  have hdistinct : ((toSet types).toList.map parts).Nodup := by
    rw [List.Nodup, List.pairwise_map]
    refine Std.HashSet.distinct_toList.imp fun hne hparts => ?_
    rw [beq_iff_parts.2 hparts] at hne
    cases hne
  calc (toSet types).size
      = ((toSet types).toList.map parts).length := by
        rw [List.length_map, Std.HashSet.length_toList]
    _ = ((toSet types).toList.map parts).toFinset.card :=
        (List.toFinset_card_of_nodup hdistinct).symm
    _ = (types.map parts).toFinset.card := congrArg Finset.card hsame

/-- The identity that the parts make. -/
def joined (parts : String × String × Bool) : String × Bool :=
  (parts.1 ++ "." ++ parts.2.1, parts.2.2)

/-- A set has as many members as its types have identities exactly if no two of them clash. -/
theorem size_toSet_eq_iff (types : List DataType) :
    (toSet types).size = (types.map identity).toFinset.card ↔
      ∀ left ∈ types, ∀ right ∈ types, ¬ Clash left right := by
  have himage : (types.map identity).toFinset = (types.map parts).toFinset.image joined := by
    ext pair
    simp [identity, parts, joined, qualifiedName]
  rw [size_toSet, himage, eq_comm, Finset.card_image_iff]
  constructor
  · intro hinjective left hleft right hright hclash
    have hmem : ∀ type ∈ types, type.parts ∈ (types.map parts).toFinset :=
      fun type htype => List.mem_toFinset.2 (List.mem_map_of_mem htype)
    have hparts : left.parts = right.parts :=
      hinjective (hmem left hleft) (hmem right hright) hclash.1
    exact hclash.2 (parts_eq_iff.1 hparts).2
  · intro hclear leftParts hleftParts rightParts hrightParts hjoined
    obtain ⟨left, hleft, rfl⟩ := List.mem_map.1 (List.mem_toFinset.1 hleftParts)
    obtain ⟨right, hright, rfl⟩ := List.mem_map.1 (List.mem_toFinset.1 hrightParts)
    apply parts_eq_iff.2
    refine ⟨hjoined, ?_⟩
    by_contra hlength
    exact hclear left hleft right hright ⟨hjoined, hlength⟩

/-! ## Identification -/

/-- Equality of types is an equivalence, and what is equal has one hash. Nothing but clashes, which
are due to dots within dialects or names, keeps it apart from equality of the identities, between
two types and for the size of a set. -/
theorem identified_unless_clash (left right : DataType) (types : List DataType) :
    (((left == right) = true ↔
      left.qualifiedName = right.qualifiedName ∧ left.isError = right.isError) ↔
      ¬ Clash left right) ∧
    ((∃ other, Clash left other) ↔
      left.isError = false ∧ ('.' ∈ left.dialect.toList ∨ '.' ∈ left.name.toList)) ∧
    Equivalence (fun left right : DataType => (left == right) = true) ∧
    ((left == right) = true → hash left = hash right) ∧
    ((toSet types).size = (types.map identity).toFinset.card ↔
      ∀ left ∈ types, ∀ right ∈ types, ¬ Clash left right) := by
  refine ⟨beq_iff_identity_iff, exists_clash_iff left, ?_, ?_, size_toSet_eq_iff types⟩
  · exact ⟨fun _ => BEq.rfl, BEq.symm, BEq.trans⟩
  · intro hequal
    exact LawfulHashable.hash_eq left right hequal

/-- Errors are of one type whatever their reasons, and not of the type that is named so. -/
theorem identified_unless_clash_errors :
    (error "no operator" == error "no column") = true ∧
    hash (error "no operator") = hash (error "no column") ∧
    (toSet [error "no operator", named "default" "ERROR", error "no column"]).size =
      ([error "no operator", named "default" "ERROR", error "no column"].map
        identity).toFinset.card := by
  have hequal : (error "no operator" == error "no column") = true := by decide
  obtain ⟨-, -, -, hhash, hsize⟩ := identified_unless_clash (error "no operator")
    (error "no column") [error "no operator", named "default" "ERROR", error "no column"]
  exact ⟨hequal, hhash hequal, hsize.2 (by decide)⟩

/-- Two types with one qualified name that are not equal, so that there are two in a set. -/
theorem clash_of_dotted_dialect :
    (named "a" "b.c").qualifiedName = (named "a.b" "c").qualifiedName ∧
    (named "a" "b.c").isError = (named "a.b" "c").isError ∧
    (named "a" "b.c" == named "a.b" "c") = false ∧
    (toSet [named "a" "b.c", named "a.b" "c"]).size = 2 ∧
    ([named "a" "b.c", named "a.b" "c"].map identity).toFinset.card = 1 := by
  have hsize : ([named "a" "b.c", named "a.b" "c"].map parts).toFinset.card = 2 := by decide
  exact ⟨by decide, rfl, by decide, (size_toSet _).trans hsize, by decide⟩

end QueryAlgebra.DataType

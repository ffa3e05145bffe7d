import Mathlib.Data.List.Basic
import QueryAlgebra.Proofs.KeyIndexing
import QueryAlgebra.Text.Unicode

/-!
# Upper-case forms

What upper case makes of a character is final: none of the characters that stand in an upper-case
form has another form. White space and the two parentheses have no forms and stand in none, and no
form is empty.

These are facts about the tables of forms. They say of sets of code points that they have nothing in
common, and sets of code points are compared as numbers, whose bits are their members.
-/

namespace QueryAlgebra.Text

/-! ## Sets of code points -/

/-- The number whose bit is set at each of the code points. -/
def bits (codes : List Nat) : Nat :=
  codes.foldr (fun code set => set ||| 1 <<< code) 0

/-- The bits that are set are those of the members. -/
theorem testBit_bits (codes : List Nat) (code : Nat) :
    (bits codes).testBit code = decide (code ∈ codes) := by
  induction codes with
  | nil => simp [bits]
  | cons first rest ih =>
    change (bits rest ||| 1 <<< first).testBit code = _
    rw [Nat.testBit_or, ih, Nat.one_shiftLeft, Nat.testBit_two_pow]
    simp only [List.mem_cons, Bool.decide_or, Bool.or_comm, eq_comm]

/-- Sets whose numbers share no bit share no member. -/
theorem notMem_of_bits_and {codes others : List Nat} (h : bits codes &&& bits others = 0)
    {code : Nat} (hmem : code ∈ codes) : code ∉ others := by
  intro hother
  have hbit := congrArg (Nat.testBit · code) h
  simp only [Nat.testBit_and, testBit_bits, hmem, hother, Nat.zero_testBit] at hbit
  cases hbit

/-! ## The tables -/

namespace CaseRun

variable {run : CaseRun} {code form : Nat}

/-- The code points of the run. -/
def codes (run : CaseRun) : List Nat :=
  List.range' run.first ((run.last - run.first) / run.stride + 1) run.stride

/-- Their upper-case forms. -/
def forms (run : CaseRun) : List Nat :=
  List.range' run.image ((run.last - run.first) / run.stride + 1) run.stride

/-- A code point that has a form in the run is one of the run, and the form is one of its forms. -/
theorem mem_codes_and_forms (h : run.upper? code = some form) :
    code ∈ run.codes ∧ form ∈ run.forms := by
  rw [upper?] at h
  split at h
  · next hcode =>
    obtain ⟨hfirst, hlast, hstride⟩ := hcode
    obtain rfl : run.image + (code - run.first) = form := Option.some.inj h
    have hdistance : run.stride * ((code - run.first) / run.stride) = code - run.first := by
      have := Nat.div_add_mod (code - run.first) run.stride
      omega
    have hsteps : (code - run.first) / run.stride ≤ (run.last - run.first) / run.stride :=
      Nat.div_le_div_right (by omega)
    refine ⟨List.mem_range'.2 ⟨_, Nat.lt_succ_of_le hsteps, ?_⟩,
      List.mem_range'.2 ⟨_, Nat.lt_succ_of_le hsteps, ?_⟩⟩
    · omega
    · omega
  · cases h

end CaseRun

/-- The code points that have an upper-case form. -/
def casedCodes : List Nat :=
  caseRuns.flatMap CaseRun.codes ++ caseExpansions.map Prod.fst

/-- The code points that stand in an upper-case form. -/
def formCodes : List Nat :=
  caseRuns.flatMap CaseRun.forms ++ caseExpansions.flatMap Prod.snd

/-- The code points of white space and of the two parentheses. -/
def reservedCodes : List Nat :=
  [0x28, 0x29] ++ blankRanges.flatMap fun (low, high) => List.range' low (high + 1 - low)

/-- What stands in a form has no form, white space and parentheses neither have forms nor stand in
one, all that stands in forms are characters, and no form is empty. -/
theorem tables_consistent :
    bits formCodes &&& bits casedCodes = 0 ∧
      bits reservedCodes &&& bits (casedCodes ++ formCodes) = 0 ∧
      (∀ code ∈ formCodes, code.isValidChar) ∧
      ∀ expansion ∈ caseExpansions, expansion.2 ≠ [] := by
  decide +kernel

/-- What stands in a form has no form. -/
theorem notMem_casedCodes {code : Nat} (h : code ∈ formCodes) : code ∉ casedCodes :=
  notMem_of_bits_and tables_consistent.1 h

/-- White space and parentheses neither have forms nor stand in one. -/
theorem reserved_apart {code : Nat} (h : code ∈ reservedCodes) :
    code ∉ casedCodes ∧ code ∉ formCodes := by
  have hnone := notMem_of_bits_and tables_consistent.2.1 h
  rwa [List.mem_append, not_or] at hnone

/-! ## Characters -/

variable {c d : Char}

/-- A character with a form in a run is cased, and so stands the form among the forms. -/
theorem mem_of_findSome? {code form : Nat} (h : caseRuns.findSome? (·.upper? code) = some form) :
    code ∈ casedCodes ∧ form ∈ formCodes := by
  obtain ⟨run, hrun, hform⟩ := List.exists_of_findSome?_eq_some h
  obtain ⟨hcode, hform⟩ := CaseRun.mem_codes_and_forms hform
  exact ⟨List.mem_append_left _ (List.mem_flatMap.2 ⟨run, hrun, hcode⟩),
    List.mem_append_left _ (List.mem_flatMap.2 ⟨run, hrun, hform⟩)⟩

/-- A character without a form stays as it is. -/
theorem upperChar_of_notMem (h : c.toNat ∉ casedCodes) : upperChar c = [c] := by
  rw [upperChar]
  split
  · next form hform => exact absurd (mem_of_findSome? hform).1 h
  · split
    · next form hform =>
      exact absurd (List.mem_append_right _ (List.mem_map_of_mem (mem_of_lookup hform))) h
    · rfl

/-- A form consists of the characters of its code points. -/
theorem toNat_mem_of_mem_map {form : List Nat} (hform : ∀ code ∈ form, code ∈ formCodes)
    (h : d ∈ form.map Char.ofNat) : d.toNat ∈ formCodes := by
  obtain ⟨code, hcode, rfl⟩ := List.mem_map.1 h
  rw [Char.ofNat, dif_pos (tables_consistent.2.2.1 code (hform code hcode))]
  exact hform code hcode

/-- A character stays as it is, or it has a form, which consists of characters of forms. -/
theorem upperChar_cases (c : Char) :
    upperChar c = [c] ∨ upperChar c ≠ [] ∧ ∀ d ∈ upperChar c, d.toNat ∈ formCodes := by
  rw [upperChar]
  split
  · next code hcode =>
    have hform : ∀ other ∈ [code], other ∈ formCodes :=
      List.forall_mem_singleton.2 (mem_of_findSome? hcode).2
    exact .inr ⟨List.cons_ne_nil _ _, fun d hd => toNat_mem_of_mem_map hform hd⟩
  · split
    · next form hlookup =>
      have hmem := mem_of_lookup hlookup
      refine .inr ⟨?_, fun d hd => toNat_mem_of_mem_map (fun code hcode => ?_) hd⟩
      · simpa using tables_consistent.2.2.2 _ hmem
      · exact List.mem_append_right _ (List.mem_flatMap.2 ⟨_, hmem, hcode⟩)
    · exact .inl rfl

/-- No form is empty. -/
theorem upperChar_ne_nil (c : Char) : upperChar c ≠ [] := by
  rcases upperChar_cases c with h | ⟨h, -⟩
  · rw [h]
    exact List.cons_ne_nil _ _
  · exact h

/-- What stands in the form of a character stays as it is. -/
theorem upperChar_of_mem (h : d ∈ upperChar c) : upperChar d = [d] := by
  rcases upperChar_cases c with hc | ⟨-, hforms⟩
  · rw [hc] at h
    rw [List.mem_singleton.1 h]
    exact hc
  · exact upperChar_of_notMem (notMem_casedCodes (hforms d h))

/-- What is reserved stays as it is. -/
theorem upperChar_of_reserved (h : c.toNat ∈ reservedCodes) : upperChar c = [c] :=
  upperChar_of_notMem (reserved_apart h).1

/-- What is reserved stands in no form but its own. -/
theorem eq_of_reserved_mem (h : d ∈ upperChar c) (hreserved : d.toNat ∈ reservedCodes) : d = c := by
  rcases upperChar_cases c with hc | ⟨-, hforms⟩
  · rw [hc] at h
    exact List.mem_singleton.1 h
  · exact absurd (hforms d h) (reserved_apart hreserved).2

/-- White space is reserved. -/
theorem reserved_of_isBlank (h : isBlank c) : c.toNat ∈ reservedCodes := by
  obtain ⟨range, hrange, hwithin⟩ := List.any_eq_true.1 h
  rw [Bool.and_eq_true, decide_eq_true_eq, decide_eq_true_eq] at hwithin
  refine List.mem_append_right _ (List.mem_flatMap.2 ⟨range, hrange, ?_⟩)
  rw [List.mem_range'_1]
  omega

/-- Blanks stay blank, and no other character becomes or contains one. -/
theorem isBlank_of_mem_upperChar (h : d ∈ upperChar c) : isBlank d = isBlank c := by
  cases hc : isBlank c with
  | true =>
    rw [upperChar_of_reserved (reserved_of_isBlank hc)] at h
    rw [List.mem_singleton.1 h]
    exact hc
  | false =>
    by_contra hd
    rw [Bool.not_eq_false] at hd
    rw [eq_of_reserved_mem h (reserved_of_isBlank hd), hc] at hd
    cases hd

/-! ## Texts -/

/-- The characters of the upper-case form are those of the forms of the characters. -/
theorem toList_upper (text : String) : (upper text).toList = text.toList.flatMap upperChar :=
  String.toList_ofList

/-- A text that is in upper case stays as it is. -/
theorem upper_upper (text : String) : upper (upper text) = upper text := by
  rw [← String.toList_inj, toList_upper, toList_upper, List.flatMap_assoc]
  refine List.flatMap_congr fun c _ => ?_
  rw [List.flatMap_congr fun d hd => upperChar_of_mem hd]
  exact List.flatMap_singleton' _

/-- White space and parentheses are left as they are. -/
theorem upper_eq_self {text : String} (h : ∀ c ∈ text.toList, c.toNat ∈ reservedCodes) :
    upper text = text := by
  rw [← String.toList_inj, toList_upper,
    List.flatMap_congr fun c hc => upperChar_of_reserved (h c hc)]
  exact List.flatMap_singleton' _

/-- Only the empty text has an empty upper-case form. -/
theorem upper_eq_empty_iff {text : String} : upper text = "" ↔ text = "" := by
  rw [← String.toList_eq_nil_iff, ← String.toList_eq_nil_iff, toList_upper, List.flatMap_eq_nil_iff]
  constructor
  · intro hforms
    refine List.eq_nil_iff_forall_not_mem.2 fun c hc => ?_
    exact upperChar_ne_nil c (hforms c hc)
  · intro hnil c hc
    rw [hnil] at hc
    cases hc

/-- A reserved character stands in the upper-case form exactly if it stands in the text. -/
theorem mem_upper_iff {text : String} (hreserved : d.toNat ∈ reservedCodes) :
    d ∈ (upper text).toList ↔ d ∈ text.toList := by
  rw [toList_upper, List.mem_flatMap]
  constructor
  · rintro ⟨c, hc, hd⟩
    rwa [eq_of_reserved_mem hd hreserved]
  · intro hd
    refine ⟨d, hd, ?_⟩
    rw [upperChar_of_reserved hreserved]
    exact List.mem_singleton_self d

end QueryAlgebra.Text

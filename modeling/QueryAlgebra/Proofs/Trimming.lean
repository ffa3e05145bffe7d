import Mathlib.Data.List.TakeWhile
import QueryAlgebra.Text.Unicode

/-!
# Trimming

Trimming splits a text into white space, a part that neither starts nor ends with white space, and
white space again. There is only one such part, so whatever is known to stand between white space in
this way is what trimming leaves.
-/

namespace QueryAlgebra.Text

/-- Whether the text consists of white space. -/
def Blank (text : String) : Prop :=
  ∀ c ∈ text.toList, isBlank c = true

instance (text : String) : Decidable (Blank text) :=
  List.decidableBAll _ text.toList

/-- Whether the text neither starts nor ends with white space. -/
structure Trimmed (text : String) : Prop where
  head : ∀ c ∈ text.toList.head?, isBlank c = false
  last : ∀ c ∈ text.toList.getLast?, isBlank c = false

/-- White space that is put together is white space. -/
theorem Blank.append {text other : String} (h : Blank text) (hother : Blank other) :
    Blank (text ++ other) := by
  intro c hc
  rw [String.toList_append] at hc
  exact (List.mem_append.1 hc).elim (h c) (hother c)

/-- There is nothing to drop where no white space stands in front. -/
theorem dropWhile_isBlank_eq_self {cs : List Char} (h : ∀ c ∈ cs.head?, isBlank c = false) :
    cs.dropWhile isBlank = cs := by
  cases cs with
  | nil => rfl
  | cons c cs => exact List.dropWhile_cons_of_neg (by simp [h c rfl])

/-- What is left starts with no white space. -/
theorem head?_dropWhile_isBlank (cs : List Char) :
    ∀ c ∈ (cs.dropWhile isBlank).head?, isBlank c = false := by
  intro c hc
  have hhead := List.head?_dropWhile_not isBlank cs
  rw [Option.mem_def.1 hc] at hhead
  exact hhead

/-- A text is what trimming leaves of it, between white space. -/
theorem exists_blanks_around (text : String) :
    ∃ before after, Blank before ∧ Blank after ∧ text = before ++ trim text ++ after := by
  refine ⟨.ofList (text.toList.takeWhile isBlank),
    .ofList ((text.toList.dropWhile isBlank).reverse.takeWhile isBlank).reverse,
    fun c hc => ?_, fun c hc => ?_, ?_⟩
  · rw [String.toList_ofList] at hc
    exact List.mem_takeWhile_imp hc
  · rw [String.toList_ofList, List.mem_reverse] at hc
    exact List.mem_takeWhile_imp hc
  · rw [← String.toList_inj, trim]
    simp only [String.toList_append, String.toList_ofList]
    rw [List.append_assoc, ← List.reverse_append, List.takeWhile_append_dropWhile,
      List.reverse_reverse, List.takeWhile_append_dropWhile]

/-- What trimming leaves neither starts nor ends with white space. -/
theorem trimmed_trim (text : String) : Trimmed (trim text) where
  head c hc := by
    rw [trim, String.toList_ofList] at hc
    refine head?_dropWhile_isBlank text.toList c ?_
    -- what is dropped at the end does not change the start
    have hsplit := List.takeWhile_append_dropWhile (p := isBlank)
      (l := (text.toList.dropWhile isBlank).reverse)
    rw [← List.reverse_inj, List.reverse_append, List.reverse_reverse] at hsplit
    rw [← hsplit, List.head?_append, Option.mem_def.1 hc]
    rfl
  last c hc := by
    rw [trim, String.toList_ofList, List.getLast?_reverse] at hc
    exact head?_dropWhile_isBlank _ c hc

/-- What neither starts nor ends with white space is left by trimming if it stands between white
space. -/
theorem trim_eq_of_between {before core after : String} (hbefore : Blank before)
    (hafter : Blank after) (hcore : Trimmed core) : trim (before ++ core ++ after) = core := by
  rw [← String.toList_inj, trim, String.toList_ofList, String.toList_append, String.toList_append,
    List.append_assoc, List.dropWhile_append_of_pos hbefore]
  cases hchars : core.toList with
  | nil =>
    rw [List.nil_append, List.dropWhile_eq_nil_iff.2 hafter]
    rfl
  | cons c rest =>
    have hhead : ∀ d ∈ (core.toList ++ after.toList).head?, isBlank d = false := by
      intro d hd
      rw [hchars] at hd
      exact hcore.head d (by rwa [hchars])
    have hlast : ∀ d ∈ core.toList.reverse.head?, isBlank d = false := by
      rw [List.head?_reverse]
      exact hcore.last
    rw [← hchars, dropWhile_isBlank_eq_self hhead, List.reverse_append,
      List.dropWhile_append_of_pos fun d hd => hafter d (List.mem_reverse.1 hd),
      dropWhile_isBlank_eq_self hlast, List.reverse_reverse]

/-- Trimming leaves what neither starts nor ends with white space. -/
theorem Trimmed.trim_eq {text : String} (h : Trimmed text) : trim text = text := by
  have hempty : Blank "" := by decide
  simpa using trim_eq_of_between hempty hempty h

/-- White space around a text makes no difference to trimming. -/
theorem trim_surrounded {before after : String} (hbefore : Blank before) (hafter : Blank after)
    (text : String) : trim (before ++ text ++ after) = trim text := by
  obtain ⟨inner, outer, hinner, houter, htext⟩ := exists_blanks_around text
  calc trim (before ++ text ++ after)
      = trim (before ++ (inner ++ trim text ++ outer) ++ after) :=
        congrArg (fun middle => trim (before ++ middle ++ after)) htext
    _ = trim (before ++ inner ++ trim text ++ (outer ++ after)) := by
        simp only [String.append_assoc]
    _ = trim text :=
        trim_eq_of_between (hbefore.append hinner) (houter.append hafter) (trimmed_trim text)

end QueryAlgebra.Text

import Mathlib.Data.List.TakeDrop
import QueryAlgebra.Proofs.LiteralReader

/-!
# Scanning conditions

A condition is cut into parentheses, string literals and words before its operators are looked at.
Blanks separate words and are dropped, and nothing inside a string literal is taken for anything
else. The text of a composed condition scans to the tokens of its parts in order.
-/

namespace QueryAlgebra.Reader

/-- A parenthesis, the text of a string literal, or a word. -/
inductive Token where
  | opening
  | closing
  | quoted (text : String)
  | word (text : String)
  deriving DecidableEq

/-- Whether the character belongs to a word: it is no blank, no parenthesis and no quote. -/
def isWordChar (c : Char) : Bool :=
  c != ' ' && c != '(' && c != ')' && c != '\x27'

/-- The tokens of a text, unless a string literal in it is left open. -/
def scan (chars : List Char) : Option (List Token) :=
  match chars with
  | [] => some []
  | ' ' :: rest => scan rest
  | '(' :: rest => (scan rest).map (.opening :: ·)
  | ')' :: rest => (scan rest).map (.closing :: ·)
  | '\x27' :: rest =>
    match h : Text.readQuoted? rest with
    | none => none
    | some (text, behind) =>
      have := Text.length_lt_of_readQuoted? h
      (scan behind).map (.quoted (String.ofList text) :: ·)
  | c :: rest =>
    have := (List.dropWhile_suffix isWordChar (l := rest)).length_le
    (scan (rest.dropWhile isWordChar)).map
      (.word (String.ofList (c :: rest.takeWhile isWordChar)) :: ·)
termination_by chars.length
decreasing_by all_goals (simp only [List.length_cons]; omega)

/-- Whether a word ends in front of the characters: there are none, or the first of them is a blank
or a closing parenthesis. -/
def EndsWord (rest : List Char) : Prop :=
  ∀ c ∈ rest.head?, c = ' ' ∨ c = ')'

/-- Whether the text scans to the tokens in front of everything that ends a word. -/
def Scans (text : String) (tokens : List Token) : Prop :=
  ∀ rest, EndsWord rest → scan (text.toList ++ rest) = (scan rest).map (tokens ++ ·)

variable {text left right : String} {tokens before behind : List Token}

/-- A word ends at the end of the text. -/
theorem endsWord_nil : EndsWord [] := by simp [EndsWord]

/-- A word ends at a blank. -/
theorem endsWord_blank (rest : List Char) : EndsWord (' ' :: rest) := by simp [EndsWord]

/-- A word ends at a closing parenthesis. -/
theorem endsWord_closing (rest : List Char) : EndsWord (')' :: rest) := by simp [EndsWord]

/-- A word stops where a word ends. -/
theorem EndsWord.isWordChar_head {rest : List Char} (hrest : EndsWord rest) :
    ∀ c ∈ rest.head?, isWordChar c = false := by
  intro c hc
  obtain rfl | rfl := hrest c hc
  · rfl
  · rfl

/-- A whole text is scanned to its tokens. -/
theorem Scans.scan_toList (h : Scans text tokens) : scan text.toList = some tokens := by
  have hscan := h [] endsWord_nil
  rw [List.append_nil, scan] at hscan
  rw [hscan, Option.map_some, List.append_nil]

/-- A word is scanned as itself. -/
theorem scans_word {word : String} (hword : word.toList.all isWordChar = true)
    (hne : word.toList ≠ []) : Scans word [.word word] := by
  intro rest hrest
  obtain ⟨c, chars, hchars⟩ := List.exists_cons_of_ne_nil hne
  rw [hchars, List.all_cons, Bool.and_eq_true, List.all_eq_true] at hword
  obtain ⟨hc, hall⟩ := hword
  have htake : (chars ++ rest).takeWhile isWordChar = chars := by
    rw [List.takeWhile_append_of_pos hall]
    cases rest with
    | nil => simp
    | cons d rest => simp [hrest.isWordChar_head d rfl]
  have hdrop : (chars ++ rest).dropWhile isWordChar = rest := by
    rw [List.dropWhile_append_of_pos hall]
    cases rest with
    | nil => rfl
    | cons d rest => simp [hrest.isWordChar_head d rfl]
  have hfirst : c ≠ ' ' ∧ c ≠ '(' ∧ c ≠ ')' ∧ c ≠ '\x27' := by
    simpa [isWordChar, and_assoc] using hc
  obtain ⟨hblank, hopening, hclosing, hquote⟩ := hfirst
  rw [hchars, List.cons_append, scan, htake, hdrop, ← hchars, String.ofList_toList]
  · rfl
  · exact hblank
  · exact hopening
  · exact hclosing
  · exact hquote

/-- A string literal is scanned as its text. -/
theorem scans_literal (text : String) : Scans (Text.literal text) [.quoted text] := by
  intro rest hrest
  have hquote : rest.head? ≠ some '\x27' := by
    intro hhead
    obtain h | h := hrest _ hhead
    · cases h
    · cases h
  have hread := Text.readQuoted?_doubleQuotes text.toList hquote
  rw [Text.literal, String.toList_ofList, List.cons_append, List.cons_append, List.append_assoc,
    List.singleton_append, scan]
  split
  · next hnone =>
    rw [hread] at hnone
    cases hnone
  · next hsome =>
    rw [hread] at hsome
    cases hsome
    rw [String.ofList_toList]
    rfl

/-- Texts with a blank between them scan to their tokens in order. -/
theorem Scans.spaced (hleft : Scans left before) (hright : Scans right behind) :
    Scans (left ++ " " ++ right) (before ++ behind) := by
  intro rest hrest
  have hblank : (left ++ " " ++ right).toList ++ rest =
      left.toList ++ (' ' :: (right.toList ++ rest)) := by
    simp
  rw [hblank, hleft _ (endsWord_blank _), scan, hright rest hrest, Option.map_map]
  congr 1
  funext tokens
  exact (List.append_assoc before behind tokens).symm

/-- A text in parentheses scans to its tokens between those of the parentheses. -/
theorem Scans.parenthesized (h : Scans text tokens) :
    Scans ("(" ++ text ++ ")") (.opening :: tokens ++ [.closing]) := by
  intro rest hrest
  have hparentheses : ("(" ++ text ++ ")").toList ++ rest =
      '(' :: (text.toList ++ (')' :: rest)) := by
    simp
  rw [hparentheses, scan, h _ (endsWord_closing _), scan, Option.map_map, Option.map_map]
  congr 1
  funext behind
  simp

end QueryAlgebra.Reader

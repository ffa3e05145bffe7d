import QueryAlgebra.Text.Quoted

/-!
# Reading string literals

Behind the opening quote, two quotes in a row stand for one quote of the text and a quote of its own
closes the literal. What is written as a literal is read back, whatever follows it, unless a quote
follows, and nothing else is read.
-/

namespace QueryAlgebra.Text

/-- The text up to the closing quote, and what follows the quote. -/
def readQuoted? : List Char → Option (List Char × List Char)
  | [] => none
  | '\x27' :: '\x27' :: rest => (readQuoted? rest).map fun (text, rest) => ('\x27' :: text, rest)
  | '\x27' :: rest => some ([], rest)
  | c :: rest => (readQuoted? rest).map fun (text, rest) => (c :: text, rest)

/-- Reading up to the closing quote undoes the doubling of quotes. -/
theorem readQuoted?_doubleQuotes (text : List Char) {rest : List Char}
    (hrest : rest.head? ≠ some '\x27') :
    readQuoted? (doubleQuotes text ++ '\x27' :: rest) = some (text, rest) := by
  induction text with
  | nil =>
    cases rest with
    | nil => rfl
    | cons c rest =>
      have hc : c ≠ '\x27' := by simpa using hrest
      simp [doubleQuotes, readQuoted?, hc]
  | cons c text ih =>
    by_cases hc : c = '\x27'
    · simp [doubleQuotes, readQuoted?, hc, ih]
    · simp [doubleQuotes, readQuoted?, hc, ih]

/-- What is read up to a closing quote has its quotes doubled, and no quote follows. -/
theorem eq_of_readQuoted? {chars text rest : List Char} (h : readQuoted? chars = some (text, rest)) :
    rest.head? ≠ some '\x27' ∧ chars = doubleQuotes text ++ '\x27' :: rest := by
  fun_induction readQuoted? chars generalizing text with
  | case1 => cases h
  | case2 chars ih =>
    obtain ⟨⟨text, rest⟩, htext, hpair⟩ := Option.map_eq_some_iff.1 h
    obtain ⟨rfl, rfl⟩ := Prod.mk.inj hpair
    obtain ⟨hrest, rfl⟩ := ih htext
    exact ⟨hrest, by simp [doubleQuotes]⟩
  | case3 chars hdouble =>
    obtain ⟨rfl, rfl⟩ := Prod.mk.inj (Option.some.inj h)
    refine ⟨fun hhead => ?_, rfl⟩
    obtain ⟨rest, rfl⟩ := List.head?_eq_some_iff.1 hhead
    exact hdouble rest rfl
  | case4 c chars hdouble hquote ih =>
    obtain ⟨⟨text, rest⟩, htext, hpair⟩ := Option.map_eq_some_iff.1 h
    obtain ⟨rfl, rfl⟩ := Prod.mk.inj hpair
    obtain ⟨hrest, rfl⟩ := ih htext
    have hc : c ≠ '\x27' := hquote
    exact ⟨hrest, by simp [doubleQuotes, hc]⟩

/-- Reading a literal uses up its closing quote. -/
theorem length_lt_of_readQuoted? {chars text rest : List Char}
    (h : readQuoted? chars = some (text, rest)) : rest.length < chars.length := by
  obtain ⟨-, rfl⟩ := eq_of_readQuoted? h
  rw [List.length_append, List.length_cons]
  omega

end QueryAlgebra.Text

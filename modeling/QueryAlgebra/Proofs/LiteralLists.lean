import QueryAlgebra.Proofs.LiteralReader
import QueryAlgebra.Proofs.RenderedLaws
import QueryAlgebra.Render

/-!
# Lists of string literals

A literal is read from its opening quote to the quote that closes it, and what is read decides about
the characters: they are those of the literal that stands for the text. Neither quotes nor commas
nor parentheses in a text can therefore end its literal early or make it run on.

This carries over to literals with commas between them. From the columns of a projection and from
the arguments of a function the texts are recovered one by one.
-/

namespace QueryAlgebra

namespace Text

/-- The text of the literal at the front, and what follows the literal. -/
def readLiteral? : List Char → Option (String × List Char)
  | '\x27' :: rest => (readQuoted? rest).map fun (text, behind) => (String.ofList text, behind)
  | _ => none

/-- What is read as a literal is the literal that stands for the text, unless a quote follows. -/
theorem readLiteral?_eq_some_iff {chars behind : List Char} {text : String} :
    readLiteral? chars = some (text, behind) ↔
      behind.head? ≠ some '\x27' ∧ chars = (literal text).toList ++ behind := by
  have hliteral : (literal text).toList ++ behind =
      '\x27' :: (doubleQuotes text.toList ++ '\x27' :: behind) := by
    simp [literal]
  rw [hliteral]
  constructor
  · intro h
    unfold readLiteral? at h
    split at h
    · obtain ⟨⟨read, rest⟩, hread, hpair⟩ := Option.map_eq_some_iff.1 h
      obtain ⟨rfl, rfl⟩ := Prod.mk.inj hpair
      obtain ⟨hrest, rfl⟩ := eq_of_readQuoted? hread
      exact ⟨hrest, by rw [String.toList_ofList]⟩
    · cases h
  · rintro ⟨hbehind, rfl⟩
    rw [readLiteral?, readQuoted?_doubleQuotes text.toList hbehind, Option.map_some]
    dsimp only
    rw [String.ofList_toList]

/-- Reading a literal uses up its quotes. -/
theorem length_lt_of_readLiteral? {chars behind : List Char} {text : String}
    (h : readLiteral? chars = some (text, behind)) : behind.length < chars.length := by
  obtain ⟨-, rfl⟩ := readLiteral?_eq_some_iff.1 h
  simp only [literal, String.toList_ofList, List.length_append, List.length_cons, List.length_nil]
  omega

/-- What follows a comma and a blank at the front. -/
def behindComma? : List Char → Option (List Char)
  | ',' :: ' ' :: next => some next
  | _ => none

/-- The comma and the blank are used up. -/
theorem length_lt_of_behindComma? {chars next : List Char} (h : behindComma? chars = some next) :
    next.length < chars.length := by
  unfold behindComma? at h
  split at h
  · obtain rfl := Option.some.inj h
    simp only [List.length_cons]
    omega
  · cases h

/-- The texts of one or more literals at the front, with a comma and a blank between neighbours, and
what follows the last literal. -/
def readSeries? (chars : List Char) : Option (List String × List Char) :=
  match _hread : readLiteral? chars with
  | none => none
  | some (text, behind) =>
    match _hnext : behindComma? behind with
    | none => some ([text], behind)
    | some next => (readSeries? next).map fun (texts, behind) => (text :: texts, behind)
termination_by chars.length
decreasing_by
  exact Nat.lt_trans (length_lt_of_behindComma? _hnext) (length_lt_of_readLiteral? _hread)

/-- The texts of the literals at the front, which may be none, and what follows them. -/
def readLiterals? (chars : List Char) : Option (List String × List Char) :=
  if chars.head? = some '\x27' then readSeries? chars else some ([], chars)

/-- Whether a list of literals ends in front of the characters: neither a quote follows nor a comma
and a blank. -/
def EndsLiterals (rest : List Char) : Prop :=
  rest.head? ≠ some '\x27' ∧ behindComma? rest = none

/-- A list of literals ends at the end of the text. -/
theorem endsLiterals_nil : EndsLiterals [] := ⟨by simp, rfl⟩

/-- A list of literals ends at a closing parenthesis. -/
theorem endsLiterals_closing (rest : List Char) : EndsLiterals (')' :: rest) := ⟨by simp, rfl⟩

/-- A literal at the front is the first of the series, and a comma behind it decides whether it is
the last. -/
theorem readSeries?_literal (text : String) {behind : List Char}
    (hbehind : behind.head? ≠ some '\x27') :
    readSeries? ((literal text).toList ++ behind) =
      match behindComma? behind with
      | none => some ([text], behind)
      | some next => (readSeries? next).map fun (texts, behind) => (text :: texts, behind) := by
  have hread : readLiteral? ((literal text).toList ++ behind) = some (text, behind) :=
    readLiteral?_eq_some_iff.2 ⟨hbehind, rfl⟩
  rw [readSeries?]
  split
  · next hnone => cases hread.symm.trans hnone
  · next found onward hfound =>
    obtain ⟨rfl, rfl⟩ := Prod.mk.inj (Option.some.inj (hread.symm.trans hfound))
    split
    · next hlast => rw [hlast]
    · next hcomma => rw [hcomma]

/-- Behind a literal with a comma the series goes on. -/
theorem readSeries?_literal_comma (text : String) (next : List Char) :
    readSeries? ((literal text).toList ++ ',' :: ' ' :: next) =
      (readSeries? next).map fun (texts, behind) => (text :: texts, behind) :=
  readSeries?_literal text (by simp)

/-- Where the list ends behind a literal, this is the last of the series. -/
theorem readSeries?_literal_last (text : String) {rest : List Char} (hrest : EndsLiterals rest) :
    readSeries? ((literal text).toList ++ rest) = some ([text], rest) := by
  rw [readSeries?_literal text hrest.1, hrest.2]

end Text

namespace Expression

variable (dialect : Dialect)

/-- One or more texts are written as a series of literals. -/
theorem exists_series (first : String) (rest : List String) :
    ∃ content,
      renderList dialect ((first :: rest).map .text) = .text content ∧
        content.toList.head? = some '\x27' ∧
        ∀ behind, Text.EndsLiterals behind →
          Text.readSeries? (content.toList ++ behind) = some (first :: rest, behind) := by
  induction rest generalizing first with
  | nil =>
    exact ⟨Text.literal first, rfl, by simp [Text.literal], fun behind hbehind =>
      Text.readSeries?_literal_last first hbehind⟩
  | cons second rest ih =>
    obtain ⟨content, hcontent, -, hread⟩ := ih second
    refine ⟨Text.literal first ++ ", " ++ content, ?_, by simp [Text.literal],
      fun behind hbehind => ?_⟩
    · rw [renderList, List.map_cons, List.map_cons, Rendered.join_cons _ _ (by simp)]
      exact congrArg (Rendered.text (Text.literal first) ++ Rendered.text ", " ++ ·) hcontent
    · have hcomma : (Text.literal first ++ ", " ++ content).toList ++ behind =
          (Text.literal first).toList ++ ',' :: ' ' :: (content.toList ++ behind) := by
        simp
      rw [hcomma, Text.readSeries?_literal_comma, hread behind hbehind]
      rfl

/-- A list of texts is written as literals from which it is recovered, if the list of literals ends
where they do. -/
theorem exists_literals (texts : List String) :
    ∃ content,
      renderList dialect (texts.map .text) = .text content ∧
        ∀ behind, Text.EndsLiterals behind →
          Text.readLiterals? (content.toList ++ behind) = some (texts, behind) := by
  cases texts with
  | nil =>
    refine ⟨"", rfl, fun behind hbehind => ?_⟩
    rw [String.toList_empty, List.nil_append, Text.readLiterals?, if_neg hbehind.1]
  | cons first rest =>
    obtain ⟨content, hcontent, hhead, hread⟩ := exists_series dialect first rest
    refine ⟨content, hcontent, fun behind hbehind => ?_⟩
    rw [Text.readLiterals?, List.head?_append, hhead, Option.some_or, if_pos rfl,
      hread behind hbehind]

/-- Columns of no relation are written behind `SELECT`. -/
theorem render_project_none {columns : List Expression} {content : String}
    (h : renderList dialect columns = .text content) :
    (Relation.none.project columns).render dialect = .text ("SELECT " ++ content) := by
  rw [Relation.project, Relation.render, Relation.renderFiltered, Relation.withFilters, h]
  change Rendered.text "SELECT " ++ .text content ++ Rendered.empty ++ Rendered.empty = _
  rw [Rendered.append_empty, Rendered.append_empty, Rendered.text_append_text]

/-- Arguments are written between the parentheses behind the name of the function. -/
theorem render_call {arguments : List Expression} {content : String} (function : String)
    (h : renderList dialect arguments = .text content) :
    (Expression.call function arguments).render dialect =
      .text (function ++ "(" ++ content ++ ")") := by
  rw [render, renderAll_eq_map]
  change Rendered.text (function ++ "(") ++ renderList dialect arguments ++ Rendered.text ")" = _
  rw [h, Rendered.text_append_text, Rendered.text_append_text]

/-- A text is written as a literal, and what is read as a literal of that text is this literal, in
front of anything but a quote. Lists of texts are recovered from the columns of a projection and
from the arguments of a function, up to the parenthesis that closes them. -/
theorem literals_recovered :
    (∀ text : String, ∃ content, (Expression.text text).render dialect = .text content ∧
      ∀ chars behind, Text.readLiteral? chars = some (text, behind) ↔
        behind.head? ≠ some '\x27' ∧ chars = content.toList ++ behind) ∧
    (∀ texts : List String, ∃ content,
      (Relation.none.project (texts.map .text)).render dialect = .text ("SELECT " ++ content) ∧
        Text.readLiterals? content.toList = some (texts, [])) ∧
    ∀ (function : String) (texts : List String), ∃ content,
      (Expression.call function (texts.map .text)).render dialect =
          .text (function ++ "(" ++ content ++ ")") ∧
        Text.readLiterals? content.toList = some (texts, []) ∧
        Text.readLiterals? (content ++ ")").toList = some (texts, [')']) := by
  refine ⟨fun text => ⟨Text.literal text, rfl, fun chars behind => Text.readLiteral?_eq_some_iff⟩,
    fun texts => ?_, fun function texts => ?_⟩
  · obtain ⟨content, hcontent, hread⟩ := exists_literals dialect texts
    have hwhole := hread [] Text.endsLiterals_nil
    rw [List.append_nil] at hwhole
    exact ⟨content, render_project_none dialect hcontent, hwhole⟩
  · obtain ⟨content, hcontent, hread⟩ := exists_literals dialect texts
    have hwhole := hread [] Text.endsLiterals_nil
    have hclosed := hread [')'] (Text.endsLiterals_closing [])
    rw [List.append_nil] at hwhole
    refine ⟨content, render_call dialect function hcontent, hwhole, ?_⟩
    rw [String.toList_append]
    exact hclosed

/-- Quotes, commas and parentheses in a text do not end its literal. -/
example :
    (Expression.call "f" (["it\x27s", "\x27, \x27)"].map .text)).render .standard =
        .text "f('it\x27\x27s', '\x27\x27, \x27\x27)')" ∧
      Text.readLiterals? "'it\x27\x27s', '\x27\x27, \x27\x27)')".toList =
        some (["it\x27s", "\x27, \x27)"], [')']) := by
  decide +kernel

end Expression

end QueryAlgebra

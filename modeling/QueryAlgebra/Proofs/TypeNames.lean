import QueryAlgebra.DataType
import QueryAlgebra.Proofs.Trimming
import QueryAlgebra.Proofs.UpperCase

/-!
# Type names in normal form

Reading a type name looks at its canonical form only, which is the same for all ways of writing the
name with white space around it or in other letter case. The name of the type that is read is in
canonical form already, so reading it again gives the type again.

Parameters are cut off at the first parenthesis. What precedes them has no parenthesis, in whatever
form, so that nothing is left to be cut off a second time.
-/

namespace QueryAlgebra

namespace Text

/-- White space is left as it is by upper case. -/
theorem upper_of_blank {text : String} (h : Blank text) : upper text = text :=
  upper_eq_self fun c hc => reserved_of_isBlank (h c hc)

/-- Upper case brings no white space to the ends of a text. -/
theorem Trimmed.upper {text : String} (h : Trimmed text) : Trimmed (upper text) where
  head c hc := by
    rw [toList_upper] at hc
    cases hchars : text.toList with
    | nil =>
      rw [hchars] at hc
      cases hc
    | cons d rest =>
      rw [hchars, List.flatMap_cons, List.head?_append_of_ne_nil _ (upperChar_ne_nil d)] at hc
      rw [isBlank_of_mem_upperChar (List.mem_of_mem_head? hc)]
      exact h.head d (by rw [hchars]; rfl)
  last c hc := by
    rw [toList_upper] at hc
    rcases List.eq_nil_or_concat text.toList with hchars | ⟨rest, d, hchars⟩
    · rw [hchars] at hc
      cases hc
    · rw [hchars, List.concat_eq_append, List.flatMap_append, List.flatMap_singleton,
        List.getLast?_append_of_ne_nil _ (upperChar_ne_nil d)] at hc
      rw [isBlank_of_mem_upperChar (List.mem_of_mem_getLast? hc)]
      exact h.last d (by rw [hchars, List.concat_eq_append, List.getLast?_concat]; rfl)

/-- Trimming and upper case may be exchanged. -/
theorem trim_upper (text : String) : trim (upper text) = upper (trim text) := by
  obtain ⟨before, after, hbefore, hafter, htext⟩ := exists_blanks_around text
  calc trim (upper text)
      = trim (upper (before ++ trim text ++ after)) := congrArg (fun t => trim (upper t)) htext
    _ = trim (before ++ upper (trim text) ++ after) := by
        rw [upper_append, upper_append, upper_of_blank hbefore, upper_of_blank hafter]
    _ = upper (trim text) := trim_eq_of_between hbefore hafter (trimmed_trim text).upper

/-- Trimming adds no characters. -/
theorem mem_of_mem_trim {c : Char} {text : String} (h : c ∈ (trim text).toList) :
    c ∈ text.toList := by
  obtain ⟨before, after, -, -, htext⟩ := exists_blanks_around text
  rw [htext, String.toList_append, String.toList_append]
  exact List.mem_append_left _ (List.mem_append_right _ h)

end Text

namespace DataType

open Text

variable {name base : String}

/-! ## Canonical names -/

/-- White space around a name makes no difference. -/
theorem canonical_surrounded {before after : String} (hbefore : Blank before) (hafter : Blank after)
    (name : String) : canonical (before ++ name ++ after) = canonical name := by
  rw [canonical, trim_surrounded hbefore hafter, canonical]

/-- Upper case makes no difference. -/
theorem canonical_upper (name : String) : canonical (upper name) = canonical name := by
  rw [canonical, trim_upper, upper_upper, canonical]

/-- A canonical name is its own canonical form. -/
theorem canonical_canonical (name : String) : canonical (canonical name) = canonical name := by
  calc canonical (upper (trim name))
      = canonical (trim name) := canonical_upper _
    _ = upper (trim name) := congrArg upper (trimmed_trim name).trim_eq

/-- The canonical form has no opening parenthesis if the name has none. -/
theorem notMem_canonical (h : '(' ∉ name.toList) : '(' ∉ (canonical name).toList := by
  rw [canonical, mem_upper_iff (by decide)]
  exact fun hmem => h (mem_of_mem_trim hmem)

/-! ## Parameters -/

/-- In a name without an opening parenthesis every character precedes the first one. -/
theorem forall_ne_of_notMem (h : '(' ∉ name.toList) : ∀ c ∈ name.toList, (c != '(') = true :=
  fun _ hc => bne_iff_ne.2 (ne_of_mem_of_not_mem hc h)

/-- A name without an opening parenthesis has no parameters. -/
theorem base?_eq_none (h : '(' ∉ name.toList) : base? name = none := by
  rw [base?, List.takeWhile_eq_self_iff.2 (forall_ne_of_notMem h)]
  exact if_neg fun hsplit => hsplit.2.1 rfl

/-- What precedes parameters has no opening parenthesis. -/
theorem notMem_of_base? (h : base? name = some base) : '(' ∉ base.toList := by
  rw [base?] at h
  split at h
  · obtain rfl := Option.some.inj h
    rw [String.toList_ofList]
    intro hmem
    have hplain : ('(' != '(') = true := List.mem_takeWhile_imp (p := (· != '(')) hmem
    cases hplain
  · cases h

/-- Parameters in parentheses are what follows a name without them. -/
theorem base?_append (hbase : '(' ∉ base.toList) (hne : base ≠ "") (parameters : String) :
    base? (base ++ "(" ++ parameters ++ ")") = some base := by
  have hchars : (base ++ "(" ++ parameters ++ ")").toList =
      base.toList ++ ('(' :: parameters.toList ++ [')']) := by
    simp
  have htake : (base ++ "(" ++ parameters ++ ")").toList.takeWhile (· != '(') = base.toList := by
    rw [hchars, List.takeWhile_append_of_pos (forall_ne_of_notMem hbase), List.cons_append,
      List.takeWhile_cons_of_neg (by decide), List.append_nil]
  rw [base?, htake, hchars, if_pos, String.ofList_toList]
  refine ⟨by simpa using hne, fun heq => ?_, ?_⟩
  · have hlength := congrArg List.length heq
    simp at hlength
  · rw [← List.append_assoc, List.getLast?_concat]

/-! ## Reading -/

/-- The name that is read in place of this one: what precedes the parameters, unless the name is
built in. -/
def next? (name : String) : Option String :=
  match builtins.lookup (canonical name) with
  | some _ => none
  | none => base? (canonical name)

/-- Reading in which what precedes parameters is read as a name itself, as far as the depth allows:
none if it does not. -/
def parseWithin : Nat → String → Option DataType
  | 0, _ => none
  | depth + 1, name =>
    (next? name).elim (some (ofCanonical (canonical name))) fun base => parseWithin depth base

/-- A canonical name that is built in stands for the built-in type. -/
theorem ofCanonical_eq_of_lookup {type : DataType} (h : builtins.lookup name = some type) :
    ofCanonical name = type := by
  rw [ofCanonical, h]
  rfl

/-- A canonical name that is not built in names itself. -/
theorem ofCanonical_eq_ofName (h : builtins.lookup name = none) :
    ofCanonical name = ofName name := by
  rw [ofCanonical, h]
  rfl

/-- With parameters it is the name before these that is read, unless the whole is built in. -/
theorem next?_eq_some_iff :
    next? name = some base ↔
      builtins.lookup (canonical name) = none ∧ base? (canonical name) = some base := by
  rw [next?]
  cases builtins.lookup (canonical name) <;> simp

/-- Without parameters there is nothing else to read. -/
theorem next?_eq_none (h : '(' ∉ (canonical name).toList) : next? name = none := by
  rw [Option.eq_none_iff_forall_ne_some]
  intro base hbase
  rw [next?_eq_some_iff, base?_eq_none h] at hbase
  cases hbase.2

/-- The name that is read in place of another has nothing else to read. -/
theorem next?_of_next?_eq_some (h : next? name = some base) : next? base = none :=
  next?_eq_none (notMem_canonical (notMem_of_base? (next?_eq_some_iff.1 h).2))

/-- Reading looks up the canonical name, or that of the name that is read in its place. -/
theorem parse_eq (name : String) :
    parse name = ofCanonical (((next? name).map canonical).getD (canonical name)) := by
  rw [parse, next?]
  cases builtins.lookup (canonical name) with
  | some type => rfl
  | none => cases base? (canonical name) <;> rfl

/-- Names of one canonical form are read as one type. -/
theorem parse_congr {other : String} (h : canonical name = canonical other) :
    parse name = parse other := by
  have hnext : next? name = next? other := by
    ext base
    rw [next?_eq_some_iff, next?_eq_some_iff, h]
  rw [parse_eq, parse_eq, hnext, h]

/-- With nothing else to read the canonical name decides. -/
theorem parse_of_next?_eq_none (h : next? name = none) :
    parse name = ofCanonical (canonical name) := by
  rw [parse_eq, h]
  rfl

/-- The name that is read in place of another is of the same type. -/
theorem parse_of_next?_eq_some (h : next? name = some base) : parse name = parse base := by
  rw [parse_eq, parse_eq base, next?_of_next?_eq_some h, h]
  rfl

/-- Every type that is read is read from a name with nothing else to read. -/
theorem exists_plain (name : String) :
    ∃ plain, parse plain = parse name ∧ parse name = ofCanonical (canonical plain) := by
  cases hnext : next? name with
  | none => exact ⟨name, rfl, parse_of_next?_eq_none hnext⟩
  | some base =>
    have hsame : parse name = parse base := parse_of_next?_eq_some hnext
    refine ⟨base, hsame.symm, ?_⟩
    rw [hsame, parse_of_next?_eq_none (next?_of_next?_eq_some hnext)]

/-- A name that is built in stands for the type that is built in under it. -/
theorem parse_of_builtin {type : DataType} (h : builtins.lookup (canonical name) = some type) :
    parse name = type := by
  have hnext : next? name = none := by
    rw [Option.eq_none_iff_forall_ne_some]
    intro base hbase
    rw [next?_eq_some_iff, h] at hbase
    cases hbase.1
  rw [parse_of_next?_eq_none hnext]
  exact ofCanonical_eq_of_lookup h

/-- The names of built-in types stand for these types. -/
theorem parse_name_of_builtin {type : DataType} (h : builtins.lookup name = some type) :
    parse type.name = type := by
  have hcases : ∀ entry ∈ builtins, entry.2 ∈ [boolean, integer, double, text] := by
    simp [builtins]
  have hcanonical : ∀ builtin ∈ [boolean, integer, double, text],
      canonical builtin.name = builtin.name := by
    decide +kernel
  have hlookup : ∀ builtin ∈ [boolean, integer, double, text],
      builtins.lookup builtin.name = some builtin := by
    simp only [List.forall_mem_cons]
    exact ⟨rfl, rfl, rfl, rfl, fun _ hnone => by cases hnone⟩
  have htype := hcases _ (mem_of_lookup h)
  apply parse_of_builtin
  rw [hcanonical _ htype]
  exact hlookup _ htype

/-- The name of the type that is read stands for this type. -/
theorem parse_name_parse (name : String) : parse (parse name).name = parse name := by
  obtain ⟨plain, hsame, hread⟩ := exists_plain name
  cases hbuiltin : builtins.lookup (canonical plain) with
  | some type =>
    rw [hread, ofCanonical_eq_of_lookup hbuiltin]
    exact parse_name_of_builtin hbuiltin
  | none =>
    have hname : (parse name).name = canonical plain := by
      rw [hread, ofCanonical_eq_ofName hbuiltin]
      rfl
    rw [hname, parse_congr (canonical_canonical plain), hsame]

/-- Reading twice is always enough. -/
theorem parseWithin_eq_parse (depth : Nat) (name : String) :
    parseWithin (depth + 2) name = some (parse name) := by
  cases hnext : next? name with
  | none => rw [parseWithin, hnext, parse_of_next?_eq_none hnext, Option.elim_none]
  | some base =>
    have hlast : next? base = none := next?_of_next?_eq_some hnext
    rw [parseWithin, hnext, Option.elim_some, parseWithin, hlast, Option.elim_none,
      parse_of_next?_eq_some hnext, parse_of_next?_eq_none hlast]

/-! ## Names with parameters -/

/-- No built-in name has an opening parenthesis. -/
theorem lookup_eq_none (h : '(' ∈ name.toList) : builtins.lookup name = none := by
  have hplain : ∀ entry ∈ builtins, '(' ∉ entry.1.toList := by
    decide
  cases hlookup : builtins.lookup name with
  | none => rfl
  | some type => exact absurd h (hplain _ (mem_of_lookup hlookup))

/-- A closing parenthesis behind a name is not trimmed off. -/
theorem trimmed_parameters {start : String} (hstart : Trimmed start) (hne : start ≠ "")
    (inside : String) : Trimmed (start ++ inside ++ ")") where
  head c hc := by
    rw [String.append_assoc, String.toList_append,
      List.head?_append_of_ne_nil _ (String.toList_eq_nil_iff.not.2 hne)] at hc
    exact hstart.head c hc
  last c hc := by
    rw [String.toList_append] at hc
    obtain rfl : ')' = c := by simpa using hc
    decide

/-- A name with parameters has a canonical form with parameters. What precedes them there reads as
what precedes them in the name. -/
theorem exists_canonical_parameters (hbase : ¬ Blank base) (hplain : '(' ∉ base.toList)
    (parameters : String) :
    ∃ start, canonical start = canonical base ∧ '(' ∉ start.toList ∧ start ≠ "" ∧
      canonical (base ++ "(" ++ parameters ++ ")") = start ++ "(" ++ upper parameters ++ ")" := by
  obtain ⟨before, after, hbefore, hafter, hsplit⟩ := exists_blanks_around base
  have hempty : Blank "" := by decide
  have hcore : trim base ≠ "" := by
    intro hnone
    rw [hnone, String.append_empty] at hsplit
    exact hbase (hsplit ▸ hbefore.append hafter)
  refine ⟨upper (trim base ++ after), ?_, ?_, ?_, ?_⟩
  · calc canonical (upper (trim base ++ after))
        = canonical (trim base ++ after) := canonical_upper _
      _ = canonical (before ++ (trim base ++ after) ++ "") :=
          (canonical_surrounded hbefore hempty _).symm
      _ = canonical base := by rw [String.append_empty, ← String.append_assoc, ← hsplit]
  · rw [mem_upper_iff (by decide)]
    intro hmem
    apply hplain
    rw [hsplit, String.append_assoc, String.toList_append]
    exact List.mem_append_right _ hmem
  · rw [Ne, upper_eq_empty_iff]
    intro hnone
    exact hcore (String.append_eq_empty_iff.1 hnone).1
  · have htrim : trim (base ++ "(" ++ parameters ++ ")") =
        trim base ++ (after ++ "(" ++ parameters) ++ ")" := by
      calc trim (base ++ "(" ++ parameters ++ ")")
          = trim (before ++ trim base ++ after ++ "(" ++ parameters ++ ")") :=
            congrArg (fun name => trim (name ++ "(" ++ parameters ++ ")")) hsplit
        _ = trim (before ++ (trim base ++ (after ++ "(" ++ parameters) ++ ")") ++ "") := by
            simp only [String.append_assoc, String.append_empty]
        _ = trim base ++ (after ++ "(" ++ parameters) ++ ")" :=
            trim_eq_of_between hbefore hempty (trimmed_parameters (trimmed_trim base) hcore _)
    have hopen : upper "(" = "(" := upper_eq_self (List.forall_mem_singleton.2 (by decide))
    have hclose : upper ")" = ")" := upper_eq_self (List.forall_mem_singleton.2 (by decide))
    rw [canonical, htrim]
    simp only [upper_append, hopen, hclose, String.append_assoc]

/-- Parameters in parentheses do not change the type. -/
theorem parse_parameters (hbase : ¬ Blank base) (hplain : '(' ∉ base.toList) (parameters : String) :
    parse (base ++ "(" ++ parameters ++ ")") = parse base := by
  obtain ⟨start, hsame, hstart, hne, hcanonical⟩ :=
    exists_canonical_parameters hbase hplain parameters
  have hbuiltin : builtins.lookup (canonical (base ++ "(" ++ parameters ++ ")")) = none := by
    apply lookup_eq_none
    rw [hcanonical]
    simp
  have hcut : base? (canonical (base ++ "(" ++ parameters ++ ")")) = some start := by
    rw [hcanonical]
    exact base?_append hstart hne (upper parameters)
  calc parse (base ++ "(" ++ parameters ++ ")")
      = parse start := parse_of_next?_eq_some (next?_eq_some_iff.2 ⟨hbuiltin, hcut⟩)
    _ = parse base := parse_congr hsame

/-! ## The normal form -/

/-- Reading ends, at a type whose name stands for it. White space around a name, its letter case and
parameters behind it make no difference. -/
theorem parse_normal_form (name : String) :
    (∀ depth, parseWithin (depth + 2) name = some (parse name)) ∧
    parse (parse name).name = parse name ∧
    (∀ before after, Blank before → Blank after → parse (before ++ name ++ after) = parse name) ∧
    parse (upper name) = parse name ∧
    (¬ Blank name → '(' ∉ name.toList →
      ∀ parameters, parse (name ++ "(" ++ parameters ++ ")") = parse name) := by
  refine ⟨fun depth => parseWithin_eq_parse depth name, parse_name_parse name, ?_, ?_, ?_⟩
  · intro before after hbefore hafter
    exact parse_congr (canonical_surrounded hbefore hafter name)
  · exact parse_congr (canonical_upper name)
  · intro hname hplain parameters
    exact parse_parameters hname hplain parameters

/-- The parameters of a decimal type contain a parenthesis, and a blank precedes them. -/
theorem parse_normal_form_decimal :
    (Blank "\t" ∧ Blank "" ∧ parse ("\t" ++ "varchar(32)" ++ "") = parse "varchar(32)") ∧
    ¬ Blank "Decimal " ∧ '(' ∉ "Decimal ".toList ∧
      parse ("Decimal " ++ "(" ++ "10, (2)" ++ ")") = parse "Decimal " := by
  have htab : Blank "\t" := by decide
  have hempty : Blank "" := by decide
  have hname : ¬ Blank "Decimal " := by decide
  have hplain : '(' ∉ "Decimal ".toList := by decide
  exact ⟨⟨htab, hempty, (parse_normal_form "varchar(32)").2.2.1 _ _ htab hempty⟩, hname, hplain,
    (parse_normal_form "Decimal ").2.2.2.2 hname hplain "10, (2)"⟩

end DataType

end QueryAlgebra

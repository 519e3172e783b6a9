import LapTelemetry.Proofs.Point.LineReader

/-! # Names and values as they are written

A name is escaped so that a reader of names finds it again, with one exception: nothing
escapes a backslash in a name, so one at its end is taken for the escape of the delimiter
behind it. The reader then goes on to the next delimiter, with the first one in the name
(`readName_escape`). Backslashes elsewhere do no harm, since what stands behind them is
no delimiter: a delimiter in a name has a backslash of its own.

Whatever text stands in quotes is found again (`readQuoted_escape`), and numbers are
written without any character that has a meaning in a line, so a value is read as it was
written (`reads_value`). -/

namespace LapTelemetry.Point.LineProtocol

open LapTelemetry.Number LapTelemetry.Text FrontReader

set_option autoImplicit false

/-! ## Names and quoted texts -/

/-- A rest that starts with a delimiter. -/
def StopsAt (delimiters rest : List Char) : Prop := ∃ c ∈ delimiters, rest.head? = some c

theorem noBackslash_names : '\\' ∉ nameDelimiters := by decide

section Names

variable {delimiters : List Char} {c : Char} {rest : List Char}

theorem readName_cons (unescaped : c ≠ '\\') :
    readName delimiters (c :: rest) =
      if c ∈ delimiters then ([], c :: rest)
      else Prod.map (c :: ·) id (readName delimiters rest) := by
  rw [readName]
  rintro other tail rfl _
  exact unescaped rfl

theorem readName_escaped (delimiter : c ∈ delimiters) :
    readName delimiters ('\\' :: c :: rest) = Prod.map (c :: ·) id (readName delimiters rest) := by
  rw [readName, if_pos delimiter]

/-- A backslash is a character like others unless a delimiter stands behind it. -/
theorem readName_backslash (other : c ∉ delimiters) :
    readName delimiters ('\\' :: c :: rest) =
      Prod.map ('\\' :: ·) id (readName delimiters (c :: rest)) := by
  rw [readName, if_neg other]

/-- What is escaped starts with no delimiter. -/
theorem exists_escape_cons (noBackslash : '\\' ∉ delimiters) (oneLine : c ≠ '\n')
    (text : List Char) :
    ∃ first later, escape delimiters (c :: text) = first :: later ∧ first ∉ delimiters := by
  rw [escape, if_neg oneLine]
  by_cases delimiter : c ∈ delimiters
  · exact ⟨_, _, if_pos delimiter, noBackslash⟩
  · exact ⟨_, _, if_neg delimiter, delimiter⟩

/-- A character is read as it was escaped, if no delimiter stands behind a backslash. -/
theorem readName_escape_cons (oneLine : c ≠ '\n') {text : List Char}
    (apart : c = '\\' → ∃ first later, escape delimiters text ++ rest = first :: later ∧
      first ∉ delimiters) :
    readName delimiters (escape delimiters (c :: text) ++ rest) =
      Prod.map (c :: ·) id (readName delimiters (escape delimiters text ++ rest)) := by
  rw [escape, if_neg oneLine]
  by_cases delimiter : c ∈ delimiters
  · rw [if_pos delimiter, List.cons_append, List.cons_append, readName_escaped delimiter]
  rw [if_neg delimiter, List.cons_append]
  by_cases backslash : c = '\\'
  · obtain ⟨first, later, starts, other⟩ := apart backslash
    rw [starts, backslash, readName_backslash other]
  · rw [readName_cons backslash, if_neg delimiter]

/-- What is escaped is read up to the delimiter behind it, unless a backslash stands there: then the
delimiter is taken into the name, and the name goes on. -/
theorem readName_escape (noBackslash : '\\' ∉ delimiters) {text : List Char}
    (oneLine : '\n' ∉ text) (delimiter : c ∈ delimiters) (rest : List Char) :
    readName delimiters (escape delimiters text ++ c :: rest) =
      if text.getLast? = some '\\' then
        Prod.map (text.dropLast ++ c :: ·) id (readName delimiters rest)
      else (text, c :: rest) := by
  induction text with
  | nil =>
    have unescaped : c ≠ '\\' := fun same => noBackslash (same ▸ delimiter)
    rw [escape, List.nil_append, readName_cons unescaped, if_pos delimiter]
    rfl
  | cons first text ih =>
    rw [List.mem_cons, not_or] at oneLine
    obtain ⟨firstInLine, textInLine⟩ := oneLine
    have firstInLine := Ne.symm firstInLine
    cases text with
    | nil =>
      by_cases backslash : first = '\\'
      · rw [backslash, escape, if_neg (by decide), if_neg noBackslash]
        exact readName_escaped delimiter
      · rw [readName_escape_cons firstInLine fun same => absurd same backslash, ih textInLine,
          List.getLast?_singleton, if_neg (by simp), if_neg (by simpa using backslash)]
        rfl
    | cons second text =>
      have apart : ∃ next later, escape delimiters (second :: text) ++ c :: rest = next :: later ∧
          next ∉ delimiters := by
        have secondInLine : second ≠ '\n' := fun same => textInLine (same ▸ List.mem_cons_self)
        obtain ⟨next, later, starts, other⟩ := exists_escape_cons noBackslash secondInLine text
        exact ⟨next, later ++ c :: rest, by rw [starts, List.cons_append], other⟩
      rw [readName_escape_cons firstInLine fun _ => apart, ih textInLine, List.getLast?_cons_cons,
        List.dropLast_cons_cons]
      split <;> rfl

end Names

/-- Whatever stands in quotes is read up to the quote that closes it. -/
theorem readQuoted_escape (text rest : List Char) :
    readQuoted (escape quotedSpecial text ++ '"' :: rest) = some (text, rest) := by
  induction text with
  | nil => rfl
  | cons c text ih =>
    rw [escape]
    by_cases newline : c = '\n'
    · subst newline
      rw [if_pos rfl, List.cons_append, List.cons_append, readQuoted, ih]
      rfl
    rw [if_neg newline]
    by_cases special : c ∈ quotedSpecial
    · rw [if_pos special, List.cons_append, List.cons_append]
      rcases List.mem_pair.mp special with rfl | rfl
      · rw [readQuoted, ih]
        rfl
      · rw [readQuoted, ih]
        rfl
    · obtain ⟨notQuote, unescaped⟩ := not_or.mp (fun either => special (List.mem_pair.mpr either))
      rw [if_neg special, List.cons_append, readQuoted, ih]
      · rfl
      all_goals
        intros
        simp_all

/-! ## Values -/

/-- A character of numbers: a digit, a minus sign or a point. -/
def IsNumeral (c : Char) : Prop := ('0' ≤ c ∧ c ≤ '9') ∨ c = '-' ∨ c = '.'

/-- A character without a meaning in a line. -/
def IsInert (c : Char) : Prop := c ∉ nameDelimiters ∧ c ≠ '\n' ∧ c ≠ '\\' ∧ c ≠ '"'

theorem IsNumeral.inert {c : Char} (numeral : IsNumeral c) : IsInert c ∧ c ≠ 'i' ∧ c ≠ 'u' := by
  have outside (other : Char) (notNumeral : ¬ IsNumeral other) : c ≠ other := by
    rintro rfl
    exact notNumeral numeral
  simp only [IsInert, nameDelimiters, List.mem_cons, List.not_mem_nil, or_false, not_or]
  refine ⟨⟨⟨?_, ?_, ?_⟩, ?_, ?_, ?_⟩, ?_, ?_⟩
  all_goals exact outside _ (by unfold IsNumeral; decide)

/-- The characters of an integer. -/
def integerText (i : Int) : List Char :=
  if i < 0 then '-' :: Decimal.digits i.natAbs else Decimal.digits i.natAbs

theorem ofInt_toList (i : Int) : (Decimal.ofInt i).toList = integerText i := by
  rw [Decimal.ofInt, integerText]
  split
  · rw [String.toList_append, Decimal.ofNat, String.toList_ofList, String.toList_ofList]
    rfl
  · rw [Decimal.ofNat, String.toList_ofList]

theorem readInteger?_integerText (i : Int) : readInteger? (integerText i) = some i := by
  rw [integerText]
  split
  · rename_i negative
    rw [readInteger?, Decimal.value?_digits]
    exact congrArg some (show -(i.natAbs : Int) = i by omega)
  · rename_i notNegative
    have unsigned : ∀ digits, Decimal.digits i.natAbs ≠ '-' :: digits := by
      intro digits same
      have first := Decimal.digit_of_mem_digits (same ▸ List.mem_cons_self)
      exact absurd first (by decide)
    rw [readInteger?, Decimal.value?_digits]
    · exact congrArg some (show (i.natAbs : Int) = i by omega)
    · exact unsigned

theorem numeral_of_mem_integerText {i : Int} {c : Char} (member : c ∈ integerText i) :
    IsNumeral c := by
  rw [integerText] at member
  split at member
  · rcases List.mem_cons.mp member with rfl | digit
    · exact .inr (.inl rfl)
    · exact .inl (Decimal.digit_of_mem_digits digit)
  · exact .inl (Decimal.digit_of_mem_digits member)

theorem positional_ne_nil (decimal : Scientific) : decimal.positional ≠ [] := by
  rw [Scientific.positional]
  have digits := Decimal.digits_ne_nil decimal.digits
  split
  · split
    · exact digits
    · simp [digits]
  · simp

theorem numeral_of_mem_positional {decimal : Scientific} {c : Char}
    (member : c ∈ decimal.positional) : IsNumeral c := by
  have zero : IsNumeral '0' := .inl (by decide)
  rw [Scientific.positional] at member
  split at member
  · split at member
    · exact .inl (Decimal.digit_of_mem_digits member)
    · rcases List.mem_append.mp member with digit | zeros
      · exact .inl (Decimal.digit_of_mem_digits digit)
      · rw [List.eq_of_mem_replicate zeros]
        exact zero
  · have filled {c : Char} (member : c ∈ List.replicate (decimal.exponent.natAbs + 1 -
        (Decimal.digits decimal.digits).length) '0' ++ Decimal.digits decimal.digits) :
        IsNumeral c := by
      rcases List.mem_append.mp member with zeros | digit
      · rw [List.eq_of_mem_replicate zeros]
        exact zero
      · exact .inl (Decimal.digit_of_mem_digits digit)
    rcases List.mem_append.mp member with whole | fraction
    · exact filled (List.mem_of_mem_take whole)
    · rcases List.mem_cons.mp fraction with rfl | fraction
      · exact .inr (.inr rfl)
      · exact filled (List.mem_of_mem_drop fraction)

/-- The text of a finite number is made of numerals. -/
theorem numerals_of_finite {pattern : Nat} (finite : Binary.double.isFinite pattern = true) :
    (positionalText pattern).toList ≠ [] ∧ ∀ c ∈ (positionalText pattern).toList, IsNumeral c := by
  have signed (negative : Bool) {text : List Char} (nonempty : text ≠ [])
      (numerals : ∀ c ∈ text, IsNumeral c) :
      (if negative then '-' :: text else text) ≠ [] ∧
        ∀ c ∈ (if negative then '-' :: text else text), IsNumeral c := by
    cases negative with
    | false => exact ⟨nonempty, numerals⟩
    | true => exact ⟨List.cons_ne_nil _ _, List.forall_mem_cons.mpr ⟨.inr (.inl rfl), numerals⟩⟩
  rw [Binary.isFinite] at finite
  rw [positionalText]
  cases parts : Binary.double.classify pattern with
  | nan negative payload =>
    rw [parts] at finite
    cases finite
  | infinite negative =>
    rw [parts] at finite
    cases finite
  | finite negative significand exponent =>
    dsimp only
    split
    · rw [String.toList_ofList]
      apply signed negative (List.cons_ne_nil _ _)
      intro c member
      rw [List.mem_singleton.mp member]
      exact .inl (by decide)
    · rw [String.toList_ofList]
      exact signed negative (positional_ne_nil _) fun c member => numeral_of_mem_positional member

/-- The value that a reader finds where a value was written; a real number that is not
finite is not written. -/
def ReadValue.of? : FieldValue → Option ReadValue
  | .integer i => some (.integer i)
  | .natural n => some (.natural n)
  | .real pattern =>
    if Binary.double.isFinite pattern.toNat then some (.real (positionalText pattern.toNat))
    else none
  | .text s => some (.text s)

theorem escape_of_inert {text : List Char} (inert : ∀ c ∈ text, IsInert c) :
    escape nameDelimiters text = text := by
  induction text with
  | nil => rfl
  | cons c text ih =>
    obtain ⟨⟨noDelimiter, oneLine, -⟩, others⟩ := List.forall_mem_cons.mp inert
    rw [escape, if_neg oneLine, if_neg noDelimiter, ih others]

/-- A number goes up to the delimiter behind it. -/
theorem reads_number {text : List Char} {number : ReadValue} (inert : ∀ c ∈ text, IsInert c)
    (isNumber : readNumber? text = some number) :
    value.Reads (StopsAt nameDelimiters) text number := by
  rintro rest ⟨c, delimiter, first⟩
  obtain ⟨later, rfl⟩ := List.head?_eq_some_iff.mp first
  have oneLine : '\n' ∉ text := fun newline => (inert _ newline).2.1 rfl
  have endsBare : text.getLast? ≠ some '\\' := fun last =>
    (inert _ (List.mem_of_getLast? last)).2.2.1 rfl
  have read := readName_escape noBackslash_names oneLine delimiter later
  rw [escape_of_inert inert, if_neg endsBare] at read
  show readValue (text ++ c :: later) = _
  rw [readValue.eq_def]
  split
  · rename_i tail quoted
    cases text with
    | nil => cases isNumber
    | cons c text =>
      cases quoted
      exact absurd rfl (inert '"' List.mem_cons_self).2.2.2
  · rw [read]
    show (readNumber? text).map _ = _
    rw [isNumber]
    rfl

theorem readNumber?_real {text : List Char} (nonempty : text ≠ [])
    (numerals : ∀ c ∈ text, IsNumeral c) :
    readNumber? text = some (.real (String.ofList text)) := by
  obtain ⟨front, last, rfl⟩ := (List.eq_nil_or_concat text).resolve_left nonempty
  have lastNumeral := (numerals last (by simp)).inert
  rw [readNumber?, List.concat_eq_append, List.getLast?_concat]
  split
  · rename_i found
    cases found
  · rename_i found
    cases found
    exact absurd rfl lastNumeral.2.1
  · rename_i found
    cases found
    exact absurd rfl lastNumeral.2.2
  · rfl

/-- **A value is read as what was written.** -/
theorem reads_value {written : FieldValue} {text : List Char}
    (isText : valueText? written = some text) :
    ∃ read, ReadValue.of? written = some read ∧
      value.Reads (StopsAt nameDelimiters) text read := by
  have suffixed {digits : List Char} {suffix : Char} (numerals : ∀ c ∈ digits, IsNumeral c)
      (inert : IsInert suffix) : ∀ c ∈ digits ++ [suffix], IsInert c := by
    intro c member
    rcases List.mem_append.mp member with digit | last
    · exact (numerals c digit).inert.1
    · rw [List.mem_singleton.mp last]
      exact inert
  cases written with
  | integer i =>
    cases isText
    refine ⟨.integer i, rfl, reads_number ?_ ?_⟩
    · rw [ofInt_toList]
      exact suffixed (fun c member => numeral_of_mem_integerText member) (by unfold IsInert; decide)
    · rw [ofInt_toList, readNumber?, List.getLast?_concat, List.dropLast_concat]
      show (readInteger? _).map _ = _
      rw [readInteger?_integerText]
      rfl
  | natural n =>
    cases isText
    refine ⟨.natural n, rfl, reads_number ?_ ?_⟩
    · exact suffixed (fun c member => .inl (Decimal.digit_of_mem_digits member))
        (by unfold IsInert; decide)
    · rw [readNumber?, List.getLast?_concat, List.dropLast_concat]
      show (Decimal.value? _).map _ = _
      rw [Decimal.value?_digits]
      rfl
  | real pattern =>
    rw [valueText?] at isText
    obtain ⟨finite, same⟩ := Option.ite_none_right_eq_some.mp isText
    cases same
    obtain ⟨nonempty, numerals⟩ := numerals_of_finite finite
    refine ⟨.real (positionalText pattern.toNat), if_pos finite, reads_number ?_ ?_⟩
    · exact fun c member => (numerals c member).inert.1
    · rw [readNumber?_real nonempty numerals, String.ofList_toList]
  | text s =>
    cases isText
    refine ⟨.text s, rfl, fun rest _ => ?_⟩
    show (readQuoted (escape quotedSpecial s.toList ++ ['"'] ++ rest)).map _ = _
    rw [List.append_assoc, List.singleton_append, readQuoted_escape]
    show some (ReadValue.text (String.ofList s.toList), rest) = _
    rw [String.ofList_toList]

end LapTelemetry.Point.LineProtocol

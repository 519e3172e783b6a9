import Mathlib.Data.List.Basic
import LapTelemetry.Point.LineProtocol

/-! # Reading lines

The rules of line protocol as a reader, which knows nothing of how lines are written.
A name goes up to the first delimiter that stands there by itself, and a backslash
escapes a delimiter behind it; a comma and a space end every name, an equals sign ends a
key or a tag and is a character like others in a measurement. A value that starts with a
double quote goes up to the closing quote, and a backslash in it escapes a quote, a
backslash or, as an `n`, a newline. Any other value is a number: an integer if it ends in
`i`, a natural number if it ends in `u`, and otherwise a real number, whose text is kept
as it is. In a name a double quote is a character like others.

`FrontReader.Reads` says what a reader finds at the front of a text, and what has to
stand behind it. Readers are put together from readers, and so are these facts. -/

namespace LapTelemetry.Point.LineProtocol

open LapTelemetry.Number LapTelemetry.Text

set_option autoImplicit false

/-! ## Readers -/

/-- A reader of the front of a text, with the rest of the text. There is never more left
than there was. -/
structure FrontReader (α : Type) where
  read : List Char → Option (α × List Char)
  shrinks : ∀ {text value rest}, read text = some (value, rest) → rest.length ≤ text.length

namespace FrontReader

variable {α β : Type}

/-- One reader behind the other. -/
def both (first : FrontReader α) (second : FrontReader β) : FrontReader (α × β) where
  read text := do
    let (value, later) ← first.read text
    let (other, rest) ← second.read later
    return ((value, other), rest)
  shrinks := by
    intro text value rest read
    obtain ⟨⟨one, later⟩, readFirst, read⟩ := Option.bind_eq_some_iff.mp read
    obtain ⟨⟨other, _⟩, readSecond, returned⟩ := Option.bind_eq_some_iff.mp read
    cases returned
    exact Nat.le_trans (second.shrinks readSecond) (first.shrinks readFirst)

/-- What a reader found, seen in another way. -/
def map (f : α → β) (reader : FrontReader α) : FrontReader β where
  read text := (reader.read text).map (Prod.map f id)
  shrinks := by
    intro text value rest read
    obtain ⟨⟨one, _⟩, found, returned⟩ := Option.map_eq_some_iff.mp read
    cases returned
    exact reader.shrinks found

/-- A single given character. -/
def mark (c : Char) : FrontReader Unit where
  read
    | [] => none
    | found :: rest => if found = c then some ((), rest) else none
  shrinks := by
    intro text value rest read
    cases text with
    | nil => cases read
    | cons found tail =>
      obtain ⟨-, returned⟩ := Option.ite_none_right_eq_some.mp read
      cases returned
      exact Nat.le_succ _

/-- A character and something behind it. -/
def behind (c : Char) (reader : FrontReader α) : FrontReader α := (both (mark c) reader).map (·.2)

/-- Something and a character behind it. -/
def before (reader : FrontReader α) (c : Char) : FrontReader α := (both reader (mark c)).map (·.1)

/-- Items that stand behind a comma each, as many as there are. -/
def readItems (item : FrontReader α) : List Char → Option (List α × List Char)
  | ',' :: text =>
    match found : item.read text with
    | none => none
    | some (first, rest) =>
      have := item.shrinks found
      (readItems item rest).map (Prod.map (first :: ·) id)
  | text => some ([], text)
termination_by text => text.length

theorem readItems_comma (item : FrontReader α) (text : List Char) :
    readItems item (',' :: text) = (item.read text).bind fun first =>
      (readItems item first.2).map (Prod.map (first.1 :: ·) id) := by
  rw [readItems]
  split
  · rename_i nothing
    rw [nothing]
    rfl
  · rename_i found
    simp only [found, Option.bind_some]

theorem readItems_end (item : FrontReader α) {text : List Char} (noComma : text.head? ≠ some ',') :
    readItems item text = some ([], text) := by
  rw [readItems.eq_def]
  split
  · exact absurd rfl noComma
  · rfl

theorem readItems_shrinks (item : FrontReader α) {text rest : List Char} {values : List α}
    (read : readItems item text = some (values, rest)) : rest.length ≤ text.length := by
  induction total : text.length using Nat.strongRecOn generalizing text values with
  | _ count ih =>
    by_cases comma : text.head? = some ','
    · obtain ⟨text, rfl⟩ := List.head?_eq_some_iff.mp comma
      rw [readItems_comma] at read
      obtain ⟨⟨first, later⟩, found, read⟩ := Option.bind_eq_some_iff.mp read
      obtain ⟨⟨others, behind⟩, readOthers, returned⟩ := Option.map_eq_some_iff.mp read
      cases returned
      have fewer := item.shrinks found
      simp only [List.length_cons] at total
      have fewest : behind.length ≤ later.length := ih later.length (by omega) readOthers rfl
      show behind.length ≤ count
      omega
    · rw [readItems_end item comma] at read
      cases read
      exact Nat.le_of_eq total

def items (item : FrontReader α) : FrontReader (List α) := ⟨readItems item, readItems_shrinks item⟩

/-! ## What readers find -/

/-- In front of a rest that meets a condition, a reader takes the whole of a text and finds
a value in it. -/
def Reads (reader : FrontReader α) (meets : List Char → Prop) (text : List Char) (value : α) :
    Prop :=
  ∀ rest, meets rest → reader.read (text ++ rest) = some (value, rest)

namespace Reads

variable {first : FrontReader α} {second : FrontReader β} {meets meetsLater : List Char → Prop}
  {text later : List Char} {one : α} {other : β}

theorem both (reads : first.Reads meets text one) (readsLater : second.Reads meetsLater later other)
    (apart : ∀ rest, meetsLater rest → meets (later ++ rest)) :
    (first.both second).Reads meetsLater (text ++ later) (one, other) := by
  intro rest met
  show (first.read (text ++ later ++ rest)).bind _ = _
  rw [List.append_assoc, reads _ (apart rest met), Option.bind_some]
  show (second.read (later ++ rest)).bind _ = _
  rw [readsLater rest met]
  rfl

theorem imp (reads : first.Reads meets text one) {stronger : List Char → Prop}
    (imp : ∀ rest, stronger rest → meets rest) : first.Reads stronger text one :=
  fun rest met => reads rest (imp rest met)

theorem map (reads : first.Reads meets text one) (f : α → β) :
    (first.map f).Reads meets text (f one) := by
  intro rest met
  show (first.read (text ++ rest)).map _ = _
  rw [reads rest met]
  rfl

theorem mark (c : Char) (meets : List Char → Prop) : (FrontReader.mark c).Reads meets [c] () := by
  intro rest _
  exact if_pos rfl

theorem behind (reads : first.Reads meets text one) (c : Char) :
    (first.behind c).Reads meets (c :: text) one :=
  ((mark c fun _ => True).both reads fun _ _ => trivial).map (·.2)

theorem before (reads : first.Reads meets text one) (c : Char)
    (apart : ∀ rest, meets (c :: rest)) (meetsLater : List Char → Prop) :
    (first.before c).Reads meetsLater (text ++ [c]) one :=
  (reads.both (mark c meetsLater) fun rest _ => apart rest).map (·.1)

/-- Behind an item stands the comma of the next one, or the rest. -/
theorem meets_row (apart : ∀ rest, meets (',' :: rest)) (listed : List (List Char × α))
    {rest : List Char} (met : meets rest) :
    meets ((listed.flatMap fun entry => ',' :: entry.1) ++ rest) := by
  cases listed with
  | nil => exact met
  | cons next listed => exact apart _

/-- Items in a row, each behind a comma; none of them is behind the last. -/
theorem items {listed : List (List Char × α)} (each : ∀ entry ∈ listed,
      first.Reads meets entry.1 entry.2) (apart : ∀ rest, meets (',' :: rest)) :
    first.items.Reads (fun rest => meets rest ∧ rest.head? ≠ some ',')
      (listed.flatMap fun entry => ',' :: entry.1) (listed.map (·.2)) := by
  rintro rest ⟨met, noComma⟩
  show readItems first _ = _
  induction listed with
  | nil => exact readItems_end first noComma
  | cons entry listed ih =>
    obtain ⟨head, others⟩ := List.forall_mem_cons.mp each
    rw [List.flatMap_cons, List.cons_append, List.cons_append, List.append_assoc, readItems_comma,
      head _ (meets_row apart listed met), Option.bind_some, ih others]
    rfl

end Reads

/-! ## What readers find only in good texts -/

/-- In front of a rest that meets a condition, a reader takes the whole of a good text and finds a
value in it, and only in a good text does it find this value, wherever it stops. -/
structure ReadsIff (reader : FrontReader α) (meets : List Char → Prop) (good : Prop)
    (text : List Char) (value : α) : Prop where
  reads : good → reader.Reads meets text value
  good_of_read : ∀ {rest after}, meets rest → reader.read (text ++ rest) = some (value, after) → good

namespace ReadsIff

variable {first : FrontReader α} {second : FrontReader β} {meets meetsLater : List Char → Prop}
  {text later : List Char} {one : α} {other : β} {good goodLater : Prop}

theorem of_reads (reads : first.Reads meets text one) : first.ReadsIff meets True text one :=
  ⟨fun _ => reads, fun _ _ => trivial⟩

theorem imp (readsIff : first.ReadsIff meets good text one) {stronger : List Char → Prop}
    (imp : ∀ rest, stronger rest → meets rest) : first.ReadsIff stronger good text one :=
  ⟨fun isGood => (readsIff.reads isGood).imp imp,
    fun met read => readsIff.good_of_read (imp _ met) read⟩

theorem congr (readsIff : first.ReadsIff meets good text one) (same : good ↔ goodLater) :
    first.ReadsIff meets goodLater text one :=
  ⟨fun isGood => readsIff.reads (same.mpr isGood),
    fun met read => same.mp (readsIff.good_of_read met read)⟩

theorem both (readsIff : first.ReadsIff meets good text one)
    (readsIffLater : second.ReadsIff meetsLater goodLater later other)
    (apart : ∀ rest, meetsLater rest → meets (later ++ rest)) :
    (first.both second).ReadsIff meetsLater (good ∧ goodLater) (text ++ later) (one, other) := by
  refine ⟨fun isGood => (readsIff.reads isGood.1).both (readsIffLater.reads isGood.2) apart, ?_⟩
  intro rest after met read
  obtain ⟨⟨found, between⟩, readFirst, read⟩ := Option.bind_eq_some_iff.mp read
  obtain ⟨⟨foundLater, _⟩, readSecond, returned⟩ := Option.bind_eq_some_iff.mp read
  cases returned
  rw [List.append_assoc] at readFirst
  have isGood := readsIff.good_of_read (apart rest met) readFirst
  -- A good text is taken whole, so the second reader starts where its text does.
  rw [readsIff.reads isGood _ (apart rest met)] at readFirst
  cases readFirst
  exact ⟨isGood, readsIffLater.good_of_read met readSecond⟩

theorem map (readsIff : first.ReadsIff meets good text one) {f : α → β}
    (injective : Function.Injective f) : (first.map f).ReadsIff meets good text (f one) := by
  refine ⟨fun isGood => (readsIff.reads isGood).map f, ?_⟩
  intro rest after met read
  obtain ⟨⟨found, _⟩, readFirst, returned⟩ := Option.map_eq_some_iff.mp read
  obtain ⟨same, -⟩ := Prod.mk.inj returned
  rw [injective same] at readFirst
  exact readsIff.good_of_read met readFirst

theorem behind (readsIff : first.ReadsIff meets good text one) (c : Char) :
    (first.behind c).ReadsIff meets good (c :: text) one := by
  have marked := (of_reads (Reads.mark c fun _ => True)).both readsIff fun _ _ => trivial
  exact (marked.map (f := Prod.snd) fun _ _ same => Prod.ext rfl same).congr (.of_eq (true_and _))

theorem before (readsIff : first.ReadsIff meets good text one) (c : Char)
    (apart : ∀ rest, meets (c :: rest)) (meetsLater : List Char → Prop) :
    (first.before c).ReadsIff meetsLater good (text ++ [c]) one := by
  have marked := readsIff.both (of_reads (Reads.mark c meetsLater)) fun rest _ => apart rest
  exact (marked.map (f := Prod.fst) fun _ _ same => Prod.ext same rfl).congr (.of_eq (and_true _))

/-- Items in a row are all found only if each of them is good. -/
theorem items {listed : List (List Char × α)} {goodItem : List Char × α → Prop}
    (each : ∀ entry ∈ listed, first.ReadsIff meets (goodItem entry) entry.1 entry.2)
    (apart : ∀ rest, meets (',' :: rest)) :
    first.items.ReadsIff (fun rest => meets rest ∧ rest.head? ≠ some ',')
      (∀ entry ∈ listed, goodItem entry)
      (listed.flatMap fun entry => ',' :: entry.1) (listed.map (·.2)) := by
  refine ⟨fun isGood => .items (fun entry member => (each entry member).reads (isGood entry member))
    apart, ?_⟩
  rintro rest after ⟨met, noComma⟩ read
  change readItems first _ = _ at read
  induction listed with
  | nil => simp
  | cons entry listed ih =>
    obtain ⟨head, others⟩ := List.forall_mem_cons.mp each
    have met' := Reads.meets_row apart listed met
    rw [List.flatMap_cons, List.cons_append, List.cons_append, List.append_assoc,
      readItems_comma] at read
    obtain ⟨⟨found, later⟩, readFirst, read⟩ := Option.bind_eq_some_iff.mp read
    obtain ⟨⟨values, _⟩, readOthers, returned⟩ := Option.map_eq_some_iff.mp read
    cases returned
    have isGood := head.good_of_read met' readFirst
    rw [head.reads isGood _ met'] at readFirst
    cases readFirst
    exact List.forall_mem_cons.mpr ⟨isGood, ih others readOthers⟩

end ReadsIff

end FrontReader

/-! ## Names -/

/-- The characters that end a measurement. -/
def measurementDelimiters : List Char := [',', ' ']

/-- The characters that end keys, tags and numbers. -/
def nameDelimiters : List Char := [',', '=', ' ']

/-- The characters up to the first delimiter that no backslash stands in front of. A
backslash in front of anything else is a character of its own. -/
def readName (delimiters : List Char) : List Char → List Char × List Char
  | [] => ([], [])
  | '\\' :: c :: rest =>
    if c ∈ delimiters then Prod.map (c :: ·) id (readName delimiters rest)
    else Prod.map ('\\' :: ·) id (readName delimiters (c :: rest))
  | c :: rest =>
    if c ∈ delimiters then ([], c :: rest)
    else Prod.map (c :: ·) id (readName delimiters rest)

theorem readName_shrinks (delimiters text : List Char) :
    (readName delimiters text).2.length ≤ text.length := by
  fun_induction readName delimiters text with
  | case1 => exact Nat.le_refl _
  | case2 c rest delimiter ih => exact Nat.le_trans ih (by simp only [List.length_cons]; omega)
  | case3 c rest other ih => exact Nat.le_trans ih (Nat.le_succ _)
  | case4 c rest _ delimiter => exact Nat.le_refl _
  | case5 c rest _ other ih => exact Nat.le_trans ih (Nat.le_succ _)

def name (delimiters : List Char) : FrontReader String where
  read text := some (Prod.map String.ofList id (readName delimiters text))
  shrinks := by
    intro text value rest read
    cases read
    exact readName_shrinks delimiters text

/-! ## Values -/

/-- The value of a field as it is read; the text of a real number is kept as it is. -/
inductive ReadValue where
  | integer (i : Int)
  | natural (n : Nat)
  | real (text : String)
  | text (s : String)
  deriving DecidableEq, Repr

/-- The inside of a quoted text up to its closing quote. -/
def readQuoted : List Char → Option (List Char × List Char)
  | [] => none
  | '"' :: rest => some ([], rest)
  | '\\' :: '"' :: rest => (readQuoted rest).map (Prod.map ('"' :: ·) id)
  | '\\' :: '\\' :: rest => (readQuoted rest).map (Prod.map ('\\' :: ·) id)
  | '\\' :: 'n' :: rest => (readQuoted rest).map (Prod.map ('\n' :: ·) id)
  | c :: rest => (readQuoted rest).map (Prod.map (c :: ·) id)

/-- Decimal digits, with a minus sign in front of them or not. -/
def readInteger? : List Char → Option Int
  | '-' :: digits => (Decimal.value? digits).map fun n => -(n : Int)
  | digits => (Decimal.value? digits).map fun n => (n : Int)

/-- A number by its last character. -/
def readNumber? (text : List Char) : Option ReadValue :=
  match text.getLast? with
  | none => none
  | some 'i' => (readInteger? text.dropLast).map .integer
  | some 'u' => (Decimal.value? text.dropLast).map .natural
  | some _ => some (.real (String.ofList text))

/-- The value of a field. -/
def readValue : List Char → Option (ReadValue × List Char)
  | '"' :: rest => (readQuoted rest).map (Prod.map (fun s => .text (String.ofList s)) id)
  | text =>
    let (number, rest) := readName nameDelimiters text
    (readNumber? number).map fun value => (value, rest)

theorem readQuoted_shrinks {text value rest : List Char}
    (read : readQuoted text = some (value, rest)) : rest.length ≤ text.length := by
  fun_induction readQuoted text generalizing value with
  | case1 => cases read
  | case2 tail =>
    cases read
    exact Nat.le_succ _
  | case3 tail ih | case4 tail ih | case5 tail ih | case6 _ tail _ _ _ _ ih =>
    obtain ⟨⟨inner, _⟩, found, returned⟩ := Option.map_eq_some_iff.mp read
    cases returned
    exact Nat.le_trans (ih found) (by simp only [List.length_cons]; omega)

theorem readValue_shrinks {text rest : List Char} {value : ReadValue}
    (read : readValue text = some (value, rest)) : rest.length ≤ text.length := by
  rw [readValue.eq_def] at read
  split at read
  · obtain ⟨⟨inner, _⟩, found, returned⟩ := Option.map_eq_some_iff.mp read
    cases returned
    exact Nat.le_trans (readQuoted_shrinks found) (Nat.le_succ _)
  · obtain ⟨number, _, returned⟩ := Option.map_eq_some_iff.mp read
    cases returned
    exact readName_shrinks nameDelimiters text

def value : FrontReader ReadValue := ⟨readValue, readValue_shrinks⟩

/-! ## Lines -/

def tag : FrontReader (String × String) :=
  ((name nameDelimiters).before '=').both (name nameDelimiters)

def field : FrontReader (String × ReadValue) := ((name nameDelimiters).before '=').both value

/-- What a line says. -/
structure Content where
  measurement : String
  tags : List (String × String)
  fields : List (String × ReadValue)
  timestamp : Int
  deriving DecidableEq, Repr

/-- The measurement and the tags. -/
def series : FrontReader (String × List (String × String)) :=
  (name measurementDelimiters).both tag.items

/-- The fields, of which there is at least one. -/
def fieldSet : FrontReader ((String × ReadValue) × List (String × ReadValue)) :=
  field.both field.items

/-- What a whole line says, if it is a line. -/
def readLine? (line : String) : Option Content := do
  let (((measurement, tags), first, others), rest) ←
    (series.both ((fieldSet.behind ' ').before ' ')).read line.toList
  let timestamp ← readInteger? rest
  return ⟨measurement, tags, first :: others, timestamp⟩

end LapTelemetry.Point.LineProtocol

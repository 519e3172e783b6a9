import LapTelemetry.Proofs.Outcome
import LapTelemetry.Proofs.Spec.Compilation
import LapTelemetry.Proofs.Spec.SnakeCase

/-! # The names of inline types

An inline struct has a type name that is made of the name of its member: camel case of what the
member is called in records. Camel case drops the underscores of a name, and two names may
come out the same. Here are names that do not (`IsJoined`): words with one underscore between
each and the next, each of two small letters at least and digits behind them. A capital that
starts a word of camel case then has a small letter or a digit in front of it, where snake case
puts the underscore back, so the name can be read off its camel case (`snake_camel`).

So members of such names have types of different names, and none of them is called like a
primitive, which starts with a small letter. For the compiler this means that the members of a
union do not stand in each other's way: the name of an inline type is as free behind other
members as it is in front of them (`inlineName_free`). -/

namespace LapTelemetry.Spec

open LapTelemetry.Text LapTelemetry.Wire

set_option autoImplicit false

namespace FieldName

/-! ## Words -/

/-- A word of a name: small letters, two at least, and digits behind them. -/
def IsWord (word : List Char) : Prop :=
  ∃ letters digits, word = letters ++ digits ∧ 2 ≤ letters.length ∧
    (∀ c ∈ letters, c.isLower = true) ∧ ∀ c ∈ digits, c.isDigit = true

/-- A name of one or more words, with an underscore between each and the next. -/
def IsJoined (name : List Char) : Prop :=
  ∃ words, words ≠ [] ∧ (∀ word ∈ words, IsWord word) ∧ name = ['_'].intercalate words

/-- A word with a capital at its start. -/
def capitalize : List Char → List Char
  | [] => []
  | c :: rest => c.toUpper :: rest

/-- What a capital has to stand behind to start a word for snake case. -/
def EndsWord (c : Char) : Prop := c.isLower = true ∨ c.isDigit = true

variable {c previous : Char} {word letters digits rest : List Char} {words : List (List Char)}

theorem EndsWord.isUpper (ends : EndsWord c) : c.isUpper = false := by
  rcases ends with lower | digit
  · exact isUpper_of_isLower lower
  · exact (Bool.or_eq_false_iff.mp (isAlpha_of_isDigit digit)).1

theorem EndsWord.startsWord (ends : EndsWord previous) (next? : Option Char) :
    startsWord previous next? = true := by
  rcases ends with lower | digit
  · simp [FieldName.startsWord, lower]
  · simp [FieldName.startsWord, digit]

/-- A word starts with a small letter, and something follows it that ends words. -/
theorem IsWord.exists_cons (isWord : IsWord word) :
    ∃ first rest, word = first :: rest ∧ first.isLower = true ∧ rest ≠ [] ∧
      ∀ c ∈ rest, EndsWord c := by
  obtain ⟨letters, digits, rfl, two, small, isDigit⟩ := isWord
  match letters, two with
  | first :: second :: letters, _ =>
    obtain ⟨lower, others⟩ := List.forall_mem_cons.mp small
    refine ⟨first, second :: letters ++ digits, rfl, lower, List.cons_ne_nil _ _, ?_⟩
    exact fun c member => (List.mem_append.mp member).imp (others c) (isDigit c)

theorem intercalate_cons (word : List Char) (words : List (List Char)) :
    ['_'].intercalate (word :: words) = word ++ words.flatMap ('_' :: ·) := by
  induction words generalizing word with
  | nil => simp
  | cons next words ih =>
    rw [List.intercalate_cons_cons, ih, List.flatMap_cons]
    simp

/-! ## Camel case of words -/

theorem camelFrom_letter (lower : c.isLower = true) (afterLetter : Bool) (rest : List Char) :
    camelFrom afterLetter (c :: rest) =
      (if afterLetter then c else c.toUpper) :: camelFrom true rest := by
  have letter : c ≠ '_' := by
    rintro rfl
    cases lower
  have small : c.toLower = c := toLower_eq_self (isUpper_of_isLower lower)
  rw [camelFrom, if_neg letter, small, isAlpha_of_isLower lower]

theorem camelFrom_letters (small : ∀ c ∈ letters, c.isLower = true) (rest : List Char) :
    camelFrom true (letters ++ rest) = letters ++ camelFrom true rest := by
  induction letters with
  | nil => rfl
  | cons c letters ih =>
    obtain ⟨lower, others⟩ := List.forall_mem_cons.mp small
    rw [List.cons_append, camelFrom_letter lower, ih others]
    rfl

/-- At the end of a word it does not matter whether a letter came last. -/
theorem camelFrom_boundary (ends : ∀ c ∈ rest.head?, c = '_') (afterLetter : Bool) :
    camelFrom afterLetter rest = camelFrom false rest := by
  cases rest with
  | nil => rfl
  | cons c rest =>
    obtain rfl := ends c rfl
    rfl

theorem camelFrom_digits (isDigit : ∀ c ∈ digits, c.isDigit = true)
    (ends : ∀ c ∈ rest.head?, c = '_') (afterLetter : Bool) :
    camelFrom afterLetter (digits ++ rest) = digits ++ camelFrom false rest := by
  induction digits generalizing afterLetter with
  | nil => exact camelFrom_boundary ends afterLetter
  | cons c digits ih =>
    obtain ⟨digit, others⟩ := List.forall_mem_cons.mp isDigit
    have noLetter := isAlpha_of_isDigit digit
    obtain ⟨noCapital, noSmall⟩ := Bool.or_eq_false_iff.mp noLetter
    have mark : c ≠ '_' := by
      rintro rfl
      cases digit
    have same : (if afterLetter then c.toLower else c.toUpper) = c := by
      rw [toLower_eq_self noCapital, toUpper_eq_self noSmall, ite_self]
    rw [List.cons_append, camelFrom, if_neg mark, same, noLetter, ih others]
    rfl

theorem camelFrom_word (isWord : IsWord word) (ends : ∀ c ∈ rest.head?, c = '_') :
    camelFrom false (word ++ rest) = capitalize word ++ camelFrom false rest := by
  obtain ⟨letters, digits, rfl, two, small, isDigit⟩ := isWord
  match letters, two with
  | first :: letters, _ =>
    obtain ⟨lower, others⟩ := List.forall_mem_cons.mp small
    rw [List.append_assoc, List.cons_append, camelFrom_letter lower, camelFrom_letters others,
      camelFrom_digits isDigit ends]
    simp [capitalize]

theorem camelFrom_words (areWords : ∀ word ∈ words, IsWord word) :
    camelFrom false (words.flatMap ('_' :: ·)) = words.flatMap capitalize := by
  induction words with
  | nil => rfl
  | cons word words ih =>
    obtain ⟨isWord, others⟩ := List.forall_mem_cons.mp areWords
    have ends : ∀ c ∈ (words.flatMap ('_' :: ·)).head?, c = '_' := by
      cases words <;> simp
    rw [List.flatMap_cons, List.flatMap_cons, ← ih others, ← camelFrom_word isWord ends]
    rfl

theorem camel_intercalate (areWords : ∀ word ∈ words, IsWord word) :
    camel (['_'].intercalate words) = words.flatMap capitalize := by
  cases words with
  | nil => rfl
  | cons word words =>
    obtain ⟨isWord, others⟩ := List.forall_mem_cons.mp areWords
    have ends : ∀ c ∈ (words.flatMap ('_' :: ·)).head?, c = '_' := by
      cases words <;> simp
    rw [intercalate_cons, camel, camelFrom_word isWord ends, camelFrom_words others,
      List.flatMap_cons]

/-! ## And back -/

/-- Snake case of a word with a capital is the word, up to what is put in front of the capital. -/
theorem snakeAfter_capitalize (isWord : IsWord word) :
    ∃ first more last, capitalize word = first :: more ∧ first.isUpper = true ∧ EndsWord last ∧
      ∀ rest, first.toLower :: snakeAfter first (more ++ rest) = word ++ snakeAfter last rest := by
  obtain ⟨c, more, rfl, lower, nonempty, ends⟩ := isWord.exists_cons
  obtain ⟨others, last, rfl⟩ := (List.eq_nil_or_concat more).resolve_left nonempty
  refine ⟨c.toUpper, others ++ [last], last, by simp [capitalize], ?_, ends last (by simp),
    fun rest => ?_⟩
  · exact isUpper_toUpper lower
  · rw [List.concat_eq_append] at ends ⊢
    rw [snakeAfter_append_of_small fun c member => (ends c member).isUpper]
    simp [toLower_toUpper lower]

theorem snakeAfter_words (areWords : ∀ word ∈ words, IsWord word) (ends : EndsWord previous) :
    snakeAfter previous (words.flatMap capitalize) = words.flatMap ('_' :: ·) := by
  induction words generalizing previous with
  | nil => rfl
  | cons word words ih =>
    obtain ⟨isWord, others⟩ := List.forall_mem_cons.mp areWords
    obtain ⟨first, more, last, starts, upper, endsLast, back⟩ := snakeAfter_capitalize isWord
    rw [List.flatMap_cons, starts, List.cons_append, snakeAfter_word upper (ends.startsWord _),
      back, ih others endsLast]
    rfl

/-- **A name of words can be read off its camel case.** -/
theorem snake_camel {name : List Char} (joined : IsJoined name) : snake (camel name) = name := by
  obtain ⟨words, nonempty, areWords, rfl⟩ := joined
  rw [camel_intercalate areWords]
  obtain ⟨word, words, rfl⟩ := List.exists_cons_of_ne_nil nonempty
  obtain ⟨isWord, others⟩ := List.forall_mem_cons.mp areWords
  obtain ⟨first, more, last, starts, -, ends, back⟩ := snakeAfter_capitalize isWord
  rw [List.flatMap_cons, starts, List.cons_append, snake, back, snakeAfter_words others ends,
    intercalate_cons]

theorem camel_starts_upper {name : List Char} (joined : IsJoined name) :
    ∃ first rest, camel name = first :: rest ∧ first.isUpper = true := by
  obtain ⟨words, nonempty, areWords, rfl⟩ := joined
  obtain ⟨word, words, rfl⟩ := List.exists_cons_of_ne_nil nonempty
  have isWord := areWords word List.mem_cons_self
  obtain ⟨first, more, -, starts, upper, -⟩ := snakeAfter_capitalize isWord
  refine ⟨first, more ++ words.flatMap capitalize, ?_, upper⟩
  rw [camel_intercalate areWords, List.flatMap_cons, starts]
  rfl

end FieldName

/-! ## Inline types -/

/-- Primitives have names that start with a small letter. -/
theorem named?_of_isUpper {first : Char} {rest : List Char} (upper : first.isUpper = true) :
    Primitive.named? (String.ofList (first :: rest)) = none := by
  cases found : Primitive.named? (String.ofList (first :: rest)) with
  | none => rfl
  | some primitive =>
    have spelling := congrArg String.toList (Primitive.spelling_of_named? found)
    rw [String.toList_ofList] at spelling
    have small : primitive.spelling.toList.head?.any Char.isUpper = false := by
      cases primitive <;> rfl
    rw [spelling] at small
    exact absurd (upper.symm.trans small) Bool.noConfusion

/-- The names of the inline structs among members. -/
def inlineMembers (members : List Member) : List String :=
  members.filterMap fun
    | .field _ => none
    | .inline _ name _ => some name

variable {unionName : String} {members : List Member} {state result : Registry × Body}

/-- A member of a union adds the type of an inline struct, or none. -/
theorem names_compileMember {member : Member}
    (compiled : compileMember unionName state member = .ok result) :
    result.1.layouts.map Layout.name =
      state.1.layouts.map Layout.name ++ (inlineMembers [member]).map inlineName := by
  obtain ⟨registry, body⟩ := state
  cases member with
  | field decl =>
    obtain ⟨extended, -, done⟩ := bind_eq_ok.mp compiled
    cases done
    exact (List.append_nil _).symm
  | inline index memberName decl =>
    obtain ⟨-, layout, structCompiled, extended, -, rfl⟩ :=
      compileMember_inline_eq_ok_iff.mp compiled
    have named := ((follows_compileStruct registry [⟨unionName, .union, []⟩] (inlineName memberName)
      decl).sound layout structCompiled).2.2
    simp [Registry.add, inlineMembers, named]

theorem names_compileMembers
    (compiled : members.foldlM (compileMember unionName) state = .ok result) :
    result.1.layouts.map Layout.name =
      state.1.layouts.map Layout.name ++ (inlineMembers members).map inlineName := by
  induction members generalizing state with
  | nil =>
    cases compiled
    exact (List.append_nil _).symm
  | cons member members ih =>
    rw [List.foldlM_cons] at compiled
    obtain ⟨between, first, others⟩ := bind_eq_ok.mp compiled
    have split : inlineMembers (member :: members) =
        inlineMembers [member] ++ inlineMembers members :=
      List.filterMap_append (l := [member])
    rw [ih others, names_compileMember first, List.append_assoc, split, List.map_append]

/-- A type name that none of the members takes is as free behind them as in front of them. -/
theorem checkTypeName_behind_members {name : String} (line : Nat)
    (compiled : members.foldlM (compileMember unionName) state = .ok result)
    (notPrimitive : Primitive.named? name = none)
    (apart : ∀ other ∈ inlineMembers members, inlineName other ≠ name) :
    checkTypeName result.1 [unionName] name line = .ok () ↔
      (∀ layout ∈ state.1.layouts, layout.name ≠ name) ∧ unionName ≠ name := by
  have free : (∀ taken ∈ result.1.layouts.map Layout.name, taken ≠ name) ↔
      ∀ taken ∈ state.1.layouts.map Layout.name, taken ≠ name := by
    rw [names_compileMembers compiled, List.forall_mem_append]
    exact and_iff_left (List.forall_mem_map.mpr apart)
  rw [List.forall_mem_map, List.forall_mem_map] at free
  have enclosing : [unionName] = ([⟨unionName, .union, []⟩] : List OpenBody).map (·.name) := rfl
  rw [enclosing, checkTypeName_eq_ok_iff, ← free]
  exact ⟨fun admits => ⟨admits.not_completed, admits.not_open _ List.mem_cons_self⟩,
    fun ⟨notTaken, notOpen⟩ => ⟨notPrimitive, notTaken, by simpa using notOpen⟩⟩

open FieldName in
/-- **A name of words keeps its type apart from others.** It can be read off its camel case, so
members of other such names have types of other names; no primitive has such a name; and when the
members of a union have such names, the name of an inline type is refused only if it was taken
before its union, or is the name of the union. -/
theorem inlineName_free {name : String} (joined : IsJoined name.toList) :
    onText snake (onText camel name) = name ∧
      Primitive.named? (onText camel name) = none ∧
      (∀ other : String, IsJoined other.toList → other ≠ name →
        onText camel other ≠ onText camel name) ∧
      ∀ member unionName members state result line, fieldName member = name →
        members.foldlM (compileMember unionName) state = .ok result →
        (∀ other ∈ inlineMembers members,
          IsJoined (fieldName other).toList ∧ fieldName other ≠ fieldName member) →
        (checkTypeName result.1 [unionName] (inlineName member) line = .ok () ↔
          (∀ layout ∈ state.1.layouts, layout.name ≠ inlineName member) ∧
            unionName ≠ inlineName member) := by
  have back {name : String} (joined : IsJoined name.toList) :
      onText snake (onText camel name) = name := by
    rw [onText, onText, String.toList_ofList, snake_camel joined, String.ofList_toList]
  have apart {other : String} (otherJoined : IsJoined other.toList) (different : other ≠ name) :
      onText camel other ≠ onText camel name := by
    intro same
    have read := congrArg (onText snake) same
    rw [back otherJoined, back joined] at read
    exact different read
  have notPrimitive : Primitive.named? (onText camel name) = none := by
    obtain ⟨first, rest, starts, upper⟩ := camel_starts_upper joined
    rw [onText, starts]
    exact named?_of_isUpper upper
  refine ⟨back joined, notPrimitive, fun other => apart, ?_⟩
  rintro member unionName members state result line rfl compiled others
  exact checkTypeName_behind_members line compiled notPrimitive fun other among =>
    apart (others other among).1 (others other among).2

open FieldName in
/-- Two wheels of a car, the second with a number: their types are told apart, and the second is
not refused behind the first. -/
theorem inlineName_free_wheels :
    IsJoined "rear_left2".toList ∧ fieldName "m_rearLeft2" = "rear_left2" ∧
      inlineName "m_rearLeft2" = "RearLeft2" ∧ onText snake "RearLeft2" = "rear_left2" ∧
      Primitive.named? "RearLeft2" = none ∧ inlineName "m_frontLeft" ≠ "RearLeft2" ∧
      ∃ result, [Member.inline 2 "m_frontLeft" ⟨2, 1, []⟩].foldlM (compileMember "Wheels")
          (⟨[]⟩, .empty) = .ok result ∧
        checkTypeName result.1 ["Wheels"] "RearLeft2" 1 = .ok () := by
  have lettersOnly (word : List Char) (two : 2 ≤ word.length)
      (small : ∀ c ∈ word, c.isLower = true) : IsWord word :=
    ⟨word, [], (List.append_nil word).symm, two, small, by simp⟩
  have rear := lettersOnly ['r', 'e', 'a', 'r'] (by simp) (by simp)
  have front := lettersOnly ['f', 'r', 'o', 'n', 't'] (by simp) (by simp)
  have left := lettersOnly ['l', 'e', 'f', 't'] (by simp) (by simp)
  have left2 : IsWord ['l', 'e', 'f', 't', '2'] :=
    ⟨['l', 'e', 'f', 't'], ['2'], rfl, by simp, by simp, by simp⟩
  have rearLeft : IsJoined "rear_left2".toList :=
    ⟨[_, _], by simp, by simpa using ⟨rear, left2⟩, rfl⟩
  have frontLeft : IsJoined "front_left".toList :=
    ⟨[_, _], by simp, by simpa using ⟨front, left⟩, rfl⟩
  have name : fieldName "m_rearLeft2" = "rear_left2" := by decide
  have otherName : fieldName "m_frontLeft" = "front_left" := by decide
  have typeName : onText camel "rear_left2" = "RearLeft2" := by decide
  have otherTypeName : onText camel "front_left" = inlineName "m_frontLeft" := by decide
  have compiled : ∃ result, [Member.inline 2 "m_frontLeft" ⟨2, 1, []⟩].foldlM
      (compileMember "Wheels") (⟨[]⟩, .empty) = .ok result := ⟨_, rfl⟩
  obtain ⟨result, compiled⟩ := compiled
  obtain ⟨back, notPrimitive, apart, behind⟩ := inlineName_free rearLeft
  have isFree := (behind "m_rearLeft2" "Wheels" _ _ result 1 name compiled
    (by simpa [inlineMembers, otherName, name] using frontLeft)).mpr ⟨by simp, by decide⟩
  rw [typeName] at back notPrimitive apart
  refine ⟨rearLeft, name, by decide, back, notPrimitive, ?_, result, compiled, isFree⟩
  exact otherTypeName ▸ apart "front_left" frontLeft (by simp)

end LapTelemetry.Spec

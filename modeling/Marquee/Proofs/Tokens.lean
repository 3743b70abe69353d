import Marquee.Message.Token
import Marquee.Proofs.Words
import Mathlib.Data.List.Basic

/-! Which words are tags, and how a row of words becomes a row of tokens. -/

namespace Marquee.Proofs.Tokens
open Message Token

/-- A name in brackets, of two to twelve letters and digits. -/
structure Bracketed (name chars : List Char) : Prop where
  shape : chars = '[' :: (name ++ [']'])
  length : shortestTag ≤ name.length ∧ name.length ≤ longestTag
  alphanumeric : ∀ char ∈ name, char.isAlphanum

theorem not_blank_of_alphanumeric {char : Char} (alphanumeric : char.isAlphanum) :
    ¬ Text.isBlank char := by
  delta Char.isAlphanum Char.isAlpha Char.isUpper Char.isLower Char.isDigit at alphanumeric
  simp only [ge_iff_le, Bool.or_eq_true, Bool.and_eq_true, decide_eq_true_eq,
    UInt32.le_iff_toNat_le, Char.reduceVal, UInt32.reduceToNat] at alphanumeric
  simp only [Text.isBlank, Text.blanks, List.any_cons, List.any_nil, Bool.or_eq_true, Bool.or_false,
    Bool.and_eq_true, decide_eq_true_eq, Char.le_def, UInt32.le_iff_toNat_le, Char.reduceVal,
    UInt32.reduceToNat]
  omega

theorem Bracketed.solid {name chars : List Char} (bracketed : Bracketed name chars) :
    ∀ char ∈ chars, ¬ Text.isBlank char := by
  obtain ⟨rfl, _, alphanumeric⟩ := bracketed
  intro char member
  simp only [List.mem_cons, List.mem_append, List.not_mem_nil, or_false] at member
  rcases member with rfl | inside | rfl
  · decide
  · exact not_blank_of_alphanumeric (alphanumeric char inside)
  · decide

theorem tagName?_eq_some_iff {name chars : List Char} :
    tagName? chars = some name ↔ Bracketed name chars := by
  constructor
  · intro read
    unfold tagName? at read
    split at read
    next rest =>
      simp only [Option.ite_none_right_eq_some, Option.some_inj] at read
      obtain ⟨⟨closed, short, long, alphanumeric⟩, rfl⟩ := read
      obtain ⟨name, rfl⟩ := List.getLast?_eq_some_iff.mp closed
      rw [List.dropLast_concat] at short long alphanumeric ⊢
      exact ⟨rfl, ⟨short, long⟩, List.all_eq_true.mp alphanumeric⟩
    next => cases read
  · rintro ⟨rfl, ⟨short, long⟩, alphanumeric⟩
    simpa [tagName?, short, long] using alphanumeric

theorem tagName?_eq_none_iff {chars : List Char} :
    tagName? chars = none ↔ ∀ name, ¬ Bracketed name chars := by
  simp only [Option.eq_none_iff_forall_ne_some, ne_eq, tagName?_eq_some_iff]

theorem ofWord?_tag {name word : String} (bracketed : Bracketed name.toList word.toList) :
    ofWord? word = some (.tag name) := by
  have filled : word ≠ "" := by
    rintro rfl
    cases bracketed.shape
  have read := tagName?_eq_some_iff.mpr bracketed
  simp [ofWord?, filled, read]

theorem ofWord?_literal {word : String} (filled : word ≠ "")
    (plain : ∀ name, ¬ Bracketed name word.toList) : ofWord? word = some (.literal word) := by
  have read := tagName?_eq_none_iff.mpr plain
  simp [ofWord?, filled, read]

theorem eq_of_ofWord?_literal {word text : String} (read : ofWord? word = some (.literal text)) :
    word = text := by
  unfold ofWord? at read
  split at read
  next => cases read
  split at read
  next => cases read
  next =>
    cases read
    rfl

theorem bracketed_of_ofWord? {word name : String} (read : ofWord? word = some (.tag name)) :
    Bracketed name.toList word.toList := by
  unfold ofWord? at read
  split at read
  next => cases read
  split at read
  next chars found =>
    cases read
    rw [String.toList_ofList]
    exact tagName?_eq_some_iff.mp found
  next => cases read

theorem eq_of_ofWord?_none {word : String} (read : ofWord? word = none) : word = "" := by
  unfold ofWord? at read
  split at read
  next empty => simpa using empty
  next => split at read <;> cases read

theorem tokenize_of_spaced {text : String} {row : List (List Char)}
    (spaced : Words.Spaced row text.toList) :
    tokenize text = (row.map String.ofList).filterMap ofWord? := by
  rw [tokenize, Text.words, Words.wordsOf_of_spaced spaced]

theorem ne_empty_of_mem_tokenize {text word : String} (literal : .literal word ∈ tokenize text) :
    word ≠ "" := by
  rintro rfl
  obtain ⟨other, -, read⟩ := List.mem_filterMap.mp literal
  rw [eq_of_ofWord?_literal read] at read
  cases read

/-- A word of text is all there in what was written, and no blank is part of it. -/
theorem mem_of_mem_literal {texts : List String} {word : String}
    (literal : .literal word ∈ tokenizeAll texts) {char : Char} (inside : char ∈ word.toList) :
    ¬ Text.isBlank char ∧ ∃ text ∈ texts, char ∈ text.toList := by
  obtain ⟨other, found, read⟩ := List.mem_filterMap.mp literal
  obtain rfl := eq_of_ofWord?_literal read
  obtain ⟨text, member, listed⟩ := List.mem_flatMap.mp found
  obtain ⟨chars, split, rfl⟩ := List.mem_map.mp listed
  rw [String.toList_ofList] at inside
  have found := Words.mem_wordsOf_iff.mp ⟨chars, split, inside⟩
  exact ⟨found.2, text, member, found.1⟩

/-- No tag holds any other character than letters, digits and brackets. -/
theorem not_bracketed {char : Char} (foreign : ¬ (char.isAlphanum ∨ char = '[' ∨ char = ']'))
    {chars : List Char} (member : char ∈ chars) (name : List Char) : ¬ Bracketed name chars := by
  rintro ⟨rfl, _, alphanumeric⟩
  simp only [List.mem_cons, List.mem_append, List.not_mem_nil, or_false] at member
  rcases member with opening | inside | closing
  · exact foreign (.inr (.inl opening))
  · exact foreign (.inl (alphanumeric char inside))
  · exact foreign (.inr (.inr closing))

/-- What is shown of a token as it is written. -/
def characters : Token → List Char
  | .literal word => word.toList
  | .tag _ => []

section Foreign
variable {keep : Char → Bool}
  (foreign : ∀ char, keep char → ¬ (char.isAlphanum ∨ char = '[' ∨ char = ']'))
include foreign

theorem filter_ofWord? (word : String) :
    ((ofWord? word).toList.flatMap characters).filter keep = word.toList.filter keep := by
  cases read : ofWord? word with
  | none =>
    rw [eq_of_ofWord?_none read]
    rfl
  | some token =>
    cases token with
    | literal text =>
      rw [eq_of_ofWord?_literal read]
      simp [characters]
    | tag name =>
      symm
      apply List.filter_eq_nil_iff.mpr
      intro char inside kept
      exact not_bracketed (foreign char kept) inside _ (bracketed_of_ofWord? read)

/-- Of characters that are neither blank nor part of a tag, none is lost and none is moved. -/
theorem filter_tokenizeAll (solid : ∀ char, keep char → ¬ Text.isBlank char) (texts : List String) :
    ((tokenizeAll texts).flatMap characters).filter keep =
      (texts.flatMap String.toList).filter keep := by
  have words (text : String) :
      ((Text.words text).flatMap String.toList).filter keep = text.toList.filter keep := by
    rw [Words.flatMap_words, List.filter_filter]
    apply List.filter_congr
    intro char _
    by_cases kept : keep char <;> simp [kept, solid]
  rw [tokenizeAll, List.filterMap_eq_flatMap_toList, List.flatMap_assoc, List.filter_flatMap]
  simp only [filter_ofWord? foreign]
  rw [← List.filter_flatMap, List.flatMap_assoc, List.filter_flatMap, List.filter_flatMap]
  simp only [words]

end Foreign

/-- A character that is neither blank nor part of a tag is in the text of a message where it is in
what was written. -/
theorem mem_literal_iff {char : Char} (solid : ¬ Text.isBlank char)
    (foreign : ¬ (char.isAlphanum ∨ char = '[' ∨ char = ']')) (texts : List String) :
    (∃ word, .literal word ∈ tokenizeAll texts ∧ char ∈ word.toList) ↔
      ∃ text ∈ texts, char ∈ text.toList := by
  have plain : ∀ other, (other == char) = true →
      ¬ (other.isAlphanum ∨ other = '[' ∨ other = ']') := by
    intro other same
    rwa [beq_iff_eq.mp same]
  have apart : ∀ other, (other == char) = true → ¬ Text.isBlank other := by
    intro other same
    rwa [beq_iff_eq.mp same]
  have kept : char ∈ (tokenizeAll texts).flatMap characters ↔ char ∈ texts.flatMap String.toList := by
    have copies := congrArg (char ∈ ·) (filter_tokenizeAll plain apart texts)
    simpa only [List.mem_filter, beq_self_eq_true, and_true, eq_iff_iff] using copies
  rw [← List.mem_flatMap, ← kept, List.mem_flatMap]
  constructor
  · rintro ⟨word, member, inside⟩
    exact ⟨.literal word, member, inside⟩
  · rintro ⟨token, member, inside⟩
    cases token with
    | literal word => exact ⟨word, member, inside⟩
    | tag name => cases inside

end Marquee.Proofs.Tokens

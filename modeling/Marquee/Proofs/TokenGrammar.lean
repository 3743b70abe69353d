import Marquee.Proofs.SettingGrammar
import Marquee.Proofs.Tokens
import Mathlib.Data.List.Forall2

/-! The grammar of messages. A token is read from each word, so a message can be written down again
from its tokens, with any blanks between them, and two messages have the same tokens just if they
have the same words. -/

namespace Marquee.Proofs.TokenGrammar
open Message Words Tokens SettingGrammar

/-- Two to twelve letters and digits in brackets. -/
structure Tagged (name word : List Char) : Prop where
  shape : word = '[' :: (name ++ [']'])
  length : 2 ≤ name.length ∧ name.length ≤ 12
  plain : ∀ char ∈ name, Plain char

/-- The same of bytes, each of them looked at by itself. -/
structure TaggedBytes (name word : Bytes) : Prop where
  shape : word = '['.toUInt8 :: (name ++ [']'.toUInt8])
  length : 2 ≤ name.length ∧ name.length ≤ 12
  plain : name.all Setting.isAlphanumeric

/-- The token a word stands for. -/
inductive Reads : List Char → Token → Prop
  | tag {name word : List Char} (tagged : Tagged name word) : Reads word (.tag (String.ofList name))
  | literal {word : List Char} (untagged : ∀ name, ¬ Tagged name word) :
      Reads word (.literal (String.ofList word))

theorem isAlphanum_iff (char : Char) : char.isAlphanum ↔ Plain char := by
  delta Char.isAlphanum Char.isAlpha Char.isUpper Char.isLower Char.isDigit
  simp only [Bool.or_eq_true, Bool.and_eq_true, decide_eq_true_eq]
  exact or_comm

theorem bracketed_iff {name word : List Char} : Bracketed name word ↔ Tagged name word := by
  have letters : (∀ char ∈ name, char.isAlphanum) ↔ ∀ char ∈ name, Plain char := by
    simp only [isAlphanum_iff]
  constructor
  · intro bracketed
    exact ⟨bracketed.shape, bracketed.length, letters.mp bracketed.alphanumeric⟩
  · intro tagged
    exact ⟨tagged.shape, tagged.length, letters.mpr tagged.plain⟩

theorem exists_reads (word : List Char) : ∃ token, Reads word token := by
  by_cases untagged : ∀ name, ¬ Tagged name word
  · exact ⟨_, .literal untagged⟩
  · obtain ⟨name, tagged⟩ := not_forall_not.mp untagged
    exact ⟨_, .tag tagged⟩

theorem ofWord?_of_reads {word : List Char} {token : Token} (filled : word ≠ [])
    (reads : Reads word token) : Token.ofWord? (String.ofList word) = some token := by
  cases reads with
  | tag tagged =>
    apply ofWord?_tag
    rw [String.toList_ofList, String.toList_ofList, bracketed_iff]
    exact tagged
  | literal untagged =>
    apply ofWord?_literal
    · rwa [ne_eq, String.ofList_eq_empty_iff]
    · simpa only [String.toList_ofList, bracketed_iff] using untagged

theorem filterMap_ofWord?_eq_iff {row : List (List Char)} {tokens : List Token}
    (filled : ∀ word ∈ row, word ≠ []) :
    (row.map String.ofList).filterMap Token.ofWord? = tokens ↔ List.Forall₂ Reads row tokens := by
  induction row generalizing tokens with
  | nil => rw [List.map_nil, List.filterMap_nil, List.forall₂_nil_left_iff, eq_comm]
  | cons word row ih =>
    rw [List.forall_mem_cons] at filled
    obtain ⟨token, reads⟩ := exists_reads word
    have read := ofWord?_of_reads filled.1 reads
    rw [List.map_cons, List.filterMap_cons_some read]
    constructor
    · rintro rfl
      exact .cons reads ((ih filled.2).mp rfl)
    · rintro (_ | ⟨again, later⟩)
      have same := read.symm.trans (ofWord?_of_reads filled.1 again)
      rw [(ih filled.2).mpr later, Option.some.inj same]

theorem tokenize_eq_iff {text : String} {tokens : List Token} :
    tokenize text = tokens ↔ ∃ row, Spaced row text.toList ∧ List.Forall₂ Reads row tokens := by
  obtain ⟨row, spaced⟩ := exists_spaced text.toList
  have filled : ∀ word ∈ row, word ≠ [] := fun word member => (spaced.solid word member).1
  rw [tokenize_of_spaced spaced, filterMap_ofWord?_eq_iff filled]
  constructor
  · intro reads
    exact ⟨row, spaced, reads⟩
  · rintro ⟨other, again, reads⟩
    rwa [← wordsOf_of_spaced spaced, wordsOf_of_spaced again]

/-- A token as it is written. -/
def spelled : Token → List Char
  | .literal word => word.toList
  | .tag name => '[' :: (name.toList ++ [']'])

theorem Reads.spelled {word : List Char} {token : Token} (reads : Reads word token) :
    spelled token = word := by
  cases reads with
  | tag tagged => rw [TokenGrammar.spelled, String.toList_ofList, tagged.shape]
  | literal untagged => exact String.toList_ofList

/-- Nothing is lost in reading, so the words are still there in the tokens. -/
theorem map_spelled {row : List (List Char)} {tokens : List Token}
    (reads : List.Forall₂ Reads row tokens) : tokens.map spelled = row := by
  induction reads with
  | nil => rfl
  | cons first later ih => rw [List.map_cons, first.spelled, ih]

section Bytes
open CharacterBytes
variable {name word : String}

theorem ofWord?_eq_tag_iff :
    Token.ofWord? word = some (.tag name) ↔ Tagged name.toList word.toList := by
  rw [← bracketed_iff]
  exact ⟨bracketed_of_ofWord?, ofWord?_tag⟩

/-- The name of a tag may be looked at byte by byte, and its length may be counted in bytes. -/
theorem ofWord?_eq_tag_iff_bytes :
    Token.ofWord? word = some (.tag name) ↔ TaggedBytes (utf8 name) (utf8 word) := by
  have shape : word.toList = '[' :: (name.toList ++ [']']) ↔
      utf8 word = '['.toUInt8 :: (utf8 name ++ [']'.toUInt8]) := by
    have whole : utf8 ("[" ++ name ++ "]") = '['.toUInt8 :: (utf8 name ++ [']'.toUInt8]) := by
      rw [utf8_append, utf8_append]
      rfl
    rw [← whole, utf8_inj, ← String.toList_inj, String.toList_append, String.toList_append]
    rfl
  have letters : (utf8 name).all Setting.isAlphanumeric ↔ ∀ char ∈ name.toList, Plain char :=
    all_isAlphanumeric_iff _
  have length (plain : ∀ char ∈ name.toList, Plain char) :
      (utf8 name).length = name.toList.length := length_of_plain plain
  rw [ofWord?_eq_tag_iff]
  constructor
  · intro tagged
    have short := tagged.length
    rw [← length tagged.plain] at short
    exact ⟨shape.mp tagged.shape, short, letters.mpr tagged.plain⟩
  · intro tagged
    have plain := letters.mp tagged.plain
    have short := tagged.length
    rw [length plain] at short
    exact ⟨shape.mpr tagged.shape, short, plain⟩

end Bytes

/-- Each word of a text is one token. However the tokens are spaced when they are written down
again, they are read as the same ones, and another text has the same tokens just if it has the same
words. Whether a word is a tag may be told from its bytes alone. -/
theorem tokenize_grammar (text : String) :
    (∀ tokens, tokenize text = tokens ↔
      ∃ row, Spaced row text.toList ∧ List.Forall₂ Reads row tokens) ∧
      (∀ lead row, row.map Prod.fst = (tokenize text).map spelled → Apart lead row →
        tokenize (String.ofList (written lead row)) = tokenize text) ∧
      (∀ other, tokenize text = tokenize other ↔
        ∃ row, Spaced row text.toList ∧ Spaced row other.toList) ∧
      ∀ word name, Token.ofWord? word = some (.tag name) ↔ TaggedBytes (utf8 name) (utf8 word) := by
  obtain ⟨words, spaced, reads⟩ := tokenize_eq_iff.mp (Eq.refl (tokenize text))
  refine ⟨fun tokens => tokenize_eq_iff, ?_, ?_, fun word name => ofWord?_eq_tag_iff_bytes⟩
  · intro lead row listed apart
    rw [map_spelled reads] at listed
    apply tokenize_eq_iff.mpr
    refine ⟨words, ?_, reads⟩
    rw [String.toList_ofList, ← listed]
    apply spaced_written apart
    rw [listed]
    exact spaced.solid
  · intro other
    constructor
    · intro same
      obtain ⟨again, also, readsAgain⟩ := tokenize_eq_iff.mp same.symm
      rw [← map_spelled readsAgain, map_spelled reads] at also
      exact ⟨words, spaced, also⟩
    · rintro ⟨row, first, second⟩
      rw [tokenize_of_spaced first, tokenize_of_spaced second]

/-- Brackets in brackets are text, and so is a name that is too short. -/
theorem tokenize_grammar_brackets :
    let text := "[[red]]\u00A0 [Red1] °C [a]"
    let row := [("[[red]]", "\u2003"), ("[Red1]", "\n "), ("°C", " "), ("[a]", "")].map fun entry =>
      (entry.1.toList, entry.2.toList)
    row.map Prod.fst = (tokenize text).map spelled ∧ Apart ['\t'] row ∧
      tokenize (String.ofList (written ['\t'] row)) = tokenize text := by
  intro text row
  have listed : row.map Prod.fst = (tokenize text).map spelled := by decide +kernel
  have apart : Apart ['\t'] row := by decide +kernel
  obtain ⟨-, reread, -, -⟩ := tokenize_grammar text
  exact ⟨listed, apart, reread ['\t'] row listed apart⟩

end Marquee.Proofs.TokenGrammar

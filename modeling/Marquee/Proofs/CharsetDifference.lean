import Marquee.Proofs.MessageCut
import Marquee.Proofs.Tokens
import Marquee.Proofs.WordBytes

/-! What the charset of a message changes. Two compilers take the same tokens, one for each charset.
They cut in the same places and write in the same styles, and their texts differ only in the
characters that one of them has a code for and the other sends in UTF-8. -/

namespace Marquee.Proofs.CharsetDifference
open Message CharacterBytes MessageCut Tokens

/-- The extended charset has a code for the character, and the other one does not. -/
def respelled (char : Char) : Bool := char ∈ extendedGlyphs.map Prod.fst ∧ char ≠ degree

def occurrences (texts : List String) : Nat := (texts.flatMap String.toList).countP respelled

section Characters

theorem respelled_listed {char : Char} (differs : respelled char) :
    ∃ code, (char, code) ∈ extendedGlyphs := by
  obtain ⟨listed, -⟩ := of_decide_eq_true differs
  obtain ⟨⟨_, code⟩, member, rfl⟩ := List.mem_map.mp listed
  exact ⟨code, member⟩

theorem respelled_iff {char : Char} :
    respelled char ↔ (∃ code, extendedCode? char = some code) ∧ char ≠ degree := by
  have listed : char ∈ extendedGlyphs.map Prod.fst ↔ ∃ code, extendedCode? char = some code := by
    rw [← Option.isSome_iff_exists, extendedCode?, List.lookup_isSome_iff, List.mem_map]
    simp only [beq_iff_eq, eq_comm (a := char)]
  rw [respelled, decide_eq_true_iff, listed]

/-- Such a character takes two bytes in UTF-8. -/
theorem shown_cases (char : Char) :
    respelled char ∧ (shown .utf8 char).length = 2 ∧ (shown .extended char).length = 1 ∨
      ¬ respelled char ∧ shown .utf8 char = shown .extended char := by
  have wide : ∀ entry ∈ extendedGlyphs, (String.utf8EncodeChar entry.1).length = 2 := by decide
  by_cases same : char = degree
  · right
    subst same
    exact ⟨by decide, rfl⟩
  have plain : shown .utf8 char = String.utf8EncodeChar char := if_neg same
  rw [plain, shown_extended, Charset.glyph]
  cases listed : extendedCode? char with
  | some code =>
    left
    exact ⟨respelled_iff.mpr ⟨⟨code, listed⟩, same⟩, wide _ (mem_extendedGlyphs listed), rfl⟩
  | none =>
    right
    exact ⟨by simp [respelled_iff, listed], rfl⟩

theorem length_shown (chars : List Char) :
    (chars.flatMap (shown .utf8)).length =
      (chars.flatMap (shown .extended)).length + chars.countP respelled := by
  induction chars with
  | nil => rfl
  | cons char chars ih =>
    rw [List.flatMap_cons, List.flatMap_cons, List.length_append, List.length_append, ih]
    rcases shown_cases char with ⟨differs, two, one⟩ | ⟨alike, same⟩
    · rw [List.countP_cons_of_pos differs, two, one]
      omega
    · rw [List.countP_cons_of_neg alike, same]
      omega

theorem shown_congr {chars : List Char} (alike : ∀ char ∈ chars, ¬ respelled char) :
    chars.flatMap (shown .utf8) = chars.flatMap (shown .extended) := by
  apply List.flatMap_congr
  intro char member
  rcases shown_cases char with ⟨differs, _⟩ | ⟨_, same⟩
  · exact absurd differs (alike char member)
  · exact same

end Characters

/-- Two compilers that have come equally far. The first has gathered that many bytes more. -/
structure Parallel (extra : Nat) (plain coded : Compiler) : Prop where
  style : plain.style = coded.style
  empty : plain.pending = [] ↔ coded.pending = []
  styles : plain.blocks.map Block.style = coded.blocks.map Block.style
  length : (plain.blocks.flatMap Block.wire).length + plain.pending.length =
    (coded.blocks.flatMap Block.wire).length + coded.pending.length + extra

namespace Parallel
variable {extra : Nat} {plain coded : Compiler}

theorem gather (parallel : Parallel extra plain coded) {more less : Bytes} {count : Nat}
    (longer : more.length = less.length + count) (filled : more = [] ↔ less = []) :
    Parallel (extra + count) { plain with pending := plain.pending ++ more }
      { coded with pending := coded.pending ++ less } where
  style := parallel.style
  empty := by simp only [List.append_eq_nil_iff, parallel.empty, filled]
  styles := parallel.styles
  length := by
    have before := parallel.length
    simp only [List.length_append]
    omega

theorem finish (parallel : Parallel extra plain coded) :
    plain.finish.map Block.style = coded.finish.map Block.style ∧
      (plain.finish.flatMap Block.wire).length =
        (coded.finish.flatMap Block.wire).length + extra := by
  have before := parallel.length
  constructor
  · simp [Compiler.finish, Compiler.flush, parallel.styles, parallel.style]
  · simp only [Compiler.finish, Compiler.flush, List.flatMap_append, List.flatMap_singleton,
      List.length_append, Block.wire, List.length_cons, parallel.style]
    omega

theorem directive (parallel : Parallel extra plain coded) {directive : Directive}
    (styled : directive.isStyle) :
    Parallel extra (plain.directive directive) (coded.directive directive) := by
  rw [directive_style styled, directive_style styled, parallel.style]
  by_cases empty : plain.pending = []
  · rw [if_pos empty, if_pos (parallel.empty.mp empty)]
    exact ⟨rfl, parallel.empty, parallel.styles, parallel.length⟩
  · rw [if_neg empty, if_neg (mt parallel.empty.mpr empty)]
    obtain ⟨styles, length⟩ := parallel.finish
    refine ⟨rfl, Iff.rfl, ?_, ?_⟩
    · simpa only [preceded, List.append_nil] using styles
    · simpa only [preceded, List.append_nil, List.length_nil, Nat.add_zero] using length

theorem word (parallel : Parallel extra plain coded) (word : String) :
    Parallel (extra + word.toList.countP respelled)
      (plain.feed Charset.utf8.table (.literal word))
      (coded.feed Charset.extended.table (.literal word)) := by
  rw [WordBytes.feed_word, WordBytes.feed_word, List.append_assoc, List.append_assoc]
  -- Where one of them needs a space in front of the word, so does the other.
  simp only [parallel.empty]
  apply parallel.gather
  · rw [List.length_append, List.length_append, length_shown]
    omega
  · simp only [List.append_eq_nil_iff, shown_eq_nil_iff]

theorem feed (parallel : Parallel extra plain coded) (token : Token) :
    Parallel (extra + (characters token).countP respelled)
      (plain.feed Charset.utf8.table token) (coded.feed Charset.extended.table token) := by
  cases token with
  | literal word => exact parallel.word word
  | tag name =>
    simp only [Compiler.feed, characters, List.countP_nil, Nat.add_zero]
    cases Directive.ofTag? name with
    | none => exact parallel
    | some directive =>
      cases directive with
      | insert insertion => exact parallel.gather (Nat.add_zero _).symm Iff.rfl
      | position _ | color _ | mode _ => exact parallel.directive rfl

theorem run (parallel : Parallel extra plain coded) (tokens : List Token) :
    Parallel (extra + (tokens.flatMap characters).countP respelled)
      (tokens.foldl (Compiler.feed Charset.utf8.table) plain)
      (tokens.foldl (Compiler.feed Charset.extended.table) coded) := by
  induction tokens generalizing extra plain coded with
  | nil => exact parallel
  | cons token tokens ih =>
    have rest := ih (parallel.feed token)
    rwa [List.flatMap_cons, List.countP_append, ← Nat.add_assoc]

end Parallel

theorem compile_congr {tokens : List Token}
    (alike : ∀ char ∈ tokens.flatMap characters, ¬ respelled char) :
    compile Charset.utf8.table tokens = compile Charset.extended.table tokens := by
  rw [compile, compile]
  congr 1
  apply List.foldl_ext
  intro compiler token member
  cases token with
  | literal word =>
    have absent : ∀ char ∈ word.toList, ¬ respelled char := by
      intro char inside
      exact alike char (List.mem_flatMap.mpr ⟨.literal word, member, inside⟩)
    rw [WordBytes.feed_word, WordBytes.feed_word, shown_congr absent]
  | tag name => rfl

/-- No character that has a code of its own is a blank, or could be part of a tag. -/
theorem filter_characters (words : List String) :
    ((tokenizeAll words).flatMap characters).filter respelled =
      (words.flatMap String.toList).filter respelled := by
  have apart : ∀ entry ∈ extendedGlyphs, ¬ Text.isBlank entry.1 ∧
      ¬ (entry.1.isAlphanum ∨ entry.1 = '[' ∨ entry.1 = ']') := by decide
  apply filter_tokenizeAll
  · intro char differs
    obtain ⟨code, listed⟩ := respelled_listed differs
    exact (apart _ listed).2
  · intro char differs
    obtain ⟨code, listed⟩ := respelled_listed differs
    exact (apart _ listed).1

/-- In either charset a message has the same blocks in the same styles. In the extended one it is
shorter by one byte for each character that only this charset has a code for, wherever it stands,
and where there is none the two payloads are the same. -/
theorem charset_changes (label : Label) (words : List String) :
    let plain := compileMessage Charset.utf8.table label words
    let coded := compileMessage Charset.extended.table label words
    (compile Charset.utf8.table (tokenizeAll words)).map Block.style =
        (compile Charset.extended.table (tokenizeAll words)).map Block.style ∧
      plain.payload.length = coded.payload.length + occurrences words ∧
      (plain.payload = coded.payload ↔
        ∀ text ∈ words, ∀ char ∈ text.toList, ¬ respelled char) := by
  intro plain coded
  have kept := filter_characters words
  have counted : ((tokenizeAll words).flatMap characters).countP respelled = occurrences words := by
    rw [occurrences, List.countP_eq_length_filter, List.countP_eq_length_filter, kept]
  have start : Parallel 0 {} {} := ⟨rfl, Iff.rfl, rfl, rfl⟩
  obtain ⟨styles, wires⟩ := (start.run (tokenizeAll words)).finish
  rw [Nat.zero_add, counted] at wires
  have lengths : plain.payload.length = coded.payload.length + occurrences words := by
    simp only [plain, coded, compileMessage, Command.payload, List.length_cons, compile]
    omega
  refine ⟨styles, lengths, ?_, ?_⟩
  · intro same text member char inside
    rw [same] at lengths
    have none : occurrences words = 0 := by omega
    exact List.countP_eq_zero.mp none char (List.mem_flatMap.mpr ⟨text, member, inside⟩)
  · intro alike
    have absent : ∀ char ∈ (tokenizeAll words).flatMap characters, ¬ respelled char := by
      apply List.countP_eq_zero.mp
      rw [counted]
      apply List.countP_eq_zero.mpr
      intro char member
      obtain ⟨text, listed, inside⟩ := List.mem_flatMap.mp member
      exact alike text listed char inside
    simp only [plain, coded, compileMessage, compile_congr absent]

-- A word in brackets is no tag if there are other characters in it than letters and digits of ASCII.
example : occurrences ["[top] Café", "[é] 20°"] = 2 := by decide

end Marquee.Proofs.CharsetDifference

import Marquee.Message.Compiler

/-! What a cut leaves behind. A style tag with text in front of it starts the rest of the message
from nothing, so what is on its two sides could have been compiled apart. With no text in front of
it the tag cuts nothing, and two messages would make a block more than one. -/

namespace Marquee.Proofs.MessageCut
open Message

/-- A compiler with these blocks in front of its own. -/
def preceded (earlier : List Block) (compiler : Compiler) : Compiler :=
  { compiler with blocks := earlier ++ compiler.blocks }

theorem length_finish (compiler : Compiler) :
    compiler.finish.length = compiler.blocks.length + 1 :=
  List.length_append

theorem finish_preceded (earlier : List Block) (compiler : Compiler) :
    (preceded earlier compiler).finish = earlier ++ compiler.finish :=
  List.append_assoc earlier compiler.blocks _

theorem directive_style {directive : Directive} (styled : directive.isStyle) (compiler : Compiler) :
    compiler.directive directive =
      if compiler.pending = [] then { compiler with style := directive.apply compiler.style }
      else preceded compiler.finish { style := directive.apply {} } := by
  cases directive with
  | insert insertion => cases styled
  | position _ | color _ | mode _ =>
    simp only [Compiler.directive, List.isEmpty_iff]
    split
    · rfl
    · simp only [preceded, Compiler.finish, Compiler.flush, List.append_nil]

section Tokens
variable (glyphs : GlyphTable)

/-- A token changes the text that is pending, by that text alone, or else it is a style tag. -/
theorem feed_cases (token : Token) :
    (∃ change : Bytes → Bytes, ∀ compiler : Compiler,
      compiler.feed glyphs token = { compiler with pending := change compiler.pending }) ∨
    ∃ directive : Directive, directive.isStyle ∧
      ∀ compiler : Compiler, compiler.feed glyphs token = compiler.directive directive := by
  cases token with
  | literal word =>
    exact .inl ⟨fun pending => (Compiler.literal glyphs { pending } word).pending, fun _ => rfl⟩
  | tag name =>
    simp only [Compiler.feed]
    cases Directive.ofTag? name with
    | none => exact .inl ⟨id, fun _ => rfl⟩
    | some directive =>
      cases directive with
      | insert insertion => exact .inl ⟨(· ++ insertion.code), fun _ => rfl⟩
      | position _ | color _ | mode _ => exact .inr ⟨_, rfl, fun _ => rfl⟩

/-- Blocks that are finished are never looked at again. -/
theorem feed_preceded (earlier : List Block) (compiler : Compiler) (token : Token) :
    (preceded earlier compiler).feed glyphs token = preceded earlier (compiler.feed glyphs token) := by
  obtain ⟨change, text⟩ | ⟨directive, styled, tag⟩ := feed_cases glyphs token
  · rw [text, text]
    rfl
  · have same : (preceded earlier compiler).pending = compiler.pending := rfl
    rw [tag, tag, directive_style styled, directive_style styled, finish_preceded, same]
    split
    · rfl
    · simp only [preceded, List.append_nil]

theorem foldl_preceded (earlier : List Block) (tokens : List Token) (compiler : Compiler) :
    tokens.foldl (Compiler.feed glyphs) (preceded earlier compiler) =
      preceded earlier (tokens.foldl (Compiler.feed glyphs) compiler) := by
  induction tokens generalizing compiler with
  | nil => rfl
  | cons token tokens ih => rw [List.foldl_cons, List.foldl_cons, feed_preceded, ih]

/-- The same text is pending, and as many blocks are finished. Styles may differ. -/
structure Level (first second : Compiler) : Prop where
  pending : first.pending = second.pending
  count : first.blocks.length = second.blocks.length

variable {glyphs} in
theorem Level.feed {first second : Compiler} (level : Level first second) (token : Token) :
    Level (first.feed glyphs token) (second.feed glyphs token) := by
  obtain ⟨pending, count⟩ := level
  obtain ⟨change, text⟩ | ⟨directive, styled, tag⟩ := feed_cases glyphs token
  · rw [text, text]
    exact ⟨congrArg change pending, count⟩
  · rw [tag, tag, directive_style styled, directive_style styled, pending]
    split
    · exact ⟨rfl, count⟩
    · refine ⟨rfl, ?_⟩
      simp only [preceded, List.append_nil, length_finish, count]

/-- Where a message is cut does not depend on styles. -/
theorem Level.count_finish {first second : Compiler} (level : Level first second)
    (tokens : List Token) :
    (tokens.foldl (Compiler.feed glyphs) first).finish.length =
      (tokens.foldl (Compiler.feed glyphs) second).finish.length := by
  induction tokens generalizing first second with
  | nil => rw [List.foldl_nil, List.foldl_nil, length_finish, length_finish, level.count]
  | cons token tokens ih => exact ih (level.feed token)

/-- A style tag splits a message in two exactly where it finds text in front of it. The blocks up to
there are those of the front alone, and those behind it are the ones of a message that starts with
the tag. -/
theorem compile_split_iff (before after : List Token) {name : String} {directive : Directive}
    (known : Directive.ofTag? name = some directive) (styled : directive.isStyle) :
    compile glyphs (before ++ .tag name :: after) =
        compile glyphs before ++ compile glyphs (.tag name :: after) ↔
      (before.foldl (Compiler.feed glyphs) {}).pending ≠ [] := by
  have tag (compiler : Compiler) :
      compiler.feed glyphs (.tag name) = compiler.directive directive := by
    simp only [Compiler.feed, known]
  simp only [compile, List.foldl_append, List.foldl_cons, tag, directive_style styled, if_true]
  generalize before.foldl (Compiler.feed glyphs) {} = compiler
  constructor
  · intro split empty
    -- Without the cut the rest is the same but for its style, and the empty block is missing.
    have joined : { compiler with style := directive.apply compiler.style } =
        preceded compiler.blocks { style := directive.apply compiler.style } := by
      rw [preceded, List.append_nil, ← empty]
    have level : Level { style := directive.apply compiler.style } { style := directive.apply {} } :=
      ⟨rfl, rfl⟩
    rw [if_pos empty, joined, foldl_preceded, finish_preceded] at split
    have lengths := congrArg List.length split
    rw [List.length_append, List.length_append, level.count_finish, length_finish compiler] at lengths
    omega
  · intro filled
    rw [if_neg filled, foldl_preceded, finish_preceded]

/-- A table that shows nothing of one word. The word is still set off by a space, and the second tag
cuts behind it. -/
theorem compile_split_iff_hidden :
    let glyphs : GlyphTable := ⟨fun word => if word = "x" then [] else utf8 word⟩
    let before : List Token := [.tag "red", .literal "a", .literal "x"]
    let after : List Token := [.literal "x", .tag "blue", .tag "time"]
    Directive.ofTag? "top" = some (.position .top) ∧ (Directive.position .top).isStyle ∧
      (before.foldl (Compiler.feed glyphs) {}).pending ≠ [] ∧
      compile glyphs before = [⟨{ color := .red }, ['a', ' '].map Char.toUInt8⟩] ∧
      compile glyphs (before ++ .tag "top" :: after) =
        compile glyphs before ++ [⟨{ position := .top, color := .blue }, [Insertion.timeCode]⟩] := by
  intro glyphs before after
  have known : Directive.ofTag? "top" = some (.position .top) := Directive.ofTag?_tag (.position .top)
  have pending : (before.foldl (Compiler.feed glyphs) {}).pending = ['a', ' '].map Char.toUInt8 := by
    cbv
  have filled : (before.foldl (Compiler.feed glyphs) {}).pending ≠ [] := by
    rw [pending]
    decide
  refine ⟨known, rfl, filled, by cbv, ?_⟩
  rw [(compile_split_iff glyphs before after known rfl).mpr filled]
  cbv

end Tokens

end Marquee.Proofs.MessageCut

import Marquee.Proofs.CharacterBytes
import Marquee.Proofs.MessageReading
import Marquee.Proofs.Tokens

/-! Which bytes a message puts on the line. Some of them stand for styles and insertions, and the
others come from the words of the message, each from the character it stands for. -/

namespace Marquee.Proofs.MessageBytes
open Message MessageReading

/-- A byte that neither opens a block, nor sets two words apart, nor is part of a tag's code. Only a
word can bring it into a message. -/
structure Worded (byte : UInt8) : Prop where
  opening : byte ≠ Wire.som
  spacing : byte ≠ ' '.toUInt8
  coding : ∀ directive : Directive, byte ∉ directive.code

theorem worded_eot : Worded Wire.eot where
  opening := by decide
  spacing := by decide
  coding directive := by
    have absent : ∀ directive ∈ Directive.every, Wire.eot ∉ directive.code := by decide
    exact absent directive (Directive.mem_every directive)

section Reading
variable (glyphs : GlyphTable) {byte : UInt8} (worded : Worded byte)
include worded

theorem notMem_style (style : Style) : byte ∉ style.code := by
  simp only [Style.code, List.mem_append, not_or]
  exact ⟨⟨worded.coding (.position style.position), worded.coding (.mode style.mode)⟩,
    worded.coding (.color style.color)⟩

theorem mem_rendered_iff (before : Bytes) (item : Item) :
    byte ∈ rendered glyphs before item ↔
      ∃ word, item = .word word ∧ byte ∈ DegreeScan.normal (glyphs.transcode word) := by
  cases item with
  | word word =>
    have unspaced : byte ∉ if before = [] then [] else [' '.toUInt8] := by
      split <;> simp [worded.spacing]
    simp [rendered, unspaced]
  | directive directive =>
    have absent := worded.coding directive
    cases directive with
    | insert insertion => simpa [rendered, Directive.code, code_eq] using absent
    | position _ | color _ | mode _ => simp [rendered]

theorem mem_text_iff (segment : List Item) :
    byte ∈ text glyphs segment ↔
      ∃ word, .word word ∈ segment ∧ byte ∈ DegreeScan.normal (glyphs.transcode word) := by
  induction segment using List.reverseRecOn with
  | nil => simp [text]
  | append_singleton front item ih =>
    rw [text_concat, List.mem_append, ih, mem_rendered_iff glyphs worded]
    simp only [List.mem_append, List.mem_singleton, or_and_right, exists_or, eq_comm]

theorem mem_wire_iff (segment : List Item) :
    byte ∈ (block glyphs segment).wire ↔ byte ∈ text glyphs segment := by
  simp [Block.wire, block, worded.opening, notMem_style worded]

theorem mem_compile_iff (tokens : List Token) :
    byte ∈ (compile glyphs tokens).flatMap Block.wire ↔
      ∃ word, .literal word ∈ tokens ∧ byte ∈ DegreeScan.normal (glyphs.transcode word) := by
  have whole := flatten_cut glyphs (meanings tokens)
  simp only [compile_eq_cut, List.mem_flatMap, List.mem_map, exists_exists_and_eq_and,
    mem_wire_iff glyphs worded, mem_text_iff glyphs worded, ← word_mem_meanings_iff]
  conv_rhs => rw [← whole]
  simp only [List.mem_flatten]
  constructor
  · rintro ⟨segment, cut, word, member, inside⟩
    exact ⟨word, ⟨segment, cut, member⟩, inside⟩
  · rintro ⟨word, ⟨segment, cut, member⟩, inside⟩
    exact ⟨segment, cut, word, member, inside⟩

end Reading

end Marquee.Proofs.MessageBytes

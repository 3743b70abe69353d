import Marquee.Proofs.CommandIntegrity
import Mathlib.Data.List.Forall2

/-! Which control bytes a message puts on the line. A block opens with two of them, and every other
one belongs to an insertion that the message asked for. What is shown of a word has none, so no text
can pass for the beginning or the end of something. -/

namespace Marquee.Proofs.ControlBytes
open Message MessageReading CommandIntegrity CharacterBytes

/-- No control characters except the blank ones, which set words apart and go no further. -/
def Clean (text : String) : Prop :=
  ∀ char ∈ text.toList, char.toNat < 0x20 → Text.isBlank char

instance (text : String) : Decidable (Clean text) :=
  decidable_of_iff (text.toList.all fun char => char.toNat < 0x20 → Text.isBlank char)
    (by simp only [Clean, List.all_eq_true, decide_eq_true_eq])

def insertion? : Item → Option Insertion
  | .directive (.insert insertion) => some insertion
  | _ => none

def insertions (items : List Item) : List Insertion := items.filterMap insertion?

/-- Printable bytes, with the control sequences of the insertions in order among them. -/
inductive Woven : List Insertion → Bytes → Prop
  | nil : Woven [] []
  | printed {byte : UInt8} {inserted : List Insertion} {rest : Bytes} (visible : 0x20 ≤ byte)
      (later : Woven inserted rest) : Woven inserted (byte :: rest)
  | code {inserted : List Insertion} {rest : Bytes} (insertion : Insertion)
      (later : Woven inserted rest) :
      Woven (insertion :: inserted) (controlSequence insertion ++ rest)

/-- A control byte that asks for something, with what it asks for behind it. -/
def Asks (control : UInt8) (behind : Bytes) : Prop :=
  control = 0x13 ∨
  control = 0x0B ∧ (∃ next ∈ behind.head?, next = '0'.toUInt8 ∨ next = '9'.toUInt8) ∨
  control = 0x10 ∧ ∃ next ∈ behind.head?, '0'.toUInt8 ≤ next ∧ next ≤ '9'.toUInt8

def Asking (text : Bytes) : Prop :=
  ∀ control behind, control :: behind <:+ text → control < 0x20 → Asks control behind

theorem asking_cons {byte : UInt8} {rest : Bytes} (first : byte < 0x20 → Asks byte rest)
    (later : Asking rest) : Asking (byte :: rest) := by
  intro control behind suffix small
  rcases List.suffix_cons_iff.mp suffix with whole | inside
  · obtain ⟨rfl, rfl⟩ := List.cons.inj whole
    exact first small
  · exact later control behind inside small

theorem asking_printed {byte : UInt8} {rest : Bytes} (visible : 0x20 ≤ byte) (later : Asking rest) :
    Asking (byte :: rest) :=
  asking_cons (fun small => absurd visible (UInt8.not_le.mpr small)) later

theorem asking_controlSequence (insertion : Insertion) {rest : Bytes} (later : Asking rest) :
    Asking (controlSequence insertion ++ rest) := by
  cases insertion with
  | time => exact asking_cons (fun _ => .inl rfl) later
  | usDate =>
    apply asking_cons
    · intro _
      exact .inr (.inl ⟨rfl, '0'.toUInt8, rfl, .inl rfl⟩)
    · exact asking_printed (by decide) later
  | timeDay =>
    apply asking_cons
    · intro _
      exact .inr (.inl ⟨rfl, '9'.toUInt8, rfl, .inr rfl⟩)
    · apply asking_printed (by decide)
      apply asking_printed (by decide)
      exact asking_cons (fun _ => .inl rfl) later
  | stringFile digit =>
    have digits : ∀ digit : Fin 10, '0'.toUInt8 ≤ 0x30 + digit.val.toUInt8 ∧
        0x30 + digit.val.toUInt8 ≤ '9'.toUInt8 := by decide
    apply asking_cons
    · intro _
      exact .inr (.inr ⟨rfl, 0x30 + digit.val.toUInt8, rfl, digits digit⟩)
    · exact asking_printed (UInt8.le_trans (by decide) (digits digit).1) later

namespace Woven

theorem of_printable {bytes : Bytes} (printable : Printable bytes) : Woven [] bytes := by
  induction bytes with
  | nil => exact .nil
  | cons byte rest ih =>
    have parts := List.forall_mem_cons.mp printable
    exact .printed parts.1 (ih parts.2)

theorem append {first second : List Insertion} {front back : Bytes} (left : Woven first front)
    (right : Woven second back) : Woven (first ++ second) (front ++ back) := by
  induction left with
  | nil => exact right
  | printed visible _ ih => exact .printed visible ih
  | code insertion _ ih =>
    rw [List.append_assoc]
    exact .code insertion ih

theorem asking {inserted : List Insertion} {text : Bytes} (woven : Woven inserted text) :
    Asking text := by
  induction woven with
  | nil =>
    intro control behind suffix
    cases List.suffix_nil.mp suffix
  | printed visible _ ih => exact asking_printed visible ih
  | code insertion _ ih => exact asking_controlSequence insertion ih

/-- Only three control bytes ask for anything. -/
theorem notMem {inserted : List Insertion} {text : Bytes} (woven : Woven inserted text)
    {control : UInt8} (small : control < 0x20)
    (foreign : control ∉ [0x13, 0x0B, 0x10]) : control ∉ text := by
  intro member
  obtain ⟨front, back, rfl⟩ := List.append_of_mem member
  have asks := woven.asking control back (List.suffix_append front _) small
  apply foreign
  rcases asks with time | date | file
  · rw [time]
    exact List.mem_cons_self
  · rw [date.1]
    exact List.mem_cons_of_mem _ List.mem_cons_self
  · rw [file.1]
    exact List.mem_cons_of_mem _ (List.mem_cons_of_mem _ List.mem_cons_self)

end Woven

section Texts
variable (glyphs : GlyphTable)

theorem woven_rendered (before : Bytes) {item : Item}
    (visible : ∀ word, item = .word word → Printable (DegreeScan.normal (glyphs.transcode word))) :
    Woven (insertions [item]) (rendered glyphs before item) := by
  cases item with
  | word word =>
    have space : Printable (if before = [] then [] else [' '.toUInt8]) := by
      split <;> decide
    exact .of_printable (space.append (visible word rfl))
  | directive directive =>
    cases directive with
    | insert insertion =>
      have alone := Woven.code insertion .nil
      rwa [List.append_nil] at alone
    | position _ | color _ | mode _ => exact .nil

theorem woven_text {segment : List Item}
    (visible : ∀ word, .word word ∈ segment →
      Printable (DegreeScan.normal (glyphs.transcode word))) :
    Woven (insertions segment) (text glyphs segment) := by
  induction segment using List.reverseRecOn with
  | nil => exact .nil
  | append_singleton front item ih =>
    rw [text_concat, insertions, List.filterMap_append]
    apply Woven.append
    · apply ih
      intro word member
      exact visible word (List.mem_append_left _ member)
    · apply woven_rendered
      intro word same
      subst same
      exact visible word (List.mem_append_right _ List.mem_cons_self)

section Compiled
variable {tokens : List Token}
  (visible : ∀ word, .literal word ∈ tokens → Printable (DegreeScan.normal (glyphs.transcode word)))
include visible

theorem woven_segment {segment : List Item} (member : segment ∈ cut glyphs [] (meanings tokens)) :
    Woven (insertions segment) (text glyphs segment) := by
  apply woven_text
  intro word inside
  apply visible
  rw [← word_mem_meanings_iff, ← flatten_cut glyphs (meanings tokens)]
  exact List.mem_flatten.mpr ⟨segment, member, inside⟩

theorem woven_block {block : Block} (member : block ∈ compile glyphs tokens) :
    ∃ inserted, Woven inserted block.text := by
  rw [compile_eq_cut] at member
  obtain ⟨segment, listed, rfl⟩ := List.mem_map.mp member
  exact ⟨insertions segment, woven_segment glyphs visible listed⟩

theorem woven_compile :
    ∃ parts, parts.flatten = insertions (meanings tokens) ∧
      List.Forall₂ Woven parts ((compile glyphs tokens).map Block.text) := by
  refine ⟨(cut glyphs [] (meanings tokens)).map insertions, ?_, ?_⟩
  · conv_rhs => rw [← flatten_cut glyphs (meanings tokens)]
    exact List.filterMap_flatten.symm
  · rw [compile_eq_cut, List.map_map, List.forall₂_map_left_iff, List.forall₂_map_right_iff,
      List.forall₂_same]
    intro segment member
    exact woven_segment glyphs visible member

end Compiled

end Texts

theorem printable_literal (charset : Charset) {words : List String}
    (clean : ∀ text ∈ words, Clean text) {word : String} (literal : .literal word ∈ tokenizeAll words) :
    Printable (DegreeScan.normal (charset.table.transcode word)) := by
  rw [normal_transcode]
  intro byte member
  obtain ⟨char, inside, shown⟩ := List.mem_flatMap.mp member
  obtain ⟨solid, text, written, there⟩ := Tokens.mem_of_mem_literal literal inside
  apply visible_of_mem_shown charset _ byte shown
  apply Nat.le_of_not_lt
  intro small
  exact solid (clean text written char there small)

section Counting
variable {control : UInt8} (small : control < 0x20)
include small

theorem count_printable {bytes : Bytes} (printable : Printable bytes) :
    bytes.count control = 0 := by
  apply List.count_eq_zero.mpr
  intro member
  exact UInt8.not_le.mpr small (printable control member)

/-- The head of a block has two control bytes, whatever its style is. -/
theorem count_head (style : Style) :
    (Wire.som :: style.code).count control = [Wire.som, Color.marker].count control := by
  have positions : ∀ position ∈ Position.every, Printable position.code := by decide
  have modes : ∀ mode ∈ Mode.every, Printable mode.code := by decide
  have colors : ∀ color ∈ Color.every,
      color.code = Color.marker :: color.code.tail ∧ Printable color.code.tail := by decide
  obtain ⟨marked, plain⟩ := colors style.color (Color.mem_every style.color)
  rw [Style.code, List.count_cons, List.count_append, List.count_append, marked, List.count_cons,
    count_printable small (positions _ (Position.mem_every style.position)),
    count_printable small (modes _ (Mode.mem_every style.mode)),
    count_printable small plain, List.count_cons, List.count_cons, List.count_nil]
  omega

theorem count_wire {block : Block} (absent : control ∉ block.text) :
    block.wire.count control = [Wire.som, Color.marker].count control := by
  rw [Block.wire, List.count_append, count_head small, List.count_eq_zero.mpr absent, Nat.add_zero]

theorem count_payload (label : Label) {blocks : List Block}
    (absent : ∀ block ∈ blocks, control ∉ block.text) :
    (Command.writeText label blocks).payload.count control =
      blocks.length * [Wire.som, Color.marker].count control := by
  have opening : Printable ['A'.toUInt8, label.byte] :=
    .cons (by decide) (.cons label.printable.1 nofun)
  have split : (Command.writeText label blocks).payload =
      ['A'.toUInt8, label.byte] ++ blocks.flatMap Block.wire := rfl
  have each : ∀ block ∈ blocks, (List.count control ∘ Block.wire) block =
      [Wire.som, Color.marker].count control :=
    fun block member => count_wire small (absent block member)
  rw [split, List.count_append, count_printable small opening, Nat.zero_add, List.count_flatMap,
    List.map_congr_left each, List.map_const', List.sum_replicate_nat]

end Counting

/-- A message of clean words holds none of the bytes that frame a transmission. The two that open a
block stand once in each block, and never in its text. Every control byte of a text asks for
something, and what is asked for is what the tags of the message say, in their order. -/
theorem message_controls (charset : Charset) (label : Label) {words : List String}
    (clean : ∀ text ∈ words, Clean text) :
    let blocks := compile charset.table (tokenizeAll words)
    let payload := (compileMessage charset.table label words).payload
    (∀ control ∈ [0x00, 0x01, 0x02, 0x04], control ∉ payload) ∧
      (∀ mark ∈ [0x1B, 0x1C], payload.count mark = blocks.length ∧
        ∀ block ∈ blocks, (Wire.som :: block.style.code).count mark = 1 ∧ mark ∉ block.text) ∧
      (∀ block ∈ blocks, Asking block.text) ∧
      ∃ parts, parts.flatten = insertions (meanings (tokenizeAll words)) ∧
        List.Forall₂ Woven parts (blocks.map Block.text) := by
  intro blocks payload
  have visible : ∀ word, .literal word ∈ tokenizeAll words →
      Printable (DegreeScan.normal (charset.table.transcode word)) :=
    fun _ literal => printable_literal charset clean literal
  have absent {control : UInt8} (small : control < 0x20)
      (foreign : control ∉ [0x13, 0x0B, 0x10]) : ∀ block ∈ blocks, control ∉ block.text := by
    intro block member
    obtain ⟨inserted, woven⟩ := woven_block charset.table visible member
    exact woven.notMem small foreign
  refine ⟨?_, ?_, ?_, woven_compile charset.table visible⟩
  · intro control member
    have framing : control < 0x20 ∧ control ∉ [0x13, 0x0B, 0x10] ∧
        [Wire.som, Color.marker].count control = 0 := by
      simp only [List.mem_cons, List.not_mem_nil, or_false] at member
      rcases member with rfl | rfl | rfl | rfl <;> decide
    obtain ⟨small, foreign, never⟩ := framing
    have count := count_payload small label (absent small foreign)
    rw [never, Nat.mul_zero] at count
    exact List.count_eq_zero.mp count
  · intro mark member
    have heading : mark < 0x20 ∧ mark ∉ [0x13, 0x0B, 0x10] ∧
        [Wire.som, Color.marker].count mark = 1 := by
      simp only [List.mem_cons, List.not_mem_nil, or_false] at member
      rcases member with rfl | rfl <;> decide
    obtain ⟨small, foreign, once⟩ := heading
    have missing := absent small foreign
    have count := count_payload small label missing
    rw [once, Nat.mul_one] at count
    refine ⟨count, ?_⟩
    intro block listed
    exact ⟨(count_head small block.style).trans once, missing block listed⟩
  · intro block member
    obtain ⟨inserted, woven⟩ := woven_block charset.table visible member
    exact woven.asking

/-- A vertical tab is a blank in a word, though the same byte in a text asks for the date. The first
word behind the cut only looks like a tag. -/
theorem message_controls_mixed :
    let words := ["[blue] 20°\tnow [timeday]\x0B[str3]", "[top]", "", "[[time] [time]\u0085"]
    let blocks := compile Charset.extended.table (tokenizeAll words)
    let payload := (compileMessage Charset.extended.table .priority words).payload
    (∀ text ∈ words, Clean text) ∧ Wire.eot ∉ payload ∧ payload.count Wire.som = blocks.length ∧
      blocks.length = 2 ∧ ∃ parts, parts.flatten = [.timeDay, .stringFile 3, .time] ∧
        List.Forall₂ Woven parts (blocks.map Block.text) := by
  intro words blocks payload
  have clean : ∀ text ∈ words, Clean text := by decide +kernel
  obtain ⟨framing, heading, -, parts, order, woven⟩ :=
    message_controls .extended .priority clean
  have asked : insertions (meanings (tokenizeAll words)) = [.timeDay, .stringFile 3, .time] := by
    decide +kernel
  refine ⟨clean, framing _ (by decide), (heading _ (by decide)).1, by decide +kernel, parts, ?_, woven⟩
  rw [order, asked]

end Marquee.Proofs.ControlBytes

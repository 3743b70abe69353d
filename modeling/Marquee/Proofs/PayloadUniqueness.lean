import Marquee.Command
import Mathlib.Data.List.Forall2

/-! What can be told from a payload. The fields of a block differ in width and nothing says how wide
they are, but no code is the start of another one, and a block ends where the next one opens. So a
payload is read from left to right in one way only. -/

namespace Marquee.Proofs.PayloadUniqueness

section Codes

/-- No code of one thing is the start of the code of another. -/
def PrefixFree {α : Type} (code : α → Bytes) : Prop :=
  ∀ first second, code first <+: code second → code first = code second

theorem PrefixFree.append_inj {α : Type} {code : α → Bytes} (free : PrefixFree code)
    {first second : α} {rest other : Bytes} (same : code first ++ rest = code second ++ other) :
    code first = code second ∧ rest = other := by
  have start : code first <+: code second ++ other := by
    rw [← same]
    exact List.prefix_append _ _
  have equal : code first = code second := by
    rcases List.prefix_or_prefix_of_prefix start (List.prefix_append _ _) with shorter | longer
    · exact free _ _ shorter
    · exact (free _ _ longer).symm
  rw [equal, List.append_cancel_left_eq] at same
  exact ⟨equal, same⟩

theorem prefixFree_position : PrefixFree Position.code := by
  intro first second
  cases first <;> cases second <;> decide

theorem prefixFree_color : PrefixFree Color.code := by
  have free : ∀ first ∈ Color.every, ∀ second ∈ Color.every,
      first.code <+: second.code → first.code = second.code := by decide
  exact fun first second => free first first.mem_every second second.mem_every

/-- The first byte of a mode's code tells how long the code is. -/
theorem length_mode_code (mode : Mode) :
    mode.code.length = if mode.code.head? = some 'n'.toUInt8 then 2 else 1 := by
  have told : ∀ mode ∈ Mode.every,
      mode.code.length = if mode.code.head? = some 'n'.toUInt8 then 2 else 1 := by decide
  exact told mode mode.mem_every

theorem prefixFree_mode : PrefixFree Mode.code := by
  intro first second start
  have filled : first.code ≠ [] := by cases first <;> exact List.cons_ne_nil _ _
  have heads : first.code.head? = second.code.head? := by
    obtain ⟨rest, whole⟩ := start
    rw [← whole, List.head?_append_of_ne_nil _ filled]
  apply start.eq_of_length
  rw [length_mode_code, length_mode_code, heads]

theorem position_code_inj {first second : Position} (same : first.code = second.code) :
    first = second := by
  revert same
  cases first <;> cases second <;> decide

theorem color_code_inj {first second : Color} (same : first.code = second.code) :
    first = second := by
  have distinct : ∀ first ∈ Color.every, ∀ second ∈ Color.every,
      first.code = second.code → first = second := by decide
  exact distinct first first.mem_every second second.mem_every same

/-- The modes that a sign cannot tell apart. -/
def twins : List (Mode × Mode) := [(.animal, .fish), (.turboCar, .balloons)]

theorem mode_code_eq_iff (first second : Mode) :
    first.code = second.code ↔
      first = second ∨ (first, second) ∈ twins ∨ (second, first) ∈ twins := by
  have distinct : ∀ first ∈ Mode.every, ∀ second ∈ Mode.every, first.code = second.code ↔
      first = second ∨ (first, second) ∈ twins ∨ (second, first) ∈ twins := by decide +kernel
  exact distinct first first.mem_every second second.mem_every

theorem style_append_inj {first second : Style} {rest other : Bytes}
    (same : first.code ++ rest = second.code ++ other) :
    first.position = second.position ∧ first.mode.code = second.mode.code ∧
      first.color = second.color ∧ rest = other := by
  simp only [Style.code, List.append_assoc] at same
  obtain ⟨position, same⟩ := prefixFree_position.append_inj same
  obtain ⟨mode, same⟩ := prefixFree_mode.append_inj same
  obtain ⟨color, same⟩ := prefixFree_color.append_inj same
  exact ⟨position_code_inj position, mode, color_code_inj color, same⟩

end Codes

section Blocks

/-- What a sign can tell of two blocks is the same. -/
structure Alike (first second : Block) : Prop where
  position : first.style.position = second.style.position
  mode : first.style.mode.code = second.style.mode.code
  color : first.style.color = second.style.color
  text : first.text = second.text

theorem Alike.wire {first second : Block} (alike : Alike first second) :
    first.wire = second.wire := by
  simp only [Block.wire, Style.code, alike.position, alike.mode, alike.color, alike.text]

theorem flatMap_wire_congr {first second : List Block} (alike : List.Forall₂ Alike first second) :
    first.flatMap Block.wire = second.flatMap Block.wire := by
  induction alike with
  | nil => rfl
  | cons block _ ih => rw [List.flatMap_cons, List.flatMap_cons, block.wire, ih]

/-- The text of a block ends where the next block opens. -/
private theorem text_append_inj {first second : Bytes} {blocks others : List Block}
    (plain : Wire.som ∉ first) (clean : Wire.som ∉ second)
    (same : first ++ blocks.flatMap Block.wire = second ++ others.flatMap Block.wire) :
    first = second ∧ blocks.flatMap Block.wire = others.flatMap Block.wire := by
  -- Up to the first opening byte both sides are their text, so reading that far tells it.
  have ends {text : Bytes} (absent : Wire.som ∉ text) (blocks : List Block) :
      (text ++ blocks.flatMap Block.wire).takeWhile (· != Wire.som) = text := by
    have whole : ∀ byte ∈ text, (byte != Wire.som) = true := by
      intro byte member
      rw [bne_iff_ne]
      rintro rfl
      exact absent member
    rw [List.takeWhile_append_of_pos whole]
    cases blocks with
    | nil => simp
    | cons block blocks => simp [Block.wire]
  have texts : first = second := by rw [← ends plain blocks, same, ends clean others]
  rw [texts, List.append_cancel_left_eq] at same
  exact ⟨texts, same⟩

theorem flatMap_wire_eq_iff {first second : List Block}
    (plain : ∀ block ∈ first, Wire.som ∉ block.text)
    (clean : ∀ block ∈ second, Wire.som ∉ block.text) :
    first.flatMap Block.wire = second.flatMap Block.wire ↔ List.Forall₂ Alike first second := by
  refine ⟨?_, flatMap_wire_congr⟩
  intro same
  induction first generalizing second with
  | nil =>
    cases second with
    | nil => exact .nil
    | cons block blocks => cases same
  | cons block blocks ih =>
    cases second with
    | nil => cases same
    | cons other others =>
      rw [List.forall_mem_cons] at plain clean
      simp only [List.flatMap_cons, Block.wire, List.cons_append, List.cons.injEq, true_and,
        List.append_assoc] at same
      obtain ⟨position, mode, color, same⟩ := style_append_inj same
      obtain ⟨text, same⟩ := text_append_inj plain.1 clean.1 same
      exact .cons ⟨position, mode, color, text⟩ (ih plain.2 clean.2 same)

end Blocks

/-- A command whose blocks can be told apart. What is in raw bytes is not known. -/
def Legible : Command → Prop
  | .writeText _ blocks => ∀ block ∈ blocks, Wire.som ∉ block.text
  | .writeString _ _ | .writeSpecial _ _ => True
  | .raw _ => False

/-- The same command, but for modes that a sign cannot tell apart. -/
inductive Same : Command → Command → Prop
  | text (label : Label) {blocks others : List Block} (alike : List.Forall₂ Alike blocks others) :
      Same (.writeText label blocks) (.writeText label others)
  | string (label : Label) (data : Bytes) : Same (.writeString label data) (.writeString label data)
  | special (function : SpecialFunction) (data : Bytes) :
      Same (.writeSpecial function data) (.writeSpecial function data)

theorem label_byte_inj {first second : Label} (same : first.byte = second.byte) :
    first = second := by
  cases first
  cases second
  cases same
  rfl

theorem function_byte_inj {first second : SpecialFunction} (same : first.byte = second.byte) :
    first = second := by
  revert same
  cases first <;> cases second <;> decide

theorem Same.payload {first second : Command} (same : Same first second) :
    first.payload = second.payload := by
  cases same with
  | text label alike => rw [Command.payload, Command.payload, flatMap_wire_congr alike]
  | string | special => rfl

/-- Two commands have one payload only if they are the same in all that a sign can tell, and of the
modes it cannot tell the animals from the fish or the car from the balloons. -/
theorem payload_eq_iff {first second : Command} (legible : Legible first)
    (readable : Legible second) :
    (first.payload = second.payload ↔ Same first second) ∧
      ∀ mode other : Mode, mode.code = other.code ↔
        mode = other ∨ (mode, other) ∈ twins ∨ (other, mode) ∈ twins := by
  refine ⟨⟨?_, Same.payload⟩, mode_code_eq_iff⟩
  intro same
  cases first with
  | writeText label blocks =>
    cases second with
    | writeText other others =>
      simp only [Command.payload, List.cons.injEq, true_and] at same
      obtain rfl := label_byte_inj same.1
      exact .text label ((flatMap_wire_eq_iff legible readable).mp same.2)
    | writeString | writeSpecial => cases same
    | raw => exact readable.elim
  | writeString label data =>
    cases second with
    | writeString other others =>
      simp only [Command.payload, List.cons.injEq, true_and] at same
      obtain ⟨labels, rfl⟩ := same
      obtain rfl := label_byte_inj labels
      exact .string label data
    | writeText | writeSpecial => cases same
    | raw => exact readable.elim
  | writeSpecial function data =>
    cases second with
    | writeSpecial other others =>
      simp only [Command.payload, List.cons.injEq, true_and] at same
      obtain ⟨functions, rfl⟩ := same
      obtain rfl := function_byte_inj functions
      exact .special function data
    | writeText | writeString => cases same
    | raw => exact readable.elim
  | raw => exact legible.elim

/-- The text of the first block imitates the codes of a style. The modes differ in name alone. -/
theorem payload_eq_iff_twins :
    let text := Style.code {} ++ [' '.toUInt8]
    let first := [⟨{ mode := .animal }, text⟩, ⟨{ color := .blue }, []⟩]
    let second := [⟨{ mode := .fish }, text⟩, ⟨{ color := .blue }, []⟩]
    Legible (.writeText .priority first) ∧ Legible (.writeText .priority second) ∧
      first ≠ second ∧
      (Command.writeText .priority first).payload = (Command.writeText .priority second).payload ∧
      Same (.writeText .priority first) (.writeText .priority second) := by
  intro text first second
  have plain : ∀ block ∈ first, Wire.som ∉ block.text := by decide
  have clean : ∀ block ∈ second, Wire.som ∉ block.text := by decide
  have legible : Legible (.writeText .priority first) := plain
  have readable : Legible (.writeText .priority second) := clean
  have same : (Command.writeText .priority first).payload =
      (Command.writeText .priority second).payload := by decide
  exact ⟨legible, readable, by decide, same, (payload_eq_iff legible readable).1.mp same⟩

end Marquee.Proofs.PayloadUniqueness

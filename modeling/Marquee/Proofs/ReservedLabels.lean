import Marquee.Invocation
import Marquee.Proofs.Checks
import Marquee.Proofs.LayoutRoundTrip
import Marquee.Proofs.MessageReading

/-! Strings and the room that a sign has for them. Who lays out the memory of a sign is told that
two labels are taken. Under any other label there is room for a string, in the very file that the
command writes or that the message asks for. A message may ask for a string by any digit, though
there is no room for one of them. -/

namespace Marquee.Proofs.ReservedLabels
open Memory Message
open Checks DescriptorGrammar LayoutRoundTrip MessageReading

/-- What asks for room for a string of so many bytes. -/
def descriptor (label : String) (size : UInt16) : String :=
  "s[" ++ label ++ "," ++ size.toNat.repr ++ "]"

/-- There is room for a string under this label unless it is too long, and it is the room of this
file. -/
def Storable (label : String) (file : Label) : Prop :=
  ∀ size, FileSpec.parse (descriptor label size) =
    if size ≤ 125 then .ok ⟨.string, file, size⟩ else .error .stringSize

/-- The label of the string that a digit stands for. -/
def digitLabel (digit : Fin 10) : Label where
  byte := 0x30 + digit.val.toUInt8
  printable := by
    revert digit
    decide

/-- A message is written in which a tag asks for the string of this digit. -/
structure CallsFor (invocation : Invocation) (digit : Fin 10) : Prop where
  message : invocation.action = .encode .text
  tagged : .tag ("str" ++ digit.val.repr) ∈ tokenizeAll invocation.data

section Room
variable {char : Char} {file : Label}

theorem described_room (named : file.byte.toNat = char.toNat) (size : UInt16) :
    ∃ digits, Described (descriptor (String.singleton char) size) .string char digits ∧
      value digits = size.toNat := by
  have same : Char.ofUInt8 file.byte = char := Char.toNat_inj.mp named
  have whole : written 0 ⟨.string, file, size⟩ = descriptor (String.singleton char) size := by
    rw [← String.toList_inj]
    simp [written, descriptor, letter, same, Nat.toList_repr]
  have parts := described_written 0 ⟨.string, file, size⟩
  rw [whole, same] at parts
  exact ⟨_, parts, value_toDigits 0 size.toNat⟩

theorem storable_of_labelled (named : file.byte.toNat = char.toNat)
    (labelled : Labelled .string char) : Storable (String.singleton char) file := by
  intro size
  obtain ⟨digits, parts, counted⟩ := described_room named size
  have bound := size.toNat_lt
  have short : size ≤ 125 ↔ size.toNat ≤ 125 := UInt16.le_iff_toNat_le
  apply parse_of_answered
  split
  next fits =>
    rw [short, ← counted] at fits
    exact .accepted parts labelled (fun _ => fits) named counted.symm
  next long =>
    rw [short, ← counted, Nat.not_le] at long
    exact .stringSize parts labelled (by omega) long

theorem named_of_parse {label : String} (read : Label.parse label = .ok file) :
    ∃ char, label = String.singleton char ∧ file.byte.toNat = char.toNat ∧
      0x20 ≤ char.toNat ∧ char.toNat ≤ 0x7E := by
  unfold Label.parse at read
  split at read
  next char only =>
    have printable : 0x20 ≤ char.toNat ∧ char.toNat ≤ 0x7E := by
      by_contra outside
      rw [ofChar_unprintable (by omega)] at read
      cases read
    obtain ⟨other, found, named⟩ := ofChar_printable printable
    obtain rfl : other = file := Except.ok.inj (found.symm.trans read)
    refine ⟨char, ?_, named, printable⟩
    rw [← String.toList_inj, only, String.toList_singleton]
  next => cases read

/-- Of what can be a label at all, a string can have everything but the two that are taken. -/
theorem storable_of_parse {label : String} (read : Label.parse label = .ok file)
    (ordinary : label ≠ "0") (carried : label ≠ "?") : Storable label file := by
  obtain ⟨char, rfl, named, printable⟩ := named_of_parse read
  apply storable_of_labelled named
  refine ⟨printable, ?_, fun _ => ?_⟩
  · rintro rfl
    exact ordinary rfl
  · rintro rfl
    exact carried rfl

theorem repr_digit (digit : Fin 10) :
    digit.val.repr = String.singleton (Insertion.fileLabel digit) ∧
      (digitLabel digit).byte.toNat = (Insertion.fileLabel digit).toNat := by
  revert digit
  decide

theorem tag_digit (digit : Fin 10) :
    (Insertion.stringFile digit).tag = "str" ++ digit.val.repr := by
  revert digit
  decide

theorem storable_digit {digit : Fin 10} (other : digit ≠ 0) :
    Storable digit.val.repr (digitLabel digit) := by
  have ordinary : ∀ digit, let char := Insertion.fileLabel digit
      (0x20 ≤ char.toNat ∧ char.toNat ≤ 0x7E) ∧ (digit ≠ 0 → char ≠ '0') ∧ char ≠ '?' := by decide
  obtain ⟨printable, nonzero, carried⟩ := ordinary digit
  obtain ⟨same, named⟩ := repr_digit digit
  rw [same]
  exact storable_of_labelled named ⟨printable, nonzero other, fun _ => carried⟩

/-- No size helps a label that is taken. -/
theorem no_room_for_zero (size : UInt16) :
    FileSpec.parse (descriptor "0" size) = .error .priorityFile := by
  have named : Label.priority.byte.toNat = '0'.toNat := rfl
  obtain ⟨digits, parts, -⟩ := described_room named size
  exact parse_of_answered (.priority parts)

end Room

/-- A message asks for the string of a label that no sign has room for. -/
theorem reserved_digit_called_for :
    let message : Invocation := { data := ["[str0]"] }
    let block : Block := ⟨{}, [0x10, '0'.toUInt8]⟩
    message.command .utf8 = .ok (.writeText ⟨'A'.toUInt8, by decide⟩ [block]) ∧
      CallsFor message 0 ∧ FileSpec.parse "s[0,1]" = .error .priorityFile := by
  have tokens : tokenizeAll ["[str0]"] = [.tag "str0"] := by rfl
  refine ⟨by rfl, ⟨rfl, ?_⟩, no_room_for_zero 1⟩
  rw [tokens]
  exact List.mem_singleton_self _

section Message
variable (glyphs : GlyphTable)

theorem text_prefix (front back : List Item) :
    text glyphs front <+: text glyphs (front ++ back) := by
  induction back using List.reverseRecOn with
  | nil => simp
  | append_singleton back item ih =>
    rw [← List.append_assoc, text_concat]
    exact ih.trans (List.prefix_append _ _)

/-- Nothing changes what an insertion has put into the text. -/
theorem controlSequence_infix_text {segment : List Item} {insertion : Insertion}
    (inserted : .directive (.insert insertion) ∈ segment) :
    controlSequence insertion <:+: text glyphs segment := by
  obtain ⟨front, back, rfl⟩ := List.append_of_mem inserted
  have behind : controlSequence insertion <:+
      text glyphs (front ++ [.directive (.insert insertion)]) := by
    rw [text_concat]
    exact List.suffix_append _ _
  have early := text_prefix glyphs (front ++ [.directive (.insert insertion)]) back
  rw [List.append_assoc] at early
  exact behind.isInfix.trans early.isInfix

theorem controlSequence_infix_compile {tokens : List Token} {insertion : Insertion}
    (tagged : .tag insertion.tag ∈ tokens) :
    ∃ block ∈ compile glyphs tokens, controlSequence insertion <:+: block.text := by
  have meant : .directive (.insert insertion) ∈ meanings tokens := by
    rw [meanings, List.mem_filterMap]
    refine ⟨_, tagged, ?_⟩
    rw [Item.ofToken?, ← Directive.tag, Directive.ofTag?_tag]
    rfl
  rw [← flatten_cut glyphs (meanings tokens)] at meant
  obtain ⟨segment, member, inserted⟩ := List.mem_flatten.mp meant
  refine ⟨block glyphs segment, ?_, controlSequence_infix_text glyphs inserted⟩
  rw [compile_eq_cut]
  exact List.mem_map_of_mem member

end Message

section Built
variable {action : Action} {data : List String} {label : String} {charset : Charset}

/-- Nothing but a string is ever written as one. -/
theorem parse_of_writeString {file : Label} {bytes : Bytes}
    (built : action.command label data charset = .ok (.writeString file bytes)) :
    Label.parse label = .ok file := by
  cases action with
  | clear | resumeSequence | softReset => cases built
  | raw =>
    obtain ⟨-, same⟩ := Command.ofFragments_eq_ok_iff.mp (mapError_eq_ok_iff.mp built)
    cases same
  | encode content =>
    cases content with
    | text =>
      obtain ⟨file, -, same⟩ := bind_eq_ok_iff.mp built
      cases same
    | string =>
      obtain ⟨file, read, same⟩ := bind_eq_ok_iff.mp built
      cases same
      exact mapError_eq_ok_iff.mp read
    | setting setting =>
      obtain ⟨argument, -, -, same⟩ := Setting.encode_eq_ok_iff.mp (mapError_eq_ok_iff.mp built)
      cases same
    | memory =>
      obtain ⟨layout, -, same⟩ := map_eq_ok_iff.mp (mapError_eq_ok_iff.mp built)
      cases same

theorem blocks_of_writeText {file : Label} {blocks : List Block}
    (built : (Action.encode .text).command label data charset = .ok (.writeText file blocks)) :
    blocks = compile charset.table (tokenizeAll data) := by
  obtain ⟨file, -, same⟩ := bind_eq_ok_iff.mp built
  cases same
  rfl

end Built

/-- There is room for a string that is written under a label that is not taken, in the file that the
command writes. The digit of a string that a message calls for stands in one of its blocks, and
there is room for this string unless the digit is zero. -/
theorem storable_unless_reserved {invocation : Invocation} {charset : Charset} {command : Command}
    (built : invocation.command charset = .ok command) :
    (∀ file bytes, command = .writeString file bytes →
      invocation.label ≠ "0" → invocation.label ≠ "?" → Storable invocation.label file) ∧
    ∀ file blocks, command = .writeText file blocks → ∀ digit, CallsFor invocation digit →
      (∃ block ∈ blocks, [0x10, (digitLabel digit).byte] <:+: block.text) ∧
        (digit ≠ 0 → Storable digit.val.repr (digitLabel digit)) ∧
        (digit = 0 → ∀ size,
          FileSpec.parse (descriptor digit.val.repr size) = .error .priorityFile) := by
  constructor
  · intro file bytes same ordinary carried
    subst same
    exact storable_of_parse (parse_of_writeString built) ordinary carried
  · intro file blocks same digit ⟨message, tagged⟩
    subst same
    rw [Invocation.command, message] at built
    rw [← tag_digit] at tagged
    refine ⟨?_, storable_digit, ?_⟩
    · rw [blocks_of_writeText built]
      exact controlSequence_infix_compile _ tagged
    · intro zero
      subst zero
      exact no_room_for_zero

/-- A bracket is a label like any other, though its descriptor looks odd. Of the two strings in the
message there can only be the second. -/
theorem storable_unless_reserved_odd :
    let string : Invocation := { content := .string, label := "]", data := ["x"] }
    let message : Invocation := { data := ["[str0] [str7]"] }
    let bracket : Label := ⟨']'.toUInt8, by decide⟩
    let blocks : List Block := [⟨{}, [0x10, '0'.toUInt8, 0x10, '7'.toUInt8]⟩]
    string.command .utf8 = .ok (.writeString bracket ['x'.toUInt8]) ∧
      FileSpec.parse "s[],1]" = .ok ⟨.string, bracket, 1⟩ ∧
      message.command .utf8 = .ok (.writeText ⟨'A'.toUInt8, by decide⟩ blocks) ∧
      (∃ block ∈ blocks, [0x10, '7'.toUInt8] <:+: block.text) ∧
      FileSpec.parse "s[7,125]" = .ok ⟨.string, digitLabel 7, 125⟩ ∧
      FileSpec.parse "s[0,1]" = .error .priorityFile := by
  intro string message bracket blocks
  have stored : string.command .utf8 = .ok (.writeString bracket ['x'.toUInt8]) := by
    dsimp only [string, bracket]
    rfl
  have written : message.command .utf8 = .ok (.writeText ⟨'A'.toUInt8, by decide⟩ blocks) := by
    dsimp only [message, blocks]
    rfl
  have tokens : tokenizeAll message.data = [.tag "str0", .tag "str7"] := by rfl
  have calls : CallsFor message 0 ∧ CallsFor message 7 := by
    constructor
    · exact ⟨rfl, tokens ▸ List.mem_cons_self⟩
    · exact ⟨rfl, tokens ▸ List.mem_cons_of_mem _ List.mem_cons_self⟩
  obtain ⟨room, -⟩ := storable_unless_reserved stored
  obtain ⟨-, called⟩ := storable_unless_reserved written
  obtain ⟨inside, seven, -⟩ := called _ _ rfl 7 calls.2
  obtain ⟨-, -, zero⟩ := called _ _ rfl 0 calls.1
  exact ⟨stored, room _ _ rfl (by decide) (by decide) 1, written, inside,
    seven (by decide) 125, zero rfl 1⟩

end Marquee.Proofs.ReservedLabels

import Marquee.Action
import Marquee.Proofs.Checks
import Marquee.Proofs.FrameLanguage
import Marquee.Proofs.MessageBytes

/-! What arrives of a command. Most actions make a payload without control characters, which a
receiver hears whole. The others put the data on the line as it is, and there an EOT in the data is
the end of the transmission. -/

namespace Marquee.Proofs.CommandIntegrity
open Message (Charset)
open Checks

/-- Whether the data is sent as it stands. Everything else is digits, letters and labels. -/
def Verbatim : Action → Prop
  | .raw | .encode .text | .encode .string => True
  | .clear | .resumeSequence | .softReset | .encode .memory | .encode (.setting _) => False

def terminator : Char := '\x04'

/-- No control characters. -/
def Printable (bytes : Bytes) : Prop := ∀ byte ∈ bytes, 0x20 ≤ byte

instance (bytes : Bytes) : Decidable (Printable bytes) :=
  decidable_of_iff (bytes.all (0x20 ≤ ·)) (by simp [Printable])

theorem Printable.append {first second : Bytes} (left : Printable first) (right : Printable second) :
    Printable (first ++ second) :=
  List.forall_mem_append.mpr ⟨left, right⟩

theorem Printable.cons {byte : UInt8} {bytes : Bytes} (first : 0x20 ≤ byte)
    (rest : Printable bytes) : Printable (byte :: bytes) :=
  List.forall_mem_cons.mpr ⟨first, rest⟩

theorem Printable.ended {bytes : Bytes} (printable : Printable bytes) : Wire.eot ∉ bytes :=
  fun member => absurd (printable _ member) (by decide)

theorem Printable.eot_mem_append_iff {front rest : Bytes} (printable : Printable front) :
    Wire.eot ∈ front ++ rest ↔ Wire.eot ∈ rest := by
  simp only [List.mem_append, printable.ended, false_or]

section Settings
open Setting

def least : Place → UInt8
  | .range low _ => low.toUInt8
  | .mark char => char.toUInt8

theorem least_le {place : Place} {byte : UInt8} (holds : place.holds byte) : least place ≤ byte := by
  cases place with
  | range low high =>
    simp only [Place.holds, Bool.and_eq_true, decide_eq_true_eq] at holds
    exact holds.1
  | mark char =>
    rw [beq_iff_eq.mp holds]
    exact UInt8.le_refl _

theorem printable_of_fits {places : List Place} {bytes : Bytes}
    (shaped : ∀ place ∈ places, 0x20 ≤ least place) (fit : fits places bytes) : Printable bytes := by
  fun_induction fits places bytes with
  | case1 => exact nofun
  | case2 place places byte bytes ih =>
    rw [Bool.and_eq_true] at fit
    rw [List.forall_mem_cons] at shaped
    exact List.forall_mem_cons.mpr ⟨UInt8.le_trans shaped.1 (least_le fit.1), ih shaped.2 fit.2⟩
  | case3 => cases fit

theorem printable_of_accepts {setting : Setting} {argument : Bytes}
    (accepted : setting.accepts argument) : Printable argument := by
  cases setting with
  | time => exact printable_of_fits (by decide) accepted
  | date => exact printable_of_fits (by decide) accepted
  | dayOfWeek => exact printable_of_fits (by decide) accepted
  | sequence =>
    simp only [accepts, Bool.and_eq_true, List.all_eq_true] at accepted
    intro byte member
    have alphanumeric := accepted.2 byte member
    simp only [isAlphanumeric, Bool.or_eq_true, Bool.and_eq_true, decide_eq_true_eq] at alphanumeric
    rcases alphanumeric with (digit | upper) | lower
    · exact UInt8.le_trans (by decide) digit.1
    · exact UInt8.le_trans (by decide) upper.1
    · exact UInt8.le_trans (by decide) lower.1

theorem printable_encode {setting : Setting} {arguments : List String} {command : Command}
    (built : setting.encode arguments = .ok command) : Printable command.payload := by
  obtain ⟨argument, rfl, accepted, rfl⟩ := encode_eq_ok_iff.mp built
  have function : 0x20 ≤ setting.function.byte := by cases setting <;> decide
  simp only [Command.payload, Printable, List.forall_mem_cons]
  refine ⟨by decide, function, ?_⟩
  intro byte member
  exact printable_of_accepts accepted byte (List.mem_of_mem_filter member)

end Settings

section Memory
open Memory

private theorem printable_digit {value : Nat} (small : value < 16) :
    0x20 ≤ (Hex.digit value).toUInt8 := by
  revert value
  decide

theorem printable_word (size : UInt16) : Printable (Hex.word size) := by
  have bound : size.toNat < 65536 := size.toNat_lt
  simp only [Hex.word, Printable, List.forall_mem_map, List.forall_mem_cons]
  exact ⟨printable_digit (by omega), printable_digit (by omega), printable_digit (by omega),
    printable_digit (by omega), nofun⟩

theorem printable_entry (file : FileSpec) : Printable file.entry := by
  have kinds : Printable file.kind.protection ∧ Printable file.kind.hold := by
    cases file.kind <;> exact ⟨by decide, by decide⟩
  exact ((kinds.1.append (printable_word file.size)).append kinds.2).cons file.label.printable.1

theorem printable_layout (layout : Layout) : Printable layout.command.payload := by
  apply Printable.cons (by decide)
  apply Printable.cons (by decide)
  intro byte member
  obtain ⟨file, _, inside⟩ := List.mem_flatMap.mp member
  exact printable_entry file byte inside

end Memory

section Data

theorem eot_mem_joined_iff (data : List String) :
    Wire.eot ∈ Command.joined data ↔ ∃ argument ∈ data, terminator ∈ argument.toList := by
  have ascii : terminator.toNat < 128 := by decide
  simp only [Command.joined, List.mem_flatMap]
  exact exists_congr fun argument => and_congr_right' (CharacterBytes.mem_utf8_iff ascii argument)

theorem eot_mem_message_iff (charset : Charset) (data : List String) :
    Wire.eot ∈ (Message.compile charset.table (Message.tokenizeAll data)).flatMap Block.wire ↔
      ∃ argument ∈ data, terminator ∈ argument.toList := by
  have ascii : terminator.toNat < 128 := by decide
  -- An EOT survives the tokenizer, the characters and the degree scan, and none of them makes one.
  rw [MessageBytes.mem_compile_iff _ MessageBytes.worded_eot,
    ← Tokens.mem_literal_iff (by decide : ¬ Text.isBlank terminator) (by decide)]
  refine exists_congr fun word => and_congr_right' ?_
  rw [DegreeScan.mem_normal_iff (by decide)]
  exact CharacterBytes.mem_transcode_iff ascii charset word

end Data

section Commands
variable {action : Action} {label : String} {data : List String} {charset : Charset}
  {command : Command} (built : action.command label data charset = .ok command)
include built

theorem printable_payload (fixed : ¬ Verbatim action) : Printable command.payload := by
  cases action with
  | clear =>
    cases built
    exact printable_layout []
  | resumeSequence | softReset =>
    cases built
    decide
  | raw => exact absurd trivial fixed
  | encode content =>
    cases content with
    | text | string => exact absurd trivial fixed
    | setting setting => exact printable_encode (mapError_eq_ok_iff.mp built)
    | memory =>
      obtain ⟨layout, _, rfl⟩ := map_eq_ok_iff.mp (mapError_eq_ok_iff.mp built)
      exact printable_layout layout

theorem eot_mem_payload_iff (verbatim : Verbatim action) :
    Wire.eot ∈ command.payload ↔ ∃ argument ∈ data, terminator ∈ argument.toList := by
  -- What stands in front of the data never holds an EOT.
  have header {letter : UInt8} (printed : 0x20 ≤ letter) (file : Label) :
      Printable [letter, file.byte] :=
    .cons printed (.cons file.printable.1 nofun)
  cases action with
  | clear | resumeSequence | softReset => exact verbatim.elim
  | raw =>
    obtain ⟨_, rfl⟩ := Command.ofFragments_eq_ok_iff.mp (mapError_eq_ok_iff.mp built)
    exact eot_mem_joined_iff data
  | encode content =>
    cases content with
    | memory | setting _ => exact verbatim.elim
    | string =>
      obtain ⟨file, _, stored⟩ := bind_eq_ok_iff.mp built
      cases stored
      rw [← eot_mem_joined_iff]
      exact (header (by decide) file).eot_mem_append_iff
    | text =>
      obtain ⟨file, _, compiled⟩ := bind_eq_ok_iff.mp built
      cases compiled
      rw [← eot_mem_message_iff charset]
      exact (header (by decide) file).eot_mem_append_iff

/-- A command arrives as it was made, whatever the address and the class of the sign, unless its
data is sent as it stands and holds the character that ends a transmission. Then the sign gets what
comes before the first such character. -/
theorem command_arrives (address : Address) (signType : SignType) :
    (Frame.decode (Frame.ofCommand address signType command).wire =
        .ok ⟨address, signType, command.payload⟩ ↔
      ¬ Verbatim action ∨ ∀ argument ∈ data, terminator ∉ argument.toList) ∧
    (Verbatim action → (∃ argument ∈ data, terminator ∈ argument.toList) →
      ∃ front back, command.payload = front ++ Wire.eot :: back ∧ Wire.eot ∉ front ∧
        Frame.decode (Frame.ofCommand address signType command).wire =
          .ok ⟨address, signType, front⟩) := by
  have whole := FrameLanguage.decode_wire_eq_iff (Frame.ofCommand address signType command)
  constructor
  · refine whole.trans ?_
    by_cases verbatim : Verbatim action
    · have held := eot_mem_payload_iff built verbatim
      simp only [Frame.ofCommand, held, verbatim, not_true_eq_false, false_or, not_exists, not_and]
    · have ended := (printable_payload built verbatim).ended
      simp only [Frame.ofCommand, ended, verbatim, not_false_eq_true, true_or]
  · intro verbatim held
    rw [← eot_mem_payload_iff built verbatim] at held
    obtain ⟨front, back, split, first⟩ := List.eq_append_cons_of_mem held
    exact ⟨front, back, split, first, FrameLanguage.decode_wire_cut first split⟩

end Commands

/-- The message is cut in the middle of its last word. -/
theorem command_arrives_cut :
    let data := ["[red]", "warm\x04er"]
    let command := Message.compileMessage Charset.utf8.table ⟨'A'.toUInt8, by decide⟩ data
    let decoded := Frame.decode (Frame.ofCommand .broadcast .allSigns command).wire
    (Action.encode .text).command "A" data .utf8 = .ok command ∧ Verbatim (.encode .text) ∧
      (∃ argument ∈ data, terminator ∈ argument.toList) ∧
      decoded ≠ .ok ⟨.broadcast, .allSigns, command.payload⟩ ∧
      ∃ front back, command.payload = front ++ Wire.eot :: back ∧ Wire.eot ∉ front ∧
        decoded = .ok ⟨.broadcast, .allSigns, front⟩ := by
  intro data command decoded
  have built : (Action.encode .text).command "A" data .utf8 = .ok command := rfl
  have held : ∃ argument ∈ data, terminator ∈ argument.toList := by decide
  obtain ⟨whole, part⟩ := command_arrives built .broadcast .allSigns
  refine ⟨built, trivial, held, ?_, part trivial held⟩
  rw [ne_eq, whole]
  rintro (fixed | clean)
  · exact fixed trivial
  · obtain ⟨argument, member, inside⟩ := held
    exact clean argument member inside

end Marquee.Proofs.CommandIntegrity

import Marquee.Proofs.CanonicalWire
import Marquee.Proofs.SettingGrammar

/-! The texts that say who should listen. The sign type is read from a name in either case or from
the letter that goes on the line, and no text is both or the name of two. An address is two
characters, and a sign sees them in upper case. What was read goes over the line and comes back. -/

namespace Marquee.Proofs.HeaderTexts
open CharacterBytes
open SettingGrammar (Between)

section Cases
variable {char other : Char}

/-- The same character, or the same letter from A to Z in the other case. -/
def Alike (char other : Char) : Prop :=
  char = other ∨ (Between 'A' 'Z' char ∧ other.toNat = char.toNat + 32) ∨
    (Between 'A' 'Z' other ∧ char.toNat = other.toNat + 32)

theorem between_iff {low high : Char} :
    Between low high char ↔ low.toNat ≤ char.toNat ∧ char.toNat ≤ high.toNat :=
  and_congr UInt32.le_iff_toNat_le UInt32.le_iff_toNat_le

theorem toLower_cases (char : Char) :
    (65 ≤ char.toNat ∧ char.toNat ≤ 90) ∧ char.toLower.toNat = char.toNat + 32 ∨
      ¬ (65 ≤ char.toNat ∧ char.toNat ≤ 90) ∧ char.toLower.toNat = char.toNat := by
  have upper : char.val ≥ 'A'.val ∧ char.val ≤ 'Z'.val ↔ 65 ≤ char.toNat ∧ char.toNat ≤ 90 :=
    between_iff
  have step : ('a'.val - 'A'.val).toNat = 32 := by decide
  rw [← upper]
  unfold Char.toLower
  split
  next letter =>
    refine .inl ⟨letter, ?_⟩
    rw [upper] at letter
    rw [← Char.toNat_val, UInt32.toNat_add, step, Char.toNat_val]
    omega
  next other => exact .inr ⟨other, rfl⟩

theorem toUpper_cases (char : Char) :
    (97 ≤ char.toNat ∧ char.toNat ≤ 122) ∧ char.toUpper.toNat = char.toNat - 32 ∨
      ¬ (97 ≤ char.toNat ∧ char.toNat ≤ 122) ∧ char.toUpper.toNat = char.toNat := by
  have lower : 'a'.val ≤ char.val ∧ char.val ≤ 'z'.val ↔ 97 ≤ char.toNat ∧ char.toNat ≤ 122 :=
    between_iff
  have step : ('A'.val - 'a'.val).toNat = 2 ^ 32 - 32 := by decide
  rw [← lower]
  unfold Char.toUpper
  split
  next letter =>
    refine .inl ⟨letter, ?_⟩
    rw [lower] at letter
    rw [← Char.toNat_val, UInt32.toNat_add, step, Char.toNat_val]
    omega
  next other => exact .inr ⟨other, rfl⟩

theorem alike_iff : Alike char other ↔ char.toLower = other.toLower := by
  have upper {char : Char} : Between 'A' 'Z' char ↔ 65 ≤ char.toNat ∧ char.toNat ≤ 90 := between_iff
  have first := toLower_cases char
  have second := toLower_cases other
  rw [Alike, upper, upper, ← Char.toNat_inj, ← Char.toNat_inj]
  omega

theorem forall₂_alike_iff {chars others : List Char} :
    List.Forall₂ Alike chars others ↔ chars.map Char.toLower = others.map Char.toLower := by
  have alike : Alike = fun char other => char.toLower = other.toLower := by
    funext char other
    exact propext alike_iff
  rw [← List.forall₂_eq_eq_eq, List.forall₂_map_left_iff, List.forall₂_map_right_iff, alike]

theorem toList_toLower (text : String) : text.toLower.toList = text.toList.map Char.toLower :=
  String.toList_map

theorem toList_toUpper (text : String) : text.toUpper.toList = text.toList.map Char.toUpper :=
  String.toList_map

end Cases

section Ascii
variable {text : String}

theorem utf8_of_ascii (ascii : ∀ char ∈ text.toList, char.toNat < 128) :
    utf8 text = text.toList.map Char.toUInt8 := by
  rw [utf8, List.map_eq_flatMap]
  exact List.flatMap_congr fun char member => utf8EncodeChar_ascii (ascii char member)

/-- Bytes below 128 are the characters of the only text that has these bytes. -/
theorem utf8_eq_iff_of_ascii {bytes : Bytes} (ascii : ∀ byte ∈ bytes, byte < 128) :
    utf8 text = bytes ↔ text.toList = bytes.map Char.ofUInt8 := by
  have small : ∀ char ∈ bytes.map Char.ofUInt8, char.toNat < 128 :=
    List.forall_mem_map.mpr fun byte member => UInt8.lt_iff_toNat_lt.mp (ascii byte member)
  have same : Char.toUInt8 ∘ Char.ofUInt8 = id := by
    funext byte
    exact UInt8.toUInt8_toUInt32 byte
  have written : utf8 (String.ofList (bytes.map Char.ofUInt8)) = bytes := by
    rw [utf8_of_ascii (by rwa [String.toList_ofList]), String.toList_ofList, List.map_map, same,
      List.map_id]
  rw [← String.toList_ofList (l := bytes.map Char.ofUInt8), String.toList_inj, ← utf8_inj, written]

end Ascii

section SignTypes
open Marquee.SignType (ofName? ofByte? ofByte?_eq_some_iff)
variable {text : String} {signType : SignType}

/-- The name in either case of its letters, or the byte that selects the class on the line. -/
def Names (text : String) (signType : SignType) : Prop :=
  List.Forall₂ Alike text.toList signType.name.toList ∨ utf8 text = [signType.byte]

theorem toLower_name (signType : SignType) :
    signType.name.toList.map Char.toLower = signType.name.toList := by
  cases signType <;> rfl

theorem ofName?_eq_some_iff :
    ofName? text = some signType ↔ List.Forall₂ Alike text.toList signType.name.toList := by
  rw [forall₂_alike_iff, toLower_name, ← toList_toLower, String.toList_inj]
  constructor
  · intro found
    unfold ofName? at found
    have same := List.find?_some found
    exact (beq_iff_eq.mp same).symm
  · intro named
    rw [ofName?, named]
    cases signType <;> rfl

theorem byte_lt (signType : SignType) : signType.byte < 128 := by
  cases signType <;> decide

theorem one_lt_length_name (signType : SignType) : 1 < signType.name.toList.length := by
  cases signType <;> decide

/-- Names are longer than the letters on the line. -/
theorem ofName?_letter (single : utf8 text = [signType.byte]) : ofName? text = none := by
  rw [Option.eq_none_iff_forall_ne_some]
  intro named found
  have ascii : ∀ byte ∈ [signType.byte], byte < 128 := List.forall_mem_singleton.mpr (byte_lt signType)
  have alone : text.toList.length = 1 := congrArg List.length ((utf8_eq_iff_of_ascii ascii).mp single)
  have long := one_lt_length_name named
  rw [← (ofName?_eq_some_iff.mp found).length_eq, alone] at long
  exact Nat.lt_irrefl 1 long

theorem signType_eq_ok_iff : SignType.parse text = .ok signType ↔ Names text signType := by
  rw [Names, ← ofName?_eq_some_iff, SignType.parse]
  split
  next named _ found =>
    have wordy : utf8 text ≠ [signType.byte] := by
      intro single
      rw [ofName?_letter single] at found
      cases found
    rw [found, or_iff_left wordy, Except.ok.injEq, Option.some_inj]
  next byte unnamed single =>
    rw [unnamed, single, or_iff_right nofun, List.singleton_inj, eq_comm (a := byte),
      ← ofByte?_eq_some_iff]
    cases ofByte? byte <;> simp
  next unnamed several =>
    rw [unnamed, or_iff_right nofun]
    exact ⟨nofun, fun single => (several _ single).elim⟩

theorem fault_of_signType {fault : Fault} (refused : SignType.parse text = .error fault) :
    fault = .unknownSignType := by
  unfold SignType.parse at refused
  split at refused
  next => cases refused
  next byte _ _ =>
    cases known : ofByte? byte with
    | none =>
      rw [known] at refused
      cases refused
      rfl
    | some signType =>
      rw [known] at refused
      cases refused
  next =>
    cases refused
    rfl

theorem signType_eq_error_iff {fault : Fault} :
    SignType.parse text = .error fault ↔
      (∀ signType, ¬ Names text signType) ∧ .unknownSignType = fault := by
  simp only [← signType_eq_ok_iff]
  cases read : SignType.parse text with
  | ok signType => simp
  | error told =>
    rw [fault_of_signType read]
    simp

theorem Names.unique {other : SignType} (named : Names text signType)
    (also_named : Names text other) : signType = other :=
  Except.ok.inj ((signType_eq_ok_iff.mpr named).symm.trans (signType_eq_ok_iff.mpr also_named))

end SignTypes

section Addresses
open Address
variable {text : String} {address : Address} {char : Char}

/-- A hexadecimal digit in either case, or a wildcard. -/
def Digit (char : Char) : Prop :=
  Between '0' '9' char ∨ Between 'A' 'F' char ∨ Between 'a' 'f' char ∨ char = '?'

def Addressed (text : String) : Prop :=
  ∃ high low, text.toList = [high, low] ∧ Digit high ∧ Digit low

theorem digit_iff : Digit char ↔ 48 ≤ char.toNat ∧ char.toNat ≤ 57 ∨
    65 ≤ char.toNat ∧ char.toNat ≤ 70 ∨ 97 ≤ char.toNat ∧ char.toNat ≤ 102 ∨ char.toNat = 63 := by
  rw [Digit, between_iff, between_iff, between_iff, ← Char.toNat_inj]
  rfl

theorem Digit.ascii (digit : Digit char) : char.toNat < 128 := by
  rw [digit_iff] at digit
  omega

theorem Digit.toUpper (digit : Digit char) : Digit char.toUpper := by
  have raised := toUpper_cases char
  rw [digit_iff] at digit ⊢
  omega

theorem toUpper_toUpper (char : Char) : char.toUpper.toUpper = char.toUpper := by
  have once := toUpper_cases char
  have twice := toUpper_cases char.toUpper
  rw [← Char.toNat_inj]
  omega

theorem toUpper_eq_wildcard_iff : char.toUpper = '?' ↔ char = '?' := by
  have raised := toUpper_cases char
  rw [← Char.toNat_inj, ← Char.toNat_inj]
  change _ = 63 ↔ _ = 63
  omega

theorem digit?_eq_some_iff {byte value : UInt8} :
    digit? byte = some value ↔
      Digit (Char.ofUInt8 byte) ∧ (Char.ofUInt8 byte).toUpper.toUInt8 = value := by
  have same : (Char.ofUInt8 byte).toNat = byte.toNat := rfl
  have bound := byte.toNat_lt
  have raised := toUpper_cases (Char.ofUInt8 byte)
  have small : (Char.ofUInt8 byte).toUpper.toNat < 256 := by omega
  have narrow : (Char.ofUInt8 byte).toUpper.toUInt8.toNat = (Char.ofUInt8 byte).toUpper.toNat :=
    Nat.mod_eq_of_lt small
  have question : byte = wildcard ↔ byte.toNat = 63 := UInt8.toNat_inj.symm
  have ends {low high : Char} : low.toUInt8 ≤ byte ∧ byte ≤ high.toUInt8 ↔
      low.toUInt8.toNat ≤ byte.toNat ∧ byte.toNat ≤ high.toUInt8.toNat :=
    and_congr UInt8.le_iff_toNat_le UInt8.le_iff_toNat_le
  have decimal : '0'.toUInt8 ≤ byte ∧ byte ≤ '9'.toUInt8 ↔ 48 ≤ byte.toNat ∧ byte.toNat ≤ 57 := ends
  have upper : 'A'.toUInt8 ≤ byte ∧ byte ≤ 'F'.toUInt8 ↔ 65 ≤ byte.toNat ∧ byte.toNat ≤ 70 := ends
  have lower : 'a'.toUInt8 ≤ byte ∧ byte ≤ 'f'.toUInt8 ↔ 97 ≤ byte.toNat ∧ byte.toNat ≤ 102 := ends
  have kept : some byte = some value ↔ byte.toNat = value.toNat := by
    rw [Option.some_inj, UInt8.toNat_inj]
  have lifted : some (byte - 0x20) = some value ↔ (2 ^ 8 - 32 + byte.toNat) % 2 ^ 8 = value.toNat := by
    rw [Option.some_inj, ← UInt8.toNat_inj, UInt8.toNat_sub]
    rfl
  rw [digit_iff, ← UInt8.toNat_inj, narrow, digit?]
  simp only [question, decimal, upper, lower]
  split
  next =>
    rw [kept]
    omega
  split
  next =>
    rw [kept]
    omega
  split
  next =>
    rw [kept]
    omega
  split
  next =>
    rw [lifted]
    omega
  next => exact ⟨nofun, by omega⟩

theorem ofUInt8_toUInt8 (ascii : char.toNat < 128) : Char.ofUInt8 char.toUInt8 = char := by
  rw [← Char.toNat_inj]
  exact toNat_toUInt8 ascii

theorem address_eq_ok_iff : Address.parse text = .ok address ↔
    ∃ high low, utf8 text = [high, low] ∧ digit? high = some address.high ∧
      digit? low = some address.low := by
  unfold Address.parse
  constructor
  · intro read
    split at read
    next high low two =>
      split at read
      next first second =>
        cases read
        exact ⟨high, low, two, first, second⟩
      next => cases read
    next => cases read
  · intro ⟨high, low, two, first, second⟩
    simp only [two, first, second]

theorem fault_of_address {fault : Fault} (refused : Address.parse text = .error fault) :
    fault = .address := by
  unfold Address.parse at refused
  split at refused
  · split at refused
    · cases refused
    · cases refused
      rfl
  · cases refused
    rfl

section Digits
variable {high low : Char} (same : text.toList = [high, low]) (first : Digit high) (second : Digit low)
include same first second

theorem utf8_digits : utf8 text = [high.toUInt8, low.toUInt8] := by
  have ascii : ∀ char ∈ text.toList, char.toNat < 128 := by
    rw [same]
    exact List.forall_mem_cons.mpr ⟨first.ascii, List.forall_mem_singleton.mpr second.ascii⟩
  rw [utf8_of_ascii ascii, same]
  rfl

omit first second in
theorem toList_raised : text.toUpper.toList = [high.toUpper, low.toUpper] := by
  rw [toList_toUpper, same]
  rfl

theorem address_of_digits : Address.parse text = .ok ⟨high.toUpper.toUInt8, low.toUpper.toUInt8⟩ := by
  have value {char : Char} (digit : Digit char) : digit? char.toUInt8 = some char.toUpper.toUInt8 := by
    rw [digit?_eq_some_iff, ofUInt8_toUInt8 digit.ascii]
    exact ⟨digit, rfl⟩
  exact address_eq_ok_iff.mpr ⟨_, _, utf8_digits same first second, value first, value second⟩

end Digits

/-- What is read is the text in upper case, and only two digits are read. -/
theorem address_iff : Address.parse text = .ok address ↔
    Addressed text ∧ address.bytes = utf8 text.toUpper := by
  constructor
  · intro read
    obtain ⟨high, low, two, first, second⟩ := address_eq_ok_iff.mp read
    rw [digit?_eq_some_iff] at first second
    have ascii : ∀ byte ∈ [high, low], byte < 128 := by
      refine List.forall_mem_cons.mpr ⟨?_, List.forall_mem_singleton.mpr ?_⟩
      · exact UInt8.lt_iff_toNat_lt.mpr first.1.ascii
      · exact UInt8.lt_iff_toNat_lt.mpr second.1.ascii
    have same := (utf8_eq_iff_of_ascii ascii).mp two
    refine ⟨⟨_, _, same, first.1, second.1⟩, ?_⟩
    rw [utf8_digits (toList_raised same) first.1.toUpper second.1.toUpper, first.2, second.2]
    rfl
  · intro ⟨⟨high, low, same, first, second⟩, raised⟩
    rw [utf8_digits (toList_raised same) first.toUpper second.toUpper] at raised
    rw [address_of_digits same first second]
    obtain ⟨_, _⟩ := address
    cases raised
    rfl

theorem address_eq_error_iff {fault : Fault} :
    Address.parse text = .error fault ↔ ¬ Addressed text ∧ .address = fault := by
  constructor
  · intro refused
    refine ⟨?_, (fault_of_address refused).symm⟩
    intro ⟨high, low, same, first, second⟩
    rw [address_of_digits same first second] at refused
    cases refused
  · intro ⟨unaddressed, told⟩
    cases read : Address.parse text with
    | ok address => exact absurd (address_iff.mp read).1 unaddressed
    | error fault => rw [fault_of_address read, told]

section Read
variable (read : Address.parse text = .ok address)
include read

/-- A text in upper case is read as it is. -/
theorem parse_again {again : String} (same : utf8 again = address.bytes) :
    Address.parse again = .ok address := by
  obtain ⟨⟨high, low, two, first, second⟩, raised⟩ := address_iff.mp read
  obtain rfl : again = text.toUpper := utf8_inj.mp (same.trans raised)
  rw [address_iff]
  refine ⟨⟨_, _, toList_raised two, first.toUpper, second.toUpper⟩, ?_⟩
  rw [raised, utf8_inj, ← String.toList_inj, toList_raised (toList_raised two), toList_raised two,
    toUpper_toUpper, toUpper_toUpper]

theorem isWildcard_iff : address.isWildcard ↔ '?' ∈ text.toList := by
  have raised := (address_iff.mp read).2
  have ascii : '?'.toNat < 128 := by decide
  rw [isWildcard, decide_eq_true_iff, raised, wildcard, mem_utf8_iff ascii, toList_toUpper,
    List.mem_map]
  simp only [toUpper_eq_wildcard_iff, exists_eq_right]

end Read
end Addresses

/-- A sign type is read from its name in either case or from its byte, no text names two of them,
and any other text is refused. An address is read from two digits, which it is in upper case. Read
again it is the same, and it is a wildcard if a question mark was in the text. Both of them go over
the line and come back, in front of the payload up to its first EOT. -/
theorem header_texts :
    (∀ text,
      (∀ signType, SignType.parse text = .ok signType ↔ Names text signType) ∧
      (∀ fault, SignType.parse text = .error fault ↔
        (∀ signType, ¬ Names text signType) ∧ .unknownSignType = fault) ∧
      ∀ first second, Names text first → Names text second → first = second) ∧
    (∀ text,
      (∀ address, Address.parse text = .ok address ↔
        Addressed text ∧ address.bytes = utf8 text.toUpper) ∧
      (∀ fault, Address.parse text = .error fault ↔ ¬ Addressed text ∧ .address = fault) ∧
      ∀ address, Address.parse text = .ok address →
        (∀ again, utf8 again = address.bytes → Address.parse again = .ok address) ∧
        (address.isWildcard ↔ '?' ∈ text.toList)) ∧
    ∀ address signType payload,
      Frame.decode (Frame.wire ⟨address, signType, payload⟩) =
        .ok ⟨address, signType, payload.takeWhile (· != Wire.eot)⟩ := by
  refine ⟨?_, ?_, fun address signType payload =>
    CanonicalWire.decode_wire_first ⟨address, signType, payload⟩⟩
  · intro text
    exact ⟨fun _ => signType_eq_ok_iff, fun _ => signType_eq_error_iff, fun _ _ => Names.unique⟩
  · intro text
    refine ⟨fun _ => address_iff, fun _ => address_eq_error_iff, ?_⟩
    intro address read
    exact ⟨fun _ => parse_again read, isWildcard_iff read⟩

/-- One letter in its two cases selects two classes, and a name in any case is one name. A character
of two bytes is no address. -/
theorem header_texts_cases :
    let wild : Address := ⟨'?'.toUInt8, 'A'.toUInt8⟩
    Names "C" .model430i ∧ Names "c" .model4200C ∧ ¬ Names "c" .model430i ∧
      SignType.parse "430I" = .ok .model430i ∧
      Address.parse "?a" = .ok wild ∧ utf8 "?A" = wild.bytes ∧ Address.parse "?A" = .ok wild ∧
      wild.isWildcard ∧ (utf8 "é").length = 2 ∧ ¬ Addressed "é" ∧
      Frame.decode (Frame.wire ⟨wild, .model4200C, [0x41, Wire.eot]⟩) =
        .ok ⟨wild, .model4200C, [0x41]⟩ := by
  intro wild
  obtain ⟨signTypes, addresses, frames⟩ := header_texts
  have large : Names "C" .model430i := .inr (by decide)
  have small : Names "c" .model4200C := .inr (by decide)
  have same (char : Char) : Alike char char := .inl rfl
  have capital : Alike 'I' 'i' := .inr (.inl ⟨⟨by decide, by decide⟩, rfl⟩)
  have spelled : List.Forall₂ Alike ['4', '3', '0', 'I'] ['4', '3', '0', 'i'] :=
    .cons (same _) (.cons (same _) (.cons (same _) (.cons capital .nil)))
  have read : Address.parse "?a" = .ok wild := by decide
  have refused : Address.parse "é" = .error .address := by decide
  obtain ⟨again, wildcard⟩ := (addresses "?a").2.2 wild read
  refine ⟨large, small, ?_, ((signTypes "430I").1 .model430i).mpr (.inl spelled), read, by decide,
    again "?A" (by decide), wildcard.mpr (by decide), by decide,
    (((addresses "é").2.1 _).mp refused).1, ?_⟩
  · intro both
    exact absurd ((signTypes "c").2.2 _ _ small both) (by decide)
  · have cut : [0x41, Wire.eot].takeWhile (· != Wire.eot) = [0x41] := by decide
    rw [frames, cut]

end Marquee.Proofs.HeaderTexts

import Marquee.Message.Glyph
import Marquee.Proofs.DegreeScan

/-! The bytes of one character. Below 128 a byte and a character are the same thing, in UTF-8 as in
the characters of a sign, so a text holds such a byte where it holds that character and nowhere
else. -/

namespace Marquee.Proofs.CharacterBytes
open Message

theorem utf8_inj {text other : String} : utf8 text = utf8 other ↔ text = other := by
  constructor
  · intro same
    rw [← String.toByteArray_inj, ← String.ofList_toList (s := text),
      ← String.ofList_toList (s := other), String.toByteArray_ofList, String.toByteArray_ofList]
    exact congrArg List.toByteArray same
  · exact congrArg utf8

theorem utf8EncodeChar_ascii {char : Char} (ascii : char.toNat < 128) :
    String.utf8EncodeChar char = [char.toUInt8] := by
  fun_cases String.utf8EncodeChar char with
  | case1 value small => rfl
  | case2 value large | case3 value large | case4 value large =>
    exact absurd (Nat.le_of_lt_succ ascii) large

private theorem ofNat_le_ofNat (bound : Nat) {value : Nat} (large : bound ≤ value)
    (small : value < 256) : UInt8.ofNat bound ≤ UInt8.ofNat value := by
  have less : bound < 256 := by omega
  rw [UInt8.le_iff_toNat_le, UInt8.toNat_ofNat_of_lt' less, UInt8.toNat_ofNat_of_lt' small]
  exact large

theorem le_of_mem_utf8EncodeChar {char : Char} (beyond : 128 ≤ char.toNat) :
    ∀ byte ∈ String.utf8EncodeChar char, 128 ≤ byte := by
  fun_cases String.utf8EncodeChar char with
  | case1 value small => exact absurd (Nat.lt_succ_of_le small) (Nat.not_lt.mpr beyond)
  | case2 value | case3 value | case4 value =>
    simp only [List.forall_mem_cons, List.not_mem_nil, false_implies, implies_true, and_true]
    and_intros <;> exact ofNat_le_ofNat 128 (by omega) (by omega)

/-- A longer character opens with a byte that neither continues one nor is a code of a sign. -/
theorem lead_le_head {char : Char} (beyond : 128 ≤ char.toNat) :
    ∀ byte ∈ (String.utf8EncodeChar char).head?, Degree.lead ≤ byte := by
  fun_cases String.utf8EncodeChar char with
  | case1 value small => exact absurd (Nat.lt_succ_of_le small) (Nat.not_lt.mpr beyond)
  | case2 value | case3 value | case4 value =>
    intro byte first
    cases first
    exact ofNat_le_ofNat 0xC2 (by omega) (by omega)

/-- Neither the characters nor the codes are ASCII. -/
theorem le_of_mem_extendedGlyphs :
    ∀ entry ∈ extendedGlyphs, 128 ≤ entry.1.toNat ∧ 128 ≤ entry.2 := by decide

theorem mem_extendedGlyphs {char : Char} {code : UInt8} (listed : extendedCode? char = some code) :
    (char, code) ∈ extendedGlyphs := by
  obtain ⟨before, after, whole, _⟩ := List.lookup_eq_some_iff.mp listed
  rw [whole]
  exact List.mem_append_right _ List.mem_cons_self

theorem le_of_extendedCode? {char : Char} {code : UInt8} (listed : extendedCode? char = some code) :
    128 ≤ char.toNat ∧ 128 ≤ code :=
  le_of_mem_extendedGlyphs (char, code) (mem_extendedGlyphs listed)

theorem glyph_ascii (charset : Charset) {char : Char} (ascii : char.toNat < 128) :
    charset.glyph char = [char.toUInt8] := by
  cases charset with
  | utf8 => exact utf8EncodeChar_ascii ascii
  | extended =>
    rw [Charset.glyph]
    split
    next code listed => exact absurd (le_of_extendedCode? listed).1 (Nat.not_le.mpr ascii)
    next => exact utf8EncodeChar_ascii ascii

theorem le_of_mem_glyph (charset : Charset) {char : Char} (beyond : 128 ≤ char.toNat) :
    ∀ byte ∈ charset.glyph char, 128 ≤ byte := by
  cases charset with
  | utf8 => exact le_of_mem_utf8EncodeChar beyond
  | extended =>
    rw [Charset.glyph]
    split
    next code listed => simpa using (le_of_extendedCode? listed).2
    next => exact le_of_mem_utf8EncodeChar beyond

section Mark
variable {mark : Char} (ascii : mark.toNat < 128)
include ascii

theorem toNat_toUInt8 : mark.toUInt8.toNat = mark.toNat := by
  change mark.toNat % 256 = _
  omega

theorem mem_glyph_iff (charset : Charset) (char : Char) :
    mark.toUInt8 ∈ charset.glyph char ↔ char = mark := by
  by_cases small : char.toNat < 128
  · rw [glyph_ascii charset small, List.mem_singleton, ← UInt8.toNat_inj, toNat_toUInt8 ascii,
      toNat_toUInt8 small, Char.toNat_inj, eq_comm]
  · have beyond := Nat.le_of_not_lt small
    constructor
    · intro member
      have large := UInt8.le_iff_toNat_le.mp (le_of_mem_glyph charset beyond _ member)
      rw [toNat_toUInt8 ascii] at large
      exact absurd ascii (Nat.not_lt.mpr large)
    · rintro rfl
      exact absurd ascii small

theorem mem_transcode_iff (charset : Charset) (text : String) :
    mark.toUInt8 ∈ charset.table.transcode text ↔ mark ∈ text.toList := by
  simp only [Charset.table, GlyphTable.ofGlyph, List.mem_flatMap, mem_glyph_iff ascii, exists_eq_right]

theorem mem_utf8_iff (text : String) : mark.toUInt8 ∈ utf8 text ↔ mark ∈ text.toList :=
  mem_transcode_iff ascii .utf8 text

end Mark

def degree : Char := '°'

private theorem ofNat_inj {value other : Nat} (small : value < 256) (less : other < 256) :
    UInt8.ofNat value = UInt8.ofNat other ↔ value = other := by
  rw [← UInt8.toNat_inj, UInt8.toNat_ofNat_of_lt' small, UInt8.toNat_ofNat_of_lt' less]

theorem normal_utf8EncodeChar (char : Char) :
    DegreeScan.normal (String.utf8EncodeChar char) =
      if char = degree then [0xA9] else String.utf8EncodeChar char := by
  have named : char = degree ↔ char.val.toNat = 176 := by
    rw [← Char.toNat_inj]
    rfl
  simp only [named]
  fun_cases String.utf8EncodeChar char with
  | case1 value small =>
    rw [if_neg (by omega)]
    rfl
  | case2 value large small =>
    have read : (UInt8.ofNat (value / 64 % 32 + 192) = 0xC2 ∧
        UInt8.ofNat (value % 64 + 128) = 0xB0) ↔ value = 176 := by
      change (_ = UInt8.ofNat 194 ∧ _ = UInt8.ofNat 176) ↔ _
      rw [ofNat_inj (by omega) (by omega), ofNat_inj (by omega) (by omega)]
      omega
    simp only [DegreeScan.normal, read]
    rfl
  | case3 value | case4 value =>
    -- What opens a longer character lies above the lead, and what continues one below it.
    rw [if_neg (by omega)]
    apply DegreeScan.normal_eq_self
    change UInt8.ofNat 194 ∉ _
    simp only [List.mem_cons, List.not_mem_nil, or_false, not_or]
    and_intros <;> rw [ofNat_inj (by omega) (by omega)] <;> omega

theorem getLast?_utf8EncodeChar (char : Char) :
    (String.utf8EncodeChar char).getLast? ≠ some Degree.lead := by
  change _ ≠ some (UInt8.ofNat 194)
  fun_cases String.utf8EncodeChar char with
  | case1 value | case2 value | case3 value | case4 value =>
    simp only [List.getLast?_cons_cons, List.getLast?_singleton, ne_eq, Option.some_inj]
    rw [ofNat_inj (by omega) (by omega)]
    omega

/-- No code of a sign could open a longer character in UTF-8. -/
theorem lt_lead_of_mem_extendedGlyphs : ∀ entry ∈ extendedGlyphs, entry.2 < Degree.lead := by decide

theorem ne_lead_of_extendedCode? {char : Char} {code : UInt8}
    (listed : extendedCode? char = some code) : code ≠ Degree.lead :=
  UInt8.ne_of_lt (lt_lead_of_mem_extendedGlyphs (char, code) (mem_extendedGlyphs listed))

theorem getLast?_glyph (charset : Charset) (char : Char) :
    (charset.glyph char).getLast? ≠ some Degree.lead := by
  cases charset with
  | utf8 => exact getLast?_utf8EncodeChar char
  | extended =>
    rw [Charset.glyph]
    split
    next code listed => simpa using ne_lead_of_extendedCode? listed
    next => exact getLast?_utf8EncodeChar char

/-- What a sign gets to see of a character. The degree sign looks the same with every table. -/
def shown (charset : Charset) (char : Char) : Bytes :=
  if char = degree then [0xA9] else charset.glyph char

theorem shown_ascii (charset : Charset) {char : Char} (ascii : char.toNat < 128) :
    shown charset char = [char.toUInt8] := by
  have other : char ≠ degree := by
    rintro rfl
    exact absurd ascii (by decide)
  rw [shown, if_neg other, glyph_ascii charset ascii]

/-- A character beyond the control characters brings no control byte. -/
theorem visible_of_mem_shown (charset : Charset) {char : Char} (visible : 0x20 ≤ char.toNat) :
    ∀ byte ∈ shown charset char, 0x20 ≤ byte := by
  intro byte member
  by_cases ascii : char.toNat < 128
  · rw [shown_ascii charset ascii, List.mem_singleton] at member
    rw [member, UInt8.le_iff_toNat_le, toNat_toUInt8 ascii]
    exact visible
  · have beyond : (0x20 : UInt8) ≤ 128 := by decide
    unfold shown at member
    split at member
    · rw [List.mem_singleton.mp member]
      decide
    · exact UInt8.le_trans beyond (le_of_mem_glyph charset (Nat.le_of_not_lt ascii) byte member)

theorem shown_ne_nil (charset : Charset) (char : Char) : shown charset char ≠ [] := by
  unfold shown
  split
  · exact List.cons_ne_nil _ _
  cases charset with
  | utf8 => exact String.utf8EncodeChar_ne_nil
  | extended =>
    rw [Charset.glyph]
    split
    next => exact List.cons_ne_nil _ _
    next => exact String.utf8EncodeChar_ne_nil

theorem shown_eq_nil_iff (charset : Charset) (chars : List Char) :
    chars.flatMap (shown charset) = [] ↔ chars = [] := by
  cases chars with
  | nil => simp
  | cons char chars => simp [shown_ne_nil charset char]

theorem extendedCode?_degree : extendedCode? degree = some 0xA9 := by decide

/-- The extended charset has the degree sign among its own, so nothing is left for the scan. -/
theorem shown_extended (char : Char) : shown .extended char = Charset.extended.glyph char := by
  unfold shown
  split
  next same => rw [same, Charset.glyph, extendedCode?_degree]
  next => rfl

theorem normal_glyph (charset : Charset) (char : Char) :
    DegreeScan.normal (charset.glyph char) = shown charset char := by
  cases charset with
  | utf8 => exact normal_utf8EncodeChar char
  | extended =>
    rw [shown_extended, Charset.glyph]
    split
    next code listed => rfl
    next unlisted =>
      have other : char ≠ degree := by
        rintro rfl
        rw [extendedCode?_degree] at unlisted
        cases unlisted
      rw [normal_utf8EncodeChar, if_neg other]

/-- The scan for degree signs never mistakes other characters for one. -/
theorem normal_transcode (charset : Charset) (text : String) :
    DegreeScan.normal (charset.table.transcode text) = text.toList.flatMap (shown charset) := by
  simp only [Charset.table, GlyphTable.ofGlyph, DegreeScan.normal_flatMap (getLast?_glyph charset),
    normal_glyph]

theorem collapse_transcode (charset : Charset) (front : Bytes) (text : String) :
    Degree.collapse front.length (front ++ charset.table.transcode text) =
      front ++ text.toList.flatMap (shown charset) := by
  rw [DegreeScan.collapse_append, normal_transcode]

/-- The code that stands for a character in a charset. What has none goes out in UTF-8. -/
def code? : Charset → Char → Option UInt8
  | .utf8, char => if char = degree then some 0xA9 else none
  | .extended, char => extendedCode? char

section Coded
variable {charset : Charset} {char : Char}

theorem shown_of_code? {code : UInt8} (coded : code? charset char = some code) :
    shown charset char = [code] := by
  cases charset with
  | utf8 =>
    obtain ⟨same, told⟩ := Option.ite_none_right_eq_some.mp coded
    cases told
    rw [shown, if_pos same]
  | extended =>
    rw [code?] at coded
    rw [shown_extended, Charset.glyph, coded]

theorem shown_of_uncoded (uncoded : code? charset char = none) :
    shown charset char = String.utf8EncodeChar char := by
  cases charset with
  | utf8 =>
    have other : char ≠ degree := by simpa [code?] using uncoded
    rw [shown, if_neg other]
    rfl
  | extended =>
    rw [code?] at uncoded
    rw [shown_extended, Charset.glyph, uncoded]

theorem mem_of_code? {code : UInt8} (coded : code? charset char = some code) :
    (char, code) ∈ extendedGlyphs := by
  cases charset with
  | utf8 =>
    obtain ⟨rfl, told⟩ := Option.ite_none_right_eq_some.mp coded
    cases told
    exact mem_extendedGlyphs extendedCode?_degree
  | extended => exact mem_extendedGlyphs coded

end Coded

end Marquee.Proofs.CharacterBytes

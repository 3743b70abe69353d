import Marquee.Proofs.PayloadUniqueness
import Marquee.Proofs.WordBytes

/-! What can be told from the bytes of a text. The codes of a sign are bytes that continue a
character in UTF-8, and nothing sets one character apart from the next. But no code ever opens a
character, so whoever reads a text from its start knows at every place which of the two it is. -/

namespace Marquee.Proofs.TextUniqueness
open Message CharacterBytes PayloadUniqueness

section Characters

theorem head?_ne_code {char : Char} {code : UInt8} (listed : (char, code) ∈ extendedGlyphs)
    (other : Char) : (String.utf8EncodeChar other).head? ≠ some code := by
  intro first
  by_cases ascii : other.toNat < 128
  · rw [utf8EncodeChar_ascii ascii, List.head?_cons, Option.some_inj] at first
    have large := UInt8.le_iff_toNat_le.mp (le_of_mem_extendedGlyphs _ listed).2
    rw [← first, toNat_toUInt8 ascii] at large
    exact absurd ascii (Nat.not_lt.mpr large)
  · have opening := lead_le_head (Nat.le_of_not_lt ascii) code first
    exact UInt8.not_le.mpr (lt_lead_of_mem_extendedGlyphs _ listed) opening

theorem eq_of_utf8EncodeChar_start {first second : Char}
    (start : String.utf8EncodeChar first <+: String.utf8EncodeChar second) : first = second := by
  obtain ⟨rest, whole⟩ := start
  -- A reader of UTF-8 finds both characters at the start of the same bytes.
  have found := ByteArray.utf8DecodeChar?_utf8EncodeChar_append (b := rest.toByteArray) (c := first)
  have other := ByteArray.utf8DecodeChar?_utf8EncodeChar_append (b := .empty) (c := second)
  rw [← List.toByteArray_append, whole] at found
  rw [ByteArray.append_empty, found, Option.some_inj] at other
  exact other

theorem code_inj : ∀ entry ∈ extendedGlyphs, ∀ other ∈ extendedGlyphs,
    entry.2 = other.2 → entry.1 = other.1 := by decide +kernel

/-- No character looks like the beginning of another one. -/
theorem eq_of_shown_start {charset : Charset} {first second : Char}
    (start : shown charset first <+: shown charset second) : first = second := by
  have heads : (shown charset second).head? = (shown charset first).head? := by
    obtain ⟨rest, whole⟩ := start
    rw [← whole, List.head?_append_of_ne_nil _ (shown_ne_nil charset first)]
  -- A code and a character in UTF-8 differ in their first byte already.
  cases coded : code? charset first with
  | some code =>
    rw [shown_of_code? coded, List.head?_cons] at heads
    cases also : code? charset second with
    | some other =>
      rw [shown_of_code? also, List.head?_cons, Option.some_inj] at heads
      exact code_inj _ (mem_of_code? coded) _ (mem_of_code? also) heads.symm
    | none =>
      rw [shown_of_uncoded also] at heads
      exact absurd heads (head?_ne_code (mem_of_code? coded) second)
  | none =>
    cases also : code? charset second with
    | some other =>
      rw [shown_of_uncoded coded, shown_of_code? also, List.head?_cons] at heads
      exact absurd heads.symm (head?_ne_code (mem_of_code? also) first)
    | none =>
      rw [shown_of_uncoded coded, shown_of_uncoded also] at start
      exact eq_of_utf8EncodeChar_start start

theorem prefixFree_shown (charset : Charset) : PrefixFree (shown charset) := by
  intro first second start
  rw [eq_of_shown_start start]

end Characters

theorem flatMap_shown_inj {charset : Charset} {first second : List Char}
    (same : first.flatMap (shown charset) = second.flatMap (shown charset)) : first = second := by
  induction first generalizing second with
  | nil =>
    cases second with
    | nil => rfl
    | cons other second =>
      rw [List.flatMap_nil, List.flatMap_cons, eq_comm, List.append_eq_nil_iff] at same
      exact absurd same.1 (shown_ne_nil charset other)
  | cons char first ih =>
    cases second with
    | nil =>
      rw [List.flatMap_nil, List.flatMap_cons, List.append_eq_nil_iff] at same
      exact absurd same.1 (shown_ne_nil charset char)
    | cons other second =>
      rw [List.flatMap_cons, List.flatMap_cons] at same
      obtain ⟨alike, rest⟩ := (prefixFree_shown charset).append_inj same
      have start : shown charset char <+: shown charset other := ⟨[], (List.append_nil _).trans alike⟩
      rw [eq_of_shown_start start, ih rest]

theorem flatMap_shown_eq_iff (charset : Charset) (text other : String) :
    text.toList.flatMap (shown charset) = other.toList.flatMap (shown charset) ↔ text = other := by
  constructor
  · intro same
    exact String.toList_inj.mp (flatMap_shown_inj same)
  · rintro rfl
    rfl

/-- Two texts are the same if their bytes are, in the extended charset as it is and in either
charset behind the scan for degree signs, wherever in a message the texts stand. -/
theorem text_eq_iff (text other : String) :
    (Charset.extended.table.transcode text = Charset.extended.table.transcode other ↔
        text = other) ∧
      ∀ charset : Charset,
        (∀ front : Bytes, Degree.collapse front.length (front ++ charset.table.transcode text) =
          Degree.collapse front.length (front ++ charset.table.transcode other) ↔ text = other) ∧
        ∀ compiler : Compiler, compiler.feed charset.table (.literal text) =
          compiler.feed charset.table (.literal other) ↔ text = other := by
  constructor
  · rw [← flatMap_shown_eq_iff .extended, funext shown_extended]
    rfl
  · intro charset
    constructor
    · intro front
      rw [collapse_transcode, collapse_transcode, List.append_cancel_left_eq, flatMap_shown_eq_iff]
    · intro compiler
      rw [WordBytes.feed_word, WordBytes.feed_word, ← flatMap_shown_eq_iff charset]
      simp

-- One byte continues the first character and is the code of the second.
example : Charset.extended.table.transcode "Ђé" = [0xD0, 0x82, 0x82] := by decide

end Marquee.Proofs.TextUniqueness

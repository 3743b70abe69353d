import Marquee.Message.Compiler
import Marquee.Proofs.Tokens

/-! A message may be given in one text or in many. Where one text ends and the next one starts is a
blank like any other, so only the row of words counts. -/

namespace Marquee.Proofs.MessageArguments
open Message Words Tokens

theorem tokenizeAll_eq_flatMap (texts : List String) :
    tokenizeAll texts = texts.flatMap tokenize :=
  List.filterMap_flatMap

theorem tokenizeAll_eq_tokenize (texts : List String) :
    tokenizeAll texts = tokenize (" ".intercalate texts) := by
  rw [tokenize, words_intercalate, tokenizeAll]

/-- Texts in a row are read as if they were joined by spaces, and as if each was read alone. Two
messages with the same row of words make the same payload, however either of them was split. -/
theorem tokenizeAll_joined (texts : List String) :
    tokenizeAll texts = tokenize (" ".intercalate texts) ∧
      tokenizeAll texts = texts.flatMap tokenize ∧
      ∀ (others : List String) (row : List (List Char)),
        Spaced row (" ".intercalate texts).toList → Spaced row (" ".intercalate others).toList →
        ∀ (glyphs : GlyphTable) (label : Label),
          (compileMessage glyphs label texts).payload =
            (compileMessage glyphs label others).payload := by
  refine ⟨tokenizeAll_eq_tokenize texts, tokenizeAll_eq_flatMap texts, ?_⟩
  intro others row spaced same glyphs label
  have tokens : tokenizeAll texts = tokenizeAll others := by
    rw [tokenizeAll_eq_tokenize, tokenizeAll_eq_tokenize, tokenize_of_spaced spaced,
      tokenize_of_spaced same]
  rw [compileMessage, compileMessage, tokens]

/-- A tab and an empty text make no difference. The second text looks like the end of a tag, but the
blank in front of it has already cut the tag in two. -/
theorem tokenizeAll_joined_cut :
    let texts := ["[top]\thello [str", "3]", ""]
    let others := ["[top]", "  hello\u00A0[str 3]"]
    let row := ["[top]", "hello", "[str", "3]"].map String.toList
    Spaced row (" ".intercalate texts).toList ∧ Spaced row (" ".intercalate others).toList ∧
      (compileMessage Charset.utf8.table .priority texts).payload =
        (compileMessage Charset.utf8.table .priority others).payload := by
  intro texts others row
  have spaced : Spaced row (" ".intercalate texts).toList := wordsOf_eq_iff.mp (by decide +kernel)
  have same : Spaced row (" ".intercalate others).toList := wordsOf_eq_iff.mp (by decide +kernel)
  obtain ⟨-, -, joined⟩ := tokenizeAll_joined texts
  exact ⟨spaced, same, joined others row spaced same Charset.utf8.table .priority⟩

end Marquee.Proofs.MessageArguments

import Marquee.Text.Blank

/-! Words and the blanks around them. A row of words can be set apart in many ways, and each of them
reads as the same row. -/

namespace Marquee.Proofs.Words
open Text

/-- A row of words with blanks between any two of them, and perhaps around them. -/
inductive Spaced : List (List Char) → List Char → Prop
  | blank {gap : List Char} (blanks : ∀ char ∈ gap, isBlank char) : Spaced [] gap
  | word {gap word rest : List Char} {row : List (List Char)}
      (blanks : ∀ char ∈ gap, isBlank char) (filled : word ≠ [])
      (solid : ∀ char ∈ word, ¬ isBlank char) (border : ∀ char ∈ rest.head?, isBlank char)
      (later : Spaced row rest) : Spaced (word :: row) (gap ++ word ++ rest)

theorem wordsOf_blank {char : Char} (blank : isBlank char) (rest : List Char) :
    wordsOf (char :: rest) = wordsOf rest := by
  simp [wordsOf, wordsFrom, blank]

theorem wordsOf_blanks {gap : List Char} (blanks : ∀ char ∈ gap, isBlank char) (rest : List Char) :
    wordsOf (gap ++ rest) = wordsOf rest := by
  induction gap with
  | nil => rfl
  | cons char gap ih =>
    rw [List.forall_mem_cons] at blanks
    rw [List.cons_append, wordsOf_blank blanks.1, ih blanks.2]

private theorem wordsFrom_border {rest : List Char} (border : ∀ char ∈ rest.head?, isBlank char) :
    wordsFrom rest = ([], wordsOf rest) := by
  cases rest with
  | nil => rfl
  | cons char rest =>
    have blank : isBlank char := border char rfl
    simp [wordsOf, wordsFrom, blank]

private theorem wordsFrom_append {word : List Char} (solid : ∀ char ∈ word, ¬ isBlank char)
    (rest : List Char) :
    wordsFrom (word ++ rest) = (word ++ (wordsFrom rest).1, (wordsFrom rest).2) := by
  induction word with
  | nil => rfl
  | cons char word ih =>
    rw [List.forall_mem_cons] at solid
    simp only [List.cons_append, wordsFrom, ih solid.2, solid.1]
    rfl

theorem wordsOf_word {word rest : List Char} (filled : word ≠ [])
    (solid : ∀ char ∈ word, ¬ isBlank char) (border : ∀ char ∈ rest.head?, isBlank char) :
    wordsOf (word ++ rest) = word :: wordsOf rest := by
  rw [wordsOf, wordsFrom_append solid, wordsFrom_border border]
  simp [filled]

theorem wordsOf_of_spaced {row : List (List Char)} {chars : List Char} (spaced : Spaced row chars) :
    wordsOf chars = row := by
  induction spaced with
  | @blank gap blanks => rw [← List.append_nil gap, wordsOf_blanks blanks]; rfl
  | word blanks filled solid border later ih =>
    rw [List.append_assoc, wordsOf_blanks blanks, wordsOf_word filled solid border, ih]

/-- A blank in front of a row belongs to the first gap. -/
private theorem spaced_cons_blank {row : List (List Char)} {chars : List Char} {char : Char}
    (blank : isBlank char) (spaced : Spaced row chars) : Spaced row (char :: chars) := by
  cases spaced with
  | blank blanks => exact .blank (List.forall_mem_cons.mpr ⟨blank, blanks⟩)
  | @word gap _ _ _ blanks filled solid border later =>
    have more : ∀ other ∈ char :: gap, isBlank other := List.forall_mem_cons.mpr ⟨blank, blanks⟩
    exact .word more filled solid border later

/-- Any other character opens a word of its own or joins the first one. -/
private theorem spaced_cons_solid {row : List (List Char)} {chars : List Char} {char : Char}
    (solid : ¬ isBlank char) (spaced : Spaced row chars) : ∃ row, Spaced row (char :: chars) := by
  have close : ∀ other ∈ ([] : List Char), isBlank other := nofun
  by_cases border : ∀ next ∈ chars.head?, isBlank next
  · have alone : ∀ other ∈ [char], ¬ isBlank other := List.forall_mem_singleton.mpr solid
    exact ⟨_, .word close (List.cons_ne_nil char []) alone border spaced⟩
  cases spaced with
  | blank blanks => exact absurd (fun next first => blanks next (List.mem_of_head? first)) border
  | @word gap word rest row blanks filled inside behind later =>
    cases gap with
    | nil =>
      have longer : ∀ other ∈ char :: word, ¬ isBlank other :=
        List.forall_mem_cons.mpr ⟨solid, inside⟩
      exact ⟨_, .word close (List.cons_ne_nil char word) longer behind later⟩
    | cons first gap => exact absurd (by simpa using blanks first List.mem_cons_self) border

theorem exists_spaced (chars : List Char) : ∃ row, Spaced row chars := by
  induction chars with
  | nil => exact ⟨[], .blank nofun⟩
  | cons char chars ih =>
    obtain ⟨row, spaced⟩ := ih
    by_cases blank : isBlank char
    · exact ⟨row, spaced_cons_blank blank spaced⟩
    · exact spaced_cons_solid blank spaced

/-- Splitting finds the one row of words that the characters can be read as. -/
theorem wordsOf_eq_iff {row : List (List Char)} {chars : List Char} :
    wordsOf chars = row ↔ Spaced row chars := by
  refine ⟨?_, wordsOf_of_spaced⟩
  rintro rfl
  obtain ⟨row, spaced⟩ := exists_spaced chars
  rw [wordsOf_of_spaced spaced]
  exact spaced

/-- A blank ends the word before it, so what stands on its two sides is read apart. -/
theorem wordsOf_append_blank {char : Char} (blank : isBlank char) (front back : List Char) :
    wordsOf (front ++ char :: back) = wordsOf front ++ wordsOf back := by
  obtain ⟨row, spaced⟩ := exists_spaced front
  rw [wordsOf_of_spaced spaced]
  induction spaced with
  | blank blanks => rw [wordsOf_blanks blanks, wordsOf_blank blank, List.nil_append]
  | @word gap word rest row blanks filled solid border later ih =>
    have behind : ∀ next ∈ (rest ++ char :: back).head?, isBlank next := by
      cases rest with
      | nil => simpa using blank
      | cons first rest => simpa using border
    rw [List.append_assoc, List.append_assoc, wordsOf_blanks blanks, wordsOf_word filled solid behind,
      ih, List.cons_append]

/-- Nothing but blanks is lost between the words. -/
theorem flatten_wordsOf (chars : List Char) :
    (wordsOf chars).flatten = chars.filter fun char => !isBlank char := by
  obtain ⟨row, spaced⟩ := exists_spaced chars
  rw [wordsOf_of_spaced spaced]
  induction spaced with
  | blank blanks =>
    symm
    rw [List.flatten_nil, List.filter_eq_nil_iff]
    intro char member
    simpa using blanks char member
  | @word gap word _ _ blanks _ solid _ _ ih =>
    have dropped : gap.filter (fun char => !isBlank char) = [] := by
      rw [List.filter_eq_nil_iff]
      intro char member
      simpa using blanks char member
    have kept : word.filter (fun char => !isBlank char) = word := by
      rw [List.filter_eq_self]
      intro char member
      simpa using solid char member
    rw [List.flatten_cons, ih, List.filter_append, List.filter_append, dropped, kept, List.nil_append]

theorem mem_wordsOf_iff {char : Char} {chars : List Char} :
    (∃ word ∈ wordsOf chars, char ∈ word) ↔ char ∈ chars ∧ ¬ isBlank char := by
  rw [← List.mem_flatten, flatten_wordsOf, List.mem_filter, Bool.not_eq_true', Bool.not_eq_true]

theorem flatMap_words (text : String) :
    (words text).flatMap String.toList = text.toList.filter fun char => !isBlank char := by
  rw [words, List.flatMap_map, ← flatten_wordsOf]
  simp only [String.toList_ofList, List.flatMap_id']

/-- Texts that are set apart by single spaces are read one after the other. -/
theorem words_intercalate (texts : List String) :
    words (" ".intercalate texts) = texts.flatMap words := by
  induction texts with
  | nil => rfl
  | cons text texts ih =>
    cases texts with
    | nil => simp
    | cons next texts =>
      have split : (" ".intercalate (text :: next :: texts)).toList =
          text.toList ++ ' ' :: (" ".intercalate (next :: texts)).toList := by
        rw [String.intercalate_cons_cons, String.toList_append, String.toList_append,
          List.append_assoc]
        rfl
      rw [words, split, wordsOf_append_blank (by decide), List.map_append, List.flatMap_cons, ← ih]
      rfl

theorem spaced_flatMap {row : List (List Char)}
    (words : ∀ word ∈ row, word ≠ [] ∧ ∀ char ∈ word, ¬ isBlank char) :
    Spaced row (row.flatMap (' ' :: ·)) := by
  induction row with
  | nil => exact .blank nofun
  | cons word row ih =>
    rw [List.forall_mem_cons] at words
    have gap : ∀ char ∈ [' '], isBlank char := List.forall_mem_singleton.mpr (by decide)
    have border : ∀ char ∈ (row.flatMap (' ' :: ·)).head?, isBlank char := by
      cases row with
      | nil => exact nofun
      | cons next row => simpa using gap ' ' List.mem_cons_self
    rw [List.flatMap_cons]
    exact .word gap words.1.1 words.1.2 border (ih words.2)

theorem Spaced.solid {row : List (List Char)} {chars : List Char} (spaced : Spaced row chars) :
    ∀ word ∈ row, word ≠ [] ∧ ∀ char ∈ word, ¬ isBlank char := by
  induction spaced with
  | blank => exact nofun
  | word blanks filled solid border later ih => exact List.forall_mem_cons.mpr ⟨⟨filled, solid⟩, ih⟩

section Written

/-- Words as they are written down, each with the gap behind it. -/
def written (lead : List Char) (row : List (List Char × List Char)) : List Char :=
  lead ++ row.flatMap fun (word, gap) => word ++ gap

/-- Nothing but blanks around the words, and at least one between any two of them. -/
structure Apart (lead : List Char) (row : List (List Char × List Char)) : Prop where
  lead : ∀ char ∈ lead, isBlank char
  gaps : ∀ entry ∈ row, ∀ char ∈ entry.2, isBlank char
  between : ∀ entry ∈ row.dropLast, entry.2 ≠ []

instance (lead : List Char) (row : List (List Char × List Char)) : Decidable (Apart lead row) :=
  decidable_of_iff (lead.all isBlank ∧ (row.all fun entry => entry.2.all isBlank) ∧
      row.dropLast.all fun entry => entry.2 ≠ []) <| by
    simp only [List.all_eq_true, decide_eq_true_eq]
    constructor
    · rintro ⟨lead, gaps, between⟩
      exact ⟨lead, gaps, between⟩
    · rintro ⟨lead, gaps, between⟩
      exact ⟨lead, gaps, between⟩

theorem Apart.later {lead word gap : List Char} {row : List (List Char × List Char)}
    (apart : Apart lead ((word, gap) :: row)) : Apart gap row where
  lead := apart.gaps (word, gap) List.mem_cons_self
  gaps := fun entry member => apart.gaps entry (List.mem_cons_of_mem _ member)
  between := by
    intro entry member
    apply apart.between
    cases row with
    | nil => cases member
    | cons next row => exact List.mem_cons_of_mem _ member

/-- The word ends where its gap starts, and without one it is the last. -/
theorem Apart.border {lead word gap : List Char} {row : List (List Char × List Char)}
    (apart : Apart lead ((word, gap) :: row)) : ∀ char ∈ (written gap row).head?, isBlank char := by
  cases gap with
  | nil =>
    cases row with
    | nil => exact nofun
    | cons next row => exact absurd rfl (apart.between (word, []) List.mem_cons_self)
  | cons first gap =>
    intro char head
    cases head
    exact apart.later.lead first List.mem_cons_self

theorem spaced_written {lead : List Char} {row : List (List Char × List Char)}
    (apart : Apart lead row)
    (words : ∀ word ∈ row.map Prod.fst, word ≠ [] ∧ ∀ char ∈ word, ¬ isBlank char) :
    Spaced (row.map Prod.fst) (written lead row) := by
  induction row generalizing lead with
  | nil =>
    rw [written, List.flatMap_nil, List.append_nil]
    exact .blank apart.lead
  | cons entry row ih =>
    obtain ⟨word, gap⟩ := entry
    rw [List.map_cons, List.forall_mem_cons] at words
    have split : written lead ((word, gap) :: row) = lead ++ word ++ written gap row := by
      simp only [written, List.flatMap_cons, List.append_assoc]
    rw [split]
    exact .word apart.lead words.1.1 words.1.2 apart.border (ih apart.later words.2)

end Written

theorem words_of_spaced {row : List String} {text : String}
    (spaced : Spaced (row.map String.toList) text.toList) : words text = row := by
  rw [words, wordsOf_of_spaced spaced, List.map_map]
  simp [Function.comp_def]

end Marquee.Proofs.Words

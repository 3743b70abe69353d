import Marquee.Proofs.CharacterBytes
import Marquee.Proofs.MessageReading
import Marquee.Proofs.Tokens
import Mathlib.Data.List.Forall2

/-! Writing a message down. Every style and every row of plain words can be said with tags, and what
is written that way compiles to just those styles and words. -/

namespace Marquee.Proofs.TagLanguage
open Message MessageReading CharacterBytes

/-- A stretch of words in one style. -/
structure Passage where
  style : Style
  words : List String

namespace Passage

def tags (passage : Passage) : List Directive :=
  [.position passage.style.position, .mode passage.style.mode, .color passage.style.color]

/-- The words with single spaces between them, as a sign shows them. -/
def block (charset : Charset) (passage : Passage) : Block :=
  ⟨passage.style, (" ".intercalate passage.words).toList.flatMap (shown charset)⟩

end Passage

/-- A tag as it stands in a message. -/
def written (directive : Directive) : String := "[" ++ directive.tag ++ "]"

/-- The passages in turn, each with its tags in any order and then its words. -/
inductive Row : List Passage → List String → Prop
  | nil : Row [] []
  | cons {passage : Passage} {passages : List Passage} {tags : List Directive} {row : List String}
      (named : tags.Perm passage.tags) (later : Row passages row) :
      Row (passage :: passages) (tags.map written ++ passage.words ++ row)

/-- A text that sets the row apart with any white space. -/
def Printed (passages : List Passage) (text : String) : Prop :=
  ∃ row, Row passages row ∧ Words.Spaced (row.map String.toList) text.toList

/-- A word that stands for itself. -/
structure Plain (word : String) : Prop where
  filled : word ≠ ""
  solid : ∀ char ∈ word.toList, ¬ Text.isBlank char
  untagged : ∀ name, ¬ Tokens.Bracketed name word.toList

section Tags

theorem bracketed_written (directive : Directive) :
    Tokens.Bracketed directive.tag.toList (written directive).toList := by
  have named : ∀ directive ∈ Directive.every, Token.shortestTag ≤ directive.tag.toList.length ∧
      directive.tag.toList.length ≤ Token.longestTag ∧
      directive.tag.toList.all Char.isAlphanum := by decide +kernel
  obtain ⟨short, long, alphanumeric⟩ := named directive (Directive.mem_every directive)
  exact ⟨by simp [written], ⟨short, long⟩, List.all_eq_true.mp alphanumeric⟩

theorem isStyle_of_mem_tags {passage : Passage} {tags : List Directive}
    (named : tags.Perm passage.tags) : ∀ directive ∈ tags, (Item.directive directive).isStyle := by
  intro directive member
  have one := named.mem_iff.mp member
  simp only [Passage.tags, List.mem_cons, List.not_mem_nil, or_false] at one
  rcases one with rfl | rfl | rfl <;> rfl

end Tags

def segment (tags : List Directive) (words : List String) : List Item :=
  tags.map .directive ++ words.map .word

private theorem filterMap_segment {α : Type} {read : Item → Option α} {passage : Passage}
    {tags : List Directive} {value : α} (skips : ∀ word, read (.word word) = none)
    (named : tags.Perm passage.tags)
    (alone : (passage.tags.map Item.directive).filterMap read = [value]) (words : List String) :
    (segment tags words).filterMap read = [value] := by
  -- A list with one member has no other order.
  have ordered := (named.map Item.directive).filterMap read
  rw [alone, List.perm_singleton] at ordered
  simp [segment, List.filterMap_append, ordered, skips]

/-- Each axis is named once, so the order of the tags does not matter. -/
theorem style_segment {passage : Passage} {tags : List Directive}
    (named : tags.Perm passage.tags) (words : List String) :
    style (segment tags words) = passage.style := by
  have mode : (segment tags words).filterMap Item.mode? = [passage.style.mode] :=
    filterMap_segment (fun _ => rfl) named rfl words
  have color : (segment tags words).filterMap Item.color? = [passage.style.color] :=
    filterMap_segment (fun _ => rfl) named rfl words
  have position : (segment tags words).filterMap Item.position? = [passage.style.position] :=
    filterMap_segment (fun _ => rfl) named rfl words
  rw [style, mode, color, position]
  rfl

section Text
variable (charset : Charset)

theorem text_tags {tags : List Directive}
    (styles : ∀ directive ∈ tags, (Item.directive directive).isStyle) :
    text charset.table (tags.map .directive) = [] := by
  induction tags using List.reverseRecOn with
  | nil => rfl
  | append_singleton tags directive ih =>
    rw [List.forall_mem_append, List.forall_mem_singleton] at styles
    rw [List.map_append, List.map_singleton, text_concat, ih styles.1]
    exact text_style charset.table styles.2

theorem shown_words_ne_nil {words : List String} (nonempty : words ≠ [])
    (filled : ∀ word ∈ words, word ≠ "") :
    (" ".intercalate words).toList.flatMap (shown charset) ≠ [] := by
  have written : (" ".intercalate words).toList ≠ [] := by
    cases words with
    | nil => exact absurd rfl nonempty
    | cons first rest =>
      have start := filled first List.mem_cons_self
      cases rest with
      | nil => simpa using start
      | cons second rest => simp [String.intercalate_cons_cons]
  obtain ⟨char, member⟩ := List.exists_mem_of_ne_nil _ written
  rw [ne_eq, List.flatMap_eq_nil_iff]
  exact fun hidden => shown_ne_nil charset char (hidden char member)

theorem text_words {front : List Item} (empty : text charset.table front = [])
    {words : List String} (filled : ∀ word ∈ words, word ≠ "") :
    text charset.table (front ++ words.map .word) =
      (" ".intercalate words).toList.flatMap (shown charset) := by
  -- By the last word: whether a space goes in front of it depends on the text so far.
  induction words using List.reverseRecOn with
  | nil => simpa using empty
  | append_singleton words word ih =>
    rw [List.forall_mem_append, List.forall_mem_singleton] at filled
    rw [List.map_append, List.map_singleton, ← List.append_assoc, text_concat, ih filled.1, rendered,
      normal_transcode]
    cases words with
    | nil => simp
    | cons first words =>
      have nonempty : first :: words ≠ [] := List.cons_ne_nil _ _
      rw [if_neg (shown_words_ne_nil charset nonempty filled.1),
        String.intercalate_append_of_ne_nil nonempty (List.cons_ne_nil _ _)]
      simp [shown_ascii charset (by decide : ' '.toNat < 128)]

theorem uncut_segment {tags : List Directive}
    (styles : ∀ directive ∈ tags, (Item.directive directive).isStyle)
    (words : List String) : Uncut charset.table (segment tags words) := by
  have tagged : Uncut charset.table (tags.map .directive) := by
    induction tags using List.reverseRecOn with
    | nil => exact uncut_nil charset.table
    | append_singleton tags directive ih =>
      rw [List.forall_mem_append] at styles
      rw [List.map_append, List.map_singleton]
      exact uncut_concat charset.table (ih styles.1) fun ends => ends.2 (text_tags charset styles.1)
  induction words using List.reverseRecOn with
  | nil => simpa [segment] using tagged
  | append_singleton words word ih =>
    have longer : Uncut charset.table (segment tags words ++ [.word word]) :=
      uncut_concat charset.table ih fun ends => nomatch ends.1
    simpa [segment] using longer

end Text

/-- The items are those of the passage, with its tags in some order. -/
def Spells (passage : Passage) (items : List Item) : Prop :=
  ∃ tags : List Directive, tags.Perm passage.tags ∧ items = segment tags passage.words

section Passages
variable (charset : Charset) {passages : List Passage} {segments : List (List Item)}

theorem text_of_spells {passage : Passage} {items : List Item} (spells : Spells passage items)
    (filled : ∀ word ∈ passage.words, word ≠ "") :
    text charset.table items = (passage.block charset).text := by
  obtain ⟨tags, named, rfl⟩ := spells
  exact text_words charset (text_tags charset (isStyle_of_mem_tags named)) filled

theorem block_of_spells {passage : Passage} {items : List Item} (spells : Spells passage items)
    (filled : ∀ word ∈ passage.words, word ≠ "") :
    block charset.table items = passage.block charset := by
  rw [block, text_of_spells charset spells filled]
  obtain ⟨tags, named, rfl⟩ := spells
  rw [style_segment named]
  rfl

theorem uncut_of_spells (spells : List.Forall₂ Spells passages segments) :
    ∀ items ∈ segments, Uncut charset.table items := by
  induction spells with
  | nil => exact nofun
  | cons first _ ih =>
    obtain ⟨tags, named, rfl⟩ := first
    exact List.forall_mem_cons.mpr ⟨uncut_segment charset (isStyle_of_mem_tags named) _, ih⟩

/-- A passage opens with a tag, so it is cut off from text before it. -/
private theorem head?_of_spells {passage : Passage} {items : List Item}
    (spells : Spells passage items) : ∃ item ∈ items.head?, item.isStyle := by
  obtain ⟨tags, named, rfl⟩ := spells
  cases tags with
  | nil => cases named.length_eq
  | cons directive tags =>
    exact ⟨.directive directive, rfl, isStyle_of_mem_tags named directive List.mem_cons_self⟩

theorem chain_of_spells (spells : List.Forall₂ Spells passages segments)
    (filled : ∀ passage ∈ passages, ∀ word ∈ passage.words, word ≠ "")
    (between : ∀ passage ∈ passages.dropLast, passage.words ≠ []) :
    segments.IsChain fun items next =>
      text charset.table items ≠ [] ∧ ∃ item ∈ next.head?, item.isStyle := by
  induction spells with
  | nil => exact .nil
  | cons first rest ih =>
    cases rest with
    | nil => exact .singleton _
    | cons second rest =>
      rw [List.forall_mem_cons] at filled
      rw [List.dropLast_cons_cons, List.forall_mem_cons] at between
      refine .cons_cons ⟨?_, head?_of_spells second⟩ (ih filled.2 between.2)
      rw [text_of_spells charset first filled.1]
      exact shown_words_ne_nil charset between.1 filled.1

theorem segmented_of_spells (spells : List.Forall₂ Spells passages segments)
    (nonempty : passages ≠ []) (filled : ∀ passage ∈ passages, ∀ word ∈ passage.words, word ≠ "")
    (between : ∀ passage ∈ passages.dropLast, passage.words ≠ []) :
    Segmented charset.table segments.flatten segments where
  whole := rfl
  nonempty := by
    rintro rfl
    cases spells
    exact nonempty rfl
  inside := uncut_of_spells charset spells
  between := chain_of_spells charset spells filled between

theorem blocks_of_spells (spells : List.Forall₂ Spells passages segments)
    (filled : ∀ passage ∈ passages, ∀ word ∈ passage.words, word ≠ "") :
    segments.map (block charset.table) = passages.map (Passage.block charset) := by
  induction spells with
  | nil => rfl
  | cons first _ ih =>
    rw [List.forall_mem_cons] at filled
    rw [List.map_cons, List.map_cons, block_of_spells charset first filled.1, ih filled.2]

end Passages

section Writing
variable {passages : List Passage} {row : List String}

def read (word : String) : Option Item := (Token.ofWord? word).bind Item.ofToken?

theorem meanings_tokens (row : List String) :
    meanings (row.filterMap Token.ofWord?) = row.filterMap read :=
  List.filterMap_filterMap

theorem read_written (directive : Directive) :
    read (written directive) = some (.directive directive) := by
  rw [read, Tokens.ofWord?_tag (bracketed_written directive)]
  simp [Item.ofToken?, Directive.ofTag?_tag]

theorem read_plain {word : String} (plain : Plain word) : read word = some (.word word) := by
  rw [read, Tokens.ofWord?_literal plain.filled plain.untagged]
  rfl

theorem spells_of_row (written : Row passages row)
    (plain : ∀ passage ∈ passages, ∀ word ∈ passage.words, Plain word) :
    ∃ segments, List.Forall₂ Spells passages segments ∧ row.filterMap read = segments.flatten := by
  induction written with
  | nil => exact ⟨[], .nil, rfl⟩
  | @cons passage passages tags row named _ ih =>
    rw [List.forall_mem_cons] at plain
    obtain ⟨segments, spells, rest⟩ := ih plain.2
    refine ⟨segment tags passage.words :: segments, .cons ⟨tags, named, rfl⟩ spells, ?_⟩
    have words : passage.words.filterMap read = passage.words.map .word := by
      rw [← List.filterMap_eq_map]
      exact List.filterMap_congr fun word member => read_plain (plain.1 word member)
    simp [List.filterMap_append, List.filterMap_map, read_written, words, rest, segment]

theorem exists_row (passages : List Passage) : ∃ row, Row passages row := by
  induction passages with
  | nil => exact ⟨[], .nil⟩
  | cons passage passages ih =>
    obtain ⟨row, written⟩ := ih
    exact ⟨_, .cons (.refl _) written⟩

theorem solid_of_row (written : Row passages row)
    (plain : ∀ passage ∈ passages, ∀ word ∈ passage.words, Plain word) :
    ∀ word ∈ row, word.toList ≠ [] ∧ ∀ char ∈ word.toList, ¬ Text.isBlank char := by
  induction written with
  | nil => exact nofun
  | @cons passage passages tags row named _ ih =>
    rw [List.forall_mem_cons] at plain
    simp only [List.forall_mem_append, List.forall_mem_map]
    refine ⟨⟨?_, ?_⟩, ih plain.2⟩
    · intro directive _
      have tag := bracketed_written directive
      exact ⟨by rw [tag.shape]; exact List.cons_ne_nil _ _, tag.solid⟩
    · intro word member
      have shown := plain.1 word member
      exact ⟨by simpa using shown.filled, shown.solid⟩

theorem exists_printed (plain : ∀ passage ∈ passages, ∀ word ∈ passage.words, Plain word) :
    ∃ text, Printed passages text := by
  obtain ⟨row, written⟩ := exists_row passages
  have words : ∀ word ∈ row.map String.toList, word ≠ [] ∧ ∀ char ∈ word, ¬ Text.isBlank char :=
    List.forall_mem_map.mpr (solid_of_row written plain)
  refine ⟨String.ofList ((row.map String.toList).flatMap (' ' :: ·)), row, written, ?_⟩
  rw [String.toList_ofList]
  exact Words.spaced_flatMap words

end Writing

/-- Every message of plain words in any styles can be written down, and however it is written, it
compiles to one block for each passage, with all its words and in its style. -/
theorem compile_printed (charset : Charset) {passages : List Passage} (nonempty : passages ≠ [])
    (plain : ∀ passage ∈ passages, ∀ word ∈ passage.words, Plain word)
    (between : ∀ passage ∈ passages.dropLast, passage.words ≠ []) :
    (∃ text, Printed passages text) ∧ ∀ text, Printed passages text →
      compile charset.table (tokenize text) = passages.map (Passage.block charset) := by
  refine ⟨exists_printed plain, ?_⟩
  rintro text ⟨row, written, spaced⟩
  obtain ⟨segments, spells, whole⟩ := spells_of_row written plain
  have filled : ∀ passage ∈ passages, ∀ word ∈ passage.words, word ≠ "" :=
    fun passage member word inside => (plain passage member word inside).filled
  have valid := segmented_of_spells charset spells nonempty filled between
  rw [← whole, ← meanings_tokens, ← Words.words_of_spaced spaced] at valid
  rw [tokenize, compile_of_segmented charset.table valid, blocks_of_spells charset spells filled]

/-- The first word looks like a tag, the second one has a degree sign, and the second passage names
the default style and says nothing. -/
theorem compile_printed_two :
    let passages : List Passage := [⟨{ mode := .fish, color := .blue }, ["[[top]", "20°"]⟩, ⟨{}, []⟩]
    let text := "[fish] [blue]\t[middle] [[top]  20°\n[middle] [automode] [autocolor] "
    passages ≠ [] ∧ (∀ passage ∈ passages, ∀ word ∈ passage.words, Plain word) ∧
      (∀ passage ∈ passages.dropLast, passage.words ≠ []) ∧ Printed passages text ∧
      compile Charset.utf8.table (tokenize text) = passages.map (Passage.block .utf8) := by
  intro passages text
  have nonempty : passages ≠ [] := List.cons_ne_nil _ _
  have plain : ∀ passage ∈ passages, ∀ word ∈ passage.words, Plain word := by
    have words : ∀ passage ∈ passages, ∀ word ∈ passage.words, word ≠ "" ∧
        word.toList.all (¬ Text.isBlank ·) ∧ Token.tagName? word.toList = none := by
      decide +kernel
    intro passage member word inside
    obtain ⟨filled, solid, untagged⟩ := words passage member word inside
    exact ⟨filled, by simpa using solid, Tokens.tagName?_eq_none_iff.mp untagged⟩
  have between : ∀ passage ∈ passages.dropLast, passage.words ≠ [] := by decide
  have first : List.Perm [.mode .fish, .color .blue, .position .middle]
      (Passage.mk { mode := .fish, color := .blue } ["[[top]", "20°"]).tags := by decide
  have second : List.Perm [.position .middle, .mode .auto, .color .auto] (Passage.mk {} []).tags := by
    decide
  have printed : Printed passages text :=
    ⟨_, .cons first (.cons second .nil), Words.wordsOf_eq_iff.mp (by decide +kernel)⟩
  exact ⟨nonempty, plain, between, printed,
    (compile_printed .utf8 nonempty plain between).2 text printed⟩

end Marquee.Proofs.TagLanguage

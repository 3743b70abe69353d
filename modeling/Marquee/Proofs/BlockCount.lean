import Marquee.Proofs.CharacterBytes
import Marquee.Proofs.MessageGrowth
import Marquee.Proofs.Tokens

/-! How many blocks a message has. A compiler looks at bytes to see whether a style tag has text in
front of it, but in a message that was written as text every word shows something. So the blocks can
be counted in the row of tags and words alone. -/

namespace Marquee.Proofs.BlockCount
open Message MessageReading MessageGrowth CharacterBytes

/-- The style tags that stand right behind something that is shown. -/
def borders (items : List Item) : Nat :=
  (items.zip items.tail).countP fun (before, item) => !before.isStyle && item.isStyle

/-- Nothing is shown behind the last style tag. -/
def Bare (items : List Item) : Prop := items = [] ∨ ∃ item ∈ items.getLast?, item.isStyle

instance (items : List Item) : Decidable (Bare items) :=
  decidable_of_iff (items.getLast?.all Item.isStyle) <| by
    rcases List.eq_nil_or_concat' items with rfl | ⟨front, item, rfl⟩ <;> simp [Bare]

section Neighbours

theorem zip_tail_concat {α : Type} (front : List α) (last item : α) :
    (front ++ [last, item]).zip (front ++ [last, item]).tail =
      (front ++ [last]).zip (front ++ [last]).tail ++ [(last, item)] := by
  induction front with
  | nil => rfl
  | cons first front ih =>
    cases front with
    | nil => rfl
    | cons second front => simpa using ih

theorem bare_concat_iff (front : List Item) (item : Item) :
    Bare (front ++ [item]) ↔ item.isStyle := by
  simp [Bare]

theorem borders_concat (front : List Item) (item : Item) :
    borders (front ++ [item]) =
      borders front + if item.isStyle ∧ ¬ Bare front then 1 else 0 := by
  rcases List.eq_nil_or_concat' front with rfl | ⟨front, last, rfl⟩
  · simp [borders, Bare]
  · rw [borders, List.append_assoc, List.singleton_append, zip_tail_concat, List.countP_append,
      List.countP_singleton]
    simp [borders, bare_concat_iff, and_comm]

end Neighbours

section Machine
variable {glyphs : GlyphTable}

/-- Unless it is a style tag, the item puts something into the text. -/
def Showing (glyphs : GlyphTable) (item : Item) : Prop :=
  ¬ item.isStyle → ∀ before, rendered glyphs before item ≠ []

section Step
variable {before after : Compiler} {item : Item}
  (step : MessageGrowth.Step glyphs before item after)
include step

theorem pending_eq_nil_iff_of_step (shows : Showing glyphs item) :
    after.pending = [] ↔ item.isStyle := by
  cases step with
  | shown unstyled =>
    apply iff_of_false
    · intro empty
      exact shows unstyled _ (List.append_eq_nil_iff.mp empty).2
    · exact unstyled
  | styled style styled empty => exact iff_of_true empty styled
  | cut style styled filled => exact iff_of_true rfl styled

theorem length_blocks_of_step :
    after.blocks.length =
      before.blocks.length + if item.isStyle ∧ before.pending ≠ [] then 1 else 0 := by
  cases step with
  | shown unstyled => rw [if_neg fun cuts => unstyled cuts.1, Nat.add_zero]
  | styled style styled empty => rw [if_neg fun cuts => cuts.2 empty, Nat.add_zero]
  | cut style styled filled => rw [if_pos ⟨styled, filled⟩, MessageCut.length_finish]

end Step

variable {items : List Item} (shows : ∀ item ∈ items, Showing glyphs item)
include shows

/-- Whether a text is pending can be told from the last item. -/
theorem pending_eq_nil_iff : (items.foldl (follow glyphs) {}).pending = [] ↔ Bare items := by
  rcases List.eq_nil_or_concat' items with rfl | ⟨front, item, rfl⟩
  · exact iff_of_true rfl (.inl rfl)
  · rw [List.foldl_concat, bare_concat_iff]
    exact pending_eq_nil_iff_of_step (step_follow glyphs _ item) (shows item (by simp))

theorem length_blocks : (items.foldl (follow glyphs) {}).blocks.length = borders items := by
  induction items using List.reverseRecOn with
  | nil => rfl
  | append_singleton front item ih =>
    rw [List.forall_mem_append] at shows
    rw [List.foldl_concat, length_blocks_of_step (step_follow glyphs _ item), ih shows.1,
      borders_concat]
    simp only [ne_eq, pending_eq_nil_iff shows.1]

end Machine

theorem showing_of_tokenize (charset : Charset) (text : String) :
    ∀ item ∈ meanings (tokenize text), Showing charset.table item := by
  intro item member unstyled before
  cases item with
  | word word =>
    rw [word_mem_meanings_iff] at member
    have filled : word ≠ "" := Tokens.ne_empty_of_mem_tokenize member
    rw [rendered, normal_transcode, ne_eq, List.append_eq_nil_iff, shown_eq_nil_iff]
    intro empty
    exact filled (String.toList_eq_nil_iff.mp empty.2)
  | directive directive =>
    cases directive with
    | insert insertion => cases insertion <;> exact List.cons_ne_nil _ _
    | position _ | color _ | mode _ => exact absurd rfl unstyled

/-- A message has one block more than it has style tags that come right behind a word or an
insertion, tags without a meaning aside. Its last block is without text just if there is nothing
behind the last of the style tags. -/
theorem count_blocks (charset : Charset) (text : String) :
    let items := meanings (tokenize text)
    let blocks := compile charset.table (tokenize text)
    blocks.length = 1 + borders items ∧ ∃ last ∈ blocks.getLast?, (last.text = [] ↔ Bare items) := by
  intro items blocks
  have shows := showing_of_tokenize charset text
  have compiled : blocks = (items.foldl (follow charset.table) {}).finish := by
    simp only [blocks, items, compile, foldl_feed]
  constructor
  · rw [compiled, MessageCut.length_finish, length_blocks shows, Nat.add_comm]
  · obtain ⟨last, finished, text_last⟩ : ∃ last ∈ blocks.getLast?,
        last.text = (items.foldl (follow charset.table) {}).pending := by
      simp [compiled, Compiler.finish, Compiler.flush]
    exact ⟨last, finished, text_last ▸ pending_eq_nil_iff shows⟩

-- Of the two tags in a row, only the first has something in front of it.
example : (compile Charset.utf8.table (tokenize "[red] a [nope] [green] [amber] b [top]")).map
    (fun block => block.text.length) = [1, 1, 0] := by cbv

end Marquee.Proofs.BlockCount

import Marquee.Proofs.MessageCut
import Marquee.Proofs.MessageReading

/-! What becomes of the text that a compiler has gathered. It grows, or it is closed as a block in
the style it was gathered in, and no later token touches it again. So the blocks of a message are
there as soon as the front of it has been read, and only the last of them can be without text. -/

namespace Marquee.Proofs.MessageGrowth
open Message MessageReading MessageCut

/-- The text goes on. Another style is chosen for it only before it begins. -/
structure Gathered (before after : Compiler) : Prop where
  blocks : after.blocks = before.blocks
  pending : before.pending <+: after.pending
  style : after.style ≠ before.style → before.pending = []

/-- The text is closed as one block, as it is. -/
structure Closed (before after : Compiler) : Prop where
  filled : before.pending ≠ []
  blocks : after.blocks = before.blocks ++ [⟨before.style, before.pending⟩]
  pending : after.pending = []

/-- Nothing of what a compiler has gathered is lost in the message. Its own blocks come first, and
the next one begins with the text that is pending and has the style of that text. -/
structure Kept (compiler : Compiler) (message : List Block) : Prop where
  blocks : compiler.blocks <+: message
  pending : ∃ next ∈ message[compiler.blocks.length]?, compiler.pending <+: next.text ∧
    (compiler.pending ≠ [] → next.style = compiler.style)

section Growth
variable {before after : Compiler}

theorem Gathered.refl (compiler : Compiler) : Gathered compiler compiler :=
  ⟨rfl, List.prefix_rfl, fun changed => absurd rfl changed⟩

theorem Kept.finish (compiler : Compiler) : Kept compiler compiler.finish where
  blocks := List.prefix_append _ _
  pending := ⟨⟨compiler.style, compiler.pending⟩, by simp [Compiler.finish, Compiler.flush],
    List.prefix_rfl, fun _ => rfl⟩

theorem Gathered.kept (gathered : Gathered before after) {message : List Block}
    (kept : Kept after message) : Kept before message := by
  obtain ⟨blocks, next, found, begun, style⟩ := kept
  rw [gathered.blocks] at blocks found
  refine ⟨blocks, next, found, gathered.pending.trans begun, ?_⟩
  intro filled
  have same : after.style = before.style := not_imp_comm.mp gathered.style filled
  rw [← same]
  apply style
  intro empty
  exact filled (List.prefix_nil.mp (empty ▸ gathered.pending))

theorem Closed.kept (closed : Closed before after) {message : List Block}
    (kept : Kept after message) : Kept before message := by
  obtain ⟨rest, whole⟩ := kept.blocks
  rw [closed.blocks, List.append_assoc, List.singleton_append] at whole
  subst whole
  refine ⟨List.prefix_append _ _, ⟨before.style, before.pending⟩, ?_, List.prefix_rfl, fun _ => rfl⟩
  simp

/-- Every block has a text. -/
def Filled (compiler : Compiler) : Prop := ∀ block ∈ compiler.blocks, block.text ≠ []

theorem Gathered.stays_filled (gathered : Gathered before after) (filled : Filled before) :
    Filled after := by
  rw [Filled, gathered.blocks]
  exact filled

theorem Closed.stays_filled (closed : Closed before after) (filled : Filled before) :
    Filled after := by
  rw [Filled, closed.blocks, List.forall_mem_append, List.forall_mem_singleton]
  exact ⟨filled, closed.filled⟩

end Growth

section Machine
variable (glyphs : GlyphTable)

/-- What an item does to a compiler. A style tag cuts off the text that is pending, if there is any.
-/
inductive Step (compiler : Compiler) : Item → Compiler → Prop
  | shown {item : Item} (unstyled : ¬ item.isStyle) :
      Step compiler item
        { compiler with
          pending := compiler.pending ++ rendered glyphs compiler.pending item }
  | styled {item : Item} (style : Style) (styled : item.isStyle) (empty : compiler.pending = []) :
      Step compiler item { compiler with style }
  | cut {item : Item} (style : Style) (styled : item.isStyle) (filled : compiler.pending ≠ []) :
      Step compiler item ⟨style, [], compiler.finish⟩

theorem step_follow (compiler : Compiler) (item : Item) :
    Step glyphs compiler item (follow glyphs compiler item) := by
  cases item with
  | word word =>
    rw [follow, literal_eq]
    exact .shown Bool.false_ne_true
  | directive directive =>
    rw [follow]
    cases directive with
    | insert insertion =>
      rw [insert_eq]
      exact .shown Bool.false_ne_true
    | position _ | color _ | mode _ =>
      rw [directive_style rfl]
      split
      next empty => exact .styled _ rfl empty
      next filled =>
        rw [preceded, List.append_nil]
        exact .cut _ rfl filled

variable {glyphs} in
theorem Step.closed_or_gathered {before after : Compiler} {item : Item}
    (step : Step glyphs before item after) :
    (item.isStyle ∧ before.pending ≠ []) ∧ Closed before after ∨
      ¬ (item.isStyle ∧ before.pending ≠ []) ∧ Gathered before after := by
  cases step with
  | shown unstyled =>
    right
    refine ⟨fun cuts => unstyled cuts.1, rfl, List.prefix_append _ _, ?_⟩
    exact fun changed => absurd rfl changed
  | styled style styled empty =>
    right
    exact ⟨fun cuts => cuts.2 empty, rfl, List.prefix_rfl, fun _ => empty⟩
  | cut style styled filled =>
    left
    exact ⟨⟨styled, filled⟩, filled, rfl, rfl⟩

/-- A style tag with text in front of it. -/
def Cuts (compiler : Compiler) (token : Token) : Prop :=
  (∃ item ∈ Item.ofToken? token, item.isStyle) ∧ compiler.pending ≠ []

theorem feed_closed_or_gathered (compiler : Compiler) (token : Token) :
    Cuts compiler token ∧ Closed compiler (compiler.feed glyphs token) ∨
      ¬ Cuts compiler token ∧ Gathered compiler (compiler.feed glyphs token) := by
  rw [feed_eq, Cuts]
  cases Item.ofToken? token with
  | none =>
    right
    exact ⟨by simp, .refl compiler⟩
  | some item =>
    have step := step_follow glyphs compiler item
    simpa only [Option.elim_some, Option.mem_some_iff, exists_eq_left'] using
      step.closed_or_gathered

/-- However the message goes on, what was gathered is in its blocks. -/
theorem kept_foldl_feed (compiler : Compiler) (tokens : List Token) :
    Kept compiler (tokens.foldl (Compiler.feed glyphs) compiler).finish := by
  induction tokens generalizing compiler with
  | nil => exact .finish compiler
  | cons token tokens ih =>
    have later := ih (compiler.feed glyphs token)
    rcases feed_closed_or_gathered glyphs compiler token with ⟨-, closed⟩ | ⟨-, gathered⟩
    · exact closed.kept later
    · exact gathered.kept later

theorem filled_foldl_feed {compiler : Compiler} (filled : Filled compiler) (tokens : List Token) :
    Filled (tokens.foldl (Compiler.feed glyphs) compiler) := by
  induction tokens generalizing compiler with
  | nil => exact filled
  | cons token tokens ih =>
    apply ih
    rcases feed_closed_or_gathered glyphs compiler token with ⟨-, closed⟩ | ⟨-, gathered⟩
    · exact closed.stays_filled filled
    · exact gathered.stays_filled filled

end Machine

/-- A style tag closes the text in front of it as a block. Any other token lets the text go on as it
is, and a style is set only where there is no text yet. So the blocks behind the front of a message
are the first ones of the whole, and every block but the last has a text. -/
theorem compiler_appends (glyphs : GlyphTable) :
    (∀ (compiler : Compiler) (token : Token),
      Cuts compiler token ∧ Closed compiler (compiler.feed glyphs token) ∨
        ¬ Cuts compiler token ∧ Gathered compiler (compiler.feed glyphs token)) ∧
      ∀ before after : List Token,
        Kept (before.foldl (Compiler.feed glyphs) {}) (compile glyphs (before ++ after)) ∧
          ∀ block ∈ (compile glyphs before).dropLast, block.text ≠ [] := by
  refine ⟨feed_closed_or_gathered glyphs, ?_⟩
  intro before after
  constructor
  · rw [compile, List.foldl_append]
    exact kept_foldl_feed glyphs _ after
  · rw [compile, Compiler.finish, Compiler.flush, List.dropLast_concat]
    exact filled_foldl_feed glyphs (fun _ member => absurd member List.not_mem_nil) before

/-- The front of the message ends in half a degree sign, and the rest of it begins with a whole one.
-/
theorem compiler_appends_halves :
    let glyphs : GlyphTable := ⟨fun word => if word = "x" then [Degree.lead] else utf8 word⟩
    let before : List Token := [.literal "20°", .tag "red", .tag "time", .literal "x"]
    let after : List Token := [.tag "purple", .literal "°", .tag "top"]
    let block : Block := ⟨{}, ['2'.toUInt8, '0'.toUInt8, Degree.code]⟩
    block ∈ (compile glyphs before).dropLast ∧ block.text ≠ [] ∧
      Kept (before.foldl (Compiler.feed glyphs) {}) (compile glyphs (before ++ after)) ∧
      (before.foldl (Compiler.feed glyphs) {}).pending =
        [Insertion.timeCode, ' '.toUInt8, Degree.lead] := by
  intro glyphs before after block
  have first : block ∈ (compile glyphs before).dropLast := by
    have blocks : (compile glyphs before).dropLast = [block] := by cbv
    rw [blocks]
    exact List.mem_singleton_self block
  obtain ⟨kept, filled⟩ := (compiler_appends glyphs).2 before after
  exact ⟨first, filled block first, kept, by cbv⟩

end Marquee.Proofs.MessageGrowth

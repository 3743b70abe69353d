import Marquee.Proofs.MessageCut
import Mathlib.Logic.Relation

/-! Which messages say the same. A tag without a meaning says nothing, style tags of different axes
may change places, and of two tags of one axis the second counts. If there is text in front of them,
the tag that comes first cuts it off and the other one does not, but the cut is the same for both.
-/

namespace Marquee.Proofs.TagRewriting
open Message MessageCut

inductive Axis
  | position
  | color
  | mode

/-- What a style directive sets. -/
def axis? : Directive → Option Axis
  | .position _ => some .position
  | .color _ => some .color
  | .mode _ => some .mode
  | .insert _ => none

def tagAxis? (name : String) : Option Axis := (Directive.ofTag? name).bind axis?

theorem tagAxis?_tag (directive : Directive) : tagAxis? directive.tag = axis? directive := by
  rw [tagAxis?, Directive.ofTag?_tag, Option.bind_some]

/-- A change of a message in one place. -/
inductive Rewrite : List Token → List Token → Prop
  | dropped (before after : List Token) {name : String} (unknown : Directive.ofTag? name = none) :
      Rewrite (before ++ .tag name :: after) (before ++ after)
  | swapped (before after : List Token) {name other : String} {axis across : Axis}
      (first : tagAxis? name = some axis) (second : tagAxis? other = some across)
      (apart : axis ≠ across) :
      Rewrite (before ++ .tag name :: .tag other :: after)
        (before ++ .tag other :: .tag name :: after)
  | overruled (before after : List Token) {name other : String} {axis : Axis}
      (first : tagAxis? name = some axis) (second : tagAxis? other = some axis) :
      Rewrite (before ++ .tag name :: .tag other :: after) (before ++ .tag other :: after)

section Styles
variable {first second : Directive}

theorem apply_comm (apart : axis? first ≠ axis? second) (style : Style) :
    second.apply (first.apply style) = first.apply (second.apply style) := by
  cases first <;> cases second <;> simp [axis?, Directive.apply] at apart ⊢

theorem apply_overruled (same : axis? first = axis? second) (style : Style) :
    second.apply (first.apply style) = second.apply style := by
  cases first <;> cases second <;> simp [axis?, Directive.apply] at same ⊢

end Styles

section Machine
variable (glyphs : GlyphTable)

/-- The compiler once a style tag has cut off what is pending. -/
def fresh (compiler : Compiler) : Compiler :=
  if compiler.pending = [] then compiler else preceded compiler.finish {}

theorem pending_fresh (compiler : Compiler) : (fresh compiler).pending = [] := by
  unfold fresh
  split
  next empty => exact empty
  next => rfl

/-- There is nothing left to cut off, whatever style was set. -/
theorem fresh_fresh (compiler : Compiler) (style : Style) :
    fresh { fresh compiler with style } = { fresh compiler with style } :=
  if_pos (pending_fresh compiler)

theorem directive_fresh {directive : Directive} (styled : directive.isStyle) (compiler : Compiler) :
    compiler.directive directive =
      { fresh compiler with style := directive.apply (fresh compiler).style } := by
  rw [directive_style styled, fresh]
  split
  · rfl
  · rfl

theorem feed_tag {name : String} {axis : Axis} (named : tagAxis? name = some axis) :
    ∃ directive, axis? directive = some axis ∧ ∀ compiler : Compiler,
      compiler.feed glyphs (.tag name) =
        { fresh compiler with style := directive.apply (fresh compiler).style } := by
  obtain ⟨directive, known, sets⟩ := Option.bind_eq_some_iff.mp named
  refine ⟨directive, sets, ?_⟩
  intro compiler
  have styled : directive.isStyle := by
    cases directive with
    | insert insertion => cases sets
    | position _ | color _ | mode _ => rfl
  rw [Compiler.feed, known]
  exact directive_fresh styled compiler

/-- From any state two compilers meet again behind the place where their messages differ. -/
theorem Rewrite.meets {message other : List Token} (rewrite : Rewrite message other)
    (compiler : Compiler) :
    message.foldl (Compiler.feed glyphs) compiler = other.foldl (Compiler.feed glyphs) compiler := by
  cases rewrite with
  | dropped before after unknown =>
    rw [List.foldl_append, List.foldl_append, List.foldl_cons, Compiler.feed, unknown]
  | swapped before after named also apart =>
    obtain ⟨first, sets, feedFirst⟩ := feed_tag glyphs named
    obtain ⟨second, across, feedSecond⟩ := feed_tag glyphs also
    have differ : axis? first ≠ axis? second := by
      rw [sets, across, ne_eq, Option.some_inj]
      exact apart
    -- The second tag finds nothing to cut, whichever of the two it is, so only styles are compared.
    simp only [List.foldl_append, List.foldl_cons, feedFirst, feedSecond, fresh_fresh]
    rw [apply_comm differ]
  | overruled before after named also =>
    obtain ⟨first, sets, feedFirst⟩ := feed_tag glyphs named
    obtain ⟨second, again, feedSecond⟩ := feed_tag glyphs also
    have same : axis? first = axis? second := sets.trans again.symm
    simp only [List.foldl_append, List.foldl_cons, feedFirst, feedSecond, fresh_fresh]
    rw [apply_overruled same]

end Machine

/-- Messages that differ by any number of such changes compile to the same blocks. -/
theorem compile_rewritten (glyphs : GlyphTable) {message other : List Token}
    (changed : Relation.EqvGen Rewrite message other) :
    compile glyphs message = compile glyphs other := by
  induction changed with
  | rel message other rewrite => rw [compile, compile, rewrite.meets]
  | refl message => rfl
  | symm message other _ ih => exact ih.symm
  | trans message middle other _ _ first second => exact first.trans second

/-- The tag that cuts is deleted in the end, and the one that stands in its place cuts instead. -/
theorem compile_rewritten_behind_text :
    let message : List Token :=
      [.literal "a", .tag "purple", .tag "red", .tag "top", .tag "blue", .literal "b"]
    let other : List Token := [.literal "a", .tag "top", .tag "blue", .literal "b", .tag "Red"]
    Relation.EqvGen Rewrite message other ∧
      compile Charset.utf8.table message = compile Charset.utf8.table other ∧
      compile Charset.utf8.table message =
        [⟨{}, ['a'.toUInt8]⟩, ⟨{ position := .top, color := .blue }, ['b'.toUInt8]⟩] := by
  intro message other
  have top : tagAxis? "top" = some .position := tagAxis?_tag (.position .top)
  have red : tagAxis? "red" = some .color := tagAxis?_tag (.color .red)
  have blue : tagAxis? "blue" = some .color := tagAxis?_tag (.color .blue)
  have purple : Directive.ofTag? "purple" = none := by decide +kernel
  have capital : Directive.ofTag? "Red" = none := by decide +kernel
  have dropped : Rewrite message
      [.literal "a", .tag "red", .tag "top", .tag "blue", .literal "b"] :=
    .dropped [.literal "a"] _ purple
  have swapped : Rewrite [.literal "a", .tag "red", .tag "top", .tag "blue", .literal "b"]
      [.literal "a", .tag "top", .tag "red", .tag "blue", .literal "b"] :=
    .swapped [.literal "a"] _ red top nofun
  have overruled : Rewrite [.literal "a", .tag "top", .tag "red", .tag "blue", .literal "b"]
      [.literal "a", .tag "top", .tag "blue", .literal "b"] :=
    .overruled [.literal "a", .tag "top"] _ red blue
  have inserted : Rewrite other [.literal "a", .tag "top", .tag "blue", .literal "b"] :=
    .dropped [.literal "a", .tag "top", .tag "blue", .literal "b"] [] capital
  have changed : Relation.EqvGen Rewrite message other :=
    .trans _ _ _ (.rel _ _ dropped) <| .trans _ _ _ (.rel _ _ swapped) <|
      .trans _ _ _ (.rel _ _ overruled) (.symm _ _ (.rel _ _ inserted))
  have same := compile_rewritten Charset.utf8.table changed
  have known := compile_rewritten Charset.utf8.table (.rel _ _ inserted)
  refine ⟨changed, same, ?_⟩
  rw [same, known]
  cbv

end Marquee.Proofs.TagRewriting

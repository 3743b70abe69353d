import Marquee.Message.Compiler
import Marquee.Proofs.DegreeScan
import Mathlib.Data.List.Chain

/-! What a message means, without a compiler. Tags that mean nothing are left out, and the rest is
cut into segments wherever a style tag has text in front of it. Each segment is a block, and what
the block looks like depends on nothing but its own segment. -/

namespace Marquee.Proofs.MessageReading
open Message

/-- A token that means something. -/
inductive Item
  | word (word : String)
  | directive (directive : Directive)

namespace Item

def ofToken? : Token → Option Item
  | .literal text => some (.word text)
  | .tag name => (Directive.ofTag? name).map .directive

def isStyle : Item → Bool
  | .directive (.position _) | .directive (.color _) | .directive (.mode _) => true
  | .directive (.insert _) | .word _ => false

theorem isStyle_directive (directive : Directive) :
    (Item.directive directive).isStyle = directive.isStyle := by
  cases directive <;> rfl

def mode? : Item → Option Mode
  | .directive (.mode m) => some m
  | _ => none

def color? : Item → Option Color
  | .directive (.color c) => some c
  | _ => none

def position? : Item → Option Position
  | .directive (.position p) => some p
  | _ => none

end Item

def meanings (tokens : List Token) : List Item := tokens.filterMap Item.ofToken?

theorem word_mem_meanings_iff {word : String} {tokens : List Token} :
    .word word ∈ meanings tokens ↔ .literal word ∈ tokens := by
  rw [meanings, List.mem_filterMap]
  constructor
  · rintro ⟨token, member, read⟩
    cases token with
    | literal other =>
      cases read
      exact member
    | tag name =>
      obtain ⟨directive, _, other⟩ := Option.map_eq_some_iff.mp read
      cases other
  · intro member
    exact ⟨.literal word, member, rfl⟩

/-- On each axis the last tag counts, and the default where there is none. -/
def style (segment : List Item) : Style where
  mode := (segment.filterMap Item.mode?).getLast?.getD ({} : Style).mode
  color := (segment.filterMap Item.color?).getLast?.getD ({} : Style).color
  position := (segment.filterMap Item.position?).getLast?.getD ({} : Style).position

/-- What asks a sign for the time, for the date with slashes in it, for the day of the week with the
time behind it, or for the string of that digit. -/
def controlSequence : Insertion → Bytes
  | .time => [0x13]
  | .usDate => [0x0B, 0x30]
  | .timeDay => [0x0B, 0x39, 0x20, 0x13]
  | .stringFile digit => [0x10, 0x30 + digit.val.toUInt8]

theorem code_eq (insertion : Insertion) : insertion.code = controlSequence insertion := by
  cases insertion with
  | time | usDate | timeDay => rfl
  | stringFile digit =>
    have digits : ∀ digit, (Insertion.fileLabel digit).toUInt8 = 0x30 + digit.val.toUInt8 := by
      decide
    rw [Insertion.code, digits, controlSequence, Insertion.stringCode]

section Segments
variable (glyphs : GlyphTable)

/-- What an item adds to the text before it. A word is set off by one space, unless it comes
first. -/
def rendered (before : Bytes) : Item → Bytes
  | .word word =>
    (if before = [] then [] else [' '.toUInt8]) ++ DegreeScan.normal (glyphs.transcode word)
  | .directive (.insert insertion) => controlSequence insertion
  | .directive _ => []

def text (segment : List Item) : Bytes :=
  segment.foldl (fun before item => before ++ rendered glyphs before item) []

def block (segment : List Item) : Block := ⟨style segment, text glyphs segment⟩

/-- No style tag has text in front of it. -/
def Uncut (segment : List Item) : Prop :=
  ∀ front item back, segment = front ++ item :: back → item.isStyle → text glyphs front = []

/-- The items in order, cut right before each style tag that has text in front of it since the
last cut, and nowhere else. -/
structure Segmented (items : List Item) (segments : List (List Item)) : Prop where
  whole : segments.flatten = items
  nonempty : segments ≠ []
  inside : ∀ segment ∈ segments, Uncut glyphs segment
  between : segments.IsChain fun segment next =>
    text glyphs segment ≠ [] ∧ ∃ item ∈ next.head?, item.isStyle

/-- The segments of what follows a segment that is still open. -/
def cut (front : List Item) : List Item → List (List Item)
  | [] => [front]
  | item :: rest =>
    if item.isStyle ∧ text glyphs front ≠ [] then front :: cut [item] rest
    else cut (front ++ [item]) rest

theorem text_concat (front : List Item) (item : Item) :
    text glyphs (front ++ [item]) =
      text glyphs front ++ rendered glyphs (text glyphs front) item := by
  rw [text, text, List.foldl_concat]

theorem text_style {item : Item} (styled : item.isStyle) : text glyphs [item] = [] := by
  cases item with
  | word word => cases styled
  | directive directive =>
    cases directive with
    | insert insertion => cases styled
    | position _ | color _ | mode _ => rfl

theorem uncut_nil : Uncut glyphs [] := by
  intro front item back same
  simp at same

theorem uncut_concat {front : List Item} {item : Item} (uncut : Uncut glyphs front)
    (joined : ¬ (item.isStyle ∧ text glyphs front ≠ [])) : Uncut glyphs (front ++ [item]) := by
  intro before other back same styled
  -- The tag in question is the new item, or it was there before.
  rcases List.eq_nil_or_concat' back with rfl | ⟨back, last, rfl⟩
  · obtain ⟨rfl, last⟩ := List.append_inj' same rfl
    cases last
    exact not_not.mp (not_and.mp joined styled)
  · rw [← List.cons_append, ← List.append_assoc] at same
    obtain ⟨rfl, _⟩ := List.append_inj' same rfl
    exact uncut before other back rfl styled

/-- The segment that is open begins the first segment. -/
private theorem head?_cut (front items : List Item) :
    ∃ more, (cut glyphs front items).head? = some (front ++ more) := by
  induction items generalizing front with
  | nil => exact ⟨[], by simp [cut]⟩
  | cons item rest ih =>
    rw [cut]
    split
    · exact ⟨[], by simp⟩
    · obtain ⟨more, same⟩ := ih (front ++ [item])
      exact ⟨item :: more, by simp [same]⟩

theorem segmented_cut {front : List Item} (uncut : Uncut glyphs front) (items : List Item) :
    Segmented glyphs (front ++ items) (cut glyphs front items) := by
  induction items generalizing front with
  | nil =>
    refine ⟨by simp [cut], by simp [cut], ?_, by simp [cut]⟩
    simpa [cut] using uncut
  | cons item rest ih =>
    rw [cut]
    split
    next ends =>
      have start : Uncut glyphs [item] :=
        uncut_concat glyphs (uncut_nil glyphs) fun ends => ends.2 rfl
      obtain ⟨whole, _, inside, between⟩ := ih start
      obtain ⟨more, first⟩ := head?_cut glyphs [item] rest
      refine ⟨by simp [whole], by simp, ?_, ?_⟩
      · intro segment member
        rcases List.mem_cons.mp member with rfl | later
        · exact uncut
        · exact inside segment later
      · rw [List.isChain_cons]
        refine ⟨?_, between⟩
        intro next found
        rw [first] at found
        cases found
        exact ⟨ends.2, item, by simp, ends.1⟩
    next joined =>
      have longer := ih (uncut_concat glyphs uncut joined)
      rwa [List.append_assoc] at longer

theorem flatten_cut (items : List Item) : (cut glyphs [] items).flatten = items :=
  (segmented_cut glyphs (uncut_nil glyphs) items).whole

private theorem cut_append {front segment : List Item} (uncut : Uncut glyphs (front ++ segment))
    (rest : List Item) :
    cut glyphs front (segment ++ rest) = cut glyphs (front ++ segment) rest := by
  induction segment generalizing front with
  | nil => rw [List.nil_append, List.append_nil]
  | cons item segment ih =>
    have joined : ¬ (item.isStyle ∧ text glyphs front ≠ []) := by
      rintro ⟨styled, filled⟩
      exact filled (uncut front item segment rfl styled)
    rw [List.cons_append, cut, if_neg joined]
    have longer : Uncut glyphs (front ++ [item] ++ segment) := by simpa using uncut
    simpa using ih longer

/-- There is only one way to cut a message. -/
theorem cut_unique {items : List Item} {segments : List (List Item)}
    (valid : Segmented glyphs items segments) : segments = cut glyphs [] items := by
  obtain ⟨rfl, nonempty, inside, between⟩ := valid
  induction segments with
  | nil => exact absurd rfl nonempty
  | cons segment later ih =>
    have first := inside segment List.mem_cons_self
    rw [List.flatten_cons, cut_append glyphs (by simpa using first), List.nil_append]
    cases later with
    | nil => rfl
    | cons next later =>
      obtain ⟨⟨filled, item, found, styled⟩, chain⟩ := List.isChain_cons_cons.mp between
      have rest := ih (List.cons_ne_nil _ _)
        (fun other member => inside other (List.mem_cons_of_mem _ member)) chain
      cases next with
      | nil => cases found
      | cons start more =>
        cases found
        rw [List.flatten_cons, List.cons_append, cut, if_pos ⟨styled, filled⟩]
        rw [List.flatten_cons, List.cons_append, cut, if_neg (by simp [text])] at rest
        exact congrArg _ rest

end Segments

section Machine
variable (glyphs : GlyphTable)

/-- What the compiler does with a token that means something. -/
def follow (compiler : Compiler) : Item → Compiler
  | .word word => compiler.literal glyphs word
  | .directive directive => compiler.directive directive

theorem feed_eq (compiler : Compiler) (token : Token) :
    compiler.feed glyphs token = (Item.ofToken? token).elim compiler (follow glyphs compiler) := by
  cases token with
  | literal word => rfl
  | tag name =>
    simp only [Compiler.feed, Item.ofToken?]
    cases Directive.ofTag? name <;> rfl

theorem foldl_feed (tokens : List Token) (compiler : Compiler) :
    tokens.foldl (Compiler.feed glyphs) compiler =
      (meanings tokens).foldl (follow glyphs) compiler := by
  rw [meanings, List.foldl_filterMap]
  congr 1
  funext compiler token
  rw [feed_eq]
  cases Item.ofToken? token <;> rfl

theorem literal_eq (compiler : Compiler) (word : String) :
    compiler.literal glyphs word =
      { compiler with
        pending := compiler.pending ++ rendered glyphs compiler.pending (.word word) } := by
  simp only [Compiler.literal, rendered, DegreeScan.collapse_append]
  by_cases first : compiler.pending = []
  · simp [first]
  · simp [first]

theorem insert_eq (compiler : Compiler) (insertion : Insertion) :
    compiler.directive (.insert insertion) =
      { compiler with
        pending := compiler.pending ++
          rendered glyphs compiler.pending (.directive (.insert insertion)) } := by
  rw [Compiler.directive, code_eq, rendered]

/-- The compiler when the segment so far is `front` and the blocks before it are `blocks`. -/
def holding (blocks : List Block) (front : List Item) : Compiler :=
  ⟨style front, text glyphs front, blocks⟩

theorem style_word (front : List Item) (word : String) :
    style (front ++ [.word word]) = style front := by
  simp [style, Item.mode?, Item.color?, Item.position?]

theorem style_directive (front : List Item) (directive : Directive) :
    style (front ++ [.directive directive]) = directive.apply (style front) := by
  cases directive <;>
    simp [style, Item.mode?, Item.color?, Item.position?, Directive.apply]

theorem follow_joined {front : List Item} {item : Item} (blocks : List Block)
    (joined : ¬ (item.isStyle ∧ text glyphs front ≠ [])) :
    follow glyphs (holding glyphs blocks front) item = holding glyphs blocks (front ++ [item]) := by
  cases item with
  | word word => simp only [follow, literal_eq, holding, style_word, text_concat]
  | directive directive =>
    simp only [holding, style_directive, text_concat]
    cases directive with
    | insert insertion => exact insert_eq glyphs _ insertion
    | position _ | color _ | mode _ =>
      have empty : text glyphs front = [] := not_not.mp (not_and.mp joined rfl)
      simp [follow, Compiler.directive, rendered, empty]

theorem follow_cut {front : List Item} {item : Item} (blocks : List Block)
    (ends : item.isStyle ∧ text glyphs front ≠ []) :
    follow glyphs (holding glyphs blocks front) item =
      holding glyphs (blocks ++ [block glyphs front]) [item] := by
  obtain ⟨styled, filled⟩ := ends
  cases item with
  | word word => cases styled
  | directive directive =>
    have alone : style [.directive directive] = directive.apply {} := style_directive [] directive
    simp only [holding, text_style glyphs styled, alone]
    cases directive with
    | insert insertion => cases styled
    | position _ | color _ | mode _ =>
      simp [follow, Compiler.directive, Compiler.flush, filled, block, style]

/-- From any open segment on, the compiler makes a block of every segment there is still to come. -/
theorem finish_foldl_follow (items front : List Item) (blocks : List Block) :
    (items.foldl (follow glyphs) (holding glyphs blocks front)).finish =
      blocks ++ (cut glyphs front items).map (block glyphs) := by
  induction items generalizing front blocks with
  | nil => rfl
  | cons item rest ih =>
    rw [List.foldl_cons, cut]
    split
    next ends =>
      rw [follow_cut glyphs blocks ends, ih, List.map_cons, List.append_assoc, List.singleton_append]
    next joined => rw [follow_joined glyphs blocks joined, ih]

theorem compile_eq_cut (tokens : List Token) :
    compile glyphs tokens = (cut glyphs [] (meanings tokens)).map (block glyphs) := by
  rw [compile, foldl_feed]
  exact finish_foldl_follow glyphs (meanings tokens) [] []

theorem compile_of_segmented {tokens : List Token} {segments : List (List Item)}
    (valid : Segmented glyphs (meanings tokens) segments) :
    compile glyphs tokens = segments.map (block glyphs) := by
  rw [compile_eq_cut, ← cut_unique glyphs valid]

end Machine

/-- Every message is cut in exactly one way, and compiling it gives the blocks of the segments. The
tags that can cut are those that count as style tags. -/
theorem compile_reading (glyphs : GlyphTable) (tokens : List Token) :
    (∃ segments, Segmented glyphs (meanings tokens) segments ∧
      (∀ other, Segmented glyphs (meanings tokens) other → other = segments) ∧
      compile glyphs tokens = segments.map (block glyphs) ∧ compile glyphs tokens ≠ []) ∧
    ∀ directive : Directive, directive.isStyle ↔ (Item.directive directive).isStyle := by
  have cuts := segmented_cut glyphs (uncut_nil glyphs) (meanings tokens)
  have blocks := compile_eq_cut glyphs tokens
  refine ⟨⟨cut glyphs [] (meanings tokens), cuts, ?_, blocks, ?_⟩, ?_⟩
  · intro other valid
    exact cut_unique glyphs valid
  · rw [blocks, ne_eq, List.map_eq_nil_iff]
    exact cuts.nonempty
  · intro directive
    rw [Item.isStyle_directive]

-- The space belongs to the empty word, and the tag at the end opens a block without text.
example : compile Charset.utf8.table
      [.tag "top", .literal "a", .tag "none", .literal "", .tag "red"] =
    [⟨{ position := .top }, ['a', ' '].map Char.toUInt8⟩, ⟨{ color := .red }, []⟩] := by cbv

end Marquee.Proofs.MessageReading

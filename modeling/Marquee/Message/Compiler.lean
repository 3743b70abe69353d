import Marquee.Command
import Marquee.Message.Degree
import Marquee.Message.Directive
import Marquee.Message.Glyph
import Marquee.Message.Token

/-! From the tokens of a message to the blocks of a text file. Text gathers until a style tag cuts
it off. The block keeps the style it was written in, and the next one starts from the default. -/

namespace Marquee.Message

structure Compiler where
  /-- The style of the text being gathered. -/
  style : Style := {}
  pending : Bytes := []
  blocks : List Block := []

namespace Compiler

def flush (compiler : Compiler) : Compiler :=
  { compiler with pending := [], blocks := compiler.blocks ++ [⟨compiler.style, compiler.pending⟩] }

def literal (glyphs : GlyphTable) (compiler : Compiler) (word : String) : Compiler :=
  let spaced := if compiler.pending.isEmpty then [] else compiler.pending ++ [' '.toUInt8]
  { compiler with pending := Degree.collapse spaced.length (spaced ++ glyphs.transcode word) }

def directive (compiler : Compiler) (directive : Directive) : Compiler :=
  match directive with
  | .insert insertion => { compiler with pending := compiler.pending ++ insertion.code }
  | _ =>
    let fresh := if compiler.pending.isEmpty then compiler else { compiler.flush with style := {} }
    { fresh with style := directive.apply fresh.style }

/-- Tags that mean nothing are dropped. -/
def feed (glyphs : GlyphTable) (compiler : Compiler) : Token → Compiler
  | .literal word => compiler.literal glyphs word
  | .tag name =>
    match Directive.ofTag? name with
    | some directive => compiler.directive directive
    | none => compiler

/-- There is always a last block, even if it is empty. -/
def finish (compiler : Compiler) : List Block := compiler.flush.blocks

end Compiler

def compile (glyphs : GlyphTable) (tokens : List Token) : List Block :=
  (tokens.foldl (Compiler.feed glyphs) {}).finish

def compileMessage (glyphs : GlyphTable) (label : Label) (words : List String) : Command :=
  .writeText label (compile glyphs (tokenizeAll words))

end Marquee.Message

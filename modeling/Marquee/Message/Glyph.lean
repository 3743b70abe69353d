import Marquee.Wire

/-! From text to the characters of a sign. A table says for every text what the sign gets to see.
The two built-in ones differ in the letters and symbols that a sign has a code of its own for. -/

namespace Marquee.Message

structure GlyphTable where
  transcode : String → Bytes

/-- Each character by itself. -/
def GlyphTable.ofGlyph (glyph : Char → Bytes) : GlyphTable :=
  ⟨fun text => text.toList.flatMap glyph⟩

/-- The extended characters of a sign, none of them ASCII. -/
def extendedGlyphs : List (Char × UInt8) := [
  ('Ç', 0x80), ('ü', 0x81), ('é', 0x82), ('â', 0x83), ('ä', 0x84), ('à', 0x85), ('å', 0x86),
  ('ç', 0x87), ('ê', 0x88), ('ë', 0x89), ('è', 0x8A), ('ï', 0x8B), ('î', 0x8C), ('ì', 0x8D),
  ('Ä', 0x8E), ('Å', 0x8F), ('É', 0x90), ('æ', 0x91), ('Æ', 0x92), ('ô', 0x93), ('ö', 0x94),
  ('ò', 0x95), ('û', 0x96), ('ù', 0x97), ('ÿ', 0x98), ('Ö', 0x99), ('Ü', 0x9A), ('¢', 0x9B),
  ('£', 0x9C), ('¥', 0x9D), ('ƒ', 0x9F), ('á', 0xA0), ('í', 0xA1), ('ó', 0xA2), ('ú', 0xA3),
  ('ñ', 0xA4), ('Ñ', 0xA5), ('ª', 0xA6), ('º', 0xA7), ('¿', 0xA8), ('°', 0xA9), ('¡', 0xAA),
  ('θ', 0xAC), ('Θ', 0xAD), ('ß', 0xB7), ('Á', 0xBA), ('À', 0xBB), ('Ê', 0xBE), ('Í', 0xBF),
  ('Õ', 0xC0), ('õ', 0xC1)]

def extendedCode? (char : Char) : Option UInt8 := extendedGlyphs.lookup char

inductive Charset
  | utf8
  | extended
  deriving DecidableEq

/-- What a sign has no code for reaches it in UTF-8. -/
def Charset.glyph : Charset → Char → Bytes
  | .utf8, char => String.utf8EncodeChar char
  | .extended, char =>
    match extendedCode? char with
    | some code => [code]
    | none => String.utf8EncodeChar char

def Charset.table (charset : Charset) : GlyphTable := .ofGlyph charset.glyph

end Marquee.Message

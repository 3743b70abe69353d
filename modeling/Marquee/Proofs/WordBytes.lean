import Marquee.Proofs.CharacterBytes
import Marquee.Proofs.MessageReading

/-! What a word adds to a text. The scan for degree signs looks at bytes, but what it does can be
said of characters: it replaces the degree signs of the word and leaves everything else as it is, in
the word and before it. -/

namespace Marquee.Proofs.WordBytes
open Message CharacterBytes

theorem feed_word (charset : Charset) (compiler : Compiler) (word : String) :
    compiler.feed charset.table (.literal word) =
      { compiler with
        pending := compiler.pending ++ (if compiler.pending = [] then [] else [' '.toUInt8]) ++
          word.toList.flatMap (shown charset) } := by
  rw [Compiler.feed, MessageReading.literal_eq, MessageReading.rendered, normal_transcode,
    List.append_assoc]

/-- A word is set off by one space, and then each of its characters adds its own bytes. In UTF-8 the
degree sign is the only one to be replaced. In the extended charset it has a code like any other
character of the sign, and the scan finds nothing to do. What was there before stays, even if it has
the bytes of a degree sign in it or ends in the first of them. -/
theorem word_appended (compiler : Compiler) (word : String) :
    let spaced := compiler.pending ++ if compiler.pending = [] then [] else [' '.toUInt8]
    compiler.feed Charset.utf8.table (.literal word) =
        { compiler with
          pending := spaced ++ word.toList.flatMap fun char =>
            if char = degree then [0xA9] else String.utf8EncodeChar char } ∧
      compiler.feed Charset.extended.table (.literal word) =
        { compiler with
          pending := spaced ++ word.toList.flatMap fun char =>
            match extendedCode? char with
            | some code => [code]
            | none => String.utf8EncodeChar char } ∧
      Degree.collapse spaced.length (spaced ++ Charset.extended.table.transcode word) =
        spaced ++ Charset.extended.table.transcode word := by
  intro spaced
  refine ⟨?_, ?_, ?_⟩
  · exact feed_word .utf8 compiler word
  · rw [feed_word, funext shown_extended]
    rfl
  · rw [collapse_transcode, funext shown_extended]
    rfl

-- The text so far has a degree sign in it that nobody replaced, and ends in half of another one.
example : (Compiler.feed Charset.utf8.table
      { pending := [Degree.lead, Degree.trail, Degree.lead] } (.literal "°C")).pending =
    [Degree.lead, Degree.trail, Degree.lead, ' '.toUInt8, Degree.code, 'C'.toUInt8] := by cbv

end Marquee.Proofs.WordBytes

import Marquee.Proofs.BufferedReceiver
import Marquee.Proofs.FrameLanguage

/-! Where the bytes of a frame come from. A receiver that announces a frame has just heard all of
it, from its first NUL to its EOT, and nothing of it was left over from before. -/

namespace Marquee.Proofs.FrameOrigin
open Receiver Receiving ReceiverCalls BufferedReceiver FrameLanguage

/-- A frame that ends the bytes was not there a byte earlier, so nothing stands behind it. -/
theorem wire_at_end {bytes : Bytes} {byte : UInt8} {frame : Frame} {receiver : Receiver}
    (silent : idle.listen bytes = (waits bytes, receiver))
    (accepted : Frame.decode (bytes ++ [byte]) = .ok frame) :
    Wire.eot ∉ frame.payload ∧
      ∃ noise, bytes ++ [byte] = noise ++ frame.wire ∧ Wire.soh ∉ noise := by
  obtain ⟨ended, noise, rest, whole, quiet⟩ := wire_of_decode accepted
  refine ⟨ended, noise, ?_, quiet⟩
  -- With anything behind the frame, the bytes would have held it before the last one came.
  rcases List.eq_nil_or_concat' rest with empty | longer
  · rw [whole, empty, List.append_nil]
  · obtain ⟨front, last, rfl⟩ := longer
    rw [← List.append_assoc] at whole
    obtain ⟨early, -⟩ := List.append_inj' whole rfl
    have already : Frame.decode bytes = .ok frame := by
      rw [early]
      exact decode_wire ended quiet front
    have unheard : Frame.decode bytes = .error .incomplete := by
      rw [decode_eq, feedBytes_waits silent]
      rfl
    rw [unheard] at already
    cases already

/-- However a receiver was used before, a frame that it announces stands at the end of the bytes
since the last frame, fault or reset, in full and without an EOT in its payload. Those bytes alone
decode to it, and buffers that still hold an old class of sign announce the same frame. -/
theorem frame_from_recent (calls : List Call) (byte : UInt8) (frame : Frame)
    (announced : ((run idle calls).2.feed byte).1 = .frame frame) :
    let bytes := recent (run idle calls).1 ++ [byte]
    (∃ noise, bytes = noise ++ frame.wire ∧ Wire.soh ∉ noise) ∧ Wire.eot ∉ frame.payload ∧
      Frame.decode bytes = .ok frame ∧
      ∃ buffered next, ({} : Buffered).run calls = some ((run idle calls).1, buffered) ∧
        buffered.feed byte = some (.frame frame, next) := by
  intro bytes
  have silent := listen_recent calls
  have accepted : Frame.decode bytes = .ok frame := by
    rw [decode_eq, feedBytes_append silent, feedBytes_event (Prod.ext announced rfl) nofun]
    rfl
  obtain ⟨ended, noise, whole, quiet⟩ := wire_at_end silent accepted
  obtain ⟨buffered, ran, holds⟩ := holds_run (holds_idle .allSigns) calls
  obtain ⟨next, fed, -⟩ := holds_feed holds byte
  rw [announced] at fed
  exact ⟨⟨noise, whole, quiet⟩, ended, accepted, buffered, next, ran, fed⟩

/-- An attempt is given up halfway through its address, a header comes too early, and then a frame
arrives in pieces behind two NULs too many. -/
theorem frame_from_recent_third :
    let frame : Frame := ⟨⟨Wire.stx, 0xFF⟩, .verify, [Wire.soh, Wire.nul]⟩
    let given := Wire.wakeup ++ [Wire.soh, SignType.betaBrite.byte, 0x31]
    let calls := [.feedBytes given, .reset, .feed Wire.soh,
      .feedBytes (0x41 :: Wire.nul :: Wire.nul :: frame.wire.dropLast)]
    ((run idle calls).2.feed Wire.eot).1 = .frame frame ∧
      recent (run idle calls).1 = 0x41 :: Wire.nul :: Wire.nul :: frame.wire.dropLast ∧
      ∃ noise, recent (run idle calls).1 ++ [Wire.eot] = noise ++ frame.wire ∧ Wire.soh ∉ noise := by
  intro frame given calls
  have announced : ((run idle calls).2.feed Wire.eot).1 = .frame frame := by decide
  exact ⟨announced, by decide, (frame_from_recent calls Wire.eot frame announced).1⟩

end Marquee.Proofs.FrameOrigin

import Marquee.Proofs.FrameLanguage

/-! Sending and reading undo each other. What is sent is read back up to its first EOT, and of all
the bytes that are read as a frame only one form is what that frame is sent as. -/

namespace Marquee.Proofs.CanonicalWire
open Receiving FrameLanguage

/-- The payload stands here in bytes that start with the shortest wake-up run. -/
def textStart : Nat := Wire.wakeupLength + 5

/-- No noise and no NUL too many in front, and nothing behind the first EOT of the text. -/
structure Canonical (bytes : Bytes) : Prop where
  awake : Wire.wakeup ++ [Wire.soh] <+: bytes
  closed : ∃ text, bytes.drop textStart = text ++ [Wire.eot] ∧ Wire.eot ∉ text

section Mark
variable {mark : UInt8} {front : Bytes} (first : mark ∉ front)
include first

theorem takeWhile_unmarked : front.takeWhile (· != mark) = front := by
  rw [List.takeWhile_eq_self_iff]
  intro byte member
  rw [bne_iff_ne]
  rintro rfl
  exact first member

theorem takeWhile_marked (back : Bytes) :
    (front ++ mark :: back).takeWhile (· != mark) = front := by
  rw [List.takeWhile_append, takeWhile_unmarked first, if_pos rfl,
    List.takeWhile_cons_of_neg (by simp), List.append_nil]

/-- There is only one first mark. -/
theorem split_at_mark {front' back back' : Bytes} (first' : mark ∉ front')
    (same : front ++ mark :: back = front' ++ mark :: back') : front = front' ∧ back = back' := by
  have fronts : front = front' := by
    rw [← takeWhile_marked first back, same, takeWhile_marked first']
  subst fronts
  exact ⟨rfl, List.tail_eq_of_cons_eq (List.append_cancel_left same)⟩

end Mark

theorem decode_wire_first (frame : Frame) :
    Frame.decode frame.wire =
      .ok { frame with payload := frame.payload.takeWhile (· != Wire.eot) } := by
  by_cases held : Wire.eot ∈ frame.payload
  · obtain ⟨front, back, split, first⟩ := List.eq_append_cons_of_mem held
    rw [decode_wire_cut first split, split, takeWhile_marked first]
  · rw [takeWhile_unmarked held]
    exact (decode_wire_eq_iff frame).mpr held

theorem drop_wire (frame : Frame) (rest : Bytes) :
    (frame.wire ++ rest).drop textStart = frame.payload ++ Wire.eot :: rest := by
  rw [wire_eq]
  simp [textStart, opening, Wire.wakeup, Wire.wakeupLength]

theorem canonical_wire {frame : Frame} (ended : Wire.eot ∉ frame.payload) :
    Canonical frame.wire where
  awake := by
    rw [wire_eq]
    simp [List.append_assoc]
  closed := ⟨frame.payload, by simpa using drop_wire frame [], ended⟩

/-- Noise without SOH leaves no room for itself if the first SOH comes right after five bytes. -/
theorem noise_eq_nil {noise : Bytes} (quiet : Wire.soh ∉ noise) {frame : Frame} {rest : Bytes}
    (awake : Wire.wakeup ++ [Wire.soh] <+: noise ++ frame.wire ++ rest) : noise = [] := by
  obtain ⟨behind, same⟩ := awake
  have silent : Wire.soh ∉ noise ++ Wire.wakeup := by
    rw [List.mem_append, not_or]
    exact ⟨quiet, by decide⟩
  simp only [wire_eq, List.append_assoc, List.cons_append, List.nil_append] at same
  rw [← List.append_assoc noise] at same
  exact List.self_eq_append_left.mp (split_at_mark (by decide) silent same).1

theorem wire_eq_iff_canonical {bytes : Bytes} {frame : Frame}
    (accepted : Frame.decode bytes = .ok frame) : frame.wire = bytes ↔ Canonical bytes := by
  obtain ⟨ended, noise, rest, rfl, quiet⟩ := wire_of_decode accepted
  constructor
  · intro same
    rw [← same]
    exact canonical_wire ended
  · rintro ⟨awake, text, closed, whole⟩
    obtain rfl := noise_eq_nil quiet awake
    rw [List.nil_append, drop_wire] at closed
    obtain ⟨-, rfl⟩ := split_at_mark ended whole closed
    rw [List.nil_append, List.append_nil]

theorem wire_injective : Function.Injective Frame.wire := by
  rintro ⟨⟨high, low⟩, signType, payload⟩ ⟨⟨high', low'⟩, signType', payload'⟩ same
  simp only [wire_eq, opening, List.append_assoc, List.append_cancel_left_eq, List.cons_append,
    List.nil_append, List.cons.injEq, List.append_cancel_right_eq, true_and] at same
  obtain ⟨typed, rfl, rfl, rfl⟩ := same
  have types : signType = signType' := by
    rw [← Option.some_inj, ← SignType.ofByte?_byte, typed, SignType.ofByte?_byte]
  rw [types]

/-- A frame comes back up to its first EOT, and whole if it has none. Bytes that are read as a frame
are the ones that frame is sent as if they are in canonical form. No two frames are sent as the same
bytes, whatever is in them. -/
theorem decode_inverts_wire :
    (∀ frame : Frame, Frame.decode frame.wire =
        .ok { frame with payload := frame.payload.takeWhile (· != Wire.eot) } ∧
      (Frame.decode frame.wire = .ok frame ↔ Wire.eot ∉ frame.payload)) ∧
    (∀ bytes frame, Frame.decode bytes = .ok frame → (frame.wire = bytes ↔ Canonical bytes)) ∧
    Function.Injective Frame.wire :=
  ⟨fun frame => ⟨decode_wire_first frame, decode_wire_eq_iff frame⟩,
    fun _ _ accepted => wire_eq_iff_canonical accepted, wire_injective⟩

/-- One NUL more in front, or an EOT more behind, and the frame is still read but not in its one
form. -/
theorem decode_inverts_wire_padded :
    let frame : Frame := ⟨⟨Wire.eot, Wire.soh⟩, .betaBrite, [Wire.soh, Wire.stx, Wire.nul]⟩
    let early := Wire.nul :: frame.wire
    let late := frame.wire ++ [Wire.eot]
    Frame.decode frame.wire = .ok frame ∧ Frame.decode early = .ok frame ∧
      Frame.decode late = .ok frame ∧
      Canonical frame.wire ∧ ¬ Canonical early ∧ ¬ Canonical late := by
  intro frame early late
  have plain : Frame.decode frame.wire = .ok frame := rfl
  have padded : Frame.decode early = .ok frame := rfl
  have followed : Frame.decode late = .ok frame := rfl
  obtain ⟨-, form, -⟩ := decode_inverts_wire
  refine ⟨plain, padded, followed, (form _ _ plain).mp rfl, ?_, ?_⟩
  · exact mt (form _ _ padded).mpr (by decide)
  · exact mt (form _ _ followed).mpr (by decide)

end Marquee.Proofs.CanonicalWire

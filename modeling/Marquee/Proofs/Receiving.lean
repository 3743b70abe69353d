import Marquee.Frame.Receiver
import Mathlib.Data.List.DropRight

/-! What a receiver makes of the bytes it hears, stage by stage. Noise keeps it waiting for a
header, and the bytes of a frame take it through the other stages to the frame and back to idle. -/

namespace Marquee.Proofs.Receiving
open Receiver

/-- Every byte is answered by a request for more. -/
def waits (bytes : Bytes) : List Answer := bytes.map fun _ => .more

theorem waits_append (first second : Bytes) :
    waits (first ++ second) = waits first ++ waits second := List.map_append

/-- The answers to a frame that arrives whole. -/
def heard (frame : Frame) : List Answer := waits frame.wire.dropLast ++ [.frame frame]

/-- The NULs that the bytes end in. -/
def trailing (bytes : Bytes) : Nat := (bytes.rtakeWhile (· == Wire.nul)).length

theorem trailing_concat_nul (bytes : Bytes) :
    trailing (bytes ++ [Wire.nul]) = trailing bytes + 1 := by
  simp [trailing]

theorem trailing_concat_other (bytes : Bytes) {byte : UInt8} (other : byte ≠ Wire.nul) :
    trailing (bytes ++ [byte]) = 0 := by
  simp [trailing, other]

theorem le_trailing_iff (count : Nat) (bytes : Bytes) :
    count ≤ trailing bytes ↔ List.replicate count Wire.nul <:+ bytes := by
  induction bytes using List.reverseRecOn generalizing count with
  | nil => simp [trailing]
  | append_singleton bytes byte ih =>
    cases count with
    | zero => simp
    | succ count =>
      rw [List.replicate_succ', List.suffix_concat_iff]
      by_cases same : byte = Wire.nul
      · subst same
        rw [trailing_concat_nul, Nat.add_le_add_iff_right, ih]
        simp
      · rw [trailing_concat_other bytes same]
        simp [Ne.symm same]

section Stages
variable {nuls : Nat} {byte : UInt8} {signType : SignType} {address : Address}

theorem feed_nul : (⟨nuls, .header⟩ : Receiver).feed Wire.nul = (.more, ⟨nuls + 1, .header⟩) := rfl

theorem feed_noise (other : byte ≠ Wire.nul) (quiet : byte ≠ Wire.soh) :
    (⟨nuls, .header⟩ : Receiver).feed byte = (.more, idle) := by
  simp only [feed, if_neg other, if_neg quiet]

theorem feed_soh (awake : Wire.wakeupLength ≤ nuls) :
    (⟨nuls, .header⟩ : Receiver).feed Wire.soh = (.more, ⟨nuls, .signType⟩) := by
  simp only [feed, if_pos awake]
  rfl

theorem feed_soh_early (asleep : ¬ Wire.wakeupLength ≤ nuls) :
    (⟨nuls, .header⟩ : Receiver).feed Wire.soh = (.fault .shortWakeup, idle) := by
  simp only [feed, if_neg asleep]
  rfl

theorem feed_signType :
    (⟨nuls, .signType⟩ : Receiver).feed signType.byte = (.more, ⟨nuls, .address signType none⟩) := by
  simp only [feed, SignType.ofByte?_byte]

theorem feed_unknown (foreign : ∀ signType : SignType, signType.byte ≠ byte) :
    (⟨nuls, .signType⟩ : Receiver).feed byte = (.fault .unknownSignType, idle) := by
  simp only [feed, SignType.ofByte?_eq_none_iff.mpr foreign]

theorem feed_high :
    (⟨nuls, .address signType none⟩ : Receiver).feed byte =
      (.more, ⟨nuls, .address signType (some byte)⟩) := rfl

theorem feed_low {high : UInt8} :
    (⟨nuls, .address signType (some high)⟩ : Receiver).feed byte =
      (.more, ⟨nuls, .text signType ⟨high, byte⟩⟩) := rfl

theorem feed_stx :
    (⟨nuls, .text signType address⟩ : Receiver).feed Wire.stx =
      (.more, ⟨nuls, .payload signType address []⟩) := rfl

theorem feed_other_text (other : byte ≠ Wire.stx) :
    (⟨nuls, .text signType address⟩ : Receiver).feed byte = (.fault .invalidFrame, idle) := by
  simp only [feed, if_neg other]

theorem feed_payload {latest : Bytes} (ended : byte ≠ Wire.eot) :
    (⟨nuls, .payload signType address latest⟩ : Receiver).feed byte =
      (.more, ⟨nuls, .payload signType address (byte :: latest)⟩) := by
  simp only [feed, if_neg ended]

theorem feed_eot {latest : Bytes} :
    (⟨nuls, .payload signType address latest⟩ : Receiver).feed Wire.eot =
      (.frame ⟨address, signType, latest.reverse⟩, idle) := rfl

end Stages

theorem feedBytes_more {receiver next : Receiver} {byte : UInt8}
    (step : receiver.feed byte = (.more, next)) (rest : Bytes) :
    receiver.feedBytes (byte :: rest) = next.feedBytes rest := by
  simp only [feedBytes, step]

theorem feedBytes_event {receiver next : Receiver} {byte : UInt8} {answer : Answer}
    (step : receiver.feed byte = (answer, next)) (event : answer ≠ .more) (rest : Bytes) :
    receiver.feedBytes (byte :: rest) = (answer, next) := by
  cases answer with
  | more => exact absurd rfl event
  | frame _ | fault _ => simp only [feedBytes, step]

theorem feedBytes_append {receiver next : Receiver} {first : Bytes}
    (silent : receiver.listen first = (waits first, next)) (rest : Bytes) :
    receiver.feedBytes (first ++ rest) = next.feedBytes rest := by
  induction first generalizing receiver with
  | nil => cases silent; rfl
  | cons byte first ih =>
    obtain ⟨answers, last⟩ := Prod.mk.inj silent
    obtain ⟨answer, later⟩ := List.cons.inj answers
    have step : receiver.feed byte = (.more, (receiver.feed byte).2) := Prod.ext answer rfl
    rw [List.cons_append, feedBytes_more step]
    exact ih (Prod.ext later last)

theorem feedBytes_waits {receiver next : Receiver} {bytes : Bytes}
    (silent : receiver.listen bytes = (waits bytes, next)) :
    receiver.feedBytes bytes = (.more, next) := by
  rw [← List.append_nil bytes, feedBytes_append silent]
  rfl

/-- All that is left of noise is how many NULs it ended in. -/
theorem listen_noise {noise : Bytes} (quiet : Wire.soh ∉ noise) :
    idle.listen noise = (waits noise, ⟨trailing noise, .header⟩) := by
  -- From the right, as every byte but NUL starts the count again.
  induction noise using List.reverseRecOn with
  | nil => rfl
  | append_singleton noise byte ih =>
    simp only [List.mem_append, List.mem_singleton, not_or] at quiet
    rw [listen_append, ih quiet.1, waits_append]
    by_cases same : byte = Wire.nul
    · subst same
      simp only [Receiver.listen, feed_nul, trailing_concat_nul]
      rfl
    · simp only [Receiver.listen, feed_noise same (Ne.symm quiet.2), trailing_concat_other noise same]
      rfl

theorem listen_wakeup (nuls : Nat) :
    (⟨nuls, .header⟩ : Receiver).listen Wire.wakeup =
      (waits Wire.wakeup, ⟨nuls + Wire.wakeupLength, .header⟩) := rfl

/-- What stands between SOH and the payload. -/
def opening (signType : SignType) (address : Address) : Bytes :=
  [signType.byte, address.high, address.low, Wire.stx]

theorem wire_eq (frame : Frame) :
    frame.wire = Wire.wakeup ++
      Wire.soh :: (opening frame.signType frame.address ++ frame.payload) ++ [Wire.eot] := by
  simp [Frame.wire, opening, Address.bytes]

theorem listen_opening (nuls : Nat) (signType : SignType) (address : Address) :
    (⟨nuls, .signType⟩ : Receiver).listen (opening signType address) =
      (waits (opening signType address), ⟨nuls, .payload signType address []⟩) := by
  simp only [opening, Receiver.listen, feed_signType, feed_high, feed_low, feed_stx]
  rfl

theorem listen_payload (nuls : Nat) (signType : SignType) (address : Address) {payload : Bytes}
    (latest : Bytes) (ended : Wire.eot ∉ payload) :
    (⟨nuls, .payload signType address latest⟩ : Receiver).listen payload =
      (waits payload, ⟨nuls, .payload signType address (payload.reverse ++ latest)⟩) := by
  induction payload generalizing latest with
  | nil => rfl
  | cons byte rest ih =>
    simp only [List.mem_cons, not_or] at ended
    simp only [Receiver.listen, feed_payload (Ne.symm ended.1), ih _ ended.2, List.reverse_cons,
      List.append_assoc]
    rfl

/-- A whole frame is heard however many NULs came before it, and nothing of it is kept. -/
theorem listen_wire (nuls : Nat) {frame : Frame} (ended : Wire.eot ∉ frame.payload) :
    (⟨nuls, .header⟩ : Receiver).listen frame.wire = (heard frame, idle) := by
  have awake : Wire.wakeupLength ≤ nuls + Wire.wakeupLength := Nat.le_add_left _ _
  have body : (⟨nuls, .header⟩ : Receiver).listen (Wire.wakeup ++
        Wire.soh :: (opening frame.signType frame.address ++ frame.payload)) =
      (waits (Wire.wakeup ++ Wire.soh :: (opening frame.signType frame.address ++ frame.payload)),
        ⟨nuls + Wire.wakeupLength,
          .payload frame.signType frame.address frame.payload.reverse⟩) := by
    simp only [listen_append, listen_wakeup, Receiver.listen, feed_soh awake, listen_opening,
      listen_payload _ _ _ _ ended, List.append_nil, waits, List.map_append, List.map_cons]
  rw [heard, wire_eq, List.dropLast_concat, listen_append, body]
  simp only [Receiver.listen, feed_eot, List.reverse_reverse]

end Marquee.Proofs.Receiving

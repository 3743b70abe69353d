import Marquee.Proofs.Receiving

/-! Which bytes are a frame, without a receiver. Everything is decided by where the first SOH, the
first STX behind it and the first EOT behind that stand. Decoding gives exactly the answers of this
grammar. -/

namespace Marquee.Proofs.FrameLanguage
open Receiver Receiving

/-- How the bytes behind SOH read. Each rule names the first thing that is missing or wrong. -/
inductive Opened : Bytes → Except FrameFault Frame → Prop
  | silent : Opened [] (.error .incomplete)
  | unknown {byte : UInt8} {rest : Bytes} (foreign : ∀ signType : SignType, signType.byte ≠ byte) :
      Opened (byte :: rest) (.error .unknownSignType)
  | broken {signType : SignType} {rest : Bytes} (short : rest.length < 3) :
      Opened (signType.byte :: rest) (.error .incomplete)
  | misplaced {signType : SignType} {high low byte : UInt8} {rest : Bytes}
      (other : byte ≠ Wire.stx) :
      Opened (signType.byte :: high :: low :: byte :: rest) (.error .invalidFrame)
  | unended (signType : SignType) (address : Address) {text : Bytes} (ended : Wire.eot ∉ text) :
      Opened (opening signType address ++ text) (.error .incomplete)
  | whole (frame : Frame) (rest : Bytes) (ended : Wire.eot ∉ frame.payload) :
      Opened (opening frame.signType frame.address ++ (frame.payload ++ Wire.eot :: rest)) (.ok frame)

/-- How bytes read. Only the first SOH counts, and only the NULs right before it wake the sign. -/
inductive Reading : Bytes → Except FrameFault Frame → Prop
  | noise {bytes : Bytes} (quiet : Wire.soh ∉ bytes) : Reading bytes (.error .incomplete)
  | asleep {noise rest : Bytes} (quiet : Wire.soh ∉ noise)
      (short : trailing noise < Wire.wakeupLength) :
      Reading (noise ++ Wire.soh :: rest) (.error .shortWakeup)
  | opened {noise rest : Bytes} {answer : Except FrameFault Frame} (quiet : Wire.soh ∉ noise)
      (awake : Wire.wakeupLength ≤ trailing noise) (read : Opened rest answer) :
      Reading (noise ++ Wire.soh :: rest) answer

private theorem opened_total (rest : Bytes) : ∃ answer, Opened rest answer := by
  match rest with
  | [] => exact ⟨_, .silent⟩
  | byte :: rest =>
    by_cases known : ∃ signType : SignType, signType.byte = byte
    · obtain ⟨signType, rfl⟩ := known
      match rest with
      | [] | [_] | [_, _] => exact ⟨_, .broken (by simp)⟩
      | high :: low :: byte :: text =>
        by_cases marked : byte = Wire.stx
        · subst marked
          by_cases ended : Wire.eot ∈ text
          · obtain ⟨payload, rest, rfl, first⟩ := List.eq_append_cons_of_mem ended
            exact ⟨_, .whole ⟨⟨high, low⟩, signType, payload⟩ rest first⟩
          · exact ⟨_, .unended signType ⟨high, low⟩ ended⟩
        · exact ⟨_, .misplaced marked⟩
    · exact ⟨_, .unknown (not_exists.mp known)⟩

private theorem reading_total (bytes : Bytes) : ∃ answer, Reading bytes answer := by
  by_cases header : Wire.soh ∈ bytes
  · obtain ⟨noise, rest, rfl, first⟩ := List.eq_append_cons_of_mem header
    by_cases awake : Wire.wakeupLength ≤ trailing noise
    · obtain ⟨answer, read⟩ := opened_total rest
      exact ⟨answer, .opened first awake read⟩
    · exact ⟨_, .asleep first (Nat.lt_of_not_le awake)⟩
  · exact ⟨_, .noise header⟩

/-- What decoding makes of the last answer. -/
def verdict : Answer → Except FrameFault Frame
  | .more => .error .incomplete
  | .frame frame => .ok frame
  | .fault fault => .error fault

theorem decode_eq (bytes : Bytes) : Frame.decode bytes = verdict (idle.feedBytes bytes).1 := by
  unfold Frame.decode
  cases (idle.feedBytes bytes).1 <;> rfl

private theorem verdict_opened (nuls : Nat) {rest : Bytes} {answer : Except FrameFault Frame}
    (read : Opened rest answer) :
    verdict ((⟨nuls, .signType⟩ : Receiver).feedBytes rest).1 = answer := by
  cases read with
  | silent => rfl
  | unknown foreign =>
    rw [feedBytes_event (feed_unknown foreign) nofun]
    rfl
  | @broken signType rest short =>
    rw [feedBytes_more feed_signType]
    match rest, short with
    | [], _ | [_], _ | [_, _], _ => rfl
  | misplaced other =>
    rw [feedBytes_more feed_signType, feedBytes_more feed_high, feedBytes_more feed_low,
      feedBytes_event (feed_other_text other) nofun]
    rfl
  | unended signType address ended =>
    rw [feedBytes_append (listen_opening nuls signType address),
      feedBytes_waits (listen_payload nuls signType address [] ended)]
    rfl
  | whole frame rest ended =>
    rw [feedBytes_append (listen_opening nuls _ _),
      feedBytes_append (listen_payload nuls _ _ [] ended), feedBytes_event feed_eot nofun]
    simp only [verdict, List.append_nil, List.reverse_reverse]

theorem decode_of_reading {bytes : Bytes} {answer : Except FrameFault Frame}
    (read : Reading bytes answer) : Frame.decode bytes = answer := by
  rw [decode_eq]
  cases read with
  | noise quiet =>
    rw [feedBytes_waits (listen_noise quiet)]
    rfl
  | asleep quiet short =>
    rw [feedBytes_append (listen_noise quiet),
      feedBytes_event (feed_soh_early (Nat.not_le_of_lt short)) nofun]
    rfl
  | opened quiet awake read =>
    rw [feedBytes_append (listen_noise quiet), feedBytes_more (feed_soh awake)]
    exact verdict_opened _ read

/-- There is a reading of all bytes, so the one that decoding follows is the only one. -/
theorem decode_eq_iff (bytes : Bytes) (answer : Except FrameFault Frame) :
    Frame.decode bytes = answer ↔ Reading bytes answer := by
  refine ⟨?_, decode_of_reading⟩
  rintro rfl
  obtain ⟨answer, read⟩ := reading_total bytes
  rw [decode_of_reading read]
  exact read

theorem decode_wire {frame : Frame} (ended : Wire.eot ∉ frame.payload) {noise : Bytes}
    (quiet : Wire.soh ∉ noise) (rest : Bytes) :
    Frame.decode (noise ++ frame.wire ++ rest) = .ok frame := by
  have awake : Wire.wakeupLength ≤ trailing (noise ++ Wire.wakeup) :=
    (le_trailing_iff _ _).mpr (List.suffix_append _ _)
  have silent : Wire.soh ∉ noise ++ Wire.wakeup := by
    rw [List.mem_append, not_or]
    exact ⟨quiet, by decide⟩
  have same := decode_of_reading (.opened silent awake (.whole frame rest ended))
  simpa only [wire_eq, List.append_assoc, List.cons_append, List.nil_append] using same

/-- A payload with an EOT in it arrives up to there. -/
theorem decode_wire_cut {frame : Frame} {front back : Bytes} (first : Wire.eot ∉ front)
    (split : frame.payload = front ++ Wire.eot :: back) :
    Frame.decode frame.wire = .ok { frame with payload := front } := by
  let early : Frame := { frame with payload := front }
  have ended : Wire.eot ∉ early.payload := first
  simpa [early, Frame.wire, split] using decode_wire ended List.not_mem_nil (back ++ [Wire.eot])

theorem decode_wire_eq_iff (frame : Frame) :
    Frame.decode frame.wire = .ok frame ↔ Wire.eot ∉ frame.payload := by
  constructor
  · intro whole held
    obtain ⟨front, back, split, first⟩ := List.eq_append_cons_of_mem held
    rw [decode_wire_cut first split, Except.ok.injEq] at whole
    rw [← congrArg Frame.payload whole] at held
    exact first held
  · intro ended
    simpa using decode_wire ended List.not_mem_nil []

/-- Bytes that decode to a frame are its wire form between noise and anything at all. -/
theorem wire_of_decode {bytes : Bytes} {frame : Frame} (accepted : Frame.decode bytes = .ok frame) :
    Wire.eot ∉ frame.payload ∧
      ∃ noise rest, bytes = noise ++ frame.wire ++ rest ∧ Wire.soh ∉ noise := by
  cases (decode_eq_iff bytes (.ok frame)).mp accepted with
  | opened quiet awake read =>
    cases read with
    | whole _ rest ended =>
      obtain ⟨noise, rfl⟩ := (le_trailing_iff _ _).mp awake
      refine ⟨ended, noise, rest, ?_, fun member => quiet (List.mem_append_left _ member)⟩
      simp [wire_eq, Wire.wakeup]

/-- Decoding answers by the grammar on all bytes. In bytes that hold a frame, nothing else in front
of the header and nothing behind the end matters. -/
theorem decode_language (bytes : Bytes) :
    (∀ answer, Frame.decode bytes = answer ↔ Reading bytes answer) ∧
      ∀ frame, Frame.decode bytes = .ok frame →
        ∃ noise rest, bytes = noise ++ frame.wire ++ rest ∧ Wire.soh ∉ noise ∧
          ∀ before nuls after, Wire.soh ∉ before →
            Frame.decode (before ++ List.replicate nuls Wire.nul ++ frame.wire ++ after) =
              .ok frame := by
  refine ⟨decode_eq_iff bytes, ?_⟩
  intro frame accepted
  obtain ⟨ended, noise, rest, same, quiet⟩ := wire_of_decode accepted
  refine ⟨noise, rest, same, quiet, ?_⟩
  intro before nuls after silent
  apply decode_wire ended
  rw [List.mem_append, not_or, List.mem_replicate]
  exact ⟨silent, fun nul => absurd nul.2 (by decide)⟩

/-- Noise, seven NULs, control bytes in the address, and another SOH behind the end. -/
theorem decode_language_noisy :
    let frame : Frame := ⟨⟨Wire.soh, Wire.eot⟩, .allSigns, [Wire.stx, Wire.soh]⟩
    let bytes := [0xFF, Wire.stx] ++ List.replicate 2 Wire.nul ++ frame.wire ++ [Wire.soh]
    Reading bytes (.ok frame) ∧
      ∃ noise rest, bytes = noise ++ frame.wire ++ rest ∧ Wire.soh ∉ noise ∧
        ∀ before nuls after, Wire.soh ∉ before →
          Frame.decode (before ++ List.replicate nuls Wire.nul ++ frame.wire ++ after) =
            .ok frame :=
  ⟨((decode_language _).1 _).mp rfl, (decode_language _).2 _ rfl⟩

end Marquee.Proofs.FrameLanguage

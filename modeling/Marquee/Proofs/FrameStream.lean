import Marquee.Proofs.Receiving

/-! A line carries frame after frame, with noise between them. A receiver that starts with the line
hears every frame and nothing else. One that joins in the middle of something, or is confused,
loses at most one frame before it hears the next. -/

namespace Marquee.Proofs.FrameStream
open Receiver Receiving

/-- Noise, and then frames in turn with noise behind each. -/
def stream (noise : Bytes) (sent : List (Frame × Bytes)) : Bytes :=
  noise ++ sent.flatMap fun (frame, behind) => frame.wire ++ behind

theorem stream_cons (noise behind : Bytes) (frame : Frame) (sent : List (Frame × Bytes)) :
    stream noise ((frame, behind) :: sent) = noise ++ (frame.wire ++ stream behind sent) := by
  simp only [stream, List.flatMap_cons, List.append_assoc]

/-- Every frame is heard at its last byte, in the order they were sent. Nothing else is answered. -/
theorem listen_stream (noise : Bytes) (sent : List (Frame × Bytes)) (quiet : Wire.soh ∉ noise)
    (ended : ∀ entry ∈ sent, Wire.eot ∉ entry.1.payload)
    (silent : ∀ entry ∈ sent, Wire.soh ∉ entry.2) :
    (idle.listen (stream noise sent)).1 =
      waits noise ++ sent.flatMap fun (frame, behind) => heard frame ++ waits behind := by
  induction sent generalizing noise with
  | nil => simp only [stream, List.flatMap_nil, List.append_nil, listen_noise quiet]
  | cons entry sent ih =>
    obtain ⟨frame, behind⟩ := entry
    simp only [List.mem_cons, forall_eq_or_imp] at ended silent
    have rest := ih behind silent.1 ended.2 silent.2
    rw [stream_cons, listen_append, listen_noise quiet, listen_append, listen_wire _ ended.1, rest]
    simp only [List.flatMap_cons, List.append_assoc]

/-- The first frame has control bytes in its address and markers in its payload, and the NULs behind
it run into the second one. -/
theorem listen_stream_two :
    let first : Frame := ⟨⟨Wire.eot, Wire.soh⟩, .allSigns, [Wire.soh, Wire.nul, Wire.stx]⟩
    let second : Frame := ⟨.broadcast, .betaBrite, []⟩
    let sent := [(first, [Wire.nul, Wire.nul]), (second, [Wire.eot])]
    (∀ entry ∈ sent, Wire.eot ∉ entry.1.payload) ∧ (∀ entry ∈ sent, Wire.soh ∉ entry.2) ∧
      (idle.listen (stream [0xFF, Wire.nul] sent)).1 =
        waits [0xFF, Wire.nul] ++ sent.flatMap fun (frame, behind) => heard frame ++ waits behind :=
  ⟨by decide, by decide, listen_stream _ _ (by decide) (by decide) (by decide)⟩

/-- Between frames or inside the text of one. An EOT is all it takes to be idle again. -/
def Settled (receiver : Receiver) : Prop :=
  match receiver.stage with
  | .header | .payload .. => True
  | _ => False

private theorem settled_noise {noise : Bytes} (quiet : Wire.soh ∉ noise) :
    Settled (idle.listen noise).2 := by
  rw [listen_noise quiet]
  trivial

private theorem settled_payload (nuls : Nat) (signType : SignType) (address : Address)
    (latest : Bytes) {bytes : Bytes} (ended : Wire.eot ∉ bytes) :
    Settled ((⟨nuls, .payload signType address latest⟩ : Receiver).listen bytes).2 := by
  rw [listen_payload nuls signType address latest ended]
  trivial

private theorem listen_eot {receiver : Receiver} (settled : Settled receiver) :
    (receiver.listen [Wire.eot]).2 = idle := by
  obtain ⟨nuls, stage⟩ := receiver
  cases stage with
  | header => rfl
  | payload => rfl
  | signType | address _ _ | text _ _ => exact settled.elim

/-- From the middle of a header the wake-up run is a fault, and what is left of it is noise. -/
private theorem settled_wakeup (receiver : Receiver) :
    Settled (receiver.listen Wire.wakeup).2 := by
  obtain ⟨nuls, stage⟩ := receiver
  cases stage with
  | address _ high => cases high <;> trivial
  | header | signType | text _ _ | payload _ _ _ => trivial

private theorem settled_header {receiver : Receiver} (settled : Settled receiver)
    (signType : SignType) (address : Address) {payload : Bytes}
    (quiet : Wire.soh ∉ opening signType address ++ payload)
    (ended : Wire.eot ∉ opening signType address ++ payload) :
    Settled (receiver.listen (Wire.soh :: (opening signType address ++ payload))).2 := by
  obtain ⟨nuls, stage⟩ := receiver
  cases stage with
  | header =>
    by_cases awake : Wire.wakeupLength ≤ nuls
    · simp only [Receiver.listen, feed_soh awake, listen_append, listen_opening]
      exact settled_payload _ _ _ _ (fun member => ended (List.mem_append_right _ member))
    · -- The header came too early. What follows it holds no second SOH, so it is noise.
      simp only [Receiver.listen, feed_soh_early awake]
      exact settled_noise quiet
  | payload first inside latest =>
    apply settled_payload
    simp only [List.mem_cons, not_or]
    exact ⟨by decide, ended⟩
  | signType | address _ _ | text _ _ => exact settled.elim

private theorem control_absent {control : UInt8} {frame : Frame} (small : control < 0x20)
    (other : control ≠ Wire.stx) (high : 0x20 ≤ frame.address.high)
    (low : 0x20 ≤ frame.address.low) (missing : control ∉ frame.payload) :
    control ∉ opening frame.signType frame.address ++ frame.payload := by
  have differs {byte : UInt8} (printable : 0x20 ≤ byte) : control ≠ byte := by
    rintro rfl
    exact UInt8.not_le.mpr small printable
  simp only [opening, List.mem_append, List.mem_cons, List.not_mem_nil, or_false, not_or]
  exact ⟨⟨differs frame.signType.byte_printable, differs high, differs low, other⟩, missing⟩

/-- After a frame with nothing but printable bytes in its header and neither SOH nor EOT in its
payload, every receiver is idle, whether it heard the frame or not. -/
theorem idle_after_wire (receiver : Receiver) {frame : Frame}
    (high : 0x20 ≤ frame.address.high) (low : 0x20 ≤ frame.address.low)
    (quiet : Wire.soh ∉ frame.payload) (ended : Wire.eot ∉ frame.payload) :
    (receiver.listen frame.wire).2 = idle := by
  simp only [wire_eq, listen_append]
  apply listen_eot
  apply settled_header (settled_wakeup receiver)
  · exact control_absent (by decide) (by decide) high low quiet
  · exact control_absent (by decide) (by decide) high low ended

/-- Whatever a receiver has been through, the second of two good frames is heard. -/
theorem second_frame_heard (receiver : Receiver) (first second : Frame)
    (addressed : ∃ text, Address.parse text = .ok first.address)
    (quiet : Wire.soh ∉ first.payload) (ended : Wire.eot ∉ first.payload)
    (whole : Wire.eot ∉ second.payload) :
    ((receiver.listen first.wire).2.listen second.wire).1 = heard second := by
  obtain ⟨text, read⟩ := addressed
  obtain ⟨high, low⟩ := Address.parse_printable read
  rw [idle_after_wire receiver high low quiet ended, idle, listen_wire 0 whole]

/-- The first frame ends the text that the receiver was in the middle of. -/
theorem second_frame_heard_inside_text :
    let receiver : Receiver := ⟨6, .payload .betaBrite .broadcast [Wire.soh, 0x41]⟩
    let first : Frame := ⟨⟨'1'.toUInt8, '?'.toUInt8⟩, .verify, [0x41, Wire.stx]⟩
    let second : Frame := ⟨⟨Wire.nul, Wire.eot⟩, .allSigns, [Wire.soh, Wire.nul]⟩
    (∃ text, Address.parse text = .ok first.address) ∧ Wire.soh ∉ first.payload ∧
      Wire.eot ∉ first.payload ∧ Wire.eot ∉ second.payload ∧
      ((receiver.listen first.wire).2.listen second.wire).1 = heard second :=
  ⟨⟨"1?", rfl⟩, by decide, by decide, by decide,
    second_frame_heard _ _ _ ⟨"1?", rfl⟩ (by decide) (by decide) (by decide)⟩

end Marquee.Proofs.FrameStream

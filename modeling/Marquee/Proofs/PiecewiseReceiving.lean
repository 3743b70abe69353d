import Marquee.Proofs.FrameLanguage

/-! Bytes that arrive in pieces. A receiver that is given many bytes stops where it would have
stopped had it been given them one by one, so it does not matter where they were cut. -/

namespace Marquee.Proofs.PiecewiseReceiving
open Receiver Receiving FrameLanguage

/-- The first answer that is not a request for more. -/
def told (answers : List Answer) : Answer := (answers.find? (· ≠ .more)).getD .more

/-- How many bytes it took to get there. -/
def taken (answers : List Answer) : Nat := answers.findIdx (· ≠ .more) + 1

/-- Only a request for more lets the next bytes in. -/
def andThen : Answer × Receiver → (Receiver → Answer × Receiver) → Answer × Receiver
  | (.more, next), later => later next
  | event, _ => event

/-- The pieces in turn, up to the first frame or fault. -/
def feedPieces (receiver : Receiver) : List Bytes → Answer × Receiver
  | [] => (.more, receiver)
  | piece :: rest => andThen (receiver.feedBytes piece) fun next => feedPieces next rest

section Sequence

theorem andThen_event {event : Answer × Receiver} (stopped : event.1 ≠ .more)
    (later : Receiver → Answer × Receiver) : andThen event later = event := by
  obtain ⟨answer, next⟩ := event
  cases answer with
  | more => exact absurd rfl stopped
  | frame _ | fault _ => rfl

theorem andThen_assoc (event : Answer × Receiver) (first second : Receiver → Answer × Receiver) :
    andThen (andThen event first) second = andThen event fun next => andThen (first next) second := by
  obtain ⟨answer, next⟩ := event
  cases answer <;> rfl

theorem feedBytes_cons (receiver : Receiver) (byte : UInt8) (rest : Bytes) :
    receiver.feedBytes (byte :: rest) =
      andThen (receiver.feed byte) fun next => next.feedBytes rest := by
  rcases step : receiver.feed byte with ⟨answer, next⟩
  cases answer <;> simp only [feedBytes, step, andThen]

theorem feedBytes_append_eq (receiver : Receiver) (first second : Bytes) :
    receiver.feedBytes (first ++ second) =
      andThen (receiver.feedBytes first) fun next => next.feedBytes second := by
  induction first generalizing receiver with
  | nil => rfl
  | cons byte first ih => simp only [List.cons_append, feedBytes_cons, ih, andThen_assoc]

theorem feedPieces_eq (receiver : Receiver) (pieces : List Bytes) :
    feedPieces receiver pieces = receiver.feedBytes pieces.flatten := by
  induction pieces generalizing receiver with
  | nil => rfl
  | cons piece pieces ih => simp only [feedPieces, List.flatten_cons, feedBytes_append_eq, ih]

end Sequence

section Answers
variable {answer : Answer}

theorem told_more (answers : List Answer) : told (.more :: answers) = told answers := rfl

theorem taken_more (answers : List Answer) : taken (.more :: answers) = taken answers + 1 := by
  simp [taken, List.findIdx_cons]

theorem told_event (event : answer ≠ .more) (answers : List Answer) :
    told (answer :: answers) = answer := by
  simp [told, event]

theorem taken_event (event : answer ≠ .more) (answers : List Answer) :
    taken (answer :: answers) = 1 := by
  simp [taken, List.findIdx_cons, event]

end Answers

theorem feedBytes_eq_listen (receiver : Receiver) (bytes : Bytes) :
    receiver.feedBytes bytes =
      (told (receiver.listen bytes).1,
        (receiver.listen (bytes.take (taken (receiver.listen bytes).1))).2) := by
  induction bytes generalizing receiver with
  | nil => rfl
  | cons byte rest ih =>
    rcases step : receiver.feed byte with ⟨answer, next⟩
    by_cases more : answer = .more
    · subst more
      simp only [feedBytes_more step, ih, Receiver.listen, step, told_more, taken_more,
        List.take_succ_cons]
    · simp only [feedBytes_event step more, Receiver.listen, step, told_event more, taken_event more,
        List.take_succ_cons, List.take_zero]

section Decoding
variable {bytes : Bytes}

theorem decode_append (settled : Frame.decode bytes ≠ .error .incomplete) (rest : Bytes) :
    Frame.decode (bytes ++ rest) = Frame.decode bytes := by
  have stopped : (idle.feedBytes bytes).1 ≠ .more := by
    intro more
    rw [decode_eq, more] at settled
    exact settled rfl
  rw [decode_eq, decode_eq, feedBytes_append_eq, andThen_event stopped]

theorem decode_incomplete_of_prefix (incomplete : Frame.decode bytes = .error .incomplete)
    {front : Bytes} (early : front <+: bytes) : Frame.decode front = .error .incomplete := by
  by_contra settled
  obtain ⟨rest, rfl⟩ := early
  rw [decode_append settled] at incomplete
  exact settled incomplete

end Decoding

/-- A receiver answers many bytes with the first frame or fault that it would have found in them
byte by byte, and the bytes behind it are not heard. So the bytes may be cut into any pieces, and
what has been decoded from them stays as it is, whatever follows. -/
theorem feedBytes_piecewise (receiver : Receiver) (bytes : Bytes) :
    let answers := (receiver.listen bytes).1
    receiver.feedBytes bytes = (told answers, (receiver.listen (bytes.take (taken answers))).2) ∧
      (∀ pieces, pieces.flatten = bytes → feedPieces receiver pieces = receiver.feedBytes bytes) ∧
      (Frame.decode bytes ≠ .error .incomplete →
        ∀ rest, Frame.decode (bytes ++ rest) = Frame.decode bytes) ∧
      (Frame.decode bytes = .error .incomplete →
        ∀ front, front <+: bytes → Frame.decode front = .error .incomplete) := by
  refine ⟨feedBytes_eq_listen receiver bytes, ?_, decode_append, ?_⟩
  · rintro pieces rfl
    exact feedPieces_eq receiver pieces
  · intro incomplete front early
    exact decode_incomplete_of_prefix incomplete early

/-- Cuts in the wake-up, in the address and right before EOT. -/
theorem feedBytes_piecewise_cuts :
    let bytes := (Frame.mk .broadcast .betaBrite [0x41]).wire
    let pieces := [bytes.take 2, (bytes.drop 2).take 6, (bytes.drop 8).take 3, [Wire.eot]]
    pieces.flatten = bytes ∧ feedPieces idle pieces = idle.feedBytes bytes ∧
      Frame.decode bytes ≠ .error .incomplete ∧
      (∀ rest, Frame.decode (bytes ++ rest) = Frame.decode bytes) ∧
      Frame.decode bytes.dropLast = .error .incomplete ∧
      ∀ front, front <+: bytes.dropLast → Frame.decode front = .error .incomplete := by
  intro bytes pieces
  have whole : pieces.flatten = bytes := rfl
  have settled : Frame.decode bytes ≠ .error .incomplete := nofun
  have incomplete : Frame.decode bytes.dropLast = .error .incomplete := rfl
  obtain ⟨-, cut, kept, -⟩ := feedBytes_piecewise idle bytes
  obtain ⟨-, -, -, early⟩ := feedBytes_piecewise idle bytes.dropLast
  exact ⟨whole, cut pieces whole, settled, kept settled, incomplete, early incomplete⟩

end Marquee.Proofs.PiecewiseReceiving

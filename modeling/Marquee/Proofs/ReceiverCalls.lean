import Marquee.Proofs.Receiving

/-! A receiver over its whole life. Bytes are fed to it one at a time or many at once, and it may be
reset at any moment. Wherever that leads, it is where a receiver would be that had heard nothing
but the bytes since the last frame, fault or reset. -/

namespace Marquee.Proofs.ReceiverCalls
open Receiver Receiving

inductive Call
  | feed (byte : UInt8)
  | feedBytes (bytes : Bytes)
  | reset
  deriving DecidableEq

inductive Event
  | answer (answer : Answer)
  /-- A reset is not answered. -/
  | reset
  deriving DecidableEq

def call (receiver : Receiver) : Call → Event × Receiver
  | .feed byte =>
    let (answer, next) := receiver.feed byte
    (.answer answer, next)
  | .feedBytes bytes =>
    let (answer, next) := receiver.feedBytes bytes
    (.answer answer, next)
  | .reset => (.reset, receiver.reset)

/-- What came of each call, and the receiver after them. -/
def run (receiver : Receiver) : List Call → List (Call × Event) × Receiver
  | [] => ([], receiver)
  | first :: rest =>
    let (event, next) := call receiver first
    let (history, last) := run next rest
    ((first, event) :: history, last)

def Call.bytes : Call → Bytes
  | .feed byte => [byte]
  | .feedBytes bytes => bytes
  | .reset => []

/-- Only a call that is answered by a request for more adds to what was heard. -/
def extend (heard : Bytes) : Call × Event → Bytes
  | (call, .answer .more) => heard ++ call.bytes
  | _ => []

/-- The bytes since the last frame, fault or reset. -/
def recent (history : List (Call × Event)) : Bytes := history.foldl extend []

/-- Whatever is not a request for more leaves nothing behind. -/
theorem feed_cases (receiver : Receiver) (byte : UInt8) :
    (∃ next, receiver.feed byte = (.more, next)) ∨
      ∃ answer, answer ≠ .more ∧ receiver.feed byte = (answer, idle) := by
  obtain ⟨nuls, stage⟩ := receiver
  cases stage with
  | header =>
    by_cases silent : byte = Wire.nul
    · subst silent
      exact .inl ⟨_, feed_nul⟩
    by_cases opened : byte = Wire.soh
    · subst opened
      by_cases awake : Wire.wakeupLength ≤ nuls
      · exact .inl ⟨_, feed_soh awake⟩
      · exact .inr ⟨.fault .shortWakeup, nofun, feed_soh_early awake⟩
    · exact .inl ⟨_, feed_noise silent opened⟩
  | signType =>
    by_cases known : ∃ signType : SignType, signType.byte = byte
    · obtain ⟨signType, rfl⟩ := known
      exact .inl ⟨_, feed_signType⟩
    · exact .inr ⟨.fault .unknownSignType, nofun, feed_unknown (not_exists.mp known)⟩
  | address signType high =>
    cases high with
    | none => exact .inl ⟨_, feed_high⟩
    | some high => exact .inl ⟨_, feed_low⟩
  | text signType address =>
    by_cases marked : byte = Wire.stx
    · subst marked
      exact .inl ⟨_, feed_stx⟩
    · exact .inr ⟨.fault .invalidFrame, nofun, feed_other_text marked⟩
  | payload signType address latest =>
    by_cases ended : byte = Wire.eot
    · subst ended
      exact .inr ⟨.frame ⟨address, signType, latest.reverse⟩, nofun, feed_eot⟩
    · exact .inl ⟨_, feed_payload ended⟩

theorem feedBytes_cases (receiver : Receiver) (bytes : Bytes) :
    (∃ next, receiver.feedBytes bytes = (.more, next) ∧ receiver.listen bytes = (waits bytes, next)) ∨
      ∃ answer, answer ≠ .more ∧ receiver.feedBytes bytes = (answer, idle) := by
  induction bytes generalizing receiver with
  | nil => exact .inl ⟨receiver, rfl, rfl⟩
  | cons byte rest ih =>
    rcases feed_cases receiver byte with more | ends
    · obtain ⟨next, step⟩ := more
      rw [feedBytes_more step]
      refine (ih next).imp_left ?_
      intro silent
      obtain ⟨last, quiet, heard⟩ := silent
      refine ⟨last, quiet, ?_⟩
      simp only [Receiver.listen, step, heard]
      rfl
    · obtain ⟨answer, event, step⟩ := ends
      exact .inr ⟨answer, event, feedBytes_event step event rest⟩

theorem call_feed (receiver : Receiver) (byte : UInt8) :
    call receiver (.feed byte) = call receiver (.feedBytes [byte]) := by
  have single : receiver.feedBytes [byte] = receiver.feed byte := by
    rcases feed_cases receiver byte with more | ends
    · obtain ⟨next, step⟩ := more
      rw [feedBytes_more step, step]
      rfl
    · obtain ⟨answer, event, step⟩ := ends
      rw [feedBytes_event step event, step]
  simp only [call, single]

private theorem feedBytes_call_cases (receiver : Receiver) (bytes : Bytes) :
    (∃ next, call receiver (.feedBytes bytes) = (.answer .more, next) ∧
      receiver.listen bytes = (waits bytes, next)) ∨
      ∃ event, event ≠ .answer .more ∧ call receiver (.feedBytes bytes) = (event, idle) := by
  rcases feedBytes_cases receiver bytes with more | ends
  · obtain ⟨next, step, heard⟩ := more
    refine .inl ⟨next, ?_, heard⟩
    simp only [call, step]
  · obtain ⟨answer, event, step⟩ := ends
    refine .inr ⟨.answer answer, ?_, ?_⟩
    · simpa using event
    · simp only [call, step]

theorem call_cases (receiver : Receiver) (made : Call) :
    (∃ next, call receiver made = (.answer .more, next) ∧
      receiver.listen made.bytes = (waits made.bytes, next)) ∨
      ∃ event, event ≠ .answer .more ∧ call receiver made = (event, idle) := by
  cases made with
  | feed byte =>
    rw [call_feed]
    exact feedBytes_call_cases receiver [byte]
  | feedBytes bytes => exact feedBytes_call_cases receiver bytes
  | reset => exact .inr ⟨.reset, nofun, rfl⟩

/-- One call keeps a receiver where the bytes it has heard would have brought a new one. -/
theorem listen_extend {receiver : Receiver} {heard : Bytes}
    (silent : idle.listen heard = (waits heard, receiver)) (made : Call) :
    let bytes := extend heard (made, (call receiver made).1)
    idle.listen bytes = (waits bytes, (call receiver made).2) := by
  rcases call_cases receiver made with more | ends
  · obtain ⟨next, called, listened⟩ := more
    simp only [called, extend, listen_append, silent, listened, waits_append]
  · obtain ⟨event, ending, called⟩ := ends
    have nothing : extend heard (made, event) = [] := by
      unfold extend
      split
      next same =>
        cases same
        exact absurd rfl ending
      next => rfl
    simp only [called, nothing]
    rfl

theorem listen_foldl_extend (calls : List Call) {receiver : Receiver} {heard : Bytes}
    (silent : idle.listen heard = (waits heard, receiver)) :
    let bytes := (run receiver calls).1.foldl extend heard
    idle.listen bytes = (waits bytes, (run receiver calls).2) := by
  induction calls generalizing receiver heard with
  | nil => exact silent
  | cons made rest ih => exact ih (listen_extend silent made)

theorem listen_recent (calls : List Call) :
    let bytes := recent (run idle calls).1
    idle.listen bytes = (waits bytes, (run idle calls).2) :=
  listen_foldl_extend calls rfl

end Marquee.Proofs.ReceiverCalls

import Marquee.Proofs.ReceiverCalls

/-! A receiver in plain buffers. Its phase says where it stands, and what it heard lies beside it:
the NULs, the class of sign, two bytes of room for the address, and the payload. The class is never
cleared, so an old one is still there when the next header comes. -/

namespace Marquee.Proofs.BufferedReceiver
open Receiver Receiving ReceiverCalls

inductive Phase
  | header
  | signType
  | address
  | text
  | payload
  deriving DecidableEq

structure Buffered where
  phase : Phase := .header
  nuls : Nat := 0
  signType : SignType := .allSigns
  address : Bytes := []
  payload : Bytes := []
  deriving DecidableEq

namespace Buffered

/-- As many bytes as the address buffer can hold. -/
def room : Nat := 2

def push (address : Bytes) (byte : UInt8) : Option Bytes :=
  if address.length < room then some (address ++ [byte]) else none

def reset (buffered : Buffered) : Buffered :=
  { buffered with phase := .header, nuls := 0, address := [], payload := [] }

/-- A byte that the address buffer has no room for is lost. There is no answer if the end of a frame
finds one of the two bytes of its address missing. -/
def feed (buffered : Buffered) (byte : UInt8) : Option (Answer × Buffered) :=
  match buffered.phase with
  | .header =>
    if byte = Wire.nul then some (.more, { buffered with nuls := buffered.nuls + 1 })
    else if byte = Wire.soh then
      if Wire.wakeupLength ≤ buffered.nuls then some (.more, { buffered with phase := .signType })
      else some (.fault .shortWakeup, buffered.reset)
    else some (.more, { buffered with nuls := 0 })
  | .signType =>
    match SignType.ofByte? byte with
    | some signType => some (.more, { buffered with signType, phase := .address })
    | none => some (.fault .unknownSignType, buffered.reset)
  | .address =>
    let address := (push buffered.address byte).getD buffered.address
    let phase := if address.length = room then .text else .address
    some (.more, { buffered with address, phase })
  | .text =>
    if byte = Wire.stx then some (.more, { buffered with payload := [], phase := .payload })
    else some (.fault .invalidFrame, buffered.reset)
  | .payload =>
    if byte = Wire.eot then
      match buffered.address[0]?, buffered.address[1]? with
      | some high, some low =>
        some (.frame ⟨⟨high, low⟩, buffered.signType, buffered.payload⟩, buffered.reset)
      | _, _ => none
    else some (.more, { buffered with payload := buffered.payload ++ [byte] })

def feedBytes (buffered : Buffered) : Bytes → Option (Answer × Buffered)
  | [] => some (.more, buffered)
  | byte :: rest =>
    match buffered.feed byte with
    | some (.more, next) => next.feedBytes rest
    | event => event

def call (buffered : Buffered) : Call → Option (Event × Buffered)
  | .feed byte => (buffered.feed byte).map (Prod.map .answer id)
  | .feedBytes bytes => (buffered.feedBytes bytes).map (Prod.map .answer id)
  | .reset => some (.reset, buffered.reset)

def run (buffered : Buffered) : List Call → Option (List (Call × Event) × Buffered)
  | [] => some ([], buffered)
  | first :: rest => do
    let (event, next) ← buffered.call first
    let (history, last) ← next.run rest
    return ((first, event) :: history, last)

end Buffered

/-- The buffers hold what the receiver knows, and in the class of sign perhaps something older. -/
inductive Holds : Buffered → Receiver → Prop
  | header (nuls : Nat) (stale : SignType) : Holds ⟨.header, nuls, stale, [], []⟩ ⟨nuls, .header⟩
  | signType {nuls : Nat} (stale : SignType) (awake : Wire.wakeupLength ≤ nuls) :
      Holds ⟨.signType, nuls, stale, [], []⟩ ⟨nuls, .signType⟩
  | address {nuls : Nat} (signType : SignType) (high : Option UInt8)
      (awake : Wire.wakeupLength ≤ nuls) :
      Holds ⟨.address, nuls, signType, high.toList, []⟩ ⟨nuls, .address signType high⟩
  | text {nuls : Nat} (signType : SignType) (address : Address) (awake : Wire.wakeupLength ≤ nuls) :
      Holds ⟨.text, nuls, signType, address.bytes, []⟩ ⟨nuls, .text signType address⟩
  | payload {nuls : Nat} (signType : SignType) (address : Address) {latest : Bytes}
      (awake : Wire.wakeupLength ≤ nuls) (ended : Wire.eot ∉ latest) :
      Holds ⟨.payload, nuls, signType, address.bytes, latest.reverse⟩
        ⟨nuls, .payload signType address latest⟩

theorem holds_idle (stale : SignType) : Holds { signType := stale } idle := .header 0 stale

section Step
variable {buffered : Buffered} {receiver : Receiver} (holds : Holds buffered receiver)
include holds

theorem holds_feed (byte : UInt8) :
    ∃ next, buffered.feed byte = some ((receiver.feed byte).1, next) ∧
      Holds next (receiver.feed byte).2 := by
  cases holds with
  | header nuls stale =>
    by_cases silent : byte = Wire.nul
    · subst silent
      exact ⟨_, rfl, .header (nuls + 1) stale⟩
    by_cases opened : byte = Wire.soh
    · subst opened
      by_cases awake : Wire.wakeupLength ≤ nuls
      · rw [feed_soh awake]
        refine ⟨_, ?_, .signType stale awake⟩
        simp [Buffered.feed, awake, silent]
      · rw [feed_soh_early awake]
        refine ⟨_, ?_, .header 0 stale⟩
        simp [Buffered.feed, awake, silent, Buffered.reset]
    · rw [feed_noise silent opened]
      refine ⟨_, ?_, .header 0 stale⟩
      simp [Buffered.feed, opened, silent]
  | signType stale awake =>
    by_cases known : ∃ signType : SignType, signType.byte = byte
    · obtain ⟨signType, rfl⟩ := known
      rw [feed_signType]
      refine ⟨_, ?_, .address signType none awake⟩
      simp [Buffered.feed]
    · have foreign := not_exists.mp known
      rw [feed_unknown foreign]
      refine ⟨_, ?_, .header 0 stale⟩
      simp [Buffered.feed, SignType.ofByte?_eq_none_iff.mpr foreign, Buffered.reset]
  | address signType high awake =>
    cases high with
    | none => exact ⟨_, rfl, .address signType (some byte) awake⟩
    | some high => exact ⟨_, rfl, .text signType ⟨high, byte⟩ awake⟩
  | text signType address awake =>
    by_cases marked : byte = Wire.stx
    · subst marked
      exact ⟨_, rfl, .payload signType address awake List.not_mem_nil⟩
    · rw [feed_other_text marked]
      refine ⟨_, ?_, .header 0 signType⟩
      simp [Buffered.feed, marked, Buffered.reset]
  | @payload nuls signType address latest awake ended =>
    by_cases last : byte = Wire.eot
    · subst last
      exact ⟨_, rfl, .header 0 signType⟩
    · rw [feed_payload last]
      have still : Wire.eot ∉ byte :: latest := by
        rw [List.mem_cons, not_or]
        exact ⟨Ne.symm last, ended⟩
      refine ⟨_, ?_, .payload signType address awake still⟩
      simp [Buffered.feed, last]

theorem holds_feedBytes (bytes : Bytes) :
    ∃ next, buffered.feedBytes bytes = some ((receiver.feedBytes bytes).1, next) ∧
      Holds next (receiver.feedBytes bytes).2 := by
  induction bytes generalizing buffered receiver with
  | nil => exact ⟨buffered, rfl, holds⟩
  | cons byte rest ih =>
    obtain ⟨next, fed, kept⟩ := holds_feed holds byte
    rcases feed_cases receiver byte with more | ends
    · obtain ⟨later, step⟩ := more
      rw [step] at fed kept
      rw [feedBytes_more step]
      simp only [Buffered.feedBytes, fed]
      exact ih kept
    · obtain ⟨answer, event, step⟩ := ends
      rw [step] at fed kept
      rw [feedBytes_event step event]
      refine ⟨next, ?_, kept⟩
      simp only [Buffered.feedBytes, fed]
      cases answer with
      | more => exact absurd rfl event
      | frame _ | fault _ => rfl

theorem holds_reset : Holds buffered.reset receiver.reset := by
  cases holds <;> exact holds_idle _

theorem holds_call (made : Call) :
    ∃ next, buffered.call made = some ((call receiver made).1, next) ∧
      Holds next (call receiver made).2 := by
  cases made with
  | feed byte =>
    obtain ⟨next, fed, kept⟩ := holds_feed holds byte
    refine ⟨next, ?_, kept⟩
    rw [Buffered.call, fed]
    rfl
  | feedBytes bytes =>
    obtain ⟨next, fed, kept⟩ := holds_feedBytes holds bytes
    refine ⟨next, ?_, kept⟩
    rw [Buffered.call, fed]
    rfl
  | reset => exact ⟨_, rfl, holds_reset holds⟩

end Step

/-- Whatever is done to them, the buffers never fail, answer as the receiver does, and hold what it
knows. -/
theorem holds_run {buffered : Buffered} {receiver : Receiver} (holds : Holds buffered receiver)
    (calls : List Call) :
    ∃ last, buffered.run calls = some ((run receiver calls).1, last) ∧
      Holds last (run receiver calls).2 := by
  induction calls generalizing buffered receiver with
  | nil => exact ⟨buffered, rfl, holds⟩
  | cons made rest ih =>
    obtain ⟨next, called, kept⟩ := holds_call holds made
    obtain ⟨last, ran, stays⟩ := ih kept
    refine ⟨last, ?_, stays⟩
    simp only [Buffered.run, called, ran, Option.bind_eq_bind, Option.bind_some]
    rfl

/-- What is in the buffers in each phase. -/
structure Shape (buffered : Buffered) : Prop where
  addressed : match buffered.phase with
    | .header | .signType => buffered.address.length = 0
    | .address => buffered.address.length ≤ 1
    | .text | .payload => buffered.address.length = 2
  roomy : buffered.phase = .address → ∀ byte, Buffered.push buffered.address byte ≠ none
  empty : buffered.phase ≠ .payload → buffered.payload = []
  ended : Wire.eot ∉ buffered.payload
  awake : buffered.phase ≠ .header → Wire.wakeupLength ≤ buffered.nuls

theorem Holds.shape {buffered : Buffered} {receiver : Receiver} (holds : Holds buffered receiver) :
    Shape buffered := by
  cases holds with
  | header nuls stale =>
    constructor <;> simp
  | signType stale awake =>
    constructor <;> simp [awake]
  | address signType high awake =>
    cases high <;> constructor <;> simp [awake, Buffered.push, Buffered.room]
  | text signType address awake =>
    constructor <;> simp [awake, Address.bytes]
  | payload signType address awake ended =>
    constructor <;> simp [awake, ended, Address.bytes]

/-- Two sets of buffers that hold the same cannot be told apart, whatever else is in them. -/
theorem answers_congr {first second : Buffered} {receiver : Receiver} (left : Holds first receiver)
    (right : Holds second receiver) (calls : List Call) :
    (first.run calls).map Prod.fst = (second.run calls).map Prod.fst := by
  obtain ⟨_, ran, -⟩ := holds_run left calls
  obtain ⟨_, other, -⟩ := holds_run right calls
  rw [ran, other]
  rfl

/-- After any calls the buffers answer as the receiver does, and each of them holds as much as its
phase says. No call ever fails, and after a frame, a fault or a reset nothing that was heard before
makes a difference to any answer. -/
theorem buffers_after_calls (calls : List Call) :
    ∃ buffered : Buffered, ({} : Buffered).run calls = some ((run idle calls).1, buffered) ∧
      Holds buffered (run idle calls).2 ∧ Shape buffered ∧
      ∀ made, ∃ event next, buffered.call made = some (event, next) ∧
        (event ≠ .answer .more → ∀ further,
          (next.run further).map Prod.fst = (({} : Buffered).run further).map Prod.fst) := by
  obtain ⟨buffered, ran, holds⟩ := holds_run (holds_idle .allSigns) calls
  refine ⟨buffered, ran, holds, holds.shape, ?_⟩
  intro made
  obtain ⟨next, called, kept⟩ := holds_call holds made
  refine ⟨_, next, called, ?_⟩
  intro ends further
  -- The receiver is idle again, and the buffers that hold it differ from new ones in the class alone.
  rcases call_cases (run idle calls).2 made with more | fresh
  · obtain ⟨_, silent, -⟩ := more
    rw [silent] at ends
    exact absurd rfl ends
  · obtain ⟨_, -, forgotten⟩ := fresh
    rw [forgotten] at kept
    exact answers_congr kept (holds_idle .allSigns) further

-- The class of the frame is not forgotten, and still the next header starts from nothing.
example : (({} : Buffered).run [.feedBytes (Frame.mk .broadcast .betaBrite [0x41]).wire]).map
    (fun after => after.2) = some { signType := .betaBrite } := by decide

end Marquee.Proofs.BufferedReceiver

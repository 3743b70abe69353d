import Marquee.Link.Sink
import Marquee.Proofs.Checks
import Marquee.Proofs.SendTrace

/-! What a writer with limited room ends up with. It may take little at once and be interrupted, and
frames are still sent after one that failed. All of that leaves no mark. The writer has the first
bytes of all frames in a row, as many as there is room for. -/

namespace Marquee.Proofs.LimitedDelivery
open Checks SendTrace

/-- So many bytes are no more than there is room for. Without a capacity there always is. -/
def Within : Option Nat → Nat → Prop
  | none, _ => True
  | some capacity, length => length ≤ capacity

instance (capacity : Option Nat) (length : Nat) : Decidable (Within capacity length) :=
  match capacity with
  | none => .isTrue trivial
  | some capacity => Nat.decLe length capacity

/-- The first bytes, as far as there is room. -/
def fitting : Option Nat → Bytes → Bytes
  | none, bytes => bytes
  | some capacity, bytes => bytes.take capacity

/-- What can still be taken behind the bytes that were, up to what is wanted. -/
def room : Option Nat → Nat → Nat → Nat
  | none, _, wanted => wanted
  | some capacity, used, wanted => min wanted (capacity - used)

section Capacity
variable {capacity : Option Nat} {bytes more : Bytes}

theorem Within.mono {small large : Nat} (within : Within capacity large) (le : small ≤ large) :
    Within capacity small := by
  cases capacity with
  | none => trivial
  | some capacity => exact Nat.le_trans le within

theorem within_zero (capacity : Option Nat) : Within capacity 0 := by
  cases capacity with
  | none => trivial
  | some capacity => exact Nat.zero_le capacity

theorem within_fitting (capacity : Option Nat) (bytes : Bytes) :
    Within capacity (fitting capacity bytes).length := by
  cases capacity with
  | none => trivial
  | some capacity => exact List.length_take_le _ _

theorem fitting_of_within (within : Within capacity bytes.length) :
    fitting capacity bytes = bytes := by
  cases capacity with
  | none => rfl
  | some capacity => exact List.take_of_length_le within

theorem fitting_append_of_full (full : ¬ Within capacity bytes.length) (more : Bytes) :
    fitting capacity (bytes ++ more) = fitting capacity bytes := by
  cases capacity with
  | none => exact absurd trivial full
  | some capacity => exact List.take_append_of_le_length (Nat.le_of_not_le full)

/-- What did not fit does not fit in later either. -/
theorem fitting_fitting_append (capacity : Option Nat) (bytes more : Bytes) :
    fitting capacity (fitting capacity bytes ++ more) = fitting capacity (bytes ++ more) := by
  by_cases within : Within capacity bytes.length
  · rw [fitting_of_within within]
  · cases capacity with
    | none => exact absurd trivial within
    | some capacity =>
      have exceeded : capacity ≤ bytes.length := Nat.le_of_not_le within
      have full : (bytes.take capacity).length = capacity := List.length_take_of_le exceeded
      rw [fitting, fitting, List.take_append_of_le_length (Nat.le_of_eq full.symm), List.take_take,
        Nat.min_self, fitting, List.take_append_of_le_length exceeded]

theorem within_fitting_append_iff (filled : more ≠ []) :
    Within capacity (fitting capacity bytes ++ more).length ↔
      Within capacity (bytes ++ more).length := by
  by_cases within : Within capacity bytes.length
  · rw [fitting_of_within within]
  · cases capacity with
    | none => exact absurd trivial within
    | some capacity =>
      have exceeded : capacity < bytes.length := Nat.lt_of_not_le within
      have some := List.length_pos_iff.mpr filled
      simp only [Within, fitting, List.length_append, List.length_take]
      omega

theorem within_take {count : Nat} (within : Within capacity bytes.length)
    (le : count ≤ room capacity bytes.length more.length) :
    Within capacity (bytes ++ more.take count).length := by
  cases capacity with
  | none => trivial
  | some capacity =>
    simp only [Within, room, List.length_append, List.length_take] at *
    omega

theorem full_of_room (within : Within capacity bytes.length) (filled : more ≠ [])
    (none_left : room capacity bytes.length more.length = 0) :
    fitting capacity (bytes ++ more) = bytes ∧ ¬ Within capacity (bytes ++ more).length := by
  have some := List.length_pos_iff.mpr filled
  cases capacity with
  | none => exact absurd none_left (Nat.ne_of_gt some)
  | some capacity =>
    simp only [Within, room, List.length_append] at *
    have full : bytes.length = capacity := by omega
    exact ⟨by rw [fitting, ← full, List.take_left], by omega⟩

end Capacity

variable {σ : Type} {ready : σ → Prop} {taken : σ → Bytes} {capacity : Option Nat}

/-- A writer that takes something of every write while there is room, if it is not interrupted. Once
it is full it takes nothing or says why. -/
structure Limited (writer : Writer σ) (ready : σ → Prop) (taken : σ → Bytes)
    (capacity : Option Nat) : Prop where
  write : ∀ state data, ready state → data ≠ [] →
    ready (writer.write state data).2 ∧
      match (writer.write state data).1 with
      | .bytes count =>
        (∃ most, 0 < most ∧ count = min most (room capacity (taken state).length data.length)) ∧
          taken (writer.write state data).2 = taken state ++ data.take count
      | .interrupted => taken (writer.write state data).2 = taken state
      | .refused _ =>
        room capacity (taken state).length data.length = 0 ∧
          taken (writer.write state data).2 = taken state
  flush : ∀ state, ready state →
    ready (writer.flush state).2 ∧ taken (writer.flush state).2 = taken state

/-- What becomes of a frame that ends where these bytes do, all frames from the first one in a row.
It is taken as far as there is room. If there is room, only its flush can fail. -/
structure Settled (writer : Writer σ) (ready : σ → Prop) (taken : σ → Bytes)
    (capacity : Option Nat) (offered : Bytes) (sent : Sent σ LinkFault) : Prop where
  held : ready sent.state
  kept : taken sent.state = fitting capacity offered
  flushed : Within capacity offered.length → ∃ whole, ready whole ∧ taken whole = offered ∧
    sent.result = (writer.flush whole).1.mapError .io
  refused : ¬ Within capacity offered.length → ∃ before data fault, ready before ∧
    (writer.writeAll before data).1 = .error fault ∧ sent.result = .error (.io fault)

/-- Bytes that did not fit before a frame make no difference to it. -/
theorem Settled.of_fitting {writer : Writer σ} {offered frame : Bytes} {sent : Sent σ LinkFault}
    (settled : Settled writer ready taken capacity (fitting capacity offered ++ frame) sent)
    (filled : frame ≠ []) : Settled writer ready taken capacity (offered ++ frame) sent where
  held := settled.held
  kept := settled.kept.trans (fitting_fitting_append capacity offered frame)
  flushed within := by
    have fits : Within capacity offered.length := within.mono (List.prefix_append _ frame).length_le
    rw [fitting_of_within fits] at settled
    exact settled.flushed within
  refused full := settled.refused (mt (within_fitting_append_iff filled).mp full)

section Writer
variable {writer : Writer σ} (limited : Limited writer ready taken capacity)
include limited

theorem Limited.writeAll {state : σ} (held : ready state)
    (within : Within capacity (taken state).length) (data : Bytes) :
    ready (writer.writeAll state data).2 ∧
      taken (writer.writeAll state data).2 = fitting capacity (taken state ++ data) ∧
      ((writer.writeAll state data).1 = .ok () ↔ Within capacity (taken state ++ data).length) := by
  fun_induction Writer.writeAll writer state data with
  | case1 state =>
    rw [List.append_nil]
    exact ⟨held, (fitting_of_within within).symm, iff_of_true rfl within⟩
  | case2 state data filled answer =>
    obtain ⟨next, step⟩ := limited.write state data held filled
    rw [answer] at step
    obtain ⟨⟨most, positive, least⟩, kept⟩ := step
    have none_left : room capacity (taken state).length data.length = 0 := by omega
    obtain ⟨same, full⟩ := full_of_room within filled none_left
    rw [List.take_zero, List.append_nil] at kept
    exact ⟨next, kept.trans same.symm, iff_of_false nofun full⟩
  | case3 state data filled count answer ih =>
    obtain ⟨next, step⟩ := limited.write state data held filled
    rw [answer] at step
    obtain ⟨⟨most, -, least⟩, kept⟩ := step
    have inside : count + 1 ≤ room capacity (taken state).length data.length := by omega
    obtain ⟨done, whole, answered⟩ := ih next (kept ▸ within_take within inside)
    -- What was taken now and what is asked for again make up the data.
    rw [kept, List.append_assoc, List.take_append_drop] at whole answered
    exact ⟨done, whole, answered⟩
  | case4 state data filled answer ih =>
    obtain ⟨next, step⟩ := limited.write state data held filled
    rw [answer] at step
    rw [← step] at within ⊢
    exact ih next within
  | case5 state data filled fault answer =>
    obtain ⟨next, step⟩ := limited.write state data held filled
    rw [answer] at step
    obtain ⟨same, full⟩ := full_of_room within filled step.1
    exact ⟨next, step.2.trans same.symm, iff_of_false nofun full⟩

theorem Limited.link_write {state : σ} (held : ready state)
    (within : Within capacity (taken state).length) (data : Bytes) :
    ready (writer.link.write state data).2 ∧
      taken (writer.link.write state data).2 = fitting capacity (taken state ++ data) ∧
      ((writer.link.write state data).1 = .ok () ↔ Within capacity (taken state ++ data).length) := by
  obtain ⟨next, whole, answered⟩ := limited.writeAll held within data
  exact ⟨next, whole, mapError_eq_ok_iff.trans answered⟩

theorem Limited.written {state before : σ} {pieces : List Bytes}
    (written : Written writer.link state pieces before) (held : ready state)
    (within : Within capacity (taken state).length) :
    ready before ∧ taken before = taken state ++ pieces.flatten ∧
      Within capacity (taken before).length := by
  induction written with
  | none state => exact ⟨held, (List.append_nil _).symm, within⟩
  | @next state between last piece pieces took more ih =>
    obtain ⟨next, whole, answered⟩ := limited.link_write held within piece
    have inside := answered.mp (congrArg Prod.fst took)
    rw [took, fitting_of_within inside] at whole
    rw [took] at next
    obtain ⟨done, rest, fits⟩ := ih next (whole ▸ inside)
    refine ⟨done, ?_, fits⟩
    rw [rest, whole, List.flatten_cons, List.append_assoc]

theorem Limited.settled_flush {state before : σ} {pieces : List Bytes} (held : ready state)
    (within : Within capacity (taken state).length)
    (written : Written writer.link state pieces before) (done : List Step) :
    Settled writer ready taken capacity (taken state ++ pieces.flatten)
      ⟨done, (writer.link.flush before).1, (writer.link.flush before).2⟩ := by
  obtain ⟨next, whole, fits⟩ := limited.written written held within
  obtain ⟨after, kept⟩ := limited.flush before next
  rw [← whole]
  exact {
    held := after
    kept := kept.trans (fitting_of_within fits).symm
    flushed := fun _ => ⟨before, next, rfl, rfl⟩
    refused := fun full => absurd fits full }

theorem Limited.settled_broken {state before after : σ} {front back : List Bytes} {piece : Bytes}
    {fault : LinkFault} (held : ready state) (within : Within capacity (taken state).length)
    (written : Written writer.link state front before)
    (failed : writer.link.write before piece = (.error fault, after)) (done : List Step) :
    Settled writer ready taken capacity (taken state ++ (front ++ piece :: back).flatten)
      ⟨done, .error fault, after⟩ := by
  obtain ⟨next, whole, fits⟩ := limited.written written held within
  obtain ⟨last, kept, answered⟩ := limited.link_write next fits piece
  rw [failed] at last kept answered
  rw [whole] at kept answered
  have full := mt answered.mpr nofun
  simp only [List.flatten_append, List.flatten_cons]
  rw [← List.append_assoc, ← List.append_assoc]
  refine {
    held := last
    kept := kept.trans (fitting_append_of_full full _).symm
    flushed := fun fits => absurd (fits.mono ?_) full
    refused := fun _ => ?_ }
  · exact (List.prefix_append _ back.flatten).length_le
  · obtain ⟨cause, refused, rfl⟩ := mapError_eq_error_iff.mp (congrArg Prod.fst failed)
    exact ⟨before, piece, cause, next, refused, rfl⟩

theorem Limited.course {state : σ} {delay : UInt64} {pieces : List Bytes} {sent : Sent σ LinkFault}
    (held : ready state) (within : Within capacity (taken state).length)
    (course : Course writer.link delay state pieces sent) :
    Settled writer ready taken capacity (taken state ++ pieces.flatten) sent := by
  cases course with
  | whole written flushed =>
    have settled := limited.settled_flush held within written (spaced delay pieces ++ [.flush])
    rwa [flushed] at settled
  | broken split written failed =>
    rw [split]
    exact limited.settled_broken held within written failed _
  | unflushed written failed =>
    have settled := limited.settled_flush held within written (spaced delay pieces)
    rwa [failed] at settled

/-- What one frame comes to, whatever the size of its pieces. -/
theorem Limited.send {state : σ} (held : ready state) (within : Within capacity (taken state).length)
    (pacing : Pacing) (frame : Bytes) :
    Settled writer ready taken capacity (taken state ++ frame)
      (writer.link.send pacing frame state) := by
  have settled := limited.course held within
    ((send_eq_iff writer.link pacing frame state (writer.link.send pacing frame state)).mp rfl)
  rwa [flatten_chunks] at settled

theorem Limited.left {state : σ} (held : ready state) (within : Within capacity (taken state).length)
    (pacing : Pacing) (frames : List Bytes) :
    ready (left writer.link pacing frames state) ∧
      taken (left writer.link pacing frames state) =
        fitting capacity (taken state ++ frames.flatten) := by
  induction frames generalizing state with
  | nil => exact ⟨held, (List.append_nil _ ▸ (fitting_of_within within).symm)⟩
  | cons frame frames ih =>
    have settled := limited.send held within pacing frame
    obtain ⟨last, rest⟩ := ih settled.held (settled.kept ▸ within_fitting _ _)
    refine ⟨last, rest.trans ?_⟩
    rw [settled.kept, fitting_fitting_append, List.flatten_cons, List.append_assoc]

/-- In a row of frames each one goes by where it ends in the whole of them. -/
theorem Limited.sendAll {state : σ} (held : ready state) (fresh : taken state = [])
    (pacing : Pacing) (earlier : List Bytes) {frame : Bytes} (filled : frame ≠ [])
    (later : List Bytes) :
    ∃ sent,
      (writer.link.sendAll pacing (earlier ++ frame :: later) state)[earlier.length]? = some sent ∧
      Settled writer ready taken capacity (earlier.flatten ++ frame) sent := by
  have empty : Within capacity (taken state).length := fresh ▸ within_zero capacity
  obtain ⟨before, kept⟩ := limited.left held empty pacing earlier
  rw [fresh, List.nil_append] at kept
  refine ⟨_, getElem?_sendAll writer.link pacing earlier frame later state, ?_⟩
  have settled := limited.send before (kept ▸ within_fitting _ _) pacing frame
  rw [kept] at settled
  exact settled.of_fitting filled

end Writer

/-- What a writer reports of a write that took nothing. -/
def refusal? : Taken → Option IoFault
  | .bytes 0 => some .tookNothing
  | .refused fault => some fault
  | _ => none

/-- A writer that refuses in one way only, and whose flush goes by what was taken alone. -/
structure Steady (writer : Writer σ) (ready : σ → Prop) (taken : σ → Bytes) (refusal : IoFault)
    (flushed : Bytes → Except IoFault Unit) : Prop where
  write : ∀ state data fault, ready state → data ≠ [] →
    refusal? (writer.write state data).1 = some fault → fault = refusal
  flush : ∀ state, ready state → (writer.flush state).1 = flushed (taken state)

section Steady
variable {τ : Type} {ready' : τ → Prop} {taken' : τ → Bytes} {refusal : IoFault}
  {flushed : Bytes → Except IoFault Unit}

theorem Steady.writeAll {writer : Writer σ} (limited : Limited writer ready taken capacity)
    (steady : Steady writer ready taken refusal flushed) {state : σ} (held : ready state)
    (data : Bytes) {fault : IoFault} (failed : (writer.writeAll state data).1 = .error fault) :
    fault = refusal := by
  fun_induction Writer.writeAll writer state data with
  | case1 => cases failed
  | case2 state data filled answer =>
    cases failed
    exact steady.write state data _ held filled (congrArg refusal? answer)
  | case3 state data filled count answer ih =>
    exact ih (limited.write state data held filled).1 failed
  | case4 state data filled answer ih =>
    exact ih (limited.write state data held filled).1 failed
  | case5 state data filled fault answer =>
    cases failed
    exact steady.write state data _ held filled (congrArg refusal? answer)

theorem Steady.result {writer : Writer σ} (limited : Limited writer ready taken capacity)
    (steady : Steady writer ready taken refusal flushed) {offered : Bytes} {sent : Sent σ LinkFault}
    (settled : Settled writer ready taken capacity offered sent) :
    (Within capacity offered.length → sent.result = (flushed offered).mapError .io) ∧
      (¬ Within capacity offered.length → sent.result = .error (.io refusal)) := by
  constructor
  · intro fits
    obtain ⟨whole, held, kept, ended⟩ := settled.flushed fits
    rw [ended, steady.flush whole held, kept]
  · intro full
    obtain ⟨before, data, fault, held, failed, ended⟩ := settled.refused full
    rw [ended, steady.writeAll limited held data failed]

/-- Two writers with the same room and the same refusals answer every frame alike. -/
theorem results_congr {writer : Writer σ} {other : Writer τ}
    (limited : Limited writer ready taken capacity)
    (steady : Steady writer ready taken refusal flushed)
    (limited' : Limited other ready' taken' capacity)
    (steady' : Steady other ready' taken' refusal flushed)
    (pacing pacing' : Pacing) (frames : List Bytes) {state : σ} {state' : τ} (held : ready state)
    (held' : ready' state') (within : Within capacity (taken state).length)
    (same : taken state = taken' state') :
    (writer.link.sendAll pacing frames state).map (·.result) =
      (other.link.sendAll pacing' frames state').map (·.result) := by
  induction frames generalizing state state' with
  | nil => rfl
  | cons frame frames ih =>
    have settled := limited.send held within pacing frame
    have settled' := limited'.send held' (same ▸ within) pacing' frame
    rw [← same] at settled'
    obtain ⟨fits, full⟩ := steady.result limited settled
    obtain ⟨fits', full'⟩ := steady'.result limited' settled'
    have first : (writer.link.send pacing frame state).result =
        (other.link.send pacing' frame state').result := by
      by_cases inside : Within capacity (taken state ++ frame).length
      · rw [fits inside, fits' inside]
      · rw [full inside, full' inside]
    have rest := ih settled.held settled'.held (settled.kept ▸ within_fitting _ _)
      (settled.kept.trans settled'.kept.symm)
    simp only [Link.sendAll, List.map_cons, first, rest]

end Steady

/-- The writer has the first bytes of all frames in a row, as many as there is room for. A frame
that ends within the room is answered by its flush, and every other one by a fault. How large the
pieces are, how little is taken at once and when it is interrupted does not show in any of that. -/
theorem limited_delivery {writer : Writer σ} (limited : Limited writer ready taken capacity)
    (pacing : Pacing) {state : σ} (held : ready state) (fresh : taken state = [])
    {frames : List Bytes} (filled : [] ∉ frames) :
    let sent := writer.link.sendAll pacing frames state
    let after := left writer.link pacing frames state
    sent.length = frames.length ∧ taken after = fitting capacity frames.flatten ∧
      (∀ earlier frame later, frames = earlier ++ frame :: later →
        ∃ ending, sent[earlier.length]? = some ending ∧
          Settled writer ready taken capacity (earlier.flatten ++ frame) ending) ∧
      ∀ (τ : Type) (other : Writer τ) (ready' : τ → Prop) (taken' : τ → Bytes) (pacing' : Pacing)
        (state' : τ), Limited other ready' taken' capacity → ready' state' → taken' state' = [] →
        taken' (left other.link pacing' frames state') = taken after ∧
          ∀ refusal flushed, Steady writer ready taken refusal flushed →
            Steady other ready' taken' refusal flushed →
            (other.link.sendAll pacing' frames state').map (·.result) = sent.map (·.result) := by
  intro sent after
  have empty : Within capacity (taken state).length := fresh ▸ within_zero capacity
  have whole : taken after = fitting capacity frames.flatten := by
    rw [(limited.left held empty pacing frames).2, fresh, List.nil_append]
  refine ⟨length_sendAll .., whole, ?_, ?_⟩
  · rintro earlier frame later rfl
    have some : frame ≠ [] := fun none => filled (none ▸ List.mem_append_right _ List.mem_cons_self)
    exact limited.sendAll held fresh pacing earlier some later
  · intro τ other ready' taken' pacing' state' limited' held' fresh'
    have empty' : Within capacity (taken' state').length := fresh' ▸ within_zero capacity
    refine ⟨?_, fun refusal flushed steady steady' => ?_⟩
    · rw [whole, (limited'.left held' empty' pacing' frames).2, fresh', List.nil_append]
    · exact results_congr limited' steady' limited steady pacing' pacing frames held' held empty'
        (fresh'.trans fresh.symm)

section Sink
variable (sink : Sink) (state : Sink.State) {data : Bytes}

theorem accepts_eq (filled : data ≠ []) :
    ∃ most, 0 < most ∧ sink.accepts state data.length =
      min most (room sink.capacity state.taken.length data.length) := by
  have same : sink.room state data.length = room sink.capacity state.taken.length data.length := by
    simp only [Sink.room, room]
    cases sink.capacity <;> rfl
  rw [Sink.accepts, same]
  split
  next =>
    refine ⟨data.length, List.length_pos_iff.mpr filled, (Nat.min_eq_right ?_).symm⟩
    cases sink.capacity with
    | none => exact Nat.le_refl _
    | some capacity => exact Nat.min_le_left _ _
  next most _ => exact ⟨max most 1, by omega, Nat.min_comm _ _⟩

/-- How a sink reports a refusal. -/
def cause : Refusal → IoFault
  | .takeNothing => .tookNothing
  | .fail fault => fault

theorem limited_sink : Limited sink.writer (fun _ => True) (·.taken) sink.capacity where
  write state data _ filled := by
    refine ⟨trivial, ?_⟩
    obtain ⟨most, positive, least⟩ := accepts_eq sink state filled
    obtain interrupted | ⟨taking, -⟩ | ⟨fault, refused, zero, -⟩ := sink.write_cases state data
    · simp only [Sink.writer, interrupted]
    · simp only [Sink.writer, taking]
      exact ⟨⟨most, positive, least⟩, trivial⟩
    · simp only [Sink.writer, refused]
      exact ⟨by omega, trivial⟩
  flush state _ := ⟨trivial, rfl⟩

theorem steady_sink :
    Steady sink.writer (fun _ => True) (·.taken) (cause sink.refusal)
      fun taken => if sink.isFull { taken } then sink.flushWhenFull else .ok () where
  write state data fault _ filled refused := by
    change refusal? (sink.write state data).1 = some fault at refused
    obtain interrupted | ⟨taking, zero⟩ | ⟨other, failed, -, refusal⟩ := sink.write_cases state data
    · rw [interrupted] at refused
      cases refused
    · rw [taking] at refused
      match count : sink.accepts state data.length with
      | 0 =>
        rw [count] at refused
        cases refused
        rw [zero count filled, cause]
      | more + 1 =>
        rw [count] at refused
        cases refused
    · rw [failed] at refused
      cases refused
      rw [refusal, cause]
  flush state _ := rfl

end Sink

/-- Five bytes fit. One sink takes two at a time and is interrupted at every second call, the other
takes all it can, and neither frame size nor piece size has anything to do with five. -/
theorem limited_delivery_five :
    let reluctant : Sink := { capacity := some 5, mostAtOnce := some 2, interruptEvery := 2 }
    let eager : Sink := { capacity := some 5 }
    let frames : List Bytes := [[1, 2, 3], [4, 5, 6], [7]]
    let sent := reluctant.writer.link.sendAll { chunk := 4 } frames {}
    (left reluctant.writer.link { chunk := 4 } frames {}).taken = [1, 2, 3, 4, 5] ∧
      (∃ first, sent[0]? = some first ∧ first.result = .ok ()) ∧
      (∃ third fault, sent[2]? = some third ∧ third.result = .error (.io fault)) ∧
      (eager.writer.link.sendAll { chunk := 0 } frames {}).map (·.result) = sent.map (·.result) := by
  intro reluctant eager frames sent
  have fresh : ({} : Sink.State).taken = [] := rfl
  have filled : [] ∉ frames := by decide
  obtain ⟨-, whole, each, alike⟩ :=
    limited_delivery (limited_sink reluctant) { chunk := 4 } trivial fresh filled
  refine ⟨whole, ?_, ?_, ?_⟩
  · obtain ⟨first, found, settled⟩ := each [] [1, 2, 3] [[4, 5, 6], [7]] rfl
    obtain ⟨full, -, kept, ended⟩ := settled.flushed (by decide)
    refine ⟨first, found, ended.trans ?_⟩
    simp only [Sink.writer, Sink.flush, reluctant, ite_self]
    rfl
  · obtain ⟨third, found, settled⟩ := each [[1, 2, 3], [4, 5, 6]] [7] [] rfl
    obtain ⟨_, _, fault, -, -, ended⟩ := settled.refused (by decide)
    exact ⟨third, fault, found, ended⟩
  · obtain ⟨-, results⟩ := alike _ eager.writer _ _ { chunk := 0 } {} (limited_sink eager) trivial rfl
    exact results _ _ (steady_sink reluctant) (steady_sink eager)

end Marquee.Proofs.LimitedDelivery

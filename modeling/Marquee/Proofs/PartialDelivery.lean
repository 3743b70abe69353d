import Marquee.Proofs.Checks
import Marquee.Proofs.Delivery

/-! What a target has of a frame that did not get through. A call may take a part of its data and
fail then, but that part is the front of what was left of the frame. -/

namespace Marquee.Proofs.PartialDelivery
open Delivery

variable {σ ε : Type} {taken : σ → Bytes}

/-- A call took the front of its data, and all of it unless it failed. -/
def Front (taken : σ → Bytes) (data : Bytes) (state : σ) (answer : Except ε Unit × σ) : Prop :=
  ∃ bytes, bytes <+: data ∧ taken answer.2 = taken state ++ bytes ∧
    (answer.1 = .ok () → bytes = data)

/-- What it takes of a write comes right behind what it has, whether or not the write fails. -/
structure Orderly (link : Link σ ε) (taken : σ → Bytes) : Prop where
  write : ∀ state data, Front taken data state (link.write state data)
  flush : ∀ state, taken (link.flush state).2 = taken state

/-- The bytes that a writer says it took. -/
def counted (data : Bytes) : Taken → Bytes
  | .bytes count => data.take count
  | .interrupted | .refused _ => []

/-- A writer that took what it says, and nothing else. -/
structure Counting (writer : Writer σ) (taken : σ → Bytes) : Prop where
  write : ∀ state data, taken (writer.write state data).2 =
    taken state ++ counted data (writer.write state data).1
  flush : ∀ state, taken (writer.flush state).2 = taken state

section Front
variable {data first second : Bytes} {state next : σ} {answer : Except ε Unit × σ}

theorem front_whole (took : taken next = taken state ++ data) :
    Front taken data state ((.ok (), next) : Except ε Unit × σ) :=
  ⟨data, List.prefix_refl data, took, fun _ => rfl⟩

theorem front_failed {fault : ε} (kept : taken next = taken state) :
    Front taken data state (.error fault, next) :=
  ⟨[], List.nil_prefix, kept.trans (List.append_nil _).symm, nofun⟩

theorem Front.took (front : Front taken data state ((.ok (), next) : Except ε Unit × σ)) :
    taken next = taken state ++ data := by
  obtain ⟨bytes, -, took, whole⟩ := front
  rw [whole rfl] at took
  exact took

theorem Front.behind (took : taken next = taken state ++ first)
    (rest : Front taken second next answer) : Front taken (first ++ second) state answer := by
  obtain ⟨bytes, front, later, whole⟩ := rest
  refine ⟨first ++ bytes, (List.prefix_append_right_inj first).mpr front, ?_, ?_⟩
  · rw [later, took, List.append_assoc]
  · exact fun done => congrArg _ (whole done)

theorem Front.cut_short {fault : ε} (front : Front taken first state (.error fault, next))
    (second : Bytes) : Front taken (first ++ second) state (.error fault, next) := by
  obtain ⟨bytes, front, took, -⟩ := front
  exact ⟨bytes, front.trans (List.prefix_append first second), took, nofun⟩

theorem Front.mapError {ε' : Type} {tell : ε → ε'} (front : Front taken data state answer) :
    Front taken data state (answer.1.mapError tell, answer.2) := by
  obtain ⟨bytes, front, took, whole⟩ := front
  exact ⟨bytes, front, took, fun done => whole (Checks.mapError_eq_ok_iff.mp done)⟩

end Front

section Writer
variable {writer : Writer σ} (counting : Counting writer taken)
include counting

/-- Each call of a write goes on where the one before it ended. -/
theorem Counting.writeAll (state : σ) (data : Bytes) :
    Front taken data state (writer.writeAll state data) := by
  fun_induction Writer.writeAll writer state data with
  | case1 state => exact front_whole (List.append_nil _).symm
  | case2 state data some answer =>
    have step := counting.write state data
    rw [answer] at step
    exact front_failed (step.trans (List.append_nil _))
  | case3 state data some count answer ih =>
    have step := counting.write state data
    rw [answer] at step
    have front := Front.behind step ih
    rw [counted, List.take_append_drop] at front
    exact front
  | case4 state data some answer ih =>
    have step := counting.write state data
    rw [answer] at step
    exact Front.behind step ih
  | case5 state data some fault answer =>
    have step := counting.write state data
    rw [answer] at step
    exact front_failed (step.trans (List.append_nil _))

theorem Counting.link : Orderly writer.link taken where
  write state data := (counting.writeAll state data).mapError
  flush := counting.flush

end Writer

/-- However little room there is. -/
theorem counting_sink : Counting Sink.Opened.writer (·.held.taken) where
  write opened data := by
    simp only [Sink.Opened.writer, Sink.Opened.write]
    obtain interrupted | ⟨taking, -⟩ | ⟨fault, refused, -⟩ :=
      opened.sink.write_cases opened.held data
    · rw [interrupted]
      exact (List.append_nil _).symm
    · rw [taking]
      rfl
    · rw [refused]
      exact (List.append_nil _).symm
  flush _ := rfl

section Link
variable {link : Link σ ε}

/-- What is done of a schedule is a start of it, and all of it unless a step fails. -/
theorem done_of_perform (link : Link σ ε) (steps : List Step) (state : σ) :
    (link.perform steps state).done <+: steps ∧
      ((link.perform steps state).result = .ok () → (link.perform steps state).done = steps) := by
  induction steps generalizing state with
  | nil => exact ⟨List.prefix_refl [], fun _ => rfl⟩
  | cons step steps ih =>
    match attempted : link.attempt state step with
    | (.ok (), next) =>
      rw [Link.perform_ok step attempted]
      exact ⟨(List.prefix_cons_inj step).mpr (ih next).1, fun done => congrArg _ ((ih next).2 done)⟩
    | (.error fault, next) =>
      rw [Link.perform_error step attempted]
      exact ⟨List.nil_prefix, nofun⟩

variable (orderly : Orderly link taken)
include orderly

theorem Orderly.attempt (state : σ) (step : Step) :
    Front taken (payload step) state (link.attempt state step) := by
  cases step with
  | write data => exact orderly.write state data
  | pause micros => exact front_whole (List.append_nil _).symm
  | flush =>
    exact ⟨[], List.nil_prefix, (orderly.flush state).trans (List.append_nil _).symm, fun _ => rfl⟩

theorem Orderly.perform (state : σ) (steps : List Step) :
    let sent := link.perform steps state
    Front taken (steps.flatMap payload) state (sent.result, sent.state) := by
  induction steps generalizing state with
  | nil => exact front_whole (List.append_nil _).symm
  | cons step steps ih =>
    have front := orderly.attempt state step
    match attempted : link.attempt state step with
    | (.ok (), next) =>
      rw [attempted] at front
      rw [Link.perform_ok step attempted]
      exact Front.behind front.took (ih next)
    | (.error fault, next) =>
      rw [attempted] at front
      rw [Link.perform_error step attempted]
      exact front.cut_short (steps.flatMap payload)

/-- One frame and no more, or the front of it. -/
theorem Orderly.send (state : σ) (pacing : Pacing) (frame : Bytes) :
    let sent := link.send pacing frame state
    Front taken frame state (sent.result, sent.state) := by
  have front := orderly.perform state (pacing.schedule frame)
  rw [flatMap_payload_schedule] at front
  exact front

end Link

end Marquee.Proofs.PartialDelivery

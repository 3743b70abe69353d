import Marquee.Link.Sink

/-! Where the bytes of a frame go. However it is cut and paced, and however few bytes a writer takes
at once, one that refuses nothing ends up with the whole frame, each byte in its place. -/

namespace Marquee.Proofs.Delivery

variable {σ ε : Type} {ready : σ → Prop} {taken : σ → Bytes}

/-- A writer that refuses nothing from a ready state on. It may be interrupted and it may take less
than it is given, but what it has taken stays in order. -/
structure Accepting (writer : Writer σ) (ready : σ → Prop) (taken : σ → Bytes) : Prop where
  write : ∀ state data, ready state → data ≠ [] →
    ready (writer.write state data).2 ∧
      match (writer.write state data).1 with
      | .bytes count =>
        0 < count ∧ taken (writer.write state data).2 = taken state ++ data.take count
      | .interrupted => taken (writer.write state data).2 = taken state
      | .refused _ => False
  flush : ∀ state, ready state → (writer.flush state).1 = .ok () ∧
    ready (writer.flush state).2 ∧ taken (writer.flush state).2 = taken state

/-- A link that takes the whole of every write. -/
structure Faithful (link : Link σ ε) (ready : σ → Prop) (taken : σ → Bytes) : Prop where
  write : ∀ state data, ready state → (link.write state data).1 = .ok () ∧
    ready (link.write state data).2 ∧ taken (link.write state data).2 = taken state ++ data
  flush : ∀ state, ready state → (link.flush state).1 = .ok () ∧
    ready (link.flush state).2 ∧ taken (link.flush state).2 = taken state

theorem Accepting.writeAll {writer : Writer σ} (accepting : Accepting writer ready taken)
    {state : σ} (held : ready state) (data : Bytes) :
    (writer.writeAll state data).1 = .ok () ∧ ready (writer.writeAll state data).2 ∧
      taken (writer.writeAll state data).2 = taken state ++ data := by
  fun_induction Writer.writeAll writer state data with
  | case1 state => exact ⟨rfl, held, (List.append_nil _).symm⟩
  | case2 state data some answer =>
    have step := (accepting.write state data held some).2
    rw [answer] at step
    exact absurd step.1 (Nat.lt_irrefl 0)
  | case3 state data some count answer ih =>
    obtain ⟨next, step⟩ := accepting.write state data held some
    rw [answer] at step
    obtain ⟨done, last, whole⟩ := ih next
    refine ⟨done, last, ?_⟩
    -- What was taken now and what is asked for again make up the data.
    rw [whole, step.2, List.append_assoc, List.take_append_drop]
  | case4 state data some answer ih =>
    obtain ⟨next, step⟩ := accepting.write state data held some
    rw [answer] at step
    -- Nothing happened to the bytes, and the same data is asked for again.
    rw [← step]
    exact ih next
  | case5 state data some fault answer =>
    have step := (accepting.write state data held some).2
    rw [answer] at step
    exact step.elim

theorem Accepting.link {writer : Writer σ} (accepting : Accepting writer ready taken) :
    Faithful writer.link ready taken where
  write state data held := by
    obtain ⟨done, next, whole⟩ := accepting.writeAll held data
    exact ⟨congrArg (Except.mapError LinkFault.io) done, next, whole⟩
  flush state held := by
    obtain ⟨done, kept⟩ := accepting.flush state held
    exact ⟨congrArg (Except.mapError LinkFault.io) done, kept⟩

def payload : Step → Bytes
  | .write data => data
  | .pause _ | .flush => []

theorem flatMap_payload_schedule (pacing : Pacing) (frame : Bytes) :
    (pacing.schedule frame).flatMap payload = frame := by
  have spread (pieces : List Bytes) :
      ((pieces.map Step.write).intersperse (.pause pacing.delay)).flatMap payload =
        pieces.flatten := by
    induction pieces with
    | nil => rfl
    | cons piece pieces ih =>
      cases pieces with
      | nil => simp [payload]
      | cons next pieces => simpa [payload] using ih
  rw [Pacing.schedule, List.flatMap_append, spread, flatten_chunks]
  exact List.append_nil frame

section Link
variable {link : Link σ ε} (faithful : Faithful link ready taken)
include faithful

theorem Faithful.attempt {state : σ} (held : ready state) (step : Step) :
    ∃ next, link.attempt state step = (.ok (), next) ∧ ready next ∧
      taken next = taken state ++ payload step := by
  cases step with
  | write data =>
    obtain ⟨done, next, whole⟩ := faithful.write state data held
    exact ⟨_, Prod.ext done rfl, next, whole⟩
  | pause micros => exact ⟨state, rfl, held, (List.append_nil _).symm⟩
  | flush =>
    obtain ⟨done, next, kept⟩ := faithful.flush state held
    exact ⟨_, Prod.ext done rfl, next, kept.trans (List.append_nil _).symm⟩

theorem Faithful.perform {state : σ} (held : ready state) (steps : List Step) :
    ∃ last, link.perform steps state = ⟨steps, .ok (), last⟩ ∧ ready last ∧
      taken last = taken state ++ steps.flatMap payload := by
  induction steps generalizing state with
  | nil => exact ⟨state, rfl, held, (List.append_nil _).symm⟩
  | cons step steps ih =>
    obtain ⟨next, attempted, kept, first⟩ := faithful.attempt held step
    obtain ⟨last, performed, ended, rest⟩ := ih kept
    refine ⟨last, ?_, ended, ?_⟩
    · simp only [Link.perform, attempted, performed]
    · rw [rest, first, List.flatMap_cons, List.append_assoc]

/-- Every step of the schedule is done, and the link has the frame behind what it had before. -/
theorem Faithful.send {state : σ} (held : ready state) (pacing : Pacing) (frame : Bytes) :
    ∃ last, link.send pacing frame state = ⟨pacing.schedule frame, .ok (), last⟩ ∧ ready last ∧
      taken last = taken state ++ frame := by
  obtain ⟨last, performed, ended, whole⟩ := faithful.perform held (pacing.schedule frame)
  rw [flatMap_payload_schedule] at whole
  exact ⟨last, performed, ended, whole⟩

end Link

/-- Nothing is refused where there is room. A call is either interrupted or takes some bytes. -/
theorem write_with_room {sink : Sink} (roomy : sink.capacity = none) (state : Sink.State)
    {data : Bytes} (some : data ≠ []) :
    sink.write state data = (.interrupted, { state with calls := state.calls + 1 }) ∨
      ∃ count, 0 < count ∧
        sink.write state data = (.bytes count, ⟨state.taken ++ data.take count, state.calls + 1⟩) := by
  have taking : 0 < sink.accepts state data.length := by
    have length := List.length_pos_iff.mpr some
    simp only [Sink.accepts, Sink.room, roomy]
    split <;> omega
  obtain interrupted | ⟨bytes, -⟩ | ⟨fault, -, zero, -⟩ := sink.write_cases state data
  · exact .inl interrupted
  · exact .inr ⟨_, taking, bytes⟩
  · exact absurd zero (Nat.ne_of_gt taking)

/-- A sink with room for everything may take a byte at a time and be interrupted as it likes. -/
theorem accepting_sink :
    Accepting Sink.Opened.writer (·.sink.capacity = none) (·.held.taken) where
  write opened data held some := by
    refine ⟨held, ?_⟩
    simp only [Sink.Opened.writer, Sink.Opened.write]
    obtain interrupted | ⟨count, positive, taking⟩ := write_with_room held opened.held some
    · simp only [interrupted]
    · simp only [taking, positive, and_self]
  flush opened held := by
    refine ⟨?_, held, rfl⟩
    simp [Sink.Opened.writer, Sink.Opened.flush, Sink.flush, Sink.isFull, held]

end Marquee.Proofs.Delivery

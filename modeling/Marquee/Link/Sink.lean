import Marquee.Link.Writer

/-! A writer that keeps what it takes. Its room may be limited, and so may the bytes it takes at
once. -/

namespace Marquee

/-- How a sink refuses a write it has no room for. -/
inductive Refusal
  | takeNothing
  | fail (fault : IoFault)
  deriving DecidableEq

structure Sink where
  capacity : Option Nat := none
  mostAtOnce : Option Nat := none
  /-- Each call with a number divisible by this is interrupted. Below two, none is. -/
  interruptEvery : Nat := 0
  refusal : Refusal := .takeNothing
  /-- What a flush says when there is no room left. -/
  flushWhenFull : Except IoFault Unit := .ok ()

namespace Sink

structure State where
  taken : Bytes := []
  calls : Nat := 0
  deriving DecidableEq

variable (sink : Sink)

def room (state : State) (wanted : Nat) : Nat :=
  match sink.capacity with
  | none => wanted
  | some capacity => min wanted (capacity - state.taken.length)

/-- The bytes taken of a write. Even the most reluctant sink takes one if it can. -/
def accepts (state : State) (wanted : Nat) : Nat :=
  match sink.mostAtOnce with
  | none => sink.room state wanted
  | some most => min (sink.room state wanted) (max most 1)

def isInterruption (call : Nat) : Bool := 2 ≤ sink.interruptEvery && call % sink.interruptEvery == 0

def write (state : State) (data : Bytes) : Taken × State :=
  let called := { state with calls := state.calls + 1 }
  if sink.isInterruption called.calls then (.interrupted, called)
  else
    let count := sink.accepts state data.length
    let kept := { called with taken := called.taken ++ data.take count }
    match sink.refusal with
    | .fail fault =>
      if count = 0 ∧ data ≠ [] then (.refused fault, called) else (.bytes count, kept)
    | .takeNothing => (.bytes count, kept)

/-- A call is interrupted, or takes what there is room for, or finds no room and says so. -/
theorem write_cases (state : State) (data : Bytes) :
    let called : State := { state with calls := state.calls + 1 }
    let count := sink.accepts state data.length
    sink.write state data = (.interrupted, called) ∨
      sink.write state data =
          (.bytes count, { called with taken := state.taken ++ data.take count }) ∧
        (count = 0 → data ≠ [] → sink.refusal = .takeNothing) ∨
      ∃ fault, sink.write state data = (.refused fault, called) ∧ count = 0 ∧
        sink.refusal = .fail fault := by
  intro called count
  simp only [write]
  split
  · exact .inl rfl
  · cases refusal : sink.refusal with
    | takeNothing => exact .inr (.inl ⟨rfl, fun _ _ => rfl⟩)
    | fail fault =>
      by_cases refused : count = 0 ∧ data ≠ []
      · exact .inr (.inr ⟨fault, if_pos refused, refused.1, rfl⟩)
      · exact .inr (.inl ⟨if_neg refused, fun zero filled => absurd ⟨zero, filled⟩ refused⟩)

def isFull (state : State) : Bool :=
  match sink.capacity with
  | none => false
  | some capacity => state.taken.length == capacity

def flush (state : State) : Except IoFault Unit × State :=
  (if sink.isFull state then sink.flushWhenFull else .ok (), state)

/-- Two calls in a row are never both interrupted. -/
def patience (state : State) : Nat := if sink.isInterruption (state.calls + 1) then 1 else 0

theorem isInterruption_succ {call : Nat} (now : sink.isInterruption call = true) :
    sink.isInterruption (call + 1) = false := by
  simp only [isInterruption, Bool.and_eq_true, decide_eq_true_eq, beq_iff_eq, Bool.and_eq_false_iff,
    beq_eq_false_iff_ne] at now ⊢
  right
  rw [Nat.add_mod, now.2, Nat.zero_add, Nat.mod_mod, Nat.mod_eq_of_lt now.1]
  exact Nat.one_ne_zero

theorem patience_lt (state : State) (data : Bytes)
    (interrupted : (sink.write state data).1 = .interrupted) :
    sink.patience (sink.write state data).2 < sink.patience state := by
  have now : sink.isInterruption (state.calls + 1) = true := by
    cases never : sink.isInterruption (state.calls + 1) with
    | true => rfl
    | false =>
      simp only [write, never, Bool.false_eq_true, if_false] at interrupted
      split at interrupted <;> try split at interrupted
      all_goals cases interrupted
  have after : (sink.write state data).2.calls = state.calls + 1 := by simp [write, now]
  simp [patience, after, now, isInterruption_succ sink now]

def writer : Writer State where
  write := sink.write
  flush := sink.flush
  patience state _ := sink.patience state
  patience_lt := sink.patience_lt

/-- A sink in use. -/
structure Opened where
  sink : Sink := {}
  held : State := {}

namespace Opened

def write (opened : Opened) (data : Bytes) : Taken × Opened :=
  let (answer, held) := opened.sink.write opened.held data
  (answer, { opened with held })

def flush (opened : Opened) : Except IoFault Unit × Opened :=
  let (result, held) := opened.sink.flush opened.held
  (result, { opened with held })

def writer : Writer Opened where
  write := write
  flush := flush
  patience opened _ := opened.sink.patience opened.held
  patience_lt opened := opened.sink.patience_lt opened.held

end Opened
end Sink
end Marquee

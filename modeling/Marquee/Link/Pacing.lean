import Marquee.Wire

/-! A sign cannot take a frame at full speed. The frame is cut into chunks, and the line rests
between two of them. -/

namespace Marquee

/-- Consecutive pieces of one size, the last one perhaps shorter. A size of zero counts as one. -/
def chunks (size : Nat) (bytes : Bytes) : List Bytes :=
  if bytes = [] then [] else bytes.take (max size 1) :: chunks size (bytes.drop (max size 1))
termination_by bytes.length
decreasing_by
  have := List.length_pos_iff.mpr ‹bytes ≠ []›
  simp only [List.length_drop]
  omega

theorem flatten_chunks (size : Nat) (bytes : Bytes) : (chunks size bytes).flatten = bytes := by
  fun_induction chunks size bytes with
  | case1 => rfl
  | case2 bytes _ ih => rw [List.flatten_cons, ih, List.take_append_drop]

theorem nil_notMem_chunks (size : Nat) (bytes : Bytes) : [] ∉ chunks size bytes := by
  fun_induction chunks size bytes with
  | case1 => exact List.not_mem_nil
  | case2 bytes some ih =>
    rw [List.mem_cons, not_or]
    refine ⟨fun none => ?_, ih⟩
    rcases List.take_eq_nil_iff.mp none.symm with zero | empty
    · omega
    · exact some empty

theorem length_le_of_mem_chunks {size : Nat} {bytes chunk : Bytes}
    (member : chunk ∈ chunks size bytes) : chunk.length ≤ max size 1 := by
  fun_induction chunks size bytes with
  | case1 => cases member
  | case2 bytes _ ih =>
    rcases List.mem_cons.mp member with rfl | later
    · exact List.length_take_le _ _
    · exact ih later

structure Pacing where
  /-- Microseconds between two writes. -/
  delay : UInt64 := 1000
  /-- Bytes in one write. -/
  chunk : Nat := 1
  deriving DecidableEq

inductive Step
  | write (data : Bytes)
  | pause (micros : UInt64)
  | flush
  deriving DecidableEq

namespace Pacing

def schedule (pacing : Pacing) (frame : Bytes) : List Step :=
  ((chunks pacing.chunk frame).map .write).intersperse (.pause pacing.delay) ++ [.flush]

/-- Durations end here. -/
def longest : UInt64 := 0xFFFFFFFFFFFFFFFF

/-- More rests than this are not counted. -/
def mostGaps : Nat := 0xFFFFFFFF

def gaps (pacing : Pacing) (length : Nat) : Nat :=
  let chunk := max pacing.chunk 1
  (length + chunk - 1) / chunk - 1

/-- The least time in microseconds that so many bytes take, or the longest duration where it cannot
be told. -/
def minDuration (pacing : Pacing) (length : Nat) : UInt64 :=
  let total := pacing.delay.toNat * pacing.gaps length
  if pacing.gaps length ≤ mostGaps ∧ total ≤ longest.toNat then total.toUInt64 else longest

end Pacing
end Marquee

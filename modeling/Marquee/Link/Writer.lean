import Marquee.Link.Fault
import Marquee.Link.Transport

/-! Files, terminals and pipes take as many bytes of a write as they like. A writer becomes a link
by asking again until everything is taken. -/

namespace Marquee

inductive Taken
  | bytes (count : Nat)
  /-- Nothing happened, and it is worth asking again. -/
  | interrupted
  | refused (fault : IoFault)
  deriving DecidableEq

structure Writer (σ : Type) where
  write : σ → Bytes → Taken × σ
  flush : σ → Except IoFault Unit × σ
  /-- How many interruptions in a row can still come while the same bytes are asked for. -/
  patience : σ → Bytes → Nat
  patience_lt : ∀ state data, (write state data).1 = .interrupted →
    patience (write state data).2 data < patience state data

namespace Writer

variable {σ : Type}

/-- A writer that takes nothing of what is left has failed. -/
def writeAll (writer : Writer σ) (state : σ) (data : Bytes) : Except IoFault Unit × σ :=
  if data = [] then (.ok (), state)
  else
    match answer : (writer.write state data).1 with
    | .bytes 0 => (.error .tookNothing, (writer.write state data).2)
    | .bytes (count + 1) => writer.writeAll (writer.write state data).2 (data.drop (count + 1))
    | .interrupted => writer.writeAll (writer.write state data).2 data
    | .refused fault => (.error fault, (writer.write state data).2)
termination_by (data.length, writer.patience state data)
decreasing_by
  · have := List.length_pos_iff.mpr ‹data ≠ []›
    apply Prod.Lex.left
    simp only [List.length_drop]
    omega
  · exact Prod.Lex.right _ (writer.patience_lt state data answer)

def link (writer : Writer σ) : Link σ LinkFault where
  write state data :=
    let (result, next) := writer.writeAll state data
    (result.mapError .io, next)
  flush state :=
    let (result, next) := writer.flush state
    (result.mapError .io, next)

end Writer
end Marquee

import Marquee.Proofs.DegreeScan

/-! Degree signs are closed up in the buffer they stand in. With every access checked and noted down
the loop still runs to its end: it stays inside of the buffer and reads nothing that it has written.
What it leaves is one byte shorter for each sign, and there is none to be found in it any more. -/

namespace Marquee.Proofs.DegreeBuffer
open Message.Degree DegreeScan

section Pairs

/-- How many degree signs in UTF-8 there are. No two of them overlap. -/
def pairs (bytes : Bytes) : Nat := (bytes.zip bytes.tail).count (0xC2, 0xB0)

theorem pairs_cons (byte : UInt8) (rest : Bytes) :
    pairs (byte :: rest) = pairs rest + if byte = 0xC2 ∧ rest.head? = some 0xB0 then 1 else 0 := by
  cases rest with
  | nil => simp [pairs]
  | cons second rest => simp [pairs, List.count_cons]

theorem pairs_degree (rest : Bytes) : pairs (0xC2 :: 0xB0 :: rest) = pairs rest + 1 := by
  rw [pairs_cons, pairs_cons, if_neg fun pair => absurd pair.1 (by decide), if_pos ⟨rfl, rfl⟩]

theorem pairs_eq_zero_iff {bytes : Bytes} : pairs bytes = 0 ↔ ¬ [0xC2, 0xB0] <:+: bytes := by
  induction bytes with
  | nil => simp [pairs]
  | cons byte rest ih =>
    rw [pairs_cons, List.infix_cons_iff, not_or, ← ih, List.cons_prefix_cons]
    cases rest <;> simp [eq_comm, and_comm]

theorem length_normal (bytes : Bytes) : (normal bytes).length + pairs bytes = bytes.length := by
  fun_induction normal bytes with
  | case1 | case2 => rfl
  | case3 first second rest degree ih =>
    obtain ⟨rfl, rfl⟩ := degree
    rw [pairs_degree, List.length_cons, List.length_cons, List.length_cons, ← ih]
    omega
  | case4 first second rest other ih =>
    rw [pairs_cons, if_neg (by simpa using other), List.length_cons, List.length_cons, ← ih]
    omega

theorem head?_normal_ne {bytes : Bytes} (other : bytes.head? ≠ some 0xB0) :
    (normal bytes).head? ≠ some 0xB0 := by
  fun_cases normal bytes with
  | case1 | case2 | case4 => exact other
  | case3 first second rest => simp

/-- The code does not close a pair, and a byte that stays stands in front of what it stood in front
of. -/
theorem pairs_normal (bytes : Bytes) : pairs (normal bytes) = 0 := by
  fun_induction normal bytes with
  | case1 | case2 => rfl
  | case3 first second rest degree ih =>
    rw [pairs_cons, ih, if_neg fun pair => absurd pair.1 (by decide)]
  | case4 first second rest other ih =>
    have apart : ¬ (first = 0xC2 ∧ (normal (second :: rest)).head? = some 0xB0) := by
      rintro ⟨opens, closes⟩
      exact head?_normal_ne (by simpa using fun same => other ⟨opens, same⟩) closes
    rw [pairs_cons, ih, if_neg apart]

theorem normal_of_pairs_eq_zero {bytes : Bytes} (none : pairs bytes = 0) : normal bytes = bytes := by
  fun_induction normal bytes with
  | case1 | case2 => rfl
  | case3 first second rest degree ih =>
    obtain ⟨rfl, rfl⟩ := degree
    rw [pairs_degree] at none
    cases none
  | case4 first second rest other ih =>
    rw [pairs_cons, Nat.add_eq_zero_iff] at none
    rw [ih none.1]

end Pairs

section Ends
variable (start : Nat) (buffer : Bytes)

theorem take_collapse : (collapse start buffer).take start = buffer.take start := by
  rw [collapse_eq]
  rcases Nat.le_total start buffer.length with inside | outside
  · exact List.take_left' (List.length_take_of_le inside)
  · simp [List.drop_eq_nil_of_le outside, List.take_of_length_le outside, normal]

theorem drop_collapse : (collapse start buffer).drop start = normal (buffer.drop start) := by
  rw [collapse_eq]
  rcases Nat.le_total start buffer.length with inside | outside
  · exact List.drop_left' (List.length_take_of_le inside)
  · simp [List.drop_eq_nil_of_le outside, List.take_of_length_le outside, normal]

theorem length_collapse :
    (collapse start buffer).length + pairs (buffer.drop start) = buffer.length := by
  rw [collapse_eq, List.length_append, Nat.add_assoc, length_normal, ← List.length_append,
    List.take_append_drop]

theorem collapse_collapse : collapse start (collapse start buffer) = collapse start buffer := by
  rw [collapse_eq, drop_collapse, normal_of_pairs_eq_zero (pairs_normal _), ← drop_collapse,
    List.take_append_drop]

end Ends

inductive Access
  | read (index : Nat)
  | write (index : Nat)
  deriving DecidableEq

namespace Access

def index : Access → Nat
  | read index | write index => index

/-- What is written lies behind everything that is read later. -/
def Spares : Access → Access → Prop
  | write written, read unread => written < unread
  | _, _ => True

end Access

/-- A buffer and what was done to it so far. -/
structure Tape (size : Nat) where
  cells : Vector UInt8 size
  accesses : List Access := []

namespace Tape
variable {size : Nat}

/-- There is nothing to be read outside of the buffer. -/
def fetch? (tape : Tape size) (index : Nat) : Option (UInt8 × Tape size) :=
  tape.cells[index]?.map fun byte =>
    (byte, { tape with accesses := tape.accesses ++ [.read index] })

/-- There is nowhere to write outside of the buffer. -/
def store? (tape : Tape size) (index : Nat) (byte : UInt8) : Option (Tape size) :=
  if inside : index < size then
    some ⟨tape.cells.set index byte, tape.accesses ++ [.write index]⟩
  else none

/-- Whether a degree sign stands at an index. A last byte alone is not looked at. -/
def degree? (tape : Tape size) (index : Nat) : Option (Bool × Tape size) :=
  if index + 1 < size then do
    let (first, tape) ← tape.fetch? index
    let (second, tape) ← tape.fetch? (index + 1)
    return (first = lead ∧ second = trail, tape)
  else return (false, tape)

/-- The loop of `Degree.close` without its proofs. It stops without a result at the first access
that is out of bounds. -/
def close? (tape : Tape size) (read write : Nat) : Option (Array UInt8 × List Access) :=
  if read < size then do
    let (degree, tape) ← tape.degree? read
    if degree then
      let tape ← tape.store? write code
      tape.close? (read + 2) (write + 1)
    else
      let (byte, tape) ← tape.fetch? read
      let tape ← tape.store? write byte
      tape.close? (read + 1) (write + 1)
  else return (tape.cells.toArray.take write, tape.accesses)
termination_by size - read

/-- Nothing but reads, from an index on and inside of the buffer. -/
def Looks (size read : Nat) (accesses : List Access) : Prop :=
  ∀ access ∈ accesses, ∃ index, access = .read index ∧ read ≤ index ∧ index < size

section Turns
variable (tape : Tape size) {read write : Nat} (inside : read < size)
include inside

theorem fetch?_eq :
    tape.fetch? read = some (tape.cells[read], ⟨tape.cells, tape.accesses ++ [.read read]⟩) := by
  rw [fetch?, Vector.getElem?_eq_getElem inside, Option.map_some]

theorem store?_eq (byte : UInt8) :
    tape.store? read byte =
      some ⟨tape.cells.set read byte, tape.accesses ++ [.write read]⟩ := dif_pos inside

theorem degree?_eq :
    ∃ looks, Looks size read looks ∧
      tape.degree? read =
        some (decide (tape.cells[read] = lead ∧ tape.cells[read + 1]? = some trail),
          ⟨tape.cells, tape.accesses ++ looks⟩) := by
  by_cases two : read + 1 < size
  · refine ⟨[.read read, .read (read + 1)], ?_, ?_⟩
    · simp [Looks, inside, two]
    · simp [degree?, two, fetch?_eq, inside, List.append_assoc]
  · exact ⟨[], nofun, by simp [degree?, two]⟩

variable (behind : write ≤ read)
include behind

theorem close?_degree (degree : tape.cells[read] = lead ∧ tape.cells[read + 1]? = some trail) :
    ∃ looks, Looks size read looks ∧
      tape.close? read write =
        (⟨tape.cells.set write code, tape.accesses ++ (looks ++ [.write write])⟩ : Tape size).close?
          (read + 2) (write + 1) := by
  obtain ⟨looks, looked, seen⟩ := tape.degree?_eq inside
  have room : write < size := Nat.lt_of_le_of_lt behind inside
  refine ⟨looks, looked, ?_⟩
  rw [close?]
  simp [inside, seen, degree, store?_eq, room, List.append_assoc]

theorem close?_other (other : ¬ (tape.cells[read] = lead ∧ tape.cells[read + 1]? = some trail)) :
    ∃ looks, Looks size read looks ∧
      tape.close? read write =
        (⟨tape.cells.set write tape.cells[read],
          tape.accesses ++ (looks ++ [.write write])⟩ : Tape size).close? (read + 1) (write + 1) := by
  obtain ⟨looks, looked, seen⟩ := tape.degree?_eq inside
  have room : write < size := Nat.lt_of_le_of_lt behind inside
  refine ⟨looks ++ [.read read], ?_, ?_⟩
  · intro access member
    rcases List.mem_append.mp member with before | last
    · exact looked access before
    · exact ⟨read, List.mem_singleton.mp last, Nat.le_refl _, inside⟩
  · rw [close?]
    simp [seen, other, store?_eq, fetch?_eq, inside, room, List.append_assoc]

end Turns
end Tape

/-- What a loop that reads from an index on may do to a buffer of some size. -/
structure Careful (size read : Nat) (accesses : List Access) : Prop where
  inside : ∀ access ∈ accesses, access.index < size
  ahead : ∀ index, .read index ∈ accesses → read ≤ index
  spared : accesses.Pairwise Access.Spares

namespace Careful
variable {size read : Nat} {accesses : List Access}

theorem nil : Careful size read [] where
  inside := List.forall_mem_nil _
  ahead := fun _ member => absurd member List.not_mem_nil
  spared := .nil

theorem look {index : Nat} (inside : index < size) (ahead : read ≤ index)
    (careful : Careful size read accesses) : Careful size read (.read index :: accesses) where
  inside := List.forall_mem_cons.mpr ⟨inside, careful.inside⟩
  ahead := by
    intro other member
    rcases List.mem_cons.mp member with same | later
    · cases same
      exact ahead
    · exact careful.ahead other later
  spared := careful.spared.cons fun _ _ => trivial

theorem looks {looks : List Access} (looked : Tape.Looks size read looks)
    (careful : Careful size read accesses) : Careful size read (looks ++ accesses) := by
  induction looks with
  | nil => exact careful
  | cons access looks ih =>
    obtain ⟨⟨index, rfl, ahead, inside⟩, rest⟩ := List.forall_mem_cons.mp looked
    exact (ih rest).look inside ahead

/-- The reader has moved on from where it writes. -/
theorem wrote {write later : Nat} (inside : read < size) (behind : write ≤ read)
    (further : read < later) (careful : Careful size later accesses) :
    Careful size read (.write write :: accesses) where
  inside := List.forall_mem_cons.mpr ⟨Nat.lt_of_le_of_lt behind inside, careful.inside⟩
  ahead := by
    intro index member
    rcases List.mem_cons.mp member with same | later
    · cases same
    · exact Nat.le_trans (Nat.le_of_lt further) (careful.ahead index later)
  spared := by
    refine careful.spared.cons ?_
    intro access member
    cases access with
    | read index =>
      have ahead := careful.ahead index member
      change write < index
      omega
    | write index => trivial

end Careful

/-- From any two cursors, the loop that checks its accesses gives what the other one gives. -/
theorem close?_eq {size : Nat} (tape : Tape size) {read write : Nat} (behind : write ≤ read) :
    ∃ accesses, Careful size read accesses ∧
      tape.close? read write =
        some (close tape.cells.toArray read write behind, tape.accesses ++ accesses) := by
  -- Turn by turn. What is noted in a turn stands in front of what the rest of the loop notes.
  generalize same : tape.cells.toArray = buffer
  fun_induction close buffer read write behind generalizing tape with
  | case1 buffer read write behind inside degree ih =>
    subst same
    rw [Vector.size_toArray] at inside
    simp only [Vector.getElem_toArray, Vector.getElem?_toArray] at degree
    obtain ⟨looks, looked, turned⟩ := tape.close?_degree inside behind degree
    obtain ⟨accesses, careful, closed⟩ := ih ⟨tape.cells.set write code, _⟩ rfl
    refine ⟨_, (careful.wrote inside behind (by omega)).looks looked, ?_⟩
    rw [turned, closed]
    simp only [List.append_assoc, List.singleton_append]
  | case2 buffer read write behind inside other ih =>
    subst same
    rw [Vector.size_toArray] at inside
    simp only [Vector.getElem_toArray, Vector.getElem?_toArray] at other
    obtain ⟨looks, looked, turned⟩ := tape.close?_other inside behind other
    obtain ⟨accesses, careful, closed⟩ := ih ⟨tape.cells.set write tape.cells[read], _⟩ rfl
    refine ⟨_, (careful.wrote inside behind (by omega)).looks looked, ?_⟩
    rw [turned, closed]
    simp only [List.append_assoc, List.singleton_append]
  | case3 buffer read write behind outside =>
    subst same
    rw [Vector.size_toArray] at outside
    refine ⟨[], .nil, ?_⟩
    rw [Tape.close?, if_neg outside, List.append_nil]
    rfl

/-- What stands before the start stays, and the rest becomes what a scan from left to right makes of
it. All of this happens in the buffer itself: each access is inside of it, and no byte is
overwritten that has yet to be read. The buffer gets shorter by a byte for each degree sign. None is
left from the start on, so doing it again changes nothing. -/
theorem closed_in_place (start : Nat) (buffer : Bytes) :
    let closed := collapse start buffer
    let tape : Tape buffer.length := { cells := ⟨buffer.toArray, rfl⟩ }
    (closed.take start = buffer.take start ∧ closed.drop start = normal (buffer.drop start)) ∧
    (∃ accesses, tape.close? start start = some (closed.toArray, accesses) ∧
      (∀ access ∈ accesses, access.index < buffer.length) ∧ accesses.Pairwise Access.Spares) ∧
    closed.length + pairs (buffer.drop start) = buffer.length ∧
    ¬ [0xC2, 0xB0] <:+: closed.drop start ∧
    collapse start closed = closed := by
  intro closed tape
  refine ⟨⟨take_collapse start buffer, drop_collapse start buffer⟩, ?_,
    length_collapse start buffer, ?_, collapse_collapse start buffer⟩
  · obtain ⟨accesses, careful, run⟩ := close?_eq tape (Nat.le_refl start)
    exact ⟨accesses, run, careful.inside, careful.spared⟩
  · rw [drop_collapse, ← pairs_eq_zero_iff]
    exact pairs_normal _

/-- The first degree sign lies across the start and stays. Of the bytes behind it only two are one,
for all that they look like it. -/
theorem closed_in_place_across :
    let buffer : Bytes := [lead, trail, lead, lead, trail, trail, lead]
    let tape : Tape buffer.length := { cells := ⟨buffer.toArray, rfl⟩ }
    let closed := collapse 1 buffer
    closed.take 1 = [lead] ∧ closed.drop 1 = [trail, lead, code, trail, lead] ∧
      closed.length + 1 = buffer.length ∧
      ∃ accesses, tape.close? 1 1 = some (closed.toArray, accesses) ∧ .write 3 ∈ accesses ∧
        (Access.write 3).index < buffer.length ∧ accesses.Pairwise Access.Spares := by
  intro buffer tape closed
  obtain ⟨⟨before, behind⟩, ⟨accesses, run, inside, spared⟩, shorter, -, -⟩ :=
    closed_in_place 1 buffer
  have ran : (tape.close? 1 1).map Prod.snd = some [.read 1, .read 2, .read 1, .write 1,
      .read 2, .read 3, .read 2, .write 2, .read 3, .read 4, .write 3,
      .read 5, .read 6, .read 5, .write 4, .read 6, .write 5] := by decide +kernel
  rw [run, Option.map_some, Option.some_inj] at ran
  change accesses = _ at ran
  have noted : .write 3 ∈ accesses := by
    rw [ran]
    decide
  exact ⟨before, behind, shorter, accesses, run, noted, inside _ noted, spared⟩

end Marquee.Proofs.DegreeBuffer

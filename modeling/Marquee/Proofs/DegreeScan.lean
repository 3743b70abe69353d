import Marquee.Message.Degree

/-! The two cursors of `Degree.close` against a scan that builds a new list. What stands before the
writing cursor is finished, what stands from the reading cursor on is untouched, and the bytes
between them no longer matter. -/

namespace Marquee.Proofs.DegreeScan
open Message.Degree

/-- From left to right, each degree sign in UTF-8 becomes the code of the sign. -/
def normal : Bytes → Bytes
  | [] => []
  | [byte] => [byte]
  | first :: second :: rest =>
    if first = 0xC2 ∧ second = 0xB0 then 0xA9 :: normal rest
    else first :: normal (second :: rest)

theorem normal_degree (rest : Bytes) : normal (lead :: trail :: rest) = code :: normal rest := by
  rw [normal, if_pos ⟨rfl, rfl⟩, code]

theorem normal_other {byte : UInt8} {rest : Bytes}
    (other : ¬ (byte = lead ∧ rest.head? = some trail)) :
    normal (byte :: rest) = byte :: normal rest := by
  cases rest with
  | nil => rfl
  | cons second rest =>
    rw [List.head?_cons, Option.some_inj] at other
    rw [normal]
    exact if_neg other

/-- No degree sign lies across the border if the front does not end in the first byte of one. -/
theorem normal_append {front : Bytes} (closed : front.getLast? ≠ some lead) (back : Bytes) :
    normal (front ++ back) = normal front ++ normal back := by
  fun_induction normal front with
  | case1 => rfl
  | case2 byte =>
    rw [List.getLast?_singleton, ne_eq, Option.some_inj] at closed
    exact normal_other fun degree => closed degree.1
  | case3 first second rest degree ih =>
    obtain ⟨rfl, rfl⟩ : first = lead ∧ second = trail := degree
    have later : rest.getLast? ≠ some lead := by
      cases rest with
      | nil => simp
      | cons third rest => simpa [List.getLast?_cons_cons] using closed
    rw [List.cons_append, List.cons_append, normal_degree, ih later, List.cons_append, code]
  | case4 first second rest other ih =>
    rw [List.getLast?_cons_cons] at closed
    have later := ih closed
    have apart : ¬ (first = lead ∧ (second :: (rest ++ back)).head? = some trail) := by
      rw [List.head?_cons, Option.some_inj]
      exact other
    rw [List.cons_append] at later
    rw [List.cons_append, List.cons_append, normal_other apart, later, List.cons_append]

theorem normal_flatMap {α : Type} {encode : α → Bytes}
    (closed : ∀ item, (encode item).getLast? ≠ some lead) (items : List α) :
    normal (items.flatMap encode) = items.flatMap fun item => normal (encode item) := by
  induction items with
  | nil => rfl
  | cons item items ih =>
    rw [List.flatMap_cons, normal_append (closed item), ih, List.flatMap_cons]

theorem normal_eq_self {bytes : Bytes} (plain : lead ∉ bytes) : normal bytes = bytes := by
  induction bytes with
  | nil => rfl
  | cons byte rest ih =>
    rw [List.mem_cons, not_or] at plain
    rw [normal_other fun degree => plain.1 degree.1.symm, ih plain.2]

/-- The scan neither drops nor adds a byte that has nothing to do with the degree sign. -/
theorem mem_normal_iff {byte : UInt8} (other : byte ∉ [lead, trail, code]) (bytes : Bytes) :
    byte ∈ normal bytes ↔ byte ∈ bytes := by
  simp only [List.mem_cons, List.not_mem_nil, or_false, not_or] at other
  fun_induction normal bytes with
  | case1 | case2 => rfl
  | case3 first second rest degree ih =>
    obtain ⟨rfl, rfl⟩ : first = lead ∧ second = trail := degree
    rw [← code, List.mem_cons, List.mem_cons, List.mem_cons, ih]
    simp [other]
  | case4 first second rest _ ih => rw [List.mem_cons, ih, ← List.mem_cons]

section Written
variable {bytes : Bytes} {write : Nat} (byte : UInt8)

private theorem take_written (inside : write < bytes.length) :
    (bytes.set write byte).take (write + 1) = bytes.take write ++ [byte] := by
  rw [List.take_succ_eq_append_getElem (by simpa using inside), List.take_set_of_le (Nat.le_refl _),
    List.getElem_set_self]

private theorem drop_written {read : Nat} (behind : write < read) :
    (bytes.set write byte).drop read = bytes.drop read := List.drop_set_of_lt behind

end Written

/-- What the loop returns from any two cursors, by what it has still to read. -/
theorem toList_close (buffer : Array UInt8) (read write : Nat) (behind : write ≤ read) :
    (close buffer read write behind).toList =
      buffer.toList.take write ++ normal (buffer.toList.drop read) := by
  fun_induction close buffer read write behind with
  | case1 buffer read write behind inside degree ih =>
    obtain ⟨first, second⟩ := degree
    obtain ⟨more, next⟩ := Array.getElem?_eq_some_iff.mp second
    have unread : buffer.toList.drop read = lead :: trail :: buffer.toList.drop (read + 2) := by
      rw [List.drop_eq_getElem_cons (by simpa using inside),
        List.drop_eq_getElem_cons (by simpa using more)]
      simp only [Array.getElem_toList, first, next]
    rw [ih, unread, normal_degree, Array.toList_set, take_written code (by simp; omega),
      drop_written code (by omega), List.append_assoc]
    rfl
  | case2 buffer read write behind inside other ih =>
    have unread : buffer.toList.drop read = buffer[read] :: buffer.toList.drop (read + 1) := by
      rw [List.drop_eq_getElem_cons (by simpa using inside), Array.getElem_toList]
    have plain : ¬ (buffer[read] = lead ∧ (buffer.toList.drop (read + 1)).head? = some trail) := by
      rw [List.head?_drop, Array.getElem?_toList]
      exact other
    rw [ih, unread, normal_other plain, Array.toList_set, take_written _ (by simp; omega),
      drop_written _ (by omega), List.append_assoc]
    rfl
  | case3 buffer read write behind outside =>
    have consumed : buffer.toList.drop read = [] := by
      rw [List.drop_eq_nil_iff, Array.length_toList]
      omega
    rw [consumed, normal, List.append_nil, Array.take_eq_extract, Array.toList_extract]
    simp

theorem collapse_eq (start : Nat) (buffer : Bytes) :
    collapse start buffer = buffer.take start ++ normal (buffer.drop start) := by
  rw [collapse, toList_close, List.toList_toArray]

/-- Only what stands from the start on is scanned. -/
theorem collapse_append (front back : Bytes) :
    collapse front.length (front ++ back) = front ++ normal back := by
  rw [collapse_eq, List.take_left, List.drop_left]

end Marquee.Proofs.DegreeScan

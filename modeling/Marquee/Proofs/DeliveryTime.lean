import Marquee.Proofs.SendTrace
import Mathlib.Algebra.Order.Floor.Div
import Mathlib.Data.Rat.Floor

/-! How long a frame takes at the least. The line rests between two pieces, and the time that is
foretold is that of the rests alone. A link that takes the frame is asked to rest for just as long,
unless there are more rests than can be counted. What is foretold grows with the bytes and with the
delay, and a frame takes no less than its parts. -/

namespace Marquee.Proofs.DeliveryTime
open SendTrace

/-- The rests between the pieces that so many bytes are cut into. -/
def rests (size length : Nat) : Nat :=
  if length = 0 then 0 else ⌈(length : ℚ) / (max size 1 : ℕ)⌉₊ - 1

section Counting

theorem ceil_div_eq {size : Nat} (filled : 0 < size) (length : Nat) :
    ⌈(length : ℚ) / size⌉₊ = length ⌈/⌉ size := by
  apply eq_of_forall_ge_iff
  intro bound
  have positive : (0 : ℚ) < size := Nat.cast_pos.mpr filled
  rw [Nat.ceil_le, div_le_iff₀ positive, ceilDiv_le_iff_le_mul filled, Nat.mul_comm]
  exact_mod_cast Iff.rfl

theorem max_one_pos (size : Nat) : 0 < max size 1 := Nat.le_max_right size 1

theorem rests_eq (size length : Nat) : rests size length = length ⌈/⌉ max size 1 - 1 := by
  rw [rests, ceil_div_eq (max_one_pos size)]
  split
  next empty =>
    rw [empty, zero_ceilDiv, Nat.zero_sub]
  next => rfl

theorem gaps_eq_rests (pacing : Pacing) (length : Nat) :
    pacing.gaps length = rests pacing.chunk length :=
  (rests_eq pacing.chunk length).symm

theorem length_chunks_le_iff {size bound : Nat} {bytes : Bytes} :
    (chunks size bytes).length ≤ bound ↔ bytes.length ≤ max size 1 * bound := by
  fun_induction chunks size bytes generalizing bound with
  | case1 => simp
  | case2 bytes some ih =>
    have long := List.length_pos_iff.mpr some
    cases bound with
    | zero => simpa using some
    | succ bound =>
      rw [List.length_cons, Nat.succ_le_succ_iff, ih, List.length_drop, Nat.mul_succ]
      omega

theorem length_chunks (size : Nat) (bytes : Bytes) :
    (chunks size bytes).length = bytes.length ⌈/⌉ max size 1 := by
  apply eq_of_forall_ge_iff
  intro bound
  rw [length_chunks_le_iff, ceilDiv_le_iff_le_mul (max_one_pos size)]

theorem rests_chunks (size : Nat) (bytes : Bytes) :
    rests size bytes.length = (chunks size bytes).length - 1 := by
  rw [rests_eq, length_chunks]

end Counting

section Words
open Pacing

/-- A count in thirty-two bits, unless it takes more. -/
def narrowed? (count : UInt64) : Option UInt32 :=
  if count.toNat < UInt32.size then some count.toUInt32 else none

/-- So many delays in sixty-four bits, unless they take more. -/
def product? (delay : UInt64) (count : UInt32) : Option UInt64 :=
  let product := delay.toNat * count.toNat
  if product < UInt64.size then some product.toUInt64 else none

def sizeInWords (size : UInt64) : UInt64 := if size = 0 then 1 else size

/-- The division rounds up. -/
def piecesInWords (size length : UInt64) : UInt64 :=
  length / sizeInWords size + if length % sizeInWords size = 0 then 0 else 1

/-- There is one rest less than there are pieces, and none where there is no piece. -/
def restsInWords (size length : UInt64) : UInt64 :=
  if piecesInWords size length = 0 then 0 else piecesInWords size length - 1

/-- The least time, computed in words. -/
def timeInWords (delay size length : UInt64) : UInt64 :=
  ((narrowed? (restsInWords size length)).bind (product? delay)).getD longest

theorem toNat_minDuration (pacing : Pacing) (length : Nat) :
    (pacing.minDuration length).toNat =
      if rests pacing.chunk length ≤ mostGaps then
        min (pacing.delay.toNat * rests pacing.chunk length) longest.toNat
      else longest.toNat := by
  rw [minDuration, gaps_eq_rests]
  by_cases few : rests pacing.chunk length ≤ mostGaps
  · rw [if_pos few]
    by_cases short : pacing.delay.toNat * rests pacing.chunk length ≤ longest.toNat
    · rw [if_pos ⟨few, short⟩, Nat.min_eq_left short]
      exact Nat.mod_eq_of_lt (Nat.lt_succ_of_le short)
    · rw [if_neg fun both => short both.2, Nat.min_eq_right (Nat.le_of_not_le short)]
  · rw [if_neg few, if_neg fun both => few both.1]

theorem ceilDiv_eq_div_add {size : Nat} (filled : 0 < size) (length : Nat) :
    length ⌈/⌉ size = length / size + if length % size = 0 then 0 else 1 := by
  apply eq_of_forall_ge_iff
  intro bound
  rw [ceilDiv_le_iff_le_mul filled]
  by_cases even : length % size = 0
  · obtain ⟨pieces, rfl⟩ := Nat.dvd_of_mod_eq_zero even
    rw [if_pos even, Nat.mul_div_cancel_left pieces filled, Nat.add_zero,
      Nat.mul_le_mul_left_iff filled]
  · have uneven : length ≠ size * bound := by
      rintro rfl
      exact even (Nat.mul_mod_right size bound)
    rw [if_neg even, Nat.succ_le_iff, Nat.div_lt_iff_lt_mul filled, Nat.mul_comm bound,
      lt_iff_le_and_ne, and_iff_left uneven]

theorem toNat_sizeInWords (size : UInt64) : (sizeInWords size).toNat = max size.toNat 1 := by
  unfold sizeInWords
  split
  next zero =>
    rw [zero]
    rfl
  next some =>
    have positive := Nat.one_le_iff_ne_zero.mpr fun zero => some (UInt64.toNat_inj.mp zero)
    exact (max_eq_left positive).symm

theorem toNat_piecesInWords (size length : UInt64) :
    (piecesInWords size length).toNat = length.toNat ⌈/⌉ max size.toNat 1 := by
  have positive := max_one_pos size.toNat
  have even : length % sizeInWords size = 0 ↔ length.toNat % max size.toNat 1 = 0 := by
    rw [← UInt64.toNat_inj, UInt64.toNat_mod, toNat_sizeInWords]
    rfl
  have carried : (if length % sizeInWords size = 0 then 0 else 1 : UInt64).toNat =
      if length.toNat % max size.toNat 1 = 0 then 0 else 1 := by
    simp only [← even]
    split <;> rfl
  -- There are no more pieces than bytes, so one more than the quotient is still a word.
  have fits : length.toNat ⌈/⌉ max size.toNat 1 ≤ length.toNat := by
    rw [ceilDiv_le_iff_le_mul positive]
    exact Nat.le_mul_of_pos_left _ positive
  rw [ceilDiv_eq_div_add positive] at fits ⊢
  rw [piecesInWords, UInt64.toNat_add, UInt64.toNat_div, toNat_sizeInWords, carried]
  exact Nat.mod_eq_of_lt (Nat.lt_of_le_of_lt fits length.toNat_lt)

theorem toNat_restsInWords (size length : UInt64) :
    (restsInWords size length).toNat = rests size.toNat length.toNat := by
  rw [rests_eq, ← toNat_piecesInWords]
  unfold restsInWords
  split
  next none =>
    rw [none]
    rfl
  next some =>
    apply UInt64.toNat_sub_of_le
    rw [UInt64.le_iff_toNat_le]
    exact Nat.one_le_iff_ne_zero.mpr fun zero => some (UInt64.toNat_inj.mp zero)

theorem timeInWords_eq (delay size length : UInt64) :
    timeInWords delay size length =
      ({ delay, chunk := size.toNat } : Pacing).minDuration length.toNat := by
  apply UInt64.toNat_inj.mp
  rw [toNat_minDuration, ← toNat_restsInWords, timeInWords, narrowed?]
  generalize restsInWords size length = count
  have few_iff : count.toNat < UInt32.size ↔ count.toNat ≤ mostGaps := Nat.lt_succ_iff
  have short_iff : delay.toNat * count.toNat < UInt64.size ↔
      delay.toNat * count.toNat ≤ longest.toNat := Nat.lt_succ_iff
  by_cases few : count.toNat ≤ mostGaps
  · have narrow : count.toUInt32.toNat = count.toNat := Nat.mod_eq_of_lt (few_iff.mpr few)
    rw [if_pos few, if_pos (few_iff.mpr few), Option.bind_some, product?, narrow]
    by_cases short : delay.toNat * count.toNat ≤ longest.toNat
    · rw [if_pos (short_iff.mpr short), min_eq_left short]
      exact Nat.mod_eq_of_lt (short_iff.mpr short)
    · rw [if_neg (mt short_iff.mp short), min_eq_right (Nat.le_of_not_le short)]
      rfl
  · rw [if_neg few, if_neg (mt few_iff.mp few)]
    rfl

/-- What is foretold is the time of the rests, up to the longest duration, if the rests can be
counted. Else it is the longest duration, so it is never too short, and too long only where the
rests are uncounted and their time is not that long. The rests are those of the frame itself, and
computing in words comes to the same. -/
theorem least_time :
    (∀ (pacing : Pacing) (length : Nat),
      let count := rests pacing.chunk length
      let time := min (pacing.delay.toNat * count) longest.toNat
      let told := (pacing.minDuration length).toNat
      told = (if count < 2 ^ 32 then time else longest.toNat) ∧
        (pacing.delay = 0 → count < 2 ^ 32 → told = 0) ∧
        time ≤ told ∧
        (time < told ↔ 2 ^ 32 ≤ count ∧ pacing.delay.toNat * count < longest.toNat)) ∧
    (∀ size bytes, rests size bytes.length = (chunks size bytes).length - 1) ∧
    ∀ delay size length : UInt64, timeInWords delay size length =
      ({ delay, chunk := size.toNat } : Pacing).minDuration length.toNat := by
  refine ⟨?_, rests_chunks, timeInWords_eq⟩
  intro pacing length count time told
  have value : told = if count < 2 ^ 32 then time else longest.toNat := by
    refine (toNat_minDuration pacing length).trans ?_
    simp only [← Nat.lt_succ_iff]
    rfl
  have capped : time ≤ longest.toNat := Nat.min_le_right _ _
  refine ⟨value, ?_, ?_, ?_⟩
  · intro still few
    have none : time = 0 := by
      change min (pacing.delay.toNat * count) _ = 0
      rw [still, UInt64.toNat_zero, Nat.zero_mul, Nat.zero_min]
    rw [value, if_pos few, none]
  · rw [value]
    split
    · exact Nat.le_refl _
    · exact capped
  · rw [value]
    split
    next few => exact ⟨fun less => absurd less (Nat.lt_irrefl _), fun both => by omega⟩
    next many =>
      rw [min_lt_iff, or_iff_left (Nat.lt_irrefl _), and_iff_right (Nat.le_of_not_lt many)]

/-- Without a delay no rest takes any time, and with a long one the last rest that can be counted
still fits the duration. -/
theorem least_time_counted :
    let still : Pacing := { delay := 0, chunk := 0 }
    let long : Pacing := { delay := 0x100000000 }
    rests 0 0x100000000 < 2 ^ 32 ∧ (still.minDuration 0x100000000).toNat = 0 ∧
      (long.minDuration 0x100000000).toNat = 0x100000000 * 0xFFFFFFFF := by
  intro still long
  have most (size : Nat) (single : max size 1 = 1) : rests size 0x100000000 = 0xFFFFFFFF := by
    rw [rests_eq, single]
    rfl
  have few (size : Nat) (single : max size 1 = 1) : rests size 0x100000000 < 2 ^ 32 := by
    rw [most size single]
    decide
  obtain ⟨told, -, -⟩ := least_time
  refine ⟨few 0 rfl, (told still 0x100000000).2.1 rfl (few 0 rfl), ?_⟩
  refine (told long 0x100000000).1.trans ?_
  rw [if_pos (few 1 rfl), most 1 rfl]
  exact Nat.min_eq_left (by decide)

/-- One rest too many to be counted takes no time where there is no delay. With the shortest delay
there is, all the rests that a word can number would still fit the duration. -/
theorem uncounted_rests :
    let still : Pacing := { delay := 0 }
    let short : Pacing := { delay := 1 }
    rests 1 (2 ^ 32 + 1) = 2 ^ 32 ∧ (still.minDuration (2 ^ 32 + 1)).toNat = 2 ^ 64 - 1 ∧
      rests 1 (2 ^ 64 - 1) = 2 ^ 64 - 2 ∧ (short.minDuration (2 ^ 64 - 1)).toNat = 2 ^ 64 - 1 ∧
      ¬ ∀ (pacing : Pacing) (length : Nat), (pacing.minDuration length).toNat =
        min (pacing.delay.toNat * rests pacing.chunk length) longest.toNat := by
  intro still short
  have one_more : rests 1 (2 ^ 32 + 1) = 2 ^ 32 := by
    rw [rests_eq]
    rfl
  have most : rests 1 (2 ^ 64 - 1) = 2 ^ 64 - 2 := by
    rw [rests_eq]
    rfl
  have uncounted (delay : UInt64) (length : Nat) (many : mostGaps < rests 1 length) :
      (({ delay } : Pacing).minDuration length).toNat = 2 ^ 64 - 1 := by
    rw [toNat_minDuration, if_neg (Nat.not_le_of_lt many)]
    rfl
  have still_told := uncounted 0 (2 ^ 32 + 1) (by rw [one_more]; decide)
  have short_told := uncounted 1 (2 ^ 64 - 1) (by rw [most]; decide)
  refine ⟨one_more, still_told, most, short_told, ?_⟩
  intro same
  have told := (same still (2 ^ 32 + 1)).symm.trans still_told
  change min (0 * _) _ = _ at told
  rw [Nat.zero_mul, Nat.zero_min] at told
  exact absurd told (by decide)

end Words

section Order
open Pacing

/-- There is a rest behind every whole piece that more bytes follow. -/
theorem le_rests_iff {size length count : Nat} :
    count ≤ rests size length ↔ count = 0 ∨ max size 1 * count < length := by
  have less : count < length ⌈/⌉ max size 1 ↔ max size 1 * count < length := by
    rw [← Nat.not_le, ceilDiv_le_iff_le_mul (max_one_pos size), Nat.not_le]
  rw [rests_eq, ← less]
  omega

theorem rests_zero (size : Nat) : rests size 0 = 0 := if_pos rfl

theorem mul_rests_lt (size : Nat) {length : Nat} (filled : 0 < length) :
    max size 1 * rests size length < length := by
  rcases le_rests_iff.mp (Nat.le_refl (rests size length)) with none | less
  · rwa [none]
  · exact less

theorem rests_mono {size finer length longer : Nat} (fine : max finer 1 ≤ max size 1)
    (long : length ≤ longer) : rests size length ≤ rests finer longer := by
  rcases Nat.eq_zero_or_pos length with rfl | filled
  · rw [rests_zero]
    exact Nat.zero_le _
  · rw [le_rests_iff]
    right
    calc max finer 1 * rests size length
      _ ≤ max size 1 * rests size length := Nat.mul_le_mul_right _ fine
      _ < length := mul_rests_lt size filled
      _ ≤ longer := long

theorem rests_add_le (size front back : Nat) :
    rests size front + rests size back ≤ rests size (front + back) := by
  rcases Nat.eq_zero_or_pos front with rfl | filled
  · rw [rests_zero, Nat.zero_add, Nat.zero_add]
  rcases Nat.eq_zero_or_pos back with rfl | filled'
  · rw [rests_zero, Nat.add_zero, Nat.add_zero]
  rw [le_rests_iff, Nat.mul_add]
  exact .inr (Nat.add_lt_add (mul_rests_lt size filled) (mul_rests_lt size filled'))

/-- Between whole pieces and what follows them there is one rest more. -/
theorem rests_whole_add_le {size front back : Nat} (filled : 0 < front) (filled' : 0 < back)
    (whole : max size 1 ∣ front) :
    rests size front + 1 + rests size back ≤ rests size (front + back) := by
  obtain ⟨pieces, rfl⟩ := whole
  have within : rests size (max size 1 * pieces) < pieces :=
    Nat.lt_of_mul_lt_mul_left (mul_rests_lt size filled)
  rw [le_rests_iff, Nat.mul_add]
  right
  exact Nat.add_lt_add_of_le_of_lt (Nat.mul_le_mul_left _ within) (mul_rests_lt size filled')

/-- The time of so many rests, as far as it can be told. -/
def spent (delay : UInt64) (count : Nat) : Nat :=
  if count ≤ mostGaps then min (delay.toNat * count) longest.toNat else longest.toNat

theorem toNat_minDuration_eq_spent (pacing : Pacing) (length : Nat) :
    (pacing.minDuration length).toNat = spent pacing.delay (rests pacing.chunk length) :=
  toNat_minDuration pacing length

theorem spent_of_uncounted {count : Nat} (many : mostGaps < count) (delay : UInt64) :
    spent delay count = longest.toNat := if_neg (Nat.not_le_of_lt many)

theorem spent_le (delay : UInt64) (count : Nat) : spent delay count ≤ longest.toNat := by
  unfold spent
  split
  · exact Nat.min_le_right _ _
  · exact Nat.le_refl _

theorem spent_one (delay : UInt64) : spent delay 1 = delay.toNat := by
  have short : delay.toNat ≤ longest.toNat := Nat.le_of_lt_succ delay.toNat_lt
  rw [spent, if_pos (by decide), Nat.mul_one, Nat.min_eq_left short]

theorem spent_mono {delay slower : UInt64} {count larger : Nat} (slow : delay ≤ slower)
    (more : count ≤ larger) : spent delay count ≤ spent slower larger := by
  rcases Nat.lt_or_ge mostGaps larger with many | few
  · rw [spent_of_uncounted many]
    exact spent_le delay count
  · rw [spent, spent, if_pos few, if_pos (Nat.le_trans more few)]
    exact min_le_min_right _ (Nat.mul_le_mul (UInt64.le_iff_toNat_le.mp slow) more)

theorem spent_add_le (delay : UInt64) (count more : Nat) :
    min (spent delay count + spent delay more) longest.toNat ≤ spent delay (count + more) := by
  rcases Nat.lt_or_ge mostGaps (count + more) with many | few
  · rw [spent_of_uncounted many]
    exact Nat.min_le_right _ _
  · rw [spent, spent, spent, if_pos few, if_pos (by omega), if_pos (by omega), Nat.mul_add]
    omega

/-- More bytes, a longer delay and smaller pieces never make the time that is foretold shorter,
neither where the rests are no longer counted nor where a duration ends, and pieces of no byte are
pieces of one. Bytes in two parts take no less than the parts, and a delay more if the first part is
whole pieces. -/
theorem time_monotone :
    (∀ (delay slower : UInt64) (size finer length longer : Nat),
      delay ≤ slower → max finer 1 ≤ max size 1 → length ≤ longer →
        ({ delay, chunk := size } : Pacing).minDuration length ≤
          ({ delay := slower, chunk := finer } : Pacing).minDuration longer) ∧
    (∀ delay length, ({ delay, chunk := 0 } : Pacing).minDuration length =
      ({ delay, chunk := 1 } : Pacing).minDuration length) ∧
    ∀ (pacing : Pacing) (front back : Nat),
      let told (length : Nat) := (pacing.minDuration length).toNat
      min (told front + told back) longest.toNat ≤ told (front + back) ∧
        (0 < front → 0 < back → max pacing.chunk 1 ∣ front →
          min (told front + pacing.delay.toNat + told back) longest.toNat ≤ told (front + back)) := by
  refine ⟨?_, fun _ _ => rfl, ?_⟩
  · intro delay slower size finer length longer slow fine long
    rw [UInt64.le_iff_toNat_le, toNat_minDuration_eq_spent, toNat_minDuration_eq_spent]
    exact spent_mono slow (rests_mono fine long)
  · intro pacing front back told
    have value (length : Nat) : told length = spent pacing.delay (rests pacing.chunk length) :=
      toNat_minDuration_eq_spent pacing length
    have even := UInt64.le_refl pacing.delay
    rw [value, value, value]
    constructor
    · calc min _ longest.toNat
        _ ≤ spent pacing.delay (rests pacing.chunk front + rests pacing.chunk back) :=
          spent_add_le _ _ _
        _ ≤ _ := spent_mono even (rests_add_le pacing.chunk front back)
    · intro filled filled' whole
      -- The rest between the two parts is added to the first of them.
      have first := spent_add_le pacing.delay (rests pacing.chunk front) 1
      have both := spent_add_le pacing.delay (rests pacing.chunk front + 1) (rests pacing.chunk back)
      have all := spent_mono even (rests_whole_add_le filled filled' whole)
      rw [spent_one] at first
      omega

/-- One byte more is one rest too many to be counted, and with two rests of half the longest
duration another one is one too many to be told. Two whole pieces and three bytes have a rest
between them. -/
theorem time_monotone_limits :
    let short : Pacing := { delay := 1 }
    let long : Pacing := { delay := 0x7FFFFFFFFFFFFFFF, chunk := 0 }
    let paired : Pacing := { delay := 5, chunk := 2 }
    (short.minDuration 0x100000000).toNat = 0xFFFFFFFF ∧
      (short.minDuration 0x100000001).toNat = 0xFFFFFFFFFFFFFFFF ∧
      short.minDuration 0x100000000 ≤ short.minDuration 0x100000001 ∧
      (long.minDuration 3).toNat = 0xFFFFFFFFFFFFFFFE ∧
      (long.minDuration 4).toNat = 0xFFFFFFFFFFFFFFFF ∧ long.minDuration 3 ≤ long.minDuration 4 ∧
      max paired.chunk 1 ∣ 4 ∧ (paired.minDuration 4).toNat = 5 ∧ (paired.minDuration 3).toNat = 5 ∧
      (paired.minDuration 7).toNat = 15 ∧
      min ((paired.minDuration 4).toNat + paired.delay.toNat + (paired.minDuration 3).toNat)
        longest.toNat ≤ (paired.minDuration 7).toNat := by
  intro short long paired
  obtain ⟨mono, -, parts⟩ := time_monotone
  have whole : max paired.chunk 1 ∣ 4 := by decide
  refine ⟨by decide, by decide, mono 1 1 1 1 _ _ (by decide) (by decide) (by decide), by decide,
    by decide, mono _ _ 0 0 3 4 (by decide) (by decide) (by decide), whole, by decide, by decide, by decide,
    (parts paired 4 3).2 (by decide) (by decide) whole⟩

end Order

section Trace

/-- How long the line rests in these steps, in microseconds. -/
def idle (steps : List Step) : Nat :=
  (steps.map fun | .pause micros => micros.toNat | .write _ | .flush => 0).sum

theorem idle_append (front back : List Step) : idle (front ++ back) = idle front + idle back := by
  rw [idle, List.map_append, List.sum_append]
  rfl

theorem idle_trailed (delay : UInt64) (pieces : List Bytes) :
    idle (trailed delay pieces) = delay.toNat * pieces.length := by
  induction pieces with
  | nil => rfl
  | cons piece pieces ih =>
    have rested : idle [.write piece, .pause delay] = delay.toNat := Nat.zero_add _
    change idle ([.write piece, .pause delay] ++ trailed delay pieces) = _
    rw [idle_append, rested, ih, List.length_cons, Nat.mul_succ, Nat.add_comm]

theorem idle_spaced (delay : UInt64) (pieces : List Bytes) :
    idle (spaced delay pieces) = delay.toNat * (pieces.length - 1) := by
  obtain rfl | ⟨front, last, rfl⟩ := List.eq_nil_or_concat pieces
  · rfl
  · rw [List.concat_eq_append, spaced_append, idle_append, idle_trailed, List.length_append]
    rfl

variable {σ ε : Type} {link : Link σ ε} {delay : UInt64} {state : σ} {pieces : List Bytes}
  {sent : Sent σ ε} (course : Course link delay state pieces sent)
include course

theorem idle_of_ok (whole : sent.result = .ok ()) :
    idle sent.done = delay.toNat * (pieces.length - 1) := by
  cases course with
  | whole => rw [idle_append, idle_spaced]; rfl
  | broken | unflushed => cases whole

/-- A write that fails has all rests in front of it, and the ones behind it are not taken. -/
theorem idle_le : idle sent.done ≤ delay.toNat * (pieces.length - 1) := by
  cases course with
  | whole =>
    rw [idle_append, idle_spaced]
    exact Nat.le_refl _
  | unflushed => exact Nat.le_of_eq (idle_spaced delay pieces)
  | broken split =>
    apply Nat.le_trans (Nat.le_of_eq (idle_trailed delay _))
    apply Nat.mul_le_mul_left
    rw [split, List.length_append, List.length_cons]
    omega

end Trace

/-- A link that takes the frame is asked to rest for as long as was foretold, and one that refuses
it for no longer. -/
theorem rests_foretold {σ ε : Type} (link : Link σ ε) (pacing : Pacing) (frame : Bytes) (state : σ) :
    let sent := link.send pacing frame state
    let rested := min (idle sent.done) Pacing.longest.toNat
    let told := (pacing.minDuration frame.length).toNat
    ((chunks pacing.chunk frame).length ≤ 2 ^ 32 → sent.result = .ok () → rested = told) ∧
      ∀ fault, sent.result = .error fault → rested ≤ told := by
  intro sent rested told
  have course : Course link pacing.delay state (chunks pacing.chunk frame) sent :=
    (send_eq_iff link pacing frame state sent).mp rfl
  have value : told = _ := toNat_minDuration pacing frame.length
  rw [rests_chunks] at value
  constructor
  · intro few ok
    have counted : (chunks pacing.chunk frame).length - 1 ≤ Pacing.mostGaps := by
      change _ ≤ 2 ^ 32 - 1
      omega
    rw [value, if_pos counted, ← idle_of_ok course ok]
  · intro fault _
    have less := min_le_min_right Pacing.longest.toNat (idle_le course)
    rw [value]
    split
    · exact less
    · exact Nat.min_le_right _ _

/-- Two rests take more than the longest duration. A link that is stuck at its second piece has only
the first of them. -/
theorem rests_foretold_capped :
    let pacing : Pacing := { delay := 0x8000000000000000, chunk := 2 }
    let link (room : Nat) : Link Nat String := {
      write := fun calls _ => if calls = room then (.error "stuck", calls) else (.ok (), calls + 1)
      flush := fun calls => (.ok (), calls) }
    let frame : Bytes := [1, 2, 3, 4, 5]
    let sent := (link 3).send pacing frame 0
    let stuck := (link 1).send pacing frame 0
    (chunks pacing.chunk frame).length ≤ 2 ^ 32 ∧ sent.result = .ok () ∧
      idle sent.done = 2 ^ 64 ∧
      min (idle sent.done) Pacing.longest.toNat = (pacing.minDuration frame.length).toNat ∧
      stuck.result = .error "stuck" ∧ idle stuck.done = 2 ^ 63 ∧
      min (idle stuck.done) Pacing.longest.toNat ≤ (pacing.minDuration frame.length).toNat := by
  intro pacing link frame sent stuck
  have pieces : chunks pacing.chunk frame = [[1, 2], [3, 4], [5]] := by cbv
  have few : (chunks pacing.chunk frame).length ≤ 2 ^ 32 := by
    rw [pieces]
    decide
  have whole : Course (link 3) pacing.delay 0 [[1, 2], [3, 4], [5]] sent := by
    rw [← pieces]
    exact (send_eq_iff (link 3) pacing frame 0 sent).mp rfl
  have through : sent = ⟨spaced pacing.delay [[1, 2], [3, 4], [5]] ++ [.flush], .ok (), 3⟩ := by
    refine (send_eq_iff (link 3) pacing frame 0 _).mpr ?_
    rw [pieces]
    exact .whole (.next rfl (.next rfl (.next rfl (.none 3)))) rfl
  have begun : stuck = ⟨trailed pacing.delay [[1, 2]], .error "stuck", 1⟩ := by
    refine (send_eq_iff (link 1) pacing frame 0 _).mpr ?_
    exact .broken pieces (.next rfl (.none 1)) rfl
  have ok : sent.result = .ok () := congrArg Sent.result through
  have failed : stuck.result = .error "stuck" := congrArg Sent.result begun
  refine ⟨few, ok, ?_, (rests_foretold (link 3) pacing frame 0).1 few ok, failed, ?_,
    (rests_foretold (link 1) pacing frame 0).2 _ failed⟩
  · exact (idle_of_ok whole ok).trans (by decide)
  · rw [begun]
    exact (idle_trailed pacing.delay [[1, 2]]).trans (by decide)

end Marquee.Proofs.DeliveryTime

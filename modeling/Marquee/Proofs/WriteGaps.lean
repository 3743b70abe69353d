import Marquee.Proofs.SendTrace

/-! Where the line rests. It does so between any two writes of one frame, once and as long as it was
told to. Behind the last write of a frame it does not, and neither does it in front of the first
write of the next, so that the gap is kept by a row of sends only if no more than one of them
writes. -/

namespace Marquee.Proofs.WriteGaps
open SendTrace

variable {σ ε : Type}

/-- What is asked of a link and of the clock. If a step is refused, it is the last one. -/
def asked (link : Link σ ε) : List Step → σ → List Step
  | [], _ => []
  | step :: steps, state =>
    match link.attempt state step with
    | (.ok (), next) => step :: asked link steps next
    | (.error _, _) => [step]

/-- The same for frames in turn, whether or not they get through. -/
def askedAll (link : Link σ ε) (pacing : Pacing) : List Bytes → σ → List Step
  | [], _ => []
  | frame :: frames, state =>
    asked link (pacing.schedule frame) state ++
      askedAll link pacing frames (link.send pacing frame state).state

def Unwritten (steps : List Step) : Prop := ∀ data, .write data ∉ steps

/-- Two writes in a row, and what stands between them. -/
def Consecutive (steps : List Step) (first : Bytes) (between : List Step) (second : Bytes) : Prop :=
  Unwritten between ∧
    ∃ front back, steps = front ++ .write first :: (between ++ .write second :: back)

/-- What stands in front of the first write. -/
def Leading (steps head : List Step) : Prop :=
  Unwritten head ∧ ∃ first back, steps = head ++ .write first :: back

/-- What stands behind the last write. -/
def Closing (steps tail : List Step) : Prop :=
  Unwritten tail ∧ ∃ front last, steps = front ++ .write last :: tail

/-- The line rests between any two writes in a row. -/
def Rested (delay : UInt64) (steps : List Step) : Prop :=
  ∀ first between second, Consecutive steps first between second → .pause delay ∈ between

/-- Each rest has a write on either side of it. -/
def Enclosed (steps : List Step) : Prop :=
  ∀ front micros back, steps = front ++ .pause micros :: back →
    (∃ before last, front = before ++ [.write last]) ∧ ∃ next after, back = .write next :: after

section Asked
variable {link : Link σ ε} {state next : σ}

theorem asked_ok (step : Step) (done : link.attempt state step = (.ok (), next))
    (steps : List Step) : asked link (step :: steps) state = step :: asked link steps next := by
  simp only [asked, done]

theorem asked_error (step : Step) {fault : ε} (failed : link.attempt state step = (.error fault, next))
    (steps : List Step) : asked link (step :: steps) state = [step] := by
  simp only [asked, failed]

/-- Next to what was done there is only the step that was refused. -/
theorem asked_eq (link : Link σ ε) (steps : List Step) (state : σ) :
    ∃ refused, asked link steps state = (link.perform steps state).done ++ refused ∧
      ((link.perform steps state).result = .ok () → refused = []) ∧
      ∀ fault, (link.perform steps state).result = .error fault → ∃ step, refused = [step] := by
  induction steps generalizing state with
  | nil => exact ⟨[], rfl, fun _ => rfl, nofun⟩
  | cons step steps ih =>
    match attempted : link.attempt state step with
    | (.ok (), next) =>
      obtain ⟨refused, same, ended⟩ := ih next
      rw [asked_ok step attempted, Link.perform_ok step attempted]
      exact ⟨refused, congrArg _ same, ended⟩
    | (.error fault, next) =>
      rw [asked_error step attempted, Link.perform_error step attempted]
      exact ⟨[step], rfl, nofun, fun _ _ => ⟨step, rfl⟩⟩

theorem asked_gap (delay : UInt64) (pieces : List Bytes) (steps : List Step) :
    asked link (gap delay pieces ++ steps) state = gap delay pieces ++ asked link steps state := by
  cases pieces <;> rfl

/-- A frame is never given up at a rest. -/
theorem asked_spaced (link : Link σ ε) (delay : UInt64) (pieces : List Bytes) (state : σ) :
    ∃ tried tail, asked link (spaced delay pieces ++ [.flush]) state = spaced delay tried ++ tail ∧
      (∀ step ∈ tail, step = .flush) ∧ (tried = [] ↔ pieces = []) := by
  induction pieces generalizing state with
  | nil =>
    refine ⟨[], [.flush], ?_, by simp, Iff.rfl⟩
    change asked link [.flush] state = [.flush]
    match attempted : link.attempt state .flush with
    | (.ok (), _) => rw [asked_ok .flush attempted, asked]
    | (.error _, _) => rw [asked_error .flush attempted]
  | cons piece pieces ih =>
    rw [spaced_cons, List.cons_append, List.append_assoc]
    match attempted : link.attempt state (.write piece) with
    | (.ok (), next) =>
      obtain ⟨tried, tail, same, flushes, filled⟩ := ih next
      have gaps : gap delay pieces = gap delay tried := by
        cases pieces <;> cases tried <;> simp_all [gap]
      refine ⟨piece :: tried, tail, ?_, flushes, by simp⟩
      rw [asked_ok _ attempted, asked_gap, same, gaps, spaced_cons, List.cons_append,
        List.append_assoc]
    | (.error _, _) =>
      refine ⟨[piece], [], ?_, nofun, by simp⟩
      rw [asked_error _ attempted]
      rfl

end Asked

theorem spaced_cons_cons (delay : UInt64) (piece next : Bytes) (pieces : List Bytes) :
    spaced delay (piece :: next :: pieces) =
      .write piece :: .pause delay :: spaced delay (next :: pieces) := rfl

theorem Unwritten.append {front back : List Step} (left : Unwritten front) (right : Unwritten back) :
    Unwritten (front ++ back) := by
  intro data member
  exact (List.mem_append.mp member).elim (left data) (right data)

theorem unwritten_flushes {steps : List Step} (flushes : ∀ step ∈ steps, step = .flush) :
    Unwritten steps := by
  intro data member
  cases flushes _ member

theorem Unwritten.flushes {steps : List Step} (unwritten : Unwritten steps)
    (restless : ∀ micros, .pause micros ∉ steps) : ∀ step ∈ steps, step = .flush := by
  intro step member
  cases step with
  | write data => exact absurd member (unwritten data)
  | pause micros => exact absurd member (restless micros)
  | flush => rfl

section Enclosed

theorem enclosed_flushes {steps : List Step} (flushes : ∀ step ∈ steps, step = .flush) :
    Enclosed steps := by
  rintro front micros back rfl
  cases flushes (.pause micros) (by simp)

theorem Enclosed.append {first second : List Step} (left : Enclosed first)
    (right : Enclosed second) : Enclosed (first ++ second) := by
  intro front micros back same
  obtain ⟨inner, rfl, rest⟩ | ⟨inner, rfl, rest⟩ := List.append_eq_append_iff.mp same
  · obtain ⟨⟨before, last, rfl⟩, behind⟩ := right inner micros back rest
    exact ⟨⟨first ++ before, last, (List.append_assoc ..).symm⟩, behind⟩
  · cases inner with
    | nil =>
      obtain ⟨⟨before, last, none⟩, -⟩ := right [] micros back rest.symm
      simp at none
    | cons step inner =>
      obtain ⟨rfl, rfl⟩ := List.cons.inj rest
      obtain ⟨before, next, after, rfl⟩ := left front micros inner rfl
      exact ⟨before, next, after ++ second, rfl⟩

theorem enclosed_spaced (delay : UInt64) (pieces : List Bytes) : Enclosed (spaced delay pieces) := by
  induction pieces with
  | nil =>
    intro front micros back same
    simp [spaced] at same
  | cons piece pieces ih =>
    intro front micros back same
    cases pieces with
    | nil =>
      have member : Step.pause micros ∈ [.write piece] := by
        change [Step.write piece] = _ at same
        simp [same]
      simp at member
    | cons second pieces =>
      rw [spaced_cons_cons] at same
      -- The rest in question is the first one, or it is among the other pieces.
      match front with
      | [] => cases same
      | [step] =>
        cases same
        exact ⟨⟨[], piece, rfl⟩, second, _, spaced_cons ..⟩
      | step :: other :: front =>
        simp only [List.cons_append, List.cons.injEq] at same
        obtain ⟨rfl, rfl, same⟩ := same
        obtain ⟨⟨before, last, rfl⟩, behind⟩ := ih front micros back same
        exact ⟨⟨.write piece :: .pause delay :: before, last, rfl⟩, behind⟩

variable {steps : List Step} (enclosed : Enclosed steps)
include enclosed

theorem Enclosed.leading {head : List Step} (leading : Leading steps head) :
    ∀ step ∈ head, step = .flush := by
  obtain ⟨unwritten, first, back, rfl⟩ := leading
  apply unwritten.flushes
  intro micros member
  obtain ⟨left, right, rfl⟩ := List.append_of_mem member
  obtain ⟨⟨before, last, rfl⟩, -⟩ :=
    enclosed left micros (right ++ .write first :: back) (by simp)
  exact absurd (by simp) (unwritten last)

theorem Enclosed.closing {tail : List Step} (closing : Closing steps tail) :
    ∀ step ∈ tail, step = .flush := by
  obtain ⟨unwritten, front, last, rfl⟩ := closing
  apply unwritten.flushes
  intro micros member
  obtain ⟨left, right, rfl⟩ := List.append_of_mem member
  obtain ⟨-, next, after, rfl⟩ :=
    enclosed (front ++ .write last :: left) micros right (by simp)
  exact absurd (by simp) (unwritten next)

end Enclosed

section Consecutive

/-- There is one place where the first write of all can be. -/
theorem Unwritten.first_write {head other back rest : List Step} {data next : Bytes}
    (unwritten : Unwritten head) (silent : Unwritten other)
    (same : head ++ .write data :: back = other ++ .write next :: rest) : head = other := by
  obtain ⟨inner, rfl, behind⟩ | ⟨inner, rfl, behind⟩ := List.append_eq_append_iff.mp same
  · cases inner with
    | nil => exact (List.append_nil _).symm
    | cons step inner =>
      obtain ⟨rfl, -⟩ := List.cons.inj behind
      exact absurd (by simp) (silent data)
  · cases inner with
    | nil => exact List.append_nil _
    | cons step inner =>
      obtain ⟨rfl, -⟩ := List.cons.inj behind
      exact absurd (by simp) (unwritten next)

variable {steps between : List Step} {first second : Bytes}

theorem Unwritten.no_row (unwritten : Unwritten steps) :
    ¬ Consecutive steps first between second := by
  rintro ⟨-, front, back, rfl⟩
  exact absurd (by simp) (unwritten first)

/-- The first of the two writes stands in front, or both are behind it. -/
theorem consecutive_cons {step : Step} (row : Consecutive (step :: steps) first between second) :
    (step = .write first ∧ Unwritten between ∧ ∃ back, steps = between ++ .write second :: back) ∨
      Consecutive steps first between second := by
  obtain ⟨apart, front, back, same⟩ := row
  cases front with
  | nil =>
    obtain ⟨begun, rest⟩ := List.cons.inj same
    exact .inl ⟨begun, apart, back, rest⟩
  | cons other front => exact .inr ⟨apart, front, back, (List.cons.inj same).2⟩

/-- Two writes of one frame. -/
theorem consecutive_spaced {delay : UInt64} {pieces : List Bytes} {tail : List Step}
    (unwritten : Unwritten tail)
    (row : Consecutive (spaced delay pieces ++ tail) first between second) :
    between = [.pause delay] := by
  induction pieces with
  | nil => exact absurd row unwritten.no_row
  | cons piece pieces ih =>
    cases pieces with
    | nil =>
      obtain ⟨-, -, back, same⟩ | later := consecutive_cons row
      · change tail = _ at same
        exact absurd (by simp [same]) (unwritten second)
      · exact absurd later unwritten.no_row
    | cons next pieces =>
      rw [spaced_cons_cons, List.cons_append, List.cons_append] at row
      obtain ⟨-, apart, back, same⟩ | later := consecutive_cons row
      · -- Behind the rest comes a write, so it is the second one.
        rw [spaced_cons, List.cons_append] at same
        have rest : Unwritten [.pause delay] := by simp [Unwritten]
        exact (rest.first_write apart same).symm
      · obtain ⟨pause, -⟩ | later := consecutive_cons later
        · cases pause
        · exact ih later

theorem rested_spaced (delay : UInt64) (pieces : List Bytes) {tail : List Step}
    (unwritten : Unwritten tail) : Rested delay (spaced delay pieces ++ tail) := by
  intro first between second row
  rw [consecutive_spaced unwritten row]
  exact List.mem_singleton_self _

/-- From the last write of a frame to the next write there are only flushes. -/
theorem not_rested_spaced_append (delay : UInt64) {pieces : List Bytes}
    {tail head later : List Step} (filled : pieces ≠ []) (flushes : ∀ step ∈ tail, step = .flush)
    (enclosed : Enclosed later) (leading : Leading later head) :
    ¬ Rested delay (spaced delay pieces ++ tail ++ later) := by
  intro rested
  have flushed := enclosed.leading leading
  obtain ⟨apart, first, back, rfl⟩ := leading
  obtain rfl | ⟨begun, last, rfl⟩ := List.eq_nil_or_concat pieces
  · exact absurd rfl filled
  · have row : Consecutive (spaced delay (begun.concat last) ++ tail ++ (head ++ .write first :: back))
        last (tail ++ head) first := by
      refine ⟨(unwritten_flushes flushes).append apart, trailed delay begun, back, ?_⟩
      rw [List.concat_eq_append, spaced_append]
      simp [spaced]
    rcases List.mem_append.mp (rested _ _ _ row) with behind | before
    · cases flushes _ behind
    · cases flushed _ before

theorem rested_unwritten_append_iff {front : List Step} (unwritten : Unwritten front)
    (delay : UInt64) (steps : List Step) :
    Rested delay (front ++ steps) ↔ Rested delay steps := by
  constructor
  · rintro rested first between second ⟨apart, before, back, rfl⟩
    exact rested first between second ⟨apart, front ++ before, back, (List.append_assoc ..).symm⟩
  · intro rested first between second row
    apply rested first between second
    induction front with
    | nil => exact row
    | cons step front ih =>
      obtain ⟨rfl, -⟩ | later := consecutive_cons row
      · exact absurd List.mem_cons_self (unwritten first)
      · exact ih (fun data member => unwritten data (List.mem_cons_of_mem _ member)) later

end Consecutive

section Frames
variable (link : Link σ ε) (pacing : Pacing)

theorem asked_schedule (frame : Bytes) (state : σ) :
    ∃ tried tail, asked link (pacing.schedule frame) state = spaced pacing.delay tried ++ tail ∧
      (∀ step ∈ tail, step = .flush) ∧ (tried = [] ↔ frame = []) := by
  obtain ⟨tried, tail, same, flushes, filled⟩ :=
    asked_spaced link pacing.delay (chunks pacing.chunk frame) state
  refine ⟨tried, tail, same, flushes, filled.trans ?_⟩
  constructor
  · intro none
    rw [← flatten_chunks pacing.chunk frame, none, List.flatten_nil]
  · rintro rfl
    rw [chunks, if_pos rfl]

theorem askedAll_append (earlier later : List Bytes) (state : σ) :
    askedAll link pacing (earlier ++ later) state =
      askedAll link pacing earlier state ++
        askedAll link pacing later (left link pacing earlier state) := by
  induction earlier generalizing state with
  | nil => rfl
  | cons frame earlier ih =>
    rw [List.cons_append, askedAll, askedAll, ih, List.append_assoc]
    rfl

theorem enclosed_askedAll (frames : List Bytes) (state : σ) :
    Enclosed (askedAll link pacing frames state) := by
  induction frames generalizing state with
  | nil => exact enclosed_flushes nofun
  | cons frame frames ih =>
    obtain ⟨tried, tail, same, flushes, -⟩ := asked_schedule link pacing frame state
    rw [askedAll, same]
    exact ((enclosed_spaced pacing.delay tried).append (enclosed_flushes flushes)).append (ih _)

/-- Every frame with a byte in it is at least begun. -/
theorem unwritten_or_leading (frames : List Bytes) (state : σ) :
    frames.countP (· ≠ []) = 0 ∧ Unwritten (askedAll link pacing frames state) ∨
      0 < frames.countP (· ≠ []) ∧ ∃ head, Leading (askedAll link pacing frames state) head := by
  induction frames generalizing state with
  | nil => exact .inl ⟨rfl, nofun⟩
  | cons frame frames ih =>
    obtain ⟨tried, tail, same, flushes, filled⟩ := asked_schedule link pacing frame state
    rw [askedAll, same]
    cases tried with
    | nil =>
      rw [List.countP_cons_of_neg (by simpa using filled.mp rfl)]
      change _ ∧ Unwritten (tail ++ _) ∨ _ ∧ ∃ head, Leading (tail ++ _) head
      obtain ⟨none, unwritten⟩ | ⟨some, head, unwritten, first, back, begun⟩ :=
        ih (link.send pacing frame state).state
      · exact .inl ⟨none, (unwritten_flushes flushes).append unwritten⟩
      · refine .inr ⟨some, tail ++ head, (unwritten_flushes flushes).append unwritten, first, back, ?_⟩
        rw [begun, List.append_assoc]
    | cons piece tried =>
      rw [List.countP_cons_of_pos (by simpa using mt filled.mpr (List.cons_ne_nil _ _)), spaced_cons]
      exact .inr ⟨Nat.succ_pos _, [], nofun, piece, _, rfl⟩

theorem rested_iff (frames : List Bytes) (state : σ) :
    Rested pacing.delay (askedAll link pacing frames state) ↔ frames.countP (· ≠ []) ≤ 1 := by
  induction frames generalizing state with
  | nil =>
    have silent : Unwritten (askedAll link pacing [] state) := nofun
    exact ⟨fun _ => Nat.zero_le 1, fun _ _ _ _ row => absurd row silent.no_row⟩
  | cons frame frames ih =>
    obtain ⟨tried, tail, same, flushes, filled⟩ := asked_schedule link pacing frame state
    have silent := unwritten_flushes flushes
    rw [askedAll, same]
    by_cases empty : frame = []
    · obtain rfl := filled.mpr empty
      rw [List.countP_cons_of_neg (by simpa using empty)]
      exact (rested_unwritten_append_iff silent _ _).trans (ih _)
    · rw [List.countP_cons_of_pos (by simpa using empty)]
      obtain ⟨none, unwritten⟩ | ⟨some, head, leading⟩ :=
        unwritten_or_leading link pacing frames (link.send pacing frame state).state
      · rw [none, List.append_assoc]
        exact ⟨fun _ => Nat.le_refl 1, fun _ => rested_spaced _ _ (silent.append unwritten)⟩
      · have unrested := not_rested_spaced_append pacing.delay (mt filled.mp empty) flushes
          (enclosed_askedAll link pacing frames _) leading
        exact ⟨fun rested => absurd rested unrested, fun few => by omega⟩

/-- Within a frame there is one rest between two writes in a row. From the last write of some frames
to the first write of the frames behind them there is none, whatever became of either, so a row of
sends keeps the gap only if all its bytes are in one frame. -/
theorem rests_between_writes :
    (∀ frame state, (∃ refused, asked link (pacing.schedule frame) state =
        (link.send pacing frame state).done ++ refused ∧
          ((link.send pacing frame state).result = .ok () → refused = []) ∧
          ∀ fault, (link.send pacing frame state).result = .error fault → ∃ step, refused = [step]) ∧
      ∀ first between second,
        Consecutive (asked link (pacing.schedule frame) state) first between second →
          between = [.pause pacing.delay]) ∧
    (∀ earlier later state,
      let before := askedAll link pacing earlier state
      let behind := askedAll link pacing later (left link pacing earlier state)
      askedAll link pacing (earlier ++ later) state = before ++ behind ∧
        ∀ tail head, Closing before tail → Leading behind head →
          ∀ step ∈ tail ++ head, step = .flush) ∧
    ∀ frames state, Rested pacing.delay (askedAll link pacing frames state) ↔
      frames.countP (· ≠ []) ≤ 1 := by
  refine ⟨?_, ?_, rested_iff link pacing⟩
  · intro frame state
    refine ⟨asked_eq link (pacing.schedule frame) state, ?_⟩
    intro first between second row
    obtain ⟨tried, tail, same, flushes, -⟩ := asked_schedule link pacing frame state
    rw [same] at row
    exact consecutive_spaced (unwritten_flushes flushes) row
  · intro earlier later state before behind
    refine ⟨askedAll_append link pacing earlier later state, ?_⟩
    intro tail head closing leading step member
    rcases List.mem_append.mp member with last | first
    · exact (enclosed_askedAll link pacing earlier state).closing closing step last
    · exact (enclosed_askedAll link pacing later _).leading leading step first

end Frames

/-- Two frames of one byte each, and a frame that is sent again because the link refused it. -/
theorem unrested_two_frames :
    let link : Link Nat String := {
      write := fun calls _ => (if calls = 2 then .error "refused" else .ok (), calls + 1)
      flush := fun calls => (.ok (), calls) }
    askedAll link {} [[0x41], [0x42]] 0 = [.write [0x41], .flush, .write [0x42], .flush] ∧
      ¬ Rested ({} : Pacing).delay (askedAll link {} [[0x41], [0x42]] 0) ∧
      askedAll link {} [[0x41], [0x41]] 2 = [.write [0x41], .write [0x41], .flush] ∧
      ¬ Rested ({} : Pacing).delay (askedAll link {} [[0x41], [0x41]] 2) := by
  intro link
  have first : askedAll link {} [[0x41], [0x42]] 0 =
      [.write [0x41], .flush, .write [0x42], .flush] := by cbv
  have again : askedAll link {} [[0x41], [0x41]] 2 = [.write [0x41], .write [0x41], .flush] := by cbv
  refine ⟨first, ?_, again, ?_⟩
  · rw [rested_iff]
    decide
  · rw [rested_iff]
    decide

end Marquee.Proofs.WriteGaps

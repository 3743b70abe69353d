import Marquee.Link.Transport

/-! What a link and the clock see of a frame. The frame is written piece by piece with one rest
between two writes, and flushed at the end. The first fault is the last thing that happens to it,
and the next frame starts from nothing but the link as it was left. -/

namespace Marquee.Proofs.SendTrace

/-- Pieces of one size in a row. Only the last one may be shorter. -/
structure Cut (size : Nat) (frame : Bytes) (pieces : List Bytes) : Prop where
  joined : pieces.flatten = frame
  filled : [] ∉ pieces
  full : ∀ piece ∈ pieces.dropLast, piece.length = size
  bounded : ∀ piece ∈ pieces, piece.length ≤ size

theorem length_of_mem_dropLast_chunks {size : Nat} {bytes piece : Bytes}
    (member : piece ∈ (chunks size bytes).dropLast) : piece.length = max size 1 := by
  fun_induction chunks size bytes with
  | case1 => cases member
  | case2 bytes _ ih =>
    by_cases last : bytes.drop (max size 1) = []
    · rw [last, chunks, if_pos rfl] at member
      cases member
    · have more : chunks size (bytes.drop (max size 1)) ≠ [] := by
        rw [chunks, if_neg last]
        exact List.cons_ne_nil _ _
      rw [List.dropLast_cons_of_ne_nil more] at member
      rcases List.mem_cons.mp member with rfl | later
      · have longer := mt List.drop_eq_nil_of_le last
        rw [List.length_take]
        omega
      · exact ih later

theorem cut_chunks (size : Nat) (frame : Bytes) : Cut (max size 1) frame (chunks size frame) where
  joined := flatten_chunks size frame
  filled := nil_notMem_chunks size frame
  full _ := length_of_mem_dropLast_chunks
  bounded _ := length_le_of_mem_chunks

variable {σ τ ε : Type}

/-- The link takes all pieces in turn, and what it is after the last of them. -/
inductive Written (link : Link σ ε) : σ → List Bytes → σ → Prop
  | none (state : σ) : Written link state [] state
  | next {state between last : σ} {piece : Bytes} {pieces : List Bytes}
      (took : link.write state piece = (.ok (), between)) (more : Written link between pieces last) :
      Written link state (piece :: pieces) last

/-- Writes with one rest between two of them. -/
def spaced (delay : UInt64) (pieces : List Bytes) : List Step :=
  (pieces.map .write).intersperse (.pause delay)

/-- Writes with one rest behind each of them. -/
def trailed (delay : UInt64) (pieces : List Bytes) : List Step :=
  pieces.flatMap fun piece => [.write piece, .pause delay]

/-- How a frame in these pieces can go. Each rule names the answers that decide, and what was done.
-/
inductive Course (link : Link σ ε) (delay : UInt64) (state : σ) (pieces : List Bytes) :
    Sent σ ε → Prop
  | whole {before after : σ} (written : Written link state pieces before)
      (flushed : link.flush before = (.ok (), after)) :
      Course link delay state pieces ⟨spaced delay pieces ++ [.flush], .ok (), after⟩
  | broken {before after : σ} {front back : List Bytes} {piece : Bytes} {fault : ε}
      (split : pieces = front ++ piece :: back) (written : Written link state front before)
      (failed : link.write before piece = (.error fault, after)) :
      Course link delay state pieces ⟨trailed delay front, .error fault, after⟩
  | unflushed {before after : σ} {fault : ε} (written : Written link state pieces before)
      (failed : link.flush before = (.error fault, after)) :
      Course link delay state pieces ⟨spaced delay pieces, .error fault, after⟩

theorem spaced_append (delay : UInt64) (front : List Bytes) (piece : Bytes) (back : List Bytes) :
    spaced delay (front ++ piece :: back) = trailed delay front ++ spaced delay (piece :: back) := by
  induction front with
  | nil => rfl
  | cons first front ih =>
    cases front with
    | nil => rfl
    | cons second front =>
      rw [List.cons_append] at ih
      simp only [trailed, List.flatMap_cons, List.append_assoc] at ih ⊢
      rw [← ih]
      rfl

/-- What stands between a write and these pieces. -/
def gap (delay : UInt64) : List Bytes → List Step
  | [] => []
  | _ :: _ => [.pause delay]

theorem spaced_cons (delay : UInt64) (piece : Bytes) (pieces : List Bytes) :
    spaced delay (piece :: pieces) = .write piece :: (gap delay pieces ++ spaced delay pieces) := by
  cases pieces <;> rfl

section Link
variable {link : Link σ ε} {state next before after : σ} {piece : Bytes} {pieces : List Bytes}
  (delay : UInt64)

/-- Rests are nothing to a link. -/
theorem perform_gap (pieces : List Bytes) (steps : List Step) :
    link.perform (gap delay pieces ++ steps) state =
      { link.perform steps state with
        done := gap delay pieces ++ (link.perform steps state).done } := by
  cases pieces <;> rfl

theorem perform_piece (took : link.write state piece = (.ok (), next)) (steps : List Step) :
    let sent := link.perform (spaced delay pieces ++ steps) next
    link.perform (spaced delay (piece :: pieces) ++ steps) state =
      { sent with done := .write piece :: (gap delay pieces ++ sent.done) } := by
  rw [spaced_cons, List.cons_append, Link.perform_ok (.write piece) took, List.append_assoc,
    perform_gap]

theorem perform_spaced (written : Written link state pieces before) (steps : List Step) :
    link.perform (spaced delay pieces ++ steps) state =
      { link.perform steps before with
        done := spaced delay pieces ++ (link.perform steps before).done } := by
  induction written with
  | none => rfl
  | next took more ih =>
    rw [perform_piece delay took, ih, spaced_cons]
    simp only [List.cons_append, List.append_assoc]

theorem perform_trailed (written : Written link state pieces before) (steps : List Step) :
    link.perform (trailed delay pieces ++ steps) state =
      { link.perform steps before with
        done := trailed delay pieces ++ (link.perform steps before).done } := by
  induction written with
  | none => rfl
  | @next state _ _ piece pieces took more ih =>
    change link.perform (.write piece :: .pause delay :: (trailed delay pieces ++ steps)) state = _
    rw [Link.perform_ok (.write piece) took, Link.perform_ok (.pause delay) rfl, ih]
    rfl

theorem perform_of_course {sent : Sent σ ε} (course : Course link delay state pieces sent) :
    link.perform (spaced delay pieces ++ [.flush]) state = sent := by
  cases course with
  | whole written flushed =>
    rw [perform_spaced delay written, Link.perform_ok .flush flushed]
    rfl
  | broken split written failed =>
    rw [split, spaced_append, spaced_cons, List.append_assoc, perform_trailed delay written,
      List.cons_append, Link.perform_error (.write _) failed, List.append_nil]
  | unflushed written failed =>
    rw [perform_spaced delay written, Link.perform_error .flush failed, List.append_nil]

theorem written_or_broken (link : Link σ ε) (state : σ) (pieces : List Bytes) :
    (∃ before, Written link state pieces before) ∨
      ∃ front piece back before fault after, pieces = front ++ piece :: back ∧
        Written link state front before ∧ link.write before piece = (.error fault, after) := by
  induction pieces generalizing state with
  | nil => exact .inl ⟨state, .none state⟩
  | cons piece pieces ih =>
    match answer : link.write state piece with
    | (.error fault, after) =>
      exact .inr ⟨[], piece, pieces, state, fault, after, rfl, .none state, answer⟩
    | (.ok (), between) =>
      obtain ⟨before, written⟩ | ⟨front, piece', back, before, fault, after, rfl, written, failed⟩ :=
        ih between
      · exact .inl ⟨before, .next answer written⟩
      · exact .inr ⟨piece :: front, piece', back, before, fault, after, rfl, .next answer written,
          failed⟩

theorem course_total (link : Link σ ε) (state : σ) (pieces : List Bytes) :
    ∃ sent, Course link delay state pieces sent := by
  obtain ⟨before, written⟩ | ⟨_, _, _, _, _, _, split, written, failed⟩ :=
    written_or_broken link state pieces
  · match answer : link.flush before with
    | (.ok (), after) => exact ⟨_, .whole written answer⟩
    | (.error fault, after) => exact ⟨_, .unflushed written answer⟩
  · exact ⟨_, .broken split written failed⟩

/-- There is a course for every link, so the one that sending takes is the only one. -/
theorem send_eq_iff (link : Link σ ε) (pacing : Pacing) (frame : Bytes) (state : σ)
    (sent : Sent σ ε) :
    link.send pacing frame state = sent ↔
      Course link pacing.delay state (chunks pacing.chunk frame) sent := by
  refine ⟨?_, perform_of_course pacing.delay⟩
  rintro rfl
  obtain ⟨sent, course⟩ := course_total pacing.delay link state (chunks pacing.chunk frame)
  rw [show link.send pacing frame state = sent from perform_of_course pacing.delay course]
  exact course

end Link

/-- What the link says to the writes and to the flush, up to its first fault. -/
def answers (link : Link σ ε) : List Bytes → σ → List (Except ε Unit)
  | [], state => [(link.flush state).1]
  | piece :: pieces, state =>
    match link.write state piece with
    | (.ok (), next) => .ok () :: answers link pieces next
    | (.error fault, _) => [.error fault]

/-- Two links that give the same answers are told the same, whatever else they are. -/
theorem perform_congr {link : Link σ ε} {other : Link τ ε} (delay : UInt64) {pieces : List Bytes}
    {state : σ} {state' : τ} (same : answers link pieces state = answers other pieces state') :
    let sent := link.perform (spaced delay pieces ++ [.flush]) state
    let sent' := other.perform (spaced delay pieces ++ [.flush]) state'
    sent.done = sent'.done ∧ sent.result = sent'.result := by
  induction pieces generalizing state state' with
  | nil =>
    have only : spaced delay [] ++ [.flush] = [Step.flush] := rfl
    rw [only]
    match first : link.flush state, second : other.flush state' with
    | (.ok (), after), (.ok (), after') =>
      rw [Link.perform_ok .flush first, Link.perform_ok .flush second]
      exact ⟨rfl, rfl⟩
    | (.error fault, after), (.error fault', after') =>
      simp only [answers, first, second, List.cons.injEq, and_true, Except.error.injEq] at same
      rw [Link.perform_error .flush first, Link.perform_error .flush second, same]
      exact ⟨rfl, rfl⟩
    | (.ok (), next), (.error fault, after) | (.error fault, after), (.ok (), next) =>
      simp [answers, first, second] at same
  | cons piece pieces ih =>
    match first : link.write state piece, second : other.write state' piece with
    | (.ok (), next), (.ok (), next') =>
      simp only [answers, first, second, List.cons.injEq, true_and] at same
      obtain ⟨done, result⟩ := ih same
      rw [perform_piece delay first, perform_piece delay second]
      exact ⟨by rw [done], result⟩
    | (.error fault, after), (.error fault', after') =>
      simp only [answers, first, second, List.cons.injEq, and_true, Except.error.injEq] at same
      rw [spaced_cons, List.cons_append, Link.perform_error (.write piece) first,
        Link.perform_error (.write piece) second, same]
      exact ⟨rfl, rfl⟩
    | (.ok (), next), (.error fault, after) | (.error fault, after), (.ok (), next) =>
      simp [answers, first, second] at same

/-- How the link is left after the frames in turn. -/
def left (link : Link σ ε) (pacing : Pacing) (frames : List Bytes) (state : σ) : σ :=
  frames.foldl (fun state frame => (link.send pacing frame state).state) state

theorem sendAll_append (link : Link σ ε) (pacing : Pacing) (earlier later : List Bytes) (state : σ) :
    link.sendAll pacing (earlier ++ later) state =
      link.sendAll pacing earlier state ++
        link.sendAll pacing later (left link pacing earlier state) := by
  induction earlier generalizing state with
  | nil => rfl
  | cons frame earlier ih =>
    simp only [List.cons_append, Link.sendAll, ih]
    rfl

theorem length_sendAll (link : Link σ ε) (pacing : Pacing) (frames : List Bytes) (state : σ) :
    (link.sendAll pacing frames state).length = frames.length := by
  induction frames generalizing state with
  | nil => rfl
  | cons frame frames ih => simp only [Link.sendAll, List.length_cons, ih]

theorem getElem?_sendAll (link : Link σ ε) (pacing : Pacing) (earlier : List Bytes) (frame : Bytes)
    (later : List Bytes) (state : σ) :
    (link.sendAll pacing (earlier ++ frame :: later) state)[earlier.length]? =
      some (link.send pacing frame (left link pacing earlier state)) := by
  rw [sendAll_append, List.getElem?_append_right (Nat.le_of_eq (length_sendAll ..)), length_sendAll,
    Nat.sub_self]
  rfl

/-- One send goes by the answers it gets, a fault at any piece included, and there is no other way.
In a row of sends each goes by its own frame and by the link as it was left, and of that only the
answers count. -/
theorem send_trace (link : Link σ ε) (pacing : Pacing) :
    (∀ frame state, Cut (max pacing.chunk 1) frame (chunks pacing.chunk frame) ∧
      ∀ sent, link.send pacing frame state = sent ↔
        Course link pacing.delay state (chunks pacing.chunk frame) sent) ∧
    (∀ earlier frame later state,
      (link.sendAll pacing (earlier ++ frame :: later) state)[earlier.length]? =
        some (link.send pacing frame (left link pacing earlier state))) ∧
    ∀ (τ : Type) (other : Link τ ε) frame state state',
      answers link (chunks pacing.chunk frame) state =
        answers other (chunks pacing.chunk frame) state' →
      (link.send pacing frame state).done = (other.send pacing frame state').done ∧
        (link.send pacing frame state).result = (other.send pacing frame state').result := by
  refine ⟨?_, getElem?_sendAll link pacing, ?_⟩
  · intro frame state
    exact ⟨cut_chunks pacing.chunk frame, send_eq_iff link pacing frame state⟩
  · intro τ other frame state state' same
    exact perform_congr pacing.delay same

/-- A link that is stuck at its third call, and one that keeps two pieces and no more. The first
frame goes the same on both. The second one goes through on the former without a trace of it. -/
theorem send_trace_stuck :
    let link : Link Nat String := {
      write := fun calls _ => (if calls = 2 then .error "stuck" else .ok (), calls + 1)
      flush := fun calls => (.ok (), calls) }
    let other : Link (List Bytes) String := {
      write := fun kept piece =>
        if kept.length = 2 then (.error "stuck", kept) else (.ok (), piece :: kept)
      flush := fun kept => (.error "kept", kept) }
    let pacing : Pacing := { delay := 250, chunk := 2 }
    let first : Bytes := [1, 2, 3, 4, 5]
    let done : List Step := [.write [1, 2], .pause 250, .write [3, 4], .pause 250]
    link.send pacing first 0 = ⟨done, .error "stuck", 3⟩ ∧
      answers link (chunks 2 first) 0 = answers other (chunks 2 first) [] ∧
      (other.send pacing first []).done = done ∧
      (other.send pacing first []).result = .error "stuck" ∧
      (link.sendAll pacing [first, [6, 7, 8]] 0)[1]? =
        some ⟨[.write [6, 7], .pause 250, .write [8], .flush], .ok (), 5⟩ := by
  intro link other pacing first done
  obtain ⟨single, row, alike⟩ := send_trace link pacing
  have pieces : chunks 2 first = [[1, 2], [3, 4], [5]] := by cbv
  have later : chunks 2 [6, 7, 8] = [[6, 7], [8]] := by cbv
  have same : answers link (chunks 2 first) 0 = answers other (chunks 2 first) [] := by
    rw [pieces]
    rfl
  have stuck : link.send pacing first 0 = ⟨done, .error "stuck", 3⟩ := by
    refine ((single first 0).2 _).mpr ?_
    exact .broken pieces (.next rfl (.next rfl (.none 2))) rfl
  obtain ⟨told, ended⟩ := alike _ other first 0 [] same
  rw [stuck] at told ended
  refine ⟨stuck, same, told.symm, ended.symm, ?_⟩
  have behind : left link pacing [first] 0 = 3 := congrArg Sent.state stuck
  refine (row [first] [6, 7, 8] [] 0).trans (congrArg some (((single _ _).2 _).mpr ?_))
  rw [behind, later]
  exact .whole (.next rfl (.next rfl (.none 5))) rfl

end Marquee.Proofs.SendTrace

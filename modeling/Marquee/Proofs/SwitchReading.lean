import Marquee.Invocation.Arguments
import Marquee.Proofs.Checks

/-! Which switches a command line sets. Its words may come in any order, with data among them and an
option that waits for its value in front of them. A switch is set just if the word for it stands
somewhere before the first two dashes. -/

namespace Marquee.Proofs.SwitchReading
open Arguments Checks

def called : Switch → String
  | .raw => "raw"
  | .runSequence => "runseq"
  | .clear => "clear"
  | .reset => "reset"
  | .dump => "dump"

/-- The word for a switch. -/
def spelled (switch : Switch) : String := "--" ++ called switch

def isSet (invocation : Invocation) : Switch → Bool
  | .raw => invocation.raw
  | .runSequence => invocation.runSequence
  | .clear => invocation.clear
  | .reset => invocation.reset
  | .dump => invocation.dump

/-- What is read sets these switches and no others. -/
structure Sets (these : Switch → Prop) (before after : Reading) : Prop where
  switches : ∀ switch, isSet after.invocation switch ↔ isSet before.invocation switch ∨ these switch
  plain : after.plain = before.plain

abbrev Kept := Sets fun _ => False

/-- What a word does to a reading. -/
inductive Taken (word : String) (before after : Reading) : Prop
  | datum (plain : before.plain = true) (kept : Kept before after) : Taken word before after
  | dashes (early : before.plain = false) (dashes : word = "--")
      (same : after = { before with plain := true }) : Taken word before after
  | other (early : before.plain = false) (other : word ≠ "--")
      (sets : Sets (word = spelled ·) before after) : Taken word before after

section Words
variable {switch : Switch}

theorem ofLong?_eq_switch_iff {name : String} :
    ofLong? name = some (.switch switch) ↔ name = called switch := by
  constructor
  · intro known
    unfold ofLong? at known
    split at known <;> cases known <;> rfl
  · intro same
    subst same
    cases switch <;> rfl

theorem ofShort?_ne_switch {letter : Char} : ofShort? letter ≠ some (.switch switch) := by
  unfold ofShort?
  split <;> exact nofun

theorem toList_spelled (switch : Switch) :
    (spelled switch).toList = '-' :: '-' :: (called switch).toList := by
  rw [spelled, String.toList_append]
  rfl

end Words

section Sets
variable {these : Switch → Prop} {before after : Reading}

theorem Sets.congr {others : Switch → Prop} (sets : Sets these before after)
    (same : ∀ switch, these switch ↔ others switch) : Sets others before after where
  switches switch := by rw [sets.switches, same]
  plain := sets.plain

theorem kept_of_eq (same : ∀ switch, isSet after.invocation switch = isSet before.invocation switch)
    (plain : after.plain = before.plain) : Kept before after where
  switches switch := by rw [same, or_false]
  plain := plain

theorem Kept.sets (kept : Kept before after) (none : ∀ switch, ¬ these switch) :
    Sets these before after :=
  kept.congr fun switch => iff_of_false id (none switch)

theorem Kept.trans {middle : Reading} (first : Kept before middle) (second : Sets these middle after) :
    Sets these before after where
  switches switch := by rw [second.switches, first.switches, or_false]
  plain := second.plain.trans first.plain

theorem isSet_turnOn (invocation : Invocation) (switch other : Switch) :
    isSet (turnOn invocation switch) other ↔ isSet invocation other ∨ switch = other := by
  cases switch <;> cases other <;> simp [isSet, turnOn]

/-- Options are none of the switches. -/
theorem isSet_assign {invocation assigned : Invocation} {value : String} {parameter : Parameter}
    (given : assign invocation value parameter = .ok assigned) (switch : Switch) :
    isSet assigned switch = isSet invocation switch := by
  have same : assigned.raw = invocation.raw ∧ assigned.runSequence = invocation.runSequence ∧
      assigned.clear = invocation.clear ∧ assigned.reset = invocation.reset ∧
      assigned.dump = invocation.dump := by
    cases parameter with
    | label | address | signType =>
      cases given
      exact ⟨rfl, rfl, rfl, rfl, rfl⟩
    | mode | delay | config =>
      simp only [assign] at given
      split at given <;> cases given
      exact ⟨rfl, rfl, rfl, rfl, rfl⟩
  obtain ⟨raw, runSequence, clear, reset, dump⟩ := same
  cases switch <;> assumption

end Sets

section Operations
variable {before after : Reading}

theorem kept_once {name : Name} (noted : before.once name = .ok after) : Kept before after := by
  unfold Reading.once at noted
  split at noted <;> cases noted
  exact kept_of_eq (fun _ => rfl) rfl

theorem kept_receive {parameter : Parameter} {value : String}
    (received : before.receive parameter value = .ok after) : Kept before after := by
  obtain ⟨noted, first, rest⟩ := bind_eq_ok_iff.mp received
  obtain ⟨assigned, given, same⟩ := bind_eq_ok_iff.mp rest
  cases same
  apply (kept_once first).trans
  exact kept_of_eq (isSet_assign given) rfl

theorem kept_settle (settled : before.settle = .ok after) : Kept before after := by
  unfold Reading.settle at settled
  split at settled
  next =>
    cases settled
    exact kept_of_eq (fun _ => rfl) rfl
  next => cases settled
  next =>
    obtain ⟨switches, plain⟩ := kept_receive settled
    exact ⟨switches, plain⟩

theorem kept_given {parameter : Parameter} {value : String}
    (given : (do (← before.settle).receive parameter value) = .ok after) : Kept before after := by
  obtain ⟨settled, first, second⟩ := bind_eq_ok_iff.mp given
  exact (kept_settle first).trans (kept_receive second)

theorem kept_datum {word : String} (taken : before.datum word = .ok after) : Kept before after := by
  obtain ⟨settled, first, same⟩ := bind_eq_ok_iff.mp taken
  cases same
  apply (kept_settle first).trans
  refine kept_of_eq ?_ rfl
  intro switch
  cases switch <;> rfl

theorem sets_name {name : Name} (named : before.name name = .ok after) :
    Sets (name = .switch ·) before after := by
  obtain ⟨settled, first, rest⟩ := bind_eq_ok_iff.mp named
  apply (kept_settle first).trans
  cases name with
  | switch switch =>
    obtain ⟨noted, second, same⟩ := bind_eq_ok_iff.mp rest
    cases same
    apply (kept_once second).trans
    refine ⟨?_, rfl⟩
    intro other
    rw [isSet_turnOn, Name.switch.injEq]
  | parameter parameter =>
    cases rest
    refine Kept.sets ?_ (fun _ => nofun)
    exact kept_of_eq (fun _ => rfl) rfl
  | verbose =>
    cases rest
    refine Kept.sets (kept_of_eq ?_ rfl) (fun _ => nofun)
    intro other
    cases other <;> rfl
  | help => cases rest
  | version => cases rest

theorem sets_long {word : List Char} (read : before.long word = .ok after) :
    Sets (fun switch => word = (called switch).toList) before after := by
  unfold Reading.long at read
  dsimp only at read
  split at read
  next => cases read
  next name known whole =>
    -- With no equals sign in it, all of the word is a name.
    have named : word.takeWhile (· != '=') = word := by
      have split := List.takeWhile_append_dropWhile (p := (· != '=')) (l := word)
      rwa [whole, List.append_nil] at split
    rw [named] at known
    refine (sets_name read).congr ?_
    intro switch
    rw [← Option.some_inj, ← known, ofLong?_eq_switch_iff, ← String.toList_inj, String.toList_ofList]
  next parameter value known rest =>
    apply Kept.sets (kept_given read)
    intro switch same
    rw [same] at rest
    cases switch <;> cases rest
  next => cases read

theorem kept_short {letters : List Char} (read : before.short letters = .ok after) :
    Kept before after := by
  induction letters generalizing before with
  | nil =>
    cases read
    exact kept_of_eq (fun _ => rfl) rfl
  | cons letter letters ih =>
    have unswitched {name : Name} {next : Reading} (known : ofShort? letter = some name)
        (named : before.name name = .ok next) : Kept before next := by
      refine (sets_name named).congr fun switch => iff_of_false ?_ id
      intro same
      exact ofShort?_ne_switch (same ▸ known)
    unfold Reading.short at read
    split at read
    next => cases read
    next parameter known =>
      split at read
      · exact unswitched known read
      · exact kept_given read
    next name _ known =>
      obtain ⟨named, first, rest⟩ := bind_eq_ok_iff.mp read
      exact (unswitched known first).trans (ih rest)

theorem taken_word {word : String} (read : before.word word = .ok after) :
    Taken word before after := by
  unfold Reading.word at read
  split at read
  next plain => exact .datum plain (kept_datum read)
  next early =>
    rw [Bool.not_eq_true] at early
    -- The word for a switch starts with two dashes, and something comes behind them.
    have unlike (kept : Kept before after) (unspelled : ∀ rest, word.toList ≠ '-' :: '-' :: rest) :
        Taken word before after := by
      refine .other early ?_ (kept.sets ?_)
      · intro same
        exact unspelled [] (congrArg String.toList same)
      · intro switch same
        exact unspelled _ (same ▸ toList_spelled switch)
    split at read
    next dashes =>
      cases read
      exact .dashes early (String.toList_inj.mp dashes) rfl
    next rest more dashes =>
      refine .other early ?_ ((sets_long read).congr ?_)
      · intro same
        rw [same] at dashes
        cases dashes
        exact more rfl
      · intro switch
        rw [← String.toList_inj, dashes, toList_spelled, List.cons_inj_right, List.cons_inj_right]
    next letter rest _ single dash =>
      refine unlike (kept_short read) ?_
      intro more same
      rw [dash] at same
      cases same
      exact single rfl
    next unspelled _ =>
      cases read
      exact unlike (kept_of_eq (fun _ => rfl) rfl) unspelled
    next unspelled _ _ => exact unlike (kept_datum read) unspelled

end Operations

/-- From any point on, a switch is set before it or by its word, and behind two dashes there are no
such words. -/
theorem isSet_foldlM {words : List String} {before after : Reading}
    (read : words.foldlM Reading.word before = .ok after) (switch : Switch) :
    isSet after.invocation switch ↔
      isSet before.invocation switch ∨
        before.plain = false ∧ spelled switch ∈ words.takeWhile (· != "--") := by
  induction words generalizing before with
  | nil =>
    cases read
    simp
  | cons word words ih =>
    rw [List.foldlM_cons] at read
    obtain ⟨next, first, rest⟩ := bind_eq_ok_iff.mp read
    rw [ih rest]
    cases taken_word first with
    | datum plain kept => simp [kept.switches, kept.plain, plain]
    | dashes early dashes same => simp [dashes, same]
    | other early other sets =>
      rw [List.takeWhile_cons, if_pos (bne_iff_ne.mpr other), List.mem_cons, sets.switches, sets.plain,
        or_assoc]
      simp only [early, true_and, eq_comm]

/-- A reading ends well if its last option has a value of the right kind and no data is missing. -/
theorem finish_eq_ok_iff {reading : Reading} {invocation : Invocation} :
    reading.finish = .ok invocation ↔
      ∃ settled, reading.settle = .ok settled ∧ settled.invocation = invocation ∧
        (invocation.needsData → invocation.data ≠ []) := by
  rw [Reading.finish, bind_eq_ok_iff]
  refine exists_congr fun settled => and_congr_right' ?_
  by_cases missing : settled.invocation.data.isEmpty && settled.invocation.needsData
  · refine iff_of_false ?_ ?_
    · simp only [missing, if_true]
      exact nofun
    · intro ⟨same, needed⟩
      subst same
      rw [Bool.and_eq_true, List.isEmpty_iff] at missing
      exact needed missing.2 missing.1
  · simp only [missing]
    constructor
    · intro same
      cases same
      refine ⟨rfl, fun needs empty => missing ?_⟩
      rw [Bool.and_eq_true, List.isEmpty_iff]
      exact ⟨empty, needs⟩
    · intro ⟨same, _⟩
      subst same
      rfl

/-- A switch is set just if its word stands in front of the first two dashes. -/
theorem isSet_iff {words : List String} {invocation : Invocation}
    (parsed : Invocation.parse words = .ok invocation) (switch : Switch) :
    isSet invocation switch ↔ spelled switch ∈ words.takeWhile (· != "--") := by
  obtain ⟨reading, read, finished⟩ := bind_eq_ok_iff.mp parsed
  obtain ⟨settled, last, same, -⟩ := finish_eq_ok_iff.mp finished
  have unset : isSet ({} : Invocation) switch = false := by
    cases switch <;> rfl
  rw [← same, (kept_settle last).switches, or_false, isSet_foldlM read]
  simp [unset]

end Marquee.Proofs.SwitchReading

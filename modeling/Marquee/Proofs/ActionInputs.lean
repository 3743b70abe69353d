import Marquee.Proofs.FirstFault

/-! What an action depends on. The first switch that is set picks the action, and what comes of it
goes by the parts of the command line that this action uses. Nobody looks at the others. -/

namespace Marquee.Proofs.ActionInputs
open Message (Charset)
open Checks FirstFault

/-- What a command line asks for. Each rule says that no switch is set that would have won. -/
inductive Chosen (invocation : Invocation) : Action → Prop
  | clear (set : invocation.clear) : Chosen invocation .clear
  | resumeSequence (kept : ¬ invocation.clear) (set : invocation.runSequence) :
      Chosen invocation .resumeSequence
  | softReset (kept : ¬ invocation.clear) (held : ¬ invocation.runSequence) (set : invocation.reset) :
      Chosen invocation .softReset
  | raw (kept : ¬ invocation.clear) (held : ¬ invocation.runSequence) (running : ¬ invocation.reset)
      (set : invocation.raw) : Chosen invocation .raw
  | encode (kept : ¬ invocation.clear) (held : ¬ invocation.runSequence)
      (running : ¬ invocation.reset) (encoded : ¬ invocation.raw) :
      Chosen invocation (.encode invocation.content)

/-- What an action could look at. -/
inductive Part
  | label
  | data
  | charset

def uses : Action → List Part
  | .clear | .resumeSequence | .softReset => []
  | .raw | .encode .memory | .encode (.setting _) => [.data]
  | .encode .string => [.label, .data]
  | .encode .text => [.label, .data, .charset]

/-- The same in these parts, and in the others anything at all. -/
structure Agree (parts : List Part) (one other : Invocation) (charset charset' : Charset) : Prop where
  label : .label ∈ parts → one.label = other.label
  data : .data ∈ parts → one.data = other.data
  charset : .charset ∈ parts → charset = charset'

/-- The command line is about a file with a label. -/
structure Labelled (invocation : Invocation) : Prop where
  unswitched : ¬ (invocation.clear ∨ invocation.runSequence ∨ invocation.reset ∨ invocation.raw)
  filed : invocation.content = .text ∨ invocation.content = .string

section Choice
variable {invocation : Invocation} {action : Action}

theorem action_eq_iff : invocation.action = action ↔ Chosen invocation action := by
  constructor
  · intro same
    subst same
    unfold Invocation.action
    split
    next set => exact .clear set
    next kept =>
      split
      next set => exact .resumeSequence kept set
      next held =>
        split
        next set => exact .softReset kept held set
        next running =>
          split
          next set => exact .raw kept held running set
          next encoded => exact .encode kept held running encoded
  · intro chosen
    unfold Invocation.action
    cases chosen with
    | clear set => rw [if_pos set]
    | resumeSequence kept set => rw [if_neg kept, if_pos set]
    | softReset kept held set => rw [if_neg kept, if_neg held, if_pos set]
    | raw kept held running set => rw [if_neg kept, if_neg held, if_neg running, if_pos set]
    | encode kept held running encoded =>
      rw [if_neg kept, if_neg held, if_neg running, if_neg encoded]

theorem labelled_iff :
    Labelled invocation ↔
      invocation.action = .encode .text ∨ invocation.action = .encode .string := by
  rw [action_eq_iff, action_eq_iff]
  constructor
  · intro ⟨unswitched, filed⟩
    simp only [not_or] at unswitched
    obtain ⟨kept, held, running, encoded⟩ := unswitched
    have chosen := Chosen.encode kept held running encoded
    rcases filed with text | string
    · exact .inl (text ▸ chosen)
    · exact .inr (string ▸ chosen)
  · intro filed
    have encoding {content : Content} (chosen : Chosen invocation (.encode content)) :
        ¬ (invocation.clear ∨ invocation.runSequence ∨ invocation.reset ∨ invocation.raw) ∧
          invocation.content = content := by
      cases chosen with
      | encode kept held running encoded =>
        exact ⟨not_or.mpr ⟨kept, not_or.mpr ⟨held, not_or.mpr ⟨running, encoded⟩⟩⟩, rfl⟩
    rcases filed with text | string
    · exact ⟨(encoding text).1, .inl (encoding text).2⟩
    · exact ⟨(encoding string).1, .inr (encoding string).2⟩

theorem label_mem_uses_iff : .label ∈ uses invocation.action ↔ Labelled invocation := by
  rw [labelled_iff]
  cases invocation.action with
  | clear | resumeSequence | softReset | raw => simp [uses]
  | encode content => cases content <;> simp [uses]

end Choice

section Outcome
variable {one other invocation : Invocation} {charset charset' : Charset}

theorem command_congr {action : Action} (agree : Agree (uses action) one other charset charset') :
    action.command one.label one.data charset = action.command other.label other.data charset' := by
  cases action with
  | clear | resumeSequence | softReset => rfl
  | raw => rw [Action.command, Action.command, agree.data (by simp [uses])]
  | encode content =>
    cases content with
    | text =>
      rw [agree.label (by simp [uses]), agree.data (by simp [uses]), agree.charset (by simp [uses])]
    | string =>
      rw [Action.command, Action.command, agree.label (by simp [uses]), agree.data (by simp [uses])]
    | memory | setting _ =>
      rw [Action.command, Action.command, agree.data (by simp [uses])]

theorem payload_of_chosen {action : Action} {command : Command} (chosen : Chosen invocation action)
    (built : action.command invocation.label invocation.data charset = .ok command) :
    (invocation.command charset).map Command.payload = .ok command.payload := by
  rw [Invocation.command, action_eq_iff.mpr chosen, built]
  rfl

theorem command_of_agree (alike : one.action = other.action)
    (agree : Agree (uses one.action) one other charset charset') :
    one.command charset = other.command charset' := by
  rw [Invocation.command, Invocation.command, ← alike]
  exact command_congr agree

theorem command_relabelled (unlabelled : ¬ Labelled invocation) (charset : Charset)
    (label : String) :
    ({ invocation with label } : Invocation).command charset = invocation.command charset := by
  apply Eq.symm
  refine command_of_agree rfl ⟨?_, fun _ => rfl, fun _ => rfl⟩
  intro used
  exact absurd (label_mem_uses_iff.mp used) unlabelled

theorem command_valid (labelled : Labelled invocation) (charset : Charset) {file : Label}
    (read : Label.parse invocation.label = .ok file) :
    ∃ command, invocation.command charset = .ok command := by
  have passed :
      (Label.parse invocation.label).mapError (BuildFault.label invocation.label) = .ok file :=
    mapError_eq_ok_iff.mpr read
  rcases labelled_iff.mp labelled with text | string
  · rw [Invocation.command, text]
    exact ⟨_, bind_eq_ok_iff.mpr ⟨file, passed, rfl⟩⟩
  · rw [Invocation.command, string]
    exact ⟨_, bind_eq_ok_iff.mpr ⟨file, passed, rfl⟩⟩

theorem command_invalid_iff {fault : Fault} (wrong : Label.parse invocation.label = .error fault) :
    invocation.command charset = .error (.label invocation.label fault) ↔ Labelled invocation := by
  rw [Invocation.command, command_eq_error_iff, labelled_iff]
  generalize invocation.action = action
  constructor
  · intro unbuildable
    cases unbuildable with
    | label labelled _ =>
      rcases labelled with rfl | rfl
      · exact .inl rfl
      · exact .inr rfl
  · intro labelled
    rcases labelled with rfl | rfl
    · exact .label (.inl rfl) wrong
    · exact .label (.inr rfl) wrong

/-- A label spoils a command line that another label would do for. -/
theorem spoiled_iff {fault : Fault} (wrong : Label.parse invocation.label = .error fault) :
    ((∃ reason, invocation.command charset = .error reason) ∧
      ∃ label command, ({ invocation with label } : Invocation).command charset = .ok command) ↔
        Labelled invocation := by
  constructor
  · intro ⟨⟨reason, failed⟩, label, command, built⟩
    by_contra unlabelled
    rw [command_relabelled unlabelled, failed] at built
    cases built
  · intro labelled
    let corrected : Invocation := { invocation with label := "A" }
    have valid : Label.parse "A" = .ok ⟨'A'.toUInt8, by decide⟩ := rfl
    have kept : Labelled corrected := ⟨labelled.unswitched, labelled.filed⟩
    exact ⟨⟨_, (command_invalid_iff wrong).mpr labelled⟩, "A", command_valid kept charset valid⟩

end Outcome

/-- Every command line asks for one action. Three of the actions always come to the same payload,
and what comes of the others goes by the parts of the command line that they use, be it a command or
a fault. A label that cannot be one is noticed just where the message or the string of a file is
written, and everywhere else one label is as good as another. -/
theorem own_inputs_decide :
    (∀ invocation, ∃! action, Chosen invocation action) ∧
    (∀ invocation charset,
      let payload := (invocation.command charset).map Command.payload
      (Chosen invocation .clear → payload = .ok (utf8 "E$")) ∧
      (Chosen invocation .resumeSequence → payload = .ok (utf8 "A0")) ∧
      (Chosen invocation .softReset → payload = .ok (utf8 "E,"))) ∧
    (∀ action one other charset charset', Chosen one action → Chosen other action →
      Agree (uses action) one other charset charset' →
        one.command charset = other.command charset') ∧
    (∀ invocation charset fault, Label.parse invocation.label = .error fault →
      (invocation.command charset = .error (.label invocation.label fault) ↔ Labelled invocation) ∧
      (((∃ reason, invocation.command charset = .error reason) ∧
        ∃ label command, ({ invocation with label } : Invocation).command charset = .ok command) ↔
          Labelled invocation)) ∧
    ∀ invocation charset label, ¬ Labelled invocation →
      ({ invocation with label } : Invocation).command charset = invocation.command charset := by
  refine ⟨?_, ?_, ?_, ?_, ?_⟩
  · intro invocation
    refine ⟨invocation.action, action_eq_iff.mp rfl, ?_⟩
    intro other chosen
    exact (action_eq_iff.mpr chosen).symm
  · intro invocation charset payload
    exact ⟨fun chosen => payload_of_chosen chosen rfl, fun chosen => payload_of_chosen chosen rfl,
      fun chosen => payload_of_chosen chosen rfl⟩
  · intro action one other charset charset' chosen chosen' agree
    obtain rfl := action_eq_iff.mpr chosen
    exact command_of_agree (action_eq_iff.mpr chosen').symm agree
  · intro invocation charset fault wrong
    exact ⟨command_invalid_iff wrong, spoiled_iff wrong⟩
  · intro invocation charset label unlabelled
    exact command_relabelled unlabelled charset label

/-- Whatever else is wrong with it, a command line that clears is as good as any other. The time
takes no label, so one of two characters does no harm there, and it is what is reported of the same
command line for a message. -/
theorem own_inputs_decide_bad_label :
    let one : Invocation := { clear := true, raw := true, label := "AB" }
    let other : Invocation :=
      { clear := true, reset := true, content := .setting .time, label := "", data := ["x", "y"] }
    let clock : Invocation := { content := .setting .time, label := "AB", data := ["14:30"] }
    let message : Invocation := { clock with content := .text }
    one.command .utf8 = other.command .extended ∧
      clock.command .utf8 = ({ clock with label := "A" } : Invocation).command .utf8 ∧
      message.command .utf8 = .error (.label "AB" .label) ∧
      ∃ label command, ({ message with label } : Invocation).command .utf8 = .ok command := by
  intro one other clock message
  obtain ⟨-, -, alike, invalid, relabelled⟩ := own_inputs_decide
  have wrong : Label.parse message.label = .error .label := by decide +kernel
  have labelled : Labelled message := ⟨by decide, .inl rfl⟩
  have unlabelled : ¬ Labelled clock := fun labelled => by simpa [clock] using labelled.filed
  obtain ⟨reported, spoiled⟩ := invalid message .utf8 .label wrong
  refine ⟨alike .clear one other .utf8 .extended (.clear rfl) (.clear rfl) ⟨nofun, nofun, nofun⟩, ?_,
    reported.mpr labelled, (spoiled.mpr labelled).2⟩
  exact (relabelled clock .utf8 "A" unlabelled).symm

end Marquee.Proofs.ActionInputs

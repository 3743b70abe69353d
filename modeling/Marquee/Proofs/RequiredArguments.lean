import Marquee.Proofs.DescriptorGrammar
import Marquee.Proofs.FirstFault
import Marquee.Proofs.SwitchReading

/-! What is left to go wrong with the number of arguments. A command line without data is only
understood if a switch asks for something that needs none, so an action that takes data has some.
All that can happen is that a setting gets more than the one argument it takes. -/

namespace Marquee.Proofs.RequiredArguments
open Arguments Checks FirstFault SwitchReading

/-- What was wrong, whatever was being done. -/
def cause : BuildFault → Fault
  | .raw fault | .label _ fault | .setting _ fault => fault
  | .memory misfit => misfit.fault

/-- Something is wrong with an argument itself, not with how many there are or what they are for. -/
def Own : Fault → Prop
  | .arity _ | .unknownSetting => False
  | _ => True

section Faults
variable {fault : Fault}

theorem Own.counted (own : Own fault) (got : Nat) : fault ≠ .arity got := by
  intro same
  rwa [same] at own

theorem Own.known (own : Own fault) : fault ≠ .unknownSetting := by
  intro same
  rwa [same] at own

theorem own_label {text : String} (wrong : Label.parse text = .error fault) : Own fault := by
  have ofChar {char : Char} (outside : Label.ofChar char = .error fault) : Own fault := by
    unfold Label.ofChar Label.ofByte at outside
    split at outside
    · split at outside <;> cases outside
      trivial
    · cases outside
      trivial
  unfold Label.parse at wrong
  split at wrong
  · exact ofChar wrong
  · cases wrong
    trivial

theorem own_descriptor {descriptor : String}
    (misfit : Memory.FileSpec.parse descriptor = .error fault) : Own fault := by
  cases DescriptorGrammar.parse_eq_iff.mp misfit <;> trivial

theorem own_setting (setting : Setting) : Own setting.fault := by
  cases setting <;> trivial

end Faults

/-- With some data at hand, an action can only count too many arguments for a setting. -/
theorem arity_or_own {label : String} {data : List String} {action : Action} {fault : BuildFault}
    (filled : data ≠ []) (unbuildable : Unbuildable label data action fault) :
    (∃ setting, action = .encode (.setting setting) ∧ cause fault = .arity data.length ∧
      2 ≤ data.length) ∨ Own (cause fault) := by
  cases unbuildable with
  | raw missing => exact absurd missing filled
  | label _ wrong => exact .inr (own_label wrong)
  | @arity setting uneven =>
    have some := List.length_pos_iff.mpr filled
    exact .inl ⟨setting, rfl, rfl, by omega⟩
  | @shape setting _ _ _ => exact .inr (own_setting setting)
  | descriptor _ _ misfit => exact .inr (own_descriptor misfit)

/-- The settings go by the same names where they are chosen and where they are encoded. -/
theorem ofName?_name_iff {content : Content} {setting : Setting} :
    Setting.ofName? content.name = some setting ↔ content = .setting setting := by
  constructor
  · intro known
    have named : setting.name = content.name := by
      simpa using List.find?_some known
    cases content with
    | setting other => cases setting <;> cases other <;> first | rfl | exact absurd named (by decide)
    | text | string | memory => cases setting <;> exact absurd named (by decide)
  · intro same
    subst same
    cases setting <;> rfl

section Accepted
variable {words : List String} {invocation : Invocation}

theorem data_ne_nil (accepted : Invocation.parse words = .ok invocation)
    (needs : invocation.needsData) : invocation.data ≠ [] := by
  obtain ⟨reading, -, finished⟩ := bind_eq_ok_iff.mp accepted
  obtain ⟨-, -, -, filled⟩ := finish_eq_ok_iff.mp finished
  exact filled needs

theorem needsData_iff :
    invocation.needsData ↔
      invocation.action = .raw ∨ ∃ content, invocation.action = .encode content := by
  unfold Invocation.needsData Invocation.action
  cases invocation.clear <;> cases invocation.runSequence <;> cases invocation.reset <;>
    cases invocation.raw <;> simp

/-- Nothing can go wrong with an action that takes no data. -/
theorem data_filled {charset : Message.Charset} {fault : BuildFault}
    (accepted : Invocation.parse words = .ok invocation)
    (failed : invocation.command charset = .error fault) : invocation.data ≠ [] := by
  apply data_ne_nil accepted
  rw [needsData_iff]
  have unbuildable := command_eq_error_iff.mp failed
  generalize invocation.action = action at unbuildable ⊢
  cases unbuildable with
  | raw => exact .inl rfl
  | label | arity | shape | descriptor => exact .inr ⟨_, rfl⟩

theorem command_named {setting : Setting} (chosen : invocation.action = .encode (.setting setting))
    (charset : Message.Charset) :
    invocation.command charset =
      (Setting.encodeNamed setting.name invocation.data).mapError (.setting setting) := by
  have known : Setting.ofName? setting.name = some setting := by
    change Setting.ofName? (Content.setting setting).name = some setting
    rw [ofName?_name_iff]
  rw [Invocation.command, chosen, Setting.encodeNamed, known]
  rfl

section Counted
variable {charset : Message.Charset} (accepted : Invocation.parse words = .ok invocation)
include accepted

theorem arity_or_own_of_accepted {fault : BuildFault}
    (failed : invocation.command charset = .error fault) :
    (∃ setting, invocation.action = .encode (.setting setting) ∧
      cause fault = .arity invocation.data.length ∧ 2 ≤ invocation.data.length) ∨ Own (cause fault) :=
  arity_or_own (data_filled accepted failed) (command_eq_error_iff.mp failed)

theorem filled_and_known {fault : BuildFault} (failed : invocation.command charset = .error fault) :
    cause fault ≠ .arity 0 ∧ cause fault ≠ .unknownSetting := by
  obtain ⟨setting, -, counted, many⟩ | own := arity_or_own_of_accepted accepted failed
  · rw [counted]
    refine ⟨?_, nofun⟩
    intro same
    rw [Fault.arity.inj same] at many
    omega
  · exact ⟨own.counted 0, own.known⟩

theorem arity_iff {got : Nat} :
    (∃ fault, invocation.command charset = .error fault ∧ cause fault = .arity got) ↔
      (∃ setting, invocation.action = .encode (.setting setting)) ∧
        invocation.data.length = got ∧ 2 ≤ got := by
  constructor
  · intro ⟨fault, failed, counted⟩
    obtain ⟨setting, chosen, same, many⟩ | own := arity_or_own_of_accepted accepted failed
    · cases same.symm.trans counted
      exact ⟨⟨setting, chosen⟩, rfl, many⟩
    · exact absurd counted (own.counted got)
  · intro ⟨⟨setting, chosen⟩, same, many⟩
    subst same
    refine ⟨.setting setting (.arity invocation.data.length), ?_, rfl⟩
    rw [Invocation.command, chosen, command_eq_error_iff]
    apply Unbuildable.arity
    omega

end Counted
end Accepted

/-- Switches can stand anywhere in front of two dashes. Unless one of those that need no data is
among them, a command line that is understood has data. So nothing is ever short of arguments and no
setting is unknown to its encoder, and only a setting can be given too many. -/
theorem arguments_required {words : List String} {invocation : Invocation}
    (accepted : Invocation.parse words = .ok invocation) :
    (∀ switch, isSet invocation switch ↔ spelled switch ∈ words.takeWhile (· != "--")) ∧
    ((invocation.action = .raw ∨ ∃ content, invocation.action = .encode content) →
      invocation.data ≠ []) ∧
    (∀ (content : Content) (setting : Setting),
      Setting.ofName? content.name = some setting ↔ content = .setting setting) ∧
    ∀ charset,
      (∀ setting, invocation.action = .encode (.setting setting) →
        invocation.command charset =
          (Setting.encodeNamed setting.name invocation.data).mapError (.setting setting)) ∧
      (∀ fault, invocation.command charset = .error fault →
        cause fault ≠ .arity 0 ∧ cause fault ≠ .unknownSetting) ∧
      ∀ got, (∃ fault, invocation.command charset = .error fault ∧ cause fault = .arity got) ↔
        (∃ setting, invocation.action = .encode (.setting setting)) ∧
          invocation.data.length = got ∧ 2 ≤ got := by
  refine ⟨isSet_iff accepted, ?_, fun _ _ => ofName?_name_iff, ?_⟩
  · intro takes
    apply data_ne_nil accepted
    exact needsData_iff.mpr takes
  · intro charset
    refine ⟨?_, fun _ => filled_and_known accepted, fun _ => arity_iff accepted⟩
    intro setting chosen
    exact command_named chosen charset

/-- The first two dashes do not count as data and what stands behind them does, even a word that
would have been a switch in front of them. -/
theorem arguments_required_two :
    let words := ["14:30", "--mode=settime", "--", "--raw"]
    let invocation : Invocation := { content := .setting .time, data := ["14:30", "--raw"] }
    Invocation.parse words = .ok invocation ∧ invocation.raw = false ∧
      invocation.command .utf8 = .error (.setting .time (.arity 2)) := by
  intro words invocation
  have accepted : Invocation.parse words = .ok invocation := by cbv
  obtain ⟨-, -, -, checked⟩ := arguments_required accepted
  obtain ⟨named, -, -⟩ := checked .utf8
  refine ⟨accepted, rfl, ?_⟩
  rw [named .time rfl]
  cbv

end Marquee.Proofs.RequiredArguments

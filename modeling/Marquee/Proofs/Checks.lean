/-! Checks in a row, of which the first that fails decides. -/

namespace Marquee.Proofs.Checks

variable {ε ε' α β : Type}

theorem mapError_eq_ok_iff {check : Except ε α} {tell : ε → ε'} {value : α} :
    check.mapError tell = .ok value ↔ check = .ok value := by
  cases check with
  | error fault => exact ⟨nofun, nofun⟩
  | ok passed =>
    exact ⟨fun same => congrArg _ (Except.ok.inj same), fun same => congrArg _ (Except.ok.inj same)⟩

theorem mapError_eq_error_iff {check : Except ε α} {tell : ε → ε'} {fault : ε'} :
    check.mapError tell = .error fault ↔ ∃ cause, check = .error cause ∧ tell cause = fault := by
  cases check with
  | error cause =>
    exact ⟨fun same => ⟨cause, rfl, Except.error.inj same⟩, fun ⟨_, rfl, same⟩ => congrArg _ same⟩
  | ok passed => exact ⟨nofun, nofun⟩

theorem mapError_error {check : Except ε α} {tell : ε → ε'} {cause : ε}
    (failed : check = .error cause) : check.mapError tell = .error (tell cause) :=
  mapError_eq_error_iff.mpr ⟨cause, failed, rfl⟩

theorem bind_eq_ok_iff {check : Except ε α} {next : α → Except ε β} {value : β} :
    check >>= next = .ok value ↔ ∃ passed, check = .ok passed ∧ next passed = .ok value := by
  cases check with
  | error fault => exact ⟨nofun, nofun⟩
  | ok passed => exact ⟨fun rest => ⟨passed, rfl, rest⟩, fun ⟨_, rfl, rest⟩ => rest⟩

theorem bind_eq_error_iff {check : Except ε α} {next : α → Except ε β} {fault : ε} :
    check >>= next = .error fault ↔
      check = .error fault ∨ ∃ passed, check = .ok passed ∧ next passed = .error fault := by
  cases check with
  | error cause =>
    exact ⟨fun same => .inl (congrArg _ (Except.error.inj same)), fun
      | .inl same => congrArg _ (Except.error.inj same)⟩
  | ok passed => exact ⟨fun rest => .inr ⟨passed, rfl, rest⟩, fun | .inr ⟨_, rfl, rest⟩ => rest⟩

theorem map_eq_ok_iff {check : Except ε α} {change : α → β} {value : β} :
    check.map change = .ok value ↔ ∃ passed, check = .ok passed ∧ change passed = value := by
  cases check with
  | error fault => exact ⟨nofun, nofun⟩
  | ok passed =>
    exact ⟨fun same => ⟨passed, rfl, Except.ok.inj same⟩, fun ⟨_, rfl, same⟩ => congrArg _ same⟩

theorem map_eq_error_iff {check : Except ε α} {change : α → β} {fault : ε} :
    check.map change = .error fault ↔ check = .error fault := by
  cases check with
  | error cause =>
    exact ⟨fun same => congrArg _ (Except.error.inj same),
      fun same => congrArg _ (Except.error.inj same)⟩
  | ok passed => exact ⟨nofun, nofun⟩

end Marquee.Proofs.Checks
